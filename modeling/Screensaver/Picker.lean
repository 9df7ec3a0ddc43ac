import Screensaver.Geometry
import Screensaver.Color
import Screensaver.Random

/-!
The picker draws what one paint needs: colours of the palette, a position in a rectangle, and a
glyph of a range of character codes.

The range lies within the printable characters: bounds that do not are replaced by all of them.
-/

namespace Screensaver

/-- The first printable character code, a space. -/
def minPrintable : Int32 := 32

/-- The last printable character code, a tilde. -/
def maxPrintable : Int32 := 126

/-- A random source with the range of character codes to draw glyphs from. -/
structure Picker where
  source : Random.Source
  glyphMin : Int32
  glyphMax : Int32

namespace Picker

/-- The range used for requested bounds: the bounds themselves if they are in order and printable,
and all printable characters otherwise. -/
def glyphRange (lo hi : Int32) : Int32 × Int32 :=
  if hi < lo ∨ lo < minPrintable ∨ maxPrintable < hi then (minPrintable, maxPrintable) else (lo, hi)

/-- The picker of a seed and requested glyph bounds. -/
def new (seed : Int64) (lo hi : Int32) : Picker :=
  let range := glyphRange lo hi
  { source := .ofSeed seed, glyphMin := range.1, glyphMax := range.2 }

/-- Draws a number from zero to below a bound. -/
def draw (n : Int64) : EStateM Fault Picker Int64 := fun p =>
  match Random.Source.below n p.source with
  | .ok v s => .ok v { p with source := s }
  | .error e s => .error e { p with source := s }

/-- Draws a colour of the palette. -/
def color : EStateM Fault Picker Color := do
  match Color.ofPalette (← draw 16) with
  | .ok c => return c
  | .error e => throw e

/-- Draws a column and a row of a rectangle, the column first. -/
def position (area : Rect) : EStateM Fault Picker (Int64 × Int64) := do
  let col ← draw area.w
  let row ← draw area.h
  return (area.x + col, area.y + row)

/-- Draws a character code of the picker's range. -/
def glyph : EStateM Fault Picker Int32 := fun p =>
  match draw ((p.glyphMax - p.glyphMin).toInt64 + 1) p with
  | .ok v q => .ok (q.glyphMin + v.toInt32) q
  | .error e q => .error e q

end Picker

end Screensaver

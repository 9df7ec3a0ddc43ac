import Screensaver.Fault

/-!
Colours of a text terminal.

A colour is a byte. Zero stands for whatever the terminal uses by default, the sixteen that follow
are the palette that random colours are drawn from, and the rest have no meaning and no name.
-/

namespace Screensaver

/-- A terminal colour. -/
structure Color where
  code : UInt8
deriving DecidableEq

namespace Color

/-- The terminal's own colour; it is never drawn at random. -/
def default : Color := ⟨0⟩

def black : Color := ⟨1⟩
def darkBlue : Color := ⟨2⟩
def darkGreen : Color := ⟨3⟩
def darkCyan : Color := ⟨4⟩
def darkRed : Color := ⟨5⟩
def darkMagenta : Color := ⟨6⟩
def darkYellow : Color := ⟨7⟩
def gray : Color := ⟨8⟩
def darkGray : Color := ⟨9⟩
def blue : Color := ⟨10⟩
def green : Color := ⟨11⟩
def cyan : Color := ⟨12⟩
def red : Color := ⟨13⟩
def magenta : Color := ⟨14⟩
def yellow : Color := ⟨15⟩
def white : Color := ⟨16⟩

/-- The colours that are drawn at random, in order. -/
def palette : List Color :=
  [black, darkBlue, darkGreen, darkCyan, darkRed, darkMagenta, darkYellow, gray,
    darkGray, blue, green, cyan, red, magenta, yellow, white]

/-- The names of the default colour and of the palette, in the order of their codes. -/
def names : List String :=
  ["Default", "Black", "DarkBlue", "DarkGreen", "DarkCyan", "DarkRed", "DarkMagenta",
    "DarkYellow", "Gray", "DarkGray", "Blue", "Green", "Cyan", "Red", "Magenta", "Yellow", "White"]

/-- The name of a colour. -/
def name (c : Color) : String :=
  (names[c.code.toNat]?).getD "Unknown"

/-- Whether the colour has a meaning: the default colour or one of the palette. -/
def isKnown (c : Color) : Bool :=
  c.code ≤ white.code

/-- Whether the colour can be drawn at random. -/
def inPalette (c : Color) : Bool :=
  black.code ≤ c.code && c.code ≤ white.code

/-- The index of the colour among the terminal's sixteen: the dark ones first, and in either half
red is 1, green 2 and blue 4. The default colour and unknown ones have none. -/
def ansi? (c : Color) : Option (Fin 16) :=
  if c = black then some 0
  else if c = darkRed then some 1
  else if c = darkGreen then some 2
  else if c = darkYellow then some 3
  else if c = darkBlue then some 4
  else if c = darkMagenta then some 5
  else if c = darkCyan then some 6
  else if c = gray then some 7
  else if c = darkGray then some 8
  else if c = red then some 9
  else if c = green then some 10
  else if c = yellow then some 11
  else if c = blue then some 12
  else if c = magenta then some 13
  else if c = cyan then some 14
  else if c = white then some 15
  else none

/-- The palette's colour at an index, counted from zero. -/
def ofPalette (i : Int64) : Except Fault Color :=
  if i < 0 then .error (.outsidePalette i)
  else match palette[i.toNatClampNeg]? with
    | some c => .ok c
    | none => .error (.outsidePalette i)

/-- A copy of the palette in which the colour at an index is another one. -/
def paletteWith (i : Int64) (c : Color) : Except Fault (List Color) :=
  (ofPalette i).map fun _ => palette.set i.toNatClampNeg c

end Color

/-- The two colours of shown text, each one of the sixteen or the display's own. -/
structure Style where
  fg : Option (Fin 16)
  bg : Option (Fin 16)
deriving DecidableEq

end Screensaver

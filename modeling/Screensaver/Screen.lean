import Screensaver.Geometry
import Screensaver.Color

/-!
The screen: a grid of cells.

A screen always has exactly `height` rows of exactly `width` cells, by its type. It answers for
every pair of coordinates: outside the grid it shows blanks, and writing there does nothing.
Resizing keeps what lies inside both the old and the new size and shows blanks elsewhere.
-/

namespace Screensaver

/-- One character position: a character code and its two colours. Any 32-bit code can be stored,
also one that is no character. -/
structure Cell where
  glyph : Int32
  fg : Color
  bg : Color
deriving DecidableEq

/-- A space in default colours. -/
def Cell.blank : Cell :=
  ⟨32, .default, .default⟩

/-- A grid of cells, row by row. -/
structure Screen where
  width : Nat
  height : Nat
  rows : Vector (Vector Cell width) height

namespace Screen

/-- A screen of one and the same cell everywhere. -/
def uniform (width height : Nat) (c : Cell) : Screen :=
  ⟨width, height, .ofFn fun _ => .replicate width c⟩

/-- A screen that nothing has been put on: cells without a character. -/
def allocated (width height : Nat) : Screen :=
  uniform width height ⟨0, .default, .default⟩

/-- The cell in column `x` of row `y`, if there is one. -/
def at? (s : Screen) (x y : Nat) : Option Cell :=
  s.rows[y]?.bind fun row => row[x]?

/-- The cell at a position; a blank outside the screen. -/
def get (s : Screen) (x y : Int64) : Cell :=
  if 0 ≤ x ∧ 0 ≤ y then (s.at? x.toNatClampNeg y.toNatClampNeg).getD .blank else .blank

/-- Replaces the cell in column `x` of row `y`, if there is one. -/
def put (s : Screen) (x y : Nat) (c : Cell) : Screen :=
  if h : y < s.height then
    { s with rows := s.rows.set y (s.rows[y].setIfInBounds x c) }
  else s

/-- Replaces the cell at a position; outside the screen nothing happens. -/
def set (s : Screen) (x y : Int64) (c : Cell) : Screen :=
  if 0 ≤ x ∧ 0 ≤ y then s.put x.toNatClampNeg y.toNatClampNeg c else s

/-- The same cell everywhere. -/
def fill (s : Screen) (c : Cell) : Screen :=
  uniform s.width s.height c

/-- Blanks everywhere. -/
def clear (s : Screen) : Screen :=
  s.fill .blank

/-- A blank screen of the requested size. -/
def new (width height : Int64) : Screen :=
  (allocated (extent width) (extent height)).clear

/-- The first `n` entries, from the first one on, each combined with its counterpart. -/
def mixed {α β : Type} {k k' : Nat} (mix : α → β → α) (old : Vector α k) (source : Vector β k') :
    (n : Nat) → n ≤ k → n ≤ k' → Vector α k
  | 0, _, _ => old
  | n + 1, h, h' =>
    let done := mixed mix old source n (Nat.le_of_succ_le h) (Nat.le_of_succ_le h')
    done.set n (mix done[n] source[n])

/-- A row with the cells of another one copied over its own, as far as both go. -/
def copyRow {w w' : Nat} (row : Vector Cell w) (source : Vector Cell w') : Vector Cell w :=
  mixed (fun _ c => c) row source (min w' w) (Nat.min_le_right _ _) (Nat.min_le_left _ _)

/-- A screen with the rows of another one copied over its own, as far as both go. -/
def copyRows (t s : Screen) : Screen :=
  { t with
    rows := mixed copyRow t.rows s.rows (min s.height t.height) (Nat.min_le_right _ _)
      (Nat.min_le_left _ _) }

/-- Changes the size, if it is another one: the cells are allocated anew and cleared, and the old ones
copied as far as both sizes go. -/
def resize (s : Screen) (width height : Int64) : Screen :=
  let w := extent width
  let h := extent height
  if w = s.width ∧ h = s.height then s else (allocated w h).clear.copyRows s

end Screen

end Screensaver

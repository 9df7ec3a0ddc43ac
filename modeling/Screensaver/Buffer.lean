import Screensaver.Screen
import Screensaver.Terminal

/-!
A terminal that paints into a screen kept in memory.

Writing stores the character at the cursor in the current colours and moves the cursor on: at the
right edge to the first column of the next row, and in the last row to the first column of that
row again. Key presses are counted and never consumed.
-/

namespace Screensaver

/-- A screen with current colours, a cursor, a number of pending key presses and a title. -/
structure Buffer where
  screen : Screen
  fg : Color
  bg : Color
  col : Int64
  row : Int64
  /-- The number of key presses, which stays below `2^63`: a counter of 64 bits never gets there one
  by one, so none is kept here that could wrap around. -/
  pending : Nat
  title : String

namespace Buffer

/-- A blank buffer of the requested size in default colours. -/
def new (width height : Int64) : Buffer :=
  { screen := .new width height, fg := .default, bg := .default, col := 0, row := 0,
    pending := 0, title := "" }

/-- The whole screen. -/
def viewport (b : Buffer) : Rect :=
  ⟨0, 0, .ofNat b.screen.width, .ofNat b.screen.height⟩

/-- Changes the size and moves the cursor inside. The last column is computed from the requested
width, before negative requests are taken as zero, and the last row likewise. -/
def resize (b : Buffer) (width height : Int64) : Buffer :=
  { b with
    screen := b.screen.resize width height
    col := clamp b.col 0 (max (width - 1) 0)
    row := clamp b.row 0 (max (height - 1) 0) }

/-- Moves the cursor one cell on. -/
def advance (b : Buffer) : Buffer :=
  let col := b.col + 1
  if (b.screen.width : Int) ≤ col.toInt then
    { b with col := 0, row := if b.row.toInt < (b.screen.height : Int) - 1 then b.row + 1 else b.row }
  else
    { b with col }

/-- Stores a character at the cursor in the current colours and moves the cursor on. -/
def write (b : Buffer) (glyph : Int32) : Buffer :=
  { b with screen := b.screen.set b.col b.row ⟨glyph, b.fg, b.bg⟩ }.advance

/-- Spaces in the current colours everywhere, the cursor at the top left. -/
def clear (b : Buffer) : Buffer :=
  { b with screen := b.screen.fill ⟨32, b.fg, b.bg⟩, col := 0, row := 0 }

/-- One more key press is pending. -/
def pressKey (b : Buffer) : Buffer :=
  { b with pending := b.pending + 1 }

/-- Whether a key press is pending. -/
def keyPending (b : Buffer) : Bool :=
  0 < b.pending

instance : Terminal Buffer where
  foreground := Buffer.fg
  background := Buffer.bg
  viewport := Buffer.viewport
  setForeground c b := { b with fg := c }
  setBackground c b := { b with bg := c }
  setCursor col row b := { b with col, row }
  write glyph b := .ok () (b.write glyph)
  clear := Buffer.clear
  keyPending b := (b.keyPending, b)
  retitle title b := { b with title }

end Buffer

end Screensaver

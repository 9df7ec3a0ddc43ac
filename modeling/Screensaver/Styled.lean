import Screensaver.Screen
import Screensaver.Text.Width

/-!
Text with colours, as a terminal understands it.

A pen writes a text in a style. Every line of it is put between an escape sequence that sets the
colours and one that resets them, tabs become four spaces, and if there is more than one line the
shorter ones are filled up with blanks in the background colour. A style without colours needs no escape
sequence. A terminal without colours gets the same text without escape sequences.

A screen is written row by row, and each row as a sequence of swatches: the longest stretches of
cells that have the same two colours. What writes a screen takes any pen.
-/

namespace Screensaver

/-- Whether a terminal shows colours. -/
inductive Profile where
  | plain
  | colored
deriving DecidableEq

namespace Styled

/-- The parameter that selects a foreground. -/
def fgCode (i : Fin 16) : Nat :=
  if i.val < 8 then 30 + i.val else 90 + (i.val - 8)

/-- The parameter that selects a background. -/
def bgCode (i : Fin 16) : Nat :=
  if i.val < 8 then 40 + i.val else 100 + (i.val - 8)

/-- The parameters that select a style; a colour that is the display's own needs none. -/
def codes (s : Style) : List Nat :=
  (s.fg.map fgCode).toList ++ (s.bg.map bgCode).toList

/-- A text between the escape sequences that set and reset its colours. -/
def wrap (profile : Profile) (codes : List Nat) (text : String) : String :=
  match profile, codes with
  | .plain, _ => text
  | .colored, [] => text
  | .colored, codes =>
    "\x1b[" ++ String.intercalate ";" (codes.map toString) ++ "m" ++ text ++ "\x1b[0m"

/-- Tabs become four spaces. -/
def untab (text : String) : String :=
  .ofList (text.toList.flatMap fun c => if c = '\t' then [' ', ' ', ' ', ' '] else [c])

/-- A carriage return right before a newline is left out. -/
def unifyNewlines : List Char → List Char
  | '\r' :: '\n' :: rest => '\n' :: unifyNewlines rest
  | c :: rest => c :: unifyNewlines rest
  | [] => []

/-- Fills up the lines that are narrower than the widest. -/
def justify (filler : String → String) (lines : List String) : List String :=
  let widest := (lines.map Text.width).foldl max 0
  lines.map fun line =>
    let missing := widest - Text.width line
    if missing = 0 then line else line ++ filler ("".pushn ' ' missing)

/-- A text without tabs, line by line in the given style, with lines of equal width if there is more
than one. -/
def block (profile : Profile) (style filler : List Nat) (text : String) : String :=
  let lines := ((unifyNewlines text.toList).splitOn '\n').map fun line =>
    wrap profile style (.ofList line)
  match lines with
  | [line] => line
  | lines => String.intercalate "\n" (justify (wrap profile filler) lines)

/-- The pen of a terminal. Without colours it only replaces the tabs of a text. -/
def pen (profile : Profile) (style : Style) (text : String) : String :=
  match codes style with
  | [] => untab text
  | colors => block profile colors (codes ⟨none, style.bg⟩) (untab text)

/-- A character code as a character; what is no character is shown as a replacement character. -/
def charOf (glyph : Int32) : Char :=
  if 0 ≤ glyph ∧ glyph.toNatClampNeg.isValidChar then Char.ofNat glyph.toNatClampNeg
  else Char.ofNat 0xFFFD

/-- The text of a stretch of cells. -/
def textOf (cells : List Cell) : String :=
  .ofList (cells.map fun c => charOf c.glyph)

/-- Whether two cells have the same colours. -/
def sameColors (a b : Cell) : Bool :=
  a.fg = b.fg && a.bg = b.bg

/-- The longest stretches of neighbouring cells that have the same colours. -/
def runs (row : List Cell) : List (List Cell) :=
  row.splitBy sameColors

section
variable (pen : Style → String → String)

/-- A text in two colours. Colours without a meaning leave the text as it is. -/
def swatch (text : String) (fg bg : Color) : String :=
  if !fg.isKnown || !bg.isKnown then text else pen ⟨fg.ansi?, bg.ansi?⟩ text

/-- A stretch of cells as a swatch in the colours of its first cell. -/
def renderRun (run : List Cell) : String :=
  match run with
  | [] => ""
  | c :: _ => swatch pen (textOf run) c.fg c.bg

/-- A row of cells. -/
def renderRow (row : List Cell) : String :=
  String.join ((runs row).map (renderRun pen))

/-- A whole screen, row by row. -/
def renderScreen (s : Screen) : String :=
  String.intercalate "\n" (s.rows.toList.map fun row => renderRow pen row.toList)

end

end Styled

end Screensaver

import Screensaver.Registry
import Screensaver.Styled

/-!
Tables shown to the user: the backends with their descriptions, and the palette with a sample of
every colour.

Columns are separated by two spaces, and rows indented by two. The column of names is as wide as the
longest name has bytes, and a name is filled up to that number of characters, for which there is a
limit.
-/

namespace Screensaver.Tables

/-- The greatest number of characters that a text can be filled up to. -/
def widthLimit : Nat := 1000000

/-- A text filled up with spaces to a number of characters. Beyond the limit it is left as it is, with
a complaint in front. -/
def padded (width : Nat) (t : ByteText) : ByteText :=
  if width ≤ widthLimit then t ++ .ofString ("".pushn ' ' (width - t.length))
  else .ofString "%!(BADWIDTH)" ++ t

/-- The width of a column of names under the heading `Name`. -/
def nameWidth (names : List ByteText) : Nat :=
  (names.map fun name => name.bytes.length).foldl max 4

/-- A row: texts with two spaces in front of each. -/
def row (columns : List ByteText) : ByteText :=
  .join (columns.map fun column => .ofString "  " ++ column) ++ .ofString "\n"

/-! ### Backends -/

/-- A row with a name and a description. -/
def backendRow (width : Nat) (entry : ByteText × ByteText) : ByteText :=
  row [padded width entry.1, entry.2]

/-- The headings of the table, which are rows of their own. -/
def backendHeadings : List (ByteText × ByteText) :=
  [(.ofString "Name", .ofString "Description"), (.ofString "----", .ofString "-----------")]

/-- The rows of the table: two for the heading, and one for each backend. -/
def backendRows (list : List (ByteText × ByteText)) : List ByteText :=
  let width := nameWidth (list.map Prod.fst)
  (backendHeadings ++ list).map (backendRow width)

/-- The table of backends. -/
def backends {ρ : Type} (r : Registry ρ) : ByteText :=
  match r.list with
  | [] => .ofString "No backends available.\n"
  | list =>
    .ofString "Available backends:\n\n" ++ .join (backendRows list) ++
      .ofString "\nRun 'randscreen --backend <name>' to use one.\n"

/-! ### Palette -/

/-- A row with a terminal's number for a colour, its name and a sample. -/
def paletteRow (width : Nat) (number name sample : String) : ByteText :=
  row [padded 4 (.ofString number), padded width (.ofString name), .ofString sample]

/-- The table of colours. -/
def palette (profile : Profile) : ByteText :=
  let width := nameWidth (Color.palette.map fun c => .ofString c.name)
  paletteRow width "ANSI" "Name" "Swatch" ++ paletteRow width "----" "----" "------" ++
    .join (Color.palette.map fun c =>
      paletteRow width ((c.ansi?.map fun i => toString i.val).getD "-1") c.name
        (Styled.swatch (Styled.pen profile) "      " .default c))

end Screensaver.Tables

import Screensaver.Console
import Screensaver.Styled

/-!
What a display is told, as escape sequences for a terminal that understands the usual ones.
-/

namespace Screensaver

namespace Style

/-- The parameters that select a style, after a reset. -/
def parameters (s : Style) : List Nat :=
  0 :: Styled.codes s

/-- The sequence that selects a style. -/
def sequence (s : Style) : String :=
  "\x1b[" ++ ";".intercalate (s.parameters.map toString) ++ "m"

end Style

/-- The sequence that moves the cursor; rows and columns are counted from zero. -/
def cursorSequence (x y : Int64) : String :=
  "\x1b[" ++ toString (y.toInt + 1) ++ ";" ++ toString (x.toInt + 1) ++ "H"

/-- The sequence for a call. What becomes visible anyway needs none. -/
def DisplayCall.sequence : DisplayCall → String
  | .style s => s.sequence
  | .hideCursor => "\x1b[?25l"
  | .set x y glyph s => cursorSequence x y ++ s.sequence ++ String.singleton (Styled.charOf glyph)
  | .present | .sync => ""
  | .clear => "\x1b[2J\x1b[H"
  | .title text => "\x1b]0;" ++ text ++ "\x07"
  | .finish => "\x1b[0m\x1b[2J\x1b[H\x1b[?25h"

/-- The sequences for a number of calls. -/
def DisplayCall.sequences (calls : List DisplayCall) : String :=
  String.join (calls.map DisplayCall.sequence)

end Screensaver

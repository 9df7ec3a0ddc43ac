import Screensaver.Geometry
import Screensaver.Color

/-!
What the saver needs of a terminal.

A terminal is a type of states with the operations below. Writing a character can fail; all other
operations cannot. Looking for a key press may change the state, because a terminal may have to
take events from a queue to find out.
-/

namespace Screensaver

/-- A terminal with states in `τ`. -/
class Terminal (τ : Type) where
  /-- The colour of characters written next. -/
  foreground : τ → Color
  /-- The background of characters written next, and of the cleared screen. -/
  background : τ → Color
  /-- The area that can be written to. -/
  viewport : τ → Rect
  setForeground : Color → τ → τ
  setBackground : Color → τ → τ
  /-- Moves the cursor to a column and a row. -/
  setCursor : Int64 → Int64 → τ → τ
  /-- Writes a character at the cursor in the current colours and moves the cursor on. -/
  write : Int32 → EStateM Fault τ Unit
  /-- Blanks the screen in the current colours and moves the cursor to the top left. -/
  clear : τ → τ
  /-- Whether a key was pressed. The key press is not consumed. -/
  keyPending : τ → Bool × τ
  /-- Sets the window title; a terminal without one does nothing. -/
  retitle : String → τ → τ

end Screensaver

import Screensaver.Loop.Run

/-!
A terminal on a display that is only told what to do.

The console keeps colours, style, cursor and the number of key presses itself and passes what is to
be shown on to a display: cells to set, clearing, showing. The display answers one question, its
size. Events arrive in a queue, which is emptied whenever someone asks for key presses: a key press
is counted for good, and a change of size makes the display show everything anew.
-/

namespace Screensaver

/-- What a display is told. -/
inductive DisplayCall where
  /-- The style for clearing. -/
  | style (s : Style)
  /-- No cursor is shown. -/
  | hideCursor
  | set (x y : Int64) (glyph : Int32) (s : Style)
  /-- What was set becomes visible. -/
  | present
  | clear
  /-- Everything is shown anew. -/
  | sync
  | title (text : String)
  /-- The display is given back. -/
  | finish
deriving DecidableEq

/-- An event that waits in the queue. -/
inductive ConsoleEvent where
  | key
  | mouse
  | resize
deriving DecidableEq

/-- A console on a display of `width` by `height`. -/
structure Console where
  width : Int64
  height : Int64
  fg : Color
  bg : Color
  style : Style
  col : Int64
  row : Int64
  /-- The number of key presses taken from the queue, below `2^63`. -/
  keys : Nat
  /-- The events that wait, the next one first. -/
  queue : List ConsoleEvent
  closed : Bool
  /-- What the display was told so far. -/
  calls : Array DisplayCall

namespace Console

/-- Tells the display something. -/
def tell (d : DisplayCall) (c : Console) : Console :=
  { c with calls := c.calls.push d }

/-- A console on a fresh display. -/
def new (width height : Int64) : Console :=
  let style : Style := ⟨none, none⟩
  (({ width, height, fg := .default, bg := .default, style, col := 0, row := 0, keys := 0,
      queue := [], closed := false, calls := #[] } : Console).tell (.style style)).tell .hideCursor

/-- The whole display. -/
def viewport (c : Console) : Rect :=
  ⟨0, 0, c.width, c.height⟩

/-- Moves the cursor one cell on, at the right edge to the next row unless it is the last. -/
def advance (c : Console) : Console :=
  let col := c.col + 1
  if c.width ≤ col then
    { c with col := 0, row := if c.row < c.height - 1 then c.row + 1 else c.row }
  else
    { c with col }

/-- Sets a cell at the cursor, shows it and moves the cursor on. -/
def write (c : Console) (glyph : Int32) : Console :=
  ((c.tell (.set c.col c.row glyph c.style)).tell .present).advance

/-- Clears the display in the current style and moves the cursor to the top left. -/
def clear (c : Console) : Console :=
  { ((c.tell (.style c.style)).tell .clear).tell .present with col := 0, row := 0 }

/-- Takes one event. -/
def take (c : Console) : ConsoleEvent → Console
  | .key => { c with keys := c.keys + 1 }
  | .mouse => c
  | .resize => c.tell .sync

/-- Takes all waiting events and tells whether a key was ever pressed. -/
def keyPending (c : Console) : Bool × Console :=
  let c := { c.queue.foldl take c with queue := [] }
  (0 < c.keys, c)

/-- An event arrives. -/
def post (e : ConsoleEvent) (c : Console) : Console :=
  { c with queue := c.queue ++ [e] }

/-- The display changes its size, and an event says so. -/
def resizeTo (width height : Int64) (c : Console) : Console :=
  { c with width, height }.post .resize

instance : Terminal Console where
  foreground := Console.fg
  background := Console.bg
  viewport := Console.viewport
  setForeground color c := { c with fg := color, style := { c.style with fg := color.ansi? } }
  setBackground color c := { c with bg := color, style := { c.style with bg := color.ansi? } }
  setCursor col row c := { c with col, row }
  write glyph c := .ok () (c.write glyph)
  clear := Console.clear
  keyPending := Console.keyPending
  retitle title c := c.tell (.title title)

/-- Gives the display back, after which it has no size. A console can be closed once. -/
def close : EStateM Fault Console Unit := fun c =>
  if c.closed then .error .closedTwice c
  else .ok () { c.tell .finish with closed := true, width := 0, height := 0 }

/-- Runs a fresh loop on the console, at most so many turns. -/
def runLoop (clock : Int64) (config : RunSettings) (cancelled : Bool) (limit : Nat) (c : Console) :
    Option (EStateM.Result Fault (Loop Console) StopReason) :=
  (Loop.new clock c config).run (.quiet Console cancelled) limit

end Console

end Screensaver

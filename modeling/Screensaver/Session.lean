import Screensaver.Buffer
import Screensaver.Loop
import Screensaver.Styled

/-!
A loop that is driven by messages.

Instead of pausing, a session asks for a tick and goes on when it arrives. Between two ticks keys
may be pressed and the window may change its size. Each tick polls the loop: if the loop stops the
session asks to be ended, otherwise it paints and asks for the next tick.
-/

namespace Screensaver

/-- What reaches a session from outside. -/
inductive Message where
  | tick
  | key
  | resize (width height : Int64)
  /-- Anything else, such as a mouse movement. -/
  | other
deriving DecidableEq

/-- What a session asks for. -/
inductive Request where
  /-- A tick after a time in nanoseconds. -/
  | tick (nanoseconds : Int64)
  | retitle (title : String)
  | quit
deriving DecidableEq

/-- A loop on a buffer, the sign of cancellation, and whether the session has asked to be ended. -/
structure Session where
  loop : Loop Buffer
  cancelled : Bool
  quitting : Bool

namespace Session

/-- A session with an idle loop on a blank buffer. -/
def new (clock : Int64) (config : RunSettings) (width height : Int64) : Session :=
  { loop := .new clock (.new width height) config, cancelled := false, quitting := false }

def buffer (s : Session) : Buffer :=
  s.loop.terminal

/-- Changes the buffer. -/
def onBuffer (f : Buffer → Buffer) (s : Session) : Session :=
  { s with loop := { s.loop with terminal := f s.loop.terminal } }

/-- Paints once. -/
def paint (s : Session) : Session :=
  { s with loop := leftBehind (Loop.paint s.loop) }

/-- Starts the loop, paints the first glyph and asks for a tick, and for the title if there is
one. -/
def init (s : Session) : List Request × Session :=
  let s := { s with loop := s.loop.start }.paint
  let title := s.buffer.title
  (.tick s.loop.interval :: if title = "" then [] else [.retitle title], s)

/-- Handles a message. -/
def update (m : Message) (s : Session) : Option Request × Session :=
  match m with
  | .key => (none, s.onBuffer Buffer.pressKey)
  | .resize w h => (none, s.onBuffer fun b => b.resize w h)
  | .other => (none, s)
  | .tick =>
    match s.loop.poll s.cancelled with
    | (true, loop) =>
      let s := { s with loop }.paint
      (some (.tick s.loop.interval), s)
    | (false, loop) => (some .quit, { s with loop, quitting := true })

/-- What is to be seen: nothing once the session has asked to be ended. -/
def view (pen : Style → String → String) (s : Session) : String :=
  if s.quitting then "" else Styled.renderScreen pen s.buffer.screen

/-- Waits and delivers a tick. Tells whether the session goes on. -/
def tickIn {m : Type → Type} [Monad m] (wait : Session → m Session) (s : Session) :
    m (Bool × Session) := do
  match (← wait s).update .tick with
  | (some .quit, s) => return (false, s)
  | (_, s) => return (true, s)

/-- A tick that is not waited for. -/
def tick (s : Session) : Bool × Session :=
  Id.run (tickIn pure s)

/-- Delivers ticks until the session asks to be ended, at most so many. -/
def ticks : Nat → Session → Option Session
  | 0, _ => none
  | n + 1, s =>
    match s.tick with
    | (true, s) => ticks n s
    | (false, s) => some s

/-- Stops the loop if no tick has done so. -/
def finish (s : Session) : Session :=
  { s with loop := s.loop.stop .aborted }

/-- A whole session: it is started, gets ticks until it asks to be ended, at most so many, and is
finished. -/
def run (limit : Nat) (s : Session) : Option Session :=
  (ticks limit s.init.2).map finish

/-- A session that is ended from outside before any tick arrives. -/
def runKilled (s : Session) : Session :=
  s.init.2.finish

end Session

end Screensaver

import Screensaver.Buffer
import Screensaver.Loop.Run

/-!
A stage: a buffer on which things happen while a loop runs, and which records what is asked of it.

A schedule says what happens during which write and during which pause: key presses, cancellation,
changes of size or of the visible area, faults. Writes and pauses are counted from one over the
whole life of the stage. All calls that change the terminal, and all pauses, are recorded in order;
a call is recorded before anything happens during it.
-/

namespace Screensaver

/-- A call that changes a terminal, or a pause. -/
inductive Call where
  | setForeground (c : Color)
  | setBackground (c : Color)
  | setCursor (col row : Int64)
  | write (glyph : Int32)
  | clear
  | retitle (title : String)
  | pause (nanoseconds : Int64)
deriving DecidableEq

/-- When something happens: before a character is stored, after that, or during a pause. -/
inductive Moment where
  | beforeWrite
  | afterWrite
  | pause
deriving DecidableEq

/-- What happens. -/
inductive Happening where
  | key
  | cancel
  | fault (text : String)
  | resize (width height : Int64)
  /-- From now on this is the visible area. -/
  | uncover (area : Rect)
deriving DecidableEq

/-- The visible area becomes one of the given size at the top left. -/
def Happening.reveal (width height : Int64) : Happening :=
  .uncover ⟨0, 0, width, height⟩

/-- Something that happens during the `nth` write or pause. -/
structure Scheduled where
  moment : Moment
  nth : Int64
  happening : Happening
deriving DecidableEq

/-- What happens, in order, at a moment of the `n`-th write or pause. -/
structure Schedule where
  during : Moment → Nat → List Happening

/-- The schedule of a list, in the order of the list. -/
def Schedule.ofList (l : List Scheduled) : Schedule :=
  ⟨fun m n => (l.filter fun k => k.moment = m ∧ k.nth.toInt = (n : Int)).map Scheduled.happening⟩

instance : Coe (List Scheduled) Schedule := ⟨Schedule.ofList⟩

/-- A buffer with a schedule and a record of calls. -/
structure Stage where
  buffer : Buffer
  /-- The visible area, if it is not the whole buffer. -/
  window : Option Rect
  /-- Whether the terminal has a title. -/
  titled : Bool
  cancelled : Bool
  schedule : Schedule
  /-- The number of writes so far. -/
  writes : Nat
  /-- The number of pauses so far. -/
  pauses : Nat
  calls : Array Call

namespace Stage

/-- A stage on which nothing is scheduled. -/
def ofBuffer (b : Buffer) : Stage :=
  { buffer := b, window := none, titled := true, cancelled := false,
    schedule := .ofList [], writes := 0, pauses := 0, calls := #[] }

/-- Adds a call to the record. -/
def record (c : Call) (s : Stage) : Stage :=
  { s with calls := s.calls.push c }

/-- Lets something happen. -/
def happen : Happening → EStateM Fault Stage Unit
  | .key => modify fun s => { s with buffer := s.buffer.pressKey }
  | .cancel => modify fun s => { s with cancelled := true }
  | .fault text => throw (.raised text)
  | .resize w h => modify fun s => { s with buffer := s.buffer.resize w h }
  | .uncover area => modify fun s => { s with window := some area }

/-- Lets a list of things happen in order, up to the first fault. -/
def happenAll : List Happening → EStateM Fault Stage Unit
  | [] => pure ()
  | h :: rest => do happen h; happenAll rest

/-- Stores a character, with what is scheduled before and after. -/
def write (glyph : Int32) : EStateM Fault Stage Unit := do
  modify fun s => { s.record (.write glyph) with writes := s.writes + 1 }
  let s ← get
  happenAll (s.schedule.during .beforeWrite s.writes)
  modify fun s => { s with buffer := s.buffer.write glyph }
  happenAll (s.schedule.during .afterWrite s.writes)

/-- Lets a time pass, with what is scheduled for it. -/
def pause (nanoseconds : Int64) : EStateM Fault Stage Unit := do
  modify fun s => { s.record (.pause nanoseconds) with pauses := s.pauses + 1 }
  let s ← get
  happenAll (s.schedule.during .pause s.pauses)

instance : Terminal Stage where
  foreground s := s.buffer.fg
  background s := s.buffer.bg
  viewport s := s.window.getD s.buffer.viewport
  setForeground c s :=
    { s.record (.setForeground c) with buffer := Terminal.setForeground c s.buffer }
  setBackground c s :=
    { s.record (.setBackground c) with buffer := Terminal.setBackground c s.buffer }
  setCursor col row s :=
    { s.record (.setCursor col row) with buffer := Terminal.setCursor col row s.buffer }
  write := Stage.write
  clear s := { s.record .clear with buffer := s.buffer.clear }
  keyPending s := (s.buffer.keyPending, s)
  retitle title s :=
    if s.titled then { s.record (.retitle title) with buffer := Terminal.retitle title s.buffer }
    else s

/-- The stage's own pauses and cancellation. -/
def surroundings : Surroundings Stage where
  pause := Stage.pause
  cancelled := Stage.cancelled

/-- The stage's own cancellation, with pauses in which nothing happens and which are not
recorded. -/
def unpaused : Surroundings Stage where
  pause _ s := .ok () s
  cancelled := Stage.cancelled

end Stage

end Screensaver

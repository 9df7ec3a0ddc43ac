import Screensaver.Log
import Screensaver.Picker
import Screensaver.RunSettings
import Screensaver.Terminal

/-!
The loop that paints.

A loop is idle, then running, then stopped, and never goes back. Starting it captures the
terminal's colours. While it runs, each paint writes one random glyph in random colours at a random
place, and each poll looks for a reason to stop: a key press, cancellation, or the number of glyphs
asked for. Stopping puts the captured colours back and clears the screen. Everything asked of a
loop in the wrong phase is ignored.
-/

namespace Screensaver

/-- The phases of a loop. -/
inductive Phase where
  | idle
  | running
  | stopped
deriving DecidableEq

namespace Phase

def name : Phase → String
  | .idle => "Idle"
  | .running => "Running"
  | .stopped => "Stopped"

/-- The phase of a number, counted from zero. -/
def ofCode? (i : Int64) : Option Phase :=
  if i = 0 then some .idle
  else if i = 1 then some .running
  else if i = 2 then some .stopped
  else none

/-- The name that belongs to a number. -/
def nameOfCode (i : Int64) : String :=
  ((ofCode? i).map name).getD "Unknown"

end Phase

/-- Why a loop stopped. -/
inductive StopReason where
  /-- It has not stopped. -/
  | none
  /-- A key was pressed. -/
  | key
  /-- The run was cancelled. -/
  | cancelled
  /-- The number of glyphs asked for was reached. -/
  | count
  /-- The run ended without a reason of its own, by a fault for instance. -/
  | aborted
  /-- A reason that has no name. -/
  | other (code : Int64)
deriving DecidableEq

namespace StopReason

def name : StopReason → String
  | .none => "none"
  | .key => "key"
  | .cancelled => "cancelled"
  | .count => "count"
  | .aborted => "aborted"
  | .other _ => "unknown"

/-- The reason of a number, counted from zero. -/
def ofCode (i : Int64) : StopReason :=
  if i = 0 then .none
  else if i = 1 then .key
  else if i = 2 then .cancelled
  else if i = 3 then .count
  else if i = 4 then .aborted
  else .other i

end StopReason

/-- A loop on a terminal with states in `τ`. -/
structure Loop (τ : Type) where
  terminal : τ
  picker : Picker
  config : RunSettings
  phase : Phase
  reason : StopReason
  /-- The foreground captured by starting. -/
  savedFg : Color
  /-- The background captured by starting. -/
  savedBg : Color
  /-- The number of glyphs written. It stays below `2^63`, like all counts that go up one by one; what a
  counter of 64 bits does beyond that is left out. -/
  painted : Nat
  /-- What the loop has reported so far. -/
  journal : Array Log.Entry

namespace Loop

variable {τ : Type}

/-- The settings as the loop takes them: a seed of zero becomes the clock's, and a pause that is
not positive becomes the default one. -/
def effective (clock : Int64) (config : RunSettings) : RunSettings :=
  { config with
    seed := if config.seed = 0 then clock else config.seed
    interval := if config.interval ≤ 0 then defaultInterval else config.interval }

/-- An idle loop on a terminal. `clock` is the seed used when none is configured. -/
def new (clock : Int64) (terminal : τ) (config : RunSettings) : Loop τ :=
  let config := effective clock config
  { terminal, config
    picker := .new config.seed config.glyphMin config.glyphMax
    phase := .idle, reason := .none, savedFg := .default, savedBg := .default
    painted := 0, journal := #[] }

/-- The pause between two paints. -/
def interval (l : Loop τ) : Int64 :=
  l.config.interval

/-- Reports something at the lowest level. -/
def report (l : Loop τ) (message : String) (fields : List (String × String)) : Loop τ :=
  { l with journal := l.journal.push { level := .debug, message, fields } }

variable [Terminal τ]

/-- Captures the colours, sets the title if there is one, and enters the running phase. Only an
idle loop can be started. -/
def start (l : Loop τ) : Loop τ :=
  if l.phase = .idle then
    let fg := Terminal.foreground l.terminal
    let bg := Terminal.background l.terminal
    let terminal :=
      if l.config.title = "" then l.terminal else Terminal.retitle l.config.title l.terminal
    { l with terminal, savedFg := fg, savedBg := bg, phase := .running }.report
      "render loop started"
      [("saved_fg", fg.name), ("saved_bg", bg.name), ("seed", toString l.config.seed.toInt)]
  else l

/-- Puts the captured colours back and clears the screen. Only a running loop can be stopped, so
only the first stop after a start counts. -/
def stop (reason : StopReason) (l : Loop τ) : Loop τ :=
  if l.phase = .running then
    let terminal := Terminal.clear
      (Terminal.setBackground l.savedBg (Terminal.setForeground l.savedFg l.terminal))
    { l with terminal, phase := .stopped, reason }.report
      "render loop stopped" [("reason", reason.name), ("painted", toString l.painted)]
  else l

/-- Draws from the loop's picker. -/
def pick {α : Type} (draw : EStateM Fault Picker α) : EStateM Fault (Loop τ) α := fun l =>
  match draw l.picker with
  | .ok v p => .ok v { l with picker := p }
  | .error e p => .error e { l with picker := p }

/-- Writes a character on the loop's terminal. -/
def write (glyph : Int32) : EStateM Fault (Loop τ) Unit := fun l =>
  match Terminal.write glyph l.terminal with
  | .ok v t => .ok v { l with terminal := t }
  | .error e t => .error e { l with terminal := t }

/-- Moves the terminal to where and how the next glyph is to appear. -/
def aim (fg bg : Color) (col row : Int64) (l : Loop τ) : Loop τ :=
  { l with
    terminal := Terminal.setCursor col row
      (Terminal.setBackground bg (Terminal.setForeground fg l.terminal)) }

/-- Writes one random glyph in random colours at a random place of the viewport, and tells whether
it did. Outside the running phase nothing happens, and in an empty viewport only the colours are
drawn. -/
def paint : EStateM Fault (Loop τ) Bool := do
  if (← get).phase ≠ .running then return false
  let fg ← pick Picker.color
  let bg ← pick Picker.color
  let area := Terminal.viewport (← get).terminal
  if area.isEmpty then return false
  let (col, row) ← pick (Picker.position area)
  modify (aim fg bg col row)
  let glyph ← pick Picker.glyph
  write glyph
  modify fun l => { l with painted := l.painted + 1 }
  return true

/-- The reason to stop that holds now, if any: a pending key press before cancellation, and
cancellation before the number of glyphs. -/
def due (key cancelled : Bool) (l : Loop τ) : Option StopReason :=
  if key then some .key
  else if cancelled then some .cancelled
  else if 0 < l.config.count ∧ l.config.count.toInt ≤ (l.painted : Int) then some .count
  else none

/-- Looks for a reason to stop, stops if there is one, and tells whether the loop still runs. -/
def poll (cancelled : Bool) (l : Loop τ) : Bool × Loop τ :=
  if l.phase = .running then
    let (key, terminal) := Terminal.keyPending l.terminal
    let l := { l with terminal }
    match l.due key cancelled with
    | some reason => (false, l.stop reason)
    | none => (true, l)
  else (false, l)

end Loop

end Screensaver

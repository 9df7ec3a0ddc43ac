import Screensaver.Console
import Screensaver.Saver
import Screensaver.Session

/-!
The backends that come with the screensaver.

`console` paints on the terminal cell by cell and needs a terminal of a kind it knows; `tui` draws
whole screens in a session and needs a terminal to read keys from. Each runs a fresh loop to its end.
-/

namespace Screensaver.Backends

/-- What the program is connected to. -/
inductive Device where
  | none
  /-- A terminal whose kind is unknown, of a given size. -/
  | unknownKind (width height : Int64)
  | terminal (width height : Int64)
deriving DecidableEq

/-- The outcome of a run that could not start. -/
def refused (e : RunError) : RunOutcome :=
  ⟨[], .error e⟩

/-- What is said of a run that was not seen to end. -/
def unfinished : RunOutcome :=
  refused (.failed "run did not end")

/-- The outcome of a run that has left this loop behind. -/
def finished {τ : Type} (l : Loop τ) : RunOutcome :=
  ⟨l.journal.toList, .ok ⟨l.reason, .ofNat l.painted⟩⟩

/-- The outcome of a run of a loop. -/
def outcomeOf {τ : Type} : EStateM.Result Fault (Loop τ) StopReason → RunOutcome
  | .ok _ l => finished l
  | .error e l => ⟨l.journal.toList, .error (.failed e.message)⟩

/-- Runs a loop on a console, at most so many turns. -/
def runConsole (clock : Int64) (limit : Nat) (c : Console) (config : RunSettings) : RunOutcome :=
  match c.runLoop clock config false limit with
  | some r => outcomeOf r
  | none => unfinished

/-- Runs on a terminal cell by cell. -/
def console (device : Device) (clock : Int64) (limit : Nat) : Runner := fun config =>
  match device with
  | .none => refused .notTerminal
  | .unknownKind _ _ =>
    refused (.failed
      "console: cannot create screen: exec: \"infocmp\": executable file not found in $PATH")
  | .terminal w h => runConsole clock limit (.new w h) config

/-- Runs a session to its end, at most so many ticks. -/
def runSession (clock : Int64) (limit : Nat) (width height : Int64) (config : RunSettings) :
    RunOutcome :=
  match (Session.new clock config width height).run limit with
  | some s => finished s.loop
  | none => unfinished

/-- Runs in a session. -/
def tui (device : Device) (clock : Int64) (limit : Nat) : Runner := fun config =>
  match device with
  | .none =>
    refused (.failed "tui: could not open a new TTY: open /dev/tty: no such device or address")
  | .unknownKind w h | .terminal w h => runSession clock limit w h config

/-- The backends with given runners. -/
def registryOf {ρ : Type} (console tui : ρ) : Registry ρ :=
  ⟨[⟨.ofString "console", .ofString "Paint straight onto the terminal through tcell", console⟩,
    ⟨.ofString "tui", .ofString "Render through Bubble Tea on the alternate screen", tui⟩]⟩

/-- The backends on a device. -/
def registry (device : Device) (clock : Int64) (limit : Nat) : Registry Runner :=
  registryOf (console device clock limit) (tui device clock limit)

end Screensaver.Backends

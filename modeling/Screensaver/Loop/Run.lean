import Screensaver.Loop

/-!
Running a loop to its end.

A run starts the loop, then paints, pauses and polls in turn until a poll finds a reason to stop.
However it ends, also by a fault of the terminal or of the pause, the loop is stopped at last, so
that the terminal gets its colours back. Nothing bounds the length of a run; `run` is therefore
given the number of turns it may take, and has no answer if they do not suffice.

What a turn does is said once, for whatever the pauses do besides (`turnIn`). In a run of this module
they can change the terminal and fail; on a real terminal they take their time.
-/

namespace Screensaver

/-- What a run meets besides the terminal: pauses, which may change the terminal or fail, and a
sign that the run was cancelled. -/
structure Surroundings (τ : Type) where
  /-- Lets a time in nanoseconds pass. -/
  pause : Int64 → EStateM Fault τ Unit
  cancelled : τ → Bool

/-- Surroundings in which nothing happens. -/
def Surroundings.quiet (τ : Type) (cancelled : Bool) : Surroundings τ where
  pause _ t := .ok () t
  cancelled _ := cancelled

namespace Loop

variable {τ : Type} [Terminal τ]

/-- Lets the loop's interval pass. -/
def pause (around : Surroundings τ) : EStateM Fault (Loop τ) Unit := fun l =>
  match around.pause l.interval l.terminal with
  | .ok v t => .ok v { l with terminal := t }
  | .error e t => .error e { l with terminal := t }

/-- One turn: a paint, a pause and a poll. Tells whether the loop still runs. -/
def turnIn {m : Type → Type} [Monad m] [MonadLiftT (EStateM Fault (Loop τ)) m] (pause : m Unit)
    (cancelled : τ → Bool) : m Bool := do
  let _ ← (liftM (paint (τ := τ)) : m Bool)
  pause
  liftM (modifyGet fun l => l.poll (cancelled l.terminal) : EStateM Fault (Loop τ) Bool)

/-- A turn in these surroundings. -/
def turn (around : Surroundings τ) : EStateM Fault (Loop τ) Bool :=
  turnIn (pause around) around.cancelled

theorem turn_eq (around : Surroundings τ) :
    turn around = (do
      let _ ← paint
      pause around
      modifyGet fun l => l.poll (around.cancelled l.terminal)) :=
  rfl

/-- Takes turns until the loop has stopped, at most so many. -/
def turns (around : Surroundings τ) :
    Nat → Loop τ → Option (EStateM.Result Fault (Loop τ) StopReason)
  | 0, _ => none
  | n + 1, l =>
    match turn around l with
    | .ok true l => turns around n l
    | .ok false l => some (.ok l.reason l)
    | .error e l => some (.error e l)

/-- Stops a loop that is still running, keeping what the run came to. -/
def settle : EStateM.Result Fault (Loop τ) StopReason → EStateM.Result Fault (Loop τ) StopReason
  | .ok reason l => .ok reason (l.stop .aborted)
  | .error e l => .error e (l.stop .aborted)

/-- Starts the loop and runs it to its end, if that takes at most so many turns. -/
def run (around : Surroundings τ) (limit : Nat) (l : Loop τ) :
    Option (EStateM.Result Fault (Loop τ) StopReason) :=
  (turns around limit l.start).map settle

end Loop

end Screensaver

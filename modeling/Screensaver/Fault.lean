/-!
Faults: what a step raises when it cannot go on.

A step that can fail is an `EStateM` action: it answers with a value or with a fault, and in both
cases with the state it leaves behind, so that whoever runs it can still put things in order.
-/

namespace Screensaver

/-- The reasons for which a step fails. -/
inductive Fault where
  /-- A random number was asked for below a bound that is not positive. -/
  | emptyRange
  /-- The palette has no colour at this index. -/
  | outsidePalette (index : Int64)
  /-- A console was closed a second time. -/
  | closedTwice
  /-- A list or a mapping was looked for among keys. -/
  | unusableKey (typeName : String)
  /-- The terminal or the pause itself failed, in its own words. -/
  | raised (text : String)
deriving DecidableEq

/-- The wording of a fault. -/
def Fault.message : Fault → String
  | .emptyRange => "invalid argument to Intn"
  | .outsidePalette i =>
    if i < 0 then "runtime error: index out of range [" ++ toString i.toInt ++ "]"
    else "runtime error: index out of range [" ++ toString i.toInt ++ "] with length 16"
  | .closedTwice => "close of closed channel"
  | .unusableKey typeName => "runtime error: hash of unhashable type " ++ typeName
  | .raised text => text

/-- The state a step leaves behind, whether it succeeded or not. -/
def leftBehind {σ α : Type} : EStateM.Result Fault σ α → σ
  | .ok _ s => s
  | .error _ s => s

end Screensaver

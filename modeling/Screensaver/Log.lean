import Screensaver.Text.ByteText

/-!
Log entries and their levels.

An entry is a message with named values. Whoever reports something makes an entry; which entries
are written, and how, is up to the log that receives them.
-/

namespace Screensaver.Log

/-- How important an entry is, from the least to the most. -/
inductive Level where
  | debug
  | info
  | warn
  | error
  | fatal
deriving DecidableEq

namespace Level

def rank : Level → Nat
  | .debug => 0
  | .info => 1
  | .warn => 2
  | .error => 3
  | .fatal => 4

/-- The name under which a level is configured. -/
def name : Level → String
  | .debug => "debug"
  | .info => "info"
  | .warn => "warn"
  | .error => "error"
  | .fatal => "fatal"

/-- The four letters that stand for a level in a line. -/
def label : Level → String
  | .debug => "DEBU"
  | .info => "INFO"
  | .warn => "WARN"
  | .error => "ERRO"
  | .fatal => "FATA"

/-- Lower case, as far as level names are concerned: of the letters outside ASCII only the capital
I with a dot becomes one that a name can hold. -/
def lowered (c : Char) : Char :=
  if c = Char.ofNat 0x130 then 'i' else c.toLower

/-- The level of a name, in any case. -/
def ofName? (s : String) : Option Level :=
  let s := s.map lowered
  [debug, info, warn, error, fatal].find? fun l => l.name == s

/-- The level of a name that came in as bytes. -/
def ofText? (name : ByteText) : Option Level :=
  ofName? name.text

end Level

/-- A message with named values, and possibly a name at the end whose value was forgotten. -/
structure Entry where
  level : Level
  message : String
  fields : List (String × String)
  forgotten : Option String := none
deriving DecidableEq

end Screensaver.Log

import Screensaver.Number.Double
import Screensaver.Text.Quoted

/-!
Lengths of time, in nanoseconds, and their text.

A length is written as a sequence of decimal numbers with units, such as `1h30m` or `1.5ms`, after a
sign that may be missing; `0` needs no unit. It is printed with the largest units that fit: hours,
minutes and seconds, or a single smaller unit below a second.
-/

namespace Screensaver.Duration

/-- Why a text is no length of time. -/
inductive Error where
  | invalid
  | missingUnit
  | unknownUnit (unit : String)
deriving DecidableEq

/-- What is said about a text that was to be a length of time. -/
def Error.message (text : String) : Error → String
  | .invalid => "time: invalid duration " ++ Text.quotedBytewise text
  | .missingUnit => "time: missing unit in duration " ++ Text.quotedBytewise text
  | .unknownUnit u =>
    "time: unknown unit " ++ Text.quotedBytewise u ++ " in duration " ++ Text.quotedBytewise text

/-- The nanoseconds of a unit. The micro sign and the Greek letter are both understood. -/
def unit? (name : String) : Option Nat :=
  match name with
  | "ns" => some 1
  | "us" | "µs" | "μs" => some 1000
  | "ms" => some 1000000
  | "s" => some 1000000000
  | "m" => some 60000000000
  | "h" => some 3600000000000
  | _ => none

/-- The value of a sequence of digits. -/
def whole (ds : List Char) : Nat :=
  ds.foldl (fun n c => n * 10 + (c.toNat - '0'.toNat)) 0

/-- The digits after a point as far as they fit in 63 bits: their value and their number. -/
def fraction (value : Nat) (places : Nat) : List Char → Nat × Nat
  | [] => (value, places)
  | c :: ds =>
    let next := value * 10 + (c.toNat - '0'.toNat)
    if ((1 <<< 63) - 1) / 10 < value ∨ 1 <<< 63 < next then (value, places)
    else fraction next (places + 1) ds

/-- The nanoseconds of a fraction of a unit, computed with 53 bits and rounded down. -/
def fractionOf (unit : Nat) (value places : Nat) : Nat :=
  ((Number.Double.ofRatio value 1).mul (.ofRatio unit (Nat.pow 10 places))).truncate

/-- Digits and the rest. -/
def splitDigits (cs : List Char) : List Char × List Char :=
  (cs.takeWhile Char.isDigit, cs.dropWhile Char.isDigit)

/-- The part of a number after its point, if it has one, and the rest. -/
def splitFraction : List Char → List Char × List Char
  | '.' :: cs => splitDigits cs
  | cs => ([], cs)

/-- What ends the name of a unit. -/
def startsNumber (c : Char) : Bool :=
  c = '.' || c.isDigit

/-- One number with its unit in nanoseconds, and the rest. -/
def component (cs : List Char) : Except Error (Nat × List Char) :=
  let (ds, afterWhole) := splitDigits cs
  let (fs, afterNumber) := splitFraction afterWhole
  if ds.isEmpty && fs.isEmpty || 1 <<< 63 < whole ds then .error .invalid
  else
    let name := afterNumber.takeWhile (!startsNumber ·)
    if name.isEmpty then .error .missingUnit
    else
      match unit? (.ofList name) with
      | none => .error (.unknownUnit (.ofList name))
      | some u =>
        let (value, places) := fraction 0 0 fs
        let n := whole ds * u + fractionOf u value places
        if (1 <<< 63) / u < whole ds ∨ 1 <<< 63 < n then .error .invalid
        else .ok (n, afterNumber.dropWhile (!startsNumber ·))

/-- The sum of components, of which there are at most `fuel`. Sums are taken in 64 bits, and none may
be above `2 ^ 63`. -/
def components : (fuel : Nat) → (sum : Nat) → List Char → Except Error Nat
  | _, sum, [] => .ok sum
  | 0, _, _ :: _ => .error .invalid
  | fuel + 1, sum, cs =>
    match component cs with
    | .error e => .error e
    | .ok (n, rest) =>
      let sum := (sum + n) % 1 <<< 64
      if 1 <<< 63 < sum then .error .invalid else components fuel sum rest

/-- The length of time without its sign. -/
def magnitude (cs : List Char) : Except Error Nat :=
  if cs = ['0'] then .ok 0
  else if cs.isEmpty then .error .invalid
  else components cs.length 0 cs

/-- Reads a length of time. -/
def parse (text : String) : Except Error Int64 :=
  match text.toList with
  | '-' :: cs => (magnitude cs).map fun n => .ofInt (-n)
  | '+' :: cs => magnitude cs >>= positive
  | cs => magnitude cs >>= positive
where
  positive (n : Nat) : Except Error Int64 :=
    if 1 <<< 63 ≤ n then .error .invalid else .ok (.ofInt n)

/-- A number with `places` decimals, without the zeros at its end. -/
def decimal (n places : Nat) : String :=
  let ds := Nat.toDigits 10 (n % Nat.pow 10 places)
  let fs := List.replicate (places - ds.length) '0' ++ if places = 0 then [] else ds
  let fs := (fs.reverse.dropWhile (· = '0')).reverse
  toString (n / Nat.pow 10 places) ++ if fs.isEmpty then "" else .ofList ('.' :: fs)

/-- A length of time without its sign. -/
def printMagnitude (n : Nat) : String :=
  if n = 0 then "0s"
  else if n < 1000 then toString n ++ "ns"
  else if n < 1000000 then decimal n 3 ++ "µs"
  else if n < 1000000000 then decimal n 6 ++ "ms"
  else
    let minutes := n / 60000000000
    let hours := minutes / 60
    (if hours = 0 then "" else toString hours ++ "h") ++
      (if minutes = 0 then "" else toString (minutes % 60) ++ "m") ++
      decimal (n % 60000000000) 9 ++ "s"

/-- The text of a length of time. -/
def print (d : Int64) : String :=
  (if d < 0 then "-" else "") ++ printMagnitude d.toInt.natAbs

end Screensaver.Duration

import Screensaver.Text.Quoted

/-!
Integers in text.

An integer is a sign, which may be missing, and digits. When the base is left to the text, a mark
in front of the digits gives it: `0x`, `0o` and `0b`, or a `0` alone for base eight. The digits may
then be separated by underscores, one at a time, also after the mark. An integer has to fit in 64
bits.
-/

namespace Screensaver.Number

/-- Why a text is no integer. -/
inductive IntegerError where
  | malformed
  | outOfRange
deriving DecidableEq

namespace IntegerError

def reason : IntegerError → String
  | .malformed => "invalid syntax"
  | .outOfRange => "value out of range"

/-- What is said about a text that was to be an integer. -/
def message (e : IntegerError) (text : String) : String :=
  "strconv.ParseInt: parsing " ++ Text.quoted text ++ ": " ++ e.reason

end IntegerError

/-- The value of a digit, with letters for ten and more. -/
def digitValue? (c : Char) : Option Nat :=
  if '0' ≤ c ∧ c ≤ '9' then some (c.toNat - '0'.toNat)
  else if 'a' ≤ c ∧ c ≤ 'z' then some (c.toNat - 'a'.toNat + 10)
  else if 'A' ≤ c ∧ c ≤ 'Z' then some (c.toNat - 'A'.toNat + 10)
  else none

/-- Whether a letter and its capital are meant. -/
def isLetter (small : Char) (c : Char) : Bool :=
  c.toLower = small

/-- The base that a text states, and the digits after its mark. -/
def statedBase : List Char → Nat × List Char
  | '0' :: mark :: c :: rest =>
    if isLetter 'b' mark then (2, c :: rest)
    else if isLetter 'o' mark then (8, c :: rest)
    else if isLetter 'x' mark then (16, c :: rest)
    else (8, mark :: c :: rest)
  | '0' :: rest => (8, rest)
  | cs => (10, cs)

/-- Reads digits from left to right on top of a value, and fails at the first that does not belong
or that makes the value too large for 64 bits. Underscores are passed over if they may occur. -/
def digits (base : Nat) (underscores : Bool) : Nat → List Char → Except IntegerError Nat
  | n, [] => .ok n
  | n, c :: cs =>
    if underscores ∧ c = '_' then digits base underscores n cs
    else
      match digitValue? c with
      | none => .error .malformed
      | some d =>
        if base ≤ d then .error .malformed
        else if 1 <<< 64 ≤ n * base + d then .error .outOfRange
        else digits base underscores (n * base + d) cs

/-- Where an underscore may stand: after a digit or a mark of the base, and before a digit. `digit`
tells whether a digit went before, `pending` whether an underscore did. -/
def separated (hexadecimal : Bool) : (digit pending : Bool) → List Char → Bool
  | _, pending, [] => !pending
  | digit, pending, c :: cs =>
    if c.isDigit || (hexadecimal && ((digitValue? c).any (· < 16))) then
      separated hexadecimal true false cs
    else if c = '_' then digit && separated hexadecimal false true cs
    else !pending && separated hexadecimal false false cs

/-- Whether the underscores of a number without sign stand where they may. -/
def wellSeparated : List Char → Bool
  | '0' :: mark :: rest =>
    if isLetter 'b' mark || isLetter 'o' mark then separated false true false rest
    else if isLetter 'x' mark then separated true true false rest
    else separated false false false ('0' :: mark :: rest)
  | cs => separated false false false cs

/-- An integer without sign whose text states its base. -/
def natural (cs : List Char) : Except IntegerError Nat :=
  if cs.isEmpty then .error .malformed
  else
    let (base, ds) := statedBase cs
    match digits base true 0 ds with
    | .error e => .error e
    | .ok n => if cs.contains '_' && !wellSeparated cs then .error .malformed else .ok n

/-- An integer without sign in a known base. -/
def naturalIn (base : Nat) (cs : List Char) : Except IntegerError Nat :=
  if cs.isEmpty then .error .malformed else digits base false 0 cs

/-- Takes the sign off a text; `true` is minus. -/
def sign : List Char → Bool × List Char
  | '+' :: rest => (false, rest)
  | '-' :: rest => (true, rest)
  | cs => (false, cs)

/-- An integer that fits in 64 bits with a sign. -/
def signed (negative : Bool) (n : Nat) : Except IntegerError Int64 :=
  if negative then
    if 1 <<< 63 < n then .error .outOfRange else .ok (.ofInt (-n))
  else if 1 <<< 63 ≤ n then .error .outOfRange
  else .ok (.ofInt n)

/-- An integer whose text states its base. -/
def integer (cs : List Char) : Except IntegerError Int64 :=
  let (negative, rest) := sign cs
  natural rest >>= signed negative

/-- An integer in a known base. -/
def integerIn (base : Nat) (cs : List Char) : Except IntegerError Int64 :=
  let (negative, rest) := sign cs
  naturalIn base rest >>= signed negative

end Screensaver.Number

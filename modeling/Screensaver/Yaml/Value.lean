import Screensaver.Number.Double
import Screensaver.Number.Integer
import Screensaver.Yaml.Timestamp

/-!
What scalars stand for.

A plain scalar is a truth value, null, an integer, a number with decimals, a date, or else a text,
depending on how it is written. A tag says what a scalar is to be; it has to agree with how it is
written, except that any scalar can be a text and an integer can be a number with decimals. Tags
other than those of the standard leave the text as it is.
-/

namespace Screensaver.Yaml

/-- The value of a scalar. Integers that do not fit in 64 bits with a sign only count as unsigned,
and of a number with decimals only the 64-bit integer made of it is kept, if it has one. -/
inductive Value where
  | null
  | boolean
  | integer (n : Int64)
  | unsigned (n : Nat)
  | decimal (whole : Option Int64)
  | timestamp
  | text (s : String)
deriving DecidableEq

namespace Tag

def null : String := "!!null"
def boolean : String := "!!bool"
def integer : String := "!!int"
def decimal : String := "!!float"
def timestamp : String := "!!timestamp"
def text : String := "!!str"
def binary : String := "!!binary"
def merge : String := "!!merge"
def sequence : String := "!!seq"
def mapping : String := "!!map"

/-- The beginning of the tags of the standard. -/
def standard : String := "tag:yaml.org,2002:"

/-- A tag with the beginning of the standard's tags abbreviated. -/
def short (tag : String) : String :=
  if tag.startsWith standard then "!!" ++ (tag.drop standard.length).toString else tag

end Tag

/-- The tag that fits a value. -/
def Value.tag : Value → String
  | .null => Tag.null
  | .boolean => Tag.boolean
  | .integer _ | .unsigned _ => Tag.integer
  | .decimal _ => Tag.decimal
  | .timestamp => Tag.timestamp
  | .text _ => Tag.text

/-! ### Numbers -/

/-- The integer part of a number with 53 bits as 64 bits. What is below the range, and `2 ^ 63`
itself, becomes the least integer; what is above has no integer. -/
def wholeOf (negative : Bool) (d : Number.Double) : Option Int64 :=
  let n := d.truncate
  if negative then some (if 1 <<< 63 ≤ n then Int64.minValue else .ofInt (-n))
  else if n < 1 <<< 63 then some (.ofInt n)
  else if n = 1 <<< 63 then some Int64.minValue
  else none

/-- The parts of a decimal number: digits before and after the point, and the exponent. -/
structure DecimalParts where
  whole : List Char
  fraction : List Char
  exponent : Int

/-- The value of an exponent's digits, which stops growing at five digits. -/
def exponentValue (ds : List Char) : Nat :=
  ds.foldl (fun n c => if n < 10000 then n * 10 + (c.toNat - 48) else n) 0

/-- Reads an exponent, if there is one, to the end of the text. -/
def exponent? : List Char → Option Int
  | [] => some 0
  | e :: rest =>
    if e = 'e' ∨ e = 'E' then
      let (negative, ds) := Number.sign rest
      if ds.isEmpty || !ds.all Char.isDigit then none
      else some (if negative then -(exponentValue ds : Int) else exponentValue ds)
    else none

/-- Reads a decimal number without sign. There is a digit before or after the point. -/
def decimalParts? (cs : List Char) : Option DecimalParts :=
  let whole := cs.takeWhile Char.isDigit
  let rest := cs.dropWhile Char.isDigit
  let (fraction, rest) := match rest with
    | '.' :: rest => (rest.takeWhile Char.isDigit, rest.dropWhile Char.isDigit)
    | rest => ([], rest)
  if whole.isEmpty && fraction.isEmpty then none
  else (exponent? rest).map fun exponent => { whole, fraction, exponent }

/-- A decimal number, if it is not too large to be one with 53 bits. -/
def DecimalParts.value? (p : DecimalParts) (negative : Bool) : Option Value :=
  let digits := (p.whole ++ p.fraction).dropWhile (· = '0')
  let n := digits.foldl (fun n c => n * 10 + (c.toNat - 48)) 0
  let exponent := p.exponent - p.fraction.length
  let magnitude := exponent + digits.length
  if n = 0 ∨ magnitude < -400 then some (.decimal (some 0))
  else if 400 < magnitude then none
  else
    let d := Number.Double.ofDecimal n exponent
    if 1 <<< 1024 ≤ d.truncate then none else some (.decimal (wholeOf negative d))

/-- A number with decimals that starts with a digit or a sign. -/
def signedDecimal? (cs : List Char) : Option Value :=
  let (negative, rest) := Number.sign cs
  (decimalParts? rest).bind (·.value? negative)

/-- A number that starts with its point. Underscores may separate its digits. -/
def pointDecimal? (cs : List Char) : Option Value :=
  if cs.contains '_' && !Number.wellSeparated cs then none
  else (decimalParts? (cs.filter (· ≠ '_'))).bind (·.value? false)

/-- An unsigned integer whose text states its base. -/
def unsigned? (r : Except Number.IntegerError Nat) : Option Value :=
  r.toOption.map .unsigned

/-- An integer that fits in 64 bits. -/
def integer? (r : Except Number.IntegerError Int64) : Option Value :=
  r.toOption.map .integer

/-- An integer after a mark for base two or eight; a sign may stand before or after the mark. -/
def markedInteger? (cs : List Char) : Option Value :=
  match cs with
  | '0' :: 'b' :: ds => (integer? (Number.integerIn 2 ds)).or (unsigned? (Number.naturalIn 2 ds))
  | '-' :: '0' :: 'b' :: ds => integer? (Number.integerIn 2 ('-' :: ds))
  | '0' :: 'o' :: ds => (integer? (Number.integerIn 8 ds)).or (unsigned? (Number.naturalIn 8 ds))
  | '-' :: '0' :: 'o' :: ds => integer? (Number.integerIn 8 ('-' :: ds))
  | _ => none

/-- A number that starts with a digit or a sign; underscores do not count. -/
def number? (cs : List Char) : Option Value :=
  let cs := cs.filter (· ≠ '_')
  (integer? (Number.integer cs)).or <| (unsigned? (Number.natural cs)).or <|
    (signedDecimal? cs).or (markedInteger? cs)

/-! ### Plain scalars -/

/-- The words that stand for truth values, null, and the numbers that are not finite. -/
def word? (s : String) : Option Value :=
  if s ∈ ["true", "True", "TRUE", "false", "False", "FALSE"] then some .boolean
  else if s ∈ ["", "~", "null", "Null", "NULL"] then some .null
  else if s ∈ [".nan", ".NaN", ".NAN", ".inf", ".Inf", ".INF", "+.inf", "+.Inf", "+.INF"] then
    some (.decimal none)
  else if s ∈ ["-.inf", "-.Inf", "-.INF"] then some (.decimal (some Int64.minValue))
  else none

/-- The value of a plain scalar. Dates are only looked for if `dates` says so. -/
def plainValue (dates : Bool) (s : String) : Value :=
  match word? s with
  | some v => v
  | none =>
    match s.toList with
    | [] => .null
    | c :: rest =>
      let found :=
        if c = '.' then pointDecimal? (c :: rest)
        else if c.isDigit ∨ c = '+' ∨ c = '-' then
          if dates ∧ Timestamp.isTimestamp s then some .timestamp else number? (c :: rest)
        else none
      found.getD (.text s)

/-- The tag of a plain scalar that was given none. -/
def plainTag (s : String) : String :=
  if s = "<<" then Tag.merge else (plainValue true s).tag

/-- The value of a scalar with a tag; `none` if the tag does not fit. -/
def value? (tag : String) (s : String) : Option Value :=
  if tag = Tag.text then some (.text s)
  else if tag ∈ [Tag.null, Tag.boolean, Tag.integer, Tag.decimal, Tag.timestamp] then
    let v := plainValue (tag = Tag.timestamp) s
    if v.tag = tag then some v
    else
      match v with
      | .integer n => if tag = Tag.decimal then some (.decimal (some (rounded n))) else none
      | _ => none
  else some (.text s)
where
  /-- An integer as a number with 53 bits, and back. -/
  rounded (n : Int64) : Int64 :=
    (wholeOf (n < 0) (.ofRatio n.toInt.natAbs 1)).getD n

/-! ### Binary texts -/

/-- The six bits of a character. -/
def sixBits? (c : Char) : Option Nat :=
  if 'A' ≤ c ∧ c ≤ 'Z' then some (c.toNat - 65)
  else if 'a' ≤ c ∧ c ≤ 'z' then some (c.toNat - 71)
  else if c.isDigit then some (c.toNat + 4)
  else if c = '+' then some 62
  else if c = '/' then some 63
  else none

/-- The bytes of groups of four characters, of which the last may be filled up with `=`. -/
def groups? : List Char → Option (List UInt8)
  | [] => some []
  | a :: b :: c :: d :: rest => do
    let p ← sixBits? a
    let q ← sixBits? b
    let first := UInt8.ofNat (p * 4 + q / 16)
    if c = '=' then if d = '=' ∧ rest.isEmpty then some [first] else none
    else
      let r ← sixBits? c
      let second := UInt8.ofNat (q * 16 + r / 4)
      if d = '=' then if rest.isEmpty then some [first, second] else none
      else
        let t ← sixBits? d
        let more ← groups? rest
        some (first :: second :: .ofNat (r * 64 + t) :: more)
  | _ => none

/-- The bytes of a binary text; line breaks do not count. -/
def binary? (s : String) : Option (List UInt8) :=
  groups? (s.toList.filter fun c => c ≠ '\r' ∧ c ≠ '\n')

end Screensaver.Yaml

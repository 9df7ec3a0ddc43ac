/-!
Dates and times as they are written in plain scalars.

A date is a year of four digits, a month and a day. After it may follow the letter T and a time with
a zone, or spaces and a time without one. A time has hours, minutes and seconds, and the seconds may
have decimals. Only real dates and times of day count.
-/

namespace Screensaver.Yaml.Timestamp

/-- A number of one or two digits, and the rest. -/
def number? : List Char → Option (Nat × List Char)
  | [] => none
  | [a] => if a.isDigit then some (a.toNat - 48, []) else none
  | a :: b :: rest =>
    if !a.isDigit then none
    else if b.isDigit then some ((a.toNat - 48) * 10 + (b.toNat - 48), rest)
    else some (a.toNat - 48, b :: rest)

/-- A number of one or two digits below a limit, and the rest. -/
def below? (limit : Nat) (cs : List Char) : Option (Nat × List Char) :=
  (number? cs).bind fun (n, rest) => if n < limit then some (n, rest) else none

/-- The rest after a given character. -/
def after? (c : Char) : List Char → Option (List Char)
  | x :: rest => if x = c then some rest else none
  | [] => none

def isLeap (year : Nat) : Bool :=
  year % 4 = 0 && (year % 100 ≠ 0 || year % 400 = 0)

/-- The number of days of a month. -/
def daysIn (year month : Nat) : Nat :=
  if month = 2 then if isLeap year then 29 else 28
  else if month = 4 ∨ month = 6 ∨ month = 9 ∨ month = 11 then 30
  else 31

/-- The rest after a date. -/
def afterDate? (cs : List Char) : Option (List Char) := do
  let ys := cs.takeWhile Char.isDigit
  if ys.length ≠ 4 then none
  else
    let year := ys.foldl (fun n d => n * 10 + (d.toNat - 48)) 0
    let rest ← after? '-' (cs.drop 4)
    let (month, rest) ← number? rest
    let rest ← after? '-' rest
    let (day, rest) ← number? rest
    if 1 ≤ month ∧ month ≤ 12 ∧ 1 ≤ day ∧ day ≤ daysIn year month then some rest else none

/-- The rest after the decimals of seconds, if there are any. -/
def afterDecimals : List Char → List Char
  | c :: d :: rest =>
    if (c = '.' || c = ',') && d.isDigit then rest.dropWhile Char.isDigit else c :: d :: rest
  | cs => cs

/-- The rest after a time of day. -/
def afterTime? (cs : List Char) : Option (List Char) := do
  let (_, rest) ← below? 24 cs
  let rest ← after? ':' rest
  let (_, rest) ← below? 60 rest
  let rest ← after? ':' rest
  let (_, rest) ← below? 60 rest
  some (afterDecimals rest)

/-- Two digits with a value up to a limit. -/
def twoDigits (limit : Nat) (a b : Char) : Bool :=
  a.isDigit && b.isDigit && (a.toNat - 48) * 10 + (b.toNat - 48) ≤ limit

/-- Whether a text is a zone: `Z`, or a sign with hours and minutes. -/
def isZone : List Char → Bool
  | ['Z'] => true
  | [sign, a, b, ':', c, d] => (sign = '+' || sign = '-') && twoDigits 24 a b && twoDigits 60 c d
  | _ => false

/-- Whether a text is a time with a zone. -/
def isZonedTime (cs : List Char) : Bool :=
  ((afterTime? cs).map isZone).getD false

/-- Whether a text is a time without a zone. -/
def isTime (cs : List Char) : Bool :=
  afterTime? cs = some []

/-- Whether a text is a date, with or without a time. -/
def isTimestamp (s : String) : Bool :=
  match afterDate? s.toList with
  | none => false
  | some [] => true
  | some (c :: rest) =>
    if c = 'T' ∨ c = 't' then isZonedTime rest
    else if c = ' ' then isTime (rest.dropWhile (· = ' '))
    else false

end Screensaver.Yaml.Timestamp

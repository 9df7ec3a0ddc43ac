import Screensaver.Text.Printable
import Screensaver.Text.Utf8

/-!
Texts inside messages.

A quoted text stands between double quotes. Printable characters stand for themselves, a quote and
a backslash are preceded by a backslash, and everything else is written as an escape: a letter for
the usual control characters, otherwise the code point in hexadecimal digits, two for the other
control characters, four or eight for the rest.

A bytewise quoted text knows no characters but those of ASCII, and writes all other bytes, and the
control characters, as two hexadecimal digits.
-/

namespace Screensaver.Text

/-- A hexadecimal digit. -/
def hexDigit (n : Nat) : Char :=
  if n < 10 then Char.ofNat (48 + n) else Char.ofNat (87 + n)

/-- The last `width` hexadecimal digits of a number. -/
def hex : (width : Nat) → Nat → List Char
  | 0, _ => []
  | width + 1, n => hex width (n / 16) ++ [hexDigit (n % 16)]

/-- The letter that stands for a control character after a backslash. -/
def controlLetter? (c : Char) : Option Char :=
  match c.toNat with
  | 0x07 => some 'a'
  | 0x08 => some 'b'
  | 0x09 => some 't'
  | 0x0A => some 'n'
  | 0x0B => some 'v'
  | 0x0C => some 'f'
  | 0x0D => some 'r'
  | _ => none

/-- How a character that is not printable is written. Of the codes below 0x80, those that satisfy
`short` take two digits. -/
def escaped (short : Nat → Bool) (c : Char) : List Char :=
  match controlLetter? c with
  | some letter => ['\\', letter]
  | none =>
    if short c.toNat then '\\' :: 'x' :: hex 2 c.toNat
    else if c.toNat < 0x10000 then '\\' :: 'u' :: hex 4 c.toNat
    else '\\' :: 'U' :: hex 8 c.toNat

/-- The control characters of ASCII. -/
def isControl (code : Nat) : Bool :=
  code < 0x20 || code == 0x7F

/-- A character between quotes of the given kind. -/
def quotedChar (quote c : Char) : List Char :=
  if c = quote ∨ c = '\\' then ['\\', c]
  else if isPrintable c then [c]
  else escaped isControl c

/-- A text between double quotes. -/
def quoted (s : String) : String :=
  .ofList ('"' :: s.toList.flatMap (quotedChar '"') ++ ['"'])

/-- A single character between single quotes. -/
def quotedLetter (c : Char) : String :=
  .ofList ('\'' :: quotedChar '\'' c ++ ['\''])

/-- A character of a bytewise quoted text. -/
def bytewiseChar (c : Char) : List Char :=
  if c.toNat < 0x20 ∨ 0x80 ≤ c.toNat then
    (bytes (.singleton c)).flatMap fun b => '\\' :: 'x' :: hex 2 b.toNat
  else if c = '"' ∨ c = '\\' then ['\\', c]
  else [c]

/-- A text between double quotes, byte by byte. -/
def quotedBytewise (s : String) : String :=
  .ofList ('"' :: s.toList.flatMap bytewiseChar ++ ['"'])

end Screensaver.Text

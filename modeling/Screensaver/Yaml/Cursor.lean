import Screensaver.Yaml.Source

/-!
A position in a document.

Lines end with a line feed, a carriage return, both together, or one of three Unicode line breaks.
Blanks are spaces and tabs. The end of the document counts as blank where a word has to end; a
character that cannot occur in a document stands for it.

Whoever looks at characters first requires as many as are going to be looked at, and the next block
of the document is decoded if there are not enough. A step fails if that block cannot be decoded.
-/

namespace Screensaver.Yaml

/-! ### Kinds of characters -/

/-- Stands for the end of the document. -/
def ending : Char := Char.ofNat 0

/-- The mark that may stand at the beginning of a text. -/
def byteOrderMark : Char := Char.ofNat 0xFEFF

def isBlank (c : Char) : Bool := c = ' ' || c = '\t'

def isBreak (c : Char) : Bool :=
  c = '\n' || c = '\r' || c = Char.ofNat 0x85 || c = Char.ofNat 0x2028 || c = Char.ofNat 0x2029

/-- The characters of names. -/
def isWord (c : Char) : Bool := c.isAlphanum || c = '_' || c = '-'

/-- Whether a line ends before a character. -/
def endsLine (c : Char) : Bool := isBreak c || c = ending

/-- Whether a word ends before a character. -/
def endsWord (c : Char) : Bool := isBlank c || endsLine c

/-- Whether a mark of three equal characters is here. -/
def isMark (x : Char) : List Char → Bool
  | a :: b :: c :: rest => a = x && b = x && c = x && endsWord (rest.headD ending)
  | _ => false

/-- The mark that starts a document. -/
def startsDocument : List Char → Bool := isMark '-'

/-- The mark that ends a document. -/
def endsDocument : List Char → Bool := isMark '.'

/-! ### Positions -/

/-- What is still to be read, and where that is. -/
structure Cursor where
  /-- The characters that are decoded and not read. -/
  rest : List Char
  source : Source
  /-- Whether the characters that were at hand after the last decoding began with a byte order
  mark. -/
  marked : Bool
  /-- The number of characters read. -/
  index : Nat
  line : Nat
  column : Nat
  /-- The number of line breaks since the last character that is neither blank nor a break. -/
  newlines : Nat
  /-- A bound for the number of characters that are to be read. -/
  limit : Nat

namespace Cursor

/-- The character under the cursor. -/
def head (c : Cursor) : Char := c.rest.headD ending

/-- The character a number of places after the one under the cursor. -/
def ahead (n : Nat) (c : Cursor) : Char := (c.rest.drop n).headD ending

/-- Decodes blocks until there are at least `n` characters. At the end of the document one character
is added that stands for it, even if that is not enough. -/
def fill (n : Nat) : (fuel : Nat) → List Char → Source → Option (List Char × Source)
  | 0, cs, s => some (cs, s)
  | fuel + 1, cs, s =>
    if hasAtLeast n cs then some (cs, s)
    else
      match s.read.decode with
      | none => none
      | some (more, s) =>
        if s.ended then some (cs ++ more ++ [ending], s) else fill n fuel (cs ++ more) s

/-- Makes sure that there are at least `n` characters. Every block gives one, but for the first and
the last two. -/
def require (n : Nat) (c : Cursor) : Option Cursor :=
  if hasAtLeast n c.rest then some c
  else
    (fill n (n + 3) c.rest c.source).map fun (rest, source) =>
      { c with rest, source, marked := rest.head? = some byteOrderMark }

/-- The start of a document, with the characters of its first block. -/
def start (bytes : List UInt8) : Option Cursor := do
  let (cs, source) ← (Source.ofBytes bytes).decode
  let rest := if source.ended then cs ++ [ending] else cs
  let c : Cursor :=
    { rest, source, marked := cs.head? = some byteOrderMark, index := 0, line := 0, column := 0,
      newlines := 0, limit := bytes.length + 16 }
  c.require 1

/-- Passes over a character that is no line break. -/
def skip (c : Cursor) : Cursor :=
  { c with rest := c.rest.tail, index := c.index + 1, column := c.column + 1,
           newlines := if isBlank c.head then c.newlines else 0 }

/-- What a line break stands for. -/
def breakText (x : Char) : Char :=
  if x.toNat = 0x2028 ∨ x.toNat = 0x2029 then x else '\n'

/-- Passes over a line break, if there is one. -/
def skipBreak (c : Cursor) : Cursor :=
  match c.rest with
  | '\r' :: '\n' :: rest => next 2 rest
  | x :: rest => if isBreak x then next 1 rest else c
  | [] => c
where
  next (n : Nat) (rest : List Char) : Cursor :=
    { c with rest, index := c.index + n, line := c.line + 1, column := 0, newlines := c.newlines + 1 }

/-- Whether a document mark starts the line under the cursor. -/
def atDocumentMark (c : Cursor) : Bool :=
  c.column = 0 && (startsDocument c.rest || endsDocument c.rest)

end Cursor

/-! ### Steps -/

/-- Steps of reading a document, which may fail. -/
abbrev Scan := StateT Cursor Option

namespace Scan

/-- Makes sure that there are at least `n` characters. -/
def require (n : Nat) : Scan Unit := fun c => (c.require n).map ((), ·)

/-- The character under the cursor. -/
def head : Scan Char := return (← get).head

/-- Passes over a character that is no line break. -/
def skip : Scan Unit := modify Cursor.skip

/-- Passes over a number of characters that are no line breaks. -/
def skipN : Nat → Scan Unit
  | 0 => return
  | n + 1 => do
    skip
    skipN n

/-- Passes over a line break, and tells what it stands for; nothing if there is none. -/
def takeBreak : Scan String := do
  require 2
  let c ← get
  set c.skipBreak
  return if isBreak c.head then String.singleton (Cursor.breakText c.head) else ""

/-- Passes over a line break, if there is one. -/
def skipBreak : Scan Unit := do
  if isBreak (← head) then
    let _ ← takeBreak

/-- Adds the characters that satisfy a condition to a text and passes over them. -/
def takeFrom (p : Char → Bool) : (fuel : Nat) → (taken : String) → Scan String
  | 0, _ => failure
  | fuel + 1, taken => do
    require 1
    let x ← head
    if p x then
      skip
      takeFrom p fuel (taken.push x)
    else return taken

/-- Passes over characters that satisfy a condition, which line breaks and the end do not. -/
def takeWhile (p : Char → Bool) : Scan String := do
  takeFrom p (← get).limit ""

/-- Passes over characters that satisfy a condition, which line breaks and the end do not. -/
def skipWhile (p : Char → Bool) : Scan Unit := do
  let _ ← takeWhile p

/-- Passes over the rest of a line. -/
def skipLine : Scan Unit := skipWhile fun x => !endsLine x

end Scan

end Screensaver.Yaml

import Screensaver.Text.Utf8

/-!
The characters of a document, block by block.

A document is UTF-8, or UTF-16 in either byte order if a byte order mark says so. Control characters
other than tab, line feed, carriage return and next line do not occur in it.

Its bytes are taken up in blocks, and only when they are needed: what is wrong with a block does not
matter to a document that ends before it. A character that goes over the end of a block waits for the
next one.
-/

namespace Screensaver.Yaml

/-- Whether a character may occur in a document. -/
def isAllowed (c : Char) : Bool :=
  let n := c.toNat
  n == 0x09 || n == 0x0A || n == 0x0D || (0x20 ≤ n && n ≤ 0x7E) || n == 0x85 ||
    (0xA0 ≤ n && n ≤ 0xFFFD) || 0x10000 ≤ n

/-- Whether a list has at least `n` elements. -/
def hasAtLeast {α : Type} : (n : Nat) → List α → Bool
  | 0, _ => true
  | _ + 1, [] => false
  | n + 1, _ :: l => hasAtLeast n l

/-- How characters are written in bytes. -/
inductive Encoding where
  | utf8
  | utf16 (bigEndian : Bool)
deriving DecidableEq

/-- What comes first in some bytes. -/
inductive FirstChar where
  | char (c : Char) (rest : List UInt8)
  /-- A character that goes on after the bytes at hand. -/
  | incomplete
  | bad

namespace FirstChar

/-- A character and the bytes after it; bad if there is none. -/
def of? : Option (Char × List UInt8) → FirstChar
  | some (c, rest) => .char c rest
  | none => .bad

/-- The number of bytes of the character that a byte starts, if it can start one. -/
def length? (b : UInt8) : Option Nat :=
  if b < 0x80 then some 1
  else if b < 0xC0 then none
  else if b < 0xE0 then some 2
  else if b < 0xF0 then some 3
  else if b < 0xF8 then some 4
  else none

/-- What comes first in bytes of UTF-8. -/
def utf8 : List UInt8 → FirstChar
  | [] => .incomplete
  | b :: bytes =>
    match length? b with
    | none => .bad
    | some n =>
      if hasAtLeast n (b :: bytes) then of? (Text.firstChar? (b :: bytes)) else .incomplete

/-- The number in two bytes. -/
def unit (bigEndian : Bool) (a b : UInt8) : Nat :=
  if bigEndian then a.toNat * 256 + b.toNat else b.toNat * 256 + a.toNat

/-- What comes first in bytes of UTF-16, where a pair of surrogates is one character. -/
def utf16 (bigEndian : Bool) : List UInt8 → FirstChar
  | a :: b :: bytes =>
    let u := unit bigEndian a b
    if 0xD800 ≤ u ∧ u < 0xDC00 then
      match bytes with
      | c :: d :: bytes =>
        let v := unit bigEndian c d
        if 0xDC00 ≤ v ∧ v < 0xE000 then
          .char (.ofNat (0x10000 + (u - 0xD800) * 0x400 + (v - 0xDC00))) bytes
        else .bad
      | _ => .incomplete
    else of? ((Text.charFrom? 0 u).map fun c => (c, bytes))
  | _ => .incomplete

end FirstChar

/-- What comes first in some bytes. -/
def Encoding.first : Encoding → List UInt8 → FirstChar
  | .utf8 => FirstChar.utf8
  | .utf16 bigEndian => FirstChar.utf16 bigEndian

/-- The bytes of a document that have not been decoded yet. -/
structure Source where
  encoding : Encoding
  /-- The bytes that have been taken up. -/
  block : List UInt8
  /-- The bytes that have not. -/
  rest : List UInt8
  /-- Whether it has shown that there are no more. -/
  ended : Bool

namespace Source

/-- The greatest number of bytes taken up at a time. -/
def blockSize : Nat := 512

/-- Takes up as many bytes as there is room for. Only finding none shows that there are no more. -/
def read (s : Source) : Source :=
  if s.rest.isEmpty then { s with ended := true }
  else
    let room := blockSize - s.block.length
    { s with block := s.block ++ s.rest.take room, rest := s.rest.drop room }

/-- The encoding that the first bytes show, and the bytes after the mark that shows it. -/
def detect : List UInt8 → Encoding × List UInt8
  | 0xFF :: 0xFE :: bytes => (.utf16 false, bytes)
  | 0xFE :: 0xFF :: bytes => (.utf16 true, bytes)
  | 0xEF :: 0xBB :: 0xBF :: bytes => (.utf8, bytes)
  | bytes => (.utf8, bytes)

/-- A document with its first block taken up. Fewer than three bytes are taken to be all only after
looking for more. -/
def ofBytes (bytes : List UInt8) : Source :=
  let s := read { encoding := .utf8, block := [], rest := bytes, ended := false }
  let s := if s.block.length < 3 then s.read else s
  let (encoding, block) := detect s.block
  { s with encoding, block }

/-- Decodes at most `fuel` characters. What is left is the beginning of one that is not complete, and
there must be no such beginning at the end. -/
def decodeFrom (s : Source) : (fuel : Nat) → (done : Array Char) → List UInt8 →
    Option (Array Char × List UInt8)
  | _, done, [] => some (done, [])
  | 0, done, bytes => some (done, bytes)
  | fuel + 1, done, bytes =>
    match s.encoding.first bytes with
    | .char c rest => if isAllowed c then decodeFrom s fuel (done.push c) rest else none
    | .incomplete => if s.ended then none else some (done, bytes)
    | .bad => none

/-- Decodes the bytes that have been taken up. -/
def decode (s : Source) : Option (List Char × Source) :=
  (s.decodeFrom s.block.length #[] s.block).map fun (cs, block) => (cs.toList, { s with block })

end Source

end Screensaver.Yaml

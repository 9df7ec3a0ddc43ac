/-!
Characters in bytes.

A character takes one to four bytes. Sequences that are longer than needed, that stand for no
character, or that are cut off are not read; reading leniently puts a replacement character for
every byte that belongs to no character.
-/

namespace Screensaver.Text

/-- The bytes of a text. -/
def bytes (s : String) : List UInt8 :=
  s.toUTF8.data.toList

/-- The payload of a byte that continues a character. -/
def continuation? (b : UInt8) : Option Nat :=
  if 0x80 ≤ b ∧ b < 0xC0 then some (b.toNat - 0x80) else none

/-- The payload of the next `n` bytes on top of a value, and the rest. -/
def continuations : (n : Nat) → Nat → List UInt8 → Option (Nat × List UInt8)
  | 0, v, bs => some (v, bs)
  | _ + 1, _, [] => none
  | n + 1, v, b :: bs => (continuation? b).bind fun p => continuations n (v * 64 + p) bs

/-- The character of a code that needs at least as many bytes as it took. -/
def charFrom? (least : Nat) (code : Nat) : Option Char :=
  if least ≤ code ∧ code.isValidChar then some (.ofNat code) else none

/-- The first character of a sequence of bytes, and the rest. -/
def firstChar? : List UInt8 → Option (Char × List UInt8)
  | [] => none
  | b :: bs =>
    if b < 0x80 then some (.ofNat b.toNat, bs)
    else if b < 0xC0 then none
    else if b < 0xE0 then take 1 0x80 (b.toNat - 0xC0) bs
    else if b < 0xF0 then take 2 0x800 (b.toNat - 0xE0) bs
    else if b < 0xF8 then take 3 0x10000 (b.toNat - 0xF0) bs
    else none
where
  take (n least start : Nat) (bs : List UInt8) : Option (Char × List UInt8) :=
    (continuations n start bs).bind fun (code, rest) =>
      (charFrom? least code).map fun c => (c, rest)

/-- Reads at most `fuel` characters or bytes that belong to none. -/
def readLenient : (fuel : Nat) → (read : Array Char) → List UInt8 → Array Char
  | 0, read, _ => read
  | _, read, [] => read
  | fuel + 1, read, b :: bs =>
    match firstChar? (b :: bs) with
    | some (c, rest) => readLenient fuel (read.push c) rest
    | none => readLenient fuel (read.push (Char.ofNat 0xFFFD)) bs

/-- The text of a sequence of bytes, with a replacement character for every byte that belongs to no
character. -/
def decodeLenient (bs : List UInt8) : String :=
  .ofList (readLenient bs.length #[] bs).toList

end Screensaver.Text

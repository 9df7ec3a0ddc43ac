import Screensaver.Text.Quoted

/-!
Texts that came in as bytes.

Not all of the bytes need to belong to characters. Such a text can be shown, with a replacement
character for every byte that does not, and quoted, where such bytes are written in hexadecimal
digits.
-/

namespace Screensaver

/-- A text that is known by its bytes. -/
structure ByteText where
  bytes : List UInt8
deriving DecidableEq

namespace ByteText

def ofString (s : String) : ByteText := ⟨Text.bytes s⟩

instance : Append ByteText := ⟨fun a b => ⟨a.bytes ++ b.bytes⟩⟩

/-- Texts one after the other. -/
def join (ts : List ByteText) : ByteText := ⟨ts.flatMap bytes⟩

def isEmpty (t : ByteText) : Bool := t.bytes.isEmpty

/-- The text as it is shown. -/
def text (t : ByteText) : String := Text.decodeLenient t.bytes

/-- The number of characters, where a byte that belongs to none counts as one. -/
def length (t : ByteText) : Nat := t.text.length

/-- The inside of the quoted text, for at most `fuel` characters and bytes that belong to none. -/
def quotedFrom : (fuel : Nat) → List UInt8 → List Char
  | 0, _ => []
  | _, [] => []
  | fuel + 1, b :: bytes =>
    match Text.firstChar? (b :: bytes) with
    | some (c, rest) => Text.quotedChar '"' c ++ quotedFrom fuel rest
    | none => '\\' :: 'x' :: Text.hex 2 b.toNat ++ quotedFrom fuel bytes

/-- The text between double quotes. -/
def quoted (t : ByteText) : String :=
  .ofList ('"' :: quotedFrom t.bytes.length t.bytes ++ ['"'])

end ByteText

end Screensaver

import Screensaver.Yaml.ScalarText

/-!
Tokens of a document, and how those are read that are neither single characters nor scalars:
directives, names and tags.
-/

namespace Screensaver.Yaml

open Scan

/-- What a token is. -/
inductive TokenKind where
  | streamStart
  | streamEnd
  | version (major minor : Nat)
  | tagDirective (handle replacement : String)
  | documentStart
  | documentEnd
  | blockSequenceStart
  | blockMappingStart
  | blockEnd
  | flowSequenceStart
  | flowSequenceEnd
  | flowMappingStart
  | flowMappingEnd
  | blockEntry
  | flowEntry
  | key
  | value
  | alias (name : String)
  | anchor (name : String)
  | tag (handle suffix : String)
  | scalar (text : String) (plain : Bool)
deriving DecidableEq

/-- A token and the line it starts in. -/
structure Token where
  kind : TokenKind
  line : Nat
deriving DecidableEq

/-! ### Names -/

/-- Whether a name can end before a character. -/
def endsName (c : Char) : Bool :=
  endsWord c || "?:,]\x7d%@`".contains c

/-- The name after `&` or `*`. -/
def scanName : Scan String := do
  skip
  let name ← takeWhile isWord
  if name = "" || !endsName (← head) then failure else return name

/-! ### Tags -/

/-- The characters of tags, percent escapes apart. -/
def isTagChar (c : Char) : Bool :=
  isWord c || ";/?:@&=+$.!~*'(),[]".contains c

/-- Reads a byte given by a percent escape. -/
def scanEscapedByte : Scan UInt8 := do
  require 3
  let c ← get
  match hexNumber? 2 c.rest.tail with
  | some n =>
    if c.head = '%' then
      skipN 3
      return .ofNat n
    else failure
  | none => failure

/-- Reads `n` bytes that go on with a character. -/
def scanContinuations : (n : Nat) → Scan (List UInt8)
  | 0 => return []
  | n + 1 => do
    let b ← scanEscapedByte
    if 0x80 ≤ b ∧ b < 0xC0 then return b :: (← scanContinuations n) else failure

/-- Reads a character given by percent escapes of its bytes. How many there are the first byte
tells; that they make up a character is not needed. -/
def scanEscapedChar : Scan String := do
  let b ← scanEscapedByte
  match FirstChar.length? b with
  | some n => return Text.decodeLenient (b :: (← scanContinuations (n - 1)))
  | none => failure

/-- The characters of a tag. -/
def scanTagText : (fuel : Nat) → (text : String) → Scan String
  | 0, _ => failure
  | fuel + 1, text => do
    require 1
    let x ← head
    if x = '%' then
      let c ← scanEscapedChar
      scanTagText fuel (text ++ c)
    else if isTagChar x then
      skip
      scanTagText fuel (text.push x)
    else return text

/-- A tag's text after what was already read of it; it must not be empty. -/
def scanTagRest (already : String) : Scan String := do
  let text ← scanTagText (← get).limit ""
  if already = "" ∧ text = "" then failure else return (already.drop 1).toString ++ text

/-- An exclamation mark, a name, and another exclamation mark if there is one. -/
def scanHandle : Scan String := do
  require 1
  if (← head) = '!' then
    skip
    let name ← takeWhile isWord
    if (← head) = '!' then
      skip
      return "!" ++ name ++ "!"
    else return "!" ++ name
  else failure

/-- Whether the beginning of a tag is a handle of its own. -/
def isHandle (s : String) : Bool :=
  s.endsWith "!" && 1 < s.length

/-- A tag in one of its three forms. -/
def scanTag : Scan TokenKind := do
  require 2
  let kind ← form (← get)
  require 1
  if endsWord (← head) then return kind else failure
where
  form (c : Cursor) : Scan TokenKind := do
    if c.ahead 1 = '<' then
      skipN 2
      let text ← scanTagRest ""
      if (← head) = '>' then
        skip
        return .tag "" text
      else failure
    else
      let handle ← scanHandle
      if isHandle handle then return .tag handle (← scanTagRest "")
      else
        let suffix ← scanTagRest handle
        return if suffix = "" then .tag "" "!" else .tag "!" suffix

/-! ### Directives -/

/-- Reads a number of at most two digits, after some digits of it. -/
def scanVersionDigits : (fuel : Nat) → (value : Nat) → Scan Nat
  | 0, value => do
    if (← head).isDigit then failure else return value
  | fuel + 1, value => do
    let x ← head
    if x.isDigit then
      skip
      require 1
      scanVersionDigits fuel (value * 10 + (x.toNat - 48))
    else return value

/-- Reads a number of one or two digits. -/
def scanVersionNumber : Scan Nat := do
  require 1
  if (← head).isDigit then scanVersionDigits 2 0 else failure

/-- The version of the language. -/
def scanVersion : Scan TokenKind := do
  let major ← scanVersionNumber
  if (← head) = '.' then
    skip
    return .version major (← scanVersionNumber)
  else failure

/-- A handle and what it stands for. -/
def scanTagDirective : Scan TokenKind := do
  let handle ← scanHandle
  if handle ≠ "!" ∧ !isHandle handle then failure
  else
    require 1
    if isBlank (← head) then
      skipWhile isBlank
      let replacement ← scanTagRest ""
      require 1
      if endsWord (← head) then return .tagDirective handle replacement else failure
    else failure

/-- A directive, with the end of its line. -/
def scanDirective : Scan TokenKind := do
  skip
  let name ← takeWhile isWord
  if name = "" || !endsWord (← head) then failure
  else
    skipWhile isBlank
    let kind ← match name with
      | "YAML" => scanVersion
      | "TAG" => scanTagDirective
      | _ => failure
    skipLineEnd
    return kind

end Screensaver.Yaml

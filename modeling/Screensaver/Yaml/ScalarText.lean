import Screensaver.Yaml.Cursor

/-!
The texts of scalars.

A plain scalar ends where its context says so. A quoted scalar ends with its quote. Both may go over
several lines, and a line break between two words is then a space, unless there are more breaks,
which are kept but for the first. A block scalar is made of the lines that are indented far enough;
it is taken literally, or folded like the others.
-/

namespace Screensaver.Yaml

open Scan

/-! ### Gaps between words -/

/-- Blanks and line breaks between two words. -/
structure Gap where
  /-- The blanks, as long as there is no break. -/
  blanks : String
  /-- The first break; nothing if it was escaped. -/
  first : Option String
  /-- The breaks after the first. -/
  more : String

namespace Gap

def none : Gap := ⟨"", .none, ""⟩

/-- The gap after an escaped line break. -/
def escaped : Gap := ⟨"", some "", ""⟩

/-- Whether the gap goes over the end of a line. -/
def hasBreak (g : Gap) : Bool := g.first.isSome

/-- What the gap stands for in a text. -/
def text (g : Gap) : String :=
  match g.first with
  | .none => g.blanks
  | some b => if b = "\n" then (if g.more = "" then " " else g.more) else b ++ g.more

/-- Reads blanks and breaks. In a new line there must be no tab before the column `indent`. -/
def scan (indent : Nat) : (fuel : Nat) → Gap → Scan Gap
  | 0, _ => failure
  | fuel + 1, g => do
    require 1
    let x ← head
    if isBlank x then
      if g.hasBreak then
        if x = '\t' ∧ (← get).column < indent then failure
        else
          skip
          scan indent fuel g
      else
        skip
        scan indent fuel { g with blanks := g.blanks.push x }
    else if isBreak x then
      let b ← takeBreak
      if g.hasBreak then scan indent fuel { g with more := g.more ++ b }
      else scan indent fuel { g with blanks := "", first := some b }
    else return g

end Gap

/-! ### Plain scalars -/

/-- Whether a plain scalar ends before a character, with a given one after that. -/
def endsPlain (flow : Bool) (c after : Char) : Bool :=
  endsWord c || (c = ':' && endsWord after) ||
    (flow && (c = ',' || c = '?' || c = '[' || c = ']' || c = '{' || c = '}'))

/-- Reads a word of a plain scalar, after some text and a gap; gives the text with the word and the
gap that is then still open. -/
def scanPlainWord (flow : Bool) : (fuel : Nat) → (text : String) → Gap → Scan (String × Gap)
  | 0, _, _ => failure
  | fuel + 1, text, g => do
    let c ← get
    if endsPlain flow c.head (c.ahead 1) then return (text, g)
    else
      skip
      require 2
      scanPlainWord flow fuel ((text ++ g.text).push c.head) .none

/-- Reads the words of a plain scalar, after some text and the gap that follows it. Tells with the
text whether line breaks after it have been read, too. -/
def scanPlainFrom (flow : Bool) (indent : Nat) :
    (fuel : Nat) → (text : String) → Gap → Scan (String × Bool)
  | 0, _, _ => failure
  | fuel + 1, text, g => do
    require 4
    let c ← get
    if c.atDocumentMark || c.head = '#' then return (text, g.hasBreak)
    else
      let (text, g) ← scanPlainWord flow fuel text g
      let x ← head
      if !(isBlank x || isBreak x) then return (text, g.hasBreak)
      else
        let g ← g.scan indent fuel
        if !flow && (← get).column < indent then return (text, g.hasBreak)
        else scanPlainFrom flow indent fuel text g

/-- Reads a plain scalar. Tells with its text whether line breaks after it have been read, too. -/
def scanPlain (flow : Bool) (indent : Nat) : Scan (String × Bool) := do
  scanPlainFrom flow indent (← get).limit "" .none

/-! ### Quoted scalars -/

/-- The value of a hexadecimal digit. -/
def hexValue? (c : Char) : Option Nat :=
  if c.isDigit then some (c.toNat - 48)
  else if 'a' ≤ c ∧ c ≤ 'f' then some (c.toNat - 87)
  else if 'A' ≤ c ∧ c ≤ 'F' then some (c.toNat - 55)
  else none

/-- The value of the next `n` hexadecimal digits. -/
def hexNumber? (n : Nat) (cs : List Char) : Option Nat :=
  if hasAtLeast n cs then
    (cs.take n).foldl (fun v c => v.bind fun v => (hexValue? c).map (v * 16 + ·)) (some 0)
  else none

/-- Reads a character given by the `n` hexadecimal digits of its code. -/
def scanCode (n : Nat) : Scan Char := do
  require n
  match hexNumber? n (← get).rest with
  | none => failure
  | some code =>
    if code.isValidChar then
      skipN n
      return .ofNat code
    else failure

/-- Reads what stands after a backslash, which gives a character. -/
def scanEscape : Scan Char := do
  let x := (← get).ahead 1
  skipN 2
  match x with
  | '0' => return Char.ofNat 0
  | 'a' => return Char.ofNat 7
  | 'b' => return Char.ofNat 8
  | 't' | '\t' => return '\t'
  | 'n' => return '\n'
  | 'v' => return Char.ofNat 11
  | 'f' => return Char.ofNat 12
  | 'r' => return '\r'
  | 'e' => return Char.ofNat 27
  | ' ' | '"' | '\'' | '\\' => return x
  | 'N' => return Char.ofNat 0x85
  | '_' => return Char.ofNat 0xA0
  | 'L' => return Char.ofNat 0x2028
  | 'P' => return Char.ofNat 0x2029
  | 'x' => scanCode 2
  | 'u' => scanCode 4
  | 'U' => scanCode 8
  | _ => failure

/-- Reads a word of a quoted scalar. Tells with the text whether it ends with an escaped line
break. -/
def scanQuotedWord (quote : Char) : (fuel : Nat) → (text : String) → Scan (String × Bool)
  | 0, _ => failure
  | fuel + 1, text => do
    let c ← get
    let x := c.head
    if endsWord x then return (text, false)
    else if x = quote then
      if quote = '\'' ∧ c.ahead 1 = quote then
        skipN 2
        require 2
        scanQuotedWord quote fuel (text.push x)
      else return (text, false)
    else if quote = '"' ∧ x = '\\' then
      if isBreak (c.ahead 1) then
        require 3
        skip
        skipBreak
        return (text, true)
      else
        let e ← scanEscape
        require 2
        scanQuotedWord quote fuel (text.push e)
    else
      skip
      require 2
      scanQuotedWord quote fuel (text.push x)

/-- Reads the words of a quoted scalar up to its quote. -/
def scanQuotedFrom (quote : Char) : (fuel : Nat) → (text : String) → Scan String
  | 0, _ => failure
  | fuel + 1, text => do
    require 4
    let c ← get
    if c.atDocumentMark || c.head = ending then failure
    else
      let (text, escaped) ← scanQuotedWord quote fuel text
      require 1
      if (← head) = quote then
        skip
        return text
      else
        let g ← (if escaped then Gap.escaped else Gap.none).scan 0 fuel
        scanQuotedFrom quote fuel (text ++ g.text)

/-- Reads a quoted scalar, from its first quote. -/
def scanQuoted (quote : Char) : Scan String := do
  skip
  scanQuotedFrom quote (← get).limit ""

/-! ### Block scalars -/

/-- What happens to the line breaks at the end of a block scalar. -/
inductive Chomping where
  | clip
  | strip
  | keep
deriving DecidableEq

/-- The chomping of an indicator. -/
def chomping? : Char → Option Chomping
  | '+' => some .keep
  | '-' => some .strip
  | _ => none

/-- Reads the digit that fixes the indentation; a zero is refused. -/
def scanIncrement : Scan Nat := do
  let x ← head
  if x = '0' then failure
  else if x.isDigit then
    skip
    return x.toNat - 48
  else return 0

/-- Reads the indicators of a block scalar, in either order. -/
def scanIndicators : Scan (Chomping × Nat) := do
  require 1
  match chomping? (← head) with
  | some ch =>
    skip
    require 1
    return (ch, ← scanIncrement)
  | none =>
    let n ← scanIncrement
    if n = 0 then return (.clip, 0)
    else
      require 1
      match chomping? (← head) with
      | some ch =>
        skip
        return (ch, n)
      | none => return (.clip, n)

/-- Reads indentation and empty lines before a line of a block scalar; an `indent` of zero is still
to be found. Gives the breaks and the greatest column reached. -/
def scanBlockBreaks (indent : Nat) :
    (fuel : Nat) → (breaks : String) → (widest : Nat) → Scan (String × Nat)
  | 0, _, _ => failure
  | fuel + 1, breaks, widest => do
    require 1
    let c ← get
    let inside := indent = 0 ∨ c.column < indent
    if inside ∧ c.head = ' ' then
      skip
      scanBlockBreaks indent fuel breaks widest
    else
      let widest := max widest c.column
      if inside ∧ c.head = '\t' then failure
      else if isBreak c.head then
        let b ← takeBreak
        scanBlockBreaks indent fuel (breaks ++ b) widest
      else return (breaks, widest)

/-- The lines of a block scalar that were read so far. -/
structure BlockText where
  text : String
  /-- The break after the last line. -/
  leading : String
  /-- The breaks after that. -/
  trailing : String
  /-- Whether the last line starts with a blank. -/
  afterBlank : Bool

/-- Reads the lines of a block scalar. -/
def scanBlockLines (literal : Bool) (indent : Nat) : (fuel : Nat) → BlockText → Scan BlockText
  | 0, _ => failure
  | fuel + 1, b => do
    let c ← get
    if c.column ≠ indent || c.head = ending then return b
    else
      let blank := isBlank c.head
      let joined :=
        if !literal && !b.afterBlank && !blank && b.leading = "\n" then
          if b.trailing = "" then " " else ""
        else b.leading
      let line ← takeWhile fun x => !endsLine x
      let leading ← takeBreak
      let (trailing, _) ← scanBlockBreaks indent fuel "" 0
      scanBlockLines literal indent fuel
        { text := b.text ++ joined ++ b.trailing ++ line, leading, trailing, afterBlank := blank }

/-- Passes over blanks and a comment, and then over the end of the line. -/
def skipLineEnd : Scan Unit := do
  skipWhile isBlank
  if (← head) = '#' then skipLine
  if endsLine (← head) then skipBreak else failure

/-- Reads a block scalar from its indicator, in a block indented to the column `parent`, which is
negative outside all blocks. -/
def scanBlock (literal : Bool) (parent : Int) : Scan String := do
  skip
  let (chomping, increment) ← scanIndicators
  skipLineEnd
  let given := if increment = 0 then 0 else parent.toNat + increment
  let limit := (← get).limit
  let (breaks, widest) ← scanBlockBreaks given limit "" 0
  let indent := if given = 0 then max (max widest (parent + 1).toNat) 1 else given
  let b ← scanBlockLines literal indent limit ⟨"", "", breaks, false⟩
  return match chomping with
    | .strip => b.text
    | .clip => b.text ++ b.leading
    | .keep => b.text ++ b.leading ++ b.trailing

end Screensaver.Yaml

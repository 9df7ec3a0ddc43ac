import Screensaver.Text.CellClasses
import Screensaver.Text.Utf8

/-!
How many terminal cells a line of text takes.

Escape sequences and control characters take none, ordinary characters one, ideographs and most
pictographs two. Combining marks take none. Characters that are shown together count together: a
pictograph with its modifiers and everything joined to it counts once, and so do two regional
indicators that make a flag and the letters of a Hangul syllable; of all others that join each other
the cells are added up.

A title or a device command inside an escape sequence is read byte by byte, so that a character of
several bytes ends it if one of them is the byte that ends such texts.
-/

namespace Screensaver.Text

/-! ### Escape sequences -/

/-- How far an escape sequence has been read. -/
inductive EscapeState where
  | ground
  | escape
  | escapeMarks
  | control
  | controlNumbers
  | controlMarks
  | device
  | deviceNumbers
  | deviceMarks
  | deviceText
  | systemText
  | otherText
deriving DecidableEq

namespace EscapeState

/-- Whether all bytes outside ASCII are part of the sequence. -/
def swallows : EscapeState → Bool
  | .deviceText | .systemText => true
  | _ => false

/-- The state after an ASCII character, and whether the character is shown. -/
def step (s : EscapeState) (c : Nat) : EscapeState × Bool :=
  if c = 0x18 ∨ c = 0x1A then (.ground, false)
  else if c = 0x1B then (if s = .device then .deviceText else .escape, false)
  else match s with
    | .ground => (.ground, 0x20 ≤ c && c < 0x7F)
    | .escape =>
      if c < 0x20 ∨ c = 0x7F then (.escape, false)
      else if c < 0x30 then (.escapeMarks, false)
      else if c = 0x5B then (.control, false)
      else if c = 0x5D then (.systemText, false)
      else if c = 0x50 then (.device, false)
      else if c = 0x58 ∨ c = 0x5E ∨ c = 0x5F then (.otherText, false)
      else (.ground, false)
    | .escapeMarks =>
      if c < 0x30 ∨ c = 0x7F then (.escapeMarks, false) else (.ground, false)
    | .control =>
      if c < 0x20 ∨ c = 0x7F then (.control, false)
      else if c < 0x30 then (.controlMarks, false)
      else if c < 0x40 then (.controlNumbers, false)
      else (.ground, false)
    | .controlNumbers =>
      if c < 0x20 ∨ c = 0x7F then (.controlNumbers, false)
      else if c < 0x30 then (.controlMarks, false)
      else if c < 0x40 then (.controlNumbers, false)
      else (.ground, false)
    | .controlMarks =>
      if c < 0x30 ∨ c = 0x7F then (.controlMarks, false) else (.ground, false)
    | .device =>
      if 0x08 ≤ c ∧ c < 0x0E then (.deviceText, false)
      else if c < 0x20 ∨ c = 0x7F then (.device, false)
      else if c < 0x30 then (.deviceMarks, false)
      else if c < 0x40 then (.deviceNumbers, false)
      else (.deviceText, false)
    | .deviceNumbers =>
      if c < 0x20 ∨ c = 0x7F then (.deviceNumbers, false)
      else if c < 0x30 then (.deviceMarks, false)
      else if c < 0x40 then (.deviceNumbers, false)
      else (.deviceText, false)
    | .deviceMarks =>
      if c < 0x30 ∨ c = 0x7F then (.deviceMarks, false) else (.deviceText, false)
    | .deviceText => (.deviceText, false)
    | .systemText => if c = 0x07 then (.ground, false) else (.systemText, false)
    | .otherText => (.otherText, false)

/-- The state after a byte outside ASCII that is read by itself. Some of these bytes start a
sequence, and one ends the texts in it. -/
def stepByte (s : EscapeState) (b : UInt8) : EscapeState :=
  if b = 0x9C then .ground
  else if s.swallows then s
  else if b = 0x90 then .device
  else if b = 0x9B then .control
  else if b = 0x9D then .systemText
  else if b = 0x98 ∨ b = 0x9E ∨ b = 0x9F then .otherText
  else .ground

end EscapeState

/-! ### Characters that are shown together -/

/-- What a character does to its neighbours. -/
inductive Joining where
  /-- Stands apart from everything. -/
  | control
  /-- Joins the character before it. -/
  | extending
  /-- Joins the character before it, and pictographs to each other. -/
  | joiner
  /-- Joins the character before it and has cells of its own. -/
  | spacing
  /-- Joins the character after it. -/
  | leadingMark
  | pictograph
  /-- Makes a flag with another one. -/
  | regional
  /-- The letters and syllables of Hangul, by where they stand in a syllable: a leading letter, a
  vowel, a trailing letter, a syllable without a trailing letter, and one with it. -/
  | leading
  | vowel
  | trailing
  | openSyllable
  | closedSyllable
  | other
deriving DecidableEq

/-- What a character outside ASCII does to its neighbours. -/
def Joining.of (c : Nat) : Joining :=
  if c = 0x200D then .joiner
  else if inRanges extendingRanges c then .extending
  else if inRanges controlRanges c then .control
  else if inRanges spacingRanges c then .spacing
  else if inRanges leadingMarkRanges c then .leadingMark
  else if 0x1F1E6 ≤ c ∧ c ≤ 0x1F1FF then .regional
  else if inRanges pictographRanges c then .pictograph
  else if (0x1100 ≤ c ∧ c < 0x1160) ∨ (0xA960 ≤ c ∧ c < 0xA97D) then .leading
  else if (0x1160 ≤ c ∧ c < 0x11A8) ∨ (0xD7B0 ≤ c ∧ c < 0xD7C7) then .vowel
  else if (0x11A8 ≤ c ∧ c < 0x1200) ∨ (0xD7CB ≤ c ∧ c < 0xD7FC) then .trailing
  else if 0xAC00 ≤ c ∧ c < 0xD7A4 then
    if (c - 0xAC00) % 28 = 0 then .openSyllable else .closedSyllable
  else .other

/-- The cells of a single character outside ASCII. -/
def charWidth (c : Nat) : Nat :=
  match Joining.of c with
  | .control | .extending | .joiner => 0
  | .regional => 2
  | .pictograph => if inRanges colorfulRanges c then 2 else 1
  | _ =>
    if c = 0x2E3A then 3
    else if c = 0x2E3B then 4
    else if inRanges wideRanges c then 2
    else 1

/-- What the next character may join. -/
inductive Cluster where
  /-- Nothing. -/
  | closed
  /-- Something that only marks can join. -/
  | plain
  /-- A mark that anything can join. -/
  | leadingMark
  | pictograph
  /-- A pictograph followed by a joiner. -/
  | joined
  /-- A single regional indicator. -/
  | regional
  /-- A Hangul syllable, by its last letter. -/
  | leading
  | vowel
  | trailing
deriving DecidableEq

namespace Cluster

/-- What may join a character that joined nothing. -/
def fresh : Joining → Cluster
  | .control => .closed
  | .leadingMark => .leadingMark
  | .pictograph => .pictograph
  | .regional => .regional
  | .leading => .leading
  | .vowel | .openSyllable => .vowel
  | .trailing | .closedSyllable => .trailing
  | .extending | .joiner | .spacing | .other => .plain

/-- What may join a character that itself joins what was there; `none` if it does not join it. -/
def join? : Cluster → Joining → Option Cluster
  | .closed, _ | _, .control => none
  | .leading, .leading => some .leading
  | .leading, .vowel | .leading, .openSyllable => some .vowel
  | .leading, .closedSyllable => some .trailing
  | .vowel, .vowel => some .vowel
  | .vowel, .trailing | .trailing, .trailing => some .trailing
  | .pictograph, .extending => some .pictograph
  | .pictograph, .joiner => some .joined
  | .joined, .pictograph => some .pictograph
  | .regional, .regional => some .plain
  | _, .extending | _, .joiner | _, .spacing => some .plain
  | .leadingMark, j => some (fresh j)
  | _, _ => none

end Cluster

/-- How the characters that join a first one count. -/
inductive Counting where
  /-- Each by its own cells. -/
  | all
  /-- Not at all. -/
  | firstOnly
  /-- Not at all, but they may ask for the other width of a pictograph. -/
  | pictograph
deriving DecidableEq

/-- How the characters that join a given one count. -/
def Joining.counting : Joining → Counting
  | .pictograph => .pictograph
  | .regional | .leading => .firstOnly
  | _ => .all

/-! ### Lines -/

/-- What a measured text has come to: the state of escape sequences, what the next character may
join and how it counts then, the cells before the characters shown last and those of them. -/
structure Measure where
  escape : EscapeState
  cluster : Cluster
  counting : Counting
  before : Nat
  last : Nat

namespace Measure

/-- A character outside ASCII that joins nothing. -/
def fresh (m : Measure) (c : Nat) : Measure :=
  let j := Joining.of c
  { escape := .ground, cluster := .fresh j, counting := j.counting, before := m.before + m.last,
    last := charWidth c }

/-- A character outside ASCII, which may join those before it. -/
def join (m : Measure) (c : Nat) : Measure :=
  match m.cluster.join? (.of c) with
  | none => m.fresh c
  | some cluster =>
    let last := match m.counting with
      | .all => m.last + charWidth c
      | .firstOnly => m.last
      | .pictograph => if c = 0xFE0E then 1 else if c = 0xFE0F then 2 else m.last
    { m with cluster, last }

/-- The next character of a text. -/
def step (m : Measure) (c : Char) : Measure :=
  let code := c.toNat
  if code < 0x80 then
    let (state, shown) := m.escape.step code
    { escape := state, cluster := .closed, counting := .all, before := m.before + m.last,
      last := if shown then 1 else 0 }
  else if m.escape.swallows then
    { m with escape := (bytes (String.singleton c)).foldl EscapeState.stepByte m.escape }
  else if m.escape = .ground then m.join code
  else m.fresh code

end Measure

/-- The number of cells a line takes. -/
def width (s : String) : Nat :=
  let m := s.toList.foldl Measure.step ⟨.ground, .closed, .all, 0, 0⟩
  m.before + m.last

end Screensaver.Text

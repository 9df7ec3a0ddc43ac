import Screensaver.Yaml.Token

/-!
From characters to tokens.

Besides what is written, tokens mark where blocks start and end, which follows from indentation, and
where keys are. A key in the usual form, `key: value`, is only known to be one when its colon is
found, in the same line and at most 1024 characters after its start: until then every token that
can start a key is remembered, and the key's own token is put in front of it afterwards.

A token is read no sooner than it is needed. It is handed out once the two after it are known as
well, and once it is settled that it starts no key. So what comes later in a document, even if it
makes no sense, does not matter to a part that is complete before it.
-/

namespace Screensaver.Yaml

/-- A token that may turn out to start a key. -/
structure PossibleKey where
  /-- Whether this is still open. -/
  possible : Bool
  /-- Whether it has to. -/
  required : Bool
  /-- The token's number. -/
  token : Nat
  index : Nat
  line : Nat
  column : Nat

/-- The state of reading tokens. -/
structure Scanner where
  cursor : Cursor
  tokens : Array Token
  /-- The number of tokens that have been handed out. -/
  taken : Nat
  /-- The column of the current block, negative outside all blocks. -/
  indent : Int
  /-- The columns of the blocks around it. -/
  outer : List Int
  /-- Whether a key can start here. -/
  keyAllowed : Bool
  /-- The last possible key of every context: of the blocks, and of every open bracket. -/
  keys : Array PossibleKey
  /-- The tokens that are held back for the sake of a possible key, and the contexts of those. -/
  held : List (Nat × Nat)

/-- Steps of reading tokens, which may fail. -/
abbrev Tokenize := StateT Scanner Option

namespace Scanner

/-- The state after the token that starts the stream. -/
def start (c : Cursor) : Scanner :=
  { cursor := c, tokens := #[⟨.streamStart, 0⟩], taken := 0, indent := -1, outer := [],
    keyAllowed := true
    keys := #[{ possible := false, required := false, token := 0, index := 0, line := 0, column := 0 }]
    held := [] }

/-- The greatest depth of nesting. -/
def maxDepth : Nat := 10000

/-- Whether there is an open bracket. -/
def inFlow (s : Scanner) : Bool := 1 < s.keys.size

/-- The innermost context. -/
def context (s : Scanner) : Nat := s.keys.size - 1

/-- Puts a token in front of the one with a given number; at the end if that one has already been
handed out. -/
def insert (number : Nat) (t : Token) (s : Scanner) : Scanner :=
  if number < s.taken then { s with tokens := s.tokens.push t }
  else { s with tokens := s.tokens.insertIdxIfInBounds number t }

end Scanner

namespace Tokenize

/-- Reads characters. -/
def reading {α : Type} (x : Scan α) : Tokenize α := fun s =>
  (x s.cursor).map fun (a, cursor) => (a, { s with cursor })

/-- Adds a token that starts in a given line. -/
def emit (kind : TokenKind) (line : Nat) : Tokenize Unit :=
  modify fun s => { s with tokens := s.tokens.push ⟨kind, line⟩ }

/-- Says whether a key can start next. -/
def allowKey (b : Bool) : Tokenize Unit :=
  modify fun s => { s with keyAllowed := b }

/-! ### Blocks -/

/-- Starts a block at a column, unless it is already that deep. The token that starts it is put in
front of the one with a given number. -/
def openBlock (column : Nat) (number : Nat) (kind : TokenKind) (line : Nat) : Tokenize Unit := do
  let s ← get
  if s.inFlow || (column : Int) ≤ s.indent then return
  else if Scanner.maxDepth ≤ s.outer.length then failure
  else set ({ s with outer := s.indent :: s.outer, indent := column }.insert number ⟨kind, line⟩)

/-- Ends the blocks that are deeper than a column. -/
def closeBlocks (column : Int) : Tokenize Unit :=
  modify fun s =>
    if s.inFlow then s
    else
      let (indent, outer, ended) := go s.indent s.outer 0
      { s with
        indent, outer, tokens := s.tokens ++ Array.replicate ended ⟨.blockEnd, s.cursor.line⟩ }
where
  go : Int → List Int → Nat → Int × List Int × Nat
    | indent, [], n => (indent, [], n)
    | indent, o :: outer, n => if indent ≤ column then (indent, o :: outer, n) else go o outer (n + 1)

/-! ### Keys -/

/-- Whether the possible key of a context can still be followed by its colon. If not it is given up,
and it must not have been required. -/
def keyPossible (context : Nat) : Tokenize Bool := do
  let s ← get
  match s.keys[context]? with
  | none => return false
  | some k =>
    if !k.possible then return false
    else if s.cursor.line ≤ k.line ∧ s.cursor.index ≤ k.index + 1024 then return true
    else if k.required then failure
    else
      set { s with keys := s.keys.setIfInBounds context { k with possible := false } }
      return false

/-- Gives up the possible key of the innermost context, and lets go of its token. -/
def releaseKey : Tokenize Unit :=
  modify fun s =>
    match s.keys[s.context]? with
    | none => s
    | some k =>
      { s with keys := s.keys.setIfInBounds s.context { k with possible := false }
               held := s.held.filter fun h => h.1 ≠ k.token }

/-- Gives up the possible key of the innermost context, if there is one; it must not have been
required. -/
def dropKey : Tokenize Unit := do
  let s ← get
  match s.keys[s.context]? with
  | none => return
  | some k => if k.possible then (if k.required then failure else releaseKey)

/-- Remembers that the next token may start a key. -/
def saveKey : Tokenize Unit := do
  if (← get).keyAllowed then
    dropKey
    modify fun s =>
      let c := s.cursor
      let k : PossibleKey :=
        { possible := true, required := !s.inFlow && s.indent = (c.column : Int)
          token := s.tokens.size, index := c.index, line := c.line, column := c.column }
      { s with keys := s.keys.setIfInBounds s.context k
               held := (k.token, s.context) :: s.held.filter fun h => h.1 ≠ k.token }

/-! ### Blanks and comments -/

/-- Whether the line break under the cursor is a character outside ASCII. -/
def isWideBreak (c : Char) : Bool := isBreak c && 0x80 ≤ c.toNat

/-- The number of characters looked at in search of a comment. -/
def commentReach : Nat := 512

/-- Looks for a comment after the character under the cursor, with nothing but blanks and line breaks
before it. Gives its distance. Behind a break outside ASCII nothing is found. -/
def nextComment (p : Nat) : (fuel : Nat) → Scan (Option Nat)
  | 0 => return none
  | fuel + 1 => do
    Scan.require (p + 1)
    let c ← get
    let x := c.ahead p
    if isWideBreak (c.ahead (p - 1)) then return none
    else if x = '#' then return some p
    else if isBlank x || isBreak x then nextComment (p + 1) fuel
    else return none

/-- Passes over characters until a number of them has been read. -/
def advanceTo (index : Nat) : (fuel : Nat) → Scan Unit
  | 0 => return
  | fuel + 1 => do
    Scan.require 1
    let c ← get
    if index ≤ c.index then return
    else
      if endsLine c.head then Scan.skipBreak else Scan.skip
      advanceTo index fuel

/-- Passes over a comment and over the comments in the lines after it, if they are near. -/
def skipComments : (fuel : Nat) → Scan Unit
  | 0 => return
  | fuel + 1 => do
    Scan.skipLine
    match ← nextComment 1 (commentReach - 1) with
    | some n =>
      advanceTo ((← get).index + n) commentReach
      skipComments fuel
    | none => return

/-- Passes over what separates tokens. Tabs do not, where a key can start. A byte order mark at the
start of a line is passed over; it is looked for where the characters at hand begin. -/
def skipToToken : (fuel : Nat) → Tokenize Unit
  | 0 => failure
  | fuel + 1 => do
    let s ← get
    let tabs := s.inFlow || !s.keyAllowed
    reading do
      Scan.require 1
      let c ← get
      if c.column = 0 ∧ c.marked then Scan.skip
      Scan.skipWhile fun x => x = ' ' || (x = '\t' && tabs)
      if (← Scan.head) = '#' then skipComments c.limit
    if isBreak (← get).cursor.head then
      reading Scan.skipBreak
      if !s.inFlow then allowKey true
      skipToToken fuel

/-- Looks for a comment from the character under the cursor on, with nothing but blanks before it. -/
def nearComment (p : Nat) : (fuel : Nat) → Scan Bool
  | 0 => return false
  | fuel + 1 => do
    Scan.require (p + 1)
    let x := (← get).ahead p
    if isBlank x then nearComment (p + 1) fuel else return x = '#'

/-- Passes over a comment that follows a token in its line, if it is near. -/
def skipLineComment : Scan Unit := do
  if (← get).newlines = 0 then
    if ← nearComment 0 commentReach then Scan.skipLine

/-! ### Single tokens -/

/-- A token of a number of characters. -/
def emitMark (kind : TokenKind) (length : Nat) : Tokenize Unit := do
  emit kind (← get).cursor.line
  reading (Scan.skipN length)

/-- An opening bracket. -/
def openFlow (kind : TokenKind) : Tokenize Unit := do
  saveKey
  let s ← get
  if Scanner.maxDepth < s.keys.size then failure
  let c := s.cursor
  set { s with
    keyAllowed := true
    keys := s.keys.push
      { possible := false, required := false, token := s.tokens.size, index := c.index,
        line := c.line, column := c.column } }
  emitMark kind 1

/-- Leaves the innermost bracket, if there is one. -/
def leaveFlow : Tokenize Unit := do
  if (← get).inFlow then
    releaseKey
    modify fun s => { s with keys := s.keys.pop }

/-- A closing bracket. -/
def closeFlow (kind : TokenKind) : Tokenize Unit := do
  dropKey
  leaveFlow
  allowKey false
  emitMark kind 1

/-- A comma between brackets. -/
def flowEntry : Tokenize Unit := do
  dropKey
  allowKey true
  emitMark .flowEntry 1

/-- Starts a block here for a token that needs one, if a key could start here. -/
def blockHere (kind : TokenKind) : Tokenize Unit := do
  let s ← get
  if s.inFlow then return
  else if s.keyAllowed then openBlock s.cursor.column s.tokens.size kind s.cursor.line
  else failure

/-- The dash of a list entry. -/
def blockEntry : Tokenize Unit := do
  blockHere .blockSequenceStart
  dropKey
  allowKey true
  emitMark .blockEntry 1

/-- The question mark of a key. -/
def explicitKey : Tokenize Unit := do
  blockHere .blockMappingStart
  dropKey
  allowKey (!(← get).inFlow)
  emitMark .key 1

/-- The token after which a colon was found is a key. -/
def keyFound (k : PossibleKey) : Tokenize Unit := do
  modify fun s => s.insert k.token ⟨.key, k.line⟩
  openBlock k.column k.token .blockMappingStart k.line
  releaseKey
  allowKey false

/-- The colon of a value: if a possible key went before, that is now a key. -/
def valueMark : Tokenize Unit := do
  let context := (← get).context
  let found ← keyPossible context
  match (← get).keys[context]?, found with
  | some k, true => keyFound k
  | _, _ =>
    blockHere .blockMappingStart
    allowKey (!(← get).inFlow)
  emitMark .value 1

/-- A token that can start a key, read by a step that gives its kind. -/
def keyToken (scan : Scan TokenKind) : Tokenize Unit := do
  saveKey
  allowKey false
  let line := (← get).cursor.line
  emit (← reading scan) line

/-- A scalar without marks around it. After line breaks a key can start. -/
def plainScalar : Tokenize Unit := do
  saveKey
  let s ← get
  let (text, overBreak) ← reading (scanPlain s.inFlow (s.indent + 1).toNat)
  allowKey overBreak
  emit (.scalar text true) s.cursor.line

/-- A scalar that goes over several lines and cannot be a key. -/
def blockScalar (literal : Bool) : Tokenize Unit := do
  dropKey
  allowKey true
  let s ← get
  let text ← reading (scanBlock literal s.indent)
  emit (.scalar text false) s.cursor.line

/-- Ends all blocks. -/
def closeAll : Tokenize Unit := do
  closeBlocks (-1)
  dropKey
  allowKey false

/-- The end of the stream. -/
def finish : Tokenize Unit := do
  modify fun s =>
    if s.cursor.column = 0 then s
    else { s with cursor := { s.cursor with column := 0, line := s.cursor.line + 1 } }
  closeAll
  emit .streamEnd (← get).cursor.line

/-- A directive. -/
def directive : Tokenize Unit := do
  closeAll
  let line := (← get).cursor.line
  emit (← reading scanDirective) line

/-- Whether a plain scalar can start with a character, with a given one after it. -/
def startsPlain (flow : Bool) (c after : Char) : Bool :=
  if c = '-' then !isBlank after
  else if c = '?' || c = ':' then !flow && !endsWord after
  else !endsWord c && !",[]\x7b\x7d#&*!|>'\"%@`".contains c

/-- Reads the token under the cursor; there is one, and it is neither a directive nor a mark of a
document. -/
def content : Tokenize Unit := do
  let s ← get
  let flow := s.inFlow
  let c := s.cursor.head
  let after := s.cursor.ahead 1
  if c = '[' then openFlow .flowSequenceStart
  else if c = '{' then openFlow .flowMappingStart
  else if c = ']' then closeFlow .flowSequenceEnd
  else if c = '}' then closeFlow .flowMappingEnd
  else if c = ',' then flowEntry
  else if c = '-' ∧ endsWord after then blockEntry
  else if c = '?' ∧ (flow || endsWord after) then explicitKey
  else if c = ':' ∧ (flow || endsWord after) then valueMark
  else if c = '*' then keyToken (TokenKind.alias <$> scanName)
  else if c = '&' then keyToken (TokenKind.anchor <$> scanName)
  else if c = '!' then keyToken scanTag
  else if c = '|' ∧ !flow then blockScalar true
  else if c = '>' ∧ !flow then blockScalar false
  else if c = '\'' ∨ c = '"' then keyToken do return .scalar (← scanQuoted c) false
  else if startsPlain flow c after then plainScalar
  else failure

/-- Reads the next token, and with it the ends of blocks before it. -/
def next : Tokenize Unit := do
  reading (Scan.require 1)
  skipToToken (← get).cursor.limit
  closeBlocks (← get).cursor.column
  reading (Scan.require 4)
  let c := (← get).cursor
  if c.head = ending then finish
  else if c.column = 0 ∧ c.head = '%' then directive
  else if c.column = 0 ∧ startsDocument c.rest then
    closeAll
    emitMark .documentStart 3
  else if c.column = 0 ∧ endsDocument c.rest then
    closeAll
    emitMark .documentEnd 3
  else
    content
    if ((← get).tokens.back?.map Token.kind) ≠ some .blockEntry then reading skipLineComment

/-! ### Handing out -/

/-- Reads tokens until the next one can be handed out. -/
def prepare : (fuel : Nat) → Tokenize Unit
  | 0 => failure
  | fuel + 1 => do
    let s ← get
    let settled ←
      if s.tokens.size < s.taken + 3 then pure false
      else
        match s.held.lookup s.taken with
        | none => pure true
        | some context => not <$> keyPossible context
    if !settled then
      next
      prepare fuel

/-- The next token. -/
def peek : Tokenize Token := do
  prepare (← get).cursor.limit
  let s ← get
  match s.tokens[s.taken]? with
  | some t => return t
  | none => failure

/-- Goes on to the token after the next. -/
def advance : Tokenize Unit :=
  modify fun s => { s with taken := s.taken + 1, held := s.held.filter fun h => h.1 ≠ s.taken }

end Tokenize

end Screensaver.Yaml

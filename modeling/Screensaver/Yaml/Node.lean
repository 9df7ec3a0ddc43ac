import Screensaver.Yaml.Scanner
import Screensaver.Yaml.Value

/-!
Documents as trees.

A document is a scalar, a list or a mapping, with lists and mappings of further nodes. Every node has
a tag, given or found from how it is written, and the line it starts in. A node can be given a name,
and an alias stands for the last node of its name that was started before; the named nodes are kept
beside the tree, by number.

Only the first document of a stream is read, and as little as possible of what comes after it.
Anything that is not well formed gives no tree.
-/

namespace Screensaver.Yaml

/-- A part of a document. Lines are counted from one. -/
inductive Node where
  | scalar (line : Nat) (tag : String) (text : String)
  | sequence (line : Nat) (tag : String) (items : List Node)
  | mapping (line : Nat) (tag : String) (pairs : List (Node × Node))
  /-- Stands for the named node with a number; `token` tells aliases apart. -/
  | alias (line : Nat) (name : String) (target : Nat) (token : Nat)

/-- A document with its named nodes. -/
structure Document where
  root : Node
  named : List (Nat × Node)

namespace Node

/-- The state of reading a tree. -/
structure Builder where
  scanner : Scanner
  /-- What the beginnings of tags stand for. -/
  handles : List (String × String)
  /-- The numbers of the nodes with names, the last first. -/
  names : List (String × Nat)
  /-- The named nodes that are complete. -/
  named : List (Nat × Node)
  /-- The number of nodes with names. -/
  count : Nat

/-- Steps of reading a tree, which may fail. -/
abbrev Build := StateT Builder Option

/-- Handles tokens. -/
def onTokens {α : Type} (x : Tokenize α) : Build α := fun b =>
  (x b.scanner).map fun (a, scanner) => (a, { b with scanner })

/-- The next token. -/
def peek : Build Token := onTokens Tokenize.peek

/-- Goes on to the token after the next. -/
def advance : Build Unit := onTokens Tokenize.advance

/-- Takes the next token if it is of a given kind. -/
def accept (kind : TokenKind) : Build Bool := do
  if (← peek).kind = kind then
    advance
    return true
  else return false

/-- The node of something left out. -/
def absent (line : Nat) : Node := .scalar (line + 1) Tag.null ""

/-! ### Properties of nodes -/

/-- What is given in front of a node. -/
structure Properties where
  anchor : Option String
  tag : Option (String × String)
  /-- The line of the first property, or else of the node. -/
  line : Nat

/-- Reads a name and a tag in either order. -/
def properties : Build Properties := do
  let t ← peek
  match t.kind with
  | .anchor name =>
    advance
    match (← peek).kind with
    | .tag handle suffix =>
      advance
      return ⟨some name, some (handle, suffix), t.line⟩
    | _ => return ⟨some name, none, t.line⟩
  | .tag handle suffix =>
    advance
    match (← peek).kind with
    | .anchor name =>
      advance
      return ⟨some name, some (handle, suffix), t.line⟩
    | _ => return ⟨none, some (handle, suffix), t.line⟩
  | _ => return ⟨none, none, t.line⟩

/-- The full text of a tag; empty if there is none. -/
def fullTag : Option (String × String) → Build String
  | none => return ""
  | some ("", suffix) => return suffix
  | some (handle, suffix) => do
    match (← get).handles.lookup handle with
    | some start => if start ++ suffix = "" then failure else return start ++ suffix
    | none => failure

/-- The tag of a node: the one that was given, or else its own. -/
def tagOr (own : String) (given : String) : String :=
  if given = "" ∨ given = "!" then own else Tag.short given

/-- Gives the next number to a name. -/
def startNamed : Option String → Build (Option Nat)
  | none => return none
  | some name => do
    let b ← get
    set { b with names := (name, b.count) :: b.names, count := b.count + 1 }
    return some b.count

/-- Keeps a node that was given a number. -/
def keepNamed (number : Option Nat) (n : Node) : Build Node := do
  match number with
  | some i => modify fun b => { b with named := (i, n) :: b.named }
  | none => pure ()
  return n

/-! ### Nodes -/

/-- A node that has properties and nothing else. -/
def emptyNode (p : Properties) (given : String) : Build Node := do
  if p.anchor.isNone && given = "" then failure
  else
    let number ← startNamed p.anchor
    keepNamed number (.scalar (p.line + 1) (tagOr Tag.null given) "")

mutual

/-- Reads a node. In a block, lists and mappings may be written without brackets, and as the value
of a key also a list that is not indented. -/
def build (block indentless : Bool) : (fuel : Nat) → Build Node
  | 0 => failure
  | fuel + 1 => do
    let first ← peek
    match first.kind with
    | .alias name =>
      let b ← get
      match b.names.lookup name with
      | none => failure
      | some target =>
        advance
        return .alias (first.line + 1) name target b.scanner.taken
    | _ =>
      let p ← properties
      let given ← fullTag p.tag
      let line := p.line + 1
      let t ← peek
      match t.kind with
      | .scalar text plain =>
        let number ← startNamed p.anchor
        advance
        let own := if plain then plainTag text else Tag.text
        keepNamed number (.scalar line (tagOr own given) text)
      | .flowSequenceStart =>
        let number ← startNamed p.anchor
        advance
        let items ← flowItems true fuel
        keepNamed number (.sequence line (tagOr Tag.sequence given) items)
      | .flowMappingStart =>
        let number ← startNamed p.anchor
        advance
        let pairs ← flowPairs true fuel
        keepNamed number (.mapping line (tagOr Tag.mapping given) pairs)
      | .blockEntry =>
        if indentless then
          let number ← startNamed p.anchor
          let items ← indentlessItems fuel
          keepNamed number (.sequence line (tagOr Tag.sequence given) items)
        else emptyNode p given
      | .blockSequenceStart =>
        if block then
          let number ← startNamed p.anchor
          advance
          let items ← blockItems fuel
          keepNamed number (.sequence line (tagOr Tag.sequence given) items)
        else emptyNode p given
      | .blockMappingStart =>
        if block then
          let number ← startNamed p.anchor
          advance
          let pairs ← blockPairs fuel
          keepNamed number (.mapping line (tagOr Tag.mapping given) pairs)
        else emptyNode p given
      | _ => emptyNode p given

/-- The entries of a list in a block. -/
def blockItems : (fuel : Nat) → Build (List Node)
  | 0 => failure
  | fuel + 1 => do
    let t ← peek
    match t.kind with
    | .blockEntry =>
      advance
      let next ← peek
      let item ←
        if next.kind = .blockEntry ∨ next.kind = .blockEnd then pure (absent t.line)
        else build true false fuel
      return item :: (← blockItems fuel)
    | .blockEnd =>
      advance
      return []
    | _ => failure

/-- The entries of a list that is not indented. -/
def indentlessItems : (fuel : Nat) → Build (List Node)
  | 0 => failure
  | fuel + 1 => do
    let t ← peek
    if t.kind = .blockEntry then
      advance
      let next ← peek
      let item ←
        if next.kind ∈ [.blockEntry, .key, .value, .blockEnd] then pure (absent t.line)
        else build true false fuel
      return item :: (← indentlessItems fuel)
    else return []

/-- A key or a value in a block, after its mark. -/
def blockPart (mark : Token) : (fuel : Nat) → Build Node
  | 0 => failure
  | fuel + 1 => do
    if (← peek).kind ∈ [.key, .value, .blockEnd] then return absent mark.line
    else build true true fuel

/-- The pairs of a mapping in a block. -/
def blockPairs : (fuel : Nat) → Build (List (Node × Node))
  | 0 => failure
  | fuel + 1 => do
    let t ← peek
    match t.kind with
    | .key =>
      advance
      let key ← blockPart t fuel
      let mark ← peek
      let value ←
        if mark.kind = .value then do
          advance
          blockPart mark fuel
        else pure (absent mark.line)
      return (key, value) :: (← blockPairs fuel)
    | .blockEnd =>
      advance
      return []
    | _ => failure

/-- The entries of a list in brackets. -/
def flowItems (first : Bool) : (fuel : Nat) → Build (List Node)
  | 0 => failure
  | fuel + 1 => do
    if ← accept .flowSequenceEnd then return []
    else
      if !first then
        if !(← accept .flowEntry) then failure
      let t ← peek
      match t.kind with
      | .flowSequenceEnd =>
        advance
        return []
      | .key =>
        advance
        let pair ← flowPair fuel
        return .mapping (t.line + 1) Tag.mapping [pair] :: (← flowItems false fuel)
      | _ =>
        let item ← build false false fuel
        return item :: (← flowItems false fuel)

/-- A single pair as an entry of a list in brackets, after the mark of its key. Where the key is left
out, the token after the mark is passed over. -/
def flowPair : (fuel : Nat) → Build (Node × Node)
  | 0 => failure
  | fuel + 1 => do
    let t ← peek
    let key ←
      if t.kind ∈ [.value, .flowEntry, .flowSequenceEnd] then do
        advance
        pure (absent t.line)
      else build false false fuel
    let mark ← peek
    if mark.kind = .value then
      advance
      let next ← peek
      if next.kind ∈ [.flowEntry, .flowSequenceEnd] then return (key, absent next.line)
      else return (key, ← build false false fuel)
    else return (key, absent mark.line)

/-- The pairs of a mapping in braces. -/
def flowPairs (first : Bool) : (fuel : Nat) → Build (List (Node × Node))
  | 0 => failure
  | fuel + 1 => do
    if ← accept .flowMappingEnd then return []
    else
      if !first then
        if !(← accept .flowEntry) then failure
      let t ← peek
      match t.kind with
      | .flowMappingEnd =>
        advance
        return []
      | .key =>
        advance
        let next ← peek
        let key ←
          if next.kind ∈ [.value, .flowEntry, .flowMappingEnd] then pure (absent next.line)
          else build false false fuel
        let mark ← peek
        let value ←
          if mark.kind = .value then do
            advance
            let next ← peek
            if next.kind ∈ [.flowEntry, .flowMappingEnd] then pure (absent next.line)
            else build false false fuel
          else pure (absent mark.line)
        return (key, value) :: (← flowPairs false fuel)
      | _ =>
        let key ← build false false fuel
        let next ← peek
        return (key, absent next.line) :: (← flowPairs false fuel)

end

/-! ### Documents -/

/-- Reads directives. The version has to be 1.1 and given at most once, and no handle is given
twice. -/
def directives : (fuel : Nat) → (versioned : Bool) → (handles : List (String × String)) →
    Build (List (String × String))
  | 0, _, _ => failure
  | fuel + 1, versioned, handles => do
    match (← peek).kind with
    | .version major minor =>
      if versioned ∨ major ≠ 1 ∨ minor ≠ 1 then failure
      else
        advance
        directives fuel true handles
    | .tagDirective handle replacement =>
      if (handles.lookup handle).isSome then failure
      else
        advance
        directives fuel versioned (handles ++ [(handle, replacement)])
    | _ => return handles

/-- The handles that need no directive. -/
def usualHandles : List (String × String) :=
  [("!", "!"), ("!!", Tag.standard)]

/-- Reads the first document of a stream; `none` inside if there is no document. -/
def firstDocument (fuel : Nat) : Build (Option Node) := do
  let _ ← peek
  advance
  let t ← peek
  match t.kind with
  | .streamEnd => return none
  | .version .. | .tagDirective .. | .documentStart =>
    let handles ← directives fuel false []
    if !(← accept .documentStart) then failure
    modify fun b => { b with handles := handles ++ usualHandles }
    let next ← peek
    let root ← match next.kind with
      | .version .. | .tagDirective .. | .documentStart | .documentEnd | .streamEnd =>
        pure (absent next.line)
      | _ => build true false fuel
    let _ ← peek
    return some root
  | _ =>
    let root ← build true false fuel
    let _ ← peek
    return some root

end Node

/-- The first document in some bytes: `none` if it is not well formed, and `some none` if there is no
document. -/
def documentOf (bytes : List UInt8) : Option (Option Document) := do
  let c ← Cursor.start bytes
  let b : Node.Builder :=
    { scanner := .start c, handles := Node.usualHandles, names := [], named := [], count := 0 }
  let (root?, b) ← (Node.firstDocument (8 * c.limit)).run b
  return root?.map fun root => { root, named := b.named }

end Screensaver.Yaml

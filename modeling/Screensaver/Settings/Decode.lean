import Screensaver.Fault
import Screensaver.Settings.Load
import Screensaver.Yaml.Node

/-!
Settings in a document.

The document is a mapping whose keys name settings; keys that name nothing are passed over, and null
leaves a setting as it is. A value has to be of the setting's type. Values that are not are
collected, and reported together with the lines they are in, and so are keys that occur twice.

A key `<<` adds the pairs of other mappings, after the mapping's own pairs and only where those, or a
mapping added before, have not given the same key.

Documents that are not well formed, tags that do not fit, and aliases that are used in excess or
inside what they stand for make the whole document unusable.
-/

namespace Screensaver.Settings

/-- What is wrong with a document. -/
inductive DecodeError where
  /-- It is not well formed. -/
  | malformed
  /-- Some of it is of the wrong type. -/
  | mistyped (complaints : List String)

def DecodeError.message : DecodeError → String
  | .malformed => "yaml: document is not well formed"
  | .mistyped complaints =>
    "yaml: unmarshal errors:" ++ String.join (complaints.map ("\n  " ++ ·))

namespace Decode

open Yaml (Node Value)

/-! ### What can be set -/

/-- The mappings that hold settings. -/
inductive Record where
  | all
  | glyphs
deriving DecidableEq

/-- The place of a setting and its type. -/
inductive Slot where
  | text (put : ByteText → Settings → Settings)
  | integer (typeName : String) (put : Int64 → Settings → Settings)
  | duration (put : Int64 → Settings → Settings)
  | record (r : Record)

/-- The name of a type in complaints. -/
def Slot.typeName : Slot → String
  | .text _ => "string"
  | .integer name _ => name
  | .duration _ => "time.Duration"
  | .record .all => "config.Config"
  | .record .glyphs => "config.GlyphRange"

/-- The setting that a key of a mapping names. -/
def Record.slot? : Record → String → Option Slot
  | .all, "backend" => some (.text fun v s => { s with backend := v })
  | .all, "interval" => some (.duration fun v s => { s with interval := v })
  | .all, "seed" => some (.integer "int64" fun v s => { s with seed := v })
  | .all, "count" => some (.integer "int" fun v s => { s with count := v })
  | .all, "title" => some (.text fun v s => { s with title := v.text })
  | .all, "glyphs" => some (.record .glyphs)
  | .all, "log_level" => some (.text fun v s => { s with logLevel := v })
  | .glyphs, "min" => some (.integer "int" fun v s => { s with glyphMin := v })
  | .glyphs, "max" => some (.integer "int" fun v s => { s with glyphMax := v })
  | _, _ => none

/-! ### State -/

/-- What is known of a value that belongs to no setting. -/
inductive Sketch where
  | scalar (tag : String) (text : ByteText)
  | list
  | mapping (textKeys : Bool)
deriving DecidableEq

namespace Sketch

def text (t : ByteText) : Sketch := .scalar Yaml.Tag.text t

/-- The name of the type of a value that can be no key. -/
def keyless? : Sketch → Option String
  | .scalar .. => none
  | .list => some "[]interface \x7b\x7d"
  | .mapping true => some "map[string]interface \x7b\x7d"
  | .mapping false => some "map[interface \x7b\x7d]interface \x7b\x7d"

/-- A scalar is known by its value, as far as that shows in how it is written. -/
def ofValue (text : ByteText) (v : Value) : Sketch :=
  match v with
  | .null => .scalar v.tag ⟨[]⟩
  | .boolean => .scalar v.tag (.ofString text.text.toLower)
  | .integer n => .scalar v.tag (.ofString (toString n.toInt))
  | .unsigned n => .scalar v.tag (.ofString (toString n))
  | .decimal _ | .timestamp | .text _ => .scalar v.tag text

end Sketch

/-- The state of decoding. -/
structure State where
  settings : Settings
  complaints : Array String
  /-- The keys that added mappings may not give again, while mappings are being added. -/
  taken : Option (List Sketch)
  /-- The aliases that are being followed. -/
  following : List Nat
  /-- The number of nodes visited. -/
  visited : Nat
  /-- The number of nodes visited by way of aliases. -/
  aliased : Nat

/-- Why decoding stops. -/
inductive Stop where
  /-- The document is unusable. -/
  | malformed
  | fault (f : Fault)

/-- Steps of decoding. -/
abbrev Step := StateT State (Except Stop)

/-- Gives up on the document. -/
def giveUp {α : Type} : Step α := throw .malformed

/-- How large a part of the nodes may be visited by way of aliases, in hundredths of hundredths. -/
def aliasShare (visited : Nat) : Nat :=
  if visited ≤ 400000 then 9900
  else if 4000000 ≤ visited then 1000
  else 9900 - 8900 * (visited - 400000) / 3600000

/-- Counts a node, and refuses documents that use aliases in excess. -/
def visit : Step Unit := do
  let s ← get
  let visited := s.visited + 1
  let aliased := if s.following.isEmpty then s.aliased else s.aliased + 1
  if 100 < aliased ∧ 1000 < visited ∧ aliasShare visited * visited < aliased * 10000 then giveUp
  set { s with visited, aliased }

/-- Adds a complaint about a line. -/
def complain (line : Nat) (text : String) : Step Unit :=
  modify fun s => { s with complaints := s.complaints.push ("line " ++ toString line ++ ": " ++ text) }

/-- A text in a complaint; of a long one only the beginning. -/
def excerpt (text : String) : String :=
  if 10 < text.utf8ByteSize then Text.decodeLenient ((Text.bytes text).take 7) ++ "..." else text

/-- Complains about a value of the wrong type. -/
def mistyped (line : Nat) (tag text : String) (typeName : String) : Step Unit :=
  let shown :=
    if tag = Yaml.Tag.sequence ∨ tag = Yaml.Tag.mapping then text else " `" ++ excerpt text ++ "`"
  complain line ("cannot unmarshal " ++ tag ++ shown ++ " into " ++ typeName)

/-- Follows an alias, unless it is already being followed. -/
def follow {α : Type} (token : Nat) (step : Step α) : Step α := do
  let s ← get
  if s.following.contains token then giveUp
  set { s with following := token :: s.following }
  let a ← step
  modify fun t => { t with following := s.following }
  return a

/-! ### Scalars -/

/-- The value of a scalar, and what it is as a text: how it is written, unless it is binary. -/
def scalarValue (tag text : String) : Step (Value × ByteText) :=
  if tag = Yaml.Tag.binary then
    match Yaml.binary? text with
    | some bytes => return (.text (Text.decodeLenient bytes), ⟨bytes⟩)
    | none => giveUp
  else
    match Yaml.value? tag text with
    | some v => return (v, .ofString text)
    | none => giveUp

/-- The integer of a value, if it has one. -/
def integerOf? : Value → Option Int64
  | .integer n => some n
  | .decimal whole => whole
  | _ => none

/-- The length of time of a value, if it has one. -/
def durationOf? : Value → Option Int64
  | .text s => (Duration.parse s).toOption
  | _ => none

/-- Puts a scalar where it belongs. -/
def putScalar (slot : Slot) (line : Nat) (tag text : String) : Step Unit := do
  let (v, written) ← scalarValue tag text
  if v = .null then return
  let put : Option (Settings → Settings) := match slot with
    | .text put => some (put written)
    | .integer _ put => (integerOf? v).map put
    | .duration put => (durationOf? v).map put
    | .record _ => none
  match put with
  | some f => modify fun s => { s with settings := f s.settings }
  | none => mistyped line tag text slot.typeName

/-! ### Mappings -/

/-- What two keys are compared by: their kind and their text. -/
def keyIdentity : Node → Nat × String
  | .scalar _ _ text => (0, text)
  | .sequence .. => (1, "")
  | .mapping .. => (2, "")
  | .alias _ name _ _ => (3, name)

def lineOf : Node → Nat
  | .scalar line .. | .sequence line .. | .mapping line .. | .alias line .. => line

/-- Complains about every key that is the same as one before it, and tells whether there is any. -/
def repeated : List (Node × Node) → Step Bool
  | [] => return false
  | (key, _) :: rest => do
    let again := rest.filter fun p => keyIdentity p.1 = keyIdentity key
    for (k, _) in again do
      complain (lineOf k) ("mapping key " ++ Text.quoted (keyIdentity k).2 ++
        " already defined at line " ++ toString (lineOf key))
    let more ← repeated rest
    return more || !again.isEmpty

/-- Whether a key adds other mappings. -/
def isMerge : Node → Bool
  | .scalar _ tag text => text = "<<" && tag = Yaml.Tag.merge
  | _ => false

/-- The text of a key. Null is no key, and lists and mappings are of the wrong type. -/
def keyText (doc : Yaml.Document) : (fuel : Nat) → Node → Step (Option ByteText)
  | 0, _ => giveUp
  | fuel + 1, n => do
    visit
    match n with
    | .scalar _ tag text =>
      let (v, written) ← scalarValue tag text
      return if v = .null then none else some written
    | .sequence line tag _ =>
      mistyped line tag "" "string"
      return none
    | .mapping line tag pairs =>
      if !(← repeated pairs) then mistyped line tag "" "string"
      return none
    | .alias _ _ target token =>
      match doc.named.lookup target with
      | some n => follow token (keyText doc fuel n)
      | none => giveUp

/-- Whether a node is a mapping, or stands for one. -/
def isMapping (doc : Yaml.Document) : Node → Bool
  | .mapping .. => true
  | .alias _ _ target _ =>
    match doc.named.lookup target with
    | some (.mapping ..) => true
    | _ => false
  | _ => false

def tagOf : Node → String
  | .scalar _ tag _ | .sequence _ tag _ | .mapping _ tag _ => tag
  | .alias .. => ""

/-- Whether a key is a text, or stands for one. -/
def isTextKey (doc : Yaml.Document) : Node → Bool
  | .alias _ _ target _ => ((doc.named.lookup target).map fun n => isText (tagOf n)).getD false
  | n => isText (tagOf n)
where
  isText (tag : String) : Bool := tag = Yaml.Tag.text || tag = Yaml.Tag.merge

/-- Where the pairs of a mapping go: to settings, or nowhere. -/
inductive Target where
  | record (r : Record)
  | nowhere (textKeys : Bool)

/-- Adds a key to those that are taken, and tells whether it was taken before. What is no key cannot
be looked for. -/
def take (key : Sketch) (taken : List Sketch) : Step (Bool × List Sketch) :=
  match key.keyless? with
  | some typeName => throw (.fault (.unusableKey typeName))
  | none => return (taken.contains key, if taken.contains key then taken else key :: taken)

mutual

/-- Puts a node where it belongs. -/
def putNode (doc : Yaml.Document) (slot : Slot) : (fuel : Nat) → Node → Step Unit
  | 0, _ => giveUp
  | fuel + 1, n => do
    visit
    match n with
    | .scalar line tag text => putScalar slot line tag text
    | .sequence line tag _ => mistyped line tag "" slot.typeName
    | .mapping line tag pairs =>
      if ← repeated pairs then return
      match slot with
      | .record r => putMapping doc (.record r) fuel pairs
      | _ => mistyped line tag "" slot.typeName
    | .alias _ _ target token =>
      match doc.named.lookup target with
      | some n => follow token (putNode doc slot fuel n)
      | none => giveUp

/-- Goes through a node that belongs nowhere; `none` if its keys make no sense. -/
def sketch (doc : Yaml.Document) : (fuel : Nat) → Node → Step (Option Sketch)
  | 0, _ => giveUp
  | fuel + 1, n => do
    visit
    match n with
    | .scalar _ tag text =>
      let (v, written) ← scalarValue tag text
      return some (.ofValue written v)
    | .sequence _ _ items =>
      sketchEach doc fuel items
      return some .list
    | .mapping _ _ pairs =>
      if ← repeated pairs then return none
      let textKeys := pairs.all fun p => isTextKey doc p.1
      putMapping doc (.nowhere textKeys) fuel pairs
      return some (.mapping textKeys)
    | .alias _ _ target token =>
      match doc.named.lookup target with
      | some n => follow token (sketch doc fuel n)
      | none => giveUp

/-- Goes through several nodes that belong nowhere. -/
def sketchEach (doc : Yaml.Document) : (fuel : Nat) → List Node → Step Unit
  | 0, _ => giveUp
  | _, [] => return
  | fuel + 1, n :: rest => do
    let _ ← sketch doc fuel n
    sketchEach doc fuel rest

/-- Puts the pairs of a mapping where they belong, first its own and then those it adds. -/
def putMapping (doc : Yaml.Document) (target : Target) :
    (fuel : Nat) → List (Node × Node) → Step Unit
  | 0, _ => giveUp
  | fuel + 1, pairs => do
    let taken := (← get).taken
    modify fun s => { s with taken := none }
    let taken ← match target with
      | .record r => putPairs doc r fuel taken [] pairs
      | .nowhere textKeys => sketchPairs doc textKeys fuel taken pairs
    modify fun s => { s with taken }
    match pairs.find? fun p => isMerge p.1 with
    | none => return
    | some (_, added) =>
      if taken.isNone then
        modify fun s => { s with taken := some [] }
        takeKeys doc fuel (pairs.map Prod.fst)
      putMerged doc target fuel added
      if taken.isNone then modify fun s => { s with taken := none }

/-- Puts the pairs of a mapping where they belong. Keys that are taken are passed over if there are
any such; gives the keys that are taken afterwards. -/
def putPairs (doc : Yaml.Document) (r : Record) :
    (fuel : Nat) → (taken : Option (List Sketch)) → (done : List String) → List (Node × Node) →
    Step (Option (List Sketch))
  | 0, _, _, _ => giveUp
  | _, taken, _, [] => return taken
  | fuel + 1, taken, done, (key, value) :: rest => do
    if isMerge key then putPairs doc r fuel taken done rest
    else
      match ← keyText doc fuel key with
      | none => putPairs doc r fuel taken done rest
      | some name =>
        if (taken.getD []).contains (.text name) then putPairs doc r fuel taken done rest
        else
          let taken := taken.map (.text name :: ·)
          match r.slot? name.text with
          | none => putPairs doc r fuel taken done rest
          | some slot =>
            if done.contains name.text then
              complain (lineOf key) ("field " ++ name.text ++ " already set in type " ++
                (Slot.record r).typeName)
            else putNode doc slot fuel value
            putPairs doc r fuel taken (name.text :: done) rest

/-- Goes through the pairs of a mapping that belongs nowhere. Keys that are taken are passed over if
there are any such; gives the keys that are taken afterwards. -/
def sketchPairs (doc : Yaml.Document) (textKeys : Bool) :
    (fuel : Nat) → (taken : Option (List Sketch)) → List (Node × Node) → Step (Option (List Sketch))
  | 0, _, _ => giveUp
  | _, taken, [] => return taken
  | fuel + 1, taken, (key, value) :: rest => do
    if isMerge key then sketchPairs doc textKeys fuel taken rest
    else
      let key? ←
        if textKeys then Option.map Sketch.text <$> keyText doc fuel key else sketch doc fuel key
      match key?, taken with
      | none, taken => sketchPairs doc textKeys fuel taken rest
      | some k, some keys =>
        let (again, keys) ← take k keys
        if !again then
          let _ ← sketch doc fuel value
        sketchPairs doc textKeys fuel (some keys) rest
      | some k, none =>
        if k.keyless?.isSome then giveUp
        let _ ← sketch doc fuel value
        sketchPairs doc textKeys fuel none rest

/-- Takes the keys of a mapping. -/
def takeKeys (doc : Yaml.Document) : (fuel : Nat) → List Node → Step Unit
  | 0, _ => giveUp
  | _, [] => return
  | fuel + 1, key :: rest => do
    match ← sketch doc fuel key with
    | none => pure ()
    | some k =>
      let (_, taken) ← take k ((← get).taken.getD [])
      modify fun s => { s with taken := some taken }
    takeKeys doc fuel rest

/-- Adds mappings one after the other. -/
def putMerged (doc : Yaml.Document) (target : Target) : (fuel : Nat) → Node → Step Unit
  | 0, _ => giveUp
  | fuel + 1, added =>
    match added with
    | .sequence _ _ items => putEach doc target fuel items
    | n => putAdded doc target fuel n

/-- Adds several mappings. -/
def putEach (doc : Yaml.Document) (target : Target) : (fuel : Nat) → List Node → Step Unit
  | 0, _ => giveUp
  | _, [] => return
  | fuel + 1, n :: rest => do
    putAdded doc target fuel n
    putEach doc target fuel rest

/-- Adds a mapping. -/
def putAdded (doc : Yaml.Document) (target : Target) : (fuel : Nat) → Node → Step Unit
  | 0, _ => giveUp
  | fuel + 1, n =>
    if !isMapping doc n then giveUp
    else
      match target with
      | .record r => putNode doc (.record r) fuel n
      | .nowhere textKeys => sketchAdded doc textKeys fuel n

/-- Goes through a mapping that is added to one that belongs nowhere. -/
def sketchAdded (doc : Yaml.Document) (textKeys : Bool) : (fuel : Nat) → Node → Step Unit
  | 0, _ => giveUp
  | fuel + 1, n => do
    visit
    match n with
    | .mapping _ _ pairs => if !(← repeated pairs) then putMapping doc (.nowhere textKeys) fuel pairs
    | .alias _ _ target token =>
      match doc.named.lookup target with
      | some n => follow token (sketchAdded doc textKeys fuel n)
      | none => giveUp
    | _ => giveUp

end

end Decode

/-- Reads a document on top of settings. -/
def decode : Decoder DecodeError := fun bytes start =>
  match Yaml.documentOf bytes with
  | none => .ok (start, some .malformed)
  | some none => .ok (start, none)
  | some (some doc) =>
    let size := bytes.length + 16
    let s : Decode.State :=
      { settings := start, complaints := #[], taken := none, following := [], visited := 1,
        aliased := 0 }
    match (Decode.putNode doc (.record .all) (size * size) doc.root).run s with
    | .error .malformed => .ok (start, some .malformed)
    | .error (.fault f) => .error f
    | .ok ((), s) =>
      if s.complaints.isEmpty then .ok (s.settings, none)
      else .ok (s.settings, some (.mistyped s.complaints.toList))

/-- How the screensaver understands its texts. -/
def reading : Reading DecodeError where
  decode := decode
  level? := Log.Level.ofText?

end Screensaver.Settings

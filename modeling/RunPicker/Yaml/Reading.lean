import RunPicker.Yaml.Document
import RunPicker.Yaml.Node
import RunPicker.Yaml.Resolution

/-!
# Reading documents

`Yaml.read` reads the document in a text. A key may not come twice in a mapping, unless
other mappings are merged into it (`<<`), and a list that is a key counts by its items.

Of several faults the one that is least deep in the document is found first: the entries of a mapping are all looked at
before what is inside their values. `Found.rank` is the place of a fault in that order.

The tags that are read are those of sequences, of mappings and of the kinds of plain scalars. Documents with other tags
of the core (`!!binary`, `!!set`, `!!omap`, `!!pairs`), with a directive for the version before this one, or with `nan`
for a key are out of account.
-/

namespace RunPicker.Yaml

/-- A fault of a part of a document, and its place in the order in which faults are found. -/
structure Found where
  rank : Nat
  fault : Fault
deriving Inhabited, Repr

/-- What a part of a document comes to, or the first fault of it. -/
abbrev Outcome := Except Found

/-- What a result of a rank comes to. -/
def Outcome.of {α : Type} (rank : Nat) (result : Except Fault α) : Outcome α :=
  match result with
  | .ok value => .ok value
  | .error fault => .error ⟨rank, fault⟩

/-- The fault that is found first, of one known before and another. -/
def Found.first (known : Option Found) (other : Found) : Option Found :=
  match known with
  | some known => some (if other.rank < known.rank then other else known)
  | none => some other

/-- What is known of an entry of a mapping. -/
structure EntryOutcome where
  key : Outcome Value
  value : Outcome Document
deriving Inhabited

namespace Node

/-- Is the node the key under which other mappings are merged in? -/
def isMerge : Node → Bool
  | .scalar _ .unspecific text true => Kind.ofPlain text == .merge
  | _ => false

/-- Is the node a single equals sign? As a key it stands for its text, and anywhere else it has no value. -/
def isEquals : Node → Bool
  | .scalar _ .unspecific text true => Kind.ofPlain text == .equals
  | _ => false

/-- The value of a scalar. -/
def scalarValue (tag : Tag) (text : String) (isPlain : Bool) : Except Fault Value :=
  match tag with
  | .unspecific => (if isPlain then Kind.ofPlain text else Kind.text).valueOf text
  | .core name => match Kind.ofName? name with
    | some kind => kind.valueOf text
    | none => .error .malformed
  | .foreign => .error .malformed

/-- Does a tag leave the kind of a collection open, or name it? -/
def fits (tag : Tag) (name : String) : Bool :=
  tag == .unspecific || tag == .core name

/-- Do two keys count as one? -/
def sameKey (key other : Value) : Bool :=
  Value.equal key other || match key, other with
    | .number .nan, .number .nan => true
    | _, _ => false

/-- Checks that a value can be a key. A list can, if its items can. -/
def checkKey : Value → Except Fault Unit
  | .map _ => .error .malformed
  | .list items => if items.all Value.isKey then .ok () else .error (.noValue .wrongType)
  | _ => .ok ()

/-- Adds an entry to a mapping and notes a fault. `merging` says that a key may come again. -/
def addEntry (rank : Nat) (merging : Bool) (state : Entries Document × Option Found) (entry : EntryOutcome) :
    Entries Document × Option Found :=
  let (entries, found) := state
  let key := do
    let key ← entry.key
    Outcome.of rank (checkKey key)
    return key
  match key with
  | .error other => (entries, Found.first found ⟨rank, other.fault⟩)
  | .ok key =>
    if !merging && entries.any fun entry => sameKey key entry.1 then
      (entries, Found.first found ⟨rank, .malformed⟩)
    else match entry.value with
      | .ok value => (Entries.insert entries key value, found)
      | .error other => (Entries.insert entries key .empty, Found.first found other)

/-- The mapping of some entries: those that are merged in, and its own. -/
def mappingOf (label rank : Nat) (merged own : List EntryOutcome) : Outcome Document :=
  match (merged ++ own).foldl (addEntry rank (!merged.isEmpty)) ([], none) with
  | (entries, none) => .ok (.map (some label) entries)
  | (_, some found) => .error found

/-- The list of some items. -/
def listOf (label : Nat) (items : List (Outcome Document)) : Outcome Document :=
  let found := items.foldl (fun found item => match item with
    | .ok _ => found
    | .error other => Found.first found other) none
  match found with
  | some found => .error found
  | none => .ok (.list (some label) (items.filterMap Except.toOption))

mutual

/-- The document of a node at a depth. -/
def documentAt (depth : Nat) : Node → Outcome Document
  | .scalar label tag text isPlain =>
    (Outcome.of (2 * depth - 1) (scalarValue tag text isPlain)).map (Document.ofScalar label)
  | .sequence label tag items =>
    if fits tag "seq" then listOf label (itemsAt (depth + 1) items) else .error ⟨2 * depth - 1, .malformed⟩
  | .mapping label tag entries =>
    if fits tag "map" then do
      let (merged, own) ← entriesAt depth [] entries
      mappingOf label (2 * depth + 1) merged own
    else .error ⟨2 * depth - 1, .malformed⟩

/-- The documents of the items of a sequence. -/
def itemsAt (depth : Nat) : List Node → List (Outcome Document)
  | [] => []
  | item :: rest => documentAt depth item :: itemsAt depth rest

/-- The entries that are merged into a mapping, and its own. Only one key for merging may bring in anything. -/
def entriesAt (depth : Nat) (merged : List EntryOutcome) :
    List (Node × Node) → Outcome (List EntryOutcome × List EntryOutcome)
  | [] => .ok (merged, [])
  | (key, value) :: rest =>
    if key.isMerge then
      if merged.isEmpty then do
        let merged ← mergedAt depth value
        entriesAt depth merged rest
      else .error ⟨2 * depth, .malformed⟩
    else do
      let keyValue := if key.isEquals then .ok (.text "=") else (documentAt (depth + 1) key).map Document.value
      let (merged, own) ← entriesAt depth merged rest
      return (merged, ⟨keyValue, documentAt (depth + 1) value⟩ :: own)

/-- The entries that the value of a key for merging brings in: those of a mapping, or of a list of mappings, of which
the first counts most and so comes last. -/
def mergedAt (depth : Nat) : Node → Outcome (List EntryOutcome)
  | .mapping _ _ entries => do
    let (merged, own) ← entriesAt depth [] entries
    return merged ++ own
  | .sequence _ _ items => do
    return (← mergedEachAt depth items).reverse.flatten
  | .scalar .. => .error ⟨2 * depth, .malformed⟩

/-- The entries that each mapping of a list brings in. -/
def mergedEachAt (depth : Nat) : List Node → Outcome (List (List EntryOutcome))
  | [] => .ok []
  | .mapping _ _ entries :: rest => do
    let (merged, own) ← entriesAt depth [] entries
    return (merged ++ own) :: (← mergedEachAt depth rest)
  | _ :: _ => .error ⟨2 * depth, .malformed⟩

end

/-- The document of a node. -/
def document (node : Node) : Except Fault Document :=
  match documentAt 0 node with
  | .ok document => .ok document
  | .error found => .error found.fault

end Node

/-- The document in a text. A text without one stands for null. -/
def read (text : String) : Except Fault Document := do
  match ← Node.ofTokens? (tokens text) with
  | some node => node.document
  | none => return .leaf none .null

end RunPicker.Yaml

import RunPicker.Yaml.Scanner

/-!
# Nodes

The tree that a document is written as: scalars with their texts, sequences and mappings, each with its tag.
`Node.ofTokens?` reads it from tokens. Each node that is written has a label of its own, and an alias is read as the
node of the last anchor of its name, with the label that it has there.
-/

namespace RunPicker.Yaml

/-- A node of a document. A plain scalar may stand for a value of any kind. -/
inductive Node where
  | scalar (label : Nat) (tag : Tag) (text : String) (isPlain : Bool)
  | sequence (label : Nat) (tag : Tag) (items : List Node)
  | mapping (label : Nat) (tag : Tag) (entries : List (Node × Node))
deriving Inhabited, Repr

namespace Node

/-- The node where nothing is written. -/
def absent : Node := .scalar 0 .unspecific "" true

/-- The tokens that are left, the nodes of the anchors so far, the last first, and the next label. -/
structure Progress where
  tokens : List Token
  anchors : List (List Char × Node)
  label : Nat
deriving Inhabited

/-- A step of the reading. -/
abbrev Step := StateT Progress (Except Fault)

/-- The next token, which stays. -/
def peek : Step Token := do
  match (← get).tokens with
  | .broken fault :: _ => throw fault
  | token :: _ => return token
  | [] => return .textEnd

/-- Leaves the next token behind. -/
def take : Step Unit :=
  modify fun progress => { progress with tokens := progress.tokens.drop 1 }

/-- Leaves the next token behind if it is the given one, and says whether it was. -/
def takeIf (token : Token) : Step Bool := do
  if (← peek) == token then
    take
    return true
  else return false

/-- Leaves the next token behind, which has to be the given one. -/
def expect (token : Token) : Step Unit := do
  if !(← takeIf token) then throw .malformed

/-- Is the next token one of the given ones? -/
def isNext (tokens : List Token) : Step Bool := do
  return tokens.contains (← peek)

/-- The anchor and the tag in front of a node, in either order. -/
def properties : Step (Option (List Char) × Option Tag) := do
  match ← peek with
  | .anchor name =>
    take
    match ← peek with
    | .tag tag =>
      take
      return (some name, some tag)
    | _ => return (some name, none)
  | .tag tag =>
    take
    match ← peek with
    | .anchor name =>
      take
      return (some name, some tag)
    | _ => return (none, some tag)
  | _ => return (none, none)

/-- Where a node stands: in a block, in a block where the dashes of a sequence need not be indented, or between
brackets. -/
inductive Place where
  | block
  | entry
  | flow
deriving DecidableEq, Inhabited, Repr

/-- The node of an alias. Its anchor has to be complete, so no node stands inside itself: a document with an alias of a
section within that section is malformed here, and such documents are out of account. -/
def ofAlias (name : List Char) : Step Node := do
  match (← get).anchors.find? fun anchor => anchor.1 == name with
  | some (_, node) => return node
  | none => throw .malformed

/-- A label that no node has yet. -/
def freshLabel : Step Nat :=
  modifyGet fun progress => (progress.label, { progress with label := progress.label + 1 })

/-- Keeps a node under its anchor. -/
def keep (anchor? : Option (List Char)) (node : Node) : Step Node := do
  if let some name := anchor? then
    modify fun progress => { progress with anchors := (name, node) :: progress.anchors }
  return node

/-- The tokens behind which nothing is written for a node in a block. -/
def blockStops : List Token := [.key, .value, .blockEnd]

mutual

/-- Reads a node. The steps bound how deep the reading goes and how many parts it passes. -/
def read : Nat → Place → Step Node
  | 0, _ => throw .malformed
  | steps + 1, place => do
    if let .alias name := ← peek then
      take
      return ← ofAlias name
    let (anchor?, tag?) ← properties
    let tag := tag?.getD .unspecific
    match ← peek with
    | .scalar text isPlain =>
      take
      keep anchor? (.scalar (← freshLabel) tag (String.ofList text) (isPlain || tag? == some .unspecific))
    | .flowSequence =>
      take
      keep anchor? (.sequence (← freshLabel) tag (← readItems steps true))
    | .flowMapping =>
      take
      keep anchor? (.mapping (← freshLabel) tag (← readPairs steps true))
    | .entry =>
      if place == .entry then keep anchor? (.sequence (← freshLabel) tag (← readFlushEntries steps))
      else absentAfter anchor? tag?
    | .blockSequence =>
      if place == .flow then absentAfter anchor? tag?
      else
        take
        keep anchor? (.sequence (← freshLabel) tag (← readEntries steps))
    | .blockMapping =>
      if place == .flow then absentAfter anchor? tag?
      else
        take
        keep anchor? (.mapping (← freshLabel) tag (← readBlockPairs steps))
    | _ => absentAfter anchor? tag?
where
  /-- Nothing may be written only where there is an anchor or a tag. -/
  absentAfter (anchor? : Option (List Char)) (tag? : Option Tag) : Step Node :=
    if anchor?.isNone && tag?.isNone then throw .malformed
    else keep anchor? (.scalar 0 (tag?.getD .unspecific) "" (tag?.getD .unspecific == .unspecific))

/-- Reads a node, unless one of the tokens follows that say that nothing is written. -/
def readUnless : Nat → List Token → Place → Step Node
  | 0, _, _ => throw .malformed
  | steps + 1, stops, place => do
    if ← isNext stops then return absent else read steps place

/-- Reads the entries of a sequence in a block. -/
def readEntries : Nat → Step (List Node)
  | 0 => throw .malformed
  | steps + 1 => do
    if ← takeIf .entry then
      let item ← readUnless steps [.entry, .blockEnd] .block
      return item :: (← readEntries steps)
    else
      expect .blockEnd
      return []

/-- Reads the entries of a sequence that is not indented. Nothing marks its end. -/
def readFlushEntries : Nat → Step (List Node)
  | 0 => throw .malformed
  | steps + 1 => do
    if ← takeIf .entry then
      let item ← readUnless steps (.entry :: blockStops) .block
      return item :: (← readFlushEntries steps)
    else return []

/-- Reads the value of an entry of a mapping, which ends before one of the given tokens. -/
def readValue : Nat → List Token → Place → Step Node
  | 0, _, _ => throw .malformed
  | steps + 1, stops, place => do
    if ← takeIf .value then readUnless steps stops place else return absent

/-- Reads the entries of a mapping in a block. -/
def readBlockPairs : Nat → Step (List (Node × Node))
  | 0 => throw .malformed
  | steps + 1 => do
    if ← takeIf .blockEnd then return []
    let key ← if ← takeIf .key then readUnless steps blockStops .entry
      else if ← isNext [.value] then pure absent
      else throw Fault.malformed
    let value ← readValue steps blockStops .entry
    return (key, value) :: (← readBlockPairs steps)

/-- Reads the items of a sequence between brackets. An item may be a mapping of one entry without braces. -/
def readItems : Nat → Bool → Step (List Node)
  | 0, _ => throw .malformed
  | steps + 1, isFirst => do
    if ← takeIf .flowSequenceEnd then return []
    if !isFirst then expect .comma
    if ← takeIf .flowSequenceEnd then return []
    let item ← if ← takeIf .key then do
        let key ← readUnless steps [.value, .comma, .flowSequenceEnd] .flow
        let value ← readValue steps [.comma, .flowSequenceEnd] .flow
        pure (Node.mapping (← freshLabel) .unspecific [(key, value)])
      else read steps .flow
    return item :: (← readItems steps false)

/-- Reads the entries of a mapping between braces. An entry may be a key alone. -/
def readPairs : Nat → Bool → Step (List (Node × Node))
  | 0, _ => throw .malformed
  | steps + 1, isFirst => do
    if ← takeIf .flowMappingEnd then return []
    if !isFirst then expect .comma
    if ← takeIf .flowMappingEnd then return []
    let pair ← if ← takeIf .key then do
        let key ← readUnless steps [.value, .comma, .flowMappingEnd] .flow
        pure (key, ← readValue steps [.comma, .flowMappingEnd] .flow)
      else if ← isNext [.value] then
        pure (absent, ← readValue steps [.comma, .flowMappingEnd] .flow)
      else
        pure (← read steps .flow, absent)
    return pair :: (← readPairs steps false)

end

/-- Reads the directives in front of a document. The version is given at most once, and it is of the first kind. -/
def readDirectives : Nat → Bool → Step Unit
  | 0, _ => throw .malformed
  | steps + 1, hasVersion => do
    match ← peek with
    | .directive _ none =>
      take
      readDirectives steps hasVersion
    | .directive _ (some major) =>
      if hasVersion || major != 1 then throw .malformed
      take
      readDirectives steps true
    | _ => return ()

/-- Reads a text with at most one document in it. -/
def readText (steps : Nat) : Step (Option Node) := do
  if ← takeIf .textEnd then return none
  let node ← match ← peek with
    | .directive .. | .documentStart => do
      readDirectives steps false
      expect .documentStart
      let stops : List Token := [.documentStart, .documentEnd, .textEnd]
      match ← peek with
      | .directive .. => pure absent
      | token => if stops.contains token then pure absent else read steps .block
    | _ => read steps .block
  let _ ← takeIf .documentEnd
  expect .textEnd
  return some node

/-- The node of a document, if the text has one. -/
def ofTokens? (tokens : List Token) : Except Fault (Option Node) :=
  (readText (4 * tokens.length + 8)).run' ⟨tokens, [], 0⟩

end Node

end RunPicker.Yaml

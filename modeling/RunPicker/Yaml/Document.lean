import RunPicker.Value

/-!
# Documents

A document is a value that knows which of its parts are one and the same: an alias stands for the very part under the
anchor, not for one like it. Each part that is read has a label of its own, and a part that stands at several places
has one label at all of them. `Document.value` forgets the labels, and `Document.ofValue` makes a document in which
nothing stands twice.

Documents are finite trees of parts. A part that stands inside itself, as an alias of a section within the section
would make it, is in no document.
-/

namespace RunPicker.Yaml

/-- A document, or a part of one. Of the parts that have no parts themselves only moments have labels. -/
inductive Document where
  | leaf (label? : Option Nat) (value : Value)
  | list (label? : Option Nat) (items : List Document)
  | map (label? : Option Nat) (entries : List (Value × Document))
deriving Inhabited, Repr

namespace Document

/-- The empty mapping. -/
def empty : Document := .map none []

/-- The label of a part. -/
def label? : Document → Option Nat
  | .leaf label? _ | .list label? _ | .map label? _ => label?

/-- Is the document a mapping? -/
def isMap : Document → Bool
  | .map .. => true
  | _ => false

/-- A part without parts. -/
def ofScalar (label : Nat) : Value → Document
  | .moment m => .leaf (some label) (.moment m)
  | value => .leaf none value

mutual

/-- The document of a value. -/
def ofValue : Value → Document
  | .list items => .list none (ofItems items)
  | .map entries => .map none (ofEntries entries)
  | value => .leaf none value

/-- The documents of the items of a list. -/
def ofItems : List Value → List Document
  | [] => []
  | item :: rest => ofValue item :: ofItems rest

/-- The documents of the values of a mapping. -/
def ofEntries : List (Value × Value) → Entries Document
  | [] => []
  | (key, value) :: rest => (key, ofValue value) :: ofEntries rest

end

mutual

/-- The value of a document. -/
def value : Document → Value
  | .leaf _ value => value
  | .list _ items => .list (itemValues items)
  | .map _ entries => .map (entryValues entries)

/-- The values of the items of a list. -/
def itemValues : List Document → List Value
  | [] => []
  | item :: rest => value item :: itemValues rest

/-- The values of the entries of a mapping. -/
def entryValues : List (Value × Document) → Entries Value
  | [] => []
  | (key, part) :: rest => (key, value part) :: entryValues rest

end

mutual

/-- The document with a part put wherever its label stands. -/
def replace (label : Nat) (part : Document) : Document → Document
  | .leaf label? value => if label? == some label then part else .leaf label? value
  | .list label? items => if label? == some label then part else .list label? (replaceItems label part items)
  | .map label? entries => if label? == some label then part else .map label? (replaceEntries label part entries)

/-- The items of a list with a part put wherever its label stands. -/
def replaceItems (label : Nat) (part : Document) : List Document → List Document
  | [] => []
  | item :: rest => replace label part item :: replaceItems label part rest

/-- The entries of a mapping with a part put wherever its label stands. -/
def replaceEntries (label : Nat) (part : Document) : List (Value × Document) → Entries Document
  | [] => []
  | (key, value) :: rest => (key, replace label part value) :: replaceEntries label part rest

end

/-- The document with a changed part put wherever the part stood before. -/
def withChanged (part : Document) (document : Document) : Document :=
  match part.label? with
  | some label => replace label part document
  | none => document

end Document

end RunPicker.Yaml

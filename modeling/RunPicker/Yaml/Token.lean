import RunPicker.Yaml.Fault

/-!
# Tokens

The pieces that the text of a document is cut into before its structure is read. The start of a block and the key of an
entry are tokens of their own although nothing is written for them.
-/

namespace RunPicker.Yaml

/-- What a tag in front of a node says of its kind: nothing, a kind of the core by its name, or something else. -/
inductive Tag where
  | unspecific
  | core (name : String)
  | foreign
deriving DecidableEq, Inhabited, Repr

/-- A piece of a document. -/
inductive Token where
  | directive (name : List Char) (major? : Option Nat)
  | documentStart
  | documentEnd
  | textEnd
  | blockSequence
  | blockMapping
  | blockEnd
  | flowSequence
  | flowSequenceEnd
  | flowMapping
  | flowMappingEnd
  | entry
  | comma
  | key
  | value
  | anchor (name : List Char)
  | alias (name : List Char)
  | tag (tag : Tag)
  | scalar (text : List Char) (isPlain : Bool)
  | broken (fault : Fault)
deriving DecidableEq, Inhabited, Repr

end RunPicker.Yaml

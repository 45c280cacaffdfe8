import RunPicker.Environment.Reference
import RunPicker.Text.Cut
import RunPicker.Value.Display

/-!
# Environments

The variables of a selection or of a run. `Environment.expand` replaces the references to variables in a text: a
reference to a variable that is not there stays as it was written, and what is put in is not expanded again.
-/

namespace RunPicker

/-- Variables with their values, in the order in which they were set. -/
abbrev Environment := Entries String

namespace Environment

/-- The value of a variable. -/
def get? (vars : Environment) (name : String) : Option String :=
  Entries.named? vars name

/-- The variables with one set. -/
def set (vars : Environment) (name value : String) : Environment :=
  Entries.insert vars (.text name) value

/-- What a piece of a text stands for. -/
def valueOf (vars : Environment) : Piece → List Char
  | .plain c => [c]
  | .dollar => ['$']
  | .reference name braced => match vars.get? (String.ofList name) with
    | some value => value.toList
    | none => (Piece.reference name braced).source

/-- The characters with the references in them replaced. -/
def expandChars (vars : Environment) (cs : List Char) : List Char :=
  (pieces cs).flatMap vars.valueOf

/-- The text with the references in it replaced. -/
def expand (vars : Environment) (text : String) : String :=
  String.ofList (vars.expandChars text.toList)

/-- The variable that an entry of a mapping sets. An entry without a value sets none. -/
def variableOf? (entry : Value × Value) : Option (Value × String) :=
  match entry.2 with
  | .null => none
  | value => some (.text entry.1.keyDisplay, value.exported)

/-- Have the key and the value of an entry a text? They need none if the entry sets no variable. -/
def hasTexts (entry : Value × Value) : Bool :=
  match entry.2 with
  | .null => true
  | value => entry.1.hasText && value.hasText

/-- The variables that the entries of a mapping set, all of which have texts. -/
def ofEntries (entries : Entries Value) : Environment :=
  Entries.ofPairs (entries.filterMap variableOf?)

/-- The variables that the entries of a mapping set, unless a text is missing. -/
def ofMapping (entries : Entries Value) : Except Failure Environment :=
  if entries.all hasTexts then .ok (ofEntries entries) else .error .wrongValue

/-- The variables that a mapping sets. A value that counts as false stands for an empty mapping. -/
def ofValue (value : Value) : Except Failure Environment :=
  if value.isTrue then
    match value with
    | .map entries => ofMapping entries
    | _ => .error .missingAttribute
  else .ok []

/-- The name and the value of an assignment, which is cut at its first equals sign. -/
def assignment? (text : String) : Except Failure (String × String) :=
  match Text.cutAt '=' text with
  | (name, some value) =>
    if name.isEmpty then .error (.invalidParameter "env" text "(expected NAME=VALUE)") else .ok (name, value)
  | (_, none) => .error (.invalidParameter "env" text "(expected NAME=VALUE)")

/-- The variables that a list of assignments sets. -/
def ofAssignments (texts : List String) : Except Failure Environment :=
  texts.foldlM (fun vars text => (assignment? text).map fun (name, value) => vars.set name value) []

end Environment

end RunPicker

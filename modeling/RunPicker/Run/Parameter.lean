import RunPicker.Environment

/-!
# Parameters of runs

The parameters that a run was started with. A parameter is exported to an environment as a variable, except for a file,
which has no place in one.
-/

namespace RunPicker

/-- What a parameter holds: a text, a truth value, or a file. -/
inductive ParameterKind where
  | text
  | flag
  | file
deriving DecidableEq, Inhabited, Repr

/-- A parameter of a run. -/
structure Parameter where
  kind : ParameterKind
  name : Value
  value : Value
deriving Inhabited, Repr

namespace Parameter

/-- Are two parameters of one kind, with equal names and equal values? -/
def equal (parameter other : Parameter) : Bool :=
  parameter.kind == other.kind && parameter.name.equal other.name && parameter.value.equal other.value

/-- The text that a parameter is exported as, unless it is a file. -/
def exported? (parameter : Parameter) : Option String :=
  match parameter.kind with
  | .text => some parameter.value.display
  | .flag => some parameter.value.exported
  | .file => none

/-- The environment with a parameter in it. The name of a parameter is the key of a mapping, and so it can be one here
as well. -/
def exportTo (parameter : Parameter) (vars : Environment) : Except Failure Environment :=
  match parameter.exported? with
  | some value => .ok (Entries.insert vars parameter.name value)
  | none => .error (.notExportable parameter.name.display)

/-- The parameter that an entry of a document stands for: a mapping with a file in it is a file, and everything that is
not a truth value is kept as its text. -/
def ofEntry (name value : Value) : Parameter :=
  match value with
  | .bool b => ⟨.flag, name, .bool b⟩
  | .map entries => match Entries.named? entries "file" with
    | some file => ⟨.file, name, .text file.display⟩
    | none => ⟨.text, name, .text value.exported⟩
  | value => ⟨.text, name, .text value.exported⟩

end Parameter

end RunPicker

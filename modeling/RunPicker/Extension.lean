import RunPicker.Failure

/-!
# Extensions

Units that others add: selectors, selectors of a specific run, filters and jobs. Each kind has operations that a unit
must define, and a selector of a specific run leaves the next candidate to the rule of its kind, which is sealed.
-/

namespace RunPicker

/-- An operation that a unit may define. -/
inductive Operation where
  | next
  | locate
  | accept
  | name
  | history
  | other (name : String)
deriving DecidableEq, Inhabited, Repr

/-- A kind of unit. -/
inductive UnitKind where
  | selector
  | specificSelector
  | filter
  | job
deriving DecidableEq, Inhabited, Repr

namespace UnitKind

/-- The operations that a unit of the kind must define. -/
def required : UnitKind → List Operation
  | .selector => [.next]
  | .specificSelector => [.locate]
  | .filter => [.accept]
  | .job => [.name, .history]

/-- The operations that a unit of the kind must not define. -/
def sealedOperations : UnitKind → List Operation
  | .specificSelector => [.next]
  | _ => []

end UnitKind

/-- A unit of a kind: its name, the operations that it defines, and those that it takes over from another unit. -/
structure Extension where
  name : String
  kind : UnitKind
  operations : List Operation
  inherited : List Operation
deriving Inhabited, Repr

/-- Checks that a unit can be used: first that it defines nothing sealed, and then that it lacks nothing. -/
def Extension.check (extension : Extension) : Except Failure Unit :=
  if extension.operations.any extension.kind.sealedOperations.contains then .error (.sealedOverride extension.name)
  else if extension.kind.required.all (extension.operations ++ extension.inherited).contains then .ok ()
  else .error .wrongType

end RunPicker

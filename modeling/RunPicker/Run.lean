import RunPicker.Run.Parameter
import RunPicker.Run.Result

/-!
# Runs

A run of a job. `Run.lookup` gathers the variables of a run: those of its snapshot, overridden by its parameters in
their order; that the snapshot cannot be read is an answer, unless the reading was cancelled.
-/

namespace RunPicker

/-- The record of the environment that a run had: there, lost, or failing whenever it is read. -/
inductive Snapshot where
  | available (vars : Entries Value)
  | unavailable
  | failing (failure : Failure)
deriving Inhabited, Repr

/-- A run of a job. The parameters come in contributions, in the order in which they were attached. -/
structure Run where
  number : Int
  result : Result
  building : Bool
  snapshot : Snapshot
  contributions : List (List Parameter)
  displayName : String
deriving Inhabited, Repr

/-- What the reading of the variables of a run gives. -/
inductive Lookup where
  | found (vars : Environment)
  | failed (failure : Failure)
deriving Inhabited, Repr

namespace Run

/-- The display name of a run that was given none. -/
def defaultName (number : Int) : String :=
  "#" ++ toString number

/-- The run with its display name filled in where it is empty. -/
def named (run : Run) : Run :=
  if run.displayName.isEmpty then { run with displayName := defaultName run.number } else run

/-- Are the runs the same, by their number and their display name? -/
def same (run other : Run) : Bool :=
  run.number == other.number && run.displayName == other.displayName

/-- The variables of the snapshot, without the parameters. -/
def environment (run : Run) : Except Failure Environment :=
  match run.snapshot with
  | .available vars => Environment.ofMapping vars
  | .unavailable => .error (.environmentUnavailable run.displayName)
  | .failing failure => .error failure

/-- All parameters of a run, one contribution after the other. -/
def parameters (run : Run) : List Parameter :=
  run.contributions.flatten

/-- The variables with a parameter over them. A parameter that cannot be exported changes nothing. -/
def override (vars : Environment) (parameter : Parameter) : Except Failure Environment :=
  (suppressing [.notExportable] (parameter.exportTo vars)).map fun exported => exported.getD vars

/-- The variables of a run, parameters included. -/
def lookup (run : Run) : Except Failure Lookup :=
  match run.environment with
  | .ok vars => (run.parameters.foldlM override vars).map Lookup.found
  | .error failure => if failure.isCancellation then .error failure else .ok (.failed failure)

end Run

end RunPicker

import RunPicker.Context
import RunPicker.Filter
import RunPicker.Filter.Wanted
import RunPicker.Work

/-!
# Criteria

The conditions that filters are made of: that a run has the wanted parameters, and that it has a display name. Both are
expanded by the variables of the selection before they are read, and a run that is declined is told in a notice.
-/

namespace RunPicker

/-- What says in a context whether a run is accepted. -/
abbrev Judge (σ : Type) := Run → Context → Work σ Bool

/-- A condition on a run. -/
inductive Criterion where
  | parameters (wanted : String)
  | displayName (name : String)
deriving DecidableEq, Inhabited, Repr

namespace Criterion

/-- The name of a criterion with what it wants. -/
def title : Criterion → String
  | .parameters wanted => "Parameters (" ++ wanted ++ ")"
  | .displayName name => "Display name (" ++ name ++ ")"

/-- The pairs of names and values that a criterion on parameters wants in a context. -/
def wantedIn (wanted : String) (context : Context) : List (String × String) :=
  wantedPairs (context.expand wanted)

/-- Do the variables have all the wanted values? -/
def satisfies (vars : Environment) (pairs : List (String × String)) : Bool :=
  pairs.all fun (name, value) => vars.get? name == some value

variable {σ : Type}

/-- Declines a run with a notice. -/
def decline (notice : Notice) : Work σ Bool := do
  Work.note notice
  return false

/-- Is the run accepted? The variables of the run are read before anything else. -/
def judge (criterion : Criterion) : Judge σ := fun run context =>
  match criterion with
  | .parameters wanted => do
    match ← Work.ofExcept run.lookup with
    | .failed failure => decline (.unreadable criterion.title run.displayName failure)
    | .found vars =>
      if satisfies vars (wantedIn wanted context) then return true
      else decline (.declined criterion.title run.displayName)
  | .displayName name =>
    if run.displayName == context.expand name then return true
    else decline (.declined criterion.title run.displayName)

end Criterion

namespace RunFilter

/-- The name of a filter of criteria. -/
def title (filter : RunFilter Criterion) : String :=
  filter.displayName Criterion.title

/-- Is the run accepted by a filter, by the judges of its conditions? -/
def judge {σ α : Type} (judges : α → Judge σ) (filter : RunFilter α) : Judge σ := fun run context =>
  filter.holds fun condition => judges condition run context

end RunFilter

end RunPicker

import RunPicker.Job

/-!
# Jobs in memory

A job whose history is held by the host itself and grows run by run.
-/

namespace RunPicker

/-- A name and the runs under it, always in the order of their numbers. -/
structure Recorded where
  name : String
  runs : List Run
deriving Inhabited, Repr

namespace Recorded

/-- The record of some runs, given in any order. -/
def ofRuns (name : String) (runs : List Run) : Recorded :=
  ⟨name, sortedRuns runs⟩

/-- The record with one run more. -/
def add (run : Run) (recorded : Recorded) : Recorded :=
  { recorded with runs := sortedRuns (recorded.runs ++ [run]) }

/-- The job whose history is recorded. -/
def job : Job Recorded where
  name := do return (← Work.host).name
  history := do return (← Work.host).runs

end Recorded

end RunPicker

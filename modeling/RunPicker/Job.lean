import RunPicker.Run.Status
import RunPicker.Work

/-!
# Jobs

A job has a name and a history of runs, from the oldest to the newest. Every question about a job reads the history
anew, so the answer is that of the moment.
-/

namespace RunPicker

/-- A job: how its name and its history are read. -/
structure Job (σ : Type) where
  name : Work σ String
  history : Work σ (List Run)

/-- The newest run of a status in a history. -/
def newestOf (status : Status) (history : List Run) : Option Run :=
  history.reverse.find? status.covers

/-- The runs of a history that are older than a run, by their numbers, from the newest on. -/
def olderThan (run : Run) (history : List Run) : List Run :=
  history.reverse.filter fun other => other.number < run.number

/-- The first run of a history with a number. -/
def ofNumber (number : Int) (history : List Run) : Option Run :=
  history.find? fun run => run.number == number

/-- The runs in the order of their numbers, and of one number in the order in which they came. -/
def sortedRuns (runs : List Run) : List Run :=
  runs.mergeSort fun run other => run.number ≤ other.number

namespace Job

variable {σ : Type}

/-- The runs from the newest to the oldest. -/
def walk (job : Job σ) : Work σ (List Run) := do
  return (← job.history).reverse

/-- The runs that are older than a run, from the newest on. -/
def before (job : Job σ) (run : Run) : Work σ (List Run) := do
  return olderThan run (← job.history)

/-- The first run with a number. -/
def runOfNumber (job : Job σ) (number : Int) : Work σ (Option Run) := do
  return ofNumber number (← job.history)

/-- The newest run of a status. -/
def lastRun (job : Job σ) (status : Status) : Work σ (Option Run) := do
  return newestOf status (← job.history)

/-- The run that a permalink names. An unknown permalink names none, and the history is not read for it. -/
def runOfPermalink (job : Job σ) (id : String) : Work σ (Option Run) :=
  match Permalink.ofId? id with
  | some permalink => job.lastRun permalink.status
  | none => return none

end Job

end RunPicker

import RunPicker.Run

/-!
# Statuses of runs

The statuses that a selection can ask for, and the permalinks, which name the latest run of a status.
-/

namespace RunPicker

/-- A status that a selection can ask for. -/
inductive Status where
  | stable
  | successful
  | unstable
  | failed
  | unsuccessful
  | completed
  | any
deriving DecidableEq, Inhabited, Repr

namespace Status

/-- All statuses. -/
def all : List Status :=
  [.stable, .successful, .unstable, .failed, .unsuccessful, .completed, .any]

/-- The name of a status. -/
def name : Status → String
  | .stable => "stable"
  | .successful => "successful"
  | .unstable => "unstable"
  | .failed => "failed"
  | .unsuccessful => "unsuccessful"
  | .completed => "completed"
  | .any => "any"

/-- The status of a name. -/
def ofName? (name : String) : Option Status :=
  all.find? fun status => status.name == name

/-- Is a result that a run ended with of the status? -/
def admits : Status → Result → Bool
  | .stable, result => result == .success
  | .successful, result => result.isAtLeast .unstable
  | .unstable, result => result == .unstable
  | .failed, result => result == .failure
  | .unsuccessful, result => result != .success
  | .completed, _ => true
  | .any, _ => true

/-- Is the run of the status? While it is being built, it is of no status but `any`. -/
def covers (status : Status) (run : Run) : Bool :=
  status == .any || (!run.building && status.admits run.result)

end Status

/-- A name for the latest run of a status. -/
structure Permalink where
  id : String
  status : Status
deriving DecidableEq, Inhabited, Repr

namespace Permalink

/-- All permalinks. -/
def all : List Permalink :=
  [⟨"lastRun", .any⟩, ⟨"lastCompletedRun", .completed⟩, ⟨"lastSuccessfulRun", .successful⟩, ⟨"lastStableRun", .stable⟩,
   ⟨"lastUnstableRun", .unstable⟩, ⟨"lastFailedRun", .failed⟩, ⟨"lastUnsuccessfulRun", .unsuccessful⟩]

/-- The permalink of an identifier. -/
def ofId? (id : String) : Option Permalink :=
  all.find? fun permalink => permalink.id == id

end Permalink

end RunPicker

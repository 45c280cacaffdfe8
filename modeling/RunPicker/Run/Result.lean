/-!
# Results of runs

How a run ended, from the best result to the worst.
-/

namespace RunPicker

/-- The result of a run. -/
inductive Result where
  | success
  | unstable
  | failure
  | notBuilt
  | aborted
deriving DecidableEq, Inhabited, Repr

namespace Result

/-- All results, from the best to the worst. -/
def all : List Result :=
  [.success, .unstable, .failure, .notBuilt, .aborted]

/-- The place of a result among all, from 0. -/
def rank : Result → Nat
  | .success => 0
  | .unstable => 1
  | .failure => 2
  | .notBuilt => 3
  | .aborted => 4

/-- Is the result at least as good as the other? -/
def isAtLeast (result other : Result) : Bool :=
  result.rank ≤ other.rank

/-- The name of a result. -/
def name : Result → String
  | .success => "SUCCESS"
  | .unstable => "UNSTABLE"
  | .failure => "FAILURE"
  | .notBuilt => "NOT_BUILT"
  | .aborted => "ABORTED"

/-- The result of a name. -/
def ofName? (name : String) : Option Result :=
  all.find? fun result => result.name == name

end Result

end RunPicker

/-!
# Filters

A filter is a tree of conditions, joined by all, any and not. `RunFilter.holds` asks the conditions from left to right
and stops at the first answer that decides.
-/

namespace RunPicker

/-- A filter over conditions of a type. -/
inductive RunFilter (α : Type) where
  | leaf (condition : α)
  | all (parts : List (RunFilter α))
  | any (parts : List (RunFilter α))
  | not (part : RunFilter α)
deriving Inhabited, Repr

namespace RunFilter

variable {α β : Type} {m : Type → Type} [Monad m]

mutual

/-- Does the filter hold, by what is said of its conditions? -/
def holds (judge : α → m Bool) : RunFilter α → m Bool
  | .leaf condition => judge condition
  | .all parts => allHold judge parts
  | .any parts => anyHolds judge parts
  | .not part => do return !(← holds judge part)

/-- Do all of the filters hold? The first that does not ends the question. -/
def allHold (judge : α → m Bool) : List (RunFilter α) → m Bool
  | [] => return true
  | part :: rest => do
    if ← holds judge part then allHold judge rest else return false

/-- Does any of the filters hold? The first that does ends the question. -/
def anyHolds (judge : α → m Bool) : List (RunFilter α) → m Bool
  | [] => return false
  | part :: rest => do
    if ← holds judge part then return true else anyHolds judge rest

end

mutual

/-- The name of a filter, by the names of its conditions. -/
def displayName (name : α → String) : RunFilter α → String
  | .leaf condition => name condition
  | .all parts => "And (" ++ ", ".intercalate (displayNames name parts) ++ ")"
  | .any parts => "Or (" ++ ", ".intercalate (displayNames name parts) ++ ")"
  | .not part => "Not (" ++ displayName name part ++ ")"

/-- The names of filters. -/
def displayNames (name : α → String) : List (RunFilter α) → List String
  | [] => []
  | part :: rest => displayName name part :: displayNames name rest

end

mutual

/-- The filter with other conditions in the places of its own. -/
def map (f : α → β) : RunFilter α → RunFilter β
  | .leaf condition => .leaf (f condition)
  | .all parts => .all (mapAll f parts)
  | .any parts => .any (mapAll f parts)
  | .not part => .not (map f part)

/-- The filters with other conditions in the places of their own. -/
def mapAll (f : α → β) : List (RunFilter α) → List (RunFilter β)
  | [] => []
  | part :: rest => map f part :: mapAll f rest

end

/-- The chain of some filters: none if there are none, the one if there is one, and otherwise all of them. -/
def chain : List (RunFilter α) → Option (RunFilter α)
  | [] => none
  | [part] => some part
  | parts => some (.all parts)

end RunFilter

end RunPicker

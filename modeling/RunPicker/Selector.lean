import RunPicker.Context
import RunPicker.Job
import RunPicker.Text.Integer

/-!
# Selectors

A selector offers candidates one by one: `Enumerator.next` gives the next candidate by what the context remembers of the
last. An enumerator of a specific run (`Enumerator.specific`) offers only until a run is accepted. `Selector` holds the
three ways of selecting that can be asked for, and `Selector.enumerator` says what each of them offers.
-/

namespace RunPicker

/-- A way of offering the runs of a job one by one. -/
structure Enumerator (σ : Type) where
  displayName : String
  next : Job σ → Context → Work σ (Option Run)

/-- The enumerator of the one run that is located, which is offered as long as no run was accepted. -/
def Enumerator.specific {σ : Type} (displayName : String) (locate : Job σ → Context → Work σ (Option Run)) :
    Enumerator σ where
  displayName := displayName
  next job context := if context.lastMatch.isSome then return none else locate job context

/-- What a selector goes by: the status of the runs, the number of a run, or a permalink. -/
inductive Selector where
  | byStatus (status : Status)
  | byNumber (text : String)
  | byPermalink (permalink : Permalink)
deriving DecidableEq, Inhabited, Repr

namespace Selector

/-- The name of a selector with what it goes by. -/
def displayName : Selector → String
  | .byStatus status => "Latest run with status (" ++ status.name ++ ")"
  | .byNumber text => "Specific run (" ++ text ++ ")"
  | .byPermalink permalink => "Permalink (" ++ permalink.id ++ ")"

variable {σ : Type}

/-- The newest run of a status, or the newest that is older than the last candidate. -/
def nextOfStatus (status : Status) (job : Job σ) (context : Context) : Work σ (Option Run) := do
  let runs ← match context.lastCandidate with
    | none => job.walk
    | some candidate => job.before candidate
  return runs.find? status.covers

/-- The run with the number that a text spells once it is expanded. -/
def locateNumber (text : String) (job : Job σ) (context : Context) : Work σ (Option Run) := do
  let name := (byNumber text).displayName
  let expanded := context.expand text
  match Text.integer? (Text.trim expanded) with
  | none =>
    Work.note (.notANumber name expanded)
    return none
  | some number =>
    let run ← job.runOfNumber number
    if run.isNone then Work.note (.noRunOfNumber name number)
    return run

/-- The run that a permalink names. -/
def locatePermalink (permalink : Permalink) (job : Job σ) (_ : Context) : Work σ (Option Run) := do
  let run ← job.runOfPermalink permalink.id
  if run.isNone then Work.note (.noRunOfPermalink (byPermalink permalink).displayName (← job.name))
  return run

/-- What a selector offers. -/
def enumerator (selector : Selector) : Enumerator σ :=
  match selector with
  | .byStatus status => ⟨selector.displayName, nextOfStatus status⟩
  | .byNumber text => .specific selector.displayName (locateNumber text)
  | .byPermalink permalink => .specific selector.displayName (locatePermalink permalink)

end Selector

end RunPicker

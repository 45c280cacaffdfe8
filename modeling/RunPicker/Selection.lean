import RunPicker.Filter.Criterion
import RunPicker.Selector

/-!
# Selections

A selection asks an enumerator for candidates until one is accepted (`selectRun`), and does so again for as many runs as
are wanted (`selectRuns`). It ends when there is no candidate left, and also when the enumerator offers the run that it
offered right before, since that run has been judged already. The number of candidates that are asked for is limited,
because an enumerator need not come to an end.
-/

namespace RunPicker

/-- A desk together with the context of a selection. -/
structure Session (σ : Type) where
  context : Context
  desk : Desk σ
deriving Inhabited

/-- An operation within a selection that may fail. The context too stays as it was when the failure came. -/
abbrev Selecting (σ α : Type) := ExceptT Failure (StateM (Session σ)) α

namespace Selecting

variable {σ α : Type}

/-- What the operation gives in a session, and the session afterwards. -/
def on (operation : Selecting σ α) (session : Session σ) : Except Failure α × Session σ :=
  operation.run.run session

/-- Work that may look at the context but not change it. -/
def ofWork (work : Context → Work σ α) : Selecting σ α :=
  ExceptT.mk fun session =>
    let (result, desk) := (work session.context).on session.desk
    (result, ⟨session.context, desk⟩)

/-- The operation within a selection that begins with a context. -/
def within (operation : Selecting σ α) (context : Context) : Work σ α :=
  ExceptT.mk fun desk =>
    let (result, session) := operation.on ⟨context, desk⟩
    (result, session.desk)

/-- The context. -/
def context : Selecting σ Context := do
  return (← get).context

/-- Changes the context. -/
def onContext (change : Context → Except Failure Context) : Selecting σ Unit :=
  ExceptT.mk fun session =>
    match change session.context with
    | .ok context => (.ok (), ⟨context, session.desk⟩)
    | .error failure => (.error failure, session)

end Selecting

variable {σ : Type}

/-- Does an enumerator offer a run that it offered right before? -/
def isRepeated (context : Context) (candidate : Run) : Bool :=
  context.lastCandidate.any candidate.same

/-- Accepts a run: remembers it, and reports it at the verbosity of progress. -/
def accept (enumerator : Enumerator σ) (run : Run) : Selecting σ Unit := do
  Selecting.onContext fun context => context.recordMatch (some run)
  Selecting.ofWork fun _ =>
    Work.onConsole (Console.inform infoLevel (enumerator.displayName ++ ": selected " ++ run.displayName))

/-- Is the run accepted? Without a judge every run is. -/
def isAccepted (judge? : Option (Judge σ)) (run : Run) : Selecting σ Bool :=
  match judge? with
  | none => return true
  | some judge => Selecting.ofWork (judge run)

/-- The first candidate that is accepted, of at most `limit` candidates. -/
def selectRun (job : Job σ) (enumerator : Enumerator σ) (judge? : Option (Judge σ)) : Nat → Selecting σ (Option Run)
  | 0 => throw .endlessSelection
  | limit + 1 => do
    match ← Selecting.ofWork (enumerator.next job) with
    | none => return none
    | some candidate =>
      if isRepeated (← Selecting.context) candidate then
        Selecting.ofWork fun _ => Work.note (.offeredAgain enumerator.displayName candidate.displayName)
        return none
      else
        Selecting.onContext fun context => .ok (context.recordCandidate (some candidate))
        if ← isAccepted judge? candidate then
          accept enumerator candidate
          return some candidate
        else selectRun job enumerator judge? limit

/-- Up to `count` runs, each selected after the one before in the same context. -/
def selectRuns (limit : Nat) (job : Job σ) (enumerator : Enumerator σ) (judge? : Option (Judge σ)) :
    Nat → Selecting σ (List Run)
  | 0 => return []
  | count + 1 => do
    match ← selectRun job enumerator judge? limit with
    | none => return []
    | some run => return run :: (← selectRuns limit job enumerator judge? count)

/-- The number of candidates that a selection of a program asks for at most. -/
def candidateLimit : Nat := Nat.pow 2 62

end RunPicker

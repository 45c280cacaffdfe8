import RunPicker.Console

/-!
# Work

An operation that may fail and that has two things at hand: the console, and a host that holds what jobs and selectors
need, such as files. What was done before a failure stays done.
-/

namespace RunPicker

/-- The console and the host. -/
structure Desk (σ : Type) where
  console : Console
  host : σ
deriving Inhabited

/-- An operation on a desk that may fail. -/
abbrev Work (σ α : Type) := ExceptT Failure (StateM (Desk σ)) α

namespace Work

variable {σ τ α : Type}

/-- What the operation gives on a desk, and the desk afterwards. -/
def on (work : Work σ α) (desk : Desk σ) : Except Failure α × Desk σ :=
  work.run.run desk

/-- The result of a computation that may fail. -/
def ofExcept (result : Except Failure α) : Work σ α :=
  ExceptT.mk (pure result)

/-- Changes the console. -/
def onConsole (change : Console → Console) : Work σ Unit :=
  modify fun desk => { desk with console := change desk.console }

/-- Takes a notice. -/
def note (notice : Notice) : Work σ Unit :=
  onConsole (Console.note notice)

/-- The settings of the console. -/
def settings : Work σ Settings := do
  return (← get).console.settings

/-- The host. -/
def host : Work σ σ := do
  return (← get).host

/-- Changes the host. -/
def onHost (change : σ → σ) : Work σ Unit :=
  modify fun desk => { desk with host := change desk.host }

/-- The operation on a part of the host. -/
def onPart (part : σ → τ) (replace : τ → σ → σ) (work : Work τ α) : Work σ α :=
  ExceptT.mk fun desk =>
    let (result, after) := work.on ⟨desk.console, part desk.host⟩
    (result, ⟨after.console, replace after.host desk.host⟩)

end Work

end RunPicker

import RunPicker.Selection

/-!
# Operations on desks and in sessions

What each building block of `Work` and `Selecting` does when it is carried out with `on`: `on_bind` carries out one
operation after the other, and the others are the operations themselves. `Work.Yields` and `Selecting.Yields` say what
an operation gives whenever the host has a property, which it keeps. Whatever is kept where one operation follows
another is kept by filters (`RunFilter.holds_related`).
-/

namespace RunPicker

variable {σ τ α β : Type}

/-- A result that passes a test is a value that does. -/
theorem exists_of_any_toOption {result : Except Failure α} {test : α → Bool} (h : result.toOption.any test = true) :
    ∃ value, result = .ok value ∧ test value = true := by
  cases result with
  | error failure => cases h
  | ok value => exact ⟨value, rfl, h⟩

namespace Work

@[simp] theorem on_pure (value : α) (desk : Desk σ) : (pure value : Work σ α).on desk = (.ok value, desk) := rfl

@[simp] theorem on_throw (failure : Failure) (desk : Desk σ) :
    (throw failure : Work σ α).on desk = (.error failure, desk) := rfl

/-- One operation after the other: a failure of the first is that of both. -/
@[simp] theorem on_bind (work : Work σ α) (next : α → Work σ β) (desk : Desk σ) :
    (work >>= next).on desk = match work.on desk with
      | (.ok value, after) => (next value).on after
      | (.error failure, after) => (.error failure, after) := by
  have outcome : (work >>= next).on desk = ExceptT.bindCont next (work.on desk).1 (work.on desk).2 := rfl
  rw [outcome]
  rcases work.on desk with ⟨failure | value, after⟩ <;> rfl

/-- The value of an operation is mapped, and what it leaves is the same. -/
@[simp] theorem on_map (f : α → β) (work : Work σ α) (desk : Desk σ) :
    (f <$> work).on desk = match work.on desk with
      | (.ok value, after) => (.ok (f value), after)
      | (.error failure, after) => (.error failure, after) := by
  rw [map_eq_pure_bind, on_bind]
  rcases work.on desk with ⟨failure | value, after⟩ <;> rfl

@[simp] theorem on_ofExcept (result : Except Failure α) (desk : Desk σ) :
    (ofExcept result).on desk = (result, desk) := rfl

@[simp] theorem on_onConsole (change : Console → Console) (desk : Desk σ) :
    (onConsole change).on desk = (.ok (), { desk with console := change desk.console }) := rfl

@[simp] theorem on_host (desk : Desk σ) : (host : Work σ σ).on desk = (.ok desk.host, desk) := rfl

@[simp] theorem on_onHost (change : σ → σ) (desk : Desk σ) :
    (onHost change).on desk = (.ok (), { desk with host := change desk.host }) := rfl

/-- Whenever the host has the property, the operation gives the value, and the host has the property afterwards. -/
def Yields (P : σ → Prop) (work : Work σ α) (value : α) : Prop :=
  ∀ desk : Desk σ, P desk.host → ∃ after : Desk σ, work.on desk = (.ok value, after) ∧ P after.host

variable {P : σ → Prop}

theorem yields_pure (value : α) : Yields P (pure value) value :=
  fun desk h => ⟨desk, rfl, h⟩

/-- A notice yields nothing, and keeps the property of the host. -/
theorem yields_note (notice : Notice) : Yields P (note notice) () :=
  fun _ h => ⟨_, rfl, h⟩

theorem Yields.bind {work : Work σ α} {next : α → Work σ β} {value : α} {result : β} (hw : Yields P work value)
    (hn : Yields P (next value) result) : Yields P (work >>= next) result := by
  intro desk h
  obtain ⟨middle, hmiddle, hP⟩ := hw desk h
  obtain ⟨after, hafter, hP'⟩ := hn middle hP
  refine ⟨after, ?_, hP'⟩
  rw [on_bind, hmiddle]
  exact hafter

end Work

namespace Selecting

@[simp] theorem on_pure (value : α) (session : Session σ) :
    (pure value : Selecting σ α).on session = (.ok value, session) := rfl

@[simp] theorem on_throw (failure : Failure) (session : Session σ) :
    (throw failure : Selecting σ α).on session = (.error failure, session) := rfl

/-- One operation after the other: a failure of the first is that of both. -/
@[simp] theorem on_bind (operation : Selecting σ α) (next : α → Selecting σ β) (session : Session σ) :
    (operation >>= next).on session = match operation.on session with
      | (.ok value, after) => (next value).on after
      | (.error failure, after) => (.error failure, after) := by
  have outcome : (operation >>= next).on session =
      ExceptT.bindCont next (operation.on session).1 (operation.on session).2 := rfl
  rw [outcome]
  rcases operation.on session with ⟨failure | value, after⟩ <;> rfl

@[simp] theorem on_ofWork (work : Context → Work σ α) (session : Session σ) :
    (ofWork work).on session =
      (((work session.context).on session.desk).1, ⟨session.context, ((work session.context).on session.desk).2⟩) := rfl

@[simp] theorem on_context (session : Session σ) :
    (context : Selecting σ Context).on session = (.ok session.context, session) := rfl

@[simp] theorem on_onContext (change : Context → Except Failure Context) (session : Session σ) :
    (onContext change : Selecting σ Unit).on session = match change session.context with
      | .ok context => (.ok (), ⟨context, session.desk⟩)
      | .error failure => (.error failure, session) := by
  unfold on onContext
  cases h : change session.context <;> simp [ExceptT.run, ExceptT.mk, StateT.run, h]

/-- From a context, and whenever the host has the property, the operation gives the value and the other context, and the
host has the property afterwards. -/
def Yields (P : σ → Prop) (operation : Selecting σ α) (before : Context) (value : α) (after : Context) : Prop :=
  ∀ desk : Desk σ, P desk.host →
    ∃ desk' : Desk σ, operation.on ⟨before, desk⟩ = (.ok value, ⟨after, desk'⟩) ∧ P desk'.host

variable {P : σ → Prop}

theorem yields_pure (value : α) (context : Context) : Yields P (pure value) context value context :=
  fun desk h => ⟨desk, rfl, h⟩

theorem Yields.bind {operation : Selecting σ α} {next : α → Selecting σ β} {value : α} {result : β}
    {before middle after : Context} (ho : Yields P operation before value middle)
    (hn : Yields P (next value) middle result after) : Yields P (operation >>= next) before result after := by
  intro desk h
  obtain ⟨desk', hdesk', hP⟩ := ho desk h
  obtain ⟨desk'', hdesk'', hP'⟩ := hn desk' hP
  refine ⟨desk'', ?_, hP'⟩
  rw [on_bind, hdesk']
  exact hdesk''

end Selecting

namespace RunFilter

section

variable {m m' : Type → Type} [Monad m] [Monad m']

/-- A relation between operations that is kept where one operation follows another. -/
structure Composes (Related : m Bool → m' Bool → Prop) : Prop where
  pure : ∀ answer, Related (pure answer) (pure answer)
  bind : ∀ {work work' next next'}, Related work work' → (∀ answer, Related (next answer) (next' answer)) →
    Related (work >>= next) (work' >>= next')

variable {Related : m Bool → m' Bool → Prop} {judge : α → m Bool} {judge' : α → m' Bool}

mutual

/-- Filters are related if their conditions are. -/
theorem holds_related (composes : Composes Related) (h : ∀ condition, Related (judge condition) (judge' condition)) :
    ∀ filter : RunFilter α, Related (filter.holds judge) (filter.holds judge')
  | .leaf condition => by
    rw [holds, holds]
    exact h condition
  | .all parts => by
    rw [holds, holds]
    exact allHold_related composes h parts
  | .any parts => by
    rw [holds, holds]
    exact anyHolds_related composes h parts
  | .not part => by
    rw [holds, holds]
    exact composes.bind (holds_related composes h part) fun answer => composes.pure (!answer)

/-- The conditions of a conjunction are judged up to the first that fails, alike by related judges. -/
theorem allHold_related (composes : Composes Related) (h : ∀ condition, Related (judge condition) (judge' condition)) :
    ∀ parts : List (RunFilter α), Related (allHold judge parts) (allHold judge' parts)
  | [] => by
    rw [allHold, allHold]
    exact composes.pure true
  | part :: rest => by
    rw [allHold, allHold]
    refine composes.bind (holds_related composes h part) fun answer => ?_
    cases answer with
    | true => exact allHold_related composes h rest
    | false => exact composes.pure false

/-- The conditions of an alternative are judged up to the first that holds, alike by related judges. -/
theorem anyHolds_related (composes : Composes Related)
    (h : ∀ condition, Related (judge condition) (judge' condition)) :
    ∀ parts : List (RunFilter α), Related (anyHolds judge parts) (anyHolds judge' parts)
  | [] => by
    rw [anyHolds, anyHolds]
    exact composes.pure false
  | part :: rest => by
    rw [anyHolds, anyHolds]
    refine composes.bind (holds_related composes h part) fun answer => ?_
    cases answer with
    | true => exact composes.pure true
    | false => exact anyHolds_related composes h rest

end

end

end RunFilter

end RunPicker

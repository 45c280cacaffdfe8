import Mathlib.Data.List.Forall2

/-!
# Results of operations that may fail

An operation that consists of others gives a result or fails as its parts do: one after another (`exists_of_bind_ok`,
`bind_error`), changed afterwards (`map_eq_ok_iff`, `map_eq_error_iff`), or done for each item of a list, which succeeds
item by item and fails as the first item that fails (`mapM_eq_ok_iff`, `mapM_eq_error_iff`).
-/

namespace RunPicker.ResultsAux

variable {α β ε : Type} {failure : ε}

section

variable {first : Except ε α} {next : α → Except ε β}

/-- Two operations that are done one after the other gave a result: the first did, and then the second with it. -/
theorem exists_of_bind_ok {result : β} (h : (first >>= next) = .ok result) :
    ∃ value, first = .ok value ∧ next value = .ok result := by
  cases first with
  | error found => exact nomatch h
  | ok value => exact ⟨value, rfl, h⟩

/-- Two operations are done one after the other if the first is done, and then the second with what it gave. -/
theorem exists_bind_iff :
    (∃ result, (first >>= next) = .ok result) ↔ ∃ value, first = .ok value ∧ ∃ result, next value = .ok result := by
  constructor
  · rintro ⟨result, h⟩
    obtain ⟨value, hfirst, hnext⟩ := exists_of_bind_ok h
    exact ⟨value, hfirst, result, hnext⟩
  · rintro ⟨value, rfl, h⟩
    exact h

/-- The failure of one operation after another is that of the first, or that of the second. -/
theorem bind_error (h : (first >>= next) = .error failure) :
    first = .error failure ∨ ∃ value, next value = .error failure := by
  cases first with
  | error other => exact .inl (congrArg Except.error (Except.error.inj h))
  | ok value => exact .inr ⟨value, h⟩

end

theorem map_eq_ok_iff {f : α → β} {outcome : Except ε α} {result : β} :
    outcome.map f = .ok result ↔ ∃ value, outcome = .ok value ∧ f value = result := by
  cases outcome <;> simp [Except.map]

theorem map_eq_error_iff {f : α → β} {outcome : Except ε α} :
    outcome.map f = .error failure ↔ outcome = .error failure := by
  cases outcome <;> simp [Except.map]

section

variable {f : α → Except ε β} {items : List α}

/-- A list is read if each of its items is. -/
theorem mapM_eq_ok_iff {values : List β} :
    items.mapM f = .ok values ↔ List.Forall₂ (fun item value => f item = .ok value) items values := by
  induction items generalizing values with
  | nil => simp [pure, Except.pure, eq_comm]
  | cons item rest ih =>
    rw [List.mapM_cons, List.forall₂_cons_left_iff]
    simp only [← ih]
    constructor
    · intro h
      obtain ⟨value, hvalue, h⟩ := exists_of_bind_ok h
      obtain ⟨others, hothers, h⟩ := exists_of_bind_ok h
      exact ⟨value, others, hvalue, hothers, (Except.ok.inj h).symm⟩
    · rintro ⟨value, others, hvalue, hothers, rfl⟩
      rw [hvalue, hothers]
      rfl

/-- A list fails as the first of its items that fails. -/
theorem mapM_eq_error_iff :
    items.mapM f = .error failure ↔
      ∃ front item back, items = front ++ item :: back ∧ (∀ other ∈ front, ∃ value, f other = .ok value) ∧
        f item = .error failure := by
  induction items with
  | nil => simp [pure, Except.pure]
  | cons item rest ih =>
    rw [List.mapM_cons]
    cases hitem : f item with
    | error other =>
      constructor
      · intro h
        obtain rfl := Except.error.inj h
        exact ⟨[], item, rest, rfl, nofun, hitem⟩
      · rintro ⟨front, failing, back, hitems, hfront, hfailing⟩
        cases front with
        | nil =>
          obtain ⟨rfl, -⟩ := List.cons.inj hitems
          obtain rfl := Except.error.inj (hitem.symm.trans hfailing)
          rfl
        | cons first front =>
          obtain ⟨rfl, -⟩ := List.cons.inj hitems
          obtain ⟨value, hvalue⟩ := hfront item List.mem_cons_self
          exact nomatch hitem.symm.trans hvalue
    | ok value =>
      have hrest : (do let values ← rest.mapM f; pure (value :: values)) = Except.error failure ↔
          rest.mapM f = .error failure := by
        cases rest.mapM f <;> simp [bind, Except.bind, pure, Except.pure]
      refine hrest.trans (ih.trans ⟨?_, ?_⟩)
      · rintro ⟨front, failing, back, rfl, hfront, hfailing⟩
        exact ⟨item :: front, failing, back, rfl, List.forall_mem_cons.mpr ⟨⟨value, hitem⟩, hfront⟩, hfailing⟩
      · rintro ⟨front, failing, back, hitems, hfront, hfailing⟩
        cases front with
        | nil =>
          obtain ⟨rfl, -⟩ := List.cons.inj hitems
          exact nomatch hitem.symm.trans hfailing
        | cons first front =>
          obtain ⟨-, hrest⟩ := List.cons.inj hitems
          exact ⟨front, failing, back, hrest, (List.forall_mem_cons.mp hfront).2, hfailing⟩

end

end RunPicker.ResultsAux

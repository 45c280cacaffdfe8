import RunPicker.Proofs.Entries
import RunPicker.Run

/-!
# The variables of a run

The lookup of a run merges its parameters into its snapshot. `Run.valueOf?` says what comes of it for one variable,
without any merging: the value of the last parameter that sets the variable, and that of the snapshot if none does. The
lookup succeeds exactly if the snapshot can be read (`exists_lookup`), and what it finds has those values
(`get?_of_lookup`).
-/

namespace RunPicker

/-- What a parameter sets a variable to, if it sets that variable. -/
def Parameter.setting? (name : String) (parameter : Parameter) : Option String :=
  if Value.equal (.text name) parameter.name then parameter.exported? else none

namespace Run

/-- The value of a variable in an environment that the parameters of a run override: that of the last parameter which
sets the variable, and that of the environment if none does. -/
def valueOf? (run : Run) (own : Environment) (name : String) : Option String :=
  (run.parameters.reverse.findSome? (Parameter.setting? name)).or (own.get? name)

end Run

namespace RunVariablesAux

/-- A parameter that is exported is merged into the variables, and any other is skipped. -/
theorem override_eq (vars : Environment) (parameter : Parameter) :
    Run.override vars parameter = .ok (match parameter.exported? with
      | none => vars
      | some value => Entries.insert vars parameter.name value) := by
  unfold Run.override Parameter.exportTo
  cases parameter.exported? <;> rfl

/-- What a variable is after a parameter was merged. -/
theorem get?_of_override {vars after : Environment} {parameter : Parameter}
    (h : Run.override vars parameter = .ok after) (name : String) :
    after.get? name = (parameter.setting? name).or (vars.get? name) := by
  rw [override_eq] at h
  unfold Parameter.setting?
  cases hexported : parameter.exported? with
  | none =>
    rw [hexported] at h
    rw [ite_self, Option.none_or, ← Except.ok.inj h]
  | some value =>
    simp only [hexported] at h
    rw [← Except.ok.inj h, Environment.get?, EntriesAux.named?_insert]
    split <;> rfl

/-- All parameters are merged or skipped, one after the other. -/
theorem exists_foldlM_override (parameters : List Parameter) (vars : Environment) :
    ∃ after, parameters.foldlM Run.override vars = .ok after := by
  induction parameters generalizing vars with
  | nil => exact ⟨vars, rfl⟩
  | cons parameter rest ih =>
    rw [List.foldlM_cons, override_eq]
    exact ih _

/-- What a variable is after all parameters were merged: the last that sets it counts. -/
theorem get?_of_foldlM_override {parameters : List Parameter} {vars after : Environment}
    (h : parameters.foldlM Run.override vars = .ok after) (name : String) :
    after.get? name = (parameters.reverse.findSome? (Parameter.setting? name)).or (vars.get? name) := by
  induction parameters generalizing vars with
  | nil =>
    rw [← Except.ok.inj h]
    rfl
  | cons parameter rest ih =>
    rw [List.foldlM_cons] at h
    cases hfirst : Run.override vars parameter with
    | error failure =>
      rw [hfirst] at h
      exact nomatch h
    | ok middle =>
      rw [hfirst] at h
      rw [ih h, get?_of_override hfirst, List.reverse_cons, List.findSome?_append, Option.or_assoc,
        List.findSome?_singleton]

end RunVariablesAux

open RunVariablesAux

namespace Run

/-- The lookup finds variables if the snapshot can be read, and only then. -/
theorem exists_lookup (run : Run) :
    (∃ vars, run.lookup = .ok (.found vars)) ↔ ∃ own, run.environment = .ok own := by
  unfold lookup
  cases run.environment with
  | ok own =>
    obtain ⟨after, hafter⟩ := exists_foldlM_override run.parameters own
    exact iff_of_true ⟨after, congrArg (Except.map Lookup.found) hafter⟩ ⟨own, rfl⟩
  | error failure =>
    refine iff_of_false (fun ⟨vars, h⟩ => ?_) nofun
    dsimp only at h
    split at h
    · exact nomatch h
    · exact nomatch h

/-- The variables that the lookup finds have the values of the snapshot, overridden by the parameters. -/
theorem get?_of_lookup {run : Run} {own vars : Environment} (hown : run.environment = .ok own)
    (h : run.lookup = .ok (.found vars)) (name : String) : vars.get? name = run.valueOf? own name := by
  unfold lookup at h
  rw [hown] at h
  cases hmerged : run.parameters.foldlM override own with
  | error failure =>
    simp only [hmerged] at h
    exact nomatch h
  | ok merged =>
    simp only [hmerged, Except.map, Except.ok.injEq, Lookup.found.injEq] at h
    rw [← h]
    exact get?_of_foldlM_override hmerged name

end Run

end RunPicker

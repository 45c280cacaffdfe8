import RunPicker.Filter.Criterion
import RunPicker.Proofs.Operation
import RunPicker.Proofs.RunVariables

/-!
# Verdicts of filters

Whether a filter of criteria accepts a run is a matter of the variables of the selection and of the run
(`RunFilter.accepts`), as long as the variables of the run can be read. Asking a filter then always gives that verdict,
on every desk and whatever it skips (`yields_judge`).
-/

namespace RunPicker

variable {σ α : Type}

/-- The lookup of the variables of a run is not cancelled. -/
def Run.Readable (run : Run) : Prop :=
  ∀ failure, run.environment = .error failure → failure.isCancellation = false

/-- Is a run accepted by a criterion, by the variables of the selection? -/
def Criterion.accepts (vars : Environment) (run : Run) : Criterion → Bool
  | .parameters wanted => match run.lookup with
    | .ok (.found own) => satisfies own (wantedPairs (vars.expand wanted))
    | _ => false
  | .displayName name => run.displayName == vars.expand name

namespace RunFilter

mutual

/-- Is a filter true, by the truth of its conditions? -/
def truth (leaf : α → Bool) : RunFilter α → Bool
  | .leaf condition => leaf condition
  | .all parts => allTrue leaf parts
  | .any parts => anyTrue leaf parts
  | .not part => !truth leaf part

/-- Are all of the filters true? -/
def allTrue (leaf : α → Bool) : List (RunFilter α) → Bool
  | [] => true
  | part :: rest => truth leaf part && allTrue leaf rest

/-- Is any of the filters true? -/
def anyTrue (leaf : α → Bool) : List (RunFilter α) → Bool
  | [] => false
  | part :: rest => truth leaf part || anyTrue leaf rest

end

/-- Is a run accepted by a filter of criteria, by the variables of the selection? -/
def accepts (vars : Environment) (run : Run) (filter : RunFilter Criterion) : Bool :=
  filter.truth (Criterion.accepts vars run)

end RunFilter

namespace VerdictAux

/-- The lookup of a readable run gives an answer. -/
theorem lookup_of_readable {run : Run} (h : run.Readable) : ∃ answer, run.lookup = .ok answer := by
  cases henvironment : run.environment with
  | ok own =>
    obtain ⟨vars, hfound⟩ := run.exists_lookup.mpr ⟨own, henvironment⟩
    exact ⟨.found vars, hfound⟩
  | error failure => exact ⟨.failed failure, by simp [Run.lookup, henvironment, h failure henvironment]⟩

variable {P : σ → Prop}

theorem yields_decline (notice : Notice) : Work.Yields P (Criterion.decline notice) false :=
  Work.Yields.bind (Work.yields_note notice) (Work.yields_pure false)

/-- The judge of a criterion gives its verdict. -/
theorem yields_criterion {run : Run} (h : run.Readable) (criterion : Criterion) (context : Context) :
    Work.Yields P (criterion.judge run context) (criterion.accepts context.vars run) := by
  cases criterion with
  | parameters wanted =>
    obtain ⟨answer, hanswer⟩ := lookup_of_readable h
    have hlookup : Work.Yields P (Work.ofExcept run.lookup) answer := by
      rw [hanswer]
      exact Work.yields_pure answer
    simp only [Criterion.judge, Criterion.accepts, hanswer]
    rw [hanswer] at hlookup
    refine hlookup.bind ?_
    cases answer with
    | failed failure => exact yields_decline _
    | found own =>
      cases hsatisfied : Criterion.satisfies own (wantedPairs (context.vars.expand wanted)) with
      | true =>
        simp only [Criterion.wantedIn, Context.expand, hsatisfied, if_true]
        exact Work.yields_pure true
      | false =>
        simp only [Criterion.wantedIn, Context.expand, hsatisfied, Bool.false_eq_true, if_false]
        exact yields_decline _
  | displayName name =>
    have haccepts : (Criterion.displayName name).accepts context.vars run = (run.displayName == context.expand name) :=
      rfl
    simp only [Criterion.judge, haccepts]
    by_cases hname : (run.displayName == context.expand name) = true
    · rw [if_pos hname, hname]
      exact Work.yields_pure true
    · rw [if_neg hname, Bool.eq_false_iff.mpr hname]
      exact yields_decline _

section

variable {judge : α → Work σ Bool} {leaf : α → Bool}

mutual

/-- A filter whose conditions give their truth gives its own, although it does not ask all of them. -/
theorem yields_holds (h : ∀ condition, Work.Yields P (judge condition) (leaf condition)) :
    ∀ filter : RunFilter α, Work.Yields P (filter.holds judge) (filter.truth leaf)
  | .leaf condition => by
    rw [RunFilter.holds, RunFilter.truth]
    exact h condition
  | .all parts => by
    rw [RunFilter.holds, RunFilter.truth]
    exact yields_allHold h parts
  | .any parts => by
    rw [RunFilter.holds, RunFilter.truth]
    exact yields_anyHolds h parts
  | .not part => by
    rw [RunFilter.holds, RunFilter.truth]
    exact (yields_holds h part).bind (Work.yields_pure _)

theorem yields_allHold (h : ∀ condition, Work.Yields P (judge condition) (leaf condition)) :
    ∀ parts : List (RunFilter α), Work.Yields P (RunFilter.allHold judge parts) (RunFilter.allTrue leaf parts)
  | [] => by
    rw [RunFilter.allHold, RunFilter.allTrue]
    exact Work.yields_pure true
  | part :: rest => by
    rw [RunFilter.allHold, RunFilter.allTrue]
    refine (yields_holds h part).bind ?_
    cases part.truth leaf with
    | true => exact yields_allHold h rest
    | false => exact Work.yields_pure false

theorem yields_anyHolds (h : ∀ condition, Work.Yields P (judge condition) (leaf condition)) :
    ∀ parts : List (RunFilter α), Work.Yields P (RunFilter.anyHolds judge parts) (RunFilter.anyTrue leaf parts)
  | [] => by
    rw [RunFilter.anyHolds, RunFilter.anyTrue]
    exact Work.yields_pure false
  | part :: rest => by
    rw [RunFilter.anyHolds, RunFilter.anyTrue]
    refine (yields_holds h part).bind ?_
    cases part.truth leaf with
    | true => exact Work.yields_pure true
    | false => exact yields_anyHolds h rest

end

end

end VerdictAux

open VerdictAux

/-- The judge of a filter of criteria gives its verdict on every readable run. -/
theorem yields_judge {P : σ → Prop} {run : Run} (h : run.Readable) (filter : RunFilter Criterion) (context : Context) :
    Work.Yields P (filter.judge Criterion.judge run context) (filter.accepts context.vars run) :=
  yields_holds (fun criterion => yields_criterion h criterion context) filter

end RunPicker

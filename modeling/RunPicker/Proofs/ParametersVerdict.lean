import RunPicker.Proofs.Quoting

/-!
# Verdicts on the parameters of runs

A filter on parameters accepts a run exactly if every wanted pair is what the run defines (`Run.Defines`): a variable has
the value of the last parameter of its name, and that of the snapshot if there is none. Files do not count, and neither
does how the parameters came in contributions. A run that is declined is told in one notice, and one that is accepted in
none (`parameters_verdict`).
-/

namespace RunPicker

/-- The variable has the value: either the last parameter of its name that is not a file is exported as it, or there is no
such parameter, and it has the value in the snapshot. -/
inductive Run.Defines (run : Run) (own : Environment) (name value : String) : Prop where
  | declared (front back : List Parameter) (parameter : Parameter)
      (hparameters : run.parameters = front ++ parameter :: back) (hname : parameter.name = .text name)
      (hvalue : parameter.exported? = some value)
      (hlast : ∀ other ∈ back, other.name = .text name → other.kind = .file)
  | inherited (hnone : ∀ parameter ∈ run.parameters, parameter.name = .text name → parameter.kind = .file)
      (hvalue : own.get? name = some value)

/-- The parameters of some contributions, without the files. -/
def exportable (contributions : List (List Parameter)) : List Parameter :=
  contributions.flatten.filter fun parameter => parameter.kind != .file

/-- The notice that a filter declines a run with. -/
def Run.refusal (run : Run) (filter : String) : Notice :=
  match run.environment with
  | .ok _ => .declined filter run.displayName
  | .error failure => .unreadable filter run.displayName failure

namespace ParametersVerdictAux

open QuotingAux RunVariablesAux

/-! ## Definitions of variables -/

theorem exported?_eq_none_iff (parameter : Parameter) : parameter.exported? = none ↔ parameter.kind = .file := by
  unfold Parameter.exported?
  cases parameter.kind <;> simp

theorem setting?_eq_some_iff {name value : String} {parameter : Parameter} :
    parameter.setting? name = some value ↔ parameter.name = .text name ∧ parameter.exported? = some value := by
  unfold Parameter.setting?
  split
  · rename_i hname
    simp [EntriesAux.equal_text_iff.mp hname]
  · rename_i hname
    simp [mt EntriesAux.equal_text_iff.mpr hname]

theorem setting?_eq_none_iff {name : String} {parameter : Parameter} :
    parameter.setting? name = none ↔ (parameter.name = .text name → parameter.kind = .file) := by
  unfold Parameter.setting?
  split
  · rename_i hname
    simp [EntriesAux.equal_text_iff.mp hname, exported?_eq_none_iff]
  · rename_i hname
    simp [mt EntriesAux.equal_text_iff.mpr hname]

/-- What a run defines is what comes of its parameters and its snapshot. -/
theorem defines_iff {run : Run} {own : Environment} {name value : String} :
    run.Defines own name value ↔ run.valueOf? own name = some value := by
  rw [Run.valueOf?, Option.or_eq_some_iff]
  constructor
  · rintro (⟨front, back, parameter, hparameters, hname, hvalue, hlast⟩ | ⟨hnone, hvalue⟩)
    · refine Or.inl (List.findSome?_eq_some_iff.mpr ⟨back.reverse, parameter, front.reverse, ?_, ?_, ?_⟩)
      · rw [hparameters, List.reverse_append, List.reverse_cons, List.append_assoc, List.singleton_append]
      · exact setting?_eq_some_iff.mpr ⟨hname, hvalue⟩
      · exact fun other hother => setting?_eq_none_iff.mpr (hlast other (List.mem_reverse.mp hother))
    · refine Or.inr ⟨List.findSome?_eq_none_iff.mpr fun parameter hparameter => ?_, hvalue⟩
      exact setting?_eq_none_iff.mpr (hnone parameter (List.mem_reverse.mp hparameter))
  · rintro (hfound | ⟨hnone, hvalue⟩)
    · obtain ⟨back, parameter, front, hreverse, hsetting, hlast⟩ := List.findSome?_eq_some_iff.mp hfound
      obtain ⟨hname, hvalue⟩ := setting?_eq_some_iff.mp hsetting
      refine .declared front.reverse back.reverse parameter ?_ hname hvalue fun other hother => ?_
      · rw [← List.reverse_reverse run.parameters, hreverse, List.reverse_append, List.reverse_cons, List.append_assoc,
          List.singleton_append]
      · exact setting?_eq_none_iff.mp (hlast other (List.mem_reverse.mp hother))
    · refine .inherited (fun parameter hparameter => ?_) hvalue
      exact setting?_eq_none_iff.mp (List.findSome?_eq_none_iff.mp hnone parameter (List.mem_reverse.mpr hparameter))

/-! ## Lookups -/

/-- Files change nothing when parameters are merged. -/
theorem foldlM_override_exportable (parameters : List Parameter) (vars : Environment) :
    (parameters.filter fun parameter => parameter.kind != .file).foldlM Run.override vars =
      parameters.foldlM Run.override vars := by
  induction parameters generalizing vars with
  | nil => rfl
  | cons parameter rest ih =>
    rw [List.foldlM_cons, List.filter_cons]
    split
    · rw [List.foldlM_cons]
      exact congrArg _ (funext ih)
    · rename_i hfile
      have hskipped : Run.override vars parameter = .ok vars := by
        have hnone : parameter.exported? = none := (exported?_eq_none_iff parameter).mpr (by simpa using hfile)
        rw [override_eq, hnone]
      rw [hskipped, ih]
      rfl

/-- Two runs are looked up alike if they have the same snapshot, the same name, and the same parameters without the
files. -/
theorem lookup_with_contributions {run : Run} {contributions : List (List Parameter)}
    (h : exportable contributions = exportable run.contributions) :
    ({ run with contributions } : Run).lookup = run.lookup := by
  have henvironment : ({ run with contributions } : Run).environment = run.environment := rfl
  have hmerged (vars : Environment) :
      ({ run with contributions } : Run).parameters.foldlM Run.override vars =
        run.parameters.foldlM Run.override vars := by
    rw [Run.parameters, Run.parameters, ← foldlM_override_exportable contributions.flatten,
      ← foldlM_override_exportable run.contributions.flatten]
    exact congrArg (fun parameters => List.foldlM Run.override vars parameters) h
  unfold Run.lookup
  rw [henvironment]
  cases run.environment with
  | ok own => exact congrArg (Except.map Lookup.found) (hmerged own)
  | error failure => rfl

/-- That the variables cannot be read is due to the snapshot. -/
theorem environment_of_lookup_failed {run : Run} {failure : Failure} (h : run.lookup = .ok (.failed failure)) :
    run.environment = .error failure := by
  unfold Run.lookup at h
  cases henvironment : run.environment with
  | ok own =>
    rw [henvironment] at h
    cases hmerged : run.parameters.foldlM Run.override own <;> simp [hmerged, Except.map] at h
  | error other =>
    simp only [henvironment] at h
    split at h
    · exact nomatch h
    · rw [Lookup.failed.inj (Except.ok.inj h)]

/-- A lookup fails only if the reading of the snapshot is cancelled. -/
theorem cancelled_of_lookup_error {run : Run} {failure : Failure} (h : run.lookup = .error failure) :
    run.environment = .error failure ∧ failure.isCancellation = true := by
  cases henvironment : run.environment with
  | ok own =>
    obtain ⟨vars, hfound⟩ := run.exists_lookup.mpr ⟨own, henvironment⟩
    rw [h] at hfound
    exact nomatch hfound
  | error other =>
    unfold Run.lookup at h
    simp only [henvironment] at h
    split at h
    · rename_i hcancelled
      obtain rfl := Except.error.inj h
      exact ⟨rfl, hcancelled⟩
    · exact nomatch h

/-! ## Outcomes -/

variable {σ : Type} {wanted : String} {run : Run} {context : Context} {desk : Desk σ}

/-- What a filter on parameters does with a run, by what is looked up. -/
theorem judge_parameters_on (wanted : String) (run : Run) (context : Context) (desk : Desk σ) :
    ((Criterion.parameters wanted).judge run context).on desk = match run.lookup with
      | .ok (.found vars) =>
        if Criterion.satisfies vars (Criterion.wantedIn wanted context) then (.ok true, desk)
        else (.ok false,
          { desk with console := desk.console.note (.declined (Criterion.parameters wanted).title run.displayName) })
      | .ok (.failed failure) => (.ok false,
          { desk with console :=
              desk.console.note (.unreadable (Criterion.parameters wanted).title run.displayName failure) })
      | .error failure => (.error failure, desk) := by
  simp only [Criterion.judge, Work.on_bind, Work.on_ofExcept]
  rcases run.lookup with failure | (vars | failure)
  · rfl
  · simp only
    split <;> rfl
  · rfl

/-- A verdict leaves the desk as it is, but for the notice that a run is declined with. -/
theorem desk_of_verdict {isAccepted : Bool}
    (h : (((Criterion.parameters wanted).judge run context).on desk).1 = .ok isAccepted) :
    (((Criterion.parameters wanted).judge run context).on desk).2 = if isAccepted then desk
      else { desk with console := desk.console.note (run.refusal (Criterion.parameters wanted).title) } := by
  rw [judge_parameters_on] at h ⊢
  cases hlookup : run.lookup with
  | error failure =>
    rw [hlookup] at h
    exact nomatch h
  | ok answer =>
    cases answer with
    | failed failure =>
      rw [hlookup] at h
      obtain rfl := Except.ok.inj h
      rw [if_neg Bool.false_ne_true, Run.refusal, environment_of_lookup_failed hlookup]
    | found vars =>
      obtain ⟨own, hown⟩ := run.exists_lookup.mp ⟨vars, hlookup⟩
      simp only [hlookup] at h ⊢
      split at h
      · obtain rfl := Except.ok.inj h
        rename_i hsatisfied
        rw [if_pos hsatisfied, if_pos rfl]
      · obtain rfl := Except.ok.inj h
        rename_i hsatisfied
        rw [if_neg hsatisfied, if_neg Bool.false_ne_true, Run.refusal, hown]

/-- A filter on parameters fails as the lookup does, and leaves the desk as it is. -/
theorem lookup_of_judge_error {failure : Failure}
    (h : (((Criterion.parameters wanted).judge run context).on desk).1 = .error failure) :
    run.lookup = .error failure ∧ (((Criterion.parameters wanted).judge run context).on desk).2 = desk := by
  rw [judge_parameters_on] at h ⊢
  rcases hlookup : run.lookup with other | (vars | other)
  · rw [hlookup] at h
    exact ⟨congrArg Except.error (Except.error.inj h), rfl⟩
  · simp only [hlookup] at h
    split at h <;> exact nomatch h
  · rw [hlookup] at h
    exact nomatch h

end ParametersVerdictAux

open ParametersVerdictAux QuotingAux

/-- The filter on parameters, about any run and in any context.
(1) It accepts the run exactly if the snapshot can be read and the run defines every pair that is wanted once the text is
expanded.
(2) A run that is declined is told in one notice, and one that is accepted in none.
(3) There is no verdict only if the reading of the snapshot was cancelled.
(4) What becomes of the run depends neither on the files among its parameters nor on how they came in contributions.
(5) Two values of one name are not defined by any run. -/
theorem parameters_verdict {σ : Type} (wanted : String) (run : Run) (context : Context) (desk : Desk σ) :
    let judged (run : Run) := ((Criterion.parameters wanted).judge run context).on desk
    let pairs := wantedPairs (context.expand wanted)
    ((judged run).1 = .ok true ↔
      ∃ own, run.environment = .ok own ∧ ∀ pair ∈ pairs, run.Defines own pair.1 pair.2) ∧
    (∀ isAccepted, (judged run).1 = .ok isAccepted → (judged run).2 = if isAccepted then desk
      else { desk with console := desk.console.note (run.refusal (Criterion.parameters wanted).title) }) ∧
    (∀ failure, (judged run).1 = .error failure →
      (judged run).2 = desk ∧ run.environment = .error failure ∧ failure.isCancellation = true) ∧
    (∀ contributions, exportable contributions = exportable run.contributions →
      judged { run with contributions } = judged run) ∧
    ∀ name value other, (name, value) ∈ pairs → (name, other) ∈ pairs → value ≠ other →
      (judged run).1 ≠ .ok true := by
  intro judged pairs
  have haccepted : (judged run).1 = .ok true ↔
      ∃ own, run.environment = .ok own ∧ ∀ pair ∈ pairs, run.Defines own pair.1 pair.2 := by
    simp only [defines_iff]
    exact (judge_parameters_iff wanted run context desk).trans (accepts_parameters_iff rfl run)
  refine ⟨haccepted, fun isAccepted h => desk_of_verdict h, fun failure h => ?_, fun contributions h => ?_, ?_⟩
  · obtain ⟨hlookup, hdesk⟩ := lookup_of_judge_error h
    exact ⟨hdesk, cancelled_of_lookup_error hlookup⟩
  · simp only [judged, judge_parameters_on, lookup_with_contributions h]
  · intro name value other hvalue hother hne h
    obtain ⟨own, -, hdefines⟩ := haccepted.mp h
    have hsame : some value = some other :=
      (defines_iff.mp (hdefines _ hvalue)).symm.trans (defines_iff.mp (hdefines _ hother))
    exact hne (Option.some.inj hsame)

/-- A run with a flag over a text over a value of the snapshot, and with files of both names behind them. -/
theorem parameters_verdict_of_overridden :
    let text : Parameter := ⟨.text, .text "MODE", .text "a"⟩
    let flag : Parameter := ⟨.flag, .text "MODE", .bool true⟩
    let file (name : String) : Parameter := ⟨.file, .text name, .text "a.txt"⟩
    let run : Run :=
      { (default : Run) with
        snapshot := .available [(.text "MODE", .text "old"), (.text "NOTE", .text "")]
        contributions := [[text, file "NOTE"], [], [flag, file "MODE"]] }
    let judged (wanted : String) (run : Run) :=
      ((Criterion.parameters wanted).judge run (.fresh [])).on (default : Desk Unit)
    judged "MODE=true,NOTE=" run = (.ok true, default) ∧
      judged "MODE=true,NOTE=" { run with contributions := [[text, flag]] } = (.ok true, default) ∧
      (judged "MODE=true,MODE=a" run).1 ≠ .ok true := by
  intro text flag file run judged
  obtain ⟨haccepted, hdesk, -, hregrouped, -⟩ :=
    parameters_verdict "MODE=true,NOTE=" run (.fresh []) (default : Desk Unit)
  obtain ⟨-, -, -, -, hcontrary⟩ := parameters_verdict "MODE=true,MODE=a" run (.fresh []) (default : Desk Unit)
  have hpairs : wantedPairs ((Context.fresh []).expand "MODE=true,NOTE=") = [("MODE", "true"), ("NOTE", "")] := by
    decide +kernel
  have hmode : run.Defines [(.text "MODE", "old"), (.text "NOTE", "")] "MODE" "true" :=
    .declared [text, file "NOTE"] [file "MODE"] flag rfl rfl rfl (by simp [file])
  have hnote : run.Defines [(.text "MODE", "old"), (.text "NOTE", "")] "NOTE" "" :=
    .inherited (by simp [run, Run.parameters, text, flag, file]) (by decide)
  have henvironment : run.environment = .ok [(.text "MODE", "old"), (.text "NOTE", "")] := rfl
  have hverdict : (judged "MODE=true,NOTE=" run).1 = .ok true := by
    refine haccepted.mpr ⟨_, henvironment, ?_⟩
    rw [hpairs]
    simpa using And.intro hmode hnote
  have houtcome : judged "MODE=true,NOTE=" run = (.ok true, default) := Prod.ext hverdict (hdesk true hverdict)
  refine ⟨houtcome, (hregrouped [[text, flag]] rfl).trans houtcome, ?_⟩
  exact hcontrary "MODE" "true" "a" (by decide +kernel) (by decide +kernel) (by decide)

end RunPicker

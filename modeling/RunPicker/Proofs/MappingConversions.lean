import RunPicker.Proofs.Overlay
import RunPicker.Proofs.ParametersVerdict
import RunPicker.Run.Reading

/-!
# Mappings as environments and as parameters

The entry of a run can hold a mapping as its environment or as a contribution of parameters. If the keys of the mapping
are texts, the run has the same variables in either case, and every filter on parameters gives it the same verdict
(`mapping_conversions`). Other keys are converted apart: an environment takes a key by its text, and a parameter keeps it
as it is, so that no name stands for it (`numbered_name_unmatched`).
-/

namespace RunPicker

/-- The entry of a run with an environment and contributions of parameters. -/
def Run.entryWith (entries environment : Entries Value) (contributions : List Value) : Value :=
  .map (Entries.insert (Entries.insert entries (.text "environment") (.map environment)) (.text "parameters")
    (.list contributions))

/-- The text of the last value that stands under a key of a kind. Null is no value. -/
def Entries.lastExported? (isNamed : Value → Bool) (entries : Entries Value) : Option String :=
  (entries.filter fun entry => isSet entry && isNamed entry.1).getLast?.map fun entry => entry.2.exported

namespace MappingConversionsAux

open Entries (isSet underNames)
open EntriesAux OverlayAux RunVariablesAux

/-! ## Entries with an environment and parameters -/

section

variable {entries : Entries Value} {name : String}

/-- The other parts of an entry stay as they are. -/
theorem named?_entryWith (henvironment : "environment" ≠ name) (hparameters : "parameters" ≠ name)
    (environment contributions : Value) :
    Entries.named? (Entries.insert (Entries.insert entries (.text "environment") environment) (.text "parameters")
      contributions) name = Entries.named? entries name := by
  rw [named?_insert_of_ne _ hparameters, named?_insert_of_ne _ henvironment]

theorem readSnapshot_entryWith (number : Int) (environment : Entries Value) (contributions : Value) :
    Run.readSnapshot number (Entries.insert (Entries.insert entries (.text "environment") (.map environment))
      (.text "parameters") contributions) =
      .ok (.available ((Environment.ofEntries environment).map fun entry => (entry.1, .text entry.2))) := by
  rw [Run.readSnapshot, named?_insert_of_ne _ (by decide), named?_insert_self]

theorem readContributions_entryWith (number : Int) (environment : Value) {items : List Value}
    {contributions : List (List Parameter)} (h : items.mapM Run.readContribution = some contributions) :
    Run.readContributions number (Entries.insert (Entries.insert entries (.text "environment") environment)
      (.text "parameters") (.list items)) = .ok contributions := by
  rw [Run.readContributions, Run.part?, named?_insert_self]
  cases items with
  | nil =>
    obtain rfl : [] = contributions := Option.some.inj h
    rfl
  | cons item rest =>
    simp only [Value.isTrue, List.isEmpty_cons, Bool.not_false, if_true, h]

end

theorem named_with (run : Run) (snapshot : Snapshot) (contributions : List (List Parameter)) :
    ({ run with snapshot, contributions } : Run).named = { run.named with snapshot, contributions } := by
  unfold Run.named
  split <;> rfl

/-- What goes on from a value that was read. -/
theorem ok_bind {α β : Type} (value : α) (next : α → Except Failure β) : (Except.ok value >>= next) = next value := rfl

/-- The run of an entry with an environment and parameters is the run of the entry without them, with a snapshot and
contributions of its own. -/
theorem ofValue_entryWith (entries environment : Entries Value) {items : List Value}
    {contributions : List (List Parameter)} (h : items.mapM Run.readContribution = some contributions) :
    (Run.ofValue (Run.entryWith entries environment items)).toOption =
      (Run.ofValue (Run.entryWith entries [] [])).toOption.map fun run =>
        { run with
          snapshot := .available ((Environment.ofEntries environment).map fun entry => (entry.1, .text entry.2))
          contributions } := by
  have hother (name : String) (henvironment : "environment" ≠ name) (hparameters : "parameters" ≠ name) :=
    @named?_entryWith entries name henvironment hparameters
  have hresult (number : Int) (environment contributions : Value) :
      Run.readResult number (Entries.insert (Entries.insert entries (.text "environment") environment)
        (.text "parameters") contributions) = Run.readResult number entries := by
    simp only [Run.readResult, Run.part?, hother "result" (by decide) (by decide)]
  simp only [Run.ofValue, Run.entryWith, hother "number" (by decide) (by decide)]
  cases Entries.named? entries "number" with
  | none => rfl
  | some value =>
    simp only []
    cases Run.readNumber value with
    | error failure => rfl
    | ok number =>
      have hnone : ([] : List Value).mapM Run.readContribution = some [] := rfl
      simp only [hresult, readSnapshot_entryWith, readContributions_entryWith _ _ h,
        readContributions_entryWith _ _ hnone, Run.part?, hother "building" (by decide) (by decide),
        hother "display_name" (by decide) (by decide), ok_bind]
      cases Run.readResult number entries with
      | error failure => rfl
      | ok result => exact congrArg some (named_with ⟨number, result, _, _, [], _⟩ _ _)

/-! ## Variables -/

/-- The variables of a mapping are named by the texts of its keys. -/
theorem ofEntries_eq_ofPairs (vars : Entries Value) : Environment.ofEntries vars =
    Entries.ofPairs ((vars.filter isSet).map fun entry => (.text entry.1.keyDisplay, entry.2.exported)) := by
  have hset : ∀ entry ∈ vars.filter isSet, isSet entry = true := by
    intro entry hentry
    exact (List.mem_filter.mp hentry).2
  rw [← ofEntries_filter_isSet vars, ofEntries_eq hset, underNames, List.map_map]
  rfl

/-- Variables that were stored as texts are read as they were stored. -/
theorem ofMapping_stored (vars : Entries Value) :
    Environment.ofMapping ((Environment.ofEntries vars).map fun entry => (entry.1, .text entry.2)) =
      .ok (Environment.ofEntries vars) := by
  rw [← ofEntries_filter_isSet vars, ofEntries_eq fun entry hentry => (List.mem_filter.mp hentry).2]
  generalize (vars.filter isSet).map (fun entry => (entry.1.keyDisplay, entry.2.exported)) = pairs
  have hnamed := (distinctNames_ofPairs pairs).named
  have htexts : ((Entries.ofPairs (underNames pairs)).map fun entry => (entry.1, Value.text entry.2)).all
      Environment.hasTexts = true := by
    rw [List.all_map]
    refine List.all_eq_true.mpr fun entry hentry => ?_
    obtain ⟨name, hname⟩ := hnamed entry hentry
    rw [Function.comp_apply, hname]
    rfl
  have hsame : (Entries.ofPairs (underNames pairs)).filterMap
      (Environment.variableOf? ∘ fun entry => (entry.1, Value.text entry.2)) = Entries.ofPairs (underNames pairs) := by
    refine (List.filterMap_congr fun entry hentry => ?_).trans List.filterMap_some
    obtain ⟨name, hname⟩ := hnamed entry hentry
    rw [Function.comp_apply, hname, Environment.variableOf?]
    exact congrArg some (Prod.ext hname.symm rfl)
  rw [Environment.ofMapping, if_pos htexts, Environment.ofEntries, List.filterMap_map, hsame]
  exact congrArg Except.ok (insertAll_ofPairs [] pairs)

theorem readContribution_map (vars : Entries Value) : Run.readContribution (.map vars) =
    some ((vars.filter isSet).map fun entry => Parameter.ofEntry entry.1 entry.2) := by
  refine congrArg some ?_
  induction vars with
  | nil => rfl
  | cons entry rest ih =>
    obtain ⟨key, value⟩ := entry
    rw [List.filterMap_cons, ih]
    cases value <;> rfl

/-- A scalar is exported by a parameter as it is in an environment. -/
theorem exported?_ofEntry (name : Value) {value : Value} (h : value.isKey = true) :
    (Parameter.ofEntry name value).name = name ∧ (Parameter.ofEntry name value).exported? = some value.exported := by
  cases value with
  | list items => cases h
  | map entries => cases h
  | _ => exact ⟨rfl, rfl⟩

/-- Parameters with scalars set their values under the keys, one after the other. -/
theorem foldlM_override_ofEntry {entries : Entries Value} (h : ∀ entry ∈ entries, entry.2.isKey = true)
    (vars : Environment) :
    (entries.map fun entry => Parameter.ofEntry entry.1 entry.2).foldlM Run.override vars =
      .ok (Entries.insertAll vars (entries.map fun entry => (entry.1, entry.2.exported))) := by
  induction entries generalizing vars with
  | nil => rfl
  | cons entry rest ih =>
    obtain ⟨hvalue, hrest⟩ := List.forall_mem_cons.mp h
    obtain ⟨hname, hexported⟩ := exported?_ofEntry entry.1 hvalue
    have hmerged : Run.override vars (Parameter.ofEntry entry.1 entry.2) =
        .ok (Entries.insert vars entry.1 entry.2.exported) := by
      simp only [override_eq, hexported, hname]
    rw [List.map_cons, List.foldlM_cons, hmerged, ok_bind, ih hrest]
    rfl

/-- The variables of a run with a mapping as its snapshot. -/
theorem lookup_asEnvironment {run : Run} {vars : Entries Value}
    (hsnapshot : run.snapshot = .available ((Environment.ofEntries vars).map fun entry => (entry.1, .text entry.2)))
    (hcontributions : run.contributions = []) : run.lookup = .ok (.found (Environment.ofEntries vars)) := by
  rw [Run.lookup, Run.environment, hsnapshot, Run.parameters, hcontributions]
  simp only [ofMapping_stored]
  rfl

/-- The variables of a run with a mapping of scalars as its parameters. -/
theorem lookup_asParameters {run : Run} {vars : Entries Value} (h : ∀ entry ∈ vars, entry.2.isKey = true)
    (hsnapshot : run.snapshot = .available [])
    (hcontributions : run.contributions = [(vars.filter isSet).map fun entry => Parameter.ofEntry entry.1 entry.2]) :
    run.lookup =
      .ok (.found (Entries.ofPairs ((vars.filter isSet).map fun entry => (entry.1, entry.2.exported)))) := by
  have hset : ∀ entry ∈ vars.filter isSet, entry.2.isKey = true :=
    fun entry hentry => h entry (List.mem_of_mem_filter hentry)
  rw [Run.lookup, Run.environment, hsnapshot, Run.parameters, hcontributions, List.flatten_singleton]
  simp only [foldlM_override_ofEntry hset]
  rfl

/-- What is found under a name in variables that were set one after the other. -/
theorem get?_ofPairs_exported (key : Value → Value) (vars : Entries Value) (name : String) :
    Environment.get? (Entries.ofPairs ((vars.filter isSet).map fun entry => (key entry.1, entry.2.exported))) name =
      Entries.lastExported? (fun other => Value.equal (.text name) (key other)) vars := by
  have hsame : ((fun pair : Value × String => Value.equal (.text name) pair.1) ∘
      fun entry : Value × Value => (key entry.1, entry.2.exported)) =
      fun entry => Value.equal (.text name) (key entry.1) := rfl
  rw [Environment.get?, named?_ofPairs, List.filter_map, hsame, List.filter_filter, List.getLast?_map, Option.map_map,
    Entries.lastExported?]
  simp only [Bool.and_comm]
  rfl

/-- An entry is read with an environment and parameters exactly if it is read without them. -/
theorem exists_ofValue_iff {entries environment : Entries Value} {items : List Value}
    {contributions : List (List Parameter)} (h : items.mapM Run.readContribution = some contributions) :
    (∃ run, Run.ofValue (Run.entryWith entries environment items) = .ok run) ↔
      ∃ run, Run.ofValue (Run.entryWith entries [] []) = .ok run := by
  have hread := ofValue_entryWith entries environment h
  cases hwith : Run.ofValue (Run.entryWith entries environment items) <;>
    cases hbare : Run.ofValue (Run.entryWith entries [] []) <;> simp_all [Except.toOption]

/-- An entry that is read with an environment and parameters is the run of the bare entry with these. -/
theorem exists_bare {entries environment : Entries Value} {items : List Value} {run : Run}
    {contributions : List (List Parameter)} (h : items.mapM Run.readContribution = some contributions)
    (hrun : Run.ofValue (Run.entryWith entries environment items) = .ok run) :
    ∃ bare, Run.ofValue (Run.entryWith entries [] []) = .ok bare ∧
      run.snapshot = .available ((Environment.ofEntries environment).map fun entry => (entry.1, .text entry.2)) ∧
      run.contributions = contributions ∧ run.displayName = bare.displayName := by
  have hread := ofValue_entryWith entries environment h
  rw [hrun] at hread
  obtain ⟨bare, hbare, rfl⟩ := Option.map_eq_some_iff.mp hread.symm
  cases hvalue : Run.ofValue (Run.entryWith entries [] []) with
  | error failure =>
    rw [hvalue] at hbare
    exact nomatch hbare
  | ok other =>
    rw [hvalue] at hbare
    obtain rfl := Option.some.inj hbare
    exact ⟨other, rfl, rfl, rfl, rfl⟩

end MappingConversionsAux

open Entries (isSet)
open MappingConversionsAux ParametersVerdictAux

/-- A mapping of scalars in the entry of a run, as its environment and as its parameters.
(1) Let the keys have texts, as they have unless an integer has too many digits. Then the entry can be read with either or
with neither. The environment sets a variable by the last key that is written as its name, and the parameters by the last
key that is its name. What is under the key is converted in the same way.
(2) If the keys are texts, the run has the same variables in either case, and every filter on parameters does the same with
it. -/
theorem mapping_conversions {σ : Type} (entries vars : Entries Value)
    (hscalar : ∀ entry ∈ vars, entry.2.isKey = true) :
    let own := Run.ofValue (Run.entryWith entries vars [])
    let declared := Run.ofValue (Run.entryWith entries [] [.map vars])
    ((∀ entry ∈ vars, isSet entry = true → entry.1.hasText = true) →
      ((∃ run, own = .ok run) ↔ ∃ run, declared = .ok run) ∧
      ∀ run run', own = .ok run → declared = .ok run' →
        ∃ found found', run.lookup = .ok (.found found) ∧ run'.lookup = .ok (.found found') ∧
          ∀ name, found.get? name = Entries.lastExported? (fun key => name == key.keyDisplay) vars ∧
            found'.get? name = Entries.lastExported? (fun key => Value.equal (.text name) key) vars) ∧
    ((∀ entry ∈ vars, isSet entry = true → ∃ name, entry.1 = .text name) →
      ∀ run run', own = .ok run → declared = .ok run' → run.lookup = run'.lookup ∧
        ∀ wanted context, (Criterion.parameters wanted).judge run context =
          ((Criterion.parameters wanted).judge run' context : Work σ Bool)) := by
  intro own declared
  have hnone : ([] : List Value).mapM Run.readContribution = some [] := rfl
  have hone : [Value.map vars].mapM Run.readContribution =
      some [(vars.filter isSet).map fun entry => Parameter.ofEntry entry.1 entry.2] := by
    rw [List.mapM_cons, readContribution_map]
    rfl
  have hread (run run' : Run) (hrun : own = .ok run) (hrun' : declared = .ok run') :
      run.lookup = .ok (.found (Environment.ofEntries vars)) ∧
        run'.lookup =
          .ok (.found (Entries.ofPairs ((vars.filter isSet).map fun entry => (entry.1, entry.2.exported)))) ∧
        run.displayName = run'.displayName := by
    obtain ⟨bare, hbare, hsnapshot, hcontributions, hname⟩ := exists_bare hnone hrun
    obtain ⟨bare', hbare', hsnapshot', hcontributions', hname'⟩ := exists_bare hone hrun'
    obtain rfl : bare = bare' := Except.ok.inj (hbare.symm.trans hbare')
    exact ⟨lookup_asEnvironment hsnapshot hcontributions, lookup_asParameters hscalar hsnapshot' hcontributions',
      hname.trans hname'.symm⟩
  constructor
  · intro _
    refine ⟨(exists_ofValue_iff hnone).trans (exists_ofValue_iff hone).symm, fun run run' hrun hrun' => ?_⟩
    obtain ⟨hlookup, hlookup', -⟩ := hread run run' hrun hrun'
    refine ⟨_, _, hlookup, hlookup', fun name => ?_⟩
    rw [ofEntries_eq_ofPairs]
    exact ⟨get?_ofPairs_exported (fun key => .text key.keyDisplay) vars name, get?_ofPairs_exported id vars name⟩
  · intro htexts run run' hrun hrun'
    obtain ⟨hlookup, hlookup', hname⟩ := hread run run' hrun hrun'
    have hsame : run.lookup = run'.lookup := by
      have hpairs : (vars.filter isSet).map (fun entry => (Value.text entry.1.keyDisplay, entry.2.exported)) =
          (vars.filter isSet).map fun entry => (entry.1, entry.2.exported) := by
        refine List.map_congr_left ?_
        intro entry hentry
        obtain ⟨hmem, hset⟩ := List.mem_filter.mp hentry
        obtain ⟨name, hkey⟩ := htexts entry hmem hset
        rw [hkey]
        rfl
      rw [hlookup, hlookup', ofEntries_eq_ofPairs, hpairs]
    refine ⟨hsame, ?_⟩
    intro wanted context
    simp only [Criterion.judge, hsame, hname]

/-- Scalars of several kinds under texts, and a number as a key that has no value. -/
theorem mapping_conversions_of_scalars :
    let vars : Entries Value := [(.text "FLAG", .bool true), (.text "COUNT", .integer 3), (.integer 5, .null),
      (.text "DAY", .moment (.day ⟨2024, 1, 31⟩)), (.text "FLAG", .bool false)]
    let entries : Entries Value := [(.text "number", .integer 7)]
    (∀ entry ∈ vars, entry.2.isKey = true) ∧
      ∃ run run' found, Run.ofValue (Run.entryWith entries vars []) = .ok run ∧
        Run.ofValue (Run.entryWith entries [] [.map vars]) = .ok run' ∧ run.lookup = .ok (.found found) ∧
        run'.lookup = .ok (.found found) ∧ found.get? "FLAG" = some "false" ∧ found.get? "DAY" = some "2024-01-31" ∧
        found.get? "5" = none := by
  intro vars entries
  have hscalar : ∀ entry ∈ vars, entry.2.isKey = true := by decide
  have htexts : ∀ entry ∈ vars, isSet entry = true → ∃ name, entry.1 = .text name := by simp [vars, isSet]
  have hkeys : ∀ entry ∈ vars, isSet entry = true → entry.1.hasText = true := by decide +kernel
  obtain ⟨hboth, hsame⟩ := @mapping_conversions Unit entries vars hscalar
  obtain ⟨hiff, hfound⟩ := hboth hkeys
  have hread : (Run.ofValue (Run.entryWith entries vars [])).toOption.any (fun _ => true) = true := by decide +kernel
  obtain ⟨run, hrun, -⟩ := exists_of_any_toOption hread
  obtain ⟨run', hrun'⟩ := hiff.mp ⟨run, hrun⟩
  obtain ⟨found, found', hlookup, -, hfound⟩ := hfound run run' hrun hrun'
  obtain ⟨hlookups, -⟩ := hsame htexts run run' hrun hrun'
  refine ⟨hscalar, run, run', found, hrun, hrun', hlookup, hlookups ▸ hlookup, ?_, ?_, ?_⟩
  · rw [(hfound "FLAG").1]
    decide +kernel
  · rw [(hfound "DAY").1]
    decide +kernel
  · rw [(hfound "5").1]
    decide +kernel

/-- The number of a mapping is a name in an environment, and none among parameters. -/
theorem numbered_name_unmatched :
    let vars : Entries Value := [(.integer 1, .text "x")]
    let entries : Entries Value := [(.text "number", .integer 7)]
    ∃ run run', Run.ofValue (Run.entryWith entries vars []) = .ok run ∧
      Run.ofValue (Run.entryWith entries [] [.map vars]) = .ok run' ∧
      (((Criterion.parameters "1=x").judge run (.fresh [])).on (default : Desk Unit)).1 = .ok true ∧
      (((Criterion.parameters "1=x").judge run' (.fresh [])).on (default : Desk Unit)).1 = .ok false := by
  intro vars entries
  have hnone : ([] : List Value).mapM Run.readContribution = some [] := rfl
  have hone : [Value.map vars].mapM Run.readContribution = some [[Parameter.ofEntry (.integer 1) (.text "x")]] := rfl
  have hown : (Run.ofValue (Run.entryWith entries vars [])).toOption.any (fun _ => true) = true := by decide +kernel
  have hdeclared : (Run.ofValue (Run.entryWith entries [] [.map vars])).toOption.any (fun _ => true) = true := by
    decide +kernel
  obtain ⟨run, hrun, -⟩ := exists_of_any_toOption hown
  obtain ⟨run', hrun', -⟩ := exists_of_any_toOption hdeclared
  obtain ⟨-, -, hsnapshot, hcontributions, -⟩ := exists_bare hnone hrun
  obtain ⟨-, -, hsnapshot', hcontributions', -⟩ := exists_bare hone hrun'
  have hvars : Environment.ofEntries vars = [(.text "1", "x")] := by
    simp only [vars, Environment.ofEntries, Environment.variableOf?, Value.keyDisplay, Value.display, Value.literal,
      List.filterMap_cons, List.filterMap_nil]
    rfl
  have hlookup := lookup_asEnvironment hsnapshot hcontributions
  have hlookup' := @lookup_asParameters run' vars (by decide) hsnapshot' hcontributions'
  have hsatisfied : Criterion.satisfies (Environment.ofEntries vars) (Criterion.wantedIn "1=x" (.fresh [])) = true := by
    rw [hvars]
    decide +kernel
  have hunsatisfied : Criterion.satisfies
      (Entries.ofPairs ((vars.filter isSet).map fun entry => (entry.1, entry.2.exported)))
      (Criterion.wantedIn "1=x" (.fresh [])) = false := by
    decide +kernel
  refine ⟨run, run', hrun, hrun', ?_, ?_⟩
  · simp only [judge_parameters_on, hlookup, hsatisfied, if_true]
  · simp only [judge_parameters_on, hlookup', hunsatisfied, Bool.false_eq_true, if_false]

end RunPicker

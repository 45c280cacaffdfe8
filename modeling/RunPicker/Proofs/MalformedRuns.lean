import RunPicker.Proofs.Results
import RunPicker.Proofs.StoredHistory

/-!
# Malformed runs

Whatever stands as an entry of a history, it is read as a run or it is reported as malformed, with one exception: a number
that is an infinity overflows (`malformed_or_infinite`). The parts of an entry are read one after the other, and each has
a lemma that says when it is read and one that says how it fails: only the number can fail in any other way than as
malformed. A history fails as the first of its entries that is no run.
-/

namespace RunPicker

/-- What the entry of a run is to hold. -/
structure IsRunEntry (entries : Entries Value) : Prop where
  number : ∃ value number, Entries.named? entries "number" = some value ∧ value.toCount = .ok number
  result : ∃ result,
    Result.ofName? (Text.upper (((Run.part? entries "result").map Value.display).getD "SUCCESS")) = some result
  environment : ∀ value, Entries.named? entries "environment" = some value → value = .null ∨ ∃ vars, value = .map vars
  parameters : ∀ value, Run.part? entries "parameters" = some value →
    ∃ items, value = .list items ∧ ∀ item ∈ items, ∃ vars, item = .map vars

/-- The value is the entry of a run whose number is an infinity. -/
def HasInfiniteNumber (value : Value) : Prop :=
  ∃ entries negative, value = .map entries ∧ Entries.named? entries "number" = some (.number (.infinite negative))

/-- The entries of the runs in the document of a history. -/
def runEntries : Value → List Value
  | .map entries => match Run.part? entries "runs" with
    | some (.list items) => items
    | _ => []
  | _ => []

/-- The first entry that is no run has an infinite number. -/
def FailsAtInfinity (items : List Value) : Prop :=
  ∃ front item back, items = front ++ item :: back ∧ (∀ other ∈ front, ∃ run, Run.ofValue other = .ok run) ∧
    HasInfiniteNumber item

/-- The failure is that a history is malformed. -/
def Failure.IsMalformed (failure : Failure) : Prop :=
  ∃ reason, failure = .malformedHistory reason

namespace MalformedRunsAux

open ResultsAux StoredHistoryAux

/-- A malformed history is not an overflow. -/
theorem malformed_ne_overflow {failure : Failure} (h : failure.IsMalformed) : failure ≠ .overflow := by
  obtain ⟨reason, rfl⟩ := h
  exact nofun

/-! ## Parts that fail -/

/-- A value that is cut to no integer is of the wrong type or no number, or it is an infinity. -/
theorem toCount_error {value : Value} {failure : Failure} (h : value.toCount = .error failure) :
    failure = .wrongType ∨ failure = .wrongValue ∨
      (failure = .overflow ∧ ∃ negative, value = .number (.infinite negative)) := by
  cases value with
  | integer n => cases h
  | bool b => exact .inr (.inl (Except.error.inj h).symm)
  | number x =>
    cases x with
    | nan => exact .inr (.inl (Except.error.inj h).symm)
    | infinite negative => exact .inr (.inr ⟨(Except.error.inj h).symm, negative, rfl⟩)
    | finite negative significand exponent => cases h
  | text s =>
    rw [Value.toCount, Value.toInteger] at h
    · split at h
      · cases h
      · exact .inr (.inl (Except.error.inj h).symm)
    · exact nofun
  | null => exact .inl (Except.error.inj h).symm
  | moment m => exact .inl (Except.error.inj h).symm
  | list items => exact .inl (Except.error.inj h).symm
  | map entries => exact .inl (Except.error.inj h).symm

/-- A number that is not read is malformed or infinite. -/
theorem readNumber_error {value : Value} {failure : Failure} (h : Run.readNumber value = .error failure) :
    failure.IsMalformed ∨ (failure = .overflow ∧ ∃ negative, value = .number (.infinite negative)) := by
  unfold Run.readNumber at h
  split at h
  · cases h
  · rename_i cause hcause
    rcases toCount_error hcause with rfl | rfl | ⟨rfl, hinfinite⟩
    · exact .inl ⟨_, (Except.error.inj h).symm⟩
    · exact .inl ⟨_, (Except.error.inj h).symm⟩
    · exact .inr ⟨(Except.error.inj h).symm, hinfinite⟩

/-- A result that is not read is malformed. -/
theorem readResult_error {number : Int} {entries : Entries Value} {failure : Failure}
    (h : Run.readResult number entries = .error failure) : failure.IsMalformed := by
  unfold Run.readResult at h
  dsimp only at h
  split at h
  · cases h
  · exact ⟨_, (Except.error.inj h).symm⟩

/-- An environment that is not read is malformed. -/
theorem readSnapshot_error {number : Int} {entries : Entries Value} {failure : Failure}
    (h : Run.readSnapshot number entries = .error failure) : failure.IsMalformed := by
  unfold Run.readSnapshot at h
  split at h
  · cases h
  · cases h
  · cases h
  · exact ⟨_, (Except.error.inj h).symm⟩

/-- Parameters that are not read are malformed. -/
theorem readContributions_error {number : Int} {entries : Entries Value} {failure : Failure}
    (h : Run.readContributions number entries = .error failure) : failure.IsMalformed := by
  unfold Run.readContributions at h
  dsimp only at h
  split at h
  · cases h
  · exact ⟨_, (Except.error.inj h).symm⟩

/-! ## Parts that are read -/

/-- The number of a run is read as a count is. -/
theorem readNumber_eq_ok_iff {value : Value} {number : Int} :
    Run.readNumber value = .ok number ↔ value.toCount = .ok number := by
  unfold Run.readNumber
  cases value.toCount with
  | ok other => exact Iff.rfl
  | error failure =>
    constructor
    · intro h
      dsimp only at h
      split at h <;> cases h
    · exact nofun

/-- A result is read if it names one in some case of letters. -/
theorem exists_readResult_iff {number : Int} {entries : Entries Value} :
    (∃ result, Run.readResult number entries = .ok result) ↔
      ∃ result,
        Result.ofName? (Text.upper (((Run.part? entries "result").map Value.display).getD "SUCCESS")) = some result := by
  dsimp only [Run.readResult]
  cases Run.part? entries "result" <;> dsimp only [Option.map, Option.getD] <;> split <;> simp_all

/-- An environment is read if it is missing, null or a mapping. -/
theorem exists_readSnapshot_iff {number : Int} {entries : Entries Value} :
    (∃ snapshot, Run.readSnapshot number entries = .ok snapshot) ↔
      ∀ value, Entries.named? entries "environment" = some value → value = .null ∨ ∃ vars, value = .map vars := by
  unfold Run.readSnapshot
  cases Entries.named? entries "environment" with
  | none => simp
  | some value => cases value <;> simp

/-- Contributions of parameters are read if all of them are mappings. -/
theorem exists_mapM_readContribution_iff {items : List Value} :
    (∃ contributions, items.mapM Run.readContribution = some contributions) ↔
      ∀ item ∈ items, ∃ vars, item = .map vars := by
  induction items with
  | nil => simp
  | cons item rest ih =>
    rw [List.forall_mem_cons, ← ih, List.mapM_cons]
    cases item with
    | map vars => cases rest.mapM Run.readContribution <;> simp [Run.readContribution]
    | _ => simp [Run.readContribution]

/-- Parameters are read if they count as false or are a list of mappings. -/
theorem exists_readContributions_iff {number : Int} {entries : Entries Value} :
    (∃ contributions, Run.readContributions number entries = .ok contributions) ↔
      ∀ value, Run.part? entries "parameters" = some value →
        ∃ items, value = .list items ∧ ∀ item ∈ items, ∃ vars, item = .map vars := by
  unfold Run.readContributions
  cases Run.part? entries "parameters" with
  | none => simp
  | some value =>
    cases value with
    | list items =>
      have hitems := @exists_mapM_readContribution_iff items
      dsimp only
      cases hread : items.mapM Run.readContribution <;> simp_all
    | _ => simp

/-! ## Runs -/

/-- An entry that is no run is malformed, or its number is an infinity. -/
theorem ofValue_error {value : Value} {failure : Failure} (h : Run.ofValue value = .error failure) :
    failure.IsMalformed ∨ (failure = .overflow ∧ HasInfiniteNumber value) := by
  unfold Run.ofValue at h
  dsimp only at h
  split at h
  · rename_i entries
    split at h
    · rename_i numberValue hnumber
      rcases bind_error h with h | ⟨number, h⟩
      · refine (readNumber_error h).imp_right ?_
        rintro ⟨hfailure, negative, rfl⟩
        exact ⟨hfailure, entries, negative, rfl, hnumber⟩
      rcases bind_error h with h | ⟨result, h⟩
      · exact .inl (readResult_error h)
      rcases bind_error h with h | ⟨snapshot, h⟩
      · exact .inl (readSnapshot_error h)
      rcases bind_error h with h | ⟨contributions, h⟩
      · exact .inl (readContributions_error h)
      cases h
    · exact .inl ⟨_, (Except.error.inj h).symm⟩
  · exact .inl ⟨_, (Except.error.inj h).symm⟩

/-- An entry is read as a run exactly if it holds what it is to hold. -/
theorem exists_ofValue_iff {value : Value} :
    (∃ run, Run.ofValue value = .ok run) ↔ ∃ entries, value = .map entries ∧ IsRunEntry entries := by
  constructor
  · rintro ⟨run, hrun⟩
    unfold Run.ofValue at hrun
    dsimp only at hrun
    split at hrun
    · rename_i entries
      split at hrun
      · rename_i numberValue hnumber
        obtain ⟨number, hread, hrun⟩ := exists_bind_iff.mp ⟨run, hrun⟩
        obtain ⟨result, hresult, hrun⟩ := exists_bind_iff.mp hrun
        obtain ⟨snapshot, hsnapshot, hrun⟩ := exists_bind_iff.mp hrun
        obtain ⟨contributions, hcontributions, -⟩ := exists_bind_iff.mp hrun
        exact ⟨entries, rfl, ⟨numberValue, number, hnumber, readNumber_eq_ok_iff.mp hread⟩,
          exists_readResult_iff.mp ⟨result, hresult⟩, exists_readSnapshot_iff.mp ⟨snapshot, hsnapshot⟩,
          exists_readContributions_iff.mp ⟨contributions, hcontributions⟩⟩
      · cases hrun
    · cases hrun
  · rintro ⟨entries, rfl, hentry⟩
    obtain ⟨numberValue, number, hnumber, hcount⟩ := hentry.number
    obtain ⟨result, hresult⟩ := exists_readResult_iff.mpr hentry.result
    obtain ⟨snapshot, hsnapshot⟩ := exists_readSnapshot_iff.mpr hentry.environment
    obtain ⟨contributions, hcontributions⟩ := exists_readContributions_iff.mpr hentry.parameters
    simp only [Run.ofValue, hnumber, readNumber_eq_ok_iff.mpr hcount]
    refine exists_bind_iff.mpr ⟨number, rfl, exists_bind_iff.mpr ⟨result, hresult, ?_⟩⟩
    exact exists_bind_iff.mpr ⟨snapshot, hsnapshot, exists_bind_iff.mpr ⟨contributions, hcontributions, _, rfl⟩⟩

/-- Reading a run overflows exactly at an infinite number. -/
theorem ofValue_eq_overflow_iff (value : Value) : Run.ofValue value = .error .overflow ↔ HasInfiniteNumber value := by
  constructor
  · intro h
    rcases ofValue_error h with hmalformed | ⟨-, hinfinite⟩
    · exact absurd rfl (malformed_ne_overflow hmalformed)
    · exact hinfinite
  · rintro ⟨entries, negative, rfl, hnumber⟩
    simp only [Run.ofValue, hnumber]
    rfl

/-! ## Histories -/

/-- A history is malformed as a whole, or it is read entry by entry. -/
theorem readHistory_cases (content : Value) :
    (runEntries content = [] ∧ ∃ reason, readHistory content = .error (.malformedHistory reason)) ∨
      ∃ entries, readHistory content =
        ((runEntries content).mapM Run.ofValue).map fun runs => (entries, sortedRuns runs) := by
  cases content with
  | map entries =>
    dsimp only [readHistory, runEntries]
    cases Run.part? entries "runs" with
    | none => exact .inr ⟨entries, rfl⟩
    | some runs =>
      cases runs with
      | list items =>
        refine .inr ⟨entries, ?_⟩
        exact bind_pure_comp (fun runs => (entries, sortedRuns runs)) (items.mapM Run.ofValue)
      | _ => exact .inl ⟨rfl, "'runs' is not a list", rfl⟩
  | _ => exact .inl ⟨rfl, "the history is not a mapping", rfl⟩

/-- Without runs there is no infinite number. -/
theorem not_failsAtInfinity_nil : ¬FailsAtInfinity [] := by
  rintro ⟨front, item, back, hnil, -⟩
  exact List.append_ne_nil_of_right_ne_nil front (List.cons_ne_nil item back) hnil.symm

/-- Reading runs overflows where an infinite number comes before everything malformed. -/
theorem mapM_eq_overflow_iff {items : List Value} :
    items.mapM Run.ofValue = .error .overflow ↔ FailsAtInfinity items := by
  simp only [mapM_eq_error_iff, ofValue_eq_overflow_iff, FailsAtInfinity]

/-- Reading the entries decides it. -/
instance : DecidablePred FailsAtInfinity := fun items =>
  match hread : items.mapM Run.ofValue with
  | .ok runs => .isFalse fun h => nomatch hread.symm.trans (mapM_eq_overflow_iff.mpr h)
  | .error failure => decidable_of_iff (failure = .overflow) (by rw [← mapM_eq_overflow_iff, hread, Except.error.injEq])

/-- A history that is not read is malformed, or it fails at a number that is an infinity. -/
theorem readHistory_error {content : Value} {failure : Failure} (h : readHistory content = .error failure) :
    failure.IsMalformed ∨ (failure = .overflow ∧ FailsAtInfinity (runEntries content)) := by
  rcases readHistory_cases content with ⟨-, reason, hmalformed⟩ | ⟨entries, hread⟩
  · exact .inl ⟨reason, Except.error.inj (h.symm.trans hmalformed)⟩
  · rw [hread, map_eq_error_iff, mapM_eq_error_iff] at h
    obtain ⟨front, item, back, hitems, hfront, hfailing⟩ := h
    refine (ofValue_error hfailing).imp_right ?_
    rintro ⟨hfailure, hinfinite⟩
    exact ⟨hfailure, front, item, back, hitems, hfront, hinfinite⟩

/-- Reading a history overflows where reading its runs does. -/
theorem readHistory_eq_overflow_iff (content : Value) :
    readHistory content = .error .overflow ↔ FailsAtInfinity (runEntries content) := by
  constructor
  · intro h
    rcases readHistory_error h with hmalformed | ⟨-, hinfinite⟩
    · exact absurd rfl (malformed_ne_overflow hmalformed)
    · exact hinfinite
  · rintro ⟨front, item, back, hitems, hfront, hinfinite⟩
    rcases readHistory_cases content with ⟨hnone, -⟩ | ⟨entries, hread⟩
    · exact absurd ⟨front, item, back, hnone ▸ hitems, hfront, hinfinite⟩ not_failsAtInfinity_nil
    · rw [hread, map_eq_error_iff, mapM_eq_error_iff]
      exact ⟨front, item, back, hitems, hfront, (ofValue_eq_overflow_iff item).mpr hinfinite⟩

/-- The history of a job is the runs that are loaded. -/
theorem history_on (path : String) (desk : Desk Shelf) :
    ((Shelf.job path).history.on desk).1 = ((Shelf.load path).on desk).1.map HistoryCache.runs := by
  simp only [Shelf.job, Shelf.jobOf, Work.on_bind]
  rcases (Shelf.load path).on desk with ⟨failure | cache, after⟩ <;> rfl

/-- The runs of a job whose file has changed are those in the document of the file. -/
theorem history_of_changed {path : String} {desk : Desk Shelf} {file : StoredFile} {document : Yaml.Document}
    (hfile : desk.host.files.get? path = some file) (hdocument : Yaml.documentIn file.text = .ok document)
    (hstamp : desk.host.cache.stamp? ≠ some file.stamp) :
    ((Shelf.job path).history.on desk).1 = (readHistory document.value).map Prod.snd := by
  have hread : file.history = readHistory document.value := by
    rw [StoredFile.history, hdocument]
    rfl
  have hload : ((Shelf.load path).on desk).1 =
      (readHistory document.value).map fun read => ⟨some file.stamp, read.1, read.2⟩ := by
    rw [loadedFresh_of_changed hfile hstamp, loadedFresh_of_file hfile, hread]
  rw [history_on, hload]
  cases readHistory document.value <;> rfl

end MalformedRunsAux

open MalformedRunsAux ResultsAux StoredHistoryAux

/-- A value is read or malformed, or it has an infinity for a number.
(1) As an entry of a history it is read as a run exactly if it holds what it is to hold, it overflows exactly if its number
is an infinity, and else it is reported as malformed.
(2) As the document in the file of a job it gives a history, unless one is kept for the stamp of the file. It overflows
exactly if the first of its entries that is no run has an infinity for its number, and it fails in no other way than as
malformed. -/
theorem malformed_or_infinite (value : Value) :
    (((∃ run, Run.ofValue value = .ok run) ↔ ∃ entries, value = .map entries ∧ IsRunEntry entries) ∧
      (Run.ofValue value = .error .overflow ↔ HasInfiniteNumber value) ∧
      ∀ failure, Run.ofValue value = .error failure → failure.IsMalformed ∨ failure = .overflow) ∧
    ∀ (path : String) (desk : Desk Shelf) (file : StoredFile) (document : Yaml.Document),
      desk.host.files.get? path = some file → Yaml.documentIn file.text = .ok document → document.value = value →
        let history := ((Shelf.job path).history.on desk).1
        (history = .error .overflow ↔ desk.host.cache.stamp? ≠ some file.stamp ∧ FailsAtInfinity (runEntries value)) ∧
        ∀ failure, history = .error failure → failure.IsMalformed ∨ failure = .overflow := by
  constructor
  · refine ⟨exists_ofValue_iff, ofValue_eq_overflow_iff value, ?_⟩
    intro failure h
    exact (ofValue_error h).imp_right And.left
  · rintro path desk file document hfile hdocument rfl history
    by_cases hstamp : desk.host.cache.stamp? = some file.stamp
    · have hkept : history = .ok desk.host.cache.runs := by
        dsimp only [history]
        rw [history_on, load_of_kept hfile hstamp]
        rfl
      simp [hkept, hstamp]
    · have hread : history = (readHistory document.value).map Prod.snd := history_of_changed hfile hdocument hstamp
      constructor
      · rw [hread, map_eq_error_iff, readHistory_eq_overflow_iff]
        exact ⟨fun h => ⟨hstamp, h⟩, And.right⟩
      · intro failure h
        rw [hread, map_eq_error_iff] at h
        exact (readHistory_error h).imp_right And.left

/-- A history overflows at its second run, whose number is an infinity, before the third is looked at. -/
theorem malformed_or_infinite_of_second :
    let file : StoredFile := ⟨"runs: [{number: 1}, {number: .inf}, 5]", 1⟩
    let desk : Desk Shelf := ⟨default, ⟨[("history.yml", file)], .empty⟩⟩
    ∃ document, Yaml.documentIn file.text = .ok document ∧ desk.host.files.get? "history.yml" = some file ∧
      FailsAtInfinity (runEntries document.value) ∧
      ((Shelf.job "history.yml").history.on desk).1 = .error .overflow := by
  intro file desk
  have hread : (Yaml.documentIn file.text).toOption.any
      (fun document => FailsAtInfinity (runEntries document.value)) = true := by
    decide +kernel
  obtain ⟨document, hdocument, hdecided⟩ := exists_of_any_toOption hread
  have hinfinite : FailsAtInfinity (runEntries document.value) := of_decide_eq_true hdecided
  have hfile : desk.host.files.get? "history.yml" = some file := rfl
  have hhistory := (malformed_or_infinite document.value).2 "history.yml" desk file document hfile hdocument rfl
  exact ⟨document, hdocument, hfile, hinfinite, hhistory.1.mpr ⟨nofun, hinfinite⟩⟩

/-- A number that is an infinity is neither read nor reported as malformed. -/
theorem infinite_number_unreported :
    let value : Value := .map [(.text "number", .number (.infinite false))]
    (¬∃ run, Run.ofValue value = .ok run) ∧ (¬∃ reason, Run.ofValue value = .error (.malformedHistory reason)) ∧
      Run.ofValue value = .error .overflow := by
  intro value
  have hoverflow : Run.ofValue value = .error .overflow := (ofValue_eq_overflow_iff value).mpr ⟨_, false, rfl, rfl⟩
  refine ⟨?_, ?_, hoverflow⟩
  · rintro ⟨run, hrun⟩
    exact nomatch hoverflow.symm.trans hrun
  · rintro ⟨reason, hreason⟩
    exact nomatch hoverflow.symm.trans hreason

end RunPicker

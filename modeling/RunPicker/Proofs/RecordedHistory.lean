import Mathlib.Data.List.Nodup
import RunPicker.Job.InMemory
import RunPicker.Proofs.HistoryOrder
import RunPicker.Proofs.Likeness
import RunPicker.Proofs.Results
import RunPicker.Proofs.StoredHistory

/-!
# Histories of recorded runs

What a record holds is the history of all runs that it was given (`IsHistoryOf`), whatever was given first and whatever
was added later. A file that lists the same runs holds the same history (`Shelf.Lists`). Runs of distinct numbers have
one history in whatever order they are given, so a record and a file of them are the same to every selection
(`recorded_history`).
-/

namespace RunPicker

/-- The record with runs added to it, one after the other. -/
def Recorded.addAll (recorded : Recorded) (runs : List Run) : Recorded :=
  runs.foldl (fun recorded run => recorded.add run) recorded

/-- The history of some runs: all of them and no others, in the order of their numbers, and those of one number in the
order in which they were given. -/
structure IsHistoryOf (given history : List Run) : Prop where
  complete : history.Perm given
  ordered : Ordered history
  stable : ∀ number, withNumber number history = withNumber number given

/-- What a document lists as its runs: a list, or nothing if it has nothing there that counts. -/
def listedRuns? : Value → Option (List Value)
  | .map entries => match Run.part? entries "runs" with
    | none => some []
    | some (.list items) => some items
    | some _ => none
  | _ => none

/-- The document lists the runs, in this order. -/
def ListsRuns (content : Value) (runs : List Run) : Prop :=
  ∃ items, listedRuns? content = some items ∧ List.Forall₂ (fun item run => Run.ofValue item = .ok run) items runs

namespace Shelf

/-- The file lists the runs, and what is kept under its stamp, if anything, was read of it. -/
def Lists (path : String) (runs : List Run) (shelf : Shelf) : Prop :=
  ∃ file document, shelf.files.get? path = some file ∧ Yaml.documentIn file.text = .ok document ∧
    ListsRuns document.value runs ∧
    (shelf.cache.stamp? = some file.stamp → file.history = .ok (shelf.cache.content, shelf.cache.runs))

end Shelf

namespace RecordedHistoryAux

open HistoryOrderAux LikenessAux ResultsAux StoredHistoryAux

variable {given other : List Run}

/-! ## Sorted runs -/

/-- There is one history of some runs. -/
theorem isHistoryOf_iff {history : List Run} : IsHistoryOf given history ↔ history = sortedRuns given := by
  constructor
  · intro h
    exact eq_of_ordered h.ordered (ordered_sortedRuns given) fun number =>
      (h.stable number).trans (withNumber_sortedRuns number given).symm
  · rintro rfl
    exact ⟨List.mergeSort_perm given _, ordered_sortedRuns given, fun number => withNumber_sortedRuns number given⟩

/-- Runs of distinct numbers have the same history in whatever order they are given. -/
theorem sortedRuns_of_perm (hdistinct : (given.map Run.number).Nodup) (hperm : other.Perm given) :
    sortedRuns other = sortedRuns given := by
  have hsorted : (sortedRuns other).Perm (sortedRuns given) :=
    (List.mergeSort_perm other _).trans (hperm.trans (List.mergeSort_perm given _).symm)
  refine hsorted.eq_of_pairwise (fun run next hrun hnext hle hge => ?_) (ordered_sortedRuns other)
    (ordered_sortedRuns given)
  have hrun' : run ∈ given := hperm.mem_iff.mp (mem_sortedRuns.mp hrun)
  exact List.inj_on_of_nodup_map hdistinct hrun' (mem_sortedRuns.mp hnext) (Int.le_antisymm hle hge)

/-! ## Records -/

/-- A run that is added to the record of some runs makes the record of all of them. -/
theorem add_ofRuns (name : String) (given : List Run) (run : Run) :
    (Recorded.ofRuns name given).add run = Recorded.ofRuns name (given ++ [run]) := by
  rw [Recorded.add, Recorded.ofRuns, sortedRuns_append]
  rfl

/-- Runs that are added one by one make the record of all of them. -/
theorem addAll_ofRuns (name : String) (given added : List Run) :
    (Recorded.ofRuns name given).addAll added = Recorded.ofRuns name (given ++ added) := by
  induction added generalizing given with
  | nil =>
    rw [List.append_nil]
    rfl
  | cons run added ih =>
    have hadded : (Recorded.ofRuns name given).addAll (run :: added) =
        ((Recorded.ofRuns name given).add run).addAll added := rfl
    rw [hadded, add_ofRuns, ih, List.append_assoc, List.singleton_append]

/-- Batches that are added one after the other make the record of all their runs. -/
theorem foldl_addAll_ofRuns (name : String) (given : List Run) (batches : List (List Run)) :
    batches.foldl Recorded.addAll (Recorded.ofRuns name given) = Recorded.ofRuns name (given ++ batches.flatten) := by
  induction batches generalizing given with
  | nil =>
    rw [List.flatten_nil, List.append_nil]
    rfl
  | cons batch batches ih => rw [List.foldl_cons, addAll_ofRuns, ih, List.append_assoc, List.flatten_cons]

/-- A record keeps its history when the history is asked for. -/
theorem history_recorded (console : Console) (recorded : Recorded) :
    Recorded.job.history.on ⟨console, recorded⟩ = (.ok recorded.runs, ⟨console, recorded⟩) :=
  rfl

/-! ## Files -/

theorem readHistory_of_listsRuns {content : Value} (h : ListsRuns content given) :
    ∃ entries, readHistory content = .ok (entries, sortedRuns given) := by
  obtain ⟨items, hitems, hread⟩ := h
  have hruns : items.mapM Run.ofValue = .ok given := mapM_eq_ok_iff.mpr hread
  cases content with
  | map entries =>
    refine ⟨entries, ?_⟩
    dsimp only [listedRuns?, readHistory] at hitems ⊢
    cases hpart : Run.part? entries "runs" with
    | none =>
      rw [hpart] at hitems
      obtain rfl := Option.some.inj hitems
      exact congrArg (· >>= fun runs => pure (entries, sortedRuns runs)) hruns
    | some value =>
      rw [hpart] at hitems
      cases value with
      | list listed =>
        obtain rfl := Option.some.inj hitems
        exact congrArg (· >>= fun runs => pure (entries, sortedRuns runs)) hruns
      | _ => cases hitems
  | _ => cases hitems

/-- Of a file that lists some runs their history is loaded, and the file lists them as before. -/
theorem load_of_lists {path : String} {desk : Desk Shelf} (h : Shelf.Lists path given desk.host) :
    ∃ cache after, (Shelf.load path).on desk = (.ok cache, after) ∧ cache.runs = sortedRuns given ∧
      Shelf.Lists path given after.host := by
  obtain ⟨file, document, hfile, hdocument, hlists, hkept⟩ := h
  obtain ⟨entries, hread⟩ := readHistory_of_listsRuns hlists
  have hhistory : file.history = .ok (entries, sortedRuns given) := by
    rw [StoredFile.history, hdocument]
    exact hread
  by_cases hstamp : desk.host.cache.stamp? = some file.stamp
  · have hcache := hkept hstamp
    rw [hhistory] at hcache
    have hruns : desk.host.cache.runs = sortedRuns given := (congrArg Prod.snd (Except.ok.inj hcache)).symm
    exact ⟨desk.host.cache, desk, load_of_kept hfile hstamp, hruns, file, document, hfile, hdocument, hlists, hkept⟩
  · obtain ⟨console, hreload⟩ := reload_on hfile file.stamp
    rw [hhistory] at hreload
    refine ⟨_, _, (load_of_changed hfile hstamp).trans hreload, rfl, file, document, hfile, hdocument, hlists, ?_⟩
    exact fun _ => hhistory

theorem history_of_lists {path : String} {desk : Desk Shelf} (h : Shelf.Lists path given desk.host) :
    ∃ after, (Shelf.job path).history.on desk = (.ok (sortedRuns given), after) ∧
      Shelf.Lists path given after.host := by
  obtain ⟨cache, after, hload, hruns, hafter⟩ := load_of_lists h
  refine ⟨after, ?_, hafter⟩
  rw [← hruns]
  simp only [Shelf.job, Shelf.jobOf, Work.on_bind, hload]
  rfl

/-- A file and a record of the same history are alike. -/
theorem like_recorded (path : String) {recorded : Recorded} (h : sortedRuns given = recorded.runs) :
    Job.Like (Shelf.Lists path given) (· = recorded) (Shelf.job path) Recorded.job where
  history := by
    rintro desk ⟨console, _⟩ hlists rfl
    obtain ⟨after, hhistory, hafter⟩ := history_of_lists hlists
    rw [hhistory, h]
    exact ⟨rfl, hafter, rfl⟩
  name := by
    rintro desk ⟨console, _⟩ hlists rfl
    obtain ⟨cache, after, hload, -, hafter⟩ := load_of_lists hlists
    simp only [Shelf.job, Shelf.jobOf, Work.on_map, Work.on_bind, hload]
    exact ⟨rfl, hafter, rfl⟩

/-- The runs that a file lists are found by reading it. -/
theorem exists_lists {path : String} {shelf : Shelf} {file : StoredFile} {test : List Run → Bool}
    (hfile : shelf.files.get? path = some file) (hstamp : shelf.cache.stamp? ≠ some file.stamp)
    (htest : (Yaml.documentIn file.text).toOption.any (fun document =>
      (listedRuns? document.value).any fun items => (items.mapM Run.ofValue).toOption.any test) = true) :
    ∃ given, Shelf.Lists path given shelf ∧ test given = true := by
  obtain ⟨document, hdocument, hlisted⟩ := exists_of_any_toOption htest
  obtain ⟨items, hitems, hread⟩ := (Option.any_eq_true _ _).mp hlisted
  obtain ⟨given, hgiven, hholds⟩ := exists_of_any_toOption hread
  refine ⟨given, ⟨file, document, hfile, hdocument, ⟨items, hitems, mapM_eq_ok_iff.mp hgiven⟩, ?_⟩, hholds⟩
  exact fun hkept => absurd hkept hstamp

end RecordedHistoryAux

open LikenessAux RecordedHistoryAux

/-- A record of some runs, to which others are added one by one, holds the history of all runs that it was given.
(1) There is one such history, and asking for it changes nothing.
(2) The record is the one to which the same runs are given in any batches, or all at once.
(3) A file that lists the same runs in the order in which they were given has the same history, whenever it is asked for
it.
(4) If the numbers are distinct, the record is the one of the same runs in any order. A file that lists them in any
order has the same history, and every selection gives the same on it and leaves the same context. -/
theorem recorded_history (name : String) (initial added : List Run) :
    let given := initial ++ added
    let recorded := (Recorded.ofRuns name initial).addAll added
    ((∀ history, IsHistoryOf given history ↔ history = recorded.runs) ∧
      ∀ console, Recorded.job.history.on ⟨console, recorded⟩ = (.ok recorded.runs, ⟨console, recorded⟩)) ∧
    (∀ (first : List Run) (batches : List (List Run)), first ++ batches.flatten = given →
      batches.foldl Recorded.addAll (Recorded.ofRuns name first) = recorded) ∧
    (∀ path (desk : Desk Shelf), Shelf.Lists path given desk.host →
      ((Shelf.job path).history.on desk).1 = .ok recorded.runs) ∧
    ((given.map Run.number).Nodup → ∀ other : List Run, other.Perm given →
      Recorded.ofRuns name other = recorded ∧
      ∀ path,
        (∀ desk : Desk Shelf, Shelf.Lists path other desk.host →
          ((Shelf.job path).history.on desk).1 = .ok recorded.runs) ∧
        ∀ (selector : Selector) (filter? : Option (RunFilter Criterion)) (limit : Nat),
          Selecting.Like (Shelf.Lists path other) (· = recorded)
            (selectRun (Shelf.job path) selector.enumerator (filter?.map (RunFilter.judge Criterion.judge)) limit)
            (selectRun Recorded.job selector.enumerator (filter?.map (RunFilter.judge Criterion.judge)) limit) ∧
          ∀ count, Selecting.Like (Shelf.Lists path other) (· = recorded)
            (selectRuns limit (Shelf.job path) selector.enumerator (filter?.map (RunFilter.judge Criterion.judge))
              count)
            (selectRuns limit Recorded.job selector.enumerator (filter?.map (RunFilter.judge Criterion.judge))
              count)) := by
  intro given recorded
  have hrecorded : recorded = Recorded.ofRuns name given := addAll_ofRuns name initial added
  have hruns : recorded.runs = sortedRuns given := by rw [hrecorded]; rfl
  refine ⟨⟨fun history => ?_, fun console => history_recorded console recorded⟩, ?_, ?_, ?_⟩
  · rw [hruns]
    exact isHistoryOf_iff
  · intro first batches hgiven
    rw [foldl_addAll_ofRuns, hgiven, hrecorded]
  · intro path desk hlists
    obtain ⟨after, hhistory, -⟩ := history_of_lists hlists
    rw [hhistory, hruns]
  · intro hdistinct other hperm
    have hsorted : sortedRuns other = recorded.runs := (sortedRuns_of_perm hdistinct hperm).trans hruns.symm
    refine ⟨?_, fun path => ⟨fun desk hlists => ?_, fun selector filter? limit => ?_⟩⟩
    · rw [hrecorded, Recorded.ofRuns, Recorded.ofRuns, sortedRuns_of_perm hdistinct hperm]
    · obtain ⟨after, hhistory, -⟩ := history_of_lists hlists
      rw [hhistory, hsorted]
    · have hlike := like_recorded path hsorted
      exact ⟨like_selectRun hlike selector filter? limit, like_selectRuns hlike selector filter? limit⟩

/-- Two runs of one number stay in the order in which they were given, in a record and in a file. Runs of distinct
numbers that are given backwards lead to the same history as the file. -/
theorem recorded_history_of_doubled :
    let doubled : StoredFile := ⟨"runs: [{number: 3}, {number: 1}, {number: 1, result: failure}]", 1⟩
    let distinct : StoredFile := ⟨"runs: [{number: 3}, {number: 1}, {number: 2}]", 1⟩
    let desk : Desk Shelf := ⟨default, ⟨[("doubled.yml", doubled), ("distinct.yml", distinct)], .empty⟩⟩
    (∃ given : List Run, given.map (fun run => (run.number, run.result)) =
        [(3, .success), (1, .success), (1, .failure)] ∧
      ((Shelf.job "doubled.yml").history.on desk).1 =
        .ok ((Recorded.ofRuns "job" (given.take 1)).addAll (given.drop 1)).runs) ∧
    ∃ given : List Run, given.map Run.number = [3, 1, 2] ∧
      ((Shelf.job "distinct.yml").history.on desk).1 = .ok (Recorded.ofRuns "job" given.reverse).runs := by
  intro doubled distinct desk
  constructor
  · obtain ⟨given, hlists, hgiven⟩ := @exists_lists "doubled.yml" desk.host doubled
      (fun given => given.map (fun run => (run.number, run.result)) = [(3, .success), (1, .success), (1, .failure)])
      rfl nofun (by decide +kernel)
    refine ⟨given, of_decide_eq_true hgiven, ?_⟩
    have hhistory := (recorded_history "job" (given.take 1) (given.drop 1)).2.2.1 "doubled.yml" desk
    rw [List.take_append_drop] at hhistory
    exact hhistory hlists
  · obtain ⟨given, hlists, hgiven⟩ := @exists_lists "distinct.yml" desk.host distinct
      (fun given => given.map Run.number = [3, 1, 2]) rfl nofun (by decide +kernel)
    have hnumbers : given.map Run.number = [3, 1, 2] := of_decide_eq_true hgiven
    have hdistinct : ((given.reverse ++ []).map Run.number).Nodup := by
      rw [List.append_nil, List.map_reverse, hnumbers]
      decide
    have hperm : given.Perm (given.reverse ++ []) := by
      rw [List.append_nil]
      exact (List.reverse_perm given).symm
    exact ⟨given, hnumbers, (((recorded_history "job" given.reverse []).2.2.2 hdistinct given hperm).2
      "distinct.yml").1 desk hlists⟩

end RunPicker

import RunPicker.Proofs.Enumeration
import RunPicker.Proofs.HistoryOrder
import RunPicker.Proofs.Journal

/-!
# Runs that arrive during a selection

While a selection by a status goes on, runs may be added to the record of its job. A `Feed` is such a record: after each
reading of its history the next of the coming runs are added. Runs that are not older than the first candidate cannot be
seen by what is left of the selection, which gives, asks and leaves in the context what it would on a record to which
nothing is added (`arrivals_unseen`); a selection with a fresh context sees them.
-/

namespace RunPicker

variable {τ : Type}

/-- A record to which runs are added, and whatever else there is for judges to look at. -/
structure Feed (τ : Type) where
  recorded : Recorded
  /-- The runs that are added after each of the next readings. -/
  coming : List (List Run)
  rest : τ

namespace Feed

/-- The record after a reading, with the next of the coming runs added. -/
def advance (feed : Feed τ) : Feed τ :=
  { feed with
    recorded := (feed.coming.headD []).foldl (fun recorded run => recorded.add run) feed.recorded
    coming := feed.coming.tail }

/-- The job of the record. -/
def job : Job (Feed τ) where
  name := Recorded.job.name.onPart recorded fun recorded feed => { feed with recorded }
  history := do
    let runs ← Recorded.job.history.onPart recorded fun recorded feed => { feed with recorded }
    Work.onHost advance
    return runs

end Feed

/-- The judge beside a record, at which he does not look. -/
def Judge.besideRecord (judge : Judge τ) : Judge (Feed τ) := fun run context =>
  (judge run context).onPart Feed.rest fun rest feed => { feed with rest }

/-- A request for a run, or for up to a number of runs. -/
structure Request (τ : Type) where
  count? : Option Nat
  judge? : Option (Judge τ)
  limit : Nat

namespace Request

/-- The request in which every answer of the judge is entered. -/
def journaled (request : Request τ) : Request (Journal (Entry τ) τ) :=
  { request with judge? := request.judge?.map Judge.journaled }

/-- The runs that are selected by a status at a request. -/
def runs (status : Status) (request : Request τ) : Selecting (Feed τ) (List Run) :=
  let judge? := request.judge?.map Judge.besideRecord
  match request.count? with
  | none => Option.toList <$> selectRun Feed.job (Selector.byStatus status).enumerator judge? request.limit
  | some count => selectRuns request.limit Feed.job (Selector.byStatus status).enumerator judge? count

end Request

/-- What requests that follow one another give, and the session afterwards. -/
def answers (status : Status) :
    List (Request τ) → Session (Feed τ) → List (Except Failure (List Run)) × Session (Feed τ)
  | [], session => ([], session)
  | request :: others, session =>
    let (result, middle) := (request.runs status).on session
    let (results, after) := answers status others middle
    (result :: results, after)

/-- The questions to the judges of requests that follow one another, with their answers. -/
def consultations (status : Status) (requests : List (Request τ)) (context : Context) (console : Console)
    (feed : Feed τ) : List (Entry τ) :=
  (answers status (requests.map Request.journaled)
    ⟨context, console, feed.recorded, feed.coming, feed.rest, []⟩).2.desk.host.rest.entries

namespace ArrivalsAux

open EnumerationAux HistoryOrderAux

/-- The record of a feed holds some runs and those that have come since. -/
structure Grown (runs : List Run) (coming : List (List Run)) (feed : Feed τ) : Prop where
  recorded : ∃ arrived, coming = arrived ++ feed.coming ∧ feed.recorded.runs = sortedRuns (runs ++ arrived.flatten)

/-- Runs are added to a record one after the other as they would be together. -/
theorem runs_foldl_add (recorded : Recorded) {runs : List Run} (h : recorded.runs = sortedRuns runs)
    (others : List Run) :
    (others.foldl (fun recorded run => recorded.add run) recorded).runs = sortedRuns (runs ++ others) := by
  induction others generalizing recorded runs with
  | nil => simpa using h
  | cons run others ih =>
    have hadd : (recorded.add run).runs = sortedRuns (runs ++ [run]) := by
      rw [← sortedRuns_append, ← h]
      rfl
    rw [List.foldl_cons, ih _ hadd, List.append_assoc, List.singleton_append]

theorem Grown.advance {runs : List Run} {coming : List (List Run)} {feed : Feed τ} (h : Grown runs coming feed) :
    Grown runs coming feed.advance := by
  obtain ⟨arrived, hcoming, hruns⟩ := h.recorded
  cases hnext : feed.coming with
  | nil =>
    have hsame : feed.advance = feed := by
      cases feed
      simp only at hnext
      subst hnext
      rfl
    rw [hsame]
    exact h
  | cons batch others =>
    refine ⟨arrived ++ [batch], ?_, ?_⟩
    · rw [hcoming, hnext]
      simp [Feed.advance, hnext]
    · have hadded := runs_foldl_add feed.recorded hruns batch
      simpa [Feed.advance, hnext, List.flatten_append, List.append_assoc] using hadded

/-- The selector of a status offers a run of the record, and the record advances. -/
theorem next_feed (status : Status) (context : Context) (desk : Desk (Feed τ)) :
    ((Selector.byStatus status).enumerator.next Feed.job context).on desk =
      (.ok (olderOf status context.lastCandidate desk.host.recorded.runs).head?,
        { desk with host := desk.host.advance }) := by
  rw [next_byStatus_on]
  rfl

/-- The judge beside a record gives his answer, whatever the record is. -/
theorem verdict_besideRecord (judge? : Option (Judge τ)) (run : Run) (context : Context) (desk : Desk (Feed τ)) :
    verdict (judge?.map Judge.besideRecord) run context desk =
      ((verdict judge? run context ⟨desk.console, desk.host.rest⟩).1,
        ⟨(verdict judge? run context ⟨desk.console, desk.host.rest⟩).2.console,
          { desk.host with rest := (verdict judge? run context ⟨desk.console, desk.host.rest⟩).2.host }⟩) := by
  cases judge? <;> rfl

section

variable (status : Status) (runs : List Run) (coming : List (List Run)) (first : Run)

/-- A session with a record that grows, and another one in which all is the same but for what was added. Either the
first candidate is still to be offered, or the last candidate is no newer. -/
structure Alike (session other : Session (Feed τ)) : Prop where
  context : session.context = other.context
  console : session.desk.console = other.desk.console
  rest : session.desk.host.rest = other.desk.host.rest
  grown : Grown runs coming session.desk.host
  still : Grown runs [] other.desk.host
  begun : session.desk.host.recorded.runs = sortedRuns runs ∧
      (olderOf status session.context.lastCandidate (sortedRuns runs)).head? = some first ∨
    ∃ last, session.context.lastCandidate = some last ∧ last.number ≤ first.number

/-- Two outcomes are the same but for what was added to the record. -/
def AlikeOutcomes {α : Type} (outcome other : α × Session (Feed τ)) : Prop :=
  outcome.1 = other.1 ∧ Alike status runs coming first outcome.2 other.2

/-- Two turns are the same but for what was added to the record. -/
inductive AlikeTurns : Turn (Feed τ) → Turn (Feed τ) → Prop where
  | ended (result : Except Failure (Option Run)) {session other : Session (Feed τ)}
      (h : Alike status runs coming first session other) : AlikeTurns (.ended result session) (.ended result other)
  | rejected (run : Run) {session other : Session (Feed τ)} (h : Alike status runs coming first session other) :
      AlikeTurns (.rejected run session) (.rejected run other)

end

section

variable {status : Status} {runs : List Run} {coming : List (List Run)} {first : Run}

/-- What is older than a run that is no newer than any of the others is the same with them and without them. -/
theorem olderOf_append {last : Run} {others : List Run} (h : ∀ run ∈ others, last.number ≤ run.number) :
    olderOf status (some last) (sortedRuns (runs ++ others)) = olderOf status (some last) (sortedRuns runs) := by
  have hnone : others.filter (fun run => decide (run.number < last.number)) = [] := by
    refine List.filter_eq_nil_iff.mpr fun run hrun => ?_
    have := h run hrun
    simp only [decide_eq_true_eq]
    omega
  have hbelow : (sortedRuns (runs ++ others)).filter (fun run => decide (run.number < last.number)) =
      (sortedRuns runs).filter fun run => decide (run.number < last.number) := by
    rw [filter_sortedRuns, filter_sortedRuns, List.filter_append, hnone, List.append_nil]
  simp only [olderOf, Option.all_some, List.filter_reverse, hbelow]

variable (hcoming : ∀ batch ∈ coming, ∀ run ∈ batch, first.number ≤ run.number) {session other : Session (Feed τ)}

include hcoming

/-- Alike sessions offer the same run. -/
theorem Alike.offer_eq (h : Alike status runs coming first session other) :
    (olderOf status session.context.lastCandidate session.desk.host.recorded.runs).head? =
      (olderOf status other.context.lastCandidate other.desk.host.recorded.runs).head? := by
  obtain ⟨nothing, hnothing, hstill⟩ := h.still.recorded
  obtain ⟨rfl, -⟩ := List.append_eq_nil_iff.mp hnothing.symm
  rw [List.flatten_nil, List.append_nil] at hstill
  rw [← h.context, hstill]
  rcases h.begun with ⟨hruns, -⟩ | ⟨last, hlast, hle⟩
  · rw [hruns]
  · obtain ⟨arrived, harrived, hruns⟩ := h.grown.recorded
    rw [hlast, hruns, olderOf_append]
    intro run hrun
    obtain ⟨batch, hbatch, hmem⟩ := List.mem_flatten.mp hrun
    have := hcoming batch (harrived ▸ List.mem_append_left _ hbatch) run hmem
    omega

omit hcoming in
/-- What alike sessions offer is no newer than the first candidate. -/
theorem Alike.offer_le (h : Alike status runs coming first session other) {run : Run}
    (hrun : (olderOf status session.context.lastCandidate session.desk.host.recorded.runs).head? = some run) :
    run.number ≤ first.number := by
  rcases h.begun with ⟨hruns, hfirst⟩ | ⟨last, hlast, hle⟩
  · rw [hruns, hfirst] at hrun
    obtain rfl := Option.some.inj hrun
    exact Int.le_refl _
  · have holder := (mem_olderOf.mp (List.mem_of_head? hrun)).2.1 last hlast
    omega

omit hcoming in
/-- Once nothing is left to be offered, the last candidate is no newer than the first. -/
theorem Alike.begun_of_none (h : Alike status runs coming first session other)
    (hnone : (olderOf status session.context.lastCandidate session.desk.host.recorded.runs).head? = none) :
    ∃ last, session.context.lastCandidate = some last ∧ last.number ≤ first.number := by
  rcases h.begun with ⟨hruns, hfirst⟩ | hbegun
  · rw [hruns, hfirst] at hnone
    cases hnone
  · exact hbegun

/-- Alike sessions take alike turns. -/
theorem turn_alike (h : Alike status runs coming first session other) (judge? : Option (Judge τ)) :
    AlikeTurns status runs coming first
      (turn Feed.job (Selector.byStatus status).enumerator (judge?.map Judge.besideRecord) session)
      (turn Feed.job (Selector.byStatus status).enumerator (judge?.map Judge.besideRecord) other) := by
  have hoffer := h.offer_eq hcoming
  obtain ⟨context, console, feed⟩ := session
  obtain ⟨context', console', feed'⟩ := other
  obtain rfl : context = context' := h.context
  obtain rfl : console = console' := h.console
  have hrest : feed.rest = feed'.rest := h.rest
  simp only [turn, next_feed]
  simp only at hoffer
  rw [← hoffer]
  cases hnext : (olderOf status context.lastCandidate feed.recorded.runs).head? with
  | none =>
    exact .ended _ ⟨rfl, rfl, hrest, h.grown.advance, h.still.advance, Or.inr (h.begun_of_none hnext)⟩
  | some run =>
    have hfresh : isRepeated context run = false := isRepeated_of_olderOf (List.mem_of_head? hnext)
    have hle := h.offer_le hnext
    have hadvanced : feed.advance.rest = feed'.advance.rest := hrest
    have hgrown : Grown runs coming feed.advance := h.grown.advance
    have hstill : Grown runs [] feed'.advance := h.still.advance
    simp only [hfresh, Bool.false_eq_true, if_false, verdict_besideRecord]
    rw [hadvanced]
    rcases verdict judge? run (context.seeing run) ⟨console, feed'.advance.rest⟩ with ⟨failure | _ | _, after⟩
    · exact .ended _ ⟨rfl, rfl, rfl, ⟨hgrown.recorded⟩, ⟨hstill.recorded⟩, Or.inr ⟨run, rfl, hle⟩⟩
    · exact .rejected _ ⟨rfl, rfl, rfl, ⟨hgrown.recorded⟩, ⟨hstill.recorded⟩, Or.inr ⟨run, rfl, hle⟩⟩
    · exact .ended _ ⟨rfl, rfl, rfl, ⟨hgrown.recorded⟩, ⟨hstill.recorded⟩, Or.inr ⟨run, rfl, hle⟩⟩

/-- Alike sessions have alike selections. -/
theorem selectRun_alike (judge? : Option (Judge τ)) (limit : Nat) (h : Alike status runs coming first session other) :
    AlikeOutcomes status runs coming first
      ((selectRun Feed.job (Selector.byStatus status).enumerator (judge?.map Judge.besideRecord) limit).on session)
      ((selectRun Feed.job (Selector.byStatus status).enumerator (judge?.map Judge.besideRecord) limit).on other) := by
  induction limit generalizing session other with
  | zero => exact ⟨rfl, h⟩
  | succ limit ih =>
    rw [selectRun_succ, selectRun_succ]
    have hturns := turn_alike hcoming h judge?
    generalize turn Feed.job (Selector.byStatus status).enumerator (judge?.map Judge.besideRecord) session = taken
      at hturns
    generalize turn Feed.job (Selector.byStatus status).enumerator (judge?.map Judge.besideRecord) other = taken'
      at hturns
    cases hturns with
    | ended result hafter => exact ⟨rfl, hafter⟩
    | rejected run hafter => exact ih hafter

/-- Alike sessions have alike selections of several runs. -/
theorem selectRuns_alike (judge? : Option (Judge τ)) (limit count : Nat)
    (h : Alike status runs coming first session other) :
    AlikeOutcomes status runs coming first
      ((selectRuns limit Feed.job (Selector.byStatus status).enumerator (judge?.map Judge.besideRecord) count).on
        session)
      ((selectRuns limit Feed.job (Selector.byStatus status).enumerator (judge?.map Judge.besideRecord) count).on
        other) := by
  induction count generalizing session other with
  | zero => exact ⟨rfl, h⟩
  | succ count ih =>
    simp only [selectRuns, Selecting.on_bind]
    obtain ⟨hresult, hafter⟩ := selectRun_alike hcoming judge? limit h
    revert hresult hafter
    rcases (selectRun Feed.job (Selector.byStatus status).enumerator (judge?.map Judge.besideRecord) limit).on
      session with ⟨result, after⟩
    rcases (selectRun Feed.job (Selector.byStatus status).enumerator (judge?.map Judge.besideRecord) limit).on
      other with ⟨result', after'⟩
    rintro (rfl : result = result') hafter
    rcases result with failure | _ | run
    · exact ⟨rfl, hafter⟩
    · exact ⟨rfl, hafter⟩
    · obtain ⟨hothers, hfinish⟩ := ih hafter
      revert hothers hfinish
      simp only [Selecting.on_bind]
      rcases (selectRuns limit Feed.job (Selector.byStatus status).enumerator (judge?.map Judge.besideRecord) count).on
        after with ⟨others, finish⟩
      rcases (selectRuns limit Feed.job (Selector.byStatus status).enumerator (judge?.map Judge.besideRecord) count).on
        after' with ⟨others', finish'⟩
      rintro (rfl : others = others') hfinish
      rcases others with failure | others
      · exact ⟨rfl, hfinish⟩
      · exact ⟨rfl, hfinish⟩

/-- Alike sessions answer a request alike. -/
theorem runs_alike (request : Request τ) (h : Alike status runs coming first session other) :
    AlikeOutcomes status runs coming first ((request.runs status).on session) ((request.runs status).on other) := by
  obtain ⟨_ | count, judge?, limit⟩ := request
  · obtain ⟨hresult, hafter⟩ := selectRun_alike hcoming judge? limit h
    revert hresult hafter
    simp only [Request.runs, map_eq_pure_bind, Selecting.on_bind]
    rcases (selectRun Feed.job (Selector.byStatus status).enumerator (judge?.map Judge.besideRecord) limit).on
      session with ⟨result, after⟩
    rcases (selectRun Feed.job (Selector.byStatus status).enumerator (judge?.map Judge.besideRecord) limit).on
      other with ⟨result', after'⟩
    rintro (rfl : result = result') hafter
    rcases result with failure | run?
    · exact ⟨rfl, hafter⟩
    · exact ⟨rfl, hafter⟩
  · exact selectRuns_alike hcoming judge? limit count h

/-- Alike sessions answer requests that follow one another alike. -/
theorem answers_alike (requests : List (Request τ)) (h : Alike status runs coming first session other) :
    AlikeOutcomes status runs coming first (answers status requests session) (answers status requests other) := by
  induction requests generalizing session other with
  | nil => exact ⟨rfl, h⟩
  | cons request others ih =>
    obtain ⟨hresult, hafter⟩ := runs_alike hcoming request h
    obtain ⟨hresults, hfinish⟩ := ih hafter
    simp only [AlikeOutcomes, answers]
    rw [hresult, hresults]
    exact ⟨rfl, hfinish⟩

omit hcoming in
/-- At the start nothing was added to the record, and the first candidate is to be offered. -/
theorem alike_start {context : Context} {console : Console} {name : String}
    (hfirst : (((Selector.byStatus status).enumerator.next Recorded.job context).on
      ⟨console, Recorded.ofRuns name runs⟩).1 = .ok (some first)) (coming : List (List Run)) (rest : τ) :
    Alike status runs coming first ⟨context, console, Recorded.ofRuns name runs, coming, rest⟩
      ⟨context, console, Recorded.ofRuns name runs, [], rest⟩ := by
  have hhead : (olderOf status context.lastCandidate (sortedRuns runs)).head? = some first := by
    rw [next_byStatus_on] at hfirst
    exact Except.ok.inj hfirst
  exact ⟨rfl, rfl, rfl, ⟨[], rfl, by rw [List.flatten_nil, List.append_nil]; rfl⟩,
    ⟨[], rfl, by rw [List.flatten_nil, List.append_nil]; rfl⟩, Or.inl ⟨rfl, hhead⟩⟩

end

/-- Of the runs of a status, every number is among the candidates. -/
theorem exists_candidate {status : Status} {history : List Run} {run : Run} (hmem : run ∈ history)
    (hcovers : status.covers run = true) : ∃ other ∈ candidates status none history, other.number = run.number := by
  have holder : run ∈ olderOf status none history := mem_olderOf.mpr ⟨hmem, by simp, hcovers⟩
  revert holder
  rw [candidates]
  generalize olderOf status none history = found
  induction hlength : found.length using Nat.strongRecOn generalizing found with
  | ind length ih =>
    intro hfound
    cases found with
    | nil => exact absurd hfound List.not_mem_nil
    | cons first found =>
      rw [List.eraseDupsBy_cons]
      by_cases hnumber : first.number = run.number
      · exact ⟨first, List.mem_cons_self .., hnumber⟩
      · have hrest : run ∈ found.filter fun other => (other.number == first.number) = false := by
          rcases List.mem_cons.mp hfound with rfl | hfound
          · exact absurd rfl hnumber
          · exact List.mem_filter.mpr ⟨hfound, by simpa using fun h => hnumber h.symm⟩
        have hshorter : (found.filter fun other => (other.number == first.number) = false).length < length := by
          have := List.length_filter_le (fun other => decide ((other.number == first.number) = false)) found
          rw [← hlength, List.length_cons]
          omega
        obtain ⟨other, hother, hsame⟩ := ih _ hshorter _ rfl hrest
        exact ⟨other, List.mem_cons_of_mem _ hother, hsame⟩

/-- A selection with a fresh context gives the candidates of the record. -/
theorem selectRuns_fresh {recorded : Recorded} {runs : List Run} (h : recorded.runs = sortedRuns runs)
    (status : Status) (vars : Environment) (count : Nat) {limit : Nat} (enough : runs.length < limit)
    (console : Console) :
    ((selectRuns limit Recorded.job (Selector.byStatus status).enumerator none count).on
      ⟨.fresh vars, console, recorded⟩).1 = .ok ((candidates status none (sortedRuns runs)).take count) := by
  have hfixed : Work.Yields (fun host : Recorded => host.runs = sortedRuns runs) Recorded.job.history
      (sortedRuns runs) := fun desk hdesk => ⟨desk, by rw [← hdesk]; rfl, hdesk⟩
  have hdecides : Decides (fun host : Recorded => host.runs = sortedRuns runs) none vars (fun _ => true)
      (sortedRuns runs) := fun _ _ _ _ desk hdesk => ⟨desk, rfl, hdesk⟩
  have hyields : Selecting.Yields (fun host : Recorded => host.runs = sortedRuns runs)
      (selectRuns limit Recorded.job (Selector.byStatus status).enumerator none count) (.fresh vars) _ _ :=
    yields_selectRuns (ordered_sortedRuns runs) hfixed hdecides (by rw [length_sortedRuns]; exact enough) count
      (.fresh vars) rfl
  obtain ⟨desk, hselected, -⟩ := hyields ⟨console, recorded⟩ h
  have hall (xs : List Run) : (xs.filter fun _ => true) = xs := List.filter_eq_self.mpr fun _ _ => rfl
  rw [hselected, hall]
  rfl

end ArrivalsAux

open ArrivalsAux HistoryOrderAux

/-- Requests for runs of a status while runs are added to the record, none of them older than the first candidate. They
give the same runs, ask the judges the same questions in the same order, and leave the same context, console and rest as
if nothing were added. What was added stands in the record afterwards, in the order of the numbers, and a selection with
a fresh context goes over it: it gives the candidates of all runs together, and among them are those of every number of
the runs that were added. -/
theorem arrivals_unseen {status : Status} {name : String} {runs : List Run} {context : Context} {console : Console}
    {first : Run} (hfirst : (((Selector.byStatus status).enumerator.next Recorded.job context).on
      ⟨console, Recorded.ofRuns name runs⟩).1 = .ok (some first))
    {coming : List (List Run)} (hcoming : ∀ batch ∈ coming, ∀ run ∈ batch, first.number ≤ run.number) (rest : τ)
    (requests : List (Request τ)) :
    let feed : Feed τ := ⟨Recorded.ofRuns name runs, coming, rest⟩
    let quiet : Feed τ := ⟨Recorded.ofRuns name runs, [], rest⟩
    let outcome := answers status requests ⟨context, console, feed⟩
    let expected := answers status requests ⟨context, console, quiet⟩
    (outcome.1 = expected.1 ∧ outcome.2.context = expected.2.context ∧
      outcome.2.desk.console = expected.2.desk.console ∧ outcome.2.desk.host.rest = expected.2.desk.host.rest) ∧
    consultations status requests context console feed = consultations status requests context console quiet ∧
    ∃ arrived, coming = arrived ++ outcome.2.desk.host.coming ∧
      outcome.2.desk.host.recorded.runs = sortedRuns (runs ++ arrived.flatten) ∧
      (∀ run ∈ arrived.flatten, run ∈ outcome.2.desk.host.recorded.runs) ∧
      ∀ status' vars count limit, (runs ++ arrived.flatten).length < limit →
        ((selectRuns limit Recorded.job (Selector.byStatus status').enumerator none count).on
          ⟨.fresh vars, outcome.2.desk.console, outcome.2.desk.host.recorded⟩).1 =
            .ok ((candidates status' none (sortedRuns (runs ++ arrived.flatten))).take count) ∧
        ∀ run ∈ arrived.flatten, status'.covers run = true →
          ∃ other ∈ candidates status' none (sortedRuns (runs ++ arrived.flatten)), other.number = run.number := by
  intro feed quiet outcome expected
  obtain ⟨hresults, hafter⟩ := answers_alike hcoming requests (alike_start hfirst coming rest)
  obtain ⟨-, hjournal⟩ := answers_alike hcoming (requests.map Request.journaled)
    (alike_start hfirst coming (Journal.mk rest []))
  obtain ⟨arrived, harrived, hruns⟩ := hafter.grown.recorded
  have hmem : ∀ run ∈ arrived.flatten, run ∈ sortedRuns (runs ++ arrived.flatten) := fun run hrun =>
    mem_sortedRuns.mpr (List.mem_append_right _ hrun)
  refine ⟨⟨hresults, hafter.context, hafter.console, hafter.rest⟩, congrArg Journal.entries hjournal.rest, arrived,
    harrived, hruns, fun run hrun => hruns ▸ hmem run hrun, fun status' vars count limit hlimit => ⟨?_, ?_⟩⟩
  · exact selectRuns_fresh hruns status' vars count hlimit outcome.2.desk.console
  · intro run hrun hcovers
    exact exists_candidate (hmem run hrun) hcovers

/-- The newest of three runs is rejected. Then a run of its number and a newer one are added, and still the two older
runs are selected, and after them none. -/
theorem arrivals_unseen_of_three :
    let run (number : Int) (name : String) : Run := ⟨number, .success, false, .available [], [], name⟩
    let runs := [run 1 "#1", run 2 "#2", run 3 "#3"]
    let judge : Judge Unit := fun run _ => pure (run.number != 3)
    let requests : List (Request Unit) := [⟨some 2, some judge, 4⟩, ⟨none, none, 4⟩]
    let feed : Feed Unit := ⟨Recorded.ofRuns "job" runs, [[run 7 "#7", run 3 "late"], [run 4 "#4"]], ()⟩
    let names (result : Except Failure (List Run)) : List String := (result.toOption.getD []).map Run.displayName
    (answers .any requests ⟨.fresh [], default, feed⟩).1.map names = [["#2", "#1"], []] := by
  intro run runs judge requests feed names
  have hsorted : sortedRuns runs = runs := List.mergeSort_of_pairwise (by decide)
  have hrecord : Recorded.ofRuns "job" runs = ⟨"job", runs⟩ := congrArg (Recorded.mk "job") hsorted
  have hfirst : (((Selector.byStatus .any).enumerator.next Recorded.job (.fresh [])).on
      ⟨default, Recorded.ofRuns "job" runs⟩).1 = .ok (some (run 3 "#3")) := by
    rw [hrecord]
    rfl
  have hcoming : ∀ batch ∈ [[run 7 "#7", run 3 "late"], [run 4 "#4"]], ∀ other ∈ batch,
      (run 3 "#3").number ≤ other.number := by decide
  have hquiet : (answers .any requests ⟨.fresh [], default, ⟨"job", runs⟩, [], ()⟩).1.map names =
      [["#2", "#1"], []] := by decide +kernel
  have hresults := (arrivals_unseen hfirst hcoming () requests).1.1
  exact (congrArg (List.map names) hresults).trans (by rw [hrecord]; exact hquiet)

end RunPicker

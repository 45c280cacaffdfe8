import Mathlib.Data.List.Chain
import Mathlib.Logic.Relation
import RunPicker.Proofs.Enumeration
import RunPicker.Proofs.Sequence

/-!
# Descending selections

A selection by a status rests on nothing but the number of the last candidate, for the history may be another one at
every reading. That is enough: over any sequence of such selections in one context the numbers of the candidates descend
(`byStatus_descends`), so no run comes twice, and where the numbers have a lower bound every selection comes to an end.
-/

namespace RunPicker

variable {σ : Type}

/-- The run that was offered, if the entry is one of an offer. -/
def Entry.offered? (entry : Entry σ) : Option Run :=
  match entry.exchange with
  | .offer answer => selected? answer
  | .verdict .. => none

/-- The runs that were offered, in their order. -/
def offeredRuns (entries : List (Entry σ)) : List Run :=
  entries.filterMap Entry.offered?

/-- The run is newer than the other, by their numbers. -/
def Run.NewerThan (run other : Run) : Prop :=
  other.number < run.number

/-- The call is one of a selection by a status, of a job. -/
structure SelectionCall.IsByStatus (call : SelectionCall σ) (job : Job σ) (status : Status) : Prop where
  job : call.job = job
  approach : call.approach = (Selector.byStatus status).approach

/-- The entries of a call. -/
def SelectionCall.entries (call : SelectionCall σ) (context : Context) : List (Entry σ) :=
  selectionEntries call.job call.approach.enumerator call.judge? call.limit context call.desk

/-- The entries of the calls of a sequence. -/
def entriesOfCalls : Context → List (SelectionCall σ) → List (Entry σ)
  | _, [] => []
  | context, call :: rest => call.entries context ++ entriesOfCalls (call.outcome context).2.context rest

section

variable (job : Job σ) (enumerator : Enumerator σ) (judge? : Option (Judge σ))

/-- The selection goes on from one session in the other, after its turn rejected a candidate. -/
def GoesOn (session after : Session σ) : Prop :=
  ∃ run, turn job enumerator judge? session = .rejected run after

/-- The selection comes to an end: after some turns that reject their candidates, one gives a result. -/
def Ends (session : Session σ) (result : Except Failure (Option Run)) (after : Session σ) : Prop :=
  ∃ last, Relation.ReflTransGen (GoesOn job enumerator judge?) session last ∧
    turn job enumerator judge? last = .ended result after

end

namespace DescentAux

open EnumerationAux

section

variable {job : Job σ} {enumerator : Enumerator σ} {judge? : Option (Judge σ)}

/-- A selection that comes to an end gives its result under every limit that is large enough. -/
theorem exists_limit_of_ends {session after : Session σ} {result : Except Failure (Option Run)}
    (h : Ends job enumerator judge? session result after) :
    ∃ enough, ∀ more, (selectRun job enumerator judge? (enough + more)).on session = (result, after) := by
  obtain ⟨last, hreaches, hlast⟩ := h
  induction hreaches using Relation.ReflTransGen.head_induction_on with
  | refl =>
    refine ⟨1, fun more => ?_⟩
    rw [Nat.add_comm, selectRun_succ, hlast]
  | head hstep _ ih =>
    obtain ⟨run, hturn⟩ := hstep
    obtain ⟨enough, henough⟩ := ih
    refine ⟨enough + 1, fun more => ?_⟩
    rw [Nat.add_right_comm, selectRun_succ, hturn]
    exact henough more

/-- A turn makes one offer. -/
theorem offeredRuns_turnEntries (context : Context) (desk : Desk σ) :
    offeredRuns (turnEntries job enumerator judge? context desk) =
      (selected? ((enumerator.next job context).on desk).1).toList := by
  unfold turnEntries
  rcases (enumerator.next job context).on desk with ⟨failure | _ | run, after⟩
  · rfl
  · rfl
  · simp only [verdictEntries]
    split <;> try split
    all_goals rfl

/-- An entry of a turn that is one of an offer has what the enumerator gave. -/
theorem offer_of_mem_turnEntries {context : Context} {desk : Desk σ} {entry : Entry σ}
    (hentry : entry ∈ turnEntries job enumerator judge? context desk) {answer : Except Failure (Option Run)}
    (hanswer : entry.exchange = .offer answer) :
    (enumerator.next job entry.context).on entry.before = (answer, entry.after) := by
  unfold turnEntries at hentry
  rcases hnext : (enumerator.next job context).on desk with ⟨given, after⟩
  rw [hnext] at hentry
  rcases List.mem_cons.mp hentry with rfl | hverdict
  · obtain rfl : given = answer := Exchange.offer.inj hanswer
    exact hnext
  · -- all other entries are answers of the judge
    exfalso
    split at hverdict
    · split at hverdict
      · exact List.not_mem_nil hverdict
      · unfold verdictEntries at hverdict
        split at hverdict
        · rw [List.mem_singleton.mp hverdict] at hanswer
          cases hanswer
        · exact List.not_mem_nil hverdict
    · exact List.not_mem_nil hverdict

/-- An entry of a selection that is one of an offer has what the enumerator gave. -/
theorem offer_of_mem_selectionEntries {limit : Nat} {context : Context} {desk : Desk σ} {entry : Entry σ}
    (hentry : entry ∈ selectionEntries job enumerator judge? limit context desk)
    {answer : Except Failure (Option Run)} (hanswer : entry.exchange = .offer answer) :
    (enumerator.next job entry.context).on entry.before = (answer, entry.after) := by
  induction limit generalizing context desk with
  | zero => exact absurd hentry List.not_mem_nil
  | succ limit ih =>
    rw [selectionEntries_succ, List.mem_append] at hentry
    rcases hentry with hentry | hentry
    · exact offer_of_mem_turnEntries hentry hanswer
    · split at hentry
      · exact absurd hentry List.not_mem_nil
      · exact ih hentry

end

variable {job : Job σ} {status : Status} {judge? : Option (Judge σ)} {context : Context}

/-- A run that a selector of a status offers is one of those of the history that was read for it that are older than the
last candidate. -/
theorem next_byStatus {desk after : Desk σ} {run : Run}
    (h : ((Selector.byStatus status).enumerator.next job context).on desk = (.ok (some run), after)) :
    ∃ history, job.history.on desk = (.ok history, after) ∧ run ∈ olderOf status context.lastCandidate history := by
  rw [next_byStatus_on] at h
  rcases hhistory : job.history.on desk with ⟨failure | history, middle⟩
  · simp [hhistory] at h
  · simp only [hhistory, Prod.mk.injEq, Except.ok.injEq] at h
    obtain ⟨hhead, rfl⟩ := h
    exact ⟨history, rfl, List.mem_of_head? hhead⟩

/-- The runs of a descent are offered from one context to another: they descend from the last candidate, and the last of
them is the last candidate afterwards. -/
structure Descends (context after : Context) (offered : List Run) : Prop where
  chain : (context.lastCandidate.toList ++ offered).IsChain Run.NewerThan
  lastCandidate : after.lastCandidate = offered.getLast?.or context.lastCandidate

theorem descends_nil {after : Context} (h : after.lastCandidate = context.lastCandidate) :
    Descends context after [] where
  chain := by cases context.lastCandidate <;> simp
  lastCandidate := by simpa using h

/-- A run that is older than the last candidate goes before a descent from it. -/
theorem Descends.cons {run : Run} (hnewer : ∀ last ∈ context.lastCandidate, last.NewerThan run) {after : Context}
    {offered : List Run} (h : Descends (context.seeing run) after offered) :
    Descends context after (run :: offered) where
  chain := by
    cases hlast : context.lastCandidate with
    | none => exact h.chain
    | some last => exact List.isChain_cons_cons.mpr ⟨hnewer last hlast, h.chain⟩
  lastCandidate := by
    rw [h.lastCandidate, List.getLast?_cons]
    cases offered.getLast? <;> rfl

/-- Descents that follow one another make one descent. -/
theorem Descends.append {middle after : Context} {offered others : List Run} (h : Descends context middle offered)
    (h' : Descends middle after others) : Descends context after (offered ++ others) where
  chain := by
    rw [← List.append_assoc, List.isChain_append]
    refine ⟨h.chain, (List.isChain_append.mp h'.chain).2.1, fun earlier hearlier later hlater => ?_⟩
    have hlast : middle.lastCandidate = some earlier := by
      rw [h.lastCandidate, ← hearlier, List.getLast?_append]
      cases context.lastCandidate <;> rfl
    have hchain := h'.chain
    rw [hlast] at hchain
    exact (List.isChain_append.mp hchain).2.2 earlier rfl later hlater
  lastCandidate := by
    rw [h'.lastCandidate, h.lastCandidate, List.getLast?_append, Option.or_assoc]

/-- What a selector of a status offers is older than the last candidate, and does not repeat it. -/
theorem newerThan_of_next {desk after : Desk σ} {run : Run}
    (h : ((Selector.byStatus status).enumerator.next job context).on desk = (.ok (some run), after)) :
    (∀ last ∈ context.lastCandidate, last.NewerThan run) ∧ isRepeated context run = false := by
  obtain ⟨history, -, holder⟩ := next_byStatus h
  exact ⟨(mem_olderOf.mp holder).2.1, isRepeated_of_olderOf holder⟩

/-- The candidates of a selection descend. -/
theorem descends_selectionEntries (limit : Nat) (context : Context) (desk : Desk σ) :
    Descends context ((selectRun job (Selector.byStatus status).enumerator judge? limit).on ⟨context, desk⟩).2.context
      (offeredRuns (selectionEntries job (Selector.byStatus status).enumerator judge? limit context desk)) := by
  induction limit generalizing context desk with
  | zero => exact descends_nil rfl
  | succ limit ih =>
    rw [selectRun_succ, selectionEntries_succ, offeredRuns, List.filterMap_append, ← offeredRuns,
      offeredRuns_turnEntries]
    have hcase := turn_case job (Selector.byStatus status).enumerator judge? ⟨context, desk⟩
    generalize turn job (Selector.byStatus status).enumerator judge? ⟨context, desk⟩ = taken at hcase
    cases hcase with
    | offerFailed hnext | exhausted hnext =>
      rw [show ((Selector.byStatus status).enumerator.next job context).on desk = _ from hnext]
      exact descends_nil rfl
    | repeated hnext hagain => exact absurd hagain (by simp [(newerThan_of_next hnext).2])
    | verdictFailed hnext | accepted hnext =>
      rw [show ((Selector.byStatus status).enumerator.next job context).on desk = _ from hnext]
      exact Descends.cons (newerThan_of_next hnext).1 (descends_nil rfl)
    | rejected hnext =>
      rw [show ((Selector.byStatus status).enumerator.next job context).on desk = _ from hnext]
      exact Descends.cons (newerThan_of_next hnext).1 (ih _ _)

/-- The run that is selected is among the candidates. -/
theorem selected_sublist_offeredRuns {enumerator : Enumerator σ} (limit : Nat) (context : Context) (desk : Desk σ) :
    (RunPicker.selected? ((selectRun job enumerator judge? limit).on ⟨context, desk⟩).1).toList.Sublist
      (offeredRuns (selectionEntries job enumerator judge? limit context desk)) := by
  induction limit generalizing context desk with
  | zero => exact List.Sublist.refl _
  | succ limit ih =>
    rw [selectRun_succ, selectionEntries_succ, offeredRuns, List.filterMap_append, ← offeredRuns,
      offeredRuns_turnEntries]
    have hcase := turn_case job enumerator judge? ⟨context, desk⟩
    generalize turn job enumerator judge? ⟨context, desk⟩ = taken at hcase
    cases hcase with
    | offerFailed | exhausted | repeated | verdictFailed => exact List.nil_sublist _
    | accepted hnext =>
      rw [show (enumerator.next job context).on desk = _ from hnext]
      exact List.Sublist.refl _
    | rejected => exact (ih _ _).trans (List.sublist_append_right _ _)

/-- The selections of a sequence are among the candidates, in their order. -/
theorem selections_sublist_offeredRuns (calls : List (SelectionCall σ)) (context : Context) :
    ((selections context calls).map Selected.run).Sublist (offeredRuns (entriesOfCalls context calls)) := by
  induction calls generalizing context with
  | nil => exact List.Sublist.refl _
  | cons call rest ih =>
    rw [selections, List.map_append, entriesOfCalls, offeredRuns, List.filterMap_append]
    have hselected : (call.selected? context).toList.map Selected.run =
        (RunPicker.selected? (call.outcome context).1).toList := by
      rw [SelectionCall.selected?]
      cases RunPicker.selected? (call.outcome context).1 <;> rfl
    rw [hselected]
    exact (selected_sublist_offeredRuns call.limit context call.desk).append (ih _)

section

variable {calls : List (SelectionCall σ)} (hcalls : ∀ call ∈ calls, call.IsByStatus job status)

include hcalls

/-- The candidates of a sequence descend. -/
theorem descends_entriesOfCalls (context : Context) :
    Descends context (contextAfterCalls context calls) (offeredRuns (entriesOfCalls context calls)) := by
  induction calls generalizing context with
  | nil => exact descends_nil rfl
  | cons call rest ih =>
    obtain ⟨rfl, happroach⟩ := hcalls call (List.mem_cons_self ..)
    rw [entriesOfCalls, contextAfterCalls, offeredRuns, List.filterMap_append]
    refine Descends.append ?_ (ih (fun other hother => hcalls other (List.mem_cons_of_mem _ hother)) _)
    rw [SelectionCall.entries, SelectionCall.outcome, happroach, Selector.enumerator_approach]
    exact descends_selectionEntries call.limit context call.desk

/-- Every candidate of a sequence is what the selector of the status gave. -/
theorem next_of_mem_entriesOfCalls {context : Context} {entry : Entry σ} (hentry : entry ∈ entriesOfCalls context calls)
    {run : Run} (hrun : run ∈ entry.offered?) :
    ((Selector.byStatus status).enumerator.next job entry.context).on entry.before = (.ok (some run), entry.after) := by
  induction calls generalizing context with
  | nil => exact absurd hentry List.not_mem_nil
  | cons call rest ih =>
    obtain ⟨rfl, happroach⟩ := hcalls call (List.mem_cons_self ..)
    rw [entriesOfCalls, List.mem_append] at hentry
    rcases hentry with hentry | hentry
    · rw [SelectionCall.entries, happroach, Selector.enumerator_approach] at hentry
      unfold Entry.offered? at hrun
      split at hrun
      · rename_i answer hanswer
        have hnext := offer_of_mem_selectionEntries hentry hanswer
        rw [hnext]
        rcases answer with failure | run?
        · cases hrun
        · obtain rfl : run? = some run := hrun
          rfl
      · cases hrun
    · exact ih (fun other hother => hcalls other (List.mem_cons_of_mem _ hother)) hentry

end

/-- A selection whose last candidate lies fewer than `steps` above a bound of all numbers comes to an end: every turn
that does not end it brings the last candidate nearer to the bound. -/
theorem exists_ends_of_lastCandidate {bound : Int} (steps : Nat) (session : Session σ) (last : Run)
    (hlast : session.context.lastCandidate = some last) (hsteps : (last.number - bound).toNat < steps)
    (bounded : ∀ later, Relation.ReflTransGen (GoesOn job (Selector.byStatus status).enumerator judge?) session later →
      ∀ history, (job.history.on later.desk).1 = .ok history → ∀ run ∈ history, bound ≤ run.number) :
    ∃ result after, Ends job (Selector.byStatus status).enumerator judge? session result after := by
  induction steps generalizing session last with
  | zero => exact absurd hsteps (Nat.not_lt_zero _)
  | succ steps ih =>
    cases hturn : turn job (Selector.byStatus status).enumerator judge? session with
    | ended result after => exact ⟨result, after, session, .refl, hturn⟩
    | rejected run after =>
      obtain ⟨hnext, -, -, hcontext⟩ := turn_rejected_cases hturn
      obtain ⟨history, hhistory, holder⟩ := next_byStatus (Prod.ext hnext rfl)
      obtain ⟨hmem, hnewer, -⟩ := mem_olderOf.mp holder
      have hlower : run.number < last.number := hnewer last hlast
      have hbound : bound ≤ run.number := bounded session .refl history (by rw [hhistory]) run hmem
      obtain ⟨result, finish, final, hreaches, hfinal⟩ := ih after run (by rw [hcontext]; rfl) (by omega)
        fun later hlater => bounded later (.head ⟨run, hturn⟩ hlater)
      exact ⟨result, finish, final, .head ⟨run, hturn⟩ hreaches, hfinal⟩

/-- A selection comes to an end if all numbers have a lower bound. -/
theorem exists_ends_of_bounded {bound : Int} {session : Session σ}
    (bounded : ∀ later, Relation.ReflTransGen (GoesOn job (Selector.byStatus status).enumerator judge?) session later →
      ∀ history, (job.history.on later.desk).1 = .ok history → ∀ run ∈ history, bound ≤ run.number) :
    ∃ result after, Ends job (Selector.byStatus status).enumerator judge? session result after := by
  cases hturn : turn job (Selector.byStatus status).enumerator judge? session with
  | ended result after => exact ⟨result, after, session, .refl, hturn⟩
  | rejected run after =>
    -- the first candidate says how far the bound is
    obtain ⟨-, -, -, hcontext⟩ := turn_rejected_cases hturn
    obtain ⟨result, finish, final, hreaches, hfinal⟩ := exists_ends_of_lastCandidate _ after run
      (by rw [hcontext]; rfl) (Nat.lt_succ_self _) fun later hlater => bounded later (.head ⟨run, hturn⟩ hlater)
    exact ⟨result, finish, final, .head ⟨run, hturn⟩ hreaches, hfinal⟩

instance : IsTrans Run Run.NewerThan := ⟨fun _ _ _ h h' => Int.lt_trans h' h⟩

end DescentAux

open DescentAux EnumerationAux

/-- The selections by a status of any sequence of calls in one context, whatever the history is at each reading:
1. The candidates have descending numbers, the first of them one below that of the last candidate at the start.
2. The runs that are selected are among the candidates, in their order, and none of either comes twice.
3. Each candidate stands in the history that was read for it, has the status, and does not repeat the last one.
4. The next selection comes to an end, and gives its result under every limit that is large enough, if all runs of the
   histories that it reads have numbers of at least some bound. -/
theorem byStatus_descends {job : Job σ} {status : Status} {calls : List (SelectionCall σ)}
    (hcalls : ∀ call ∈ calls, call.IsByStatus job status) (context : Context) :
    (context.lastCandidate.toList ++ offeredRuns (entriesOfCalls context calls)).Pairwise Run.NewerThan ∧
      (((selections context calls).map Selected.run).Sublist (offeredRuns (entriesOfCalls context calls)) ∧
        (offeredRuns (entriesOfCalls context calls)).Nodup ∧ ((selections context calls).map Selected.run).Nodup) ∧
      (∀ entry ∈ entriesOfCalls context calls, ∀ run ∈ entry.offered?,
        (∃ history, job.history.on entry.before = (.ok history, entry.after) ∧ run ∈ history) ∧
          status.covers run = true ∧ isRepeated entry.context run = false) ∧
      ∀ judge? desk (bound : Int),
        (∀ later, Relation.ReflTransGen (GoesOn job (Selector.byStatus status).enumerator judge?)
          ⟨contextAfterCalls context calls, desk⟩ later →
            ∀ history, (job.history.on later.desk).1 = .ok history → ∀ run ∈ history, bound ≤ run.number) →
        ∃ result after, Ends job (Selector.byStatus status).enumerator judge? ⟨contextAfterCalls context calls, desk⟩
            result after ∧
          ∃ enough, ∀ more, (selectRun job (Selector.byStatus status).enumerator judge? (enough + more)).on
            ⟨contextAfterCalls context calls, desk⟩ = (result, after) := by
  have hpairwise : (context.lastCandidate.toList ++ offeredRuns (entriesOfCalls context calls)).Pairwise
      Run.NewerThan := List.isChain_iff_pairwise.mp (descends_entriesOfCalls hcalls context).chain
  have hsublist := selections_sublist_offeredRuns calls context
  have hnodup : (offeredRuns (entriesOfCalls context calls)).Nodup := by
    refine (List.pairwise_append.mp hpairwise).2.1.imp ?_
    rintro run _ h rfl
    exact absurd h (Int.lt_irrefl _)
  refine ⟨hpairwise, ⟨hsublist, hnodup, hnodup.sublist hsublist⟩, fun entry hentry run hrun => ?_, ?_⟩
  · have hnext := next_of_mem_entriesOfCalls hcalls hentry hrun
    obtain ⟨history, hhistory, holder⟩ := next_byStatus hnext
    obtain ⟨hmem, -, hcovers⟩ := mem_olderOf.mp holder
    exact ⟨⟨history, hhistory, hmem⟩, hcovers, isRepeated_of_olderOf holder⟩
  · intro judge? desk bound bounded
    obtain ⟨result, after, hends⟩ := exists_ends_of_bounded bounded
    exact ⟨result, after, hends, exists_limit_of_ends hends⟩

/-- A history that is another one at every reading: in turn runs 1 and 3, and runs 2 and 5. All of its candidates are
rejected, and still they come to an end. -/
theorem byStatus_descends_of_alternating :
    let run (number : Int) : Run := ⟨number, .success, false, .available [], [], Run.defaultName number⟩
    let job : Job Nat := ⟨pure "job", do
      let reading ← Work.host
      Work.onHost (· + 1)
      return if reading % 2 = 0 then [run 1, run 3] else [run 2, run 5]⟩
    let reject : Option (Judge Nat) := some fun _ _ => pure false
    let calls : List (SelectionCall Nat) :=
      [⟨job, (Selector.byStatus .any).approach, reject, ⟨default, 0⟩, 9, Nat.succ_pos _⟩]
    (offeredRuns (entriesOfCalls (.fresh []) calls)).map Run.number = [3, 2, 1] ∧
      (offeredRuns (entriesOfCalls (.fresh []) calls)).Pairwise Run.NewerThan ∧
      ∃ result after, Ends job (Selector.byStatus .any).enumerator reject
        ⟨contextAfterCalls (.fresh []) calls, ⟨default, 0⟩⟩ result after := by
  intro run job reject calls
  have hcalls : ∀ call ∈ calls, call.IsByStatus job .any := by
    intro call hcall
    rw [List.mem_singleton.mp hcall]
    exact ⟨rfl, rfl⟩
  have hbounded : ∀ (desk : Desk Nat) history, (job.history.on desk).1 = .ok history →
      ∀ other ∈ history, 1 ≤ other.number := by
    intro desk history hhistory
    have hread : (job.history.on desk).1 =
        .ok (if desk.host % 2 = 0 then [run 1, run 3] else [run 2, run 5]) := rfl
    rw [hread] at hhistory
    obtain rfl := Except.ok.inj hhistory
    split <;> simp [run]
  obtain ⟨hpairwise, -, -, hends⟩ := byStatus_descends hcalls (.fresh [])
  obtain ⟨result, after, hend, -⟩ := hends reject ⟨default, 0⟩ 1 fun later _ => hbounded later.desk
  refine ⟨?_, (List.pairwise_append.mp hpairwise).2.1, result, after, hend⟩
  · decide +kernel

end RunPicker

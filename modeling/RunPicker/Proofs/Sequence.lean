import RunPicker.Job.InMemory
import RunPicker.Proofs.Journal

/-!
# Sequences of selections

Selections that follow one another in one context, with any jobs, enumerators and judges. The last match is the run that
was selected last (`lastMatch_contextAfterCalls`), so it is never forgotten, and from the first selected run on the
selectors of a specific run offer nothing (`specific_after_match`). Before that, a selector that always locates the same
run is through after two offers (`exists_constantEnd`). `specific_selections` says all of this of any sequence.
-/

namespace RunPicker

variable {σ : Type}

/-- The way in which a call comes to its candidates: by locating a specific run, or in any other way. -/
inductive Approach (σ : Type) where
  | specific (displayName : String) (locate : Job σ → Context → Work σ (Option Run))
  | general (enumerator : Enumerator σ)

namespace Approach

/-- What offers the candidates. -/
def enumerator : Approach σ → Enumerator σ
  | specific displayName locate => .specific displayName locate
  | general enumerator => enumerator

/-- Is it a specific run that is located? -/
def isSpecific : Approach σ → Bool
  | specific .. => true
  | general _ => false

end Approach

/-- The way in which a selector comes to its candidates. The selectors of a number and of a permalink locate a specific
run. -/
def Selector.approach (selector : Selector) : Approach σ :=
  match selector with
  | .byStatus status => .general ⟨selector.displayName, nextOfStatus status⟩
  | .byNumber text => .specific selector.displayName (locateNumber text)
  | .byPermalink permalink => .specific selector.displayName (locatePermalink permalink)

@[simp] theorem Selector.enumerator_approach (selector : Selector) :
    (selector.approach : Approach σ).enumerator = selector.enumerator := by
  cases selector <;> rfl

/-- A call of a sequence: what it goes by, and the desk that it finds, whatever happened to it since the call before. -/
structure SelectionCall (σ : Type) where
  job : Job σ
  approach : Approach σ
  judge? : Option (Judge σ)
  desk : Desk σ
  limit : Nat
  limit_pos : 0 < limit

/-- What a call gives in a context, and the session afterwards. -/
def SelectionCall.outcome (call : SelectionCall σ) (context : Context) : Except Failure (Option Run) × Session σ :=
  (selectRun call.job call.approach.enumerator call.judge? call.limit).on ⟨context, call.desk⟩

/-- A run that was selected, and whether by a selector of a specific run. -/
structure Selected where
  run : Run
  bySpecific : Bool

/-- The run that a call selects in a context, if it selects one. -/
def SelectionCall.selected? (call : SelectionCall σ) (context : Context) : Option Selected :=
  (RunPicker.selected? (call.outcome context).1).map fun run => ⟨run, call.approach.isSpecific⟩

/-- The context after the calls of a sequence. -/
def contextAfterCalls : Context → List (SelectionCall σ) → Context
  | context, [] => context
  | context, call :: rest => contextAfterCalls (call.outcome context).2.context rest

/-- The runs that a sequence selects, in their order. -/
def selections : Context → List (SelectionCall σ) → List Selected
  | _, [] => []
  | context, call :: rest => (call.selected? context).toList ++ selections (call.outcome context).2.context rest

/-- Is the entry one of a question for a candidate? -/
def Entry.isOffer (entry : Entry σ) : Bool :=
  match entry.exchange with
  | .offer _ => true
  | .verdict .. => false

/-- A selection by a selector of a specific run comes to an end, under every limit of at least two candidates, with a
result, a session, and the entries that are made when every call of `locate` and every question to the judge is
entered. -/
structure SpecificEnd (job : Job σ) (displayName : String) (locate : Job σ → Context → Work σ (Option Run))
    (judge? : Option (Judge σ)) (context : Context) (desk : Desk σ) (result : Except Failure (Option Run))
    (after : Session σ) (entries : List (Entry σ)) : Prop where
  outcome : ∀ more,
    (selectRun job (.specific displayName locate) judge? (2 + more)).on ⟨context, desk⟩ = (result, after)
  journaled : ∀ more done, (selectRun job.besideJournal (.specific displayName (journaledOffer job locate))
      (judge?.map Judge.journaled) (2 + more)).on ⟨context, desk.withJournal done⟩ =
    (result, ⟨after.context, after.desk.withJournal (done ++ entries)⟩)

/-- A selection by a selector of a specific run that always gives the same answer comes to an end like this. -/
structure ConstantEnd (job : Job σ) (displayName : String) (locate : Job σ → Context → Work σ (Option Run))
    (judge? : Option (Judge σ)) (answer : Except Failure (Option Run)) (context : Context) (desk : Desk σ)
    (result : Except Failure (Option Run)) (after : Session σ) (entries : List (Entry σ)) : Prop where
  ends : SpecificEnd job displayName locate judge? context desk result after entries
  /-- The run is located at most twice. -/
  offers : entries.countP Entry.isOffer ≤ 2
  /-- The judge is asked at most once. -/
  verdicts : entries.countP (!·.isOffer) ≤ 1
  /-- As long as there is no match, the run is selected if it does not repeat the last candidate and is accepted. -/
  selected : context.lastMatch = none → ∀ run, result = .ok (some run) ↔
    answer = .ok (some run) ∧ isRepeated context run = false ∧
      (verdict judge? run (context.seeing run) ((locate job context).on desk).2).1 = .ok true
  /-- Only a failure of the answer or of the judge is one of the selection. -/
  failed : ∀ failure, result = .error failure → answer = .error failure ∨ ∃ run, answer = .ok (some run) ∧
    (verdict judge? run (context.seeing run) ((locate job context).on desk).2).1 = .error failure

namespace SequenceAux

/-- The last match after a call is the run that it selected, or else the last match before it. -/
theorem lastMatch_outcome (call : SelectionCall σ) (context : Context) :
    (call.outcome context).2.context.lastMatch = ((call.selected? context).map Selected.run).or context.lastMatch := by
  rw [SelectionCall.selected?, Option.map_map, SelectionCall.outcome, lastMatch_selectRun]
  simp [Function.comp_def]

/-- The last match after a sequence is the run that it selected last, or else the last match before it. -/
theorem lastMatch_contextAfterCalls (calls : List (SelectionCall σ)) (context : Context) :
    (contextAfterCalls context calls).lastMatch =
      ((selections context calls).getLast?.map Selected.run).or context.lastMatch := by
  induction calls generalizing context with
  | nil => simp [contextAfterCalls, selections]
  | cons call rest ih =>
    rw [contextAfterCalls, selections, ih, lastMatch_outcome]
    cases call.selected? context with
    | none => simp
    | some selected =>
      cases h : (selections (call.outcome context).2.context rest).getLast? <;> simp [List.getLast?_cons, h]

section

variable {job : Job σ} {judge? : Option (Judge σ)} {displayName : String}
  {locate : Job σ → Context → Work σ (Option Run)} {context : Context}

/-- Once there is a match, a selector of a specific run ends a selection at its first turn and touches nothing. -/
theorem turn_specific_of_match (h : context.lastMatch.isSome = true) (desk : Desk σ) :
    turn job (.specific displayName locate) judge? ⟨context, desk⟩ = .ended (.ok none) ⟨context, desk⟩ := by
  simp [turn, Enumerator.specific, h]

/-- As long as there is no match, a selector of a specific run offers what it locates. -/
theorem turn_specific_of_none (h : context.lastMatch = none) (desk : Desk σ) :
    turn job (.specific displayName locate) judge? ⟨context, desk⟩ =
      turn job ⟨displayName, locate⟩ judge? ⟨context, desk⟩ := by
  simp only [turn, Enumerator.specific, h, Option.isSome_none, Bool.false_eq_true, if_false]
  rfl

/-- As long as there is no match, the entries of a turn are one for the call of `locate`, and the judge's. -/
theorem turn_specific_journaled (h : context.lastMatch = none) (desk : Desk σ) (done : List (Entry σ)) :
    turn job.besideJournal (.specific displayName (journaledOffer job locate)) (judge?.map Judge.journaled)
        ⟨context, desk.withJournal done⟩ =
      (turn job (.specific displayName locate) judge? ⟨context, desk⟩).withJournal
        (done ++ turnEntries job ⟨displayName, locate⟩ judge? context desk) := by
  rw [turn_specific_of_none h, turn_specific_of_none h]
  exact turn_journaled job ⟨displayName, locate⟩ judge? context desk done

/-- A turn makes one entry for an offer, and at most one for the judge. -/
theorem countP_turnEntries (job : Job σ) (enumerator : Enumerator σ) (judge? : Option (Judge σ)) (context : Context)
    (desk : Desk σ) :
    (turnEntries job enumerator judge? context desk).countP Entry.isOffer = 1 ∧
      (turnEntries job enumerator judge? context desk).countP (!·.isOffer) ≤ 1 := by
  unfold turnEntries
  rcases (enumerator.next job context).on desk with ⟨failure | _ | run, after⟩
  · exact ⟨rfl, Nat.zero_le _⟩
  · exact ⟨rfl, Nat.zero_le _⟩
  · simp only [verdictEntries]
    split <;> try split
    all_goals simp [Entry.isOffer, List.countP_cons]

/-- A turn whose candidate repeats the last one makes no entry for the judge. -/
theorem countP_turnEntries_of_repeated {enumerator : Enumerator σ} {desk : Desk σ} {run : Run}
    (hnext : ((enumerator.next job context).on desk).1 = .ok (some run))
    (hrepeated : isRepeated context run = true) :
    (turnEntries job enumerator judge? context desk).countP (!·.isOffer) = 0 := by
  unfold turnEntries
  rcases hanswer : (enumerator.next job context).on desk with ⟨answer, after⟩
  rw [hanswer] at hnext
  obtain rfl : answer = .ok (some run) := hnext
  simp [hrepeated, Entry.isOffer]

variable {desk : Desk σ} {result : Except Failure (Option Run)} {after : Session σ}

/-- A selection that begins with a match. -/
theorem specificEnd_of_match (h : context.lastMatch.isSome = true) :
    SpecificEnd job displayName locate judge? context desk (.ok none) ⟨context, desk⟩ [] where
  outcome more := by
    rw [show 2 + more = more + 1 + 1 by omega, selectRun_succ, turn_specific_of_match h]
  journaled more done := by
    rw [show 2 + more = more + 1 + 1 by omega, selectRun_succ, turn_specific_of_match h, List.append_nil]

/-- A selection that its first turn ends. -/
theorem specificEnd_of_ended (hnone : context.lastMatch = none)
    (h : turn job ⟨displayName, locate⟩ judge? ⟨context, desk⟩ = .ended result after) :
    SpecificEnd job displayName locate judge? context desk result after
      (turnEntries job ⟨displayName, locate⟩ judge? context desk) where
  outcome more := by
    rw [show 2 + more = more + 1 + 1 by omega, selectRun_succ, turn_specific_of_none hnone, h]
  journaled more done := by
    rw [show 2 + more = more + 1 + 1 by omega, selectRun_succ, turn_specific_journaled hnone,
      turn_specific_of_none hnone, h]
    rfl

/-- A selection that its second turn ends, after it rejected a candidate. -/
theorem specificEnd_of_rejected {run : Run} {middle : Desk σ} (hnone : context.lastMatch = none)
    (h : turn job ⟨displayName, locate⟩ judge? ⟨context, desk⟩ = .rejected run ⟨context.seeing run, middle⟩)
    (h' : turn job ⟨displayName, locate⟩ judge? ⟨context.seeing run, middle⟩ = .ended result after) :
    SpecificEnd job displayName locate judge? context desk result after
      (turnEntries job ⟨displayName, locate⟩ judge? context desk ++
        turnEntries job ⟨displayName, locate⟩ judge? (context.seeing run) middle) where
  outcome more := by
    have hnone' : (context.seeing run).lastMatch = none := hnone
    rw [show 2 + more = more + 1 + 1 by omega, selectRun_succ, turn_specific_of_none hnone, h]
    simp only [selectRun_succ]
    rw [turn_specific_of_none hnone', h']
  journaled more done := by
    have hnone' : (context.seeing run).lastMatch = none := hnone
    rw [show 2 + more = more + 1 + 1 by omega, selectRun_succ, turn_specific_journaled hnone,
      turn_specific_of_none hnone, h, ← List.append_assoc]
    simp only [selectRun_succ, Turn.withJournal]
    rw [turn_specific_journaled hnone', turn_specific_of_none hnone', h']
    rfl

end

/-- A selector that always locates the same run, or none, or always fails, ends a selection after at most two calls of
`locate` and one question to the judge. -/
theorem exists_constantEnd {job : Job σ} {locate : Job σ → Context → Work σ (Option Run)}
    {answer : Except Failure (Option Run)} (hsame : ∀ context desk, ((locate job context).on desk).1 = answer)
    (displayName : String) (judge? : Option (Judge σ)) (context : Context) (desk : Desk σ) :
    ∃ result after entries, ConstantEnd job displayName locate judge? answer context desk result after entries := by
  cases hmatch : context.lastMatch with
  | some matched =>
    have hend : SpecificEnd job displayName locate judge? context desk (.ok none) ⟨context, desk⟩ [] :=
      specificEnd_of_match (by rw [hmatch]; rfl)
    exact ⟨.ok none, ⟨context, desk⟩, [], hend, Nat.zero_le _, Nat.zero_le _, by simp [hmatch], by simp⟩
  | none =>
    have hcount := countP_turnEntries job ⟨displayName, locate⟩ judge?
    cases hturn : turn job ⟨displayName, locate⟩ judge? ⟨context, desk⟩ with
    | ended result after =>
      refine ⟨result, after, _, specificEnd_of_ended hmatch hturn, ?_, (hcount context desk).2, fun _ run => ?_, ?_⟩
      · have := (hcount context desk).1
        omega
      · rw [turn_ended_iff hturn, hsame]
      · rintro failure rfl
        rw [← hsame context desk]
        exact turn_error_cases hturn
    | rejected run middle =>
      obtain ⟨hlocated, hfresh, hverdict, hcontext⟩ := turn_rejected_cases hturn
      obtain ⟨_, middle⟩ := middle
      obtain rfl := hcontext
      -- the same run is located again, and that ends the second turn before the judge is asked
      have hagain : ((locate job (context.seeing run)).on middle).1 = .ok (some run) :=
        (hsame _ _).trans ((hsame _ _).symm.trans hlocated)
      have hrepeated : isRepeated (context.seeing run) run = true :=
        isRepeated_iff.mpr ⟨run, rfl, by simp [Run.same]⟩
      have hsecond : turn job ⟨displayName, locate⟩ judge? ⟨context.seeing run, middle⟩ = .ended (.ok none) _ :=
        turn_of_repeated hagain hrepeated
      refine ⟨_, _, _, specificEnd_of_rejected hmatch hturn hsecond, ?_, ?_, fun _ other => ?_, by simp⟩
      · rw [List.countP_append, (hcount _ _).1]
        exact Nat.add_le_add_left (Nat.le_of_eq (hcount _ _).1) 1
      · rw [List.countP_append, countP_turnEntries_of_repeated hagain hrepeated]
        exact (hcount _ _).2
      · simp only [Except.ok.injEq, reduceCtorEq, false_iff, not_and]
        intro hother _ htrue
        obtain rfl : run = other := by
          rw [← hsame context desk, hlocated] at hother
          simpa using hother
        rw [hverdict] at htrue
        simp at htrue

/-- After a match a call by a selector of a specific run gives none and leaves the context and the desk as they are. -/
theorem specific_after_match {call : SelectionCall σ} {context : Context} (hspecific : call.approach.isSpecific = true)
    (h : context.lastMatch.isSome = true) : call.outcome context = (.ok none, ⟨context, call.desk⟩) := by
  obtain ⟨job, approach, judge?, desk, limit, hlimit⟩ := call
  cases approach with
  | general enumerator => cases hspecific
  | specific displayName locate =>
    cases limit with
    | zero => cases hlimit
    | succ limit => simp [SelectionCall.outcome, Approach.enumerator, selectRun_succ, turn_specific_of_match h]

/-- After a match no run is selected by a selector of a specific run. -/
theorem not_bySpecific_of_match (calls : List (SelectionCall σ)) {context : Context}
    (h : context.lastMatch.isSome = true) : ∀ selected ∈ selections context calls, selected.bySpecific = false := by
  induction calls generalizing context with
  | nil => simp [selections]
  | cons call rest ih =>
    intro selected hmem
    rw [selections, List.mem_append] at hmem
    rcases hmem with hmem | hmem
    · cases hspecific : call.approach.isSpecific with
      | true =>
        rw [SelectionCall.selected?, specific_after_match hspecific h] at hmem
        simp [RunPicker.selected?] at hmem
      | false =>
        simp only [SelectionCall.selected?, Option.mem_toList, Option.map_eq_some_iff] at hmem
        obtain ⟨run, -, rfl⟩ := hmem
        exact hspecific
    · refine ih ?_ selected hmem
      rw [lastMatch_outcome]
      simp [h]

/-- Of the runs that a sequence selects, only the first can be one of a selector of a specific run. -/
theorem not_bySpecific_of_tail (calls : List (SelectionCall σ)) (context : Context) :
    ∀ selected ∈ (selections context calls).tail, selected.bySpecific = false := by
  induction calls generalizing context with
  | nil => simp [selections]
  | cons call rest ih =>
    rw [selections]
    cases hselected : call.selected? context with
    | none => exact ih _
    | some first =>
      refine not_bySpecific_of_match rest ?_
      rw [lastMatch_outcome, hselected]
      rfl

end SequenceAux

open SequenceAux

/-- The selections of any sequence of calls in one context:
1. The last match is the run that was selected last, or else the one that there was at the start.
2. Of the runs that were selected, only the first can be one of a selector of a specific run.
3. Once there is a match, a selector of a specific run gives none, asks neither for a run nor for a verdict, and leaves
   the context and the desk as they are.
4. A selector of a specific run that always gives the same answer asks for it at most twice, and for a verdict at most
   once. As long as there is no match, it selects the run if it does not repeat the last candidate and is accepted. -/
theorem specific_selections (context : Context) (calls : List (SelectionCall σ)) :
    (contextAfterCalls context calls).lastMatch =
        ((selections context calls).getLast?.map Selected.run).or context.lastMatch ∧
      (∀ selected ∈ (selections context calls).tail, selected.bySpecific = false) ∧
      (∀ (call : SelectionCall σ) displayName locate, call.approach = .specific displayName locate →
        context.lastMatch.isSome = true ∨ selections context calls ≠ [] →
        call.outcome (contextAfterCalls context calls) = (.ok none, ⟨contextAfterCalls context calls, call.desk⟩) ∧
        SpecificEnd call.job displayName locate call.judge? (contextAfterCalls context calls) call.desk
          (.ok none) ⟨contextAfterCalls context calls, call.desk⟩ []) ∧
      (∀ (job : Job σ) locate answer, (∀ context desk, ((locate job context).on desk).1 = answer) →
        ∀ displayName judge? desk, ∃ result after entries,
          ConstantEnd job displayName locate judge? answer (contextAfterCalls context calls) desk
            result after entries) := by
  refine ⟨lastMatch_contextAfterCalls calls context, not_bySpecific_of_tail calls context, ?_, ?_⟩
  · intro call displayName locate happroach hmatch
    have hsome : (contextAfterCalls context calls).lastMatch.isSome = true := by
      rw [lastMatch_contextAfterCalls]
      rcases hmatch with hmatch | hselected
      · simp [hmatch]
      · simp [List.getLast?_isSome.mpr hselected]
    exact ⟨specific_after_match (by rw [happroach]; rfl) hsome, specificEnd_of_match hsome⟩
  · intro job locate answer hsame displayName judge? desk
    exact exists_constantEnd hsame displayName judge? (contextAfterCalls context calls) desk

/-- Once the newest of two runs was selected, the other is not selected by its number. Before that, the newest is
selected where it is located and a judge accepts it. -/
theorem specific_selections_of_two_runs :
    let run (number : Int) : Run := ⟨number, .success, false, .available [], [], Run.defaultName number⟩
    let desk : Desk Recorded := ⟨default, ⟨"job", [run 1, run 2]⟩⟩
    let call (approach : Approach Recorded) : SelectionCall Recorded :=
      ⟨Recorded.job, approach, none, desk, 1, Nat.one_pos⟩
    let context := contextAfterCalls (.fresh []) [call (Selector.byStatus .any).approach]
    (call (Selector.byNumber "1").approach).outcome context = (.ok none, ⟨context, desk⟩) ∧
      ∃ after entries, SpecificEnd Recorded.job "latest" (fun _ _ => pure (some (run 2)))
        (some fun run _ => pure (run.number == 2)) (.fresh []) desk (.ok (some (run 2))) after entries := by
  intro run desk call context
  refine ⟨?_, ?_⟩
  · have hcalls := specific_selections (.fresh []) [call (Selector.byStatus .any).approach]
    exact (hcalls.2.2.1 (call (Selector.byNumber "1").approach) _ _ rfl (Or.inr (List.cons_ne_nil _ _))).1
  · obtain ⟨result, after, entries, hend⟩ :=
      (specific_selections (.fresh []) []).2.2.2 Recorded.job (fun _ _ => pure (some (run 2))) (.ok (some (run 2)))
        (fun _ _ => rfl) "latest" (some fun run _ => pure (run.number == 2)) desk
    obtain rfl := (hend.selected rfl (run 2)).mpr ⟨rfl, rfl, rfl⟩
    exact ⟨after, entries, hend.ends⟩

end RunPicker

import RunPicker.Job.InMemory
import RunPicker.Proofs.Journal
import RunPicker.Proofs.Verdict

/-!
# Environments that fail

The variables of a run are read anew for every criterion on parameters that is asked, and reading them can fail. An
ordinary failure is absorbed where it comes up: the criterion declines the run, and the filter has the truth that it has
without its criteria on parameters. A cancellation is absorbed nowhere: it is what the filter gives if one of the
conditions that are asked until the filter is decided is on parameters (`RunFilter.asked`), and else it never comes up.
The selection in which the run is judged then fails by it and has accepted nothing (`failing_environments`).
-/

namespace RunPicker

variable {σ α β : Type}

namespace Criterion

/-- Is the criterion one on parameters? -/
def isParameters : Criterion → Bool
  | .parameters _ => true
  | .displayName _ => false

/-- The truth of a criterion on a run whose variables cannot be read: none on parameters is true. -/
def acceptsByName (vars : Environment) (run : Run) : Criterion → Bool
  | .parameters _ => false
  | .displayName name => run.displayName == vars.expand name

end Criterion

namespace RunFilter

mutual

/-- The conditions that are asked, from left to right, until their truth decides the filter. -/
def asked (leaf : α → Bool) : RunFilter α → List α
  | .leaf condition => [condition]
  | .all parts => askedForAll leaf parts
  | .any parts => askedForAny leaf parts
  | .not part => asked leaf part

/-- The conditions that are asked until one of the filters is false. -/
def askedForAll (leaf : α → Bool) : List (RunFilter α) → List α
  | [] => []
  | part :: rest => asked leaf part ++ if truth leaf part then askedForAll leaf rest else []

/-- The conditions that are asked until one of the filters is true. -/
def askedForAny (leaf : α → Bool) : List (RunFilter α) → List α
  | [] => []
  | part :: rest => asked leaf part ++ if truth leaf part then [] else askedForAny leaf rest

end

end RunFilter

/-- The operation has the result on every desk, and leaves the host as it is. -/
def Work.Gives (work : Work σ α) (result : Except Failure α) : Prop :=
  ∀ desk : Desk σ, (work.on desk).1 = result ∧ (work.on desk).2.host = desk.host

/-- The failure if one of the conditions that are asked brings it up, and otherwise the value. -/
def unlessAny (failure : Failure) (fails : α → Bool) (asked : List α) (value : β) : Except Failure β :=
  if asked.any fails then .error failure else .ok value

namespace FailingEnvironmentsAux

open RunFilter

/-! ## Filters -/

/-- Returning a value gives it. -/
theorem gives_pure (value : α) : Work.Gives (pure value : Work σ α) (.ok value) :=
  fun _ => ⟨rfl, rfl⟩

/-- Declining a run answers no. -/
theorem gives_decline (notice : Notice) : Work.Gives (Criterion.decline notice : Work σ Bool) (.ok false) :=
  fun _ => ⟨rfl, rfl⟩

section

variable {failure : Failure} {fails : α → Bool}

/-- What comes after an operation is asked only if nothing that was asked for it failed. -/
theorem gives_bind {work : Work σ β} {next : β → Work σ Bool} {asked asked' : List α} {value : β} {value' : Bool}
    (h : work.Gives (unlessAny failure fails asked value))
    (hnext : (next value).Gives (unlessAny failure fails asked' value')) :
    (work >>= next).Gives (unlessAny failure fails (asked ++ asked') value') := by
  intro desk
  obtain ⟨hresult, hhost⟩ := h desk
  rcases hwork : work.on desk with ⟨result, after⟩
  rw [hwork] at hresult hhost
  obtain rfl := hresult
  rw [Work.on_bind, hwork]
  cases hfails : asked.any fails with
  | true =>
    simp only [unlessAny, hfails, List.any_append, Bool.true_or, if_true]
    exact ⟨trivial, hhost⟩
  | false =>
    obtain ⟨hresult', hhost'⟩ := hnext after
    simp only [unlessAny, hfails, List.any_append, Bool.false_or, Bool.false_eq_true, if_false] at hresult' ⊢
    exact ⟨hresult', hhost'.trans hhost⟩

/-- What asks no condition does not fail. -/
theorem gives_unlessAny_nil {work : Work σ β} {value : β} (h : work.Gives (.ok value)) :
    work.Gives (unlessAny failure fails [] value) :=
  h

variable {judge : α → Work σ Bool} {leaf : α → Bool}

mutual

/-- A filter whose conditions are true, false or fail is true, false or fails by those that are asked. -/
theorem gives_holds (h : ∀ condition, (judge condition).Gives (unlessAny failure fails [condition] (leaf condition))) :
    ∀ filter : RunFilter α,
      (filter.holds judge).Gives (unlessAny failure fails (filter.asked leaf) (filter.truth leaf))
  | .leaf condition => by
    rw [holds, asked, truth]
    exact h condition
  | .all parts => by
    rw [holds, asked, truth]
    exact gives_allHold h parts
  | .any parts => by
    rw [holds, asked, truth]
    exact gives_anyHolds h parts
  | .not part => by
    rw [holds, asked, truth, ← List.append_nil (part.asked leaf)]
    exact gives_bind (gives_holds h part) (gives_unlessAny_nil (gives_pure (!part.truth leaf)))

/-- A conjunction fails if a condition that it asks does, and else has its truth value. -/
theorem gives_allHold
    (h : ∀ condition, (judge condition).Gives (unlessAny failure fails [condition] (leaf condition))) :
    ∀ parts : List (RunFilter α),
      (allHold judge parts).Gives (unlessAny failure fails (askedForAll leaf parts) (allTrue leaf parts))
  | [] => by
    rw [allHold, askedForAll, allTrue]
    exact gives_pure true
  | part :: rest => by
    rw [allHold, askedForAll, allTrue]
    refine gives_bind (gives_holds h part) ?_
    cases part.truth leaf with
    | true => exact gives_allHold h rest
    | false => exact gives_pure false

/-- An alternative fails if a condition that it asks does, and else has its truth value. -/
theorem gives_anyHolds
    (h : ∀ condition, (judge condition).Gives (unlessAny failure fails [condition] (leaf condition))) :
    ∀ parts : List (RunFilter α),
      (anyHolds judge parts).Gives (unlessAny failure fails (askedForAny leaf parts) (anyTrue leaf parts))
  | [] => by
    rw [anyHolds, askedForAny, anyTrue]
    exact gives_pure false
  | part :: rest => by
    rw [anyHolds, askedForAny, anyTrue]
    refine gives_bind (gives_holds h part) ?_
    cases part.truth leaf with
    | true => exact gives_pure true
    | false => exact gives_anyHolds h rest

end

end

/-! ## Criteria -/

/-- A name is compared without the environment of the run. -/
theorem gives_displayName (name : String) (run : Run) (context : Context) :
    (Criterion.judge (.displayName name) run context : Work σ Bool).Gives
      (.ok (run.displayName == context.expand name)) := by
  rw [Criterion.judge]
  cases run.displayName == context.expand name with
  | true => exact gives_pure true
  | false => exact gives_decline _

section

variable {run : Run} {failure : Failure} (hrun : run.environment = .error failure)

include hrun

/-- An ordinary failure is absorbed: the run is declined. -/
theorem gives_parameters_of_ordinary (hordinary : failure.isCancellation = false) (wanted : String)
    (context : Context) : (Criterion.judge (.parameters wanted) run context : Work σ Bool).Gives (.ok false) := by
  have hlookup : run.lookup = .ok (.failed failure) := by simp [Run.lookup, hrun, hordinary]
  rw [Criterion.judge, hlookup]
  exact gives_decline _

/-- A cancellation is passed on. -/
theorem gives_parameters_of_cancellation (hcancels : failure.isCancellation = true) (wanted : String)
    (context : Context) : (Criterion.judge (.parameters wanted) run context : Work σ Bool).Gives (.error failure) := by
  have hlookup : run.lookup = .error failure := by simp [Run.lookup, hrun, hcancels]
  rw [Criterion.judge, hlookup]
  exact fun _ => ⟨rfl, rfl⟩

end

/-! ## Filters of criteria -/

section

variable {run : Run} {failure : Failure} (hrun : run.environment = .error failure)

include hrun

/-- With an ordinary failure the filter answers as if no parameters were as wanted. -/
theorem gives_judge_of_ordinary (hordinary : failure.isCancellation = false) (filter : RunFilter Criterion)
    (context : Context) :
    (filter.judge Criterion.judge run context : Work σ Bool).Gives
      (.ok (filter.truth (Criterion.acceptsByName context.vars run))) := by
  have hnone (asked : List Criterion) (value : Bool) : unlessAny failure (fun _ => false) asked value = .ok value := by
    simp [unlessAny]
  rw [← hnone (filter.asked (Criterion.acceptsByName context.vars run))]
  refine gives_holds (fun criterion => ?_) filter
  rw [hnone]
  cases criterion with
  | parameters wanted => exact gives_parameters_of_ordinary hrun hordinary wanted context
  | displayName name => exact gives_displayName name run context

/-- A cancellation comes out of the filter if it asks for parameters on its way. -/
theorem gives_judge_of_cancellation (hcancels : failure.isCancellation = true) (filter : RunFilter Criterion)
    (context : Context) {leaf : Criterion → Bool}
    (hleaf : ∀ name, leaf (.displayName name) = (run.displayName == context.expand name)) :
    (filter.judge Criterion.judge run context : Work σ Bool).Gives
      (unlessAny failure Criterion.isParameters (filter.asked leaf) (filter.truth leaf)) := by
  refine gives_holds (fun criterion => ?_) filter
  cases criterion with
  | parameters wanted => exact gives_parameters_of_cancellation hrun hcancels wanted context
  | displayName name =>
    have hname := gives_displayName (σ := σ) name run context
    rw [← hleaf name] at hname
    exact hname

end

/-! ## Selections -/

section

variable {job : Job σ} {enumerator : Enumerator σ} {judge : Judge σ} {context : Context} {desk : Desk σ}
  {entry : Entry σ} {run : Run} {answer : Except Failure Bool}

/-- The answer of the judge in a turn is that on the candidate that was offered in it. -/
theorem verdict_of_mem_turnEntries (hentry : entry ∈ turnEntries job enumerator (some judge) context desk)
    (hverdict : entry.exchange = .verdict run answer) :
    ((enumerator.next job context).on desk) = (.ok (some run), entry.before) ∧ isRepeated context run = false ∧
      entry.context = context.seeing run ∧ (judge run entry.context).on entry.before = (answer, entry.after) := by
  rw [turnEntries] at hentry
  rcases hnext : (enumerator.next job context).on desk with ⟨failure | _ | candidate, after⟩ <;>
    simp only [hnext, List.mem_cons, List.not_mem_nil, or_false] at hentry
  · cases hverdict.symm.trans (congrArg Entry.exchange hentry)
  · cases hverdict.symm.trans (congrArg Entry.exchange hentry)
  · rcases hentry with rfl | hentry
    · cases hverdict
    · split at hentry
      · cases hentry
      · rename_i hfresh
        obtain rfl := List.mem_singleton.mp hentry
        cases hverdict
        exact ⟨rfl, Bool.eq_false_iff.mpr hfresh, rfl, rfl⟩

/-- Every answer of the judge that is entered in the journal of a selection is the one that it gave in the context in
which only the candidate was seen. If it failed, so does the selection, and it leaves that context. -/
theorem verdict_of_mem_selectionEntries {limit : Nat}
    (hentry : entry ∈ selectionEntries job enumerator (some judge) limit context desk)
    (hverdict : entry.exchange = .verdict run answer) :
    entry.context = context.seeing run ∧ (judge run entry.context).on entry.before = (answer, entry.after) ∧
      ∀ failure, answer = .error failure → (selectRun job enumerator (some judge) limit).on ⟨context, desk⟩ =
        (.error failure, ⟨context.seeing run, entry.after⟩) := by
  induction limit generalizing context desk with
  | zero => cases hentry
  | succ limit ih =>
    rw [selectRun_succ]
    rw [selectionEntries_succ] at hentry
    rcases List.mem_append.mp hentry with hentry | hentry
    · obtain ⟨hnext, hfresh, hcontext, hanswer⟩ := verdict_of_mem_turnEntries hentry hverdict
      refine ⟨hcontext, hanswer, ?_⟩
      rintro failure rfl
      rw [hcontext] at hanswer
      simp [turn, hnext, hfresh, verdict, hanswer]
    · -- the entries of the rest are those of a selection that begins after the rejected candidate
      have hcase := turn_case job enumerator (some judge) ⟨context, desk⟩
      generalize turn job enumerator (some judge) ⟨context, desk⟩ = taken at hcase hentry
      cases hcase with
      | rejected => exact ih hentry
      | offerFailed | exhausted | repeated | verdictFailed | accepted => cases hentry

end

end FailingEnvironmentsAux

open RunFilter FailingEnvironmentsAux

/-- Asking a filter about a run whose environment fails.
1. A failure that is no cancellation is absorbed. The filter is answered as if its criteria on parameters were false.
2. A cancellation is what the filter gives if a criterion on parameters is asked before the others decide the filter,
and otherwise the filter is answered. What is assumed of the criteria on parameters makes no difference to this.
3. A selection in which such a question is asked fails by the cancellation. It has the last match that it had before,
and the run is its last candidate. -/
theorem failing_environments {run : Run} {failure : Failure} (hrun : run.environment = .error failure)
    (filter : RunFilter Criterion) (context : Context) :
    (failure.isCancellation = false → (filter.judge Criterion.judge run context : Work σ Bool).Gives
      (.ok (filter.truth (Criterion.acceptsByName context.vars run)))) ∧
    (failure.isCancellation = true →
      (∀ leaf : Criterion → Bool, (∀ name, leaf (.displayName name) = (run.displayName == context.expand name)) →
        (filter.judge Criterion.judge run context : Work σ Bool).Gives
          (if (filter.asked leaf).any Criterion.isParameters then .error failure else .ok (filter.truth leaf))) ∧
      ∀ (job : Job σ) (enumerator : Enumerator σ) (limit : Nat) (desk : Desk σ) (entry : Entry σ)
        (answer : Except Failure Bool),
        entry ∈ selectionEntries job enumerator (some (filter.judge Criterion.judge)) limit context desk →
        entry.exchange = .verdict run answer →
        (filter.asked (Criterion.acceptsByName context.vars run)).any Criterion.isParameters = true →
          answer = .error failure ∧
          (selectRun job enumerator (some (filter.judge Criterion.judge)) limit).on ⟨context, desk⟩ =
            (.error failure, ⟨{ context with lastCandidate := some run }, entry.after⟩)) := by
  refine ⟨fun hordinary => gives_judge_of_ordinary hrun hordinary filter context, fun hcancels => ⟨fun leaf hleaf =>
    gives_judge_of_cancellation hrun hcancels filter context hleaf, ?_⟩⟩
  intro job enumerator limit desk entry answer hentry hverdict hasked
  obtain ⟨hcontext, hanswer, hfailed⟩ := verdict_of_mem_selectionEntries hentry hverdict
  have hnames (name : String) : Criterion.acceptsByName context.vars run (.displayName name) =
      (run.displayName == entry.context.expand name) := by
    rw [hcontext]
    rfl
  have hgives := (gives_judge_of_cancellation hrun hcancels filter entry.context hnames entry.before).1
  rw [hanswer, unlessAny, if_pos hasked] at hgives
  exact ⟨hgives, hfailed failure hgives⟩

/-- Reading the environment of the newest run is interrupted inside a negation, and the older run is not offered any
more. The display name of the newest run decides another filter before. -/
theorem failing_environments_of_interruption :
    let interruption := Failure.ofCategory .interruption
    let older : Run := ⟨1, .success, false, .available [], [], "#1"⟩
    let run : Run := ⟨2, .success, false, .failing interruption, [], "#2"⟩
    let filter : RunFilter Criterion :=
      .not (.any [.all [.leaf (.displayName "#1"), .leaf (.parameters "A=2")], .leaf (.parameters "A=1")])
    let other : RunFilter Criterion := .any [.leaf (.displayName "#2"), .leaf (.parameters "A=1")]
    let context := Context.fresh []
    let desk : Desk Recorded := ⟨default, ⟨"job", [older, run]⟩⟩
    run.environment = .error interruption ∧ interruption.isCancellation = true ∧
      ((filter.judge Criterion.judge run context).on desk).1 = .error interruption ∧
      ((other.judge Criterion.judge run context).on desk).1 = .ok true ∧
      ∃ after, (selectRun Recorded.job (Selector.byStatus .any).enumerator (some (filter.judge Criterion.judge)) 3).on
        ⟨context, desk⟩ = (.error interruption, ⟨{ context with lastCandidate := some run }, after⟩) := by
  intro interruption older run filter other context desk
  have hrun : run.environment = .error interruption := rfl
  have hcancels : interruption.isCancellation = true := rfl
  have hreached : (filter.asked (Criterion.acceptsByName [] run)).any Criterion.isParameters = true := by decide +kernel
  have hdecided : (other.asked (Criterion.acceptsByName [] run)).any Criterion.isParameters = false := by decide +kernel
  have htrue : other.truth (Criterion.acceptsByName [] run) = true := by decide +kernel
  obtain ⟨hfilter, hselection⟩ := (@failing_environments Recorded run interruption hrun filter context).2 hcancels
  obtain ⟨hother, -⟩ := (@failing_environments Recorded run interruption hrun other context).2 hcancels
  have hfilter := (hfilter (Criterion.acceptsByName [] run) (fun _ => rfl) desk).1
  have hother := (hother (Criterion.acceptsByName [] run) (fun _ => rfl) desk).1
  rw [if_pos hreached] at hfilter
  rw [hdecided, htrue] at hother
  have hjudged : ∃ entry ∈ selectionEntries Recorded.job (Selector.byStatus .any).enumerator
      (some (filter.judge Criterion.judge)) 3 context desk, ∃ answer, entry.exchange = .verdict run answer := by
    rw [selectionEntries_succ]
    exact ⟨_, List.mem_append_left _ (List.mem_cons_of_mem _ (List.mem_singleton_self _)), _, rfl⟩
  obtain ⟨entry, hentry, answer, hverdict⟩ := hjudged
  exact ⟨hrun, hcancels, hfilter, hother, entry.after, (hselection _ _ 3 desk entry answer hentry hverdict hreached).2⟩

end RunPicker

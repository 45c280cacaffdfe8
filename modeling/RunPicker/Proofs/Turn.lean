import RunPicker.Proofs.Operation

/-!
# Turns of a selection

`turn` is one round of a selection: one candidate is asked for and, unless it repeats the one before it, judged. A
selection goes on turn by turn (`selectRun_succ`) until one of them ends it. What a turn can do is said once, in
`turn_case`.
-/

namespace RunPicker

variable {σ : Type}

/-- What a turn comes to: it ends the selection, or its candidate is rejected and the selection goes on. -/
inductive Turn (σ : Type) where
  | ended (result : Except Failure (Option Run)) (session : Session σ)
  | rejected (run : Run) (session : Session σ)

/-- The answer on a candidate, and the desk afterwards. Without a judge every candidate is accepted. -/
def verdict (judge? : Option (Judge σ)) (run : Run) (context : Context) (desk : Desk σ) :
    Except Failure Bool × Desk σ :=
  match judge? with
  | none => (.ok true, desk)
  | some judge => (judge run context).on desk

/-- The context in which a candidate is judged. -/
def Context.seeing (context : Context) (run : Run) : Context :=
  { context with lastCandidate := some run }

/-- The context after a candidate was accepted. -/
def Context.matching (context : Context) (run : Run) : Context :=
  { context with lastCandidate := some run, lastMatch := some run }

/-- The desk with the notice that a run was offered again. -/
def Desk.noting (desk : Desk σ) (enumerator : Enumerator σ) (run : Run) : Desk σ :=
  { desk with console := desk.console.note (.offeredAgain enumerator.displayName run.displayName) }

/-- The desk with the message that a run was selected. -/
def Desk.reporting (desk : Desk σ) (enumerator : Enumerator σ) (run : Run) : Desk σ :=
  { desk with
    console := desk.console.inform infoLevel (enumerator.displayName ++ ": selected " ++ run.displayName) }

/-- The run that a selection gave, if it gave one. -/
def selected? : Except Failure (Option Run) → Option Run
  | .ok run? => run?
  | .error _ => none

/-- One turn of a selection. -/
def turn (job : Job σ) (enumerator : Enumerator σ) (judge? : Option (Judge σ)) (session : Session σ) : Turn σ :=
  match (enumerator.next job session.context).on session.desk with
  | (.error failure, desk) => .ended (.error failure) ⟨session.context, desk⟩
  | (.ok none, desk) => .ended (.ok none) ⟨session.context, desk⟩
  | (.ok (some run), desk) =>
    if isRepeated session.context run then .ended (.ok none) ⟨session.context, desk.noting enumerator run⟩
    else match verdict judge? run (session.context.seeing run) desk with
      | (.error failure, desk) => .ended (.error failure) ⟨session.context.seeing run, desk⟩
      | (.ok true, desk) => .ended (.ok (some run)) ⟨session.context.matching run, desk.reporting enumerator run⟩
      | (.ok false, desk) => .rejected run ⟨session.context.seeing run, desk⟩

section

variable (job : Job σ) (enumerator : Enumerator σ) (judge? : Option (Judge σ)) (session : Session σ)

/-- The ways in which a turn can go, each with the answers that it got. -/
inductive TurnCase : Turn σ → Prop where
  | offerFailed {failure : Failure} {desk : Desk σ}
      (next : (enumerator.next job session.context).on session.desk = (.error failure, desk)) :
      TurnCase (.ended (.error failure) ⟨session.context, desk⟩)
  | exhausted {desk : Desk σ} (next : (enumerator.next job session.context).on session.desk = (.ok none, desk)) :
      TurnCase (.ended (.ok none) ⟨session.context, desk⟩)
  | repeated {run : Run} {desk : Desk σ}
      (next : (enumerator.next job session.context).on session.desk = (.ok (some run), desk))
      (again : isRepeated session.context run = true) :
      TurnCase (.ended (.ok none) ⟨session.context, desk.noting enumerator run⟩)
  | verdictFailed {run : Run} {desk desk' : Desk σ} {failure : Failure}
      (next : (enumerator.next job session.context).on session.desk = (.ok (some run), desk))
      (fresh : isRepeated session.context run = false)
      (answer : verdict judge? run (session.context.seeing run) desk = (.error failure, desk')) :
      TurnCase (.ended (.error failure) ⟨session.context.seeing run, desk'⟩)
  | accepted {run : Run} {desk desk' : Desk σ}
      (next : (enumerator.next job session.context).on session.desk = (.ok (some run), desk))
      (fresh : isRepeated session.context run = false)
      (answer : verdict judge? run (session.context.seeing run) desk = (.ok true, desk')) :
      TurnCase (.ended (.ok (some run)) ⟨session.context.matching run, desk'.reporting enumerator run⟩)
  | rejected {run : Run} {desk desk' : Desk σ}
      (next : (enumerator.next job session.context).on session.desk = (.ok (some run), desk))
      (fresh : isRepeated session.context run = false)
      (answer : verdict judge? run (session.context.seeing run) desk = (.ok false, desk')) :
      TurnCase (.rejected run ⟨session.context.seeing run, desk'⟩)

/-- Every turn goes in one of these ways. -/
theorem turn_case : TurnCase job enumerator judge? session (turn job enumerator judge? session) := by
  unfold turn
  rcases hnext : (enumerator.next job session.context).on session.desk with ⟨failure | _ | run, desk⟩
  · exact .offerFailed hnext
  · exact .exhausted hnext
  · cases hrepeated : isRepeated session.context run with
    | true =>
      simp only [hrepeated, if_true]
      exact .repeated hnext hrepeated
    | false =>
      simp only [hrepeated, Bool.false_eq_true, if_false]
      rcases hverdict : verdict judge? run (session.context.seeing run) desk with ⟨failure | _ | _, desk'⟩
      · exact .verdictFailed hnext hrepeated hverdict
      · exact .rejected hnext hrepeated hverdict
      · exact .accepted hnext hrepeated hverdict

end

section

variable {job : Job σ} {enumerator : Enumerator σ} {judge? : Option (Judge σ)}

@[simp] theorem isAccepted_on (run : Run) (session : Session σ) :
    (isAccepted judge? run).on session =
      ((verdict judge? run session.context session.desk).1,
        ⟨session.context, (verdict judge? run session.context session.desk).2⟩) := by
  cases judge? <;> rfl

@[simp] theorem accept_on (run : Run) (session : Session σ) :
    (accept enumerator run).on session =
      (.ok (), ⟨{ session.context with lastMatch := some run }, session.desk.reporting enumerator run⟩) := rfl

/-- A candidate is repeated if it is the same as the last one. -/
theorem isRepeated_iff {context : Context} {run : Run} :
    isRepeated context run = true ↔ ∃ last ∈ context.lastCandidate, run.same last = true := by
  cases h : context.lastCandidate <;> simp [isRepeated, h]

theorem isRepeated_eq_false_iff {context : Context} {run : Run} :
    isRepeated context run = false ↔ ∀ last ∈ context.lastCandidate, run.same last = false := by
  cases h : context.lastCandidate <;> simp [isRepeated, h]

@[simp] theorem selectRun_zero (session : Session σ) :
    (selectRun job enumerator judge? 0).on session = (.error .endlessSelection, session) := rfl

/-- A selection is its first turn and, if that does not end it, what is left of it. -/
theorem selectRun_succ (limit : Nat) (session : Session σ) :
    (selectRun job enumerator judge? (limit + 1)).on session =
      match turn job enumerator judge? session with
      | .ended result after => (result, after)
      | .rejected _ after => (selectRun job enumerator judge? limit).on after := by
  simp only [selectRun, turn, Selecting.on_bind, Selecting.on_ofWork]
  rcases (enumerator.next job session.context).on session.desk with ⟨failure | _ | run, desk⟩
  · rfl
  · rfl
  · simp only [Selecting.on_bind, Selecting.on_context]
    split
    · rfl
    · simp only [Selecting.on_bind, Selecting.on_onContext, Context.recordCandidate, isAccepted_on, Context.seeing]
      rcases verdict judge? run _ desk with ⟨failure | _ | _, desk'⟩
      · rfl
      · rfl
      · simp only [if_true, Selecting.on_bind, accept_on, Selecting.on_pure, Context.matching]

/-- A turn that ends a selection gives a run if the run is offered, does not repeat the last one, and is accepted. -/
theorem turn_ended_iff {session after : Session σ} {result : Except Failure (Option Run)}
    (h : turn job enumerator judge? session = .ended result after) (run : Run) :
    result = .ok (some run) ↔
      ((enumerator.next job session.context).on session.desk).1 = .ok (some run) ∧
        isRepeated session.context run = false ∧
        (verdict judge? run (session.context.seeing run)
          ((enumerator.next job session.context).on session.desk).2).1 = .ok true := by
  have hcase := turn_case job enumerator judge? session
  rw [h] at hcase
  cases hcase with
  | offerFailed hnext | exhausted hnext => simp [hnext]
  | repeated hnext hagain =>
    rw [hnext]
    simp only [Except.ok.injEq, reduceCtorEq, Option.some.injEq, false_iff, not_and]
    rintro rfl hfresh
    simp [hagain] at hfresh
  | verdictFailed hnext _ hverdict =>
    rw [hnext]
    simp only [reduceCtorEq, Except.ok.injEq, Option.some.injEq, false_iff, not_and]
    rintro rfl -
    simp [hverdict]
  | accepted hnext hfresh hverdict =>
    rw [hnext]
    simp only [Except.ok.injEq, Option.some.injEq]
    refine ⟨?_, fun hrun => hrun.1⟩
    rintro rfl
    exact ⟨rfl, hfresh, by rw [hverdict]⟩

/-- A turn fails only by a failure of the enumerator or of the judge. -/
theorem turn_error_cases {session after : Session σ} {failure : Failure}
    (h : turn job enumerator judge? session = .ended (.error failure) after) :
    ((enumerator.next job session.context).on session.desk).1 = .error failure ∨
      ∃ run, ((enumerator.next job session.context).on session.desk).1 = .ok (some run) ∧
        (verdict judge? run (session.context.seeing run)
          ((enumerator.next job session.context).on session.desk).2).1 = .error failure := by
  have hcase := turn_case job enumerator judge? session
  rw [h] at hcase
  cases hcase with
  | offerFailed hnext => exact Or.inl (by rw [hnext])
  | verdictFailed hnext _ hverdict => exact Or.inr ⟨_, by rw [hnext], by rw [hnext, hverdict]⟩

/-- A turn that rejects a run notes that it was seen. The run was offered, does not repeat the last one, and was not
accepted. -/
theorem turn_rejected_cases {session after : Session σ} {run : Run}
    (h : turn job enumerator judge? session = .rejected run after) :
    ((enumerator.next job session.context).on session.desk).1 = .ok (some run) ∧
      isRepeated session.context run = false ∧
      (verdict judge? run (session.context.seeing run)
        ((enumerator.next job session.context).on session.desk).2).1 = .ok false ∧
      after.context = session.context.seeing run := by
  have hcase := turn_case job enumerator judge? session
  rw [h] at hcase
  cases hcase with
  | rejected hnext hfresh hverdict => exact ⟨by rw [hnext], hfresh, by rw [hnext, hverdict], rfl⟩

/-- A turn whose candidate repeats the last one ends the selection. -/
theorem turn_of_repeated {session : Session σ} {run : Run}
    (hnext : ((enumerator.next job session.context).on session.desk).1 = .ok (some run))
    (hrepeated : isRepeated session.context run = true) :
    turn job enumerator judge? session = .ended (.ok none) ⟨session.context,
      ((enumerator.next job session.context).on session.desk).2.noting enumerator run⟩ := by
  unfold turn
  rcases hanswer : (enumerator.next job session.context).on session.desk with ⟨answer, desk⟩
  rw [hanswer] at hnext
  obtain rfl : answer = .ok (some run) := hnext
  simp [hrepeated]

/-- The last match after a selection is the run that it gave, or else the last match before it. -/
theorem lastMatch_selectRun (limit : Nat) (session : Session σ) :
    ((selectRun job enumerator judge? limit).on session).2.context.lastMatch =
      (selected? ((selectRun job enumerator judge? limit).on session).1).or session.context.lastMatch := by
  induction limit generalizing session with
  | zero => simp [selected?]
  | succ limit ih =>
    rw [selectRun_succ]
    have hcase := turn_case job enumerator judge? session
    generalize turn job enumerator judge? session = taken at hcase
    cases hcase with
    | offerFailed | exhausted | repeated | verdictFailed | accepted => rfl
    | rejected => exact ih _

end

end RunPicker

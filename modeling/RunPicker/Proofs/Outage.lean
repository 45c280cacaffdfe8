import RunPicker.Proofs.Enumeration
import RunPicker.Proofs.Journal

/-!
# Selections across an outage

The history of a job cannot always be read. `Outage` is a host with a reading to come that fails, and `SteadyJob.job` is
a job on it whose history is the same whenever it can be read. A selection that meets the failure passes it on and
leaves the context as it was when the last candidate was judged. When it is made again in that context, it goes on where
it was: the two together come to what one selection without the failure comes to (`selection_survives_outage`), in
result, context, console, and questions to the judge. `Account` holds all of these.
-/

namespace RunPicker

variable {σ τ α β : Type}

/-! ## Outages -/

/-- How many readings succeed before one fails, if one is to fail, and whatever else there is for judges to look at. -/
structure Outage (τ : Type) where
  ahead? : Option Nat
  rest : τ

/-- A job whose history is always the same. The history may have to be read for the name as well, and a reading that
fails does so by the failure. -/
structure SteadyJob where
  name : String
  history : List Run
  isNameRead : Bool
  failure : Failure

/-- Reads what always reads the same, unless this is the reading that fails. After that one no other fails. -/
def Outage.read (failure : Failure) (value : α) : Work (Outage τ) α := do
  match (← Work.host).ahead? with
  | none => return value
  | some 0 =>
    Work.onHost fun outage => { outage with ahead? := none }
    throw failure
  | some (ahead + 1) =>
    Work.onHost fun outage => { outage with ahead? := some ahead }
    return value

/-- The job of a host on which a reading may fail. -/
def SteadyJob.job (steady : SteadyJob) : Job (Outage τ) where
  name := if steady.isNameRead then Outage.read steady.failure steady.name else return steady.name
  history := Outage.read steady.failure steady.history

/-- The judge beside an outage, at which he does not look. -/
def Judge.besideOutage (judge : Judge τ) : Judge (Outage τ) := fun run context =>
  (judge run context).onPart Outage.rest fun rest outage => { outage with rest }

/-- The desk with an outage to come, or with none. -/
def Desk.facing (ahead? : Option Nat) (desk : Desk τ) : Desk (Outage τ) :=
  ⟨desk.console, ⟨ahead?, desk.host⟩⟩

/-- The session with an outage to come, or with none. -/
def Session.facing (ahead? : Option Nat) (session : Session τ) : Session (Outage τ) :=
  ⟨session.context, session.desk.facing ahead?⟩

/-- The turn with an outage to come after it, or with none. -/
def Turn.facing (ahead? : Option Nat) : Turn τ → Turn (Outage τ)
  | .ended result session => .ended result (session.facing ahead?)
  | .rejected run session => .rejected run (session.facing ahead?)

/-! ## Accounts -/

/-- A question to the judge, with its answer. -/
structure Consultation where
  context : Context
  run : Run
  answer : Except Failure Bool

/-- The question to the judge, if the entry is one of such a question. -/
def Entry.consultation? (entry : Entry σ) : Option Consultation :=
  match entry.exchange with
  | .offer _ => none
  | .verdict run answer => some ⟨entry.context, run, answer⟩

/-- What a selection comes to: its result, the session that it leaves, and its questions to the judge. -/
structure Account (σ : Type) where
  result : Except Failure (Option Run)
  session : Session σ
  consultations : List Consultation

/-- The account of a selection that begins with a session. -/
def accountOf (job : Job σ) (enumerator : Enumerator σ) (judge? : Option (Judge σ)) (limit : Nat)
    (session : Session σ) : Account σ :=
  let outcome := (selectRun job enumerator judge? limit).on session
  ⟨outcome.1, outcome.2,
    (selectionEntries job enumerator judge? limit session.context session.desk).filterMap Entry.consultation?⟩

/-- The account of a selection of the runs of a steady job. -/
def SteadyJob.account (steady : SteadyJob) (selector : Selector) (judge? : Option (Judge τ)) (limit : Nat)
    (session : Session (Outage τ)) : Account (Outage τ) :=
  accountOf steady.job selector.enumerator (judge?.map Judge.besideOutage) limit session

/-- The account of what follows some questions to the judge together with these. -/
def Account.after (earlier : List Consultation) (account : Account σ) : Account σ :=
  { account with consultations := earlier ++ account.consultations }

/-- The context after the last of some candidates was judged. -/
def Context.judging (context : Context) (consultations : List Consultation) : Context :=
  { context with lastCandidate := (consultations.getLast?.map Consultation.run).or context.lastCandidate }

/-! ## Offers -/

/-- The run that a selector offers in a context, of a history that can be read. -/
def Selector.offered? (history : List Run) (context : Context) : Selector → Option Run
  | .byStatus status => (olderOf status context.lastCandidate history).head?
  | .byNumber text =>
    if context.lastMatch.isSome then none
    else (Text.integer? (Text.trim (context.expand text))).bind fun number => ofNumber number history
  | .byPermalink permalink =>
    if context.lastMatch.isSome then none
    else (Permalink.ofId? permalink.id).bind fun named => newestOf named.status history

/-- How many candidates a selector can offer at most before it comes to its end or repeats one. -/
def Selector.prospects (history : List Run) (context : Context) : Selector → Nat
  | .byStatus status => (olderOf status context.lastCandidate history).length
  | selector => if (selector.offered? history context).all (isRepeated context) then 0 else 1

namespace OutageAux

open EnumerationAux

/-- Without an outage the work gives a value and leaves a desk. With one, either it meets the failure and has done
nothing yet, or it gives the value and leaves the desk as well. -/
structure Weathers (failure : Failure) (work : Work (Outage τ) α) (desk : Desk τ) (value : α) (after : Desk τ) :
    Prop where
  calm : work.on (desk.facing none) = (.ok value, after.facing none)
  outage : ∀ ahead, work.on (desk.facing (some ahead)) = (.error failure, desk.facing none) ∨
    ∃ left, work.on (desk.facing (some ahead)) = (.ok value, after.facing (some left))

section

variable {failure : Failure} {desk after : Desk τ}

/-- What asks nothing of the host weathers an outage. -/
theorem weathers_pure (value : α) : Weathers failure (pure value) desk value desk :=
  ⟨rfl, fun ahead => Or.inr ⟨ahead, rfl⟩⟩

/-- A notice is made in an outage as well. -/
theorem weathers_note (notice : Notice) (value : α) :
    Weathers failure (do Work.note notice; return value) desk value
      { desk with console := desk.console.note notice } :=
  ⟨rfl, fun ahead => Or.inr ⟨ahead, rfl⟩⟩

/-- A reading is where an outage is met, and nothing is done before it. -/
theorem weathers_read (value : α) : Weathers failure (Outage.read failure value) desk value desk := by
  refine ⟨rfl, fun ahead => ?_⟩
  cases ahead with
  | zero => exact Or.inl rfl
  | succ ahead => exact Or.inr ⟨ahead, rfl⟩

/-- Readings may go before anything else, since they leave the desk as it is. -/
theorem Weathers.bind {work : Work (Outage τ) α} {next : α → Work (Outage τ) β} {value : α} {result : β}
    (hw : Weathers failure work desk value desk) (hn : Weathers failure (next value) desk result after) :
    Weathers failure (work >>= next) desk result after := by
  refine ⟨?_, fun ahead => ?_⟩
  · rw [Work.on_bind, hw.calm]
    exact hn.calm
  · rw [Work.on_bind]
    rcases hw.outage ahead with hstruck | ⟨left, hpassed⟩
    · rw [hstruck]
      exact Or.inl rfl
    · rw [hpassed]
      exact hn.outage left

end

variable (steady : SteadyJob)

/-- The name of a steady job weathers an outage, whether or not it is read from the host. -/
theorem weathers_name (desk : Desk τ) : Weathers steady.failure steady.job.name desk steady.name desk := by
  unfold SteadyJob.job
  split
  · exact weathers_read _
  · exact weathers_pure _

/-- The history of a steady job weathers an outage. -/
theorem weathers_history (desk : Desk τ) :
    Weathers steady.failure steady.job.history desk steady.history desk :=
  weathers_read _

/-- The next run of a status is found, or the failure is met with nothing done. -/
theorem weathers_byStatus (status : Status) (context : Context) (desk : Desk τ) :
    Weathers steady.failure ((Selector.byStatus status).enumerator.next steady.job context) desk
      (olderOf status context.lastCandidate steady.history).head? desk := by
  have hread := weathers_history steady desk
  refine ⟨?_, fun ahead => ?_⟩
  · rw [next_byStatus_on, hread.calm]
  · rw [next_byStatus_on]
    rcases hread.outage ahead with hstruck | ⟨left, hpassed⟩
    · rw [hstruck]
      exact Or.inl rfl
    · rw [hpassed]
      exact Or.inr ⟨left, rfl⟩

/-- The run with a number is found, or the failure is met with nothing done. -/
theorem weathers_runOfNumber (number : Int) (desk : Desk τ) :
    Weathers steady.failure (steady.job.runOfNumber number) desk (ofNumber number steady.history) desk := by
  unfold Job.runOfNumber
  exact (weathers_history steady desk).bind (weathers_pure _)

/-- The newest run of a status is found, or the failure is met with nothing done. -/
theorem weathers_lastRun (status : Status) (desk : Desk τ) :
    Weathers steady.failure (steady.job.lastRun status) desk (newestOf status steady.history) desk := by
  unfold Job.lastRun
  exact (weathers_history steady desk).bind (weathers_pure _)

/-- That there is no such run is noted after everything was read. -/
theorem exists_weathers_unlocated {ask : Work (Outage τ) α} {answer : α} {desk : Desk τ}
    (hask : Weathers steady.failure ask desk answer desk) (notice : α → Notice) (run? : Option Run) :
    ∃ after, Weathers steady.failure (do
      if run?.isNone then Work.note (notice (← ask))
      return run?) desk run? after := by
  cases run? with
  | none =>
    simp only [Option.isNone_none, if_true]
    exact ⟨_, hask.bind (weathers_note (notice answer) none)⟩
  | some run =>
    simp only [Option.isNone_some, Bool.false_eq_true, if_false]
    exact ⟨desk, weathers_pure (some run)⟩

/-- A run is located by its number, or the failure is met before any notice. -/
theorem exists_weathers_locateNumber (text : String) (context : Context) (desk : Desk τ) :
    ∃ after, Weathers steady.failure (Selector.locateNumber text steady.job context) desk
      ((Text.integer? (Text.trim (context.expand text))).bind fun number => ofNumber number steady.history) after := by
  simp only [Selector.locateNumber]
  cases Text.integer? (Text.trim (context.expand text)) with
  | none => exact ⟨_, weathers_note _ none⟩
  | some number =>
    obtain ⟨after, hnoted⟩ := exists_weathers_unlocated steady (weathers_pure number)
      (.noRunOfNumber (Selector.byNumber text).displayName) (ofNumber number steady.history)
    exact ⟨after, (weathers_runOfNumber steady number desk).bind hnoted⟩

/-- The run of a permalink is looked up, or the failure is met with nothing done. -/
theorem weathers_runOfPermalink (id : String) (desk : Desk τ) :
    Weathers steady.failure (steady.job.runOfPermalink id) desk
      ((Permalink.ofId? id).bind fun named => newestOf named.status steady.history) desk := by
  unfold Job.runOfPermalink
  cases Permalink.ofId? id with
  | none => exact weathers_pure none
  | some named => exact weathers_lastRun steady named.status desk

/-- A run is located by a permalink, or the failure is met before any notice. -/
theorem exists_weathers_locatePermalink (permalink : Permalink) (context : Context) (desk : Desk τ) :
    ∃ after, Weathers steady.failure (Selector.locatePermalink permalink steady.job context) desk
      ((Permalink.ofId? permalink.id).bind fun named => newestOf named.status steady.history) after := by
  obtain ⟨after, hnoted⟩ := exists_weathers_unlocated steady (weathers_name steady desk)
    (.noRunOfPermalink (Selector.byPermalink permalink).displayName)
    ((Permalink.ofId? permalink.id).bind fun named => newestOf named.status steady.history)
  exact ⟨after, (weathers_runOfPermalink steady permalink.id desk).bind hnoted⟩

/-- What a selector offers of the job weathers an outage. -/
theorem exists_weathers_next (selector : Selector) (context : Context) (desk : Desk τ) :
    ∃ after, Weathers steady.failure (selector.enumerator.next steady.job context) desk
      (selector.offered? steady.history context) after := by
  cases selector with
  | byStatus status => exact ⟨desk, weathers_byStatus steady status context desk⟩
  | byNumber text =>
    simp only [Selector.enumerator, Enumerator.specific, Selector.offered?]
    split
    · exact ⟨desk, weathers_pure none⟩
    · exact exists_weathers_locateNumber steady text context desk
  | byPermalink permalink =>
    simp only [Selector.enumerator, Enumerator.specific, Selector.offered?]
    split
    · exact ⟨desk, weathers_pure none⟩
    · exact exists_weathers_locatePermalink steady permalink context desk

/-! ## Turns -/

section

variable (job : Job σ) (enumerator : Enumerator σ) (judge? : Option (Judge σ))

/-- The questions to the judge in a turn. -/
def turnConsultations (session : Session σ) : List Consultation :=
  (turnEntries job enumerator judge? session.context session.desk).filterMap Entry.consultation?

/-- A selection comes to what its first turn comes to and, if that does not end it, what is left of it. -/
theorem accountOf_succ (limit : Nat) (session : Session σ) :
    accountOf job enumerator judge? (limit + 1) session = match turn job enumerator judge? session with
      | .ended result after => ⟨result, after, turnConsultations job enumerator judge? session⟩
      | .rejected _ after =>
        (accountOf job enumerator judge? limit after).after (turnConsultations job enumerator judge? session) := by
  simp only [accountOf, turnConsultations, selectRun_succ, selectionEntries_succ, List.filterMap_append]
  cases turn job enumerator judge? session with
  | ended result after => simp
  | rejected run after => rfl

/-- What a turn comes to when an answer was given. -/
def turnOn (context : Context) : Except Failure (Option Run) × Desk σ → Turn σ
  | (.error failure, desk) => .ended (.error failure) ⟨context, desk⟩
  | (.ok none, desk) => .ended (.ok none) ⟨context, desk⟩
  | (.ok (some run), desk) =>
    if isRepeated context run then .ended (.ok none) ⟨context, desk.noting enumerator run⟩
    else match verdict judge? run (context.seeing run) desk with
      | (.error failure, desk) => .ended (.error failure) ⟨context.seeing run, desk⟩
      | (.ok true, desk) => .ended (.ok (some run)) ⟨context.matching run, desk.reporting enumerator run⟩
      | (.ok false, desk) => .rejected run ⟨context.seeing run, desk⟩

/-- A turn is what becomes of the answer of the enumerator. -/
theorem turn_eq_turnOn (session : Session σ) :
    turn job enumerator judge? session =
      turnOn enumerator judge? session.context ((enumerator.next job session.context).on session.desk) := by
  rw [turn]
  rcases (enumerator.next job session.context).on session.desk with ⟨failure | _ | run, after⟩ <;> rfl

/-- The questions to the judge when an answer was given: there is none on a candidate that repeats the last one. -/
def questionsOn (context : Context) : Except Failure (Option Run) × Desk σ → List Consultation
  | (.ok (some run), desk) =>
    if isRepeated context run = false ∧ judge?.isSome = true then
      [⟨context.seeing run, run, (verdict judge? run (context.seeing run) desk).1⟩]
    else []
  | _ => []

/-- What the judge is asked in a turn follows from the answer of the enumerator. -/
theorem turnConsultations_eq_questionsOn (session : Session σ) :
    turnConsultations job enumerator judge? session =
      questionsOn judge? session.context ((enumerator.next job session.context).on session.desk) := by
  simp only [turnConsultations, turnEntries]
  rcases (enumerator.next job session.context).on session.desk with ⟨failure | _ | run, after⟩
  · rfl
  · rfl
  · simp only [questionsOn]
    cases hrepeated : isRepeated session.context run with
    | true => rfl
    | false => cases judge? <;> rfl

variable {job enumerator judge?}

/-- A rejected candidate is the only one on which the judge is asked in its turn. -/
theorem turnConsultations_of_rejected {session after : Session σ} {run : Run}
    (h : turn job enumerator judge? session = .rejected run after) :
    ∃ consultation, turnConsultations job enumerator judge? session = [consultation] ∧ consultation.run = run := by
  have hcase := turn_case job enumerator judge? session
  rw [h] at hcase
  cases hcase with
  | rejected hnext hfresh hverdict =>
    have hasked : judge?.isSome = true := by
      cases judge? with
      | none => cases hverdict
      | some judge => rfl
    have hquestion := turnConsultations_eq_questionsOn job enumerator judge? session
    rw [hnext] at hquestion
    exact ⟨_, hquestion.trans (if_pos ⟨hfresh, hasked⟩), rfl⟩

end

section

/-- The judge does not notice the outage. -/
theorem verdict_besideOutage (judge? : Option (Judge τ)) (run : Run) (context : Context) (desk : Desk τ)
    (ahead? : Option Nat) :
    verdict (judge?.map Judge.besideOutage) run context (desk.facing ahead?) =
      ((verdict judge? run context desk).1, (verdict judge? run context desk).2.facing ahead?) := by
  cases judge? <;> rfl

/-- Noting a candidate leaves the outage as it is. -/
theorem noting_facing (selector : Selector) (run : Run) (desk : Desk τ) (ahead? : Option Nat) :
    (desk.facing ahead?).noting selector.enumerator run = (desk.noting selector.enumerator run).facing ahead? := by
  cases selector <;> rfl

/-- Reporting a repeated candidate leaves the outage as it is. -/
theorem reporting_facing (selector : Selector) (run : Run) (desk : Desk τ) (ahead? : Option Nat) :
    (desk.facing ahead?).reporting selector.enumerator run =
      (desk.reporting selector.enumerator run).facing ahead? := by
  cases selector <;> rfl

/-- The judge does not look at the outage, and neither does anything else that follows an answer. -/
theorem turnOn_facing (selector : Selector) (judge? : Option (Judge τ)) (context : Context)
    (answer : Except Failure (Option Run)) (desk : Desk τ) (ahead? : Option Nat) :
    turnOn selector.enumerator (judge?.map Judge.besideOutage) context (answer, desk.facing ahead?) =
      (turnOn selector.enumerator judge? context (answer, desk)).facing ahead? := by
  rcases answer with failure | _ | run
  · rfl
  · rfl
  · simp only [turnOn, verdict_besideOutage, noting_facing]
    cases isRepeated context run with
    | true => rfl
    | false =>
      rcases verdict judge? run (context.seeing run) desk with ⟨failure | _ | _, after⟩
      · rfl
      · rfl
      · simp only [reporting_facing]
        rfl

/-- What the judge is asked does not depend on the outage. -/
theorem questionsOn_facing (judge? : Option (Judge τ)) (context : Context) (answer : Except Failure (Option Run))
    (desk : Desk τ) (ahead? : Option Nat) :
    questionsOn (judge?.map Judge.besideOutage) context (answer, desk.facing ahead?) =
      questionsOn judge? context (answer, desk) := by
  rcases answer with failure | _ | run
  · rfl
  · rfl
  · simp only [questionsOn, verdict_besideOutage, Option.isSome_map]

variable (steady : SteadyJob) (selector : Selector) (judge? : Option (Judge τ))

/-- A turn with an outage to come either meets it, and then no candidate was offered yet, or it is the turn without the
outage, with the same questions to the judge. -/
theorem exists_turn_facing (session : Session τ) : ∃ (taken : Turn τ) (asked : List Consultation),
    turn steady.job selector.enumerator (judge?.map Judge.besideOutage) (session.facing none) = taken.facing none ∧
    turnConsultations steady.job selector.enumerator (judge?.map Judge.besideOutage) (session.facing none) = asked ∧
    ∀ ahead : Nat,
      (turn steady.job selector.enumerator (judge?.map Judge.besideOutage) (session.facing (some ahead)) =
          .ended (.error steady.failure) (session.facing none) ∧
        turnConsultations steady.job selector.enumerator (judge?.map Judge.besideOutage)
          (session.facing (some ahead)) = []) ∨
      ∃ left : Nat,
        turn steady.job selector.enumerator (judge?.map Judge.besideOutage) (session.facing (some ahead)) =
          taken.facing (some left) ∧
        turnConsultations steady.job selector.enumerator (judge?.map Judge.besideOutage)
          (session.facing (some ahead)) = asked := by
  obtain ⟨after, hweathers⟩ := exists_weathers_next steady selector session.context session.desk
  simp only [turn_eq_turnOn, turnConsultations_eq_questionsOn, Session.facing, hweathers.calm]
  refine ⟨_, _, turnOn_facing .., questionsOn_facing .., fun ahead => ?_⟩
  rcases hweathers.outage ahead with hstruck | ⟨left, hpassed⟩
  · rw [hstruck]
    exact Or.inl ⟨rfl, rfl⟩
  · rw [hpassed]
    exact Or.inr ⟨left, turnOn_facing .., questionsOn_facing ..⟩

/-! ## Selections -/

/-- Candidates are judged one after the other. -/
theorem judging_cons (context : Context) (first : Consultation) (others : List Consultation) :
    context.judging (first :: others) = (context.seeing first.run).judging others := by
  simp only [Context.judging, Context.seeing, List.getLast?_cons]
  cases others.getLast? <;> rfl

/-- Questions that come before an account are put in front of it in their order. -/
theorem after_after (earlier later : List Consultation) (account : Account σ) :
    (account.after later).after earlier = account.after (earlier ++ later) := by
  simp only [Account.after, List.append_assoc]

/-- A selection with an outage to come either does not meet it, and then it is the one without. Or it meets it after
some of its turns, and then it leaves the session in which the one without goes on after these. -/
theorem account_facing (limit : Nat) (session : Session τ) (ahead : Nat) :
    (∃ (result : Except Failure (Option Run)) (after : Session τ) (consultations : List Consultation) (left : Nat),
      steady.account selector judge? limit (session.facing (some ahead)) =
        ⟨result, after.facing (some left), consultations⟩ ∧
      steady.account selector judge? limit (session.facing none) = ⟨result, after.facing none, consultations⟩) ∨
    ∃ (after : Session τ) (consultations : List Consultation) (used : Nat),
      steady.account selector judge? limit (session.facing (some ahead)) =
        ⟨.error steady.failure, after.facing none, consultations⟩ ∧
      after.context = session.context.judging consultations ∧
      ∀ more, steady.account selector judge? (more + used) (session.facing none) =
        (steady.account selector judge? more (after.facing none)).after consultations := by
  unfold SteadyJob.account
  induction limit generalizing session ahead with
  | zero => exact Or.inl ⟨.error .endlessSelection, session, [], ahead, rfl, rfl⟩
  | succ limit ih =>
    simp only [accountOf_succ]
    obtain ⟨taken, asked, hcalm, hasked, hcases⟩ := exists_turn_facing steady selector judge? session
    rcases hcases ahead with ⟨hturn, hnone⟩ | ⟨left, hturn, hsame⟩
    · rw [hturn, hnone]
      exact Or.inr ⟨session, [], 0, rfl, rfl, fun more => rfl⟩
    · rw [hturn, hcalm, hasked, hsame]
      cases taken with
      | ended result after => exact Or.inl ⟨result, after, _, left, rfl, rfl⟩
      | rejected run after =>
        obtain ⟨consultation, hquestion, hrun⟩ := turnConsultations_of_rejected hcalm
        have hcontext : after.context = session.context.seeing run := (turn_rejected_cases hcalm).2.2.2
        rw [← hasked, hquestion]
        rcases ih after left with ⟨result, last, consultations, rest, hmissed, hwhole⟩ |
          ⟨last, consultations, used, hstruck, hlast, hwhole⟩
        · exact Or.inl ⟨result, last, consultation :: consultations, rest,
            congrArg (Account.after [consultation]) hmissed, congrArg (Account.after [consultation]) hwhole⟩
        · refine Or.inr ⟨last, consultation :: consultations, used + 1,
            congrArg (Account.after [consultation]) hstruck, ?_, fun more => ?_⟩
          · rw [hlast, hcontext, judging_cons, hrun]
          · rw [← Nat.add_assoc, accountOf_succ, hcalm, hquestion]
            exact (congrArg (Account.after [consultation]) (hwhole more)).trans (after_after ..)

/-! ## Limits -/

section

variable {selector : Selector} {history : List Run} {context : Context} {run : Run}

/-- Only runs of the history are offered. -/
theorem mem_of_offered? (h : selector.offered? history context = some run) : run ∈ history := by
  cases selector with
  | byStatus status => exact (mem_olderOf.mp (List.mem_of_mem_head? h)).1
  | byNumber text =>
    simp only [Selector.offered?, Option.ite_none_left_eq_some, Option.bind_eq_some_iff] at h
    obtain ⟨-, number, -, hrun⟩ := h
    exact List.mem_of_find?_eq_some hrun
  | byPermalink permalink =>
    simp only [Selector.offered?, Option.ite_none_left_eq_some, Option.bind_eq_some_iff] at h
    obtain ⟨-, named, -, hrun⟩ := h
    exact List.mem_reverse.mp (List.mem_of_find?_eq_some hrun)

/-- There are no more prospects than there are runs. -/
theorem prospects_le (selector : Selector) (history : List Run) (context : Context) :
    selector.prospects history context ≤ history.length := by
  have hoffered : (if (selector.offered? history context).all (isRepeated context) then 0 else 1) ≤ history.length := by
    cases hrun : selector.offered? history context with
    | none => simp
    | some run =>
      have hlength := List.length_pos_of_mem (mem_of_offered? hrun)
      split <;> omega
  cases selector with
  | byStatus status => exact length_olderOf_le ..
  | byNumber | byPermalink => exact hoffered

/-- After a candidate was rejected, there are fewer prospects. -/
theorem prospects_seeing (h : selector.offered? history context = some run)
    (hfresh : isRepeated context run = false) :
    selector.prospects history (context.seeing run) < selector.prospects history context := by
  have hagain : isRepeated (context.seeing run) run = true := by simp [isRepeated, Context.seeing, Run.same]
  cases selector with
  | byStatus status =>
    have hmem : run ∈ olderOf status context.lastCandidate history := List.mem_of_mem_head? h
    have holder : olderOf status (some run) history = _ := olderOf_of_lt (mem_olderOf.mp hmem).2.1
    simp only [Selector.prospects, Context.seeing, holder]
    exact List.length_filter_lt_length_iff_exists.mpr ⟨run, hmem, by simp⟩
  | byNumber text =>
    -- a selector of one run offers it again
    have hsame : (Selector.byNumber text).offered? history (context.seeing run) = some run := h
    simp [Selector.prospects, h, hfresh, hsame, hagain]
  | byPermalink permalink =>
    have hsame : (Selector.byPermalink permalink).offered? history (context.seeing run) = some run := h
    simp [Selector.prospects, h, hfresh, hsame, hagain]

end

/-- A limit beyond the prospects does not matter. -/
theorem account_settled (limit more : Nat) (session : Session τ)
    (enough : selector.prospects steady.history session.context < limit) :
    steady.account selector judge? (limit + more) (session.facing none) =
      steady.account selector judge? limit (session.facing none) := by
  unfold SteadyJob.account
  induction limit generalizing session with
  | zero => exact absurd enough (Nat.not_lt_zero _)
  | succ limit ih =>
    rw [Nat.succ_add]
    simp only [accountOf_succ]
    obtain ⟨taken, -, hturn, -⟩ := exists_turn_facing steady selector judge? session
    rw [hturn]
    cases taken with
    | ended result after => rfl
    | rejected run after =>
      obtain ⟨hnext, hfresh, -, hcontext⟩ := turn_rejected_cases hturn
      obtain ⟨desk, hweathers⟩ := exists_weathers_next steady selector session.context session.desk
      have hoffered : selector.offered? steady.history session.context = some run := by
        have hcalm := congrArg Prod.fst hweathers.calm
        exact Except.ok.inj (hcalm.symm.trans hnext)
      have hfewer : selector.prospects steady.history after.context < limit := by
        have hafter : after.context = session.context.seeing run := hcontext
        rw [hafter]
        have := prospects_seeing hoffered hfresh
        omega
      exact congrArg (Account.after _) (ih after hfewer)

end

end OutageAux

open OutageAux

/-- A reading of the history may fail in the middle of a selection. Then the selection passes the failure on, the last
match stays, and the last candidate is the last one that was judged. When the selection is made again in the context
and at the desk that it left, the two together are the one selection in which nothing fails: they come to the same
result in the same context, with the same messages, and their questions to the judge are those that it asks. A selection
that ends before the reading that would have failed comes to what the one comes to in which nothing fails. -/
theorem selection_survives_outage (steady : SteadyJob) (selector : Selector) (judge? : Option (Judge τ))
    (context : Context) (desk : Desk τ) (ahead : Nat) {limit : Nat} (enough : steady.history.length < limit) :
    let whole := steady.account selector judge? limit ⟨context, desk.facing none⟩
    let failed := steady.account selector judge? limit ⟨context, desk.facing (some ahead)⟩
    (failed.session.desk.host.ahead? = none →
      failed.result = .error steady.failure ∧
      failed.session.context = context.judging failed.consultations ∧
      (steady.account selector judge? limit failed.session).after failed.consultations = whole) ∧
    (failed.session.desk.host.ahead? ≠ none →
      failed.result = whole.result ∧
      failed.session.context = whole.session.context ∧
      failed.session.desk.console = whole.session.desk.console ∧
      failed.session.desk.host.rest = whole.session.desk.host.rest ∧
      failed.consultations = whole.consultations) := by
  intro whole failed
  have hprospects : selector.prospects steady.history context < limit :=
    Nat.lt_of_le_of_lt (prospects_le ..) enough
  rcases account_facing steady selector judge? limit ⟨context, desk⟩ ahead with
    ⟨result, after, consultations, left, hfailed, hwhole⟩ | ⟨after, consultations, used, hfailed, hcontext, hwhole⟩
  · have hfailed : failed = _ := hfailed
    have hwhole : whole = _ := hwhole
    rw [hfailed, hwhole]
    exact ⟨nofun, fun _ => ⟨rfl, rfl, rfl, rfl, rfl⟩⟩
  · have hfailed : failed = _ := hfailed
    have hsettled := account_settled steady selector judge? limit used ⟨context, desk⟩ hprospects
    rw [hfailed]
    refine ⟨fun _ => ⟨rfl, hcontext, ?_⟩, fun hne => absurd rfl hne⟩
    exact (hwhole limit).symm.trans hsettled

/-- The last run is rejected, and the second lookup, which would find it again, fails. Made again, the selection only
finds it again, and the judge is not asked any more. -/
theorem selection_survives_outage_of_rejected :
    let run (number : Int) : Run := ⟨number, .success, false, .available [], [], Run.defaultName number⟩
    let steady : SteadyJob := ⟨"job", [run 1, run 2], false, .ofCategory .system⟩
    let judge : Judge (List Int) := fun run _ => do
      Work.onHost fun asked => asked ++ [run.number]
      return false
    let selector := Selector.byPermalink ⟨"lastRun", .any⟩
    let whole := steady.account selector (some judge) 3 ⟨.fresh [], ⟨default, ⟨none, []⟩⟩⟩
    let failed := steady.account selector (some judge) 3 ⟨.fresh [], ⟨default, ⟨some 1, []⟩⟩⟩
    whole.session.desk.host.rest = [2] ∧
      failed.result = .error (.ofCategory .system) ∧
      failed.session.context = (Context.fresh []).seeing (run 2) ∧
      (steady.account selector (some judge) 3 failed.session).after failed.consultations = whole := by
  intro run steady judge selector whole failed
  have hstruck : failed.session.desk.host.ahead? = none := by decide +kernel
  have hlast : failed.consultations.getLast?.map Consultation.run = some (run 2) := rfl
  have hcontext : (Context.fresh []).judging failed.consultations = (Context.fresh []).seeing (run 2) := by
    rw [Context.judging, hlast]
    rfl
  have hrest : whole.session.desk.host.rest = [2] := by decide +kernel
  obtain ⟨hresult, hleft, hagain⟩ := (selection_survives_outage steady selector (some judge) (.fresh [])
    ⟨default, []⟩ 1 (Nat.lt_succ_self 2)).1 hstruck
  exact ⟨hrest, hresult, hleft.trans hcontext, hagain⟩

end RunPicker

import RunPicker.Job.Stored
import RunPicker.Proofs.Course
import RunPicker.Proofs.Descent
import RunPicker.Proofs.FailingEnvironments
import RunPicker.Proofs.ParametersVerdict

/-!
# Notices on declined runs

A chain of criteria (`IsChain`) tells in one notice why it declines a run, by the first criterion that rejects it
(`Refuses`), and tells nothing when it accepts one. A whole selection therefore tells one such notice for each run that
is declined, in the order of the offers (`refusals_of_selection`). Other notices come from the selector and from the
repetition of a candidate. A job that tells none on declined runs itself is discreet, as are those in memory and in
files.
-/

namespace RunPicker

variable {σ τ α β : Type}

/-- Is the notice one that a run is declined with? -/
def Notice.isRefusal : Notice → Bool
  | declined .. | unreadable .. => true
  | notANumber .. | noRunOfNumber .. | noRunOfPermalink .. | offeredAgain .. | message _ => false

/-- The gathered notices that runs were declined with. -/
def Console.refusals (console : Console) : List Notice :=
  console.notices.filter Notice.isRefusal

/-- The desk with a notice taken. -/
def Desk.noticing (desk : Desk σ) (notice : Notice) : Desk σ :=
  { desk with console := desk.console.note notice }

/-- The run that was declined, if the exchange is such an answer. -/
def Exchange.declined? : Exchange → Option Run
  | verdict run (.ok false) => some run
  | _ => none

/-- The runs that were declined, in their order. -/
def declinedRuns (entries : List (Entry σ)) : List Run :=
  entries.filterMap fun entry => entry.exchange.declined?

/-- The notice that a criterion declines a run with. -/
def Criterion.refusal (criterion : Criterion) (run : Run) : Notice :=
  match criterion with
  | .parameters _ => run.refusal criterion.title
  | .displayName _ => .declined criterion.title run.displayName

/-- The notice is the one of the first criterion in a row that rejects a run. -/
inductive Refuses (vars : Environment) (run : Run) : List Criterion → Notice → Prop where
  | first {criterion : Criterion} {rest : List Criterion} (rejects : criterion.accepts vars run = false) :
      Refuses vars run (criterion :: rest) (criterion.refusal run)
  | later {criterion : Criterion} {rest : List Criterion} {notice : Notice}
      (accepts : criterion.accepts vars run = true) (refuses : Refuses vars run rest notice) :
      Refuses vars run (criterion :: rest) notice

/-- The filter joins the conditions with nothing but conjunctions, in this order. -/
inductive RunFilter.IsChain : RunFilter α → List α → Prop where
  | leaf (condition : α) : IsChain (.leaf condition) [condition]
  | empty : IsChain (.all []) []
  | joined {part : RunFilter α} {parts : List (RunFilter α)} {front back : List α} (head : IsChain part front)
      (tail : IsChain (.all parts) back) : IsChain (.all (part :: parts)) (front ++ back)

/-- The answers of the judge are told by the criteria: in the notice of the first one that rejects the run if it is
declined, and not at all otherwise. -/
def Tells (judge? : Option (Judge σ)) (criteria : List Criterion) : Prop :=
  ∀ run context, ∀ desk : Desk σ, ∀ answer after, verdict judge? run context desk = (answer, after) →
    (answer = .ok false ∧ ∃ notice, Refuses context.vars run criteria notice ∧ after = desk.noticing notice) ∨
      (answer ≠ .ok false ∧ after = desk)

/-- The operation leaves the kind of the console and the notices on declined runs as they are. -/
def Work.Discreet (work : Work σ α) : Prop :=
  ∀ desk : Desk σ, (work.on desk).2.console.sink = desk.console.sink ∧
    (work.on desk).2.console.refusals = desk.console.refusals

/-- The name and the history of a job are read discreetly. -/
structure Job.Discreet (job : Job σ) : Prop where
  name : job.name.Discreet
  history : job.history.Discreet

/-- Operations that are discreet one by one are so one after the other. -/
theorem Work.Discreet.bind {work : Work σ α} {next : α → Work σ β} (hw : work.Discreet)
    (hn : ∀ value, (next value).Discreet) : (work >>= next).Discreet := by
  intro desk
  have hdesk := hw desk
  rw [Work.on_bind]
  rcases hwork : work.on desk with ⟨failure | value, after⟩
  · rw [hwork] at hdesk
    exact hdesk
  · rw [hwork] at hdesk
    have hafter := hn value after
    exact ⟨hafter.1.trans hdesk.1, hafter.2.trans hdesk.2⟩

namespace RefusalsAux

open FailingEnvironmentsAux ParametersVerdictAux DescentAux

/-! ## Discreet work -/

/-- Returning a result or failing with one is discreet. -/
theorem discreet_ofExcept (result : Except Failure α) : (Work.ofExcept result : Work σ α).Discreet :=
  fun _ => ⟨rfl, rfl⟩

/-- Returning a value is discreet. -/
theorem discreet_pure (value : α) : (pure value : Work σ α).Discreet :=
  discreet_ofExcept (.ok value)

/-- Looking at the host is discreet. -/
theorem discreet_host : (Work.host : Work σ σ).Discreet :=
  fun _ => ⟨rfl, rfl⟩

/-- Changing the host is discreet. -/
theorem discreet_onHost (change : σ → σ) : (Work.onHost change).Discreet :=
  fun _ => ⟨rfl, rfl⟩

/-- What changes neither the kind of the console nor the notices is discreet. -/
theorem discreet_onConsole {change : Console → Console}
    (h : ∀ console, (change console).sink = console.sink ∧ (change console).notices = console.notices) :
    (Work.onConsole change : Work σ Unit).Discreet := by
  intro desk
  obtain ⟨hsink, hnotices⟩ := h desk.console
  exact ⟨hsink, congrArg (List.filter Notice.isRefusal) hnotices⟩

/-- An information does not change where notices go, and makes none. -/
theorem inform_keeps (verbosity : Int) (text : String) (console : Console) :
    (console.inform verbosity text).sink = console.sink ∧ (console.inform verbosity text).notices = console.notices := by
  unfold Console.inform
  split <;> exact ⟨rfl, rfl⟩

/-- A warning does not change where notices go, and makes none. -/
theorem warn_keeps (text ending : String) (console : Console) :
    (console.warn text ending).sink = console.sink ∧ (console.warn text ending).notices = console.notices := by
  unfold Console.warn
  split <;> exact ⟨rfl, rfl⟩

/-- A console that prints its notices prints them as its debugging messages. -/
theorem note_of_printed {console : Console} (h : console.sink = .printed) (notice : Notice) :
    console.note notice = console.debug notice.text := by
  rw [Console.note, h]

/-- A console that gathers its notices puts a notice behind those that it has. -/
theorem note_of_gathered {console : Console} (h : console.sink = .gathered) (notice : Notice) :
    console.note notice = { console with notices := console.notices ++ [notice] } := by
  rw [Console.note, h]

/-- A notice that is not on a declined run is discreet. -/
theorem discreet_note {notice : Notice} (h : notice.isRefusal = false) : (Work.note notice : Work σ Unit).Discreet := by
  intro desk
  rw [Work.note, Work.on_onConsole]
  cases hsink : desk.console.sink with
  | printed =>
    simp only [note_of_printed hsink]
    obtain ⟨hkind, hnotices⟩ := inform_keeps debugLevel _ desk.console
    exact ⟨hkind.trans hsink, congrArg (List.filter Notice.isRefusal) hnotices⟩
  | gathered =>
    simp only [note_of_gathered hsink, Console.refusals, List.filter_append, List.filter_cons_of_neg
      (Bool.eq_false_iff.mp h), List.filter_nil, List.append_nil, and_true]
    exact hsink

/-- A notice on a declined run is gathered behind those before it. -/
theorem refusals_noticing {desk : Desk σ} {notice : Notice} (h : desk.console.sink = .gathered)
    (hrefusal : notice.isRefusal = true) : (desk.noticing notice).console.sink = .gathered ∧
      (desk.noticing notice).console.refusals = desk.console.refusals ++ [notice] := by
  simp only [Desk.noticing, note_of_gathered h, Console.refusals, List.filter_append, List.filter_cons_of_pos hrefusal,
    List.filter_nil, and_true]
  exact h

/-! ## Selectors -/

section

variable {job : Job σ} (hjob : job.Discreet)

include hjob

/-- Looking for the next run of a status declines nothing. -/
theorem discreet_nextOfStatus (status : Status) (context : Context) :
    (Selector.nextOfStatus status job context).Discreet := by
  unfold Selector.nextOfStatus
  cases context.lastCandidate with
  | none => exact (hjob.history.bind fun _ => discreet_pure _).bind fun _ => discreet_pure _
  | some candidate => exact (hjob.history.bind fun _ => discreet_pure _).bind fun _ => discreet_pure _

/-- Locating a run by its number declines nothing. -/
theorem discreet_locateNumber (text : String) (context : Context) :
    (Selector.locateNumber text job context).Discreet := by
  simp only [Selector.locateNumber]
  cases Text.integer? (Text.trim (context.expand text)) with
  | none => exact (discreet_note rfl).bind fun _ => discreet_pure none
  | some number =>
    refine Work.Discreet.bind (hjob.history.bind fun _ => discreet_pure _) fun run => ?_
    cases run with
    | none => exact (discreet_note rfl).bind fun _ => discreet_pure none
    | some run => exact discreet_pure (some run)

/-- Locating a run by a permalink declines nothing. -/
theorem discreet_locatePermalink (permalink : Permalink) (context : Context) :
    (Selector.locatePermalink permalink job context).Discreet := by
  unfold Selector.locatePermalink Job.runOfPermalink
  refine Work.Discreet.bind ?_ fun run => ?_
  · cases Permalink.ofId? permalink.id with
    | none => exact discreet_pure none
    | some named => exact hjob.history.bind fun _ => discreet_pure _
  · cases run with
    | none => exact hjob.name.bind fun _ => (discreet_note rfl).bind fun _ => discreet_pure none
    | some run => exact discreet_pure (some run)

/-- No selector tells anything on declined runs. -/
theorem discreet_next (selector : Selector) (context : Context) : (selector.enumerator.next job context).Discreet := by
  cases selector with
  | byStatus status => exact discreet_nextOfStatus hjob status context
  | byNumber text =>
    simp only [Selector.enumerator, Enumerator.specific]
    split
    · exact discreet_pure none
    · exact discreet_locateNumber hjob text context
  | byPermalink permalink =>
    simp only [Selector.enumerator, Enumerator.specific]
    split
    · exact discreet_pure none
    · exact discreet_locatePermalink hjob permalink context

end

/-! ## Chains of criteria -/

section

variable {criterion : Criterion} {criteria : List Criterion} {run : Run} {context : Context} {desk : Desk σ}

/-- The notice by which a criterion declines is a refusal. -/
theorem isRefusal_refusal (criterion : Criterion) (run : Run) : (criterion.refusal run).isRefusal = true := by
  cases criterion with
  | parameters wanted =>
    rw [Criterion.refusal, Run.refusal]
    split <;> rfl
  | displayName name => rfl

/-- A chain declines with a refusal. -/
theorem isRefusal_of_refuses {vars : Environment} {notice : Notice} (h : Refuses vars run criteria notice) :
    notice.isRefusal = true := by
  induction h with
  | first => exact isRefusal_refusal _ run
  | later _ _ ih => exact ih

/-- What the front of a chain declines the chain declines. -/
theorem refuses_append {vars : Environment} {front : List Criterion} {notice : Notice}
    (h : Refuses vars run front notice) (back : List Criterion) : Refuses vars run (front ++ back) notice := by
  induction h with
  | first rejects => exact .first rejects
  | later accepts _ ih => exact .later accepts ih

/-- What the front of a chain accepts is left to the rest. -/
theorem refuses_append_of_accepts {vars : Environment} {front back : List Criterion} {notice : Notice}
    (accepts : ∀ criterion ∈ front, criterion.accepts vars run = true) (h : Refuses vars run back notice) :
    Refuses vars run (front ++ back) notice := by
  induction front with
  | nil => exact h
  | cons criterion front ih =>
    obtain ⟨hcriterion, hfront⟩ := List.forall_mem_cons.mp accepts
    exact .later hcriterion (ih hfront)

/-- A criterion is asked about a run: it accepts the run and tells nothing, or it rejects it with its notice, or it
fails and tells nothing. -/
theorem criterion_cases (criterion : Criterion) (run : Run) (context : Context) (desk : Desk σ) :
    (criterion.accepts context.vars run = true ∧ (criterion.judge run context).on desk = (.ok true, desk)) ∨
      (criterion.accepts context.vars run = false ∧
        (criterion.judge run context).on desk = (.ok false, desk.noticing (criterion.refusal run))) ∨
      ∃ failure, (criterion.judge run context).on desk = (.error failure, desk) := by
  cases criterion with
  | parameters wanted =>
    rw [judge_parameters_on]
    simp only [Criterion.accepts, Criterion.refusal]
    cases hlookup : run.lookup with
    | error failure => exact .inr (.inr ⟨failure, rfl⟩)
    | ok answer =>
      cases answer with
      | failed failure =>
        refine .inr (.inl ⟨rfl, ?_⟩)
        rw [Run.refusal, environment_of_lookup_failed hlookup]
        rfl
      | found vars =>
        obtain ⟨own, hown⟩ := run.exists_lookup.mp ⟨vars, hlookup⟩
        dsimp only
        cases hsatisfied : Criterion.satisfies vars (wantedPairs (context.vars.expand wanted)) with
        | true => exact .inl ⟨rfl, if_pos hsatisfied⟩
        | false =>
          refine .inr (.inl ⟨rfl, (if_neg (Bool.eq_false_iff.mp hsatisfied)).trans ?_⟩)
          rw [Run.refusal, hown]
          rfl
  | displayName name =>
    have haccepts : (Criterion.displayName name).accepts context.vars run = (run.displayName == context.expand name) :=
      rfl
    rw [haccepts]
    simp only [Criterion.judge, Criterion.refusal]
    by_cases hname : (run.displayName == context.expand name) = true
    · rw [if_pos hname]
      exact .inl ⟨hname, rfl⟩
    · rw [if_neg hname]
      exact .inr (.inl ⟨Bool.eq_false_iff.mpr hname, rfl⟩)

/-- So is a chain: all of its criteria accept the run, or the first one that rejects the run tells it, or one fails. -/
theorem chain_cases_on {filter : RunFilter Criterion} (chained : filter.IsChain criteria) (run : Run)
    (context : Context) (desk : Desk σ) :
    let answered := (filter.holds fun criterion => (criterion.judge run context : Work σ Bool)).on desk
    ((∀ criterion ∈ criteria, criterion.accepts context.vars run = true) ∧ answered = (.ok true, desk)) ∨
      (∃ notice, Refuses context.vars run criteria notice ∧ answered = (.ok false, desk.noticing notice)) ∨
      ∃ failure, answered = (.error failure, desk) := by
  induction chained with
  | leaf criterion =>
    simp only [RunFilter.holds]
    rcases criterion_cases criterion run context desk with ⟨haccepts, hon⟩ | ⟨hrejects, hon⟩ | hfailed
    · exact .inl ⟨List.forall_mem_singleton.mpr haccepts, hon⟩
    · exact .inr (.inl ⟨criterion.refusal run, .first hrejects, hon⟩)
    · exact .inr (.inr hfailed)
  | empty =>
    rw [RunFilter.holds, RunFilter.allHold]
    exact .inl ⟨List.forall_mem_nil _, rfl⟩
  | @joined part parts front back _ _ ihpart ihparts =>
    -- the parts behind the first are asked at the same desk, since a part that holds tells nothing
    rw [RunFilter.holds] at ihparts
    rw [RunFilter.holds, RunFilter.allHold, Work.on_bind]
    rcases ihpart with ⟨hfront, hon⟩ | ⟨notice, hrefuses, hon⟩ | ⟨failure, hon⟩
    · rw [hon]
      simp only [if_true]
      rcases ihparts with ⟨hback, hok⟩ | ⟨notice, hrefuses, hdeclined⟩ | hfailed
      · exact .inl ⟨List.forall_mem_append.mpr ⟨hfront, hback⟩, hok⟩
      · exact .inr (.inl ⟨notice, refuses_append_of_accepts hfront hrefuses, hdeclined⟩)
      · exact .inr (.inr hfailed)
    · rw [hon]
      exact .inr (.inl ⟨notice, refuses_append hrefuses back, rfl⟩)
    · rw [hon]
      exact .inr (.inr ⟨failure, rfl⟩)

/-- A chain tells what it declines, and so does no filter, which declines nothing. -/
theorem tells_of_chain {filter? : Option (RunFilter Criterion)}
    (chained : ∀ filter ∈ filter?, filter.IsChain criteria) :
    Tells (filter?.map fun filter => (filter.judge Criterion.judge : Judge σ)) criteria := by
  rintro run context desk answer after hanswer
  cases filter? with
  | none =>
    obtain ⟨rfl, rfl⟩ := Prod.mk.inj hanswer
    exact .inr ⟨by simp, rfl⟩
  | some filter =>
    rw [Option.map_some, verdict, RunFilter.judge] at hanswer
    rcases chain_cases_on (chained filter rfl) run context desk with ⟨-, hon⟩ | ⟨notice, hrefuses, hon⟩ | ⟨failure, hon⟩
    · obtain ⟨rfl, rfl⟩ := Prod.mk.inj (hanswer.symm.trans hon)
      exact .inr ⟨by simp, rfl⟩
    · obtain ⟨rfl, rfl⟩ := Prod.mk.inj (hanswer.symm.trans hon)
      exact .inl ⟨rfl, notice, hrefuses, rfl⟩
    · obtain ⟨rfl, rfl⟩ := Prod.mk.inj (hanswer.symm.trans hon)
      exact .inr ⟨by simp, rfl⟩

end

/-! ## Selections -/

section

variable {job : Job σ} {enumerator : Enumerator σ} {judge? : Option (Judge σ)} {criteria : List Criterion}
  {context : Context} {desk : Desk σ}

/-- Without a judge there are no answers on candidates. -/
theorem not_verdict_of_none {limit : Nat} {entry : Entry σ} {run : Run} {answer : Except Failure Bool}
    (hentry : entry ∈ selectionEntries job enumerator none limit context desk) :
    entry.exchange ≠ .verdict run answer := by
  induction limit generalizing context desk with
  | zero => exact absurd hentry List.not_mem_nil
  | succ limit ih =>
    rw [selectionEntries_succ] at hentry
    rcases List.mem_append.mp hentry with hentry | hentry
    · rw [turnEntries] at hentry
      rcases List.mem_cons.mp hentry with rfl | hentry
      · exact fun h => by cases h
      · split at hentry <;> simp [verdictEntries] at hentry
    · split at hentry
      · exact absurd hentry List.not_mem_nil
      · exact ih hentry

/-- A turn declines the candidate that is rejected in it, and no other. -/
theorem declinedRuns_turnEntries (context : Context) (desk : Desk σ) :
    declinedRuns (turnEntries job enumerator judge? context desk) =
      match turn job enumerator judge? ⟨context, desk⟩ with
      | .rejected run _ => [run]
      | .ended .. => [] := by
  have hcase := turn_case job enumerator judge? ⟨context, desk⟩
  generalize turn job enumerator judge? ⟨context, desk⟩ = taken at hcase ⊢
  cases hcase with
  | offerFailed hnext | exhausted hnext => simp [declinedRuns, turnEntries, hnext, Exchange.declined?]
  | repeated hnext hagain => simp [declinedRuns, turnEntries, hnext, hagain, Exchange.declined?]
  | verdictFailed hnext hfresh hverdict | accepted hnext hfresh hverdict =>
    simp [declinedRuns, turnEntries, verdictEntries, hnext, hfresh, hverdict, Exchange.declined?]
  | rejected hnext hfresh hverdict =>
    have hjudge := CourseAux.isSome_of_verdict hverdict (by simp)
    simp [declinedRuns, turnEntries, verdictEntries, hnext, hfresh, hverdict, hjudge, Exchange.declined?]

/-- What a turn does to the gathered notices: there is one more if the candidate is declined, and otherwise they are as
they were. -/
theorem refusals_turn (hnext : ∀ context, (enumerator.next job context).Discreet) (tells : Tells judge? criteria)
    (context : Context) (hsink : desk.console.sink = .gathered) :
    match turn job enumerator judge? ⟨context, desk⟩ with
    | .ended _ after => after.desk.console.refusals = desk.console.refusals
    | .rejected run after => after.context.vars = context.vars ∧ after.desk.console.sink = .gathered ∧
      ∃ notice, Refuses context.vars run criteria notice ∧
        after.desk.console.refusals = desk.console.refusals ++ [notice] := by
  have hcase := turn_case job enumerator judge? ⟨context, desk⟩
  have hoffered := hnext context desk
  generalize turn job enumerator judge? ⟨context, desk⟩ = taken at hcase ⊢
  cases hcase with
  | offerFailed hoffer | exhausted hoffer =>
    rw [hoffer] at hoffered
    exact hoffered.2
  | repeated hoffer =>
    rw [hoffer] at hoffered
    exact (discreet_note rfl _).2.trans hoffered.2
  | verdictFailed hoffer _ hverdict =>
    rw [hoffer] at hoffered
    rcases tells _ _ _ _ _ hverdict with ⟨hdeclined, -⟩ | ⟨-, rfl⟩
    · cases hdeclined
    · exact hoffered.2
  | accepted hoffer _ hverdict =>
    rw [hoffer] at hoffered
    rcases tells _ _ _ _ _ hverdict with ⟨hdeclined, -⟩ | ⟨-, rfl⟩
    · cases hdeclined
    · exact (discreet_onConsole (inform_keeps infoLevel _) _).2.trans hoffered.2
  | rejected hoffer _ hverdict =>
    rw [hoffer] at hoffered
    rcases tells _ _ _ _ _ hverdict with ⟨-, notice, hrefuses, rfl⟩ | ⟨hkept, -⟩
    · obtain ⟨hkind, hnotices⟩ := refusals_noticing (hoffered.1.trans hsink) (isRefusal_of_refuses hrefuses)
      exact ⟨rfl, hkind, notice, hrefuses, by rw [hnotices, hoffered.2]⟩
    · exact absurd rfl hkept

/-- So a selection gathers one notice for each declined run, in their order. -/
theorem refusals_selectRun (hnext : ∀ context, (enumerator.next job context).Discreet) (tells : Tells judge? criteria)
    (limit : Nat) (context : Context) (hsink : desk.console.sink = .gathered) :
    ∃ notices, List.Forall₂ (fun run notice => Refuses context.vars run criteria notice)
        (declinedRuns (selectionEntries job enumerator judge? limit context desk)) notices ∧
      ((selectRun job enumerator judge? limit).on ⟨context, desk⟩).2.desk.console.refusals =
        desk.console.refusals ++ notices := by
  induction limit generalizing context desk with
  | zero => exact ⟨[], .nil, (List.append_nil _).symm⟩
  | succ limit ih =>
    have hturn := refusals_turn hnext tells context hsink
    rw [selectionEntries_succ, selectRun_succ, declinedRuns, List.filterMap_append, ← declinedRuns, ← declinedRuns,
      declinedRuns_turnEntries]
    cases htaken : turn job enumerator judge? ⟨context, desk⟩ with
    | ended result after =>
      rw [htaken] at hturn
      exact ⟨[], .nil, hturn.trans (List.append_nil _).symm⟩
    | rejected run after =>
      rw [htaken] at hturn
      obtain ⟨hvars, hgathered, notice, hrefuses, hnotices⟩ := hturn
      obtain ⟨notices, hrest, hafter⟩ := ih after.context hgathered
      rw [hvars] at hrest
      refine ⟨notice :: notices, .cons hrefuses hrest, ?_⟩
      rw [hafter, hnotices, List.append_assoc, List.singleton_append]

/-- Runs are declined in the order in which they are offered. -/
theorem declinedRuns_sublist (limit : Nat) (context : Context) (desk : Desk σ) :
    (declinedRuns (selectionEntries job enumerator judge? limit context desk)).Sublist
      (offeredRuns (selectionEntries job enumerator judge? limit context desk)) := by
  induction limit generalizing context desk with
  | zero => exact List.Sublist.refl _
  | succ limit ih =>
    rw [selectionEntries_succ, declinedRuns, offeredRuns, List.filterMap_append, List.filterMap_append, ← declinedRuns,
      ← declinedRuns, ← offeredRuns, ← offeredRuns, declinedRuns_turnEntries, offeredRuns_turnEntries]
    cases hturn : turn job enumerator judge? ⟨context, desk⟩ with
    | ended result after => exact List.nil_sublist _
    | rejected run after =>
      obtain ⟨hoffered, -⟩ := turn_rejected_cases hturn
      rw [hoffered]
      exact (ih after.context after.desk).cons_cons run

/-- The answers in the journal of a selection are told as the judge tells them. -/
theorem entry_of_verdict (tells : Tells judge? criteria) {limit : Nat} {entry : Entry σ} {run : Run}
    {answer : Except Failure Bool} (hentry : entry ∈ selectionEntries job enumerator judge? limit context desk)
    (hverdict : entry.exchange = .verdict run answer) :
    (answer = .ok false ∧ ∃ notice, Refuses context.vars run criteria notice ∧
        entry.after = entry.before.noticing notice) ∨
      (answer ≠ .ok false ∧ entry.after = entry.before) := by
  cases judge? with
  | none => exact absurd hverdict (not_verdict_of_none hentry)
  | some judge =>
    obtain ⟨hcontext, hanswer, -⟩ := verdict_of_mem_selectionEntries hentry hverdict
    have hvars : entry.context.vars = context.vars := by rw [hcontext]; rfl
    rw [← hvars]
    exact tells run entry.context entry.before answer entry.after hanswer

end

/-! ## Stored jobs -/

/-- Loading a file declines nothing. -/
theorem discreet_loadFile (files : FileStore) (path : String) :
    (Yaml.loadFile files path : Work σ Yaml.Document).Discreet := by
  unfold Yaml.loadFile
  cases files.get? path with
  | none => exact (discreet_onConsole (warn_keeps _ _)).bind fun _ => discreet_pure _
  | some file =>
    simp only [Yaml.loadText]
    rcases Yaml.read file.text with (_ | failure) | document
    · exact (discreet_onConsole (warn_keeps _ _)).bind fun _ => discreet_pure _
    · exact discreet_ofExcept (.error failure)
    · exact discreet_pure document

/-- Loading a history declines nothing. -/
theorem discreet_load (path : String) : (Shelf.load path).Discreet := by
  unfold Shelf.load Shelf.loadWith
  refine discreet_host.bind fun shelf => ?_
  dsimp only [id]
  split
  · split
    · exact discreet_pure _
    · refine discreet_host.bind fun (shelf : Shelf) => (discreet_loadFile shelf.files path).bind fun document => ?_
      refine (discreet_ofExcept _).bind fun (content, runs) => ?_
      exact (discreet_onConsole (inform_keeps infoLevel _)).bind fun _ => (discreet_onHost _).bind fun _ =>
        discreet_pure _
  · exact discreet_ofExcept _

end RefusalsAux

open RefusalsAux

/-- Reading a job in memory tells nothing on declined runs. -/
theorem Recorded.discreet_job : Recorded.job.Discreet where
  name := discreet_host.bind fun _ => discreet_pure _
  history := discreet_host.bind fun _ => discreet_pure _

/-- Reading a job in a file tells nothing on declined runs. -/
theorem Shelf.discreet_job (path : String) : (Shelf.job path).Discreet where
  name := (discreet_load path).bind fun _ => discreet_pure _
  history := (discreet_load path).bind fun _ => discreet_pure _

/-- What a selection by a chain of criteria tells on the runs that it declines, with any selector and any context.
1. An answer of the chain is told in one notice if it declines the run: that of the first criterion that rejects it. If
   the chain accepts the run, or cannot answer, nothing is told.
2. The declined runs come in the order in which they were offered.
3. Where notices are gathered and reading the job tells none on declined runs, what the selection adds to these are the
   notices on the declined runs, one for each of them and in their order. -/
theorem refusals_of_selection (job : Job σ) (selector : Selector) {filter? : Option (RunFilter Criterion)}
    {criteria : List Criterion} (chained : ∀ filter ∈ filter?, filter.IsChain criteria) (limit : Nat)
    (context : Context) (desk : Desk σ) :
    let judge? := filter?.map fun filter => filter.judge Criterion.judge
    let entries := selectionEntries job selector.enumerator judge? limit context desk
    let after := ((selectRun job selector.enumerator judge? limit).on ⟨context, desk⟩).2.desk
    (∀ entry ∈ entries, ∀ run answer, entry.exchange = .verdict run answer →
      (answer = .ok false ∧ ∃ notice, Refuses context.vars run criteria notice ∧
        entry.after = entry.before.noticing notice) ∨
      (answer ≠ .ok false ∧ entry.after = entry.before)) ∧
    (declinedRuns entries).Sublist (offeredRuns entries) ∧
    (job.Discreet → desk.console.sink = .gathered → ∃ notices,
      List.Forall₂ (fun run notice => Refuses context.vars run criteria notice) (declinedRuns entries) notices ∧
      after.console.refusals = desk.console.refusals ++ notices) := by
  intro judge? entries after
  have tells : Tells judge? criteria := tells_of_chain chained
  refine ⟨fun entry hentry run answer hverdict => ?_, ?_, fun hjob hsink => ?_⟩
  · exact entry_of_verdict tells hentry hverdict
  · exact declinedRuns_sublist limit context desk
  · exact refusals_selectRun (discreet_next hjob selector) tells limit context hsink

/-- Of three runs the newest has no environment, the next one has another name than is wanted, and the oldest is
selected. The wanted name stands in a conjunction of its own. -/
theorem refusals_of_selection_of_three :
    let run (number : Int) (snapshot : Snapshot) (name : String) : Run := ⟨number, .success, false, snapshot, [], name⟩
    let history := [run 1 (.available []) "a", run 2 (.available []) "b", run 3 .unavailable "c"]
    let desk : Desk Recorded := ⟨.fresh ⟨0, false, false⟩ .gathered, ⟨"job", history⟩⟩
    let filter : RunFilter Criterion := .all [.leaf (.parameters ""), .all [.leaf (.displayName "a")]]
    let criteria : List Criterion := [.parameters "", .displayName "a"]
    let judge? : Option (Judge Recorded) := some (filter.judge Criterion.judge)
    let notices : List Notice :=
      [.unreadable "Parameters ()" "c" (.environmentUnavailable "c"), .declined "Display name (a)" "b"]
    let enumerator : Enumerator Recorded := (Selector.byStatus .any).enumerator
    filter.IsChain criteria ∧
      List.Forall₂ (fun run notice => Refuses [] run criteria notice)
        (declinedRuns (selectionEntries Recorded.job enumerator judge? 4 (.fresh []) desk)) notices ∧
      ((selectRun Recorded.job enumerator judge? 4).on ⟨.fresh [], desk⟩).2.desk.console.refusals = notices := by
  intro run history desk filter criteria judge? notices enumerator
  have hchain : filter.IsChain criteria := .joined (.leaf _) (.joined (.joined (.leaf _) .empty) .empty)
  have hchained : ∀ other ∈ some filter, other.IsChain criteria := fun other hother =>
    Option.mem_some_iff.mp hother ▸ hchain
  obtain ⟨-, -, hgathered⟩ := refusals_of_selection Recorded.job (.byStatus .any) hchained 4 (.fresh []) desk
  obtain ⟨told, htold, hrefusals⟩ := hgathered Recorded.discreet_job rfl
  have hnotices : ((selectRun Recorded.job enumerator judge? 4).on ⟨.fresh [], desk⟩).2.desk.console.refusals =
      notices := by decide +kernel
  obtain rfl : notices = told := hnotices.symm.trans hrefusals
  exact ⟨hchain, htold, hnotices⟩

end RunPicker

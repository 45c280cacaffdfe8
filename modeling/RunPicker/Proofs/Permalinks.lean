import RunPicker.Proofs.Descent
import RunPicker.Proofs.Likeness
import RunPicker.Proofs.Quoting

/-!
# Selections by a permalink

A permalink names the newest run of a status, and so does the first candidate of a selection by that status. From there
on the two selections part: the one by the permalink is through when the run is rejected, since the same run is offered
again, and the one by the status goes on to older runs. `permalink_selections` says what they have in common and where
they part, for every judge that leaves the history as it is.
-/

namespace RunPicker

variable {σ : Type}

/-- The judge, if there is one, keeps a property of the host. -/
def Keeps (P : σ → Prop) (judge? : Option (Judge σ)) : Prop :=
  ∀ judge ∈ judge?, ∀ run context, ∀ desk : Desk σ, P desk.host → P ((judge run context).on desk).2.host

namespace PermalinksAux

open DescentAux EnumerationAux LikenessAux

variable {P : σ → Prop} {job : Job σ} {enumerator : Enumerator σ} {judge? : Option (Judge σ)} {history : List Run}
  {name : String} {permalink : Permalink} {context : Context} {desk : Desk σ} {run : Run}

/-! ## The newest run of a status -/

/-- Every permalink is found by its name. -/
theorem ofId?_of_mem (h : permalink ∈ Permalink.all) : Permalink.ofId? permalink.id = some permalink := by
  have hall : ∀ permalink ∈ Permalink.all, Permalink.ofId? permalink.id = some permalink := by decide
  exact hall permalink h

/-- Without a candidate before it, the first of a status is the newest. -/
theorem head?_candidates_none (status : Status) (history : List Run) :
    (candidates status none history).head? = newestOf status history := by
  rw [head?_candidates, olderOf, List.head?_filter, newestOf]
  congr 1
  exact List.filter_eq_self.mpr fun _ _ => rfl

/-- The last run of a status is the newest of the history. -/
theorem yields_lastRun (fixed : Work.Yields P job.history history) (status : Status) :
    Work.Yields P (job.lastRun status) (newestOf status history) :=
  fixed.bind (Work.yields_pure _)

/-- A permalink names the newest run of its status. -/
theorem yields_runOfPermalink (fixed : Work.Yields P job.history history) (supported : permalink ∈ Permalink.all) :
    Work.Yields P (job.runOfPermalink permalink.id) (newestOf permalink.status history) := by
  rw [Job.runOfPermalink, ofId?_of_mem supported]
  exact yields_lastRun fixed permalink.status

/-- A permalink locates the newest run of its status. -/
theorem yields_locatePermalink (fixed : Work.Yields P job.history history) (named : Work.Yields P job.name name)
    (supported : permalink ∈ Permalink.all) :
    Work.Yields P (Selector.locatePermalink permalink job context) (newestOf permalink.status history) := by
  refine (yields_runOfPermalink fixed supported).bind ?_
  cases newestOf permalink.status history with
  | none => exact named.bind ((Work.yields_note _).bind (Work.yields_pure none))
  | some run => exact Work.yields_pure (some run)

/-- As long as no run was accepted, the selector of a permalink locates its run. -/
theorem next_byPermalink (unmatched : context.lastMatch = none) :
    (Selector.byPermalink permalink).enumerator.next job context = Selector.locatePermalink permalink job context := by
  simp [Selector.enumerator, Enumerator.specific, unmatched]

/-- The newest run of the status is offered right after the history was read. -/
theorem next_byPermalink_on {after : Desk σ} (supported : permalink ∈ Permalink.all)
    (unmatched : context.lastMatch = none) (hhistory : job.history.on desk = (.ok history, after))
    (hnewest : newestOf permalink.status history = some run) :
    ((Selector.byPermalink permalink).enumerator.next job context).on desk = (.ok (some run), after) := by
  rw [next_byPermalink unmatched, Selector.locatePermalink, Job.runOfPermalink, ofId?_of_mem supported]
  simp [Job.lastRun, hhistory, hnewest]

/-- A selection by status begins with the newest run. -/
theorem next_byStatus_on_of_newest {status : Status} {after : Desk σ} (unoffered : context.lastCandidate = none)
    (hhistory : job.history.on desk = (.ok history, after)) (hnewest : newestOf status history = some run) :
    ((Selector.byStatus status).enumerator.next job context).on desk = (.ok (some run), after) := by
  rw [next_byStatus_on, hhistory]
  dsimp only
  rw [← head?_candidates, unoffered, head?_candidates_none, hnewest]

/-! ## What comes of the first candidate -/

/-- A selection whose first candidate is fresh goes on by the answer on it. -/
theorem selectRun_of_offered {middle : Desk σ} (judge? : Option (Judge σ)) (limit : Nat)
    (hnext : (enumerator.next job context).on desk = (.ok (some run), middle)) (hfresh : isRepeated context run = false) :
    ((selectRun job enumerator judge? (limit + 1)).on ⟨context, desk⟩).1 =
      match verdict judge? run (context.seeing run) middle with
      | (.error failure, _) => .error failure
      | (.ok true, _) => .ok (some run)
      | (.ok false, after) => ((selectRun job enumerator judge? limit).on ⟨context.seeing run, after⟩).1 := by
  rw [selectRun_succ, turn]
  simp only [hnext, hfresh, Bool.false_eq_true, if_false]
  rcases verdict judge? run (context.seeing run) middle with ⟨failure | _ | _, after⟩ <;> rfl

/-- A candidate that has just been seen is a repeated one. -/
theorem isRepeated_seeing (context : Context) (run : Run) : isRepeated (context.seeing run) run = true :=
  isRepeated_iff.mpr ⟨run, rfl, by simp [Run.same]⟩

/-- A judge that keeps a property keeps it when it answers on a candidate. -/
theorem keeps_verdict (keeps : Keeps P judge?) (run : Run) (context : Context) (h : P desk.host) :
    P (verdict judge? run context desk).2.host := by
  cases judge? with
  | none => exact h
  | some judge => exact keeps judge rfl run context desk h

/-- Before a match, the enumerator of a permalink offers the newest run of its status. -/
theorem yields_byPermalink (fixed : Work.Yields P job.history history) (named : Work.Yields P job.name name)
    (supported : permalink ∈ Permalink.all) (unmatched : context.lastMatch = none) :
    Work.Yields P ((Selector.byPermalink permalink).enumerator.next job context)
      (newestOf permalink.status history) := by
  rw [next_byPermalink unmatched]
  exact yields_locatePermalink fixed named supported

/-- A run is given by an answer on it if this is that the run is accepted. -/
theorem given_iff {answer : Except Failure Bool} {run other : Run} :
    (answer.map fun accepted => if accepted then some run else none) = .ok (some other) ↔
      run = other ∧ answer = .ok true := by
  cases answer with
  | error failure => simp [Except.map]
  | ok accepted => cases accepted <;> simp [Except.map]

/-- A selection by a permalink gives what is answered on the newest run of its status. If this run is rejected, the same
run is offered again and the selection is through. -/
theorem selectRun_byPermalink (fixed : Work.Yields P job.history history) (keeps : Keeps P judge?)
    (supported : permalink ∈ Permalink.all) (unmatched : context.lastMatch = none)
    (unoffered : context.lastCandidate = none) (limit : Nat) {middle : Desk σ} (hP : P middle.host)
    (hhistory : job.history.on desk = (.ok history, middle)) (hnewest : newestOf permalink.status history = some run) :
    ((selectRun job (Selector.byPermalink permalink).enumerator judge? (limit + 2)).on ⟨context, desk⟩).1 =
      (verdict judge? run (context.seeing run) middle).1.map fun accepted => if accepted then some run else none := by
  have hfresh : isRepeated context run = false := by rw [isRepeated, unoffered, Option.any_none]
  have hkept := keeps_verdict keeps run (context.seeing run) hP
  rw [selectRun_of_offered judge? (limit + 1) (next_byPermalink_on supported unmatched hhistory hnewest) hfresh]
  rcases hverdict : verdict judge? run (context.seeing run) middle with ⟨failure | _ | _, desk'⟩
  · rfl
  · rw [hverdict] at hkept
    obtain ⟨after, hagain, -⟩ := fixed desk' hkept
    have hnext : (((Selector.byPermalink permalink).enumerator.next job (context.seeing run)).on desk').1 =
        .ok (some run) := by
      rw [next_byPermalink_on supported (show (context.seeing run).lastMatch = none from unmatched) hagain hnewest]
    dsimp only
    rw [selectRun_succ, turn_of_repeated hnext (isRepeated_seeing context run)]
    rfl
  · rfl

/-- If the newest run of a status is accepted, a selection by the status gives it. -/
theorem selectRun_byStatus_of_accepted {status : Status} (unoffered : context.lastCandidate = none) (limit : Nat)
    {middle : Desk σ} (hhistory : job.history.on desk = (.ok history, middle))
    (hnewest : newestOf status history = some run)
    (haccepted : (verdict judge? run (context.seeing run) middle).1 = .ok true) :
    ((selectRun job (Selector.byStatus status).enumerator judge? (limit + 1)).on ⟨context, desk⟩).1 =
      .ok (some run) := by
  have hfresh : isRepeated context run = false := by rw [isRepeated, unoffered, Option.any_none]
  rw [selectRun_of_offered judge? limit (next_byStatus_on_of_newest unoffered hhistory hnewest) hfresh]
  rcases hverdict : verdict judge? run (context.seeing run) middle with ⟨answer, desk'⟩
  rw [hverdict] at haccepted
  obtain rfl : answer = .ok true := haccepted
  rfl

/-- Whatever is answered on it, a selection by a permalink offers no run but the newest of its status. -/
theorem offered_byPermalink (fixed : Work.Yields P job.history history) (named : Work.Yields P job.name name)
    (keeps : Keeps P judge?) (supported : permalink ∈ Permalink.all) (limit : Nat)
    (unmatched : context.lastMatch = none) (hP : P desk.host) :
    ∀ other ∈ offeredRuns (selectionEntries job (Selector.byPermalink permalink).enumerator judge? limit context desk),
      newestOf permalink.status history = some other := by
  induction limit generalizing context desk with
  | zero => exact List.forall_mem_nil _
  | succ limit ih =>
    obtain ⟨middle, hnext, hmiddle⟩ := yields_byPermalink fixed named supported unmatched desk hP
    rw [selectionEntries_succ, offeredRuns, List.filterMap_append, ← offeredRuns, ← offeredRuns,
      offeredRuns_turnEntries, hnext]
    refine List.forall_mem_append.mpr ⟨fun other hother => Option.mem_toList.mp hother, ?_⟩
    have hcase := turn_case job (Selector.byPermalink permalink).enumerator judge? ⟨context, desk⟩
    generalize turn job (Selector.byPermalink permalink).enumerator judge? ⟨context, desk⟩ = taken at hcase ⊢
    cases hcase with
    | offerFailed | exhausted | repeated | verdictFailed | accepted => exact List.forall_mem_nil _
    | @rejected run desk' after hoffer _ hanswer =>
      obtain rfl : middle = desk' := congrArg Prod.snd (hnext.symm.trans hoffer)
      have hafter := keeps_verdict keeps run (context.seeing run) hmiddle
      rw [hanswer] at hafter
      exact ih unmatched hafter

/-- A filter of criteria changes nothing but the console. -/
theorem keeps_filter (P : σ → Prop) (filter : RunFilter Criterion) : Keeps P (some (filter.judge Criterion.judge)) := by
  rintro judge hjudge run context desk hP
  obtain rfl := Option.mem_some_iff.mp hjudge
  exact (like_holds (fun criterion => like_criterion criterion run context) filter desk desk hP hP).2.1

end PermalinksAux

open PermalinksAux EnumerationAux

/-- In a context in which no run was accepted or offered, and with a history that stays as it is, a permalink and the
status that it stands for name the same run.
1. What the selector of the permalink offers, the run of the permalink, the newest run of the status, and what the
   selector of the status offers are the same run, or all of them none.
2. A selection by the permalink gives a run if it is that one and the judge accepts it, and only then. A selection by
   the status with the same judge then gives it too.
3. If that run is rejected, or if there is none, a selection by the permalink gives none. It never offers another run. -/
theorem permalink_selections {P : σ → Prop} {job : Job σ} {history : List Run} {name : String}
    (fixed : Work.Yields P job.history history) (named : Work.Yields P job.name name) {judge? : Option (Judge σ)}
    (keeps : Keeps P judge?) {permalink : Permalink} (supported : permalink ∈ Permalink.all) {context : Context}
    (unmatched : context.lastMatch = none) (unoffered : context.lastCandidate = none) {limit : Nat}
    (enough : 1 < limit) :
    let newest := newestOf permalink.status history
    (Work.Yields P ((Selector.byPermalink permalink).enumerator.next job context) newest ∧
      Work.Yields P (job.runOfPermalink permalink.id) newest ∧
      Work.Yields P (job.lastRun permalink.status) newest ∧
      Work.Yields P ((Selector.byStatus permalink.status).enumerator.next job context) newest) ∧
    ∀ desk : Desk σ, P desk.host →
      let selection (selector : Selector) := ((selectRun job selector.enumerator judge? limit).on ⟨context, desk⟩).1
      let answer (run : Run) := (verdict judge? run (context.seeing run) (job.history.on desk).2).1
      (∀ run, selection (.byPermalink permalink) = .ok (some run) ↔ newest = some run ∧ answer run = .ok true) ∧
      (∀ run, selection (.byPermalink permalink) = .ok (some run) →
        selection (.byStatus permalink.status) = .ok (some run)) ∧
      ((∀ run, newest = some run → answer run = .ok false) → selection (.byPermalink permalink) = .ok none) ∧
      ∀ other ∈ offeredRuns
        (selectionEntries job (Selector.byPermalink permalink).enumerator judge? limit context desk),
        newest = some other := by
  intro newest
  have hstatus := yields_next permalink.status fixed context
  rw [unoffered, head?_candidates_none] at hstatus
  refine ⟨⟨yields_byPermalink fixed named supported unmatched, yields_runOfPermalink fixed supported,
    yields_lastRun fixed permalink.status, hstatus⟩, ?_⟩
  intro desk hP selection answer
  obtain ⟨middle, hhistory, hmiddle⟩ := fixed desk hP
  obtain ⟨limit, rfl⟩ := Nat.exists_eq_add_of_le' enough
  have hanswer (run : Run) : answer run = (verdict judge? run (context.seeing run) middle).1 := by
    simp only [answer, hhistory]
  have hoffered := offered_byPermalink fixed named keeps supported (limit + 2) unmatched hP
  cases hnewest : newestOf permalink.status history with
  | none =>
    obtain ⟨after, hnext, -⟩ := yields_byPermalink fixed named supported unmatched desk hP
    have hnone : selection (.byPermalink permalink) = .ok none := by
      simp only [selection]
      rw [selectRun_succ, turn, hnext, hnewest]
    refine ⟨fun run => ?_, fun run h => ?_, fun _ => hnone, hoffered⟩
    · rw [hnone, show newest = none from hnewest]
      simp
    · rw [hnone] at h
      cases h
  | some run =>
    have hselection : selection (.byPermalink permalink) =
        (answer run).map fun accepted => if accepted then some run else none := by
      rw [hanswer]
      exact selectRun_byPermalink fixed keeps supported unmatched unoffered limit hmiddle hhistory hnewest
    have hgiven (other : Run) : selection (.byPermalink permalink) = .ok (some other) ↔
        newest = some other ∧ answer other = .ok true := by
      rw [hselection, given_iff, show newest = some run from hnewest, Option.some.injEq]
      exact and_congr_right fun hother => by rw [hother]
    refine ⟨hgiven, fun other h => ?_, fun hrejected => ?_, hoffered⟩
    · obtain ⟨hother, haccepted⟩ := (hgiven other).mp h
      rw [hanswer] at haccepted
      exact selectRun_byStatus_of_accepted unoffered (limit + 1) hhistory hother haccepted
    · rw [hselection, hrejected run hnewest]
      rfl

/-- Of two runs that succeeded and one that failed, the second is the last stable one. The permalink and the status give
it by its name, and where it is rejected, the permalink gives none although the name is that of an older run. -/
theorem permalink_selections_of_rejected :
    let run (number : Int) (result : Result) (name : String) : Run := ⟨number, result, false, .available [], [], name⟩
    let desk : Desk Recorded := ⟨default, ⟨"job", [run 1 .success "a", run 2 .success "b", run 3 .failure "c"]⟩⟩
    let lastStable : Permalink := ⟨"lastStableRun", .stable⟩
    let selection (selector : Selector) (filter : RunFilter Criterion) :=
      ((selectRun Recorded.job selector.enumerator (some (filter.judge Criterion.judge)) 3).on ⟨.fresh [], desk⟩).1
    selection (.byPermalink lastStable) (.leaf (.displayName "b")) = .ok (some (run 2 .success "b")) ∧
      selection (.byStatus .stable) (.leaf (.displayName "b")) = .ok (some (run 2 .success "b")) ∧
      selection (.byPermalink lastStable) (.leaf (.displayName "a")) = .ok none := by
  intro run desk lastStable selection
  have hexpand : Environment.expand [] "a" = "a" ∧ Environment.expand [] "b" = "b" := by
    simp [Environment.expand, Environment.expandChars, pieces, firstPiece, Environment.valueOf, Piece.source]
  have hfixed : Work.Yields (fun host => host = desk.host) Recorded.job.history desk.host.runs :=
    fun other hother => ⟨other, congrArg (fun host : Recorded => (Except.ok host.runs, other)) hother, hother⟩
  have hnamed : Work.Yields (fun host => host = desk.host) Recorded.job.name "job" :=
    fun other hother => ⟨other, congrArg (fun host : Recorded => (Except.ok host.name, other)) hother, hother⟩
  have hpermalink (name : String) := (permalink_selections hfixed hnamed
    (keeps_filter _ (.leaf (.displayName name))) (show lastStable ∈ Permalink.all by decide)
    (show (Context.fresh []).lastMatch = none from rfl) rfl (show 1 < 3 by decide)).2 desk rfl
  have hnewest : newestOf lastStable.status desk.host.runs = some (run 2 .success "b") := by rfl
  have hanswer (name : String) (other : Run) (context : Context) (desk : Desk Recorded) :
      (verdict (some ((RunFilter.leaf (.displayName name)).judge Criterion.judge)) other context desk).1 =
        .ok (decide (other.displayName = context.vars.expand name)) := by
    rw [← QuotingAux.judge_displayName name other context desk]
    simp only [verdict, RunFilter.judge, RunFilter.holds]
  have hgiven : selection (.byPermalink lastStable) (.leaf (.displayName "b")) = .ok (some (run 2 .success "b")) := by
    have haccepted := (hanswer "b" (run 2 .success "b") ((Context.fresh []).seeing (run 2 .success "b"))
      (Recorded.job.history.on desk).2).trans (congrArg Except.ok (decide_eq_true hexpand.2.symm))
    exact ((hpermalink "b").1 _).mpr ⟨hnewest, haccepted⟩
  refine ⟨hgiven, (hpermalink "b").2.1 _ hgiven, ?_⟩
  refine (hpermalink "a").2.2.1 fun other hother => ?_
  obtain rfl := Option.some.inj (hnewest.symm.trans hother)
  refine (hanswer "a" _ _ _).trans (congrArg Except.ok (decide_eq_false ?_))
  rw [show ((Context.fresh []).seeing (run 2 .success "b")).vars.expand "a" = "a" from hexpand.1]
  exact show "b" ≠ "a" by decide

end RunPicker

import RunPicker.Proofs.Operation

/-!
# Jobs with the same history

A selection learns of its job only what stands in the history, and the name only for its notices. So two jobs, on hosts
of any kinds, are the same to every selector and every filter as long as they read the same history (`Job.Like`): the
same runs are offered, answered and selected, and the same context is left (`like_selectRuns`). That two operations come
to the same is closed under what selections are built of, so each of them is followed along its own text.
-/

namespace RunPicker

variable {σ τ α β : Type}

/-- On hosts with some properties, which they keep, the operations give the same. -/
def Work.Like (P : σ → Prop) (Q : τ → Prop) (work : Work σ α) (other : Work τ α) : Prop :=
  ∀ (desk : Desk σ) (desk' : Desk τ), P desk.host → Q desk'.host →
    (work.on desk).1 = (other.on desk').1 ∧ P (work.on desk).2.host ∧ Q (other.on desk').2.host

/-- In the same context and on hosts with some properties, which they keep, the operations give the same and leave the
same context. -/
def Selecting.Like (P : σ → Prop) (Q : τ → Prop) (operation : Selecting σ α) (other : Selecting τ α) : Prop :=
  ∀ (context : Context) (desk : Desk σ) (desk' : Desk τ), P desk.host → Q desk'.host →
    (operation.on ⟨context, desk⟩).1 = (other.on ⟨context, desk'⟩).1 ∧
      (operation.on ⟨context, desk⟩).2.context = (other.on ⟨context, desk'⟩).2.context ∧
      P (operation.on ⟨context, desk⟩).2.desk.host ∧ Q (other.on ⟨context, desk'⟩).2.desk.host

/-- On hosts with some properties, the jobs have the same history, and they have names. -/
structure Job.Like (P : σ → Prop) (Q : τ → Prop) (job : Job σ) (other : Job τ) : Prop where
  history : Work.Like P Q job.history other.history
  name : Work.Like P Q ((fun _ => ()) <$> job.name) ((fun _ => ()) <$> other.name)

/-! ## Closure -/

section

variable {P : σ → Prop} {Q : τ → Prop}

/-- Operations that give the same may be followed by others that do. -/
theorem Work.Like.bind {work : Work σ α} {other : Work τ α} {next : α → Work σ β} {next' : α → Work τ β}
    (h : Work.Like P Q work other) (hnext : ∀ value, Work.Like P Q (next value) (next' value)) :
    Work.Like P Q (work >>= next) (other >>= next') := by
  intro desk desk' hP hQ
  obtain ⟨hsame, hP', hQ'⟩ := h desk desk' hP hQ
  rw [Work.on_bind, Work.on_bind]
  rcases hwork : work.on desk with ⟨result, after⟩
  rcases hother : other.on desk' with ⟨result', after'⟩
  rw [hwork, hother] at hsame
  rw [hwork] at hP'
  rw [hother] at hQ'
  obtain rfl : result = result' := hsame
  cases result with
  | error failure => exact ⟨rfl, hP', hQ'⟩
  | ok value => exact hnext value after after' hP' hQ'

/-- In selections as well, operations that give the same may be followed by others that do. -/
theorem Selecting.Like.bind {operation : Selecting σ α} {other : Selecting τ α} {next : α → Selecting σ β}
    {next' : α → Selecting τ β} (h : Selecting.Like P Q operation other)
    (hnext : ∀ value, Selecting.Like P Q (next value) (next' value)) :
    Selecting.Like P Q (operation >>= next) (other >>= next') := by
  intro context desk desk' hP hQ
  obtain ⟨hsame, hcontext, hP', hQ'⟩ := h context desk desk' hP hQ
  rw [Selecting.on_bind, Selecting.on_bind]
  rcases hoperation : operation.on ⟨context, desk⟩ with ⟨result, after⟩
  rcases hother : other.on ⟨context, desk'⟩ with ⟨result', after'⟩
  rw [hoperation, hother] at hsame hcontext
  rw [hoperation] at hP'
  rw [hother] at hQ'
  obtain rfl : result = result' := hsame
  obtain ⟨context', after⟩ := after
  obtain ⟨_, after'⟩ := after'
  obtain rfl : context' = _ := hcontext
  cases result with
  | error failure => exact ⟨rfl, rfl, hP', hQ'⟩
  | ok value => exact hnext value context' after after' hP' hQ'

end

namespace LikenessAux

open RunFilter

variable {P : σ → Prop} {Q : τ → Prop}

/-! ## Work -/

/-- The same result is the same on all hosts. -/
theorem like_ofExcept (result : Except Failure α) :
    Work.Like P Q (Work.ofExcept result : Work σ α) (Work.ofExcept result) :=
  fun _ _ hP hQ => ⟨rfl, hP, hQ⟩

/-- The same value is the same on all hosts. -/
theorem like_pure (value : α) : Work.Like P Q (pure value : Work σ α) (pure value) :=
  like_ofExcept (.ok value)

/-- Notices may differ, for nothing is read from them. -/
theorem like_note (notice other : Notice) : Work.Like P Q (Work.note notice) (Work.note other) :=
  fun _ _ hP hQ => ⟨rfl, hP, hQ⟩

/-- What is given may differ if it makes no difference to what follows. -/
theorem like_bind_of_succeeding {γ : Type} {work : Work σ α} {other : Work τ β} {next : α → Work σ γ}
    {next' : β → Work τ γ} (h : Work.Like P Q ((fun _ => ()) <$> work) ((fun _ => ()) <$> other))
    (hnext : ∀ value value', Work.Like P Q (next value) (next' value')) :
    Work.Like P Q (work >>= next) (other >>= next') := by
  intro desk desk' hP hQ
  obtain ⟨hsame, hP', hQ'⟩ := h desk desk' hP hQ
  rw [Work.on_map, Work.on_map] at hsame
  rw [Work.on_map] at hP' hQ'
  rw [Work.on_bind, Work.on_bind]
  generalize work.on desk = outcome at hsame hP' ⊢
  generalize other.on desk' = outcome' at hsame hQ' ⊢
  rcases outcome with ⟨failure | value, after⟩ <;> rcases outcome' with ⟨failure' | value', after'⟩
  · obtain rfl : failure = failure' := Except.error.inj hsame
    exact ⟨rfl, hP', hQ'⟩
  · cases hsame
  · cases hsame
  · exact hnext value value' after after' hP' hQ'

/-! ## Offers -/

section

variable {job : Job σ} {other : Job τ} (h : Job.Like P Q job other)

include h

/-- The next run of a status is that of the history. -/
theorem like_nextOfStatus (status : Status) (context : Context) :
    Work.Like P Q (Selector.nextOfStatus status job context) (Selector.nextOfStatus status other context) := by
  unfold Selector.nextOfStatus
  cases context.lastCandidate with
  | none => exact (Work.Like.bind h.history fun runs => like_pure _).bind fun runs => like_pure _
  | some candidate => exact (Work.Like.bind h.history fun runs => like_pure _).bind fun runs => like_pure _

/-- The run of a permalink is that of the history. -/
theorem like_runOfPermalink (id : String) : Work.Like P Q (job.runOfPermalink id) (other.runOfPermalink id) := by
  unfold Job.runOfPermalink
  split
  · exact Work.Like.bind h.history fun runs => like_pure _
  · exact like_pure none

/-- A number locates the same run in the same history. -/
theorem like_locateNumber (text : String) (context : Context) :
    Work.Like P Q (Selector.locateNumber text job context) (Selector.locateNumber text other context) := by
  unfold Selector.locateNumber
  dsimp only
  split
  · exact Work.Like.bind (like_note _ _) fun _ => like_pure none
  · refine Work.Like.bind (Work.Like.bind h.history fun runs => like_pure _) fun run? => ?_
    split
    · exact Work.Like.bind (like_note _ _) fun _ => like_pure run?
    · exact like_pure run?

/-- A permalink locates the same run in the same history. -/
theorem like_locatePermalink (permalink : Permalink) (context : Context) :
    Work.Like P Q (Selector.locatePermalink permalink job context)
      (Selector.locatePermalink permalink other context) := by
  unfold Selector.locatePermalink
  refine Work.Like.bind (like_runOfPermalink h permalink.id) fun run? => ?_
  split
  · refine like_bind_of_succeeding h.name fun name name' => ?_
    exact Work.Like.bind (like_note _ _) fun _ => like_pure run?
  · exact like_pure run?

/-- A selector offers the same of both jobs. -/
theorem like_next (selector : Selector) (context : Context) :
    Work.Like P Q (selector.enumerator.next job context) (selector.enumerator.next other context) := by
  cases selector with
  | byStatus status => exact like_nextOfStatus h status context
  | byNumber text =>
    simp only [Selector.enumerator, Enumerator.specific]
    split
    · exact like_pure none
    · exact like_locateNumber h text context
  | byPermalink permalink =>
    simp only [Selector.enumerator, Enumerator.specific]
    split
    · exact like_pure none
    · exact like_locatePermalink h permalink context

end

/-! ## Verdicts -/

/-- A run is declined alike on all hosts. -/
theorem like_decline (notice : Notice) :
    Work.Like P Q (Criterion.decline notice) (Criterion.decline notice) :=
  Work.Like.bind (like_note notice notice) fun _ => like_pure false

/-- A criterion asks nothing of the host. -/
theorem like_criterion (criterion : Criterion) (run : Run) (context : Context) :
    Work.Like P Q (criterion.judge run context) (criterion.judge run context) := by
  cases criterion with
  | parameters wanted =>
    simp only [Criterion.judge]
    refine Work.Like.bind (like_ofExcept run.lookup) fun answer => ?_
    cases answer with
    | failed failure => exact like_decline _
    | found vars =>
      dsimp only
      split
      · exact like_pure true
      · exact like_decline _
  | displayName name =>
    simp only [Criterion.judge]
    split
    · exact like_pure true
    · exact like_decline _

/-- A filter is answered alike if its conditions are. -/
theorem like_holds {judge : α → Work σ Bool} {judge' : α → Work τ Bool}
    (h : ∀ condition, Work.Like P Q (judge condition) (judge' condition)) (filter : RunFilter α) :
    Work.Like P Q (filter.holds judge) (filter.holds judge') :=
  holds_related ⟨like_pure, Work.Like.bind⟩ h filter

/-! ## Selections -/

/-- In a selection the same value is the same on all hosts. -/
theorem selecting_like_pure (value : α) : Selecting.Like P Q (pure value : Selecting σ α) (pure value) :=
  fun _ _ _ hP hQ => ⟨rfl, rfl, hP, hQ⟩

/-- Operations that give the same in each context do so in a selection. -/
theorem like_ofWork {work : Context → Work σ α} {other : Context → Work τ α}
    (h : ∀ context, Work.Like P Q (work context) (other context)) :
    Selecting.Like P Q (Selecting.ofWork work) (Selecting.ofWork other) := by
  intro context desk desk' hP hQ
  obtain ⟨hsame, hP', hQ'⟩ := h context desk desk' hP hQ
  exact ⟨hsame, rfl, hP', hQ'⟩

/-- The context is the same on all hosts. -/
theorem like_context : Selecting.Like P Q (Selecting.context : Selecting σ Context) Selecting.context :=
  fun _ _ _ hP hQ => ⟨rfl, rfl, hP, hQ⟩

/-- The context is changed alike on all hosts. -/
theorem like_onContext (change : Context → Except Failure Context) :
    Selecting.Like P Q (Selecting.onContext change : Selecting σ Unit) (Selecting.onContext change) := by
  intro context desk desk' hP hQ
  rw [Selecting.on_onContext, Selecting.on_onContext]
  dsimp only
  cases change context with
  | error failure => exact ⟨rfl, rfl, hP, hQ⟩
  | ok context' => exact ⟨rfl, rfl, hP, hQ⟩

/-- A run is accepted alike by enumerators of two hosts. -/
theorem like_accept (enumerator : Enumerator σ) (enumerator' : Enumerator τ) (run : Run) :
    Selecting.Like P Q (accept enumerator run) (accept enumerator' run) := by
  unfold accept
  exact Selecting.Like.bind (like_onContext _) fun _ => like_ofWork fun _ _ _ hP hQ => ⟨rfl, hP, hQ⟩

/-- A filter accepts the same runs on all hosts. -/
theorem like_isAccepted (filter? : Option (RunFilter Criterion)) (run : Run) :
    Selecting.Like P Q (isAccepted (filter?.map fun filter => filter.judge Criterion.judge) run)
      (isAccepted (filter?.map fun filter => filter.judge Criterion.judge) run) := by
  cases filter? with
  | none => exact selecting_like_pure true
  | some filter =>
    exact like_ofWork fun context => like_holds (fun criterion => like_criterion criterion run context) filter

section

variable {job : Job σ} {other : Job τ} (h : Job.Like P Q job other) (selector : Selector)
  (filter? : Option (RunFilter Criterion))

include h

/-- The same run is selected, since the same are offered and accepted. -/
theorem like_selectRun (limit : Nat) :
    Selecting.Like P Q
      (selectRun job selector.enumerator (filter?.map fun filter => filter.judge Criterion.judge) limit)
      (selectRun other selector.enumerator (filter?.map fun filter => filter.judge Criterion.judge) limit) := by
  induction limit with
  | zero => exact fun _ _ _ hP hQ => ⟨rfl, rfl, hP, hQ⟩
  | succ limit ih =>
    unfold selectRun
    refine Selecting.Like.bind (like_ofWork (like_next h selector)) fun candidate? => ?_
    cases candidate? with
    | none => exact selecting_like_pure none
    | some candidate =>
      refine Selecting.Like.bind like_context fun context => ?_
      split
      · exact Selecting.Like.bind (like_ofWork fun _ => like_note _ _) fun _ => selecting_like_pure none
      · refine Selecting.Like.bind (like_onContext _) fun _ => ?_
        refine Selecting.Like.bind (like_isAccepted filter? candidate) fun answer => ?_
        cases answer with
        | true => exact Selecting.Like.bind (like_accept _ _ candidate) fun _ => selecting_like_pure (some candidate)
        | false => exact ih

end

end LikenessAux

open LikenessAux

/-- Of jobs with the same history, every selector and every filter selects the same runs and leaves the same context,
or fails alike. -/
theorem like_selectRuns {P : σ → Prop} {Q : τ → Prop} {job : Job σ} {other : Job τ} (h : Job.Like P Q job other)
    (selector : Selector) (filter? : Option (RunFilter Criterion)) (limit count : Nat) :
    Selecting.Like P Q
      (selectRuns limit job selector.enumerator (filter?.map fun filter => filter.judge Criterion.judge) count)
      (selectRuns limit other selector.enumerator (filter?.map fun filter => filter.judge Criterion.judge) count) := by
  induction count with
  | zero => exact selecting_like_pure []
  | succ count ih =>
    unfold selectRuns
    refine Selecting.Like.bind (like_selectRun h selector filter? limit) fun run? => ?_
    cases run? with
    | none => exact selecting_like_pure []
    | some run => exact Selecting.Like.bind ih fun others => selecting_like_pure (run :: others)

end RunPicker

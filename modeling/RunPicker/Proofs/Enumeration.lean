import RunPicker.Job.InMemory
import RunPicker.Proofs.Turn
import RunPicker.Proofs.Verdict

/-!
# Selections by a status

A selection by a status keeps no place in the history: every candidate is looked for anew, among the runs that are older
than the last one. `candidates` are the runs that are met in this way when the history is read once, `chosenRuns` the
first of them that a filter accepts. Over a history that is in the order of its numbers and stays as it is, a selection
of several runs gives exactly these and leaves the context of `contextAfterRuns` (`yields_selectRuns_byStatus`).
-/

namespace RunPicker

variable {σ : Type}

/-- The runs of a status that are older than the last candidate, by their numbers, from the newest to the oldest. -/
def olderOf (status : Status) (last? : Option Run) (history : List Run) : List Run :=
  (history.reverse.filter fun run => last?.all fun last => run.number < last.number).filter status.covers

/-- The candidates of a status after the last one: of the runs with one number only the first that is met. -/
def candidates (status : Status) (last? : Option Run) (history : List Run) : List Run :=
  (olderOf status last? history).eraseDupsBy fun run other => run.number == other.number

/-- The first candidates that a filter accepts, up to a number of them. Without a filter every candidate is accepted. -/
def chosenRuns (status : Status) (filter? : Option (RunFilter Criterion)) (history : List Run) (context : Context)
    (count : Nat) : List Run :=
  ((candidates status context.lastCandidate history).filter fun run =>
    filter?.all fun filter => filter.accepts context.vars run).take count

/-- The context after the candidates were searched for a number of runs: if that many were chosen, the search stopped at
the last of them, and otherwise it went to the end. -/
def contextAfterRuns (context : Context) (candidates chosen : List Run) (count : Nat) : Context :=
  { context with
    lastMatch := chosen.getLast?.or context.lastMatch
    lastCandidate := (if chosen.length = count then chosen.getLast? else candidates.getLast?).or context.lastCandidate }

namespace EnumerationAux

variable {status : Status} {last? : Option Run} {history rest : List Run} {run : Run}

/-- The first candidate is the first run of the status that is older than the last candidate. -/
theorem head?_candidates : (candidates status last? history).head? = (olderOf status last? history).head? := by
  rw [candidates]
  cases olderOf status last? history with
  | nil => rfl
  | cons run rest => rw [List.eraseDupsBy_cons, List.head?_cons, List.head?_cons]

/-- The runs of a status that are older than the last candidate are those of the history that are both. -/
theorem mem_olderOf : run ∈ olderOf status last? history ↔
    run ∈ history ∧ (∀ last ∈ last?, run.number < last.number) ∧ status.covers run = true := by
  cases last? <;> simp [olderOf, and_comm]

/-- There are no more runs of the status that are older than the last candidate than there are runs. -/
theorem length_olderOf_le (status : Status) (last? : Option Run) (history : List Run) :
    (olderOf status last? history).length ≤ history.length := by
  have hstatus := List.length_filter_le status.covers
    (history.reverse.filter fun run => last?.all fun last => run.number < last.number)
  have holder := List.length_filter_le (fun run => last?.all fun last => run.number < last.number) history.reverse
  rw [List.length_reverse] at holder
  rw [olderOf]
  exact Nat.le_trans hstatus holder

/-- A run that is older than the last candidate does not repeat it. -/
theorem isRepeated_of_olderOf {context : Context} (h : run ∈ olderOf status context.lastCandidate history) :
    isRepeated context run = false := by
  obtain ⟨-, holder, -⟩ := mem_olderOf.mp h
  rw [isRepeated_eq_false_iff]
  intro last hlast
  have hne : run.number ≠ last.number := by
    have := holder last hlast
    omega
  simp [Run.same, hne]

/-- What is older than a run that was older than the last candidate was older than the last candidate too. -/
theorem olderOf_of_lt (h : ∀ last ∈ last?, run.number < last.number) :
    olderOf status (some run) history =
      (olderOf status last? history).filter fun other => other.number < run.number := by
  unfold olderOf
  rw [List.filter_filter, List.filter_filter, List.filter_filter]
  refine List.filter_congr fun other _ => ?_
  cases last? with
  | none => simp [Bool.and_comm]
  | some last =>
    have hlast := h last rfl
    by_cases hother : other.number < run.number
    · have : other.number < last.number := by omega
      simp [hother, this]
    · simp [hother]

/-- The first candidate is the first of the runs among which they are found, and the others are found after it. -/
theorem olderOf_of_candidates (h : candidates status last? history = run :: rest) :
    ∃ others, olderOf status last? history = run :: others ∧
      rest = (others.filter fun other => (other.number == run.number) = false).eraseDupsBy
        fun run other => run.number == other.number := by
  unfold candidates at h
  cases holder : olderOf status last? history with
  | nil =>
    rw [holder] at h
    cases h
  | cons first others =>
    rw [holder, List.eraseDupsBy_cons] at h
    obtain ⟨rfl, rfl⟩ := List.cons.inj h
    exact ⟨others, rfl, rfl⟩

section

variable (sorted : history.Pairwise fun earlier later => earlier.number ≤ later.number)

include sorted

/-- What is older than the first of some runs are the others, without those of its number. -/
theorem olderOf_head (h : olderOf status last? history = run :: rest) :
    olderOf status (some run) history = rest.filter fun other => (other.number == run.number) = false := by
  have hdescending : (run :: rest).Pairwise fun newer older => older.number ≤ newer.number := by
    rw [← h]
    exact ((List.pairwise_reverse.mpr sorted).filter _).filter _
  have hfirst : run ∈ olderOf status last? history := h ▸ List.mem_cons_self ..
  obtain ⟨-, hlast, -⟩ := mem_olderOf.mp hfirst
  rw [olderOf_of_lt hlast, h, List.filter_cons_of_neg (by simp)]
  refine List.filter_congr fun other hother => ?_
  have hle : other.number ≤ run.number := (List.pairwise_cons.mp hdescending).1 other hother
  by_cases hnumber : other.number = run.number
  · simp [hnumber]
  · have : other.number < run.number := by omega
    simp [hnumber, this]

/-- The candidates after the first are the others. -/
theorem candidates_head (h : candidates status last? history = run :: rest) :
    candidates status (some run) history = rest := by
  obtain ⟨others, holder, rfl⟩ := olderOf_of_candidates h
  rw [candidates, olderOf_head sorted holder]

/-- After the first candidate there are fewer runs among which the next one is found. -/
theorem length_olderOf_head (h : candidates status last? history = run :: rest) :
    (olderOf status (some run) history).length < (olderOf status last? history).length := by
  obtain ⟨others, holder, -⟩ := olderOf_of_candidates h
  rw [olderOf_head sorted holder, holder, List.length_cons]
  exact Nat.lt_succ_of_le (List.length_filter_le _ _)

/-- The candidates after any of them are those that follow it. -/
theorem candidates_append {earlier : List Run} (h : candidates status last? history = earlier ++ run :: rest) :
    candidates status (some run) history = rest := by
  induction earlier generalizing last? with
  | nil => exact candidates_head sorted h
  | cons first earlier ih => exact ih (candidates_head sorted h)

end

variable {P : σ → Prop} {job : Job σ}

/-- The selector of a status reads the history and offers the first run of it that is older than the last candidate. -/
theorem next_byStatus_on (job : Job σ) (status : Status) (context : Context) (desk : Desk σ) :
    ((Selector.byStatus status).enumerator.next job context).on desk = match job.history.on desk with
      | (.ok history, after) => (.ok (olderOf status context.lastCandidate history).head?, after)
      | (.error failure, after) => (.error failure, after) := by
  have hnext : (Selector.byStatus status).enumerator.next job context = Selector.nextOfStatus status job context := rfl
  rw [hnext, Selector.nextOfStatus]
  simp only [olderOf, List.head?_filter]
  cases context.lastCandidate with
  | none =>
    have hall (runs : List Run) : (runs.filter fun _ => true) = runs := List.filter_eq_self.mpr fun _ _ => rfl
    simp only [Job.walk, Work.on_bind, Option.all_none, hall]
    rcases job.history.on desk with ⟨failure | history, after⟩ <;> rfl
  | some last =>
    simp only [Job.before, Work.on_bind]
    rcases job.history.on desk with ⟨failure | history, after⟩ <;> rfl

/-- The selector of a status offers the first candidate after the last one. -/
theorem yields_next (status : Status) (fixed : Work.Yields P job.history history) (context : Context) :
    Work.Yields P ((Selector.byStatus status).enumerator.next job context)
      (candidates status context.lastCandidate history).head? := by
  intro desk hP
  obtain ⟨after, hhistory, hP'⟩ := fixed desk hP
  refine ⟨after, ?_, hP'⟩
  rw [next_byStatus_on, hhistory, head?_candidates]

/-- After a candidate was rejected, the search goes on among the others. -/
theorem contextAfterRuns_seeing (context : Context) (chosen : List Run) {count : Nat} (h : 0 < count) :
    contextAfterRuns (context.seeing run) rest chosen count = contextAfterRuns context (run :: rest) chosen count := by
  simp only [contextAfterRuns, Context.seeing]
  by_cases hlength : chosen.length = count
  · cases chosen with
    | nil => exact absurd h (by rw [← hlength]; exact Nat.not_lt_zero _)
    | cons first others => simp [hlength, List.getLast?_cons]
  · simp [hlength, List.getLast?_cons]

/-- After a candidate was accepted, the search for the other runs goes on among those that follow it. -/
theorem contextAfterRuns_matching (context : Context) (earlier chosen : List Run) (count : Nat) :
    contextAfterRuns (context.matching run) rest chosen count =
      contextAfterRuns context (earlier ++ run :: rest) (run :: chosen) (count + 1) := by
  simp only [contextAfterRuns, Context.matching]
  by_cases hlength : chosen.length = count
  · simp [hlength, List.getLast?_cons]
  · simp [hlength, List.getLast?_cons]

variable {judge? : Option (Judge σ)} {accepts : Run → Bool} {vars : Environment}

/-- With some variables, the judge gives the verdicts of a predicate on the runs of a history. -/
def Decides (P : σ → Prop) (judge? : Option (Judge σ)) (vars : Environment) (accepts : Run → Bool)
    (history : List Run) : Prop :=
  ∀ run ∈ history, ∀ context : Context, context.vars = vars → ∀ desk : Desk σ, P desk.host →
    ∃ after : Desk σ, verdict judge? run context desk = (.ok (accepts run), after) ∧ P after.host

section

variable (sorted : history.Pairwise fun earlier later => earlier.number ≤ later.number)
  (fixed : Work.Yields P job.history history) (decides : Decides P judge? vars accepts history)

include sorted fixed decides

/-- A selection gives the first candidate that is accepted. -/
theorem yields_selectRun (limit : Nat) (context : Context) (hvars : context.vars = vars)
    (enough : (olderOf status context.lastCandidate history).length < limit) :
    Selecting.Yields P (selectRun job (Selector.byStatus status).enumerator judge? limit) context
      ((candidates status context.lastCandidate history).find? accepts)
      (contextAfterRuns context (candidates status context.lastCandidate history)
        ((candidates status context.lastCandidate history).find? accepts).toList 1) := by
  induction limit generalizing context with
  | zero => exact absurd enough (Nat.not_lt_zero _)
  | succ limit ih =>
    intro desk hP
    rw [selectRun_succ]
    obtain ⟨middle, hnext, hP'⟩ := yields_next status fixed context desk hP
    cases hcandidates : candidates status context.lastCandidate history with
    | nil =>
      rw [hcandidates] at hnext
      exact ⟨middle, by simp only [turn, hnext]; rfl, hP'⟩
    | cons run rest =>
      rw [hcandidates, List.head?_cons] at hnext
      have holder : run ∈ olderOf status context.lastCandidate history := by
        obtain ⟨others, holder, -⟩ := olderOf_of_candidates hcandidates
        exact holder ▸ List.mem_cons_self ..
      have hfresh := isRepeated_of_olderOf holder
      obtain ⟨after, hverdict, hP''⟩ := decides run (mem_olderOf.mp holder).1 (context.seeing run) hvars middle hP'
      cases haccepts : accepts run with
      | true =>
        rw [haccepts] at hverdict
        refine ⟨after.reporting (Selector.byStatus status).enumerator run, ?_, hP''⟩
        simp only [turn, hnext, hfresh, hverdict, List.find?_cons, haccepts]
        rfl
      | false =>
        rw [haccepts] at hverdict
        have hrest : candidates status (context.seeing run).lastCandidate history = rest :=
          candidates_head sorted hcandidates
        have hfewer := length_olderOf_head sorted hcandidates
        have henough : (olderOf status (context.seeing run).lastCandidate history).length < limit := by
          simp only [Context.seeing]
          omega
        obtain ⟨desk', hrun, hP'''⟩ := ih (context.seeing run) hvars henough after hP''
        rw [hrest, contextAfterRuns_seeing context _ Nat.one_pos] at hrun
        refine ⟨desk', ?_, hP'''⟩
        simp only [turn, hnext, hfresh, hverdict, List.find?_cons, haccepts]
        exact hrun

/-- A selection of several runs gives the first candidates that are accepted. -/
theorem yields_selectRuns {limit : Nat} (enough : history.length < limit) (count : Nat) (context : Context)
    (hvars : context.vars = vars) :
    Selecting.Yields P (selectRuns limit job (Selector.byStatus status).enumerator judge? count) context
      (((candidates status context.lastCandidate history).filter accepts).take count)
      (contextAfterRuns context (candidates status context.lastCandidate history)
        (((candidates status context.lastCandidate history).filter accepts).take count) count) := by
  induction count generalizing context with
  | zero =>
    have hcontext : contextAfterRuns context (candidates status context.lastCandidate history) [] 0 = context := by
      simp [contextAfterRuns]
    rw [List.take_zero, hcontext]
    exact Selecting.yields_pure [] context
  | succ count ih =>
    have hlength : (olderOf status context.lastCandidate history).length < limit :=
      Nat.lt_of_le_of_lt (length_olderOf_le status context.lastCandidate history) enough
    have hfirst := yields_selectRun sorted fixed decides limit context hvars hlength
    rw [selectRuns]
    cases hfind : (candidates status context.lastCandidate history).find? accepts with
    | none =>
      have hnone : (candidates status context.lastCandidate history).filter accepts = [] :=
        List.filter_eq_nil_iff.mpr (List.find?_eq_none.mp hfind)
      have hcontext : contextAfterRuns context (candidates status context.lastCandidate history) [] 1 =
          contextAfterRuns context (candidates status context.lastCandidate history) [] (count + 1) := by
        simp [contextAfterRuns]
      rw [hfind, Option.toList_none, hcontext] at hfirst
      rw [hnone, List.take_nil]
      exact hfirst.bind (Selecting.yields_pure _ _)
    | some run =>
      obtain ⟨haccepts, earlier, rest, hsplit, hrejected⟩ := List.find?_eq_some_iff_append.mp hfind
      have hearlier : earlier.filter accepts = [] := List.filter_eq_nil_iff.mpr (by simpa using hrejected)
      have hrest : candidates status (context.matching run).lastCandidate history = rest :=
        candidates_append sorted hsplit
      have hcontext : contextAfterRuns context (candidates status context.lastCandidate history) [run] 1 =
          context.matching run := by
        simp [contextAfterRuns, Context.matching]
      have hothers := ih (context.matching run) hvars
      rw [hrest, contextAfterRuns_matching context earlier, ← hsplit] at hothers
      rw [hfind, Option.toList_some, hcontext] at hfirst
      rw [hsplit, List.filter_append, hearlier, List.nil_append, List.filter_cons_of_pos haccepts,
        List.take_succ_cons, ← hsplit]
      exact hfirst.bind (hothers.bind (Selecting.yields_pure _ _))

end

/-- The judge of a filter gives the verdicts of the filter on readable runs, and where there is no filter every run is
accepted. -/
theorem decides_filter (filter? : Option (RunFilter Criterion))
    (readable : filter?.isSome = true → ∀ run ∈ history, run.Readable) :
    Decides P (filter?.map fun filter => filter.judge Criterion.judge) vars
      (fun run => filter?.all fun filter => filter.accepts vars run) history := by
  intro run hrun context hvars desk hP
  cases filter? with
  | none => exact ⟨desk, rfl, hP⟩
  | some filter =>
    rw [← hvars]
    exact yields_judge (readable rfl run hrun) filter context desk hP

end EnumerationAux

open EnumerationAux

/-- Over a history that is in the order of its numbers and that stays as it is, a selection of several runs by a status
gives the first candidates that the filter accepts, up to the number of runs that are asked for. It comes to an end
under every limit beyond the length of the history. If it gave all runs that were asked for, the last candidate is the
last of them, and otherwise it is the last of all candidates. -/
theorem yields_selectRuns_byStatus {P : σ → Prop} {job : Job σ} {history : List Run}
    (sorted : history.Pairwise fun earlier later => earlier.number ≤ later.number)
    (fixed : Work.Yields P job.history history) (status : Status) (filter? : Option (RunFilter Criterion))
    (readable : filter?.isSome = true → ∀ run ∈ history, run.Readable) {limit : Nat} (enough : history.length < limit)
    (count : Nat) (context : Context) :
    Selecting.Yields P
      (selectRuns limit job (Selector.byStatus status).enumerator
        (filter?.map fun filter => filter.judge Criterion.judge) count)
      context (chosenRuns status filter? history context count)
      (contextAfterRuns context (candidates status context.lastCandidate history)
        (chosenRuns status filter? history context count) count) :=
  yields_selectRuns sorted fixed (decides_filter filter? readable) enough count context rfl

/-- Of five runs, two of them with one number, the two newest that are older than the last candidate and that are not
named `#3` are chosen. -/
theorem yields_selectRuns_byStatus_of_five :
    let run (number : Int) (name : String) : Run := ⟨number, .success, false, .available [], [], name⟩
    let history := [run 1 "#1", run 2 "first", run 2 "second", run 3 "#3", run 4 "#4"]
    Selecting.Yields (fun host : Recorded => host.runs = history)
      (selectRuns 6 Recorded.job (Selector.byStatus .successful).enumerator
        (some ((RunFilter.not (.leaf (.displayName "#3"))).judge Criterion.judge)) 2)
      ⟨[], none, some (run 4 "#4")⟩ [run 2 "second", run 1 "#1"] ⟨[], some (run 1 "#1"), some (run 1 "#1")⟩ := by
  intro run history
  have hexpand : Environment.expand [] "#3" = "#3" := by
    simp [Environment.expand, Environment.expandChars, pieces, firstPiece, Environment.valueOf, Piece.source]
  have hchosen : chosenRuns .successful (some (.not (.leaf (.displayName "#3")))) history
      ⟨[], none, some (run 4 "#4")⟩ 2 = [run 2 "second", run 1 "#1"] := by
    simp only [chosenRuns, Option.all_some, RunFilter.accepts, RunFilter.truth, Criterion.accepts, hexpand]
    rfl
  have hfixed : Work.Yields (fun host : Recorded => host.runs = history) Recorded.job.history history :=
    fun desk hdesk => ⟨desk, by rw [← hdesk]; rfl, hdesk⟩
  have hrun : ∀ number name, (run number name).Readable := by
    intro number name failure h
    have hok : (run number name).environment = .ok [] := rfl
    rw [hok] at h
    cases h
  have hreadable : ∀ other ∈ history, other.Readable := by
    simp only [history, List.forall_mem_cons, hrun, List.not_mem_nil, false_imp_iff, implies_true, and_self]
  have hsorted : history.Pairwise fun earlier later => earlier.number ≤ later.number := by decide
  have hyields := yields_selectRuns_byStatus hsorted hfixed .successful (some (.not (.leaf (.displayName "#3"))))
    (fun _ => hreadable) (Nat.lt_succ_self 5) 2 ⟨[], none, some (run 4 "#4")⟩
  rw [hchosen] at hyields
  exact hyields

end RunPicker

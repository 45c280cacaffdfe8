import RunPicker.Proofs.Turn

/-!
# Journals

A journal makes visible what an operation asks for. `Work.journaled` carries an operation out beside a journal and makes
one entry of it, and changes nothing else (`Work.on_journaled`). For a selection an `Entry` is a question to the
enumerator or to the judge, with its answer and with the desk before and after, and `selectRunJournaled` is the
selection in which every such question is entered; turn by turn it is the selection itself (`turn_journaled`), and so
it is as a whole (`selectRun_journaled`), where its entries are the `selectionEntries`.
-/

namespace RunPicker

variable {ε σ α : Type}

/-- A host beside which a journal is kept. -/
structure Journal (ε σ : Type) where
  host : σ
  entries : List ε

/-- The desk with a journal beside its host. -/
def Desk.withJournal (desk : Desk σ) (entries : List ε) : Desk (Journal ε σ) :=
  ⟨desk.console, ⟨desk.host, entries⟩⟩

/-- The desk without its journal. -/
def Desk.plain (desk : Desk (Journal ε σ)) : Desk σ :=
  ⟨desk.console, desk.host.host⟩

/-- The operation, of which one entry is made when it is done. -/
def Work.journaled (entry : Desk σ → Except Failure α → Desk σ → ε) (work : Work σ α) : Work (Journal ε σ) α :=
  ExceptT.mk fun desk =>
    let (result, after) := work.on desk.plain
    (result, after.withJournal (desk.host.entries ++ [entry desk.plain result after]))

/-- A journal takes nothing from an operation: it gives what it gave and leaves the desk that it left. -/
@[simp] theorem Work.on_journaled (entry : Desk σ → Except Failure α → Desk σ → ε) (work : Work σ α) (desk : Desk σ)
    (entries : List ε) : (work.journaled entry).on (desk.withJournal entries) =
      ((work.on desk).1,
        (work.on desk).2.withJournal (entries ++ [entry desk (work.on desk).1 (work.on desk).2])) := rfl

/-- The job of a host beside which a journal is kept. -/
def Job.besideJournal (job : Job σ) : Job (Journal ε σ) where
  name := job.name.onPart Journal.host fun host journal => { journal with host }
  history := job.history.onPart Journal.host fun host journal => { journal with host }

/-- A question of a selection with its answer: for a candidate, or on a candidate. -/
inductive Exchange where
  | offer (answer : Except Failure (Option Run))
  | verdict (run : Run) (answer : Except Failure Bool)

/-- An exchange with the context in which the question was asked, and the desk before and after. -/
structure Entry (σ : Type) where
  context : Context
  exchange : Exchange
  before : Desk σ
  after : Desk σ

/-- The way of offering the runs of a job, of which every offer is entered. -/
def journaledOffer (job : Job σ) (offer : Job σ → Context → Work σ (Option Run)) :
    Job (Journal (Entry σ) σ) → Context → Work (Journal (Entry σ) σ) (Option Run) := fun _ context =>
  (offer job context).journaled fun before answer after => ⟨context, .offer answer, before, after⟩

/-- The enumerator of the runs of a job, of which every offer is entered. -/
def Enumerator.journaled (job : Job σ) (enumerator : Enumerator σ) : Enumerator (Journal (Entry σ) σ) :=
  ⟨enumerator.displayName, journaledOffer job enumerator.next⟩

/-- The judge, of which every answer is entered. -/
def Judge.journaled (judge : Judge σ) : Judge (Journal (Entry σ) σ) := fun run context =>
  (judge run context).journaled fun before answer after => ⟨context, .verdict run answer, before, after⟩

/-- The selection in which every question to the enumerator and to the judge is entered. -/
def selectRunJournaled (job : Job σ) (enumerator : Enumerator σ) (judge? : Option (Judge σ)) (limit : Nat) :
    Selecting (Journal (Entry σ) σ) (Option Run) :=
  selectRun job.besideJournal (enumerator.journaled job) (judge?.map Judge.journaled) limit

/-- The entries of a journal follow one another: each begins with the desk that the one before it left. -/
def Linked : Desk σ → List (Entry σ) → Desk σ → Prop
  | start, [], finish => start = finish
  | start, entry :: rest, finish => entry.before = start ∧ Linked entry.after rest finish

/-- Journals that follow one another make one journal. -/
theorem Linked.append {start middle finish : Desk σ} {entries rest : List (Entry σ)} (h : Linked start entries middle)
    (h' : Linked middle rest finish) : Linked start (entries ++ rest) finish := by
  induction entries generalizing start with
  | nil =>
    obtain rfl : start = middle := h
    exact h'
  | cons entry entries ih => exact ⟨h.1, ih h.2⟩

/-- The entry of the answer on a candidate, if there is a judge. -/
def verdictEntries (judge? : Option (Judge σ)) (run : Run) (context : Context) (desk : Desk σ) : List (Entry σ) :=
  if judge?.isSome then
    [⟨context, .verdict run (verdict judge? run context desk).1, desk, (verdict judge? run context desk).2⟩]
  else []

section

variable (job : Job σ) (enumerator : Enumerator σ) (judge? : Option (Judge σ))

@[simp] theorem next_journaled_on (job' : Job (Journal (Entry σ) σ)) (context : Context) (desk : Desk σ)
    (entries : List (Entry σ)) :
    ((enumerator.journaled job).next job' context).on (desk.withJournal entries) =
      (((enumerator.next job context).on desk).1, ((enumerator.next job context).on desk).2.withJournal
        (entries ++ [⟨context, .offer ((enumerator.next job context).on desk).1, desk,
          ((enumerator.next job context).on desk).2⟩])) := rfl

@[simp] theorem verdict_journaled (run : Run) (context : Context) (desk : Desk σ) (entries : List (Entry σ)) :
    verdict (judge?.map Judge.journaled) run context (desk.withJournal entries) =
      ((verdict judge? run context desk).1,
        (verdict judge? run context desk).2.withJournal (entries ++ verdictEntries judge? run context desk)) := by
  cases judge? with
  | none => simp [verdict, verdictEntries]
  | some judge => rfl

/-- The entries of one turn: the offer, and the answer on it if it is judged. -/
def turnEntries (context : Context) (desk : Desk σ) : List (Entry σ) :=
  let (answer, after) := (enumerator.next job context).on desk
  ⟨context, .offer answer, desk, after⟩ :: match answer with
    | .ok (some run) => if isRepeated context run then [] else verdictEntries judge? run (context.seeing run) after
    | _ => []

/-- A turn with a journal beside the desk that it leaves. -/
def Turn.withJournal (entries : List (Entry σ)) : Turn σ → Turn (Journal (Entry σ) σ)
  | .ended result session => .ended result ⟨session.context, session.desk.withJournal entries⟩
  | .rejected run session => .rejected run ⟨session.context, session.desk.withJournal entries⟩

/-- A turn beside a journal is the turn itself, and its entries are made. -/
theorem turn_journaled (context : Context) (desk : Desk σ) (done : List (Entry σ)) :
    turn job.besideJournal (enumerator.journaled job) (judge?.map Judge.journaled) ⟨context, desk.withJournal done⟩ =
      (turn job enumerator judge? ⟨context, desk⟩).withJournal
        (done ++ turnEntries job enumerator judge? context desk) := by
  simp only [turn, next_journaled_on, turnEntries]
  rcases (enumerator.next job context).on desk with ⟨failure | _ | run, after⟩
  · rfl
  · rfl
  · simp only
    split
    · rfl
    · simp only [verdict_journaled, List.append_assoc, List.singleton_append]
      rcases verdict judge? run (context.seeing run) after with ⟨failure | _ | _, after'⟩ <;> rfl

/-- The entries of a selection, from the first question to the last. -/
def selectionEntries (limit : Nat) (context : Context) (desk : Desk σ) : List (Entry σ) :=
  ((selectRunJournaled job enumerator judge? limit).on ⟨context, desk.withJournal []⟩).2.desk.host.entries

/-- A selection beside a journal is the selection itself, and its entries are made. -/
theorem selectRun_journaled (limit : Nat) (context : Context) (desk : Desk σ) (done : List (Entry σ)) :
    (selectRunJournaled job enumerator judge? limit).on ⟨context, desk.withJournal done⟩ =
      (((selectRun job enumerator judge? limit).on ⟨context, desk⟩).1,
        ⟨((selectRun job enumerator judge? limit).on ⟨context, desk⟩).2.context,
          ((selectRun job enumerator judge? limit).on ⟨context, desk⟩).2.desk.withJournal
            (done ++ selectionEntries job enumerator judge? limit context desk)⟩) := by
  -- the entries are the same whatever was entered before, so those of `selectionEntries` are the only ones
  have hentries : ∃ entries, ∀ done, (selectRunJournaled job enumerator judge? limit).on
      ⟨context, desk.withJournal done⟩ = (((selectRun job enumerator judge? limit).on ⟨context, desk⟩).1,
        ⟨((selectRun job enumerator judge? limit).on ⟨context, desk⟩).2.context,
          ((selectRun job enumerator judge? limit).on ⟨context, desk⟩).2.desk.withJournal (done ++ entries)⟩) := by
    induction limit generalizing context desk with
    | zero => exact ⟨[], fun done => by rw [List.append_nil]; rfl⟩
    | succ limit ih =>
      cases hturn : turn job enumerator judge? ⟨context, desk⟩ with
      | ended result after =>
        refine ⟨turnEntries job enumerator judge? context desk, fun done => ?_⟩
        rw [selectRunJournaled, selectRun_succ, selectRun_succ, turn_journaled, hturn]
        rfl
      | rejected run after =>
        obtain ⟨entries, hrest⟩ := ih after.context after.desk
        refine ⟨turnEntries job enumerator judge? context desk ++ entries, fun done => ?_⟩
        rw [selectRunJournaled, selectRun_succ, selectRun_succ, turn_journaled, hturn, ← List.append_assoc]
        exact hrest _
  obtain ⟨entries, h⟩ := hentries
  have hjournal : selectionEntries job enumerator judge? limit context desk = entries := by
    rw [selectionEntries, h]
    rfl
  rw [hjournal]
  exact h done

@[simp] theorem selectionEntries_zero (context : Context) (desk : Desk σ) :
    selectionEntries job enumerator judge? 0 context desk = [] := rfl

/-- The entries of a selection are those of its first turn and, if that does not end it, those of what is left. -/
theorem selectionEntries_succ (limit : Nat) (context : Context) (desk : Desk σ) :
    selectionEntries job enumerator judge? (limit + 1) context desk =
      turnEntries job enumerator judge? context desk ++ match turn job enumerator judge? ⟨context, desk⟩ with
        | .ended _ _ => []
        | .rejected _ after => selectionEntries job enumerator judge? limit after.context after.desk := by
  rw [selectionEntries, selectRunJournaled, selectRun_succ, turn_journaled]
  cases turn job enumerator judge? ⟨context, desk⟩ with
  | ended result after => exact (List.append_nil _).symm
  | rejected run after =>
    have hrest := selectRun_journaled job enumerator judge? limit after.context after.desk
      (turnEntries job enumerator judge? context desk)
    exact congrArg (fun outcome => outcome.2.desk.host.entries) hrest

end

end RunPicker

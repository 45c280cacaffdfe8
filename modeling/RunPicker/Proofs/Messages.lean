import RunPicker.Proofs.Unloadable

/-!
# Messages

What a command prints, apart from how it is printed. A `Message` is what is told to the console, which prints it as its
settings say, or not at all. Work is impartial if no console makes a difference to it: it gives the same, leaves the
same host, and tells the same messages. Everything that a command does is impartial (`perform_told`), up to the runs
that it lists at last. What it tells while it reads files and selects runs are asides (`Message.IsAside`).
-/

namespace RunPicker

variable {σ τ α β : Type}

/-- What a command tells the console. -/
inductive Message where
  | noticed (notice : Notice)
  /-- How far the command has come. -/
  | progress (text : String)
  | warning (text : String)
  /-- No run of a job was selected. -/
  | nothingSelected (job : String)
  | error (text : String)
  /-- The name of the job whose runs are listed. -/
  | heading (job : String)
  /-- A run was selected. -/
  | selected (run : String)
deriving DecidableEq, Inhabited, Repr

/-- The message is told in passing: it is neither a result of a command nor an error. -/
def Message.IsAside : Message → Prop
  | .noticed _ | .progress _ | .warning _ => True
  | .nothingSelected _ | .error _ | .heading _ | .selected _ => False

/-- The console with a message told to it. -/
def Message.tell : Message → Console → Console
  | .noticed notice, console => console.note notice
  | .progress text, console => console.inform infoLevel text
  | .warning text, console => console.warn text "\n"
  | .nothingSelected job, console =>
    console.warn ("no run of " ++ console.settings.highlight job ++ " matches the criteria") "\n"
  | .error text, console => console.reportError text true
  | .heading job, console => console.heading job .blue true
  | .selected run, console => console.item "selected run" (console.settings.highlight run) "-"

namespace Console

/-- The console with messages told to it, one after the other. -/
def told (console : Console) (messages : List Message) : Console :=
  messages.foldl (fun console message => message.tell console) console

/-- The console with runs listed on it. -/
def listing (console : Console) (runs : List Run) : Console :=
  runs.foldl (fun console run => Program.printListed run console) console

/-- Messages are told one after the other. -/
theorem told_append (console : Console) (messages others : List Message) :
    console.told (messages ++ others) = (console.told messages).told others :=
  List.foldl_append

end Console

namespace Program

/-- The first part of a command: the runs that are selected, or those that are listed, with their heading. -/
def picks : Command → Work Shelf (List Run)
  | .select history options => do
    let config ← configOf options
    reporting isOfSelection (selected (Shelf.job history) options config)
  | .list history => reporting isOfHistory do
    let runs ← (Shelf.job history).walk
    let name ← (Shelf.job history).name
    Work.onConsole (Console.heading name .blue true)
    return runs

/-- Names the runs that are selected, or warns that there are none. -/
def announce (history : String) (runs : List Run) : Work Shelf Unit := do
  if runs.isEmpty then
    let name ← (Shelf.job history).name
    Work.onConsole fun console =>
      console.warn ("no run of " ++ console.settings.highlight name ++ " matches the criteria") "\n"
    throw failedExit
  runs.forM fun run => Work.onConsole fun console =>
    console.item "selected run" (console.settings.highlight run.displayName) "-"

/-- The second part of a command: the runs that were picked are printed. -/
def display (command : Command) (runs : List Run) : Work Shelf Unit :=
  match command with
  | .select history _ => announce history runs
  | .list _ => runs.forM fun run => Work.onConsole (printListed run)

/-- A command picks its runs, and then it prints them. -/
theorem perform_eq (command : Command) : perform command = picks command >>= display command := by
  cases command with
  | select history options =>
    rw [picks, bind_assoc]
    rfl
  | list history => rfl

end Program

/-- Whatever the console, the operation gives the same, leaves the same host, and tells the same messages. -/
def Work.Impartial (work : Work σ α) : Prop :=
  ∀ host, ∃ result messages after, ∀ console, work.on ⟨console, host⟩ = (result, ⟨console.told messages, after⟩)

/-- The operation is impartial, and the messages that it tells are all of a kind. -/
def Work.TellsOnly (kind : Message → Prop) (work : Work σ α) : Prop :=
  ∀ host, ∃ result messages after, (∀ message ∈ messages, kind message) ∧
    ∀ console, work.on ⟨console, host⟩ = (result, ⟨console.told messages, after⟩)

/-- Whatever the console, the operation gives the same, leaves the same context and host, and tells the same messages,
which are all of a kind. -/
def Selecting.TellsOnly (kind : Message → Prop) (operation : Selecting σ α) : Prop :=
  ∀ context host, ∃ result messages context' after, (∀ message ∈ messages, kind message) ∧
    ∀ console, operation.on ⟨context, console, host⟩ = (result, ⟨context', console.told messages, after⟩)

/-- Reading the name or the history of a job, no messages are told but those of a kind. -/
structure Job.TellsOnly (kind : Message → Prop) (job : Job σ) : Prop where
  name : job.name.TellsOnly kind
  history : job.history.TellsOnly kind

/-! ## Closure -/

section

variable {kind kind' : Message → Prop}

/-- What tells messages of one kind is impartial. -/
theorem Work.TellsOnly.impartial {work : Work σ α} (h : work.TellsOnly kind) : work.Impartial := by
  intro host
  obtain ⟨result, messages, after, -, hwork⟩ := h host
  exact ⟨result, messages, after, hwork⟩

/-- The kind of what is told can be widened. -/
theorem Work.TellsOnly.mono {work : Work σ α} (h : work.TellsOnly kind)
    (hkind : ∀ message, kind message → kind' message) : work.TellsOnly kind' := by
  intro host
  obtain ⟨result, messages, after, hmessages, hwork⟩ := h host
  exact ⟨result, messages, after, fun message hmessage => hkind message (hmessages message hmessage), hwork⟩

/-- Operations that tell messages of a kind may follow one another. -/
theorem Work.TellsOnly.bind {work : Work σ α} {next : α → Work σ β} (hw : work.TellsOnly kind)
    (hn : ∀ value, (next value).TellsOnly kind) : (work >>= next).TellsOnly kind := by
  intro host
  obtain ⟨result, messages, middle, hmessages, hwork⟩ := hw host
  cases result with
  | error failure =>
    refine ⟨.error failure, messages, middle, hmessages, fun console => ?_⟩
    rw [Work.on_bind, hwork]
  | ok value =>
    obtain ⟨result, others, after, hothers, hnext⟩ := hn value middle
    refine ⟨result, messages ++ others, after, List.forall_mem_append.mpr ⟨hmessages, hothers⟩, fun console => ?_⟩
    rw [Work.on_bind, hwork, Console.told_append]
    exact hnext _

/-- An operation on a part of the host tells on the whole what it tells on the part. -/
theorem Work.TellsOnly.onPart {part : σ → τ} {replace : τ → σ → σ} {work : Work τ α} (h : work.TellsOnly kind) :
    (work.onPart part replace).TellsOnly kind := by
  intro host
  obtain ⟨result, messages, after, hmessages, hwork⟩ := h (part host)
  refine ⟨result, messages, replace after host, hmessages, fun console => ?_⟩
  rw [LoadingAux.onPart_on]
  simp only [hwork]

/-- An error that ends the program is told like anything else. -/
theorem Work.TellsOnly.reporting {isReported : Failure → Bool} {work : Work σ α} (h : work.TellsOnly kind)
    (herror : ∀ text, kind (.error text)) : (Program.reporting isReported work).TellsOnly kind := by
  intro host
  obtain ⟨result, messages, after, hmessages, hwork⟩ := h host
  cases result with
  | ok value =>
    refine ⟨.ok value, messages, after, hmessages, fun console => ?_⟩
    rw [UnloadableAux.reporting_on, hwork]
  | error failure =>
    cases hreported : isReported failure with
    | true =>
      refine ⟨.error failedExit, messages ++ [.error failure.message], after,
        List.forall_mem_append.mpr ⟨hmessages, List.forall_mem_singleton.mpr (herror _)⟩, fun console => ?_⟩
      rw [UnloadableAux.reporting_on, hwork, Console.told_append]
      simp only [hreported, if_true]
      rfl
    | false =>
      refine ⟨.error failure, messages, after, hmessages, fun console => ?_⟩
      rw [UnloadableAux.reporting_on, hwork]
      simp only [hreported, Bool.false_eq_true, if_false]

/-- What two operations of a selection tell is of one kind, if both tell only of that kind. -/
theorem Selecting.TellsOnly.bind {operation : Selecting σ α} {next : α → Selecting σ β} (ho : operation.TellsOnly kind)
    (hn : ∀ value, (next value).TellsOnly kind) : (operation >>= next).TellsOnly kind := by
  intro context host
  obtain ⟨result, messages, context', middle, hmessages, hoperation⟩ := ho context host
  cases result with
  | error failure =>
    refine ⟨.error failure, messages, context', middle, hmessages, fun console => ?_⟩
    rw [Selecting.on_bind, hoperation]
  | ok value =>
    obtain ⟨result, others, context'', after, hothers, hnext⟩ := hn value context' middle
    refine ⟨result, messages ++ others, context'', after, List.forall_mem_append.mpr ⟨hmessages, hothers⟩,
      fun console => ?_⟩
    rw [Selecting.on_bind, hoperation, Console.told_append]
    exact hnext _

/-- In a given context an operation of a selection tells nothing else. -/
theorem Selecting.TellsOnly.within {operation : Selecting σ α} (h : operation.TellsOnly kind) (context : Context) :
    (operation.within context).TellsOnly kind := by
  intro host
  obtain ⟨result, messages, context', after, hmessages, hoperation⟩ := h context host
  refine ⟨result, messages, after, hmessages, fun console => ?_⟩
  have hwithin : (operation.within context).on ⟨console, host⟩ =
      ((operation.on ⟨context, console, host⟩).1, (operation.on ⟨context, console, host⟩).2.desk) := rfl
  rw [hwithin, hoperation]

end

namespace MessagesAux

open Message StoredHistoryAux

/-! ## Work -/

section

variable {kind : Message → Prop}

/-- Returning a result or failing with one tells nothing. -/
theorem tellsOnly_ofExcept (result : Except Failure α) : (Work.ofExcept result : Work σ α).TellsOnly kind :=
  fun host => ⟨result, [], host, List.forall_mem_nil _, fun _ => rfl⟩

/-- Returning a value tells nothing. -/
theorem tellsOnly_pure (value : α) : (pure value : Work σ α).TellsOnly kind :=
  tellsOnly_ofExcept (.ok value)

/-- Failing tells nothing by itself. -/
theorem tellsOnly_throw (failure : Failure) : (throw failure : Work σ α).TellsOnly kind :=
  tellsOnly_ofExcept (.error failure)

/-- Looking at the host tells nothing. -/
theorem tellsOnly_host : (Work.host : Work σ σ).TellsOnly kind :=
  fun host => ⟨.ok host, [], host, List.forall_mem_nil _, fun _ => rfl⟩

/-- Changing the host tells nothing. -/
theorem tellsOnly_onHost (change : σ → σ) : (Work.onHost change).TellsOnly kind :=
  fun host => ⟨.ok (), [], change host, List.forall_mem_nil _, fun _ => rfl⟩

/-- To tell a message is all that is done to the console. -/
theorem tellsOnly_tell (message : Message) (h : kind message) :
    (Work.onConsole message.tell : Work σ Unit).TellsOnly kind :=
  fun host => ⟨.ok (), [message], host, List.forall_mem_singleton.mpr h, fun _ => rfl⟩

end

/-! ## Judges -/

/-- Declining a run tells only its notice. -/
theorem tellsOnly_decline (notice : Notice) : (Criterion.decline notice : Work σ Bool).TellsOnly IsAside :=
  (tellsOnly_tell (.noticed notice) trivial).bind fun _ => tellsOnly_pure false

/-- A criterion tells at most why it declines. -/
theorem tellsOnly_criterion (criterion : Criterion) (run : Run) (context : Context) :
    (criterion.judge run context : Work σ Bool).TellsOnly IsAside := by
  cases criterion with
  | parameters wanted =>
    refine (tellsOnly_ofExcept run.lookup).bind fun answer => ?_
    cases answer with
    | failed failure => exact tellsOnly_decline _
    | found vars =>
      dsimp only
      split
      · exact tellsOnly_pure true
      · exact tellsOnly_decline _
  | displayName name =>
    simp only [Criterion.judge]
    split
    · exact tellsOnly_pure true
    · exact tellsOnly_decline _

/-- A filter tells no more than its conditions. -/
theorem tellsOnly_holds {kind : Message → Prop} {judge : α → Work σ Bool}
    (h : ∀ condition, (judge condition).TellsOnly kind) (filter : RunFilter α) :
    (filter.holds judge).TellsOnly kind := by
  have composes : RunFilter.Composes fun (work : Work σ Bool) (_ : Work σ Bool) => work.TellsOnly kind :=
    ⟨tellsOnly_pure, fun hwork hnext => hwork.bind hnext⟩
  exact @RunFilter.holds_related _ _ _ _ _ _ judge judge composes h filter

/-! ## Selectors -/

section

variable {job : Job σ} (hjob : job.TellsOnly IsAside)

include hjob

/-- Looking for the next run of a status tells nothing but asides. -/
theorem tellsOnly_nextOfStatus (status : Status) (context : Context) :
    (Selector.nextOfStatus status job context).TellsOnly IsAside := by
  unfold Selector.nextOfStatus
  cases context.lastCandidate with
  | none => exact (hjob.history.bind fun _ => tellsOnly_pure _).bind fun _ => tellsOnly_pure _
  | some candidate => exact (hjob.history.bind fun _ => tellsOnly_pure _).bind fun _ => tellsOnly_pure _

/-- Locating a run by its number tells nothing but asides. -/
theorem tellsOnly_locateNumber (text : String) (context : Context) :
    (Selector.locateNumber text job context).TellsOnly IsAside := by
  simp only [Selector.locateNumber]
  cases Text.integer? (Text.trim (context.expand text)) with
  | none => exact (tellsOnly_tell (.noticed _) trivial).bind fun _ => tellsOnly_pure none
  | some number =>
    refine Work.TellsOnly.bind (hjob.history.bind fun _ => tellsOnly_pure _) fun run => ?_
    cases run with
    | none => exact (tellsOnly_tell (.noticed _) trivial).bind fun _ => tellsOnly_pure none
    | some run => exact tellsOnly_pure (some run)

/-- Looking up a permalink tells nothing but asides. -/
theorem tellsOnly_runOfPermalink (id : String) : (job.runOfPermalink id).TellsOnly IsAside := by
  unfold Job.runOfPermalink
  cases Permalink.ofId? id with
  | none => exact tellsOnly_pure none
  | some named => exact hjob.history.bind fun _ => tellsOnly_pure _

/-- Locating a run by a permalink tells nothing but asides. -/
theorem tellsOnly_locatePermalink (permalink : Permalink) (context : Context) :
    (Selector.locatePermalink permalink job context).TellsOnly IsAside := by
  unfold Selector.locatePermalink
  refine (tellsOnly_runOfPermalink hjob permalink.id).bind fun run => ?_
  cases run with
  | none =>
    exact hjob.name.bind fun _ => (tellsOnly_tell (.noticed _) trivial).bind fun _ => tellsOnly_pure none
  | some run => exact tellsOnly_pure (some run)

/-- While a selector looks for a run, asides are told. -/
theorem tellsOnly_next (selector : Selector) (context : Context) :
    (selector.enumerator.next job context).TellsOnly IsAside := by
  cases selector with
  | byStatus status => exact tellsOnly_nextOfStatus hjob status context
  | byNumber text =>
    simp only [Selector.enumerator, Enumerator.specific]
    split
    · exact tellsOnly_pure none
    · exact tellsOnly_locateNumber hjob text context
  | byPermalink permalink =>
    simp only [Selector.enumerator, Enumerator.specific]
    split
    · exact tellsOnly_pure none
    · exact tellsOnly_locatePermalink hjob permalink context

end

/-! ## Selections -/

/-- Returning a value in a selection tells nothing. -/
theorem tellsOnly_selecting_pure {kind : Message → Prop} (value : α) :
    (pure value : Selecting σ α).TellsOnly kind :=
  fun context host => ⟨.ok value, [], context, host, List.forall_mem_nil _, fun _ => rfl⟩

section

variable {job : Job σ} {enumerator : Enumerator σ} {judge? : Option (Judge σ)}
  (hnext : ∀ context, (enumerator.next job context).TellsOnly IsAside)
  (hjudge : ∀ judge ∈ judge?, ∀ run context, (judge run context).TellsOnly IsAside)

include hjudge in
/-- A verdict tells asides, and neither its result nor the host depends on the console. -/
theorem exists_verdict_told (run : Run) (context : Context) (host : σ) :
    ∃ result messages after, (∀ message ∈ messages, IsAside message) ∧
      ∀ console, verdict judge? run context ⟨console, host⟩ = (result, ⟨console.told messages, after⟩) := by
  cases judge? with
  | none => exact ⟨.ok true, [], host, List.forall_mem_nil _, fun _ => rfl⟩
  | some judge => exact hjudge judge rfl run context host

include hnext hjudge

/-- A turn of a selection comes to the same on every console, and tells asides. -/
theorem exists_turn_told (context : Context) (host : σ) :
    (∃ result messages context' after, (∀ message ∈ messages, IsAside message) ∧
      ∀ console, turn job enumerator judge? ⟨context, console, host⟩ =
        .ended result ⟨context', console.told messages, after⟩) ∨
    ∃ run messages context' after, (∀ message ∈ messages, IsAside message) ∧
      ∀ console, turn job enumerator judge? ⟨context, console, host⟩ =
        .rejected run ⟨context', console.told messages, after⟩ := by
  obtain ⟨offer, offered, middle, hoffered, hoffer⟩ := hnext context host
  rcases offer with failure | _ | run
  · exact Or.inl ⟨.error failure, offered, context, middle, hoffered, fun console => by simp only [turn, hoffer]⟩
  · exact Or.inl ⟨.ok none, offered, context, middle, hoffered, fun console => by simp only [turn, hoffer]⟩
  · cases hrepeated : isRepeated context run with
    | true =>
      refine Or.inl ⟨.ok none, offered ++ [.noticed (.offeredAgain enumerator.displayName run.displayName)], context,
        middle, List.forall_mem_append.mpr ⟨hoffered, List.forall_mem_singleton.mpr (by trivial)⟩, fun console => ?_⟩
      simp only [turn, hoffer, hrepeated, if_true, Console.told_append]
      rfl
    | false =>
      obtain ⟨answer, judged, after, hjudged, hanswer⟩ := exists_verdict_told hjudge run (context.seeing run) middle
      have hboth := List.forall_mem_append.mpr ⟨hoffered, hjudged⟩
      rcases answer with failure | _ | _
      · refine Or.inl ⟨.error failure, offered ++ judged, context.seeing run, after, hboth, fun console => ?_⟩
        simp only [turn, hoffer, hrepeated, Bool.false_eq_true, if_false, hanswer, Console.told_append]
      · refine Or.inr ⟨run, offered ++ judged, context.seeing run, after, hboth, fun console => ?_⟩
        simp only [turn, hoffer, hrepeated, Bool.false_eq_true, if_false, hanswer, Console.told_append]
      · refine Or.inl ⟨.ok (some run),
          offered ++ judged ++ [.progress (enumerator.displayName ++ ": selected " ++ run.displayName)],
          context.matching run, after, List.forall_mem_append.mpr ⟨hboth, List.forall_mem_singleton.mpr (by trivial)⟩,
          fun console => ?_⟩
        simp only [turn, hoffer, hrepeated, Bool.false_eq_true, if_false, hanswer, Console.told_append]
        rfl

/-- So does a selection: it goes on turn by turn. -/
theorem tellsOnly_selectRun (limit : Nat) : (selectRun job enumerator judge? limit).TellsOnly IsAside := by
  induction limit with
  | zero =>
    exact fun context host => ⟨.error .endlessSelection, [], context, host, List.forall_mem_nil _, fun _ => rfl⟩
  | succ limit ih =>
    intro context host
    rcases exists_turn_told hnext hjudge context host with
      ⟨result, messages, context', after, hmessages, hturn⟩ | ⟨run, messages, context', middle, hmessages, hturn⟩
    · refine ⟨result, messages, context', after, hmessages, fun console => ?_⟩
      rw [selectRun_succ, hturn]
    · obtain ⟨result, others, context'', after, hothers, hrest⟩ := ih context' middle
      refine ⟨result, messages ++ others, context'', after, List.forall_mem_append.mpr ⟨hmessages, hothers⟩,
        fun console => ?_⟩
      rw [selectRun_succ, hturn, Console.told_append]
      exact hrest _

/-- Selecting several runs tells nothing but asides. -/
theorem tellsOnly_selectRuns (limit count : Nat) :
    (selectRuns limit job enumerator judge? count).TellsOnly IsAside := by
  induction count with
  | zero => exact tellsOnly_selecting_pure []
  | succ count ih =>
    refine (tellsOnly_selectRun hnext hjudge limit).bind fun run? => ?_
    cases run? with
    | none => exact tellsOnly_selecting_pure []
    | some run => exact ih.bind fun _ => tellsOnly_selecting_pure _

end

/-! ## Commands -/

/-- Loading a text tells nothing but warnings about it. -/
theorem tellsOnly_loadText (text : String) : (Yaml.loadText text : Work σ Yaml.Document).TellsOnly IsAside := by
  unfold Yaml.loadText
  rcases Yaml.read text with (_ | failure) | document
  · exact (tellsOnly_tell (.warning _) trivial).bind fun _ => tellsOnly_pure _
  · exact tellsOnly_throw failure
  · exact tellsOnly_pure _

/-- Loading a file tells nothing but warnings about its text. -/
theorem tellsOnly_loadFile (files : FileStore) (path : String) :
    (Yaml.loadFile files path : Work σ Yaml.Document).TellsOnly IsAside := by
  unfold Yaml.loadFile
  cases files.get? path with
  | some file => exact tellsOnly_loadText file.text
  | none => exact (tellsOnly_tell (.warning _) trivial).bind fun _ => tellsOnly_pure _

/-- Loading the configuration of a command tells nothing but asides. -/
theorem tellsOnly_configOf (options : SelectOptions) : (Program.configOf options).TellsOnly IsAside := by
  unfold Program.configOf
  cases options.config? with
  | none => exact tellsOnly_pure _
  | some path =>
    refine Work.TellsOnly.onPart (tellsOnly_host.bind fun files => ?_)
    cases (files.get? path).isNone with
    | true => exact (tellsOnly_tell (.warning _) trivial).bind fun _ => tellsOnly_pure _
    | false =>
      refine (tellsOnly_loadFile files path).bind fun data => ?_
      cases data.isMap with
      | true => exact tellsOnly_pure _
      | false => exact (tellsOnly_tell (.warning _) trivial).bind fun _ => tellsOnly_pure _

/-- Loading a history again tells nothing but asides. -/
theorem tellsOnly_reload (path : String) (stamp : Stamp) : (Shelf.reload path stamp).TellsOnly IsAside := by
  unfold Shelf.reload
  refine tellsOnly_host.bind fun (shelf : Shelf) => (tellsOnly_loadFile shelf.files path).bind fun document => ?_
  refine (tellsOnly_ofExcept _).bind fun (content, runs) => ?_
  exact (tellsOnly_tell (.progress _) trivial).bind fun _ => (tellsOnly_onHost _).bind fun _ => tellsOnly_pure _

/-- Loading a history, again or for the first time, tells nothing but asides. -/
theorem tellsOnly_load (path : String) : (Shelf.load path).TellsOnly IsAside := by
  intro shelf
  cases hfile : shelf.files.get? path with
  | none =>
    exact ⟨.error (.historyNotFound path), [], shelf, List.forall_mem_nil _, fun console => load_of_missing hfile⟩
  | some file =>
    by_cases hstamp : shelf.cache.stamp? = some file.stamp
    · exact ⟨.ok shelf.cache, [], shelf, List.forall_mem_nil _, fun console => load_of_kept hfile hstamp⟩
    · obtain ⟨result, messages, after, hmessages, hreload⟩ := tellsOnly_reload path file.stamp shelf
      refine ⟨result, messages, after, hmessages, fun console => ?_⟩
      rw [load_of_changed hfile hstamp]
      exact hreload console

/-- While the history in a file is read, asides are told. -/
theorem tellsOnly_job (path : String) : (Shelf.job path).TellsOnly IsAside where
  name := (tellsOnly_load path).bind fun _ => tellsOnly_pure _
  history := (tellsOnly_load path).bind fun _ => tellsOnly_pure _

/-- A whole selection from a stored history tells nothing but asides. -/
theorem tellsOnly_selected (history : String) (options : SelectOptions) (config : Config) :
    (Program.selected (Shelf.job history) options config).TellsOnly IsAside := by
  refine (tellsOnly_ofExcept _).bind fun plan => (tellsOnly_tell (.progress _) trivial).bind fun _ => ?_
  refine (tellsOnly_ofExcept _).bind fun count => Selecting.TellsOnly.within ?_ _
  refine tellsOnly_selectRuns (tellsOnly_next (tellsOnly_job history) plan.selector) ?_ _ count
  intro judge hjudge run context
  obtain ⟨filter, -, rfl⟩ := Option.map_eq_some_iff.mp hjudge
  exact tellsOnly_holds (fun criterion => tellsOnly_criterion criterion run context) filter

/-- What is told before the heading of a list are asides. -/
theorem tellsOnly_walk (history : String) : (Shelf.job history).walk.TellsOnly IsAside :=
  (tellsOnly_job history).history.bind fun _ => tellsOnly_pure _

/-- The runs of a command are picked impartially. -/
theorem impartial_picks (command : Command) : (Program.picks command).Impartial := by
  have hany (message : Message) (_ : IsAside message) : True := trivial
  have hpicks : (Program.picks command).TellsOnly fun _ => True := by
    cases command with
    | select history options =>
      exact ((tellsOnly_configOf options).mono hany).bind fun config =>
        ((tellsOnly_selected history options config).mono hany).reporting fun _ => trivial
    | list history =>
      refine Work.TellsOnly.reporting (((tellsOnly_walk history).mono hany).bind fun runs => ?_) fun _ => trivial
      exact ((tellsOnly_job history).name.mono hany).bind fun name =>
        (tellsOnly_tell (.heading name) trivial).bind fun _ => tellsOnly_pure runs
  exact hpicks.impartial

/-- What is done to the console for one item after the other. -/
theorem forM_onConsole_on (change : α → Console → Console) (items : List α) (desk : Desk σ) :
    (items.forM fun item => Work.onConsole (change item)).on desk =
      (.ok (), { desk with console := items.foldl (fun console item => change item console) desk.console }) := by
  induction items generalizing desk with
  | nil => rfl
  | cons item items ih =>
    rw [List.forM_eq_forM, List.forM_cons, Work.on_bind, Work.on_onConsole]
    exact ih _

/-- The runs that were selected are told one by one. -/
theorem announce_on (history : String) {runs : List Run} (h : runs ≠ []) (desk : Desk Shelf) :
    (Program.announce history runs).on desk =
      (.ok (), { desk with console := desk.console.told (runs.map fun run => .selected run.displayName) }) := by
  rw [Console.told, List.foldl_map]
  cases runs with
  | nil => exact absurd rfl h
  | cons run runs => exact forM_onConsole_on _ (run :: runs) desk

/-- Announcing the runs that were selected does not depend on what the console shows. -/
theorem impartial_announce (history : String) (runs : List Run) : (Program.announce history runs).Impartial := by
  cases runs with
  | nil =>
    have hnone : (Program.announce history []).TellsOnly fun _ => True :=
      ((tellsOnly_job history).name.mono fun _ _ => trivial).bind fun name =>
        (tellsOnly_tell (.nothingSelected name) trivial).bind fun _ =>
          (tellsOnly_throw failedExit).bind fun _ => tellsOnly_pure _
    exact hnone.impartial
  | cons run runs =>
    exact fun host => ⟨.ok (), _, host, fun console => announce_on history (List.cons_ne_nil run runs) ⟨console, host⟩⟩

end MessagesAux

open MessagesAux

/-- What a command does is the same on every console: it ends alike, leaves the same files and the same of them in mind,
tells the same messages, and at last lists the same runs. -/
theorem perform_told (command : Command) (host : Shelf) : ∃ result messages runs after, ∀ console,
    (Program.perform command).on ⟨console, host⟩ = (result, ⟨(console.told messages).listing runs, after⟩) := by
  obtain ⟨result, messages, middle, hpicks⟩ := impartial_picks command host
  cases result with
  | error failure =>
    refine ⟨.error failure, messages, [], middle, fun console => ?_⟩
    rw [Program.perform_eq, Work.on_bind, hpicks]
    rfl
  | ok runs =>
    cases command with
    | select history options =>
      obtain ⟨result, others, after, hannounce⟩ := impartial_announce history runs middle
      refine ⟨result, messages ++ others, [], after, fun console => ?_⟩
      rw [Program.perform_eq, Work.on_bind, hpicks, Console.told_append]
      exact hannounce _
    | list history =>
      refine ⟨.ok (), messages, runs, middle, fun console => ?_⟩
      rw [Program.perform_eq, Work.on_bind, hpicks]
      exact forM_onConsole_on Program.printListed runs _

end RunPicker

import RunPicker.Proofs.Enumeration
import RunPicker.Proofs.Loading

/-!
# Histories that cannot be loaded

A history is unloadable if its file is missing, or if what is in the file is no history. A selection of the program
reports this as an error and ends with it, provided that its selector looks at the history. A selector by a number gives
up before that when its text spells no number. Then no run is selected, and the failure comes only when the job is to be
named in the warning: it is not reported, and leaves the program as it is (`unloadable_history`).
-/

namespace RunPicker

variable {σ : Type}

/-- The failures with which the history in a file cannot be loaded. -/
inductive Unloadable (files : FileStore) (path : String) : Failure → Prop where
  | missing (h : files.get? path = none) : Unloadable files path (.historyNotFound path)
  | malformed {file : StoredFile} {reason : String} (h : files.get? path = some file)
      (hhistory : file.history = .error (.malformedHistory reason)) : Unloadable files path (.malformedHistory reason)

/-- Does the selector give up before it looks at a history? -/
def Selector.givesUp (vars : Environment) : Selector → Bool
  | .byNumber text => (Text.integer? (Text.trim (vars.expand text))).isNone
  | .byStatus _ | .byPermalink _ => false

/-- What is printed to the errors when a failure is reported: a line with its message and, if there are debug messages,
where it came from. -/
def Settings.errorReport (settings : Settings) (failure : Failure) : String :=
  settings.tag "error" .red ++ " " ++ settings.paint .red [] failure.message ++ "\n" ++
    if settings.shows debugLevel then settings.paint .red [] (Console.origin true) ++ "\n" else ""

namespace UnloadableAux

open EnumerationAux LoadingAux StoredHistoryAux

/-! ## Histories -/

theorem printedTo_reportError (failure : Failure) (console : Console) :
    (console.reportError failure.message true).printedTo .errors =
      console.printedTo .errors ++ console.settings.errorReport failure := by
  simp only [Console.reportError, Settings.errorReport]
  split <;> simp [String.append_assoc]

section

variable {path : String} {failure : Failure} {desk : Desk Shelf}

/-- Loading an unloadable history fails and does nothing else. -/
theorem load_of_unloadable (h : Unloadable desk.host.files path failure) (fresh : desk.host.cache.stamp? = none) :
    (Shelf.load path).on desk = (.error failure, desk) := by
  cases h with
  | missing hfile => exact load_of_missing hfile
  | @malformed file reason hfile hhistory =>
    have hstamp : desk.host.cache.stamp? ≠ some file.stamp := by rw [fresh]; exact nofun
    have hload : (Yaml.loadFile desk.host.files path).on desk = (Yaml.documentIn file.text, desk) := by
      rw [Yaml.loadFile, hfile]
      refine loadText_silent (fun hempty => ?_) desk
      -- what counts as empty is a history
      rw [StoredFile.history, hempty] at hhistory
      cases hhistory
    rw [load_of_changed hfile hstamp, Shelf.reload]
    rw [StoredFile.history] at hhistory
    simp only [Work.on_bind, Work.on_host, hload]
    cases hdocument : Yaml.documentIn file.text with
    | error other =>
      rw [hdocument] at hhistory
      obtain rfl := Except.error.inj hhistory
      rfl
    | ok document =>
      rw [hdocument] at hhistory
      have hread : readHistory document.value = .error (.malformedHistory reason) := hhistory
      simp only [Work.on_ofExcept, hread]

theorem history_of_unloadable (h : (Shelf.load path).on desk = (.error failure, desk)) :
    (Shelf.job path).history.on desk = (.error failure, desk) := by
  simp only [Shelf.job, Shelf.jobOf, Work.on_bind, h]

theorem name_of_unloadable (h : (Shelf.load path).on desk = (.error failure, desk)) :
    (Shelf.job path).name.on desk = (.error failure, desk) := by
  simp only [Shelf.job, Shelf.jobOf, Work.on_bind, h]

end

/-! ## Selections -/

/-- A selector that gives up offers nothing, and does not look at the history. -/
theorem next_of_givingUp (job : Job σ) (desk : Desk σ) {selector : Selector} {context : Context}
    (hnone : context.lastMatch = none) (hgives : selector.givesUp context.vars = true) :
    ∃ console, KeepsErrors desk.console console ∧
      (selector.enumerator.next job context).on desk = (.ok none, { desk with console }) := by
  cases selector with
  | byStatus status => cases hgives
  | byPermalink permalink => cases hgives
  | byNumber text =>
    have hnumber : Text.integer? (Text.trim (context.expand text)) = none := Option.isNone_iff_eq_none.mp hgives
    simp only [Selector.enumerator, Enumerator.specific, hnone, Option.isSome_none, Bool.false_eq_true, if_false,
      Selector.locateNumber, hnumber]
    exact ⟨_, keepsErrors_note .., rfl⟩

section

variable {job : Job σ} {failure : Failure} {desk : Desk σ}
  (hhistory : job.history.on desk = (.error failure, desk)) (hname : job.name.on desk = (.error failure, desk))

include hhistory hname

/-- A selector that does not give up fails as the history does. -/
theorem next_of_reading {selector : Selector} {context : Context} (hnone : context.lastMatch = none)
    (hreads : selector.givesUp context.vars = false) :
    (selector.enumerator.next job context).on desk = (.error failure, desk) := by
  cases selector with
  | byStatus status => rw [next_byStatus_on, hhistory]
  | byNumber text =>
    simp only [Selector.enumerator, Enumerator.specific, hnone, Option.isSome_none, Bool.false_eq_true, if_false,
      Selector.locateNumber]
    simp only [Selector.givesUp] at hreads
    obtain ⟨number, hnumber⟩ := Option.isSome_iff_exists.mp (Option.isNone_eq_false_iff.mp hreads)
    have hexpand : Text.integer? (Text.trim (context.expand text)) = some number := hnumber
    rw [hexpand]
    simp only [Job.runOfNumber, Work.on_bind, hhistory]
  | byPermalink permalink =>
    simp only [Selector.enumerator, Enumerator.specific, hnone, Option.isSome_none, Bool.false_eq_true, if_false,
      Selector.locatePermalink, Job.runOfPermalink]
    cases Permalink.ofId? permalink.id with
    | none => simp only [Work.on_bind, Work.on_pure, Option.isNone_none, if_true, hname]
    | some named => simp only [Job.lastRun, Work.on_bind, hhistory]

/-- The first run that is to be selected is looked for, and then none is selected, or the failure comes. -/
theorem selectRuns_of_unloadable (selector : Selector) {context : Context} (hnone : context.lastMatch = none)
    (judge? : Option (Judge σ)) (limit count : Nat) :
    ∃ console, KeepsErrors desk.console console ∧
      (selectRuns (limit + 1) job selector.enumerator judge? (count + 1)).on ⟨context, desk⟩ =
        (if selector.givesUp context.vars then .ok [] else .error failure, ⟨context, { desk with console }⟩) := by
  simp only [selectRuns, Selecting.on_bind, selectRun_succ, turn]
  cases hgives : selector.givesUp context.vars with
  | true =>
    obtain ⟨console, hquiet, hnext⟩ := next_of_givingUp job desk hnone hgives
    exact ⟨console, hquiet, by rw [hnext]; rfl⟩
  | false => exact ⟨desk.console, keepsErrors_refl _, by rw [next_of_reading hhistory hname hnone hgives]; rfl⟩

end

section

variable {history : String} {options : SelectOptions} {config : Config} {plan : Plan} {count : Nat} {failure : Failure}

/-- Nothing is selected, or the failure comes. The errors are as they were before. -/
theorem selected_of_unloadable (desk : Desk Shelf) (hplan : Plan.of options config = .ok plan)
    (hcount : options.countOf config = .ok (count + 1)) (hhistory : Unloadable desk.host.files history failure)
    (fresh : desk.host.cache.stamp? = none) :
    ∃ console, KeepsErrors desk.console console ∧ (Program.selected (Shelf.job history) options config).on desk =
      (if plan.selector.givesUp plan.vars then .ok [] else .error failure, { desk with console }) := by
  have hlimit : candidateLimit = Nat.pow 2 62 - 1 + 1 := rfl
  simp only [Program.selected, hplan, hcount, Work.on_bind, Work.on_ofExcept, Work.on_onConsole]
  have htold := keepsErrors_inform infoLevel
    ("Selecting by " ++ (plan.selector.enumerator : Enumerator Shelf).displayName) desk.console
  generalize desk.console.inform infoLevel
    ("Selecting by " ++ (plan.selector.enumerator : Enumerator Shelf).displayName) = told at htold ⊢
  have hload' : (Shelf.load history).on ⟨told, desk.host⟩ = (.error failure, ⟨told, desk.host⟩) :=
    load_of_unloadable hhistory fresh
  have hnone : (Context.fresh plan.vars).lastMatch = none := rfl
  obtain ⟨console, hquiet, hruns⟩ := selectRuns_of_unloadable (history_of_unloadable hload')
    (name_of_unloadable hload') plan.selector hnone (plan.filter?.map fun filter => filter.judge Criterion.judge)
    (Nat.pow 2 62 - 1) count
  refine ⟨console, htold.trans hquiet, ?_⟩
  rw [hlimit]
  exact congrArg (fun outcome => (outcome.1, outcome.2.desk)) hruns

theorem tryCatch_on {α : Type} (work : Work σ α) (handler : Failure → Work σ α) (desk : Desk σ) :
    (tryCatch work handler).on desk = match work.on desk with
      | (.ok value, after) => (.ok value, after)
      | (.error failure, after) => (handler failure).on after := by
  simp only [tryCatch, tryCatchThe, MonadExceptOf.tryCatch, ExceptT.tryCatch]
  rw [Work.on, ExceptT.run_mk, StateT.run_bind, Work.on, ExceptT.run]
  rcases StateT.run work desk with ⟨failure | value, after⟩ <;> rfl

/-- A failure of the kinds that are reported ends the program with an error. -/
theorem reporting_on {α : Type} (isReported : Failure → Bool) (work : Work σ α) (desk : Desk σ) :
    (Program.reporting isReported work).on desk = match work.on desk with
      | (.ok value, after) => (.ok value, after)
      | (.error failure, after) =>
        if isReported failure then
          (.error failedExit, { after with console := after.console.reportError failure.message true })
        else (.error failure, after) := by
  rw [Program.reporting, tryCatch_on]
  rcases work.on desk with ⟨failure | value, after⟩
  · simp only
    split <;> rfl
  · rfl

/-- A failure that makes a history unloadable is one that a selection reports. -/
theorem isOfSelection_of_unloadable {files : FileStore} (h : Unloadable files history failure) :
    Program.isOfSelection failure = true := by
  cases h <;> rfl

/-- Of an unloadable history no run is selected. The failure is reported, unless the selector gives up. -/
theorem select_of_unloadable (desk : Desk Shelf) (hconfig : ((Program.configOf options).on desk).1 = .ok config)
    (hplan : Plan.of options config = .ok plan) (hcount : options.countOf config = .ok (count + 1))
    (hhistory : Unloadable desk.host.files history failure) (fresh : desk.host.cache.stamp? = none) :
    ∃ console, KeepsErrors desk.console console ∧ (Program.select history options).on desk =
      if plan.selector.givesUp plan.vars then (.error failure, { desk with console })
      else (.error failedExit, { desk with console := console.reportError failure.message true }) := by
  obtain ⟨warned, hwarned, hloaded⟩ := configOf_quiet options desk
  have hvalid : configIn options desk.host.files = .ok config := by rw [← hconfig, hloaded]
  rw [hvalid] at hloaded
  obtain ⟨console, hquiet, hselected⟩ :=
    selected_of_unloadable ⟨warned, desk.host⟩ hplan hcount hhistory fresh
  refine ⟨console, hwarned.trans hquiet, ?_⟩
  simp only [Program.select, Work.on_bind, hloaded, reporting_on, hselected]
  cases plan.selector.givesUp plan.vars with
  | true =>
    -- the job is to be named in the warning
    have hload : (Shelf.load history).on ⟨console, desk.host⟩ = (.error failure, ⟨console, desk.host⟩) :=
      load_of_unloadable hhistory fresh
    simp only [if_true, List.isEmpty_nil, Work.on_bind, name_of_unloadable hload]
  | false =>
    simp only [Bool.false_eq_true, if_false, isOfSelection_of_unloadable hhistory, if_true]

/-- A selection is made under the settings of the general options. -/
theorem run_select (general : GeneralOptions) (history : String) (options : SelectOptions) (desk : Desk Shelf) :
    (Program.run (.command general (some (.select history options)))).on desk =
      (Program.select history options).on { desk with
        console := { desk.console with settings := Program.settingsUnder general desk.console.settings } } := rfl

/-- The settings do not matter for what is loaded. -/
theorem configOf_settings (options : SelectOptions) (desk : Desk Shelf) (console : Console) :
    ((Program.configOf options).on { desk with console }).1 = ((Program.configOf options).on desk).1 := by
  obtain ⟨_, -, h⟩ := configOf_quiet options desk
  obtain ⟨_, -, h'⟩ := configOf_quiet options { desk with console }
  rw [h, h']

end

end UnloadableAux

open LoadingAux UnloadableAux

/-- Let the options and the configuration of a selection be valid, and the history unloadable. If the selector looks at
the history, the failure is printed to the errors and the program ends with an error. If it gives up before, the failure
leaves the program and is not printed. In neither case anything else is printed to the errors, and the files and what is
kept of the history stay as they are. -/
theorem unloadable_history (general : GeneralOptions) (desk : Desk Shelf) {history : String} {options : SelectOptions}
    {config : Config} {plan : Plan} {count : Nat} {failure : Failure}
    (hconfig : ((Program.configOf options).on desk).1 = .ok config) (hplan : Plan.of options config = .ok plan)
    (hcount : options.countOf config = .ok (count + 1)) (hhistory : Unloadable desk.host.files history failure)
    (fresh : desk.host.cache.stamp? = none) :
    let settings := Program.settingsUnder general desk.console.settings
    let outcome := (Program.run (.command general (some (.select history options)))).on desk
    outcome.2.host = desk.host ∧
    (plan.selector.givesUp plan.vars = false →
      outcome.1 = .error failedExit ∧
      outcome.2.console.printedTo .errors = desk.console.printedTo .errors ++ settings.errorReport failure) ∧
    (plan.selector.givesUp plan.vars = true →
      outcome.1 = .error failure ∧ outcome.2.console.printedTo .errors = desk.console.printedTo .errors) := by
  intro settings outcome
  obtain ⟨console, hquiet, hselect⟩ := select_of_unloadable
    { desk with console := { desk.console with settings := settings } }
    ((configOf_settings ..).trans hconfig) hplan hcount hhistory fresh
  have houtcome : outcome = if plan.selector.givesUp plan.vars then (.error failure, { desk with console })
      else (.error failedExit, { desk with console := console.reportError failure.message true }) :=
    (run_select ..).trans hselect
  rw [houtcome]
  cases plan.selector.givesUp plan.vars with
  | true => exact ⟨rfl, nofun, fun _ => ⟨rfl, hquiet.errors⟩⟩
  | false =>
    refine ⟨rfl, fun _ => ⟨rfl, ?_⟩, nofun⟩
    have hreport := printedTo_reportError failure console
    rw [hquiet.errors, hquiet.settings] at hreport
    exact hreport

/-- A missing file is reported by a selection of completed runs. -/
theorem unloadable_history_of_missing :
    let desk : Desk Shelf := ⟨.fresh ⟨0, true, false⟩ .printed, ⟨[], .empty⟩⟩
    let outcome := (Program.run (.command ⟨true, 0, false⟩ (some (.select "missing.yml" .blank)))).on desk
    outcome.1 = .error failedExit ∧
      outcome.2.console.printedTo .errors = "[ERROR] history file 'missing.yml' does not exist\n" := by
  intro desk outcome
  have hconfig : ((Program.configOf .blank).on desk).1 = .ok .blank := rfl
  have hplan : Plan.of .blank .blank = .ok ⟨[], .byStatus .completed, none⟩ := rfl
  have hcount : SelectOptions.blank.countOf .blank = .ok (0 + 1) := rfl
  have hreport : (Settings.mk 0 false false).errorReport (.historyNotFound "missing.yml") =
      "[ERROR] history file 'missing.yml' does not exist\n" := by decide +kernel
  obtain ⟨hresult, herrors⟩ :=
    (unloadable_history ⟨true, 0, false⟩ desk hconfig hplan hcount (.missing rfl) rfl).2.1 rfl
  exact ⟨hresult, herrors.trans ((String.empty_append).trans hreport)⟩

/-- A missing file is not reported where the number of the run is none: the failure leaves the program. -/
theorem missing_history_unreported :
    let words := ["-nc", "select", "missing.yml", "-s", "number:abc"]
    let desk : Desk Shelf := ⟨.fresh ⟨0, true, false⟩ .printed, ⟨[], .empty⟩⟩
    let outcome := (Program.run (CommandLine.ofWords words)).on desk
    outcome.1 = .error (.historyNotFound "missing.yml") ∧ outcome.2.console.printedTo .errors = "" := by
  intro words desk outcome
  have hwords : CommandLine.ofWords words =
      .command ⟨true, 0, false⟩ (some (.select "missing.yml" ⟨none, some "number:abc", [], [], none⟩)) := by
    decide +kernel
  let colourless : Desk Shelf := { desk with
    console := { desk.console with settings := Program.settingsUnder ⟨true, 0, false⟩ desk.console.settings } }
  have hconfig : ((Program.configOf ⟨none, some "number:abc", [], [], none⟩).on colourless).1 = .ok .blank := rfl
  have hplan : Plan.of ⟨none, some "number:abc", [], [], none⟩ .blank = .ok ⟨[], .byNumber "abc", none⟩ := rfl
  have hcount : SelectOptions.countOf ⟨none, some "number:abc", [], [], none⟩ .blank = .ok (0 + 1) := rfl
  have hmissing : Unloadable colourless.host.files "missing.yml" (.historyNotFound "missing.yml") := .missing rfl
  have hgives : Selector.givesUp [] (.byNumber "abc") = true := by
    have hexpand : Environment.expand [] "abc" = "abc" := by
      simp [Environment.expand, Environment.expandChars, pieces, firstPiece, Environment.valueOf, Piece.source]
    rw [Selector.givesUp, hexpand]
    decide
  obtain ⟨console, hquiet, hselect⟩ := select_of_unloadable colourless hconfig hplan hcount hmissing rfl
  rw [if_pos hgives, ← run_select, ← hwords] at hselect
  have houtcome : outcome = (.error (.historyNotFound "missing.yml"), { desk with console }) := hselect
  rw [houtcome]
  exact ⟨rfl, hquiet.errors⟩

end RunPicker

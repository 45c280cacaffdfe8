import RunPicker.Proofs.Presentation
import RunPicker.Transcript

/-!
# Reading the selected runs back

A selection prints one line for each run that it selected, and a transcript is read line by line. What is read are the
names of the selected runs, whatever is in them but ends of lines (`selected_read_back`): without details and warnings
nothing else is printed (`ReadBackAux.outcome_select`), and a line is cut at its first two separators only
(`ReadBackAux.nameIn_mark`).
-/

namespace RunPicker

/-- A warning was printed. -/
def Console.HasWarned (console : Console) : Prop :=
  ∃ entry ∈ console.printed, entry.1 = .output ∧
    (console.settings.tag "warning" .yellow ++ " ").toList <+: entry.2.toList

instance (console : Console) : Decidable console.HasWarned :=
  inferInstanceAs (Decidable (∃ entry ∈ console.printed, entry.1 = .output ∧
    (console.settings.tag "warning" .yellow ++ " ").toList <+: entry.2.toList))

/-- The transcript of a command under general options. -/
def Program.transcript (settings : Settings) (sink : Sink) (host : Shelf) (command : Command)
    (general : GeneralOptions) : Transcript :=
  let ended := outcome settings sink host command general
  ⟨ended.2.console.everything, exitCode ended.1,
    match ended.1 with
    | .ok _ => none
    | .error failure => some failure⟩

namespace ReadBackAux

open Message MessagesAux PresentationAux Text.LinesAux

/-! ## Printing -/

/-- What a selection that selected runs tells: asides, and at last the runs. -/
theorem perform_select_told {history : String} {options : SelectOptions} {console : Console} {host : Shelf}
    {runs : List Run} (hpicked : ((Program.picks (.select history options)).on ⟨console, host⟩).1 = .ok runs)
    (hruns : runs ≠ []) : ∃ messages after, (∀ message ∈ messages, IsAside message) ∧
      (Program.perform (.select history options)).on ⟨console, host⟩ =
        (.ok (), ⟨console.told (messages ++ runs.map fun run => .selected run.displayName), after⟩) := by
  obtain ⟨configured, messages, middle, hmessages, hconfig⟩ := tellsOnly_configOf options host
  cases configured with
  | error failure =>
    rw [Program.picks, Work.on_bind, hconfig] at hpicked
    cases hpicked
  | ok config =>
    obtain ⟨result, others, after, hothers, hselected⟩ := tellsOnly_selected history options config middle
    have hpicks : (Program.picks (.select history options)).on ⟨console, host⟩ =
        (Program.reporting Program.isOfSelection (Program.selected (Shelf.job history) options config)).on
          ⟨console.told messages, middle⟩ := by
      rw [Program.picks, Work.on_bind, hconfig]
    rw [UnloadableAux.reporting_on, hselected, ← Console.told_append] at hpicks
    rw [hpicks] at hpicked
    cases result with
    | error failure => cases hreported : Program.isOfSelection failure <;> simp [hreported] at hpicked
    | ok picked =>
      obtain rfl : picked = runs := Except.ok.inj hpicked
      refine ⟨messages ++ others, after, List.forall_mem_append.mpr ⟨hmessages, hothers⟩, ?_⟩
      rw [Program.perform_eq, Work.on_bind, hpicks, Console.told_append _ (messages ++ others)]
      exact announce_on history hruns _

/-- An aside is no error. -/
theorem ne_error_of_isAside {message : Message} (h : message.IsAside) (text : String) : message ≠ .error text := by
  rintro rfl
  exact h

/-- What asks for a verbosity is not shown below it. -/
theorem shows_eq_false {settings : Settings} (hquiet : settings.verbosity ≤ 0) {level : Int} (hlevel : 0 < level) :
    settings.shows level = false := by
  simp only [Settings.shows, decide_eq_false_iff_not]
  omega

/-- Without details, asides are printed only if there are warnings among them. -/
theorem transcript_asides {settings : Settings} {sink : Sink} {messages : List Message}
    (asides : ∀ message ∈ messages, IsAside message) (hquiet : settings.verbosity ≤ 0)
    (hunwarned : ∀ text, settings.tag "warning" .yellow ++ " " ++ text ∉ Message.transcript settings sink messages) :
    Message.transcript settings sink messages = [] := by
  rw [Message.transcript, List.map_eq_nil_iff, List.filter_eq_nil_iff]
  intro message hmessage hshown
  cases message with
  | noticed notice =>
    simp [isShown, shows_eq_false hquiet (show 0 < debugLevel by decide)] at hshown
  | progress text =>
    simp [isShown, shows_eq_false hquiet (show 0 < infoLevel by decide)] at hshown
  | warning text =>
    refine hunwarned (text ++ "\n") (List.mem_map.mpr ⟨_, List.mem_filter.mpr ⟨hmessage, hshown⟩, ?_⟩)
    rw [Message.text, String.append_assoc, String.append_assoc]
  | nothingSelected job => exact asides _ hmessage
  | error text => exact asides _ hmessage
  | heading job => exact asides _ hmessage
  | selected run => exact asides _ hmessage

/-- Without colours a selected run is told by the mark and its name. -/
theorem text_selected {settings : Settings} (hplain : settings.coloured = false) (name : String) :
    (Message.selected name).text settings = Transcript.selectedMark ++ name := by
  have hmark : " - " ++ Text.capitalize (Text.trim "selected run") ++ " " ++ "-" ++ " " = Transcript.selectedMark := by
    decide +kernel
  rw [Message.text, hmark, Settings.highlight, Settings.paint, hplain]
  rfl

/-- The runs that were selected stand in the transcript line by line. -/
theorem transcript_selected {settings : Settings} (hplain : settings.coloured = false) (sink : Sink)
    (runs : List Run) : Message.transcript settings sink (runs.map fun run => .selected run.displayName) =
      runs.map fun run => Transcript.selectedMark ++ run.displayName ++ "\n" := by
  rw [Message.transcript, List.filter_eq_self.mpr, List.map_map]
  · exact List.map_congr_left fun run _ => congrArg (· ++ "\n") (text_selected hplain run.displayName)
  · intro message hmessage
    obtain ⟨run, -, rfl⟩ := List.mem_map.mp hmessage
    rfl

section

variable {settings : Settings} {sink : Sink} {host : Shelf} {history : String} {options : SelectOptions}
  {general : GeneralOptions} {runs : List Run}

open Program

/-- A selection that prints neither colours nor details nor warnings prints the selected runs, and ends well. -/
theorem outcome_select (hpicked : picked settings sink host (.select history options) general = .ok runs)
    (hruns : runs ≠ []) (hplain : general.colourless = true)
    (hquiet : (settingsUnder general settings).verbosity ≤ 0)
    (hunwarned : ¬ (outcome settings sink host (.select history options) general).2.console.HasWarned) :
    (outcome settings sink host (.select history options) general).1 = .ok () ∧
      (outcome settings sink host (.select history options) general).2.console.printed =
        runs.map fun run => (.output, Transcript.selectedMark ++ run.displayName ++ "\n") := by
  obtain ⟨messages, after, hasides, hperform⟩ := perform_select_told hpicked hruns
  let under := settingsUnder general settings
  let told := messages ++ runs.map fun run => Message.selected run.displayName
  have houtcome : outcome settings sink host (.select history options) general =
      (.ok (), ⟨(Console.fresh under sink).told told, after⟩) := hperform
  have hprinted : ((Console.fresh under sink).told told).printed =
      (Message.transcript under sink told).map (Prod.mk .output) := by
    refine (printed_told (fun message hmessage => ?_) _).trans (List.nil_append _)
    rcases List.mem_append.mp hmessage with haside | hselected
    · exact ne_error_of_isAside (hasides message haside)
    · obtain ⟨run, -, rfl⟩ := List.mem_map.mp hselected
      exact nofun
  have hcolourless : under.coloured = false := congrArg Bool.not hplain
  have htranscript : Message.transcript under sink told = Message.transcript under sink messages ++
      runs.map fun run => Transcript.selectedMark ++ run.displayName ++ "\n" := by
    rw [← transcript_selected hcolourless, Message.transcript, List.filter_append, List.map_append]
    rfl
  have hsilent : Message.transcript under sink messages = [] := by
    refine transcript_asides hasides hquiet fun text htext => hunwarned ?_
    rw [houtcome, Console.HasWarned, (printedTo_told told _).2, hprinted, htranscript]
    refine ⟨_, List.mem_map.mpr ⟨_, List.mem_append_left _ htext, rfl⟩, rfl, ?_⟩
    rw [String.toList_append (t := text)]
    exact List.prefix_append _ _
  rw [houtcome, hprinted, htranscript, hsilent, List.nil_append, List.map_map]
  exact ⟨rfl, rfl⟩

end

/-! ## Reading -/

/-- The name is what stands behind the mark, also if it holds the separator. -/
theorem nameIn_mark (name : String) : Transcript.nameIn (Transcript.selectedMark ++ name) = name := by
  have hpiece : Text.lastPiece " - ".toList 2 (Transcript.selectedMark.toList ++ name.toList) = name.toList := by
    -- both separators stand in the mark, so the name is not looked at
    rfl
  rw [Transcript.nameIn, String.toList_append, hpiece, String.ofList_toList]

/-- The names in marked lines that hold no further line ends are read back. -/
theorem selected_marked {transcript : Transcript} {names : List String}
    (houtput : transcript.output = String.join (names.map fun name => Transcript.selectedMark ++ name ++ "\n"))
    (hnames : ∀ name ∈ names, ∀ c ∈ name.toList, Text.isLineBreak c = false) : transcript.selected = names := by
  have hlines : Text.splitLines transcript.output = names.map (Transcript.selectedMark ++ ·) := by
    have hmark : ∀ c ∈ Transcript.selectedMark.toList, Text.isLineBreak c = false :=
      unbroken_of_all (by decide +kernel)
    have houtput' : transcript.output =
        String.join ((names.map (Transcript.selectedMark ++ ·)).map (· ++ "\n")) := by
      rw [houtput, List.map_map]
      rfl
    rw [houtput', splitLines_join]
    intro line hline
    obtain ⟨name, hname, rfl⟩ := List.mem_map.mp hline
    rw [String.toList_append, List.forall_mem_append]
    exact ⟨hmark, hnames name hname⟩
  have hmarked (name : String) : Transcript.selectedMark.isPrefixOf (Transcript.selectedMark ++ name) = true := by
    rw [String.isPrefixOf, String.startsWith_string_iff, String.toList_append]
    exact List.prefix_append _ _
  rw [Transcript.selected, hlines, List.filter_eq_self.mpr, List.map_map]
  · exact (List.map_congr_left fun name _ => nameIn_mark name).trans (List.map_id _)
  · intro line hline
    obtain ⟨name, -, rfl⟩ := List.mem_map.mp hline
    exact hmarked name

/-- A confirmation passes if it is as expected. -/
theorem passed_confirm (transcript : Transcript) (asExpected : Bool) :
    (transcript.confirm asExpected).passed = asExpected := by
  cases asExpected <;> rfl

end ReadBackAux

open Program ReadBackAux

/-- Let a selection without colours and details select some runs and print no warning, and let no display name of these
runs hold an end of a line. Then its transcript is confirmed for a list of names exactly if these are the display names
of the runs, in the order in which they were selected. -/
theorem selected_read_back (settings : Settings) (sink : Sink) (host : Shelf) (history : String)
    (options : SelectOptions) (general : GeneralOptions) {runs : List Run}
    (hpicked : picked settings sink host (.select history options) general = .ok runs) (hruns : runs ≠ [])
    (hplain : general.colourless = true) (hquiet : (settingsUnder general settings).verbosity ≤ 0)
    (hunwarned : ¬ (outcome settings sink host (.select history options) general).2.console.HasWarned)
    (hnames : ∀ run ∈ runs, ∀ c ∈ run.displayName.toList, Text.isLineBreak c = false) (names : List String) :
    ((transcript settings sink host (.select history options) general).confirmSelected names).passed = true ↔
      names = runs.map Run.displayName := by
  obtain ⟨hended, hprinted⟩ := outcome_select hpicked hruns hplain hquiet hunwarned
  have hselected : (transcript settings sink host (.select history options) general).selected =
      runs.map Run.displayName := by
    refine selected_marked ?_ fun name hname => ?_
    · have houtput : (transcript settings sink host (.select history options) general).output = String.join
          ((outcome settings sink host (.select history options) general).2.console.printed.map Prod.snd) := rfl
      rw [houtput, hprinted, List.map_map, List.map_map]
      rfl
    · obtain ⟨run, hrun, rfl⟩ := List.mem_map.mp hname
      exact hnames run hrun
  have hcode : (transcript settings sink host (.select history options) general).exitCode = 0 := by
    have hexit : (transcript settings sink host (.select history options) general).exitCode =
        exitCode (outcome settings sink host (.select history options) general).1 := rfl
    rw [hexit, hended]
    rfl
  rw [Transcript.confirmSelected, hselected, hcode, passed_confirm, beq_self_eq_true, Bool.true_and, beq_iff_eq,
    eq_comm]

/-- A name that begins and ends with blanks, holds the separator, and looks like a printed line itself. -/
theorem selected_read_back_of_separators :
    let host : Shelf :=
      ⟨[("history.yml", ⟨"runs:\n- \x7bnumber: 1, display_name: ' - Selected run - a - b '\x7d\n", 0⟩)], .empty⟩
    let transcript := Program.transcript ⟨0, true, false⟩ .printed host (.select "history.yml" .blank) ⟨true, 0, false⟩
    transcript.output = " - Selected run -  - Selected run - a - b \n" ∧
      (transcript.confirmSelected [" - Selected run - a - b "]).passed = true ∧
      (transcript.confirmSelected ["a - b"]).passed = false := by
  intro host transcript
  have hnamed : ((picked ⟨0, true, false⟩ .printed host (.select "history.yml" .blank) ⟨true, 0, false⟩).toOption.map
      fun runs => runs.map Run.displayName) = some [" - Selected run - a - b "] := by decide +kernel
  cases hpicked : picked ⟨0, true, false⟩ .printed host (.select "history.yml" .blank) ⟨true, 0, false⟩ with
  | error failure =>
    rw [hpicked] at hnamed
    cases hnamed
  | ok runs =>
    rw [hpicked] at hnamed
    have hruns : runs.map Run.displayName = [" - Selected run - a - b "] := Option.some.inj hnamed
    have hread := selected_read_back ⟨0, true, false⟩ .printed host "history.yml" .blank ⟨true, 0, false⟩ hpicked
      (by rintro rfl; cases hruns) rfl (by decide) (by decide +kernel) ?_
    · rw [hruns] at hread
      refine ⟨by decide +kernel, (hread _).mpr rfl, ?_⟩
      exact Bool.eq_false_iff.mpr fun h => absurd ((hread _).mp h) (by decide)
    · intro run hrun
      have hname : run.displayName ∈ [" - Selected run - a - b "] := hruns ▸ List.mem_map_of_mem hrun
      rw [List.mem_singleton.mp hname]
      exact Text.LinesAux.unbroken_of_all (by decide +kernel)

end RunPicker

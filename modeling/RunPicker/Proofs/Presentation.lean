import Mathlib.Data.List.Basic
import Mathlib.Data.List.Flatten
import RunPicker.Proofs.Colours
import RunPicker.Proofs.Lines
import RunPicker.Proofs.Messages

/-!
# Presentation

How a command prints makes no difference to what it does (`presentation_neutral`). A command tells the same messages on
every console. Which of them are printed goes by the verbosity (`Message.isShown`), and in which words by the colours
(`Message.text`): so a higher verbosity puts in whole lines, and colours put in sequences that can be erased.
-/

namespace RunPicker

/-- Is the message printed to the output? -/
def Message.isShown (settings : Settings) (sink : Sink) : Message → Bool
  | .noticed _ => sink == .printed && settings.shows debugLevel
  | .progress _ => settings.shows infoLevel
  | .warning _ | .nothingSelected _ => !settings.quiet
  | .error _ => false
  | .heading _ | .selected _ => true

/-- What a message is printed as, up to the end of its last line. An error is not printed to the output. -/
def Message.text (settings : Settings) : Message → String
  | .noticed notice => settings.tag "debug" .darkGrey ++ " " ++ notice.text
  | .progress text => text
  | .warning text => settings.tag "warning" .yellow ++ " " ++ text
  | .nothingSelected job =>
    settings.tag "warning" .yellow ++ " " ++ ("no run of " ++ settings.highlight job ++ " matches the criteria")
  | .error _ => ""
  | .heading job => settings.headingText job .blue true
  | .selected run =>
    " - " ++ Text.capitalize (Text.trim "selected run") ++ " " ++ "-" ++ " " ++ settings.highlight run

/-- What is printed to the output of messages that are told one after the other. -/
def Message.transcript (settings : Settings) (sink : Sink) (messages : List Message) : List String :=
  (messages.filter (Message.isShown settings sink)).map fun message => message.text settings ++ "\n"

/-- The state of a run in a list. -/
def Run.stateText (settings : Settings) (run : Run) : String :=
  if run.building then "RUNNING" else settings.resultText run.result

/-- What a run is listed as: a line with its name and its state, and its parameters. -/
def Run.listedText (settings : Settings) (run : Run) : String :=
  " - " ++ Text.capitalize (Text.trim run.displayName) ++ " " ++ "-" ++ " " ++ run.stateText settings ++ "\n" ++
    if (Program.parameterEntries run).isEmpty then ""
    else Yaml.printIndented 4 (.map (Program.parameterEntries run))

/-- What is printed to the output of messages that are told and of runs that are listed then. -/
def printout (settings : Settings) (sink : Sink) (messages : List Message) (runs : List Run) : String :=
  String.join (Message.transcript settings sink messages) ++ String.join (runs.map (Run.listedText settings))

namespace PresentationAux

open LoadingAux Text.LinesAux

/-! ## What is printed to the output -/

/-- On a fresh console nothing is printed. -/
theorem printedTo_fresh (settings : Settings) (sink : Sink) (channel : Channel) :
    (Console.fresh settings sink).printedTo channel = "" := rfl

/-- A message that is no error is printed to the output if it is shown. -/
theorem printed_tell {message : Message} (h : ∀ text, message ≠ .error text) (console : Console) :
    (message.tell console).printed = console.printed ++
      if message.isShown console.settings console.sink then [(.output, message.text console.settings ++ "\n")]
      else [] := by
  cases message with
  | noticed notice =>
    cases hsink : console.sink with
    | gathered => simp [Message.tell, Console.note, hsink, Message.isShown]
    | printed =>
      cases hshows : console.settings.shows debugLevel <;>
        simp [Message.tell, Console.note, hsink, Message.isShown, Message.text, Console.debug, Console.inform, hshows,
          Console.write, Console.print]
  | progress text =>
    cases hshows : console.settings.shows infoLevel <;>
      simp [Message.tell, Message.isShown, Message.text, Console.inform, hshows, Console.write, Console.print]
  | warning text =>
    cases hquiet : console.settings.quiet <;>
      simp [Message.tell, Message.isShown, Message.text, Console.warn, hquiet, Console.write, Console.print]
  | nothingSelected job =>
    cases hquiet : console.settings.quiet <;>
      simp [Message.tell, Message.isShown, Message.text, Console.warn, hquiet, Console.write, Console.print]
  | error text => exact absurd rfl (h text)
  | heading job => simp [Message.tell, Message.isShown, Message.text, Console.heading, Console.write, Console.print]
  | selected run => simp [Message.tell, Message.isShown, Message.text, Console.item, Console.write, Console.print]

/-- A message is printed to the output if it is shown, and an error is not shown there. -/
theorem printedTo_tell (message : Message) (console : Console) :
    (message.tell console).printedTo .output = console.printedTo .output ++
      if message.isShown console.settings console.sink then message.text console.settings ++ "\n" else "" := by
  by_cases herror : ∃ text, message = .error text
  · obtain ⟨text, rfl⟩ := herror
    cases hshows : console.settings.shows debugLevel <;>
      simp [Message.tell, Message.isShown, Console.reportError, hshows]
  · rw [Console.printedTo, printed_tell (not_exists.mp herror), List.filterMap_append, String.join_append,
      ← Console.printedTo]
    cases message.isShown console.settings console.sink <;> simp [String.join_cons, String.join_nil]

/-- A message changes neither the settings nor the sink. -/
theorem settings_tell (message : Message) (console : Console) :
    (message.tell console).settings = console.settings ∧ (message.tell console).sink = console.sink := by
  cases message with
  | noticed notice =>
    simp only [Message.tell, Console.note, Console.debug, Console.inform]
    split
    · split <;> exact ⟨rfl, rfl⟩
    · exact ⟨rfl, rfl⟩
  | progress text =>
    simp only [Message.tell, Console.inform]
    split <;> exact ⟨rfl, rfl⟩
  | warning text =>
    simp only [Message.tell, Console.warn]
    split <;> exact ⟨rfl, rfl⟩
  | nothingSelected job =>
    simp only [Message.tell, Console.warn]
    split <;> exact ⟨rfl, rfl⟩
  | error text =>
    simp only [Message.tell, Console.reportError]
    split <;> exact ⟨rfl, rfl⟩
  | heading job => exact ⟨rfl, rfl⟩
  | selected run => exact ⟨rfl, rfl⟩

/-- Of messages that are told, those that are shown are printed, one after the other. -/
theorem printedTo_told (messages : List Message) (console : Console) :
    (console.told messages).printedTo .output = console.printedTo .output ++
      String.join (Message.transcript console.settings console.sink messages) ∧
    (console.told messages).settings = console.settings := by
  induction messages generalizing console with
  | nil => simp [Console.told, Message.transcript]
  | cons message messages ih =>
    have htold : console.told (message :: messages) = (message.tell console).told messages := rfl
    obtain ⟨hsettings, hsink⟩ := settings_tell message console
    obtain ⟨hprinted, hkept⟩ := ih (message.tell console)
    rw [hsettings, hsink, printedTo_tell, String.append_assoc] at hprinted
    refine ⟨?_, htold ▸ hkept.trans hsettings⟩
    rw [htold, hprinted]
    cases hshown : message.isShown console.settings console.sink <;>
      simp [Message.transcript, hshown, String.join_cons]

/-- Messages that are no errors are printed to the output, those that are shown. -/
theorem printed_told {messages : List Message} (h : ∀ message ∈ messages, ∀ text, message ≠ .error text)
    (console : Console) : (console.told messages).printed = console.printed ++
      (Message.transcript console.settings console.sink messages).map (Prod.mk .output) := by
  induction messages generalizing console with
  | nil => simp [Console.told, Message.transcript]
  | cons message messages ih =>
    obtain ⟨hmessage, hmessages⟩ := List.forall_mem_cons.mp h
    have htold : console.told (message :: messages) = (message.tell console).told messages := rfl
    obtain ⟨hsettings, hsink⟩ := settings_tell message console
    rw [htold, ih hmessages, hsettings, hsink, printed_tell hmessage, List.append_assoc]
    cases hshown : message.isShown console.settings console.sink <;> simp [Message.transcript, hshown]

/-- A run that is listed is printed. -/
theorem printedTo_printListed (run : Run) (console : Console) :
    (Program.printListed run console).printedTo .output =
      console.printedTo .output ++ run.listedText console.settings ∧
    (Program.printListed run console).settings = console.settings := by
  cases hnone : (Program.parameterEntries run).isEmpty with
  | true =>
    simp only [Program.printListed, hnone, if_true, Console.item, Console.write, printedTo_print, beq_self_eq_true,
      Run.listedText, String.append_empty]
    exact ⟨rfl, rfl⟩
  | false =>
    simp only [Program.printListed, hnone, Bool.false_eq_true, if_false, Console.item, Console.write, printedTo_print,
      beq_self_eq_true, if_true, Run.listedText, String.append_empty, String.append_assoc]
    exact ⟨rfl, rfl⟩

/-- A listing prints the texts of the runs one after the other. -/
theorem printedTo_listing (runs : List Run) (console : Console) :
    (console.listing runs).printedTo .output =
      console.printedTo .output ++ String.join (runs.map (Run.listedText console.settings)) := by
  induction runs generalizing console with
  | nil => simp [Console.listing]
  | cons run runs ih =>
    have hlisting : console.listing (run :: runs) = (Program.printListed run console).listing runs := rfl
    obtain ⟨hprinted, hsettings⟩ := printedTo_printListed run console
    rw [hlisting, ih, hprinted, hsettings, List.map_cons, String.join_cons, String.append_assoc]

/-- What is printed to the output of a console that is new: the messages that are shown, and the runs. -/
theorem printedTo_listing_told (settings : Settings) (sink : Sink) (messages : List Message) (runs : List Run) :
    (((Console.fresh settings sink).told messages).listing runs).printedTo .output =
      printout settings sink messages runs := by
  obtain ⟨hprinted, hsettings⟩ := printedTo_told messages (.fresh settings sink)
  rw [printedTo_listing, hprinted, hsettings, printedTo_fresh, String.empty_append]
  rfl

/-! ## Verbosity -/

/-- The lines of messages come before those of what is printed after them. -/
theorem splitLines_transcript_append (settings : Settings) (sink : Sink) (messages : List Message) (rest : String) :
    Text.splitLines (String.join (Message.transcript settings sink messages) ++ rest) =
      (messages.filter (Message.isShown settings sink)).flatMap
        (fun message => Text.splitLines (message.text settings ++ "\n")) ++ Text.splitLines rest := by
  unfold Message.transcript
  induction messages.filter (Message.isShown settings sink) with
  | nil => simp
  | cons message messages ih =>
    rw [List.map_cons, String.join_cons, String.append_assoc, splitLines_append, ih, List.flatMap_cons,
      List.append_assoc]

section

variable {settings settings' : Settings} {sink : Sink}

/-- What a message is printed as goes by the colours alone. -/
theorem text_congr (hcoloured : settings.coloured = settings'.coloured) (message : Message) :
    message.text settings = message.text settings' := by
  have hpaint : ∀ colour styles text, settings.paint colour styles text = settings'.paint colour styles text := by
    intro colour styles text
    rw [Settings.paint, Settings.paint, hcoloured]
  cases message <;> simp only [Message.text, Settings.tag, Settings.highlight, Settings.headingText, hpaint]

/-- What is listed of a run depends on nothing but the colours. -/
theorem listedText_congr (hcoloured : settings.coloured = settings'.coloured) (run : Run) :
    run.listedText settings = run.listedText settings' := by
  simp only [Run.listedText, Run.stateText, Settings.resultText, Settings.paint, hcoloured]

/-- A message that is shown is also shown at a higher verbosity. -/
theorem isShown_mono (hquiet : settings.quiet = settings'.quiet) (hverbosity : settings.verbosity ≤ settings'.verbosity)
    {message : Message} (h : message.isShown settings sink = true) : message.isShown settings' sink = true := by
  have hshows : ∀ level, settings.shows level = true → settings'.shows level = true := by
    intro level h
    simp only [Settings.shows, decide_eq_true_eq] at h ⊢
    omega
  cases message with
  | noticed notice =>
    simp only [Message.isShown, Bool.and_eq_true] at h ⊢
    exact ⟨h.1, hshows _ h.2⟩
  | progress text => exact hshows _ h
  | warning text => rwa [Message.isShown, ← hquiet]
  | nothingSelected job => rwa [Message.isShown, ← hquiet]
  | error text => exact h
  | heading job => exact h
  | selected run => exact h

/-- The lines at a verbosity are among those at a higher one. -/
theorem splitLines_printout_sublist (hcoloured : settings.coloured = settings'.coloured)
    (hquiet : settings.quiet = settings'.quiet) (hverbosity : settings.verbosity ≤ settings'.verbosity)
    (messages : List Message) (runs : List Run) :
    (Text.splitLines (printout settings sink messages runs)).Sublist
      (Text.splitLines (printout settings' sink messages runs)) := by
  have hruns : runs.map (Run.listedText settings) = runs.map (Run.listedText settings') :=
    List.map_congr_left fun run _ => listedText_congr hcoloured run
  have htexts : Message.text settings = Message.text settings' := funext (text_congr hcoloured)
  have hshown : (messages.filter (Message.isShown settings sink)).Sublist
      (messages.filter (Message.isShown settings' sink)) :=
    List.monotone_filter_right messages fun message => isShown_mono hquiet hverbosity
  rw [printout, printout, splitLines_transcript_append, splitLines_transcript_append, hruns, htexts]
  exact (hshown.flatMap _).append (List.Sublist.refl _)

/-! ## Colours -/

/-- Whether a message is shown depends on nothing but how quiet and how verbose the program is. -/
theorem isShown_congr (hquiet : settings.quiet = settings'.quiet) (hverbosity : settings.verbosity = settings'.verbosity)
    (message : Message) : message.isShown settings sink = message.isShown settings' sink := by
  rw [Bool.eq_iff_iff]
  exact ⟨isShown_mono hquiet (Int.le_of_eq hverbosity), isShown_mono hquiet.symm (Int.le_of_eq hverbosity.symm)⟩

open Style

/-- A text in colours, if there are any, is dressed. -/
theorem dressed_paint (hplain : settings'.coloured = false) (colour : Colour) (styles : List Style) (text : String) :
    Dressed (settings.paint colour styles text).toList (settings'.paint colour styles text).toList := by
  simp only [Settings.paint, hplain, Bool.false_eq_true, if_false]
  split
  · exact Dressed.paint colour styles text
  · exact Dressed.refl _

/-- Dressed texts can be put together. -/
theorem dressed_append {dressed plain dressed' plain' : String} (h : Dressed dressed.toList plain.toList)
    (h' : Dressed dressed'.toList plain'.toList) : Dressed (dressed ++ dressed').toList (plain ++ plain').toList := by
  rw [String.toList_append, String.toList_append]
  exact h.append h'

/-- Between two texts that are left as they are, a dressed text is dressed. -/
theorem dressed_between {dressed plain : String} (front rest : String) (h : Dressed dressed.toList plain.toList) :
    Dressed (front ++ dressed ++ rest).toList (front ++ plain ++ rest).toList :=
  dressed_append (dressed_append (Dressed.refl _) h) (Dressed.refl _)

/-- A message in colours is the plain one, dressed. -/
theorem dressed_text (hplain : settings'.coloured = false) (message : Message) :
    Dressed (message.text settings).toList (message.text settings').toList := by
  have htag : ∀ word colour, Dressed (settings.tag word colour).toList (settings'.tag word colour).toList :=
    fun word colour => dressed_between _ _ (dressed_paint hplain colour [.bold] _)
  cases message with
  | noticed notice => exact dressed_append (dressed_append (htag _ _) (Dressed.refl _)) (Dressed.refl _)
  | progress text => exact Dressed.refl _
  | warning text => exact dressed_append (dressed_append (htag _ _) (Dressed.refl _)) (Dressed.refl _)
  | nothingSelected job =>
    exact dressed_append (dressed_append (htag _ _) (Dressed.refl _)) (dressed_between _ _ (dressed_paint hplain _ _ _))
  | error text => exact Dressed.refl _
  | heading job => exact dressed_between _ _ (dressed_paint hplain _ _ _)
  | selected run => exact dressed_append (Dressed.refl _) (dressed_paint hplain _ _ _)

/-- What is listed of a run in colours is what is listed without, dressed. -/
theorem dressed_listedText (hplain : settings'.coloured = false) (run : Run) :
    Dressed (run.listedText settings).toList (run.listedText settings').toList := by
  have hstate : Dressed (run.stateText settings).toList (run.stateText settings').toList := by
    unfold Run.stateText
    split
    · exact Dressed.refl _
    · exact dressed_paint hplain _ _ _
  exact dressed_append (dressed_between _ _ hstate) (Dressed.refl _)

/-- Texts that are dressed one by one are dressed all together. -/
theorem dressed_join {α : Type} {dressed plain : α → String} (h : ∀ item, Dressed (dressed item).toList (plain item).toList)
    (items : List α) : Dressed (String.join (items.map dressed)).toList (String.join (items.map plain)).toList := by
  induction items with
  | nil => exact Dressed.refl _
  | cons item items ih =>
    rw [List.map_cons, List.map_cons, String.join_cons, String.join_cons]
    exact dressed_append (h item) ih

/-- What is printed in colours is what is printed without them, dressed. -/
theorem dressed_printout (hplain : settings'.coloured = false) (hquiet : settings.quiet = settings'.quiet)
    (hverbosity : settings.verbosity = settings'.verbosity) (messages : List Message) (runs : List Run) :
    Dressed (printout settings sink messages runs).toList (printout settings' sink messages runs).toList := by
  have hshown : messages.filter (Message.isShown settings sink) = messages.filter (Message.isShown settings' sink) :=
    List.filter_congr fun message _ => isShown_congr hquiet hverbosity message
  refine dressed_append ?_ (dressed_join (dressed_listedText hplain) runs)
  rw [Message.transcript, Message.transcript, hshown]
  exact dressed_join (fun message => dressed_append (dressed_text hplain message) (Dressed.refl _)) _

end

end PresentationAux

namespace Program

variable (settings : Settings) (sink : Sink) (host : Shelf) (command : Command) (general : GeneralOptions)

/-- What a command under general options comes to: how it ends, and the desk that it leaves. -/
def outcome : Except Failure Unit × Desk Shelf :=
  (run (.command general (some command))).on ⟨.fresh settings sink, host⟩

/-- The runs that the command picks: they are all that it goes on with (`perform_eq`). -/
def picked : Except Failure (List Run) :=
  ((picks command).on ⟨.fresh (settingsUnder general settings) sink, host⟩).1

/-- What the command prints to the output. -/
def output : String :=
  (outcome settings sink host command general).2.console.printedTo .output

end Program

section

open PresentationAux Program

/-- A command comes to the same under any general options, and prints the same messages and runs as the settings say. -/
theorem exists_printout (settings : Settings) (sink : Sink) (host : Shelf) (command : Command) :
    ∃ (result : Except Failure Unit) (messages : List Message) (runs : List Run) (after : Shelf), ∀ general,
      (outcome settings sink host command general).1 = result ∧
      (outcome settings sink host command general).2.host = after ∧
      output settings sink host command general = printout (settingsUnder general settings) sink messages runs := by
  obtain ⟨result, messages, runs, after, hperform⟩ := perform_told command host
  refine ⟨result, messages, runs, after, fun general => ?_⟩
  have houtcome : outcome settings sink host command general =
      (result, ⟨((Console.fresh (settingsUnder general settings) sink).told messages).listing runs, after⟩) :=
    hperform _
  refine ⟨by rw [houtcome], by rw [houtcome], ?_⟩
  rw [output, houtcome]
  exact printedTo_listing_told _ _ _ _

/-- The general options, which say how a command prints, make no difference to what it does. For any two of them
1. the command ends with the same exit code,
2. it picks the same runs,
3. it leaves the same files, and the same of them in mind,
4. with colours in both or in neither, the lines that it prints at one verbosity are among those that it prints at a
   higher one, in their order,
5. at the same verbosity, what it prints in colours is, without the sequences of colours and styles, what it prints
   without colours, provided that no escape is in that. -/
theorem presentation_neutral (settings : Settings) (sink : Sink) (host : Shelf) (command : Command)
    (general general' : GeneralOptions) :
    exitCode (outcome settings sink host command general).1 = exitCode (outcome settings sink host command general').1 ∧
    picked settings sink host command general = picked settings sink host command general' ∧
    (outcome settings sink host command general).2.host = (outcome settings sink host command general').2.host ∧
    (general.colourless = general'.colourless → general.verbosity ≤ general'.verbosity →
      (Text.splitLines (output settings sink host command general)).Sublist
        (Text.splitLines (output settings sink host command general'))) ∧
    (general'.colourless = true → general.verbosity = general'.verbosity →
      '\x1b' ∉ (output settings sink host command general').toList →
      Style.erase (output settings sink host command general).toList =
        (output settings sink host command general').toList) := by
  obtain ⟨result, messages, runs, after, hall⟩ := exists_printout settings sink host command
  obtain ⟨hresult, hhost, houtput⟩ := hall general
  obtain ⟨hresult', hhost', houtput'⟩ := hall general'
  refine ⟨by rw [hresult, hresult'], ?_, by rw [hhost, hhost'], ?_, ?_⟩
  · obtain ⟨runs, messages, after, hpicks⟩ := MessagesAux.impartial_picks command host
    rw [picked, picked, hpicks, hpicks]
  · intro hcolours hverbosity
    have hcoloured : (settingsUnder general settings).coloured = (settingsUnder general' settings).coloured :=
      congrArg Bool.not hcolours
    have hlevels : (settingsUnder general settings).verbosity ≤ (settingsUnder general' settings).verbosity := by
      simp only [settingsUnder]
      omega
    have hquiet : (settingsUnder general settings).quiet = (settingsUnder general' settings).quiet := rfl
    rw [houtput, houtput']
    exact splitLines_printout_sublist hcoloured hquiet hlevels messages runs
  · intro hplain hverbosity hescape
    have hcolourless : (settingsUnder general' settings).coloured = false := congrArg Bool.not hplain
    have hlevels : (settingsUnder general settings).verbosity = (settingsUnder general' settings).verbosity := by
      simp only [settingsUnder, hverbosity]
    have hquiet : (settingsUnder general settings).quiet = (settingsUnder general' settings).quiet := rfl
    rw [houtput'] at hescape
    rw [houtput, houtput']
    exact Style.erase_of_dressed (dressed_printout hcolourless hquiet hlevels messages runs) hescape

/-- A selection from a history of one run: with or without details, and with or without colours. -/
theorem presentation_neutral_of_one_run :
    let host : Shelf := ⟨[("history.yml", ⟨"runs:\n- number: 1\n", 0⟩)], .empty⟩
    let outcome := Program.outcome ⟨0, true, false⟩ .printed host (.select "history.yml" .blank)
    let output := Program.output ⟨0, true, false⟩ .printed host (.select "history.yml" .blank)
    exitCode (outcome ⟨false, 0, false⟩).1 = 0 ∧ output ⟨true, 0, false⟩ = " - Selected run - #1\n" ∧
      [" - Selected run - #1"].Sublist (Text.splitLines (output ⟨true, 2, false⟩)) ∧
      Style.erase (output ⟨false, 0, false⟩).toList = " - Selected run - #1\n".toList := by
  intro host outcome output
  have hplain : output ⟨true, 0, false⟩ = " - Selected run - #1\n" := by decide +kernel
  have hcode : exitCode (outcome ⟨true, 0, false⟩).1 = 0 := by decide +kernel
  have hlines : Text.splitLines (output ⟨true, 0, false⟩) = [" - Selected run - #1"] := by
    rw [hplain]
    decide +kernel
  obtain ⟨hsame, -, -, -, herase⟩ := presentation_neutral ⟨0, true, false⟩ .printed host (.select "history.yml" .blank)
    ⟨false, 0, false⟩ ⟨true, 0, false⟩
  obtain ⟨-, -, -, hdetails, -⟩ := presentation_neutral ⟨0, true, false⟩ .printed host (.select "history.yml" .blank)
    ⟨true, 0, false⟩ ⟨true, 2, false⟩
  have hescape : '\x1b' ∉ (output ⟨true, 0, false⟩).toList := by
    rw [hplain]
    decide +kernel
  refine ⟨hsame.trans hcode, hplain, hlines ▸ hdetails rfl (by decide), ?_⟩
  exact (herase rfl rfl hescape).trans (congrArg String.toList hplain)

end

end RunPicker

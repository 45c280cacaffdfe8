import RunPicker.Proofs.Pages
import RunPicker.Proofs.Quoting
import RunPicker.Proofs.ReadBack
import RunPicker.Proofs.RecordedHistory

/-!
# Lists of runs

What is printed of the runs in a history: every run once, from the highest number on, with its state and its parameters
(`listed_history`). A run is not listed under its display name but under the capitalized one, so a name that is not
capitalized itself is listed as another than the one that a selection prints and a filter compares
(`listed_under_another_name`).
-/

namespace RunPicker

/-- The line of a run in a list, under some name and without colours. -/
def Run.lineUnder (name : String) (run : Run) : String :=
  " - " ++ name ++ " - " ++ (if run.building then "RUNNING" else run.result.name) ++ "\n"

/-- What is printed of the parameters of a run. -/
def Run.parameterText (run : Run) : String :=
  if (Program.parameterEntries run).isEmpty then ""
  else Yaml.printIndented 4 (.map (Program.parameterEntries run))

namespace ListingAux

open EntriesAux HistoryOrderAux Message MessagesAux PresentationAux RecordedHistoryAux

variable {host : Shelf} {history : String} {given : List Run}

/-! ## The list -/

theorem walk_of_lists {desk : Desk Shelf} (hlists : Shelf.Lists history given desk.host) :
    ∃ after, (Shelf.job history).walk.on desk = (.ok (sortedRuns given).reverse, after) ∧
      Shelf.Lists history given after.host := by
  obtain ⟨after, hhistory, hafter⟩ := history_of_lists hlists
  refine ⟨after, ?_, hafter⟩
  rw [Job.walk, Work.on_bind, hhistory]
  rfl

theorem name_of_lists {desk : Desk Shelf} (hlists : Shelf.Lists history given desk.host) :
    ∃ name after, (Shelf.job history).name.on desk = (.ok name, after) := by
  obtain ⟨cache, after, hload, -⟩ := load_of_lists hlists
  refine ⟨((Entries.named? cache.content "job").map Value.display).getD (baseName history), after, ?_⟩
  simp only [Shelf.job, Shelf.jobOf, Work.on_bind, hload]
  rfl

/-- The runs of a file are picked from the newest on. Asides are told, and the heading. -/
theorem picks_list_on (hlists : Shelf.Lists history given host) :
    ∃ asides name after, (∀ message ∈ asides, IsAside message) ∧
      ∀ console, (Program.picks (.list history)).on ⟨console, host⟩ =
        (.ok (sortedRuns given).reverse, ⟨console.told (asides ++ [.heading name]), after⟩) := by
  obtain ⟨walked, messages, middle, hmessages, hwalk⟩ := tellsOnly_walk history host
  -- what is read is the same on every console, so it is looked at on one
  obtain ⟨read, hread, hmiddle⟩ := walk_of_lists (show Shelf.Lists history given (⟨default, host⟩ : Desk Shelf).host
    from hlists)
  obtain ⟨rfl, rfl⟩ := Prod.mk.inj ((hwalk default).symm.trans hread)
  obtain ⟨named, others, after, hothers, hnamed⟩ := (tellsOnly_job history).name middle
  obtain ⟨name, last, hname⟩ := name_of_lists hmiddle
  obtain ⟨rfl, rfl⟩ := Prod.mk.inj ((hnamed _).symm.trans hname)
  refine ⟨messages ++ others, name, after, List.forall_mem_append.mpr ⟨hmessages, hothers⟩, fun console => ?_⟩
  rw [Program.picks, UnloadableAux.reporting_on]
  simp only [Work.on_bind, hwalk, hnamed, Console.told_append]
  rfl

/-- All that is printed to the output by a list. -/
theorem output_list (hlists : Shelf.Lists history given host) (settings : Settings) (sink : Sink)
    (general : GeneralOptions) : ∃ asides name, (∀ message ∈ asides, IsAside message) ∧
      (Program.outcome settings sink host (.list history) general).1 = .ok () ∧
      Program.output settings sink host (.list history) general =
        printout (Program.settingsUnder general settings) sink (asides ++ [.heading name])
          (sortedRuns given).reverse := by
  obtain ⟨asides, name, after, hasides, hpicks⟩ := picks_list_on hlists
  have houtcome : Program.outcome settings sink host (.list history) general =
      (.ok (), ⟨((Console.fresh (Program.settingsUnder general settings) sink).told
        (asides ++ [.heading name])).listing (sortedRuns given).reverse, after⟩) := by
    have hperform : Program.outcome settings sink host (.list history) general = (Program.perform (.list history)).on
        ⟨Console.fresh (Program.settingsUnder general settings) sink, host⟩ := rfl
    rw [hperform, Program.perform_eq, Work.on_bind, hpicks]
    exact forM_onConsole_on Program.printListed _ _
  refine ⟨asides, name, hasides, by rw [houtcome], ?_⟩
  rw [Program.output, houtcome]
  exact printedTo_listing_told _ _ _ _

/-! ## Runs of the list -/

theorem parameterEntries_eq_nil_iff (run : Run) : Program.parameterEntries run = [] ↔ run.parameters = [] := by
  rw [Program.parameterEntries, ofPairs_eq_nil_iff, List.map_eq_nil_iff]

theorem parameterText_eq_empty_iff (run : Run) : run.parameterText = "" ↔ run.parameters = [] := by
  rw [← parameterEntries_eq_nil_iff, Run.parameterText]
  split
  · next hnone => exact iff_of_true rfl (List.isEmpty_iff.mp hnone)
  · next hsome =>
    have hentries := mt List.isEmpty_iff.mpr hsome
    exact iff_of_false (Yaml.printIndented_ne_empty 4 hentries) hentries

theorem listedText_plain {settings : Settings} (hplain : settings.coloured = false) (run : Run) :
    run.listedText settings = run.lineUnder (Text.capitalize (Text.trim run.displayName)) ++ run.parameterText := by
  have hdash (rest : String) : " " ++ ("-" ++ (" " ++ rest)) = " - " ++ rest := by
    rw [← String.append_assoc, ← String.append_assoc]
    rfl
  simp only [Run.listedText, Run.stateText, Settings.resultText, Settings.paint, hplain, Bool.false_eq_true, if_false,
    Run.lineUnder, Run.parameterText, String.append_assoc, hdash]

/-- A run has one line under one name. -/
theorem lineUnder_inj {run : Run} {name other : String} :
    run.lineUnder name ++ run.parameterText = run.lineUnder other ++ run.parameterText ↔ name = other := by
  simp only [Run.lineUnder, String.append_assoc, String.append_right_inj, String.append_left_inj]

end ListingAux

open ListingAux Program

/-- What a list prints of the runs in a history, without colours.
1. After asides and a heading, every run is listed once, from the highest number to the lowest. The names of its parameters
are to have texts, as they have unless an integer has too many digits.
2. A run is listed with its state under its display name without the blanks around it, but with the first character in
title case and the others in lower case. Its parameters follow if there are any.
3. Of a display name without blanks around it this is the very name exactly if the name is capitalized like this. The
name itself is what a selection prints and what a filter compares. -/
theorem listed_history (settings : Settings) (sink : Sink) {host : Shelf} {history : String} {given : List Run}
    (hlists : Shelf.Lists history given host) (general : GeneralOptions) (hplain : general.colourless = true) :
    let under := settingsUnder general settings
    ((∀ run ∈ given, ∀ parameter ∈ run.parameters, parameter.name.hasText = true) →
      ∃ asides name runs, (∀ message ∈ asides, Message.IsAside message) ∧ runs.Perm given ∧
      runs.Pairwise (fun newer older => older.number ≤ newer.number) ∧
      (outcome settings sink host (.list history) general).1 = .ok () ∧
      output settings sink host (.list history) general = printout under sink (asides ++ [.heading name]) runs) ∧
    ∀ run : Run,
      run.listedText under = run.lineUnder (Text.capitalize (Text.trim run.displayName)) ++ run.parameterText ∧
      (run.parameterText = "" ↔ run.parameters = []) ∧
      (Text.trim run.displayName = run.displayName →
        (run.listedText under = run.lineUnder run.displayName ++ run.parameterText ↔
          Text.capitalize run.displayName = run.displayName)) ∧
      (Message.selected run.displayName).text under = Transcript.selectedMark ++ run.displayName ∧
      ∀ name context (desk : Desk Shelf), (((Criterion.displayName name).judge run context).on desk).1 =
        .ok (decide (run.displayName = context.vars.expand name)) := by
  intro under
  have hcolourless : under.coloured = false := congrArg Bool.not hplain
  constructor
  · intro _
    obtain ⟨asides, name, hasides, hended, houtput⟩ := output_list hlists settings sink general
    refine ⟨asides, name, (sortedRuns given).reverse, hasides, ?_, ?_, hended, houtput⟩
    · exact (List.reverse_perm _).trans (List.mergeSort_perm given _)
    · exact List.pairwise_reverse.mpr (HistoryOrderAux.ordered_sortedRuns given)
  · intro run
    have hlisted := listedText_plain hcolourless run
    refine ⟨hlisted, parameterText_eq_empty_iff run, fun htrim => ?_, ReadBackAux.text_selected hcolourless _, ?_⟩
    · rw [hlisted, htrim, lineUnder_inj]
    · exact fun name context desk => QuotingAux.judge_displayName name run context desk

/-- A run with a parameter, whose display name is capitalized. -/
theorem listed_history_of_parameters :
    let host : Shelf :=
      ⟨[("history.yml", ⟨"runs: [\x7bnumber: 1, display_name: Release, parameters: [\x7bSTAGE: test\x7d]\x7d]", 0⟩)],
        .empty⟩
    let under : Settings := ⟨0, false, false⟩
    ∃ asides name runs, runs.map Run.displayName = ["Release"] ∧
      output ⟨0, true, false⟩ .printed host (.list "history.yml") ⟨true, 0, false⟩ =
        printout under .printed (asides ++ [.heading name]) runs ∧
      ∀ run ∈ runs, run.listedText under = run.lineUnder "Release" ++ run.parameterText ∧ run.parameterText ≠ "" := by
  intro host under
  obtain ⟨given, hlists, hgiven⟩ := @RecordedHistoryAux.exists_lists "history.yml" host _
    (fun given => given.map (fun run => (run.displayName, run.parameters.isEmpty)) = [("Release", false)] ∧
      ∀ run ∈ given, ∀ parameter ∈ run.parameters, parameter.name.hasText = true)
    rfl nofun (by decide +kernel)
  obtain ⟨hgiven', hnames⟩ : given.map (fun run => (run.displayName, run.parameters.isEmpty)) = [("Release", false)] ∧
      ∀ run ∈ given, ∀ parameter ∈ run.parameters, parameter.name.hasText = true := of_decide_eq_true hgiven
  obtain ⟨hlisted, hruns⟩ := listed_history ⟨0, true, false⟩ .printed hlists ⟨true, 0, false⟩ rfl
  obtain ⟨asides, name, runs, -, hperm, -, -, houtput⟩ := hlisted hnames
  have hmap : runs.map (fun run => (run.displayName, run.parameters.isEmpty)) = [("Release", false)] :=
    List.perm_singleton.mp (hgiven' ▸ hperm.map _)
  refine ⟨asides, name, runs, ?_, houtput, fun run hrun => ?_⟩
  · simpa using congrArg (List.map Prod.fst) hmap
  · have hrun' := List.mem_map_of_mem (f := fun run : Run => (run.displayName, run.parameters.isEmpty)) hrun
    rw [hmap, List.mem_singleton, Prod.mk.injEq] at hrun'
    obtain ⟨-, hparameters, hname, -⟩ := hruns run
    rw [hrun'.1] at hname
    refine ⟨(hname (by decide +kernel)).mpr (by decide +kernel), fun hempty => ?_⟩
    rw [hparameters.mp hempty] at hrun'
    cases hrun'.2

/-- Of a name of two capitalized words the second is listed in lower case, while a selection prints the name itself. -/
theorem listed_under_another_name :
    let host : Shelf := ⟨[("history.yml", ⟨"runs:\n- \x7bnumber: 1, display_name: Nightly Build\x7d\n", 0⟩)], .empty⟩
    let printed (command : Command) := output ⟨0, true, false⟩ .printed host command ⟨true, 0, false⟩
    Text.trim "Nightly Build" = "Nightly Build" ∧
      printed (.list "history.yml") = "\n[history.yml]\n\n - Nightly build - SUCCESS\n" ∧
      printed (.select "history.yml" .blank) = " - Selected run - Nightly Build\n" := by
  decide +kernel

end RunPicker

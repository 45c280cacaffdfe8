import Mathlib.Data.List.Basic
import RunPicker.Proofs.Entries
import RunPicker.Proofs.Loading
import RunPicker.Proofs.Quoting

/-!
# Options over a configuration

The options of a selection are an overlay of its configuration. `Overlay.apply` sets them among the entries of a
configuration, each in its place, and a selection with the options is the selection without any under these entries
(`select_overlaid`). What the options stand over may be anything. Only the variables of the configuration are all written
as texts before the assignments are made.
-/

namespace RunPicker

/-! ## Overlays -/

/-- An assignment of a value to a variable. -/
structure Assignment where
  name : String
  value : String
  name_ne : name ≠ ""
  not_mem_name : '=' ∉ name.toList

/-- The assignment as it is written. -/
def Assignment.text (assignment : Assignment) : String :=
  assignment.name ++ "=" ++ assignment.value

/-- Options of a selection that a configuration can hold as well. -/
structure Overlay where
  selector? : Option String
  filters : List String
  assignments : List Assignment
  count? : Option Nat
  count_pos : ∀ count ∈ count?, 0 < count

/-- The section of a name. What is no mapping counts as an empty one. -/
def Entries.sectionOf (entries : Entries Value) (name : String) : Entries Value :=
  match Entries.named? entries name with
  | some (.map inner) => inner
  | _ => []

/-- Does an entry of an environment have a value? -/
def Entries.isSet (entry : Value × Value) : Bool :=
  match entry.2 with
  | .null => false
  | _ => true

/-- The entries of an environment with an assignment made: in every entry whose key is written as the name, or else in
one at the end. -/
def Entries.assign (entries : Entries Value) (assignment : Assignment) : Entries Value :=
  if ∃ entry ∈ entries, entry.1.keyDisplay = assignment.name then
    entries.map fun entry =>
      if entry.1.keyDisplay = assignment.name then (entry.1, .text assignment.value) else entry
  else entries ++ [(.text assignment.name, .text assignment.value)]

namespace Overlay

/-- The overlay of no options. -/
def none : Overlay := ⟨.none, [], [], .none, nofun⟩

/-- The options, beside the path of a configuration. -/
def options (overlay : Overlay) (config? : Option String) : SelectOptions :=
  ⟨config?, overlay.selector?, overlay.filters, overlay.assignments.map Assignment.text, overlay.count?⟩

/-- What the options put under the names of a selection. -/
def settings (overlay : Overlay) : List (String × Value) :=
  (overlay.selector?.map fun spec => ("selector", Value.text spec)).toList ++
    (if overlay.filters.isEmpty then [] else [("filters", .list (overlay.filters.map Value.text))]) ++
    (overlay.count?.map fun count => ("count", Value.integer count)).toList

/-- The entries of an environment with the assignments made, one after the other. Entries without a value are left
out. -/
def environment (overlay : Overlay) (entries : Entries Value) : Entries Value :=
  overlay.assignments.foldl Entries.assign (entries.filter Entries.isSet)

/-- The entries with the section of the selection as the options have it. -/
def overSelection (overlay : Overlay) (entries : Entries Value) : Entries Value :=
  if overlay.settings.isEmpty then entries
  else Entries.insert entries (.text "selection")
    (.map (Entries.insertAll (Entries.sectionOf entries "selection") (Entries.underNames overlay.settings)))

/-- The entries with the environment as the options have it. -/
def overEnvironment (overlay : Overlay) (entries : Entries Value) : Entries Value :=
  if overlay.assignments.isEmpty then entries
  else Entries.insert entries (.text "environment")
    (.map (overlay.environment (Entries.sectionOf entries "environment")))

/-- The entries of a configuration with the options set among them. -/
def apply (overlay : Overlay) (entries : Entries Value) : Entries Value :=
  overlay.overEnvironment (overlay.overSelection entries)

end Overlay

namespace OverlayAux

open Entries (underNames)
open EntriesAux LoadingAux QuotingAux

variable (overlay : Overlay) (entries : Entries Value)

/-! ## Sections -/

/-- A section that is set is what it was set to. -/
theorem sectionOf_insert_self (name : String) (inner : Entries Value) :
    Entries.sectionOf (Entries.insert entries (.text name) (.map inner)) name = inner := by
  rw [Entries.sectionOf, named?_insert_self]

/-- Setting one section leaves the others. -/
theorem sectionOf_insert_of_ne {name other : String} (h : name ≠ other) (value : Value) :
    Entries.sectionOf (Entries.insert entries (.text name) value) other = Entries.sectionOf entries other := by
  rw [Entries.sectionOf, Entries.sectionOf, named?_insert_of_ne entries h]

/-- What is under a name of a section. -/
theorem within?_sectionOf (outer name : String) :
    (Value.map entries).within? [outer, name] = Entries.named? (Entries.sectionOf entries outer) name := by
  simp only [Value.within?, Entries.sectionOf]
  cases Entries.named? entries outer with
  | none => rfl
  | some value => cases value <;> simp [Value.within?, Entries.named?, Entries.find?]

/-- The settings are laid over the section of selections. -/
theorem sectionOf_apply_selection : Entries.sectionOf (overlay.apply entries) "selection" =
    Entries.insertAll (Entries.sectionOf entries "selection") (underNames overlay.settings) := by
  have hselection : Entries.sectionOf (overlay.overSelection entries) "selection" =
      Entries.insertAll (Entries.sectionOf entries "selection") (underNames overlay.settings) := by
    unfold Overlay.overSelection
    split
    · rename_i hnone
      rw [List.isEmpty_iff.mp hnone]
      rfl
    · exact sectionOf_insert_self ..
  rw [Overlay.apply, Overlay.overEnvironment]
  split
  · exact hselection
  · rw [sectionOf_insert_of_ne _ (by decide), hselection]

/-- Settings of selections leave the environment. -/
theorem named?_overSelection_environment :
    Entries.named? (overlay.overSelection entries) "environment" = Entries.named? entries "environment" := by
  unfold Overlay.overSelection
  split
  · rfl
  · exact named?_insert_of_ne _ (by decide) _

/-- The assignments are laid over the environment, if there are any. -/
theorem sectionOf_apply_environment : Entries.sectionOf (overlay.apply entries) "environment" =
    if overlay.assignments.isEmpty then Entries.sectionOf entries "environment"
    else overlay.environment (Entries.sectionOf entries "environment") := by
  have hsection : Entries.sectionOf (overlay.overSelection entries) "environment" =
      Entries.sectionOf entries "environment" := by
    rw [Entries.sectionOf, Entries.sectionOf, named?_overSelection_environment]
  rw [Overlay.apply, Overlay.overEnvironment]
  split
  · exact hsection
  · rw [sectionOf_insert_self, hsection]

/-! ## Environments -/

/-- An entry sets a variable if it has a value. -/
theorem variableOf?_eq (entry : Value × Value) : Environment.variableOf? entry =
    if Entries.isSet entry then some (.text entry.1.keyDisplay, entry.2.exported) else .none := by
  obtain ⟨key, value⟩ := entry
  cases value <;> rfl

/-- The variables of entries that all have a value. -/
theorem ofEntries_eq {entries : Entries Value} (h : ∀ entry ∈ entries, Entries.isSet entry = true) :
    Environment.ofEntries entries =
      Entries.ofPairs (underNames (entries.map fun entry => (entry.1.keyDisplay, entry.2.exported))) := by
  have hvariables : entries.filterMap Environment.variableOf? =
      entries.map fun entry => (Value.text entry.1.keyDisplay, entry.2.exported) :=
    List.filterMap_eq_map_iff_forall_eq_some.mpr fun entry hentry => by rw [variableOf?_eq, if_pos (h entry hentry)]
  rw [Environment.ofEntries, hvariables, underNames, List.map_map]
  rfl

/-- Entries without a value set no variables. -/
theorem ofEntries_filter_isSet (entries : Entries Value) :
    Environment.ofEntries (entries.filter Entries.isSet) = Environment.ofEntries entries := by
  rw [Environment.ofEntries, Environment.ofEntries, List.filterMap_filter]
  refine congrArg Entries.ofPairs (List.filterMap_congr fun entry _ => ?_)
  rw [variableOf?_eq]
  split <;> rfl

/-- What is assigned to has a value. -/
theorem isSet_of_mem_assign {entries : Entries Value} (h : ∀ entry ∈ entries, Entries.isSet entry = true)
    (assignment : Assignment) : ∀ entry ∈ Entries.assign entries assignment, Entries.isSet entry = true := by
  intro entry hentry
  unfold Entries.assign at hentry
  split at hentry
  · obtain ⟨other, hother, rfl⟩ := List.mem_map.mp hentry
    split
    · rfl
    · exact h other hother
  · rcases List.mem_append.mp hentry with hentry | hentry
    · exact h entry hentry
    · rw [List.mem_singleton.mp hentry]
      rfl

/-- An assignment that is made among the entries sets its variable. -/
theorem ofEntries_assign {entries : Entries Value} (h : ∀ entry ∈ entries, Entries.isSet entry = true)
    (assignment : Assignment) :
    Environment.ofEntries (Entries.assign entries assignment) =
      (Environment.ofEntries entries).set assignment.name assignment.value := by
  rw [ofEntries_eq (isSet_of_mem_assign h assignment), ofEntries_eq h, Environment.set]
  unfold Entries.assign
  split
  · rename_i hthere
    rw [← ofPairs_replaced (by simpa using hthere), List.map_map, List.map_map]
    refine congrArg (fun pairs => Entries.ofPairs (underNames pairs)) (List.map_congr_left fun entry _ => ?_)
    simp only [Function.comp_apply]
    split
    · rfl
    · rfl
  · rw [List.map_append, List.map_singleton, ofPairs_underNames_append]
    rfl

/-- Assignments that are made among the entries set their variables, one after the other. -/
theorem ofEntries_assignments {entries : Entries Value} (h : ∀ entry ∈ entries, Entries.isSet entry = true)
    (assignments : List Assignment) :
    Environment.ofEntries (assignments.foldl Entries.assign entries) =
      Entries.insertAll (Environment.ofEntries entries)
        (underNames (assignments.map fun assignment => (assignment.name, assignment.value))) := by
  induction assignments generalizing entries with
  | nil => rfl
  | cons assignment assignments ih =>
    rw [List.foldl_cons, ih (isSet_of_mem_assign h assignment), ofEntries_assign h]
    rfl

/-! ## Texts of variables -/

/-- An entry with a value has texts if its key and its value have one. -/
theorem hasTexts_of_isSet {entry : Value × Value} (h : Entries.isSet entry = true) :
    Environment.hasTexts entry = (entry.1.hasText && entry.2.hasText) := by
  obtain ⟨key, value⟩ := entry
  cases value with
  | null => cases h
  | _ => rfl

/-- Entries without a value need no texts. -/
theorem all_hasTexts_filter_isSet (entries : Entries Value) :
    (entries.filter Entries.isSet).all Environment.hasTexts = entries.all Environment.hasTexts := by
  rw [List.all_filter]
  congr 1
  funext entry
  obtain ⟨key, value⟩ := entry
  cases value <;> rfl

/-- What the entries are to hold of an assignment: all that it replaces has a value and texts. -/
def Replaceable (entries : Entries Value) (assignment : Assignment) : Prop :=
  ∀ entry ∈ entries, entry.1.keyDisplay = assignment.name → Environment.hasTexts entry = true

section

variable {entries : Entries Value} (hset : ∀ entry ∈ entries, Entries.isSet entry = true) {assignment : Assignment}
  (h : Replaceable entries assignment)

include hset h

/-- An entry that an assignment replaces has texts, as it had before. -/
theorem hasTexts_assigned {entry : Value × Value} (hentry : entry ∈ entries)
    (hname : entry.1.keyDisplay = assignment.name) :
    Environment.hasTexts (entry.1, .text assignment.value) = true ∧ Environment.hasTexts entry = true := by
  have htexts := h entry hentry hname
  have hkey := htexts
  rw [hasTexts_of_isSet (hset entry hentry), Bool.and_eq_true] at hkey
  exact ⟨Bool.and_eq_true_iff.mpr ⟨hkey.1, rfl⟩, htexts⟩

/-- An assignment among the entries takes no texts from them and gives them none. -/
theorem all_hasTexts_assign :
    (Entries.assign entries assignment).all Environment.hasTexts = entries.all Environment.hasTexts := by
  unfold Entries.assign
  split
  · rw [List.all_map, Bool.eq_iff_iff, List.all_eq_true, List.all_eq_true]
    refine forall₂_congr fun entry hentry => ?_
    rw [Function.comp_apply]
    split
    · rename_i hname
      obtain ⟨hassigned, htexts⟩ := hasTexts_assigned hset h hentry hname
      exact iff_of_true hassigned htexts
    · exact Iff.rfl
  · rw [List.all_append]
    exact Bool.and_true _

/-- What other assignments replace has texts after an assignment as well. -/
theorem replaceable_assign {other : Assignment} (hother : Replaceable entries other) :
    Replaceable (Entries.assign entries assignment) other := by
  intro entry hentry hname
  unfold Entries.assign at hentry
  split at hentry
  · obtain ⟨original, horiginal, rfl⟩ := List.mem_map.mp hentry
    by_cases hreplaced : original.1.keyDisplay = assignment.name
    · rw [if_pos hreplaced]
      exact (hasTexts_assigned hset h horiginal hreplaced).1
    · rw [if_neg hreplaced] at hname ⊢
      exact hother original horiginal hname
  · rcases List.mem_append.mp hentry with hentry | hentry
    · exact hother entry hentry hname
    · rw [List.mem_singleton.mp hentry]
      rfl

end

/-- Assignments among the entries leave the texts as they are, one after the other. -/
theorem all_hasTexts_assignments {entries : Entries Value} (hset : ∀ entry ∈ entries, Entries.isSet entry = true)
    {assignments : List Assignment} (h : ∀ assignment ∈ assignments, Replaceable entries assignment) :
    (assignments.foldl Entries.assign entries).all Environment.hasTexts = entries.all Environment.hasTexts := by
  induction assignments generalizing entries with
  | nil => rfl
  | cons assignment assignments ih =>
    obtain ⟨hfirst, hrest⟩ := List.forall_mem_cons.mp h
    rw [List.foldl_cons, ih (isSet_of_mem_assign hset assignment) fun other hother =>
      replaceable_assign hset hfirst (hrest other hother), all_hasTexts_assign hset hfirst]

/-! ## Assignments -/

/-- An assignment is read as it was written. -/
theorem assignment?_text (assignment : Assignment) :
    Environment.assignment? assignment.text = .ok (assignment.name, assignment.value) := by
  have hchars : assignment.text.toList = assignment.name.toList ++ '=' :: assignment.value.toList := by
    simp [Assignment.text]
  have hname : assignment.name.isEmpty = false := by simpa using assignment.name_ne
  simp [Environment.assignment?, Text.cutAt, hchars, cutChars_append assignment.not_mem_name, hname]

/-- The assignments are read as they were written. -/
theorem ofAssignments_text (assignments : List Assignment) :
    Environment.ofAssignments (assignments.map Assignment.text) =
      .ok (Entries.ofPairs (underNames (assignments.map fun assignment => (assignment.name, assignment.value)))) := by
  have hfrom (vars : Environment) : (assignments.map Assignment.text).foldlM (fun vars text =>
        (Environment.assignment? text).map fun pair => vars.set pair.1 pair.2) vars =
      .ok (Entries.insertAll vars (underNames (assignments.map fun assignment =>
        (assignment.name, assignment.value)))) := by
    induction assignments generalizing vars with
    | nil => rfl
    | cons assignment assignments ih =>
      rw [List.map_cons, List.foldlM_cons, assignment?_text]
      exact ih _
  exact hfrom []

/-! ## Settings -/

/-- What is under the names of a selection as the options have it. -/
theorem named?_settings (inner : Entries Value) :
    let section' := Entries.insertAll inner (underNames overlay.settings)
    Entries.named? section' "selector" =
      (overlay.selector?.map Value.text).or (Entries.named? inner "selector") ∧
    Entries.named? section' "filters" =
      (if overlay.filters.isEmpty then Entries.named? inner "filters"
        else some (.list (overlay.filters.map Value.text))) ∧
    Entries.named? section' "count" =
      (overlay.count?.map fun count => Value.integer count).or (Entries.named? inner "count") := by
  obtain ⟨selector?, filters, assignments, count?, -⟩ := overlay
  have hnames : "selector" ≠ "filters" ∧ "selector" ≠ "count" ∧ "filters" ≠ "count" := by decide
  obtain ⟨hsf, hsc, hfc⟩ := hnames
  cases selector? <;> cases filters <;> cases count? <;>
    simp [Overlay.settings, underNames, Entries.insertAll, named?_insert_of_ne, hsf, hsc, hfc, hsf.symm, hsc.symm,
      hfc.symm]

section

variable {config config' : Config} {overlay : Overlay} {entries : Entries Value}
  (hvalue : config.value = .map entries) (hvalue' : config'.value = .map (overlay.apply entries))

include hvalue hvalue'

/-- The selector of the command line or else of the configuration is that of the overlaid one. -/
theorem selectorText_overlaid (config? : Option String) :
    (overlay.options config?).selectorText config = config'.selectorText := by
  have hspec := (named?_settings overlay (Entries.sectionOf entries "selection")).1
  have hgiven? : (overlay.options config?).selector? = overlay.selector? := rfl
  have hconfigured : config'.configuredSelector =
      (overlay.selector?.map Value.text).getD config.configuredSelector := by
    rw [Config.configuredSelector, Config.configuredSelector, hvalue, hvalue', within?_sectionOf, within?_sectionOf,
      sectionOf_apply_selection, hspec]
    cases overlay.selector? <;> rfl
  rw [SelectOptions.selectorText, hgiven?, Config.selectorText, Config.selectorText, Config.selectorSpec,
    Config.selectorSpec, hconfigured]
  cases overlay.selector? <;> rfl

/-- The filters of the command line or else of the configuration are those of the overlaid one. -/
theorem filterSpecs_overlaid (config? : Option String) :
    (overlay.options config?).filterSpecs config = config'.filterSpecs := by
  have hfilters := (named?_settings overlay (Entries.sectionOf entries "selection")).2.1
  have hspecs : (overlay.options config?).filterSpecs config =
      if overlay.filters.isEmpty then config.filterSpecs else overlay.filters.map Value.text := rfl
  rw [hspecs, Config.filterSpecs, Config.filterSpecs, hvalue, hvalue', within?_sectionOf, within?_sectionOf,
    sectionOf_apply_selection, hfilters]
  cases overlay.filters.isEmpty <;> rfl

/-- The count of the command line or else of the configuration is that of the overlaid one. -/
theorem count_overlaid (config? : Option String) :
    (overlay.options config?).countOf config = config'.count := by
  have hcount := (named?_settings overlay (Entries.sectionOf entries "selection")).2.2
  have hgiven? : (overlay.options config?).count? = overlay.count? := rfl
  rw [SelectOptions.countOf, hgiven?, Config.count, Config.count, hvalue, hvalue', within?_sectionOf, within?_sectionOf,
    sectionOf_apply_selection, hcount]
  cases hgiven : overlay.count? with
  | none => rfl
  | some count =>
    have hpos := overlay.count_pos count hgiven
    have hpositive : ¬ (count : Int) < 1 := by omega
    simp [Value.toCount, Value.toInteger, hpositive]

end

/-- The environment of a configuration is its section, unless that is neither a mapping nor counts as false. -/
theorem environment_eq {config : Config} {entries : Entries Value} (hvalue : config.value = .map entries)
    (hplain : ∀ value ∈ Entries.named? entries "environment", value.isMap = true ∨ value.isTrue = false) :
    config.environment = .ok (Entries.sectionOf entries "environment") := by
  have hwithin : config.value.within? ["environment"] = Entries.named? entries "environment" := by
    rw [hvalue, Value.within?]
    cases Entries.named? entries "environment" <;> rfl
  rw [Config.environment, hwithin, Entries.sectionOf]
  cases hnamed : Entries.named? entries "environment" with
  | none => rfl
  | some value =>
    have hplain := hplain value hnamed
    cases value with
    | map inner => cases inner <;> rfl
    | _ => exact if_neg (by simpa [Value.isMap] using hplain)

/-- The environment stays a mapping, or what counts as an empty one. -/
theorem plain_apply {overlay : Overlay} {entries : Entries Value}
    (hplain : ∀ value ∈ Entries.named? entries "environment", value.isMap = true ∨ value.isTrue = false) :
    ∀ value ∈ Entries.named? (overlay.apply entries) "environment", value.isMap = true ∨ value.isTrue = false := by
  rw [Overlay.apply, Overlay.overEnvironment]
  split
  · rwa [named?_overSelection_environment]
  · rw [named?_insert_self]
    exact fun value hvalue => Option.some.inj hvalue ▸ Or.inl rfl

/-- What the assignments set over the environment of a configuration is the environment in which they are made. -/
theorem environment_overlaid {overlay : Overlay} {entries : Entries Value} (htexts : ∀ assignment ∈ overlay.assignments,
      Replaceable (Entries.sectionOf entries "environment") assignment) :
    Environment.ofMapping (Entries.sectionOf (overlay.apply entries) "environment") =
      (Environment.ofMapping (Entries.sectionOf entries "environment")).map fun vars => Entries.insertAll vars
        (Entries.ofPairs (underNames (overlay.assignments.map fun assignment =>
          (assignment.name, assignment.value)))) := by
  simp only [sectionOf_apply_environment, insertAll_ofPairs]
  split
  · rename_i hnone
    rw [List.isEmpty_iff.mp hnone]
    cases Environment.ofMapping (Entries.sectionOf entries "environment") <;> rfl
  · have hset : ∀ entry ∈ (Entries.sectionOf entries "environment").filter Entries.isSet,
        Entries.isSet entry = true := fun entry hentry => (List.mem_filter.mp hentry).2
    have hreplaceable : ∀ assignment ∈ overlay.assignments,
        Replaceable ((Entries.sectionOf entries "environment").filter Entries.isSet) assignment :=
      fun assignment hassignment entry hentry => htexts assignment hassignment entry (List.mem_filter.mp hentry).1
    rw [Overlay.environment, Environment.ofMapping, Environment.ofMapping, all_hasTexts_assignments hset hreplaceable,
      all_hasTexts_filter_isSet, ofEntries_assignments hset, ofEntries_filter_isSet]
    split <;> rfl

/-- The plan of a selection with some variables. -/
def planWith (vars : Environment) (spec : Except Failure String) (filters : List Value) : Except Failure Plan := do
  let selector ← Selector.ofSpec (← spec)
  let filter? ← RunFilter.chainOf (.list filters)
  return ⟨vars, selector, filter?⟩

/-- The variables of a plan are those of the environment with the assignments after them. -/
theorem plan_eq {options : SelectOptions} {config : Config} {env : Entries Value} {assigned : Environment}
    (henv : config.environment = .ok env) (hassigned : Environment.ofAssignments options.assignments = .ok assigned) :
    Plan.of options config = ((Environment.ofMapping env).map fun vars => Entries.insertAll vars assigned) >>=
      fun vars => planWith vars (options.selectorText config) (options.filterSpecs config) := by
  simp only [Plan.of, planWith, henv, hassigned, bind, Except.bind]
  cases Environment.ofMapping env <;> simp only [Except.map]

section

variable {config config' : Config} {overlay : Overlay} {entries : Entries Value}
  (hvalue : config.value = .map entries) (hvalue' : config'.value = .map (overlay.apply entries))
  (hplain : ∀ value ∈ Entries.named? entries "environment", value.isMap = true ∨ value.isTrue = false)
  (htexts : ∀ assignment ∈ overlay.assignments, Replaceable (Entries.sectionOf entries "environment") assignment)

include hvalue hvalue' hplain htexts

/-- The plan of a selection with the options is the plan without any, where the options are set. -/
theorem plan_overlaid (config? config'? : Option String) :
    Plan.of (overlay.options config?) config = Plan.of (Overlay.none.options config'?) config' := by
  have hspec : (overlay.options config?).selectorText config =
      (Overlay.none.options config'?).selectorText config' := selectorText_overlaid hvalue hvalue' config?
  have hfilters : (overlay.options config?).filterSpecs config =
      (Overlay.none.options config'?).filterSpecs config' := filterSpecs_overlaid hvalue hvalue' config?
  rw [plan_eq (environment_eq hvalue hplain) (ofAssignments_text overlay.assignments),
    plan_eq (environment_eq hvalue' (plain_apply hplain)) (ofAssignments_text []), hspec, hfilters,
    environment_overlaid htexts]
  cases Environment.ofMapping (Entries.sectionOf entries "environment") <;> rfl

/-- The runs that are picked are the same. -/
theorem selected_overlaid (job : Job Shelf) (config? config'? : Option String) :
    Program.selected job (overlay.options config?) config =
      Program.selected job (Overlay.none.options config'?) config' := by
  have hcount : (overlay.options config?).countOf config = (Overlay.none.options config'?).countOf config' :=
    count_overlaid hvalue hvalue' config?
  rw [Program.selected, Program.selected, plan_overlaid hvalue hvalue' hplain htexts config? config'?, hcount]

end

/-! ## Configurations that are read -/

/-- Was a mapping read that has nothing but a number under a name? -/
def readsNumber (name : String) (number : Int) : Except Failure Yaml.Document → Bool
  | .ok (.map _ [(.text found, .leaf _ (.integer n))]) => found == name && n == number
  | _ => false

/-- The check of a file with one number says what the file is read as. -/
theorem exists_of_readsNumber {result : Except Failure Yaml.Document} {name : String} {number : Int}
    (h : readsNumber name number result = true) : ∃ data, result = .ok data ∧ data ≠ .empty ∧ data.isMap = true ∧
      data.value = .map [(.text name, .integer number)] := by
  unfold readsNumber at h
  split at h
  · obtain ⟨hname, hnumber⟩ := Bool.and_eq_true_iff.mp h
    rw [eq_of_beq hname, eq_of_beq hnumber]
    exact ⟨_, rfl, nofun, rfl, rfl⟩
  · cases h

/-- Was a mapping read of two sections, each with one text under a name? -/
def readsTexts (first second : String × String × String) : Except Failure Yaml.Document → Bool
  | .ok (.map _ [(.text name, .map _ [(.text key, .leaf _ (.text value))]),
      (.text name', .map _ [(.text key', .leaf _ (.text value'))])]) =>
    (name, key, value) == first && (name', key', value') == second
  | _ => false

/-- The check of a file with two sections says what the file is read as. -/
theorem exists_of_readsTexts {result : Except Failure Yaml.Document} {first second : String × String × String}
    (h : readsTexts first second result = true) : ∃ data, result = .ok data ∧ data ≠ .empty ∧ data.isMap = true ∧
      data.value = .map [(.text first.1, .map [(.text first.2.1, .text first.2.2)]),
        (.text second.1, .map [(.text second.2.1, .text second.2.2)])] := by
  unfold readsTexts at h
  split at h
  · obtain ⟨hfirst, hsecond⟩ := Bool.and_eq_true_iff.mp h
    rw [← eq_of_beq hfirst, ← eq_of_beq hsecond]
    exact ⟨_, rfl, nofun, rfl, rfl⟩
  · cases h

end OverlayAux

open LoadingAux OverlayAux

/-- Options of a selection are an overlay of its configuration. Let the environment of a configuration be absent, a
mapping, or count as empty, and let another configuration have its entries with the options set among them. Where an
assignment stands over a variable, that is to have texts, as it has unless an integer in it has too many digits. When both
are loaded alike, the selection with the options under the one and the selection without any under the other are the
same: they end alike, print the same, and leave the same files. -/
theorem select_overlaid (overlay : Overlay) (history : String) {config? config'? : Option String}
    {desk after : Desk Shelf} {config config' : Config} {entries : Entries Value}
    (hload : (Program.configOf (overlay.options config?)).on desk = (.ok config, after))
    (hload' : (Program.configOf { SelectOptions.blank with config? := config'? }).on desk = (.ok config', after))
    (hvalue : config.value = .map entries) (hvalue' : config'.value = .map (overlay.apply entries))
    (hplain : ∀ value ∈ Entries.named? entries "environment", value.isMap = true ∨ value.isTrue = false)
    (htexts : ∀ entry ∈ Entries.sectionOf entries "environment",
      entry.1.keyDisplay ∈ overlay.assignments.map Assignment.name → Environment.hasTexts entry = true) :
    (Program.select history (overlay.options config?)).on desk =
      (Program.select history { SelectOptions.blank with config? := config'? }).on desk := by
  have hblank : Overlay.none.options config'? = { SelectOptions.blank with config? := config'? } := rfl
  have hreplaceable : ∀ assignment ∈ overlay.assignments,
      Replaceable (Entries.sectionOf entries "environment") assignment := fun assignment hassignment entry hentry hname =>
    htexts entry hentry (hname ▸ List.mem_map_of_mem hassignment)
  rw [← hblank] at hload' ⊢
  simp only [Program.select, Work.on_bind, hload, hload',
    selected_overlaid hvalue hvalue' hplain hreplaceable (Shelf.job history) config? config'?]

/-- A selector and an assignment are set in a configuration that has a number in the place of the selection. -/
theorem select_overlaid_of_number :
    let overlay : Overlay := ⟨some "last", [], [⟨"RUN", "one", by decide, by decide⟩], .none, nofun⟩
    let given := "selection: 7\n"
    let meant := "selection:\n  selector: last\nenvironment:\n  RUN: one\n"
    let desk : Desk Shelf := ⟨.fresh ⟨1, true, false⟩ .printed,
      ⟨[("given.yml", ⟨given, 0⟩), ("meant.yml", ⟨meant, 0⟩)], .empty⟩⟩
    (Program.select "history.yml" (overlay.options (some "given.yml"))).on desk =
      (Program.select "history.yml" { SelectOptions.blank with config? := some "meant.yml" }).on desk := by
  intro overlay given meant desk
  have hgiven : readsNumber "selection" 7 (Yaml.documentIn (StoredFile.mk given 0).text) = true := by decide +kernel
  have hmeant : readsTexts ("selection", "selector", "last") ("environment", "RUN", "one")
      (Yaml.documentIn (StoredFile.mk meant 0).text) = true := by decide +kernel
  obtain ⟨data, hdata, hne, hmap, hvalue⟩ := exists_of_readsNumber hgiven
  obtain ⟨data', hdata', hne', hmap', hvalue'⟩ := exists_of_readsTexts hmeant
  have hplain : ∀ value ∈ Entries.named? [(.text "selection", Value.integer 7)] "environment",
      value.isMap = true ∨ value.isTrue = false := nofun
  have hnone : Entries.sectionOf [(.text "selection", .integer 7)] "environment" = [] := rfl
  exact select_overlaid overlay "history.yml" (configOf_silent rfl rfl hdata hne hmap)
    (configOf_silent rfl rfl hdata' hne' hmap') hvalue hvalue' hplain
    (hnone ▸ fun _ hentry => absurd hentry List.not_mem_nil)

end RunPicker

import RunPicker.Proofs.NestedStore

/-!
# Which texts are keys

A key is a path of sections, written as names with dots between them. `validated_keys` says what `isValidKey` makes of
this grammar for every text: it lets all paths pass, and besides them only the paths with a line feed behind their last
name. This line feed is then a part of the last section (`isValidKey_line_feed`). A text that does not pass is turned
down by whatever takes a key, before the configuration is looked at or changed.
-/

namespace RunPicker

/-- A character that a name of a section is written with: a letter or a digit of ASCII, or an underscore. -/
def IsSectionNameChar (c : Char) : Prop :=
  ('a' ≤ c ∧ c ≤ 'z') ∨ ('A' ≤ c ∧ c ≤ 'Z') ∨ ('0' ≤ c ∧ c ≤ '9') ∨ c = '_'

instance (c : Char) : Decidable (IsSectionNameChar c) :=
  inferInstanceAs (Decidable (_ ∨ _))

/-- A name of a section. -/
structure IsSectionName (name : String) : Prop where
  nonempty : name ≠ ""
  chars : ∀ c ∈ name.toList, IsSectionNameChar c

/-- The names of the sections on the way to a value, of which there is at least one. -/
structure IsKeyPath (names : List String) : Prop where
  nonempty : names ≠ []
  names : ∀ name ∈ names, IsSectionName name

/-- The names with single dots between them. -/
def dotted (names : List String) : String :=
  ".".intercalate names

namespace KeysAux

open NestedStoreAux

variable {name key : String} {names : List String}

/-! ## Names -/

/-- The check of a character accepts those of names. -/
theorem isSectionChar_iff (c : Char) : isSectionChar c = true ↔ IsSectionNameChar c := by
  have hsplit : isSectionChar c = (decide ('A' ≤ c ∧ c ≤ 'Z') || (decide ('a' ≤ c) && decide (c ≤ 'z')) ||
      (decide ('0' ≤ c) && decide (c ≤ '9')) || c == '_') := rfl
  rw [hsplit, IsSectionNameChar]
  simp only [Bool.or_eq_true, Bool.and_eq_true, decide_eq_true_eq, beq_iff_eq]
  tauto

/-- The check of a section accepts the names. -/
theorem isSection_iff (name : String) : isSection name.toList = true ↔ IsSectionName name := by
  rw [isSection, Bool.and_eq_true, List.all_eq_true]
  simp only [isSectionChar_iff]
  constructor
  · rintro ⟨hnonempty, hchars⟩
    exact ⟨fun hname => by simp [hname] at hnonempty, hchars⟩
  · rintro ⟨hnonempty, hchars⟩
    exact ⟨by simpa using hnonempty, hchars⟩

/-- There is no dot in a name. -/
theorem dot_not_mem (h : IsSectionName name) : '.' ∉ name.toList :=
  fun hdot => absurd (h.chars '.' hdot) (by decide)

/-- There is no line feed in a name. -/
theorem line_feed_not_mem (h : IsSectionName name) : '\n' ∉ name.toList :=
  fun hfeed => absurd (h.chars '\n' hfeed) (by decide)

/-! ## Dots -/

/-- Characters are split as lists are. -/
theorem splitChars_eq_splitOn (separator : Char) (cs : List Char) :
    Text.splitChars separator cs = cs.splitOn separator := by
  induction cs with
  | nil => rfl
  | cons c rest ih =>
    rw [Text.splitChars, ih, List.splitOn_eq_splitOnP, List.splitOn_eq_splitOnP,
      List.splitOnP_cons_eq_if_modifyHead]
    cases hpieces : List.splitOnP (· == separator) rest with
    | nil => exact absurd hpieces (List.splitOnP_ne_nil _ _)
    | cons piece pieces => rfl

/-- Sections with the dots put back between them are the key that they were taken from, whatever text it is. -/
theorem dotted_sections (key : String) : dotted (sections key) = key := by
  apply String.toList_injective
  rw [dotted, sections, Text.splitAll, splitChars_eq_splitOn, String.toList_intercalate, List.map_map]
  have hpieces : String.toList ∘ String.ofList = id := funext fun cs => String.toList_ofList
  rw [hpieces, List.map_id]
  exact List.intercalate_splitOn '.'

/-- Names without dots can be read back from the key that they are written as. -/
theorem sections_dotted (hnames : names ≠ []) (hdots : ∀ name ∈ names, '.' ∉ name.toList) :
    sections (dotted names) = names := by
  have hsplit : List.splitOn '.' (['.'].intercalate (names.map String.toList)) = names.map String.toList := by
    refine List.splitOn_intercalate '.' (fun cs hcs => ?_) (by simpa using hnames)
    obtain ⟨name, hname, rfl⟩ := List.mem_map.mp hcs
    exact hdots name hname
  rw [sections, Text.splitAll, splitChars_eq_splitOn, dotted, String.toList_intercalate]
  rw [show ".".toList = ['.'] from rfl, hsplit, List.map_map]
  have hpieces : String.ofList ∘ String.toList = id := funext fun name => String.ofList_toList
  rw [hpieces, List.map_id]

/-- The last name of a path stands at its end. -/
theorem exists_lead (front : List String) : ∃ lead, ∀ last, dotted (front ++ [last]) = lead ++ last := by
  by_cases hfront : front = []
  · exact ⟨"", fun last => by rw [hfront, List.nil_append, dotted, String.intercalate_singleton, String.empty_append]⟩
  · refine ⟨dotted front ++ ".", fun last => ?_⟩
    rw [dotted, String.intercalate_append_of_ne_nil hfront (List.cons_ne_nil _ _), String.intercalate_singleton]
    rfl

/-- What is written behind a path is written behind its last name. -/
theorem dotted_append (front : List String) (last ending : String) :
    dotted (front ++ [last]) ++ ending = dotted (front ++ [last ++ ending]) := by
  obtain ⟨lead, hlead⟩ := exists_lead front
  rw [hlead, hlead, String.append_assoc]

/-! ## The line feed at the end -/

/-- A final line feed is dropped. -/
theorem withoutFinalLineFeed_append (cs : List Char) : withoutFinalLineFeed (cs ++ ['\n']) = cs := by
  induction cs with
  | nil => rfl
  | cons c rest ih =>
    rw [List.cons_append, withoutFinalLineFeed, ih]
    exact fun _ h => absurd h (by simp)

/-- What does not end with a line feed is kept. -/
theorem withoutFinalLineFeed_of_ne {cs : List Char} (h : cs.getLast? ≠ some '\n') : withoutFinalLineFeed cs = cs := by
  fun_induction withoutFinalLineFeed cs with
  | case1 => rfl
  | case2 => exact absurd rfl h
  | case3 c rest hrest ih =>
    rw [ih]
    intro hlast
    refine h ?_
    rw [List.getLast?_cons, hlast, Option.getD_some]

/-- Every text ends in a line feed that is let pass, or in nothing. -/
theorem exists_bare (key : String) : ∃ bare ending, (ending = "" ∨ ending = "\n") ∧ key = bare ++ ending ∧
    withoutFinalLineFeed key.toList = bare.toList := by
  by_cases h : key.toList.getLast? = some '\n'
  · obtain ⟨cs, hcs⟩ := List.getLast?_eq_some_iff.mp h
    refine ⟨String.ofList cs, "\n", .inr rfl, ?_, ?_⟩
    · apply String.toList_injective
      rw [hcs, String.toList_append, String.toList_ofList]
      rfl
    · rw [hcs, withoutFinalLineFeed_append, String.toList_ofList]
  · exact ⟨key, "", .inl rfl, String.append_empty.symm, withoutFinalLineFeed_of_ne h⟩

/-- A path of names does not end with a line feed. -/
theorem getLast?_dotted (h : IsKeyPath names) : (dotted names).toList.getLast? ≠ some '\n' := by
  intro hlast
  have hmem := h.names _ (List.getLast_mem h.nonempty)
  obtain ⟨lead, hlead⟩ := exists_lead names.dropLast
  have hdotted := hlead (names.getLast h.nonempty)
  rw [List.dropLast_append_getLast] at hdotted
  rw [hdotted, String.toList_append, List.getLast?_append_of_ne_nil _ (by simpa using hmem.nonempty)] at hlast
  exact line_feed_not_mem hmem (List.mem_of_getLast? hlast)

/-- A path is left of itself with a line feed behind it. -/
theorem bare_dotted (h : IsKeyPath names) {ending : String} (hending : ending = "" ∨ ending = "\n") :
    withoutFinalLineFeed (dotted names ++ ending).toList = (dotted names).toList := by
  rcases hending with rfl | rfl
  · rw [String.append_empty, withoutFinalLineFeed_of_ne (getLast?_dotted h)]
  · rw [String.toList_append]
    exact withoutFinalLineFeed_append _

/-! ## Keys -/

/-- A key is valid if it is a path of names when a final line feed is dropped. -/
theorem isValidKey_iff {bare : String} (h : withoutFinalLineFeed key.toList = bare.toList) :
    isValidKey key = true ↔ IsKeyPath (sections bare) := by
  have hpieces : (Text.splitChars '.' bare.toList) = (sections bare).map String.toList := by
    rw [sections, Text.splitAll, List.map_map]
    have hid : String.toList ∘ String.ofList = id := funext fun cs => String.toList_ofList
    rw [hid, List.map_id]
  rw [isValidKey, h, hpieces, List.all_map, List.all_eq_true]
  constructor
  · exact fun hall => ⟨sections_ne_nil bare, fun name hname => (isSection_iff name).mp (hall name hname)⟩
  · exact fun hpath name hname => (isSection_iff name).mpr (hpath.names name hname)

/-- The sections of a path are its names. -/
theorem sections_of_path (h : IsKeyPath names) : sections (dotted names) = names :=
  sections_dotted h.nonempty fun name hname => dot_not_mem (h.names name hname)

/-- With a line feed behind it, a path is read back with the line feed in its last section. -/
theorem sections_of_ending {front : List String} {last ending : String} (h : IsKeyPath (front ++ [last]))
    (hending : ending = "" ∨ ending = "\n") :
    sections (dotted (front ++ [last]) ++ ending) = front ++ [last ++ ending] := by
  rw [dotted_append]
  refine sections_dotted (by simp) fun name hname => ?_
  rcases List.mem_append.mp hname with hfront | hlast
  · exact dot_not_mem (h.names name (List.mem_append_left _ hfront))
  · have hdots : '.' ∉ ending.toList := by rcases hending with rfl | rfl <;> decide
    rw [List.mem_singleton.mp hlast, String.toList_append, List.mem_append]
    exact fun hdot => hdot.elim (dot_not_mem (h.names last (by simp))) hdots

/-- The keys are the paths with nothing or with a line feed behind them. -/
theorem isValidKey_path_iff (key : String) : isValidKey key = true ↔ ∃ front last ending,
    IsKeyPath (front ++ [last]) ∧ (ending = "" ∨ ending = "\n") ∧ key = dotted (front ++ [last]) ++ ending := by
  constructor
  · intro hvalid
    obtain ⟨bare, ending, hending, hkey, hbare⟩ := exists_bare key
    have hpath := (isValidKey_iff hbare).mp hvalid
    have hsplit := List.dropLast_append_getLast hpath.nonempty
    refine ⟨(sections bare).dropLast, (sections bare).getLast hpath.nonempty, ending, ?_, hending, ?_⟩
    · rwa [hsplit]
    · rw [hsplit, dotted_sections, hkey]
  · rintro ⟨front, last, ending, hpath, hending, rfl⟩
    rw [isValidKey_iff (bare_dotted hpath hending), sections_of_path hpath]
    exact hpath

end KeysAux

open KeysAux NestedStoreAux

/-- What `isValidKey` makes of a text.
1. The keys are the paths of names, with nothing or with one line feed behind the last name. The sections of a key are
   the names of its path, and the line feed is a part of the last one.
2. So among the texts that do not end in a line feed, the keys are the paths, and the sections of a key are the names of
   its path.
3. The sections of a text give the text back, with dots between them.
4. With a text that is no key, nothing is got from any configuration, and nothing is set: whatever the configuration,
   its files and the console hold is as it was. -/
theorem validated_keys (key : String) :
    (isValidKey key = true ↔ ∃ front last ending, IsKeyPath (front ++ [last]) ∧ (ending = "" ∨ ending = "\n") ∧
      key = dotted (front ++ [last]) ++ ending ∧ sections key = front ++ [last ++ ending]) ∧
    (key.toList.getLast? ≠ some '\n' →
      (isValidKey key = true ↔ ∃ names, IsKeyPath names ∧ key = dotted names ∧ sections key = names) ∧
      (isValidKey key = true ↔ IsKeyPath (sections key))) ∧
    dotted (sections key) = key ∧
    (isValidKey key = false → ∀ (config : Config) (value : Value) (desk : Desk StoredConfig),
      config.get key = .error (.invalidParameter "key" key "") ∧
      config.getOr key value = .error (.invalidParameter "key" key "") ∧
      (Config.set key value).on desk = (.error (.invalidParameter "key" key ""), desk)) := by
  refine ⟨?_, fun hending => ?_, dotted_sections key, fun hkey config value desk => ?_⟩
  · rw [isValidKey_path_iff]
    constructor
    · rintro ⟨front, last, ending, hpath, hending, rfl⟩
      exact ⟨front, last, ending, hpath, hending, rfl, sections_of_ending hpath hending⟩
    · rintro ⟨front, last, ending, hpath, hending, hkey, -⟩
      exact ⟨front, last, ending, hpath, hending, hkey⟩
  · have hvalid : isValidKey key = true ↔ IsKeyPath (sections key) :=
      isValidKey_iff (withoutFinalLineFeed_of_ne hending)
    refine ⟨hvalid.trans ⟨fun hpath => ?_, ?_⟩, hvalid⟩
    · exact ⟨sections key, hpath, (dotted_sections key).symm, rfl⟩
    · rintro ⟨names, hpath, -, hsections⟩
      exact hsections ▸ hpath
  · have hsections : sectionsOfKey key = .error (.invalidParameter "key" key "") := by
      rw [sectionsOfKey, hkey, if_neg Bool.false_ne_true]
    have hget : config.get key = .error (.invalidParameter "key" key "") := by
      rw [Config.get, hsections]
      rfl
    refine ⟨hget, ?_, set_of_invalid hkey value desk.console desk.host.files⟩
    rw [Config.getOr, hget]

/-- A line feed at the end is let pass, although a text with one is no path of names. It goes into the last section. -/
theorem isValidKey_line_feed :
    isValidKey "a\n" = true ∧ sections "a\n" = ["a\n"] ∧ ¬ IsSectionName "a\n" ∧
      ¬ ∃ names, IsKeyPath names ∧ "a\n" = dotted names := by
  refine ⟨by decide, by decide, fun hname => line_feed_not_mem hname (by decide), ?_⟩
  rintro ⟨names, hpath, hdotted⟩
  refine getLast?_dotted hpath ?_
  rw [← hdotted]
  decide

end RunPicker

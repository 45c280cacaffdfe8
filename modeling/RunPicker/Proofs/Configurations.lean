import RunPicker.Proofs.FilterForms
import RunPicker.Proofs.FilterRewriting
import RunPicker.Proofs.Texts

/-!
# Configurations of filters

`RunFilter.Configures` says which values configure which filters: a text does that specifies one, and a mapping with one
of the three connectives as its only key. Under `not` stands a configuration, and under `and` and `or` stands what is
iterated for the operands. The reader never asks whether that is a list. A value is read exactly if it configures a
filter in this sense (`ofValue_eq_ok_iff`), and what is no list is either iterated all the same or fails as a value of a
wrong type (`ofValue_eq_wrongType_iff`). What is to be reported and has no text fails as well
(`ofValue_eq_wrongValue_iff`). Values with texts whose connectives all stand over lists are read or reported
(`configured_filters`).
-/

namespace RunPicker

namespace Text

/-- All of the characters are blank. -/
def AllBlank (cs : List Char) : Prop :=
  ∀ c ∈ cs, isBlank c = true

/-- The characters do not start with a blank. -/
def StartsUnblank (cs : List Char) : Prop :=
  ∀ c ∈ cs.head?, isBlank c = false

instance (cs : List Char) : Decidable (StartsUnblank cs) :=
  decidable_of_iff (cs.head?.all fun c => isBlank c == false) (by simp [StartsUnblank, Option.all_eq_true])

end Text

namespace RunFilter

/-- The characters spell a kind with an argument. Blanks may stand around the kind and at the end, and behind a colon
the argument stands as it is. -/
inductive Spells (kind : String) : List Char → List Char → Prop where
  | bare {front back : List Char} (hfront : Text.AllBlank front) (hback : Text.AllBlank back) :
      Spells kind (front ++ kind.toList ++ back) []
  | argued {front middle argument back : List Char} (hfront : Text.AllBlank front) (hmiddle : Text.AllBlank middle)
      (hend : Text.EndsUnblank argument) (hback : Text.AllBlank back) :
      Spells kind (front ++ (kind.toList ++ middle ++ ':' :: argument) ++ back) argument

/-- The characters specify a filter: one of the two criteria, or by the word `not` the negation of what the rest
specifies. A display name is not empty. -/
inductive Specifies : List Char → RunFilter Criterion → Prop where
  | parameters {spec argument : List Char} (spelled : Spells "parameters" spec argument) :
      Specifies spec (.leaf (.parameters (String.ofList argument)))
  | displayName {spec argument : List Char} (spelled : Spells "display-name" spec argument) (given : argument ≠ []) :
      Specifies spec (.leaf (.displayName (String.ofList argument)))
  | not {spec argument : List Char} {filter : RunFilter Criterion} (spelled : Spells "not" spec argument)
      (specified : Specifies argument filter) : Specifies spec (.not filter)

/-- The key under which a connective has its operands. -/
def Connective.word : Connective → String
  | all => "and"
  | any => "or"

/-- A connective over its operands, as a configuration. -/
def Connective.over (connective : Connective) (operands : Value) : Value :=
  .map [(.text connective.word, operands)]

/-- The negation of a configuration. -/
def negationOf (operand : Value) : Value :=
  .map [(.text "not", operand)]

/-- The operands are the items of a list. -/
def Listed (operands : Value) (items : List Value) : Prop :=
  operands = .list items

/-- The operands are what is iterated: the items of a list, but also the characters of a text and the keys of a
mapping. -/
inductive Iterated : Value → List Value → Prop where
  | items (items : List Value) : Iterated (.list items) items
  | characters (text : String) : Iterated (.text text) (text.toList.map fun c => .text (String.singleton c))
  | keys (entries : List (Value × Value)) (flat : ∀ entry ∈ entries, entry.1.isMap = false) :
      Iterated (.map entries) (entries.map Prod.fst)

/-- The value configures the filter, where a relation says what the operands under `and` and `or` are. -/
inductive Configures (operandsOf : Value → List Value → Prop) : Value → RunFilter Criterion → Prop where
  | spec {text : String} {filter : RunFilter Criterion} (specified : Specifies text.toList filter) :
      Configures operandsOf (.text text) filter
  | joined (connective : Connective) {operands : Value} {items : List Value} {filters : List (RunFilter Criterion)}
      (held : operandsOf operands items) (configured : List.Forall₂ (Configures operandsOf) items filters) :
      Configures operandsOf (connective.over operands) (connective.join filters)
  | negated {operand : Value} {filter : RunFilter Criterion} (configured : Configures operandsOf operand filter) :
      Configures operandsOf (negationOf operand) (.not filter)

/-- Wherever `and` or `or` stands in the configuration, it stands over a list. -/
inductive ConnectsLists : Value → Prop where
  | joined (connective : Connective) {items : List Value} (inside : ∀ item ∈ items, ConnectsLists item) :
      ConnectsLists (connective.over (.list items))
  | negated {operand : Value} (inside : ConnectsLists operand) : ConnectsLists (negationOf operand)
  | single {value : Value} (hjoined : ∀ (connective : Connective) operands, value ≠ connective.over operands)
      (hnegated : ∀ operand, value ≠ negationOf operand) : ConnectsLists value

/-- The value can be iterated. -/
def IsIterable : Value → Prop
  | .list _ | .text _ | .map _ => True
  | _ => False

/-- The reader gets stuck: what comes first and is no configuration is a connective over what cannot be iterated. -/
inductive Stuck : Value → Prop where
  | operands (connective : Connective) {operands : Value} (hnone : ¬IsIterable operands) :
      Stuck (connective.over operands)
  | item (connective : Connective) {front : List Value} {item : Value} {back : List Value}
      (read : ∀ other ∈ front, ∃ filter, ofValue other = .ok filter) (stuck : Stuck item) :
      Stuck (connective.over (.list (front ++ item :: back)))
  | negated {operand : Value} (stuck : Stuck operand) : Stuck (negationOf operand)

/-- The reader is to report what has no text: what comes first and is no configuration is neither a specification nor a
composition, and it cannot be quoted. -/
inductive Unwritten : Value → Prop where
  | neither {value : Value} (hjoined : ∀ (connective : Connective) operands, value ≠ connective.over operands)
      (hnegated : ∀ operand, value ≠ negationOf operand) (hnone : value.hasText = false) : Unwritten value
  | item (connective : Connective) {front : List Value} {item : Value} {back : List Value}
      (read : ∀ other ∈ front, ∃ filter, ofValue other = .ok filter) (unwritten : Unwritten item) :
      Unwritten (connective.over (.list (front ++ item :: back)))
  | key (connective : Connective) {front : List (Value × Value)} {entry : Value × Value} {back : List (Value × Value)}
      (read : ∀ other ∈ front, ∃ filter, ofKey other.1 = .ok filter) (hnone : entry.1.hasText = false) :
      Unwritten (connective.over (.map (front ++ entry :: back)))
  | negated {operand : Value} (unwritten : Unwritten operand) : Unwritten (negationOf operand)

end RunFilter

/-- The failure reports a configuration: the display name is missing, the kind is unknown, or the configuration is
neither a specification nor a composition. -/
inductive Failure.ReportsConfiguration : Failure → Prop where
  | missingArgument : ReportsConfiguration (.invalidParameter "display-name" "" "(missing argument)")
  | unknownKind (kind : String) : ReportsConfiguration (.unsupported "filter" kind)
  | neither (text : String) : ReportsConfiguration (RunFilter.refused text)

namespace ConfigurationsAux

open RunFilter QuotingAux FilterFormsAux FilterRewritingAux ResultsAux

/-! ## Blanks -/

/-- Blanks in front of a text are dropped together with those that it begins with. -/
theorem dropBlank_append {front : List Char} (h : Text.AllBlank front) (rest : List Char) :
    Text.dropBlank (front ++ rest) = Text.dropBlank rest :=
  List.dropWhile_append_of_pos h

/-- Blanks around a text are dropped when it is trimmed. -/
theorem trimChars_append {front core back : List Char} (hfront : Text.AllBlank front) (hback : Text.AllBlank back)
    (hstart : Text.StartsUnblank core) (hend : Text.EndsUnblank core) :
    Text.trimChars (front ++ core ++ back) = core := by
  have hreverse : Text.AllBlank back.reverse := fun c hc => hback c (List.mem_reverse.mp hc)
  rw [List.append_assoc, Text.trimChars, dropBlank_append hfront]
  cases core with
  | nil =>
    have hnone : Text.dropBlank back = [] := List.dropWhile_eq_nil_iff.mpr hback
    rw [List.nil_append, hnone]
    rfl
  | cons c core =>
    have hkept : Text.dropBlank (c :: (core ++ back)) = c :: (core ++ back) := dropBlank_eq_self hstart
    rw [List.cons_append, hkept, ← List.cons_append, List.reverse_append, dropBlank_append hreverse,
      dropBlank_eq_self, List.reverse_reverse]
    rwa [List.head?_reverse]

/-- What begins without a blank does so without what follows. -/
theorem startsUnblank_of_append {front back : List Char} (h : Text.StartsUnblank (front ++ back)) :
    Text.StartsUnblank front := by
  cases front with
  | nil => exact nofun
  | cons c front => exact h

/-- What ends without a blank does so without what stands before. -/
theorem endsUnblank_of_append {front : List Char} {c : Char} {back : List Char}
    (h : Text.EndsUnblank (front ++ c :: back)) : Text.EndsUnblank back := by
  intro last hlast
  refine h last ?_
  rw [Option.mem_def] at hlast
  rw [List.getLast?_append, List.getLast?_cons, hlast]
  rfl

/-- Dropping blanks takes them off the front until none is left there. -/
theorem exists_of_dropBlank (cs : List Char) :
    Text.StartsUnblank (Text.dropBlank cs) ∧ ∃ front, Text.AllBlank front ∧ cs = front ++ Text.dropBlank cs := by
  refine ⟨fun c hc => ?_, cs.takeWhile Text.isBlank, fun c => List.mem_takeWhile_imp, ?_⟩
  · have hhead := List.head?_dropWhile_not Text.isBlank cs
    rw [Option.mem_def, Text.dropBlank] at hc
    rwa [hc] at hhead
  · exact List.takeWhile_append_dropWhile.symm

/-- Only blanks are dropped when a text is trimmed, and all that are at its ends. -/
theorem exists_of_trimChars (cs : List Char) : Text.StartsUnblank (Text.trimChars cs) ∧
    Text.EndsUnblank (Text.trimChars cs) ∧ ∃ front back, Text.AllBlank front ∧ Text.AllBlank back ∧
      cs = front ++ Text.trimChars cs ++ back := by
  obtain ⟨hstart, front, hfront, hcs⟩ := exists_of_dropBlank cs
  obtain ⟨hend, back, hback, hbody⟩ := exists_of_dropBlank (Text.dropBlank cs).reverse
  have hparts : Text.dropBlank cs = Text.trimChars cs ++ back.reverse := by
    rw [Text.trimChars, ← List.reverse_append, ← hbody, List.reverse_reverse]
  refine ⟨startsUnblank_of_append (hparts ▸ hstart), ?_, front, back.reverse, hfront, ?_, ?_⟩
  · rw [Text.EndsUnblank, Text.trimChars, List.getLast?_reverse]
    exact hend
  · exact fun c hc => hback c (List.mem_reverse.mp hc)
  · rw [List.append_assoc, ← hparts, ← hcs]

/-! ## Kinds -/

/-- A kind is cut off and trimmed as it is: it is not empty and has neither a colon nor blanks at its ends. -/
structure IsKind (kind : String) : Prop where
  cutOff : ':' ∉ kind.toList
  given : kind.toList ≠ []
  starts : Text.StartsUnblank kind.toList
  ends : Text.EndsUnblank kind.toList

/-- The kinds of filters are written without colons and blanks around them. -/
theorem isKind_of_mem : ∀ kind ∈ filterKinds, IsKind kind := by
  have hkinds : ∀ kind ∈ filterKinds, ':' ∉ kind.toList ∧ kind.toList ≠ [] ∧
      Text.StartsUnblank kind.toList ∧ Text.EndsUnblank kind.toList := by
    decide
  intro kind hkind
  obtain ⟨hcolon, hgiven, hstart, hend⟩ := hkinds kind hkind
  exact ⟨hcolon, hgiven, hstart, hend⟩

/-- Characters without the separator are not cut. -/
theorem cutChars_of_not_mem {separator : Char} {cs : List Char} (h : separator ∉ cs) :
    Text.cutChars separator cs = (cs, none) := by
  induction cs with
  | nil => rfl
  | cons c rest ih =>
    obtain ⟨hc, hrest⟩ := not_or.mp (mt List.mem_cons.mpr h)
    rw [Text.cutChars, if_neg (by simpa using Ne.symm hc), ih hrest]

/-- A specification is read as a kind with an argument exactly if it spells them. -/
theorem splitSpec_eq_iff {kind : String} (hkind : kind ∈ filterKinds) {spec argument : List Char} :
    splitSpec spec = (kind.toList, argument) ↔ Spells kind spec argument := by
  obtain ⟨hcolon, hgiven, hstart, hend⟩ := isKind_of_mem kind hkind
  constructor
  · intro h
    obtain ⟨hfirst, hlast, front, back, hfront, hback, hspec⟩ := exists_of_trimChars spec
    by_cases hmem : ':' ∈ Text.trimChars spec
    · obtain ⟨before, after, hcore, hbefore⟩ := List.eq_append_cons_of_mem hmem
      obtain ⟨-, -, lead, middle, hlead, hmiddle, hkinds⟩ := exists_of_trimChars before
      have hafter : Text.EndsUnblank after := endsUnblank_of_append (hcore ▸ hlast)
      simp only [splitSpec, hcore, cutChars_append hbefore, Option.getD_some, Prod.mk.injEq] at h
      obtain ⟨htrimmed, rfl⟩ := h
      rw [hcore, hkinds, htrimmed] at hspec
      have hblank : Text.AllBlank (front ++ lead) := fun c hc => (List.mem_append.mp hc).elim (hfront c) (hlead c)
      have hspells : Spells kind (front ++ lead ++ (kind.toList ++ middle ++ ':' :: after) ++ back) after :=
        .argued hblank hmiddle hafter hback
      rw [hspec]
      simpa only [List.append_assoc] using hspells
    · simp only [splitSpec, cutChars_of_not_mem hmem, trimChars_eq_self hfirst hlast, Option.getD_none,
        Prod.mk.injEq] at h
      obtain ⟨hcore, rfl⟩ := h
      rw [hspec, hcore]
      exact .bare hfront hback
  · intro h
    have htrim : Text.trimChars kind.toList = kind.toList := trimChars_eq_self hstart hend
    cases h with
    | bare hfront hback =>
      simp only [splitSpec, trimChars_append hfront hback hstart hend, cutChars_of_not_mem hcolon, htrim,
        Option.getD_none]
    | @argued front middle _ back hfront hmiddle hargument hback =>
      have hbefore : ':' ∉ kind.toList ++ middle := by
        rintro hmem
        rcases List.mem_append.mp hmem with hmem | hmem
        · exact hcolon hmem
        · exact absurd (hmiddle _ hmem) (by decide)
      have hwhole : Text.StartsUnblank (kind.toList ++ middle ++ ':' :: argument) := by
        obtain ⟨c, rest, hkind⟩ := List.exists_cons_of_ne_nil hgiven
        rw [hkind] at hstart ⊢
        exact hstart
      have hkindTrim : Text.trimChars ([] ++ kind.toList ++ middle) = kind.toList :=
        trimChars_append (List.forall_mem_nil _) hmiddle hstart hend
      rw [List.nil_append] at hkindTrim
      simp only [splitSpec, trimChars_append hfront hback hwhole (endsUnblank_append (by decide) hargument _),
        cutChars_append hbefore, hkindTrim, Option.getD_some]

/-! ## Specifications -/

/-- What is read for a kind is spelled with it. -/
theorem spells_of_kind {kind : String} (hkind : kind ∈ filterKinds) {spec : List Char}
    (h : (splitSpec spec).1 = kind.toList) : Spells kind spec (splitSpec spec).2 :=
  (splitSpec_eq_iff hkind).mp (Prod.ext h rfl)

/-- An argument that is required is not empty. -/
theorem required_eq_ok_iff {kind argument result : String} :
    required kind argument = .ok result ↔ argument ≠ "" ∧ argument = result := by
  unfold required
  split <;> simp_all [String.isEmpty_iff]

/-- A specification is read exactly if it specifies a filter. -/
theorem ofSpecChars_eq_ok_iff {spec : List Char} {filter : RunFilter Criterion} :
    ofSpecChars spec = .ok filter ↔ Specifies spec filter := by
  constructor
  · intro h
    fun_induction ofSpecChars spec generalizing filter with
    | case1 =>
      rename_i hkind
      exact Except.ok.inj h ▸ .parameters (spells_of_kind (by decide) hkind)
    | case2 =>
      rename_i hkind
      obtain ⟨name, hname, rfl⟩ := map_eq_ok_iff.mp h
      obtain ⟨hgiven, rfl⟩ := required_eq_ok_iff.mp hname
      exact .displayName (spells_of_kind (by decide) hkind) (mt String.ofList_eq_empty_iff.mpr hgiven)
    | case3 =>
      rename_i hkind ih
      obtain ⟨part, hpart, rfl⟩ := map_eq_ok_iff.mp h
      exact .not (spells_of_kind (by decide) hkind) (ih hpart)
    | case4 => cases h
  · have hname : ("display-name".toList = "parameters".toList) = False := by decide
    have hnot : ("not".toList = "parameters".toList) = False ∧ ("not".toList = "display-name".toList) = False := by
      decide
    intro h
    induction h with
    | parameters spelled =>
      rw [ofSpecChars]
      simp only [(splitSpec_eq_iff (by decide)).mpr spelled, if_true]
    | displayName spelled given =>
      rw [ofSpecChars]
      simp only [(splitSpec_eq_iff (by decide)).mpr spelled, hname, if_true, if_false]
      rw [required_eq_ok_iff.mpr ⟨mt String.ofList_eq_empty_iff.mp given, rfl⟩]
      rfl
    | not spelled _ ih =>
      rw [ofSpecChars]
      simp only [(splitSpec_eq_iff (by decide)).mpr spelled, hnot, if_true, if_false]
      rw [ih]
      rfl

/-- A specification that is not read is reported. -/
theorem reports_of_ofSpecChars {spec : List Char} {failure : Failure} (h : ofSpecChars spec = .error failure) :
    failure.ReportsConfiguration := by
  fun_induction ofSpecChars spec with
  | case1 => cases h
  | case2 =>
    rw [map_eq_error_iff, required] at h
    split at h
    · rename_i hnone
      rw [String.isEmpty_iff.mp hnone] at h
      exact Except.error.inj h ▸ .missingArgument
    · cases h
  | case3 =>
    rename_i ih
    exact ih (map_eq_error_iff.mp h)
  | case4 => exact Except.error.inj h ▸ .unknownKind _

/-! ## Configurations -/

/-- A connective over operands is read by reading the operands. -/
theorem ofValue_over (connective : Connective) (operands : Value) :
    ofValue (connective.over operands) = (ofOperands operands).map connective.join := by
  cases connective with
  | all =>
    rw [Connective.over, Connective.word, ofValue]
    rfl
  | any =>
    rw [Connective.over, Connective.word, ofValue]
    rfl

/-- A negation of a configuration is read by reading the configuration. -/
theorem ofValue_negationOf (operand : Value) :
    ofValue (negationOf operand) = (ofValue operand).map RunFilter.not := by
  rw [negationOf, ofValue]

/-- A value that is neither a specification nor a composition is refused by its text. -/
theorem ofValue_of_neither {value : Value} (htext : ∀ spec, value = .text spec → False)
    (hjoined : ∀ (connective : Connective) operands, value = connective.over operands → False)
    (hnegated : ∀ operand, value = negationOf operand → False) :
    ofValue value = .error (.quoting value.toText refused) := by
  rw [ofValue]
  · exact htext
  · exact hjoined .all
  · exact hjoined .any
  · exact hnegated

/-- The cases in which the reader goes on: under `and` and `or` to the items of a list, and under `not`. -/
theorem reading_induction {motive : Value → Prop} (spec : ∀ text, motive (.text text))
    (joined : ∀ (connective : Connective) operands,
      (∀ items, operands = .list items → ∀ item ∈ items, motive item) → motive (connective.over operands))
    (negated : ∀ operand, motive operand → motive (negationOf operand))
    (neither : ∀ value, (∀ text, value = .text text → False) →
      (∀ (connective : Connective) operands, value = connective.over operands → False) →
      (∀ operand, value = negationOf operand → False) → motive value) (value : Value) : motive value := by
  refine ofValue.induct motive (fun operands => ∀ items, operands = .list items → ∀ item ∈ items, motive item)
    (fun items => ∀ item ∈ items, motive item) spec (joined .all) (joined .any) negated ?_ ?_ (fun _ => nofun)
    (fun _ => nofun) (fun operands hlist _ _ items h => (hlist items h).elim) nofun ?_ value
  · intro value htext hall hany hnegated
    refine neither value htext (fun connective operands => ?_) hnegated
    cases connective with
    | all => exact hall operands
    | any => exact hany operands
  · intro items ih others h
    exact Value.list.inj h ▸ ih
  · intro value rest ih ihrest
    exact List.forall_mem_cons.mpr ⟨ih, ihrest⟩

/-- The connective and the operands can be read off a configuration. -/
theorem over_inj {connective other : Connective} {operands operands' : Value}
    (h : connective.over operands = other.over operands') : connective = other ∧ operands = operands' := by
  cases connective <;> cases other <;> simp_all [Connective.over, Connective.word]

/-- A connective over operands is no negation. -/
theorem over_ne_negationOf (connective : Connective) (operands operand : Value) :
    connective.over operands ≠ negationOf operand := by
  cases connective <;> simp [Connective.over, Connective.word, negationOf]

section

variable {operandsOf : Value → List Value → Prop} {filter : RunFilter Criterion}

/-- A text configures what it specifies. -/
theorem configures_text_iff {text : String} :
    Configures operandsOf (.text text) filter ↔ Specifies text.toList filter := by
  constructor
  · intro h
    cases h with
    | spec specified => exact specified
  · exact .spec

/-- A connective over operands configures the filters of what stands in them, joined. -/
theorem configures_over_iff {connective : Connective} {operands : Value} :
    Configures operandsOf (connective.over operands) filter ↔
      ∃ items filters, operandsOf operands items ∧ List.Forall₂ (Configures operandsOf) items filters ∧
        connective.join filters = filter := by
  constructor
  · intro h
    generalize hvalue : connective.over operands = value at h
    cases h with
    | spec specified => exact nomatch hvalue
    | @joined other operands' items filters held configured =>
      obtain ⟨rfl, rfl⟩ := over_inj hvalue
      exact ⟨items, filters, held, configured, rfl⟩
    | negated configured => exact absurd hvalue (over_ne_negationOf _ _ _)
  · rintro ⟨items, filters, held, configured, rfl⟩
    exact .joined connective held configured

/-- A negation configures the negated filters of what stands under it. -/
theorem configures_negationOf_iff {operand : Value} :
    Configures operandsOf (negationOf operand) filter ↔
      ∃ part, Configures operandsOf operand part ∧ part.not = filter := by
  constructor
  · intro h
    generalize hvalue : negationOf operand = value at h
    cases h with
    | spec specified => exact nomatch hvalue
    | joined connective held configured => exact absurd hvalue.symm (over_ne_negationOf _ _ _)
    | @negated operand' part configured =>
      obtain rfl : operand = operand' := by simpa [negationOf] using hvalue
      exact ⟨part, configured, rfl⟩
  · rintro ⟨part, configured, rfl⟩
    exact .negated configured

/-- What is neither a text nor a composition configures nothing. -/
theorem not_configures_of_neither {value : Value} (htext : ∀ spec, value = .text spec → False)
    (hjoined : ∀ (connective : Connective) operands, value = connective.over operands → False)
    (hnegated : ∀ operand, value = negationOf operand → False) : ¬Configures operandsOf value filter := by
  intro h
  cases h with
  | spec specified => exact htext _ rfl
  | joined connective held configured => exact hjoined connective _ rfl
  | negated configured => exact hnegated _ rfl

end

/-! ## What is read -/

/-- The reader of specifications reads exactly those of the grammar. -/
theorem ofSpec_eq_ok_iff {text : String} {filter : RunFilter Criterion} :
    ofSpec text = .ok filter ↔ Specifies text.toList filter :=
  ofSpecChars_eq_ok_iff

/-- A key is read as a filter if it configures one and is no mapping. -/
theorem ofKey_eq_ok_iff {key : Value} {filter : RunFilter Criterion} :
    ofKey key = .ok filter ↔ key.isMap = false ∧ Configures Iterated key filter := by
  cases key with
  | text spec => simp [ofKey, ofSpec_eq_ok_iff, configures_text_iff, Value.isMap]
  | map entries => simp [ofKey, Value.isMap]
  | _ =>
    refine ⟨nofun, fun h => absurd h.2 (not_configures_of_neither nofun ?_ nofun)⟩
    intro connective operands
    cases connective <;> exact nofun

/-- A relation of items and filters can be exchanged for one that follows from it for these items. -/
theorem forall₂_imp_of_mem {R S : Value → RunFilter Criterion → Prop} {items : List Value}
    (h : ∀ item ∈ items, ∀ filter, R item filter → S item filter) {filters : List (RunFilter Criterion)}
    (hall : List.Forall₂ R items filters) : List.Forall₂ S items filters :=
  ((List.forall₂_and_left _ _).mpr ⟨h, hall⟩).imp fun _ filter himp => himp.1 filter himp.2

/-- Operands are read if what is iterated is, which holds of the items of a list as they are read. -/
theorem ofOperands_eq_ok_iff {operands : Value} (hitems : ∀ items, operands = .list items →
      ∀ item ∈ items, ∀ filter, ofValue item = .ok filter ↔ Configures Iterated item filter)
    {filters : List (RunFilter Criterion)} : ofOperands operands = .ok filters ↔
      ∃ items, Iterated operands items ∧ List.Forall₂ (Configures Iterated) items filters := by
  cases operands with
  | list items =>
    rw [ofOperands, ofValues_eq_mapM, mapM_eq_ok_iff]
    constructor
    · intro h
      exact ⟨items, .items items, forall₂_imp_of_mem (fun item hmem filter => (hitems items rfl item hmem filter).mp) h⟩
    · rintro ⟨_, ⟨⟩, h⟩
      exact forall₂_imp_of_mem (fun item hmem filter => (hitems items rfl item hmem filter).mpr) h
  | text text =>
    have hcharacters : ofOperands (.text text) = .ok filters ↔ List.Forall₂ (Configures Iterated)
        (text.toList.map fun c => .text (String.singleton c)) filters := by
      rw [ofOperands, mapM_eq_ok_iff, List.forall₂_map_left_iff]
      simp only [ofSpec_eq_ok_iff, configures_text_iff]
    rw [hcharacters]
    constructor
    · exact fun h => ⟨_, .characters text, h⟩
    · rintro ⟨_, ⟨⟩, h⟩
      exact h
  | map entries =>
    have hkeys : ofOperands (.map entries) = .ok filters ↔ (∀ entry ∈ entries, entry.1.isMap = false) ∧
        List.Forall₂ (Configures Iterated) (entries.map Prod.fst) filters := by
      rw [ofOperands, mapM_eq_ok_iff, List.forall₂_map_left_iff, ← List.forall₂_and_left]
      simp only [ofKey_eq_ok_iff]
    rw [hkeys]
    constructor
    · exact fun ⟨flat, h⟩ => ⟨_, .keys entries flat, h⟩
    · rintro ⟨items, hheld, h⟩
      cases hheld with
      | keys _ flat => exact ⟨flat, h⟩
  | _ =>
    rw [ofOperands]
    · exact ⟨nofun, fun ⟨_, held, _⟩ => nomatch held⟩
    all_goals exact nofun

/-- A value is read exactly if it configures a filter, where operands are what is iterated. -/
theorem ofValue_eq_ok_iff {value : Value} {filter : RunFilter Criterion} :
    ofValue value = .ok filter ↔ Configures Iterated value filter := by
  induction value using reading_induction generalizing filter with
  | spec text =>
    rw [ofValue, configures_text_iff]
    exact ofSpec_eq_ok_iff
  | joined connective operands ih =>
    have hread (filters : List (RunFilter Criterion)) : ofOperands operands = .ok filters ↔
        ∃ items, Iterated operands items ∧ List.Forall₂ (Configures Iterated) items filters :=
      ofOperands_eq_ok_iff fun items hlist item hmem filter => ih items hlist item hmem
    rw [ofValue_over, map_eq_ok_iff, configures_over_iff]
    constructor
    · rintro ⟨filters, hfilters, rfl⟩
      obtain ⟨items, held, configured⟩ := (hread filters).mp hfilters
      exact ⟨items, filters, held, configured, rfl⟩
    · rintro ⟨items, filters, held, configured, rfl⟩
      exact ⟨filters, (hread filters).mpr ⟨items, held, configured⟩, rfl⟩
  | negated operand ih =>
    rw [ofValue_negationOf, map_eq_ok_iff, configures_negationOf_iff]
    simp only [ih]
  | neither value htext hjoined hnegated =>
    rw [ofValue_of_neither htext hjoined hnegated]
    exact ⟨nofun, fun h => absurd h (not_configures_of_neither htext hjoined hnegated)⟩

/-! ## How reading fails -/

/-- What quotes a value reports it, unless it has no text. -/
theorem quoting_refused_cases (value : Value) (text : String) :
    (Failure.quoting (value.written text) refused).ReportsConfiguration ∨
      (Failure.quoting (value.written text) refused = .wrongValue ∧ value.hasText = false) := by
  rcases value.quoting_written_cases text refused with ⟨-, hquoted⟩ | ⟨hnone, hfailure⟩
  · exact .inl (hquoted ▸ .neither text)
  · exact .inr ⟨hfailure, hnone⟩

/-- A key that is not read is reported, unless it has no text. -/
theorem ofKey_error {key : Value} {failure : Failure} (h : ofKey key = .error failure) :
    failure.ReportsConfiguration ∨ (failure = .wrongValue ∧ key.hasText = false) := by
  unfold ofKey at h
  split at h
  · exact .inl (reports_of_ofSpecChars h)
  · exact Except.error.inj h ▸ quoting_refused_cases _ _

/-- Operands that are not read are reported, or the failure is that of the first item of a list that is not read, or
the first key of a mapping that is not read has no text, or they cannot be iterated. -/
theorem ofOperands_error {operands : Value} {failure : Failure} (h : ofOperands operands = .error failure) :
    failure.ReportsConfiguration ∨
      (∃ front item back, operands = .list (front ++ item :: back) ∧
        (∀ other ∈ front, ∃ filter, ofValue other = .ok filter) ∧ ofValue item = .error failure) ∨
      (failure = .wrongValue ∧ ∃ front entry back, operands = .map (front ++ entry :: back) ∧
        (∀ other ∈ front, ∃ filter, ofKey other.1 = .ok filter) ∧ entry.1.hasText = false) ∨
      (failure = .wrongType ∧ ¬IsIterable operands) := by
  unfold ofOperands at h
  split at h
  · rw [ofValues_eq_mapM, mapM_eq_error_iff] at h
    obtain ⟨front, item, back, rfl, hfront, hitem⟩ := h
    exact .inr (.inl ⟨front, item, back, rfl, hfront, hitem⟩)
  · obtain ⟨front, c, back, -, -, hc⟩ := mapM_eq_error_iff.mp h
    exact .inl (reports_of_ofSpecChars hc)
  · obtain ⟨front, entry, back, rfl, hfront, hentry⟩ := mapM_eq_error_iff.mp h
    rcases ofKey_error hentry with hreports | ⟨hfailure, hnone⟩
    · exact .inl hreports
    · exact .inr (.inr (.inl ⟨hfailure, front, entry, back, rfl, hfront, hnone⟩))
  · rename_i hlist htext hmap
    refine .inr (.inr (.inr ⟨(Except.error.inj h).symm, fun hiterable => ?_⟩))
    unfold IsIterable at hiterable
    split at hiterable
    · exact hlist _ rfl
    · exact htext _ rfl
    · exact hmap _ rfl
    · exact hiterable

/-- A value that is not read is reported, or the reader gets stuck at it, or what is to be reported has no text. -/
theorem ofValue_error {value : Value} {failure : Failure} (h : ofValue value = .error failure) :
    failure.ReportsConfiguration ∨ (failure = .wrongType ∧ Stuck value) ∨
      (failure = .wrongValue ∧ Unwritten value) := by
  induction value using reading_induction with
  | spec text =>
    rw [ofValue] at h
    exact .inl (reports_of_ofSpecChars h)
  | joined connective operands ih =>
    rw [ofValue_over, map_eq_error_iff] at h
    rcases ofOperands_error h with hreports | ⟨front, item, back, rfl, hfront, hitem⟩ |
      ⟨hfailure, front, entry, back, rfl, hfront, hnone⟩ | ⟨hfailure, hnone⟩
    · exact .inl hreports
    · refine (ih _ rfl item (by simp) hitem).imp_right (Or.imp ?_ ?_)
      · exact fun ⟨hfailure, hstuck⟩ => ⟨hfailure, .item connective hfront hstuck⟩
      · exact fun ⟨hfailure, hunwritten⟩ => ⟨hfailure, .item connective hfront hunwritten⟩
    · exact .inr (.inr ⟨hfailure, .key connective hfront hnone⟩)
    · exact .inr (.inl ⟨hfailure, .operands connective hnone⟩)
  | negated operand ih =>
    rw [ofValue_negationOf, map_eq_error_iff] at h
    refine (ih h).imp_right (Or.imp ?_ ?_)
    · exact fun ⟨hfailure, hstuck⟩ => ⟨hfailure, .negated hstuck⟩
    · exact fun ⟨hfailure, hunwritten⟩ => ⟨hfailure, .negated hunwritten⟩
  | neither value htext hjoined hnegated =>
    rw [ofValue_of_neither htext hjoined hnegated] at h
    obtain rfl := Except.error.inj h
    refine (quoting_refused_cases value value.display).imp_right fun ⟨hfailure, hnone⟩ => .inr ⟨hfailure, ?_⟩
    exact .neither (fun connective operands => hjoined connective operands) (fun operand => hnegated operand) hnone

/-- Operands that cannot be iterated have a wrong type. -/
theorem ofOperands_of_not_iterable {operands : Value} (h : ¬IsIterable operands) :
    ofOperands operands = .error .wrongType := by
  rw [ofOperands]
  all_goals
    rintro _ rfl
    exact h trivial

/-- A failure that is known by its category alone does not report a configuration. -/
theorem not_reports_ofCategory (category : Category) : ¬(Failure.ofCategory category).ReportsConfiguration := by
  generalize hfailure : Failure.ofCategory category = failure
  rintro (_ | _ | _) <;> exact nomatch hfailure

/-- The reader finds a value of a wrong type exactly if it gets stuck at what cannot be iterated. -/
theorem ofValue_eq_wrongType_iff {value : Value} : ofValue value = .error .wrongType ↔ Stuck value := by
  constructor
  · intro h
    rcases ofValue_error h with hreports | ⟨-, hstuck⟩ | ⟨hfailure, -⟩
    · exact absurd hreports (not_reports_ofCategory _)
    · exact hstuck
    · exact nomatch hfailure
  · intro h
    induction h with
    | operands connective hnone => rw [ofValue_over, ofOperands_of_not_iterable hnone, map_eq_error_iff]
    | item connective read _ ih =>
      rw [ofValue_over, ofOperands, ofValues_eq_mapM, map_eq_error_iff, mapM_eq_error_iff]
      exact ⟨_, _, _, rfl, read, ih⟩
    | negated _ ih => rw [ofValue_negationOf, map_eq_error_iff, ih]

/-- A key without a text fails when it is to be named in the message. -/
theorem ofKey_of_not_hasText {key : Value} (h : key.hasText = false) : ofKey key = .error .wrongValue := by
  unfold ofKey
  split
  · exact nomatch h
  · rw [Value.keyToText, Value.written_of_not_hasText h, Failure.quoting]

/-- The reader fails at a text exactly if what it is to report has none. -/
theorem ofValue_eq_wrongValue_iff {value : Value} : ofValue value = .error .wrongValue ↔ Unwritten value := by
  constructor
  · intro h
    rcases ofValue_error h with hreports | ⟨hfailure, -⟩ | ⟨-, hunwritten⟩
    · exact absurd hreports (not_reports_ofCategory _)
    · exact nomatch hfailure
    · exact hunwritten
  · intro h
    induction h with
    | neither hjoined hnegated hnone =>
      rw [ofValue_of_neither (by rintro _ rfl; exact nomatch hnone) hjoined hnegated, Value.toText,
        Value.written_of_not_hasText hnone, Failure.quoting]
    | item connective read _ ih =>
      rw [ofValue_over, ofOperands, ofValues_eq_mapM, map_eq_error_iff, mapM_eq_error_iff]
      exact ⟨_, _, _, rfl, read, ih⟩
    | key connective read hnone =>
      rw [ofValue_over, ofOperands, map_eq_error_iff, mapM_eq_error_iff]
      exact ⟨_, _, _, rfl, read, ofKey_of_not_hasText hnone⟩
    | negated _ ih => rw [ofValue_negationOf, map_eq_error_iff, ih]

/-- A composition has a text if its operands have one. -/
theorem hasText_over (connective : Connective) (operands : Value) :
    (connective.over operands).hasText = operands.hasText := by
  cases connective <;> simp [Connective.over, Value.hasText, Value.entriesHaveText]

/-- In a value that has a text there is nothing that has none. -/
theorem hasText_of_unwritten {value : Value} (h : Unwritten value) : value.hasText = false := by
  induction h with
  | neither _ _ hnone => exact hnone
  | @item connective front item back _ _ ih =>
    rw [hasText_over, Bool.eq_false_iff, ne_eq, Value.hasText_list_iff]
    exact fun hall => absurd (hall item (by simp)) (Bool.eq_false_iff.mp ih)
  | @key connective front entry back _ hnone =>
    rw [hasText_over, Bool.eq_false_iff, ne_eq, Value.hasText_map_iff]
    exact fun hall => absurd (hall entry (by simp)).1 (Bool.eq_false_iff.mp hnone)
  | negated _ ih => simpa [negationOf, Value.hasText, Value.entriesHaveText] using ih

/-! ## Connectives over lists -/

/-- Over lists, a configuration is what it is if the operands are the items of lists. -/
theorem configures_listed_iff {value : Value} (h : ConnectsLists value) {filter : RunFilter Criterion} :
    Configures Listed value filter ↔ Configures Iterated value filter := by
  induction h generalizing filter with
  | @joined connective items _ ih =>
    rw [configures_over_iff, configures_over_iff]
    constructor
    · rintro ⟨_, filters, held, configured, rfl⟩
      obtain rfl := Value.list.inj held
      exact ⟨items, filters, .items items, forall₂_imp_of_mem (fun item hmem _ => (ih item hmem).mp) configured, rfl⟩
    · rintro ⟨_, filters, ⟨⟩, configured, rfl⟩
      exact ⟨items, filters, rfl, forall₂_imp_of_mem (fun item hmem _ => (ih item hmem).mpr) configured, rfl⟩
  | negated _ ih => simp only [configures_negationOf_iff, ih]
  | single hjoined hnegated =>
    constructor
    · rintro (specified | ⟨connective, -, -⟩ | -)
      · exact .spec specified
      · exact absurd rfl (hjoined connective _)
      · exact absurd rfl (hnegated _)
    · rintro (specified | ⟨connective, -, -⟩ | -)
      · exact .spec specified
      · exact absurd rfl (hjoined connective _)
      · exact absurd rfl (hnegated _)

/-- A list of operands is stuck at one of its items. -/
theorem stuck_over_list {connective : Connective} {items : List Value} (h : Stuck (connective.over (.list items))) :
    ∃ item ∈ items, Stuck item := by
  generalize hvalue : connective.over (.list items) = value at h
  cases h with
  | operands other hnone =>
    obtain ⟨-, rfl⟩ := over_inj hvalue
    exact absurd trivial hnone
  | @item other front item back _ stuck =>
    obtain rfl := Value.list.inj (over_inj hvalue).2
    exact ⟨item, by simp, stuck⟩
  | negated stuck => exact absurd hvalue (over_ne_negationOf _ _ _)

/-- A negation is stuck where what it negates is. -/
theorem stuck_negationOf {operand : Value} (h : Stuck (negationOf operand)) : Stuck operand := by
  generalize hvalue : negationOf operand = value at h
  cases h with
  | operands connective hnone => exact absurd hvalue.symm (over_ne_negationOf _ _ _)
  | item connective read stuck => exact absurd hvalue.symm (over_ne_negationOf _ _ _)
  | @negated operand' stuck =>
    obtain rfl : operand = operand' := by simpa [negationOf] using hvalue
    exact stuck

/-- No configuration is stuck whose connectives all stand over lists. -/
theorem not_stuck_of_connectsLists {value : Value} (h : ConnectsLists value) : ¬Stuck value := by
  induction h with
  | joined connective _ ih =>
    intro hstuck
    obtain ⟨item, hmem, hitem⟩ := stuck_over_list hstuck
    exact ih item hmem hitem
  | negated _ ih => exact fun hstuck => ih (stuck_negationOf hstuck)
  | single hjoined hnegated =>
    rintro (⟨connective, -⟩ | ⟨connective, -, -⟩ | -)
    · exact hjoined connective _ rfl
    · exact hjoined connective _ rfl
    · exact hnegated _ rfl

/-- A text has no connectives. -/
theorem connectsLists_text (text : String) : ConnectsLists (.text text) := by
  refine .single (fun connective operands => ?_) nofun
  cases connective <;> exact nofun

end ConfigurationsAux

open RunFilter QuotingAux FilterFormsAux FilterRewritingAux ResultsAux ConfigurationsAux

/-- A value that is read as a filter, and values that are read as a chain.
1. A value in which `and` and `or` stand over lists is read exactly if it configures a filter: as a specification that is
spelled well, as one of these connectives over a list of such configurations, or as a negation of one. Every other that
has a text is reported.
2. Any value at all is read exactly if it configures a filter where the operands are what is iterated.
3. A value that is not read is reported, or the reader gets stuck where something cannot be iterated, or it is to report
what has no text, as an integer with too many digits. There is no failure of another kind.
4. A list of configurations makes the chain of their filters if all of them are read, and it fails as the first that is
not. -/
theorem configured_filters (value : Value) (configurations : List Value) :
    (ConnectsLists value →
      (∀ filter, ofValue value = .ok filter ↔ Configures Listed value filter) ∧
        (value.hasText = true → ∀ failure, ofValue value = .error failure → failure.ReportsConfiguration)) ∧
    (∀ filter, ofValue value = .ok filter ↔ Configures Iterated value filter) ∧
    ((ofValue value = .error .wrongType ↔ Stuck value) ∧ (ofValue value = .error .wrongValue ↔ Unwritten value) ∧
      (Unwritten value → value.hasText = false) ∧ ∀ failure, ofValue value = .error failure →
        failure.ReportsConfiguration ∨ failure = .wrongType ∨ failure = .wrongValue) ∧
    (∀ chain?, chainOf (.list configurations) = .ok chain? ↔ ∃ filters, chain filters = chain? ∧
      List.Forall₂ (fun configuration filter => ofValue configuration = .ok filter) configurations filters) ∧
    ∀ failure, chainOf (.list configurations) = .error failure ↔ ∃ front configuration back,
      configurations = front ++ configuration :: back ∧ (∀ other ∈ front, ∃ filter, ofValue other = .ok filter) ∧
        ofValue configuration = .error failure := by
  refine ⟨fun h => ⟨fun filter => ?_, fun htext failure hfailure => ?_⟩, fun filter => ofValue_eq_ok_iff,
    ⟨ofValue_eq_wrongType_iff, ofValue_eq_wrongValue_iff, hasText_of_unwritten, fun failure hfailure => ?_⟩,
    fun chain? => ?_, fun failure => ?_⟩
  · exact ofValue_eq_ok_iff.trans (configures_listed_iff h).symm
  · rcases ofValue_error hfailure with hreports | ⟨-, hstuck⟩ | ⟨-, hunwritten⟩
    · exact hreports
    · exact absurd hstuck (not_stuck_of_connectsLists h)
    · exact absurd htext (Bool.eq_false_iff.mp (hasText_of_unwritten hunwritten))
  · exact (ofValue_error hfailure).imp_right (Or.imp And.left And.left)
  · rw [chainOf, ofOperands, map_eq_ok_iff, ofValues_eq_mapM]
    simp only [mapM_eq_ok_iff, and_comm]
  · rw [chainOf, ofOperands, map_eq_error_iff, ofValues_eq_mapM, mapM_eq_error_iff]

/-- A conjunction of a specification with blanks and of a negation, and the same behind what is no configuration. -/
theorem configured_filters_of_blanks :
    let value := Connective.all.over
      (.list [.text " parameters : A=1 ", negationOf (.text (negatedSpec "display-name:#1"))])
    let filter : RunFilter Criterion := .all [.leaf (.parameters " A=1"), .not (.not (.leaf (.displayName "#1")))]
    ConnectsLists value ∧ Configures Listed value filter ∧ ofValue value = .ok filter ∧
      chainOf (.list [value, .null, value]) = .error (refused "None") := by
  intro value filter
  have hconnects : ConnectsLists value := by
    refine .joined .all fun item hmem => ?_
    rcases List.mem_pair.mp hmem with rfl | rfl
    · exact connectsLists_text _
    · exact .negated (connectsLists_text _)
  have hparts : splitSpec " parameters : A=1 ".toList = ("parameters".toList, " A=1".toList) := by decide
  have hparameters : ofSpec " parameters : A=1 " = .ok (.leaf (.parameters " A=1")) := by
    rw [ofSpec, ofSpecChars]
    simp only [hparts, if_true, String.ofList_toList]
  have hspec : "display-name:#1" = "display-name" ++ ":" ++ "#1" := by decide
  have hname : ofSpec "display-name:#1" = .ok (.leaf (.displayName "#1")) :=
    hspec ▸ ofSpec_displayName (by decide) (by decide)
  have hnegated : ofSpec (negatedSpec "display-name:#1") = .ok (.not (.leaf (.displayName "#1"))) := by
    rw [ofSpec_negatedSpec, hname]
    rfl
  have hconfigures : Configures Listed value filter :=
    .joined .all rfl (.cons (.spec (ofSpec_eq_ok_iff.mp hparameters))
      (.cons (.negated (.spec (ofSpec_eq_ok_iff.mp hnegated))) .nil))
  obtain ⟨hlisted, -, -, -, hfails⟩ := configured_filters value [value, .null, value]
  have hread : ofValue value = .ok filter := ((hlisted hconnects).1 filter).mpr hconfigures
  have hnull : ofValue .null = .error (refused "None") := by
    rw [ofValue_of_neither (by simp) (by simp [Connective.over]) (by simp [negationOf]), Value.toText_of_hasText rfl,
      Failure.quoting, Value.display, Value.literal]
    all_goals simp
  refine ⟨hconnects, hconfigures, hread, (hfails _).mpr ⟨[value], .null, [value], rfl, ?_, hnull⟩⟩
  exact fun other hother => ⟨filter, List.mem_singleton.mp hother ▸ hread⟩

/-- An operand that is no list is not reported: a number fails as a value of a wrong type, and an empty text stands for
no operands. -/
theorem unlisted_operands :
    let number := Connective.all.over (.integer 5)
    let nothing := Connective.all.over (.text "")
    (∀ filter, ¬Configures Listed number filter) ∧ ofValue number = .error .wrongType ∧
      ¬Failure.wrongType.ReportsConfiguration ∧
      (∀ filter, ¬Configures Listed nothing filter) ∧ ofValue nothing = .ok (.all []) := by
  have hunlisted {operands : Value} (hlist : ∀ items, operands ≠ .list items) (filter : RunFilter Criterion) :
      ¬Configures Listed (Connective.all.over operands) filter := by
    rw [configures_over_iff]
    exact fun ⟨items, _, held, _⟩ => hlist items held
  refine ⟨hunlisted nofun, ?_, not_reports_ofCategory _, hunlisted nofun, ?_⟩
  · rw [ofValue_over]
    rfl
  · rw [ofValue_over]
    rfl

end RunPicker

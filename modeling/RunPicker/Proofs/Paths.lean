import RunPicker.Config.Section
import RunPicker.Proofs.Parts

/-!
# Paths in documents

What stands under a path of sections (`Document.within?`), and when a change under one path cannot be seen under
another. A section with a label is one and the same wherever it stands. So the other path has to be apart from all
paths that lead through the sections on the way, by whatever aliases (`Document.Names`), and what stands under it may
not hold any of these sections (`Document.Untouched`). In a document without aliases this says no more than that neither
path leads into the other (`untouched_of_unshared`).
-/

namespace RunPicker

open Yaml

/-- Neither of the paths leads into the other. -/
def Diverge (names others : List String) : Prop :=
  ¬ names <+: others ∧ ¬ others <+: names

instance (names others : List String) : Decidable (Diverge names others) :=
  inferInstanceAs (Decidable (_ ∧ _))

namespace Yaml.Document

/-- The part under some sections, each within the one before. -/
def within? : List String → Document → Option Document
  | [], part => some part
  | name :: rest, .map _ entries => (Entries.named? entries name).bind (within? rest)
  | _ :: _, _ => none

/-- The label of the part under some sections. -/
def labelAt? (document : Document) (names : List String) : Option Nat :=
  (document.within? names).bind label?

/-- Do the paths lead to one and the same part? -/
def SamePart (document : Document) (path other : List String) : Prop :=
  path = other ∨ ∃ label, document.labelAt? path = some label ∧ document.labelAt? other = some label

/-- The paths that name the same place as `names`: one of the sections on the way to it may be reached by another
path. -/
def Names (document : Document) (names path : List String) : Prop :=
  ∃ front rest other, names = front ++ rest ∧ rest ≠ [] ∧ path = other ++ rest ∧ document.SamePart front other

/-- A change of the place that `names` leads to cannot be seen under `others`: no path that leads to the place leads
there, and what stands there holds none of the sections on the way to the place. -/
structure Untouched (document : Document) (names others : List String) : Prop where
  paths : ∀ path, document.Names names path → Diverge path others
  parts : ∀ part, document.within? others = some part → ∀ front rest label, names = front ++ rest → rest ≠ [] →
    document.labelAt? front = some label → label ∉ part.labels

end Yaml.Document

namespace PathsAux

open PartsAux EntriesAux

variable {document part : Document} {names others : List String} {label : Nat}

/-- No path leads apart from the way to the whole document. -/
theorem not_diverge_nil_left : ¬ Diverge [] others := fun h => h.1 List.nil_prefix

/-- The way to the whole document leads apart from no path. -/
theorem not_diverge_nil_right : ¬ Diverge names [] := fun h => h.2 List.nil_prefix

/-- Paths lead apart at their first names, or behind them. -/
theorem diverge_cons {name other : String} :
    Diverge (name :: names) (other :: others) ↔ (name = other → Diverge names others) := by
  rw [Diverge, Diverge, List.cons_prefix_cons, List.cons_prefix_cons]
  constructor
  · rintro ⟨h, h'⟩ rfl
    exact ⟨fun hnames => h ⟨rfl, hnames⟩, fun hothers => h' ⟨rfl, hothers⟩⟩
  · intro h
    exact ⟨fun ⟨hname, hnames⟩ => (h hname).1 hnames, fun ⟨hname, hothers⟩ => (h hname.symm).2 hothers⟩

/-- Behind the same names paths lead apart as they do without. -/
theorem diverge_append (front : List String) : Diverge (front ++ names) (front ++ others) ↔ Diverge names others := by
  rw [Diverge, Diverge, List.prefix_append_right_inj, List.prefix_append_right_inj]

/-- A path is followed piece by piece. -/
theorem within?_append (front rest : List String) (document : Document) :
    document.within? (front ++ rest) = (document.within? front).bind (Document.within? rest) := by
  induction front generalizing document with
  | nil => rfl
  | cons name front ih =>
    cases document with
    | leaf label? value => rfl
    | list label? items => rfl
    | map label? entries =>
      rw [List.cons_append, Document.within?, Document.within?, Option.bind_assoc]
      exact congrArg _ (funext ih)

/-- What has a name in a mapping is a part of it. -/
theorem mem_parts_of_named? {label? : Option Nat} {entries : Entries Document} {name : String}
    (h : Entries.named? entries name = some part) : part ∈ (Document.map label? entries).parts :=
  mem_parts_map.mpr (.inr ⟨_, mem_of_named? h, self_mem_parts part⟩)

/-- What a path leads to is a part. -/
theorem mem_parts_of_within? (h : document.within? names = some part) : part ∈ document.parts := by
  induction names generalizing document with
  | nil => exact Option.some.inj h ▸ self_mem_parts document
  | cons name rest ih =>
    cases document with
    | leaf label? value => exact nomatch h
    | list label? items => exact nomatch h
    | map label? entries =>
      obtain ⟨section', hsection, hpart⟩ := Option.bind_eq_some_iff.mp h
      exact mem_parts_trans (ih hpart) (mem_parts_of_named? hsection)

/-- The value under some sections is that of the part under them. -/
theorem within?_value (h : document.Sound) (names : List String) :
    document.value.within? names = (document.within? names).map Document.value := by
  induction names generalizing document with
  | nil => rw [Value.within?, Document.within?, Option.map_some]
  | cons name rest ih =>
    cases document with
    | leaf label? value =>
      have hvalue := h.leaves label? value (self_mem_parts _)
      rw [Document.value]
      cases value with
      | map entries => exact nomatch hvalue
      | _ => rfl
    | list label? items => rfl
    | map label? entries =>
      rw [Document.value, Value.within?, Document.within?, entryValues_eq, named?_map]
      cases hpart : Entries.named? entries name with
      | none => rfl
      | some part => exact ih (sound_of_mem_parts h (mem_parts_of_named? hpart))

/-- A sound document is a mapping if its value is one. -/
theorem isMap_value (h : document.Sound) : document.value.isMap = document.isMap := by
  cases document with
  | leaf label? value =>
    have hvalue := h.leaves label? value (self_mem_parts _)
    rw [Document.value]
    cases value with
    | map entries => exact nomatch hvalue
    | _ => rfl
  | list label? items => rfl
  | map label? entries => rfl

/-- On a path that leads nowhere there is no label but that of the document. -/
theorem labelAt?_ne_of_stuck (hlabel : document.label? ≠ some label)
    (hstuck : ∀ name rest, document.within? (name :: rest) = none) (front rest : List String)
    (_ : names = front ++ rest) : document.labelAt? front ≠ some label := by
  cases front with
  | nil => exact hlabel
  | cons name front =>
    rw [Document.labelAt?, hstuck]
    exact nofun

/-- What stands under some sections after a label was replaced: something in the part that was put there, if the label
stands on the way, and otherwise what stood there before, with the label replaced in it. -/
theorem within?_replace (label : Nat) (part : Document) (names : List String) (document : Document) :
    (∃ front rest, names = front ++ rest ∧ document.labelAt? front = some label ∧
      (Document.replace label part document).within? names = part.within? rest) ∨
    (∀ front rest, names = front ++ rest → document.labelAt? front ≠ some label) ∧
      (Document.replace label part document).within? names =
        (document.within? names).map (Document.replace label part) := by
  induction names generalizing document with
  | nil =>
    by_cases hlabel : document.label? = some label
    · exact .inl ⟨[], [], rfl, hlabel, by rw [replace_of_label hlabel]⟩
    · refine .inr ⟨fun front rest hnil => ?_, rfl⟩
      rw [(List.append_eq_nil_iff.mp hnil.symm).1]
      exact hlabel
  | cons name names ih =>
    by_cases hlabel : document.label? = some label
    · exact .inl ⟨[], name :: names, rfl, hlabel, by rw [replace_of_label hlabel]⟩
    · cases document with
      | leaf label? value =>
        rw [replace_leaf hlabel]
        exact .inr ⟨labelAt?_ne_of_stuck hlabel fun _ _ => rfl, rfl⟩
      | list label? items =>
        rw [replace_list hlabel]
        exact .inr ⟨labelAt?_ne_of_stuck hlabel fun _ _ => rfl, rfl⟩
      | map label? entries =>
        rw [replace_map hlabel, Document.within?, Document.within?, named?_map]
        cases hsection : Entries.named? entries name with
        | none =>
          refine .inr ⟨fun front rest hnames => ?_, rfl⟩
          cases front with
          | nil => exact hlabel
          | cons other front =>
            obtain ⟨rfl, -⟩ := List.cons.inj hnames
            rw [Document.labelAt?, Document.within?, hsection]
            exact nofun
        | some section' =>
          have hlabelAt (front : List String) :
              (Document.map label? entries).labelAt? (name :: front) = section'.labelAt? front := by
            rw [Document.labelAt?, Document.within?, hsection]
            rfl
          rcases ih section' with ⟨front, rest, rfl, hfront, hwithin⟩ | ⟨hnone, hwithin⟩
          · exact .inl ⟨name :: front, rest, rfl, (hlabelAt front).trans hfront, hwithin⟩
          · refine .inr ⟨fun front rest hnames => ?_, hwithin⟩
            cases front with
            | nil => exact hlabel
            | cons other front =>
              obtain ⟨hname, hnames⟩ := List.cons.inj hnames
              rw [← hname, hlabelAt]
              exact hnone front rest hnames

/-- A part does not stand inside itself. -/
theorem eq_nil_of_within?_self (h : document.within? names = some document) : names = [] := by
  cases names with
  | nil => rfl
  | cons name rest =>
    cases document with
    | leaf label? value => exact nomatch h
    | list label? items => exact nomatch h
    | map label? entries =>
      obtain ⟨section', hsection, hwhole⟩ := Option.bind_eq_some_iff.mp h
      exact absurd (mem_parts_of_within? hwhole) (map_not_mem_parts (mem_of_named? hsection) label?)

/-- A label stands only once on the way through a sound document. -/
theorem eq_of_labelAt? {front rest front' rest' : List String} (h : document.Sound)
    (hpath : front ++ rest = front' ++ rest') (hlabel : document.labelAt? front = some label)
    (hlabel' : document.labelAt? front' = some label) : front = front' ∧ rest = rest' := by
  -- of two parts with one label, the one that is reached last stands inside itself
  have hnested {front more : List String} (hlabel : document.labelAt? front = some label)
      (hlabel' : document.labelAt? (front ++ more) = some label) : more = [] := by
    obtain ⟨part, hpart, hlabel⟩ := Option.bind_eq_some_iff.mp hlabel
    obtain ⟨other, hother, hlabel'⟩ := Option.bind_eq_some_iff.mp hlabel'
    have hsame := h.labelled part (mem_parts_of_within? hpart) other (mem_parts_of_within? hother) label hlabel hlabel'
    rw [within?_append, hpart, ← hsame] at hother
    exact eq_nil_of_within?_self hother
  rcases List.append_eq_append_iff.mp hpath with ⟨more, rfl, rfl⟩ | ⟨more, rfl, rfl⟩
  · rw [hnested hlabel hlabel', List.append_nil]
    exact ⟨rfl, rfl⟩
  · rw [hnested hlabel' hlabel, List.append_nil]
    exact ⟨rfl, rfl⟩

/-- The labels of what a path leads to are labels of the document. -/
theorem mem_labels_of_within? (hpart : document.within? names = some part) (h : label ∈ part.labels) :
    label ∈ document.labels := by
  obtain ⟨inside, hinside, hlabel⟩ := mem_labels.mp h
  exact mem_labels.mpr ⟨inside, mem_parts_trans hinside (mem_parts_of_within? hpart), hlabel⟩

/-- In a document without aliases, a part with a label stands inside the parts on the way to it alone. -/
theorem prefix_of_mem_labels {front : List String} (h : document.Unshared)
    (hlabel : document.labelAt? front = some label) (hpart : document.within? others = some part)
    (hmem : label ∈ part.labels) : others <+: front := by
  induction others generalizing document front with
  | nil => exact List.nil_prefix
  | cons other others ih =>
    cases document with
    | leaf label? value => exact nomatch hpart
    | list label? items => exact nomatch hpart
    | map label? entries =>
      obtain ⟨section', hsection, hpart⟩ := Option.bind_eq_some_iff.mp hpart
      have hentry := mem_of_named? hsection
      have hinside := mem_labels_of_within? hpart hmem
      cases front with
      | nil => exact absurd hlabel (label?_ne_of_mem_labels h hentry hinside)
      | cons name front =>
        obtain ⟨labelled, hlabelled, hlabel⟩ := Option.bind_eq_some_iff.mp hlabel
        obtain ⟨next, hnext, hlabelled⟩ := Option.bind_eq_some_iff.mp hlabelled
        have hmem' := mem_labels_of_within? hlabelled (mem_labels.mpr ⟨labelled, self_mem_parts labelled, hlabel⟩)
        obtain ⟨hname, rfl⟩ := Prod.mk.inj (eq_of_mem_labels h hentry (mem_of_named? hnext) hinside hmem')
        refine List.cons_prefix_cons.mpr ⟨Value.text.inj hname, ih (unshared_of_mem h hentry) ?_ hpart⟩
        rw [Document.labelAt?, hlabelled]
        exact hlabel

/-- In a document without aliases a path to a label is the front of every path to it. -/
theorem prefix_of_labelAt? {front : List String} (h : document.Unshared)
    (hlabel : document.labelAt? front = some label) (hlabel' : document.labelAt? others = some label) :
    others <+: front := by
  obtain ⟨part, hpart, hlabelled⟩ := Option.bind_eq_some_iff.mp hlabel'
  exact prefix_of_mem_labels h hlabel hpart (mem_labels.mpr ⟨part, self_mem_parts part, hlabelled⟩)

end PathsAux

open PathsAux

namespace Yaml.Document

variable {document : Document} {names others : List String}

/-- In a document without aliases, what stands under a path that does not lead into the other is apart from it. -/
theorem untouched_of_unshared (h : document.Unshared) (hdiverge : Diverge names others) :
    document.Untouched names others where
  paths path hpath := by
    obtain ⟨front, rest, other, rfl, -, rfl, rfl | ⟨label, hlabel, hlabel'⟩⟩ := hpath
    · exact hdiverge
    · obtain ⟨hfront, hother⟩ := And.intro (prefix_of_labelAt? h hlabel hlabel') (prefix_of_labelAt? h hlabel' hlabel)
      rwa [hfront.eq_of_length_le hother.length_le]
  parts part hpart front rest label hnames _ hlabel hmem :=
    hdiverge.2 (hnames ▸ (prefix_of_mem_labels h hlabel hpart hmem).trans (List.prefix_append front rest))

end Yaml.Document

end RunPicker

import RunPicker.Proofs.Paths

/-!
# Putting something under sections

What `Document.putWithin` does to a sound document. If it fails, the document is as it was, although missing sections
are created before the descent goes on (`putWithin_of_error`). If it succeeds, `inner` stands under the sections
(`within?_putWithin`), and everything is as it was that stands under a path apart from them (`within?_of_untouched`).
The document stays sound (`sound_putWithin`).

The descent itself changes a document along one path only. What it changes inside a part with a label is then changed
wherever the part stands, and `putWithin_cases` says that this comes to the same as replacing that part in the document
from before.
-/

namespace RunPicker

open Yaml

namespace SectionsAux

open PathsAux PartsAux EntriesAux

variable {inner document part : Document} {names others : List String} {label : Nat}

/-! ## The descent -/

theorem change_map (inner : Document) (name : String) (rest : List String) (label? : Option Nat)
    (entries : Entries Document) :
    Document.change inner (name :: rest) (.map label? entries) = Document.Change.within label? entries name
      (Document.change inner rest ((Entries.named? entries name).getD .empty)) := rfl

/-- The descent goes on in a mapping, and in anything else it is stuck. -/
theorem map_or_stuck (inner : Document) (name : String) (rest : List String) (document : Document) :
    (∃ label? entries, document = .map label? entries) ∨
      document.isMap = false ∧
        ∃ failure, Document.change inner (name :: rest) document = ⟨document, none, some failure⟩ := by
  cases document with
  | map label? entries => exact .inl ⟨label?, entries, rfl⟩
  | leaf label? value => cases rest <;> exact .inr ⟨rfl, _, rfl⟩
  | list label? items => cases rest <;> exact .inr ⟨rfl, _, rfl⟩

/-- Once a section was created, the descent cannot fail any more, and it passes no part with a label. -/
theorem change_empty (inner : Document) (names : List String) :
    (Document.change inner names .empty).failure? = none ∧ (Document.change inner names .empty).labelled? = none := by
  induction names with
  | nil => exact ⟨rfl, rfl⟩
  | cons name rest ih =>
    rw [Document.empty, change_map]
    exact ⟨ih.1, by rw [Document.Change.within, Option.map_none]; exact congrArg (· <|> none) ih.2⟩

theorem getD_empty_of_none {entries : Entries Document} {name : String} (h : Entries.named? entries name = none) :
    (Entries.named? entries name).getD Document.empty = .empty := by
  rw [h, Option.getD_none]

/-- The descent succeeds if every section that is there on the way is a mapping, and only then. -/
theorem failure?_eq_none_iff (inner : Document) (names : List String) (document : Document) :
    (Document.change inner names document).failure? = none ↔
      ∀ front part, front <+: names → front ≠ names → document.within? front = some part → part.isMap = true := by
  induction names generalizing document with
  | nil => exact iff_of_true rfl fun front _ hfront hne _ => absurd (List.prefix_nil.mp hfront) hne
  | cons name rest ih =>
    rcases map_or_stuck inner name rest document with ⟨label?, entries, rfl⟩ | ⟨hmap, failure, hstuck⟩
    · rw [change_map, Document.Change.within, ih]
      constructor
      · intro h front part hfront hne hpart
        cases front with
        | nil => exact Option.some.inj hpart ▸ rfl
        | cons other front =>
          obtain ⟨hname, hfront⟩ := List.cons_prefix_cons.mp hfront
          obtain ⟨section', hsection, hpart⟩ := Option.bind_eq_some_iff.mp hpart
          rw [hname] at hsection hne
          rw [hsection] at h
          exact h front part hfront (fun heq => hne (by rw [heq])) hpart
      · intro h front part hfront hne hpart
        cases hsection : Entries.named? entries name with
        | none =>
          rw [getD_empty_of_none hsection] at hpart
          cases front with
          | nil => exact Option.some.inj hpart ▸ rfl
          | cons other front => exact nomatch hpart
        | some section' =>
          rw [hsection] at hpart
          refine h (name :: front) part (List.cons_prefix_cons.mpr ⟨rfl, hfront⟩) ?_ ?_
          · exact fun heq => hne (List.cons.inj heq).2
          · rw [Document.within?, hsection]
            exact hpart
    · rw [hstuck]
      refine iff_of_false (Option.some_ne_none failure) fun h => ?_
      have hwhole := h [] document List.nil_prefix (List.cons_ne_nil _ _).symm rfl
      exact absurd hwhole (Bool.eq_false_iff.mp hmap)

/-- A descent that fails has created nothing: the part that it went into is as it was. -/
theorem part_of_failure {failure : Failure} (h : (Document.change inner names document).failure? = some failure) :
    (Document.change inner names document).part = document := by
  induction names generalizing document with
  | nil => exact nomatch h
  | cons name rest ih =>
    rcases map_or_stuck inner name rest document with ⟨label?, entries, rfl⟩ | ⟨-, _, hstuck⟩
    · rw [change_map] at h ⊢
      cases hsection : Entries.named? entries name with
      | none =>
        rw [getD_empty_of_none hsection] at h
        exact nomatch (change_empty inner rest).1.symm.trans h
      | some section' =>
        rw [hsection, Option.getD_some] at h
        rw [Document.Change.within, Option.getD_some]
        dsimp only
        rw [ih h, insert_of_named? hsection]
    · rw [hstuck]

/-- What was put under the sections stands there. -/
theorem within?_change (h : (Document.change inner names document).failure? = none) :
    (Document.change inner names document).part.within? names = some inner := by
  induction names generalizing document with
  | nil => rfl
  | cons name rest ih =>
    rcases map_or_stuck inner name rest document with ⟨label?, entries, rfl⟩ | ⟨-, _, hstuck⟩
    · rw [change_map] at h ⊢
      rw [Document.Change.within, Document.within?, named?_insert_self]
      exact ih h
    · rw [hstuck] at h
      cases h

/-- The descent leaves alone what stands under other paths. -/
theorem within?_change_of_diverge (h : Diverge names others) (inner document : Document) :
    (Document.change inner names document).part.within? others = document.within? others := by
  induction names generalizing others document with
  | nil => exact absurd h not_diverge_nil_left
  | cons name rest ih =>
    rcases map_or_stuck inner name rest document with ⟨label?, entries, rfl⟩ | ⟨-, _, hstuck⟩
    · cases others with
      | nil => exact absurd h not_diverge_nil_right
      | cons other others =>
        rw [change_map, Document.Change.within, Document.within?, Document.within?]
        by_cases hname : name = other
        · obtain rfl := hname
          have hrest := diverge_cons.mp h rfl
          rw [named?_insert_self, Option.bind_some, ih hrest]
          cases hsection : Entries.named? entries name with
          | some section' => rfl
          | none =>
            -- a section that was created has nothing else in it
            cases others with
            | nil => exact absurd hrest not_diverge_nil_right
            | cons first others => rfl
        · rw [named?_insert_of_ne entries hname]
    · rw [hstuck]

/-! ## Labels -/

/-- What a descent into a mapping reports: the mapping itself, if it has a label and no part below it has one, and
otherwise what the descent into its section reports. A section that was created has no label. -/
theorem labelled?_change_map {name : String} {rest : List String} {label? : Option Nat} {entries : Entries Document}
    (h : (Document.change inner (name :: rest) (.map label? entries)).labelled? = some part) :
    (∃ label, label? = some label ∧
      (Document.change inner rest ((Entries.named? entries name).getD .empty)).labelled? = none ∧
      (Document.change inner (name :: rest) (.map label? entries)).part = part) ∨
    ∃ section', Entries.named? entries name = some section' ∧
      (Document.change inner rest section').labelled? = some part := by
  rw [change_map, Document.Change.within] at h
  cases hbelow : (Document.change inner rest ((Entries.named? entries name).getD .empty)).labelled? with
  | none =>
    rw [hbelow] at h
    obtain ⟨label, rfl, hpart⟩ := Option.map_eq_some_iff.mp h
    exact .inl ⟨label, rfl, rfl, hpart⟩
  | some below =>
    have hpart : below = part := by
      rw [hbelow] at h
      exact Option.some.inj h
    cases hsection : Entries.named? entries name with
    | none =>
      rw [getD_empty_of_none hsection] at hbelow
      exact nomatch (change_empty inner rest).2.symm.trans hbelow
    | some section' =>
      rw [hsection, Option.getD_some, hpart] at hbelow
      exact .inr ⟨section', rfl, hbelow⟩

/-- The innermost part with a label that a descent passes: a mapping on the way, after which no other part with a label
follows. What the descent reports is what this mapping comes to. -/
theorem exists_of_labelled? (h : (Document.change inner names document).labelled? = some part) :
    ∃ front name rest label entries, names = front ++ name :: rest ∧
      document.within? front = some (.map (some label) entries) ∧
      (Document.change inner (name :: rest) (.map (some label) entries)).part = part ∧
      (Document.change inner (name :: rest) (.map (some label) entries)).failure? =
        (Document.change inner names document).failure? ∧
      (Document.change inner rest ((Entries.named? entries name).getD .empty)).labelled? = none := by
  induction names generalizing document with
  | nil => exact nomatch h
  | cons name rest ih =>
    rcases map_or_stuck inner name rest document with ⟨label?, entries, rfl⟩ | ⟨-, _, hstuck⟩
    · rcases labelled?_change_map h with ⟨label, rfl, hbelow, hpart⟩ | ⟨section', hsection, hbelow⟩
      · exact ⟨[], name, rest, label, entries, rfl, rfl, hpart, rfl, hbelow⟩
      · obtain ⟨front, next, after, label, found, rfl, hfound, hchanged, hfailure, hnone⟩ := ih hbelow
        refine ⟨name :: front, next, after, label, found, rfl, ?_, hchanged, ?_, hnone⟩
        · rw [Document.within?, hsection]
          exact hfound
        · rw [hfailure, change_map, Document.Change.within, hsection, Option.getD_some]
    · rw [hstuck] at h
      cases h

/-- What a descent reports to have changed says all about the change: the document from before, with the report in the
place of its label, is the changed one with the same. -/
theorem replace_change (h : (Document.change inner names document).labelled? = some part)
    (hlabel : part.label? = some label) :
    Document.replace label part (Document.change inner names document).part =
      Document.replace label part document := by
  induction names generalizing document with
  | nil => exact nomatch h
  | cons name rest ih =>
    rcases map_or_stuck inner name rest document with ⟨label?, entries, rfl⟩ | ⟨-, _, hstuck⟩
    · by_cases hhere : (Document.map label? entries).label? = some label
      · rw [replace_of_label hhere]
        exact replace_of_label hhere
      · rcases labelled?_change_map h with ⟨own, rfl, -, hpart⟩ | ⟨section', hsection, hbelow⟩
        · -- the report is this mapping itself
          rw [← hpart] at hlabel
          exact absurd hlabel hhere
        · have hother (others : Entries Document) : (Document.map label? others).label? ≠ some label := hhere
          rw [change_map, Document.Change.within, hsection, Option.getD_some]
          dsimp only
          rw [replace_map (hother _), replace_map hhere, insert_map, ih hbelow, insert_of_named?]
          rw [named?_map, hsection]
          rfl
    · rw [hstuck]

/-! ## What comes of the document -/

/-- The parts of a mapping that a descent leaves: itself, those of its changed entry, and those of its entries from
before. -/
theorem mem_parts_within {label? : Option Nat} {entries : Entries Document} {name : String}
    {change : Document.Change} {other : Document}
    (h : other ∈ (Document.Change.within label? entries name change).part.parts) :
    other = (Document.Change.within label? entries name change).part ∨ other ∈ change.part.parts ∨
      ∃ entry ∈ entries, other ∈ entry.2.parts := by
  refine (mem_parts_map.mp h).imp_right fun ⟨entry, hentry, hother⟩ => ?_
  rcases mem_insert hentry with hchanged | hentry
  · exact .inl (hchanged ▸ hother)
  · exact .inr ⟨entry, hentry, hother⟩

/-- The parts of the section that a descent goes into, which is created if it is missing. -/
theorem mem_parts_getD {entries : Entries Document} {name : String} {other : Document}
    (h : other ∈ ((Entries.named? entries name).getD .empty).parts) :
    Plain other ∨ ∃ entry ∈ entries, other ∈ entry.2.parts := by
  cases hsection : Entries.named? entries name with
  | none =>
    rw [getD_empty_of_none hsection, Document.empty, Document.parts, Document.partsOfEntries,
      List.mem_singleton] at h
    exact .inl ⟨h ▸ rfl, fun label? value heq => nomatch h.symm.trans heq⟩
  | some section' =>
    rw [hsection] at h
    exact .inr ⟨_, mem_of_named? hsection, h⟩

theorem labelled?_within_eq_none {label? : Option Nat} {entries : Entries Document} {name : String}
    {change : Document.Change} : (Document.Change.within label? entries name change).labelled? = none ↔
      change.labelled? = none ∧ label? = none := by
  rw [Document.Change.within]
  cases change.labelled? <;> cases label? <;> simp

/-- The parts that a descent leaves where it passes no part with a label: those of what is put there, those from before,
and sections without labels. -/
theorem mem_parts_change {other : Document} (hinner : ∀ part ∈ inner.parts, Plain part)
    (hnone : (Document.change inner names document).labelled? = none)
    (h : other ∈ (Document.change inner names document).part.parts) : Plain other ∨ other ∈ document.parts := by
  induction names generalizing document with
  | nil => exact .inl (hinner other h)
  | cons name rest ih =>
    rcases map_or_stuck inner name rest document with ⟨label?, entries, rfl⟩ | ⟨-, _, hstuck⟩
    · rw [change_map] at hnone h
      obtain ⟨hbelow, rfl⟩ := labelled?_within_eq_none.mp hnone
      rcases mem_parts_within h with rfl | hother | hother
      · exact .inl ⟨rfl, nofun⟩
      · rcases ih hbelow hother with hplain | hother
        · exact .inl hplain
        · exact (mem_parts_getD hother).imp_right fun hother => mem_parts_map.mpr (.inr hother)
      · exact .inr (mem_parts_map.mpr (.inr hother))
    · rw [hstuck] at h
      exact .inr h

/-- The document that a descent leaves is the one from before, with the innermost part that has a label replaced by what
it comes to; if no part with a label was passed, only the descent itself changed something. -/
theorem putWithin_cases (inner : Document) (names : List String) (document : Document) :
    ((Document.change inner names document).labelled? = none ∧
      (Document.putWithin inner names document).2 = (Document.change inner names document).part) ∨
    ∃ front name rest label entries, names = front ++ name :: rest ∧
      document.within? front = some (.map (some label) entries) ∧
      (Document.change inner (name :: rest) (.map (some label) entries)).failure? =
        (Document.change inner names document).failure? ∧
      (Document.change inner rest ((Entries.named? entries name).getD .empty)).labelled? = none ∧
      (Document.putWithin inner names document).2 =
        Document.replace label (Document.change inner (name :: rest) (.map (some label) entries)).part document := by
  cases h : (Document.change inner names document).labelled? with
  | none =>
    refine .inl ⟨rfl, ?_⟩
    rw [Document.putWithin, h]
  | some part =>
    obtain ⟨front, name, rest, label, entries, hnames, hfront, hpart, hfailure, hnone⟩ := exists_of_labelled? h
    have hlabel : part.label? = some label := by
      rw [← hpart]
      rfl
    refine .inr ⟨front, name, rest, label, entries, hnames, hfront, hfailure, hnone, ?_⟩
    rw [Document.putWithin, h, hpart]
    simp only [Document.withChanged, hlabel]
    exact replace_change h hlabel

theorem putWithin_ok_iff : (Document.putWithin inner names document).1 = .ok () ↔
    (Document.change inner names document).failure? = none := by
  rw [Document.putWithin]
  cases (Document.change inner names document).failure? <;> simp

theorem putWithin_error_iff {failure : Failure} : (Document.putWithin inner names document).1 = .error failure ↔
    (Document.change inner names document).failure? = some failure := by
  rw [Document.putWithin]
  cases (Document.change inner names document).failure? <;> simp

end SectionsAux

open SectionsAux PathsAux PartsAux

namespace Yaml.Document

variable {inner document : Document} {names others : List String}

/-- If nothing can be put under the sections, the document is as it was. -/
theorem putWithin_of_error (h : document.Sound) {failure : Failure}
    (herror : (putWithin inner names document).1 = .error failure) : (putWithin inner names document).2 = document := by
  have hfailed := putWithin_error_iff.mp herror
  rcases putWithin_cases inner names document with ⟨-, hdocument⟩ |
    ⟨front, name, rest, label, entries, -, hfront, hfailure, -, hdocument⟩
  · rw [hdocument, part_of_failure hfailed]
  · rw [hdocument, part_of_failure (hfailure.trans hfailed)]
    refine replace_eq_self fun other hother hlabel => ?_
    exact h.labelled other hother _ (mem_parts_of_within? hfront) label hlabel rfl

/-- What was put under the sections stands there. -/
theorem within?_putWithin (h : document.Sound) (hok : (putWithin inner names document).1 = .ok ()) :
    (putWithin inner names document).2.within? names = some inner := by
  have hnone := putWithin_ok_iff.mp hok
  rcases putWithin_cases inner names document with ⟨-, hdocument⟩ |
    ⟨front, name, rest, label, entries, hnames, hfront, hfailure, -, hdocument⟩
  · rw [hdocument, within?_change hnone]
  · have hlabel : document.labelAt? front = some label := by rw [labelAt?, hfront]; rfl
    rw [hdocument]
    rcases within?_replace label (change inner (name :: rest) (.map (some label) entries)).part names document with
      ⟨front', rest', hnames', hlabel', hwithin⟩ | ⟨hnever, -⟩
    · obtain ⟨-, rfl⟩ := eq_of_labelAt? h (hnames.symm.trans hnames') hlabel hlabel'
      rw [hwithin, within?_change (hfailure.trans hnone)]
    · exact absurd hlabel (hnever front (name :: rest) hnames)

/-- What stands under a path that is apart from the sections is as it was. -/
theorem within?_of_untouched (h : document.Sound) (hnames : names ≠ []) (hothers : document.Untouched names others)
    (inner : Document) : (putWithin inner names document).2.within? others = document.within? others := by
  rcases putWithin_cases inner names document with ⟨-, hdocument⟩ |
    ⟨front, name, rest, label, entries, hpath, hfront, -, -, hdocument⟩
  · have hdiverge := hothers.paths names ⟨[], names, [], rfl, hnames, rfl, .inl rfl⟩
    rw [hdocument, within?_change_of_diverge hdiverge]
  · have hlabel : document.labelAt? front = some label := by rw [labelAt?, hfront]; rfl
    rw [hdocument]
    rcases within?_replace label (change inner (name :: rest) (.map (some label) entries)).part others document with
      ⟨front', rest', rfl, hlabel', hwithin⟩ | ⟨-, hwithin⟩
    · -- the path leads through the changed section, and leaves it by another name
      obtain ⟨section', hsection, hlabelled⟩ := Option.bind_eq_some_iff.mp hlabel'
      have hsame : section' = .map (some label) entries :=
        h.labelled section' (mem_parts_of_within? hsection) _ (mem_parts_of_within? hfront) label hlabelled rfl
      have hdiverge := hothers.paths (front' ++ name :: rest)
        ⟨front, name :: rest, front', hpath, List.cons_ne_nil _ _, rfl, .inr ⟨label, hlabel, hlabel'⟩⟩
      rw [hwithin, within?_change_of_diverge ((diverge_append front').mp hdiverge), within?_append, hsection, hsame]
      rfl
    · rw [hwithin]
      cases hpart : document.within? others with
      | none => rfl
      | some part =>
        have habsent := hothers.parts part hpart front (name :: rest) label hpath (List.cons_ne_nil _ _) hlabel
        rw [Option.map_some, replace_eq_self fun other hother hlabelled =>
          absurd (mem_labels.mpr ⟨other, hother, hlabelled⟩) habsent]

/-- The document stays sound. -/
theorem sound_putWithin (h : document.Sound) (hinner : ∀ part ∈ inner.parts, Plain part) (names : List String) :
    (putWithin inner names document).2.Sound := by
  rcases putWithin_cases inner names document with ⟨hnone, hdocument⟩ |
    ⟨front, name, rest, label, entries, -, hfront, -, hnone, hdocument⟩
  · refine sound_of_parts h id fun other hother => ?_
    rw [hdocument] at hother
    exact (mem_parts_change hinner hnone hother).imp_right fun hother => ⟨other, hother, rfl, rfl, fun _ _ _ => rfl⟩
  · let part := (change inner (name :: rest) (.map (some label) entries)).part
    have hsection := mem_parts_of_within? hfront
    -- what stands inside the changed section does not have its label
    have hinside (other : Document) (hother : ∃ entry ∈ entries, other ∈ entry.2.parts) :
        ∃ before ∈ document.parts, replace label part before = other ∧ before.label? = other.label? ∧
          ∀ label? value, other = .leaf label? value → before = other := by
      obtain ⟨entry, hentry, hother⟩ := hother
      have hmem : other ∈ document.parts :=
        mem_parts_trans (mem_parts_map.mpr (.inr ⟨entry, hentry, hother⟩)) hsection
      refine ⟨other, hmem, replace_eq_self fun inside hinside hlabel => ?_, rfl, fun _ _ _ => rfl⟩
      have hsame := h.labelled inside (mem_parts_trans hinside hmem) _ hsection label hlabel rfl
      exact absurd (mem_parts_trans (hsame ▸ hinside) hother) (map_not_mem_parts hentry (some label))
    refine sound_of_parts h (replace label part) fun other hother => ?_
    rw [hdocument] at hother
    rcases mem_parts_replace hother with hother | ⟨before, hbefore, hlabel, rfl⟩
    · rw [change_map] at hother
      rcases mem_parts_within hother with rfl | hother | hother
      · exact .inr ⟨_, hsection, replace_of_label rfl, rfl, nofun⟩
      · rcases mem_parts_change hinner hnone hother with hplain | hother
        · exact .inl hplain
        · exact (mem_parts_getD hother).imp_right (hinside other)
      · exact .inr (hinside other hother)
    · refine .inr ⟨before, hbefore, rfl, (label?_replace hlabel part).symm, fun label? value hleaf => ?_⟩
      cases before with
      | leaf label? value => exact (replace_leaf hlabel part).symm
      | list label? items =>
        rw [replace_list hlabel] at hleaf
        exact nomatch hleaf
      | map label? entries =>
        rw [replace_map hlabel] at hleaf
        exact nomatch hleaf

end Yaml.Document

end RunPicker

import Mathlib.Data.List.Nodup
import Mathlib.Data.List.Pairwise
import RunPicker.Proofs.Entries
import RunPicker.Yaml.Document

/-!
# Parts of documents

The parts that stand in a document (`Document.parts`). A label is to tell which of them are one and the same: in a sound
document, parts with one label are equal (`Document.Sound`), and in an unshared one no label comes twice
(`Document.Unshared`). The second section says what becomes of the parts when something is put in the place of a label,
and the third which parts the document of a value has.
-/

namespace RunPicker.Yaml.Document

mutual

/-- The parts that stand in a document, the whole first, each as often as it stands there. -/
def parts : Document → List Document
  | .leaf label? value => [.leaf label? value]
  | .list label? items => .list label? items :: partsOfItems items
  | .map label? entries => .map label? entries :: partsOfEntries entries

/-- The parts that stand in the items of a list. -/
def partsOfItems : List Document → List Document
  | [] => []
  | item :: rest => parts item ++ partsOfItems rest

/-- The parts that stand in the values of a mapping. -/
def partsOfEntries : List (Value × Document) → List Document
  | [] => []
  | (_, value) :: rest => parts value ++ partsOfEntries rest

end

/-- The labels that stand in a document. -/
def labels (document : Document) : List Nat :=
  document.parts.filterMap label?

/-- A document is sound if its leaves have no parts inside, and parts with one label are equal. -/
structure Sound (document : Document) : Prop where
  leaves : ∀ label? value, .leaf label? value ∈ document.parts → value.isKey = true
  labelled : ∀ part ∈ document.parts, ∀ other ∈ document.parts, ∀ label, part.label? = some label →
    other.label? = some label → part = other

/-- No part stands twice. -/
def Unshared (document : Document) : Prop :=
  document.labels.Nodup

end RunPicker.Yaml.Document

namespace RunPicker

open Yaml

namespace PartsAux

variable {document part : Document} {label : Nat}

/-- An item is smaller than the list that it stands in. -/
theorem sizeOf_lt_of_mem_items {item : Document} {items : List Document} (h : item ∈ items) (label? : Option Nat) :
    sizeOf item < sizeOf (Document.list label? items) := by
  have := List.sizeOf_lt_of_mem h
  simp only [Document.list.sizeOf_spec]
  omega

/-- A value is smaller than the mapping that it stands in. -/
theorem sizeOf_lt_of_mem_entries {entry : Value × Document} {entries : Entries Document} (h : entry ∈ entries)
    (label? : Option Nat) : sizeOf entry.2 < sizeOf (Document.map label? entries) := by
  have := List.sizeOf_lt_of_mem h
  have : sizeOf entry = 1 + sizeOf entry.1 + sizeOf entry.2 := rfl
  simp only [Document.map.sizeOf_spec]
  omega

/-- What holds of a part if it holds of the parts directly inside it holds of every document. -/
@[elab_as_elim]
theorem documentInduction {motive : Document → Prop} (leaf : ∀ label? value, motive (.leaf label? value))
    (list : ∀ label? items, (∀ item ∈ items, motive item) → motive (.list label? items))
    (map : ∀ label? entries, (∀ entry ∈ entries, motive entry.2) → motive (.map label? entries)) :
    ∀ document, motive document
  | .leaf label? value => leaf label? value
  | .list label? items => list label? items fun item _ => documentInduction leaf list map item
  | .map label? entries => map label? entries fun entry _ => documentInduction leaf list map entry.2
termination_by document => sizeOf document
decreasing_by
  · exact sizeOf_lt_of_mem_items ‹_› _
  · exact sizeOf_lt_of_mem_entries ‹_› _

/-- A document is a part of itself. -/
theorem self_mem_parts (document : Document) : document ∈ document.parts := by
  cases document <;> simp [Document.parts]

/-- The parts of items are those of each item. -/
theorem mem_partsOfItems {part : Document} {items : List Document} :
    part ∈ Document.partsOfItems items ↔ ∃ item ∈ items, part ∈ item.parts := by
  induction items with
  | nil => simp [Document.partsOfItems]
  | cons item rest ih => simp [Document.partsOfItems, ih]

/-- The parts of entries are those of each value. -/
theorem mem_partsOfEntries {part : Document} {entries : Entries Document} :
    part ∈ Document.partsOfEntries entries ↔ ∃ entry ∈ entries, part ∈ entry.2.parts := by
  induction entries with
  | nil => simp [Document.partsOfEntries]
  | cons entry rest ih => simp [Document.partsOfEntries, ih]

/-- The parts of a list are the list and the parts of its items. -/
theorem mem_parts_list {part : Document} {label? : Option Nat} {items : List Document} :
    part ∈ (Document.list label? items).parts ↔ part = .list label? items ∨ ∃ item ∈ items, part ∈ item.parts := by
  rw [Document.parts, List.mem_cons, mem_partsOfItems]

/-- The parts of a mapping are the mapping and the parts of its values. -/
theorem mem_parts_map {part : Document} {label? : Option Nat} {entries : Entries Document} :
    part ∈ (Document.map label? entries).parts ↔
      part = .map label? entries ∨ ∃ entry ∈ entries, part ∈ entry.2.parts := by
  rw [Document.parts, List.mem_cons, mem_partsOfEntries]

/-- The parts of a part are parts of the whole. -/
theorem mem_parts_trans {inner part document : Document} (hinner : inner ∈ part.parts)
    (hpart : part ∈ document.parts) : inner ∈ document.parts := by
  induction document using documentInduction with
  | leaf label? value =>
    rw [Document.parts, List.mem_singleton] at hpart
    exact hpart ▸ hinner
  | list label? items ih =>
    rcases mem_parts_list.mp hpart with rfl | ⟨item, hitem, hpart⟩
    · exact hinner
    · exact mem_parts_list.mpr (.inr ⟨item, hitem, ih item hitem hpart⟩)
  | map label? entries ih =>
    rcases mem_parts_map.mp hpart with rfl | ⟨entry, hentry, hpart⟩
    · exact hinner
    · exact mem_parts_map.mpr (.inr ⟨entry, hentry, ih entry hentry hpart⟩)

/-- No part is larger than the document. -/
theorem sizeOf_le_of_mem_parts {part document : Document} (h : part ∈ document.parts) :
    sizeOf part ≤ sizeOf document := by
  induction document using documentInduction with
  | leaf label? value =>
    rw [Document.parts, List.mem_singleton] at h
    exact Nat.le_of_eq (congrArg _ h)
  | list label? items ih =>
    rcases mem_parts_list.mp h with rfl | ⟨item, hitem, h⟩
    · exact Nat.le_refl _
    · exact Nat.le_trans (ih item hitem h) (Nat.le_of_lt (sizeOf_lt_of_mem_items hitem label?))
  | map label? entries ih =>
    rcases mem_parts_map.mp h with rfl | ⟨entry, hentry, h⟩
    · exact Nat.le_refl _
    · exact Nat.le_trans (ih entry hentry h) (Nat.le_of_lt (sizeOf_lt_of_mem_entries hentry label?))

/-- A mapping does not stand inside its own entries. -/
theorem map_not_mem_parts {entry : Value × Document} {entries : Entries Document} (h : entry ∈ entries)
    (label? : Option Nat) : Document.map label? entries ∉ entry.2.parts := fun hmem =>
  Nat.not_le_of_lt (sizeOf_lt_of_mem_entries h label?) (sizeOf_le_of_mem_parts hmem)

/-- The labels of a document are those of its parts. -/
theorem mem_labels {document : Document} {label : Nat} :
    label ∈ document.labels ↔ ∃ part ∈ document.parts, part.label? = some label :=
  List.mem_filterMap

/-- The labels of a mapping are its own and those of its values. -/
theorem labels_map (label? : Option Nat) (entries : Entries Document) :
    (Document.map label? entries).labels = label?.toList ++ entries.flatMap fun entry => entry.2.labels := by
  have hentries : (Document.partsOfEntries entries).filterMap Document.label? =
      entries.flatMap fun entry => entry.2.labels := by
    induction entries with
    | nil => rfl
    | cons entry rest ih =>
      rw [Document.partsOfEntries, List.filterMap_append, ih, List.flatMap_cons]
      rfl
  rw [Document.labels, Document.parts, List.filterMap_cons, hentries]
  cases label? <;> rfl

/-- In an unshared mapping, the parts of different entries have different labels. -/
theorem eq_of_mem_labels {label? : Option Nat} {entries : Entries Document}
    (h : (Document.map label? entries).Unshared) {entry other : Value × Document} (hentry : entry ∈ entries)
    (hother : other ∈ entries) {label : Nat} (hlabel : label ∈ entry.2.labels) (hlabel' : label ∈ other.2.labels) :
    entry = other := by
  rw [Document.Unshared, labels_map, List.nodup_append, List.nodup_flatMap] at h
  have : Std.Symm (Function.onFun List.Disjoint fun entry : Value × Document => entry.2.labels) :=
    ⟨fun _ _ hdisjoint _ hfirst hsecond => hdisjoint hsecond hfirst⟩
  by_contra hne
  exact h.2.1.2.forall hentry hother hne hlabel hlabel'

/-- In a value of an unshared mapping no label comes twice either. -/
theorem unshared_of_mem {label? : Option Nat} {entries : Entries Document}
    (h : (Document.map label? entries).Unshared) {entry : Value × Document} (hentry : entry ∈ entries) :
    entry.2.Unshared := by
  rw [Document.Unshared, labels_map, List.nodup_append, List.nodup_flatMap] at h
  exact h.2.1.1 entry hentry

/-- An unshared mapping has its label nowhere inside. -/
theorem label?_ne_of_mem_labels {label? : Option Nat} {entries : Entries Document}
    (h : (Document.map label? entries).Unshared) {entry : Value × Document} (hentry : entry ∈ entries)
    {label : Nat} (hlabel : label ∈ entry.2.labels) : label? ≠ some label := by
  rw [Document.Unshared, labels_map, List.nodup_append] at h
  rintro rfl
  exact h.2.2 label List.mem_cons_self label (List.mem_flatMap.mpr ⟨entry, hentry, hlabel⟩) rfl

/-- A part of a sound document is sound. -/
theorem sound_of_mem_parts {part document : Document} (h : document.Sound) (hpart : part ∈ document.parts) :
    part.Sound where
  leaves _ _ hleaf := h.leaves _ _ (mem_parts_trans hleaf hpart)
  labelled first hfirst second hsecond :=
    h.labelled first (mem_parts_trans hfirst hpart) second (mem_parts_trans hsecond hpart)

/-- A part that has no label, and nothing inside if it is a leaf. -/
def Plain (part : Document) : Prop :=
  part.label? = none ∧ ∀ label? value, part = .leaf label? value → value.isKey = true

/-- A document is sound if its parts come from those of a sound document by a function, or have no labels. -/
theorem sound_of_parts {result : Document} (h : document.Sound) (f : Document → Document)
    (hparts : ∀ other ∈ result.parts, Plain other ∨ ∃ before ∈ document.parts, f before = other ∧
      before.label? = other.label? ∧ ∀ label? value, other = .leaf label? value → before = other) :
    result.Sound where
  leaves label? value hleaf := by
    rcases hparts _ hleaf with hplain | ⟨before, hbefore, -, -, hsame⟩
    · exact hplain.2 label? value rfl
    · exact h.leaves label? value (hsame label? value rfl ▸ hbefore)
  labelled part hpart other hother label hlabel hlabel' := by
    rcases hparts part hpart with hplain | ⟨before, hbefore, rfl, hsame, -⟩
    · exact nomatch hplain.1.symm.trans hlabel
    · rcases hparts other hother with hplain | ⟨before', hbefore', rfl, hsame', -⟩
      · exact nomatch hplain.1.symm.trans hlabel'
      · rw [h.labelled before hbefore before' hbefore' label (hsame.trans hlabel) (hsame'.trans hlabel')]

/-! ## Replacing labels -/

/-- What has the label is replaced as a whole. -/
theorem replace_of_label (h : document.label? = some label) : Document.replace label part document = part := by
  cases document <;> simp_all [Document.replace, Document.label?]

/-- In items the part is replaced in each of them. -/
theorem replaceItems_eq (label : Nat) (part : Document) (items : List Document) :
    Document.replaceItems label part items = items.map (Document.replace label part) := by
  induction items with
  | nil => rfl
  | cons item rest ih => rw [Document.replaceItems, ih, List.map_cons]

/-- In entries the part is replaced in each value, and the keys stay. -/
theorem replaceEntries_eq (label : Nat) (part : Document) (entries : Entries Document) :
    Document.replaceEntries label part entries =
      entries.map fun entry => (entry.1, Document.replace label part entry.2) := by
  induction entries with
  | nil => rfl
  | cons entry rest ih => rw [Document.replaceEntries, ih, List.map_cons]

/-- A leaf of another label stays. -/
theorem replace_leaf {label? : Option Nat} {value : Value} (h : (Document.leaf label? value).label? ≠ some label)
    (part : Document) : Document.replace label part (.leaf label? value) = .leaf label? value := by
  have hne : ¬ (label? == some label) = true := fun heq => h (eq_of_beq heq)
  rw [Document.replace, if_neg hne]

/-- In a list of another label the part is replaced in the items. -/
theorem replace_list {label? : Option Nat} {items : List Document}
    (h : (Document.list label? items).label? ≠ some label) (part : Document) :
    Document.replace label part (.list label? items) = .list label? (items.map (Document.replace label part)) := by
  have hne : ¬ (label? == some label) = true := fun heq => h (eq_of_beq heq)
  rw [Document.replace, if_neg hne, replaceItems_eq]

/-- In a mapping of another label the part is replaced in the values. -/
theorem replace_map {label? : Option Nat} {entries : Entries Document}
    (h : (Document.map label? entries).label? ≠ some label) (part : Document) :
    Document.replace label part (.map label? entries) =
      .map label? (entries.map fun entry => (entry.1, Document.replace label part entry.2)) := by
  have hne : ¬ (label? == some label) = true := fun heq => h (eq_of_beq heq)
  rw [Document.replace, if_neg hne, replaceEntries_eq]

/-- Nothing is replaced where everything with the label is what is put there. -/
theorem replace_eq_self (h : ∀ other ∈ document.parts, other.label? = some label → other = part) :
    Document.replace label part document = document := by
  induction document using documentInduction with
  | leaf label? value =>
    by_cases hlabel : (Document.leaf label? value).label? = some label
    · rw [replace_of_label hlabel, h _ (self_mem_parts _) hlabel]
    · exact replace_leaf hlabel part
  | list label? items ih =>
    by_cases hlabel : (Document.list label? items).label? = some label
    · rw [replace_of_label hlabel, h _ (self_mem_parts _) hlabel]
    · have hitems : ∀ item ∈ items, Document.replace label part item = id item := fun item hitem =>
        ih item hitem fun other hother => h other (mem_parts_list.mpr (.inr ⟨item, hitem, hother⟩))
      rw [replace_list hlabel, List.map_congr_left hitems, List.map_id]
  | map label? entries ih =>
    by_cases hlabel : (Document.map label? entries).label? = some label
    · rw [replace_of_label hlabel, h _ (self_mem_parts _) hlabel]
    · have hentries : ∀ entry ∈ entries, (entry.1, Document.replace label part entry.2) = id entry :=
        fun entry hentry => Prod.ext rfl <|
          ih entry hentry fun other hother => h other (mem_parts_map.mpr (.inr ⟨entry, hentry, hother⟩))
      rw [replace_map hlabel, List.map_congr_left hentries, List.map_id]

/-- The parts of a document in which a label was replaced: those of what was put there, and the parts from before, each
with the label replaced in it. -/
theorem mem_parts_replace {other : Document} (h : other ∈ (Document.replace label part document).parts) :
    other ∈ part.parts ∨
      ∃ before ∈ document.parts, before.label? ≠ some label ∧ Document.replace label part before = other := by
  induction document using documentInduction with
  | leaf label? value =>
    by_cases hlabel : (Document.leaf label? value).label? = some label
    · exact .inl (by rwa [replace_of_label hlabel] at h)
    · rw [replace_leaf hlabel, Document.parts, List.mem_singleton] at h
      exact .inr ⟨_, self_mem_parts _, hlabel, by rw [replace_leaf hlabel, h]⟩
  | list label? items ih =>
    by_cases hlabel : (Document.list label? items).label? = some label
    · exact .inl (by rwa [replace_of_label hlabel] at h)
    · rw [replace_list hlabel, mem_parts_list] at h
      rcases h with rfl | ⟨item, hitem, h⟩
      · exact .inr ⟨_, self_mem_parts _, hlabel, replace_list hlabel part⟩
      · obtain ⟨before, hbefore, rfl⟩ := List.mem_map.mp hitem
        refine (ih before hbefore h).imp_right fun ⟨inner, hinner, hrest⟩ => ⟨inner, ?_, hrest⟩
        exact mem_parts_list.mpr (.inr ⟨before, hbefore, hinner⟩)
  | map label? entries ih =>
    by_cases hlabel : (Document.map label? entries).label? = some label
    · exact .inl (by rwa [replace_of_label hlabel] at h)
    · rw [replace_map hlabel, mem_parts_map] at h
      rcases h with rfl | ⟨entry, hentry, h⟩
      · exact .inr ⟨_, self_mem_parts _, hlabel, replace_map hlabel part⟩
      · obtain ⟨before, hbefore, rfl⟩ := List.mem_map.mp hentry
        refine (ih before hbefore h).imp_right fun ⟨inner, hinner, hrest⟩ => ⟨inner, ?_, hrest⟩
        exact mem_parts_map.mpr (.inr ⟨before, hbefore, hinner⟩)

/-- What has another label keeps it when a part inside is replaced. -/
theorem label?_replace (h : document.label? ≠ some label) (part : Document) :
    (Document.replace label part document).label? = document.label? := by
  cases document with
  | leaf label? value => rw [replace_leaf h]
  | list label? items => rw [replace_list h]; rfl
  | map label? entries => rw [replace_map h]; rfl

/-! ## Values -/

/-- The values of entries are those of their documents, under the same keys. -/
theorem entryValues_eq (entries : Entries Document) :
    Document.entryValues entries = entries.map fun entry => (entry.1, entry.2.value) := by
  induction entries with
  | nil => rfl
  | cons entry rest ih => rw [Document.entryValues, ih, List.map_cons]

mutual

/-- The document of a value has that value. -/
theorem value_ofValue : ∀ value : Value, (Document.ofValue value).value = value
  | .list items => by rw [Document.ofValue, Document.value, itemValues_ofItems]
  | .map entries => by rw [Document.ofValue, Document.value, entryValues_ofEntries]
  | .null | .bool _ | .integer _ | .number _ | .text _ | .moment _ => rfl

/-- The items of a document made of values have these values. -/
theorem itemValues_ofItems : ∀ items : List Value, Document.itemValues (Document.ofItems items) = items
  | [] => rfl
  | item :: rest => by rw [Document.ofItems, Document.itemValues, value_ofValue, itemValues_ofItems]

/-- The entries of a document made of values have these values. -/
theorem entryValues_ofEntries :
    ∀ entries : List (Value × Value), Document.entryValues (Document.ofEntries entries) = entries
  | [] => rfl
  | (key, value) :: rest => by
    rw [Document.ofEntries, Document.entryValues, value_ofValue, entryValues_ofEntries]

end

mutual

/-- Nothing in the document of a value has a label. -/
theorem plain_ofValue : ∀ value : Value, ∀ part ∈ (Document.ofValue value).parts, Plain part
  | .list items, part, h => by
    rw [Document.ofValue, Document.parts, List.mem_cons] at h
    rcases h with rfl | h
    · exact ⟨rfl, nofun⟩
    · exact plain_ofItems items part h
  | .map entries, part, h => by
    rw [Document.ofValue, Document.parts, List.mem_cons] at h
    rcases h with rfl | h
    · exact ⟨rfl, nofun⟩
    · exact plain_ofEntries entries part h
  | .null, part, h | .bool _, part, h | .integer _, part, h | .number _, part, h | .text _, part, h
  | .moment _, part, h => by
    rw [List.mem_singleton.mp h]
    exact ⟨rfl, fun label? value hleaf => by obtain ⟨-, rfl⟩ := Document.leaf.inj hleaf; rfl⟩

/-- No part of items made of values has a label. -/
theorem plain_ofItems : ∀ items : List Value, ∀ part ∈ Document.partsOfItems (Document.ofItems items), Plain part
  | [], _, h => absurd h List.not_mem_nil
  | item :: rest, part, h => by
    rw [Document.ofItems, Document.partsOfItems, List.mem_append] at h
    rcases h with h | h
    · exact plain_ofValue item part h
    · exact plain_ofItems rest part h

/-- No part of entries made of values has a label. -/
theorem plain_ofEntries :
    ∀ entries : List (Value × Value), ∀ part ∈ Document.partsOfEntries (Document.ofEntries entries), Plain part
  | [], _, h => absurd h List.not_mem_nil
  | (_, value) :: rest, part, h => by
    rw [Document.ofEntries, Document.partsOfEntries, List.mem_append] at h
    rcases h with h | h
    · exact plain_ofValue value part h
    · exact plain_ofEntries rest part h

end

/-- The document of a value is sound. -/
theorem sound_ofValue (value : Value) : (Document.ofValue value).Sound where
  leaves label? value' h := (plain_ofValue value _ h).2 label? value' rfl
  labelled part h _ _ _ hlabel _ := nomatch (plain_ofValue value part h).1.symm.trans hlabel

end PartsAux

end RunPicker

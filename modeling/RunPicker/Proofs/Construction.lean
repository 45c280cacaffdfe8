import Mathlib.Data.List.Forall2
import RunPicker.Proofs.Parts
import RunPicker.Proofs.Results
import RunPicker.Yaml.Reading

/-!
# Documents of nodes

The document of a node is sound if the node is: if nodes of one identity are equal, so are parts with one label
(`sound_documentAt`). Each part with a label is the document of the node that has this label (`Traced`). The depth at
which a node is read tells only which fault is found first, so the documents that a node has at several places are equal
(`documentAt_alike`).
-/

namespace RunPicker.Yaml.Node

mutual

/-- The nodes that stand in a node, the whole first. -/
def parts : Node → List Node
  | .scalar label tag text isPlain => [.scalar label tag text isPlain]
  | .sequence label tag items => .sequence label tag items :: partsOfItems items
  | .mapping label tag entries => .mapping label tag entries :: partsOfEntries entries

/-- The nodes that stand in the items of a sequence. -/
def partsOfItems : List Node → List Node
  | [] => []
  | item :: rest => parts item ++ partsOfItems rest

/-- The nodes that stand in the keys and the values of a mapping. -/
def partsOfEntries : List (Node × Node) → List Node
  | [] => []
  | (key, value) :: rest => parts key ++ (parts value ++ partsOfEntries rest)

end

/-- The label that tells a node from all others. A scalar without text has none, as nothing may be written for it. -/
def identity? : Node → Option Nat
  | .scalar label _ text _ => if text.isEmpty then none else some label
  | .sequence label .. | .mapping label .. => some label

/-- Nodes of one identity are equal. -/
def Sound (node : Node) : Prop :=
  ∀ part ∈ node.parts, ∀ other ∈ node.parts, ∀ label, part.identity? = some label →
    other.identity? = some label → part = other

end RunPicker.Yaml.Node

namespace RunPicker

open Yaml

namespace ConstructionAux

open PartsAux EntriesAux ResultsAux

/-! ## Depths -/

/-- Both are faults, or both are results that are in a relation. -/
inductive Alike {α β : Type} (R : α → β → Prop) : Outcome α → Outcome β → Prop
  | ok {a : α} {b : β} : R a b → Alike R (.ok a) (.ok b)
  | error (found found' : Found) : Alike R (.error found) (.error found')

section

variable {α β γ δ : Type} {R : α → β → Prop} {S : γ → δ → Prop}

/-- What goes on alike from alike outcomes is alike. -/
theorem Alike.bind {x : Outcome α} {y : Outcome β} {f : α → Outcome γ} {g : β → Outcome δ} (h : Alike R x y)
    (hnext : ∀ a b, R a b → Alike S (f a) (g b)) : Alike S (x >>= f) (y >>= g) := by
  cases h with
  | ok hab => exact hnext _ _ hab
  | error found found' => exact .error found found'

/-- What is made alike of alike outcomes is alike. -/
theorem Alike.map {x : Outcome α} {y : Outcome β} {f : α → γ} {g : β → δ} (h : Alike R x y)
    (hresult : ∀ a b, R a b → S (f a) (g b)) : Alike S (x.map f) (y.map g) := by
  cases h with
  | ok hab => exact .ok (hresult _ _ hab)
  | error found found' => exact .error found found'

/-- A result is the same at any rank, and a fault stays a fault. -/
theorem alike_of (rank rank' : Nat) (result : Except Fault α) :
    Alike Eq (Outcome.of rank result) (Outcome.of rank' result) := by
  cases result with
  | ok value => exact .ok rfl
  | error fault => exact .error _ _

end

/-- The keys and the values of two entries are alike. -/
def EntriesAlike (entry other : EntryOutcome) : Prop :=
  Alike Eq entry.key other.key ∧ Alike Eq entry.value other.value

/-- Two mappings that are built are the same so far, and both or none of them have a fault. -/
def StatesAlike (state other : Entries Document × Option Found) : Prop :=
  state.1 = other.1 ∧ state.2.isSome = other.2.isSome

/-- Of two faults one is found. -/
theorem isSome_first (known : Option Found) (other : Found) : (Found.first known other).isSome = true := by
  cases known <;> rfl

/-- The key of an entry, if it is one. -/
def checkedKey (rank : Nat) (entry : EntryOutcome) : Outcome Value := do
  let key ← entry.key
  Outcome.of rank (Node.checkKey key)
  return key

/-- The step of a mapping, by the key that was checked. -/
theorem addEntry_eq (rank : Nat) (merging : Bool) (entries : Entries Document) (found : Option Found)
    (entry : EntryOutcome) : Node.addEntry rank merging (entries, found) entry = match checkedKey rank entry with
      | .error other => (entries, Found.first found ⟨rank, other.fault⟩)
      | .ok key =>
        if !merging && entries.any fun entry => Node.sameKey key entry.1 then
          (entries, Found.first found ⟨rank, .malformed⟩)
        else match entry.value with
          | .ok value => (Entries.insert entries key value, found)
          | .error other => (Entries.insert entries key .empty, Found.first found other) := rfl

/-- Keys that are alike pass the same checks. -/
theorem checkedKey_alike (rank rank' : Nat) {entry other : EntryOutcome} (h : EntriesAlike entry other) :
    Alike Eq (checkedKey rank entry) (checkedKey rank' other) := by
  refine h.1.bind fun key key' hkey => ?_
  obtain rfl := hkey
  exact (alike_of rank rank' (Node.checkKey key)).bind fun _ _ _ => .ok rfl

/-- The same entry is added to both, or both have a fault. -/
theorem addEntry_alike (rank rank' : Nat) (merging : Bool) {state state' : Entries Document × Option Found}
    {entry entry' : EntryOutcome} (hstate : StatesAlike state state') (hentry : EntriesAlike entry entry') :
    StatesAlike (Node.addEntry rank merging state entry) (Node.addEntry rank' merging state' entry') := by
  obtain ⟨entries, found⟩ := state
  obtain ⟨entries', found'⟩ := state'
  obtain ⟨rfl, hfound⟩ : entries = entries' ∧ found.isSome = found'.isSome := hstate
  have hboth (other other' : Found) (changed : Entries Document) :
      StatesAlike (changed, Found.first found other) (changed, Found.first found' other') :=
    ⟨rfl, by rw [isSome_first, isSome_first]⟩
  rw [addEntry_eq, addEntry_eq]
  have hkey := checkedKey_alike rank rank' hentry
  revert hkey
  generalize checkedKey rank entry = key
  generalize checkedKey rank' entry' = key'
  rintro (⟨rfl⟩ | ⟨_, _⟩)
  · dsimp only
    split
    · exact hboth _ _ _
    · obtain ⟨-, hvalue⟩ := hentry
      revert hvalue
      generalize entry.value = value
      generalize entry'.value = value'
      rintro (⟨rfl⟩ | ⟨_, _⟩)
      · exact ⟨rfl, hfound⟩
      · exact hboth _ _ _
  · exact hboth _ _ _

/-- Entries that are alike are added alike, one after the other. -/
theorem foldl_addEntry_alike (rank rank' : Nat) (merging : Bool) {entries entries' : List EntryOutcome}
    (hentries : List.Forall₂ EntriesAlike entries entries') {state state' : Entries Document × Option Found}
    (hstate : StatesAlike state state') : StatesAlike (entries.foldl (Node.addEntry rank merging) state)
      (entries'.foldl (Node.addEntry rank' merging) state') := by
  induction hentries generalizing state state' with
  | nil => exact hstate
  | cons hentry _ ih => exact ih (addEntry_alike rank rank' merging hstate hentry)

/-- Mappings of entries that are alike are alike. -/
theorem mappingOf_alike (label rank rank' : Nat) {merged merged' own own' : List EntryOutcome}
    (hmerged : List.Forall₂ EntriesAlike merged merged') (hown : List.Forall₂ EntriesAlike own own') :
    Alike Eq (Node.mappingOf label rank merged own) (Node.mappingOf label rank' merged' own') := by
  have hempty : merged.isEmpty = merged'.isEmpty := by
    cases hmerged <;> rfl
  have hnew : StatesAlike ([], none) ([], none) := ⟨rfl, rfl⟩
  have hstate := foldl_addEntry_alike rank rank' (!merged.isEmpty) (List.rel_append hmerged hown) hnew
  unfold Node.mappingOf
  rw [← hempty]
  revert hstate
  generalize (merged ++ own).foldl (Node.addEntry rank (!merged.isEmpty)) ([], none) = state
  generalize (merged' ++ own').foldl (Node.addEntry rank' (!merged.isEmpty)) ([], none) = state'
  intro hstate
  obtain ⟨entries, _ | found⟩ := state <;> obtain ⟨entries', _ | found'⟩ := state'
  · exact .ok (by rw [show entries = entries' from hstate.1])
  · exact nomatch hstate.2
  · exact nomatch hstate.2
  · exact .error _ _

/-- The fault of an item, and otherwise the one that is known. -/
def firstFault (known : Option Found) (item : Outcome Document) : Option Found :=
  match item with
  | .ok _ => known
  | .error other => Found.first known other

/-- A list by the first fault in it. -/
theorem listOf_eq (label : Nat) (items : List (Outcome Document)) :
    Node.listOf label items = match items.foldl firstFault none with
      | some found => .error found
      | none => .ok (.list (some label) (items.filterMap Except.toOption)) := rfl

/-- Among items that are alike a fault is found in both lists or in none. -/
theorem foldl_firstFault_alike {items items' : List (Outcome Document)}
    (hitems : List.Forall₂ (Alike Eq) items items') {found found' : Option Found}
    (hfound : found.isSome = found'.isSome) :
    (items.foldl firstFault found).isSome = (items'.foldl firstFault found').isSome := by
  induction hitems generalizing found found' with
  | nil => exact hfound
  | cons hitem _ ih =>
    refine ih ?_
    cases hitem with
    | ok _ => exact hfound
    | error other other' => rw [firstFault, firstFault, isSome_first, isSome_first]

/-- Outcomes that are alike leave the same items. -/
theorem filterMap_toOption_alike {items items' : List (Outcome Document)}
    (hitems : List.Forall₂ (Alike Eq) items items') :
    items.filterMap Except.toOption = items'.filterMap Except.toOption := by
  induction hitems with
  | nil => rfl
  | cons hitem _ ih =>
    cases hitem with
    | ok heq => rw [heq, List.filterMap_cons, List.filterMap_cons, ih]
    | error other other' => exact ih

/-- Lists of items that are alike are alike. -/
theorem listOf_alike (label : Nat) {items items' : List (Outcome Document)}
    (hitems : List.Forall₂ (Alike Eq) items items') :
    Alike Eq (Node.listOf label items) (Node.listOf label items') := by
  have hnone : (none : Option Found).isSome = (none : Option Found).isSome := rfl
  have hfound := foldl_firstFault_alike hitems hnone
  rw [listOf_eq, listOf_eq, filterMap_toOption_alike hitems]
  revert hfound
  generalize items.foldl firstFault none = found
  generalize items'.foldl firstFault none = found'
  intro hfound
  cases found <;> cases found'
  · exact .ok rfl
  · exact nomatch hfound
  · exact nomatch hfound
  · exact .error _ _

/-- What is known of the entries of a mapping at two depths. -/
def PartsAlike (entries entries' : List EntryOutcome × List EntryOutcome) : Prop :=
  List.Forall₂ EntriesAlike entries.1 entries'.1 ∧ List.Forall₂ EntriesAlike entries.2 entries'.2

/-- Lists of entries that are alike are so when they are put together. -/
theorem rel_flatten {lists lists' : List (List EntryOutcome)}
    (h : List.Forall₂ (List.Forall₂ EntriesAlike) lists lists') :
    List.Forall₂ EntriesAlike lists.flatten lists'.flatten := by
  induction h with
  | nil => exact .nil
  | cons hfirst _ ih => exact List.rel_append hfirst ih

mutual

/-- A node has the same document at all depths, or a fault at all of them. -/
theorem documentAt_alike (depth depth' : Nat) :
    ∀ node : Node, Alike Eq (node.documentAt depth) (node.documentAt depth')
  | .scalar label tag text isPlain => by
    rw [Node.documentAt, Node.documentAt]
    exact (alike_of _ _ _).map fun _ _ heq => congrArg _ heq
  | .sequence label tag items => by
    rw [Node.documentAt, Node.documentAt]
    split
    · exact listOf_alike label (itemsAt_alike (depth + 1) (depth' + 1) items)
    · exact .error _ _
  | .mapping label tag entries => by
    rw [Node.documentAt, Node.documentAt]
    split
    · exact (entriesAt_alike depth depth' entries .nil).bind fun _ _ h => mappingOf_alike label _ _ h.1 h.2
    · exact .error _ _

/-- The items of a sequence are alike at all depths, one by one. -/
theorem itemsAt_alike (depth depth' : Nat) :
    ∀ items : List Node, List.Forall₂ (Alike Eq) (Node.itemsAt depth items) (Node.itemsAt depth' items)
  | [] => by
    rw [Node.itemsAt, Node.itemsAt]
    exact .nil
  | item :: rest => by
    rw [Node.itemsAt, Node.itemsAt]
    exact .cons (documentAt_alike depth depth' item) (itemsAt_alike depth depth' rest)

/-- So are the entries of a mapping, merged or its own. -/
theorem entriesAt_alike (depth depth' : Nat) :
    ∀ (entries : List (Node × Node)) {merged merged' : List EntryOutcome},
      List.Forall₂ EntriesAlike merged merged' →
        Alike PartsAlike (Node.entriesAt depth merged entries) (Node.entriesAt depth' merged' entries)
  | [], _, _, hmerged => by
    rw [Node.entriesAt, Node.entriesAt]
    exact .ok ⟨hmerged, .nil⟩
  | (key, value) :: rest, merged, merged', hmerged => by
    rw [Node.entriesAt, Node.entriesAt]
    split
    · have hempty : merged.isEmpty = merged'.isEmpty := by
        cases hmerged <;> rfl
      rw [hempty]
      split
      · exact (mergedAt_alike depth depth' value).bind fun _ _ h => entriesAt_alike depth depth' rest h
      · exact .error _ _
    · refine (entriesAt_alike depth depth' rest hmerged).bind fun _ _ h => .ok ⟨h.1, .cons ⟨?_, ?_⟩ h.2⟩
      · dsimp only
        split
        · exact .ok rfl
        · exact (documentAt_alike _ _ key).map fun _ _ heq => congrArg _ heq
      · exact documentAt_alike _ _ value

/-- So are the entries that are merged in. -/
theorem mergedAt_alike (depth depth' : Nat) : ∀ node : Node,
    Alike (List.Forall₂ EntriesAlike) (Node.mergedAt depth node) (Node.mergedAt depth' node)
  | .scalar .. => by
    rw [Node.mergedAt, Node.mergedAt]
    exact .error _ _
  | .sequence _ _ items => by
    rw [Node.mergedAt, Node.mergedAt]
    exact (mergedEachAt_alike depth depth' items).bind fun _ _ h => .ok (rel_flatten (List.rel_reverse h))
  | .mapping _ _ entries => by
    rw [Node.mergedAt, Node.mergedAt]
    exact (entriesAt_alike depth depth' entries .nil).bind fun _ _ h => .ok (List.rel_append h.1 h.2)

/-- Beyond what is needed, the depth makes no difference to merged mappings in a list. -/
theorem mergedEachAt_alike (depth depth' : Nat) : ∀ items : List Node,
    Alike (List.Forall₂ (List.Forall₂ EntriesAlike)) (Node.mergedEachAt depth items) (Node.mergedEachAt depth' items)
  | [] => by
    rw [Node.mergedEachAt, Node.mergedEachAt]
    exact .ok .nil
  | .mapping _ _ entries :: rest => by
    rw [Node.mergedEachAt, Node.mergedEachAt]
    refine (entriesAt_alike depth depth' entries .nil).bind fun _ _ h => ?_
    exact (mergedEachAt_alike depth depth' rest).bind fun _ _ hrest => .ok (.cons (List.rel_append h.1 h.2) hrest)
  | .scalar .. :: _ | .sequence .. :: _ => .error _ _

end

/-! ## Origins -/

/-- A part of a document that comes of some nodes: a part with a label is the document of the node that has the label,
and a leaf has nothing inside. -/
def Traced (nodes : List Node) (part : Document) : Prop :=
  (∀ label? value, part = .leaf label? value → value.isKey = true) ∧
    ∀ label, part.label? = some label →
      ∃ node ∈ nodes, node.identity? = some label ∧ ∃ depth, node.documentAt depth = .ok part

/-- A part that is traced to some nodes is traced to any more. -/
theorem Traced.mono {nodes others : List Node} {part : Document} (h : Traced nodes part) (hsub : nodes ⊆ others) :
    Traced others part := by
  refine ⟨h.1, fun label hlabel => ?_⟩
  obtain ⟨node, hnode, hdocument⟩ := h.2 label hlabel
  exact ⟨node, hsub hnode, hdocument⟩

/-- A part without labels needs no node. -/
theorem traced_of_plain (nodes : List Node) {part : Document} (h : Plain part) : Traced nodes part := by
  refine ⟨h.2, fun label hlabel => ?_⟩
  rw [h.1] at hlabel
  cases hlabel

/-- The parts of the value of an entry come of some nodes. -/
def TracedEntry (nodes : List Node) (entry : EntryOutcome) : Prop :=
  ∀ document, entry.value = .ok document → ∀ part ∈ document.parts, Traced nodes part

/-- An entry that is traced in some nodes is traced in more. -/
theorem TracedEntry.mono {nodes others : List Node} {entry : EntryOutcome} (h : TracedEntry nodes entry)
    (hsub : nodes ⊆ others) : TracedEntry others entry :=
  fun document hdocument part hpart => (h document hdocument part hpart).mono hsub

/-- The value of a scalar has nothing inside, and it is a moment only where something is written. -/
theorem valueOf_ok {kind : Kind} {text : String} {value : Value} (h : kind.valueOf text = .ok value) :
    value.isKey = true ∧ ∀ m, value = .moment m → text.isEmpty = false := by
  cases kind with
  | null => exact Except.ok.inj h ▸ ⟨rfl, nofun⟩
  | text => exact Except.ok.inj h ▸ ⟨rfl, nofun⟩
  | merge => exact nomatch h
  | equals => exact nomatch h
  | bool =>
    simp only [Kind.valueOf] at h
    split at h
    · exact Except.ok.inj h ▸ ⟨rfl, nofun⟩
    · exact nomatch h
  | integer =>
    simp only [Kind.valueOf] at h
    split at h
    · exact Except.ok.inj h ▸ ⟨rfl, nofun⟩
    · exact nomatch h
  | number =>
    simp only [Kind.valueOf] at h
    split at h
    · exact Except.ok.inj h ▸ ⟨rfl, nofun⟩
    · exact nomatch h
  | moment =>
    -- an empty text spells no moment
    have htext : text.isEmpty = false := by
      refine Bool.eq_false_iff.mpr fun hempty => ?_
      rw [String.isEmpty_iff.mp hempty] at h
      exact nomatch h
    simp only [Kind.valueOf] at h
    split at h
    · split at h
      · exact Except.ok.inj h ▸ ⟨rfl, fun _ _ => htext⟩
      · exact nomatch h
    · exact nomatch h

/-- The value of a scalar is no list and no mapping, and nothing written is no moment. -/
theorem scalarValue_ok {tag : Tag} {text : String} {isPlain : Bool} {value : Value}
    (h : Node.scalarValue tag text isPlain = .ok value) :
    value.isKey = true ∧ ∀ m, value = .moment m → text.isEmpty = false := by
  unfold Node.scalarValue at h
  split at h
  · exact valueOf_ok h
  · split at h
    · exact valueOf_ok h
    · exact nomatch h
  · exact nomatch h

/-- Where no fault was found, an entry was set. -/
theorem addEntry_ok {rank : Nat} {merging : Bool} {entries entries' : Entries Document} {found : Option Found}
    {outcome : EntryOutcome} (h : Node.addEntry rank merging (entries, found) outcome = (entries', none)) :
    found = none ∧ ∃ key value, outcome.value = .ok value ∧ entries' = Entries.insert entries key value := by
  have hfault (other : Found) : Found.first found other ≠ none := by
    cases found <;> exact nofun
  rw [addEntry_eq] at h
  split at h
  · exact absurd (Prod.mk.inj h).2 (hfault _)
  · rename_i key hkey
    split at h
    · exact absurd (Prod.mk.inj h).2 (hfault _)
    · split at h
      · rename_i value hvalue
        exact ⟨(Prod.mk.inj h).2, key, value, hvalue, (Prod.mk.inj h).1.symm⟩
      · exact absurd (Prod.mk.inj h).2 (hfault _)

/-- The entries of a mapping that has no fault are the values of what was found. -/
theorem mem_of_foldl_addEntry {rank : Nat} {merging : Bool} {outcomes : List EntryOutcome}
    {entries result : Entries Document} {found : Option Found}
    (h : outcomes.foldl (Node.addEntry rank merging) (entries, found) = (result, none)) :
    found = none ∧ ∀ entry ∈ result, entry ∈ entries ∨ ∃ outcome ∈ outcomes, outcome.value = .ok entry.2 := by
  induction outcomes generalizing entries found with
  | nil =>
    obtain ⟨rfl, rfl⟩ := Prod.mk.inj h
    exact ⟨rfl, fun _ => .inl⟩
  | cons outcome rest ih =>
    rw [List.foldl_cons] at h
    rcases hadded : Node.addEntry rank merging (entries, found) outcome with ⟨entries', found'⟩
    rw [hadded] at h
    obtain ⟨rfl, hentries⟩ := ih h
    obtain ⟨rfl, key, value, hvalue, rfl⟩ := addEntry_ok hadded
    refine ⟨rfl, fun entry hentry => ?_⟩
    rcases hentries entry hentry with hentry | ⟨other, hother, hok⟩
    · rcases mem_insert hentry with rfl | hentry
      · exact .inr ⟨outcome, List.mem_cons_self, hvalue⟩
      · exact .inl hentry
    · exact .inr ⟨other, List.mem_cons_of_mem _ hother, hok⟩

/-- The mapping that comes of entries has a label, and each of its values is that of an entry. -/
theorem mappingOf_ok {label rank : Nat} {merged own : List EntryOutcome} {document : Document}
    (h : Node.mappingOf label rank merged own = .ok document) :
    ∃ entries, document = .map (some label) entries ∧
      ∀ entry ∈ entries, ∃ outcome ∈ merged ++ own, outcome.value = .ok entry.2 := by
  unfold Node.mappingOf at h
  split at h
  · rename_i entries hentries
    refine ⟨entries, (Except.ok.inj h).symm, fun entry hentry => ?_⟩
    exact ((mem_of_foldl_addEntry hentries).2 entry hentry).resolve_left List.not_mem_nil
  · exact nomatch h

/-- The list that comes of items has a label, and each of its parts is an item. -/
theorem listOf_ok {label : Nat} {items : List (Outcome Document)} {document : Document}
    (h : Node.listOf label items = .ok document) :
    ∃ parts, document = .list (some label) parts ∧ ∀ part ∈ parts, .ok part ∈ items := by
  rw [listOf_eq] at h
  split at h
  · exact nomatch h
  · refine ⟨_, (Except.ok.inj h).symm, fun part hpart => ?_⟩
    obtain ⟨item, hitem, hok⟩ := List.mem_filterMap.mp hpart
    cases item with
    | error found => exact nomatch hok
    | ok document => exact Option.some.inj hok ▸ hitem

/-- A node is a part of itself. -/
theorem self_mem_parts_node (node : Node) : node ∈ node.parts := by
  cases node <;> simp [Node.parts]

/-- The parts of the items of a sequence are its parts. -/
theorem partsOfItems_subset_parts (label : Nat) (tag : Tag) (items : List Node) :
    Node.partsOfItems items ⊆ (Node.sequence label tag items).parts := by
  rw [Node.parts]
  exact List.subset_cons_self _ _

/-- The parts of the entries of a mapping are its parts. -/
theorem partsOfEntries_subset_parts (label : Nat) (tag : Tag) (entries : List (Node × Node)) :
    Node.partsOfEntries entries ⊆ (Node.mapping label tag entries).parts := by
  rw [Node.parts]
  exact List.subset_cons_self _ _

/-- The document of a scalar comes of that scalar: it has its label only where something is written. -/
theorem traced_scalar (label : Nat) (tag : Tag) (text : String) (isPlain : Bool) {depth : Nat} {document : Document}
    (h : (Node.scalar label tag text isPlain).documentAt depth = .ok document) :
    ∀ part ∈ document.parts, Traced (Node.scalar label tag text isPlain).parts part := by
  intro part hpart
  have hself := self_mem_parts_node (.scalar label tag text isPlain)
  have hread := h
  rw [Node.documentAt] at h
  cases hvalue : Node.scalarValue tag text isPlain with
  | error fault =>
    rw [hvalue] at h
    exact nomatch h
  | ok value =>
    rw [hvalue] at h
    obtain rfl := Except.ok.inj h
    obtain ⟨hkey, hmoment⟩ := scalarValue_ok hvalue
    cases value with
    | moment m =>
      rw [List.mem_singleton.mp hpart]
      refine ⟨fun label? value heq => ?_, fun label' hlabel => ⟨_, hself, ?_, depth, hread⟩⟩
      · obtain ⟨-, rfl⟩ := Document.leaf.inj heq
        rfl
      · rw [Node.identity?, hmoment m rfl, if_neg Bool.false_ne_true]
        exact hlabel
    | _ =>
      rw [List.mem_singleton.mp hpart]
      exact traced_of_plain _ ⟨rfl, fun label? value heq => (Document.leaf.inj heq).2 ▸ hkey⟩

mutual

/-- The parts of the document of a node come of the nodes in it. -/
theorem traced_documentAt (depth : Nat) : ∀ (node : Node) (document : Document),
    node.documentAt depth = .ok document → ∀ part ∈ document.parts, Traced node.parts part
  | .scalar label tag text isPlain, _, h, part, hpart => traced_scalar label tag text isPlain h part hpart
  | .sequence label tag items, document, h, part, hpart => by
    have hself := self_mem_parts_node (.sequence label tag items)
    have hread := h
    rw [Node.documentAt] at h
    split at h
    · obtain ⟨parts, rfl, hitems⟩ := listOf_ok h
      rcases mem_parts_list.mp hpart with rfl | ⟨item, hitem, hpart⟩
      · exact ⟨nofun, fun _ hlabel => ⟨_, hself, hlabel, depth, hread⟩⟩
      · exact (traced_itemsAt (depth + 1) items item (hitems item hitem) part hpart).mono
          (partsOfItems_subset_parts label tag items)
    · exact nomatch h
  | .mapping label tag entries, document, h, part, hpart => by
    have hself := self_mem_parts_node (.mapping label tag entries)
    have hread := h
    rw [Node.documentAt] at h
    split at h
    · obtain ⟨⟨merged, own⟩, hentries, h⟩ := exists_of_bind_ok h
      obtain ⟨values, rfl, hvalues⟩ := mappingOf_ok h
      rcases mem_parts_map.mp hpart with rfl | ⟨entry, hentry, hpart⟩
      · exact ⟨nofun, fun _ hlabel => ⟨_, hself, hlabel, depth, hread⟩⟩
      · obtain ⟨outcome, houtcome, hvalue⟩ := hvalues entry hentry
        have htraced := (traced_entriesAt depth entries [] _ hentries outcome houtcome).resolve_left List.not_mem_nil
        exact (htraced entry.2 hvalue part hpart).mono (partsOfEntries_subset_parts label tag entries)
    · exact nomatch h

/-- The documents of items are traced to the nodes in these. -/
theorem traced_itemsAt (depth : Nat) : ∀ (items : List Node) (document : Document),
    .ok document ∈ Node.itemsAt depth items → ∀ part ∈ document.parts, Traced (Node.partsOfItems items) part
  | [], document, h, part, hpart => by
    rw [Node.itemsAt] at h
    exact absurd h List.not_mem_nil
  | item :: rest, document, h, part, hpart => by
    rw [Node.itemsAt] at h
    rw [Node.partsOfItems]
    rcases List.mem_cons.mp h with h | h
    · exact (traced_documentAt depth item document h.symm part hpart).mono (List.subset_append_left _ _)
    · exact (traced_itemsAt depth rest document h part hpart).mono (List.subset_append_right _ _)

/-- The entries that are merged in or a mapping has of its own are traced to the nodes in it. -/
theorem traced_entriesAt (depth : Nat) : ∀ (entries : List (Node × Node)) (merged : List EntryOutcome)
    (result : List EntryOutcome × List EntryOutcome), Node.entriesAt depth merged entries = .ok result →
      ∀ entry ∈ result.1 ++ result.2, entry ∈ merged ∨ TracedEntry (Node.partsOfEntries entries) entry
  | [], merged, result, h, entry, hentry => by
    rw [Node.entriesAt] at h
    obtain rfl := Except.ok.inj h
    exact .inl (by rwa [List.append_nil] at hentry)
  | (key, value) :: rest, merged, result, h, entry, hentry => by
    have hrest : Node.partsOfEntries rest ⊆ Node.partsOfEntries ((key, value) :: rest) := by
      rw [Node.partsOfEntries, ← List.append_assoc]
      exact List.subset_append_right _ _
    have hvalue : value.parts ⊆ Node.partsOfEntries ((key, value) :: rest) := by
      rw [Node.partsOfEntries]
      exact List.Subset.trans (List.subset_append_left _ _) (List.subset_append_right _ _)
    rw [Node.entriesAt] at h
    split at h
    · split at h
      · obtain ⟨merged', hmerged, h⟩ := exists_of_bind_ok h
        rcases traced_entriesAt depth rest merged' result h entry hentry with hentry | htraced
        · exact .inr ((traced_mergedAt depth value merged' hmerged entry hentry).mono hvalue)
        · exact .inr (htraced.mono hrest)
      · exact nomatch h
    · obtain ⟨⟨merged', own⟩, hentries, h⟩ := exists_of_bind_ok h
      obtain rfl := Except.ok.inj h
      rcases List.mem_append.mp hentry with hentry | hentry
      · exact (traced_entriesAt depth rest merged _ hentries entry (List.mem_append_left _ hentry)).imp_right
          fun htraced => htraced.mono hrest
      · rcases List.mem_cons.mp hentry with rfl | hentry
        · exact .inr fun document hdocument part hpart =>
            (traced_documentAt (depth + 1) value document hdocument part hpart).mono hvalue
        · exact (traced_entriesAt depth rest merged _ hentries entry (List.mem_append_right _ hentry)).imp_right
            fun htraced => htraced.mono hrest

/-- What a value brings in when it is merged is traced to the nodes in it. -/
theorem traced_mergedAt (depth : Nat) : ∀ (node : Node) (merged : List EntryOutcome),
    node.mergedAt depth = .ok merged → ∀ entry ∈ merged, TracedEntry node.parts entry
  | .scalar .., merged, h, entry, hentry => by
    rw [Node.mergedAt] at h
    exact nomatch h
  | .sequence _ _ items, merged, h, entry, hentry => by
    rw [Node.mergedAt] at h
    obtain ⟨lists, hlists, h⟩ := exists_of_bind_ok h
    obtain rfl := Except.ok.inj h
    obtain ⟨list, hlist, hentry⟩ := List.mem_flatten.mp hentry
    exact (traced_mergedEachAt depth items lists hlists list (List.mem_reverse.mp hlist) entry hentry).mono
      (partsOfItems_subset_parts _ _ items)
  | .mapping _ _ entries, merged, h, entry, hentry => by
    rw [Node.mergedAt] at h
    obtain ⟨result, hresult, h⟩ := exists_of_bind_ok h
    obtain rfl := Except.ok.inj h
    have htraced := (traced_entriesAt depth entries [] result hresult entry hentry).resolve_left List.not_mem_nil
    exact htraced.mono (partsOfEntries_subset_parts _ _ entries)

/-- The entries of merged mappings in a list are traced in its items. -/
theorem traced_mergedEachAt (depth : Nat) : ∀ (items : List Node) (merged : List (List EntryOutcome)),
    Node.mergedEachAt depth items = .ok merged →
      ∀ entries ∈ merged, ∀ entry ∈ entries, TracedEntry (Node.partsOfItems items) entry
  | [], merged, h, entries, hentries, entry, hentry => by
    rw [Node.mergedEachAt] at h
    obtain rfl := Except.ok.inj h
    exact absurd hentries List.not_mem_nil
  | .mapping label tag items :: rest, merged, h, entries, hentries, entry, hentry => by
    rw [Node.mergedEachAt] at h
    obtain ⟨result, hresult, h⟩ := exists_of_bind_ok h
    obtain ⟨others, hothers, h⟩ := exists_of_bind_ok h
    obtain rfl := Except.ok.inj h
    rw [Node.partsOfItems]
    rcases List.mem_cons.mp hentries with rfl | hentries
    · have htraced := (traced_entriesAt depth items [] result hresult entry hentry).resolve_left List.not_mem_nil
      exact htraced.mono (List.Subset.trans (partsOfEntries_subset_parts label tag items) (List.subset_append_left _ _))
    · exact (traced_mergedEachAt depth rest others hothers entries hentries entry hentry).mono
        (List.subset_append_right _ _)
  | .scalar .. :: _, _, h, _, _, _, _ | .sequence .. :: _, _, h, _, _, _, _ => nomatch h

end

end ConstructionAux

open ConstructionAux PartsAux

/-- The document of a sound node is sound. -/
theorem sound_documentAt {node : Node} (h : node.Sound) {depth : Nat} {document : Document}
    (hdocument : node.documentAt depth = .ok document) : document.Sound where
  leaves label? value hleaf := (traced_documentAt depth node document hdocument _ hleaf).1 label? value rfl
  labelled part hpart other hother label hlabel hlabel' := by
    obtain ⟨origin, horigin, hidentity, depth', hread⟩ :=
      (traced_documentAt depth node document hdocument part hpart).2 label hlabel
    obtain ⟨origin', horigin', hidentity', depth'', hread'⟩ :=
      (traced_documentAt depth node document hdocument other hother).2 label hlabel'
    obtain rfl := h origin horigin origin' horigin' label hidentity hidentity'
    have halike := documentAt_alike depth' depth'' origin
    rw [hread, hread'] at halike
    cases halike with
    | ok hsame => exact hsame

end RunPicker

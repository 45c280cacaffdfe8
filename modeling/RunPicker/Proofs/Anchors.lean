import RunPicker.Proofs.Construction
import RunPicker.Yaml.Loading

/-!
# Anchors

The reading of a document gives sound nodes: nodes of one identity are one and the same (`sound_ofTokens?`), for a label
is given out once, and an alias stands for the node under its anchor. So every document that is read is sound
(`sound_read`), and so is every one that is loaded (`sound_loadText`, `sound_loadFile`).

A `Registry` says which node has a label. The labels from the next one on are in no registry, and a step of the reading
only adds to it what it reads (`Registers`); the steps are put together by `Registers.bind`, and `registers_labelled` is
the step that gives out a label.
-/

namespace RunPicker

open Yaml

namespace AnchorsAux

open ConstructionAux

/-- The nodes of the labels that were given out. -/
abbrev Registry := Nat → Option Node

/-- The registry with a label added. -/
def Registry.add (registry : Registry) (label : Nat) (node : Node) : Registry :=
  fun other => if other = label then some node else registry other

/-- The node has the identities that the registry knows. -/
def Registered (registry : Registry) (node : Node) : Prop :=
  ∀ part ∈ node.parts, ∀ label, part.identity? = some label → registry label = some part

/-- The registry knows the nodes under the anchors, and no label that is still to be given out. -/
structure Fits (registry : Registry) (progress : Node.Progress) : Prop where
  fresh : ∀ label, progress.label ≤ label → registry label = none
  anchors : ∀ anchor ∈ progress.anchors, Registered registry anchor.2

/-- A registry to which only labels were added that were given out in between. -/
structure Later (registry : Registry) (progress : Node.Progress) (registry' : Registry) (progress' : Node.Progress) :
    Prop where
  label : progress.label ≤ progress'.label
  same : ∀ label < progress.label, registry' label = registry label
  fits : Fits registry' progress'

/-- What is later than what is later is later. -/
theorem Later.trans {registry registry' registry'' : Registry} {progress progress' progress'' : Node.Progress}
    (h : Later registry progress registry' progress') (h' : Later registry' progress' registry'' progress'') :
    Later registry progress registry'' progress'' where
  label := Nat.le_trans h.label h'.label
  same label hlabel := (h'.same label (Nat.lt_of_lt_of_le hlabel h.label)).trans (h.same label hlabel)
  fits := h'.fits

/-- What is registered stays so. -/
theorem Registered.later {registry registry' : Registry} {progress progress' : Node.Progress} {node : Node}
    (h : Registered registry node) (hfits : Fits registry progress)
    (hlater : Later registry progress registry' progress') : Registered registry' node := by
  intro part hpart label hidentity
  have hregistry := h part hpart label hidentity
  have hlabel : label < progress.label := by
    refine Nat.lt_of_not_le fun hle => ?_
    rw [hfits.fresh label hle] at hregistry
    exact nomatch hregistry
  rw [hlater.same label hlabel, hregistry]

variable {α β : Type} {known : List Node}

/-- Where the known nodes are registered, the step adds to the registry what it gives. -/
def Registers (known : List Node) (step : Node.Step α) (nodes : α → List Node) : Prop :=
  ∀ registry progress, Fits registry progress → (∀ node ∈ known, Registered registry node) →
    ∀ result progress', step.run progress = .ok (result, progress') →
      ∃ registry', Later registry progress registry' progress' ∧ ∀ node ∈ nodes result, Registered registry' node

/-- A step that goes on from what another one read knows what that one registered. -/
theorem Registers.bind {step : Node.Step α} {next : α → Node.Step β} {nodes : α → List Node}
    {nodes' : β → List Node} (h : Registers known step nodes)
    (hnext : ∀ result, Registers (nodes result ++ known) (next result) nodes') :
    Registers known (step >>= next) nodes' := by
  intro registry progress hfits hknown result progress' hrun
  rw [StateT.run_bind] at hrun
  cases hstep : step.run progress with
  | error fault =>
    rw [hstep] at hrun
    exact nomatch hrun
  | ok middle =>
    obtain ⟨value, progress''⟩ := middle
    rw [hstep] at hrun
    obtain ⟨registry'', hlater, hnodes⟩ := h registry progress hfits hknown value progress'' hstep
    obtain ⟨registry', hlater', hnodes'⟩ := hnext value registry'' progress'' hlater.fits (by
      intro node hnode
      rcases List.mem_append.mp hnode with hnode | hnode
      · exact hnodes node hnode
      · exact (hknown node hnode).later hfits hlater) result progress' hrun
    exact ⟨registry', hlater.trans hlater', hnodes'⟩

/-- A step registers the same, however many nodes were known before. -/
theorem Registers.mono {step : Node.Step α} {nodes : α → List Node} {others : List Node}
    (h : Registers known step nodes) (hsub : known ⊆ others) : Registers others step nodes :=
  fun registry progress hfits hknown => h registry progress hfits fun node hnode => hknown node (hsub hnode)

/-- A step that gives no label out and sets no anchor. -/
def Inert (step : Node.Step α) : Prop :=
  ∀ progress result progress', step.run progress = .ok (result, progress') →
    progress'.label = progress.label ∧ progress'.anchors = progress.anchors

/-- Steps that change no anchors and no labels do so one after the other. -/
theorem Inert.bind {step : Node.Step α} {next : α → Node.Step β} (h : Inert step)
    (hnext : ∀ result, Inert (next result)) : Inert (step >>= next) := by
  intro progress result progress' hrun
  rw [StateT.run_bind] at hrun
  cases hstep : step.run progress with
  | error fault =>
    rw [hstep] at hrun
    exact nomatch hrun
  | ok middle =>
    rw [hstep] at hrun
    obtain ⟨hlabel, hanchors⟩ := h _ _ _ hstep
    obtain ⟨hlabel', hanchors'⟩ := hnext _ _ _ _ hrun
    exact ⟨hlabel'.trans hlabel, hanchors'.trans hanchors⟩

theorem inert_pure (result : α) : Inert (pure result : Node.Step α) := by
  intro progress other progress' hrun
  obtain ⟨-, rfl⟩ := Prod.mk.inj (Except.ok.inj hrun)
  exact ⟨rfl, rfl⟩

theorem inert_throw (fault : Fault) : Inert (throw fault : Node.Step α) :=
  fun _ _ _ hrun => nomatch hrun

/-- Leaving a token behind touches neither anchors nor labels, and so do the other steps that only look at tokens. -/
theorem inert_take : Inert Node.take := by
  intro progress result progress' hrun
  obtain ⟨-, rfl⟩ := Prod.mk.inj (Except.ok.inj hrun)
  exact ⟨rfl, rfl⟩

theorem inert_get : Inert (get : Node.Step Node.Progress) := by
  intro progress result progress' hrun
  obtain ⟨-, rfl⟩ := Prod.mk.inj (Except.ok.inj hrun)
  exact ⟨rfl, rfl⟩

theorem inert_peek : Inert Node.peek := by
  refine inert_get.bind fun progress => ?_
  split
  · exact inert_throw _
  · exact inert_pure _
  · exact inert_pure _

theorem inert_takeIf (token : Token) : Inert (Node.takeIf token) := by
  refine inert_peek.bind fun next => ?_
  split
  · exact inert_take.bind fun _ => inert_pure true
  · exact inert_pure false

theorem inert_expect (token : Token) : Inert (Node.expect token) := by
  refine (inert_takeIf token).bind fun isTaken => ?_
  split
  · exact inert_throw _
  · exact inert_pure _

theorem inert_isNext (tokens : List Token) : Inert (Node.isNext tokens) :=
  inert_peek.bind fun _ => inert_pure _

/-- The anchor and the tag in front of a node are read before the node is there. -/
theorem inert_properties : Inert Node.properties := by
  refine inert_peek.bind fun token => ?_
  split
  · refine inert_take.bind fun _ => inert_peek.bind fun token => ?_
    split
    · exact inert_take.bind fun _ => inert_pure _
    · exact inert_pure _
  · refine inert_take.bind fun _ => inert_peek.bind fun token => ?_
    split
    · exact inert_take.bind fun _ => inert_pure _
    · exact inert_pure _
  · exact inert_pure _

/-- A step that gives no label out registers nothing. -/
theorem Inert.registers {step : Node.Step α} (h : Inert step) : Registers known step fun _ => [] := by
  intro registry progress hfits _ result progress' hrun
  obtain ⟨hlabel, hanchors⟩ := h progress result progress' hrun
  refine ⟨registry, ⟨Nat.le_of_eq hlabel.symm, fun _ _ => rfl, ?_, ?_⟩, fun _ hnil => absurd hnil List.not_mem_nil⟩
  · rw [hlabel]
    exact hfits.fresh
  · rw [hanchors]
    exact hfits.anchors

/-- After an inert step, the known nodes are known still. -/
theorem Inert.then {step : Node.Step α} {next : α → Node.Step β} {nodes : β → List Node} (h : Inert step)
    (hnext : ∀ result, Registers known (next result) nodes) : Registers known (step >>= next) nodes :=
  h.registers.bind hnext

theorem registers_throw (fault : Fault) (nodes : α → List Node) : Registers known (throw fault) nodes :=
  fun _ _ _ _ _ _ hrun => nomatch hrun

/-- A step that reads nothing registers what was known. -/
theorem registers_pure {result : α} {nodes : α → List Node} (h : nodes result ⊆ known) :
    Registers known (pure result) nodes := by
  intro registry progress hfits hknown other progress' hrun
  obtain ⟨rfl, rfl⟩ := Prod.mk.inj (Except.ok.inj hrun)
  exact ⟨registry, ⟨Nat.le_refl _, fun _ _ => rfl, hfits⟩, fun node hnode => hknown node (h hnode)⟩

/-- A node that is registered may be kept under an anchor. -/
theorem registers_keep (anchor? : Option (List Char)) (node : Node) :
    Registers [node] (Node.keep anchor? node) fun result => [result] := by
  intro registry progress hfits hknown result progress' hrun
  have hnode := hknown node (List.mem_singleton_self node)
  cases anchor? with
  | none =>
    obtain ⟨rfl, rfl⟩ := Prod.mk.inj (Except.ok.inj hrun)
    exact ⟨registry, ⟨Nat.le_refl _, fun _ _ => rfl, hfits⟩, hknown⟩
  | some name =>
    obtain ⟨rfl, rfl⟩ := Prod.mk.inj (Except.ok.inj hrun)
    refine ⟨registry, ⟨Nat.le_refl _, fun _ _ => rfl, hfits.fresh, fun anchor hanchor => ?_⟩, hknown⟩
    rcases List.mem_cons.mp hanchor with rfl | hanchor
    · exact hnode
    · exact hfits.anchors anchor hanchor

/-- The node of an alias is registered, as it stands under an anchor. -/
theorem registers_ofAlias (name : List Char) : Registers [] (Node.ofAlias name) fun node => [node] := by
  intro registry progress hfits _ result progress' hrun
  have hget : (get : Node.Step Node.Progress).run progress = .ok (progress, progress) := rfl
  rw [Node.ofAlias, StateT.run_bind, hget] at hrun
  cases hfound : progress.anchors.find? fun anchor : List Char × Node => anchor.1 == name with
  | none =>
    simp only [bind, Except.bind, hfound] at hrun
    cases hrun
  | some anchor =>
    simp only [bind, Except.bind, hfound] at hrun
    obtain ⟨rfl, rfl⟩ := Prod.mk.inj (Except.ok.inj hrun)
    refine ⟨registry, ⟨Nat.le_refl _, fun _ _ => rfl, hfits⟩, fun other hother => ?_⟩
    rw [List.mem_singleton.mp hother]
    exact hfits.anchors _ (List.mem_of_find?_eq_some hfound)

/-- A scalar for which nothing is written is registered in every registry, as it has no identity. -/
theorem registers_absent (tag : Tag) (isPlain : Bool) {step : Node.Step α} {nodes : α → List Node}
    (h : Registers (.scalar 0 tag "" isPlain :: known) step nodes) : Registers known step nodes := by
  intro registry progress hfits hknown
  refine h registry progress hfits fun node hnode => ?_
  rcases List.mem_cons.mp hnode with rfl | hnode
  · intro part hpart label hidentity
    rw [List.mem_singleton.mp hpart] at hidentity
    exact nomatch hidentity
  · exact hknown node hnode

/-- The absent node can be read anywhere. -/
theorem registers_pure_absent : Registers known (pure Node.absent) fun node => [node] :=
  registers_absent .unspecific true (registers_pure (List.cons_subset_cons _ (List.nil_subset _)))

/-- What is registered stays so when a label that was reserved is put into the registry. -/
theorem Registered.add {registry : Registry} {label : Nat} {node : Node} (h : Registered registry node)
    (hreserved : registry label = none) (made : Node) : Registered (registry.add label made) node := by
  intro part hpart other hother
  have hsome := h part hpart other hother
  have hne : other ≠ label := by
    rintro rfl
    exact nomatch hreserved.symm.trans hsome
  exact (if_neg hne).trans hsome

/-- The label that was given out first is put into the registry once what comes after it was read. -/
theorem Later.add {registry registry' : Registry} {progress progress' : Node.Progress}
    (h : Later registry { progress with label := progress.label + 1 } registry' progress')
    (hreserved : registry' progress.label = none) (made : Node) :
    Later registry progress (registry'.add progress.label made) progress' where
  label := Nat.le_of_succ_le h.label
  same other hother := by
    have hsame := h.same other (Nat.lt_succ_of_lt hother)
    exact (if_neg (Nat.ne_of_lt hother)).trans hsame
  fits := by
    refine ⟨fun other hother => ?_, fun anchor hanchor => (h.fits.anchors anchor hanchor).add hreserved made⟩
    have hlabel : progress.label + 1 ≤ progress'.label := h.label
    have hne : other ≠ progress.label := by omega
    exact (if_neg hne).trans (h.fits.fresh other hother)

/-- A label is given out for a node that is made of what is read next, and the node is registered under it. -/
theorem registers_labelled {step : Node.Step α} {nodes : α → List Node} {make : Nat → α → Node}
    {next : Nat → α → Node.Step β} {nodes' : β → List Node} (h : Registers known step nodes)
    (hparts : ∀ label result, ∀ part ∈ (make label result).parts,
      part = make label result ∨ ∃ node ∈ nodes result, part ∈ node.parts)
    (hidentity : ∀ label result other, (make label result).identity? = some other → other = label)
    (hnext : ∀ label result, Registers [make label result] (next label result) nodes') :
    Registers known (Node.freshLabel >>= fun label => step >>= next label) nodes' := by
  intro registry progress hfits hknown result progress' hrun
  let label := progress.label
  let started : Node.Progress := { progress with label := label + 1 }
  have hfresh : Node.freshLabel.run progress = .ok (label, started) := rfl
  have hstarted : Fits registry started :=
    ⟨fun other hother => hfits.fresh other (Nat.le_of_succ_le hother), hfits.anchors⟩
  rw [StateT.run_bind, hfresh] at hrun
  have hrun : (step >>= next label).run started = .ok (result, progress') := hrun
  rw [StateT.run_bind] at hrun
  cases hstep : step.run started with
  | error fault =>
    rw [hstep] at hrun
    exact nomatch hrun
  | ok middle =>
    obtain ⟨value, progress''⟩ := middle
    rw [hstep] at hrun
    obtain ⟨registry'', hlater, hnodes⟩ := h registry started hstarted hknown value progress'' hstep
    have hreserved : registry'' label = none := by
      rw [hlater.same label (Nat.lt_succ_self label)]
      exact hfits.fresh label (Nat.le_refl label)
    have hadded := hlater.add hreserved (make label value)
    have hmade : Registered (registry''.add label (make label value)) (make label value) := by
      intro part hpart other hother
      rcases hparts label value part hpart with rfl | ⟨node, hnode, hpart⟩
      · exact if_pos (hidentity label value other hother)
      · exact (hnodes node hnode).add hreserved (make label value) part hpart other hother
    have hknown' : ∀ node ∈ [make label value], Registered (registry''.add label (make label value)) node := by
      intro node hnode
      rw [List.mem_singleton.mp hnode]
      exact hmade
    obtain ⟨registry', hlater', hnodes'⟩ := hnext label value _ progress'' hadded.fits hknown' result progress' hrun
    exact ⟨registry', hadded.trans hlater', hnodes'⟩

/-- A label is given out for a node that is made of known nodes. -/
theorem registers_fresh {make : Nat → Node} {next : Nat → Node.Step β} {nodes : β → List Node}
    (hparts : ∀ label, ∀ part ∈ (make label).parts, part = make label ∨ ∃ node ∈ known, part ∈ node.parts)
    (hidentity : ∀ label other, (make label).identity? = some other → other = label)
    (hnext : ∀ label, Registers [make label] (next label) nodes) :
    Registers known (Node.freshLabel >>= next) nodes := by
  have hread : Registers known (pure () : Node.Step Unit) fun _ => known := registers_pure (List.Subset.refl _)
  have h := registers_labelled hread (fun label _ => hparts label) (fun label _ => hidentity label)
    fun label _ => hnext label
  simpa only [pure_bind] using h

/-! ## Nodes -/

/-- The keys and the values of some entries. -/
def entryNodes (entries : List (Node × Node)) : List Node :=
  entries.flatMap fun entry => [entry.1, entry.2]

/-- What stands in the items of a sequence stands in one of them. -/
theorem mem_partsOfItems_node {part : Node} {items : List Node} (h : part ∈ Node.partsOfItems items) :
    ∃ item ∈ items, part ∈ item.parts := by
  induction items with
  | nil => exact absurd h List.not_mem_nil
  | cons item rest ih =>
    rw [Node.partsOfItems] at h
    rcases List.mem_append.mp h with h | h
    · exact ⟨item, List.mem_cons_self, h⟩
    · obtain ⟨other, hother, h⟩ := ih h
      exact ⟨other, List.mem_cons_of_mem _ hother, h⟩

/-- What stands in the entries of a mapping stands in a key or in a value. -/
theorem mem_partsOfEntries_node {part : Node} {entries : List (Node × Node)} (h : part ∈ Node.partsOfEntries entries) :
    ∃ node ∈ entryNodes entries, part ∈ node.parts := by
  induction entries with
  | nil => exact absurd h List.not_mem_nil
  | cons entry rest ih =>
    rw [Node.partsOfEntries, List.mem_append, List.mem_append] at h
    rw [entryNodes, List.flatMap_cons]
    rcases h with h | h | h
    · exact ⟨entry.1, List.mem_append_left _ List.mem_cons_self, h⟩
    · exact ⟨entry.2, List.mem_append_left _ (List.mem_cons_of_mem _ List.mem_cons_self), h⟩
    · obtain ⟨node, hnode, h⟩ := ih h
      exact ⟨node, List.mem_append_right _ hnode, h⟩

/-- A scalar gets a label of its own. -/
theorem registers_scalar (anchor? : Option (List Char)) (tag : Tag) (text : String) (isPlain : Bool) :
    Registers known (Node.freshLabel >>= fun label => Node.keep anchor? (.scalar label tag text isPlain))
      fun node => [node] := by
  refine @registers_fresh Node known (fun label => .scalar label tag text isPlain) _ _
    (fun label part hpart => .inl (List.mem_singleton.mp hpart)) (fun label other hother => ?_)
    fun label => registers_keep anchor? _
  simp only [Node.identity?] at hother
  split at hother
  · cases hother
  · exact (Option.some.inj hother).symm

/-- A sequence gets its label before its items are read, and holds them when they are. -/
theorem registers_sequence {step : Node.Step (List Node)} (h : Registers known step id)
    (anchor? : Option (List Char)) (tag : Tag) :
    Registers known (Node.freshLabel >>= fun label => step >>= fun items =>
      Node.keep anchor? (.sequence label tag items)) fun node => [node] := by
  refine registers_labelled h (fun label items part hpart => ?_) (fun label items other hother => ?_)
    fun label items => registers_keep anchor? (.sequence label tag items)
  · rw [Node.parts] at hpart
    exact (List.mem_cons.mp hpart).imp_right mem_partsOfItems_node
  · exact (Option.some.inj hother).symm

/-- A mapping gets its label before its entries are read, and holds them when they are. -/
theorem registers_mapping {step : Node.Step (List (Node × Node))} (h : Registers known step entryNodes)
    (anchor? : Option (List Char)) (tag : Tag) :
    Registers known (Node.freshLabel >>= fun label => step >>= fun entries =>
      Node.keep anchor? (.mapping label tag entries)) fun node => [node] := by
  refine registers_labelled h (fun label entries part hpart => ?_) (fun label entries other hother => ?_)
    fun label entries => registers_keep anchor? (.mapping label tag entries)
  · rw [Node.parts] at hpart
    exact (List.mem_cons.mp hpart).imp_right mem_partsOfEntries_node
  · exact (Option.some.inj hother).symm

theorem cons_subset (item : Node) (rest known : List Node) : item :: rest ⊆ rest ++ ([item] ++ known) := by
  intro node hnode
  simp only [List.mem_cons, List.mem_append, List.not_mem_nil, or_false] at hnode ⊢
  exact hnode.elim (fun h => .inr (.inl h)) .inl

theorem entryNodes_cons_subset (key value : Node) (rest : List (Node × Node)) (known : List Node) :
    entryNodes ((key, value) :: rest) ⊆ entryNodes rest ++ ([value] ++ ([key] ++ known)) := by
  intro node hnode
  rw [entryNodes, List.flatMap_cons] at hnode
  simp only [List.mem_cons, List.mem_append, List.not_mem_nil, or_false] at hnode ⊢
  rcases hnode with (h | h) | h
  · exact .inr (.inr (.inl h))
  · exact .inr (.inl h)
  · exact .inl h

/-- What is read within some steps is registered. -/
structure ReadsRegistered (steps : Nat) : Prop where
  read : ∀ place, Registers [] (Node.read steps place) fun node => [node]
  readUnless : ∀ stops place, Registers [] (Node.readUnless steps stops place) fun node => [node]
  readEntries : Registers [] (Node.readEntries steps) id
  readFlushEntries : Registers [] (Node.readFlushEntries steps) id
  readValue : ∀ stops place, Registers [] (Node.readValue steps stops place) fun node => [node]
  readBlockPairs : Registers [] (Node.readBlockPairs steps) entryNodes
  readItems : ∀ isFirst, Registers [] (Node.readItems steps isFirst) id
  readPairs : ∀ isFirst, Registers [] (Node.readPairs steps isFirst) entryNodes

/-- With no steps left nothing is read. -/
theorem readsRegistered_zero : ReadsRegistered 0 := by
  constructor <;> intros <;> exact registers_throw _ _

variable {steps : Nat}

/-- Where nothing is written, what stands for it has no identity. -/
theorem registers_absentAfter (anchor? : Option (List Char)) (tag? : Option Tag) :
    Registers known (Node.read.absentAfter anchor? tag?) fun node => [node] := by
  unfold Node.read.absentAfter
  split
  · exact registers_throw _ _
  · exact registers_absent _ _ ((registers_keep anchor? _).mono (List.cons_subset_cons _ (List.nil_subset _)))

/-- A node is read with the steps that its parts are read with, and one more. -/
theorem registers_read_succ (h : ReadsRegistered steps) (place : Node.Place) :
    Registers [] (Node.read (steps + 1) place) fun node => [node] := by
  rw [Node.read]
  refine inert_peek.then fun token => ?_
  split
  · exact inert_take.then fun _ => registers_ofAlias _
  · refine inert_properties.then fun (anchor?, tag?) => ?_
    refine inert_peek.then fun token => ?_
    split
    · exact inert_take.then fun _ => registers_scalar _ _ _ _
    · exact inert_take.then fun _ => registers_sequence (h.readItems true) _ _
    · exact inert_take.then fun _ => registers_mapping (h.readPairs true) _ _
    · split
      · exact registers_sequence h.readFlushEntries _ _
      · exact registers_absentAfter _ _
    · split
      · exact registers_absentAfter _ _
      · exact inert_take.then fun _ => registers_sequence h.readEntries _ _
    · split
      · exact registers_absentAfter _ _
      · exact inert_take.then fun _ => registers_mapping h.readBlockPairs _ _
    · exact registers_absentAfter _ _

theorem registers_readUnless_succ (h : ReadsRegistered steps) (stops : List Token) (place : Node.Place) :
    Registers [] (Node.readUnless (steps + 1) stops place) fun node => [node] := by
  rw [Node.readUnless]
  refine (inert_isNext stops).then fun isNext => ?_
  split
  · exact registers_pure_absent
  · exact h.read place

theorem registers_readEntries_succ (h : ReadsRegistered steps) : Registers [] (Node.readEntries (steps + 1)) id := by
  rw [Node.readEntries]
  refine (inert_takeIf .entry).then fun isTaken => ?_
  split
  · refine (h.readUnless _ _).bind fun item => (h.readEntries.mono (List.nil_subset _)).bind fun rest => ?_
    exact registers_pure (cons_subset item rest _)
  · exact (inert_expect _).then fun _ => registers_pure (List.nil_subset _)

theorem registers_readFlushEntries_succ (h : ReadsRegistered steps) :
    Registers [] (Node.readFlushEntries (steps + 1)) id := by
  rw [Node.readFlushEntries]
  refine (inert_takeIf .entry).then fun isTaken => ?_
  split
  · refine (h.readUnless _ _).bind fun item => (h.readFlushEntries.mono (List.nil_subset _)).bind fun rest => ?_
    exact registers_pure (cons_subset item rest _)
  · exact registers_pure (List.nil_subset _)

theorem registers_readValue_succ (h : ReadsRegistered steps) (stops : List Token) (place : Node.Place) :
    Registers [] (Node.readValue (steps + 1) stops place) fun node => [node] := by
  rw [Node.readValue]
  refine (inert_takeIf .value).then fun isTaken => ?_
  split
  · exact h.readUnless stops place
  · exact registers_pure_absent

theorem registers_readBlockPairs_succ (h : ReadsRegistered steps) :
    Registers [] (Node.readBlockPairs (steps + 1)) entryNodes := by
  rw [Node.readBlockPairs]
  refine (inert_takeIf .blockEnd).then fun isTaken => ?_
  split
  · exact registers_pure (List.nil_subset _)
  · refine (inert_takeIf .key).then fun isKey => (inert_isNext _).then fun isValue => ?_
    have hrest (key : Node) : Registers [key] (do
        let value ← Node.readValue steps Node.blockStops .entry
        return (key, value) :: (← Node.readBlockPairs steps)) entryNodes := by
      refine ((h.readValue _ _).mono (List.nil_subset _)).bind fun value => ?_
      refine (h.readBlockPairs.mono (List.nil_subset _)).bind fun rest => registers_pure ?_
      exact entryNodes_cons_subset key value rest []
    dsimp only
    split
    · exact (h.readUnless _ _).bind hrest
    · split
      · exact registers_pure_absent.bind hrest
      · exact (registers_throw _ fun node => [node]).bind hrest

theorem registers_readItems_succ (h : ReadsRegistered steps) (isFirst : Bool) :
    Registers [] (Node.readItems (steps + 1) isFirst) id := by
  have hrest (item : Node) (known : List Node) : Registers ([item] ++ known) (do
      return item :: (← Node.readItems steps false)) id :=
    ((h.readItems false).mono (List.nil_subset _)).bind fun rest => registers_pure (cons_subset item rest known)
  have hitem : Registers [] (do
      if ← Node.takeIf .flowSequenceEnd then return []
      let item ← if ← Node.takeIf .key then do
          let key ← Node.readUnless steps [.value, .comma, .flowSequenceEnd] .flow
          let value ← Node.readValue steps [.comma, .flowSequenceEnd] .flow
          pure (Node.mapping (← Node.freshLabel) .unspecific [(key, value)])
        else Node.read steps .flow
      return item :: (← Node.readItems steps false)) id := by
    refine (inert_takeIf .flowSequenceEnd).then fun isEnd => ?_
    split
    · exact registers_pure (List.nil_subset _)
    · refine (inert_takeIf .key).then fun isKey => ?_
      dsimp only
      split
      · refine (h.readUnless _ _).bind fun key => ?_
        refine ((h.readValue _ _).mono (List.nil_subset _)).bind fun value => ?_
        refine registers_fresh (fun label part hpart => ?_) (fun label other hother => ?_)
          fun label => (registers_pure (List.Subset.refl _)).bind fun item => hrest item _
        · rw [Node.parts] at hpart
          rcases List.mem_cons.mp hpart with hpart | hpart
          · exact .inl hpart
          · obtain ⟨node, hnode, hpart⟩ := mem_partsOfEntries_node hpart
            exact .inr ⟨node, entryNodes_cons_subset key value [] [] hnode, hpart⟩
        · exact (Option.some.inj hother).symm
      · exact (h.read _).bind fun item => hrest item []
  rw [Node.readItems]
  refine (inert_takeIf .flowSequenceEnd).then fun isEnd => ?_
  split
  · exact registers_pure (List.nil_subset _)
  · dsimp only
    split
    · exact (inert_expect _).then fun _ => hitem
    · exact hitem

theorem registers_readPairs_succ (h : ReadsRegistered steps) (isFirst : Bool) :
    Registers [] (Node.readPairs (steps + 1) isFirst) entryNodes := by
  have hrest (key value : Node) : Registers [value, key] (do
      let pair ← pure (key, value)
      return pair :: (← Node.readPairs steps false)) entryNodes := by
    rw [pure_bind]
    refine ((h.readPairs false).mono (List.nil_subset _)).bind fun rest => registers_pure ?_
    exact entryNodes_cons_subset key value rest []
  have hpair : Registers [] (do
      if ← Node.takeIf .flowMappingEnd then return []
      let pair ← if ← Node.takeIf .key then do
          let key ← Node.readUnless steps [.value, .comma, .flowMappingEnd] .flow
          pure (key, ← Node.readValue steps [.comma, .flowMappingEnd] .flow)
        else if ← Node.isNext [.value] then
          pure (Node.absent, ← Node.readValue steps [.comma, .flowMappingEnd] .flow)
        else
          pure (← Node.read steps .flow, Node.absent)
      return pair :: (← Node.readPairs steps false)) entryNodes := by
    refine (inert_takeIf .flowMappingEnd).then fun isEnd => ?_
    split
    · exact registers_pure (List.nil_subset _)
    · refine (inert_takeIf .key).then fun isKey => (inert_isNext _).then fun isValue => ?_
      dsimp only
      split
      · refine (h.readUnless _ _).bind fun key => ?_
        exact ((h.readValue _ _).mono (List.nil_subset _)).bind fun value => hrest key value
      · split
        · refine (h.readValue _ _).bind fun value => registers_absent .unspecific true ?_
          exact (hrest Node.absent value).mono (by simp [Node.absent])
        · refine (h.read _).bind fun key => registers_absent .unspecific true ?_
          exact hrest key Node.absent
  rw [Node.readPairs]
  refine (inert_takeIf .flowMappingEnd).then fun isEnd => ?_
  split
  · exact registers_pure (List.nil_subset _)
  · dsimp only
    split
    · exact (inert_expect _).then fun _ => hpair
    · exact hpair

/-- All of the readers register what they read, by induction on their steps. -/
theorem readsRegistered (steps : Nat) : ReadsRegistered steps := by
  induction steps with
  | zero => exact readsRegistered_zero
  | succ steps ih =>
    exact ⟨registers_read_succ ih, registers_readUnless_succ ih, registers_readEntries_succ ih,
      registers_readFlushEntries_succ ih, registers_readValue_succ ih, registers_readBlockPairs_succ ih,
      registers_readItems_succ ih, registers_readPairs_succ ih⟩

/-- Directives have no nodes. -/
theorem inert_readDirectives (steps : Nat) (hasVersion : Bool) : Inert (Node.readDirectives steps hasVersion) := by
  induction steps generalizing hasVersion with
  | zero => exact inert_throw _
  | succ steps ih =>
    rw [Node.readDirectives]
    refine inert_peek.bind fun token => ?_
    split
    · exact inert_take.bind fun _ => ih _
    · dsimp only
      split
      · exact (inert_throw _).bind fun _ => inert_take.bind fun _ => ih _
      · exact inert_take.bind fun _ => ih _
    · exact inert_pure _

/-- What is read in front of the end of a text. -/
theorem registers_toEnd {step : Node.Step Node} (h : Registers [] step fun node => [node]) :
    Registers [] (do
      let node ← step
      let _ ← Node.takeIf .documentEnd
      Node.expect .textEnd
      return some node) Option.toList :=
  h.bind fun _ => (inert_takeIf _).then fun _ => (inert_expect _).then fun _ => registers_pure (List.Subset.refl _)

/-- The node of a text is registered, if the text has one. -/
theorem registers_readText (steps : Nat) : Registers [] (Node.readText steps) Option.toList := by
  have hread := (readsRegistered steps).read .block
  unfold Node.readText
  refine (inert_takeIf .textEnd).then fun isEnd => ?_
  split
  · exact registers_pure (List.nil_subset _)
  · refine inert_peek.then fun token => ?_
    dsimp only
    split
    case h_3 => exact registers_toEnd hread
    -- a document starts here, with directives or without
    all_goals
      refine (inert_readDirectives steps false).then fun _ => (inert_expect .documentStart).then fun _ => ?_
      refine inert_peek.then fun token => ?_
      split
      · exact registers_toEnd registers_pure_absent
      · split
        · exact registers_toEnd registers_pure_absent
        · exact registers_toEnd hread

end AnchorsAux

open AnchorsAux ConstructionAux PartsAux

/-- Every node that is read is sound. -/
theorem sound_ofTokens? {tokens : List Token} {node : Node} (h : Node.ofTokens? tokens = .ok (some node)) :
    node.Sound := by
  unfold Node.ofTokens? at h
  rw [StateT.run'_eq] at h
  cases hrun : (Node.readText (4 * tokens.length + 8)).run ⟨tokens, [], 0⟩ with
  | error fault =>
    rw [hrun] at h
    exact nomatch h
  | ok result =>
    obtain ⟨read, progress⟩ := result
    rw [hrun] at h
    obtain rfl : read = some node := Except.ok.inj h
    have hfits : Fits (fun _ => none) ⟨tokens, [], 0⟩ := ⟨fun _ _ => rfl, fun _ hnil => absurd hnil List.not_mem_nil⟩
    obtain ⟨registry, -, hregistered⟩ := registers_readText _ _ _ hfits
      (fun _ hnil => absurd hnil List.not_mem_nil) _ _ hrun
    have hnode := hregistered node (List.mem_singleton_self node)
    intro part hpart other hother label hidentity hidentity'
    exact Option.some.inj ((hnode part hpart label hidentity).symm.trans (hnode other hother label hidentity'))

/-- Every document that is read is sound. -/
theorem sound_read {text : String} {document : Document} (h : Yaml.read text = .ok document) : document.Sound := by
  unfold Yaml.read at h
  cases hnode : Node.ofTokens? (tokens text) with
  | error fault =>
    rw [hnode] at h
    exact nomatch h
  | ok node? =>
    rw [hnode] at h
    cases node? with
    | none => exact Except.ok.inj h ▸ sound_ofValue .null
    | some node =>
      have hdocument : node.document = .ok document := h
      unfold Node.document at hdocument
      split at hdocument
      · rename_i document' hread
        exact Except.ok.inj hdocument ▸ sound_documentAt (sound_ofTokens? hnode) hread
      · exact nomatch hdocument

/-- Every document that is loaded is sound, also where the text is malformed. -/
theorem sound_loadText {σ : Type} {text : String} {desk desk' : Desk σ} {document : Document}
    (h : (Yaml.loadText text : Work σ Document).on desk = (.ok document, desk')) : document.Sound := by
  unfold Yaml.loadText at h
  cases hread : Yaml.read text with
  | ok read =>
    rw [hread] at h
    obtain ⟨hdocument, -⟩ := Prod.mk.inj h
    rw [← Except.ok.inj hdocument]
    split
    · exact sound_read hread
    · exact sound_ofValue .empty
  | error fault =>
    rw [hread] at h
    cases fault with
    | malformed =>
      obtain ⟨hdocument, -⟩ := Prod.mk.inj h
      exact Except.ok.inj hdocument ▸ sound_ofValue .empty
    | noValue failure => exact nomatch h

/-- Every document that is loaded from a file is sound, also where there is no such file. -/
theorem sound_loadFile {σ : Type} {files : FileStore} {path : String} {desk desk' : Desk σ} {document : Document}
    (h : (Yaml.loadFile files path : Work σ Document).on desk = (.ok document, desk')) : document.Sound := by
  unfold Yaml.loadFile at h
  split at h
  · exact sound_loadText h
  · obtain ⟨hdocument, -⟩ := Prod.mk.inj h
    exact Except.ok.inj hdocument ▸ sound_ofValue .empty

end RunPicker

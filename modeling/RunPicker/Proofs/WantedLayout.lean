import RunPicker.Proofs.Quoting

/-!
# How wanted parameters stand in a text

A text that lists wanted parameters consists of slots, each with one pair, and of a rest (`WantedLayout`). There is exactly
one sound layout of every text, and the pairs in it are those that are read (`one_layout`): nothing is dropped but the
skipped lines in front of a name and the rest, and neither has an equals sign in it. A row of pairs is read as these pairs
if they are separable, and only separable pairs are ever read (`rows_of_pairs`).
-/

namespace RunPicker

/-- A pair as it stands in a text: lines that are skipped, the name, the value, and whether a comma follows. -/
structure WantedSlot where
  skipped : List Char
  name : List Char
  value : List Char
  isClosed : Bool
deriving DecidableEq, Inhabited, Repr

namespace WantedSlot

/-- The separator behind the value. -/
def separator (slot : WantedSlot) : List Char :=
  if slot.isClosed then [','] else []

/-- The slot as it is written. -/
def source (slot : WantedSlot) : List Char :=
  slot.skipped ++ (slot.name ++ '=' :: (slot.value ++ slot.separator))

/-- The pair in the slot. -/
def pair (slot : WantedSlot) : String × String :=
  (String.ofList slot.name, String.ofList slot.value)

/-- The parts of the slot are what they should be: whole lines without an equals sign, a name on one line without an
equals sign, and a value without a comma. -/
structure Fits (slot : WantedSlot) : Prop where
  skipped_equals : '=' ∉ slot.skipped
  skipped_lines : slot.skipped = [] ∨ slot.skipped.getLast? = some '\n'
  name_equals : '=' ∉ slot.name
  name_line : '\n' ∉ slot.name
  value_comma : ',' ∉ slot.value

end WantedSlot

/-- A way in which pairs stand in a text: slots, and the rest behind them. -/
structure WantedLayout where
  slots : List WantedSlot
  rest : List Char
deriving DecidableEq, Inhabited, Repr

namespace WantedLayout

/-- The text of a layout. -/
def source (layout : WantedLayout) : List Char :=
  layout.slots.flatMap WantedSlot.source ++ layout.rest

/-- The pairs in a layout. -/
def pairs (layout : WantedLayout) : List (String × String) :=
  layout.slots.map WantedSlot.pair

/-- All slots fit. Every value is followed by a comma, except that the last may end the text. There is no equals sign in
the rest. -/
structure Sound (layout : WantedLayout) : Prop where
  fits : ∀ slot ∈ layout.slots, slot.Fits
  closed : ∀ slot ∈ layout.slots.dropLast, slot.isClosed = true
  ending : ∀ slot ∈ layout.slots.getLast?, slot.isClosed = true ∨ layout.rest = []
  rest_equals : '=' ∉ layout.rest

end WantedLayout

/-- Pairs that can be told apart in a row. -/
structure Separable (pairs : List (String × String)) : Prop where
  names : ∀ pair ∈ pairs, '=' ∉ pair.1.toList ∧ '\n' ∉ pair.1.toList
  values : ∀ pair ∈ pairs, ',' ∉ pair.2.toList

/-- The row of some pairs: names and values with equals signs between, and commas between the pairs. -/
def wantedRow (pairs : List (String × String)) : String :=
  ",".intercalate (pairs.map fun pair => pair.1 ++ "=" ++ pair.2)

namespace WantedLayoutAux

open QuotingAux

/-! ## Names and values -/

/-- Whole lines without an equals sign are skipped, with the characters read before them. -/
theorem wantedName?_lines {skipped : List Char} (hequals : '=' ∉ skipped) (hlast : skipped.getLast? = some '\n')
    (before back : List Char) : wantedName? before (skipped ++ back) = wantedName? [] back := by
  induction skipped generalizing before with
  | nil => contradiction
  | cons c skipped ih =>
    obtain ⟨hc, hequals⟩ := not_or.mp (mt List.mem_cons.mpr hequals)
    rw [List.cons_append]
    cases skipped with
    | nil =>
      obtain rfl : c = '\n' := Option.some.inj hlast
      rw [List.nil_append, wantedName?]
    | cons next others =>
      rw [List.getLast?_cons_cons] at hlast
      by_cases hline : c = '\n'
      · rw [hline, wantedName?, ih hequals hlast]
      · rw [wantedName?, ih hequals hlast]
        · exact fun h => hc h.symm
        · exact hline

/-- The name in a slot is the one that is read. -/
theorem wantedName?_slot {slot : WantedSlot} (h : slot.Fits) (back : List Char) :
    wantedName? [] (slot.skipped ++ (slot.name ++ '=' :: back)) = some (slot.name, back) := by
  have hname := wantedName?_append h.name_equals h.name_line [] back
  rw [List.reverse_nil, List.nil_append] at hname
  rcases h.skipped_lines with hnone | hlast
  · rw [hnone, List.nil_append, hname]
  · rw [wantedName?_lines h.skipped_equals hlast, hname]

/-- No name is read only where there is no equals sign. -/
theorem wantedName?_eq_none_iff (before cs : List Char) : wantedName? before cs = none ↔ '=' ∉ cs := by
  induction cs generalizing before with
  | nil => simp [wantedName?]
  | cons c cs ih =>
    unfold wantedName?
    split
    · contradiction
    · rename_i heq
      obtain ⟨rfl, rfl⟩ := List.cons.inj heq
      simp
    · rename_i heq
      obtain ⟨rfl, rfl⟩ := List.cons.inj heq
      simp [ih]
    · rename_i hequals _ heq
      obtain ⟨rfl, rfl⟩ := List.cons.inj heq
      have hc : '=' ≠ c := fun h => hequals h.symm
      simp [ih, hc]

/-- A name that is read stands on its own line, and whole lines without an equals sign stand in front of it. `before`
holds what was read of its line so far. -/
theorem exists_skipped {before cs name back : List Char} (h : wantedName? before cs = some (name, back))
    (hequals : '=' ∉ before) (hline : '\n' ∉ before) :
    ∃ skipped, before.reverse ++ cs = skipped ++ (name ++ '=' :: back) ∧ '=' ∉ skipped ∧
      (skipped = [] ∨ skipped.getLast? = some '\n') ∧ '=' ∉ name ∧ '\n' ∉ name := by
  induction cs generalizing before with
  | nil => simp [wantedName?] at h
  | cons c cs ih =>
    unfold wantedName? at h
    split at h
    · contradiction
    · rename_i heq
      obtain ⟨rfl, rfl⟩ := List.cons.inj heq
      obtain ⟨rfl, rfl⟩ := Prod.mk.inj (Option.some.inj h)
      exact ⟨[], rfl, List.not_mem_nil, Or.inl rfl, by simpa using hequals, by simpa using hline⟩
    · rename_i heq
      obtain ⟨rfl, rfl⟩ := List.cons.inj heq
      obtain ⟨skipped, hsource, hskipped, hlast, hname⟩ := ih h List.not_mem_nil List.not_mem_nil
      rw [List.reverse_nil, List.nil_append] at hsource
      refine ⟨before.reverse ++ '\n' :: skipped, by rw [hsource]; simp, ?_, Or.inr ?_, hname⟩
      · simp [hequals, hskipped]
      · rcases hlast with rfl | hlast
        · simp
        · simp [List.getLast?_cons, hlast]
    · rename_i hequals' hline' heq
      obtain ⟨rfl, rfl⟩ := List.cons.inj heq
      have hreverse : before.reverse ++ c :: cs = (c :: before).reverse ++ cs := by simp
      rw [hreverse]
      exact ih h (by simpa [hequals] using fun hc => hequals' hc.symm) (by simpa [hline] using fun hc => hline' hc.symm)

/-- The value in a slot is the one that is read, and the text goes on behind its separator. -/
theorem wantedValue_slot {slot : WantedSlot} (h : slot.Fits) {back : List Char}
    (hend : slot.isClosed = true ∨ back = []) :
    wantedValue (slot.value ++ (slot.separator ++ back)) = (slot.value, back) := by
  rw [wantedValue_append h.value_comma, WantedSlot.separator]
  cases hclosed : slot.isClosed with
  | true =>
    rw [if_pos rfl, List.singleton_append, wantedValue_comma, List.append_nil]
  | false =>
    rw [hclosed] at hend
    obtain rfl : back = [] := hend.resolve_left Bool.false_ne_true
    simp [wantedValue]

/-- A value that is read goes up to a comma, or to the end of the text. -/
theorem wantedValue_cases (cs : List Char) :
    ',' ∉ (wantedValue cs).1 ∧
      (cs = (wantedValue cs).1 ++ ',' :: (wantedValue cs).2 ∨ cs = (wantedValue cs).1 ∧ (wantedValue cs).2 = []) := by
  induction cs with
  | nil => simp [wantedValue]
  | cons c cs ih =>
    by_cases hc : c = ','
    · rw [hc, wantedValue_comma]
      simp
    · have hstep : wantedValue (c :: cs) = (c :: (wantedValue cs).1, (wantedValue cs).2) := by
        simp [wantedValue, hc]
      rw [hstep]
      obtain ⟨hcomma, hback⟩ := ih
      refine ⟨by simpa [hcomma] using Ne.symm hc, ?_⟩
      rcases hback with hback | ⟨hback, hnone⟩
      · exact Or.inl (by rw [List.cons_append, ← hback])
      · exact Or.inr ⟨by rw [← hback], hnone⟩

/-! ## Layouts -/

section

variable {slot : WantedSlot} {slots : List WantedSlot} {rest : List Char}

/-- A slot is written in front of the rest: what is skipped, the name, the value and its separator. -/
theorem source_cons : WantedLayout.source ⟨slot :: slots, rest⟩ =
    slot.skipped ++ (slot.name ++ '=' :: (slot.value ++ (slot.separator ++ WantedLayout.source ⟨slots, rest⟩))) := by
  simp [WantedLayout.source, WantedSlot.source]

/-- A layout is sound if its first slot fits, is closed unless nothing follows, and the rest is sound. -/
theorem sound_cons_iff : WantedLayout.Sound ⟨slot :: slots, rest⟩ ↔
    slot.Fits ∧ (slot.isClosed = true ∨ WantedLayout.source ⟨slots, rest⟩ = []) ∧
      WantedLayout.Sound ⟨slots, rest⟩ := by
  have hsource (next : WantedSlot) (others : List WantedSlot) :
      WantedLayout.source ⟨next :: others, rest⟩ ≠ [] := by
    rw [source_cons]
    simp
  constructor
  · rintro ⟨hfits, hclosed, hending, hrest⟩
    obtain ⟨hslot, hslots⟩ := List.forall_mem_cons.mp hfits
    cases slots with
    | nil => exact ⟨hslot, hending slot rfl, hslots, nofun, nofun, hrest⟩
    | cons next others =>
      obtain ⟨hfirst, hclosed⟩ := List.forall_mem_cons.mp hclosed
      exact ⟨hslot, Or.inl hfirst, hslots, hclosed, hending, hrest⟩
  · rintro ⟨hslot, hend, hfits, hclosed, hending, hrest⟩
    refine ⟨List.forall_mem_cons.mpr ⟨hslot, hfits⟩, ?_, ?_, hrest⟩
    · cases slots with
      | nil => exact nofun
      | cons next others =>
        exact List.forall_mem_cons.mpr ⟨hend.resolve_right (hsource next others), hclosed⟩
    · cases slots with
      | nil => exact fun _ hlast => Option.some.inj hlast ▸ hend
      | cons next others => exact hending

/-- A slot has an equals sign in it. -/
theorem equals_mem_source_cons : '=' ∈ WantedLayout.source ⟨slot :: slots, rest⟩ := by
  rw [source_cons]
  simp

end

/-- A text has one sound layout at most. -/
theorem eq_of_source_eq {layout other : WantedLayout} (h : layout.Sound) (h' : other.Sound)
    (hsource : layout.source = other.source) : layout = other := by
  obtain ⟨slots, rest⟩ := layout
  obtain ⟨slots', rest'⟩ := other
  induction slots generalizing slots' with
  | nil =>
    cases slots' with
    | nil => exact congrArg (WantedLayout.mk []) hsource
    | cons slot' slots' =>
      have hmem : '=' ∈ WantedLayout.source ⟨[], rest⟩ := by
        rw [hsource]
        exact equals_mem_source_cons
      exact absurd hmem h.rest_equals
  | cons slot slots ih =>
    cases slots' with
    | nil =>
      have hmem : '=' ∈ WantedLayout.source ⟨[], rest'⟩ := by
        rw [← hsource]
        exact equals_mem_source_cons
      exact absurd hmem h'.rest_equals
    | cons slot' slots' =>
      obtain ⟨hfits, hend, hrest⟩ := sound_cons_iff.mp h
      obtain ⟨hfits', hend', hrest'⟩ := sound_cons_iff.mp h'
      rw [source_cons, source_cons] at hsource
      have hnames := wantedName?_slot hfits (slot.value ++ (slot.separator ++ WantedLayout.source ⟨slots, rest⟩))
      rw [hsource, wantedName?_slot hfits'] at hnames
      obtain ⟨hname, hback⟩ := Prod.mk.inj (Option.some.inj hnames)
      have hskipped : slot.skipped = slot'.skipped := by
        rw [hname, hback] at hsource
        exact List.append_cancel_right hsource
      have hvalues := wantedValue_slot hfits hend
      rw [← hback, wantedValue_slot hfits' hend'] at hvalues
      obtain ⟨hvalue, htail⟩ := Prod.mk.inj hvalues
      have hclosed : slot.isClosed = slot'.isClosed := by
        rw [hvalue, htail] at hback
        have hseparator := List.append_cancel_right (List.append_cancel_left hback)
        revert hseparator
        unfold WantedSlot.separator
        cases slot.isClosed <;> cases slot'.isClosed <;> simp
      obtain rfl : slot = slot' := by
        cases slot
        cases slot'
        rw [WantedSlot.mk.injEq]
        exact ⟨hskipped, hname.symm, hvalue.symm, hclosed⟩
      obtain ⟨rfl, rfl⟩ := WantedLayout.mk.inj (ih hrest slots' hrest' htail.symm)
      rfl

/-- A text has a sound layout, in which the pairs stand that are read. -/
theorem exists_layout (cs : List Char) : ∃ layout : WantedLayout, layout.Sound ∧ layout.source = cs ∧
    wantedChars cs = layout.slots.map fun slot => (slot.name, slot.value) := by
  induction cs using wantedChars.induct with
  | case1 cs hnone =>
    refine ⟨⟨[], cs⟩, ⟨nofun, nofun, nofun, (wantedName?_eq_none_iff [] cs).mp hnone⟩, rfl, ?_⟩
    rw [wantedChars, hnone]
    rfl
  | case2 cs name back hname ih =>
    obtain ⟨skipped, hcs, hskipped, hlines, hequals, hline⟩ := exists_skipped hname List.not_mem_nil List.not_mem_nil
    obtain ⟨⟨slots, rest⟩, hsound, hsource, hpairs⟩ := ih
    obtain ⟨hcomma, hback⟩ := wantedValue_cases back
    rw [wantedChars_of_name hname]
    rcases hback with hback | ⟨hback, hnone⟩
    · refine ⟨⟨⟨skipped, name, (wantedValue back).1, true⟩ :: slots, rest⟩,
        sound_cons_iff.mpr ⟨⟨hskipped, hlines, hequals, hline, hcomma⟩, Or.inl rfl, hsound⟩, ?_, ?_⟩
      · rw [source_cons, hsource, WantedSlot.separator, if_pos rfl, List.singleton_append, ← hback]
        exact hcs.symm
      · rw [hpairs]
        rfl
    · rw [hnone] at hsource hpairs
      refine ⟨⟨⟨skipped, name, (wantedValue back).1, false⟩ :: slots, rest⟩,
        sound_cons_iff.mpr ⟨⟨hskipped, hlines, hequals, hline, hcomma⟩, Or.inr hsource, hsound⟩, ?_, ?_⟩
      · rw [source_cons, hsource, WantedSlot.separator, if_neg Bool.false_ne_true, List.append_nil, List.append_nil,
          ← hback]
        exact hcs.symm
      · rw [hnone, hpairs]
        rfl

/-- The equals signs of a text with a sound layout are those behind the names and those in the values. -/
theorem count_equals_source {layout : WantedLayout} (h : layout.Sound) :
    layout.source.count '=' =
      layout.slots.length + (layout.slots.flatMap WantedSlot.value).count '=' := by
  obtain ⟨slots, rest⟩ := layout
  induction slots with
  | nil => simpa [WantedLayout.source] using List.count_eq_zero.mpr h.rest_equals
  | cons slot slots ih =>
    obtain ⟨hfits, -, hrest⟩ := sound_cons_iff.mp h
    have hskipped := List.count_eq_zero.mpr hfits.skipped_equals
    have hname := List.count_eq_zero.mpr hfits.name_equals
    have hseparator : slot.separator.count '=' = 0 := by
      unfold WantedSlot.separator
      cases slot.isClosed <;> rfl
    have hothers := ih hrest
    simp only at hothers
    rw [source_cons]
    simp only [List.count_append, List.count_cons_self, hskipped, hname, hseparator, List.length_cons, List.flatMap_cons]
    omega

/-! ## Rows -/

/-- A layout and its pairs as they are read. -/
theorem exists_layout_of_text (text : String) :
    ∃ layout : WantedLayout, layout.Sound ∧ layout.source = text.toList ∧ layout.pairs = wantedPairs text := by
  obtain ⟨layout, hsound, hsource, hpairs⟩ := exists_layout text.toList
  refine ⟨layout, hsound, hsource, ?_⟩
  rw [wantedPairs, hpairs, List.map_map]
  rfl

/-- The pairs that are read of a text are separable. -/
theorem separable_wantedPairs (text : String) : Separable (wantedPairs text) := by
  obtain ⟨layout, hsound, -, hpairs⟩ := exists_layout_of_text text
  rw [← hpairs]
  constructor
  · intro pair hpair
    obtain ⟨slot, hslot, rfl⟩ := List.mem_map.mp hpair
    have hfits := hsound.fits slot hslot
    simpa [WantedSlot.pair] using And.intro hfits.name_equals hfits.name_line
  · intro pair hpair
    obtain ⟨slot, hslot, rfl⟩ := List.mem_map.mp hpair
    simpa [WantedSlot.pair] using (hsound.fits slot hslot).value_comma

/-- The characters of a row of pairs. -/
theorem toList_wantedRow (pairs : List (String × String)) : (wantedRow pairs).toList = rowChars pairs := by
  induction pairs using rowChars.induct with
  | case1 => rfl
  | case2 pair => simp [wantedRow, rowChars]
  | case3 pair rest hrest ih =>
    obtain ⟨next, others, rfl⟩ := List.exists_cons_of_ne_nil hrest
    rw [rowChars, ← ih]
    · simp [wantedRow, String.toList_intercalate]
    · exact hrest

/-- A row of separable pairs is read as the pairs. -/
theorem wantedPairs_of_separable {pairs : List (String × String)} (h : Separable pairs) :
    wantedPairs (wantedRow pairs) = pairs := by
  rw [← String.ofList_toList (s := wantedRow pairs), toList_wantedRow]
  exact wantedPairs_rowChars h.names h.values

end WantedLayoutAux

open WantedLayoutAux

/-- Every text has exactly one sound layout, and the pairs in it are those that are read, in their order. Every equals
sign of the text stands in one of the values that are read, or ends one of the names. -/
theorem one_layout (text : String) :
    ∃ layout : WantedLayout, layout.pairs = wantedPairs text ∧
      (∀ other : WantedLayout, other.Sound ∧ other.source = text.toList ↔ other = layout) ∧
      text.toList.count '=' =
        (wantedPairs text).length + ((wantedPairs text).flatMap fun pair => pair.2.toList).count '=' := by
  obtain ⟨layout, hsound, hsource, hpairs⟩ := exists_layout_of_text text
  refine ⟨layout, hpairs, fun other => ⟨?_, ?_⟩, ?_⟩
  · rintro ⟨hother, hother'⟩
    exact eq_of_source_eq hother hsound (hother'.trans hsource.symm)
  · rintro rfl
    exact ⟨hsound, hsource⟩
  · rw [← hsource, ← hpairs, count_equals_source hsound, WantedLayout.pairs, List.length_map, List.flatMap_map]
    simp only [WantedSlot.pair, String.toList_ofList]

-- `drop` and the line feed after it are skipped, and so is the rest
example : wantedPairs "A=1,drop\nb,c==2\n,end" = [("A", "1"), ("b,c", "=2\n")] := by decide +kernel

/-- Rows of pairs.
(1) A row of pairs is read as these pairs exactly if no name has an equals sign or a line feed in it, and no value a comma.
(2) Exactly the lists of such pairs are read of any text.
(3) The row of the pairs that are read of a text is read as the same pairs. -/
theorem rows_of_pairs :
    (∀ pairs, wantedPairs (wantedRow pairs) = pairs ↔ Separable pairs) ∧
    (∀ pairs, (∃ text, wantedPairs text = pairs) ↔ Separable pairs) ∧
    ∀ text, wantedPairs (wantedRow (wantedPairs text)) = wantedPairs text := by
  refine ⟨fun pairs => ⟨?_, wantedPairs_of_separable⟩, fun pairs => ⟨?_, ?_⟩, fun text => ?_⟩
  · intro h
    rw [← h]
    exact separable_wantedPairs _
  · rintro ⟨text, rfl⟩
    exact separable_wantedPairs text
  · intro h
    exact ⟨wantedRow pairs, wantedPairs_of_separable h⟩
  · exact wantedPairs_of_separable (separable_wantedPairs text)

end RunPicker

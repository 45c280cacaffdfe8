import RunPicker.Context
import RunPicker.Proofs.WantedLayout

/-!
# Pairs of expanded texts

A text that lists wanted parameters may have references in it, and it is expanded before its pairs are read. That comes to
the same as reading the pairs and expanding each name and each value (`expanded_pairs`), provided that no value of a
variable has a separator in it. A separator is no part of a reference, so that the texts in front of it and behind it are
expanded apart (`expandChars_append_separator`). Thus the layout of the expanded text is the layout of the text with
every part of it expanded (`expandChars_source`).
-/

namespace RunPicker

/-- Does the character end a name, a value, or a line? -/
def isWantedSeparator (c : Char) : Bool :=
  c == ',' || c == '=' || c == '\n'

/-- No value of a variable has a separator of wanted parameters in it. -/
def Environment.IsUnseparated (vars : Environment) : Prop :=
  ∀ entry ∈ vars, ∀ c ∈ entry.2.toList, isWantedSeparator c = false

instance (vars : Environment) : Decidable vars.IsUnseparated :=
  decidable_of_iff (vars.all fun entry => entry.2.toList.all fun c => !isWantedSeparator c) (by
    simp [Environment.IsUnseparated])

/-- The slot with its parts expanded. -/
def WantedSlot.expanded (vars : Environment) (slot : WantedSlot) : WantedSlot :=
  ⟨vars.expandChars slot.skipped, vars.expandChars slot.name, vars.expandChars slot.value, slot.isClosed⟩

/-- The layout with the parts of its slots and its rest expanded. -/
def WantedLayout.expanded (vars : Environment) (layout : WantedLayout) : WantedLayout :=
  ⟨layout.slots.map (WantedSlot.expanded vars), vars.expandChars layout.rest⟩

namespace ExpandedPairsAux

open QuotingAux WantedLayoutAux

/-! ## Pieces -/

theorem drop_length_takeWhile (p : Char → Bool) (cs : List Char) :
    cs.drop (cs.takeWhile p).length = cs.dropWhile p := by
  induction cs with
  | nil => rfl
  | cons c cs ih =>
    rw [List.takeWhile_cons, List.dropWhile_cons]
    split
    · exact ih
    · rfl

/-- The piece at the front of a text is written there. -/
theorem source_firstPiece_append (c : Char) (cs : List Char) :
    (firstPiece c cs).source ++ cs.drop ((firstPiece c cs).source.length - 1) = c :: cs := by
  unfold firstPiece
  split
  · rename_i hdollar
    obtain rfl := eq_of_beq hdollar
    cases cs with
    | nil => rfl
    | cons d cs =>
      rw [pieceAfterDollar?]
      split
      · -- a name without braces
        simp [Piece.source, drop_length_takeWhile]
      · split
        · -- a name between braces, unless the closing brace is missing
          rename_i hbrace
          obtain rfl := eq_of_beq hbrace
          dsimp only
          split
          · rfl
          · rename_i hname
            simp only [Bool.or_eq_true, bne_iff_ne, not_or, not_not] at hname
            obtain ⟨closing, hclosing⟩ := List.head?_eq_some_iff.mp hname.2
            have hcs : cs = cs.takeWhile isBracedNameChar ++ '\x7d' :: closing := by
              rw [← hclosing, List.takeWhile_append_dropWhile]
            generalize cs.takeWhile isBracedNameChar = name at hcs
            simp [Piece.source, hcs, List.drop_append]
        · split
          · rename_i hsecond
            obtain rfl := eq_of_beq hsecond
            rfl
          · rfl
  · rfl

theorem length_source_firstPiece_le (c : Char) (cs : List Char) :
    (firstPiece c cs).source.length - 1 ≤ cs.length := by
  have hlength := congrArg List.length (source_firstPiece_append c cs)
  rw [List.length_append, List.length_cons] at hlength
  omega

/-- A name in front of a separator ends there, or earlier. -/
theorem takeWhile_append_separator {p : Char → Bool} {c : Char} (hc : p c = false) (front back : List Char) :
    (front ++ c :: back).takeWhile p = front.takeWhile p := by
  induction front with
  | nil => simp [hc]
  | cons d front ih =>
    rw [List.cons_append, List.takeWhile_cons, List.takeWhile_cons, ih]

theorem dropWhile_append_separator {p : Char → Bool} {c : Char} (hc : p c = false) (front back : List Char) :
    (front ++ c :: back).dropWhile p = front.dropWhile p ++ c :: back := by
  induction front with
  | nil => simp [hc]
  | cons d front ih =>
    rw [List.cons_append, List.dropWhile_cons, List.dropWhile_cons, ih]
    split <;> rfl

/-- What stands behind a separator does not matter for the piece at the front. -/
theorem firstPiece_append_separator {c : Char} (hc : isWantedSeparator c = true) (d : Char) (front back : List Char) :
    firstPiece d (front ++ c :: back) = firstPiece d front := by
  have hkinds : isNameChar c = false ∧ isBracedNameChar c = false ∧ c ≠ '\x7b' ∧ c ≠ '\x7d' ∧ c ≠ '$' := by
    simp only [isWantedSeparator, Bool.or_eq_true, beq_iff_eq] at hc
    rcases hc with (rfl | rfl) | rfl <;> decide
  obtain ⟨hname, hbraced, hopening, hclosing, hdollar⟩ := hkinds
  unfold firstPiece
  cases front with
  | nil =>
    have hnone : pieceAfterDollar? (c :: back) = none := by
      simp [pieceAfterDollar?, hname, hopening, hdollar]
    rw [List.nil_append, hnone]
    rfl
  | cons e front =>
    have hhead : ((front ++ c :: back).dropWhile isBracedNameChar).head? ≠ some '\x7d' ↔
        (front.dropWhile isBracedNameChar).head? ≠ some '\x7d' := by
      rw [dropWhile_append_separator hbraced]
      cases front.dropWhile isBracedNameChar with
      | nil => simp [hclosing]
      | cons f rest => rfl
    have hsame : pieceAfterDollar? (e :: (front ++ c :: back)) = pieceAfterDollar? (e :: front) := by
      simp only [pieceAfterDollar?, takeWhile_append_separator hname, takeWhile_append_separator hbraced,
        Bool.or_eq_true, bne_iff_ne, hhead]
    rw [List.cons_append, hsame]

/-! ## Expanded texts -/

section

variable (vars : Environment)

theorem ne_dollar_of_separator {c : Char} (hc : isWantedSeparator c = true) : c ≠ '$' := by
  rintro rfl
  exact absurd hc (by decide)

/-- A separator stays, and what stands in front of it and behind it is expanded apart. -/
theorem expandChars_append_separator {c : Char} (hc : isWantedSeparator c = true) (front back : List Char) :
    vars.expandChars (front ++ c :: back) = vars.expandChars front ++ c :: vars.expandChars back := by
  induction front using pieces.induct with
  | case1 => rw [List.nil_append, expandChars_cons_of_ne (ne_dollar_of_separator hc), expandChars_nil, List.nil_append]
  | case2 d front ih =>
    rw [List.cons_append, expandChars_cons, firstPiece_append_separator hc,
      List.drop_append_of_le_length (length_source_firstPiece_le d front), ih, expandChars_cons vars d front,
      List.append_assoc]

/-- Skipped lines are expanded apart from what stands behind them. -/
theorem expandChars_append_lines {skipped : List Char} (h : skipped = [] ∨ skipped.getLast? = some '\n')
    (back : List Char) : vars.expandChars (skipped ++ back) = vars.expandChars skipped ++ vars.expandChars back := by
  rcases h with rfl | h
  · rw [expandChars_nil]
    rfl
  · obtain ⟨lines, rfl⟩ := List.getLast?_eq_some_iff.mp h
    rw [expandChars_append_separator vars rfl, expandChars_nil, List.append_assoc, List.singleton_append,
      expandChars_append_separator vars rfl, List.append_assoc]
    rfl

variable {vars}

/-- A separator in the value of a piece is the piece itself, unless it comes from the value of a variable. -/
theorem mem_source_of_mem_valueOf (h : vars.IsUnseparated) {c : Char} (hc : isWantedSeparator c = true)
    {piece : Piece} (hmem : c ∈ vars.valueOf piece) : c ∈ piece.source := by
  cases piece with
  | plain d => exact hmem
  | dollar => exact absurd (List.mem_singleton.mp hmem) (ne_dollar_of_separator hc)
  | reference name braced =>
    rw [Environment.valueOf] at hmem
    split at hmem
    · rename_i value hvalue
      have hunseparated := h _ (EntriesAux.mem_of_named? hvalue) c hmem
      rw [hc] at hunseparated
      contradiction
    · exact hmem

/-- An expanded text has no separators but those of the text. -/
theorem mem_of_mem_expandChars (h : vars.IsUnseparated) {c : Char} (hc : isWantedSeparator c = true) {cs : List Char}
    (hmem : c ∈ vars.expandChars cs) : c ∈ cs := by
  induction cs using pieces.induct with
  | case1 =>
    rw [expandChars_nil] at hmem
    exact hmem
  | case2 d cs ih =>
    rw [expandChars_cons] at hmem
    rcases List.mem_append.mp hmem with hmem | hmem
    · rw [← source_firstPiece_append d cs]
      exact List.mem_append_left _ (mem_source_of_mem_valueOf h hc hmem)
    · exact List.mem_cons_of_mem _ (List.mem_of_mem_drop (ih hmem))

end

/-! ## Expanded layouts -/

variable {vars : Environment}

/-- A text is expanded as its layout is. -/
theorem expandChars_source (vars : Environment) {layout : WantedLayout} (h : layout.Sound) :
    vars.expandChars layout.source = (layout.expanded vars).source := by
  obtain ⟨slots, rest⟩ := layout
  induction slots with
  | nil => rfl
  | cons slot slots ih =>
    obtain ⟨hfits, hend, hrest⟩ := sound_cons_iff.mp h
    have hslot : vars.expandChars (slot.value ++ (slot.separator ++ WantedLayout.source ⟨slots, rest⟩)) =
        vars.expandChars slot.value ++
          (slot.separator ++ WantedLayout.source (WantedLayout.expanded vars ⟨slots, rest⟩)) := by
      rw [← ih hrest, WantedSlot.separator]
      cases hclosed : slot.isClosed with
      | true => exact expandChars_append_separator vars rfl ..
      | false =>
        -- nothing comes behind a value that no comma follows
        rw [hclosed] at hend
        have hnone := hend.resolve_left Bool.false_ne_true
        rw [hnone, expandChars_nil, if_neg Bool.false_ne_true, List.append_nil, List.append_nil, List.append_nil]
    have hexpanded : WantedLayout.expanded vars ⟨slot :: slots, rest⟩ =
        ⟨slot.expanded vars :: slots.map (WantedSlot.expanded vars), vars.expandChars rest⟩ := rfl
    rw [source_cons, expandChars_append_lines vars hfits.skipped_lines, expandChars_append_separator vars rfl, hslot,
      hexpanded, source_cons]
    rfl

/-- The parts of a slot are what they should be when they are expanded too. -/
theorem fits_expanded (h : vars.IsUnseparated) {slot : WantedSlot} (hfits : slot.Fits) :
    (slot.expanded vars).Fits where
  skipped_equals := mt (mem_of_mem_expandChars h rfl) hfits.skipped_equals
  skipped_lines := by
    rw [WantedSlot.expanded]
    refine hfits.skipped_lines.imp (fun hnone => ?_) fun hlast => ?_
    · rw [hnone, expandChars_nil]
    · obtain ⟨lines, hlines⟩ := List.getLast?_eq_some_iff.mp hlast
      rw [hlines, expandChars_append_separator vars rfl, expandChars_nil, List.getLast?_concat]
  name_equals := mt (mem_of_mem_expandChars h rfl) hfits.name_equals
  name_line := mt (mem_of_mem_expandChars h rfl) hfits.name_line
  value_comma := mt (mem_of_mem_expandChars h rfl) hfits.value_comma

/-- A sound layout is sound when it is expanded too. -/
theorem sound_expanded (h : vars.IsUnseparated) {layout : WantedLayout} (hsound : layout.Sound) :
    (layout.expanded vars).Sound := by
  obtain ⟨slots, rest⟩ := layout
  induction slots with
  | nil => exact ⟨nofun, nofun, nofun, mt (mem_of_mem_expandChars h rfl) hsound.rest_equals⟩
  | cons slot slots ih =>
    obtain ⟨hfits, hend, hrest⟩ := sound_cons_iff.mp hsound
    refine sound_cons_iff.mpr ⟨fits_expanded h hfits, hend.imp_right fun hnone => ?_, ih hrest⟩
    exact (expandChars_source vars hrest).symm.trans (by rw [hnone, expandChars_nil])

/-- The pairs that are read of a text are those of its layout. -/
theorem wantedChars_source {layout : WantedLayout} (h : layout.Sound) :
    wantedChars layout.source = layout.slots.map fun slot => (slot.name, slot.value) := by
  obtain ⟨other, hother, hsource, hpairs⟩ := exists_layout layout.source
  rw [hpairs, eq_of_source_eq hother h hsource]

/-- Of an expanded text the pairs are read that are read of the text, with their names and values expanded. -/
theorem wantedChars_expandChars (h : vars.IsUnseparated) (cs : List Char) :
    wantedChars (vars.expandChars cs) =
      (wantedChars cs).map fun pair => (vars.expandChars pair.1, vars.expandChars pair.2) := by
  obtain ⟨layout, hsound, rfl, hpairs⟩ := exists_layout cs
  rw [expandChars_source vars hsound, wantedChars_source (sound_expanded h hsound), hpairs, WantedLayout.expanded,
    List.map_map, List.map_map]
  rfl

end ExpandedPairsAux

open ExpandedPairsAux

/-- The pairs of an expanded text are the expanded pairs of the text, for every text and every context in which no
variable has a comma, an equals sign or a line feed in its value. -/
theorem expanded_pairs {context : Context} (h : context.vars.IsUnseparated) (text : String) :
    wantedPairs (context.expand text) =
      (wantedPairs text).map fun pair => (context.expand pair.1, context.expand pair.2) := by
  rw [Context.expand, Environment.expand, wantedPairs, String.toList_ofList, wantedChars_expandChars h, wantedPairs,
    List.map_map, List.map_map]
  refine List.map_congr_left fun pair _ => ?_
  simp only [Function.comp_apply, Context.expand, Environment.expand, String.toList_ofList]

/-- References that are undefined, malformed, escaped, cut by a separator, or in what is dropped. -/
theorem expanded_pairs_of_malformed :
    let context : Context := .fresh [(.text "A", "x$B"), (.text "B", "\x7by\x7d")]
    let text := "$A\n$\x7bA,$$A=$\x7bB=\x7d$,drop$\n$U$\x7bA.b\x7d$B=$$$A$,$B,$"
    context.vars.IsUnseparated ∧
      wantedPairs (context.expand text) =
        (wantedPairs text).map (fun pair => (context.expand pair.1, context.expand pair.2)) ∧
      wantedPairs (context.expand text) =
        [("$\x7bA,$A", "$\x7bB=\x7d$"), ("$U$\x7bA.b\x7d\x7by\x7d", "$x$B$")] := by
  intro context text
  have hvars : context.vars.IsUnseparated := by decide +kernel
  have hpairs := expanded_pairs hvars text
  exact ⟨hvars, hpairs, hpairs.trans (by decide +kernel)⟩

/-- A comma in a value does make another pair. -/
example : wantedPairs ((Context.fresh [(.text "A", "1,B=2")]).expand "A=$A") = [("A", "1"), ("B", "2")] := by
  decide +kernel

end RunPicker

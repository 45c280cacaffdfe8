import RunPicker.Proofs.Lines
import RunPicker.Proofs.Parts
import RunPicker.Yaml.Printing

/-!
# Pages

What is written on a page stays there: whatever is written of a document later, the text so far is the front of the text
(`PagesAux.staysOn_putPart`). Every entry of a mapping is written with a colon, so a mapping with entries is not printed
as nothing (`printIndented_ne_empty`).
-/

namespace RunPicker.Yaml

/-- The text of the page is the front of the text of the later one. -/
def Page.StaysOn (page later : Page) : Prop :=
  page.text.toList <+: later.text.toList

/-- A page stays on itself. -/
theorem Page.StaysOn.refl (page : Page) : page.StaysOn page :=
  List.prefix_refl _

/-- What stays on a page stays on all later ones. -/
theorem Page.StaysOn.trans {page later latest : Page} (h : page.StaysOn later) (h' : later.StaysOn latest) :
    page.StaysOn latest :=
  List.IsPrefix.trans h h'

namespace PagesAux

open Page Writing

/-! ## Pages -/

/-- Putting characters on a page adds them at its end. -/
theorem staysOn_put (cs : List Char) (page : Page) : page.StaysOn (page.put cs) := by
  rw [StaysOn, Page.put, String.toList_append]
  exact List.prefix_append _ _

/-- Breaking a line adds to the page. -/
theorem staysOn_breakLine (c : Char) (page : Page) : page.StaysOn (page.breakLine c) := by
  rw [StaysOn, breakLine, String.toList_push]
  exact List.prefix_append _ _

/-- Marking where blanks and lines begin writes nothing. -/
theorem staysOn_mark (afterBlank atLineStart : Bool) (page : Page) :
    page.StaysOn (page.mark afterBlank atLineStart) :=
  StaysOn.refl page

/-- A page stays on both branches of a choice if it stays on each. -/
theorem staysOn_ite {page first second : Page} {c : Prop} [Decidable c] (h : page.StaysOn first)
    (h' : page.StaysOn second) : page.StaysOn (if c then first else second) := by
  split
  · exact h
  · exact h'

/-- Indenting adds blanks, after a line break where one is needed. -/
theorem staysOn_indentTo (indent : Nat) (page : Page) : page.StaysOn (page.indentTo indent) := by
  unfold indentTo
  extract_lets broken
  have hbroken : page.StaysOn broken := staysOn_ite (staysOn_breakLine _ _) (StaysOn.refl page)
  exact staysOn_ite (hbroken.trans (staysOn_put _ broken)) hbroken

/-- An indicator is added, after a blank where one is needed. -/
theorem staysOn_indicate (cs : List Char) (needsBlank keepsStart : Bool) (page : Page) :
    page.StaysOn (page.indicate cs needsBlank keepsStart) :=
  staysOn_put _ page

/-- With an indicator on it, a page is not empty. -/
theorem text_indicate_ne_nil {cs : List Char} (hcs : cs ≠ []) (needsBlank keepsStart : Bool) (page : Page) :
    (page.indicate cs needsBlank keepsStart).text.toList ≠ [] := by
  rw [indicate, Page.put, String.toList_append, String.toList_ofList]
  refine List.append_ne_nil_of_right_ne_nil _ ?_
  split
  · exact hcs
  · exact List.cons_ne_nil _ _

/-- A page with something on it is never empty again. -/
theorem text_ne_nil_of_staysOn {page later : Page} (h : page.StaysOn later) (hpage : page.text.toList ≠ []) :
    later.text.toList ≠ [] := by
  intro hnil
  rw [StaysOn, hnil, List.prefix_nil] at h
  exact hpage h

/-- What each of several steps keeps stays through all of them. -/
theorem staysOn_foldl {α : Type} {step : Page → α → Page} (h : ∀ (page : Page) item, page.StaysOn (step page item))
    (items : List α) (page : Page) : page.StaysOn (items.foldl step page) := by
  induction items generalizing page with
  | nil => exact StaysOn.refl page
  | cons item items ih => exact (h page item).trans (ih _)

/-! ## Scalars -/

/-- A run of a plain text is added to the page, folded or not. -/
theorem staysOn_putPlainRun (folding : Folding) (page : Page) (run : RunKind × List Char) :
    page.StaysOn (putPlainRun folding page run) :=
  staysOn_ite ((staysOn_indentTo _ page).trans (staysOn_mark ..))
    (staysOn_ite ((staysOn_indentTo _ page).trans (staysOn_put ..)) (staysOn_put _ page))

/-- A plain text is added to the page. -/
theorem staysOn_putPlain (folding : Folding) (cs : List Char) (page : Page) :
    page.StaysOn (putPlain folding cs page) := by
  have hblank : page.StaysOn (if page.afterBlank then page else page.put [' ']) :=
    staysOn_ite (StaysOn.refl page) (staysOn_put _ page)
  exact staysOn_ite (StaysOn.refl page)
    ((hblank.trans (staysOn_mark false false _)).trans (staysOn_foldl (staysOn_putPlainRun folding) _ _))

/-- A run of a text in single quotes is added to the page. -/
theorem staysOn_putSingleRun (folding : Folding) (isInner : Bool) (run : RunKind × List Char) (page : Page) :
    page.StaysOn (putSingleRun folding isInner run page) := by
  obtain ⟨kind, cs⟩ := run
  cases kind with
  | spaces => exact staysOn_ite (staysOn_indentTo _ page) (staysOn_put _ page)
  | breaks =>
    have hfirst : page.StaysOn (if cs.head? == some '\n' then page.breakLine '\n' else page) :=
      staysOn_ite (staysOn_breakLine _ _) (StaysOn.refl page)
    have hbreaks := staysOn_foldl (fun (page : Page) c => staysOn_breakLine c page) cs
      (if cs.head? == some '\n' then page.breakLine '\n' else page)
    exact (hfirst.trans hbreaks).trans (staysOn_indentTo _ _)
  | word => exact staysOn_put _ page

/-- All runs of a text in single quotes are added to the page. -/
theorem staysOn_putSingleRuns (folding : Folding) (isFirst : Bool) (runs : List (RunKind × List Char)) (page : Page) :
    page.StaysOn (putSingleRuns folding isFirst runs page) := by
  induction runs generalizing isFirst page with
  | nil => exact StaysOn.refl page
  | cons run rest ih => exact (staysOn_putSingleRun folding _ run page).trans (ih false _)

/-- A text in double quotes is added to the page, with its escapes and folds. -/
theorem staysOn_putDoubleFrom (folding : Folding) (before : Option Char) (pending rest : List Char) (page : Page) :
    page.StaysOn (putDoubleFrom folding before pending rest page) := by
  induction rest generalizing before pending page with
  | nil => exact staysOn_put _ page
  | cons c rest ih =>
    unfold putDoubleFrom
    extract_lets escaped written pending' width mayFold backslash filled moved next resumed pending''
    have hwritten : page.StaysOn written :=
      staysOn_ite ((staysOn_put _ page).trans (staysOn_put ..)) (StaysOn.refl page)
    have hmoved : page.StaysOn moved :=
      ((hwritten.trans (staysOn_put ..)).trans (staysOn_indentTo ..)).trans (staysOn_mark ..)
    have hresumed : moved.StaysOn resumed := staysOn_ite (staysOn_put _ moved) (StaysOn.refl moved)
    exact staysOn_ite ((hmoved.trans hresumed).trans (ih ..)) (hwritten.trans (ih ..))

/-- A scalar in any style is written behind what is on the page. -/
theorem staysOn_put_scalar (style : ScalarStyle) (folding : Folding) (cs : List Char) (page : Page) :
    page.StaysOn (Writing.put style folding cs page) := by
  cases style with
  | plain => exact staysOn_putPlain folding cs page
  | single =>
    exact ((staysOn_indicate _ _ _ page).trans (staysOn_putSingleRuns folding true _ _)).trans (staysOn_indicate ..)
  | double =>
    exact ((staysOn_indicate _ _ _ page).trans (staysOn_putDoubleFrom folding none [] cs _)).trans
      (staysOn_indicate ..)

/-- A scalar is added to the page in the style that is chosen for it. -/
theorem staysOn_putScalar (position : Position) (indent? : Option Nat) (scalar : Value) (page : Page) :
    page.StaysOn (putScalar position indent? scalar page) := by
  unfold putScalar
  extract_lets folding moved style written
  have hmoved : page.StaysOn moved := staysOn_ite (staysOn_indentTo _ page) (StaysOn.refl page)
  have hwritten : page.StaysOn written := hmoved.trans (staysOn_put_scalar ..)
  exact staysOn_ite hwritten hwritten

/-! ## Documents -/

/-- An empty list or mapping is added to the page as its two brackets. -/
theorem staysOn_putEmpty (opening closing : Char) (page : Page) : page.StaysOn (putEmpty opening closing page) :=
  (staysOn_indicate _ _ _ page).trans (staysOn_indicate ..)

/-- The dash of an item is added to the page. -/
theorem staysOn_putDash (indent : Nat) (page : Page) : page.StaysOn (putDash indent page) :=
  (staysOn_indentTo _ page).trans (staysOn_indicate ..)

/-- A key is added to the page, with the colon that follows it. -/
theorem staysOn_putKey (position : Position) (indent : Nat) (key : Value) (page : Page) :
    page.StaysOn (putKey position indent key page) := by
  unfold putKey
  split
  · exact staysOn_putEmpty _ _ page
  · exact staysOn_foldl (fun page item => (staysOn_putDash _ page).trans (staysOn_putScalar ..)) _ page
  · exact staysOn_putEmpty _ _ page
  · exact staysOn_putScalar ..

/-- What stands behind an anchor is added to the page with it. -/
theorem staysOn_putAnchored {write : Bool → Page → Page}
    (h : ∀ isNamed (page : Page), page.StaysOn (write isNamed page)) (anchor? : Option String) (page : Page) :
    page.StaysOn (putAnchored anchor? write page) := by
  cases anchor? with
  | none => exact h false page
  | some name =>
    have hnamed : page.StaysOn
        { page.indicate ('&' :: name.toList) true false with anchors := name :: page.anchors } :=
      staysOn_indicate ('&' :: name.toList) true false page
    exact staysOn_ite (staysOn_indicate _ _ _ page) (hnamed.trans (h true _))

/-- The items of a list are added to the page if each of them is. -/
theorem staysOn_putItems {shared : List Nat} {items : List Document}
    (h : ∀ item ∈ items, ∀ position indent? page, StaysOn page (putPart shared position indent? item page))
    (indent : Nat) (page : Page) : page.StaysOn (putItems shared indent items page) := by
  induction items generalizing page with
  | nil => exact StaysOn.refl page
  | cons item rest ih =>
    obtain ⟨hitem, hrest⟩ := List.forall_mem_cons.mp h
    exact ((staysOn_putDash indent page).trans (hitem ..)).trans (ih hrest _)

/-- An entry is written behind what is on the page, and a colon with it. -/
theorem staysOn_entry {shared : List Nat} {entry : Value × Document}
    (h : ∀ position indent? page, StaysOn page (putPart shared position indent? entry.2 page)) (indent : Nat)
    (page : Page) : page.StaysOn (putEntries shared indent [entry] page) ∧
      (putEntries shared indent [entry] page).text.toList ≠ [] := by
  obtain ⟨key, value⟩ := entry
  simp only [putEntries]
  split
  · have hkey : page.StaysOn (putKey .shortKey indent key (page.indentTo indent)) :=
      (staysOn_indentTo _ page).trans (staysOn_putKey ..)
    refine ⟨(hkey.trans (staysOn_indicate ..)).trans (h ..), text_ne_nil_of_staysOn (h ..) ?_⟩
    exact text_indicate_ne_nil (List.cons_ne_nil _ _) _ _ _
  · have hkey : page.StaysOn (putKey .longKey indent key ((page.indentTo indent).indicate ['?'] true true)) :=
      ((staysOn_indentTo _ page).trans (staysOn_indicate ..)).trans (staysOn_putKey ..)
    refine ⟨((hkey.trans (staysOn_indentTo ..)).trans (staysOn_indicate ..)).trans (h ..),
      text_ne_nil_of_staysOn (h ..) ?_⟩
    exact text_indicate_ne_nil (List.cons_ne_nil _ _) _ _ _

/-- Entries are written one after the other. -/
theorem putEntries_cons (shared : List Nat) (indent : Nat) (entry : Value × Document) (rest : Entries Document)
    (page : Page) : putEntries shared indent (entry :: rest) page =
      putEntries shared indent rest (putEntries shared indent [entry] page) := by
  obtain ⟨key, value⟩ := entry
  simp only [putEntries]

/-- The entries of a mapping are added to the page if each of them is. -/
theorem staysOn_putEntries {shared : List Nat} {entries : Entries Document}
    (h : ∀ entry ∈ entries, ∀ position indent? page, StaysOn page (putPart shared position indent? entry.2 page))
    (indent : Nat) (page : Page) : page.StaysOn (putEntries shared indent entries page) := by
  induction entries generalizing page with
  | nil => exact StaysOn.refl page
  | cons entry rest ih =>
    obtain ⟨hentry, hrest⟩ := List.forall_mem_cons.mp h
    rw [putEntries_cons]
    exact (staysOn_entry hentry indent page).1.trans (ih hrest _)

/-- A document is written behind what is on the page. -/
theorem staysOn_putPart (shared : List Nat) (document : Document) (position : Position) (indent? : Option Nat)
    (page : Page) : page.StaysOn (putPart shared position indent? document page) := by
  induction document using PartsAux.documentInduction generalizing position indent? page with
  | leaf label? value =>
    rw [putPart]
    exact staysOn_putAnchored (fun isNamed page => staysOn_putScalar ..) _ page
  | list label? items ih =>
    cases items with
    | nil =>
      rw [putPart]
      exact staysOn_putAnchored (fun isNamed page => staysOn_putEmpty _ _ page) _ page
    | cons item rest =>
      rw [putPart]
      · exact staysOn_putAnchored (fun isNamed page => staysOn_putItems ih _ page) _ page
      · exact List.cons_ne_nil item rest
  | map label? entries ih =>
    cases entries with
    | nil =>
      rw [putPart]
      exact staysOn_putAnchored (fun isNamed page => staysOn_putEmpty _ _ page) _ page
    | cons entry rest =>
      rw [putPart]
      · exact staysOn_putAnchored (fun isNamed page => staysOn_putEntries ih _ page) _ page
      · exact List.cons_ne_nil entry rest

/-- A mapping with entries does not leave the page empty. -/
theorem text_putPart_map_ne_nil (shared : List Nat) (position : Position) (indent? : Option Nat)
    {entries : Entries Document} (h : entries ≠ []) (page : Page) :
    (putPart shared position indent? (.map none entries) page).text.toList ≠ [] := by
  obtain ⟨entry, rest, rfl⟩ := List.exists_cons_of_ne_nil h
  have hpart (entry : Value × Document) := staysOn_putPart shared entry.2
  have hrest (indent : Nat) (page : Page) : page.StaysOn (putEntries shared indent rest page) :=
    staysOn_putEntries (fun entry _ => hpart entry) indent page
  rw [putPart]
  · exact text_ne_nil_of_staysOn (hrest _ _) (staysOn_entry (hpart entry) _ page).2
  · exact h

end PagesAux

open PagesAux

/-- A mapping with entries is printed, and not as nothing. -/
theorem printIndented_ne_empty (indent : Nat) {entries : Entries Value} (h : entries ≠ []) :
    printIndented indent (.map entries) ≠ "" := by
  refine Text.LinesAux.indentLines_ne_empty indent ?_
  obtain ⟨entry, rest, rfl⟩ := List.exists_cons_of_ne_nil h
  rw [Document.ofValue, Document.print]
  have hpage (shared : List Nat) : ((putPart shared .root none (.map none (Document.ofEntries (entry :: rest)))
      .blank).indentTo 0).text.toList ≠ [] :=
    text_ne_nil_of_staysOn (staysOn_indentTo 0 _) (text_putPart_map_ne_nil shared .root none (List.cons_ne_nil _ _) _)
  split
  · exact text_ne_nil_of_staysOn ((staysOn_indicate _ _ _ _).trans (staysOn_indentTo ..)) (hpage _)
  · exact hpage _

end RunPicker.Yaml

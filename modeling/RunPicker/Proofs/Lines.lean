import Mathlib.Data.List.Flatten
import RunPicker.Text.Lines

/-!
# Lines of texts

A text is cut into lines where a line feed stands, whatever comes before and after it (`splitLines_append`). So texts
that are printed one on a line are read back as the lines (`splitLines_join`), unless there is an end of a line in them.
The lines and their ends make up the text (`flatMap_linesFrom`).
-/

namespace RunPicker.Text

namespace LinesAux

/-- A character that does not end a line together with a line feed after it. -/
theorem linesFrom_cons {c : Char} {rest : List Char} (h : ∀ after, c = '\r' → rest = '\n' :: after → False)
    (current : List Char) : linesFrom current (c :: rest) =
      if isLineBreak c then (current.reverse, [c]) :: linesFrom [] rest
      else linesFrom (c :: current) rest := by
  rw [linesFrom]
  exact h

/-- A line feed ends a line, whatever follows it. -/
theorem linesFrom_append_cons (current front rest : List Char) :
    linesFrom current (front ++ '\n' :: rest) = linesFrom current (front ++ ['\n']) ++ linesFrom [] rest := by
  fun_induction linesFrom current front with
  | case1 current hempty => simp [linesFrom, isLineBreak]
  | case2 current hempty => simp [linesFrom, isLineBreak]
  | case3 current front ih => simp only [List.cons_append, linesFrom, ih]
  | case4 current c front hpair hbreak ih =>
    -- a carriage return before the line feed is one boundary with it
    by_cases hreturn : c = '\r' ∧ front = []
    · obtain ⟨rfl, rfl⟩ := hreturn
      simp [linesFrom]
    · have hsingle : ∀ tail after, c = '\r' → front ++ '\n' :: tail = '\n' :: after → False := by
        intro tail after hc h
        cases front with
        | nil => exact hreturn ⟨hc, rfl⟩
        | cons d front => exact hpair front hc (by rw [(List.cons.inj h).1])
      rw [List.cons_append, List.cons_append, linesFrom_cons (hsingle rest), linesFrom_cons (hsingle []), ih]
      simp only [hbreak, if_true, List.cons_append]
  | case5 current c front hpair hbreak ih =>
    have hsingle : ∀ tail after, c = '\r' → front ++ '\n' :: tail = '\n' :: after → False := by
      rintro tail after rfl _
      exact hbreak (by decide)
    rw [List.cons_append, List.cons_append, linesFrom_cons (hsingle rest), linesFrom_cons (hsingle []), ih]
    simp only [hbreak, Bool.false_eq_true, if_false]

/-- The lines of a text that ends in a line feed come before those of what follows it. -/
theorem splitLines_append (text rest : String) :
    splitLines (text ++ "\n" ++ rest) = splitLines (text ++ "\n") ++ splitLines rest := by
  have htext : (text ++ "\n" ++ rest).toList = text.toList ++ '\n' :: rest.toList := by
    rw [String.toList_append, String.toList_append, List.append_assoc]
    rfl
  have hfront : (text ++ "\n").toList = text.toList ++ ['\n'] := String.toList_append
  rw [splitLines, htext, linesFrom_append_cons, List.map_append, ← hfront]
  rfl

/-- A text in which no line ends is one line with the line feed behind it. -/
theorem linesFrom_line {chars : List Char} (h : ∀ c ∈ chars, isLineBreak c = false) (current : List Char) :
    linesFrom current (chars ++ ['\n']) = [(current.reverse ++ chars, ['\n'])] := by
  induction chars generalizing current with
  | nil => simp [linesFrom, isLineBreak]
  | cons c chars ih =>
    obtain ⟨hc, hchars⟩ := List.forall_mem_cons.mp h
    have hreturn : ∀ after, c = '\r' → chars ++ ['\n'] = '\n' :: after → False := by
      rintro after rfl -
      exact absurd hc (by decide)
    rw [List.cons_append, linesFrom_cons hreturn, hc, if_neg Bool.false_ne_true, ih hchars, List.reverse_cons,
      List.append_assoc, List.singleton_append]

/-- No line ends in a text if this is so of each of its characters. -/
theorem unbroken_of_all {text : String} (h : (text.toList.all fun c => !isLineBreak c) = true) :
    ∀ c ∈ text.toList, isLineBreak c = false := by
  intro c hc
  simpa using List.all_eq_true.mp h c hc

theorem splitLines_line {text : String} (h : ∀ c ∈ text.toList, isLineBreak c = false) :
    splitLines (text ++ "\n") = [text] := by
  have htext : (text ++ "\n").toList = text.toList ++ ['\n'] := String.toList_append
  rw [splitLines, htext, linesFrom_line h]
  simp

/-- The lines of texts that are printed one on a line are these texts. -/
theorem splitLines_join {texts : List String} (h : ∀ text ∈ texts, ∀ c ∈ text.toList, isLineBreak c = false) :
    splitLines (String.join (texts.map (· ++ "\n"))) = texts := by
  induction texts with
  | nil => rfl
  | cons text texts ih =>
    obtain ⟨htext, htexts⟩ := List.forall_mem_cons.mp h
    rw [List.map_cons, String.join_cons, splitLines_append, splitLines_line htext, ih htexts, List.singleton_append]

/-- The lines of a text, with their ends, make up the text. -/
theorem flatMap_linesFrom (current cs : List Char) :
    (linesFrom current cs).flatMap (fun line => line.1 ++ line.2) = current.reverse ++ cs := by
  fun_induction linesFrom current cs with
  | case1 current h => simp [List.isEmpty_iff.mp h]
  | case2 current h => simp
  | case3 current rest ih => simp [ih]
  | case4 current c rest hpair hbreak ih => simp [ih]
  | case5 current c rest hpair hbreak ih => simp [ih]

theorem indentLines_ne_empty (width : Nat) {text : String} (h : text.toList ≠ []) :
    indentLines width text ≠ "" := by
  intro hempty
  have hlines := flatMap_linesFrom [] text.toList
  rw [indentLines, ← String.ofList_nil, String.ofList_inj, List.flatMap_eq_nil_iff] at hempty
  rw [List.flatMap_eq_nil_iff.mpr] at hlines
  · exact h hlines.symm
  · intro line hline
    obtain ⟨hfront, hback⟩ := List.append_eq_nil_iff.mp (hempty line hline)
    rw [(List.append_eq_nil_iff.mp hfront).2, hback, List.append_nil]

end LinesAux

end RunPicker.Text

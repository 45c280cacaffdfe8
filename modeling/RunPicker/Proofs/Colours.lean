import RunPicker.Console

/-!
# Colours

What the sequences of colours and styles add to a text. `Style.erase` takes every such sequence out of a text, and
`Dressed` says that a text is another with sequences put in. A text that holds no escape is what is left of it however
it was dressed (`erase_of_dressed`), and painting dresses.
-/

namespace RunPicker

namespace Style

/-- What follows the sequence at the front, if there is one: an escape, a bracket, digits and an `m`. -/
def afterSequence? : List Char → Option (List Char)
  | '\x1b' :: '[' :: digit :: rest =>
    if digit.isDigit then
      match rest.dropWhile Char.isDigit with
      | 'm' :: after => some after
      | _ => none
    else none
  | _ => none

/-- What follows a sequence is shorter. -/
theorem length_afterSequence? {cs after : List Char} (h : afterSequence? cs = some after) :
    after.length < cs.length := by
  unfold afterSequence? at h
  split at h
  · rename_i digit rest
    have hdrop := (List.dropWhile_suffix (l := rest) Char.isDigit).length_le
    split at h
    · split at h
      · rename_i heq
        obtain rfl := Option.some.inj h
        rw [heq, List.length_cons] at hdrop
        simp only [List.length_cons]
        omega
      · cases h
    · cases h
  · cases h

/-- The characters without the sequences of colours and styles. -/
def erase : List Char → List Char
  | [] => []
  | c :: rest =>
    match _h : afterSequence? (c :: rest) with
    | some after => erase after
    | none => c :: erase rest
termination_by cs => cs.length
decreasing_by
  · exact length_afterSequence? _h
  · exact Nat.lt_succ_self _

/-- A sequence at the front is erased. -/
theorem erase_of_sequence {cs after : List Char} (h : afterSequence? cs = some after) : erase cs = erase after := by
  cases cs with
  | nil => cases h
  | cons c rest =>
    rw [erase]
    split
    · rename_i heq
      rw [h] at heq
      rw [Option.some.inj heq]
    · rename_i heq
      rw [h] at heq
      cases heq

/-- What begins no sequence stays. -/
theorem erase_cons {c : Char} (hc : c ≠ '\x1b') (cs : List Char) : erase (c :: cs) = c :: erase cs := by
  have hnone : afterSequence? (c :: cs) = none := by
    unfold afterSequence?
    split
    · rename_i heq
      exact absurd (List.cons.inj heq).1 hc
    · rfl
  rw [erase]
  split
  · rename_i heq
    rw [hnone] at heq
    cases heq
  · rfl

/-- A sequence that was put in front of a text is the one at its front. -/
theorem afterSequence?_sequence (code : Nat) (cs : List Char) :
    afterSequence? ((sequence code).toList ++ cs) = some cs := by
  have hdigits : ∀ c ∈ Nat.toDigits 10 code, c.isDigit = true :=
    fun c hc => Nat.isDigit_of_mem_toDigits (by decide) (by decide) hc
  have hsequence : (sequence code).toList ++ cs = '\x1b' :: '[' :: (Nat.toDigits 10 code ++ 'm' :: cs) := by
    simp [sequence, String.toList_append]
  rw [hsequence]
  cases hcode : Nat.toDigits 10 code with
  | nil => exact absurd hcode Nat.toDigits_ne_nil
  | cons digit rest =>
    rw [hcode] at hdigits
    have hrest : ∀ c ∈ rest, c.isDigit = true := fun c hc => hdigits c (List.mem_cons_of_mem _ hc)
    have hdrop : (rest ++ 'm' :: cs).dropWhile Char.isDigit = 'm' :: cs := by
      rw [List.dropWhile_append_of_pos hrest]
      rfl
    simp only [List.cons_append, afterSequence?, hdigits digit List.mem_cons_self, if_true, hdrop]

/-- The first text is the second with sequences of colours and styles put in. -/
inductive Dressed : List Char → List Char → Prop
  | nil : Dressed [] []
  | char (c : Char) {dressed plain : List Char} (h : Dressed dressed plain) : Dressed (c :: dressed) (c :: plain)
  | sequence (code : Nat) {dressed plain : List Char} (h : Dressed dressed plain) :
    Dressed ((sequence code).toList ++ dressed) plain

/-- A text that holds no escape is what is left of it, however it was dressed. -/
theorem erase_of_dressed {dressed plain : List Char} (h : Dressed dressed plain) (hescape : '\x1b' ∉ plain) :
    erase dressed = plain := by
  induction h with
  | nil => rw [erase]
  | char c h ih =>
    have hc : c ≠ '\x1b' := fun heq => hescape (heq ▸ List.mem_cons_self)
    rw [erase_cons hc, ih fun hmem => hescape (List.mem_cons_of_mem _ hmem)]
  | sequence code h ih => rw [erase_of_sequence (afterSequence?_sequence code _), ih hescape]

namespace Dressed

variable {dressed plain dressed' plain' : List Char}

protected theorem refl (cs : List Char) : Dressed cs cs := by
  induction cs with
  | nil => exact .nil
  | cons c cs ih => exact .char c ih

/-- Dressed texts can be put together. -/
theorem append (h : Dressed dressed plain) (h' : Dressed dressed' plain') :
    Dressed (dressed ++ dressed') (plain ++ plain') := by
  induction h with
  | nil => exact h'
  | char c h ih => exact .char c ih
  | sequence code h ih =>
    rw [List.append_assoc]
    exact .sequence code ih

/-- A text that is painted is dressed. -/
theorem paint (colour : Colour) (styles : List Style) (text : String) :
    Dressed (Style.paint colour styles text).toList text.toList := by
  -- each style puts one more sequence in front of what is painted already
  have hstyles : ∀ painted : String, Dressed painted.toList text.toList → Dressed (styles.foldl
      (fun painted style => Style.sequence style.code ++ painted) painted).toList text.toList := by
    induction styles with
    | nil => exact fun painted h => h
    | cons style styles ih =>
      intro painted h
      refine ih _ ?_
      rw [String.toList_append]
      exact .sequence style.code h
  have hcolour : Dressed (Style.sequence colour.code ++ text).toList text.toList := by
    rw [String.toList_append]
    exact .sequence colour.code (Dressed.refl _)
  have hreset : Dressed Style.reset.toList [] := by
    rw [Style.reset, ← List.append_nil (Style.sequence 0).toList]
    exact .sequence 0 .nil
  have hpaint := (hstyles _ hcolour).append hreset
  rw [List.append_nil] at hpaint
  rw [Style.paint, String.toList_append]
  exact hpaint

end Dressed

end Style

end RunPicker

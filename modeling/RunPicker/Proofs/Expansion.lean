import RunPicker.Proofs.Quoting

/-!
# Expansion of written references

A text with references is written from segments: literal texts, whose dollar signs are written twice, and references with
or without braces. Such a text is expanded segment by segment (`expand_written`): a literal text stands for itself, and a
reference for the value of its variable or, if there is no such variable, for itself as it was written. What a value holds
does not matter, since it is neither expanded again nor read together with what stands beside it.
-/

namespace RunPicker

/-- A segment of a text with references. -/
inductive Segment where
  | literal (text : String)
  | reference (name : String) (isBraced : Bool)
deriving DecidableEq, Inhabited, Repr

namespace Segment

/-- The segment as it is written. -/
def source : Segment → List Char
  | .literal text => Text.escapeChars text.toList
  | .reference name true => '$' :: '\x7b' :: (name.toList ++ ['\x7d'])
  | .reference name false => '$' :: name.toList

/-- What the segment stands for. -/
def meaning (vars : Environment) : Segment → String
  | .literal text => text
  | .reference name isBraced => (vars.get? name).getD (String.ofList (source (.reference name isBraced)))

/-- A name has letters and digits, those of ASCII, and underscores in it, and between braces also dots. -/
def IsNamed : Segment → Prop
  | .literal _ => True
  | .reference name true => name ≠ "" ∧ ∀ c ∈ name.toList, isBracedNameChar c = true
  | .reference name false => name ≠ "" ∧ ∀ c ∈ name.toList, isNameChar c = true

instance (segment : Segment) : Decidable segment.IsNamed :=
  match segment with
  | .literal _ => inferInstanceAs (Decidable True)
  | .reference name true =>
    decidable_of_iff (name ≠ "" ∧ name.toList.all isBracedNameChar) (by rw [IsNamed, List.all_eq_true])
  | .reference name false =>
    decidable_of_iff (name ≠ "" ∧ name.toList.all isNameChar) (by rw [IsNamed, List.all_eq_true])

/-- Can the segment stand in front of a text? What is written behind a name without braces does not go on with it. -/
def EndsBefore (back : List Char) : Segment → Prop
  | .reference _ false => ∀ c ∈ back.head?, isNameChar c = false
  | _ => True

instance (back : List Char) (segment : Segment) : Decidable (segment.EndsBefore back) :=
  match segment with
  | .reference _ false => decidable_of_iff (back.head?.all fun c => isNameChar c == false) (by
      simp [EndsBefore, Option.all_eq_true])
  | .reference _ true => inferInstanceAs (Decidable True)
  | .literal _ => inferInstanceAs (Decidable True)

/-- Segments as they are written, one behind the other. -/
def sourceOf (segments : List Segment) : List Char :=
  segments.flatMap source

end Segment

/-- The text that is written from segments. -/
def writtenText (segments : List Segment) : String :=
  String.ofList (Segment.sourceOf segments)

/-- Segments with names for their references, of which every one ends where the next begins. -/
def WellWritten : List Segment → Prop
  | [] => True
  | segment :: rest => segment.IsNamed ∧ segment.EndsBefore (Segment.sourceOf rest) ∧ WellWritten rest

instance decidableWellWritten : (segments : List Segment) → Decidable (WellWritten segments)
  | [] => inferInstanceAs (Decidable True)
  | segment :: rest =>
    have := decidableWellWritten rest
    inferInstanceAs (Decidable (segment.IsNamed ∧ segment.EndsBefore (Segment.sourceOf rest) ∧ WellWritten rest))

namespace ExpansionAux

open QuotingAux

/-- The characters of a kind at the front of a text, and what is left, if the text goes on with one of another kind. -/
theorem takeWhile_dropWhile_append {p : Char → Bool} {front back : List Char} (hfront : ∀ c ∈ front, p c = true)
    (hback : ∀ c ∈ back.head?, p c = false) :
    (front ++ back).takeWhile p = front ∧ (front ++ back).dropWhile p = back := by
  rw [List.takeWhile_append_of_pos hfront, List.dropWhile_append_of_pos hfront]
  cases back with
  | nil => simp
  | cons c back =>
    have hc : p c = false := hback c rfl
    simp [hc]

/-- A name between braces is read up to the closing brace. -/
theorem firstPiece_braced {name : List Char} (hname : name ≠ []) (h : ∀ c ∈ name, isBracedNameChar c = true)
    (back : List Char) :
    firstPiece '$' ('\x7b' :: (name ++ '\x7d' :: back)) = .reference name true := by
  have hclosing : ∀ c ∈ ('\x7d' :: back).head?, isBracedNameChar c = false := by
    intro c hc
    obtain rfl := Option.some.inj hc
    decide
  obtain ⟨htake, hdrop⟩ := takeWhile_dropWhile_append h hclosing
  have hopening : isNameChar '\x7b' = false := by decide
  simp [firstPiece, pieceAfterDollar?, hopening, htake, hdrop, hname]

/-- A name without braces is read up to the first character that cannot stand in it. -/
theorem firstPiece_bare {name : List Char} (hname : name ≠ []) (h : ∀ c ∈ name, isNameChar c = true)
    {back : List Char} (hback : ∀ c ∈ back.head?, isNameChar c = false) :
    firstPiece '$' (name ++ back) = .reference name false := by
  obtain ⟨c, name, rfl⟩ := List.exists_cons_of_ne_nil hname
  obtain ⟨hc, h⟩ := List.forall_mem_cons.mp h
  obtain ⟨htake, -⟩ := takeWhile_dropWhile_append h hback
  simp [firstPiece, pieceAfterDollar?, hc, htake]

/-- A piece that is a reference stands for what the segment stands for. -/
theorem valueOf_reference (vars : Environment) (name : String) (isBraced : Bool) :
    vars.valueOf (.reference name.toList isBraced) = (Segment.meaning vars (.reference name isBraced)).toList := by
  rw [Environment.valueOf, Segment.meaning, String.ofList_toList]
  cases vars.get? name with
  | some value => rfl
  | none => cases isBraced <;> simp [Segment.source, Piece.source]

/-- A segment at the front of a text stands for its meaning, and the text goes on behind it. -/
theorem expandChars_source_append (vars : Environment) {segment : Segment} (hnamed : segment.IsNamed)
    {back : List Char} (hends : segment.EndsBefore back) :
    vars.expandChars (segment.source ++ back) = (segment.meaning vars).toList ++ vars.expandChars back := by
  match segment with
  | .literal text => exact expandChars_escapeChars_append vars text.toList back
  | .reference name true =>
    obtain ⟨hname, hchars⟩ := hnamed
    have hpiece := firstPiece_braced (by simpa using hname) hchars back
    have hsource : Segment.source (.reference name true) ++ back = '$' :: '\x7b' :: (name.toList ++ '\x7d' :: back) := by
      simp [Segment.source]
    have hbehind : ('\x7b' :: (name.toList ++ '\x7d' :: back)).drop
        ((Piece.reference name.toList true).source.length - 1) = back := by
      simp [Piece.source, List.drop_append]
    rw [hsource, expandChars_cons, hpiece, hbehind, valueOf_reference]
  | .reference name false =>
    obtain ⟨hname, hchars⟩ := hnamed
    have hpiece := firstPiece_bare (by simpa using hname) hchars hends
    have hbehind : (name.toList ++ back).drop ((Piece.reference name.toList false).source.length - 1) = back := by
      simp [Piece.source]
    rw [Segment.source, List.cons_append, expandChars_cons, hpiece, hbehind, valueOf_reference]

/-- Segments that follow one another stand for their meanings in a row. -/
theorem expandChars_sourceOf (vars : Environment) {segments : List Segment} (h : WellWritten segments) :
    vars.expandChars (Segment.sourceOf segments) =
      (String.join (segments.map (Segment.meaning vars))).toList := by
  induction segments with
  | nil => exact expandChars_nil vars
  | cons segment segments ih =>
    obtain ⟨hnamed, hends, hrest⟩ := h
    have hsource : Segment.sourceOf (segment :: segments) = segment.source ++ Segment.sourceOf segments := rfl
    rw [hsource, expandChars_source_append vars hnamed hends, ih hrest, List.map_cons, String.join_cons,
      String.toList_append]

end ExpansionAux

open ExpansionAux QuotingAux

/-- A text that is well written from segments is expanded to what they stand for, in their order, whatever the variables
are and whatever their values hold. A text whose dollar signs are all written twice is expanded to the text itself. -/
theorem expand_written (vars : Environment) {segments : List Segment} (h : WellWritten segments) :
    vars.expand (writtenText segments) = String.join (segments.map (Segment.meaning vars)) ∧
      ∀ text, vars.expand (Text.escape text) = text := by
  refine ⟨?_, expand_escape vars⟩
  rw [Environment.expand, writtenText, String.toList_ofList, expandChars_sourceOf vars h, String.ofList_toList]

/-- References beside dollar signs, to a variable that holds references and to one that is not there. -/
theorem expand_written_of_dollars :
    let segments : List Segment :=
      [.literal "$", .reference "A" true, .reference "B" false, .literal "$", .reference "x.y" true, .literal "\x7bB\x7d"]
    let vars : Environment := [(.text "A", "$B\x7b"), (.text "B", "$\x7bA\x7d$$")]
    WellWritten segments ∧ writtenText segments = "$$$\x7bA\x7d$B$$$\x7bx.y\x7d\x7bB\x7d" ∧
      vars.expand (writtenText segments) = "$$B\x7b$\x7bA\x7d$$$$\x7bx.y\x7d\x7bB\x7d" := by
  intro segments vars
  have hwritten : WellWritten segments := by decide +kernel
  refine ⟨hwritten, by decide +kernel, ?_⟩
  rw [(expand_written vars hwritten).1]
  decide +kernel

end RunPicker

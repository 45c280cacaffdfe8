import RunPicker.Value.Display

/-!
# Values that have texts

Which values have texts, and what comes of writing one. A list or a mapping has a text if all that it holds has one. A
value without a text cannot be quoted: a failure that is to quote it gives way to the one of the writing
(`Value.quoting_written_cases`).
-/

namespace RunPicker.Value

/-- A list has a text if all of its items have one. -/
theorem hasText_list_iff {items : List Value} :
    (Value.list items).hasText = true ↔ ∀ item ∈ items, item.hasText = true := by
  rw [hasText]
  induction items with
  | nil => simp [itemsHaveText]
  | cons item rest ih => rw [itemsHaveText, Bool.and_eq_true, ih, List.forall_mem_cons]

/-- A mapping has a text if all of its keys and all that stands under them have one. -/
theorem hasText_map_iff {entries : List (Value × Value)} :
    (Value.map entries).hasText = true ↔ ∀ entry ∈ entries, entry.1.hasText = true ∧ entry.2.hasText = true := by
  rw [hasText]
  induction entries with
  | nil => simp [entriesHaveText]
  | cons entry rest ih => rw [entriesHaveText, Bool.and_eq_true, Bool.and_eq_true, ih, List.forall_mem_cons]

/-- The writing of a value that has no text fails. -/
theorem written_of_not_hasText {value : Value} (h : value.hasText = false) (text : String) :
    value.written text = .error .wrongValue :=
  if_neg (Bool.eq_false_iff.mp h)

/-- A value with a text is written as its text. -/
theorem toText_of_hasText {value : Value} (h : value.hasText = true) : value.toText = .ok value.display :=
  if_pos h

/-- A failure that quotes a value is worded with the text, or it is that of the writing. -/
theorem quoting_written_cases (value : Value) (text : String) (wording : String → Failure) :
    (value.hasText = true ∧ Failure.quoting (value.written text) wording = wording text) ∨
      (value.hasText = false ∧ Failure.quoting (value.written text) wording = .wrongValue) := by
  cases h : value.hasText with
  | true => exact .inl ⟨rfl, by rw [written, if_pos h, Failure.quoting]⟩
  | false => exact .inr ⟨rfl, by rw [written_of_not_hasText h, Failure.quoting]⟩

end RunPicker.Value

import Mathlib.Data.List.DropRight
import RunPicker.Proofs.Quoting

/-!
# Written forms of filters

A filter of criteria can be written as a value in several forms: a criterion as its specification, a connective as a
mapping with its operands, and a negation either as a mapping or, before a specification, as the word `not` and a colon.
`RunFilter.WrittenAs` says which values write a filter. Every filter whose criteria have specifications is written in
some form, and each of its forms is read as exactly that filter (`written_filters`). What makes this true of negations
of any depth is that the blanks at the end of a specification may be dropped early or late (`ofSpec_negatedSpec`).
-/

namespace RunPicker

namespace Criterion

/-- A specification can name the criterion: the blanks at its end are dropped, and a display name is not empty. -/
def Specifiable : Criterion → Prop
  | parameters wanted => Text.EndsUnblank wanted.toList
  | displayName name => name ≠ "" ∧ Text.EndsUnblank name.toList

/-- The specification of a criterion. -/
def spec : Criterion → String
  | parameters wanted => "parameters" ++ ":" ++ wanted
  | displayName name => "display-name" ++ ":" ++ name

end Criterion

namespace RunFilter

variable {α : Type}

mutual

/-- The conditions of a filter, from left to right. -/
def conditions : RunFilter α → List α
  | .leaf condition => [condition]
  | .all parts => conditionsOfAll parts
  | .any parts => conditionsOfAll parts
  | .not part => conditions part

/-- The conditions of some filters, from left to right. -/
def conditionsOfAll : List (RunFilter α) → List α
  | [] => []
  | part :: rest => conditions part ++ conditionsOfAll rest

end

/-- The specification of the negation of what a specification says. -/
def negatedSpec (spec : String) : String :=
  "not" ++ ":" ++ spec

mutual

/-- The filter is written as the value. -/
inductive WrittenAs : RunFilter Criterion → Value → Prop where
  | leaf {criterion : Criterion} (specifiable : criterion.Specifiable) :
      WrittenAs (.leaf criterion) (.text criterion.spec)
  | all {parts : List (RunFilter Criterion)} {operands : List Value} (written : AllWrittenAs parts operands) :
      WrittenAs (.all parts) (.map [(.text "and", .list operands)])
  | any {parts : List (RunFilter Criterion)} {operands : List Value} (written : AllWrittenAs parts operands) :
      WrittenAs (.any parts) (.map [(.text "or", .list operands)])
  | not {part : RunFilter Criterion} {operand : Value} (written : WrittenAs part operand) :
      WrittenAs (.not part) (.map [(.text "not", operand)])
  | notSpec {part : RunFilter Criterion} {spec : String} (written : WrittenAs part (.text spec)) :
      WrittenAs (.not part) (.text (negatedSpec spec))

/-- The filters are written as the values, one by one. -/
inductive AllWrittenAs : List (RunFilter Criterion) → List Value → Prop where
  | nil : AllWrittenAs [] []
  | cons {part : RunFilter Criterion} {operand : Value} {rest : List (RunFilter Criterion)} {operands : List Value}
      (first : WrittenAs part operand) (others : AllWrittenAs rest operands) :
      AllWrittenAs (part :: rest) (operand :: operands)

end

namespace FilterFormsAux

open QuotingAux

/-! ## Blanks at the end -/

/-- What stands before a character that is not blank is not at the end. -/
theorem rdropWhile_append_unblank (front : List Char) {c : Char} (hc : Text.isBlank c = false) (cs : List Char) :
    (front ++ c :: cs).rdropWhile Text.isBlank = front ++ c :: cs.rdropWhile Text.isBlank := by
  induction cs using List.reverseRecOn with
  | nil => rw [List.rdropWhile_concat_neg _ _ _ (by simp [hc]), List.rdropWhile_nil]
  | append_singleton cs last ih =>
    rw [← List.cons_append, ← List.append_assoc]
    by_cases hlast : Text.isBlank last = true
    · rw [List.rdropWhile_concat_pos _ _ _ hlast, List.rdropWhile_concat_pos _ _ _ hlast, ih]
    · rw [List.rdropWhile_concat_neg _ _ _ hlast, List.rdropWhile_concat_neg _ _ _ hlast, List.append_assoc,
        List.cons_append]

/-- A blank is at the end if only blanks follow it. -/
theorem rdropWhile_cons_blank {c : Char} (hc : Text.isBlank c = true) (cs : List Char) :
    (c :: cs).rdropWhile Text.isBlank =
      if cs.rdropWhile Text.isBlank = [] then [] else c :: cs.rdropWhile Text.isBlank := by
  induction cs using List.reverseRecOn with
  | nil => simp [List.rdropWhile_singleton, hc]
  | append_singleton cs last ih =>
    rw [← List.cons_append]
    by_cases hlast : Text.isBlank last = true
    · rw [List.rdropWhile_concat_pos _ _ _ hlast, List.rdropWhile_concat_pos _ _ _ hlast, ih]
    · rw [List.rdropWhile_concat_neg _ _ _ hlast, List.rdropWhile_concat_neg _ _ _ hlast]
      simp

/-- Blanks at the end may be dropped before a text is trimmed. -/
theorem trimChars_rdropWhile (cs : List Char) :
    Text.trimChars (cs.rdropWhile Text.isBlank) = Text.trimChars cs := by
  have htrim (xs : List Char) : Text.trimChars xs = (Text.dropBlank xs).rdropWhile Text.isBlank := rfl
  induction cs with
  | nil => rfl
  | cons c cs ih =>
    cases hc : Text.isBlank c with
    | true =>
      have hskip (xs : List Char) : Text.trimChars (c :: xs) = Text.trimChars xs := by
        rw [htrim, Text.dropBlank, List.dropWhile_cons_of_pos hc, ← Text.dropBlank, ← htrim]
      rw [rdropWhile_cons_blank hc, hskip, ← ih]
      split
      · rename_i hnone
        rw [hnone]
      · exact hskip _
    | false =>
      have hkeep (xs : List Char) : Text.trimChars (c :: xs) = c :: xs.rdropWhile Text.isBlank := by
        rw [htrim, Text.dropBlank, List.dropWhile_cons_of_neg (by simp [hc])]
        exact rdropWhile_append_unblank [] hc xs
      have hend : (c :: cs).rdropWhile Text.isBlank = c :: cs.rdropWhile Text.isBlank :=
        rdropWhile_append_unblank [] hc cs
      rw [hend, hkeep, hkeep, List.rdropWhile_idempotent]

/-! ## Negations -/

/-- A specification is read by its kind and its argument. -/
theorem ofSpecChars_congr {cs cs' : List Char} (h : splitSpec cs = splitSpec cs') :
    ofSpecChars cs = ofSpecChars cs' := by
  rw [ofSpecChars, h, ← ofSpecChars]

/-- A specification that is negated means the negation of what it says. -/
theorem ofSpec_negatedSpec (spec : String) : ofSpec (negatedSpec spec) = (ofSpec spec).map RunFilter.not := by
  have hparts : splitSpec (negatedSpec spec).toList = ("not".toList, spec.toList.rdropWhile Text.isBlank) := by
    have hchars : (negatedSpec spec).toList = "not".toList ++ ':' :: spec.toList := by simp [negatedSpec]
    have htrim : Text.trimChars ("not".toList ++ ':' :: spec.toList) =
        "not".toList ++ ':' :: spec.toList.rdropWhile Text.isBlank :=
      rdropWhile_append_unblank "not".toList (by decide) spec.toList
    have hcut := @cutChars_append ':' "not".toList (by decide) (spec.toList.rdropWhile Text.isBlank)
    simp only [splitSpec, hchars, htrim, hcut, Option.getD_some]
    rfl
  have hargument : splitSpec (spec.toList.rdropWhile Text.isBlank) = splitSpec spec.toList := by
    simp only [splitSpec, trimChars_rdropWhile]
  have hparameters : ("not".toList = "parameters".toList) = False := by decide
  have hname : ("not".toList = "display-name".toList) = False := by decide
  rw [ofSpec, ofSpecChars]
  simp only [hparts, hparameters, hname, if_false, if_true]
  rw [ofSpecChars_congr hargument, ofSpec]

/-- The specification of a criterion is read as the criterion. -/
theorem ofSpec_spec {criterion : Criterion} (h : criterion.Specifiable) :
    ofSpec criterion.spec = .ok (.leaf criterion) := by
  cases criterion with
  | parameters wanted => exact ofSpec_parameters h
  | displayName name => exact ofSpec_displayName h.1 h.2

/-! ## Trees -/

mutual

/-- Every form of a filter is read as the filter. -/
theorem ofValue_of_writtenAs {filter : RunFilter Criterion} {value : Value} (h : WrittenAs filter value) :
    ofValue value = .ok filter := by
  match h with
  | .leaf specifiable =>
    rw [ofValue]
    exact ofSpec_spec specifiable
  | .all written =>
    rw [ofValue, ofOperands, ofValues_of_allWrittenAs written]
    rfl
  | .any written =>
    rw [ofValue, ofOperands, ofValues_of_allWrittenAs written]
    rfl
  | .not written =>
    rw [ofValue, ofValue_of_writtenAs written]
    rfl
  | .notSpec written =>
    have hspec := ofValue_of_writtenAs written
    rw [ofValue] at hspec ⊢
    rw [ofSpec_negatedSpec, hspec]
    rfl
termination_by structural h

theorem ofValues_of_allWrittenAs {filters : List (RunFilter Criterion)} {values : List Value}
    (h : AllWrittenAs filters values) : ofValues values = .ok filters := by
  match h with
  | .nil => rw [ofValues]
  | .cons first others =>
    rw [ofValues, ofValue_of_writtenAs first, ofValues_of_allWrittenAs others]
    rfl
termination_by structural h

end

mutual

/-- A filter can be written if all of its criteria can. -/
theorem exists_writtenAs : ∀ filter : RunFilter Criterion,
    (∀ criterion ∈ filter.conditions, criterion.Specifiable) → ∃ value, WrittenAs filter value
  | .leaf criterion, h => ⟨_, .leaf (h criterion (by simp [conditions]))⟩
  | .all parts, h =>
    have ⟨_, written⟩ := exists_allWrittenAs parts (by simpa [conditions] using h)
    ⟨_, .all written⟩
  | .any parts, h =>
    have ⟨_, written⟩ := exists_allWrittenAs parts (by simpa [conditions] using h)
    ⟨_, .any written⟩
  | .not part, h =>
    have ⟨_, written⟩ := exists_writtenAs part (by simpa [conditions] using h)
    ⟨_, .not written⟩

theorem exists_allWrittenAs : ∀ filters : List (RunFilter Criterion),
    (∀ criterion ∈ conditionsOfAll filters, criterion.Specifiable) → ∃ values, AllWrittenAs filters values
  | [], _ => ⟨[], .nil⟩
  | part :: rest, h =>
    have ⟨_, first⟩ := exists_writtenAs part fun criterion hmem =>
      h criterion (by rw [conditionsOfAll]; exact List.mem_append_left _ hmem)
    have ⟨_, others⟩ := exists_allWrittenAs rest fun criterion hmem =>
      h criterion (by rw [conditionsOfAll]; exact List.mem_append_right _ hmem)
    ⟨_, .cons first others⟩

end

end FilterFormsAux

open FilterFormsAux

/-- The written forms of filters.
1. Every filter whose criteria have specifications can be written.
2. Each form in which a filter is written is read as exactly that filter.
3. A specification is negated alike by a mapping and by the word before it, also where it cannot be read. -/
theorem written_filters :
    (∀ filter : RunFilter Criterion, (∀ criterion ∈ filter.conditions, criterion.Specifiable) →
      ∃ value, WrittenAs filter value) ∧
    (∀ (filter : RunFilter Criterion) (value : Value), WrittenAs filter value → ofValue value = .ok filter) ∧
    ∀ spec : String, ofValue (.map [(.text "not", .text spec)]) = ofSpec (negatedSpec spec) := by
  refine ⟨exists_writtenAs, fun filter value => ofValue_of_writtenAs, fun spec => ?_⟩
  rw [ofValue, ofValue, ofSpec_negatedSpec]

/-- An alternative of a double negation, a display name and a negated empty conjunction. The arguments look like
specifications themselves. -/
theorem written_filters_of_alternative :
    let wanted : RunFilter Criterion := .leaf (.parameters " A=b:c,not:x")
    let filter : RunFilter Criterion := .any [.not (.not wanted), .leaf (.displayName "and: #1"), .not (.all [])]
    let value : Value := .map [(.text "or", .list [.text "not:not:parameters: A=b:c,not:x",
      .text "display-name:and: #1", .map [(.text "not", .map [(.text "and", .list [])])]])]
    (∃ other, WrittenAs filter other ∧ ofValue other = .ok filter) ∧ WrittenAs filter value ∧
      ofValue value = .ok filter := by
  intro wanted filter value
  have hwanted : (Criterion.parameters " A=b:c,not:x").Specifiable := by
    unfold Criterion.Specifiable
    decide
  have hname : (Criterion.displayName "and: #1").Specifiable := by
    unfold Criterion.Specifiable
    decide
  have hspec : negatedSpec (negatedSpec (Criterion.parameters " A=b:c,not:x").spec) =
      "not:not:parameters: A=b:c,not:x" := by decide
  have hdouble : WrittenAs (.not (.not wanted)) (.text "not:not:parameters: A=b:c,not:x") :=
    hspec ▸ .notSpec (.notSpec (.leaf hwanted))
  have hwritten : WrittenAs filter value :=
    .any (.cons hdouble (.cons (.leaf hname) (.cons (.not (.all .nil)) .nil)))
  obtain ⟨hexists, hread, -⟩ := written_filters
  obtain ⟨other, hother⟩ := hexists filter (by simp [filter, wanted, conditions, conditionsOfAll, hwanted, hname])
  exact ⟨⟨other, hother, hread filter other hother⟩, hwritten, hread filter value hwritten⟩

end RunFilter

end RunPicker

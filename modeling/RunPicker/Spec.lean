import RunPicker.Filter.Criterion
import RunPicker.Selector
import RunPicker.Text.Cut
import RunPicker.Value.Display

/-!
# Specifications

Selectors and filters as they are written: `kind:argument`, and for filters also mappings with the one key `and`, `or`
or `not`. Every specification that names no selector or filter has a wording of its own.
-/

namespace RunPicker

/-- The kinds of selectors. -/
def selectorKinds : List String :=
  ["status", "last", "number", "permalink"]

/-- The kinds of filters. -/
def filterKinds : List String :=
  ["parameters", "display-name", "not"]

/-- The hint that lists what there is to choose from. -/
def choiceHint (choices : List String) : String :=
  "(choose from " ++ ", ".intercalate choices ++ ")"

/-- The argument of a kind that needs one. -/
def required (kind argument : String) : Except Failure String :=
  if argument.isEmpty then .error (.invalidParameter kind argument "(missing argument)") else .ok argument

/-- The kind and the argument of a specification. The argument is everything behind the first colon but the blanks at
its end. -/
def splitSpec (cs : List Char) : List Char × List Char :=
  let (kind, argument) := Text.cutChars ':' (Text.trimChars cs)
  (Text.trimChars kind, argument.getD [])

/-- The kind and the argument of a specification, as texts. -/
def specParts (spec : String) : String × String :=
  let (kind, argument) := splitSpec spec.toList
  (String.ofList kind, String.ofList argument)

/-! ## Selectors -/

namespace Selector

/-- The selector by a status; the argument may be left out. -/
def ofStatus (argument : String) : Except Failure Selector :=
  if argument.isEmpty then .ok (.byStatus .completed)
  else match Status.ofName? argument with
    | some status => .ok (.byStatus status)
    | none => .error (.invalidParameter "status" argument (choiceHint (Status.all.map Status.name)))

/-- The selector by a permalink. -/
def ofPermalink (argument : String) : Except Failure Selector := do
  let id ← required "permalink" argument
  match Permalink.ofId? id with
  | some permalink => return .byPermalink permalink
  | none => .error (.invalidParameter "permalink" id (choiceHint (Permalink.all.map Permalink.id)))

/-- The selector of a specification. -/
def ofSpec (spec : String) : Except Failure Selector :=
  match specParts spec with
  | ("status", argument) => ofStatus argument
  | ("last", _) => .ok (.byStatus .completed)
  | ("number", argument) => (required "number" argument).map Selector.byNumber
  | ("permalink", argument) => ofPermalink argument
  | (kind, _) => .error (.unsupported "selector" kind)

end Selector

/-! ## Filters -/

theorem Text.length_cutChars (separator : Char) (cs : List Char) :
    ((Text.cutChars separator cs).2.getD []).length ≤ cs.length - 1 := by
  induction cs with
  | nil => simp [cutChars]
  | cons c rest ih =>
    unfold cutChars
    split
    · simp
    · simp only [List.length_cons]
      omega

theorem Text.length_trimChars (cs : List Char) : (Text.trimChars cs).length ≤ cs.length := by
  have h (xs : List Char) : (dropBlank xs).length ≤ xs.length := (List.dropWhile_suffix _).length_le
  have h₁ := h cs
  have h₂ := h (dropBlank cs).reverse
  simp only [trimChars, List.length_reverse] at h₁ h₂ ⊢
  omega

/-- The argument of a specification is shorter than the specification, unless that is empty. -/
theorem length_splitSpec (cs : List Char) : (splitSpec cs).2.length ≤ cs.length - 1 := by
  have h₁ := Text.length_cutChars ':' (Text.trimChars cs)
  have h₂ := Text.length_trimChars cs
  simp only [splitSpec]
  omega

namespace RunFilter

/-- The filter of a specification. -/
def ofSpecChars (cs : List Char) : Except Failure (RunFilter Criterion) :=
  let parts := splitSpec cs
  let argument := String.ofList parts.2
  if parts.1 = "parameters".toList then .ok (.leaf (.parameters argument))
  else if parts.1 = "display-name".toList then
    (required "display-name" argument).map fun name => .leaf (.displayName name)
  else if parts.1 = "not".toList then (ofSpecChars parts.2).map RunFilter.not
  else .error (.unsupported "filter" (String.ofList parts.1))
termination_by cs.length
decreasing_by
  rename_i isNot
  have shorter := length_splitSpec cs
  cases cs with
  | nil =>
    have isNot : (splitSpec []).1 = "not".toList := isNot
    exact absurd isNot (by decide)
  | cons c rest => exact Nat.lt_of_le_of_lt shorter (by simp)

/-- The filter of a specification. -/
def ofSpec (spec : String) : Except Failure (RunFilter Criterion) :=
  ofSpecChars spec.toList

/-- The failure of a configuration that is none, by its text. -/
def refused (text : String) : Failure :=
  .invalidParameter "filters" text "(expected spec, and, or, not)"

/-- The filter of a key of a mapping, which is no mapping itself. -/
def ofKey : Value → Except Failure (RunFilter Criterion)
  | .text spec => ofSpec spec
  | key => .error (.quoting key.keyToText refused)

mutual

/-- The filter of a configuration: a specification, or a mapping with one of the three connectives as its only key. -/
def ofValue (value : Value) : Except Failure (RunFilter Criterion) :=
  match value with
  | .text spec => ofSpec spec
  | .map [(.text "and", operands)] => (ofOperands operands).map RunFilter.all
  | .map [(.text "or", operands)] => (ofOperands operands).map RunFilter.any
  | .map [(.text "not", operand)] => (ofValue operand).map RunFilter.not
  | value => .error (.quoting value.toText refused)

/-- The filters of the operands of a connective. A text stands for its characters and a mapping for its keys. -/
def ofOperands : Value → Except Failure (List (RunFilter Criterion))
  | .list items => ofValues items
  | .text s => s.toList.mapM fun c => ofSpec (String.singleton c)
  | .map entries => entries.mapM fun entry => ofKey entry.1
  | _ => .error .wrongType

/-- The filters of a list of configurations. -/
def ofValues : List Value → Except Failure (List (RunFilter Criterion))
  | [] => .ok []
  | value :: rest => do return (← ofValue value) :: (← ofValues rest)

end

/-- The filter that all configurations of a list make together, if there are any. -/
def chainOf (configurations : Value) : Except Failure (Option (RunFilter Criterion)) :=
  (ofOperands configurations).map RunFilter.chain

end RunFilter

end RunPicker

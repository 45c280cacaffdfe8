import RunPicker.Failure
import RunPicker.Number.Shortest
import RunPicker.Text.Integer
import RunPicker.Text.Quoted
import RunPicker.Value

/-!
# The texts of values

`Value.display` is the text of a value on its own, where a text is written as it is, and `Value.literal` the text of a
value inside a list or a mapping, where a text is quoted.

An integer with too many digits has no text, and neither has a value that holds one (`Value.hasText`). `Value.toText`
fails for these values. `Value.display` is to be used where there are none: the integers in the history of a job have
texts.
-/

namespace RunPicker.Value

/-- The text of a truth value. -/
def boolText (b : Bool) : String :=
  if b then "True" else "False"

mutual

/-- The text of a value inside a list or a mapping. -/
def literal : Value → String
  | .null => "None"
  | .bool b => boolText b
  | .integer n => toString n
  | .number x => x.text
  | .text s => Text.quoted s
  | .moment m => m.literal
  | .list items => "[" ++ ", ".intercalate (literals items) ++ "]"
  | .map entries => "\x7b" ++ ", ".intercalate (entryLiterals entries) ++ "\x7d"

/-- The texts of the items of a list. -/
def literals : List Value → List String
  | [] => []
  | item :: rest => literal item :: literals rest

/-- The text of a key. A list that stands as a key is put between round brackets. -/
def keyLiteral : Value → String
  | .list [item] => "(" ++ literal item ++ ",)"
  | .list items => "(" ++ ", ".intercalate (literals items) ++ ")"
  | key => literal key

/-- The texts of the entries of a mapping. -/
def entryLiterals : List (Value × Value) → List String
  | [] => []
  | (key, value) :: rest => (keyLiteral key ++ ": " ++ literal value) :: entryLiterals rest

end

/-- The text of a value on its own. -/
def display : Value → String
  | .text s => s
  | .moment m => m.text
  | value => literal value

/-- The text of a key on its own. -/
def keyDisplay : Value → String
  | .list items => keyLiteral (.list items)
  | key => display key

/-- The text of a value as a variable of an environment: that of the value, and truth values in lower case. -/
def exported : Value → String
  | .bool b => if b then "true" else "false"
  | value => display value

/-! ## Values without a text -/

mutual

/-- Has the value a text? The integers in it are not to have more digits than are written. -/
def hasText : Value → Bool
  | .integer n => n.natAbs < Nat.pow 10 Text.maxIntegerDigits
  | .list items => itemsHaveText items
  | .map entries => entriesHaveText entries
  | _ => true

/-- Have all items of a list a text? -/
def itemsHaveText : List Value → Bool
  | [] => true
  | item :: rest => hasText item && itemsHaveText rest

/-- Have all keys and values of the entries of a mapping a text? -/
def entriesHaveText : List (Value × Value) → Bool
  | [] => true
  | (key, value) :: rest => hasText key && hasText value && entriesHaveText rest

end

/-- A text that a value is written as, if the value has texts. -/
def written (value : Value) (text : String) : Except Failure String :=
  if value.hasText then .ok text else .error .wrongValue

/-- The text of a value on its own, if it has one. -/
def toText (value : Value) : Except Failure String :=
  value.written value.display

/-- The text of a value inside a list or a mapping, if it has one. -/
def toLiteral (value : Value) : Except Failure String :=
  value.written value.literal

/-- The text of a key on its own, if it has one. -/
def keyToText (key : Value) : Except Failure String :=
  key.written key.keyDisplay

end RunPicker.Value

namespace RunPicker

/-- What is written as a text, or fails to be. -/
class Textual (ν : Type) where
  toText : ν → Except Failure String

instance : Textual Value := ⟨Value.toText⟩

end RunPicker

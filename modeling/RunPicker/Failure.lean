import RunPicker.Text.Case

/-!
# Failures

Everything that can end an operation early, by its cause. `Failure.message` is the wording of a cause that has one,
`Failure.category` places it in the tree of categories, and `Failure.isCancellation` tells a cancellation, which nothing
may absorb, from an ordinary failure.
-/

namespace RunPicker

/-- The categories of failures. `Category.parent?` makes a tree of them. -/
inductive Category where
  | everything
  | ordinary
  | interruption
  | exit
  | wrongType
  | wrongValue
  | wrongEncoding
  | missingAttribute
  | failedCheck
  | endOfItems
  | runtime
  | notImplemented
  | recursion
  | arithmetic
  | overflow
  | divisionByZero
  | lookup
  | missingKey
  | badIndex
  | system
  | missingFile
  | invalidParameter
  | missingSection
  | unsupported
  | environmentUnavailable
  | notExportable
  | historyNotFound
  | malformedHistory
deriving DecidableEq, Inhabited, Repr

namespace Category

/-- The category that a category is a part of. -/
def parent? : Category → Option Category
  | .everything => none
  | .ordinary | .interruption | .exit => some .everything
  | .wrongEncoding => some .wrongValue
  | .notImplemented | .recursion => some .runtime
  | .overflow | .divisionByZero => some .arithmetic
  | .missingKey | .badIndex => some .lookup
  | .missingFile | .environmentUnavailable | .historyNotFound => some .system
  | _ => some .ordinary

/-- The number of steps from any category to the root of the tree. -/
def depth : Nat := 4

/-- Is the category the other one, or a part of it at most `steps` steps down? -/
def isWithinSteps (other : Category) : Nat → Category → Bool
  | 0, category => category == other
  | steps + 1, category => category == other || category.parent?.any (isWithinSteps other steps)

/-- Is the category the other one, or a part of it? -/
def isWithin (category other : Category) : Bool :=
  isWithinSteps other depth category

end Category

/-- A cause that ends an operation early. -/
inductive Failure where
  /-- A parameter has a value that it cannot have; `hint` says which it can. -/
  | invalidParameter (parameter value hint : String)
  /-- A key names a section that the configuration does not have. -/
  | missingSection (key : String)
  /-- A selector or a filter is of an unknown kind. -/
  | unsupported (kind name : String)
  /-- The snapshot of the environment of a run cannot be had. -/
  | environmentUnavailable (run : String)
  /-- A parameter has no place in an environment. -/
  | notExportable (parameter : String)
  /-- The file with the history of a job is not there. -/
  | historyNotFound (path : String)
  /-- The history of a job is not one. -/
  | malformedHistory (reason : String)
  /-- The last match of a selection was to be forgotten. -/
  | matchReset
  /-- A unit named `name` was to replace what is sealed. -/
  | sealedOverride (name : String)
  /-- A selection asked for more candidates than it may. -/
  | endlessSelection
  /-- The program ends with a code. -/
  | exited (code : Nat)
  /-- Any other failure, by its category and the message it came with. -/
  | fault (category : Category) (message : String)
deriving DecidableEq, Inhabited, Repr

namespace Failure

/-- A failure of a category without a message. -/
def ofCategory (category : Category) : Failure :=
  .fault category ""

/-- A value is of the wrong type for what is asked of it. -/
def wrongType : Failure := ofCategory .wrongType

/-- A value is of the right type and still cannot be used. -/
def wrongValue : Failure := ofCategory .wrongValue

/-- A value has no operation of the name that is asked for. -/
def missingAttribute : Failure := ofCategory .missingAttribute

/-- A number is too large for what is asked of it. -/
def overflow : Failure := ofCategory .overflow

/-- The hint of an invalid parameter, set off by a space if there is one. -/
def hintText (hint : String) : String :=
  if hint.isEmpty then "" else " " ++ hint

/-- The wording of a failure. -/
def message : Failure → String
  | .invalidParameter parameter value hint =>
    "Invalid value '" ++ value ++ "' for the parameter '" ++ parameter ++ "'" ++ hintText hint
  | .missingSection key => "key '" ++ key ++ "' is not specified in configuration"
  | .unsupported kind name => Text.capitalize kind ++ " '" ++ name ++ "' is not supported by runselect"
  | .environmentUnavailable run => "environment of run '" ++ run ++ "' is not available"
  | .notExportable parameter => "parameter '" ++ parameter ++ "' cannot be exported to the environment"
  | .historyNotFound path => "history file '" ++ path ++ "' does not exist"
  | .malformedHistory reason => "working with malformed history: " ++ reason
  | .matchReset => "the last match of the selection cannot be reset"
  | .sealedOverride name => name ++ " cannot override get_next(), implement locate() instead"
  | .endlessSelection => "the selection offers too many candidates"
  | .exited code => toString code
  | .fault _ message => message

/-- The failure that quotes a text, or the one of the text itself if it cannot be had. -/
def quoting (text : Except Failure String) (wording : String → Failure) : Failure :=
  match text with
  | .ok text => wording text
  | .error failure => failure

/-- The category of a failure. -/
def category : Failure → Category
  | .invalidParameter .. => .invalidParameter
  | .missingSection _ => .missingSection
  | .unsupported .. => .unsupported
  | .environmentUnavailable _ => .environmentUnavailable
  | .notExportable _ => .notExportable
  | .historyNotFound _ => .historyNotFound
  | .malformedHistory _ => .malformedHistory
  | .matchReset => .wrongValue
  | .sealedOverride _ => .wrongType
  | .endlessSelection => .runtime
  | .exited _ => .exit
  | .fault category _ => category

/-- Does the failure belong to the category? -/
def isA (failure : Failure) (category : Category) : Bool :=
  failure.category.isWithin category

/-- Is the failure a cancellation, which is to be passed on and never absorbed? -/
def isCancellation (failure : Failure) : Bool :=
  !failure.isA .ordinary

/-- Is the failure one of the operating system's, such as a file that is missing or a snapshot that cannot be read? -/
def isSystem (failure : Failure) : Bool :=
  failure.isA .system

end Failure

/-- An operation whose failures of the given categories are absorbed: then it yields nothing, and the others pass. -/
def suppressing {α : Type} (categories : List Category) : Except Failure α → Except Failure (Option α)
  | .ok value => .ok (some value)
  | .error failure => if categories.any failure.isA then .ok none else .error failure

end RunPicker

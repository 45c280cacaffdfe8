import RunPicker.Run
import RunPicker.Text.Integer

/-!
# Runs of a document

`Run.ofValue` reads the entry of a run: a mapping with a number, and optionally a result, a state, an environment,
parameters and a display name. Each part that is not as it should be has a wording of its own.

The integers in the entry of a run are to have texts (`Value.hasText`). What is read here is said of these entries only.
-/

namespace RunPicker

/-- The integer that a value is cut to: a number without its fraction, a text by the integer that it spells, and a truth
value by its own. -/
def Value.toInteger : Value → Except Failure Int
  | .bool b => .ok (if b then 1 else 0)
  | .integer n => .ok n
  | .number (.finite negative significand exponent) => .ok (Real64.truncate negative significand exponent)
  | .number (.infinite _) => .error .overflow
  | .number .nan => .error .wrongValue
  | .text s => match Text.integer? s with
    | some n => .ok n
    | none => .error .wrongValue
  | _ => .error .wrongType

/-- The integer that a value which is to be a count or a number is cut to. A truth value is neither. -/
def Value.toCount (value : Value) : Except Failure Int :=
  match value with
  | .bool _ => .error .wrongValue
  | value => value.toInteger

namespace Run

/-- The number of a run. -/
def readNumber (value : Value) : Except Failure Int :=
  match value.toCount with
  | .ok number => .ok number
  | .error failure =>
    if failure.isA .wrongType || failure.isA .wrongValue then
      .error (.malformedHistory ("run '" ++ value.display ++ "' has invalid number"))
    else .error failure

/-- The value of an optional part, unless it counts as false. -/
def part? (entries : Entries Value) (name : String) : Option Value :=
  match Entries.named? entries name with
  | some value => if value.isTrue then some value else none
  | none => none

/-- The result of a run, in either case of letters. -/
def readResult (number : Int) (entries : Entries Value) : Except Failure Result :=
  let name := Text.upper (match part? entries "result" with
    | some value => value.display
    | none => "SUCCESS")
  match Result.ofName? name with
  | some result => .ok result
  | none => .error (.malformedHistory ("run " ++ defaultName number ++ " has unknown result '" ++ name ++ "'"))

/-- The snapshot of a run: null says that it is lost. -/
def readSnapshot (number : Int) (entries : Entries Value) : Except Failure Snapshot :=
  match Entries.named? entries "environment" with
  | none => .ok (.available [])
  | some .null => .ok .unavailable
  | some (.map vars) =>
    .ok (.available ((Environment.ofEntries vars).map fun (name, value) => (name, .text value)))
  | some _ => .error (.malformedHistory ("environment of run " ++ defaultName number ++ " is not a mapping"))

/-- The parameters of one contribution. An entry without a value is none. -/
def readContribution : Value → Option (List Parameter)
  | .map entries => some (entries.filterMap fun (name, value) =>
      match value with
      | .null => none
      | value => some (Parameter.ofEntry name value))
  | _ => none

/-- The contributions of parameters of a run. -/
def readContributions (number : Int) (entries : Entries Value) : Except Failure (List (List Parameter)) :=
  let contributions := match part? entries "parameters" with
    | none => some []
    | some (.list items) => items.mapM readContribution
    | some _ => none
  match contributions with
  | some contributions => .ok contributions
  | none => .error (.malformedHistory ("parameters of run " ++ defaultName number ++ " are not list of mappings"))

/-- The run of an entry of a history. -/
def ofValue (value : Value) : Except Failure Run := do
  let noNumber := Failure.malformedHistory ("run '" ++ value.display ++ "' has no number")
  let .map entries := value | .error noNumber
  let some numberValue := Entries.named? entries "number" | .error noNumber
  let number ← readNumber numberValue
  let result ← readResult number entries
  let snapshot ← readSnapshot number entries
  let contributions ← readContributions number entries
  let building := (part? entries "building").isSome
  let displayName := ((Entries.named? entries "display_name").map Value.display).getD ""
  return named { number, result, building, snapshot, contributions, displayName }

end Run

end RunPicker

import RunPicker.CommandLine
import RunPicker.Config
import RunPicker.Job.Stored
import RunPicker.Selection
import RunPicker.Spec

/-!
# The program

The two commands of the program: `Program.select` prints the runs that a selection picks from the history in a file, and
`Program.list` prints the history. The options of a selection take precedence over its configuration (`Plan.of`).
Failures that the user can mend are reported as errors (`reporting`); any other failure leaves the program as it came.
-/

namespace RunPicker

/-- The version of the program. -/
def programVersion : String := "0.3.0"

/-- The failure by which the program ends with an error. -/
def failedExit : Failure := .exited 1

/-- The failure by which the program ends when its words cannot be read. -/
def usageExit : Failure := .exited 2

/-! ## Plans -/

/-- What a selection goes by, but for the number of runs. -/
structure Plan where
  vars : Environment
  selector : Selector
  filter? : Option (RunFilter Criterion)
deriving Inhabited, Repr

/-- The specifications of the filters: those of the options if there are any, or else those of the configuration. -/
def SelectOptions.filterSpecs (options : SelectOptions) (config : Config) : List Value :=
  if options.filters.isEmpty then config.filterSpecs else options.filters.map Value.text

/-- The specification of the selector: that of the options, or else that of the configuration. -/
def SelectOptions.selectorText (options : SelectOptions) (config : Config) : Except Failure String :=
  match options.selector? with
  | some spec => .ok spec
  | none => config.selectorText

/-- The number of runs to select. -/
def SelectOptions.countOf (options : SelectOptions) (config : Config) : Except Failure Nat :=
  match options.count? with
  | some count => .ok count
  | none => config.count

/-- The plan of a selection. The assignments of the options are set over the environment of the configuration. -/
def Plan.of (options : SelectOptions) (config : Config) : Except Failure Plan := do
  let configured ← Environment.ofMapping (← config.environment)
  let assigned ← Environment.ofAssignments options.assignments
  let selector ← Selector.ofSpec (← options.selectorText config)
  let filter? ← RunFilter.chainOf (.list (options.filterSpecs config))
  return ⟨configured.insertAll assigned, selector, filter?⟩

/-! ## Commands -/

namespace Program

variable {σ α : Type}

/-- Is the failure one of the history: a file that is missing or malformed? -/
def isOfHistory : Failure → Bool
  | .malformedHistory _ => true
  | failure => failure.isSystem

/-- Is the failure one that a selection reports: of the history, or of what was asked for? -/
def isOfSelection : Failure → Bool
  | .invalidParameter .. | .unsupported .. => true
  | failure => isOfHistory failure

/-- Reports a failure as an error, with which the program ends. -/
def endWithError (text : String) : Work σ α := do
  Work.onConsole (Console.reportError text true)
  throw failedExit

/-- Work whose failures of some kinds are reported as errors, with which the program ends. -/
def reporting (isReported : Failure → Bool) (work : Work σ α) : Work σ α :=
  tryCatch work fun failure => if isReported failure then endWithError failure.message else throw failure

/-- The configuration of a selection. -/
def configOf (options : SelectOptions) : Work Shelf Config :=
  match options.config? with
  | some path => Work.onPart Shelf.files (fun files shelf => { shelf with files }) (Config.load path)
  | none => return .blank

/-- The runs that a selection picks from a job. The count is looked at last. -/
def selected (job : Job Shelf) (options : SelectOptions) (config : Config) : Work Shelf (List Run) := do
  let plan ← Work.ofExcept (Plan.of options config)
  let enumerator := plan.selector.enumerator
  let judge? := plan.filter?.map fun filter => filter.judge Criterion.judge
  Work.onConsole (Console.inform infoLevel ("Selecting by " ++ enumerator.displayName))
  let count ← Work.ofExcept (options.countOf config)
  (selectRuns candidateLimit job enumerator judge? count).within (Context.fresh plan.vars)

/-- Prints the runs that a selection picks, or warns that there are none, which is an error. -/
def select (history : String) (options : SelectOptions) : Work Shelf Unit := do
  let config ← configOf options
  let job := Shelf.job history
  let runs ← reporting isOfSelection (selected job options config)
  if runs.isEmpty then
    let name ← job.name
    Work.onConsole fun console =>
      console.warn ("no run of " ++ console.settings.highlight name ++ " matches the criteria") "\n"
    throw failedExit
  runs.forM fun run => Work.onConsole fun console =>
    console.item "selected run" (console.settings.highlight run.displayName) "-"

/-- The parameters of a run as a mapping from their names to their values. -/
def parameterEntries (run : Run) : Entries Value :=
  Entries.ofPairs (run.parameters.map fun parameter => (parameter.name, parameter.value))

/-- Prints a run of a list: its name, its state, and its parameters if there are any. -/
def printListed (run : Run) (console : Console) : Console :=
  let state := if run.building then "RUNNING" else console.settings.resultText run.result
  let console := console.item run.displayName state "-"
  let parameters := parameterEntries run
  if parameters.isEmpty then console else console.write (Yaml.printIndented 4 (.map parameters)) ""

/-- Prints the history in a file, from the newest run on. -/
def list (history : String) : Work Shelf Unit := do
  let job := Shelf.job history
  let runs ← reporting isOfHistory do
    let runs ← job.walk
    let name ← job.name
    Work.onConsole (Console.heading name .blue true)
    return runs
  runs.forM fun run => Work.onConsole (printListed run)

/-! ## The program as a whole -/

/-- The settings under general options. The verbosity is raised, and never lowered. -/
def settingsUnder (general : GeneralOptions) (settings : Settings) : Settings :=
  { settings with coloured := !general.colourless, verbosity := max settings.verbosity general.verbosity }

/-- Runs a command. -/
def perform : Command → Work Shelf Unit
  | .select history options => select history options
  | .list history => list history

/-- Does what a command line asks for. -/
def run (line : CommandLine) : Work Shelf Unit :=
  match line with
  | .version => Work.onConsole (Console.write ("Runselect " ++ programVersion) "\n")
  | .unreadable => throw usageExit
  | .command general command? => do
    Work.onConsole fun console => { console with settings := settingsUnder general console.settings }
    match command? with
    | some command => perform command
    | none => throw usageExit

/-- What the program does when it is interrupted. -/
def interrupted : Work σ Unit :=
  endWithError "interrupted by user"

/-- The code that the program ends with. -/
def exitCode : Except Failure Unit → Nat
  | .ok _ => 0
  | .error (.exited code) => code
  | .error _ => 1

end Program

end RunPicker

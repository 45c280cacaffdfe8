import RunPicker.CommandLine.Switch
import RunPicker.Text.Integer

/-!
# Command lines

A command line is a list of words: general options, the name of a command, and the words of that command.
`CommandLine.ofWords` reads it. The general options count even where the words of the command cannot be read.
-/

namespace RunPicker

/-- The options that stand before a command. -/
structure GeneralOptions where
  colourless : Bool
  verbosity : Nat
  version : Bool
deriving DecidableEq, Inhabited, Repr

/-- The options of a selection. -/
structure SelectOptions where
  config? : Option String
  selector? : Option String
  filters : List String
  assignments : List String
  count? : Option Nat
deriving DecidableEq, Inhabited, Repr

/-- A command on the history in a file: to select runs of it, or to list them. -/
inductive Command where
  | select (history : String) (options : SelectOptions)
  | list (history : String)
deriving DecidableEq, Inhabited, Repr

/-- What a command line asks for. -/
inductive CommandLine where
  /-- The version of the program. -/
  | version
  /-- A command, under general options. There is none if its words cannot be read. -/
  | command (general : GeneralOptions) (command? : Option Command)
  /-- Nothing, as the words cannot be read. -/
  | unreadable
deriving DecidableEq, Inhabited, Repr

namespace GeneralOptions

/-- No options. -/
def blank : GeneralOptions := ⟨false, 0, false⟩

/-- The switches of the general options. Each one for the verbosity raises it by one. -/
def switches : List (Switch GeneralOptions) :=
  [⟨["--no-color", "-nc"], .flag fun options => { options with colourless := true }⟩,
   ⟨["--verbose", "-v"], .flag fun options => { options with verbosity := options.verbosity + 1 }⟩,
   ⟨["--version"], .flag fun options => { options with version := true }⟩]

/-- The general options at the front of some words, and the words behind them. -/
def read (words : List String) : Option (GeneralOptions × List String) :=
  Switch.read switches false blank words

end GeneralOptions

namespace SelectOptions

/-- No options. -/
def blank : SelectOptions := ⟨none, none, [], [], none⟩

/-- The options of a selection while they are read: the count is a text still. -/
structure Draft where
  options : SelectOptions
  count? : Option String
deriving Inhabited

/-- The draft with its options changed. -/
def Draft.with (change : SelectOptions → SelectOptions) (draft : Draft) : Draft :=
  { draft with options := change draft.options }

/-- The switches of a selection. Filters and assignments gather, and of the others the last counts. -/
def switches : List (Switch Draft) :=
  [⟨["--config", "-c"], .valued fun path => Draft.with fun options => { options with config? := some path }⟩,
   ⟨["--selector", "-s"], .valued fun spec => Draft.with fun options => { options with selector? := some spec }⟩,
   ⟨["--filter", "-f"], .valued fun spec => Draft.with fun options =>
      { options with filters := options.filters ++ [spec] }⟩,
   ⟨["--env", "-e"], .valued fun text => Draft.with fun options =>
      { options with assignments := options.assignments ++ [text] }⟩,
   ⟨["--count", "-n"], .valued fun text draft => { draft with count? := some text }⟩]

/-- The positive number that a text spells. -/
def positive? (text : String) : Option Nat :=
  match Text.integer? text with
  | some (.ofNat (count + 1)) => some (count + 1)
  | _ => none

/-- A text that is not empty. -/
def nonempty? (text? : Option String) : Option String :=
  text?.filter fun text => !text.isEmpty

/-- The options of a draft. An empty configuration or selector is as good as none. -/
def Draft.finish (draft : Draft) : Option SelectOptions :=
  let options := { draft.options with
    config? := nonempty? draft.options.config?, selector? := nonempty? draft.options.selector? }
  match draft.count? with
  | none => some options
  | some text => (positive? text).map fun count => { options with count? := some count }

/-- The options of a selection among some words, and the other words. -/
def read (words : List String) : Option (SelectOptions × List String) := do
  let (draft, rest) ← Switch.read switches true ⟨blank, none⟩ words
  return (← draft.finish, rest)

end SelectOptions

namespace Command

/-- The command that selects, of its words. -/
def ofSelectWords (words : List String) : Option Command :=
  match SelectOptions.read words with
  | some (options, [history]) => some (.select history options)
  | _ => none

/-- The command that lists, of its words. It has no switches. -/
def ofListWords (words : List String) : Option Command :=
  match Switch.read [] true () words with
  | some (_, [history]) => some (.list history)
  | _ => none

/-- How the words of a command are read, by its name. -/
def readerOf? : String → Option (List String → Option Command)
  | "select" => some ofSelectWords
  | "log" => some ofListWords
  | _ => none

end Command

namespace CommandLine

/-- Do some words begin with general options that ask for the version? -/
def asksForVersion (words : List String) : Bool :=
  (GeneralOptions.read words).any fun (general, _) => general.version

/-- What a list of words asks for. What stands in the place of a command that is unknown is read as general options
once more, for the version only. -/
def ofWords (words : List String) : CommandLine :=
  match GeneralOptions.read words with
  | none => .unreadable
  | some (general, rest) =>
    if general.version then .version
    else match rest with
      | [] => .unreadable
      | name :: words => match Command.readerOf? name with
        | some reader => .command general (reader words)
        | none => if asksForVersion rest then .version else .unreadable

end CommandLine

end RunPicker

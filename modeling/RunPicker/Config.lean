import RunPicker.Config.Key
import RunPicker.Config.Section
import RunPicker.FileStore
import RunPicker.Filter.Criterion
import RunPicker.Run.Reading
import RunPicker.Yaml.Loading
import RunPicker.Yaml.Printing

/-!
# Configurations

A configuration is a document with the selector, the filters, the count and the variables of a selection. It is a store
of nested sections, from which `Config.get` takes the value of a key. `Config.put` sets one, and `Config.set` also keeps
the file of the configuration up to date.
-/

namespace RunPicker

namespace Value

/-- A key as a value. Of a list that stands as a key the text is kept. -/
def ofKey : Value → Value
  | .list items => .text (keyDisplay (.list items))
  | key => key

/-- The key and the value that an item of a list of pairs stands for: a list of two, a text of two characters, or the
two keys of a mapping. -/
def asPair : Value → Except Failure (Value × Value)
  | .list [key, value] => if key.isKey then .ok (key, value) else .error .wrongType
  | .text s => match s.toList with
    | [key, value] => .ok (.text (String.singleton key), .text (String.singleton value))
    | _ => .error .wrongValue
  | .map [(key, _), (value, _)] => .ok (key, ofKey value)
  | .list _ | .map _ => .error .wrongValue
  | _ => .error .wrongType

/-- The entries with the pair of an item set. -/
def insertPair (entries : Entries Value) (item : Value) : Except Failure (Entries Value) :=
  item.asPair.map fun (key, value) => Entries.insert entries key value

/-- The entries that a value stands for, which is a mapping or a list of pairs. A value that counts as false stands for
none. -/
def asEntries (value : Value) : Except Failure (Entries Value) :=
  if value.isTrue then
    match value with
    | .map entries => .ok entries
    | .list items => items.foldlM insertPair []
    | .text _ => .error .wrongValue
    | _ => .error .wrongType
  else .ok []

end Value

/-- A configuration: the path of its file, which is empty if it has none, and its document. -/
structure Config where
  path : String
  data : Yaml.Document
deriving Inhabited, Repr

/-- A configuration, and the files of which one may be its own. -/
structure StoredConfig where
  config : Config
  files : FileStore
deriving Inhabited, Repr

/-- The specification of the selector where none is given. -/
def defaultSelectorSpec : String := "status:completed"

namespace Config

/-- The configuration without a file in which nothing is set. -/
def blank : Config := ⟨"", .empty⟩

/-- What is set. -/
def value (config : Config) : Value := config.data.value

/-- The value of a key. -/
def get (config : Config) (key : String) : Except Failure Value := do
  match config.value.within? (← sectionsOfKey key) with
  | some value => return value
  | none => .error (.missingSection key)

/-- The value of a key, or another one if a section of the key is missing. -/
def getOr (config : Config) (key : String) (default : Value) : Except Failure Value :=
  match config.get key with
  | .error (.missingSection _) => .ok default
  | result => result

/-- Sets the value of a key, and gives the configuration as it is then. -/
def put (config : Config) (key : String) (value : Value) : Except Failure Unit × Config :=
  match sectionsOfKey key with
  | .ok names =>
    let (result, data) := Yaml.Document.putWithin (.ofValue value) names config.data
    (result, { config with data })
  | .error failure => (.error failure, config)

/-- The value that is configured as the selector. -/
def configuredSelector (config : Config) : Value :=
  (config.value.within? ["selection", "selector"]).getD (.text defaultSelectorSpec)

/-- The specification of the selector. -/
def selectorSpec (config : Config) : String :=
  config.configuredSelector.display

/-- The specification of the selector, if what is configured has a text. -/
def selectorText (config : Config) : Except Failure String :=
  config.configuredSelector.written config.selectorSpec

/-- The configurations of the filters. One that stands alone is a list of one. -/
def filterSpecs (config : Config) : List Value :=
  match config.value.within? ["selection", "filters"] with
  | some (.list filters) => filters
  | some filter => [filter]
  | none => []

/-- The failure of a count that is none, by its text. -/
def invalidCount (text : String) : Failure :=
  .invalidParameter "selection.count" text "(expected positive integer)"

/-- The number of runs that are selected at most. -/
def count (config : Config) : Except Failure Nat :=
  let value := (config.value.within? ["selection", "count"]).getD (.integer 1)
  match value.toCount with
  | .ok count => if count < 1 then .error (.quoting value.toText invalidCount) else .ok count.toNat
  | .error failure =>
    if failure.isA .wrongType || failure.isA .wrongValue then .error (.quoting value.toText invalidCount)
    else .error failure

/-- The entries of the environment. -/
def environment (config : Config) : Except Failure (Entries Value) :=
  ((config.value.within? ["environment"]).getD .empty).asEntries

/-- Writes a document to a file. The file is opened first, and so a document without a text leaves it empty. -/
def write (path : String) (data : Yaml.Document) : Work FileStore Unit := do
  unless (← Work.host).canWrite path do throw (.ofCategory .missingFile)
  if data.value.hasText then Work.onHost fun files => files.write path ⟨data.print, 0⟩
  else
    Work.onHost fun files => files.write path ⟨"", 0⟩
    throw .wrongValue

/-- Sets the value of a key, and writes the configuration to its file if it has one. -/
def set (key : String) (value : Value) : Work StoredConfig Unit := do
  let (result, config) := (← Work.host).config.put key value
  Work.onHost fun stored => { stored with config }
  Work.ofExcept result
  unless config.path.isEmpty do
    Work.onPart StoredConfig.files (fun files stored => { stored with files }) (write config.path config.data)

/-- The configuration in a file. One that is missing, or that is no mapping, counts as empty. -/
def load (path : String) : Work FileStore Config := do
  let files ← Work.host
  if (files.get? path).isNone then
    Work.onConsole (Console.warn ("configuration '" ++ path ++ "' does not exist, using defaults") "\n")
    return blank
  let data ← Yaml.loadFile files path
  if data.isMap then return ⟨path, data⟩
  Work.onConsole (Console.warn ("configuration '" ++ path ++ "' is not a mapping, using defaults") "\n")
  return ⟨path, .empty⟩

end Config

end RunPicker

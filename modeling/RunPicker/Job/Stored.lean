import RunPicker.Job
import RunPicker.Run.Reading
import RunPicker.Text.Cut
import RunPicker.Yaml.Loading

/-!
# Stored jobs

A job whose history is a document in a file. The file is read again whenever its stamp has changed since it was last
read in full, so `Shelf.cache` only saves work: what fails to be read leaves it as it was.
-/

namespace RunPicker

/-- What was last read in full: the stamp of the file, the document, and the runs in it. -/
structure HistoryCache where
  stamp? : Option Stamp
  content : Entries Value
  runs : List Run
deriving Inhabited, Repr

/-- The files, and the cache of the one with the history. -/
structure Shelf where
  files : FileStore
  cache : HistoryCache
deriving Inhabited, Repr

namespace HistoryCache

/-- The cache before anything was read. -/
def empty : HistoryCache := ⟨none, [], []⟩

end HistoryCache

/-- The last part of a path. -/
def baseName (path : String) : String :=
  ((Text.splitAll '/' path).getLast?).getD path

/-- The document and the runs of a history, each run as its entry says, in the order of their numbers. -/
def readHistory (content : Value) : Except Failure (Entries Value × List Run) := do
  let .map entries := content | .error (.malformedHistory "the history is not a mapping")
  let runs ← match Run.part? entries "runs" with
    | none => pure []
    | some (.list items) => pure items
    | some _ => .error (.malformedHistory "'runs' is not a list")
  return (entries, sortedRuns (← runs.mapM Run.ofValue))

namespace Shelf

/-- Reads the history in a file in full and keeps it under the stamp that the file has. -/
def reload (path : String) (stamp : Stamp) : Work Shelf HistoryCache := do
  let document ← Yaml.loadFile (← Work.host).files path
  let (content, runs) ← Work.ofExcept (readHistory document.value)
  Work.onConsole (Console.inform infoLevel ("Loaded " ++ toString runs.length ++ " runs from " ++ path))
  let cache : HistoryCache := ⟨some stamp, content, runs⟩
  Work.onHost fun shelf => { shelf with cache }
  return cache

variable {σ : Type}

/-- The document and the runs of the history in a file of a shelf, which is only read if its stamp has changed. -/
def loadWith (shelf : σ → Shelf) (reload : Stamp → Work σ HistoryCache) (path : String) : Work σ HistoryCache := do
  let shelf := shelf (← Work.host)
  let some file := shelf.files.get? path | throw (.historyNotFound path)
  if shelf.cache.stamp? == some file.stamp then return shelf.cache
  reload file.stamp

/-- The job whose history is loaded from a file. Its name is in the document, or else that of the file. -/
def jobOf (load : Work σ HistoryCache) (path : String) : Job σ where
  name := do
    let cache ← load
    return ((Entries.named? cache.content "job").map Value.display).getD (baseName path)
  history := do return (← load).runs

/-- The document and the runs of the history in a file. -/
def load (path : String) : Work Shelf HistoryCache :=
  loadWith id (reload path) path

/-- The job whose history is in a file. -/
def job (path : String) : Job Shelf :=
  jobOf (load path) path

end Shelf

end RunPicker

import RunPicker.Text.Cut
import RunPicker.Text.Lines

/-!
# Files

Files by their paths, each with its text and the time when it was last changed. A text is read with every kind of line
end turned into a line feed. A directory is there as long as a file stands in it.
-/

namespace RunPicker

/-- A file. -/
structure StoredFile where
  content : String
  changed : Int
deriving DecidableEq, Inhabited, Repr

/-- What tells the versions of a file apart: when it was changed, and its size in bytes. -/
structure Stamp where
  changed : Int
  size : Nat
deriving DecidableEq, Inhabited, Repr

/-- Files by their names. -/
abbrev FileStore := List (String × StoredFile)

namespace StoredFile

/-- The stamp of a file. -/
def stamp (file : StoredFile) : Stamp :=
  ⟨file.changed, file.content.utf8ByteSize⟩

/-- The text of a file. -/
def text (file : StoredFile) : String :=
  String.ofList (Text.unifyLineEnds file.content.toList)

end StoredFile

namespace FileStore

/-- The directories on the way to a path, which are none in the working directory. -/
def directoriesOf (path : String) : List String :=
  (Text.splitAll '/' path).dropLast

/-- Do the names lead to a directory? That is the working directory, or one in which a file stands. -/
def isDirectory (files : FileStore) (names : List String) : Bool :=
  names.isEmpty || files.any fun entry => names.isPrefixOf (directoriesOf entry.1)

/-- Can a file be written to the path? The file has to have a name, which no directory has, and its directory has to be
there. -/
def canWrite (files : FileStore) (path : String) : Bool :=
  let names := Text.splitAll '/' path
  let name := names.getLastD ""
  name != "" && name != "." && name != ".." && !files.isDirectory names && files.isDirectory names.dropLast

/-- The file of a name. -/
def get? (files : FileStore) (path : String) : Option StoredFile :=
  (files.find? fun entry => entry.1 == path).map Prod.snd

/-- The files with one written. -/
def write : FileStore → String → StoredFile → FileStore
  | [], path, file => [(path, file)]
  | entry :: rest, path, file => if entry.1 == path then (path, file) :: rest else entry :: write rest path file

/-- The files without one. -/
def delete (files : FileStore) (path : String) : FileStore :=
  files.filter fun entry => entry.1 != path

/-- A file that was written is there. -/
theorem get?_write (files : FileStore) (path : String) (file : StoredFile) :
    (files.write path file).get? path = some file := by
  induction files with
  | nil => simp [FileStore.write, FileStore.get?]
  | cons entry rest ih =>
    rw [FileStore.write]
    by_cases hpath : (entry.1 == path) = true
    · rw [if_pos hpath]
      simp [FileStore.get?]
    · rw [if_neg hpath]
      simpa [FileStore.get?, hpath] using ih

/-- A file that was deleted is not there. -/
theorem get?_delete (files : FileStore) (path : String) : (files.delete path).get? path = none := by
  simp [FileStore.delete, FileStore.get?]

end FileStore

end RunPicker

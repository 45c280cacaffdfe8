import RunPicker.FileStore
import RunPicker.Work
import RunPicker.Yaml.Reading

/-!
# Loading documents

Documents are loaded leniently: one that is missing or malformed is told in a warning and counts as empty. A document
whose value counts as false is empty too.

The warning about a malformed document does not tell what is wrong with it: `<yaml error>` stands for the words of the
reader, which are of no account anywhere else.
-/

namespace RunPicker.Yaml

variable {σ : Type}

/-- The document in a text. -/
def loadText (text : String) : Work σ Document :=
  match read text with
  | .ok document => return if document.value.isTrue then document else .empty
  | .error .malformed => do
    Work.onConsole (Console.warn "malformed yaml stream: <yaml error>" "\n")
    return .empty
  | .error (.noValue failure) => throw failure

/-- The document in a file. -/
def loadFile (files : FileStore) (path : String) : Work σ Document :=
  match files.get? path with
  | some file => loadText file.text
  | none => do
    Work.onConsole (Console.warn ("yaml document '" ++ path ++ "' does not exist") "\n")
    return .empty

end RunPicker.Yaml

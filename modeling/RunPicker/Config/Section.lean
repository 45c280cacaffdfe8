import RunPicker.Failure
import RunPicker.Yaml.Document

/-!
# Sections

The sections of a document are its mappings, each under a key that is a text. `Value.within?` looks up what is under
some sections, and `Document.putWithin` puts something there, creating the sections that are missing on the way; a
section that was created stays if the rest fails. The section that is changed is changed wherever it stands in the
document.
-/

namespace RunPicker

/-- The value under some sections, each within the one before. -/
def Value.within? : List String → Value → Option Value
  | [], value => some value
  | name :: rest, .map entries => (Entries.named? entries name).bind (within? rest)
  | _ :: _, _ => none

namespace Yaml.Document

/-- What a descent into some sections leaves behind: the part as it is then, the innermost part with a label that was
passed, and the failure that ended the descent, if there was one. -/
structure Change where
  part : Document
  labelled? : Option Document
  failure? : Option Failure
deriving Inhabited, Repr

/-- The change of a mapping by what a descent into one of its sections leaves behind. -/
def Change.within (label? : Option Nat) (entries : Entries Document) (name : String) (inner : Change) : Change :=
  let part := .map label? (Entries.insert entries (.text name) inner.part)
  ⟨part, inner.labelled? <|> label?.map fun _ => part, inner.failure?⟩

/-- Descends into some sections and puts `inner` there. A section that is missing is created before the descent goes on,
and what is to hold a section has to be a mapping. -/
def change (inner : Document) : List String → Document → Change
  | [], _ => ⟨inner, none, none⟩
  | name :: rest, .map label? entries =>
    Change.within label? entries name (change inner rest ((Entries.named? entries name).getD .empty))
  | [_], part => ⟨part, none, some .wrongType⟩
  | _ :: _, part => ⟨part, none, some .missingAttribute⟩

/-- Puts `inner` under some sections of a document, and gives the document as it is then. -/
def putWithin (inner : Document) (names : List String) (document : Document) : Except Failure Unit × Document :=
  let change := change inner names document
  (match change.failure? with
    | some failure => .error failure
    | none => .ok (),
   match change.labelled? with
    | some part => withChanged part change.part
    | none => change.part)

end Yaml.Document

end RunPicker

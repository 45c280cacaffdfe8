import RunPicker.Failure
import RunPicker.Text.Cut
import RunPicker.Value

/-!
# Keys of a configuration

A key names a value of a configuration by the sections on the way to it, with dots between them. `isValidKey` says which
texts are keys, and `sectionsOfKey` gives the sections of a key. One line feed at the end of a key is let pass, and is a
part of its last section.
-/

namespace RunPicker

/-- May the character stand in a section? -/
def isSectionChar (c : Char) : Bool :=
  c.isAlphanum || c == '_'

/-- Are the characters a section? -/
def isSection (cs : List Char) : Bool :=
  !cs.isEmpty && cs.all isSectionChar

/-- The characters without one line feed at their end. -/
def withoutFinalLineFeed : List Char → List Char
  | [] => []
  | ['\n'] => []
  | c :: rest => c :: withoutFinalLineFeed rest

/-- Is the text a key? -/
def isValidKey (key : String) : Bool :=
  (Text.splitChars '.' (withoutFinalLineFeed key.toList)).all isSection

/-- The text of a value that is to be a key. -/
def keyText : Value → Except Failure String
  | .text key => .ok key
  | _ => .error .wrongType

/-- The sections of a key. -/
def sectionsOfKey (key : String) : Except Failure (List String) :=
  if isValidKey key then .ok (Text.splitAll '.' key) else .error (.invalidParameter "key" key "")

end RunPicker

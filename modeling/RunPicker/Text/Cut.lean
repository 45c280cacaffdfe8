/-!
# Cutting texts

A text is cut at the first place where a separator stands (`cutAt`), at every such place (`splitAll`), or at the first
few of them (`splitFirst`).
-/

namespace RunPicker.Text

/-- The characters before the first separator, and those after it if there is one. -/
def cutChars (separator : Char) : List Char → List Char × Option (List Char)
  | [] => ([], none)
  | c :: rest =>
    if c == separator then ([], some rest)
    else
      let (front, back) := cutChars separator rest
      (c :: front, back)

/-- The text before the first separator, and the text after it if there is one. -/
def cutAt (separator : Char) (text : String) : String × Option String :=
  let (front, back) := cutChars separator text.toList
  (String.ofList front, back.map String.ofList)

/-- The pieces of a list of characters between the separators. -/
def splitChars (separator : Char) : List Char → List (List Char)
  | [] => [[]]
  | c :: rest =>
    if c == separator then [] :: splitChars separator rest
    else match splitChars separator rest with
      | [] => [[c]]
      | piece :: pieces => (c :: piece) :: pieces

/-- The pieces of a text between the separators. -/
def splitAll (separator : Char) (text : String) : List String :=
  (splitChars separator text.toList).map String.ofList

/-- The characters before the first place where a word stands, and those after the word. -/
def cutWord? (word : List Char) : List Char → Option (List Char × List Char)
  | [] => if word.isEmpty then some ([], []) else none
  | c :: rest =>
    if word.isPrefixOf (c :: rest) then some ([], (c :: rest).drop word.length)
    else (cutWord? word rest).map fun (front, back) => (c :: front, back)

/-- The last piece of a text cut at the first `limit` places where a word stands. -/
def lastPiece (word : List Char) : Nat → List Char → List Char
  | 0, cs => cs
  | limit + 1, cs => match cutWord? word cs with
    | some (_, back) => lastPiece word limit back
    | none => cs

/-- Does the text hold the word? -/
def holdsWord (word text : String) : Bool :=
  (cutWord? word.toList text.toList).isSome

end RunPicker.Text

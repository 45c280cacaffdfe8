/-!
# References to variables

A text is read as a row of pieces: references to variables (`$NAME`, or `${NAME}` where the name may also have dots),
dollar signs that are written twice, and everything else character by character. `pieces` reads them, and
`Piece.source` is the way that a piece was written.
-/

namespace RunPicker

/-- A piece of a text with references. -/
inductive Piece where
  | plain (c : Char)
  | dollar
  | reference (name : List Char) (braced : Bool)
deriving DecidableEq, Inhabited, Repr

namespace Piece

/-- The piece as it was written. -/
def source : Piece → List Char
  | .plain c => [c]
  | .dollar => ['$', '$']
  | .reference name false => '$' :: name
  | .reference name true => '$' :: '\x7b' :: name ++ ['\x7d']

end Piece

/-- May the character stand in the name of a variable? -/
def isNameChar (c : Char) : Bool :=
  c.isAlphanum || c == '_'

/-- May the character stand in the name of a variable between braces? -/
def isBracedNameChar (c : Char) : Bool :=
  isNameChar c || c == '.'

/-- The piece that starts with a dollar sign, by the characters after the sign. -/
def pieceAfterDollar? : List Char → Option Piece
  | [] => none
  | c :: rest =>
    if isNameChar c then some (.reference (c :: rest.takeWhile isNameChar) false)
    else if c == '\x7b' then
      let name := rest.takeWhile isBracedNameChar
      if name.isEmpty || (rest.dropWhile isBracedNameChar).head? != some '\x7d' then none
      else some (.reference name true)
    else if c == '$' then some .dollar
    else none

/-- The piece at the front of a text that is not empty. -/
def firstPiece (c : Char) (rest : List Char) : Piece :=
  if c == '$' then (pieceAfterDollar? rest).getD (.plain c) else .plain c

/-- The pieces of a text. -/
def pieces : List Char → List Piece
  | [] => []
  | c :: rest => firstPiece c rest :: pieces (rest.drop ((firstPiece c rest).source.length - 1))
termination_by cs => cs.length
decreasing_by simp only [List.length_drop, List.length_cons]; omega

end RunPicker

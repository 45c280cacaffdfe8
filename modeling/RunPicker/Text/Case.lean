import RunPicker.Text.CaseTable

/-!
# Upper, lower and title case

Case mappings of whole texts. A character may map to several (`ß` becomes `SS`), and the capital sigma has two small
forms: the final one where a cased letter stands before it and none after it, with the ignorable characters between
passed over.
-/

namespace RunPicker.Text

/-- The character of a code point moved by a distance. -/
def CaseShift.apply? (shift : CaseShift) (code : Nat) : Option Char :=
  if shift.first ≤ code && code ≤ shift.last && (code - shift.first) % shift.step == 0 then
    some (Char.ofNat ((code : Int) + shift.distance).toNat)
  else none

/-- The mapping of one character by a table of shifts and a table of spelled-out characters, if it has one. -/
def caseMapping? (shifts : List CaseShift) (spelled : List (Nat × List Nat)) (c : Char) : Option (List Char) :=
  match shifts.findSome? fun shift => shift.apply? c.toNat with
  | some mapped => some [mapped]
  | none => (spelled.lookup c.toNat).map fun codes => codes.map Char.ofNat

/-- The upper case of one character. -/
def upperChar (c : Char) : List Char :=
  (caseMapping? upperShifts upperSpelled c).getD [c]

/-- The lower case of one character, wherever it stands. -/
def lowerChar (c : Char) : List Char :=
  (caseMapping? lowerShifts lowerSpelled c).getD [c]

/-- The title case of one character: its upper case, unless it has a title case of its own. -/
def titleChar (c : Char) : List Char :=
  if CharRange.covers titleKept c.toNat then [c]
  else (caseMapping? titleShifts titleSpelled c).getD (upperChar c)

/-- Is the character a letter with case? -/
def isCased (c : Char) : Bool :=
  CharRange.covers casedRanges c.toNat

/-- Is the character passed over when the case around a letter is looked at? -/
def isCaseIgnorable (c : Char) : Bool :=
  CharRange.covers caseIgnorableRanges c.toNat

/-- Is the first character that is not passed over a cased one? -/
def meetsCased (cs : List Char) : Bool :=
  match cs.dropWhile isCaseIgnorable with
  | [] => false
  | c :: _ => isCased c

/-- The lower case of a character between the characters before it, nearest first, and those after it. -/
def lowerWithin (before : List Char) (c : Char) (after : List Char) : List Char :=
  if c == 'Σ' then
    if meetsCased before && !meetsCased after then ['ς'] else ['σ']
  else lowerChar c

/-- The text in upper case. -/
def upper (text : String) : String :=
  String.ofList (text.toList.flatMap upperChar)

/-- The lower case of the characters that stand after those in `before`, nearest first. -/
def lowerAfter (before : List Char) : List Char → List Char
  | [] => []
  | c :: rest => lowerWithin before c rest ++ lowerAfter (c :: before) rest

/-- The text with its first character in title case and all others in lower case. -/
def capitalize (text : String) : String :=
  match text.toList with
  | [] => ""
  | c :: rest => String.ofList (titleChar c ++ lowerAfter [c] rest)

/-- Title case of the characters after those in `before`: a character is in lower case after a cased one, and in title
case elsewhere. -/
def titleAfter (before : List Char) : List Char → List Char
  | [] => []
  | c :: rest =>
    let mapped := match before with
      | previous :: _ => if isCased previous then lowerWithin before c rest else titleChar c
      | [] => titleChar c
    mapped ++ titleAfter (c :: before) rest

/-- The text in title case: every word starts in title case and goes on in lower case. -/
def title (text : String) : String :=
  String.ofList (titleAfter [] text.toList)

end RunPicker.Text

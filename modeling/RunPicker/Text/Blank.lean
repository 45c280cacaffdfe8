import RunPicker.Text.CharRange

/-!
# Blank characters

The characters that count as blank when the ends of a text are trimmed: the white space of the Unicode character
database, version 14.0, and the four information separators U+001C to U+001F.
-/

namespace RunPicker.Text

/-- The closed ranges of blank characters. -/
def blankRanges : List CharRange :=
  [(0x9, 0xD), (0x1C, 0x20), (0x85, 0x85), (0xA0, 0xA0), (0x1680, 0x1680), (0x2000, 0x200A), (0x2028, 0x2029),
   (0x202F, 0x202F), (0x205F, 0x205F), (0x3000, 0x3000)]

/-- Is the character blank? -/
def isBlank (c : Char) : Bool :=
  CharRange.covers blankRanges c.toNat

/-- The text without the blank characters at its front. -/
def dropBlank (cs : List Char) : List Char :=
  cs.dropWhile isBlank

/-- The characters without the blank ones at either end. -/
def trimChars (cs : List Char) : List Char :=
  (dropBlank (dropBlank cs).reverse).reverse

/-- The text without the blank characters at either end. -/
def trim (text : String) : String :=
  String.ofList (trimChars text.toList)

end RunPicker.Text

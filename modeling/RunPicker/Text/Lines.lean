/-!
# Lines

The boundaries between lines, and two ways of using them: `splitLines` cuts a text into its lines, and `indentLines`
puts blanks in front of each. A carriage return and the line feed after it are one boundary.
-/

namespace RunPicker.Text

/-- Does the character end a line? -/
def isLineBreak (c : Char) : Bool :=
  ['\n', '\x0b', '\x0c', '\r', '\x1c', '\x1d', '\x1e', '\u0085', '\u2028', '\u2029'].contains c

/-- The lines of a text, each with the characters that end it; `current` holds the line so far, last character first. -/
def linesFrom (current : List Char) : List Char → List (List Char × List Char)
  | [] => if current.isEmpty then [] else [(current.reverse, [])]
  | '\r' :: '\n' :: rest => (current.reverse, ['\r', '\n']) :: linesFrom [] rest
  | c :: rest => if isLineBreak c then (current.reverse, [c]) :: linesFrom [] rest else linesFrom (c :: current) rest

/-- The lines of a text, without their ends. -/
def splitLines (text : String) : List String :=
  (linesFrom [] text.toList).map fun line => String.ofList line.1

/-- The text with `width` spaces in front of each line. -/
def indentLines (width : Nat) (text : String) : String :=
  String.ofList ((linesFrom [] text.toList).flatMap fun line => List.replicate width ' ' ++ line.1 ++ line.2)

/-- The text with every kind of line end that a file may use turned into a line feed. -/
def unifyLineEnds : List Char → List Char
  | [] => []
  | '\r' :: '\n' :: rest => '\n' :: unifyLineEnds rest
  | '\r' :: rest => '\n' :: unifyLineEnds rest
  | c :: rest => c :: unifyLineEnds rest

end RunPicker.Text

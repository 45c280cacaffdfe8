/-!
# Cursors

A place in a text: the characters from there on, and the index, the line and the column of the place. The length of the
whole text goes along, since it bounds how often anything can be read from a place on.
-/

namespace RunPicker.Yaml

/-- A place in a text. -/
structure Cursor where
  rest : List Char
  textLength : Nat
  index : Nat
  line : Nat
  column : Nat
deriving Inhabited, Repr

/-- The character that stands for the end of a text, which no document holds. -/
def endOfText : Char := '\x00'

/-- Does the character break a line? -/
def isBreak (c : Char) : Bool :=
  c == '\n' || c == '\r' || c == '\u0085' || c == '\u2028' || c == '\u2029'

/-- Does the character break a line, or does the text end? -/
def isBreakOrEnd (c : Char) : Bool :=
  isBreak c || c == endOfText

/-- Does a comment or a line of a block end at the character? -/
def isLineEnd (c : Char) : Bool :=
  c == '\n' || c == '\r' || c == '\u0085' || c == endOfText

/-- Is the character a space or a tab? -/
def isSpace (c : Char) : Bool :=
  c == ' ' || c == '\t'

/-- Does an indicator end before the character? -/
def isGap (c : Char) : Bool :=
  isLineEnd c || isSpace c

namespace Cursor

/-- The place at the start of a text. -/
def start (cs : List Char) : Cursor :=
  ⟨cs, cs.length, 0, 0, 0⟩

/-- The character some places further on. -/
def ahead (cursor : Cursor) (places : Nat) : Char :=
  (cursor.rest.drop places).headD endOfText

/-- The character at the place. -/
def here (cursor : Cursor) : Char :=
  cursor.rest.headD endOfText

/-- Does the text end at the place? -/
def atEnd (cursor : Cursor) : Bool :=
  cursor.rest.isEmpty

/-- The place behind one character. -/
def next (cursor : Cursor) : Cursor :=
  match cursor.rest with
  | [] => cursor
  | c :: rest =>
    if c == '\n' || (c == '\r' && rest.head? != some '\n') then
      { cursor with rest := rest, index := cursor.index + 1, line := cursor.line + 1, column := 0 }
    else
      let column := if c == '\ufeff' then cursor.column else cursor.column + 1
      { cursor with rest := rest, index := cursor.index + 1, column := column }

/-- The place behind some characters. -/
def skip (cursor : Cursor) (places : Nat) : Cursor :=
  places.repeat next cursor

/-- The characters from the place on that pass a test, and the place behind them. -/
def span (cursor : Cursor) (test : Char → Bool) : List Char × Cursor :=
  let run := cursor.rest.takeWhile test
  (run, cursor.skip run.length)

/-- The place behind the characters that pass a test. -/
def skipWhile (cursor : Cursor) (test : Char → Bool) : Cursor :=
  (cursor.span test).2

/-- The line break at the place, if there is one: most kinds are read as a line feed. -/
def lineBreak (cursor : Cursor) : Option Char × Cursor :=
  match cursor.rest with
  | '\r' :: '\n' :: _ => (some '\n', cursor.skip 2)
  | c :: _ =>
    if c == '\u2028' || c == '\u2029' then (some c, cursor.next)
    else if isBreak c then (some '\n', cursor.next)
    else (none, cursor)
  | [] => (none, cursor)

/-- Do the characters from the place on mark the start or the end of a document? -/
def atMark (cursor : Cursor) (mark : Char) : Bool :=
  cursor.here == mark && cursor.ahead 1 == mark && cursor.ahead 2 == mark && isGap (cursor.ahead 3)

/-- Does a document start or end at the place? -/
def atDocumentMark (cursor : Cursor) : Bool :=
  cursor.atMark '-' || cursor.atMark '.'

end Cursor

end RunPicker.Yaml

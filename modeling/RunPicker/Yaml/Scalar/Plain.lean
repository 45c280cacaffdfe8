import RunPicker.Yaml.Cursor

/-!
# Plain scalars

Scalars without quotes. Such a scalar goes on over line breaks as long as the lines are indented far enough; a single
break is read as a space, and of several breaks all but the first stay.
-/

namespace RunPicker.Yaml

/-- What was read of a scalar: its text, whether a line was left on the way, and the place behind it. -/
structure Reading where
  text : List Char
  brokeLine : Bool
  cursor : Cursor
deriving Inhabited, Repr

namespace Plain

/-- Does a plain scalar stop at a character, by the one after it? Inside brackets fewer characters belong to it. -/
def stopsAt (inFlow : Bool) (c next : Char) : Bool :=
  if c == ':' then isGap next
  else if c == '?' then false
  else isGap c || (inFlow && (c == ',' || c == '[' || c == ']' || c == '\x7b' || c == '\x7d'))

/-- The characters of a plain scalar at the front of a line. -/
def run (inFlow : Bool) : List Char → List Char
  | [] => []
  | c :: rest => if stopsAt inFlow c (rest.headD endOfText) then [] else c :: run inFlow rest

/-- The further breaks after a first one, with the spaces between them dropped: the breaks, the place behind them, and
whether it is the start or the end of a document. -/
def breaks : Nat → Cursor → List Char × Cursor × Bool
  | 0, cursor => ([], cursor, false)
  | steps + 1, cursor =>
    if cursor.here == ' ' then breaks steps cursor.next
    else match cursor.lineBreak with
      | (none, _) => ([], cursor, false)
      | (some c, cursor) =>
        if cursor.atDocumentMark then ([], cursor, true)
        else
          let (more, cursor, marked) := breaks steps cursor
          (c :: more, cursor, marked)

/-- What stands between two runs of a plain scalar: what it is read as, or nothing if the scalar ends there. -/
def gap (cursor : Cursor) : Reading :=
  let (spaces, cursor) := cursor.span (· == ' ')
  match cursor.lineBreak with
  | (none, _) => ⟨spaces, false, cursor⟩
  | (some first, cursor) =>
    if cursor.atDocumentMark then ⟨[], true, cursor⟩
    else
      let (more, cursor, marked) := breaks cursor.textLength cursor
      if marked then ⟨[], true, cursor⟩
      else
        let folded := if first != '\n' then [first] else if more.isEmpty then [' '] else []
        ⟨folded ++ more, true, cursor⟩

/-- Reads a plain scalar whose further lines are indented by at least `indent`. `steps` bounds the number of runs, and
`before` is what the gap before the next run is read as. -/
def readFrom (inFlow : Bool) (indent : Int) : Nat → List Char → Cursor → Reading
  | 0, _, cursor => ⟨[], false, cursor⟩
  | steps + 1, before, cursor =>
    if cursor.here == '#' then ⟨[], false, cursor⟩
    else
      let chars := run inFlow cursor.rest
      if chars.isEmpty then ⟨[], false, cursor⟩
      else
        let between := gap (cursor.skip chars.length)
        let ends := between.text.isEmpty || between.cursor.here == '#' || (!inFlow && between.cursor.column < indent)
        if ends then ⟨before ++ chars, between.brokeLine, between.cursor⟩
        else
          let more := readFrom inFlow indent steps between.text between.cursor
          let brokeLine := if more.text.isEmpty then between.brokeLine else more.brokeLine
          ⟨before ++ chars ++ more.text, brokeLine, more.cursor⟩

/-- Reads a plain scalar. -/
def read (inFlow : Bool) (indent : Int) (cursor : Cursor) : Reading :=
  readFrom inFlow indent cursor.textLength [] cursor

end Plain

end RunPicker.Yaml

import RunPicker.Yaml.Fault
import RunPicker.Yaml.Scalar.Plain

/-!
# Block scalars

Scalars whose text is an indented block below a header. A literal block (`|`) keeps its line breaks; a folded one (`>`)
reads a single break between two lines that start with no blank as a space. The header says what becomes of the breaks
at the end, and may give the indentation.
-/

namespace RunPicker.Yaml.Block

/-- What becomes of the breaks at the end: one stays, all stay, or none. -/
inductive Chomping where
  | clip
  | keep
  | strip
deriving DecidableEq, Inhabited, Repr

/-- The header of a block scalar. -/
structure Header where
  chomping : Chomping
  increment? : Option Nat
deriving DecidableEq, Inhabited, Repr

/-- The chomping that a character of a header asks for. -/
def chomping? (c : Char) : Option Chomping :=
  if c == '+' then some .keep else if c == '-' then some .strip else none

/-- The indentation that a character of a header gives, which is not zero. -/
def increment? (c : Char) : Except Fault (Option Nat) :=
  if c == '0' then .error .malformed
  else if c.isDigit then .ok (some (c.toNat - '0'.toNat))
  else .ok none

/-- Reads the two indicators of a header, in either order. -/
def readIndicators (cursor : Cursor) : Except Fault (Header × Cursor) :=
  match chomping? cursor.here with
  | some chomping => do
    let increment ← increment? cursor.next.here
    return (⟨chomping, increment⟩, if increment.isSome then cursor.skip 2 else cursor.next)
  | none => do
    match ← increment? cursor.here with
    | none => return (⟨.clip, none⟩, cursor)
    | some increment =>
      match chomping? cursor.next.here with
      | some chomping => return (⟨chomping, some increment⟩, cursor.skip 2)
      | none => return (⟨.clip, some increment⟩, cursor.next)

/-- Reads a header up to the end of its line; a comment may stand behind the indicators. -/
def readHeader (cursor : Cursor) : Except Fault (Header × Cursor) := do
  let (header, cursor) ← readIndicators cursor
  if !(cursor.here == ' ' || isBreakOrEnd cursor.here) then throw .malformed
  let cursor := cursor.skipWhile (· == ' ')
  let cursor := if cursor.here == '#' then cursor.skipWhile (!isLineEnd ·) else cursor
  if !isLineEnd cursor.here then throw .malformed
  return (header, cursor.lineBreak.2)

/-- What stands before the first line of a block: the breaks, the columns that its blank lines end at, the deepest
column among its blanks, and the place behind it. -/
structure Leading where
  breaks : List Char
  columns : List Nat
  deepest : Nat
  cursor : Cursor
deriving Inhabited, Repr

/-- Reads what stands before the first line of a block. `deepest` is the deepest column so far. -/
def leading : Nat → Nat → Cursor → Leading
  | 0, deepest, cursor => ⟨[], [], deepest, cursor⟩
  | steps + 1, deepest, cursor =>
    if cursor.here == ' ' then leading steps (max deepest cursor.next.column) cursor.next
    else match cursor.lineBreak with
      | (none, _) => ⟨[], [], deepest, cursor⟩
      | (some c, behind) =>
        let more := leading steps deepest behind
        { more with breaks := c :: more.breaks, columns := cursor.column :: more.columns }

/-- Does a first blank line that is indented end before the deepest column? Then it is not clear which of the two the
indentation of the block is. -/
def Leading.isUnclear (front : Leading) : Bool :=
  front.columns.head?.any fun column => column > 0 && front.deepest > column

/-- The place behind the spaces up to a column. -/
def skipIndent (indent : Nat) (cursor : Cursor) : Cursor :=
  cursor.skip (min (indent - cursor.column) (cursor.rest.takeWhile (· == ' ')).length)

/-- The breaks at a place in the block, with the indentation of the empty lines dropped. -/
def breaks (indent : Nat) : Nat → Cursor → List Char × Cursor
  | 0, cursor => ([], cursor)
  | steps + 1, cursor =>
    let cursor := skipIndent indent cursor
    match cursor.lineBreak with
    | (none, _) => ([], cursor)
    | (some c, cursor) =>
      let (more, cursor) := breaks indent steps cursor
      (c :: more, cursor)

/-- What a block is read as at its end, by the last break and the further ones. -/
def ending (chomping : Chomping) (last : Option Char) (more : List Char) : List Char :=
  match chomping with
  | .clip => last.toList
  | .keep => last.toList ++ more
  | .strip => []

/-- What the breaks between two lines are read as. -/
def between (folded : Bool) (startsPlain nextPlain : Bool) (last : Option Char) (more : List Char) : List Char :=
  if folded && last == some '\n' && startsPlain && nextPlain then if more.isEmpty then [' '] else more
  else last.toList ++ more

/-- Reads the lines of a block. `marksEnd` says that the start or the end of a document ends it. -/
def readLines (folded marksEnd : Bool) (chomping : Chomping) (indent : Nat) : Nat → Cursor → List Char × Cursor
  | 0, cursor => ([], cursor)
  | steps + 1, cursor =>
    let startsPlain := !isSpace cursor.here
    let (line, cursor) := cursor.span (!isLineEnd ·)
    let (last, cursor) := cursor.lineBreak
    let (more, cursor) := breaks indent (cursor.textLength + 1) cursor
    let ends := (marksEnd && cursor.column == 0 && cursor.atDocumentMark) || cursor.column != indent || cursor.atEnd
    if ends then (line ++ ending chomping last more, cursor)
    else
      let (rest, behind) := readLines folded marksEnd chomping indent steps cursor
      (line ++ between folded startsPlain (!isSpace cursor.here) last more ++ rest, behind)

/-- The indentation of a block whose lines are indented by at least `least`, the breaks before its first line, and the
place behind them. -/
def readFront (least : Nat) (increment? : Option Nat) (cursor : Cursor) : Except Fault (Nat × List Char × Cursor) :=
  let steps := cursor.textLength + 1
  match increment? with
  | none =>
    let front := leading steps 0 cursor
    if front.isUnclear then .error .malformed
    else .ok (max least front.deepest, front.breaks, front.cursor)
  | some increment =>
    let indent := max least 1 + increment - 1
    let (first, cursor) := breaks indent steps cursor
    .ok (indent, first, cursor)

/-- Reads a block scalar inside a block that is indented by `outer`, from its indicator on. -/
def read (folded : Bool) (outer : Int) (cursor : Cursor) : Except Fault (List Char × Cursor) := do
  let (header, cursor) ← readHeader cursor.next
  let least := (outer + 1).toNat
  let (indent, first, cursor) ← readFront least header.increment? cursor
  if cursor.column == indent && !cursor.atEnd then
    let marksEnd := least == 0 && header.increment?.isNone
    let (text, cursor) := readLines folded marksEnd header.chomping indent (cursor.textLength + 1) cursor
    return (first ++ text, cursor)
  else return (ending header.chomping none first, cursor)

end RunPicker.Yaml.Block

import RunPicker.Yaml.Property
import RunPicker.Yaml.Scalar.Block
import RunPicker.Yaml.Scalar.Quoted

/-!
# Cutting a document into tokens

`tokens` cuts a text into tokens. What makes this more than a walk over the text is that a key is only known as such by
the colon behind it: every place where a key may start is kept (`PossibleKey`) until the line ends, and the tokens for
the key and for the start of its block are put in there when the colon comes.
-/

namespace RunPicker.Yaml

/-- A place where a key may have started: the number of the token there, and whether a colon has to follow because
nothing else can stand at this indentation. -/
structure PossibleKey where
  number : Nat
  required : Bool
  index : Nat
  line : Nat
  column : Nat
deriving Inhabited, Repr

/-- The number of characters that a key may have. -/
def maxKeyLength : Nat := 1024

/-- The state of the cutting. The lists of tokens, indentations and brackets have the last first, and `keys` has the
possible key of each level of brackets, the innermost first. -/
structure Scanner where
  cursor : Cursor
  tokens : List Token
  count : Nat
  indent : Int
  indents : List Int
  brackets : List Char
  keys : List (Option PossibleKey)
  keyAllowed : Bool
deriving Inhabited

namespace Scanner

/-- The state at the start of a text. -/
def start (cs : List Char) : Scanner :=
  { cursor := Cursor.start cs, tokens := [], count := 0, indent := -1, indents := [], brackets := [], keys := [none],
    keyAllowed := true }

/-- Is the place between brackets? -/
def inFlow (s : Scanner) : Bool :=
  !s.brackets.isEmpty

/-- Adds a token. -/
def emit (token : Token) (s : Scanner) : Scanner :=
  { s with tokens := token :: s.tokens, count := s.count + 1 }

/-- Puts a token in front of the token of a number. -/
def emitAt (number : Nat) (token : Token) (s : Scanner) : Scanner :=
  let after := s.count - number
  { s with tokens := s.tokens.take after ++ token :: s.tokens.drop after, count := s.count + 1 }

/-- Moves to another place. -/
def moveTo (cursor : Cursor) (s : Scanner) : Scanner :=
  { s with cursor := cursor }

/-- Says whether a key may start at the place. -/
def allowKey (allowed : Bool) (s : Scanner) : Scanner :=
  { s with keyAllowed := allowed }

/-! ## Indentations -/

/-- Ends the blocks that are indented deeper than a column. -/
def unwindFrom (column : Int) : List Int → Scanner → Scanner
  | [], s => s
  | outer :: outers, s =>
    if s.indent > column then
      unwindFrom column outers { s.emit .blockEnd with indent := outer, indents := outers }
    else s

/-- Ends the blocks that are indented deeper than a column. Between brackets there are no blocks. -/
def unwind (column : Int) (s : Scanner) : Scanner :=
  if s.inFlow then s else unwindFrom column s.indents s

/-- Starts a block at a column, unless it is the block that is open already. -/
def indentTo (column : Nat) (startBlock : Scanner → Scanner) (s : Scanner) : Scanner :=
  if s.indent < column then startBlock { s with indent := column, indents := s.indent :: s.indents } else s

/-! ## Possible keys -/

/-- Is the place too far behind a possible key for a colon to follow it? -/
def isStale (s : Scanner) (key : PossibleKey) : Bool :=
  key.line != s.cursor.line || s.cursor.index - key.index > maxKeyLength

/-- Drops the possible keys that are too far back. One for which a colon has to follow is then an error. -/
def dropStale (s : Scanner) : Except Fault Scanner :=
  if s.keys.any fun key => key.any fun key => key.required && s.isStale key then .error .malformed
  else .ok { s with keys := s.keys.map fun key => key.filter fun key => !s.isStale key }

/-- Drops the possible key of the innermost level. -/
def dropKey (s : Scanner) : Except Fault Scanner :=
  match s.keys with
  | some key :: keys => if key.required then .error .malformed else .ok { s with keys := none :: keys }
  | _ => .ok s

/-- Keeps the place as a possible key, if a key may start there. -/
def saveKey (s : Scanner) : Except Fault Scanner :=
  if s.keyAllowed then do
    let required := !s.inFlow && s.indent == s.cursor.column
    let s ← s.dropKey
    let key : PossibleKey := ⟨s.count, required, s.cursor.index, s.cursor.line, s.cursor.column⟩
    return { s with keys := some key :: s.keys.drop 1 }
  else .ok s

/-- Is a token kept back because it may turn out to be a key? -/
def holdsTokens (s : Scanner) : Bool :=
  s.keys.any Option.isSome

/-! ## Single tokens -/

/-- The start or the end of a document. -/
def fetchMark (token : Token) (s : Scanner) : Except Fault Scanner := do
  let s ← (s.unwind (-1)).dropKey
  return ((s.allowKey false).emit token).moveTo (s.cursor.skip 3)

/-- A directive. -/
def fetchDirective (s : Scanner) : Except Fault Scanner := do
  let s ← (s.unwind (-1)).dropKey
  let (token, cursor) ← readDirective s.cursor
  return ((s.allowKey false).emit token).moveTo cursor

/-- An opening bracket. -/
def openBracket (bracket : Char) (token : Token) (s : Scanner) : Except Fault Scanner := do
  let s ← s.saveKey
  let s := { s with brackets := bracket :: s.brackets, keys := none :: s.keys }
  return ((s.allowKey true).emit token).moveTo s.cursor.next

/-- A closing bracket. One that closes nothing is left to the structure. -/
def closeBracket (token : Token) (s : Scanner) : Except Fault Scanner := do
  let s ← s.dropKey
  let s := if s.inFlow then { s with brackets := s.brackets.drop 1, keys := s.keys.drop 1 } else s
  return ((s.allowKey false).emit token).moveTo s.cursor.next

/-- A comma. -/
def fetchComma (s : Scanner) : Except Fault Scanner := do
  let s ← (s.allowKey true).dropKey
  return (s.emit .comma).moveTo s.cursor.next

/-- The dash of an entry. -/
def fetchEntry (s : Scanner) : Except Fault Scanner := do
  if !s.inFlow && !s.keyAllowed then throw .malformed
  let s := if s.inFlow then s else s.indentTo s.cursor.column (emit .blockSequence)
  let s ← (s.allowKey true).dropKey
  return (s.emit .entry).moveTo s.cursor.next

/-- The question mark of a key. -/
def fetchKey (s : Scanner) : Except Fault Scanner := do
  if !s.inFlow && !s.keyAllowed then throw .malformed
  let s := if s.inFlow then s else s.indentTo s.cursor.column (emit .blockMapping)
  let s ← (s.allowKey (!s.inFlow)).dropKey
  return (s.emit .key).moveTo s.cursor.next

/-- The colon of a value. If a key may have started on the line, it did. -/
def fetchValue (s : Scanner) : Except Fault Scanner := do
  let s ← match s.keys with
    | some key :: keys => do
      let s := ({ s with keys := none :: keys }).emitAt key.number .key
      let s := if s.inFlow then s else s.indentTo key.column (emitAt key.number .blockMapping)
      pure (s.allowKey false)
    | _ => do
      if !s.inFlow && !s.keyAllowed then throw .malformed
      let s := if s.inFlow then s else s.indentTo s.cursor.column (emit .blockMapping)
      (s.allowKey (!s.inFlow)).dropKey
  return (s.emit .value).moveTo s.cursor.next

/-- A token that may be the start of a key. -/
def fetchNode (read : Cursor → Except Fault (Token × Cursor)) (s : Scanner) : Except Fault Scanner := do
  let s ← s.saveKey
  let (token, cursor) ← read s.cursor
  return ((s.allowKey false).emit token).moveTo cursor

/-- A block scalar. -/
def fetchBlock (folded : Bool) (s : Scanner) : Except Fault Scanner := do
  let s ← (s.allowKey true).dropKey
  let (text, cursor) ← Block.read folded s.indent s.cursor
  return (s.emit (.scalar text false)).moveTo cursor

/-- A plain scalar. Behind a line break a key may start again. -/
def fetchPlain (s : Scanner) : Except Fault Scanner := do
  let s ← s.saveKey
  let reading := Plain.read s.inFlow (s.indent + 1) s.cursor
  return ((s.allowKey reading.brokeLine).emit (.scalar reading.text true)).moveTo reading.cursor

/-- The end of the text. -/
def fetchEnd (s : Scanner) : Except Fault Scanner := do
  let s ← (s.unwind (-1)).dropKey
  return s.emit .textEnd

/-! ## The next token -/

/-- Does a key start with the question mark at the place? -/
def startsKey (s : Scanner) : Bool :=
  s.inFlow || isGap (s.cursor.ahead 1)

/-- Does a value start with the colon at the place? Between braces it does even without a gap behind it, unless it comes
right behind another colon; `held` says whether that token is still kept back. -/
def startsValue (s : Scanner) (held : Bool) : Bool :=
  isGap (s.cursor.ahead 1) || (s.brackets.head? == some '\x7b' && !(held && s.tokens.head? == some .value))

/-- Does a plain scalar start at the place? -/
def startsPlain (s : Scanner) : Bool :=
  let c := s.cursor.here
  let next := s.cursor.ahead 1
  if c == '-' then !isGap next
  else if c == '?' then !isGap next && !s.inFlow
  else if c == ':' then !isGap next || (s.inFlow && !isSpace next)
  else !(isBreakOrEnd c || isSpace c || ",[]\x7b\x7d#&*!|>'\"%@\x60".toList.contains c)

/-- The place behind the blanks, the breaks and the comments, and whether a line was left on the way. `steps` bounds the
number of lines. -/
def skipBlank (inFlow : Bool) : Nat → Cursor → Cursor × Bool
  | 0, cursor => (cursor, false)
  | steps + 1, cursor =>
    let cursor := cursor.skipWhile fun c => c == ' ' || (inFlow && c == '\t')
    let cursor := if cursor.here == '#' then cursor.skipWhile (!isLineEnd ·) else cursor
    match cursor.lineBreak with
    | (none, _) => (cursor, false)
    | (some _, cursor) => ((skipBlank inFlow steps cursor).1, true)

/-- Moves to the next token. Behind a line break a key may start, except between brackets. -/
def toNextToken (s : Scanner) : Scanner :=
  let cursor := if s.cursor.index == 0 && s.cursor.here == '\ufeff' then s.cursor.next else s.cursor
  let (cursor, leftLine) := skipBlank s.inFlow (cursor.textLength + 1) cursor
  { s with cursor := cursor, keyAllowed := s.keyAllowed || (leftLine && !s.inFlow) }

/-- Cuts off the token at the place. -/
def fetchHere (held : Bool) (s : Scanner) : Except Fault Scanner :=
  let c := s.cursor.here
  let atStart := s.cursor.column == 0
  let gapAhead := isGap (s.cursor.ahead 1)
  if c == '%' && atStart then s.fetchDirective
  else if atStart && s.cursor.atMark '-' then s.fetchMark .documentStart
  else if atStart && s.cursor.atMark '.' then s.fetchMark .documentEnd
  else if c == '[' then s.openBracket '[' .flowSequence
  else if c == '\x7b' then s.openBracket '\x7b' .flowMapping
  else if c == ']' then s.closeBracket .flowSequenceEnd
  else if c == '\x7d' then s.closeBracket .flowMappingEnd
  else if c == ',' then s.fetchComma
  else if c == '-' && gapAhead then s.fetchEntry
  else if c == '?' && s.startsKey then s.fetchKey
  else if c == ':' && s.startsValue held then s.fetchValue
  else if c == '*' then s.fetchNode fun cursor => (readName cursor).map fun (name, cursor) => (.alias name, cursor)
  else if c == '&' then s.fetchNode fun cursor => (readName cursor).map fun (name, cursor) => (.anchor name, cursor)
  else if c == '!' then s.fetchNode fun cursor => (readTag cursor).map fun (tag, cursor) => (.tag tag, cursor)
  else if c == '|' && !s.inFlow then s.fetchBlock false
  else if c == '>' && !s.inFlow then s.fetchBlock true
  else if c == '\'' || c == '"' then s.fetchNode fun cursor =>
    (Quoted.read (c == '"') cursor).map fun (text, cursor) => (.scalar text false, cursor)
  else if s.startsPlain then s.fetchPlain
  else .error .malformed

/-- Cuts the rest of the text, of which each token but the last takes at least one of the `steps` characters. -/
def run : Nat → Scanner → List Token
  | 0, s => (Token.broken .malformed :: s.tokens).reverse
  | steps + 1, s =>
    let outcome : Except Fault (Scanner × Bool) := do
      let s ← s.dropStale
      let held := s.holdsTokens
      let s ← s.toNextToken.dropStale
      let s := s.unwind s.cursor.column
      if s.cursor.atEnd then return (← s.fetchEnd, true) else return (← s.fetchHere held, false)
    match outcome with
    | .error fault => (Token.broken fault :: s.tokens).reverse
    | .ok (s, true) => s.tokens.reverse
    | .ok (s, false) => run steps s

end Scanner

/-- May the character stand in a document? -/
def isDocumentChar (c : Char) : Bool :=
  let code := c.toNat
  c == '\t' || c == '\n' || c == '\r' || (0x20 ≤ code && code ≤ 0x7E) || code == 0x85
    || (0xA0 ≤ code && code ≤ 0xFFFD) || 0x10000 ≤ code

/-- The tokens of a text. The last one says that the text ends, or what is wrong with it. -/
def tokens (text : String) : List Token :=
  let cs := text.toList
  if cs.all isDocumentChar then Scanner.run (cs.length + 1) (.start cs) else [.broken .malformed]

end RunPicker.Yaml

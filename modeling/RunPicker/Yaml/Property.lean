import RunPicker.Yaml.Cursor
import RunPicker.Yaml.Token

/-!
# Names, tags and directives

The parts of a document that say something about its nodes: the names of anchors and aliases, tags, and directives.
-/

namespace RunPicker.Yaml

/-- May the character stand in a name? -/
def isNameChar (c : Char) : Bool :=
  let code := c.toNat
  !(c == ',' || c == '[' || c == ']' || c == '\x7b' || c == '\x7d')
    && ((0x21 ≤ code && code ≤ 0x7E) || (0xA0 ≤ code && code ≤ 0xD7FF)
      || (0xE000 ≤ code && code ≤ 0xFFFD && code != 0xFEFF) || 0x10000 ≤ code)

/-- May the character stand behind a name? -/
def endsName (c : Char) : Bool :=
  isBreakOrEnd c || isSpace c || ['?', ':', ',', '[', ']', '\x7b', '\x7d', '%', '@', '\u0060'].contains c

/-- Reads the name of an anchor or an alias from its indicator on. -/
def readName (cursor : Cursor) : Except Fault (List Char × Cursor) :=
  let (name, cursor) := cursor.next.span isNameChar
  if name.isEmpty || !endsName cursor.here then .error .malformed else .ok (name, cursor)

/-! ## Tags -/

/-- May the character stand in a tag? -/
def isTagChar (c : Char) : Bool :=
  c.isAlphanum || "-;/?:@&=+$,_.!~*'()[]%#".toList.contains c

/-- The tags of the kinds of the core start with this. -/
def corePart : List Char := "tag:yaml.org,2002:".toList

/-- The tag that is written out in full. -/
def fullTag (cs : List Char) : Tag :=
  if corePart.isPrefixOf cs then .core (String.ofList (cs.drop corePart.length)) else .foreign

/-- Does another exclamation mark stand in the rest of a tag, so that it is a tag with a handle of its own? -/
def hasHandle (cs : List Char) : Bool :=
  (cs.takeWhile fun c => !(isBreakOrEnd c || c == ' ')).contains '!'

/-- Reads a tag from its exclamation mark on. -/
def readTag (cursor : Cursor) : Except Fault (Tag × Cursor) := do
  let first := cursor.ahead 1
  let isCore := first == '!'
  let cursor := if isCore then cursor.next else cursor
  let first := cursor.ahead 1
  let (tag, cursor) ←
    if first == '<' then do
      let (uri, cursor) := (cursor.skip 2).span isTagChar
      if uri.isEmpty || cursor.here != '>' then throw .malformed
      pure (fullTag uri, cursor.next)
    else if isGap first then pure (if isCore then Tag.foreign else .unspecific, cursor.next)
    else do
      let (suffix, cursor) := cursor.next.span isTagChar
      if suffix.isEmpty then throw .malformed
      pure (if isCore && !hasHandle suffix then .core (String.ofList suffix) else .foreign, cursor)
  if !(cursor.here == ' ' || isBreakOrEnd cursor.here) then throw Fault.malformed
  return (tag, cursor)

/-! ## Directives -/

/-- May the character stand in the name of a directive? -/
def isDirectiveChar (c : Char) : Bool :=
  c.isAlphanum || c == '-' || c == '_' || c == ':' || c == '.'

/-- The number at a place. -/
def readNumber (cursor : Cursor) : Except Fault (Nat × Cursor) :=
  let (digits, cursor) := cursor.span Char.isDigit
  if digits.isEmpty then .error .malformed
  else .ok (digits.foldl (fun number c => number * 10 + (c.toNat - '0'.toNat)) 0, cursor)

/-- Reads the two numbers of a version, of which the first is kept. -/
def readVersion (cursor : Cursor) : Except Fault (Nat × Cursor) := do
  let (major, cursor) ← readNumber (cursor.skipWhile (· == ' '))
  if cursor.here != '.' then throw .malformed
  let (_, cursor) ← readNumber cursor.next
  if !(cursor.here == ' ' || isBreakOrEnd cursor.here) then throw .malformed
  return (major, cursor)

/-- Reads a directive from its percent sign on, up to the end of its line. -/
def readDirective (cursor : Cursor) : Except Fault (Token × Cursor) := do
  let (name, cursor) := cursor.next.span isDirectiveChar
  if name.isEmpty || !(cursor.here == ' ' || isBreakOrEnd cursor.here) then throw .malformed
  let (major?, cursor) ←
    if name == "YAML".toList then do
      let (major, cursor) ← readVersion cursor
      pure (some major, cursor)
    else pure (none, cursor.skipWhile (!isBreakOrEnd ·))
  let cursor := cursor.skipWhile (· == ' ')
  let cursor := if cursor.here == '#' then cursor.skipWhile (!isBreakOrEnd ·) else cursor
  if !isBreakOrEnd cursor.here then throw Fault.malformed
  return (.directive name major?, cursor.lineBreak.2)

end RunPicker.Yaml

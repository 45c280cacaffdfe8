import RunPicker.Yaml.Fault
import RunPicker.Yaml.Scalar.Plain

/-!
# Quoted scalars

Scalars between quotes. Line breaks are folded as in plain scalars. Between single quotes only the quote itself is
written differently, twice; between double quotes a backslash starts an escape.
-/

namespace RunPicker.Yaml.Quoted

/-- The character that a letter after a backslash stands for. -/
def escape? : Char → Option Char
  | '0' => some '\x00'
  | 'a' => some '\x07'
  | 'b' => some '\x08'
  | 't' => some '\t'
  | '\t' => some '\t'
  | 'n' => some '\n'
  | 'v' => some '\x0b'
  | 'f' => some '\x0c'
  | 'r' => some '\r'
  | 'e' => some '\x1b'
  | ' ' => some ' '
  | '"' => some '"'
  | '/' => some '/'
  | '\\' => some '\\'
  | 'N' => some '\u0085'
  | '_' => some '\u00a0'
  | 'L' => some '\u2028'
  | 'P' => some '\u2029'
  | _ => none

/-- The number of hexadecimal digits after a letter after a backslash. -/
def escapeWidth? : Char → Option Nat
  | 'x' => some 2
  | 'u' => some 4
  | 'U' => some 8
  | _ => none

/-- The value of a hexadecimal digit. -/
def hexValue? (c : Char) : Option Nat :=
  if c.isDigit then some (c.toNat - '0'.toNat)
  else if 'a' ≤ c && c ≤ 'f' then some (c.toNat - 'a'.toNat + 10)
  else if 'A' ≤ c && c ≤ 'F' then some (c.toNat - 'A'.toNat + 10)
  else none

/-- The character of a code. A half of a pair stands for no character of its own. Texts with such a half by itself are no
texts here: it is read as the sign for what cannot be read, and what is said of texts is not said of them. -/
def charOf (code : Nat) : Except Fault Char :=
  if code > 0x10FFFF then .error (.noValue .wrongValue)
  else if 0xD800 ≤ code && code ≤ 0xDFFF then .ok '\ufffd'
  else .ok (Char.ofNat code)

/-- The code that some hexadecimal digits spell. -/
def codeOf (digits : List Char) (width : Nat) : Except Fault Nat :=
  match digits.mapM hexValue? with
  | some values =>
    if values.length = width then .ok (values.foldl (fun code digit => code * 16 + digit) 0) else .error .malformed
  | none => .error .malformed

/-- The character that a code stands for together with an escape right behind it, if they are the halves of a pair. -/
def pairedChar? (code : Nat) (behind : List Char) : Option Char :=
  match behind with
  | '\\' :: 'u' :: rest => match codeOf (rest.take 4) 4 with
    | .ok low =>
      if 0xD800 ≤ code && code < 0xDC00 && 0xDC00 ≤ low && low < 0xE000 then
        some (Char.ofNat (0x10000 + (code - 0xD800) * 0x400 + (low - 0xDC00)))
      else none
    | .error _ => none
  | _ => none

/-- The further breaks in a quoted scalar, with the spaces around them dropped. No document starts or ends inside. -/
def breaks : Nat → Cursor → Except Fault (List Char × Cursor)
  | 0, cursor => .ok ([], cursor)
  | steps + 1, cursor =>
    if cursor.atDocumentMark then .error .malformed
    else
      let cursor := cursor.skipWhile isSpace
      match cursor.lineBreak with
      | (none, _) => .ok ([], cursor)
      | (some c, cursor) => do
        let (more, cursor) ← breaks steps cursor
        return (c :: more, cursor)

/-- What the blanks and the breaks at a place in a quoted scalar are read as. -/
def gap (cursor : Cursor) : Except Fault (List Char × Cursor) :=
  let (spaces, cursor) := cursor.span isSpace
  if cursor.atEnd then .error .malformed
  else match cursor.lineBreak with
    | (none, _) => .ok (spaces, cursor)
    | (some first, cursor) => do
      let (more, cursor) ← breaks (cursor.textLength + 1) cursor
      let folded := if first != '\n' then [first] else if more.isEmpty then [' '] else []
      return (folded ++ more, cursor)

/-- What an escape is read as, by the characters after the backslash. -/
def escaped (cursor : Cursor) : Except Fault (List Char × Cursor) :=
  match cursor.rest with
  | [] => .error .malformed
  | c :: rest =>
    match escape? c, escapeWidth? c with
    | some value, _ => .ok ([value], cursor.next)
    | none, some width => do
      let code ← codeOf (rest.take width) width
      match pairedChar? code (rest.drop width) with
      | some value => return ([value], cursor.skip (1 + width + 6))
      | none => return ([← charOf code], cursor.skip (1 + width))
    | none, none =>
      match cursor.lineBreak with
      | (some _, cursor) => breaks (cursor.textLength + 1) cursor
      | (none, _) => .error .malformed

/-- Reads the inside of a quoted scalar and the quote that ends it. `steps` bounds the number of parts. -/
def readFrom (double : Bool) : Nat → Cursor → Except Fault (List Char × Cursor)
  | 0, _ => .error .malformed
  | steps + 1, cursor =>
    let continued (part : List Char) (cursor : Cursor) : Except Fault (List Char × Cursor) := do
      let (more, cursor) ← readFrom double steps cursor
      return (part ++ more, cursor)
    match cursor.rest with
    | [] => .error .malformed
    | '"' :: _ => if double then .ok ([], cursor.next) else continued ['"'] cursor.next
    | '\'' :: rest =>
      if double then continued ['\''] cursor.next
      else if rest.head? == some '\'' then continued ['\''] (cursor.skip 2)
      else .ok ([], cursor.next)
    | '\\' :: _ =>
      if double then do
        let (part, cursor) ← escaped cursor.next
        continued part cursor
      else continued ['\\'] cursor.next
    | c :: _ =>
      if isSpace c || isBreak c then do
        let (part, cursor) ← gap cursor
        continued part cursor
      else continued [c] cursor.next

/-- Reads a quoted scalar from its first quote on. -/
def read (double : Bool) (cursor : Cursor) : Except Fault (List Char × Cursor) :=
  readFrom double (cursor.textLength + 1) cursor.next

end RunPicker.Yaml.Quoted

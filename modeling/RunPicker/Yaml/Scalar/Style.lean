import RunPicker.Yaml.Cursor
import RunPicker.Yaml.Resolution

/-!
# Styles of written scalars

A text is written without quotes when it reads back as the same text that way, and otherwise between single quotes, or
between double quotes if it holds line feeds, single quotes or characters that have to be escaped.
-/

namespace RunPicker.Yaml

/-- How a scalar is written. -/
inductive ScalarStyle where
  | plain
  | single
  | double
deriving DecidableEq, Inhabited, Repr

namespace ScalarStyle

/-- Is the character blank, or the end of the text? -/
def isBlankOrEnd (c : Option Char) : Bool :=
  c.all fun c => isBreakOrEnd c || isSpace c

/-- Does the character break a line in a written scalar? -/
def breaksLine (c : Char) : Bool :=
  c == '\n' || c == '\u0085' || c == '\u2028' || c == '\u2029'

/-- Has the character to be escaped? -/
def isSpecial (c : Char) : Bool :=
  let code := c.toNat
  !(c == '\n' || (0x20 ≤ code && code ≤ 0x7E) || code == 0x85
    || (0xA0 ≤ code && code ≤ 0xFFFD && code != 0xFEFF) || 0x10000 ≤ code)

/-- Would the first character be taken for an indicator? -/
def startsLikeIndicator : List Char → Bool
  | [] => false
  | c :: rest =>
    "#,[]\x7b\x7d&*!|>'\"%@\x60".toList.contains c || (['?', ':', '-'].contains c && isBlankOrEnd rest.head?)

/-- Does a further character look like an indicator, by the one before it and the one after it? -/
def holdsIndicator : Char → List Char → Bool
  | _, [] => false
  | before, c :: rest =>
    (c == ':' && isBlankOrEnd rest.head?) || (c == '#' && isBlankOrEnd (some before)) || holdsIndicator c rest

/-- Does the text start like a mark of the start or the end of a document? -/
def startsLikeMark (cs : List Char) : Bool :=
  ['-', '-', '-'].isPrefixOf cs || ['.', '.', '.'].isPrefixOf cs

/-- Do two characters that follow each other pass a test? -/
def hasPair (test : Char → Char → Bool) : List Char → Bool
  | a :: b :: rest => test a b || hasPair test (b :: rest)
  | _ => false

/-- Is the character a space or a line break? -/
def isEdge (c : Char) : Bool :=
  c == ' ' || breaksLine c

/-- Can the text stand without quotes, whatever it may look like then? -/
def allowsPlain (cs : List Char) : Bool :=
  match cs with
  | [] => true
  | first :: rest =>
    !(startsLikeMark cs || startsLikeIndicator cs || holdsIndicator first rest || isEdge first
      || (cs.getLast?).any isEdge || cs.any isSpecial || cs.any breaksLine)

/-- Can the text stand between single quotes? -/
def allowsSingle (cs : List Char) : Bool :=
  !(cs.any isSpecial || hasPair (fun a b => breaksLine a && b == ' ') cs
    || hasPair (fun a b => a == ' ' && breaksLine b) cs)

/-- Does the text read back as a text when it stands without quotes? -/
def readsAsText (text : String) : Bool :=
  Kind.ofPlain text == .text

/-- The style of a text. A key with nothing in it, or with line breaks, is never plain. -/
def ofText (isKey : Bool) (text : String) : ScalarStyle :=
  let cs := text.toList
  if readsAsText text && allowsPlain cs && !(isKey && cs.isEmpty) then .plain
  else if cs.contains '\'' || cs.contains '\n' then .double
  else if allowsSingle cs && !(isKey && cs.any breaksLine) then .single
  else .double

end ScalarStyle

end RunPicker.Yaml

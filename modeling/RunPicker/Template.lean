import RunPicker.Template.Layout

/-!
# Templates

A text with fields between braces that values are put into: a field names a value by its number, or the next one by its
turn, with accesses into the value, a conversion (`!r`, `!s`, `!a`) and a layout behind it. A brace that is text is
written twice.
-/

namespace RunPicker

namespace Template

/-- How the fields of a template have been numbered so far: not yet, by turns, of which some were taken, or by
themselves. -/
inductive Numbering where
  | open
  | byTurn (taken : Nat)
  | explicit
deriving DecidableEq, Inhabited, Repr

/-- The value of the field of a number. -/
def valueAt (values : List Value) (number : Nat) : Except Failure Value :=
  match values[number]? with
  | some value => .ok value
  | none => .error (.ofCategory .badIndex)

/-- The number that a name spells in digits, if it is one. -/
def numberOf (name : List Char) : Except Failure (Option Nat) := do
  match ← Layout.takeNumber name with
  | (some number, []) => return some number
  | _ => return none

/-- The value that the first name of a field stands for, and the numbering after it. Only numbers name values. -/
def named (values : List Value) (numbering : Numbering) (name : List Char) : Except Failure (Value × Numbering) :=
  if name.isEmpty then
    match numbering with
    | .explicit => .error .wrongValue
    | .open => do return (← valueAt values 0, .byTurn 1)
    | .byTurn taken => do return (← valueAt values taken, .byTurn (taken + 1))
  else do
    let some number ← numberOf name | throw (.ofCategory .missingKey)
    match numbering with
    | .byTurn _ => throw .wrongValue
    | _ => return (← valueAt values number, .explicit)

/-- The part of a value under a key between square brackets. -/
def item (value : Value) (key : List Char) : Except Failure Value := do
  match value, ← numberOf key with
  | .list items, some number => valueAt items number
  | .text s, some number => match s.toList[number]? with
    | some c => .ok (.text (String.singleton c))
    | none => .error (.ofCategory .badIndex)
  | .map entries, some number => found entries (.integer number)
  | .map entries, none => found entries (.text (String.ofList key))
  | _, _ => .error .wrongType
where
  found (entries : Entries Value) (key : Value) : Except Failure Value :=
    match Entries.find? entries key with
    | some value => .ok value
    | none => .error (.ofCategory .missingKey)

/-- The value that the accesses behind the first name of a field lead to. `steps` bounds their number. -/
def access : Nat → Value → List Char → Except Failure Value
  | _, value, [] => .ok value
  | 0, _, _ => .error .wrongValue
  | steps + 1, value, '[' :: rest =>
    let key := rest.takeWhile (· != ']')
    match rest.dropWhile (· != ']') with
    | [] => .error .wrongValue
    | _ :: rest => do
      if key.isEmpty then throw .wrongValue
      access steps (← item value key) rest
  | _, _, '.' :: rest =>
    if (rest.takeWhile fun c => c != '.' && c != '[').isEmpty then .error .wrongValue else .error .missingAttribute
  | _, _, _ => .error .wrongValue

/-- The value after a conversion. -/
def converted (value : Value) : Option Char → Except Failure Value
  | none => .ok value
  | some 's' => value.toText.map Value.text
  | some 'r' => value.toLiteral.map Value.text
  | some 'a' => value.toLiteral.map fun text => .text (String.ofList (text.toList.flatMap fun c =>
      if c.toNat < 0x80 then [c] else Text.escapeCode c.toNat))
  | some _ => .error .wrongValue

/-- The characters of a layout up to the brace that closes its field, and those after it; `depth` counts the braces open
within. -/
def layoutSpan? (depth : Nat) : List Char → Option (List Char × List Char)
  | [] => none
  | c :: rest =>
    if c == '\x7d' && depth == 0 then some ([], rest)
    else
      let depth := if c == '\x7b' then depth + 1 else if c == '\x7d' then depth - 1 else depth
      (layoutSpan? depth rest).map fun (layout, after) => (c :: layout, after)

/-- The name of a field, and the rest from the mark on that ends the name. Between square brackets anything may stand,
and elsewhere no brace opens. -/
def nameSpan? (inBrackets : Bool) : List Char → Option (List Char × List Char)
  | [] => none
  | c :: rest =>
    if !inBrackets && c == '\x7b' then none
    else if !inBrackets && ['!', ':', '\x7d'].contains c then some ([], c :: rest)
    else
      let inBrackets := if inBrackets then c != ']' else c == '['
      (nameSpan? inBrackets rest).map fun (name, behind) => (c :: name, behind)

/-- A field as it is written: its name, its conversion, and the template of its layout. -/
structure Field where
  name : List Char
  conversion? : Option Char
  layout : List Char
deriving DecidableEq, Inhabited, Repr

/-- The field whose opening brace has just been passed, and the rest after its closing brace. A conversion is any one
character. -/
def field? (cs : List Char) : Option (Field × List Char) := do
  let (name, behind) ← nameSpan? false cs
  match behind with
  | '\x7d' :: after => return (⟨name, none, []⟩, after)
  | '!' :: c :: '\x7d' :: after => return (⟨name, some c, []⟩, after)
  | ':' :: rest =>
    let (layout, after) ← layoutSpan? 0 rest
    return (⟨name, none, layout⟩, after)
  | '!' :: c :: ':' :: rest =>
    let (layout, after) ← layoutSpan? 0 rest
    return (⟨name, some c, layout⟩, after)
  | _ => none

/-- Fills the template. `nesting` says how deep fields may stand in the layouts of others, and `steps` bounds the number
of characters and fields. -/
def fillChars (values : List Value) : (nesting steps : Nat) → Numbering → List Char →
    Except Failure (List Char × Numbering)
  | _, _, numbering, [] => .ok ([], numbering)
  | _, 0, _, _ => .error .wrongValue
  | nesting, steps + 1, numbering, '\x7b' :: '\x7b' :: rest => do
    let (filled, numbering) ← fillChars values nesting steps numbering rest
    return ('\x7b' :: filled, numbering)
  | nesting, steps + 1, numbering, '\x7d' :: '\x7d' :: rest => do
    let (filled, numbering) ← fillChars values nesting steps numbering rest
    return ('\x7d' :: filled, numbering)
  | _, _, _, '\x7d' :: _ => .error .wrongValue
  | 0, _, _, '\x7b' :: _ => .error .wrongValue
  | nesting + 1, steps + 1, numbering, '\x7b' :: rest => do
    let some (field, after) := field? rest | throw .wrongValue
    let first := field.name.takeWhile fun c => c != '.' && c != '['
    let (value, numbering) ← named values numbering first
    let value ← access field.name.length value (field.name.drop first.length)
    let value ← converted value field.conversion?
    let (layout, numbering) ← fillChars values nesting steps numbering field.layout
    let laid ← Layout.apply (String.ofList layout) value
    let (filled, numbering) ← fillChars values (nesting + 1) steps numbering after
    return (laid.toList ++ filled, numbering)
  | nesting, steps + 1, numbering, c :: rest => do
    let (filled, numbering) ← fillChars values nesting steps numbering rest
    return (c :: filled, numbering)

/-- The template with the values in its fields. -/
def fill (template : String) (values : List Value) : Except Failure String := do
  let cs := template.toList
  let (filled, _) ← fillChars values 2 (cs.length + 1) .open cs
  return String.ofList filled

end Template

end RunPicker

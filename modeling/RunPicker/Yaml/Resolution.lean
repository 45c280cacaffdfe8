import RunPicker.Number.Reading
import RunPicker.Yaml.Fault
import RunPicker.Value

/-!
# The kinds of plain scalars

A plain scalar stands for a value of the kind that its text looks like (`Kind.ofPlain`), and for its text if it looks
like none. Something can look like a number or a day and be none, such as a day that is not on the calendar.
-/

namespace RunPicker.Yaml

/-- The kind of a scalar. The sign for merging and a single equals sign are of kinds of their own, which have no
values. -/
inductive Kind where
  | null
  | bool
  | integer
  | number
  | moment
  | text
  | merge
  | equals
deriving DecidableEq, Inhabited, Repr

namespace Kind

/-! ## Patterns -/

/-- The characters without a sign at their front. -/
def unsigned : List Char → List Char
  | '-' :: rest => rest
  | '+' :: rest => rest
  | cs => cs

/-- Is the character a digit or an underscore? -/
def isDigitMark (c : Char) : Bool :=
  c.isDigit || c == '_'

/-- Are there characters, and do they all pass a test? -/
def areAll (test : Char → Bool) (cs : List Char) : Bool :=
  !cs.isEmpty && cs.all test

/-- Is the character a hexadecimal digit or an underscore? -/
def isHexMark (c : Char) : Bool :=
  isDigitMark c || ('a' ≤ c && c ≤ 'f') || ('A' ≤ c && c ≤ 'F')

/-- Is the character an octal digit or an underscore? -/
def isOctalMark (c : Char) : Bool :=
  ('0' ≤ c && c ≤ '7') || c == '_'

/-- Is the character a binary digit or an underscore? -/
def isBinaryMark (c : Char) : Bool :=
  c == '0' || c == '1' || c == '_'

/-- Does the text look like an integer? -/
def looksLikeInteger (cs : List Char) : Bool :=
  cs.head? != some '_' && match unsigned cs with
    | '0' :: 'b' :: rest => areAll isBinaryMark rest
    | '0' :: 'o' :: rest => areAll isOctalMark rest
    | '0' :: 'x' :: rest => areAll isHexMark rest
    | rest => areAll isDigitMark rest

/-- Does the text look like the power of ten behind the digits of a number? -/
def looksLikePower (signNeeded : Bool) : List Char → Bool
  | 'e' :: rest | 'E' :: rest => match rest with
    | '-' :: digits | '+' :: digits => areAll Char.isDigit digits
    | digits => !signNeeded && areAll Char.isDigit digits
  | _ => false

/-- The names of the infinities, without a sign. -/
def infinityNames : List (List Char) :=
  [".inf".toList, ".Inf".toList, ".INF".toList]

/-- The names of not-a-number. -/
def nanNames : List (List Char) :=
  [".nan".toList, ".NaN".toList, ".NAN".toList]

/-- Does the text look like a number with a point or a power? -/
def looksLikeNumber (cs : List Char) : Bool :=
  nanNames.contains cs || infinityNames.contains (unsigned cs) || match unsigned cs with
    | '.' :: rest =>
      let back := rest.dropWhile isDigitMark
      rest.head?.any isDigitMark && (back.isEmpty || looksLikePower true back)
    | c :: rest =>
      c.isDigit && match rest.dropWhile isDigitMark with
        | '.' :: rest =>
          let back := rest.dropWhile isDigitMark
          back.isEmpty || looksLikePower false back
        | back => looksLikePower false back
    | [] => false

/-! ## Moments -/

/-- The parts of a text that looks like a day or a moment: the numbers, the digits of a fraction of the second, and the
offset in minutes. -/
structure Stamp where
  year : Nat
  month : Nat
  day : Nat
  time? : Option (Nat × Nat × Nat × List Char × Option Int)

/-- Between `least` and `most` digits at the front of the characters, and the rest. -/
def digits? (least most : Nat) (cs : List Char) : Option (Nat × List Char) :=
  let digits := (cs.take most).takeWhile Char.isDigit
  if digits.length < least then none else some (Real64.digitsValue digits, cs.drop digits.length)

/-- The characters behind a given one. -/
def behind? (c : Char) : List Char → Option (List Char)
  | first :: rest => if first == c then some rest else none
  | [] => none

/-- Is the character a space or a tab? -/
def isSpacing (c : Char) : Bool :=
  c == ' ' || c == '\t'

/-- The offset at the end of a moment, if there is one. -/
def offset? (cs : List Char) : Option (Option Int) :=
  match cs.dropWhile isSpacing with
  | [] => if cs.isEmpty then some none else none
  | ['Z'] => some (some 0)
  | sign :: rest => do
    if sign != '+' && sign != '-' then none
    let (hours, rest) ← digits? 1 2 rest
    let (minutes, rest) ← match rest with
      | ':' :: rest => digits? 2 2 rest
      | rest => some (0, rest)
    if !rest.isEmpty then none
    let offset : Int := hours * 60 + minutes
    return some (if sign == '-' then -offset else offset)

/-- The time of a day that stands behind the day. -/
def time? (cs : List Char) : Option (Nat × Nat × Nat × List Char × Option Int) := do
  let rest ← match cs with
    | 'T' :: rest | 't' :: rest => some rest
    | c :: rest => if isSpacing c then some (rest.dropWhile isSpacing) else none
    | [] => none
  let (hour, rest) ← digits? 1 2 rest
  let (minute, rest) ← digits? 2 2 (← behind? ':' rest)
  let (second, rest) ← digits? 2 2 (← behind? ':' rest)
  let (fraction, rest) := match rest with
    | '.' :: rest => (rest.takeWhile Char.isDigit, rest.dropWhile Char.isDigit)
    | rest => ([], rest)
  let offset ← offset? rest
  return (hour, minute, second, fraction, offset)

/-- The parts of a text that looks like a day, with two digits for the month and for the day, or like a moment, where
one digit is enough. -/
def stamp? (cs : List Char) : Option Stamp := do
  let (year, rest) ← digits? 4 4 cs
  let monthText ← behind? '-' rest
  let (month, rest) ← digits? 1 2 monthText
  let dayText ← behind? '-' rest
  let (day, rest) ← digits? 1 2 dayText
  if rest.isEmpty then
    if cs.length = 10 then return ⟨year, month, day, none⟩ else none
  else return ⟨year, month, day, some (← time? rest)⟩

/-- The microseconds that the digits behind the point of a second stand for, rounded at the seventh digit. -/
def microseconds (fraction : List Char) : Nat :=
  let kept := fraction.take 6
  let value := Real64.digitsValue (kept ++ List.replicate (6 - kept.length) '0')
  match fraction.drop 6 with
  | c :: _ => if '4' < c then value + 1 else value
  | [] => value

/-- The moment of the parts of a text. -/
def momentOf (stamp : Stamp) : Except Failure Moment :=
  match stamp.time? with
  | none => Moment.day? stamp.year stamp.month stamp.day
  | some (hour, minute, second, fraction, offset) =>
    Moment.instant? ⟨stamp.year, stamp.month, stamp.day⟩ hour minute second (microseconds fraction) offset

/-! ## Kinds -/

/-- The names of the truth values. -/
def boolNames : List String := ["true", "True", "TRUE", "false", "False", "FALSE"]

/-- The names of null. -/
def nullNames : List String := ["", "~", "null", "Null", "NULL"]

/-- The kind that a plain scalar looks like. -/
def ofPlain (text : String) : Kind :=
  let cs := text.toList
  if boolNames.contains text then .bool
  else if looksLikeNumber cs then .number
  else if looksLikeInteger cs then .integer
  else if text == "<<" then .merge
  else if text == "=" then .equals
  else if nullNames.contains text then .null
  else if (stamp? cs).isSome then .moment
  else .text

/-! ## Values -/

/-- The value of a digit in a base up to sixteen. -/
def digitIn (base : Nat) (c : Char) : Option Nat :=
  let value :=
    if c.isDigit then c.toNat - '0'.toNat
    else if 'a' ≤ c && c ≤ 'f' then c.toNat - 'a'.toNat + 10
    else if 'A' ≤ c && c ≤ 'F' then c.toNat - 'A'.toNat + 10
    else base
  if value < base then some value else none

/-- The natural number that digits spell in a base. -/
def naturalIn (base : Nat) (digits : List Char) : Except Failure Nat :=
  match digits.mapM (digitIn base) with
  | some [] | none => .error .wrongValue
  | some values => .ok (Text.numberOfDigits base values)

/-- The natural number that digits spell, which are not too many in decimal. -/
def natural (cs : List Char) : Except Failure Nat :=
  match cs with
  | '0' :: 'b' :: rest => naturalIn 2 rest
  | '0' :: 'x' :: rest => naturalIn 16 rest
  | '0' :: 'o' :: rest => naturalIn 8 rest
  | cs => match Text.natural? cs with
    | some n => .ok n
    | none => .error .wrongValue

/-- The integer that a text spells. Underscores count for nothing. -/
def integerOf (cs : List Char) : Except Failure Int :=
  let cs := cs.filter (· != '_')
  (natural (unsigned cs)).map fun n => if cs.head? == some '-' then -(n : Int) else n

/-- The number that a text spells. Underscores count for nothing. -/
def numberOf (cs : List Char) : Except Failure Real64 :=
  let cs := cs.filter (· != '_')
  let negative := cs.head? == some '-'
  let name := (unsigned cs).map Char.toLower
  if name == ".inf".toList then .ok (.infinite negative)
  else if name == ".nan".toList then .ok .nan
  else match Real64.unsigned? negative (unsigned cs) with
    | some x => .ok x
    | none => .error .wrongValue

/-- The names that can be given where a truth value is asked for, which are read in any case of letters. -/
def bool? (text : String) : Option Bool :=
  if ["true", "yes", "y", "on"].contains text.toLower then some true
  else if ["false", "no", "n", "off"].contains text.toLower then some false
  else none

/-- The value of a text of a kind. -/
def valueOf (kind : Kind) (text : String) : Except Fault Value :=
  let orFault {α : Type} (result : Except Failure α) (wrap : α → Value) : Except Fault Value :=
    match result with
    | .ok value => .ok (wrap value)
    | .error failure => .error (.noValue failure)
  match kind with
  | .null => .ok .null
  | .bool => match bool? text with
    | some b => .ok (.bool b)
    | none => .error (.noValue (.ofCategory .missingKey))
  | .integer => orFault (integerOf text.toList) .integer
  | .number => orFault (numberOf text.toList) .number
  | .moment => match stamp? text.toList with
    | some stamp => orFault (momentOf stamp) .moment
    | none => .error .malformed
  | .text => .ok (.text text)
  | .merge | .equals => .error .malformed

/-- The kind that a tag of the core names. -/
def ofName? : String → Option Kind
  | "null" => some .null
  | "bool" => some .bool
  | "int" => some .integer
  | "float" => some .number
  | "timestamp" => some .moment
  | "str" => some .text
  | _ => none

end Kind

end RunPicker.Yaml

import RunPicker.Number.Shortest
import RunPicker.Text.Integer
import RunPicker.Value.Display

/-!
# Layouts of fields

How a value is laid out in a field of a template: `[[fill]align][sign][z][#][0][width][grouping][.precision][kind]`.
`Layout.ofSpec` reads a layout, and `Layout.apply` lays a value out; texts, integers and numbers have layouts, other
values only the empty one.
-/

namespace RunPicker

/-- The layout of a field. -/
structure Layout where
  fill : Option Char := none
  align : Option Char := none
  sign : Option Char := none
  positiveZero : Bool := false
  alternate : Bool := false
  zeros : Bool := false
  width : Option Nat := none
  grouping : Option Char := none
  precision : Option Nat := none
  kind : Option Char := none
deriving DecidableEq, Inhabited, Repr

namespace Layout

/-- Does the character say on which side a value stands? -/
def isAlign (c : Char) : Bool :=
  ['<', '>', '=', '^'].contains c

/-- The largest number that may be written. -/
def maxNumber : Nat := 9223372036854775807

/-- The number at the front of the characters, if there is one, and the rest. -/
def takeNumber (cs : List Char) : Except Failure (Option Nat × List Char) :=
  let digits := (cs.takeWhile fun c => (Text.digitValue? c).isSome).filterMap Text.digitValue?
  let number := Text.numberOfDigits 10 digits
  if digits.isEmpty then .ok (none, cs)
  else if number > maxNumber then .error .wrongValue
  else .ok (some number, cs.drop digits.length)

/-- The character at the front, if it is one of the given ones, and the rest. -/
def takeOne (wanted : List Char) : List Char → Option Char × List Char
  | [] => (none, [])
  | c :: rest => if wanted.contains c then (some c, rest) else (none, c :: rest)

/-- The fill character and the alignment at the front, and the rest. -/
def takeAlign : List Char → Option Char × Option Char × List Char
  | fill :: align :: rest =>
    if isAlign align then (some fill, some align, rest)
    else if isAlign fill then (none, some fill, align :: rest)
    else (none, none, fill :: align :: rest)
  | [c] => if isAlign c then (none, some c, []) else (none, none, [c])
  | [] => (none, none, [])

/-- The precision at the front, and the rest. A point without a number is no precision. -/
def takePrecision : List Char → Except Failure (Option Nat × List Char)
  | '.' :: rest => do
    let (some precision, rest) ← takeNumber rest | .error .wrongValue
    return (some precision, rest)
  | cs => .ok (none, cs)

/-- The kinds that digits may be grouped for. -/
def allowsGrouping (grouping : Char) (kind : Option Char) : Bool :=
  match kind with
  | none => true
  | some kind =>
    ['d', 'e', 'f', 'g', 'E', 'F', 'G', '%'].contains kind
      || (grouping == '_' && ['b', 'o', 'x', 'X'].contains kind)

/-- The layout of a specification. -/
def ofSpec (cs : List Char) : Except Failure Layout := do
  let (fill, align, cs) := takeAlign cs
  let (sign, cs) := takeOne [' ', '+', '-'] cs
  let (positiveZero, cs) := takeOne ['z'] cs
  let (alternate, cs) := takeOne ['#'] cs
  let (zeros, cs) := takeOne ['0'] cs
  let (width, cs) ← takeNumber cs
  let (comma, cs) := takeOne [','] cs
  let (underscore, cs) := takeOne ['_'] cs
  let (secondComma, cs) := if underscore.isSome then takeOne [','] cs else (none, cs)
  if underscore.isSome && (comma.isSome || secondComma.isSome) then throw .wrongValue
  let (precision, cs) ← takePrecision cs
  let kind ← match cs with
    | [] => pure none
    | [kind] => pure (some kind)
    | _ => throw .wrongValue
  let grouping := comma <|> underscore
  if !grouping.all (allowsGrouping · kind) then throw .wrongValue
  return { fill, align, sign, width, grouping, precision, kind, positiveZero := positiveZero.isSome,
           alternate := alternate.isSome, zeros := zeros.isSome }

/-- The characters with fill characters around them up to the width. `side` is the alignment where none is given; with
the alignment `=` the fill characters stand between `front` and `body`. -/
def pad (layout : Layout) (side : Char) (front body : List Char) : String :=
  let fill := layout.fill.getD (if layout.zeros then '0' else ' ')
  let side := layout.align.getD (if layout.zeros && side == '>' then '=' else side)
  let missing := layout.width.getD 0 - (front.length + body.length)
  let (left, middle, right) :=
    if side == '<' then (0, 0, missing)
    else if side == '^' then (missing / 2, 0, missing - missing / 2)
    else if side == '=' then (0, missing, 0)
    else (missing, 0, 0)
  String.ofList (List.replicate left fill ++ front ++ List.replicate middle fill ++ body ++ List.replicate right fill)

/-- A text in a layout. The precision cuts it off. -/
def ofText (layout : Layout) (text : String) : Except Failure String :=
  let isText := layout.kind.all (· == 's')
  if !isText || layout.sign.isSome || layout.positiveZero || layout.alternate || layout.grouping.isSome
      || layout.align == some '=' then .error .wrongValue
  else
    let cs := text.toList
    .ok (layout.pad '<' [] (match layout.precision with
      | some precision => cs.take precision
      | none => cs))

/-- The digits with a separator between groups of a size, counted from the end. -/
def grouped (separator : Option Char) (size : Nat) (digits : List Char) : List Char :=
  match separator with
  | none => digits
  | some separator =>
    (digits.reverse.zipIdx.flatMap fun (c, place) =>
      if place != 0 && place % size == 0 then [separator, c] else [c]).reverse

/-- The sign that stands before a number. -/
def signText (layout : Layout) (negative : Bool) : List Char :=
  if negative then ['-']
  else match layout.sign with
    | some '+' => ['+']
    | some ' ' => [' ']
    | _ => []

/-- Digits in a layout, with what stands before them and behind them. Zeros that fill the field are grouped too. -/
def number (layout : Layout) (size : Nat) (front digits back : List Char) : String :=
  let fillsWithZeros := layout.zeros && layout.align.isNone && layout.fill.isNone
  let room := layout.width.getD 0 - (front.length + back.length)
  let padded (extra : Nat) := grouped layout.grouping size (List.replicate extra '0' ++ digits)
  let extra := if fillsWithZeros && layout.grouping.isSome then
      ((List.range (room + 1)).find? fun extra => (padded extra).length ≥ room).getD 0
    else 0
  layout.pad '>' front (padded extra ++ back)

/-- An integer in a layout. -/
def ofInteger (layout : Layout) (n : Int) : Except Failure String :=
  if layout.precision.isSome || layout.positiveZero then .error .wrongValue
  else
    let sign := layout.signText (n < 0)
    let inBase (base size : Nat) (mark : List Char) (digitOf : Char → Char) :=
      let mark := if layout.alternate then mark else []
      .ok (layout.number size (sign ++ mark) ((Nat.toDigits base n.natAbs).map digitOf) [])
    match layout.kind with
    | none | some 'd' | some 'n' => if (Value.integer n).hasText then inBase 10 3 [] id else .error .wrongValue
    | some 'b' => inBase 2 4 ['0', 'b'] id
    | some 'o' => inBase 8 4 ['0', 'o'] id
    | some 'x' => inBase 16 4 ['0', 'x'] id
    | some 'X' => inBase 16 4 ['0', 'X'] Char.toUpper
    | some 'c' =>
      if layout.sign.isSome || layout.alternate then .error .wrongValue
      else if n < 0 || n > 0x10FFFF then .error .overflow
      else .ok (layout.pad '<' [] [Char.ofNat n.toNat])
    | some _ => .error .wrongValue

/-- The quotient rounded to the nearest integer, a tie going to the even one. -/
def roundedQuotient (num den : Nat) : Nat :=
  let down := num / den
  let rest := num % den
  if 2 * rest > den || (2 * rest == den && down % 2 == 1) then down + 1 else down

/-- A positive quotient as digits and the exponent of the first of them, rounded to `count` digits. -/
def scientific (count num den : Nat) : List Char × Int :=
  if num = 0 then (List.replicate count '0', 0)
  else
    let estimate : Int := ((num.log2 : Int) - (den.log2 : Int)) * 30103 / 100000 - 1
    let digitsAt (exponent : Int) : List Char :=
      let shift : Int := (count : Int) - 1 - exponent
      Nat.toDigits 10 (roundedQuotient (num * Nat.pow 10 shift.toNat) (den * Nat.pow 10 (-shift).toNat))
    let exponent := ((List.range 5).map fun (step : Nat) => estimate + step).find? fun exponent =>
      (digitsAt exponent).length ≤ count
    let exponent := exponent.getD estimate
    (digitsAt exponent, exponent)

/-- A quotient with a number of places behind the point: the digits before it and those behind it. -/
def fixed (places num den : Nat) : List Char × List Char :=
  let digits := Nat.toDigits 10 (roundedQuotient (num * Nat.pow 10 places) den)
  let digits := List.replicate (places + 1 - digits.length) '0' ++ digits
  (digits.take (digits.length - places), digits.drop (digits.length - places))

/-- The digits behind the point with the point before them, if there are any or the layout asks for the point. -/
def withPoint (layout : Layout) (fraction : List Char) : List Char :=
  if fraction.isEmpty && !layout.alternate then [] else '.' :: fraction

/-- The digits without the zeros at their end. -/
def dropZeros (digits : List Char) : List Char :=
  (digits.reverse.dropWhile (· == '0')).reverse

/-- A quotient in the shorter of the two forms, with a number of digits; `least` is how many stay behind the point. -/
def general (layout : Layout) (count least num den : Nat) (mark : Char) : List Char × List Char :=
  let (digits, exponent) := scientific count num den
  let shorten (fraction : List Char) :=
    if layout.alternate then fraction
    else
      let kept := dropZeros fraction
      kept ++ List.replicate (least - kept.length) '0'
  let limit : Int := if least = 0 then count else count - 1
  if exponent < -4 || (exponent ≥ limit && (least = 0 || exponent ≥ count)) then
    (digits.take 1, layout.withPoint (if layout.alternate then digits.drop 1 else dropZeros (digits.drop 1))
      ++ mark :: Decimal.exponentText exponent)
  else
    let (whole, fraction) := fixed ((count : Int) - 1 - exponent).toNat num den
    (whole, layout.withPoint (shorten fraction))

/-- A finite number in a layout, by its sign and its absolute value as a quotient. -/
def ofQuotient (layout : Layout) (negative : Bool) (num den : Nat) (shortest : List Char) : Except Failure String :=
  let precision := layout.precision.getD 6
  let front (isZero : Bool) := layout.signText (negative && !(layout.positiveZero && isZero))
  let isZeroText (cs : List Char) := cs.all fun c => c == '0' || c == '.'
  let laid (whole back : List Char) :=
    .ok (layout.number 3 (front (isZeroText (whole ++ back))) whole back)
  match layout.kind with
  | some 'f' | some 'F' =>
    let (whole, fraction) := fixed precision num den
    laid whole (layout.withPoint fraction)
  | some '%' =>
    let (whole, fraction) := fixed precision (num * 100) den
    laid whole (layout.withPoint fraction ++ ['%'])
  | some 'e' | some 'E' =>
    let (digits, exponent) := scientific (precision + 1) num den
    let mark := layout.kind.getD 'e'
    laid (digits.take 1) (layout.withPoint (digits.drop 1) ++ mark :: Decimal.exponentText exponent)
  | some 'g' | some 'n' =>
    let (whole, back) := layout.general (max precision 1) 0 num den 'e'
    laid whole back
  | some 'G' =>
    let (whole, back) := layout.general (max precision 1) 0 num den 'E'
    laid whole back
  | none => match layout.precision with
    | some precision =>
      let (whole, back) := layout.general (max precision 1) 1 num den 'e'
      laid whole back
    | none => laid (shortest.takeWhile Char.isDigit) (shortest.dropWhile Char.isDigit)
  | some _ => .error .wrongValue

/-- Does the kind name a layout of numbers? -/
def isNumberKind (kind : Char) : Bool :=
  ['e', 'E', 'f', 'F', 'g', 'G', '%'].contains kind

/-- A number in a layout. -/
def ofNumber (layout : Layout) (x : Real64) : Except Failure String :=
  let named (negative : Bool) (name : List Char) :=
    if !layout.kind.all fun kind => kind == 'n' || isNumberKind kind then .error .wrongValue
    else
      let name := if layout.kind.any Char.isUpper then name.map Char.toUpper else name
      .ok (layout.number 3 (layout.signText negative) name (if layout.kind == some '%' then ['%'] else []))
  match x with
  | .nan => named false ['n', 'a', 'n']
  | .infinite negative => named negative ['i', 'n', 'f']
  | .finite negative significand exponent =>
    let (num, den) := Real64.ratio false significand exponent
    layout.ofQuotient negative num.natAbs den (Real64.finite false significand exponent).text.toList

/-- The number of an integer, unless the integer is too large. -/
def realOfInteger (n : Int) : Except Failure Real64 :=
  match Real64.ofRatio (n < 0) n.natAbs 1 with
  | .infinite _ => .error .overflow
  | x => .ok x

/-- A value in the layout of a specification. -/
def apply (spec : String) (value : Value) : Except Failure String :=
  if spec.isEmpty then value.toText
  else match value with
    | .text s => do (← ofSpec spec.toList).ofText s
    | .bool b => do integer (← ofSpec spec.toList) (if b then 1 else 0)
    | .integer n => do integer (← ofSpec spec.toList) n
    | .number x => do (← ofSpec spec.toList).ofNumber x
    | _ => .error .wrongType
where
  integer (layout : Layout) (n : Int) : Except Failure String :=
    if layout.kind.any isNumberKind then do layout.ofNumber (← realOfInteger n) else layout.ofInteger n

end Layout

end RunPicker

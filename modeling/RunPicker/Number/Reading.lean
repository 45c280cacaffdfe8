import RunPicker.Number.Real64
import RunPicker.Text.Integer

/-!
# Numbers in texts

The number that a text spells in decimal: digits with at most one point among them, and a power of ten after an `e`.
-/

namespace RunPicker.Real64

/-- The ASCII digits at the front of the characters, and the rest. -/
def digitSpan (cs : List Char) : List Char × List Char :=
  (cs.takeWhile Char.isDigit, cs.dropWhile Char.isDigit)

/-- The number that a row of ASCII digits stands for. -/
def digitsValue (digits : List Char) : Nat :=
  Text.numberOfDigits 10 (digits.map fun c => c.toNat - '0'.toNat)

/-- The power of ten that is spelled after the digits. -/
def power? : List Char → Option Int
  | [] => some 0
  | c :: rest =>
    if c == 'e' || c == 'E' then
      let (negative, digits) : Bool × List Char := match rest with
        | '-' :: digits => (true, digits)
        | '+' :: digits => (false, digits)
        | digits => (false, digits)
      if digits.isEmpty || !digits.all Char.isDigit then none
      else some (if negative then -(digitsValue digits : Int) else digitsValue digits)
    else none

/-- The number of an unsigned decimal. -/
def unsigned? (negative : Bool) (cs : List Char) : Option Real64 :=
  let (whole, rest) := digitSpan cs
  let (fraction, rest) := match rest with
    | '.' :: rest => digitSpan rest
    | rest => ([], rest)
  if whole.isEmpty && fraction.isEmpty then none
  else (power? rest).map fun power =>
    ofDecimal negative (digitsValue (whole ++ fraction)) (power - fraction.length)

/-- The number of a decimal with at most one sign before it. -/
def decimal? : List Char → Option Real64
  | '-' :: cs => unsigned? true cs
  | '+' :: cs => unsigned? false cs
  | cs => unsigned? false cs

/-- The number that a text spells, the infinities and not-a-number by their names. -/
def ofText? (text : String) : Option Real64 :=
  match text with
  | "nan" => some .nan
  | "inf" => some (.infinite false)
  | "-inf" => some (.infinite true)
  | text => decimal? text.toList

end RunPicker.Real64

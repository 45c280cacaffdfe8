import RunPicker.Number.Real64

/-!
# The shortest decimal of a number

`Decimal.shortest` gives the decimal with the fewest digits that reads back as a number, the nearest of them where
there are two, and `Decimal.layout` writes it: positionally from `0.0001` up to below `10 ^ 16`, and elsewhere with an
exponent that has a sign and at least two digits.
-/

namespace RunPicker

/-- The decimal `digits * 10 ^ power`. -/
structure Decimal where
  digits : Nat
  power : Int
deriving DecidableEq, Repr

namespace Decimal

/-- Does the decimal read back as the positive number? -/
def readsBackAs (decimal : Decimal) (significand : Nat) (exponent : Int) : Bool :=
  Real64.ofDecimal false decimal.digits decimal.power == .finite false significand exponent

/-- The quotient of a positive number by a power of ten, rounded down, with what is left over and its divisor. -/
def onGrid (significand : Nat) (exponent power : Int) : Nat × Nat × Nat :=
  let top := significand * Nat.pow 2 exponent.toNat * Nat.pow 10 (-power).toNat
  let bottom := Nat.pow 2 (-exponent).toNat * Nat.pow 10 power.toNat
  (top / bottom, top % bottom, bottom)

/-- The neighbour on the grid of a power of ten that reads back: the nearer one if both do, the even one of a tie. -/
def neighbour? (significand : Nat) (exponent power : Int) : Option Decimal :=
  let (down, rest, divisor) := onGrid significand exponent power
  let below : Decimal := ⟨down, power⟩
  let above : Decimal := ⟨down + 1, power⟩
  match below.readsBackAs significand exponent, above.readsBackAs significand exponent with
  | true, true =>
    if 2 * rest < divisor || (2 * rest == divisor && down % 2 == 0) then some below else some above
  | true, false => some below
  | false, true => some above
  | false, false => none

/-- The least power of ten above a positive number, found upwards from an estimate. -/
def ceilingPower (significand : Nat) (exponent : Int) : Nat → Int → Int
  | 0, power => power
  | steps + 1, power =>
    let (down, _, _) := onGrid significand exponent power
    if down = 0 then power else ceilingPower significand exponent steps (power + 1)

/-- A power of ten that is not above a positive number by more than a few, nor above its ceiling. -/
def powerEstimate (significand : Nat) (exponent : Int) : Int :=
  ((Nat.log2 significand : Int) + exponent) * 30103 / 100000 - 2

/-- The first grid, from `count` digits on, of which a neighbour reads back. -/
def firstGrid? (significand : Nat) (exponent ceiling : Int) : Nat → Nat → Option Decimal
  | 0, _ => none
  | tries + 1, count =>
    (neighbour? significand exponent (ceiling - count)).orElse fun _ =>
      firstGrid? significand exponent ceiling tries (count + 1)

/-- The decimal without the zeros at its end. -/
def stripZeros : Nat → Decimal → Decimal
  | 0, decimal => decimal
  | steps + 1, decimal =>
    if decimal.digits ≠ 0 && decimal.digits % 10 == 0 then
      stripZeros steps ⟨decimal.digits / 10, decimal.power + 1⟩
    else decimal

/-- The decimal with the fewest digits that reads back as the positive number. Seventeen digits always suffice. -/
def shortest (significand : Nat) (exponent : Int) : Decimal :=
  let ceiling := ceilingPower significand exponent 8 (powerEstimate significand exponent)
  stripZeros 20 ((firstGrid? significand exponent ceiling 17 1).getD ⟨significand, exponent⟩)

/-- The digits of a natural number. -/
def digitsOf (number : Nat) : List Char :=
  Nat.toDigits 10 number

/-- The text of an exponent of ten: a sign, and at least two digits. -/
def exponentText (exponent : Int) : List Char :=
  let digits := digitsOf exponent.natAbs
  (if exponent < 0 then '-' else '+') :: (List.replicate (2 - digits.length) '0' ++ digits)

/-- The text of a positive decimal. -/
def layout (decimal : Decimal) : List Char :=
  let digits := digitsOf decimal.digits
  let point : Int := digits.length + decimal.power
  if point > 16 || point < -3 then
    let fraction := digits.drop 1
    digits.take 1 ++ (if fraction.isEmpty then [] else '.' :: fraction) ++ 'e' :: exponentText (point - 1)
  else if point ≤ 0 then
    '0' :: '.' :: (List.replicate (-point).toNat '0' ++ digits)
  else if digits.length ≤ point.toNat then
    digits ++ List.replicate (point.toNat - digits.length) '0' ++ ['.', '0']
  else digits.take point.toNat ++ '.' :: digits.drop point.toNat

end Decimal

namespace Real64

/-- The text of a number. -/
def text : Real64 → String
  | .nan => "nan"
  | .infinite negative => if negative then "-inf" else "inf"
  | .finite negative significand exponent =>
    let digits := if significand = 0 then ['0', '.', '0'] else (Decimal.shortest significand exponent).layout
    String.ofList (if negative then '-' :: digits else digits)

end Real64

end RunPicker

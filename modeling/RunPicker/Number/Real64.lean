/-!
# Numbers of the binary64 format

A finite number is a sign, a significand and an exponent of two, and all its arithmetic here is exact arithmetic on
naturals and integers. `Real64.ofRatio` rounds a quotient to the nearest number of the format, a tie to the even
significand; numbers are compared by their values, so the two zeros are equal and nothing equals not-a-number.
-/

namespace RunPicker

/-- A number of the binary64 format: not a number, an infinity, or plus or minus `significand * 2 ^ exponent`. -/
inductive Real64 where
  | nan
  | infinite (negative : Bool)
  | finite (negative : Bool) (significand : Nat) (exponent : Int)
deriving DecidableEq, Inhabited, Repr

namespace Real64

/-- The number of bits of a full significand. -/
def precision : Nat := 53

/-- The least exponent of the format. -/
def minExponent : Int := -1074

/-- The greatest exponent of the format. -/
def maxExponent : Int := 971

/-- The quotient of `num` by `den * 2 ^ exponent`, what is left over, and the divisor that it is left over from. -/
def scaledDivision (num den : Nat) (exponent : Int) : Nat × Nat × Nat :=
  let top := num * Nat.pow 2 (-exponent).toNat
  let bottom := den * Nat.pow 2 exponent.toNat
  (top / bottom, top % bottom, bottom)

/-- The exponent of the last bit of a quotient when its significand is full: the estimate from the two logarithms,
raised by one where the significand came out a bit too long. -/
def lastBitExponent (num den : Nat) : Int :=
  let estimate : Int := (num.log2 : Int) - (den.log2 : Int) - (precision : Int)
  let (significand, _, _) := scaledDivision num den estimate
  if significand < Nat.pow 2 precision then estimate else estimate + 1

/-- The number nearest to the quotient `num / den`, a tie going to the even significand. -/
def ofRatio (negative : Bool) (num den : Nat) : Real64 :=
  if num = 0 then .finite negative 0 minExponent
  else
    let exponent := max minExponent (lastBitExponent num den)
    let (down, rest, divisor) := scaledDivision num den exponent
    let significand := if 2 * rest > divisor || (2 * rest == divisor && down % 2 == 1) then down + 1 else down
    if significand = Nat.pow 2 precision then
      if exponent + 1 > maxExponent then .infinite negative
      else .finite negative (Nat.pow 2 (precision - 1)) (exponent + 1)
    else if exponent > maxExponent then .infinite negative
    else .finite negative significand exponent

/-- The number nearest to `digits * 10 ^ power`. Powers far outside the format's range are not multiplied out. -/
def ofDecimal (negative : Bool) (digits : Nat) (power : Int) : Real64 :=
  if digits = 0 then .finite negative 0 minExponent
  else
    let magnitude := (Nat.log2 digits : Int) * 3 / 10 + power
    if magnitude > 320 then .infinite negative
    else if magnitude < -400 - (Nat.log2 digits : Int) / 20 then .finite negative 0 minExponent
    else ofRatio negative (digits * Nat.pow 10 power.toNat) (Nat.pow 10 (-power).toNat)

/-- The value of a finite number as a signed quotient: its numerator and its denominator. -/
def ratio (negative : Bool) (significand : Nat) (exponent : Int) : Int × Nat :=
  let num : Int := significand * Nat.pow 2 exponent.toNat
  (if negative then -num else num, Nat.pow 2 (-exponent).toNat)

/-- The integer that is left when the fraction of a finite number is cut off. -/
def truncate (negative : Bool) (significand : Nat) (exponent : Int) : Int :=
  let (num, den) := ratio negative significand exponent
  num.tdiv den

/-- Is the number a zero? -/
def isZero : Real64 → Bool
  | .finite _ significand _ => significand == 0
  | _ => false

/-- The order of two quotients. -/
def compareRatios (a b : Int × Nat) : Ordering :=
  compare (a.1 * b.2) (b.1 * a.2)

/-- The order of two numbers by value, unless one of them is not a number. -/
def compare? : Real64 → Real64 → Option Ordering
  | .nan, _ => none
  | _, .nan => none
  | .infinite true, .infinite true => some .eq
  | .infinite true, _ => some .lt
  | _, .infinite true => some .gt
  | .infinite false, .infinite false => some .eq
  | .infinite false, _ => some .gt
  | _, .infinite false => some .lt
  | .finite n m e, .finite n' m' e' => some (compareRatios (ratio n m e) (ratio n' m' e'))

/-- The order of a number and an integer by value, unless the number is not one. -/
def compareInt? : Real64 → Int → Option Ordering
  | .nan, _ => none
  | .infinite negative, _ => some (if negative then .lt else .gt)
  | .finite n m e, k => some (compareRatios (ratio n m e) (k, 1))

end Real64

end RunPicker

import RunPicker.Text.Blank
import RunPicker.Text.DecimalDigit

/-!
# Integers in texts

The integer that a text spells: blank characters around it, at most one sign, and decimal digits of any script with
single underscores between them. A text of more than 4300 digits spells no integer.

The control characters U+001C to U+001F are blank elsewhere and not here.
-/

namespace RunPicker.Text

/-- The largest number of digits that are read and written. -/
def maxIntegerDigits : Nat := 4300

/-- May the character stand around an integer? -/
def isIntegerPadding (c : Char) : Bool :=
  isBlank c && !(0x1C ≤ c.toNat && c.toNat ≤ 0x1F)

/-- The values of the digits, which stand alone or with single underscores between them. `after` says whether a digit
has just been read. -/
def digitRun? (after : Bool) : List Char → Option (List Nat)
  | [] => if after then some [] else none
  | c :: rest =>
    if c == '_' then if after then digitRun? false rest else none
    else match digitValue? c with
      | some value => (digitRun? true rest).map (value :: ·)
      | none => none

/-- The number that a row of digits stands for in a base. -/
def numberOfDigits (base : Nat) (digits : List Nat) : Nat :=
  digits.foldl (fun number digit => number * base + digit) 0

/-- The natural number of an unsigned row of digits. -/
def natural? (cs : List Char) : Option Nat :=
  match digitRun? false cs with
  | some digits => if digits.length ≤ maxIntegerDigits then some (numberOfDigits 10 digits) else none
  | none => none

/-- The integer of a row of digits with at most one sign before it. -/
def signed? : List Char → Option Int
  | '-' :: rest => (natural? rest).map fun number => -(number : Int)
  | '+' :: rest => (natural? rest).map Int.ofNat
  | cs => (natural? cs).map Int.ofNat

/-- The integer that the text spells. -/
def integer? (text : String) : Option Int :=
  let front := text.toList.dropWhile isIntegerPadding
  signed? (front.reverse.dropWhile isIntegerPadding).reverse

end RunPicker.Text

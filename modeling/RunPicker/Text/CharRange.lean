/-!
# Ranges of characters

A property of characters is kept as a list of closed ranges of code points. `CharRange.covers` looks a code point up.
-/

namespace RunPicker.Text

/-- A closed range of code points: its first and its last member. -/
abbrev CharRange := Nat × Nat

/-- Does one of the ranges hold the code point? -/
def CharRange.covers (ranges : List CharRange) (code : Nat) : Bool :=
  ranges.any fun range => range.1 ≤ code && code ≤ range.2

end RunPicker.Text

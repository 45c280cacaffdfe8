import Mathlib.Data.List.DropRight
import Mathlib.Data.Nat.Digits.Defs
import RunPicker.Text.Integer

/-!
# Literals of integers

The texts that spell an integer, as a grammar: `IsLiteral` has a text spell an integer if it is a row of digits with at
most one sign before it and with blanks around it. The functions that read such a text are followed from the inside to
the outside: a row of digits (`digitRun?_iff`), its number, the sign, and the blanks. `integer?_iff` says that
`Text.integer?` reads the literals and nothing else. The decimal texts of integers are among them
(`isNumeral_toString`).
-/

namespace RunPicker.Text

/-- The characters are decimal digits of the given values, next to each other or with one underscore between them. -/
inductive DigitRow : List Char → List Nat → Prop where
  | last {c : Char} {value : Nat} (digit : digitValue? c = some value) : DigitRow [c] [value]
  | next {c : Char} {value : Nat} {cs : List Char} {values : List Nat} (digit : digitValue? c = some value)
      (rest : DigitRow cs values) : DigitRow (c :: cs) (value :: values)
  | spaced {c : Char} {value : Nat} {cs : List Char} {values : List Nat} (digit : digitValue? c = some value)
      (rest : DigitRow cs values) : DigitRow (c :: '_' :: cs) (value :: values)

/-- The characters are a sign or none, with which a number is taken as often as the factor says. -/
inductive IsSign : List Char → Int → Prop where
  | absent : IsSign [] 1
  | plus : IsSign ['+'] 1
  | minus : IsSign ['-'] (-1)

/-- The characters are a row of digits that is not too long, with at most one sign before it, and the integer is what
they stand for. -/
def IsNumeral (cs : List Char) (n : Int) : Prop :=
  ∃ sign factor row values, cs = sign ++ row ∧ IsSign sign factor ∧ DigitRow row values ∧
    values.length ≤ maxIntegerDigits ∧ n = factor * (Nat.ofDigits 10 values.reverse : Nat)

/-- The text spells the integer: a numeral with blanks around it. -/
def IsLiteral (text : String) (n : Int) : Prop :=
  ∃ front numeral back, text.toList = front ++ numeral ++ back ∧ IsNumeral numeral n ∧
    (∀ c ∈ front, isIntegerPadding c = true) ∧ (∀ c ∈ back, isIntegerPadding c = true)

namespace IntegersAux

variable {c : Char} {cs : List Char} {values : List Nat} {n : Int}

/-! ## Rows of digits -/

/-- The characters may stand behind a digit in a row that ends with the given values. -/
def FollowsDigit (cs : List Char) (values : List Nat) : Prop :=
  (cs = [] ∧ values = []) ∨ DigitRow cs values ∨ ∃ rest, cs = '_' :: rest ∧ DigitRow rest values

/-- A row begins with a digit, and what follows is the end, another row, or an underscore and another row. -/
theorem digitRow_cons_iff : DigitRow (c :: cs) values ↔
    ∃ value tail, digitValue? c = some value ∧ values = value :: tail ∧ FollowsDigit cs tail := by
  constructor
  · rintro (hdigit | ⟨hdigit, hrest⟩ | ⟨hdigit, hrest⟩)
    · exact ⟨_, _, hdigit, rfl, .inl ⟨rfl, rfl⟩⟩
    · exact ⟨_, _, hdigit, rfl, .inr (.inl hrest)⟩
    · exact ⟨_, _, hdigit, rfl, .inr (.inr ⟨_, rfl, hrest⟩)⟩
  · rintro ⟨value, tail, hdigit, rfl, ⟨rfl, rfl⟩ | hrest | ⟨rest, rfl, hrest⟩⟩
    · exact .last hdigit
    · exact .next hdigit hrest
    · exact .spaced hdigit hrest

/-- A row has a digit. -/
theorem not_digitRow_nil : ¬ DigitRow [] values := nofun

/-- A row does not begin with anything but a digit. -/
theorem not_digitRow_of_none (h : digitValue? c = none) : ¬ DigitRow (c :: cs) values := by
  rw [digitRow_cons_iff]
  rintro ⟨value, -, hdigit, -⟩
  exact nomatch h.symm.trans hdigit

/-- A row is read where one is to begin, and behind a digit what may follow it. -/
theorem digitRun?_iff_and (cs : List Char) (values : List Nat) :
    (digitRun? false cs = some values ↔ DigitRow cs values) ∧
      (digitRun? true cs = some values ↔ FollowsDigit cs values) := by
  have hunderscore : digitValue? '_' = none := by decide
  induction cs generalizing values with
  | nil =>
    refine ⟨iff_of_false nofun not_digitRow_nil, ?_⟩
    simp [digitRun?, FollowsDigit, not_digitRow_nil, eq_comm]
  | cons c cs ih =>
    by_cases hc : c = '_'
    · obtain rfl := hc
      have hrow : ¬ DigitRow ('_' :: cs) values := not_digitRow_of_none hunderscore
      refine ⟨iff_of_false (by simp [digitRun?]) hrow, ?_⟩
      have hskip : digitRun? true ('_' :: cs) = digitRun? false cs := rfl
      rw [hskip, (ih values).1]
      constructor
      · exact fun hrest => .inr (.inr ⟨cs, rfl, hrest⟩)
      · rintro (⟨hnil, -⟩ | hrow' | ⟨rest, hrest, hdigits⟩)
        · cases hnil
        · exact absurd hrow' hrow
        · exact (List.cons.inj hrest).2 ▸ hdigits
    · have hread (after : Bool) : digitRun? after (c :: cs) = some values ↔ DigitRow (c :: cs) values := by
        rw [digitRun?, if_neg (by simpa using hc), digitRow_cons_iff]
        cases hdigit : digitValue? c with
        | none => simp
        | some value =>
          simp only [Option.map_eq_some_iff, Option.some.injEq, ← (ih _).2]
          constructor
          · rintro ⟨tail, htail, rfl⟩
            exact ⟨value, tail, rfl, rfl, htail⟩
          · rintro ⟨_, tail, rfl, rfl, htail⟩
            exact ⟨tail, htail, rfl⟩
      refine ⟨hread false, (hread true).trans ⟨fun hrow => .inr (.inl hrow), ?_⟩⟩
      rintro (⟨hnil, -⟩ | hrow | ⟨rest, hrest, -⟩)
      · cases hnil
      · exact hrow
      · exact absurd (List.cons.inj hrest).1 hc

/-- The characters that are read as digits are the rows. -/
theorem digitRun?_iff : digitRun? false cs = some values ↔ DigitRow cs values :=
  (digitRun?_iff_and cs values).1

/-! ## Numbers and signs -/

/-- Digits are put together from the first on, and stand for the number that they have from the last on. -/
theorem numberOfDigits_eq (base : Nat) (values : List Nat) :
    numberOfDigits base values = Nat.ofDigits base values.reverse := by
  induction values using List.reverseRecOn with
  | nil => rfl
  | append_singleton values value ih =>
    rw [List.reverse_append, List.reverse_singleton, List.singleton_append, Nat.ofDigits_cons, ← ih, numberOfDigits,
      List.foldl_append, Nat.mul_comm, Nat.add_comm]
    rfl

/-- A number is read from a row that is not too long, and is what its digits stand for. -/
theorem natural?_iff {number : Nat} : natural? cs = some number ↔
    ∃ values, DigitRow cs values ∧ values.length ≤ maxIntegerDigits ∧ number = Nat.ofDigits 10 values.reverse := by
  simp only [← digitRun?_iff, ← numberOfDigits_eq]
  rw [natural?]
  cases digitRun? false cs with
  | none => simp
  | some values =>
    by_cases hlength : values.length ≤ maxIntegerDigits
    · simp [hlength, eq_comm]
    · simp only [hlength, if_false]
      refine iff_of_false nofun ?_
      rintro ⟨_, hvalues, hlength', -⟩
      exact hlength (Option.some.inj hvalues ▸ hlength')

/-- After a minus the number is taken negatively. -/
theorem signed?_minus (row : List Char) :
    signed? ('-' :: row) = (natural? row).map fun number : Nat => -1 * (number : Int) := by
  rw [signed?]
  cases natural? row with
  | none => rfl
  | some number => exact congrArg some (Int.neg_one_mul _).symm

/-- A number without a minus is taken once. -/
theorem map_one_mul (number? : Option Nat) :
    number?.map Int.ofNat = number?.map fun number : Nat => 1 * (number : Int) := by
  cases number? with
  | none => rfl
  | some number => exact congrArg some (Int.one_mul _).symm

/-- The sign at the front of the characters is taken off, if there is one. -/
theorem exists_sign (cs : List Char) : ∃ sign factor rest, cs = sign ++ rest ∧ IsSign sign factor ∧
    signed? cs = (natural? rest).map fun number : Nat => factor * (number : Int) := by
  fun_cases signed? cs with
  | case1 rest => exact ⟨_, _, rest, rfl, .minus, signed?_minus rest⟩
  | case2 rest => exact ⟨_, _, rest, rfl, .plus, map_one_mul (natural? rest)⟩
  | case3 cs => exact ⟨_, _, cs, rfl, .absent, map_one_mul (natural? cs)⟩

/-- Before a row of digits, what is taken off is the sign that was written. -/
theorem signed?_append {sign row : List Char} {factor : Int} (hsign : IsSign sign factor) (hrow : DigitRow row values) :
    signed? (sign ++ row) = (natural? row).map fun number : Nat => factor * (number : Int) := by
  cases hsign with
  | minus => exact signed?_minus row
  | plus => exact map_one_mul (natural? row)
  | absent =>
    rw [List.nil_append, ← map_one_mul]
    fun_cases signed? row with
    | case1 rest => exact absurd hrow (not_digitRow_of_none (by decide))
    | case2 rest => exact absurd hrow (not_digitRow_of_none (by decide))
    | case3 => rfl

/-- The signed numbers that are read are the numerals. -/
theorem signed?_iff : signed? cs = some n ↔ IsNumeral cs n := by
  constructor
  · intro h
    obtain ⟨sign, factor, row, hcs, hsign, hread⟩ := exists_sign cs
    obtain ⟨number, hnumber, hn⟩ := Option.map_eq_some_iff.mp (hread ▸ h)
    obtain ⟨values, hrow, hlength, rfl⟩ := natural?_iff.mp hnumber
    exact ⟨sign, factor, row, values, hcs, hsign, hrow, hlength, hn.symm⟩
  · rintro ⟨sign, factor, row, values, rfl, hsign, hrow, hlength, rfl⟩
    rw [signed?_append hsign hrow, natural?_iff.mpr ⟨values, hrow, hlength, rfl⟩, Option.map_some]

/-! ## Blanks around a numeral -/

/-- No decimal digit counts as blank. -/
theorem not_blank_of_digit {value : Nat} (h : digitValue? c = some value) : isBlank c = false := by
  have hrows : ∀ start ∈ digitZeros, ∀ offset < 10, CharRange.covers blankRanges (start + offset) = false := by decide
  obtain ⟨start, hstart, -⟩ := Option.map_eq_some_iff.mp h
  have hwithin := List.find?_some hstart
  rw [Bool.and_eq_true, decide_eq_true_eq, decide_eq_true_eq] at hwithin
  have hblank := hrows start (List.mem_of_find?_eq_some hstart) (c.toNat - start) (by omega)
  rw [Nat.add_sub_cancel' hwithin.1] at hblank
  rw [isBlank, hblank]

/-- In a row stand digits and underscores. -/
theorem characters_of_row (h : DigitRow cs values) : ∀ c ∈ cs, c = '_' ∨ (digitValue? c).isSome = true := by
  have hsome {c : Char} {value : Nat} (digit : digitValue? c = some value) :
      c = '_' ∨ (digitValue? c).isSome = true := .inr (digit ▸ rfl)
  induction h with
  | last digit => exact List.forall_mem_singleton.mpr (hsome digit)
  | next digit _ ih => exact List.forall_mem_cons.mpr ⟨hsome digit, ih⟩
  | spaced digit _ ih => exact List.forall_mem_cons.mpr ⟨hsome digit, List.forall_mem_cons.mpr ⟨.inl rfl, ih⟩⟩

/-- A numeral is written with digits, signs and underscores. -/
theorem characters_of_numeral (h : IsNumeral cs n) :
    ∀ c ∈ cs, c ∈ ['+', '-', '_'] ∨ (digitValue? c).isSome = true := by
  obtain ⟨sign, factor, row, values, rfl, hsign, hrow, -⟩ := h
  have hfront : ∀ c ∈ sign, c ∈ ['+', '-', '_'] := by
    cases hsign with
    | absent => exact List.forall_mem_nil _
    | plus | minus => exact List.forall_mem_singleton.mpr (by decide)
  intro c hc
  rcases List.mem_append.mp hc with hc | hc
  · exact .inl (hfront c hc)
  · exact (characters_of_row hrow c hc).imp_left fun hunderscore => by simp [hunderscore]

/-- There are no blanks in a numeral. -/
theorem not_blank_of_numeral (h : IsNumeral cs n) : ∀ c ∈ cs, isBlank c = false := by
  have hother : ∀ c ∈ ['+', '-', '_'], isBlank c = false := by
    simp only [List.forall_mem_cons]
    exact ⟨by decide, by decide, by decide, List.forall_mem_nil _⟩
  intro c hc
  rcases characters_of_numeral h c hc with hmem | hdigit
  · exact hother c hmem
  · obtain ⟨value, hvalue⟩ := Option.isSome_iff_exists.mp hdigit
    exact not_blank_of_digit hvalue

/-- Nothing in a numeral is dropped as padding. -/
theorem not_padding_of_numeral (h : IsNumeral cs n) : ∀ c ∈ cs, isIntegerPadding c = false := by
  intro c hc
  rw [isIntegerPadding, not_blank_of_numeral h c hc, Bool.false_and]

/-- The characters that are left when the blank ones are taken off at both ends. -/
def stripped (cs : List Char) : List Char :=
  (cs.dropWhile isIntegerPadding).rdropWhile isIntegerPadding

theorem integer?_eq (text : String) : integer? text = signed? (stripped text.toList) := rfl

/-- What is dropped around a text is padding. -/
theorem exists_padding (cs : List Char) : ∃ front back, cs = front ++ stripped cs ++ back ∧
    (∀ c ∈ front, isIntegerPadding c = true) ∧ (∀ c ∈ back, isIntegerPadding c = true) := by
  refine ⟨cs.takeWhile isIntegerPadding, (cs.dropWhile isIntegerPadding).rtakeWhile isIntegerPadding, ?_,
    fun c hc => List.mem_takeWhile_imp hc, fun c hc => List.mem_rtakeWhile_imp hc⟩
  rw [stripped, List.append_assoc, List.rdropWhile_append_rtakeWhile, List.takeWhile_append_dropWhile]

/-- Padding is dropped around what has none. -/
theorem stripped_of_padding {front back : List Char} (hfront : ∀ c ∈ front, isIntegerPadding c = true)
    (hback : ∀ c ∈ back, isIntegerPadding c = true) (hcs : ∀ c ∈ cs, isIntegerPadding c = false) :
    stripped (front ++ cs ++ back) = cs := by
  cases cs with
  | nil =>
    have hall := List.forall_mem_append.mpr ⟨hfront, hback⟩
    rw [stripped, List.append_nil, List.dropWhile_eq_nil_iff.mpr hall, List.rdropWhile_nil]
  | cons c rest =>
    have hhead : ¬ isIntegerPadding c = true := by simp [hcs c List.mem_cons_self]
    have hlast : ((c :: rest).reverse).dropWhile isIntegerPadding = (c :: rest).reverse := by
      rw [List.dropWhile_eq_self_iff]
      intro hlength
      rw [hcs _ (List.mem_reverse.mp (List.getElem_mem hlength))]
      exact Bool.false_ne_true
    rw [stripped, List.append_assoc, List.dropWhile_append_of_pos hfront, List.cons_append,
      List.dropWhile_cons_of_neg hhead, ← List.cons_append, List.rdropWhile, List.reverse_append,
      List.dropWhile_append_of_pos fun c hc => hback c (List.mem_reverse.mp hc), hlast, List.reverse_reverse]

/-! ## Decimal digits -/

/-- A digit can be put at the end of a row. -/
theorem digitRow_append_singleton {c : Char} {cs : List Char} {values : List Nat} {value : Nat} (h : DigitRow cs values)
    (hc : digitValue? c = some value) :
    DigitRow (cs ++ [c]) (values ++ [value]) := by
  induction h with
  | last digit => exact .next digit (.last hc)
  | next digit _ ih => exact .next digit ih
  | spaced digit _ ih => exact .spaced digit ih

/-- The decimal digits are read back. -/
theorem digitValue?_digitChar : ∀ value < 10, digitValue? (Nat.digitChar value) = some value := by decide

/-- The decimal digits of a natural number stand for it. -/
theorem exists_digitRow_toDigits (number : Nat) : ∃ values, DigitRow (Nat.toDigits 10 number) values ∧
    values.length = (Nat.toDigits 10 number).length ∧ Nat.ofDigits 10 values.reverse = number := by
  induction number using Nat.strongRecOn with
  | _ number ih =>
    rw [Nat.toDigits_eq_if (by decide)]
    split
    · rename_i hsmall
      exact ⟨[number], .last (digitValue?_digitChar number hsmall), rfl, Nat.ofDigits_singleton⟩
    · rename_i hlarge
      obtain ⟨values, hrow, hlength, hnumber⟩ := ih (number / 10) (by omega)
      have hlast : number % 10 < 10 := Nat.mod_lt number (by decide)
      refine ⟨values ++ [number % 10], digitRow_append_singleton hrow (digitValue?_digitChar _ hlast), ?_, ?_⟩
      · rw [List.length_append, List.length_append, hlength]
        rfl
      · rw [List.reverse_append, List.reverse_singleton, List.singleton_append, Nat.ofDigits_cons, hnumber]
        exact Nat.mod_add_div number 10

end IntegersAux

open IntegersAux

/-- What is read as an integer are the literals of integers. -/
theorem integer?_iff {text : String} {n : Int} : integer? text = some n ↔ IsLiteral text n := by
  rw [integer?_eq, signed?_iff]
  constructor
  · intro h
    obtain ⟨front, back, htext, hfront, hback⟩ := exists_padding text.toList
    exact ⟨front, _, back, htext, h, hfront, hback⟩
  · rintro ⟨front, numeral, back, htext, hnumeral, hfront, hback⟩
    rw [htext, stripped_of_padding hfront hback (not_padding_of_numeral hnumeral)]
    exact hnumeral

/-- The decimal text of an integer is a numeral, if it has not too many digits. -/
theorem isNumeral_toString {n : Int} (h : (toString n.natAbs).length ≤ maxIntegerDigits) :
    IsNumeral (toString n).toList n := by
  obtain ⟨values, hrow, hlength, hnumber⟩ := exists_digitRow_toDigits n.natAbs
  have hshort : values.length ≤ maxIntegerDigits := by
    rwa [hlength, ← Nat.toList_repr, String.length_toList]
  cases n with
  | ofNat number =>
    refine ⟨[], 1, Nat.toDigits 10 number, values, ?_, .absent, hrow, hshort, ?_⟩
    · exact Nat.toList_repr
    · rw [hnumber, Int.one_mul]
      rfl
  | negSucc number =>
    refine ⟨['-'], -1, Nat.toDigits 10 (number + 1), values, ?_, .minus, hrow, hshort, ?_⟩
    · have htext : toString (Int.negSucc number) = "-" ++ (number + 1).repr := rfl
      rw [htext, String.toList_append, Nat.toList_repr]
      rfl
    · rw [hnumber, Int.neg_one_mul]
      rfl

end RunPicker.Text

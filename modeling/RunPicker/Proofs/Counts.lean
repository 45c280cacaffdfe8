import Mathlib.Order.Compare
import RunPicker.Config
import RunPicker.Proofs.Integers
import RunPicker.Proofs.MalformedRuns
import RunPicker.Proofs.Parts
import RunPicker.Proofs.Texts

/-!
# The count of a configuration

The number of runs that are selected at most is a value of the configuration that anything can stand for.
`counted_runs` says for every value what comes of it. The positive integers are taken as they are, whether they stand
there as numbers or as texts that spell them, and everything else is turned down as invalid, with three exceptions: the
fraction of a number above one is cut off, an infinity overflows (`uncounted_numbers`), and a value without a text cannot
be reported as the invalid one.
-/

namespace RunPicker

namespace Value

/-- The value is equal to the integer, as a number or as a text that spells it. -/
def CountsAs (value : Value) (n : Int) : Prop :=
  value = .integer n ∨ (∃ x, value = .number x ∧ x.compareInt? n = some .eq) ∨
    ∃ text, value = .text text ∧ Text.IsLiteral text n

/-- The value is a number strictly between the integer and the next one. -/
def ExceedsBelowNext (value : Value) (n : Int) : Prop :=
  ∃ x, value = .number x ∧ x.compareInt? n = some .gt ∧ x.compareInt? (n + 1) = some .lt

/-- The value is an infinity. -/
def IsInfinite (value : Value) : Prop :=
  ∃ negative, value = .number (.infinite negative)

end Value

namespace CountsAux

open MalformedRunsAux

variable {n : Int} {value : Value}

/-! ## Cutting off a fraction -/

/-- A number counts as an integer if they are equal. -/
theorem countsAs_number_iff {x : Real64} : (Value.number x).CountsAs n ↔ x.compareInt? n = some .eq := by
  simp [Value.CountsAs]

/-- A number exceeds an integer if it lies strictly between this one and the next. -/
theorem exceedsBelowNext_number_iff {x : Real64} : (Value.number x).ExceedsBelowNext n ↔
    x.compareInt? n = some .gt ∧ x.compareInt? (n + 1) = some .lt := by
  simp [Value.ExceedsBelowNext]

/-- A positive quotient is cut down to the integer below it. -/
theorem tdiv_eq_iff {a : Int} {d : Nat} (hd : 0 < d) (hn : 0 < n) : a.tdiv d = n ↔ n * d ≤ a ∧ a < (n + 1) * d := by
  have hd' : (0 : Int) < d := by omega
  by_cases ha : 0 ≤ a
  · rw [Int.tdiv_eq_ediv_of_nonneg ha, Int.ediv_eq_iff_of_pos hd', Int.add_mul, Int.one_mul]
  · have hquotient : a.tdiv d ≤ 0 := by
      have hneg := Int.neg_tdiv (-a) d
      have hnonneg := Int.tdiv_nonneg (show 0 ≤ -a by omega) hd'.le
      rw [Int.neg_neg] at hneg
      omega
    have hproduct : 0 < n * (d : Int) := Int.mul_pos hn hd'
    exact iff_of_false (by omega) (by omega)

/-- A finite number is compared by its ratio. -/
theorem compareInt?_finite (negative : Bool) (significand : Nat) (exponent k : Int) :
    (Real64.finite negative significand exponent).compareInt? k =
      some (compare (Real64.ratio negative significand exponent).1
        (k * (Real64.ratio negative significand exponent).2)) := by
  rw [Real64.compareInt?, Real64.compareRatios, Int.natCast_one, Int.mul_one]

/-- A positive integer is what a finite number is cut to if the number is equal to it or between it and the next one. -/
theorem truncate_eq_iff (negative : Bool) (significand : Nat) (exponent : Int) (hn : 0 < n) :
    Real64.truncate negative significand exponent = n ↔
      (Value.number (.finite negative significand exponent)).CountsAs n ∨
        (Value.number (.finite negative significand exponent)).ExceedsBelowNext n := by
  have htruncate : Real64.truncate negative significand exponent =
      (Real64.ratio negative significand exponent).1.tdiv (Real64.ratio negative significand exponent).2 := rfl
  have hd : 0 < (Real64.ratio negative significand exponent).2 := Nat.two_pow_pos _
  simp only [countsAs_number_iff, exceedsBelowNext_number_iff, htruncate, compareInt?_finite, tdiv_eq_iff hd hn,
    Option.some.injEq, compare_eq_iff_eq, compare_gt_iff_gt, compare_lt_iff_lt]
  generalize Real64.ratio negative significand exponent = ratio at hd ⊢
  have hnext : n * (ratio.2 : Int) < (n + 1) * ratio.2 := by
    rw [Int.add_mul, Int.one_mul]
    omega
  omega

/-! ## The value -/

/-- What a value is counted as, if this is a positive integer. -/
theorem toCount_eq_ok_iff (hn : 0 < n) : value.toCount = .ok n ↔ value.CountsAs n ∨ value.ExceedsBelowNext n := by
  cases value with
  | integer m => simp [Value.toCount, Value.toInteger, Value.CountsAs, Value.ExceedsBelowNext]
  | text s =>
    have hread : (Value.text s).toCount = .ok n ↔ Text.integer? s = some n := by
      have hcount : (Value.text s).toCount = (Value.text s).toInteger := rfl
      rw [hcount, Value.toInteger]
      cases Text.integer? s <;> simp
    simp [hread, Text.integer?_iff, Value.CountsAs, Value.ExceedsBelowNext]
  | number x =>
    cases x with
    | finite negative significand exponent =>
      have hcount : (Value.number (.finite negative significand exponent)).toCount =
          .ok (Real64.truncate negative significand exponent) := rfl
      rw [hcount, ← truncate_eq_iff negative significand exponent hn, Except.ok.injEq]
    | nan => simp [Value.toCount, Value.toInteger, Value.CountsAs, Value.ExceedsBelowNext, Real64.compareInt?]
    | infinite negative =>
      cases negative <;> simp [Value.toCount, Value.toInteger, Value.CountsAs, Value.ExceedsBelowNext, Real64.compareInt?]
  | null | bool | moment | list | map =>
    simp [Value.toCount, Value.toInteger, Value.CountsAs, Value.ExceedsBelowNext]

/-- Only an infinite number is too large to be cut to an integer. -/
theorem toCount_eq_overflow_iff : value.toCount = .error .overflow ↔ value.IsInfinite := by
  constructor
  · intro h
    rcases toCount_error h with hcause | hcause | ⟨-, hinfinite⟩
    · cases hcause
    · cases hcause
    · exact hinfinite
  · rintro ⟨negative, rfl⟩
    rfl

/-- The value that is configured as the count, which is one if there is none. -/
def configured (config : Config) : Value :=
  (config.value.within? ["selection", "count"]).getD (.integer 1)

/-- The count that is configured can always be got, for its key is valid. -/
theorem getOr_count (config : Config) : config.getOr "selection.count" (.integer 1) = .ok (configured config) := by
  have hkey : sectionsOfKey "selection.count" = .ok ["selection", "count"] := by decide
  rw [Config.getOr, Config.get, hkey, configured]
  simp only [bind, Except.bind]
  cases config.value.within? ["selection", "count"] <;> rfl

/-- The count is read if what is configured is cut to it and it is positive. -/
theorem count_eq_ok_iff {config : Config} {count : Nat} :
    config.count = .ok count ↔ 0 < count ∧ (configured config).toCount = .ok (count : Int) := by
  rw [Config.count, ← configured]
  cases (configured config).toCount with
  | ok number =>
    by_cases hnumber : number < 1
    · simp only [hnumber, if_true, Except.ok.injEq]
      exact iff_of_false nofun (by omega)
    · simp only [hnumber, if_false, Except.ok.injEq]
      omega
  | error failure =>
    dsimp only
    split <;> exact iff_of_false nofun nofun

/-- A value that is no count is reported by its text, unless it has none. -/
theorem quoting_invalidCount_cases (value : Value) :
    (value.hasText = true ∧ Failure.quoting value.toText Config.invalidCount = Config.invalidCount value.display) ∨
      (value.hasText = false ∧ Failure.quoting value.toText Config.invalidCount = .wrongValue) :=
  value.quoting_written_cases value.display Config.invalidCount

/-- A count fails because it overflows, or because the value is turned down. -/
theorem count_error {config : Config} {failure : Failure} (h : config.count = .error failure) :
    failure = .overflow ∨ failure = .quoting (configured config).toText Config.invalidCount := by
  rw [Config.count, ← configured] at h
  split at h
  · split at h
    · exact .inr (Except.error.inj h).symm
    · cases h
  · rename_i cause hcause
    rcases toCount_error hcause with rfl | rfl | ⟨rfl, -⟩
    · exact .inr (Except.error.inj h).symm
    · exact .inr (Except.error.inj h).symm
    · exact .inl (Except.error.inj h).symm

/-- That a value is turned down is no overflow. -/
theorem quoting_invalidCount_ne_overflow (value : Value) :
    Failure.quoting value.toText Config.invalidCount ≠ .overflow := by
  rcases quoting_invalidCount_cases value with ⟨-, hquoted⟩ | ⟨-, hquoted⟩ <;> exact hquoted ▸ nofun

/-- A count overflows exactly if the value is an infinity. -/
theorem count_eq_overflow_iff {config : Config} :
    config.count = .error .overflow ↔ (configured config).IsInfinite := by
  have hne : (.error (.quoting (configured config).toText Config.invalidCount) : Except Failure Nat) ≠ .error .overflow :=
    fun h => quoting_invalidCount_ne_overflow _ (Except.error.inj h)
  rw [← toCount_eq_overflow_iff, Config.count, ← configured]
  cases hcount : (configured config).toCount with
  | ok number =>
    refine iff_of_false ?_ nofun
    dsimp only
    split
    · exact hne
    · exact nofun
  | error cause =>
    rcases toCount_error hcount with rfl | rfl | ⟨rfl, -⟩
    · exact iff_of_false hne nofun
    · exact iff_of_false hne nofun
    · exact iff_of_true rfl rfl

end CountsAux

open CountsAux PartsAux

/-- What comes of the count of a configuration, whatever stands there. Where nothing does, it is one.
1. It is a positive integer if the value is equal to it, as a number or as a text that spells it, or if the value is a
   number between it and the next integer, and only then.
2. If the value is an infinity, it overflows, and only then. Every other failure reports the value as invalid, unless it
   has no text to be reported by, and then that is the failure.
3. So with any value but an infinity and a number with a fraction above one, the count is the positive integer that the
   value is equal to, or there is none, and the value is reported as invalid if it has a text. -/
theorem counted_runs (config : Config) :
    ∃ value, config.getOr "selection.count" (.integer 1) = .ok value ∧
      (∀ count : Nat, config.count = .ok count ↔ 0 < count ∧ (value.CountsAs count ∨ value.ExceedsBelowNext count)) ∧
      (config.count = .error .overflow ↔ value.IsInfinite) ∧
      (∀ failure, config.count = .error failure → failure = .overflow ∨
        (value.hasText = true ∧ failure = Config.invalidCount value.display) ∨
          value.hasText = false ∧ failure = .wrongValue) ∧
      (¬ value.IsInfinite → (∀ count : Nat, 0 < count → ¬ value.ExceedsBelowNext count) →
        (∃ count : Nat, 0 < count ∧ value.CountsAs count ∧ config.count = .ok count) ∨
          (∀ count : Nat, 0 < count → ¬ value.CountsAs count) ∧
            (value.hasText = true → config.count = .error (Config.invalidCount value.display)) ∧
              (value.hasText = false → config.count = .error .wrongValue)) := by
  have hok (count : Nat) : config.count = .ok count ↔
      0 < count ∧ ((configured config).CountsAs count ∨ (configured config).ExceedsBelowNext count) := by
    rw [count_eq_ok_iff]
    exact and_congr_right fun hpositive => toCount_eq_ok_iff (Int.natCast_pos.mpr hpositive)
  have hquoted := quoting_invalidCount_cases (configured config)
  refine ⟨configured config, getOr_count config, hok, count_eq_overflow_iff, fun failure hfailure => ?_, ?_⟩
  · refine (count_error hfailure).imp_right ?_
    rintro rfl
    exact hquoted
  intro hfinite hwhole
  cases hcount : config.count with
  | ok count =>
    obtain ⟨hpositive, hcounts⟩ := (hok count).mp hcount
    exact .inl ⟨count, hpositive, hcounts.resolve_right (hwhole count hpositive), rfl⟩
  | error failure =>
    have hfailure : failure = .quoting (configured config).toText Config.invalidCount :=
      (count_error hcount).resolve_left fun hoverflow => hfinite (count_eq_overflow_iff.mp (hoverflow ▸ hcount))
    refine .inr ⟨fun count hpositive hcounts => ?_, fun htext => ?_, fun hnone => ?_⟩
    · have hcounted := (hok count).mpr ⟨hpositive, .inl hcounts⟩
      exact nomatch hcount.symm.trans hcounted
    · rcases hquoted with ⟨-, hquoted⟩ | ⟨hnone, -⟩
      · rw [hfailure, hquoted]
      · exact nomatch hnone.symm.trans htext
    · rcases hquoted with ⟨htext, -⟩ | ⟨-, hquoted⟩
      · exact nomatch hnone.symm.trans htext
      · rw [hfailure, hquoted]

/-- The configuration in which a value is set as the count. -/
def countConfig (value : Value) : Config :=
  ⟨"", .ofValue (.map [(.text "selection", .map [(.text "count", value)])])⟩

/-- In the configuration of a count the count is what is configured. -/
theorem configured_countConfig (value : Value) : configured (countConfig value) = value := by
  rw [configured, Config.value, countConfig, value_ofValue]
  rfl

/-- The number two and a half. -/
def twoAndAHalf : Value :=
  .number (.finite false 5629499534213120 (-51))

/-- Two and a half is counted as two, which it is not equal to, and an infinity is not reported as an invalid value. -/
theorem uncounted_numbers :
    ((countConfig twoAndAHalf).getOr "selection.count" (.integer 1) = .ok twoAndAHalf ∧
      (countConfig twoAndAHalf).count = .ok 2 ∧ ∀ n, ¬ twoAndAHalf.CountsAs n) ∧
    (countConfig (.number (.infinite false))).getOr "selection.count" (.integer 1) = .ok (.number (.infinite false)) ∧
      (countConfig (.number (.infinite false))).count = .error .overflow := by
  have hratio : Real64.ratio false 5629499534213120 (-51) = (5629499534213120, 2251799813685248) := by decide
  have hcut : twoAndAHalf.toCount = .ok (Real64.truncate false 5629499534213120 (-51)) := rfl
  rw [Real64.truncate, hratio] at hcut
  refine ⟨⟨?_, ?_, fun n hcounts => ?_⟩, ?_, ?_⟩
  · rw [getOr_count, configured_countConfig]
  · rw [count_eq_ok_iff, configured_countConfig]
    exact ⟨by decide, hcut⟩
  · rw [twoAndAHalf, countsAs_number_iff, compareInt?_finite, hratio, Option.some.injEq, compare_eq_iff_eq] at hcounts
    omega
  · rw [getOr_count, configured_countConfig]
  · rw [count_eq_overflow_iff, configured_countConfig]
    exact ⟨false, rfl⟩

end RunPicker

import CiCoordinator.Library.Rounding

/- The facts about shortest decimals: they read back, end in no zero and are whole for whole numbers. -/

namespace CiCoordinator.Library

open List

namespace Float64

theorem ten_pos : (0 : ℚ) < ((10 : Nat) : ℚ) := by norm_num

/-- The ratio that a decimal stands for. -/
theorem decimal_ratio (digits : Nat) (exponent : Int) :
    ((digits * 10 ^ exponent.toNat : Nat) : ℚ) / ((10 ^ (-exponent).toNat : Nat) : ℚ) = digits * ((10 : Nat) : ℚ) ^ exponent := by
  rw [zpow_toNat (by decide) exponent, Nat.cast_mul, mul_div_assoc]

/-- A decimal is rounded like every ratio that it is equal to. -/
theorem roundDecimal_eq {negative : Bool} {digits numerator denominator : Nat} {exponent : Int} (some : 0 < denominator)
    (same : (digits : ℚ) * ((10 : Nat) : ℚ) ^ exponent = (numerator : ℚ) / denominator) :
    roundDecimal negative digits exponent = round negative numerator denominator := by
  rw [roundDecimal]
  refine round_congr (by positivity) some ((ratio_eq_iff (by positivity) some).mpr ?_)
  rw [decimal_ratio, same]

theorem roundDecimal_congr {negative : Bool} {digits digits' : Nat} {exponent exponent' : Int}
    (same : (digits : ℚ) * ((10 : Nat) : ℚ) ^ exponent = digits' * ((10 : Nat) : ℚ) ^ exponent') :
    roundDecimal negative digits exponent = roundDecimal negative digits' exponent' := by
  rw [← decimal_ratio digits' exponent'] at same
  rw [roundDecimal_eq (by positivity) same, roundDecimal]

/-- A decimal that is a whole number is rounded as that number. -/
theorem roundDecimal_whole {negative : Bool} {digits : Nat} {exponent : Int} (whole : 0 ≤ exponent) :
    roundDecimal negative digits exponent = round negative (digits * 10 ^ exponent.toNat) 1 := by
  rw [roundDecimal, Int.toNat_of_nonpos (by omega : -exponent ≤ 0), Nat.pow_zero]

end Float64

namespace FiniteFloat

variable {number : FiniteFloat}
variable {digits : Nat} {exponent : Int}

theorem readsBack_iff :
    number.readsBack digits exponent = true ↔ Float64.roundDecimal number.negative digits exponent = .finite number := by
  rw [readsBack, decide_eq_true_eq]

/-- A decimal with the ratio of a number reads back as the number. -/
theorem readsBack_of_ratio (same : (digits : ℚ) * ((10 : Nat) : ℚ) ^ exponent = (number.numerator : ℚ) / number.denominator) :
    number.readsBack digits exponent = true := by
  rw [readsBack_iff, Float64.roundDecimal_eq number.denominator_pos same, round_self]

theorem exactDecimal_ratio : (number.exactDecimal.1 : ℚ) * ((10 : Nat) : ℚ) ^ number.exactDecimal.2 =
      (number.numerator : ℚ) / number.denominator := by
  rw [exactDecimal]
  split
  · rename_i whole
    rw [denominator, Int.toNat_of_nonpos (by omega : -number.exponent ≤ 0), Nat.pow_zero, Nat.cast_one, div_one, zpow_zero,
      mul_one]
  · rename_i fraction
    obtain ⟨natural, equal⟩ := Int.eq_ofNat_of_zero_le (by omega : 0 ≤ -number.exponent)
    have exponent : number.exponent = -(natural : Int) := by omega
    rw [ratio_eq, equal, exponent, zpow_neg, zpow_neg, zpow_natCast, zpow_natCast]
    have power : ((10 : Nat) : ℚ) ^ natural = ((2 : Nat) : ℚ) ^ natural * ((5 : Nat) : ℚ) ^ natural := by
      rw [← mul_pow]
      norm_num
    rw [power]
    push_cast
    rw [Int.toNat_natCast]
    field_simp

/-- The search ends in a decimal that reads back. -/
theorem readsBack_search (fuel precision : Nat) :
    number.readsBack (number.searchDecimal fuel precision).1 (number.searchDecimal fuel precision).2 = true := by
  induction fuel generalizing precision with
  | zero => exact readsBack_of_ratio exactDecimal_ratio
  | succ fuel ih =>
    rw [searchDecimal]
    split
    · rename_i found equal
      simpa using find?_some equal
    · exact ih (precision + 1)

/-- Trimming keeps the ratio and leaves no zero at the end. -/
theorem trimZeros_spec (fuel digits : Nat) (exponent : Int) :
    ((trimZeros fuel (digits, exponent)).1 : ℚ) * ((10 : Nat) : ℚ) ^ (trimZeros fuel (digits, exponent)).2 =
        digits * ((10 : Nat) : ℚ) ^ exponent ∧
      exponent ≤ (trimZeros fuel (digits, exponent)).2 ∧
      (0 < digits → digits < 10 ^ fuel → (trimZeros fuel (digits, exponent)).1 % 10 ≠ 0) := by
  induction fuel generalizing digits exponent with
  | zero =>
    refine ⟨rfl, le_rfl, fun positive small => ?_⟩
    rw [Nat.pow_zero] at small
    omega
  | succ fuel ih =>
    rw [trimZeros]
    split
    · rename_i trailing
      obtain ⟨ratio, later, ends⟩ := ih (digits / 10) (exponent + 1)
      refine ⟨?_, by omega, fun positive small => ends (by omega) ?_⟩
      · rw [ratio, zpow_add₀ Float64.ten_pos.ne', zpow_one]
        have shifted : (digits : ℚ) = ((digits / 10 : Nat) : ℚ) * ((10 : Nat) : ℚ) := by
          have parts : digits = digits / 10 * 10 := by omega
          exact_mod_cast parts
        rw [shifted]
        ring
      · rw [pow_succ] at small
        omega
    · rename_i kept
      exact ⟨rfl, le_rfl, fun positive _ ending => kept ⟨ending, positive.ne'⟩⟩

theorem shortestDecimal_eq (found : number.searchDecimal 17 1 = (digits, exponent)) :
    number.shortestDecimal = trimZeros (Nat.log2 digits + 1) (digits, exponent) := by
  rw [shortestDecimal, found]

/-- The shortest decimal reads back as its number. -/
theorem shortestDecimal_readsBack :
    Float64.roundDecimal number.negative number.shortestDecimal.1 number.shortestDecimal.2 = .finite number := by
  have reads := readsBack_iff.mp (@readsBack_search number 17 1)
  obtain ⟨digits, exponent, found⟩ : ∃ digits exponent, number.searchDecimal 17 1 = (digits, exponent) := ⟨_, _, rfl⟩
  rw [found] at reads
  rw [← reads, shortestDecimal_eq found]
  exact Float64.roundDecimal_congr (trimZeros_spec _ _ _).1

/-- Only zero is read from a decimal without digits. -/
theorem digits_pos (nonzero : number.significand ≠ 0)
    (reads : Float64.roundDecimal number.negative digits exponent = .finite number) : 0 < digits := by
  refine Nat.pos_of_ne_zero fun zero => nonzero ?_
  rw [zero, Float64.roundDecimal, Nat.zero_mul, Float64.round, if_pos rfl] at reads
  exact (Float64.ofParts_eq_finite reads).2.1

/-- The shortest decimal ends in a digit that is not zero. -/
theorem shortestDecimal_ending (nonzero : number.significand ≠ 0) : number.shortestDecimal.1 % 10 ≠ 0 := by
  have reads := readsBack_iff.mp (@readsBack_search number 17 1)
  obtain ⟨digits, exponent, found⟩ : ∃ digits exponent, number.searchDecimal 17 1 = (digits, exponent) := ⟨_, _, rfl⟩
  rw [found] at reads
  rw [shortestDecimal_eq found]
  exact (trimZeros_spec _ _ _).2.2 (digits_pos nonzero reads) (lt_pow_log2 digits)

/-- A magnitude below 2⁵³. -/
def Safe (number : FiniteFloat) : Prop :=
  number.numerator < 2 ^ 53 * number.denominator

/-- A decimal of a safe magnitude is below 2⁵³. -/
theorem decimal_lt_of_safe (safe : number.Safe) (reads : Float64.roundDecimal number.negative digits exponent = .finite number) :
    digits * 10 ^ exponent.toNat < 2 ^ 53 * 10 ^ (-exponent).toNat := by
  by_contra large
  have beyond := Float64.round_large (by positivity) (not_lt.mp large) reads
  exact absurd safe (not_lt.mpr beyond)

/-- A safe number whose shortest decimal is whole is that whole number. -/
theorem numerator_of_whole (safe : number.Safe) (whole : 0 ≤ number.shortestDecimal.2) :
    number.numerator = number.shortestDecimal.1 * 10 ^ number.shortestDecimal.2.toNat * number.denominator := by
  have small := decimal_lt_of_safe safe shortestDecimal_readsBack
  rw [Int.toNat_of_nonpos (by omega : -number.shortestDecimal.2 ≤ 0), Nat.pow_zero, Nat.mul_one] at small
  obtain ⟨same, rounded, _, value⟩ := Float64.round_natural number.negative small
  have reads := @shortestDecimal_readsBack number
  rw [Float64.roundDecimal_whole whole, rounded] at reads
  rw [Float64.finite.inj reads] at value
  exact value

/-- The exponent of the least digit that a decimal of a whole number needs is not negative. -/
theorem search_whole {natural : Nat} (positive : 0 < natural) (value : number.numerator = natural * number.denominator)
    {fuel precision : Nat} (started : 1 ≤ precision) (inside : precision ≤ (decimal natural).length)
    (enough : (decimal natural).length < precision + fuel) : 0 ≤ (number.searchDecimal fuel precision).2 := by
  have some := number.denominator_pos
  have ratio : (number.numerator : ℚ) / number.denominator = natural := by
    rw [value, Nat.cast_mul, mul_div_assoc, div_self (by exact_mod_cast some.ne'), mul_one]
  have positiveRatio : 0 < number.numerator := by
    rw [value]
    exact Nat.mul_pos positive some
  have spec := decimalExponent_spec positiveRatio some
  rw [ratio] at spec
  have least := exponent_unique (by decide) spec (decimal_zpow_bounds positive)
  induction fuel generalizing precision with
  | zero => omega
  | succ fuel ih =>
    have exponents : ∀ candidate ∈ number.decimalsAround precision, candidate.2 = (decimal natural).length - precision := by
      intro candidate member
      rw [decimalsAround] at member
      split at member <;> simp only [mem_cons, not_mem_nil, or_false] at member <;>
        rcases member with rfl | rfl <;> dsimp only <;> omega
    rw [searchDecimal]
    split
    · rename_i found equal
      rw [exponents found (mem_of_find?_eq_some equal)]
      omega
    · rename_i missing
      refine ih (by omega) ?_ (by omega)
      by_contra last
      have full : precision = (decimal natural).length := by omega
      have zero : decimalExponent number.numerator number.denominator - precision + 1 = 0 := by omega
      have exactly : (natural, (0 : Int)) ∈ number.decimalsAround precision := by
        rw [decimalsAround, zero]
        have quotient : number.numerator / number.denominator = natural := by
          rw [value, Nat.mul_div_cancel _ some]
        have rounded : divideRoundEven number.numerator number.denominator = natural := by
          rw [value, divideRoundEven_exact some]
        simp [quotient, rounded]
      have reads := find?_eq_none.mp missing _ exactly
      refine reads (readsBack_of_ratio ?_)
      rw [ratio, zpow_zero, mul_one]

/-- The shortest decimal of a whole number is whole. -/
theorem shortestDecimal_whole {natural : Nat} (positive : 0 < natural) (small : natural < 2 ^ 53)
    (value : number.numerator = natural * number.denominator) : 0 ≤ number.shortestDecimal.2 := by
  have written := length_pos_iff.mpr (decimal_ne_nil natural)
  have short : (decimal natural).length ≤ 16 := by
    by_contra long
    have lower := (decimal_bounds positive).1
    have power : 10 ^ 16 ≤ 10 ^ ((decimal natural).length - 1) := Nat.pow_le_pow_right (by decide) (by omega)
    have : 2 ^ 53 < 10 ^ 16 := by decide
    omega
  have searched := @search_whole number natural positive value 17 1 (le_refl 1) (by omega) (by omega)
  obtain ⟨digits, exponent, found⟩ : ∃ digits exponent, number.searchDecimal 17 1 = (digits, exponent) := ⟨_, _, rfl⟩
  rw [found] at searched
  rw [shortestDecimal_eq found]
  exact searched.trans (trimZeros_spec _ _ _).2.1

/-- The decimal point of a safe number is at most sixteen digits from its first digit. -/
theorem decimalPoint_le (safe : number.Safe) (nonzero : number.significand ≠ 0) :
    ((decimal number.shortestDecimal.1).length : Int) + number.shortestDecimal.2 ≤ 16 := by
  have positive := digits_pos nonzero (@shortestDecimal_readsBack number)
  have small := decimal_lt_of_safe safe shortestDecimal_readsBack
  have written := length_pos_iff.mpr (decimal_ne_nil number.shortestDecimal.1)
  by_contra far
  have lower := (decimal_zpow_bounds positive).1
  have ratio : (number.shortestDecimal.1 : ℚ) * ((10 : Nat) : ℚ) ^ number.shortestDecimal.2 < 2 ^ 53 := by
    rw [← Float64.decimal_ratio, div_lt_iff₀ (by positivity)]
    exact_mod_cast small
  have power : ((10 : Nat) : ℚ) ^ (16 : Int) ≤ number.shortestDecimal.1 * ((10 : Nat) : ℚ) ^ number.shortestDecimal.2 := by
    calc ((10 : Nat) : ℚ) ^ (16 : Int) ≤
          ((10 : Nat) : ℚ) ^ (((decimal number.shortestDecimal.1).length - 1 : Int) + number.shortestDecimal.2) :=
        zpow_le_zpow_right₀ (by norm_num) (by omega)
      _ = ((10 : Nat) : ℚ) ^ ((decimal number.shortestDecimal.1).length - 1 : Int) *
          ((10 : Nat) : ℚ) ^ number.shortestDecimal.2 := zpow_add₀ Float64.ten_pos.ne' _ _
      _ ≤ number.shortestDecimal.1 * ((10 : Nat) : ℚ) ^ number.shortestDecimal.2 := by gcongr
  have beyond := lt_of_le_of_lt power ratio
  norm_num at beyond

end FiniteFloat

end CiCoordinator.Library

import CiCoordinator.Library.Float64
import Mathlib.Algebra.Order.Field.Power
import Mathlib.Tactic.FieldSimp
import Mathlib.Tactic.Positivity
import Mathlib.Tactic.Linarith

/- The facts about correct rounding: it depends on the ratio alone and is exact where it can be. -/

namespace CiCoordinator.Library

/-- A power with an integer exponent is a ratio of two natural powers. -/
theorem zpow_toNat {base : Nat} (positive : 0 < base) (exponent : Int) :
    (base : ℚ) ^ exponent = ((base ^ exponent.toNat : Nat) : ℚ) / ((base ^ (-exponent).toNat : Nat) : ℚ) := by
  have nonzero : (base : ℚ) ≠ 0 := by positivity
  rcases Int.le_total 0 exponent with nonneg | nonpos
  · obtain ⟨natural, rfl⟩ := Int.eq_ofNat_of_zero_le nonneg
    simp
  · obtain ⟨natural, equal⟩ := Int.eq_ofNat_of_zero_le (Int.neg_nonneg.mpr nonpos)
    have negated : exponent = -(natural : Int) := by omega
    rw [negated, zpow_neg, zpow_natCast]
    simp

/-- The comparison of a power with a ratio, in natural numbers. -/
theorem zpow_le_ratio_iff {base numerator denominator : Nat} (positive : 0 < base) (some : 0 < denominator) (exponent : Int) :
    denominator * base ^ exponent.toNat ≤ numerator * base ^ (-exponent).toNat ↔
      (base : ℚ) ^ exponent ≤ (numerator : ℚ) / denominator := by
  have power : (0 : ℚ) < ((base ^ (-exponent).toNat : Nat) : ℚ) := by positivity
  have below : (0 : ℚ) < denominator := by exact_mod_cast some
  rw [zpow_toNat positive, div_le_div_iff₀ power below]
  rw [← Nat.cast_mul, ← Nat.cast_mul, Nat.cast_le, Nat.mul_comm denominator]

/-- Only one power is just below a ratio. -/
theorem exponent_unique {base : Nat} {ratio : ℚ} {first second : Int} (large : 1 < base)
    (firstBounds : (base : ℚ) ^ first ≤ ratio ∧ ratio < (base : ℚ) ^ (first + 1))
    (secondBounds : (base : ℚ) ^ second ≤ ratio ∧ ratio < (base : ℚ) ^ (second + 1)) : first = second := by
  have grows : (1 : ℚ) < base := by exact_mod_cast large
  have left := (zpow_lt_zpow_iff_right₀ grows).mp (lt_of_le_of_lt firstBounds.1 secondBounds.2)
  have right := (zpow_lt_zpow_iff_right₀ grows).mp (lt_of_le_of_lt secondBounds.1 firstBounds.2)
  omega

/-- The exponents of two numbers give the exponent of their ratio, at most one too high. -/
theorem ratio_bounds {base numerator denominator : Nat} {above below : Int} (large : 1 < base) (some : 0 < denominator)
    (upper : (base : ℚ) ^ above ≤ numerator ∧ (numerator : ℚ) < (base : ℚ) ^ (above + 1))
    (lower : (base : ℚ) ^ below ≤ denominator ∧ (denominator : ℚ) < (base : ℚ) ^ (below + 1)) :
    (base : ℚ) ^ (above - below - 1) ≤ (numerator : ℚ) / denominator ∧
      (numerator : ℚ) / denominator < (base : ℚ) ^ (above - below + 1) := by
  have positive : (0 : ℚ) < denominator := by exact_mod_cast some
  have grows : (0 : ℚ) < base := by exact_mod_cast (Nat.zero_lt_one.trans large)
  constructor
  · rw [le_div_iff₀ positive]
    calc
      (base : ℚ) ^ (above - below - 1) * denominator ≤ (base : ℚ) ^ (above - below - 1) * (base : ℚ) ^ (below + 1) := by
        gcongr
        exact lower.2.le
      _ = (base : ℚ) ^ above := by
        rw [← zpow_add₀ grows.ne']
        congr 1
        omega
      _ ≤ numerator := upper.1
  · rw [div_lt_iff₀ positive]
    calc (numerator : ℚ) < (base : ℚ) ^ (above + 1) := upper.2
      _ = (base : ℚ) ^ (above - below + 1) * (base : ℚ) ^ below := by
        rw [← zpow_add₀ grows.ne']
        congr 1
        omega
      _ ≤ (base : ℚ) ^ (above - below + 1) * denominator := by
        gcongr
        exact lower.1

/-- An estimate that is at most one too high is corrected by one comparison. -/
theorem exponent_of_guess {base numerator denominator : Nat} {guess : Int} (positive : 0 < base) (some : 0 < denominator)
    (bounds : (base : ℚ) ^ (guess - 1) ≤ (numerator : ℚ) / denominator ∧
      (numerator : ℚ) / denominator < (base : ℚ) ^ (guess + 1)) {exponent : Int}
    (corrected : exponent = if denominator * base ^ guess.toNat ≤ numerator * base ^ (-guess).toNat then guess else guess - 1) :
    (base : ℚ) ^ exponent ≤ (numerator : ℚ) / denominator ∧ (numerator : ℚ) / denominator < (base : ℚ) ^ (exponent + 1) := by
  subst corrected
  split
  · rename_i reached
    exact ⟨(zpow_le_ratio_iff positive some guess).mp reached, bounds.2⟩
  · rename_i short
    refine ⟨bounds.1, ?_⟩
    rw [sub_add_cancel]
    exact not_le.mp fun reached => short ((zpow_le_ratio_iff positive some guess).mpr reached)

theorem log2_bounds {number : Nat} (positive : 0 < number) :
    ((2 : Nat) : ℚ) ^ (Nat.log2 number : Int) ≤ number ∧ (number : ℚ) < ((2 : Nat) : ℚ) ^ ((Nat.log2 number : Int) + 1) := by
  constructor
  · rw [zpow_natCast]
    exact_mod_cast Nat.log2_self_le (by omega)
  · exact_mod_cast @Nat.lt_log2_self number

/-- The binary exponent is that of the power just below the ratio. -/
theorem binaryExponent_spec {numerator denominator : Nat} (positive : 0 < numerator) (some : 0 < denominator) :
    ((2 : Nat) : ℚ) ^ binaryExponent numerator denominator ≤ (numerator : ℚ) / denominator ∧
      (numerator : ℚ) / denominator < ((2 : Nat) : ℚ) ^ (binaryExponent numerator denominator + 1) :=
  exponent_of_guess (by decide) some (ratio_bounds (by decide) some (log2_bounds positive) (log2_bounds some)) rfl

theorem decimal_zpow_bounds {number : Nat} (positive : 0 < number) :
    ((10 : Nat) : ℚ) ^ ((decimal number).length - 1 : Int) ≤ number ∧
      (number : ℚ) < ((10 : Nat) : ℚ) ^ (((decimal number).length - 1 : Int) + 1) := by
  have written := List.length_pos_iff.mpr (decimal_ne_nil number)
  obtain ⟨lower, upper⟩ := decimal_bounds positive
  have shifted : ((decimal number).length - 1 : Int) = (((decimal number).length - 1 : Nat) : Int) := by omega
  constructor
  · rw [shifted, zpow_natCast]
    exact_mod_cast lower
  · rw [sub_add_cancel, zpow_natCast]
    exact_mod_cast upper

/-- The decimal exponent is that of the power just below the ratio. -/
theorem decimalExponent_spec {numerator denominator : Nat} (positive : 0 < numerator) (some : 0 < denominator) :
    ((10 : Nat) : ℚ) ^ decimalExponent numerator denominator ≤ (numerator : ℚ) / denominator ∧
      (numerator : ℚ) / denominator < ((10 : Nat) : ℚ) ^ (decimalExponent numerator denominator + 1) := by
  have bounds := ratio_bounds (by decide) some (decimal_zpow_bounds positive) (decimal_zpow_bounds some)
  have lengths : ((decimal numerator).length - 1 : Int) - ((decimal denominator).length - 1) =
      (decimal numerator).length - (decimal denominator).length := by omega
  rw [lengths] at bounds
  exact exponent_of_guess (by decide) some bounds rfl

section Division

theorem divideRoundEven_scale {scale numerator denominator : Nat} (positive : 0 < scale) :
    divideRoundEven (scale * numerator) (scale * denominator) = divideRoundEven numerator denominator := by
  unfold divideRoundEven
  rw [Nat.mul_div_mul_left _ _ positive, Nat.mul_mod_mul_left]
  have first : 2 * (scale * (numerator % denominator)) < scale * denominator ↔ 2 * (numerator % denominator) < denominator := by
    rw [Nat.mul_left_comm, Nat.mul_lt_mul_left positive]
  have second : scale * denominator < 2 * (scale * (numerator % denominator)) ↔ denominator < 2 * (numerator % denominator) := by
    rw [Nat.mul_left_comm, Nat.mul_lt_mul_left positive]
  simp only [first, second]

/-- A rounded quotient depends on the ratio alone. -/
theorem divideRoundEven_congr {numerator denominator numerator' denominator' : Nat} (some : 0 < denominator)
    (some' : 0 < denominator') (same : numerator * denominator' = numerator' * denominator) :
    divideRoundEven numerator denominator = divideRoundEven numerator' denominator' := by
  rw [← divideRoundEven_scale some', ← @divideRoundEven_scale denominator numerator' denominator' some,
    Nat.mul_comm denominator' numerator, same, Nat.mul_comm numerator' denominator, Nat.mul_comm denominator' denominator]

theorem divideRoundEven_exact {quotient denominator : Nat} (some : 0 < denominator) :
    divideRoundEven (quotient * denominator) denominator = quotient := by
  unfold divideRoundEven
  rw [Nat.mul_div_cancel _ some, Nat.mul_mod_left]
  simp [some]

theorem le_divideRoundEven {bound numerator denominator : Nat} (some : 0 < denominator) (below : bound * denominator ≤ numerator) :
    bound ≤ divideRoundEven numerator denominator := by
  have quotient : bound ≤ numerator / denominator := (Nat.le_div_iff_mul_le some).mpr below
  rw [divideRoundEven]
  split
  · exact quotient
  · split
    · exact quotient.trans (Nat.le_succ _)
    · exact quotient.trans (Nat.le_add_right _ _)

end Division

/-- Equal ratios in natural numbers and in rational numbers. -/
theorem ratio_eq_iff {numerator denominator numerator' denominator' : Nat} (some : 0 < denominator) (some' : 0 < denominator') :
    numerator * denominator' = numerator' * denominator ↔ (numerator : ℚ) / denominator = (numerator' : ℚ) / denominator' := by
  have first : (denominator : ℚ) ≠ 0 := by exact_mod_cast some.ne'
  have second : (denominator' : ℚ) ≠ 0 := by exact_mod_cast some'.ne'
  rw [div_eq_div_iff first second]
  exact_mod_cast Iff.rfl

theorem binaryExponent_congr {numerator denominator numerator' denominator' : Nat} (positive : 0 < numerator)
    (positive' : 0 < numerator') (some : 0 < denominator) (some' : 0 < denominator')
    (same : (numerator : ℚ) / denominator = (numerator' : ℚ) / denominator') :
    binaryExponent numerator denominator = binaryExponent numerator' denominator' := by
  have second := binaryExponent_spec positive' some'
  rw [← same] at second
  exact exponent_unique (by decide) (binaryExponent_spec positive some) second

namespace Float64

/-- Rounding depends on the ratio alone. -/
theorem round_congr {negative : Bool} {numerator denominator numerator' denominator' : Nat} (some : 0 < denominator)
    (some' : 0 < denominator') (same : numerator * denominator' = numerator' * denominator) :
    round negative numerator denominator = round negative numerator' denominator' := by
  by_cases zero : numerator = 0
  · have zero' : numerator' = 0 := by
      rw [zero, Nat.zero_mul] at same
      exact (Nat.mul_eq_zero.mp same.symm).resolve_right some.ne'
    rw [round, round, if_pos zero, if_pos zero']
  · have zero' : numerator' ≠ 0 := by
      rintro rfl
      rw [Nat.zero_mul] at same
      exact zero ((Nat.mul_eq_zero.mp same).resolve_right some'.ne')
    have exponents := binaryExponent_congr (Nat.pos_of_ne_zero zero) (Nat.pos_of_ne_zero zero') some some'
      ((ratio_eq_iff some some').mp same)
    rw [round, round, if_neg zero, if_neg zero']
    dsimp only
    rw [exponents]
    generalize max (-1074) (binaryExponent numerator' denominator' - 52) = exponent
    have significands : divideRoundEven (numerator * 2 ^ (-exponent).toNat) (denominator * 2 ^ exponent.toNat) =
        divideRoundEven (numerator' * 2 ^ (-exponent).toNat) (denominator' * 2 ^ exponent.toNat) := by
      refine divideRoundEven_congr (by positivity) (by positivity) ?_
      calc
        numerator * 2 ^ (-exponent).toNat * (denominator' * 2 ^ exponent.toNat) =
            numerator * denominator' * (2 ^ (-exponent).toNat * 2 ^ exponent.toNat) := by ring
        _ = numerator' * denominator * (2 ^ (-exponent).toNat * 2 ^ exponent.toNat) := by rw [same]
        _ = numerator' * 2 ^ (-exponent).toNat * (denominator * 2 ^ exponent.toNat) := by ring
    rw [significands]

theorem ofParts_eq_finite {negative : Bool} {significand : Nat} {exponent : Int} {number : FiniteFloat}
    (built : ofParts negative significand exponent = .finite number) :
    number.negative = negative ∧ number.significand = significand ∧ number.exponent = exponent := by
  unfold ofParts at built
  split at built
  · rw [← Float64.finite.inj built]
    exact ⟨rfl, rfl, rfl⟩
  · cases built

theorem ofParts_number (number : FiniteFloat) : ofParts number.negative number.significand number.exponent = .finite number :=
  dif_pos number.normal

end Float64

namespace FiniteFloat

variable (number : FiniteFloat)

theorem denominator_pos : 0 < number.denominator :=
  Nat.pow_pos (by decide)

/-- The ratio of a magnitude is its significand, scaled by its exponent. -/
theorem ratio_eq : (number.numerator : ℚ) / number.denominator = number.significand * ((2 : Nat) : ℚ) ^ number.exponent := by
  rw [zpow_toNat (by decide), numerator, denominator, Nat.cast_mul, mul_div_assoc]

theorem numerator_eq_zero {number : FiniteFloat} : number.numerator = 0 ↔ number.significand = 0 := by
  rw [numerator, Nat.mul_eq_zero]
  exact or_iff_left (Nat.pow_pos (by decide)).ne'

theorem significand_lt : number.significand < 2 ^ 53 := by
  rcases number.normal with ⟨_, small, _⟩ | ⟨small, _⟩
  · exact small
  · exact small.trans (by decide)

/-- The exponent of a number is the one that rounding would choose for it. -/
theorem exponent_eq {number : FiniteFloat} (nonzero : number.significand ≠ 0) :
    max (-1074) (binaryExponent number.numerator number.denominator - 52) = number.exponent := by
  have positive := Nat.pos_of_ne_zero nonzero
  have two : (0 : ℚ) < ((2 : Nat) : ℚ) := by norm_num
  have power : (0 : ℚ) < ((2 : Nat) : ℚ) ^ number.exponent := zpow_pos two _
  obtain ⟨lower, upper⟩ := log2_bounds positive
  have bounds : ((2 : Nat) : ℚ) ^ ((Nat.log2 number.significand : Int) + number.exponent) ≤
        (number.numerator : ℚ) / number.denominator ∧
      (number.numerator : ℚ) / number.denominator <
        ((2 : Nat) : ℚ) ^ ((Nat.log2 number.significand : Int) + number.exponent + 1) := by
    rw [ratio_eq, zpow_add₀ two.ne', add_right_comm, zpow_add₀ two.ne']
    exact ⟨mul_le_mul_of_nonneg_right lower power.le, mul_lt_mul_of_pos_right upper power⟩
  have nonzeroRatio : 0 < number.numerator := Nat.pos_of_ne_zero fun zero => nonzero (numerator_eq_zero.mp zero)
  rw [exponent_unique (by decide) (binaryExponent_spec nonzeroRatio number.denominator_pos) bounds]
  rcases number.normal with ⟨large, small, inside, _⟩ | ⟨small, least⟩
  · have exact52 : Nat.log2 number.significand = 52 :=
      Nat.le_antisymm (Nat.lt_succ_iff.mp ((Nat.log2_lt nonzero).mpr small)) ((Nat.le_log2 nonzero).mpr large)
    omega
  · have below : Nat.log2 number.significand < 52 := (Nat.log2_lt nonzero).mpr small
    omega

/-- Rounding is exact on the numbers themselves. -/
theorem round_self : Float64.round number.negative number.numerator number.denominator = .finite number := by
  by_cases zero : number.significand = 0
  · have least : number.exponent = -1074 := by
      rcases number.normal with ⟨large, _⟩ | ⟨_, least⟩
      · rw [zero] at large
        exact absurd large (by decide)
      · exact least
    rw [Float64.round, if_pos (numerator_eq_zero.mpr zero), ← Float64.ofParts_number number, zero, least]
  · have significands : divideRoundEven (number.numerator * 2 ^ (-number.exponent).toNat)
        (number.denominator * 2 ^ number.exponent.toNat) = number.significand := by
      rw [numerator, denominator, Nat.mul_assoc, Nat.mul_comm (2 ^ (-number.exponent).toNat)]
      exact divideRoundEven_exact (by positivity)
    rw [Float64.round, if_neg fun none => zero (numerator_eq_zero.mp none)]
    dsimp only
    rw [exponent_eq zero, significands, if_neg number.significand_lt.ne]
    exact Float64.ofParts_number number

/-- A number is determined by its sign and its ratio. -/
theorem eq_of_ratio {first second : FiniteFloat} (sign : first.negative = second.negative)
    (same : (first.numerator : ℚ) / first.denominator = (second.numerator : ℚ) / second.denominator) : first = second := by
  have rounded := @Float64.round_congr first.negative _ _ _ _ first.denominator_pos second.denominator_pos
    ((ratio_eq_iff first.denominator_pos second.denominator_pos).mpr same)
  rw [round_self] at rounded
  rw [sign, round_self] at rounded
  exact Float64.finite.inj rounded

end FiniteFloat

namespace Float64

/-- A ratio of at least 2⁵³ is not rounded below it. -/
theorem round_large {negative : Bool} {numerator denominator : Nat} {number : FiniteFloat} (some : 0 < denominator)
    (large : 2 ^ 53 * denominator ≤ numerator) (rounded : round negative numerator denominator = .finite number) :
    2 ^ 53 * number.denominator ≤ number.numerator := by
  have positive : 0 < numerator := lt_of_lt_of_le (by positivity) large
  have spec := binaryExponent_spec positive some
  have below : (0 : ℚ) < denominator := by exact_mod_cast some
  have ratio : ((2 : Nat) : ℚ) ^ (53 : Int) ≤ (numerator : ℚ) / denominator := by
    rw [le_div_iff₀ below]
    exact_mod_cast large
  have grows : (1 : ℚ) < ((2 : Nat) : ℚ) := by norm_num
  have high : 53 < binaryExponent numerator denominator + 1 :=
    (zpow_lt_zpow_iff_right₀ grows).mp (lt_of_le_of_lt ratio spec.2)
  rw [round, if_neg positive.ne'] at rounded
  dsimp only at rounded
  have chosen : max (-1074) (binaryExponent numerator denominator - 52) = binaryExponent numerator denominator - 52 := by omega
  rw [chosen] at rounded
  generalize shape : binaryExponent numerator denominator - 52 = exponent at rounded
  have nonneg : (-exponent).toNat = 0 := by omega
  rw [nonneg, Nat.pow_zero, Nat.mul_one] at rounded
  have reached : 2 ^ 52 * (denominator * 2 ^ exponent.toNat) ≤ numerator := by
    have lower := spec.1
    have parts : binaryExponent numerator denominator = 52 + exponent.toNat := by omega
    rw [parts, le_div_iff₀ below] at lower
    have natural : 2 ^ (52 + exponent.toNat) * denominator ≤ numerator := by exact_mod_cast lower
    calc
      2 ^ 52 * (denominator * 2 ^ exponent.toNat) = 2 ^ (52 + exponent.toNat) * denominator := by
        rw [pow_add]
        ring
      _ ≤ numerator := natural
  have significand := le_divideRoundEven (by positivity) reached
  have whole : ∀ number : FiniteFloat, 2 ^ 52 ≤ number.significand → 1 ≤ number.exponent →
      2 ^ 53 * number.denominator ≤ number.numerator := by
    intro number wide high
    have one : number.denominator = 1 := by
      rw [FiniteFloat.denominator, Int.toNat_of_nonpos (by omega), Nat.pow_zero]
    have two : 2 ≤ 2 ^ number.exponent.toNat := by
      calc
        2 = 2 ^ 1 := rfl
        _ ≤ 2 ^ number.exponent.toNat := Nat.pow_le_pow_right (by decide) (by omega)
    rw [one, Nat.mul_one, FiniteFloat.numerator]
    calc
      2 ^ 53 = 2 ^ 52 * 2 := by decide
      _ ≤ number.significand * 2 ^ number.exponent.toNat := Nat.mul_le_mul wide two
  split at rounded
  · obtain ⟨_, wide, high⟩ := ofParts_eq_finite rounded
    exact whole number wide.ge (by omega)
  · obtain ⟨_, wide, high⟩ := ofParts_eq_finite rounded
    exact whole number (wide ▸ significand) (by omega)

/-- A natural number with at most 53 bits is a number itself. -/
theorem round_natural (negative : Bool) {natural : Nat} (small : natural < 2 ^ 53) :
    ∃ number : FiniteFloat, round negative natural 1 = .finite number ∧ number.negative = negative ∧
      number.numerator = natural * number.denominator := by
  by_cases zero : natural = 0
  · refine ⟨⟨negative, 0, -1074, by decide⟩, ?_, rfl, ?_⟩
    · rw [round, if_pos zero]
      exact ofParts_number ⟨negative, 0, -1074, by decide⟩
    · rw [zero, Nat.zero_mul]
      exact FiniteFloat.numerator_eq_zero.mpr rfl
  · have bits : Nat.log2 natural ≤ 52 := Nat.lt_succ_iff.mp ((Nat.log2_lt zero).mpr small)
    have lower : 2 ^ Nat.log2 natural ≤ natural := Nat.log2_self_le zero
    have upper : natural < 2 ^ (Nat.log2 natural + 1) := Nat.lt_log2_self
    have normal : NormalSignificand (natural * 2 ^ (52 - Nat.log2 natural)) ((Nat.log2 natural : Int) - 52) := by
      refine .inl ⟨?_, ?_, by omega, by omega⟩
      · calc
          2 ^ 52 = 2 ^ Nat.log2 natural * 2 ^ (52 - Nat.log2 natural) := by
            rw [← pow_add]
            congr 1
            omega
          _ ≤ natural * 2 ^ (52 - Nat.log2 natural) := Nat.mul_le_mul_right _ lower
      · calc
          natural * 2 ^ (52 - Nat.log2 natural) < 2 ^ (Nat.log2 natural + 1) * 2 ^ (52 - Nat.log2 natural) :=
            Nat.mul_lt_mul_of_pos_right upper (by positivity)
          _ = 2 ^ 53 := by
            rw [← pow_add]
            congr 1
            omega
    have shift : (-((Nat.log2 natural : Int) - 52)).toNat = 52 - Nat.log2 natural := by omega
    have whole : ((Nat.log2 natural : Int) - 52).toNat = 0 := by omega
    refine ⟨⟨negative, _, _, normal⟩, ?_, rfl, ?_⟩
    · rw [← FiniteFloat.round_self ⟨negative, _, _, normal⟩]
      refine round_congr Nat.one_pos (FiniteFloat.denominator_pos _) ?_
      rw [FiniteFloat.numerator, FiniteFloat.denominator, shift, whole]
      ring
    · rw [FiniteFloat.numerator, FiniteFloat.denominator, shift, whole, Nat.pow_zero, Nat.mul_one]

end Float64

end CiCoordinator.Library

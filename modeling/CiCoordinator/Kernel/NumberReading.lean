import CiCoordinator.Kernel.NumberText
import CiCoordinator.Kernel.StrictJson

/- The numbers that the loader reads from canonical text, and their text again. -/

namespace CiCoordinator.Kernel

open Library FiniteFloat

/-- The integer of a sign and a magnitude. -/
def signed (negative : Bool) (magnitude : Nat) : Int :=
  if negative then -(magnitude : Int) else magnitude

/-- The value that is read from the text of a float: an integer when the float is one. -/
def loadedFloat : Float64 → Json
  | .finite number =>
    if number.significand = 0 then .int 0
    else if 0 ≤ number.shortestDecimal.2 then
      .int (signed number.negative (number.shortestDecimal.1 * 10 ^ number.shortestDecimal.2.toNat))
    else .float (.finite number)
  | other => .float other

/-- The rational number that a finite number stands for. -/
def Json.rational : Json → Option ℚ
  | .int value => some value
  | .float (.finite number) => some number.value
  | _ => none

/-- The literal of an integer. -/
def integerLiteral (value : Int) : NumberLiteral :=
  ⟨decide (value < 0), decimal value.natAbs, none, none⟩

section Integers

theorem natAbs_signed (negative : Bool) (magnitude : Nat) : (signed negative magnitude).natAbs = magnitude := by
  cases negative <;> simp [signed]

theorem signed_natAbs (value : Int) : signed (decide (value < 0)) value.natAbs = value := by
  by_cases negative : value < 0
  · rw [decide_eq_true negative, signed, if_pos rfl]
    omega
  · rw [decide_eq_false negative, signed, if_neg Bool.false_ne_true]
    omega

theorem integerLiteral_signed {negative : Bool} {magnitude : Nat} (positive : 0 < magnitude) :
    integerLiteral (signed negative magnitude) = ⟨negative, decimal magnitude, none, none⟩ := by
  have sign : decide (signed negative magnitude < 0) = negative := by
    cases negative with
    | true => exact decide_eq_true (by rw [signed, if_pos rfl]; omega)
    | false => exact decide_eq_false (by rw [signed, if_neg Bool.false_ne_true]; omega)
  rw [integerLiteral, sign, natAbs_signed]

theorem decimal_wellFormed (number : Nat) :
    decimal number = [0x30] ∨ (DigitRun (decimal number) ∧ (decimal number).head? ≠ some 0x30) := by
  by_cases leading : (decimal number).head? = some 0x30
  · exact .inl (decimal_leading leading)
  · exact .inr ⟨digitRun_decimal number, leading⟩

theorem integerLiteral_wellFormed (value : Int) : (integerLiteral value).WellFormed where
  whole := decimal_wellFormed value.natAbs
  fraction := by
    rintro _ ⟨⟩
  exponent := by
    rintro _ _ ⟨⟩

theorem integerLiteral_text (value : Int) : (integerLiteral value).text = decimalInt value := by
  have empty : NumberLiteral.fractionText none ++ NumberLiteral.exponentText none = [] := rfl
  rw [NumberLiteral.text, integerLiteral]
  dsimp only
  rw [empty, List.append_nil, decimalInt]
  by_cases negative : value < 0
  · rw [decide_eq_true negative, if_pos rfl, if_pos negative]
  · rw [decide_eq_false negative, if_neg Bool.false_ne_true, if_neg negative, List.nil_append]

/-- A number that both hosts represent has few digits. -/
theorem length_decimal_le {number : Nat} (safe : number ≤ maxSafeJsonInteger) : (decimal number).length ≤ 16 := by
  by_contra long
  have positive : 0 < number := by
    refine Nat.pos_of_ne_zero ?_
    rintro rfl
    exact long (by decide)
  have lower := (decimal_bounds positive).1
  have power : 10 ^ 16 ≤ 10 ^ ((decimal number).length - 1) := Nat.pow_le_pow_right (by decide) (by omega)
  have small : maxSafeJsonInteger < 10 ^ 16 := by decide
  omega

theorem length_decimal {number : Nat} (safe : number ≤ maxSafeJsonInteger) : (decimal number).length ≤ maxIntegerDigits :=
  (length_decimal_le safe).trans (by decide)

/-- The host reads an integer literal of few digits as its integer. -/
theorem loadNumber_whole {negative : Bool} {digits : Text} (short : digits.length ≤ maxIntegerDigits) :
    loadNumber ⟨negative, digits, none, none⟩ = some (.int (signed negative (readDigits digits))) := by
  rw [loadNumber, if_neg (not_lt.mpr short), signed]

theorem loadNumber_integerLiteral {value : Int} (safe : value.natAbs ≤ maxSafeJsonInteger) :
    loadNumber (integerLiteral value) = some (.int value) := by
  rw [integerLiteral, loadNumber_whole (length_decimal safe), readDigits_decimal, signed_natAbs]

end Integers

section Floats

variable {number : FiniteFloat}

/-- A float is read as an integer, or as itself when it is not zero. -/
theorem loadedFloat_cases (number : FiniteFloat) : (∃ value, loadedFloat (.finite number) = .int value) ∨
      (loadedFloat (.finite number) = .float (.finite number) ∧ number.significand ≠ 0) := by
  rw [loadedFloat]
  by_cases zero : number.significand = 0
  · exact .inl ⟨0, if_pos zero⟩
  · rw [if_neg zero]
    by_cases whole : 0 ≤ number.shortestDecimal.2
    · exact .inl ⟨_, if_pos whole⟩
    · exact .inr ⟨if_neg whole, zero⟩

theorem safe_of_safeFloat (safe : safeFloat (.finite number) = true) : number.Safe := by
  rw [safeFloat, decide_eq_true_eq] at safe
  rw [FiniteFloat.Safe]
  have some := number.denominator_pos
  have bound : maxSafeJsonInteger * number.denominator < 2 ^ 53 * number.denominator :=
    Nat.mul_lt_mul_of_pos_right (by decide) some
  omega

/-- The literal of every number is one that the grammar derives. -/
theorem numberLiteral_wellFormed (number : FiniteFloat) : (numberLiteral number).WellFormed := by
  rw [numberLiteral]
  split
  · refine ⟨.inl (by decide), ?_, ?_⟩
    · rintro _ ⟨⟩
    · rintro _ _ ⟨⟩
  · rename_i nonzero
    exact ecmaLiteral_wellFormed (ShortDigits.ofNumber nonzero)

/-- The canonical text of a finite float is the text of its literal. -/
theorem renderFloat_literal (number : FiniteFloat) : renderFloat (.finite number) = (numberLiteral number).text := by
  by_cases zero : number.significand = 0
  · rw [renderFloat, numberLiteral, if_pos zero, if_pos zero]
    decide
  · rw [renderFloat, if_neg zero, ecmascriptNumberText_literal zero]

/-- The literal of a whole number has its digits only. -/
theorem numberLiteral_whole (safe : number.Safe) (nonzero : number.significand ≠ 0) (whole : 0 ≤ number.shortestDecimal.2) :
    numberLiteral number =
      ⟨number.negative, decimal (number.shortestDecimal.1 * 10 ^ number.shortestDecimal.2.toNat), none, none⟩ := by
  have low := decimalPoint_le safe nonzero
  have short := ShortDigits.ofNumber nonzero
  have zeros : ((decimal number.shortestDecimal.1).length + number.shortestDecimal.2).toNat -
      (decimal number.shortestDecimal.1).length = number.shortestDecimal.2.toNat := by omega
  have digits := short.append_zeros number.shortestDecimal.2.toNat
  have written : decimal (number.shortestDecimal.1 * 10 ^ number.shortestDecimal.2.toNat) =
      decimal number.shortestDecimal.1 ++ List.replicate number.shortestDecimal.2.toNat 0x30 := by
    rw [← decimal_readDigits digits.filled digits.all, readDigits_append_zeros, readDigits_decimal]
    rw [List.head?_append_of_ne_nil _ short.filled]
    exact short.leading
  rw [numberLiteral, if_neg nonzero]
  dsimp only
  rw [ecmaLiteral_whole (by omega) (by omega), zeros, written]

/-- The literal of another number reads back as the number. -/
theorem numberLiteral_fraction (safe : number.Safe) (nonzero : number.significand ≠ 0) (mixed : number.shortestDecimal.2 < 0) :
    (numberLiteral number).toFloat64 = .finite number ∧
      ((numberLiteral number).fraction.isSome ∨ (numberLiteral number).exponent.isSome) := by
  have low := decimalPoint_le safe nonzero
  rw [numberLiteral, if_neg nonzero]
  dsimp only
  obtain ⟨sign, digits, power, mark⟩ := @ecmaLiteral_fraction _ number.negative
    ((decimal number.shortestDecimal.1).length + number.shortestDecimal.2) (ShortDigits.ofNumber nonzero) (by omega)
  refine ⟨?_, mark⟩
  have exponent : ((decimal number.shortestDecimal.1).length + number.shortestDecimal.2 : Int) -
      (decimal number.shortestDecimal.1).length = number.shortestDecimal.2 := by omega
  rw [NumberLiteral.toFloat64, sign, digits, power, readDigits_decimal, exponent]
  exact shortestDecimal_readsBack

/-- A safe whole number is a safe integer. -/
theorem whole_le (safe : safeFloat (.finite number) = true) (whole : 0 ≤ number.shortestDecimal.2) :
    number.shortestDecimal.1 * 10 ^ number.shortestDecimal.2.toNat ≤ maxSafeJsonInteger := by
  have value := numerator_of_whole (safe_of_safeFloat safe) whole
  rw [safeFloat, decide_eq_true_eq, value] at safe
  exact Nat.le_of_mul_le_mul_right safe number.denominator_pos

theorem loadNumber_fraction {literal : NumberLiteral} (mark : literal.fraction.isSome ∨ literal.exponent.isSome)
    (finite : literal.toFloat64 = .finite number) : loadNumber literal = some (.float (.finite number)) := by
  rw [loadNumber.eq_def, finite]
  split
  · rename_i fraction exponent
    rw [fraction, exponent] at mark
    rcases mark with mark | mark <;> cases mark
  · rfl

section

variable (safe : safeFloat (.finite number) = true)
include safe

/-- The host reads the literal of a safe float as the float or as the integer that it is. -/
theorem loadNumber_numberLiteral : loadNumber (numberLiteral number) = some (loadedFloat (.finite number)) := by
  have bounded := safe_of_safeFloat safe
  by_cases zero : number.significand = 0
  · have digits : (ascii "0").length ≤ maxIntegerDigits := by decide
    rw [numberLiteral, loadedFloat, if_pos zero, if_pos zero, loadNumber_whole digits]
    have value : signed false (readDigits (ascii "0")) = 0 := by decide
    rw [value]
  · by_cases whole : 0 ≤ number.shortestDecimal.2
    · rw [numberLiteral_whole bounded zero whole, loadNumber_whole (length_decimal (whole_le safe whole)), readDigits_decimal,
        loadedFloat, if_neg zero, if_pos whole]
    · obtain ⟨reads, mark⟩ := numberLiteral_fraction bounded zero (not_le.mp whole)
      rw [loadNumber_fraction mark reads, loadedFloat, if_neg zero, if_neg whole]

/-- A safe float that is read as an integer has the literal of the integer. -/
theorem numberLiteral_integer {value : Int}
    (loaded : loadedFloat (.finite number) = .int value) : numberLiteral number = integerLiteral value := by
  by_cases zero : number.significand = 0
  · rw [loadedFloat, if_pos zero, Json.int.injEq] at loaded
    rw [numberLiteral, if_pos zero, ← loaded]
    decide
  · by_cases whole : 0 ≤ number.shortestDecimal.2
    · have positive : 0 < number.shortestDecimal.1 * 10 ^ number.shortestDecimal.2.toNat :=
        Nat.mul_pos (digits_pos zero shortestDecimal_readsBack) (Nat.pow_pos (by decide))
      rw [loadedFloat, if_neg zero, if_pos whole, Json.int.injEq] at loaded
      rw [numberLiteral_whole (safe_of_safeFloat safe) zero whole, ← loaded, integerLiteral_signed positive]
    · rw [loadedFloat, if_neg zero, if_neg whole] at loaded
      cases loaded

/-- The value that is read from a safe float has its text. -/
theorem render_loadedFloat : render (loadedFloat (.finite number)) = renderFloat (.finite number) := by
  rcases loadedFloat_cases number with ⟨value, loaded⟩ | ⟨loaded, _⟩
  · rw [renderFloat_literal, numberLiteral_integer safe loaded, loaded, render, integerLiteral_text]
  · rw [loaded, render]

/-- The value that is read from a safe float stands for the same number. -/
theorem rational_loadedFloat : (loadedFloat (.finite number)).rational = some number.value := by
  by_cases zero : number.significand = 0
  · rw [loadedFloat, if_pos zero, Json.rational, FiniteFloat.value, numerator_eq_zero.mpr zero]
    simp
  · by_cases whole : 0 ≤ number.shortestDecimal.2
    · have value := numerator_of_whole (safe_of_safeFloat safe) whole
      have some := number.denominator_pos
      rw [loadedFloat, if_neg zero, if_pos whole, Json.rational, FiniteFloat.value, value]
      generalize number.shortestDecimal.1 * 10 ^ number.shortestDecimal.2.toNat = magnitude
      rw [Rat.mkRat_eq_div, signed]
      have nonzero : (number.denominator : ℚ) ≠ 0 := by exact_mod_cast some.ne'
      cases number.negative with
      | true =>
        simp only [if_true]
        push_cast
        field_simp
      | false =>
        simp only [Bool.false_eq_true, if_false]
        push_cast
        field_simp
    · rw [loadedFloat, if_neg zero, if_neg whole, Json.rational]

/-- The value that is read from a safe float is safe. -/
theorem admissible_loadedFloat : admissible (loadedFloat (.finite number)) = true := by
  by_cases zero : number.significand = 0
  · rw [loadedFloat, if_pos zero]
    decide
  · by_cases whole : 0 ≤ number.shortestDecimal.2
    · have small := whole_le safe whole
      rw [loadedFloat, if_neg zero, if_pos whole, admissible_int, decide_eq_true_eq, natAbs_signed]
      exact small
    · rw [loadedFloat, if_neg zero, if_neg whole, admissible_float, safe]

end

end Floats

end CiCoordinator.Kernel

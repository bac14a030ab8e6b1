import Mathlib.Data.Nat.Log
import CiCoordinator.Library.Positional
import CiCoordinator.Library.Text

/- Decimal notation for natural numbers and integers. -/

namespace CiCoordinator.Library

open List

/-- The code point of a decimal digit. -/
def digitPoint (digit : Nat) : CodePoint :=
  ⟨48 + digit % 10, by omega⟩

/-- A code point that stands for a decimal digit. -/
def CodePoint.isDigit (point : CodePoint) : Bool :=
  48 ≤ point.val && point.val ≤ 57

/-- The digit that a code point stands for. -/
def CodePoint.digit (point : CodePoint) : Nat :=
  point.val - 48

/-- The digits of a number are put before those already written. -/
def writeDigits : Nat → Nat → Text → Text
  | 0, _, written => written
  | fuel + 1, number, written =>
    if number < 10 then digitPoint number :: written
    else writeDigits fuel (number / 10) (digitPoint number :: written)

/-- The decimal notation of a natural number has no leading zero. -/
def decimal (number : Nat) : Text :=
  writeDigits (Nat.log2 number + 1) number []

/-- The decimal notation of an integer. -/
def decimalInt (number : Int) : Text :=
  if number < 0 then ascii "-" ++ decimal number.natAbs else decimal number.natAbs

/-- The number written by a sequence of digits. -/
def readDigits (digits : Text) : Nat :=
  digits.foldl (fun value point => value * 10 + point.digit) 0

variable {point : CodePoint} {number : Nat}

@[simp] theorem isDigit_digitPoint (digit : Nat) : (digitPoint digit).isDigit = true := by
  have bound : 48 ≤ 48 + digit % 10 ∧ 48 + digit % 10 ≤ 57 := by omega
  exact Bool.and_eq_true_iff.mpr ⟨decide_eq_true bound.1, decide_eq_true bound.2⟩

@[simp] theorem digit_digitPoint (digit : Nat) : (digitPoint digit).digit = digit % 10 := by
  simp [CodePoint.digit, digitPoint]

theorem isSurrogate_of_isDigit (digit : point.isDigit = true) : point.isSurrogate = false := by
  simp only [CodePoint.isDigit, Bool.and_eq_true, decide_eq_true_eq] at digit
  simp only [CodePoint.isSurrogate, Bool.and_eq_false_iff, decide_eq_false_iff_not]
  exact .inl (by omega)

theorem readDigits_append (left right : Text) :
    readDigits (left ++ right) = readDigits left * 10 ^ right.length + readDigits right :=
  positional_append left right

theorem writeDigits_spec {fuel : Nat} (written : Text) (enough : number < 10 ^ fuel) :
    ∃ digits : Text, writeDigits fuel number written = digits ++ written ∧
      (∀ point ∈ digits, point.isDigit = true) ∧ readDigits digits = number ∧
      (fuel ≠ 0 → digits ≠ []) ∧ (10 ≤ number → digits.head? ≠ some (digitPoint 0)) ∧
      (number < 10 → fuel ≠ 0 → digits = [digitPoint number]) := by
  induction fuel generalizing number written with
  | zero =>
    have zero : number = 0 := by simpa using enough
    exact ⟨[], by simp [writeDigits, zero, readDigits]⟩
  | succ fuel ih =>
    by_cases small : number < 10
    · refine ⟨[digitPoint number], ?_⟩
      simp [writeDigits, small, readDigits]
    · have shorter : number / 10 < 10 ^ fuel := by
        omega
      obtain ⟨digits, equal, all, value, nonempty, leading, single⟩ := @ih (number / 10) (digitPoint number :: written) shorter
      have positive : fuel ≠ 0 := by
        rintro rfl
        omega
      refine ⟨digits ++ [digitPoint number], ?_, ?_, ?_, ?_, ?_, ?_⟩
      · simp [writeDigits, small, equal]
      · intro point member
        rcases mem_append.mp member with old | new
        · exact all point old
        · rw [mem_singleton.mp new]
          exact isDigit_digitPoint number
      · rw [readDigits_append, value]
        simp [readDigits]
        omega
      · simp
      · intro _
        rw [head?_append_of_ne_nil _ (nonempty positive)]
        by_cases large : 10 ≤ number / 10
        · exact leading large
        · rw [single (by omega) positive]
          intro same
          have digitEqual : (digitPoint (number / 10)).digit = (digitPoint 0).digit := by
            rw [Option.some.inj same]
          simp at digitEqual
          omega
      · intro tooSmall
        omega

theorem lt_pow_log2 (number : Nat) : number < 10 ^ (Nat.log2 number + 1) := by
  have binary : number < 2 ^ (Nat.log2 number + 1) := Nat.lt_log2_self
  have wider : 2 ^ (Nat.log2 number + 1) ≤ 10 ^ (Nat.log2 number + 1) := Nat.pow_le_pow_left (by decide) _
  exact lt_of_lt_of_le binary wider

/-- Reading a decimal notation gives its number back. -/
@[simp] theorem readDigits_decimal (number : Nat) : readDigits (decimal number) = number := by
  obtain ⟨digits, equal, -, value, -⟩ := writeDigits_spec [] (lt_pow_log2 number)
  rw [decimal, equal, append_nil, value]

theorem decimal_isDigit (member : point ∈ decimal number) : point.isDigit = true := by
  obtain ⟨digits, equal, all, -⟩ := writeDigits_spec [] (lt_pow_log2 number)
  rw [decimal, equal, append_nil] at member
  exact all point member

theorem decimal_ne_nil (number : Nat) : decimal number ≠ [] := by
  obtain ⟨digits, equal, -, -, nonempty, -⟩ := writeDigits_spec [] (lt_pow_log2 number)
  rw [decimal, equal, append_nil]
  exact nonempty (Nat.succ_ne_zero _)

/-- Only zero is written with a leading zero. -/
theorem decimal_leading (leading : (decimal number).head? = some (digitPoint 0)) : decimal number = [digitPoint 0] := by
  obtain ⟨digits, equal, -, -, -, strict, single⟩ := writeDigits_spec [] (lt_pow_log2 number)
  rw [decimal, equal, append_nil] at leading ⊢
  by_cases small : number < 10
  · rw [single small (Nat.succ_ne_zero _)] at leading ⊢
    simpa using leading
  · exact absurd leading (strict (by omega))

theorem readDigits_cons (point : CodePoint) (digits : Text) :
    readDigits (point :: digits) = point.digit * 10 ^ digits.length + readDigits digits :=
  positional_cons point digits

theorem digit_lt (digit : point.isDigit = true) : point.digit < 10 := by
  simp only [CodePoint.isDigit, Bool.and_eq_true, decide_eq_true_eq] at digit
  rw [CodePoint.digit]
  omega

theorem digit_lt_digit {point other : CodePoint} (first : point.isDigit = true) (second : other.isDigit = true) :
    (point < other ↔ point.digit < other.digit) ∧ (point = other ↔ point.digit = other.digit) := by
  simp only [CodePoint.isDigit, Bool.and_eq_true, decide_eq_true_eq] at first second
  simp only [Fin.lt_def, Fin.ext_iff, CodePoint.digit]
  omega

/-- Digits write a number below the power of their length. -/
theorem readDigits_lt {digits : Text} (all : ∀ point ∈ digits, point.isDigit = true) : readDigits digits < 10 ^ digits.length :=
  positional_lt fun point member => digit_lt (all point member)

/-- Digits with a first digit that is not zero write at least the power of the other ones. -/
theorem le_readDigits {digits : Text} (digit : point.isDigit = true) (leading : point ≠ digitPoint 0) :
    10 ^ digits.length ≤ readDigits (point :: digits) := by
  have positive : 1 ≤ point.digit := by
    simp only [CodePoint.isDigit, Bool.and_eq_true, decide_eq_true_eq] at digit
    rw [CodePoint.digit]
    by_contra zero
    refine leading (Fin.ext ?_)
    simp only [digitPoint]
    omega
  exact le_positional (Nat.one_le_iff_ne_zero.mp positive)

/-- A number has as many decimal digits as its magnitude says. -/
theorem decimal_bounds (positive : 0 < number) :
    10 ^ ((decimal number).length - 1) ≤ number ∧ number < 10 ^ (decimal number).length := by
  obtain ⟨point, digits, shape⟩ := exists_cons_of_ne_nil (decimal_ne_nil number)
  have all : ∀ other ∈ decimal number, other.isDigit = true := fun other member => decimal_isDigit member
  have value := readDigits_decimal number
  constructor
  · have leading : point ≠ digitPoint 0 := by
      rintro rfl
      have alone := @decimal_leading number (by rw [shape]; rfl)
      rw [alone] at value
      simp [readDigits] at value
      omega
    have lower := @le_readDigits point digits (all point (by rw [shape]; exact mem_cons_self)) leading
    rw [← shape, value] at lower
    rw [shape, length_cons]
    exact lower
  · have upper := readDigits_lt all
    rwa [value] at upper

/-- Digit sequences of one length are told apart by their numbers. -/
theorem readDigits_inj {left right : Text} (leftAll : ∀ point ∈ left, point.isDigit = true)
    (rightAll : ∀ point ∈ right, point.isDigit = true) (lengths : left.length = right.length)
    (same : readDigits left = readDigits right) : left = right := by
  have ordered {first second : Text} (firstAll : ∀ point ∈ first, point.isDigit = true)
      (secondAll : ∀ point ∈ second, point.isDigit = true) :=
    @lt_iff_positional_lt _ 10 CodePoint.digit first second _
      (fun point member other listed => digit_lt_digit (firstAll point member) (secondAll other listed))
      (fun point member => digit_lt (firstAll point member)) (fun point member => digit_lt (secondAll point member))
  refine List.le_antisymm (List.not_lt.mp fun more => ?_) (List.not_lt.mp fun less => ?_)
  · exact absurd same.symm ((ordered rightAll leftAll lengths.symm).mp more).ne
  · exact absurd same ((ordered leftAll rightAll lengths).mp less).ne

/-- Digits without a leading zero are the notation of their number. -/
theorem decimal_readDigits {digits : Text} (filled : digits ≠ []) (all : ∀ point ∈ digits, point.isDigit = true)
    (leading : digits.head? ≠ some (digitPoint 0)) : decimal (readDigits digits) = digits := by
  obtain ⟨point, others, rfl⟩ := exists_cons_of_ne_nil filled
  have nonzero : point ≠ digitPoint 0 := by
    rintro rfl
    exact leading rfl
  have lower := @le_readDigits point others (all point mem_cons_self) nonzero
  have upper := readDigits_lt all
  have positive : 0 < readDigits (point :: others) := lt_of_lt_of_le (Nat.pow_pos (by decide)) lower
  have bounds := decimal_bounds positive
  rw [length_cons] at upper
  have first := (Nat.pow_lt_pow_iff_right (by decide : 1 < 10)).mp (lt_of_le_of_lt lower bounds.2)
  have second := (Nat.pow_lt_pow_iff_right (by decide : 1 < 10)).mp (lt_of_le_of_lt bounds.1 upper)
  refine readDigits_inj (fun _ member => decimal_isDigit member) all ?_ (readDigits_decimal _)
  rw [length_cons]
  omega

@[simp] theorem scalar_decimal (number : Nat) : Text.scalar (decimal number) = true := by
  simp only [Text.scalar, all_eq_true, Bool.not_eq_eq_eq_not]
  exact fun point member => isSurrogate_of_isDigit (decimal_isDigit member)

@[simp] theorem scalar_decimalInt (number : Int) : Text.scalar (decimalInt number) = true := by
  unfold decimalInt
  split <;> simp

end CiCoordinator.Library

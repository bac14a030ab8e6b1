import Mathlib.Data.Nat.Digits.Lemmas
import Mathlib.Tactic.Ring

/- Positional notation over any base, and how its digits compare numbers. -/

namespace CiCoordinator.Library

open List

variable {A : Type}

/-- The number that digits write, the leading one first. -/
def positional (base : Nat) (digit : A → Nat) (digits : List A) : Nat :=
  digits.foldl (fun value item => value * base + digit item) 0

variable {base : Nat} {digit : A → Nat} {left right : List A}

theorem positional_append_singleton (item : A) :
    positional base digit (left ++ [item]) = positional base digit left * base + digit item := by
  rw [positional, foldl_append]
  rfl

theorem positional_append (left right : List A) :
    positional base digit (left ++ right) = positional base digit left * base ^ right.length + positional base digit right := by
  induction right using List.reverseRecOn with
  | nil => simp [positional]
  | append_singleton rest last ih =>
    rw [← append_assoc, positional_append_singleton, positional_append_singleton, ih, length_append, length_singleton, pow_succ]
    ring

theorem positional_cons (item : A) (rest : List A) :
    positional base digit (item :: rest) = digit item * base ^ rest.length + positional base digit rest := by
  rw [← singleton_append, positional_append]
  simp [positional]

theorem positional_map {B : Type} {change : B → A} {other : B → Nat} {digits : List B}
    (same : ∀ item ∈ digits, digit (change item) = other item) :
    positional base digit (digits.map change) = positional base other digits := by
  induction digits with
  | nil => rfl
  | cons item rest ih =>
    rw [forall_mem_cons] at same
    rw [map_cons, positional_cons, positional_cons, ih same.2, same.1, length_map]

/-- Leading zeros write nothing. -/
theorem positional_dropWhile {dropped : A → Bool} (zero : ∀ item, dropped item = true → digit item = 0) :
    positional base digit (left.dropWhile dropped) = positional base digit left := by
  induction left with
  | nil => rfl
  | cons item rest ih =>
    rw [dropWhile_cons]
    split
    · rw [ih, positional_cons, zero item ‹_›, Nat.zero_mul, Nat.zero_add]
    · rfl

/-- Digits write a number below the power of their length. -/
theorem positional_lt (small : ∀ item ∈ left, digit item < base) : positional base digit left < base ^ left.length := by
  induction left with
  | nil => simp [positional]
  | cons item rest ih =>
    rw [forall_mem_cons] at small
    have shorter := ih small.2
    rw [positional_cons, length_cons, pow_succ']
    calc
      digit item * base ^ rest.length + positional base digit rest
          < digit item * base ^ rest.length + base ^ rest.length := by omega
      _ = (digit item + 1) * base ^ rest.length := by ring
      _ ≤ base * base ^ rest.length := Nat.mul_le_mul_right _ small.1

/-- A first digit that is not zero puts the number at the power of the other ones or above. -/
theorem le_positional {item : A} {rest : List A} (leading : digit item ≠ 0) :
    base ^ rest.length ≤ positional base digit (item :: rest) := by
  rw [positional_cons]
  exact (Nat.le_mul_of_pos_left _ (Nat.pos_of_ne_zero leading)).trans (Nat.le_add_right _ _)

/-- The leading digit decides between numbers of as many digits, and the others decide where it is the same. -/
theorem leading_digit_lt {first second lower upper power : Nat} (lowerSmall : lower < power) (upperSmall : upper < power) :
    first * power + lower < second * power + upper ↔ first < second ∨ (first = second ∧ lower < upper) := by
  rcases Nat.lt_trichotomy first second with less | rfl | more
  · have step := Nat.mul_le_mul_right power (Nat.succ_le_of_lt less)
    rw [Nat.succ_mul] at step
    constructor
    · exact fun _ => .inl less
    · intro _
      omega
  · simp
  · have step := Nat.mul_le_mul_right power (Nat.succ_le_of_lt more)
    rw [Nat.succ_mul] at step
    omega

section Comparison

variable [LinearOrder A]
  (order : ∀ first ∈ left, ∀ second ∈ right,
    (first < second ↔ digit first < digit second) ∧ (first = second ↔ digit first = digit second))
  (leftSmall : ∀ item ∈ left, digit item < base) (rightSmall : ∀ item ∈ right, digit item < base)
include order leftSmall rightSmall

/-- Digits in the order of their values compare as the numbers do that as many of them write. -/
theorem lt_iff_positional_lt (same : left.length = right.length) :
    left < right ↔ positional base digit left < positional base digit right := by
  induction left generalizing right with
  | nil =>
    rw [length_eq_zero_iff.mp same.symm]
    simp
  | cons item rest ih =>
    cases right with
    | nil => cases same
    | cons other others =>
      rw [forall_mem_cons] at leftSmall rightSmall
      rw [length_cons, length_cons, Nat.succ.injEq] at same
      have later := ih (fun first member second listed =>
        order first (mem_cons_of_mem _ member) second (mem_cons_of_mem _ listed)) leftSmall.2 rightSmall.2 same
      have below := positional_lt leftSmall.2
      obtain ⟨less, equal⟩ := order item mem_cons_self other mem_cons_self
      rw [same] at below
      rw [positional_cons, positional_cons, same, cons_lt_cons_iff, later, less, equal,
        leading_digit_lt below (positional_lt rightSmall.2)]

/-- Without leading zeros the number of digits is compared first. -/
theorem positional_lt_iff (leftLeads : base ^ (left.length - 1) ≤ positional base digit left) (some : left ≠ [])
    (rightLeads : right.length = 1 ∨ base ^ (right.length - 1) ≤ positional base digit right) (positive : 0 < base) :
    positional base digit left < positional base digit right ↔
      left.length < right.length ∨ right.length = left.length ∧ left < right := by
  have filled := length_pos_iff.mpr some
  rcases Nat.lt_trichotomy left.length right.length with less | same | more
  · have power : base ^ left.length ≤ base ^ (right.length - 1) := Nat.pow_le_pow_right positive (by omega)
    have below := positional_lt leftSmall
    exact iff_of_true (by omega) (.inl less)
  · rw [lt_iff_positional_lt order leftSmall rightSmall same]
    simp [same]
  · have power : base ^ right.length ≤ base ^ (left.length - 1) := Nat.pow_le_pow_right positive (by omega)
    have below := positional_lt rightSmall
    exact iff_of_false (by omega) (by omega)

end Comparison

/-- The digits of a number write it. -/
theorem positional_digits {character : Nat → A} (known : ∀ value < base, digit (character value) = value) (some : 1 < base)
    (number : Nat) : positional base digit ((Nat.digits base number).reverse.map character) = number := by
  have each : ∀ digits : List Nat, (∀ value ∈ digits, value < base) →
      positional base digit (digits.reverse.map character) = Nat.ofDigits base digits := by
    intro digits small
    induction digits with
    | nil => rfl
    | cons value rest ih =>
      rw [forall_mem_cons] at small
      rw [reverse_cons, map_append, map_singleton, positional_append_singleton, ih small.2,
        known value small.1, Nat.ofDigits_cons]
      ring
  rw [each _ fun value member => Nat.digits_lt_base some member, Nat.ofDigits_digits]

end CiCoordinator.Library

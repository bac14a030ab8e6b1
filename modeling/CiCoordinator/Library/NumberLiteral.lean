import CiCoordinator.Library.JsonSyntax
import Mathlib.Data.List.TakeDrop
import Mathlib.Data.List.TakeWhile

/- The texts of number literals and the proof that the reader gives each literal back. -/

namespace CiCoordinator.Library

open List Text

/-- A text that neither continues a number nor starts with white space. -/
def Separated (rest : Text) : Prop :=
  ∀ point ∈ rest.head?, point.isDigit = false ∧ point ≠ JsonSyntax.point ∧ point ≠ 0x65 ∧ point ≠ 0x45

theorem separated_of_head {point : CodePoint} {rest : Text}
    (other : point.isDigit = false ∧ point ≠ JsonSyntax.point ∧ point ≠ 0x65 ∧ point ≠ 0x45) : Separated (point :: rest) := by
  rintro _ ⟨⟩
  exact other

/-- A nonempty run of digits. -/
structure DigitRun (digits : Text) : Prop where
  filled : digits ≠ []
  all : ∀ point ∈ digits, point.isDigit = true

theorem digitRun_decimal (number : Nat) : DigitRun (decimal number) :=
  ⟨decimal_ne_nil number, fun _ member => decimal_isDigit member⟩

namespace DigitRun

variable {digits : Text}

section

variable (run : DigitRun digits)
include run

theorem take {count : Nat} (some : 0 < count) : DigitRun (digits.take count) where
  filled := by
    have written := length_pos_iff.mpr run.filled
    rw [ne_eq, take_eq_nil_iff, not_or]
    exact ⟨by omega, run.filled⟩
  all := fun point member => run.all point (mem_of_mem_take member)

theorem drop {count : Nat} (inside : count < digits.length) : DigitRun (digits.drop count) where
  filled := by
    rw [ne_eq, drop_eq_nil_iff]
    omega
  all := fun point member => run.all point (mem_of_mem_drop member)

theorem append_zeros (count : Nat) : DigitRun (digits ++ List.replicate count 0x30) where
  filled := append_ne_nil_of_left_ne_nil run.filled _
  all := by
    intro point member
    rcases mem_append.mp member with old | zero
    · exact run.all point old
    · rw [eq_of_mem_replicate zero]
      decide

theorem zeros_append (count : Nat) : DigitRun (List.replicate count 0x30 ++ digits) where
  filled := append_ne_nil_of_right_ne_nil _ run.filled
  all := by
    intro point member
    rcases mem_append.mp member with zero | old
    · rw [eq_of_mem_replicate zero]
      decide
    · exact run.all point old

end

end DigitRun

namespace NumberLiteral

/-- The text of an optional fraction. -/
def fractionText : Option Text → Text
  | none => []
  | some digits => ascii "." ++ digits

/-- The text of an optional exponent. -/
def exponentText : Option (Bool × Text) → Text
  | none => []
  | some (negative, digits) => ascii "e" ++ ((if negative then ascii "-" else ascii "+") ++ digits)

/-- The text of a number literal. -/
def text (literal : NumberLiteral) : Text :=
  (if literal.negative then ascii "-" else []) ++
    (literal.whole ++ (fractionText literal.fraction ++ exponentText literal.exponent))

/-- A literal that the grammar derives. -/
structure WellFormed (literal : NumberLiteral) : Prop where
  whole : literal.whole = [0x30] ∨ (DigitRun literal.whole ∧ literal.whole.head? ≠ some 0x30)
  fraction : ∀ digits, literal.fraction = some digits → DigitRun digits
  exponent : ∀ negative digits, literal.exponent = some (negative, digits) → DigitRun digits

theorem WellFormed.head {literal : NumberLiteral} (formed : literal.WellFormed) :
    ∃ point digits, literal.whole = point :: digits ∧ point.isDigit = true := by
  rcases formed.whole with zero | ⟨run, _⟩
  · exact ⟨0x30, [], zero, by decide⟩
  · obtain ⟨point, digits, shape⟩ := exists_cons_of_ne_nil run.filled
    exact ⟨point, digits, shape, run.all point (shape ▸ mem_cons_self)⟩

end NumberLiteral

section Reading

open JsonSyntax NumberLiteral

variable {rest : Text}

theorem readRun_append {digits : Text} (run : DigitRun digits) (breaks : ∀ point ∈ rest.head?, point.isDigit = false) :
    readRun (digits ++ rest) = some (digits, rest) := by
  have stops : rest.takeWhile CodePoint.isDigit = [] ∧ rest.dropWhile CodePoint.isDigit = rest := by
    cases rest with
    | nil => exact ⟨rfl, rfl⟩
    | cons point rest =>
      have other := breaks point rfl
      exact ⟨takeWhile_cons_of_neg (by simp [other]), dropWhile_cons_of_neg (by simp [other])⟩
  rw [readRun, span_eq_takeWhile_dropWhile, takeWhile_append_of_pos run.all, dropWhile_append_of_pos run.all,
    stops.1, stops.2, append_nil]
  obtain ⟨point, others, shape⟩ := exists_cons_of_ne_nil run.filled
  rw [shape]

theorem readWhole_append {whole : Text} (formed : whole = [0x30] ∨ (DigitRun whole ∧ whole.head? ≠ some 0x30))
    (breaks : ∀ point ∈ rest.head?, point.isDigit = false) : readWhole (whole ++ rest) = some (whole, rest) := by
  rcases formed with rfl | ⟨run, leading⟩
  · rfl
  · have read := readRun_append run breaks
    obtain ⟨point, digits, shape⟩ := exists_cons_of_ne_nil run.filled
    have nonzero : point ≠ 0x30 := by
      rintro rfl
      exact leading (by rw [shape]; rfl)
    rw [shape, cons_append] at read ⊢
    rw [readWhole, if_neg nonzero, read]

theorem readFraction_append {fraction : Option Text} (formed : ∀ digits, fraction = some digits → DigitRun digits)
    (stops : ∀ point ∈ rest.head?, point.isDigit = false ∧ point ≠ JsonSyntax.point) :
    readFraction (fractionText fraction ++ rest) = some (fraction, rest) := by
  cases fraction with
  | none =>
    rw [fractionText, nil_append]
    cases rest with
    | nil => rfl
    | cons point others => rw [readFraction, if_neg (stops point rfl).2]
  | some digits =>
    have dot : ascii "." = [JsonSyntax.point] := by decide
    have read := readRun_append (formed digits rfl) fun point head => (stops point head).1
    rw [fractionText, dot, append_assoc, singleton_append, readFraction, if_pos rfl]
    simp only [read, bind, Option.bind, pure]

theorem readExponent_append {exponent : Option (Bool × Text)}
    (formed : ∀ negative digits, exponent = some (negative, digits) → DigitRun digits) (separated : Separated rest) :
    readExponent (exponentText exponent ++ rest) = some (exponent, rest) := by
  cases exponent with
  | none =>
    rw [exponentText, nil_append]
    cases rest with
    | nil => rfl
    | cons point others =>
      rw [readExponent.eq_def]
      exact if_neg (not_or.mpr ⟨(separated point rfl).2.2.1, (separated point rfl).2.2.2⟩)
  | some parts =>
    obtain ⟨negative, digits⟩ := parts
    have letter : ascii "e" = [0x65] := by decide
    have signs : ascii "-" = [minus] ∧ ascii "+" = [plus] := by decide
    have read := readRun_append (formed negative digits rfl) fun point head => (separated point head).1
    have apart : plus ≠ minus := by decide
    rw [exponentText, letter, signs.1, signs.2]
    cases negative with
    | true =>
      simp only [if_true, cons_append, nil_append, readExponent, true_or, read, bind, Option.bind, pure]
    | false =>
      simp only [Bool.false_eq_true, if_false, cons_append, nil_append, readExponent, true_or, if_true,
        if_neg apart, read, bind, Option.bind, pure]

/-- What follows the whole part of a literal does not continue it. -/
theorem head_fraction {fraction : Option Text} {after : Text} (breaks : ∀ point ∈ after.head?, point.isDigit = false) :
    ∀ point ∈ (fractionText fraction ++ after).head?, point.isDigit = false := by
  cases fraction with
  | none => exact breaks
  | some digits =>
    rintro _ ⟨⟩
    decide

theorem head_exponent {exponent : Option (Bool × Text)} (separated : Separated rest) :
    ∀ point ∈ (exponentText exponent ++ rest).head?, point.isDigit = false ∧ point ≠ JsonSyntax.point := by
  cases exponent with
  | none => exact fun point head => ⟨(separated point head).1, (separated point head).2.1⟩
  | some parts =>
    rintro _ ⟨⟩
    decide

/-- The text of a literal is read as the literal. -/
theorem readNumber_text {literal : NumberLiteral} (formed : literal.WellFormed) (separated : Separated rest) :
    readNumber (literal.text ++ rest) = some (literal, rest) := by
  obtain ⟨negative, whole, fraction, exponent⟩ := literal
  have exponentRead := readExponent_append formed.exponent separated
  have after := @head_exponent rest exponent separated
  have fractionRead := readFraction_append formed.fraction after
  have wholeRead := readWhole_append formed.whole (@head_fraction fraction _ fun point head => (after point head).1)
  dsimp only at exponentRead fractionRead wholeRead
  have sign : ascii "-" = [minus] := by decide
  rw [text, sign, append_assoc, append_assoc, append_assoc]
  cases negative with
  | true =>
    simp only [if_true, singleton_append, readNumber, wholeRead, fractionRead, exponentRead, bind, Option.bind, pure]
  | false =>
    obtain ⟨point, digits, shape, digit⟩ := formed.head
    dsimp only at shape
    have unsigned : point ≠ minus := by
      rintro rfl
      exact absurd digit (by decide)
    rw [if_neg Bool.false_ne_true, nil_append]
    rw [shape, cons_append] at wholeRead ⊢
    simp only [readNumber, if_neg unsigned, wholeRead, fractionRead, exponentRead, bind, Option.bind, pure]

end Reading

namespace NumberLiteral

variable {literal : NumberLiteral}

/-- The text of a literal starts with its sign or a digit. -/
theorem text_head (formed : literal.WellFormed) :
    ∃ point rest, literal.text = point :: rest ∧ (point = JsonSyntax.minus ∨ point.isDigit = true) := by
  rw [text]
  cases literal.negative with
  | true => exact ⟨JsonSyntax.minus, _, rfl, .inl rfl⟩
  | false =>
    obtain ⟨point, digits, shape, digit⟩ := formed.head
    rw [shape]
    exact ⟨point, _, rfl, .inr digit⟩

/-- The characters of a literal are digits, signs, the point and the exponent letter. -/
theorem scalar_text (formed : literal.WellFormed) : literal.text.scalar = true := by
  have digits : ∀ {run : Text}, DigitRun run → run.scalar = true := by
    intro run formed
    rw [Text.scalar, all_eq_true]
    intro point member
    simp [isSurrogate_of_isDigit (formed.all point member)]
  have sign : ∀ negative : Bool, Text.scalar (if negative then ascii "-" else []) = true := by decide
  have exponentSign : ∀ negative : Bool, Text.scalar (if negative then ascii "-" else ascii "+") = true := by decide
  have whole : literal.whole.scalar = true := by
    rcases formed.whole with zero | ⟨run, _⟩
    · rw [zero]
      decide
    · exact digits run
  have fraction : (fractionText literal.fraction).scalar = true := by
    cases known : literal.fraction with
    | none => rfl
    | some run =>
      rw [fractionText, scalar_append]
      exact ⟨by decide, digits (formed.fraction run known)⟩
  have exponent : (exponentText literal.exponent).scalar = true := by
    cases known : literal.exponent with
    | none => rfl
    | some parts =>
      obtain ⟨negative, run⟩ := parts
      rw [exponentText, scalar_append, scalar_append]
      exact ⟨by decide, exponentSign negative, digits (formed.exponent negative run known)⟩
  rw [text, scalar_append, scalar_append, scalar_append]
  exact ⟨sign _, whole, fraction, exponent⟩

end NumberLiteral

end CiCoordinator.Library

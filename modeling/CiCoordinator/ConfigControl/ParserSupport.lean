import CiCoordinator.Kernel.JsonScanner
import CiCoordinator.Kernel.ScalarScan

/- The diagnostics and the bounds that the parsers of policy documents share. -/

namespace CiCoordinator.ConfigControl

open Library Kernel List

def maxDepth : Nat := 64

def maxNodes : Nat := 32768

/-- The parameters of a parse diagnostic. -/
inductive DiagnosticParameters where
  | none
  | position (format : Text) (line column : Nat)
  | bound (limit observed : Nat)
  deriving DecidableEq

/-- A diagnostic of the parsers; the phase and the rule of its code are data of the document profile. -/
structure PolicyDiagnostic where
  code : Text
  instancePointer : Text
  parameters : DiagnosticParameters
  deriving DecidableEq

/-- What the schema of policy documents says about places; it only chooses the pointers of diagnostics. -/
structure DocumentSchema where
  Cursor : Type
  documentSchema : Cursor
  schemaForKind : Cursor → JsonContainer → Cursor
  property : Cursor → Text → Option Cursor
  unknown : Cursor
  arrayItemSchema : Cursor → Cursor

/-- The place of a member; a member that the schema does not know keeps the place of its object. -/
def DocumentSchema.objectChildLocation (schema : DocumentSchema) (pointer : Text) (cursor : schema.Cursor) (key : Text) :
    Text × schema.Cursor :=
  match schema.property (schema.schemaForKind cursor .object) key with
  | none => (pointer, schema.unknown)
  | some child => (jsonPointerChild pointer key, child)

/-- The line and the column after a text, from those before it. -/
def advanceLine : Text → Nat → Nat → Nat × Nat
  | [], line, column => (line, column)
  | character :: rest, line, column =>
    if character = 0x0D then
      match rest with
      | [] => (line + 1, 1)
      | next :: others => if next = 0x0A then advanceLine others (line + 1) 1 else advanceLine (next :: others) (line + 1) 1
    else if character = 0x0A then advanceLine rest (line + 1) 1
    else advanceLine rest line (column + 1)

def lineColumn (text : Text) (offset : Nat) : Nat × Nat :=
  advanceLine (text.take offset) 1 1

/-- An integer is compared as text: first by its length and then digit by digit. -/
def integerTokenIsUnsafe (token : Text) : Bool :=
  let stripped := (unsigned token).dropWhile (· = 0x30)
  let digits := if stripped = [] then ascii "0" else stripped
  let limit := decimal maxSafeJsonInteger
  limit.length < digits.length || (digits.length = limit.length && limit < digits)

section Digits

variable {left right : Text}

/-- Texts of as many digits are ordered as their numbers. -/
theorem lt_iff_readDigits_lt (leftDigits : ∀ point ∈ left, point.isDigit = true)
    (rightDigits : ∀ point ∈ right, point.isDigit = true) (same : left.length = right.length) :
    left < right ↔ readDigits left < readDigits right :=
  lt_iff_positional_lt (fun first member second listed => digit_lt_digit (leftDigits first member) (rightDigits second listed))
    (fun point member => digit_lt (leftDigits point member)) (fun point member => digit_lt (rightDigits point member)) same

/-- An integer literal is unsafe where its magnitude is above the bound. -/
theorem integerTokenIsUnsafe_eq {negative : Bool} {whole : Text}
    (formed : whole = [0x30] ∨ (DigitRun whole ∧ whole.head? ≠ some 0x30)) :
    integerTokenIsUnsafe ((if negative then [JsonSyntax.minus] else []) ++ whole) =
      decide (maxSafeJsonInteger < readDigits whole) := by
  have start : ∃ point digits, whole = point :: digits ∧ point.isDigit = true := by
    rcases formed with rfl | ⟨run, _⟩
    · exact ⟨0x30, [], rfl, by decide⟩
    · obtain ⟨point, digits, shape⟩ := exists_cons_of_ne_nil run.filled
      exact ⟨point, digits, shape, run.all point (shape ▸ mem_cons_self)⟩
  obtain ⟨point, digits, shape, digit⟩ := start
  have stripped : unsigned ((if negative then [JsonSyntax.minus] else []) ++ whole) = whole := by
    rw [shape, unsigned_signed digit]
  rw [integerTokenIsUnsafe, stripped]
  rcases formed with rfl | ⟨run, leading⟩
  · decide
  · have nonzero : point ≠ 0x30 := by
      rintro rfl
      exact leading (by rw [shape]; rfl)
    have kept : whole.dropWhile (· = 0x30) = whole := by
      rw [shape, dropWhile_cons_of_neg (by simpa using nonzero)]
    have upper := readDigits_lt run.all
    have lower := @le_readDigits point digits digit nonzero
    have length := congrArg List.length shape
    rw [← shape] at lower
    rw [length_cons] at length
    have limitLength : (decimal maxSafeJsonInteger).length = 16 := by decide
    have compare := @lt_iff_readDigits_lt (decimal maxSafeJsonInteger) whole (fun _ member => decimal_isDigit member) run.all
    simp only [kept, if_neg run.filled, limitLength, ← Bool.decide_and, ← Bool.decide_or, decide_eq_decide]
    have short : maxSafeJsonInteger < 10 ^ 16 ∧ 10 ^ 15 ≤ maxSafeJsonInteger := by decide
    rcases Nat.lt_trichotomy whole.length 16 with less | same | more
    · have small := upper.trans_le (Nat.pow_le_pow_right (by decide) (by omega : whole.length ≤ 15))
      refine iff_of_false ?_ (by omega)
      rintro (long | ⟨same, _⟩) <;> omega
    · rw [same, compare same.symm]
      simp
    · have power : 10 ^ 16 ≤ 10 ^ digits.length := Nat.pow_le_pow_right (by decide) (by omega)
      omega

end Digits

end CiCoordinator.ConfigControl

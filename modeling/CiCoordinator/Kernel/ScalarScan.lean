import CiCoordinator.Library.JsonReading

/- The words and the parts of numbers that the preflights scan alike; a failure carries the text
that is left where the syntax fails. -/

namespace CiCoordinator.Kernel

open Library JsonSyntax JsonGrammar List Option

/-- The digits of a code unit escape. -/
def hexdigits : Text :=
  ascii "0123456789abcdefABCDEF"

/-- The letters of the two-character escapes. -/
def escapeLetters : Text :=
  ascii "\"\\/bfnrt"

/-- One of the three words at the front of a text. -/
def scanWord (text : Text) : Option Text :=
  [ascii "true", ascii "false", ascii "null"].findSome? fun token =>
    if token.isPrefixOf text then some (text.drop token.length) else none

/-- A nonempty run of digits. -/
def scanDigits (text : Text) : Except Text Text :=
  match text with
  | [] => .error []
  | first :: _ => if first.isDigit then .ok (text.dropWhile CodePoint.isDigit) else .error text

/-- The optional fraction of a number. -/
def scanFraction (text : Text) : Except Text Text :=
  match expect point text with
  | some rest => scanDigits rest
  | none => .ok text

/-- The text after an optional sign of an exponent. -/
def skipSign (text : Text) : Text :=
  match text with
  | [] => []
  | sign :: rest => if sign = plus ∨ sign = minus then rest else text

/-- The optional exponent of a number. -/
def scanExponent (text : Text) : Except Text Text :=
  match text with
  | [] => .ok []
  | letter :: rest => if letter = 0x65 ∨ letter = 0x45 then scanDigits (skipSign rest) else .ok text

/-- A number without its sign. -/
def unsigned (text : Text) : Text :=
  (expect minus text).getD text

section Escapes

theorem mem_hexdigits_iff {digit : CodePoint} : digit ∈ hexdigits ↔ ∃ value, hexDigit digit = some value := by
  have points : hexdigits = [0x30, 0x31, 0x32, 0x33, 0x34, 0x35, 0x36, 0x37, 0x38, 0x39, 0x61, 0x62, 0x63, 0x64, 0x65, 0x66,
    0x41, 0x42, 0x43, 0x44, 0x45, 0x46] := by decide
  rw [points, hexDigit]
  simp only [mem_cons, not_mem_nil, or_false, Fin.ext_iff]
  split_ifs <;> simp <;> omega

/-- Four hexadecimal digits are a code unit. -/
theorem exists_hexUnit_iff {a b c d : CodePoint} :
    (∃ unit, hexUnit a b c d = some unit) ↔ ¬ ∃ digit ∈ [a, b, c, d], digit ∉ hexdigits := by
  have digits : (¬ ∃ digit ∈ [a, b, c, d], digit ∉ hexdigits) ↔ ((∃ value, hexDigit a = some value) ∧
      (∃ value, hexDigit b = some value) ∧ (∃ value, hexDigit c = some value) ∧ ∃ value, hexDigit d = some value) := by
    simp [mem_hexdigits_iff]
  rw [digits, hexUnit]
  constructor
  · rintro ⟨unit, known⟩
    split at known
    · rename_i first second third fourth
      exact ⟨⟨_, first⟩, ⟨_, second⟩, ⟨_, third⟩, ⟨_, fourth⟩⟩
    · cases known
  · rintro ⟨⟨_, first⟩, ⟨_, second⟩, ⟨_, third⟩, ⟨_, fourth⟩⟩
    simp only [first, second, third, fourth]
    exact ⟨_, rfl⟩

theorem mem_escapeLetters_iff {letter : CodePoint} :
    letter ∈ escapeLetters ↔ ∃ character, shortEscape letter = some character := by
  have points : escapeLetters = [0x22, 0x5C, 0x2F, 0x62, 0x66, 0x6E, 0x72, 0x74] := by decide
  rw [points, shortEscape]
  split_ifs <;> simp_all [quote, backslash]

end Escapes

section Words

variable {lone : Prop} {text rest : Text}

/-- The trees of the three words. -/
def IsWord (tree : JsonSyntax) : Prop :=
  tree = .null ∨ tree = .bool true ∨ tree = .bool false

theorem scanWord_eq_some (found : scanWord text = some rest) : ∃ tree, Scalar lone tree text rest ∧ IsWord tree := by
  obtain ⟨token, member, found⟩ := exists_of_findSome?_eq_some found
  obtain ⟨start, result⟩ := ite_none_right_eq_some.mp found
  obtain ⟨others, rfl⟩ := isPrefixOf_iff_prefix.mp start
  rw [drop_left] at result
  cases result
  simp only [mem_cons, not_mem_nil, or_false] at member
  rcases member with rfl | rfl | rfl
  · exact ⟨.bool true, Scalar.yes, .inr (.inl rfl)⟩
  · exact ⟨.bool false, Scalar.no, .inr (.inr rfl)⟩
  · exact ⟨.null, Scalar.null, .inl rfl⟩

theorem scanWord_of_scalar {tree : JsonSyntax} (derived : Scalar lone tree text rest) (word : IsWord tree) :
    scanWord text = some rest := by
  have words : ascii "null" = [0x6E, 0x75, 0x6C, 0x6C] ∧ ascii "true" = [0x74, 0x72, 0x75, 0x65] ∧
      ascii "false" = [0x66, 0x61, 0x6C, 0x73, 0x65] := by decide
  cases derived with
  | null => simp [scanWord, words]
  | yes => simp [scanWord, words]
  | no => simp [scanWord, words]
  | number _ => rcases word with word | word | word <;> cases word
  | str _ => rcases word with word | word | word <;> cases word

/-- A number or a string does not start as a word does. -/
theorem scanWord_foreign {first : CodePoint} {others : Text} (foreign : first ≠ 0x6E ∧ first ≠ 0x74 ∧ first ≠ 0x66) :
    scanWord (first :: others) = none := by
  have words : ascii "null" = [0x6E, 0x75, 0x6C, 0x6C] ∧ ascii "true" = [0x74, 0x72, 0x75, 0x65] ∧
      ascii "false" = [0x66, 0x61, 0x6C, 0x73, 0x65] := by decide
  simp [scanWord, words, foreign.1.symm, foreign.2.1.symm, foreign.2.2.symm]

/-- A sign or a digit starts no word. -/
theorem scanWord_number {first : CodePoint} {others : Text} (start : first = minus ∨ first.isDigit = true) :
    scanWord (first :: others) = none := by
  apply scanWord_foreign
  rcases start with rfl | digit
  · decide
  · refine ⟨?_, ?_, ?_⟩ <;> rintro rfl <;> exact absurd digit (by decide)

end Words

section Numbers

variable {text rest : Text}

theorem scanDigits_eq_ok : scanDigits text = .ok rest ↔ ∃ digits, readRun text = some (digits, rest) := by
  cases text with
  | nil => simp [scanDigits, readRun]
  | cons first others =>
    rw [scanDigits, readRun, span_eq_takeWhile_dropWhile]
    by_cases digit : first.isDigit = true
    · simp [digit]
    · simp [digit]

theorem scanFraction_eq_ok : scanFraction text = .ok rest ↔ ∃ fraction, readFraction text = some (fraction, rest) := by
  cases text with
  | nil => simp [scanFraction, expect, readFraction, eq_comm]
  | cons first others =>
    rw [scanFraction, expect, readFraction]
    by_cases pointed : first = point
    · simp [pointed, scanDigits_eq_ok, bind_eq_some_iff]
    · simp [pointed, eq_comm]

theorem scanExponent_eq_ok : scanExponent text = .ok rest ↔ ∃ exponent, readExponent text = some (exponent, rest) := by
  have apart : plus ≠ minus := by decide
  cases text with
  | nil => simp [scanExponent, readExponent, eq_comm]
  | cons letter others =>
    rw [scanExponent, readExponent.eq_def]
    by_cases exponent : letter = 0x65 ∨ letter = 0x45
    · cases others with
      | nil => simp [exponent, skipSign, scanDigits_eq_ok, bind_eq_some_iff]
      | cons sign digits =>
        by_cases below : sign = minus
        · simp [exponent, skipSign, below, scanDigits_eq_ok, bind_eq_some_iff]
        · by_cases above : sign = plus
          · simp [exponent, skipSign, above, apart, scanDigits_eq_ok, bind_eq_some_iff]
          · simp [exponent, skipSign, above, below, scanDigits_eq_ok, bind_eq_some_iff]
    · simp [exponent, eq_comm]

/-- The digits from one to nine. -/
theorem mem_nonzero_iff {first : CodePoint} (nonzero : first ≠ 0x30) : first ∈ ascii "123456789" ↔ first.isDigit = true := by
  have digits : ascii "123456789" = [0x31, 0x32, 0x33, 0x34, 0x35, 0x36, 0x37, 0x38, 0x39] := by decide
  rw [Ne, Fin.ext_iff] at nonzero
  rw [digits]
  simp only [mem_cons, not_mem_nil, or_false, Fin.ext_iff, CodePoint.isDigit, Bool.and_eq_true, decide_eq_true_eq]
  have values : (0x30 : CodePoint).val = 48 ∧ (0x31 : CodePoint).val = 49 ∧ (0x32 : CodePoint).val = 50 ∧
      (0x33 : CodePoint).val = 51 ∧ (0x34 : CodePoint).val = 52 ∧ (0x35 : CodePoint).val = 53 ∧
      (0x36 : CodePoint).val = 54 ∧ (0x37 : CodePoint).val = 55 ∧ (0x38 : CodePoint).val = 56 ∧
      (0x39 : CodePoint).val = 57 := by decide
  omega

/-- A number without its sign starts with a digit. -/
theorem unsigned_signed {negative : Bool} {point : CodePoint} {digits : Text} (digit : point.isDigit = true) :
    unsigned ((if negative then [minus] else []) ++ (point :: digits)) = point :: digits := by
  have plain : point ≠ minus := by
    rintro rfl
    exact absurd digit (by decide)
  cases negative <;> simp [unsigned, expect, plain]

/-- A number is read part by part. -/
theorem readNumber_parts {literal : NumberLiteral} : readNumber text = some (literal, rest) ↔
    literal.negative = (expect minus text).isSome ∧ ∃ afterWhole afterFraction,
      readWhole (unsigned text) = some (literal.whole, afterWhole) ∧
        readFraction afterWhole = some (literal.fraction, afterFraction) ∧
          readExponent afterFraction = some (literal.exponent, rest) := by
  constructor
  · intro found
    rw [readNumber.eq_def] at found
    split at found
    rename_i negative remaining sign
    have stripped : negative = (expect minus text).isSome ∧ remaining = unsigned text := by
      cases text with
      | nil => exact ⟨(Prod.mk.inj sign).1.symm, (Prod.mk.inj sign).2.symm⟩
      | cons first others =>
        dsimp only at sign
        rw [unsigned, expect]
        split at sign
        · rename_i below
          rw [if_pos below]
          exact ⟨(Prod.mk.inj sign).1.symm, (Prod.mk.inj sign).2.symm⟩
        · rename_i below
          rw [if_neg below]
          exact ⟨(Prod.mk.inj sign).1.symm, (Prod.mk.inj sign).2.symm⟩
    obtain ⟨⟨whole, afterWhole⟩, wholeRead, found⟩ := bind_eq_some_iff.mp found
    obtain ⟨⟨fraction, afterFraction⟩, fractionRead, found⟩ := bind_eq_some_iff.mp found
    obtain ⟨⟨exponent, after⟩, exponentRead, result⟩ := bind_eq_some_iff.mp found
    cases result
    exact ⟨stripped.1, afterWhole, afterFraction, stripped.2 ▸ wholeRead, fractionRead, exponentRead⟩
  · rintro ⟨sign, afterWhole, afterFraction, wholeRead, fractionRead, exponentRead⟩
    obtain ⟨negative, whole, fraction, exponent⟩ := literal
    dsimp only at sign wholeRead fractionRead exponentRead
    cases text with
    | nil => cases wholeRead
    | cons first others =>
      rw [unsigned, expect] at wholeRead
      rw [expect] at sign
      by_cases below : first = minus
      · rw [if_pos below] at wholeRead sign
        rw [getD_some] at wholeRead
        simp only [readNumber, if_pos below, wholeRead, fractionRead, exponentRead, bind, Option.bind, pure, sign, isSome_some]
      · rw [if_neg below] at wholeRead sign
        rw [getD_none] at wholeRead
        simp only [readNumber, if_neg below, wholeRead, fractionRead, exponentRead, bind, Option.bind, pure, sign, isSome_none]

/-- The parts of a number are scanned as they are read. -/
theorem exists_readNumber_iff : (∃ literal, readNumber text = some (literal, rest)) ↔
    ∃ afterWhole afterFraction, (∃ whole, readWhole (unsigned text) = some (whole, afterWhole)) ∧
      scanFraction afterWhole = .ok afterFraction ∧ scanExponent afterFraction = .ok rest := by
  simp only [readNumber_parts, scanFraction_eq_ok, scanExponent_eq_ok]
  constructor
  · rintro ⟨literal, _, afterWhole, afterFraction, whole, fraction, exponent⟩
    exact ⟨afterWhole, afterFraction, ⟨_, whole⟩, ⟨_, fraction⟩, ⟨_, exponent⟩⟩
  · rintro ⟨afterWhole, afterFraction, ⟨whole, wholeRead⟩, ⟨fraction, fractionRead⟩, exponent, exponentRead⟩
    exact ⟨⟨_, whole, fraction, exponent⟩, rfl, afterWhole, afterFraction, wholeRead, fractionRead, exponentRead⟩

end Numbers

end CiCoordinator.Kernel

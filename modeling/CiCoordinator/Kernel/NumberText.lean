import CiCoordinator.Kernel.CanonicalJson
import CiCoordinator.Library.NumberLiteral
import CiCoordinator.Library.ShortestDecimal

/- The layout of numbers in canonical text and the proof that the writer keeps to it. -/

namespace CiCoordinator.Kernel

open Library Option

/-- The ECMAScript layout of digits around a decimal point. -/
def ecmaLiteral (negative : Bool) (digits : Text) (decimalPoint : Int) : NumberLiteral :=
  if digits.length ≤ decimalPoint ∧ decimalPoint ≤ 21 then
    ⟨negative, digits ++ List.replicate (decimalPoint.toNat - digits.length) 0x30, none, none⟩
  else if 0 < decimalPoint ∧ decimalPoint ≤ 21 then
    ⟨negative, digits.take decimalPoint.toNat, some (digits.drop decimalPoint.toNat), none⟩
  else if -6 < decimalPoint ∧ decimalPoint ≤ 0 then
    ⟨negative, ascii "0", some (List.replicate (-decimalPoint).toNat 0x30 ++ digits), none⟩
  else
    ⟨negative, digits.take 1, if digits.length ≤ 1 then none else some (digits.drop 1),
      some (decide (decimalPoint - 1 < 0), decimal (decimalPoint - 1).natAbs)⟩

/-- The rational number that a literal denotes. -/
def literalValue (literal : NumberLiteral) : ℚ :=
  (if literal.negative then -1 else 1) * literal.digits * 10 ^ literal.power

/-- The literal of a number has its shortest digits; both zeros have the same one. -/
def numberLiteral (number : FiniteFloat) : NumberLiteral :=
  if number.significand = 0 then ⟨false, ascii "0", none, none⟩
  else
    let digits := decimal number.shortestDecimal.1
    ecmaLiteral number.negative digits (digits.length + number.shortestDecimal.2)

section Splitting

theorem splitOnce_none {separator : CodePoint} {text : Text} (absent : separator ∉ text) : splitOnce separator text = none := by
  have whole : text.span (· ≠ separator) = (text, []) := by
    rw [List.span_eq_takeWhile_dropWhile]
    have all : ∀ point ∈ text, decide (point ≠ separator) = true := fun point member =>
      decide_eq_true fun same => absent (same ▸ member)
    rw [List.takeWhile_eq_self_iff.mpr all, List.dropWhile_eq_nil_iff.mpr all]
  rw [splitOnce, whole]

theorem splitOnce_append {separator : CodePoint} {before after : Text} (absent : separator ∉ before) :
    splitOnce separator (before ++ separator :: after) = some (before, after) := by
  have all : ∀ point ∈ before, decide (point ≠ separator) = true := fun point member =>
    decide_eq_true fun same => absent (same ▸ member)
  have parts : (before ++ separator :: after).span (· ≠ separator) = (before, separator :: after) := by
    rw [List.span_eq_takeWhile_dropWhile, List.takeWhile_append_of_pos all, List.dropWhile_append_of_pos all]
    simp
  rw [splitOnce, parts]

theorem stripRight_of_last {character : CodePoint} {text : Text} (kept : text.getLast? ≠ some character) :
    stripRight character text = text := by
  rw [stripRight]
  rcases List.eq_nil_or_concat text with rfl | ⟨before, last, rfl⟩
  · rfl
  · have other : last ≠ character := by
      rintro rfl
      exact kept (by simp)
    rw [List.concat_eq_append, List.reverse_append, List.reverse_singleton, List.singleton_append,
      List.dropWhile_cons_of_neg (by simpa using other)]
    simp

theorem stripIntegerFloat_of_last {text : Text} (kept : text.getLast? ≠ some 0x30) : stripIntegerFloat text = text := by
  have other : (ascii ".0").isSuffixOf text = false := by
    rw [Bool.eq_false_iff]
    intro ends
    obtain ⟨before, rfl⟩ := List.isSuffixOf_iff_suffix.mp ends
    refine kept ?_
    have zero : (ascii ".0").getLast? = some 0x30 := by decide
    rw [List.getLast?_append, zero, some_or]
  rw [stripIntegerFloat, other, if_neg Bool.false_ne_true]

theorem stripIntegerFloat_append (text : Text) : stripIntegerFloat (text ++ ascii ".0") = text := by
  have length : (ascii ".0").length = 2 := by decide
  rw [stripIntegerFloat, if_pos (List.isSuffixOf_iff_suffix.mpr (List.suffix_append text _)), List.length_append, length,
    Nat.add_sub_cancel, List.take_left]

end Splitting

/-- Digits that write no zero at either end. -/
structure ShortDigits (digits : Text) : Prop extends DigitRun digits where
  leading : digits.head? ≠ some 0x30
  ending : digits.getLast? ≠ some 0x30

namespace ShortDigits

variable {digits : Text}

theorem absent (short : ShortDigits digits) {point : CodePoint} (foreign : point.isDigit = false) : point ∉ digits := by
  intro member
  have digit := short.all point member
  rw [foreign] at digit
  cases digit

/-- The digits of the shortest decimal. -/
theorem ofNumber {number : FiniteFloat} (nonzero : number.significand ≠ 0) : ShortDigits (decimal number.shortestDecimal.1) where
  toDigitRun := digitRun_decimal _
  leading := by
    intro zero
    have alone := @decimal_leading number.shortestDecimal.1 zero
    have value := readDigits_decimal number.shortestDecimal.1
    have none : readDigits [digitPoint 0] = 0 := by decide
    rw [alone, none] at value
    exact FiniteFloat.shortestDecimal_ending nonzero (by rw [← value])
  ending := by
    intro zero
    obtain ⟨before, shape⟩ := List.getLast?_eq_some_iff.mp zero
    have value := readDigits_decimal number.shortestDecimal.1
    rw [shape, readDigits_append] at value
    have last : readDigits [(0x30 : CodePoint)] = 0 := by decide
    rw [last, List.length_singleton, pow_one, Nat.add_zero] at value
    exact FiniteFloat.shortestDecimal_ending nonzero (by rw [← value, Nat.mul_mod_left])

/-- The exponent that the host writes after a mantissa with one digit before its point. -/
theorem readExponentText_host (exponent : Int) : readExponentText ((if exponent < 0 then ascii "-" else ascii "+") ++
      (if (decimal exponent.natAbs).length < 2 then ascii "0" ++ decimal exponent.natAbs
        else decimal exponent.natAbs)) = exponent := by
  have minus : ascii "-" = [0x2D] := by decide
  have plus : ascii "+" = [0x2B] := by decide
  have value : readDigits (if (decimal exponent.natAbs).length < 2 then ascii "0" ++ decimal exponent.natAbs
      else decimal exponent.natAbs) = exponent.natAbs := by
    split
    · rw [readDigits_append, readDigits_decimal]
      have zero : readDigits (ascii "0") = 0 := by decide
      rw [zero, Nat.zero_mul, Nat.zero_add]
    · exact readDigits_decimal _
  split
  · rw [minus, List.singleton_append, readExponentText, if_pos rfl, value]
    omega
  · rw [plus, List.singleton_append, readExponentText, if_neg (by decide), if_pos rfl, value]
    omega

section

variable (short : ShortDigits digits)
include short

/-- The mantissa of the host has its digits back. -/
theorem decimalParts_mantissa (exponent : Int) :
    decimalParts (digits.take 1 ++ if digits.length ≤ 1 then [] else ascii "." ++ digits.drop 1) exponent =
      (digits, 1 + exponent) := by
  have dot : ascii "." = [0x2E] := by decide
  have foreign : (0x2E : CodePoint) ∉ digits.take 1 := fun member =>
    short.absent (by decide) (List.mem_of_mem_take member)
  have first : (digits.take 1).length = 1 := by
    rw [List.length_take]
    have := List.length_pos_iff.mpr short.filled
    omega
  split
  · rename_i single
    rw [List.append_nil, decimalParts, splitOnce_none foreign]
    have all : digits.take 1 = digits := List.take_of_length_le single
    rw [all] at first ⊢
    rw [first]
    rfl
  · rw [dot, List.singleton_append, decimalParts, splitOnce_append foreign]
    simp only [first, List.take_append_drop]
    rfl

theorem getLast?_drop {count : Nat} (inside : count < digits.length) : (digits.drop count).getLast? ≠ some 0x30 := by
  have filled : digits.drop count ≠ [] := by
    rw [ne_eq, List.drop_eq_nil_iff]
    omega
  have whole := short.ending
  rw [← List.take_append_drop count digits, List.getLast?_append, List.getLast?_eq_some_getLast filled, some_or,
    ← List.getLast?_eq_some_getLast filled] at whole
  exact whole

end

end ShortDigits

section Layout

variable {digits : Text}

/-- The writer's text for what the host prints, without the sign. -/
def ecmaText (sign text : Text) : Text :=
  match splitOnce 0x65 text with
  | none => sign ++ stripIntegerFloat text
  | some (mantissa, exponentText) =>
    let exponent := readExponentText exponentText
    let parts := decimalParts mantissa exponent
    if -6 ≤ exponent ∧ exponent < 21 then sign ++ fixedDecimal parts.1 parts.2
    else
      let rest := stripRight 0x30 (parts.1.drop 1)
      let exponentSuffix := if 0 ≤ exponent then ascii "+" ++ decimalInt exponent else decimalInt exponent
      if rest = [] then sign ++ parts.1.take 1 ++ ascii "e" ++ exponentSuffix
      else sign ++ parts.1.take 1 ++ ascii "." ++ rest ++ ascii "e" ++ exponentSuffix

theorem ecmascriptNumberText_eq (number : FiniteFloat) :
    ecmascriptNumberText number = ecmaText (if number.negative then ascii "-" else []) (reprFloat number) := by
  unfold ecmascriptNumberText
  generalize reprFloat number = text
  rfl

/-- A text that the host prints without an exponent. -/
theorem ecmaText_plain {sign text : Text} (plain : (0x65 : CodePoint) ∉ text) :
    ecmaText sign text = sign ++ stripIntegerFloat text := by
  rw [ecmaText, splitOnce_none plain]

theorem not_mem_zeros {point : CodePoint} {count : Nat} (other : point ≠ 0x30) :
    point ∉ List.replicate count (0x30 : CodePoint) := fun member => other (List.eq_of_mem_replicate member)

/-- Digits around a decimal point that is written out. -/
def fixedText (digits : Text) (decimalPoint : Int) : Text :=
  if decimalPoint ≤ 0 then ascii "0." ++ List.replicate (-decimalPoint).toNat 0x30 ++ digits
  else if digits.length ≤ decimalPoint then digits ++ List.replicate (decimalPoint.toNat - digits.length) 0x30
  else digits.take decimalPoint.toNat ++ ascii "." ++ digits.drop decimalPoint.toNat

section

variable (short : ShortDigits digits)
include short

theorem ShortDigits.fixedText_foreign {decimalPoint : Int} {point : CodePoint}
    (foreign : point.isDigit = false) (dot : point ∉ ascii "0." ∧ point ∉ ascii ".") : point ∉ fixedText digits decimalPoint := by
  have zeros (count : Nat) : point ∉ List.replicate count (0x30 : CodePoint) := by
    refine not_mem_zeros ?_
    rintro rfl
    cases foreign
  have absent := short.absent foreign
  rw [fixedText]
  split_ifs <;> simp only [List.mem_append, not_or]
  · exact ⟨⟨dot.1, zeros _⟩, absent⟩
  · exact ⟨absent, zeros _⟩
  · exact ⟨⟨fun member => absent (List.mem_of_mem_take member), dot.2⟩, fun member => absent (List.mem_of_mem_drop member)⟩

/-- A decimal point within the digits or before them is followed by a digit that is not zero. -/
theorem ShortDigits.fixedText_last {decimalPoint : Int} (fraction : decimalPoint < digits.length) :
    ∃ before last, fixedText digits decimalPoint = before ++ last ∧ last ≠ [] ∧ last ⊆ digits ∧ last.getLast? ≠ some 0x30 := by
  rw [fixedText]
  split_ifs with small
  · exact ⟨_, digits, rfl, short.filled, List.Subset.refl _, short.ending⟩
  · omega
  · refine ⟨_, digits.drop decimalPoint.toNat, rfl, ?_, List.drop_subset _ _, short.getLast?_drop (by omega)⟩
    rw [ne_eq, List.drop_eq_nil_iff]
    omega

/-- A magnitude that the host prints without an exponent. -/
theorem ecmaText_fixed {sign : Text} {decimalPoint : Int} (near : -4 < decimalPoint)
    (low : decimalPoint ≤ 16) : ecmaText sign (reprMagnitude digits decimalPoint) = sign ++ fixedText digits decimalPoint := by
  have plain : (0x65 : CodePoint) ∉ fixedText digits decimalPoint := short.fixedText_foreign (by decide) ⟨by decide, by decide⟩
  by_cases whole : digits.length ≤ decimalPoint
  · have written := List.length_pos_iff.mpr short.filled
    have text : reprMagnitude digits decimalPoint = fixedText digits decimalPoint ++ ascii ".0" := by
      rw [reprMagnitude, if_pos ⟨near, low⟩, if_neg (by omega), if_pos (by omega), fixedText, if_neg (by omega), if_pos whole]
    have letters : (0x65 : CodePoint) ∉ ascii ".0" := by decide
    rw [text, ecmaText_plain (by rw [List.mem_append, not_or]; exact ⟨plain, letters⟩), stripIntegerFloat_append]
  · have text : reprMagnitude digits decimalPoint = fixedText digits decimalPoint := by
      rw [reprMagnitude, if_pos ⟨near, low⟩, fixedText]
      by_cases small : decimalPoint ≤ 0
      · rw [if_pos small, if_pos small]
      · rw [if_neg small, if_neg small, if_neg (by omega), if_neg whole]
    obtain ⟨before, last, shape, filled, -, ending⟩ := short.fixedText_last (not_le.mp whole)
    rw [text, ecmaText_plain plain, stripIntegerFloat_of_last]
    rw [shape, List.getLast?_append, List.getLast?_eq_some_getLast filled, some_or, ← List.getLast?_eq_some_getLast filled]
    exact ending

/-- The digits lose no zero when they are laid out again. -/
theorem ShortDigits.fixedDecimal_eq (decimalPoint : Int) : fixedDecimal digits decimalPoint = fixedText digits decimalPoint := by
  have zeros : decimalPoint ≤ 0 → decimalPoint.natAbs = (-decimalPoint).toNat := by omega
  have same : fixedDecimal digits decimalPoint = if (0x2E : CodePoint) ∈ fixedText digits decimalPoint then
      stripRight 0x2E (stripRight 0x30 (fixedText digits decimalPoint)) else fixedText digits decimalPoint := by
    rw [fixedDecimal, fixedText]
    split_ifs <;> simp_all [Int.toNat_sub']
  rw [same]
  split
  · rename_i dotted
    have fraction : decimalPoint < digits.length := by
      by_contra whole
      rw [fixedText, if_neg (by have := List.length_pos_iff.mpr short.filled; omega), if_pos (by omega),
        List.mem_append] at dotted
      rcases dotted with digit | zero
      · exact short.absent (by decide) digit
      · exact not_mem_zeros (by decide) zero
    obtain ⟨before, last, shape, filled, inside, ending⟩ := short.fixedText_last fraction
    have last? : (fixedText digits decimalPoint).getLast? = last.getLast? := by
      rw [shape, List.getLast?_append, List.getLast?_eq_some_getLast filled, some_or]
    have kept : stripRight 0x30 (fixedText digits decimalPoint) = fixedText digits decimalPoint :=
      stripRight_of_last (by rw [last?]; exact ending)
    rw [kept, stripRight_of_last]
    rw [last?]
    exact fun dot => short.absent (by decide) (inside (List.mem_of_getLast? dot))
  · rfl

/-- What the host prints with an exponent is laid out again from its digits. -/
theorem ecmaText_exponent {sign : Text} {decimalPoint : Int} (far : decimalPoint ≤ -4 ∨ 16 < decimalPoint) :
    ecmaText sign (reprMagnitude digits decimalPoint) =
      if -6 < decimalPoint ∧ decimalPoint ≤ 21 then sign ++ fixedText digits decimalPoint
      else sign ++ digits.take 1 ++ (if digits.length ≤ 1 then [] else ascii "." ++ digits.drop 1) ++ ascii "e" ++
        ((if decimalPoint - 1 < 0 then ascii "-" else ascii "+") ++ decimal (decimalPoint - 1).natAbs) := by
  have letter : ascii "e" = [0x65] := by decide
  have mantissa : (0x65 : CodePoint) ∉ digits.take 1 ++ if digits.length ≤ 1 then [] else ascii "." ++ digits.drop 1 := by
    have letters : (0x65 : CodePoint) ∉ ascii "." := by decide
    rw [List.mem_append, not_or]
    refine ⟨fun member => short.absent (by decide) (List.mem_of_mem_take member), ?_⟩
    split
    · exact List.not_mem_nil
    · rw [List.mem_append, not_or]
      exact ⟨letters, fun member => short.absent (by decide) (List.mem_of_mem_drop member)⟩
  have text : reprMagnitude digits decimalPoint =
      (digits.take 1 ++ if digits.length ≤ 1 then [] else ascii "." ++ digits.drop 1) ++
        0x65 :: ((if decimalPoint - 1 < 0 then ascii "-" else ascii "+") ++ if (decimal (decimalPoint - 1).natAbs).length < 2 then
            ascii "0" ++ decimal (decimalPoint - 1).natAbs else decimal (decimalPoint - 1).natAbs) := by
    rw [reprMagnitude, if_neg (by omega)]
    dsimp only
    rw [letter]
    simp only [List.append_assoc, List.cons_append, List.nil_append]
  have point : 1 + (decimalPoint - 1) = decimalPoint := by omega
  rw [text, ecmaText, splitOnce_append mantissa]
  dsimp only
  rw [ShortDigits.readExponentText_host, short.decimalParts_mantissa, point]
  refine if_congr (by omega) (by rw [short.fixedDecimal_eq]) ?_
  have suffix : (if 0 ≤ decimalPoint - 1 then ascii "+" ++ decimalInt (decimalPoint - 1) else decimalInt (decimalPoint - 1)) =
      (if decimalPoint - 1 < 0 then ascii "-" else ascii "+") ++ decimal (decimalPoint - 1).natAbs := by
    rw [decimalInt]
    by_cases negative : decimalPoint - 1 < 0
    · rw [if_neg (not_le.mpr negative), if_pos negative, if_pos negative]
    · rw [if_pos (not_lt.mp negative), if_neg negative, if_neg negative]
  rw [suffix]
  by_cases single : digits.length ≤ 1
  · have none : digits.drop 1 = [] := List.drop_eq_nil_iff.mpr single
    have stripped : stripRight 0x30 ([] : Text) = [] := rfl
    rw [none, stripped, if_pos rfl, if_pos single, List.append_nil]
  · have filled : digits.drop 1 ≠ [] := by
      rw [ne_eq, List.drop_eq_nil_iff]
      omega
    rw [stripRight_of_last (short.getLast?_drop (by omega)), if_neg filled, if_neg single]
    simp only [List.append_assoc]

/-- The writer lays the digits of a number out as ECMAScript does. -/
theorem ecmaText_layout (negative : Bool) (decimalPoint : Int) :
    ecmaText (if negative then ascii "-" else []) (reprMagnitude digits decimalPoint) =
      (ecmaLiteral negative digits decimalPoint).text := by
  have written := List.length_pos_iff.mpr short.filled
  have point : ascii "0." = ascii "0" ++ ascii "." := by decide
  have text : ecmaText (if negative then ascii "-" else []) (reprMagnitude digits decimalPoint) =
      if -6 < decimalPoint ∧ decimalPoint ≤ 21 then (if negative then ascii "-" else []) ++ fixedText digits decimalPoint
      else (if negative then ascii "-" else []) ++ digits.take 1 ++
        (if digits.length ≤ 1 then [] else ascii "." ++ digits.drop 1) ++ ascii "e" ++
        ((if decimalPoint - 1 < 0 then ascii "-" else ascii "+") ++ decimal (decimalPoint - 1).natAbs) := by
    by_cases host : -4 < decimalPoint ∧ decimalPoint ≤ 16
    · rw [ecmaText_fixed short host.1 host.2, if_pos (show -6 < decimalPoint ∧ decimalPoint ≤ 21 by omega)]
    · exact ecmaText_exponent short (by omega)
  rw [text, ecmaLiteral, NumberLiteral.text, fixedText]
  split_ifs <;> first
    | omega
    | simp_all [NumberLiteral.fractionText, NumberLiteral.exponentText]

end

/-- The canonical text of a number is the text of its literal. -/
theorem ecmascriptNumberText_literal {number : FiniteFloat} (nonzero : number.significand ≠ 0) :
    ecmascriptNumberText number = (numberLiteral number).text := by
  rw [ecmascriptNumberText_eq, numberLiteral, if_neg nonzero, reprFloat]
  exact ecmaText_layout (ShortDigits.ofNumber nonzero) _ _

end Layout

section Numbers

variable {digits : Text} {negative : Bool} {decimalPoint : Int}

theorem head?_take {count : Nat} (some : 0 < count) : (digits.take count).head? = digits.head? := by
  obtain ⟨less, rfl⟩ := Nat.exists_eq_succ_of_ne_zero some.ne'
  cases digits <;> rfl

/-- The layout is a literal that the grammar derives. -/
theorem ecmaLiteral_wellFormed (short : ShortDigits digits) : (ecmaLiteral negative digits decimalPoint).WellFormed := by
  have written := List.length_pos_iff.mpr short.filled
  unfold ecmaLiteral
  split
  · refine ⟨.inr ⟨short.append_zeros _, ?_⟩, ?_, ?_⟩
    · rw [List.head?_append_of_ne_nil _ short.filled]
      exact short.leading
    · rintro _ ⟨⟩
    · rintro _ _ ⟨⟩
  · split
    · refine ⟨.inr ⟨short.take (by omega), ?_⟩, ?_, ?_⟩
      · rw [head?_take (by omega)]
        exact short.leading
      · rintro _ ⟨⟩
        exact short.drop (by omega)
      · rintro _ _ ⟨⟩
    · split
      · have zero : ascii "0" = [0x30] := by decide
        refine ⟨.inl zero, ?_, ?_⟩
        · rintro _ ⟨⟩
          exact short.zeros_append _
        · rintro _ _ ⟨⟩
      · refine ⟨.inr ⟨short.take Nat.one_pos, ?_⟩, ?_, ?_⟩
        · rw [head?_take Nat.one_pos]
          exact short.leading
        · intro fraction known
          split at known
          · cases known
          · cases known
            exact short.drop (by omega)
        · rintro _ _ ⟨⟩
          exact digitRun_decimal _

theorem readDigits_zeros (count : Nat) : readDigits (List.replicate count (0x30 : CodePoint)) = 0 := by
  induction count with
  | zero => rfl
  | succ count ih =>
    have zero : CodePoint.digit 0x30 = 0 := by decide
    rw [List.replicate_succ, readDigits_cons, ih, zero, Nat.zero_mul]

theorem readDigits_append_zeros (count : Nat) :
    readDigits (digits ++ List.replicate count 0x30) = readDigits digits * 10 ^ count := by
  rw [readDigits_append, readDigits_zeros, List.length_replicate, Nat.add_zero]

/-- The layout of a whole number has neither a fraction nor an exponent. -/
theorem ecmaLiteral_whole (whole : digits.length ≤ decimalPoint) (low : decimalPoint ≤ 21) :
    ecmaLiteral negative digits decimalPoint =
      ⟨negative, digits ++ List.replicate (decimalPoint.toNat - digits.length) 0x30, none, none⟩ :=
  if_pos ⟨whole, low⟩

/-- The layout of another number keeps its digits and their power of ten. -/
theorem ecmaLiteral_fraction (short : ShortDigits digits) (mixed : ¬ (digits.length ≤ decimalPoint ∧ decimalPoint ≤ 21)) :
    (ecmaLiteral negative digits decimalPoint).negative = negative ∧
      (ecmaLiteral negative digits decimalPoint).digits = readDigits digits ∧
      (ecmaLiteral negative digits decimalPoint).power = decimalPoint - digits.length ∧
      ((ecmaLiteral negative digits decimalPoint).fraction.isSome ∨ (ecmaLiteral negative digits decimalPoint).exponent.isSome) := by
  have written := List.length_pos_iff.mpr short.filled
  unfold ecmaLiteral
  rw [if_neg mixed]
  split
  · refine ⟨rfl, ?_, ?_, .inl rfl⟩
    · rw [NumberLiteral.digits, getD_some, List.take_append_drop]
    · simp only [NumberLiteral.power, getD_some, List.length_drop]
      omega
  · split
    · refine ⟨rfl, ?_, ?_, .inl rfl⟩
      · have zero : readDigits (ascii "0") = 0 := by decide
        rw [NumberLiteral.digits, getD_some, readDigits_append, readDigits_append, readDigits_zeros, zero]
        omega
      · simp only [NumberLiteral.power, getD_some, List.length_append, List.length_replicate]
        omega
    · refine ⟨rfl, ?_, ?_, .inr rfl⟩
      · rw [NumberLiteral.digits]
        split
        · rename_i single
          rw [getD_none, List.append_nil, List.take_of_length_le single]
        · rw [getD_some, List.take_append_drop]
      · have fraction : ((if digits.length ≤ 1 then none else some (digits.drop 1)).getD []).length = digits.length - 1 := by
          split
          · rw [getD_none, List.length_nil]
            omega
          · rw [getD_some, List.length_drop]
        simp only [NumberLiteral.power, fraction, readDigits_decimal, decide_eq_true_eq]
        split <;> omega

/-- The layout denotes the digits at their power of ten. -/
theorem ecmaLiteral_value (short : ShortDigits digits) : literalValue (ecmaLiteral negative digits decimalPoint) =
      (if negative then -1 else 1) * readDigits digits * (10 : ℚ) ^ (decimalPoint - digits.length) := by
  by_cases whole : digits.length ≤ decimalPoint ∧ decimalPoint ≤ 21
  · obtain ⟨count, rfl⟩ := Int.le.dest whole.1
    have zeros : ((digits.length : Int) + count).toNat - digits.length = count := by omega
    rw [ecmaLiteral_whole whole.1 whole.2, zeros]
    simp [literalValue, NumberLiteral.digits, NumberLiteral.power, readDigits_append_zeros]
  · obtain ⟨sign, value, power, -⟩ := @ecmaLiteral_fraction _ negative _ short whole
    rw [literalValue, sign, value, power]

/-- The text of a number is the ECMAScript layout of its shortest digits, and reads as the number that they denote. -/
theorem ecmascript_number_layout (number : FiniteFloat) (nonzero : number.significand ≠ 0) :
    let digits := decimal number.shortestDecimal.1
    let literal := ecmaLiteral number.negative digits (digits.length + number.shortestDecimal.2)
    Float64.roundDecimal number.negative number.shortestDecimal.1 number.shortestDecimal.2 = .finite number ∧
      ecmascriptNumberText number = literal.text ∧
      JsonSyntax.readNumber (ecmascriptNumberText number) = some (literal, []) ∧
      literalValue literal =
        (if number.negative then -1 else 1) * number.shortestDecimal.1 * (10 : ℚ) ^ number.shortestDecimal.2 := by
  intro digits literal
  have short : ShortDigits digits := ShortDigits.ofNumber nonzero
  have text : ecmascriptNumberText number = literal.text := by
    rw [ecmascriptNumberText_literal nonzero, numberLiteral, if_neg nonzero]
  have reading := @readNumber_text [] literal (ecmaLiteral_wellFormed short) (by rintro _ ⟨⟩)
  rw [List.append_nil, ← text] at reading
  refine ⟨FiniteFloat.shortestDecimal_readsBack, text, reading, ?_⟩
  rw [ecmaLiteral_value short, readDigits_decimal, add_sub_cancel_left]

theorem largeNumber_normal : NormalSignificand (2 ^ 52) 20 := by
  decide

/-- A number whose text has an exponent. -/
def largeNumber : FiniteFloat :=
  ⟨false, 2 ^ 52, 20, largeNumber_normal⟩

theorem ecmascript_number_layout_large :
    ∃ literal, ecmascriptNumberText largeNumber = NumberLiteral.text literal ∧
      JsonSyntax.readNumber (ecmascriptNumberText largeNumber) = some (literal, []) :=
  ⟨_, (ecmascript_number_layout largeNumber (by decide)).2.1, (ecmascript_number_layout largeNumber (by decide)).2.2.1⟩

end Numbers

end CiCoordinator.Kernel

import CiCoordinator.Kernel.HostNumbers

/- The integer tokens of YAML documents: their check, their bound and the integers they denote. -/

namespace CiCoordinator.ConfigControl.YamlDocument

open Library Kernel JsonSyntax List

theorem letter_lt (value : Nat) : 87 + value % 16 < 0x110000 := by
  omega

def digitCharacter (value : Nat) : CodePoint :=
  if value < 10 then digitPoint value else ⟨87 + value % 16, letter_lt value⟩

/-- The digits of a number as the host formats it. -/
def formatInteger (base : IntegerBase) (number : Nat) : Text :=
  (Nat.digits base.radix number).reverse.map digitCharacter

def withoutSeparators (token : Text) : Text :=
  token.filter (· ≠ 0x5F)

def integerParts (token : Text) : Int × IntegerBase × Text :=
  let magnitude := withoutSeparators token
  (if [minus].isPrefixOf magnitude then -1 else 1,
    baseOf (removeStart [minus] (removeStart [plus] magnitude)))

def integerTokenIsValid (token : Text) : Bool :=
  let (_, base, magnitude) := integerParts token
  magnitude ≠ [] && magnitude.all base.allows

/-- The digits without their leading zeros. -/
def significant (magnitude : Text) : Text :=
  if magnitude.dropWhile (· = 0x30) = [] then ascii "0" else magnitude.dropWhile (· = 0x30)

def integerTokenIsUnsafe (token : Text) : Bool :=
  let (_, base, magnitude) := integerParts token
  let digits := (significant magnitude).lower
  let limit := formatInteger base maxSafeJsonInteger
  limit.length < digits.length || (digits.length = limit.length && limit < digits)

def constructPolicyInteger (token : Text) : Except IntegerRefusal Int := do
  let (sign, base, magnitude) := integerParts token
  let number ← hostInteger (some base) (significant magnitude)
  return sign * number

/-- The digits that a text writes in a base, behind at most one sign. -/
structure Denotes (text : Text) (negative : Bool) (base : IntegerBase) (digits : Text) : Prop where
  filled : digits ≠ []
  inside : ∀ point ∈ digits, base.allows point = true
  text : ∃ sign ∈ (if negative then [[minus]] else [[], [plus]]), ∃ start ∈ base.starts, text = sign ++ (start ++ digits)

theorem baseOf_starts {base : IntegerBase} {start digits : Text} (member : start ∈ base.starts)
    (inside : ∀ point ∈ digits, base.allows point = true) : baseOf (start ++ digits) = (base, digits) := by
  cases base with
  | decimal =>
    have foreign : ∀ other : IntegerBase, other ≠ .decimal →
        (other.starts.all fun start => start.any fun point => !IntegerBase.decimal.allows point) = true := by
      intro other chosen
      cases other <;> first
        | exact absurd rfl chosen
        | rfl
    have apart : ∀ other : IntegerBase, other ≠ .decimal → other.starts.any (·.isPrefixOf digits) = false := by
      intro other chosen
      rw [any_eq_false]
      intro start listed begins
      obtain ⟨point, known, outside⟩ := any_eq_true.mp (all_eq_true.mp (foreign other chosen) start listed)
      rw [inside point ((List.isPrefixOf_iff_prefix.mp begins).subset known)] at outside
      cases outside
    rw [IntegerBase.starts, mem_singleton] at member
    simp [member, baseOf, apart]
  | _ =>
    simp only [IntegerBase.starts, mem_cons, not_mem_nil, or_false] at member
    rcases member with rfl | rfl <;> rfl

theorem exists_start (text : Text) : ∃ start ∈ (baseOf text).1.starts, text = start ++ (baseOf text).2 := by
  have chosen (base : IntegerBase) (short : ∀ start ∈ base.starts, start.length = 2)
      (found : base.starts.any (·.isPrefixOf text) = true) : ∃ start ∈ base.starts, text = start ++ text.drop 2 := by
    obtain ⟨start, listed, begins⟩ := any_eq_true.mp found
    obtain ⟨rest, rfl⟩ := isPrefixOf_iff_prefix.mp begins
    exact ⟨start, listed, by rw [← short start listed, drop_left]⟩
  unfold baseOf
  split
  · exact chosen .binary (by decide) ‹_›
  · split
    · exact chosen .octal (by decide) ‹_›
    · split
      · exact chosen .hexadecimal (by decide) ‹_›
      · exact ⟨[], mem_singleton_self _, rfl⟩

theorem removeStart_append (start text : Text) : removeStart start (start ++ text) = text := by
  rw [removeStart, if_pos (List.isPrefixOf_iff_prefix.mpr (prefix_append _ _)), drop_left]

theorem removeStart_of_foreign {start text : Text} (foreign : start.isPrefixOf text = false) : removeStart start text = text :=
  if_neg (Bool.eq_false_iff.mp foreign)

section Token

variable {token digits : Text} {negative : Bool} {base : IntegerBase}

theorem integerParts_of_denotes (denotes : Denotes (withoutSeparators token) negative base digits) :
    integerParts token = (if negative then -1 else 1, base, digits) := by
  obtain ⟨sign, signed, start, member, text⟩ := denotes.text
  have foreign {mark : CodePoint} (before : (base.starts.all fun start => start.all (· ≠ mark)) = true)
      (after : base.allows mark = false) : [mark].isPrefixOf (start ++ digits) = false := by
    rw [Bool.eq_false_iff, ne_eq, isPrefixOf_iff_prefix]
    intro begins
    rcases mem_append.mp (begins.subset (mem_singleton_self mark)) with early | late
    · simpa using all_eq_true.mp (all_eq_true.mp before start member) mark early
    · exact Bool.false_ne_true (after.symm.trans (denotes.inside mark late))
  have noPlus : [plus].isPrefixOf (start ++ digits) = false := foreign (by cases base <;> rfl) (by cases base <;> rfl)
  have noMinus : [minus].isPrefixOf (start ++ digits) = false := foreign (by cases base <;> rfl) (by cases base <;> rfl)
  rw [integerParts, text, ← baseOf_starts member denotes.inside]
  cases negative with
  | true =>
    rw [if_pos rfl, mem_singleton] at signed
    rw [signed, @removeStart_of_foreign [plus] ([minus] ++ (start ++ digits)) rfl, removeStart_append]
    rfl
  | false =>
    simp only [Bool.false_eq_true, if_false, mem_cons, not_mem_nil, or_false] at signed
    rcases signed with rfl | rfl
    · rw [nil_append, removeStart_of_foreign noPlus, removeStart_of_foreign noMinus, noMinus]
    · rw [removeStart_append, removeStart_of_foreign noMinus]
      rfl

/-- What is left behind the signs is behind one sign, unless there is a minus behind a plus. -/
theorem exists_sign {text : Text} (single : [plus, minus].isPrefixOf text = false) :
    ∃ sign ∈ (if [minus].isPrefixOf text then [[minus]] else [[], [plus]]),
      text = sign ++ removeStart [minus] (removeStart [plus] text) := by
  match text with
  | [] => exact ⟨[], by simp, rfl⟩
  | first :: rest =>
    by_cases isPlus : first = plus
    · subst isPlus
      have foreign : [minus].isPrefixOf rest = false := by simpa using single
      refine ⟨[plus], by simp [plus, minus], ?_⟩
      rw [← singleton_append, removeStart_append, removeStart_of_foreign foreign]
    · have foreign : [plus].isPrefixOf (first :: rest) = false := by simp [List.isPrefixOf, Ne.symm isPlus]
      rw [removeStart_of_foreign foreign]
      by_cases isMinus : first = minus
      · subst isMinus
        exact ⟨[minus], by simp, by rw [← singleton_append, removeStart_append]⟩
      · have foreign : [minus].isPrefixOf (first :: rest) = false := by simp [List.isPrefixOf, Ne.symm isMinus]
        exact ⟨[], by simp [foreign], by rw [removeStart_of_foreign foreign]; rfl⟩

theorem digitValue_lt {point : CodePoint} (allowed : base.allows point = true) : digitValue point < base.radix := by
  obtain ⟨value, found, small⟩ := (Option.any_eq_true _ _).mp allowed
  rw [digitValue, found]
  exact of_decide_eq_true small

theorem radix_le (base : IntegerBase) : base.radix ≤ 16 := by
  cases base <;> decide

theorem val_digitCharacter {value : Nat} (small : value < 16) :
    (digitCharacter value).val = if value < 10 then 48 + value else 87 + value := by
  unfold digitCharacter digitPoint
  split <;> dsimp only <;> omega

theorem digitValue_digitCharacter {value : Nat} (small : value < 16) : digitValue (digitCharacter value) = value := by
  unfold digitValue hexDigit
  rw [val_digitCharacter small]
  split_ifs <;> simp <;> omega

theorem lowered {point : CodePoint} (low : point.val ≤ 90) : (point + 32).val = point.val + 32 :=
  Fin.val_add_eq_of_add_lt (lt_of_le_of_lt (Nat.add_le_add_right low 32) (by decide))

/-- A digit in lower case is the character of its value. -/
theorem digitCharacter_digitValue {point : CodePoint} (allowed : base.allows point = true) :
    digitCharacter (digitValue point) = point.lower := by
  have small := (digitValue_lt allowed).trans_le (radix_le base)
  obtain ⟨value, found, -⟩ := (Option.any_eq_true _ _).mp allowed
  rw [digitValue, found, Option.getD_some] at small ⊢
  have raised := @lowered point
  refine Fin.ext ?_
  rw [val_digitCharacter small, CodePoint.lower, apply_ite Fin.val]
  simp only [CodePoint.isUpper, decide_eq_true_eq]
  unfold hexDigit at found
  split_ifs at found <;> cases found <;> split_ifs <;> omega

theorem digitCharacter_lt {first second : Nat} (firstSmall : first < 16) (secondSmall : second < 16) :
    (digitCharacter first < digitCharacter second ↔ first < second) ∧
      (digitCharacter first = digitCharacter second ↔ first = second) := by
  rw [Fin.lt_def, Fin.ext_iff, val_digitCharacter firstSmall, val_digitCharacter secondSmall]
  split_ifs <;> omega

theorem nonzero {point : CodePoint} (allowed : base.allows point = true) (leading : point ≠ 0x30) : digitValue point ≠ 0 := by
  intro zero
  have same := digitCharacter_digitValue allowed
  rw [zero] at same
  refine leading (Fin.ext ?_)
  have code := congrArg Fin.val same
  rw [val_digitCharacter (by decide), if_pos (by decide), CodePoint.lower, apply_ite Fin.val] at code
  simp only [CodePoint.isUpper, decide_eq_true_eq] at code
  split_ifs at code
  · rw [lowered (by omega)] at code
    omega
  · exact code.symm

theorem zero_allowed (base : IntegerBase) : base.allows 0x30 = true := by
  cases base <;> rfl

/-- Without leading zeros the digits write the same number. -/
theorem significant_spec (inside : ∀ point ∈ digits, base.allows point = true) :
    (significant digits ≠ [] ∧ ∀ point ∈ significant digits, base.allows point = true) ∧
      base.value (significant digits) = base.value digits ∧
      ((significant digits).length = 1 ∨ base.radix ^ ((significant digits).length - 1) ≤ base.value (significant digits)) := by
  have dropped : base.value (digits.dropWhile (· = 0x30)) = base.value digits :=
    positional_dropWhile fun point leading => by rw [of_decide_eq_true leading]; rfl
  rw [significant]
  split
  · rename_i empty
    refine ⟨⟨nofun, fun point member => ?_⟩, ?_, .inl rfl⟩
    · rw [mem_singleton.mp member]
      exact zero_allowed base
    · rw [← dropped, empty]
      exact Nat.zero_mul _
  · rename_i filled
    have kept : ∀ point ∈ digits.dropWhile (· = 0x30), base.allows point = true := fun point member =>
      inside point ((dropWhile_sublist _).subset member)
    refine ⟨⟨filled, kept⟩, dropped, ?_⟩
    have stopped := head_dropWhile_not (fun point : CodePoint => decide (point = 0x30)) filled
    obtain ⟨first, rest, shape⟩ := exists_cons_of_ne_nil filled
    simp only [shape, head_cons, decide_eq_false_iff_not] at stopped kept ⊢
    exact .inr (le_positional (nonzero (kept first mem_cons_self) stopped))

/-- The bound is compared with the digits in lower case. -/
theorem value_lower (inside : ∀ point ∈ digits, base.allows point = true) :
    (∀ point ∈ digits.lower, ∃ value < base.radix, point = digitCharacter value) ∧ base.value digits.lower = base.value digits := by
  constructor
  · intro point member
    obtain ⟨source, listed, rfl⟩ := mem_map.mp member
    exact ⟨_, digitValue_lt (inside source listed), (digitCharacter_digitValue (inside source listed)).symm⟩
  · refine positional_map fun point member => ?_
    rw [← digitCharacter_digitValue (inside point member),
      digitValue_digitCharacter ((digitValue_lt (inside point member)).trans_le (radix_le base))]

theorem integerTokenIsUnsafe_iff (denotes : Denotes (withoutSeparators token) negative base digits) :
    integerTokenIsUnsafe token = true ↔ maxSafeJsonInteger < base.value digits := by
  obtain ⟨⟨-, inside⟩, value, leads⟩ := significant_spec denotes.inside
  obtain ⟨written, same⟩ := value_lower inside
  rw [← same, ← length_map CodePoint.lower] at leads
  have wide : 1 < base.radix := by cases base <;> decide
  have limit : ∀ point ∈ formatInteger base maxSafeJsonInteger, ∃ value < base.radix, point = digitCharacter value := by
    intro point member
    obtain ⟨value, listed, rfl⟩ := mem_map.mp member
    exact ⟨value, Nat.digits_lt_base wide (mem_reverse.mp listed), rfl⟩
  have small {text : Text} (digits : ∀ point ∈ text, ∃ value < base.radix, point = digitCharacter value) :
      ∀ point ∈ text, digitValue point < base.radix := by
    intro point member
    obtain ⟨value, below, rfl⟩ := digits point member
    rwa [digitValue_digitCharacter (below.trans_le (radix_le base))]
  have number : base.value (formatInteger base maxSafeJsonInteger) = maxSafeJsonInteger :=
    positional_digits (fun value below => digitValue_digitCharacter (below.trans_le (radix_le base))) wide _
  have filled : formatInteger base maxSafeJsonInteger ≠ [] := by cases base <;> decide
  have wide : base.radix ^ ((formatInteger base maxSafeJsonInteger).length - 1) ≤ base.value (formatInteger base maxSafeJsonInteger) := by
    rw [number]
    cases base <;> decide
  have compared := positional_lt_iff (fun first member second listed => by
      obtain ⟨value, below, rfl⟩ := limit first member
      obtain ⟨other, under, rfl⟩ := written second listed
      have firstSmall := below.trans_le (radix_le base)
      have secondSmall := under.trans_le (radix_le base)
      rw [digitValue_digitCharacter firstSmall, digitValue_digitCharacter secondSmall]
      exact digitCharacter_lt firstSmall secondSmall)
    (small limit) (small written) wide filled leads (by omega)
  rw [← value, ← same, ← number]
  refine Iff.trans ?_ compared.symm
  rw [integerTokenIsUnsafe, integerParts_of_denotes denotes]
  simp only [Bool.or_eq_true, Bool.and_eq_true, decide_eq_true_eq]

/-- The integer behind a sign. -/
def signed (negative : Bool) (magnitude : Nat) : Int :=
  (if negative then -1 else 1) * magnitude

/-- The constructor reads every valid token, unless it has too many decimal digits behind its zeros. -/
theorem constructPolicyInteger_eq (denotes : Denotes (withoutSeparators token) negative base digits) :
    constructPolicyInteger token =
      if base = .decimal ∧ maxIntegerDigits < (significant digits).length then .error (.tooManyDigits (significant digits).length)
      else .ok (signed negative (base.value digits)) := by
  obtain ⟨⟨filled, inside⟩, value, -⟩ := significant_spec denotes.inside
  rw [constructPolicyInteger, integerParts_of_denotes denotes]
  dsimp only
  rw [hostInteger_digits inside filled, value]
  by_cases many : base = .decimal ∧ maxIntegerDigits < (significant digits).length
  · rw [if_pos many, if_pos many]
    rfl
  · rw [if_neg many, if_neg many]
    rfl

/-- A safe number has few decimal digits behind its zeros. -/
theorem length_significant (inside : ∀ point ∈ digits, IntegerBase.decimal.allows point = true)
    (safe : IntegerBase.decimal.value digits ≤ maxSafeJsonInteger) : (significant digits).length ≤ maxIntegerDigits := by
  obtain ⟨-, value, leads⟩ := significant_spec inside
  rcases leads with single | leads
  · rw [single]
    decide
  · by_contra many
    rw [not_le] at many
    have bound : maxSafeJsonInteger < IntegerBase.decimal.radix ^ 16 ∧ 16 < maxIntegerDigits := by decide
    have power : IntegerBase.decimal.radix ^ 16 ≤ IntegerBase.decimal.radix ^ ((significant digits).length - 1) :=
      Nat.pow_le_pow_right (by decide) (by omega)
    omega

theorem constructPolicyInteger_safe (denotes : Denotes (withoutSeparators token) negative base digits)
    (safe : integerTokenIsUnsafe token = false) : constructPolicyInteger token = .ok (signed negative (base.value digits)) := by
  have small : base.value digits ≤ maxSafeJsonInteger := by
    rw [← not_lt, ← integerTokenIsUnsafe_iff denotes, safe]
    exact Bool.false_ne_true
  rw [constructPolicyInteger_eq denotes, if_neg]
  rintro ⟨rfl, many⟩
  exact absurd (length_significant denotes.inside small) (not_le.mpr many)

/-- Behind a single sign, a valid token has digits of its base. -/
theorem integerTokenIsValid_iff (single : [plus, minus].isPrefixOf (withoutSeparators token) = false) :
    integerTokenIsValid token = true ↔ ∃ negative base digits, Denotes (withoutSeparators token) negative base digits := by
  constructor
  · intro valid
    obtain ⟨sign, chosen, text⟩ := exists_sign single
    obtain ⟨start, listed, rest⟩ := exists_start (removeStart [minus] (removeStart [plus] (withoutSeparators token)))
    simp only [integerTokenIsValid, integerParts, Bool.and_eq_true, all_eq_true] at valid
    exact ⟨[minus].isPrefixOf (withoutSeparators token), _, _, of_decide_eq_true valid.1, valid.2, sign, chosen, start, listed, rest ▸ text⟩
  · rintro ⟨negative, base, digits, denotes⟩
    rw [integerTokenIsValid, integerParts_of_denotes denotes]
    simpa [denotes.filled] using denotes.inside

end Token

/-- Without separators, a valid token is a single sign, the start of a base and digits of that base; it is unsafe exactly
when they write more than the largest safe integer, and otherwise it constructs the integer that they write. -/
theorem yaml_integer_tokens (token : Text) (single : [plus, minus].isPrefixOf (withoutSeparators token) = false) :
    (integerTokenIsValid token = true ↔ ∃ negative base digits, Denotes (withoutSeparators token) negative base digits) ∧
      ∀ negative base digits, Denotes (withoutSeparators token) negative base digits →
        (integerTokenIsUnsafe token = true ↔ maxSafeJsonInteger < base.value digits) ∧
          (integerTokenIsUnsafe token = false → constructPolicyInteger token = .ok (signed negative (base.value digits))) :=
  ⟨integerTokenIsValid_iff single, fun _ _ _ denotes => ⟨integerTokenIsUnsafe_iff denotes, constructPolicyInteger_safe denotes⟩⟩

theorem yaml_integer_tokens_hexadecimal :
    constructPolicyInteger (ascii "-0x1F") = .ok (signed true (IntegerBase.hexadecimal.value (ascii "1F"))) :=
  ((yaml_integer_tokens (ascii "-0x1F") (by decide)).2 true .hexadecimal (ascii "1F")
    ⟨nofun, List.all_eq_true.mp rfl, [minus], List.mem_singleton_self _, [0x30, 0x78], List.mem_cons_self, rfl⟩).2 (by decide)

theorem separated_token_valid : integerTokenIsValid (ascii "1_0") = true ∧
    ¬ ∃ negative base digits, Denotes (ascii "1_0") negative base digits := by
  refine ⟨by decide, ?_⟩
  rintro ⟨negative, base, digits, denotes⟩
  obtain ⟨sign, signed, start, listed, text⟩ := denotes.text
  have member : (ascii "1_0").any (· = 0x5F) = true := rfl
  have apart : (base.starts.all fun start => !start.any (· = 0x5F)) = true ∧ base.allows 0x5F = false := by
    cases base <;> exact ⟨rfl, rfl⟩
  have signless : sign.any (· = 0x5F) = false := by
    cases negative with
    | true => exact (List.mem_singleton.mp signed) ▸ rfl
    | false => rcases List.mem_pair.mp signed with rfl | rfl <;> rfl
  have startless := List.all_eq_true.mp apart.1 start listed
  rw [Bool.not_eq_true'] at startless
  rw [text, List.any_append, List.any_append, signless, startless, Bool.false_or, Bool.false_or] at member
  obtain ⟨point, written, same⟩ := List.any_eq_true.mp member
  have allowed := denotes.inside point written
  rw [of_decide_eq_true same, apart.2] at allowed
  cases allowed

end CiCoordinator.ConfigControl.YamlDocument

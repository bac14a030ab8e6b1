import Mathlib.Algebra.Order.Ring.Nat
import Mathlib.Data.List.Lex
import Mathlib.Data.List.Basic
import Mathlib.Tactic.Common

/- Text as a sequence of code points, lone surrogates included, and its two encodings. -/

namespace CiCoordinator.Library

open List

/-- A code point may be a surrogate, because neither host language forbids one inside a string. -/
abbrev CodePoint := Fin 0x110000

/-- A text is its sequence of code points. -/
abbrev Text := List CodePoint

instance neZero_codePoints : NeZero 0x110000 :=
  ⟨by decide⟩

instance lawfulBEq_codePoint : LawfulBEq CodePoint :=
  inferInstance

instance lawfulBEq_text : LawfulBEq Text :=
  inferInstance

/-- An ASCII literal has one code point per byte. -/
def ascii (literal : String) : Text :=
  literal.toByteArray.data.toList.map fun byte =>
    ⟨byte.toNat, Nat.lt_of_lt_of_le byte.toNat_lt (by decide)⟩

namespace CodePoint

variable (point : CodePoint)

/-- Surrogates encode no character of their own. -/
def isSurrogate : Bool :=
  0xD800 ≤ point.val && point.val ≤ 0xDFFF

/-- A code point beyond the basic plane takes two code units. -/
def utf16 : List Nat :=
  if point.val < 0x10000 then [point.val]
  else [0xD800 + (point.val - 0x10000) / 0x400, 0xDC00 + (point.val - 0x10000) % 0x400]

/-- A code point takes one to four bytes. -/
def utf8 : List Nat :=
  if point.val < 0x80 then [point.val]
  else if point.val < 0x800 then [0xC0 + point.val / 0x40, 0x80 + point.val % 0x40]
  else if point.val < 0x10000 then
    [0xE0 + point.val / 0x1000, 0x80 + point.val / 0x40 % 0x40, 0x80 + point.val % 0x40]
  else
    [0xF0 + point.val / 0x40000, 0x80 + point.val / 0x1000 % 0x40, 0x80 + point.val / 0x40 % 0x40,
      0x80 + point.val % 0x40]

theorem utf16_ne_nil : point.utf16 ≠ [] := by
  unfold utf16
  split <;> simp

/-- The first code unit of a scalar tells how many units follow, so no encoding starts another one. -/
theorem utf16_append_cancel {first second : CodePoint} {left right : List Nat}
    (firstScalar : first.isSurrogate = false) (secondScalar : second.isSurrogate = false)
    (equal : first.utf16 ++ left = second.utf16 ++ right) : first = second ∧ left = right := by
  have firstBound := first.isLt
  have secondBound := second.isLt
  simp only [isSurrogate, Bool.and_eq_false_iff, decide_eq_false_iff_not, not_le] at firstScalar secondScalar
  unfold utf16 at equal
  split at equal <;> split at equal <;>
    simp only [cons_append, nil_append, List.cons.injEq] at equal
  · exact ⟨Fin.ext equal.1, equal.2⟩
  · omega
  · omega
  · refine ⟨Fin.ext ?_, equal.2.2⟩
    omega

end CodePoint

namespace Text

/-- A text is scalar when none of its code points is a surrogate. -/
def scalar (text : Text) : Bool :=
  text.all fun point => !point.isSurrogate

/-- The code units of a text, which order texts as ECMAScript does. -/
def utf16 (text : Text) : List Nat :=
  text.flatMap CodePoint.utf16

/-- The bytes of a text in UTF-8. -/
def utf8 (text : Text) : List Nat :=
  text.flatMap CodePoint.utf8

/-- A continuation byte carries six bits. -/
def isContinuation (byte : Nat) : Bool :=
  0x80 ≤ byte && byte < 0xC0

/-- The code point of a number in range that is not a surrogate. -/
def scalarPoint (number : Nat) : Option CodePoint :=
  if bound : number < 0x110000 then
    if CodePoint.isSurrogate ⟨number, bound⟩ then none else some ⟨number, bound⟩
  else none

/-- The character of a byte sequence; overlong forms, surrogates and stray bytes have none. -/
def sequencePoint (sequence : List Nat) : Option CodePoint :=
  match sequence with
  | [first] => if first < 0x80 then scalarPoint first else none
  | [first, second] =>
    if 0xC2 ≤ first ∧ first < 0xE0 ∧ isContinuation second then
      scalarPoint ((first - 0xC0) * 0x40 + (second - 0x80))
    else none
  | [first, second, third] =>
    let number := (first - 0xE0) * 0x1000 + (second - 0x80) * 0x40 + (third - 0x80)
    if 0xE0 ≤ first ∧ first < 0xF0 ∧ isContinuation second ∧ isContinuation third ∧ 0x800 ≤ number then
      scalarPoint number
    else none
  | [first, second, third, fourth] =>
    let number := (first - 0xF0) * 0x40000 + (second - 0x80) * 0x1000 + (third - 0x80) * 0x40 + (fourth - 0x80)
    if 0xF0 ≤ first ∧ isContinuation second ∧ isContinuation third ∧ isContinuation fourth ∧ 0x10000 ≤ number then
      scalarPoint number
    else none
  | _ => none

/-- The number of bytes that a leading byte announces. -/
def sequenceLength (first : Nat) : Nat :=
  if first < 0x80 then 1 else if first < 0xE0 then 2 else if first < 0xF0 then 3 else 4

/-- Strict decoding takes one announced sequence after the other. -/
def decodeFrom : Nat → List Nat → Option Text
  | _, [] => some []
  | 0, _ :: _ => none
  | fuel + 1, first :: rest =>
    match sequencePoint ((first :: rest).take (sequenceLength first)) with
    | some point => (decodeFrom fuel ((first :: rest).drop (sequenceLength first))).map (point :: ·)
    | none => none

/-- The text of a byte sequence, if it is well formed. -/
def decodeUtf8 (bytes : List Nat) : Option Text :=
  decodeFrom bytes.length bytes

variable {point : CodePoint}

@[simp] theorem scalar_nil : scalar [] = true := rfl

@[simp] theorem scalar_cons {rest : Text} : scalar (point :: rest) = true ↔ point.isSurrogate = false ∧ scalar rest = true := by
  simp [scalar]

@[simp] theorem scalar_append {left right : Text} : scalar (left ++ right) = true ↔ scalar left = true ∧ scalar right = true := by
  simp [scalar, all_append]

@[simp] theorem scalar_ascii (literal : String) : scalar (ascii literal) = true := by
  simp only [scalar, ascii, all_map, all_eq_true, Function.comp]
  intro byte _
  have bound := byte.toNat_lt
  simp only [CodePoint.isSurrogate, Bool.not_eq_eq_eq_not, Bool.not_true, Bool.and_eq_false_iff, decide_eq_false_iff_not, not_le]
  exact .inl (by omega)

@[simp] theorem utf16_nil : utf16 [] = [] := rfl

@[simp] theorem utf16_cons {rest : Text} : utf16 (point :: rest) = point.utf16 ++ utf16 rest := rfl

/-- Scalar texts with the same code units are equal. -/
theorem utf16_injective {left right : Text} (leftScalar : left.scalar = true) (rightScalar : right.scalar = true)
    (equal : left.utf16 = right.utf16) : left = right := by
  induction left generalizing right with
  | nil =>
    cases right with
    | nil => rfl
    | cons point rest =>
      have nonempty := point.utf16_ne_nil
      simp_all
  | cons point rest ih =>
    cases right with
    | nil =>
      have nonempty := point.utf16_ne_nil
      simp_all
    | cons other others =>
      rw [scalar_cons] at leftScalar rightScalar
      rw [utf16_cons, utf16_cons] at equal
      obtain ⟨samePoint, sameRest⟩ := CodePoint.utf16_append_cancel leftScalar.1 rightScalar.1 equal
      rw [samePoint, ih leftScalar.2 rightScalar.2 sameRest]

theorem scalarPoint_of_scalar (scalar : point.isSurrogate = false) : scalarPoint point.val = some point := by
  simp [scalarPoint, scalar]

theorem sequencePoint_utf8 (scalar : point.isSurrogate = false) : sequencePoint point.utf8 = some point := by
  have bound := point.isLt
  have single := scalarPoint_of_scalar scalar
  unfold CodePoint.utf8
  split
  · simp [sequencePoint, *]
  · split
    · have number : (0xC0 + point.val / 0x40 - 0xC0) * 0x40 + (0x80 + point.val % 0x40 - 0x80) = point.val := by
        omega
      simp only [sequencePoint, number, single, isContinuation, Bool.and_eq_true, decide_eq_true_eq]
      exact if_pos (by omega)
    · split
      · have number : (0xE0 + point.val / 0x1000 - 0xE0) * 0x1000 + (0x80 + point.val / 0x40 % 0x40 - 0x80) * 0x40 +
            (0x80 + point.val % 0x40 - 0x80) = point.val := by
          omega
        simp only [sequencePoint, number, single, isContinuation, Bool.and_eq_true, decide_eq_true_eq]
        exact if_pos (by omega)
      · have number : (0xF0 + point.val / 0x40000 - 0xF0) * 0x40000 + (0x80 + point.val / 0x1000 % 0x40 - 0x80) * 0x1000 +
            (0x80 + point.val / 0x40 % 0x40 - 0x80) * 0x40 + (0x80 + point.val % 0x40 - 0x80) = point.val := by
          omega
        simp only [sequencePoint, number, single, isContinuation, Bool.and_eq_true, decide_eq_true_eq]
        exact if_pos (by omega)

theorem utf8_announced (point : CodePoint) :
    ∃ first rest, point.utf8 = first :: rest ∧ sequenceLength first = point.utf8.length := by
  have bound := point.isLt
  unfold CodePoint.utf8
  split
  · exact ⟨_, _, rfl, by simp [sequenceLength, *]⟩
  · split
    · refine ⟨_, _, rfl, ?_⟩
      rw [sequenceLength, if_neg (by omega), if_pos (by omega)]
      rfl
    · split
      · refine ⟨_, _, rfl, ?_⟩
        rw [sequenceLength, if_neg (by omega), if_neg (by omega), if_pos (by omega)]
        rfl
      · refine ⟨_, _, rfl, ?_⟩
        rw [sequenceLength, if_neg (by omega), if_neg (by omega), if_neg (by omega)]
        rfl

theorem decodeFrom_utf8 {text : Text} (scalar : text.scalar = true) {fuel : Nat} (enough : text.length ≤ fuel) :
    decodeFrom fuel text.utf8 = some text := by
  induction text generalizing fuel with
  | nil => cases fuel <;> rfl
  | cons point rest ih =>
    rw [scalar_cons] at scalar
    cases fuel with
    | zero => simp at enough
    | succ fuel =>
      obtain ⟨first, others, shape, announced⟩ := utf8_announced point
      have bytes : utf8 (point :: rest) = point.utf8 ++ utf8 rest := rfl
      have split : point.utf8 ++ utf8 rest = first :: (others ++ utf8 rest) := by rw [shape, cons_append]
      rw [bytes, split, decodeFrom, ← split, announced, take_left, drop_left,
        sequencePoint_utf8 scalar.1, ih scalar.2 (by simpa using enough)]
      rfl

theorem length_le_utf8 (text : Text) : text.length ≤ text.utf8.length := by
  induction text with
  | nil => simp
  | cons point rest ih =>
    obtain ⟨first, others, shape, -⟩ := utf8_announced point
    have bytes : utf8 (point :: rest) = point.utf8 ++ utf8 rest := rfl
    rw [bytes, shape]
    simp only [length_cons, cons_append, length_append]
    omega

theorem length_utf8_of_ascii {text : Text} (plain : ∀ point ∈ text, point.val < 0x80) : text.utf8.length = text.length := by
  induction text with
  | nil => rfl
  | cons point rest ih =>
    rw [forall_mem_cons] at plain
    have one : point.utf8 = [point.val] := if_pos plain.1
    have tail : (rest.flatMap CodePoint.utf8).length = rest.length := ih plain.2
    rw [utf8, flatMap_cons, one, length_append, tail, length_singleton, length_cons, Nat.add_comm]

@[simp] theorem utf8_append (left right : Text) : utf8 (left ++ right) = utf8 left ++ utf8 right :=
  flatMap_append

/-- Decoding undoes encoding. -/
theorem decodeUtf8_utf8 {text : Text} (scalar : text.scalar = true) : decodeUtf8 text.utf8 = some text :=
  decodeFrom_utf8 scalar (length_le_utf8 text)

/-- The first byte of a code point tells how many bytes follow, so no encoding starts another one. -/
theorem utf8_append_cancel {first second : CodePoint} {left right : List Nat}
    (equal : first.utf8 ++ left = second.utf8 ++ right) : first = second ∧ left = right := by
  have firstBound := first.isLt
  have secondBound := second.isLt
  unfold CodePoint.utf8 at equal
  rw [Fin.ext_iff]
  split_ifs at equal <;>
    simp only [cons_append, nil_append, List.cons.injEq] at equal <;>
    first
    | exact ⟨by omega, by tauto⟩
    | omega

/-- Encoding tells all texts apart. -/
theorem utf8_inj {left right : Text} (equal : left.utf8 = right.utf8) : left = right := by
  induction left generalizing right with
  | nil =>
    cases right with
    | nil => rfl
    | cons point right =>
      obtain ⟨first, others, shape, -⟩ := utf8_announced point
      have bytes : utf8 (point :: right) = point.utf8 ++ utf8 right := rfl
      rw [bytes, shape] at equal
      cases equal
  | cons point left ih =>
    cases right with
    | nil =>
      obtain ⟨first, others, shape, -⟩ := utf8_announced point
      have bytes : utf8 (point :: left) = point.utf8 ++ utf8 left := rfl
      rw [bytes, shape] at equal
      cases equal
    | cons other right =>
      obtain ⟨same, rest⟩ := @utf8_append_cancel point other (utf8 left) (utf8 right) equal
      rw [same, ih rest]

end Text

end CiCoordinator.Library

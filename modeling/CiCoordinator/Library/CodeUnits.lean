import CiCoordinator.Library.Text
import Mathlib.Tactic.Common

/- Strings as sequences of UTF-16 code units and the texts that they denote. -/

namespace CiCoordinator.Library

open List Text

/-- A code unit has sixteen bits. -/
abbrev CodeUnit := Fin 0x10000

/-- A string of ECMAScript is any sequence of code units. -/
abbrev CodeUnits := List CodeUnit

instance neZero_codeUnits : NeZero 0x10000 :=
  ⟨by decide⟩

namespace CodeUnit

variable (unit : CodeUnit)

/-- The first unit of a surrogate pair. -/
def isHigh : Bool :=
  0xD800 ≤ unit.val && unit.val ≤ 0xDBFF

/-- The second unit of a surrogate pair. -/
def isLow : Bool :=
  0xDC00 ≤ unit.val && unit.val ≤ 0xDFFF

/-- The code point of a unit that stands alone. -/
def point : CodePoint :=
  unit.castLE (by decide)

/-- The code point of a surrogate pair. -/
def pair (high low : CodeUnit) : CodePoint :=
  Fin.ofNat 0x110000 (0x10000 + (high.val - 0xD800) * 0x400 + (low.val - 0xDC00))

end CodeUnit

/-- The units of a code point. -/
def CodePoint.units (point : CodePoint) : CodeUnits :=
  point.utf16.map (Fin.ofNat 0x10000)

/-- The string of a text. -/
def Text.units (text : Text) : CodeUnits :=
  text.flatMap CodePoint.units

namespace CodeUnits

/-- The text of a string; a surrogate without its partner stands for itself. -/
def decode : CodeUnits → Text
  | [] => []
  | [unit] => [unit.point]
  | first :: second :: rest =>
    if first.isHigh && second.isLow then CodeUnit.pair first second :: decode rest
    else first.point :: decode (second :: rest)

end CodeUnits

namespace CodeUnit

theorem units_point (unit : CodeUnit) : unit.point.units = [unit] := by
  have small : unit.point.val < 0x10000 := unit.isLt
  rw [CodePoint.units, CodePoint.utf16, if_pos small, map_singleton]
  have same : Fin.ofNat 0x10000 unit.point.val = unit := by
    apply Fin.ext
    exact Nat.mod_eq_of_lt unit.isLt
  rw [same]

theorem units_pair {high low : CodeUnit} (first : high.isHigh = true) (second : low.isLow = true) :
    (pair high low).units = [high, low] := by
  simp only [isHigh, isLow, Bool.and_eq_true, decide_eq_true_eq] at first second
  have value : (pair high low).val = 0x10000 + (high.val - 0xD800) * 0x400 + (low.val - 0xDC00) :=
    Nat.mod_eq_of_lt (by omega)
  rw [CodePoint.units, CodePoint.utf16, if_neg (by omega), value, map_cons, map_singleton]
  have leading : Fin.ofNat 0x10000 (0xD800 + (0x10000 + (high.val - 0xD800) * 0x400 + (low.val - 0xDC00) - 0x10000) / 0x400) =
      high := by
    apply Fin.ext
    rw [Fin.val_ofNat]
    omega
  have trailing : Fin.ofNat 0x10000 (0xDC00 + (0x10000 + (high.val - 0xD800) * 0x400 + (low.val - 0xDC00) - 0x10000) % 0x400) =
      low := by
    apply Fin.ext
    rw [Fin.val_ofNat]
    omega
  rw [leading, trailing]

end CodeUnit

@[simp] theorem Text.units_nil : Text.units [] = [] := rfl

@[simp] theorem Text.units_cons {point : CodePoint} {rest : Text} : Text.units (point :: rest) = point.units ++ Text.units rest := rfl

@[simp] theorem Text.units_append {left right : Text} : Text.units (left ++ right) = Text.units left ++ Text.units right := by
  simp [Text.units]

namespace CodeUnits

/-- A string is the string of its text. -/
@[simp] theorem units_decode (string : CodeUnits) : (decode string).units = string := by
  induction string using decode.induct with
  | case1 => rfl
  | case2 unit => simp [decode, CodeUnit.units_point]
  | case3 first second rest paired ih =>
    rw [decode, if_pos paired, units_cons, ih]
    rw [Bool.and_eq_true] at paired
    rw [CodeUnit.units_pair paired.1 paired.2]
    rfl
  | case4 first second rest alone ih =>
    rw [decode, if_neg alone, units_cons, ih, CodeUnit.units_point]
    rfl

theorem decode_injective {left right : CodeUnits} (same : decode left = decode right) : left = right := by
  rw [← units_decode left, ← units_decode right, same]

@[simp] theorem decode_inj {left right : CodeUnits} : decode left = decode right ↔ left = right :=
  ⟨decode_injective, congrArg decode⟩

theorem decode_cons {unit : CodeUnit} {rest : CodeUnits} (single : unit.isHigh = false) :
    decode (unit :: rest) = unit.point :: decode rest := by
  cases rest with
  | nil => rfl
  | cons second rest => simp [decode, single]

/-- Strings that meet at a unit which completes no pair denote their texts one after the other. -/
theorem decode_append {left right : CodeUnits} (apart : ∀ unit ∈ right.head?, unit.isLow = false) :
    decode (left ++ right) = decode left ++ decode right := by
  induction left using decode.induct with
  | case1 => rfl
  | case2 unit =>
    cases right with
    | nil => rfl
    | cons second rest =>
      have single := apart second rfl
      simp [decode, single]
  | case3 first second rest paired ih =>
    rw [cons_append, cons_append, decode, if_pos paired, decode, if_pos paired, ih, cons_append]
  | case4 first second rest alone ih =>
    rw [cons_append] at ih
    rw [cons_append, cons_append, decode, if_neg alone, decode, if_neg alone, ih, cons_append]

@[simp] theorem decode_eq_nil_iff {string : CodeUnits} : decode string = [] ↔ string = [] :=
  ⟨fun empty => decode_injective empty, congrArg decode⟩

/-- Units that lead no pair stand for themselves. -/
theorem decode_of_single {string : CodeUnits} (single : ∀ unit ∈ string, unit.isHigh = false) :
    decode string = string.map CodeUnit.point := by
  induction string with
  | nil => rfl
  | cons unit rest ih =>
    rw [decode_cons (single unit mem_cons_self), ih fun other member => single other (mem_cons_of_mem _ member)]
    rfl

/-- The units of a character are read back as that character. -/
theorem decode_units_cons {point : CodePoint} {rest : CodeUnits} (scalar : point.isSurrogate = false) :
    decode (point.units ++ rest) = point :: decode rest := by
  simp only [CodePoint.isSurrogate, Bool.and_eq_false_iff, decide_eq_false_iff_not] at scalar
  rw [CodePoint.units, CodePoint.utf16]
  by_cases small : point.val < 0x10000
  · have value : (Fin.ofNat 0x10000 point.val).val = point.val := Nat.mod_eq_of_lt small
    have single : CodeUnit.isHigh (Fin.ofNat 0x10000 point.val) = false := by
      simp only [CodeUnit.isHigh, Bool.and_eq_false_iff, decide_eq_false_iff_not]
      omega
    have same : CodeUnit.point (Fin.ofNat 0x10000 point.val) = point := Fin.ext value
    rw [if_pos small, map_singleton, singleton_append, decode_cons single, same]
  · have leading : (Fin.ofNat 0x10000 (0xD800 + (point.val - 0x10000) / 0x400)).val =
        0xD800 + (point.val - 0x10000) / 0x400 := Nat.mod_eq_of_lt (by omega)
    have trailing : (Fin.ofNat 0x10000 (0xDC00 + (point.val - 0x10000) % 0x400)).val =
        0xDC00 + (point.val - 0x10000) % 0x400 := Nat.mod_eq_of_lt (by omega)
    rw [if_neg small, map_cons, map_singleton, cons_append, singleton_append, decode]
    generalize Fin.ofNat 0x10000 (0xD800 + (point.val - 0x10000) / 0x400) = high at leading ⊢
    generalize Fin.ofNat 0x10000 (0xDC00 + (point.val - 0x10000) % 0x400) = low at trailing ⊢
    have paired : (CodeUnit.isHigh high && CodeUnit.isLow low) = true := by
      simp only [CodeUnit.isHigh, CodeUnit.isLow, Bool.and_eq_true, decide_eq_true_eq]
      omega
    have same : CodeUnit.pair high low = point := by
      apply Fin.ext
      rw [CodeUnit.pair, leading, trailing, Fin.val_ofNat]
      omega
    rw [if_pos paired, same]

/-- The string of a scalar text is read back as that text. -/
theorem decode_units_append {text : Text} {rest : CodeUnits} (scalar : text.scalar = true) :
    decode (text.units ++ rest) = text ++ decode rest := by
  induction text with
  | nil => rfl
  | cons point others ih =>
    rw [scalar_cons] at scalar
    rw [units_cons, append_assoc, decode_units_cons scalar.1, ih scalar.2]
    rfl

/-- The units of a character complete no pair that the units before them lead. -/
theorem isLow_head_units {point : CodePoint} {rest : CodeUnits} (scalar : point.isSurrogate = false) :
    ∀ unit ∈ (point.units ++ rest).head?, unit.isLow = false := by
  simp only [CodePoint.isSurrogate, Bool.and_eq_false_iff, decide_eq_false_iff_not] at scalar
  intro unit first
  simp only [CodeUnit.isLow, Bool.and_eq_false_iff, decide_eq_false_iff_not]
  rw [CodePoint.units, CodePoint.utf16] at first
  split at first
  · rename_i small
    have value : (Fin.ofNat 0x10000 point.val).val = point.val := Nat.mod_eq_of_lt small
    rw [map_singleton, singleton_append, head?_cons, Option.mem_some_iff] at first
    subst first
    omega
  · have value : (Fin.ofNat 0x10000 (0xD800 + (point.val - 0x10000) / 0x400)).val =
        0xD800 + (point.val - 0x10000) / 0x400 := Nat.mod_eq_of_lt (by omega)
    rw [map_cons, cons_append, head?_cons, Option.mem_some_iff] at first
    subst first
    omega

/-- A scalar text between two strings is read back as that text. -/
theorem decode_append_units {string rest : CodeUnits} {text : Text} (nonempty : text ≠ []) (scalar : text.scalar = true) :
    decode (string ++ (text.units ++ rest)) = decode string ++ (text ++ decode rest) := by
  cases text with
  | nil => exact absurd rfl nonempty
  | cons point others =>
    have apart := @isLow_head_units point (Text.units others ++ rest) (scalar_cons.mp scalar).1
    rw [← append_assoc, ← units_cons] at apart
    rw [decode_append apart, decode_units_append scalar]

/-- A string starts with a scalar text exactly when its own text does. -/
theorem units_prefix_iff {text : Text} {string : CodeUnits} (scalar : text.scalar = true) :
    text.units <+: string ↔ text <+: decode string := by
  constructor
  · rintro ⟨rest, rfl⟩
    exact ⟨decode rest, (decode_units_append scalar).symm⟩
  · rintro ⟨rest, same⟩
    refine ⟨Text.units rest, ?_⟩
    rw [← units_append, same, units_decode]

theorem decode_units {text : Text} (scalar : text.scalar = true) : decode text.units = text := by
  have whole := @decode_units_append text [] scalar
  rwa [append_nil, decode, append_nil] at whole

end CodeUnits

end CiCoordinator.Library

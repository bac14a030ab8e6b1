import CiCoordinator.Kernel.StrictJson
import CiCoordinator.Library.Url
import Mathlib.Data.List.DropRight

/- What the host reads in a text as a number, and how it folds the case of a text. -/

namespace CiCoordinator.Kernel

open Library JsonSyntax List

inductive IntegerBase where
  | binary
  | octal
  | decimal
  | hexadecimal
  deriving DecidableEq

namespace IntegerBase

def radix : IntegerBase → Nat
  | .binary => 2
  | .octal => 8
  | .decimal => 10
  | .hexadecimal => 16

/-- The texts 0b, 0o and 0x announce a base in either case. -/
def starts : IntegerBase → List Text
  | .binary => [[0x30, 0x62], [0x30, 0x42]]
  | .octal => [[0x30, 0x6F], [0x30, 0x4F]]
  | .decimal => [[]]
  | .hexadecimal => [[0x30, 0x78], [0x30, 0x58]]

/-- The digits of a base, in either case. -/
def allows (base : IntegerBase) (point : CodePoint) : Bool :=
  (hexDigit point).any (· < base.radix)

end IntegerBase

def digitValue (point : CodePoint) : Nat :=
  (hexDigit point).getD 0

def IntegerBase.value (base : IntegerBase) (digits : Text) : Nat :=
  positional base.radix digitValue digits

def removeStart (start text : Text) : Text :=
  if start.isPrefixOf text then text.drop start.length else text

/-- The base that a text announces, and what stands behind the announcement. -/
def baseOf (magnitude : Text) : IntegerBase × Text :=
  if IntegerBase.binary.starts.any (·.isPrefixOf magnitude) then (.binary, magnitude.drop 2)
  else if IntegerBase.octal.starts.any (·.isPrefixOf magnitude) then (.octal, magnitude.drop 2)
  else if IntegerBase.hexadecimal.starts.any (·.isPrefixOf magnitude) then (.hexadecimal, magnitude.drop 2)
  else (.decimal, magnitude)

/-- The white space outside ASCII. -/
def wideSpaces : List Nat :=
  [0x85, 0xA0, 0x1680, 0x2000, 0x2001, 0x2002, 0x2003, 0x2004, 0x2005, 0x2006, 0x2007, 0x2008, 0x2009, 0x200A, 0x2028,
    0x2029, 0x202F, 0x205F, 0x3000]

/-- The zeros of the decimal digits outside ASCII; the other nine digits stand behind each of them. -/
def wideZeros : List Nat :=
  [0x660, 0x6F0, 0x7C0, 0x966, 0x9E6, 0xA66, 0xAE6, 0xB66, 0xBE6, 0xC66, 0xCE6, 0xD66, 0xDE6, 0xE50, 0xED0, 0xF20, 0x1040,
    0x1090, 0x17E0, 0x1810, 0x1946, 0x19D0, 0x1A80, 0x1A90, 0x1B50, 0x1BB0, 0x1C40, 0x1C50, 0xA620, 0xA8D0, 0xA900, 0xA9D0,
    0xA9F0, 0xAA50, 0xABF0, 0xFF10, 0x104A0, 0x10D30, 0x11066, 0x110F0, 0x11136, 0x111D0, 0x112F0, 0x11450, 0x114D0, 0x11650,
    0x116C0, 0x11730, 0x118E0, 0x11950, 0x11C50, 0x11D50, 0x11DA0, 0x11F50, 0x16A60, 0x16AC0, 0x16B50, 0x1D7CE, 0x1D7D8,
    0x1D7E2, 0x1D7EC, 0x1D7F6, 0x1E140, 0x1E2F0, 0x1E4F0, 0x1E950, 0x1FBF0]

/-- The ASCII character that the host reads in the place of a character. -/
def asciiPoint (point : CodePoint) : CodePoint :=
  if point.val < 127 then point
  else if point.val ∈ wideSpaces then 0x20
  else
    match wideZeros.find? fun first => first ≤ point.val && point.val < first + 10 with
    | some first => digitPoint (point.val - first)
    | none => questionMark

def isNumberSpace (point : CodePoint) : Bool :=
  9 ≤ point.val && point.val ≤ 13 || point = 0x20

/-- A text in ASCII without the white space around it. -/
def stripNumber (value : Text) : Text :=
  ((value.map asciiPoint).dropWhile isNumberSpace).rdropWhile isNumberSpace

/-- Whether a text has a minus in front, and the text behind one sign. -/
def splitSign : Text → Bool × Text
  | [] => (false, [])
  | first :: rest => if first = minus then (true, rest) else if first = plus then (false, rest) else (false, first :: rest)

/-- Why the host reads no integer in a text; no base is the base zero of a text that announces its own. -/
inductive IntegerRefusal where
  | invalidLiteral (base : Option IntegerBase) (value : Text)
  | tooManyDigits (digits : Nat)
  deriving DecidableEq

/-- The base of the digits of a text, and the digits. -/
def integerDigits (unsigned : Text) : Option IntegerBase → IntegerBase × Text
  | none => baseOf unsigned
  | some base =>
    match base.starts.find? fun start => start.isPrefixOf unsigned with
    | some start => (base, unsigned.drop start.length)
    | none => (base, unsigned)

/-- `int` of a text without underscores. Texts in a base that is a power of two have no bound. -/
def hostInteger (base : Option IntegerBase) (value : Text) : Except IntegerRefusal Int :=
  let (negative, unsigned) := splitSign (stripNumber value)
  let (chosen, text) := integerDigits unsigned base
  let digits := text.takeWhile chosen.allows
  let magnitude := chosen.value digits
  if chosen = .decimal ∧ maxIntegerDigits < digits.length then .error (.tooManyDigits digits.length)
  else if digits = [] ∨ digits ≠ text ∨ (base = none ∧ chosen = .decimal ∧ digits.head? = some 0x30 ∧ magnitude ≠ 0) then
    .error (.invalidLiteral base value)
  else .ok (if negative then -magnitude else magnitude)

/-- The digits behind a point in front of a text, and what is left. -/
def splitFraction (text : Text) : Text × Text :=
  match text with
  | [] => ([], [])
  | first :: rest => if first = JsonSyntax.point then rest.span CodePoint.isDigit else ([], first :: rest)

/-- `float` of a text without underscores. -/
def hostFloat (value : Text) : Option Float64 :=
  let (negative, unsigned) := splitSign (stripNumber value)
  if unsigned.lower = ascii "inf" ∨ unsigned.lower = ascii "infinity" then some (.infinity negative)
  else if unsigned.lower = ascii "nan" then some .nan
  else
    let (whole, afterWhole) := unsigned.span CodePoint.isDigit
    let (fraction, afterFraction) := splitFraction afterWhole
    if whole = [] ∧ fraction = [] then none
    else
      match readExponent afterFraction with
      | some (exponent, []) => some (NumberLiteral.toFloat64 ⟨negative, whole, some fraction, exponent⟩)
      | _ => none

/-- The characters that fold to letters of ASCII, besides its capital letters. -/
def letterFoldings : List (Nat × String) :=
  [(0xDF, "ss"), (0x17F, "s"), (0x1E9E, "ss"), (0x212A, "k"), (0xFB00, "ff"), (0xFB01, "fi"), (0xFB02, "fl"), (0xFB03, "ffi"),
    (0xFB04, "ffl"), (0xFB05, "st"), (0xFB06, "st")]

/-- The folded case of a text, as far as it can be a text in ASCII. -/
def casefold (value : Text) : Text :=
  value.flatMap fun point =>
    match letterFoldings.lookup point.val with
    | some letters => ascii letters
    | none => [point.lower]

section Digits

variable {base : IntegerBase} {digits : Text}

/-- The digits of a base are ASCII characters, and neither white space nor signs. -/
theorem of_allows {point : CodePoint} (allowed : base.allows point = true) :
    asciiPoint point = point ∧ isNumberSpace point = false ∧ point ≠ minus ∧ point ≠ plus := by
  obtain ⟨value, found, -⟩ := (Option.any_eq_true _ _).mp allowed
  have range : 0x30 ≤ point.val ∧ point.val < 127 := by
    unfold hexDigit at found
    split_ifs at found <;> omega
  refine ⟨if_pos range.2, ?_, ?_, ?_⟩
  · have apart : point ≠ 0x20 := fun same => absurd (congrArg Fin.val same ▸ range.1) (by decide)
    simp only [isNumberSpace, Bool.or_eq_false_iff, Bool.and_eq_false_iff, decide_eq_false_iff_not]
    exact ⟨.inr (by omega), apart⟩
  · exact fun same => absurd (congrArg Fin.val same ▸ range.1) (by decide)
  · exact fun same => absurd (congrArg Fin.val same ▸ range.1) (by decide)

variable (inside : ∀ point ∈ digits, base.allows point = true)
include inside

theorem stripNumber_digits : stripNumber digits = digits := by
  have written : digits.map asciiPoint = digits := by
    rw [map_congr_left fun point member => (of_allows (inside point member)).1, map_id']
  have leading : digits.dropWhile isNumberSpace = digits := by
    rw [dropWhile_eq_self_iff]
    exact fun filled => Bool.eq_false_iff.mp (of_allows (inside _ (get_mem _ _))).2.1
  rw [stripNumber, written, leading, rdropWhile_eq_self_iff]
  exact fun filled => Bool.eq_false_iff.mp (of_allows (inside _ (getLast_mem filled))).2.1

theorem splitSign_digits : splitSign digits = (false, digits) := by
  cases digits with
  | nil => rfl
  | cons first rest =>
    obtain ⟨-, -, noMinus, noPlus⟩ := of_allows (inside first mem_cons_self)
    rw [splitSign, if_neg noMinus, if_neg noPlus]

theorem isPrefixOf_digits {start : Text} (strange : (start.any fun point => !base.allows point) = true) :
    start.isPrefixOf digits = false := by
  rw [Bool.eq_false_iff, ne_eq, isPrefixOf_iff_prefix]
  intro begins
  obtain ⟨point, known, outside⟩ := any_eq_true.mp strange
  rw [inside point (begins.subset known)] at outside
  cases outside

/-- Digits do not announce their base. -/
theorem integerDigits_digits : integerDigits digits (some base) = (base, digits) := by
  have foreign : ∀ start ∈ base.starts, (start.any fun point => !base.allows point) = true ∨ start = [] := by
    cases base <;> decide
  rw [integerDigits]
  split
  · rename_i start found
    rcases foreign start (mem_of_find?_eq_some found) with strange | rfl
    · have begins := find?_some found
      rw [isPrefixOf_digits inside strange] at begins
      cases begins
    · rfl
  · rfl

/-- The host reads digits of a base as the number that they write, unless they are decimal and too many. -/
theorem hostInteger_digits (filled : digits ≠ []) : hostInteger (some base) digits =
      if base = .decimal ∧ maxIntegerDigits < digits.length then .error (.tooManyDigits digits.length)
      else .ok (base.value digits) := by
  have all : digits.takeWhile base.allows = digits := takeWhile_eq_self_iff.mpr inside
  rw [hostInteger, stripNumber_digits inside, splitSign_digits inside]
  dsimp only
  rw [integerDigits_digits inside]
  rw [all]
  refine if_congr Iff.rfl rfl ?_
  rw [if_neg (by simp [filled]), if_neg Bool.false_ne_true]

end Digits

end CiCoordinator.Kernel

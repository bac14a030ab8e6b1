import CiCoordinator.Kernel.HostNumbers
import CiCoordinator.Library.TimestampOrder

/- What the host reads in a text as a date and a time by a format, and that it reads what it writes. -/

namespace CiCoordinator.Kernel

open Library List

/-- What a directive admits in one place: the digits of ASCII in a range, the digits of every script, or a space. -/
inductive Place where
  | digits (low high : Nat)
  | anyDigit
  | space
  deriving DecidableEq

def Place.admits (point : CodePoint) : Place → Bool
  | .digits low high => point.isDigit && low ≤ point.digit && point.digit ≤ high
  | .anyDigit => (asciiPoint point).isDigit
  | .space => point = 0x20

/-- A directive admits a text in one of its forms, place by place. -/
def directiveAdmits (forms : List (List Place)) (text : Text) : Bool :=
  forms.any fun form => form.length = text.length && (form.zip text).all fun pair => pair.1.admits pair.2

namespace Directive

def year : List (List Place) :=
  [[.anyDigit, .anyDigit, .anyDigit, .anyDigit]]

def month : List (List Place) :=
  [[.digits 1 1, .digits 0 2], [.digits 0 0, .digits 1 9], [.digits 1 9]]

def day : List (List Place) :=
  [[.digits 3 3, .digits 0 1], [.digits 1 2, .anyDigit], [.digits 0 0, .digits 1 9], [.digits 1 9], [.space, .digits 1 9]]

def hour : List (List Place) :=
  [[.digits 2 2, .digits 0 3], [.digits 0 1, .anyDigit], [.anyDigit], [.space, .anyDigit]]

def minute : List (List Place) :=
  [[.digits 0 5, .anyDigit], [.anyDigit]]

def second : List (List Place) :=
  [[.digits 6 6, .digits 0 1], [.digits 0 5, .anyDigit], [.anyDigit]]

/-- From one digit to six. -/
def fraction : List (List Place) :=
  (List.range 6).map fun more => List.replicate (more + 1) (.digits 0 9)

end Directive

/-- The text before the first of some marks, and the text behind it. -/
def splitMark (marks : List CodePoint) (text : Text) : Option (Text × Text) :=
  match text.span fun point => point ∉ marks with
  | (before, _ :: after) => some (before, after)
  | _ => none

/-- The number of a directive. -/
def directiveNumber (text : Text) : Nat :=
  readDigits (stripNumber text)

/-- `strptime` by the format `%Y-%m-%dT%H:%M:%S.%fZ`. No directive admits a mark, and letters match in either case. -/
def strptime (text : Text) : Option Instant := do
  let (year, rest) ← splitMark [0x2D] text
  let (month, rest) ← splitMark [0x2D] rest
  let (day, rest) ← splitMark [0x54, 0x74] rest
  let (hour, rest) ← splitMark [0x3A] rest
  let (minute, rest) ← splitMark [0x3A] rest
  let (second, rest) ← splitMark [0x2E] rest
  let (fraction, rest) ← splitMark [0x5A, 0x7A] rest
  if rest = [] ∧ directiveAdmits Directive.year year = true ∧ directiveAdmits Directive.month month = true ∧
      directiveAdmits Directive.day day = true ∧ directiveAdmits Directive.hour hour = true ∧
      directiveAdmits Directive.minute minute = true ∧ directiveAdmits Directive.second second = true ∧
      directiveAdmits Directive.fraction fraction = true then
    instantOf ⟨directiveNumber year, directiveNumber month, directiveNumber day⟩ (directiveNumber hour)
      (directiveNumber minute) (directiveNumber second) (directiveNumber fraction * 10 ^ (6 - fraction.length))
  else none

section Written

variable {width number : Nat} {rest : Text}

theorem allows_of_isDigit {point : CodePoint} (digit : point.isDigit = true) : IntegerBase.decimal.allows point = true := by
  have range : 48 ≤ point.val ∧ point.val ≤ 57 := by simpa [CodePoint.isDigit] using digit
  have found : JsonSyntax.hexDigit point = some (point.val - 48) := by
    unfold JsonSyntax.hexDigit
    rw [if_pos range]
  have small : point.val - 48 < 10 := by omega
  rw [IntegerBase.allows, found, Option.any_some, decide_eq_true_eq]
  exact small

theorem anyDigit_admits (digit : Nat) : Place.anyDigit.admits (digitPoint digit) = true := by
  have plain := (of_allows (allows_of_isDigit (isDigit_digitPoint digit))).1
  rw [Place.admits, plain, isDigit_digitPoint]

theorem directiveNumber_padded (fits : number < 10 ^ width) : directiveNumber (padded width number) = number := by
  have digits : ∀ point ∈ padded width number, IntegerBase.decimal.allows point = true :=
    fun point member => allows_of_isDigit (padded_isDigit member)
  rw [directiveNumber, stripNumber_digits digits, readDigits_padded, Nat.mod_eq_of_lt fits]

/-- Digits are split off at the mark that follows them. -/
theorem splitMark_padded {marks : List CodePoint} {mark : CodePoint} (member : mark ∈ marks)
    (solid : ∀ other ∈ marks, other.isDigit = false) :
    splitMark marks (padded width number ++ mark :: rest) = some (padded width number, rest) := by
  have digits : ∀ point ∈ padded width number, decide (point ∉ marks) = true := by
    intro point listed
    rw [decide_eq_true_eq]
    exact fun among => absurd (padded_isDigit listed) (Bool.eq_false_iff.mp (solid point among))
  have before : (padded width number ++ mark :: rest).takeWhile (fun point => point ∉ marks) = padded width number := by
    rw [takeWhile_append_of_pos digits, takeWhile_cons_of_neg (by simpa using member), append_nil]
  have after : (padded width number ++ mark :: rest).dropWhile (fun point => point ∉ marks) = mark :: rest := by
    rw [dropWhile_append_of_pos digits, dropWhile_cons_of_neg (by simpa using member)]
  rw [splitMark, span_eq_takeWhile_dropWhile, before, after]

theorem marks_solid : ∀ marks ∈ ([[0x2D], [0x54, 0x74], [0x3A], [0x2E], [0x5A, 0x7A]] : List (List CodePoint)),
    ∀ other ∈ marks, other.isDigit = false := by
  simp [CodePoint.isDigit]

/-- Two digits are read as the number that they pad. -/
theorem directive_pairs : (∀ month < 13, 1 ≤ month → directiveAdmits Directive.month (padded 2 month) = true) ∧
    (∀ day < 32, 1 ≤ day → directiveAdmits Directive.day (padded 2 day) = true) ∧
    (∀ hour < 24, directiveAdmits Directive.hour (padded 2 hour) = true) ∧
    (∀ minute < 60, directiveAdmits Directive.minute (padded 2 minute) = true) ∧
    ∀ second < 60, directiveAdmits Directive.second (padded 2 second) = true := by
  decide

theorem directive_year : directiveAdmits Directive.year (padded 4 number) = true := by
  simp [directiveAdmits, Directive.year, padded, anyDigit_admits]

theorem directive_fraction : directiveAdmits Directive.fraction (padded 3 number) = true := by
  have written : ∀ pair ∈ (List.replicate 3 (Place.digits 0 9)).zip (padded 3 number), pair.1.admits pair.2 = true := by
    rintro ⟨place, point⟩ member
    obtain ⟨listed, written⟩ := of_mem_zip member
    have digit : point.isDigit = true := padded_isDigit written
    have range : 48 ≤ point.val ∧ point.val ≤ 57 := by simpa [CodePoint.isDigit] using digit
    cases eq_of_mem_replicate listed
    have value : point.digit ≤ 9 := by
      rw [CodePoint.digit]
      omega
    simp [Place.admits, digit, value]
  rw [directiveAdmits, any_eq_true]
  exact ⟨List.replicate 3 (.digits 0 9), by decide, by simpa using written⟩

/-- The parts of a date and a time, in their places between the marks. -/
theorem strptime_padded {year month day hour minute second millis : Nat} (years : year < 10000)
    (months : 1 ≤ month ∧ month ≤ 12) (days : 1 ≤ day ∧ day ≤ 31) (hours : hour < 24) (minutes : minute < 60)
    (seconds : second < 60) (small : millis < 1000) :
    strptime (padded 4 year ++ 0x2D :: (padded 2 month ++ 0x2D :: (padded 2 day ++ 0x54 :: (padded 2 hour ++ 0x3A ::
      (padded 2 minute ++ 0x3A :: (padded 2 second ++ 0x2E :: (padded 3 millis ++ [0x5A]))))))) =
        instantOf ⟨year, month, day⟩ hour minute second (millis * 1000) := by
  obtain ⟨monthAdmits, dayAdmits, hourAdmits, minuteAdmits, secondAdmits⟩ := directive_pairs
  have monthAdmitted := monthAdmits month (by omega) months.1
  have dayAdmitted := dayAdmits day (by omega) days.1
  simp only [strptime, splitMark_padded mem_cons_self (marks_solid [0x2D] (by simp)),
    splitMark_padded mem_cons_self (marks_solid [0x54, 0x74] (by simp)),
    splitMark_padded mem_cons_self (marks_solid [0x3A] (by simp)),
    splitMark_padded mem_cons_self (marks_solid [0x2E] (by simp)),
    splitMark_padded mem_cons_self (marks_solid [0x5A, 0x7A] (by simp)), Option.bind_eq_bind, Option.bind_some, directive_year,
    monthAdmitted, dayAdmitted, hourAdmits hour hours, minuteAdmits minute minutes, secondAdmits second seconds,
    directive_fraction]
  rw [directiveNumber_padded (by omega), directiveNumber_padded (by omega), directiveNumber_padded (by omega),
    directiveNumber_padded (by omega), directiveNumber_padded (by omega), directiveNumber_padded (by omega),
    directiveNumber_padded (by omega), length_padded]
  simp only [and_self, if_true, Nat.reduceSub, Nat.reducePow]

/-- The host reads an instant in whole milliseconds back from its text. -/
theorem strptime_milliseconds (instant : Instant) (whole : instant.microsecond % 1000 = 0) :
    strptime (instant.isoMillisecondText ++ ascii "Z") = some instant := by
  have inRange := instant.inRange
  simp only [instantLimit] at inRange
  have parts := instantOf_parts instant
  have days : instant.micros / secondMicros / 86400 < 3652059 := by
    simp only [secondMicros]
    omega
  obtain ⟨admitted, _⟩ := civilDate_spec days
  have lastDay := admitted.day_le
  obtain ⟨year, month, firstDay, _⟩ := admitted
  have fits : instant.microsecond < 1000000 := Nat.mod_lt _ (by decide)
  have millis : instant.microsecond / 1000 * 1000 = instant.microsecond := by omega
  have marks : ascii "-" = [0x2D] ∧ ascii "T" = [0x54] ∧ ascii ":" = [0x3A] ∧ ascii "." = [0x2E] ∧ ascii "Z" = [0x5A] := by
    decide
  obtain ⟨dash, letter, colon, point, zone⟩ := marks
  simp only [Instant.isoMillisecondText, Instant.isoSecondText, CivilDate.isoText, dash, letter, colon, point, zone,
    append_assoc, cons_append, nil_append]
  rw [strptime_padded (by omega) month ⟨firstDay, lastDay⟩ (by omega) (by omega) (by omega) (by omega), millis]
  exact parts

example : strptime (ascii "2026-1-2t3:4:5.6z") = strptime (ascii "2026-01-02T03:04:05.600Z") ∧
    strptime (ascii "2026-01-02T03:04:05Z") = none := by
  decide +kernel

end Written

end CiCoordinator.Kernel

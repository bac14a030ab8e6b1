import CiCoordinator.Library.Decimal
import Mathlib.Order.Basic
import Mathlib.Order.Lattice
import Mathlib.Order.Defs.LinearOrder

/- The instants of the years 1 to 9999 with a microsecond resolution. -/

namespace CiCoordinator.Library

/-- The number of microseconds in the years 1 to 9999. -/
def instantLimit : Nat :=
  315537897600000000

/-- An instant counts the microseconds since the start of the year 1. -/
structure Instant where
  micros : Nat
  inRange : micros < instantLimit
  deriving DecidableEq

theorem zero_lt_instantLimit : 0 < instantLimit := by
  decide

def secondMicros : Nat :=
  1000000

/-- The digits of a number in a fixed width, with leading zeros. -/
def padded : Nat → Nat → Text
  | 0, _ => []
  | width + 1, number => padded width (number / 10) ++ [digitPoint number]

/-- A date of the proleptic Gregorian calendar. -/
structure CivilDate where
  year : Nat
  month : Nat
  day : Nat
  deriving DecidableEq

/-- The months of a common year with the number of days before each of them. -/
def daysBeforeMonth : Nat → Nat
  | 1 => 0
  | 2 => 31
  | 3 => 59
  | 4 => 90
  | 5 => 120
  | 6 => 151
  | 7 => 181
  | 8 => 212
  | 9 => 243
  | 10 => 273
  | 11 => 304
  | 12 => 334
  | _ => 365

/-- The date of a day of a year, found by an estimate of the month that is at most one too high. -/
def dateInYear (year dayOfYear : Nat) (leap : Bool) : CivilDate :=
  let preceding := fun month : Nat => daysBeforeMonth month + if 2 < month ∧ leap = true then 1 else 0
  let estimate := (dayOfYear + 50) / 32
  let month := if dayOfYear < preceding estimate then estimate - 1 else estimate
  ⟨year, month, dayOfYear - preceding month + 1⟩

/-- The date of a day that is counted from the first day of the year 1. -/
def civilDate (days : Nat) : CivilDate :=
  let fourCenturies := days / 146097
  let inFourCenturies := days % 146097
  let centuries := inFourCenturies / 36524
  let inCentury := inFourCenturies % 36524
  let fourYears := inCentury / 1461
  let inFourYears := inCentury % 1461
  let years := inFourYears / 365
  let inYear := inFourYears % 365
  let year := fourCenturies * 400 + 1 + centuries * 100 + fourYears * 4 + years
  if years = 4 ∨ centuries = 4 then ⟨year - 1, 12, 31⟩
  else dateInYear year inYear (decide (years = 3 ∧ (fourYears ≠ 24 ∨ centuries = 3)))

def CivilDate.isoText (date : CivilDate) : Text :=
  padded 4 date.year ++ ascii "-" ++ padded 2 date.month ++ ascii "-" ++ padded 2 date.day

namespace Instant

variable {first second start finish : Instant} {duration : Nat}

theorem micros_injective : Function.Injective Instant.micros := by
  intro first second equal
  cases first
  cases second
  simp_all

instance linearOrder : LinearOrder Instant :=
  LinearOrder.lift' Instant.micros micros_injective

theorem le_def : first ≤ second ↔ first.micros ≤ second.micros :=
  Iff.rfl

theorem lt_def : first < second ↔ first.micros < second.micros :=
  Iff.rfl

theorem eq_def : first = second ↔ first.micros = second.micros :=
  micros_injective.eq_iff.symm

/-- The instant after a number of microseconds, as long as it is in the range. -/
def after (start : Instant) (duration : Nat) : Option Instant :=
  if inside : start.micros + duration < instantLimit then some ⟨start.micros + duration, inside⟩ else none

/-- The instant before a number of microseconds, as long as it is in the range. -/
def before (finish : Instant) (duration : Nat) : Option Instant :=
  if duration ≤ finish.micros then some ⟨finish.micros - duration, by have := finish.inRange; omega⟩ else none

variable (instant : Instant)

def microsecond : Nat :=
  instant.micros % secondMicros

/-- The instant with its fraction of a second cut off. -/
def wholeSecond : Instant :=
  ⟨instant.micros - instant.micros % secondMicros, by have := instant.inRange; omega⟩

@[simp] theorem after_eq_some : start.after duration = some finish ↔ finish.micros = start.micros + duration := by
  unfold after
  split
  · simp [eq_def, eq_comm]
  · have := finish.inRange
    simp only [reduceCtorEq, false_iff]
    omega

@[simp] theorem after_eq_none : start.after duration = none ↔ instantLimit ≤ start.micros + duration := by
  unfold after
  split
  · simp only [reduceCtorEq, false_iff]
    omega
  · simp only [true_iff]
    omega

@[simp] theorem before_eq_some : finish.before duration = some start ↔ finish.micros = start.micros + duration := by
  unfold before
  split
  · simp only [Option.some.injEq, eq_def]
    omega
  · simp only [reduceCtorEq, false_iff]
    omega

@[simp] theorem before_eq_none : finish.before duration = none ↔ finish.micros < duration := by
  unfold before
  split
  · simp only [reduceCtorEq, false_iff]
    omega
  · simp only [true_iff]
    omega

theorem wholeSecond_le : instant.wholeSecond ≤ instant := by
  rw [le_def]
  simp [wholeSecond]

theorem microsecond_wholeSecond : instant.wholeSecond.microsecond = 0 := by
  simp only [wholeSecond, microsecond]
  have := Nat.mod_add_div instant.micros secondMicros
  have exact : instant.micros - instant.micros % secondMicros = secondMicros * (instant.micros / secondMicros) := by
    omega
  rw [exact, Nat.mul_mod_right]

/-- A sum of whole seconds has no fraction. -/
theorem microsecond_add {seconds : Nat} (whole : start.microsecond = 0)
    (sum : finish.micros = start.micros + secondMicros * seconds) : finish.microsecond = 0 := by
  simp only [microsecond, sum, secondMicros] at whole ⊢
  omega

/-- The whole second is the last instant without a fraction that has come. -/
theorem le_wholeSecond (whole : first.microsecond = 0) (order : first ≤ second) : first ≤ second.wholeSecond := by
  rw [le_def] at order ⊢
  simp only [wholeSecond, microsecond, secondMicros] at *
  omega

theorem wholeSecond_mono (order : first ≤ second) : first.wholeSecond ≤ second.wholeSecond :=
  le_wholeSecond (microsecond_wholeSecond first) ((wholeSecond_le first).trans order)

/-- The text of an instant up to its second. -/
def isoSecondText : Text :=
  let seconds := instant.micros / secondMicros
  (civilDate (seconds / 86400)).isoText ++ ascii "T" ++ padded 2 (seconds % 86400 / 3600) ++ ascii ":" ++
    padded 2 (seconds % 3600 / 60) ++ ascii ":" ++ padded 2 (seconds % 60)

def isoMillisecondText : Text :=
  instant.isoSecondText ++ ascii "." ++ padded 3 (instant.microsecond / 1000)

def isoMicrosecondText : Text :=
  instant.isoSecondText ++ ascii "." ++ padded 6 instant.microsecond

/-- The text of an instant in universal time, without a fraction that is zero. -/
def isoText : Text :=
  (if instant.microsecond = 0 then instant.isoSecondText else instant.isoMicrosecondText) ++ ascii "+00:00"

end Instant

@[simp] theorem scalar_padded (width number : Nat) : (padded width number).scalar = true := by
  induction width generalizing number with
  | zero => rfl
  | succ width ih =>
    have digit := isSurrogate_of_isDigit (isDigit_digitPoint number)
    simp [padded, ih, digit]

@[simp] theorem CivilDate.scalar_isoText (date : CivilDate) : date.isoText.scalar = true := by
  simp [CivilDate.isoText]

namespace Instant

variable (instant : Instant)

@[simp] theorem scalar_isoSecondText : instant.isoSecondText.scalar = true := by
  simp [isoSecondText]

@[simp] theorem scalar_isoMillisecondText : instant.isoMillisecondText.scalar = true := by
  simp [isoMillisecondText]

@[simp] theorem scalar_isoMicrosecondText : instant.isoMicrosecondText.scalar = true := by
  simp [isoMicrosecondText]

@[simp] theorem scalar_isoText : instant.isoText.scalar = true := by
  rw [isoText]
  split <;> simp

end Instant

end CiCoordinator.Library

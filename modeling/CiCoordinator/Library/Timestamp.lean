import CiCoordinator.Library.Instant

/- The reading of timestamps in universal time. -/

namespace CiCoordinator.Library

open List Option

def isLeapYear (year : Nat) : Bool :=
  decide (year % 4 = 0 ∧ (year % 100 ≠ 0 ∨ year % 400 = 0))

/-- The number of days before a year, counted from the year 1. -/
def daysBeforeYear (year : Nat) : Nat :=
  365 * (year - 1) + (year - 1) / 4 - (year - 1) / 100 + (year - 1) / 400

/-- The days of a year before a month. -/
def daysBefore (year month : Nat) : Nat :=
  daysBeforeMonth month + if 2 < month ∧ isLeapYear year = true then 1 else 0

namespace CivilDate

/-- A date that the calendar has. -/
def Admitted (date : CivilDate) : Prop :=
  (1 ≤ date.year ∧ date.year ≤ 9999) ∧ (1 ≤ date.month ∧ date.month ≤ 12) ∧ 1 ≤ date.day ∧
    daysBefore date.year date.month + date.day ≤
      if date.month = 12 then (if isLeapYear date.year = true then 366 else 365) else daysBefore date.year (date.month + 1)

instance (date : CivilDate) : Decidable date.Admitted := by
  unfold Admitted
  infer_instance

/-- The number of days before a date. -/
def ordinal (date : CivilDate) : Nat :=
  daysBeforeYear date.year + daysBefore date.year date.month + (date.day - 1)

end CivilDate

/-- The month and the day of a day of a year, with the number of days before the month. -/
theorem dateInYear_spec (leap : Bool) (day : Nat) (bounded : day < if leap = true then 366 else 365) :
    let date := dateInYear 0 day leap
    let before := fun month : Nat => daysBeforeMonth month + if 2 < month ∧ leap = true then 1 else 0
    (1 ≤ date.month ∧ date.month ≤ 12) ∧ 1 ≤ date.day ∧ before date.month + (date.day - 1) = day ∧ before date.month + date.day ≤
        if date.month = 12 then (if leap = true then 366 else 365) else before (date.month + 1) := by
  cases leap with
  | false =>
    have each : ∀ day < 365, let date := dateInYear 0 day false
        let before := fun month : Nat => daysBeforeMonth month + if 2 < month ∧ false = true then 1 else 0
        (1 ≤ date.month ∧ date.month ≤ 12) ∧ 1 ≤ date.day ∧ before date.month + (date.day - 1) = day ∧
          before date.month + date.day ≤
            if date.month = 12 then (if false = true then 366 else 365) else before (date.month + 1) := by
      decide +kernel
    exact each day bounded
  | true =>
    have each : ∀ day < 366, let date := dateInYear 0 day true
        let before := fun month : Nat => daysBeforeMonth month + if 2 < month ∧ true = true then 1 else 0
        (1 ≤ date.month ∧ date.month ≤ 12) ∧ 1 ≤ date.day ∧ before date.month + (date.day - 1) = day ∧
          before date.month + date.day ≤
            if date.month = 12 then (if true = true then 366 else 365) else before (date.month + 1) := by
      decide +kernel
    exact each day bounded

/-- A day of a year that the calendar has. -/
theorem dateInYear_ordinal {year day : Nat} (inRange : 1 ≤ year ∧ year ≤ 9999)
    (bounded : day < if isLeapYear year = true then 366 else 365) :
    (dateInYear year day (isLeapYear year)).Admitted ∧
      (dateInYear year day (isLeapYear year)).ordinal = daysBeforeYear year + day := by
  obtain ⟨month, first, sum, last⟩ := dateInYear_spec (isLeapYear year) day bounded
  refine ⟨⟨inRange, month, first, last⟩, ?_⟩
  rw [CivilDate.ordinal, Nat.add_assoc]
  exact congrArg _ sum

theorem lastDay_ordinal {year : Nat} (inRange : 1 ≤ year ∧ year ≤ 9999) (leap : isLeapYear year = true) :
    (⟨year, 12, 31⟩ : CivilDate).Admitted ∧ (⟨year, 12, 31⟩ : CivilDate).ordinal = daysBeforeYear year + 365 := by
  refine ⟨⟨inRange, ?_, ?_, ?_⟩, ?_⟩
  · simp
  · simp
  · simp [daysBefore, daysBeforeMonth, leap]
  · simp [CivilDate.ordinal, daysBefore, daysBeforeMonth, leap]

/-- The days before a year of a century, counted by its four hundred, hundred and four years. -/
theorem daysBeforeYear_eq {year fourCenturies centuries fourYears years : Nat}
    (parts : year = fourCenturies * 400 + 1 + centuries * 100 + fourYears * 4 + years) (fewCenturies : centuries ≤ 3)
    (fewFours : fourYears ≤ 24) (fewYears : years ≤ 3) :
    daysBeforeYear year = 146097 * fourCenturies + 36524 * centuries + 1461 * fourYears + 365 * years := by
  have fours : (year - 1) / 4 = 100 * fourCenturies + 25 * centuries + fourYears := by omega
  have hundreds : (year - 1) / 100 = 4 * fourCenturies + centuries := by omega
  have fourHundreds : (year - 1) / 400 = fourCenturies := by omega
  rw [daysBeforeYear, fours, hundreds, fourHundreds]
  omega

/-- The calendar has the date of every day, and the date counts the days before it. -/
theorem civilDate_spec {days : Nat} (bounded : days < 3652059) : (civilDate days).Admitted ∧ (civilDate days).ordinal = days := by
  unfold civilDate
  dsimp only
  have four := Nat.div_add_mod days 146097
  have fourRest := Nat.mod_lt days (show 0 < 146097 by decide)
  generalize days / 146097 = fourCenturies, days % 146097 = inFourCenturies at *
  have hundred := Nat.div_add_mod inFourCenturies 36524
  have hundredRest := Nat.mod_lt inFourCenturies (show 0 < 36524 by decide)
  generalize inFourCenturies / 36524 = centuries, inFourCenturies % 36524 = inCentury at *
  have fours := Nat.div_add_mod inCentury 1461
  have foursRest := Nat.mod_lt inCentury (show 0 < 1461 by decide)
  generalize inCentury / 1461 = fourYears, inCentury % 1461 = inFourYears at *
  have ones := Nat.div_add_mod inFourYears 365
  have onesRest := Nat.mod_lt inFourYears (show 0 < 365 by decide)
  generalize inFourYears / 365 = years, inFourYears % 365 = inYear at *
  split
  · rename_i special
    have leap : isLeapYear (fourCenturies * 400 + 1 + centuries * 100 + fourYears * 4 + years - 1) = true := by
      rw [isLeapYear, decide_eq_true_eq]
      omega
    obtain ⟨admitted, counted⟩ := lastDay_ordinal (by omega) leap
    refine ⟨admitted, ?_⟩
    rw [counted]
    by_cases full : centuries = 4
    · rw [@daysBeforeYear_eq _ fourCenturies 3 24 3 (by omega) (by omega) (by omega) (by omega)]
      omega
    · rw [@daysBeforeYear_eq _ fourCenturies centuries fourYears 3 (by omega) (by omega) (by omega) (by omega)]
      omega
  · rename_i ordinary
    have leap : decide (years = 3 ∧ (fourYears ≠ 24 ∨ centuries = 3)) =
        isLeapYear (fourCenturies * 400 + 1 + centuries * 100 + fourYears * 4 + years) := by
      rw [isLeapYear, decide_eq_decide]
      omega
    rw [leap]
    have within : inYear < if isLeapYear (fourCenturies * 400 + 1 + centuries * 100 + fourYears * 4 + years) = true then 366
        else 365 := by
      split <;> omega
    obtain ⟨admitted, counted⟩ := dateInYear_ordinal (by omega) within
    refine ⟨admitted, ?_⟩
    rw [counted, daysBeforeYear_eq rfl (by omega) (by omega) (by omega)]
    omega

/-- The digits of a fixed place, if they are digits. -/
def readFixed (digits : Text) : Option Nat :=
  if digits.all CodePoint.isDigit = true then some (readDigits digits) else none

/-- The fraction of a second in microseconds, and the text after it. -/
def readFraction : Text → Option (Nat × Text)
  | [] => some (0, [])
  | point :: rest =>
    if [point] = ascii "." then
      let digits := rest.takeWhile CodePoint.isDigit
      if 1 ≤ digits.length ∧ digits.length ≤ 6 then
        some (readDigits digits * 10 ^ (6 - digits.length), rest.drop digits.length)
      else none
    else some (0, point :: rest)

/-- The instant of a date and a time of the day. -/
def instantOf (date : CivilDate) (hour minute second micros : Nat) : Option Instant :=
  if date.Admitted ∧ hour < 24 ∧ minute < 60 ∧ second < 60 then
    let seconds := date.ordinal * 86400 + hour * 3600 + minute * 60 + second
    let number := seconds * secondMicros + micros
    if inside : number < instantLimit then some ⟨number, inside⟩ else none
  else none

/-- A timestamp of a date, a time, a fraction that can be left out and the zone of universal time. -/
def readTimestamp (text : Text) : Option Instant :=
  match text with
  | y1 :: y2 :: y3 :: y4 :: s1 :: m1 :: m2 :: s2 :: d1 :: d2 :: t :: h1 :: h2 :: c1 :: n1 :: n2 :: c2 :: e1 :: e2 :: rest => do
    if [s1, s2, t, c1, c2] ≠ ascii "--T::" then none
    else
      let year ← readFixed [y1, y2, y3, y4]
      let month ← readFixed [m1, m2]
      let day ← readFixed [d1, d2]
      let hour ← readFixed [h1, h2]
      let minute ← readFixed [n1, n2]
      let second ← readFixed [e1, e2]
      let (micros, zone) ← readFraction rest
      if zone ≠ ascii "Z" ∧ zone ≠ ascii "+00:00" then none
      else instantOf ⟨year, month, day⟩ hour minute second micros
  | _ => none

section RoundTrip

theorem padded_isDigit {width number : Nat} {point : CodePoint} (member : point ∈ padded width number) :
    point.isDigit = true := by
  induction width generalizing number with
  | zero => cases member
  | succ width ih =>
    rcases mem_append.mp member with earlier | last
    · exact ih earlier
    · rw [mem_singleton.mp last, isDigit_digitPoint]

@[simp] theorem length_padded (width number : Nat) : (padded width number).length = width := by
  induction width generalizing number with
  | zero => rfl
  | succ width ih => rw [padded, length_append, ih, length_singleton]

theorem readDigits_padded (width number : Nat) : readDigits (padded width number) = number % 10 ^ width := by
  induction width generalizing number with
  | zero => simp [padded, readDigits, Nat.mod_one]
  | succ width ih =>
    have last : readDigits [digitPoint number] = number % 10 := by simp [readDigits]
    rw [padded, readDigits_append, ih, last, length_singleton, pow_one, pow_succ', Nat.mod_mul]
    omega

theorem readFixed_padded {width number : Nat} (fits : number < 10 ^ width) : readFixed (padded width number) = some number := by
  have digits : (padded width number).all CodePoint.isDigit = true := all_eq_true.mpr fun _ member => padded_isDigit member
  rw [readFixed, if_pos digits, readDigits_padded, Nat.mod_eq_of_lt fits]

/-- No month has more than thirty-one days. -/
theorem CivilDate.Admitted.day_le {date : CivilDate} (admitted : date.Admitted) : date.day ≤ 31 := by
  obtain ⟨year, month, day⟩ := date
  obtain ⟨_, ⟨first, last⟩, _, within⟩ := admitted
  dsimp only at *
  have months : month = 1 ∨ month = 2 ∨ month = 3 ∨ month = 4 ∨ month = 5 ∨ month = 6 ∨ month = 7 ∨ month = 8 ∨ month = 9 ∨
      month = 10 ∨ month = 11 ∨ month = 12 := by omega
  cases leap : isLeapYear year <;>
    rcases months with rfl | rfl | rfl | rfl | rfl | rfl | rfl | rfl | rfl | rfl | rfl | rfl <;>
      simp [daysBefore, daysBeforeMonth, leap] at within <;> omega

/-- The date and the time of an instant lead back to it. -/
theorem instantOf_parts (instant : Instant) : let seconds := instant.micros / secondMicros
    instantOf (civilDate (seconds / 86400)) (seconds % 86400 / 3600) (seconds % 3600 / 60) (seconds % 60)
      instant.microsecond = some instant := by
  have inRange := instant.inRange
  simp only [instantLimit] at inRange
  have days : instant.micros / secondMicros / 86400 < 3652059 := by
    simp only [secondMicros]
    omega
  obtain ⟨admitted, ordinal⟩ := civilDate_spec days
  have number : ((civilDate (instant.micros / secondMicros / 86400)).ordinal * 86400 +
      instant.micros / secondMicros % 86400 / 3600 * 3600 + instant.micros / secondMicros % 3600 / 60 * 60 +
      instant.micros / secondMicros % 60) * secondMicros + instant.microsecond = instant.micros := by
    rw [ordinal, Instant.microsecond]
    simp only [secondMicros]
    omega
  dsimp only
  rw [instantOf, if_pos ⟨admitted, by omega, by omega, by omega⟩]
  dsimp only
  rw [dif_pos (by rw [number]; exact instant.inRange), some.injEq, Instant.eq_def]
  exact number

variable (instant : Instant)

/-- A text that starts with the seconds of an instant and goes on with its fraction. -/
theorem readTimestamp_text {rest zone : Text} (fraction : readFraction rest = some (instant.microsecond, zone))
    (universal : zone = ascii "Z" ∨ zone = ascii "+00:00") :
    readTimestamp (instant.isoSecondText ++ rest) = some instant := by
  have inRange := instant.inRange
  simp only [instantLimit] at inRange
  have parts := instantOf_parts instant
  dsimp only at parts
  have days : instant.micros / secondMicros / 86400 < 3652059 := by
    simp only [secondMicros]
    omega
  obtain ⟨admitted, _⟩ := civilDate_spec days
  have smallDay := admitted.day_le
  obtain ⟨year, month, _⟩ := admitted
  have readYear := @readFixed_padded 4 (civilDate (instant.micros / secondMicros / 86400)).year (by omega)
  have readMonth := @readFixed_padded 2 (civilDate (instant.micros / secondMicros / 86400)).month (by omega)
  have readDay := @readFixed_padded 2 (civilDate (instant.micros / secondMicros / 86400)).day (by omega)
  have readHour := @readFixed_padded 2 (instant.micros / secondMicros % 86400 / 3600) (by omega)
  have readMinute := @readFixed_padded 2 (instant.micros / secondMicros % 3600 / 60) (by omega)
  have readSecond := @readFixed_padded 2 (instant.micros / secondMicros % 60) (by omega)
  have zones : ¬ (zone ≠ ascii "Z" ∧ zone ≠ ascii "+00:00") := by tauto
  simp only [padded, nil_append, cons_append] at readYear readMonth readDay readHour readMinute readSecond
  simp only [Instant.isoSecondText, CivilDate.isoText, padded, nil_append, cons_append, append_assoc]
  show readTimestamp (_ :: _ :: _ :: _ :: _ :: _ :: _ :: _ :: _ :: _ :: _ :: _ :: _ :: _ :: _ :: _ :: _ :: _ :: _ :: rest) =
    some instant
  rw [readTimestamp]
  rw [if_neg (by decide)]
  simp only [readYear, readMonth, readDay, readHour, readMinute, readSecond, fraction, if_neg zones, parts, bind_eq_bind,
    bind_some]

theorem readFraction_padded {micros : Nat} {zone : Text} (fits : micros < 10 ^ 6)
    (universal : zone = ascii "Z" ∨ zone = ascii "+00:00") :
    readFraction (ascii "." ++ (padded 6 micros ++ zone)) = some (micros, zone) := by
  have digits : (padded 6 micros ++ zone).takeWhile CodePoint.isDigit = padded 6 micros := by
    rw [takeWhile_append_of_pos fun _ member => padded_isDigit member]
    rcases universal with rfl | rfl
    · exact append_nil _
    · exact append_nil _
  change readFraction (_ :: (padded 6 micros ++ zone)) = _
  have count : 1 ≤ (padded 6 micros).length ∧ (padded 6 micros).length ≤ 6 := by simp
  rw [readFraction, if_pos (by decide)]
  simp only [digits, if_pos count, readDigits_padded, Nat.mod_eq_of_lt fits]
  simp only [length_padded, Nat.sub_self, pow_zero, mul_one, drop_left' (length_padded 6 micros)]

/-- The text of an instant in a zone of universal time leads back to it. -/
theorem readTimestamp_zone {zone : Text} (universal : zone = ascii "Z" ∨ zone = ascii "+00:00") :
    readTimestamp ((if instant.microsecond = 0 then instant.isoSecondText else instant.isoMicrosecondText) ++ zone) =
      some instant := by
  split
  · rename_i whole
    refine readTimestamp_text instant ?_ universal
    rw [whole]
    rcases universal with rfl | rfl
    · rfl
    · rfl
  · rw [Instant.isoMicrosecondText, append_assoc, append_assoc]
    refine readTimestamp_text instant (readFraction_padded ?_ universal) universal
    exact Nat.mod_lt _ (by decide)

theorem readTimestamp_isoText : readTimestamp instant.isoText = some instant :=
  readTimestamp_zone instant (.inr rfl)

theorem isoText_injective : Function.Injective Instant.isoText := by
  intro first second same
  have read := congrArg readTimestamp same
  rw [readTimestamp_isoText, readTimestamp_isoText] at read
  exact some.inj read

end RoundTrip

end CiCoordinator.Library

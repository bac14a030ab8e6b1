import CiCoordinator.Library.Timestamp
import Mathlib.Data.List.Lex
import Mathlib.Order.Fin.Basic
import Mathlib.Tactic.IntervalCases

/- The proof that the texts of instants are ordered as the instants are. -/

namespace CiCoordinator.Library

open List

section Lexicographic

variable {left right first second : Text}

/-- Texts of one length are compared before what follows them. -/
theorem append_lt_of_lt (length : left.length = right.length) (before : left < right) : left ++ first < right ++ second := by
  induction left generalizing right with
  | nil =>
    cases right with
    | nil => exact absurd before (lt_irrefl _)
    | cons point right => cases length
  | cons point left ih =>
    cases right with
    | nil => cases length
    | cons other right =>
      rw [cons_append, cons_append, cons_lt_cons_iff]
      rcases cons_lt_cons_iff.mp before with less | ⟨same, rest⟩
      · exact .inl less
      · exact .inr ⟨same, ih (Nat.succ.inj length) rest⟩

theorem append_lt_append_left (before : first < second) : left ++ first < left ++ second := by
  induction left with
  | nil => exact before
  | cons point left ih => exact cons_lt_cons_iff.mpr (.inr ⟨rfl, ih⟩)

theorem append_le_append_left (order : first ≤ second) : left ++ first ≤ left ++ second := by
  rcases lt_or_eq_of_le order with less | same
  · exact le_of_lt (append_lt_append_left less)
  · rw [same]

theorem digitPoint_lt {small large : Nat} (order : small % 10 < large % 10) : digitPoint small < digitPoint large := by
  rw [Fin.lt_def]
  exact Nat.add_lt_add_left order 48

/-- Numbers of one width are ordered as their digits are. -/
theorem padded_lt {width small large : Nat} (fits : large < 10 ^ width) (order : small < large) :
    padded width small < padded width large := by
  induction width generalizing small large with
  | zero => omega
  | succ width ih =>
    rw [pow_succ] at fits
    rw [padded, padded]
    by_cases leading : small / 10 < large / 10
    · exact append_lt_of_lt (by rw [length_padded, length_padded]) (ih (by omega) leading)
    · have same : small / 10 = large / 10 := by omega
      rw [same]
      exact append_lt_append_left (cons_lt_cons_iff.mpr (.inl (digitPoint_lt (by omega))))

/-- A number is compared before the text that follows it. -/
theorem padded_append_le {width small large : Nat} (fits : large < 10 ^ width)
    (order : small < large ∨ small = large ∧ first ≤ second) : padded width small ++ first ≤ padded width large ++ second := by
  rcases order with less | ⟨rfl, rest⟩
  · exact le_of_lt (append_lt_of_lt (by rw [length_padded, length_padded]) (padded_lt fits less))
  · exact append_le_append_left rest

end Lexicographic

namespace CivilDate

/-- A date is before another one, part by part. -/
def Before (first second : CivilDate) : Prop :=
  first.year < second.year ∨ first.year = second.year ∧
    (first.month < second.month ∨ first.month = second.month ∧ first.day < second.day)

variable {first second : CivilDate}

theorem daysBeforeYear_succ {year : Nat} (positive : 1 ≤ year) :
    daysBeforeYear (year + 1) = daysBeforeYear year + if isLeapYear year = true then 366 else 365 := by
  obtain ⟨before, rfl⟩ : ∃ before, year = before + 1 := ⟨year - 1, by omega⟩
  have fours : (before + 1) / 4 = before / 4 + if (before + 1) % 4 = 0 then 1 else 0 := by split <;> omega
  have hundreds : (before + 1) / 100 = before / 100 + if (before + 1) % 100 = 0 then 1 else 0 := by split <;> omega
  have fourHundreds : (before + 1) / 400 = before / 400 + if (before + 1) % 400 = 0 then 1 else 0 := by split <;> omega
  have nested : before / 100 ≤ before / 4 := Nat.div_le_div_left (by decide) (by decide)
  simp only [daysBeforeYear, isLeapYear, decide_eq_true_eq, Nat.add_sub_cancel, fours, hundreds, fourHundreds]
  by_cases four : (before + 1) % 4 = 0
  · by_cases hundred : (before + 1) % 100 = 0
    · by_cases fourHundred : (before + 1) % 400 = 0
      · rw [if_pos four, if_pos hundred, if_pos fourHundred, if_pos ⟨four, .inr fourHundred⟩]
        omega
      · rw [if_pos four, if_pos hundred, if_neg fourHundred, if_neg (by omega)]
        omega
    · rw [if_pos four, if_neg hundred, if_neg (by omega), if_pos ⟨four, .inl hundred⟩]
      omega
  · rw [if_neg four, if_neg (by omega), if_neg (by omega), if_neg (by omega)]
    omega

theorem daysBeforeYear_mono {early late : Nat} (positive : 1 ≤ early) (order : early ≤ late) :
    daysBeforeYear early ≤ daysBeforeYear late := by
  induction late, order using Nat.le_induction with
  | base => exact le_rfl
  | succ late order ih =>
    rw [daysBeforeYear_succ (by omega)]
    omega

theorem daysBefore_mono {year early late : Nat} (low : 1 ≤ early) (order : early ≤ late) (high : late ≤ 12) :
    daysBefore year early ≤ daysBefore year late := by
  cases leap : isLeapYear year <;> simp only [daysBefore, leap]
  · interval_cases late <;> interval_cases early <;> decide
  · interval_cases late <;> interval_cases early <;> decide

/-- The days of a date within its year. -/
theorem dayOfYear_le (admitted : first.Admitted) :
    daysBefore first.year first.month + first.day ≤ if isLeapYear first.year = true then 366 else 365 := by
  obtain ⟨year, month, day⟩ := first
  obtain ⟨_, ⟨low, high⟩, _, last⟩ := admitted
  dsimp only at *
  by_cases december : month = 12
  · rwa [if_pos december] at last
  · rw [if_neg december] at last
    refine last.trans ((daysBefore_mono (by omega) (show month + 1 ≤ 12 by omega) le_rfl).trans ?_)
    cases leap : isLeapYear year <;> simp [daysBefore, daysBeforeMonth, leap]

theorem ordinal_lt (firstAdmitted : first.Admitted) (secondAdmitted : second.Admitted) (before : first.Before second) :
    first.ordinal < second.ordinal := by
  have bounded := dayOfYear_le firstAdmitted
  obtain ⟨⟨firstYear, _⟩, ⟨firstMonth, firstMonthLast⟩, firstDay, within⟩ := firstAdmitted
  obtain ⟨_, ⟨secondMonth, secondMonthLast⟩, secondDay, _⟩ := secondAdmitted
  rw [ordinal, ordinal]
  rcases before with earlier | ⟨sameYear, earlier | ⟨sameMonth, earlier⟩⟩
  · have years := daysBeforeYear_mono (by omega) (show first.year + 1 ≤ second.year from earlier)
    rw [daysBeforeYear_succ firstYear] at years
    omega
  · rw [if_neg (by omega)] at within
    have months := @daysBefore_mono first.year _ _ (by omega) (show first.month + 1 ≤ second.month from earlier) secondMonthLast
    rw [← sameYear]
    omega
  · rw [← sameYear, ← sameMonth]
    omega

theorem before_of_ordinal_lt (firstAdmitted : first.Admitted) (secondAdmitted : second.Admitted)
    (less : first.ordinal < second.ordinal) : first.Before second := by
  by_contra notBefore
  by_cases same : first = second
  · rw [same] at less
    exact lt_irrefl _ less
  · have reverse : second.Before first := by
      obtain ⟨firstYear, firstMonth, firstDay⟩ := first
      obtain ⟨secondYear, secondMonth, secondDay⟩ := second
      simp only [CivilDate.mk.injEq, not_and] at same
      simp only [Before] at notBefore ⊢
      omega
    exact Nat.lt_asymm less (ordinal_lt secondAdmitted firstAdmitted reverse)

end CivilDate

/-- The texts of dates are ordered as the dates are, before what follows them. -/
theorem isoText_append_le {first second : CivilDate} {left right : Text} (secondAdmitted : second.Admitted)
    (order : first.Before second ∨ first = second ∧ left ≤ right) :
    first.isoText ++ left ≤ second.isoText ++ right := by
  have smallDay := secondAdmitted.day_le
  obtain ⟨⟨_, year⟩, ⟨_, month⟩, _⟩ := secondAdmitted
  simp only [CivilDate.isoText, append_assoc]
  rcases order with (earlier | ⟨sameYear, earlier | ⟨sameMonth, earlier⟩⟩) | ⟨rfl, rest⟩
  · exact padded_append_le (by omega) (.inl earlier)
  · refine padded_append_le (by omega) (.inr ⟨sameYear, append_le_append_left ?_⟩)
    exact padded_append_le (by omega) (.inl earlier)
  · refine padded_append_le (by omega) (.inr ⟨sameYear, append_le_append_left ?_⟩)
    refine padded_append_le (by omega) (.inr ⟨sameMonth, append_le_append_left ?_⟩)
    exact padded_append_le (by omega) (.inl earlier)
  · repeat' apply append_le_append_left
    exact rest

/-- The texts of instants in milliseconds are ordered as the instants are. -/
theorem isoMillisecondText_mono {first second : Instant} (order : first ≤ second) :
    first.isoMillisecondText ≤ second.isoMillisecondText := by
  have firstRange := first.inRange
  have secondRange := second.inRange
  rw [Instant.le_def] at order
  simp only [instantLimit] at firstRange secondRange
  simp only [Instant.isoMillisecondText, Instant.isoSecondText, Instant.microsecond, secondMicros, append_assoc]
  obtain ⟨firstAdmitted, firstDays⟩ := @civilDate_spec (first.micros / 1000000 / 86400) (by omega)
  obtain ⟨secondAdmitted, secondDays⟩ := @civilDate_spec (second.micros / 1000000 / 86400) (by omega)
  refine isoText_append_le secondAdmitted ?_
  by_cases sameDay : first.micros / 1000000 / 86400 = second.micros / 1000000 / 86400
  · refine .inr ⟨congrArg civilDate sameDay, append_le_append_left (padded_append_le (by omega) ?_)⟩
    rcases Nat.lt_trichotomy (first.micros / 1000000 % 86400 / 3600) (second.micros / 1000000 % 86400 / 3600) with
      less | sameHour | more
    · exact .inl less
    · refine .inr ⟨sameHour, append_le_append_left (padded_append_le (by omega) ?_)⟩
      rcases Nat.lt_trichotomy (first.micros / 1000000 % 3600 / 60) (second.micros / 1000000 % 3600 / 60) with
        less | sameMinute | more
      · exact .inl less
      · refine .inr ⟨sameMinute, append_le_append_left (padded_append_le (by omega) ?_)⟩
        rcases Nat.lt_trichotomy (first.micros / 1000000 % 60) (second.micros / 1000000 % 60) with less | sameSecond | more
        · exact .inl less
        · refine .inr ⟨sameSecond, append_le_append_left ?_⟩
          have millis : first.micros % 1000000 / 1000 ≤ second.micros % 1000000 / 1000 := by omega
          rcases millis.lt_or_eq with less | same
          · exact le_of_lt (padded_lt (by omega) less)
          · rw [same]
        · omega
      · omega
    · omega
  · refine .inl (CivilDate.before_of_ordinal_lt firstAdmitted secondAdmitted ?_)
    rw [firstDays, secondDays]
    omega

/-- The fraction of a second in milliseconds. -/
theorem readFraction_milliseconds {micros : Nat} (fits : micros < 10 ^ 6) (whole : micros % 1000 = 0) :
    readFraction (ascii "." ++ (padded 3 (micros / 1000) ++ ascii "Z")) = some (micros, ascii "Z") := by
  have digits : (padded 3 (micros / 1000) ++ ascii "Z").takeWhile CodePoint.isDigit = padded 3 (micros / 1000) := by
    rw [takeWhile_append_of_pos fun _ member => padded_isDigit member]
    exact append_nil _
  have small : micros / 1000 < 10 ^ 3 := by omega
  change readFraction (_ :: (padded 3 (micros / 1000) ++ ascii "Z")) = _
  rw [readFraction, if_pos (by decide)]
  dsimp only
  rw [digits, length_padded, if_pos (by decide), readDigits_padded, Nat.mod_eq_of_lt small,
    drop_left' (length_padded 3 (micros / 1000))]
  congr 2
  omega

/-- The text of an instant in milliseconds leads back to it. -/
theorem readTimestamp_milliseconds (instant : Instant) (whole : instant.microsecond % 1000 = 0) :
    readTimestamp (instant.isoMillisecondText ++ ascii "Z") = some instant := by
  have fits : instant.microsecond < 10 ^ 6 := Nat.mod_lt _ (by decide)
  rw [Instant.isoMillisecondText, append_assoc, append_assoc]
  exact readTimestamp_text instant (readFraction_milliseconds fits whole) (.inl rfl)

section Milliseconds

variable {first second : Instant}

theorem isoMillisecondText_append_mono {rest : Text} (order : first ≤ second) :
    first.isoMillisecondText ++ rest ≤ second.isoMillisecondText ++ rest := by
  rcases lt_or_eq_of_le (isoMillisecondText_mono order) with less | same
  · exact le_of_lt (append_lt_of_lt (by simp [Instant.isoMillisecondText, Instant.isoSecondText, CivilDate.isoText]) less)
  · rw [same]

/-- Instants in milliseconds are ordered as their texts are. -/
theorem isoMillisecondText_le_iff (firstWhole : first.microsecond % 1000 = 0) (secondWhole : second.microsecond % 1000 = 0) :
    first.isoMillisecondText ++ ascii "Z" ≤ second.isoMillisecondText ++ ascii "Z" ↔ first ≤ second := by
  refine ⟨fun order => ?_, isoMillisecondText_append_mono⟩
  by_contra later
  have reverse := @isoMillisecondText_append_mono second first (ascii "Z") (not_le.mp later).le
  have read := congrArg readTimestamp (le_antisymm order reverse)
  rw [readTimestamp_milliseconds first firstWhole, readTimestamp_milliseconds second secondWhole] at read
  exact later (Option.some.inj read).le

end Milliseconds

end CiCoordinator.Library

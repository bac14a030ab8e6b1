import Mathlib.Algebra.Order.Ring.Nat
import Mathlib.Data.List.Basic

/- Tests of a predictor on growing prefixes of a sequence and why they never look ahead. -/

namespace CiCoordinator.Library

open List

variable {A : Type}

/-- A test starts after some training data, has holdouts of one size, and measures errors in its first folds. -/
structure TestSchedule where
  training : Nat
  horizon : Nat
  calibration : Nat

/-- A predictor with the measure of what it predicts. -/
structure Predictor (A : Type) where
  predict : List A → Nat
  measure : List A → Nat

namespace TestSchedule

variable (schedule : TestSchedule) (predictor : Predictor A) (data : List A) (fold : Nat)

/-- The number of items before the holdout of a fold. -/
def origin : Nat :=
  schedule.training + schedule.horizon * fold

/-- The items that a fold tests. -/
def holdout : List A :=
  (data.drop (schedule.origin fold)).take schedule.horizon

def predictionAt : Nat :=
  predictor.predict (data.take (schedule.origin fold))

def errorAt : Nat :=
  ((schedule.predictionAt predictor data fold : Int) - predictor.measure (schedule.holdout data fold)).natAbs

/-- The greatest error of the earlier folds. -/
def radiusAt : Nat :=
  ((List.range fold).map (schedule.errorAt predictor data)).foldl max 0

/-- The interval of a fold; the first folds have none. -/
def intervalAt : Option (Nat × Nat) :=
  if fold < schedule.calibration then none
  else some (schedule.predictionAt predictor data fold - schedule.radiusAt predictor data fold,
    schedule.predictionAt predictor data fold + schedule.radiusAt predictor data fold)

end TestSchedule

section LookAhead

variable {schedule : TestSchedule} {predictor : Predictor A} {data others : List A} {fold : Nat}

theorem TestSchedule.origin_succ : schedule.origin (fold + 1) = schedule.origin fold + schedule.horizon := by
  rw [origin, origin, Nat.mul_add, Nat.mul_one, Nat.add_assoc]

theorem TestSchedule.origin_mono {earlier : Nat} (before : earlier ≤ fold) : schedule.origin earlier ≤ schedule.origin fold :=
  Nat.add_le_add_left (Nat.mul_le_mul_left _ before) _

/-- Sequences that agree on a prefix agree on a shorter one. -/
theorem take_eq_of_le {short long : Nat} (shorter : short ≤ long) (agree : data.take long = others.take long) :
    data.take short = others.take short := by
  have left := @take_take _ short long data
  have right := @take_take _ short long others
  rw [Nat.min_eq_left shorter] at left right
  rw [← left, ← right, agree]

/-- The holdout of a fold is before the origin of the next fold. -/
theorem TestSchedule.holdout_congr (agree : data.take (schedule.origin (fold + 1)) = others.take (schedule.origin (fold + 1))) :
    schedule.holdout data fold = schedule.holdout others fold := by
  have cut : ∀ items : List A, schedule.holdout items fold = (items.take (schedule.origin (fold + 1))).drop (schedule.origin fold) := by
    intro items
    rw [holdout, origin_succ, drop_take, Nat.add_sub_cancel_left]
  rw [cut, cut, agree]

theorem TestSchedule.predictionAt_congr (agree : data.take (schedule.origin fold) = others.take (schedule.origin fold)) :
    schedule.predictionAt predictor data fold = schedule.predictionAt predictor others fold :=
  congrArg predictor.predict agree

/-- The error of a fold depends on the items before the next fold alone. -/
theorem TestSchedule.errorAt_congr (agree : data.take (schedule.origin (fold + 1)) = others.take (schedule.origin (fold + 1))) :
    schedule.errorAt predictor data fold = schedule.errorAt predictor others fold := by
  have earlier := take_eq_of_le (TestSchedule.origin_mono (Nat.le_succ fold)) agree
  rw [errorAt, errorAt, predictionAt_congr earlier, holdout_congr agree]

section

variable (agree : data.take (schedule.origin fold) = others.take (schedule.origin fold))
include agree

theorem TestSchedule.radiusAt_congr : schedule.radiusAt predictor data fold = schedule.radiusAt predictor others fold := by
  have errors : (List.range fold).map (schedule.errorAt predictor data) =
      (List.range fold).map (schedule.errorAt predictor others) := by
    refine map_congr_left fun earlier member => ?_
    exact errorAt_congr (take_eq_of_le (origin_mono (mem_range.mp member)) agree)
  rw [radiusAt, radiusAt, errors]

/-- The prediction and the interval of a fold depend on the items before its holdout alone. -/
theorem TestSchedule.no_look_ahead : schedule.predictionAt predictor data fold = schedule.predictionAt predictor others fold ∧
      schedule.intervalAt predictor data fold = schedule.intervalAt predictor others fold := by
  have prediction := @predictionAt_congr _ schedule predictor _ _ fold agree
  refine ⟨prediction, ?_⟩
  rw [intervalAt, intervalAt, prediction, radiusAt_congr agree]

end

end LookAhead

end CiCoordinator.Library

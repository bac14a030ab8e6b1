import CiCoordinator.CiEconomics.AnalyticsModels
import CiCoordinator.Library.BackTest

/- The forecast of the occupancy of runners and the test of the forecast on the days before it. -/

namespace CiCoordinator.CiEconomics

open Library Kernel

def forecastTrainingDays : Nat :=
  14

def forecastCalibrationFolds : Nat :=
  4

def forecastMinimumEvaluationFolds : Nat :=
  4

def forecastMinimumCoverageBps : Nat :=
  8000

structure CohortEvidence where
  knownWorkflowVersions : Nat
  unknownWorkflowAttempts : Nat
  eventCount : Nat
  definitionStable : Bool
  observedDefinitionChanges : Bool
  compatible : Bool
  counts : isCount knownWorkflowVersions = true ∧ isCount unknownWorkflowAttempts = true ∧ isCount eventCount = true

inductive FoldPhase where
  | calibration
  | evaluation
  deriving DecidableEq

structure ForecastFold where
  trainingUntil : Instant
  testUntil : Instant
  predictedRunnerMs : Nat
  actualRunnerMs : Nat
  lowerRunnerMs : Option Nat
  upperRunnerMs : Option Nat
  phase : FoldPhase
  deriving DecidableEq

namespace ForecastFold

variable (self : ForecastFold)

/-- The interval of a fold agrees with its phase. -/
def intervalAdmitted : Bool :=
  match self.phase, self.lowerRunnerMs, self.upperRunnerMs with
  | .calibration, none, none => true
  | .evaluation, some lower, some upper => lower ≤ self.predictedRunnerMs && self.predictedRunnerMs ≤ upper
  | _, _, _ => false

/-- What the payload model of a fold checks. -/
structure Admitted (self : ForecastFold) : Prop where
  predicted : isCount self.predictedRunnerMs = true
  actual : isCount self.actualRunnerMs = true
  lower : ∀ lower ∈ self.lowerRunnerMs, isCount lower = true
  upper : ∀ upper ∈ self.upperRunnerMs, isCount upper = true
  ordered : self.trainingUntil < self.testUntil
  interval : self.intervalAdmitted = true

theorem admitted_iff : self.Admitted ↔ isCount self.predictedRunnerMs = true ∧ isCount self.actualRunnerMs = true ∧
      (∀ lower ∈ self.lowerRunnerMs, isCount lower = true) ∧ (∀ upper ∈ self.upperRunnerMs, isCount upper = true) ∧
      self.trainingUntil < self.testUntil ∧ self.intervalAdmitted = true :=
  ⟨fun ⟨predicted, actual, lower, upper, ordered, interval⟩ => ⟨predicted, actual, lower, upper, ordered, interval⟩,
    fun ⟨predicted, actual, lower, upper, ordered, interval⟩ => ⟨predicted, actual, lower, upper, ordered, interval⟩⟩

instance (self : ForecastFold) : Decidable self.Admitted :=
  decidable_of_iff _ self.admitted_iff.symm

def validate : Py ForecastFold := do
  raiseIf (¬ self.Admitted) .validationError
  return self

/-- The distance between what a fold predicted and what happened. -/
def error : Nat :=
  ((self.predictedRunnerMs : Int) - self.actualRunnerMs).natAbs

/-- What happened is in the interval of a fold. -/
def covers : Bool :=
  match self.lowerRunnerMs, self.upperRunnerMs with
  | some lower, some upper => lower ≤ self.actualRunnerMs && self.actualRunnerMs ≤ upper
  | _, _ => false

end ForecastFold

inductive ForecastReason where
  | incompleteDailyCoverage
  | insufficientBacktest
  | poorCalibration
  | incompatibleCohort
  | conditionalOnUnchangedCollectionAndWorkload
  deriving DecidableEq

structure ForecastResult where
  available : Bool
  reason : ForecastReason
  cutoff : Instant
  horizonDays : Nat
  predictedRunnerMs : Option Nat
  lowerRunnerMs : Option Nat
  upperRunnerMs : Option Nat
  backtestMaeMs : Option Nat
  empiricalCoverageBps : Option Nat
  usableDays : Nat
  durationSamples : Nat
  folds : List ForecastFold
  deriving DecidableEq

namespace ForecastResult

/-- The folds are holdouts of one size that follow each other, and none of the first phase comes after one of the second. -/
def foldsOrdered (cutoff : Instant) (horizonDays : Nat) : Bool → Option Instant → List ForecastFold → Bool
  | _, _, [] => true
  | evaluated, previous, fold :: rest =>
    decide (fold.testUntil ≤ cutoff) && decide (previous = none ∨ previous = some fold.trainingUntil) &&
      decide (fold.testUntil.micros = fold.trainingUntil.micros + dayMicros * horizonDays) &&
      !(evaluated && decide (fold.phase = .calibration)) &&
      foldsOrdered cutoff horizonDays (evaluated || decide (fold.phase = .evaluation)) (some fold.testUntil) rest

variable (self : ForecastResult)

/-- An available forecast has an estimate, an interval and support. -/
def supported : Bool :=
  match self.predictedRunnerMs, self.lowerRunnerMs, self.upperRunnerMs, self.backtestMaeMs, self.empiricalCoverageBps with
  | some predicted, some lower, some upper, some _, some coverage =>
    decide (self.reason = .conditionalOnUnchangedCollectionAndWorkload) && decide (lower ≤ predicted) &&
      decide (predicted ≤ upper) && decide (forecastMinimumCoverageBps ≤ coverage) &&
      decide (forecastTrainingDays + self.horizonDays * (forecastCalibrationFolds + forecastMinimumEvaluationFolds) ≤
        self.usableDays) && decide (self.usableDays ≤ self.durationSamples) &&
      decide ((self.folds.countP fun fold => fold.phase = .calibration) = forecastCalibrationFolds) &&
      decide (forecastMinimumEvaluationFolds ≤ self.folds.countP fun fold => fold.phase = .evaluation)
  | _, _, _, _, _ => false

/-- A forecast that is not available has no estimate. -/
def withheld : Bool :=
  decide (self.predictedRunnerMs = none) && decide (self.lowerRunnerMs = none) && decide (self.upperRunnerMs = none) &&
    decide (self.reason ≠ .conditionalOnUnchangedCollectionAndWorkload)

/-- What the payload model of a result checks. -/
def Admitted (self : ForecastResult) : Prop :=
  (1 ≤ self.horizonDays ∧ self.horizonDays ≤ 30) ∧
    (∀ value ∈ [self.predictedRunnerMs, self.lowerRunnerMs, self.upperRunnerMs, self.backtestMaeMs], ∀ count ∈ value,
      isCount count = true) ∧
    (∀ coverage ∈ self.empiricalCoverageBps, coverage ≤ 10000) ∧ isCount self.usableDays = true ∧
    isCount self.durationSamples = true ∧ self.folds.length ≤ maxAnalyticsDays ∧ (∀ fold ∈ self.folds, fold.Admitted) ∧
    (if self.available = true then self.supported else self.withheld) = true ∧
    (self.backtestMaeMs = none ↔ self.empiricalCoverageBps = none) ∧
    (self.backtestMaeMs ≠ none → self.folds ≠ []) ∧ foldsOrdered self.cutoff self.horizonDays false none self.folds = true

instance (self : ForecastResult) : Decidable self.Admitted :=
  inferInstanceAs (Decidable ((_ ∧ _) ∧ (∀ value ∈ [self.predictedRunnerMs, self.lowerRunnerMs, self.upperRunnerMs,
    self.backtestMaeMs], ∀ count ∈ value, isCount count = true) ∧ (∀ coverage ∈ self.empiricalCoverageBps, coverage ≤ 10000) ∧
    _ ∧ _ ∧ _ ∧ (∀ fold ∈ self.folds, fold.Admitted) ∧ _ ∧ (_ ↔ _) ∧ (_ → _) ∧ _))

def validate : Py ForecastResult := do
  raiseIf (¬ self.Admitted) .validationError
  return self

end ForecastResult

variable (query : AnalyticsQuery)

def unavailableForecast (reason : ForecastReason) : ForecastResult :=
  ⟨false, reason, query.createdUntil, query.horizonDays, none, none, none, none, none, 0, 0, []⟩

/-- The entry of the prefix sums at an index. -/
def prefixTotal (values : List Nat) (index : Nat) : Nat :=
  (values.take index).sum

/-- The greatest value of a list raises when there is none. -/
def maximum : List Nat → Py Nat
  | [] => .error (.valueError (ascii "max() iterable argument is empty"))
  | value :: rest => .ok (rest.foldl max value)

def floorDivide (dividend divisor : Nat) : Py Nat := do
  raiseIf (divisor = 0) .zeroDivisionError
  return dividend / divisor

/-- The numbers from a start up to a stop by a step. -/
def stepped (start stop step : Nat) : List Nat :=
  (List.range ((stop - start + step - 1) / step)).map fun index => start + step * index

/-- The variables of the loop over the origins. -/
structure BackTest where
  errors : List Nat
  evaluatedErrors : List Nat
  covered : Nat
  folds : List ForecastFold

/-- The radius of an interval, once enough errors are known. -/
def evaluatedRadius (errors : List Nat) : Py (Option Nat) :=
  if forecastCalibrationFolds ≤ errors.length then do
    let radius ← maximum errors
    return some radius
  else .ok none

/-- The body of the loop. -/
def backTestFold (values : List Nat) (test : BackTest) (origin : Nat) : Py BackTest := do
  let prediction ← floorDivide (prefixTotal values origin * query.horizonDays) origin
  let actual := prefixTotal values (origin + query.horizonDays) - prefixTotal values origin
  let radius ← evaluatedRadius test.errors
  let trainingUntil ← addSeconds query.createdFrom (daySeconds * origin)
  let testUntil ← addSeconds query.createdFrom (daySeconds * (origin + query.horizonDays))
  let fold ← ForecastFold.validate {
    trainingUntil := trainingUntil
    testUntil := testUntil
    predictedRunnerMs := prediction
    actualRunnerMs := actual
    lowerRunnerMs := radius.map fun radius => prediction - radius
    upperRunnerMs := radius.map fun radius => prediction + radius
    phase := if radius.isSome then .evaluation else .calibration }
  return {
    errors := test.errors ++ [fold.error]
    evaluatedErrors := test.evaluatedErrors ++ if radius.isSome then [fold.error] else []
    covered := test.covered + if fold.covers = true then 1 else 0
    folds := test.folds ++ [fold] }

def forecastOccupancy (buckets : List DailyBucket) (cohort : CohortEvidence) : Py ForecastResult :=
  if buckets = [] ∨ ¬ ∀ bucket ∈ buckets, usableDurationDay bucket query.minimumDailySamples = true then
    (unavailableForecast query .incompleteDailyCoverage).validate
  else if cohort.observedDefinitionChanges = true then (unavailableForecast query .incompatibleCohort).validate
  else if buckets.length <
      forecastTrainingDays + query.horizonDays * (forecastCalibrationFolds + forecastMinimumEvaluationFolds) then
    (unavailableForecast query .insufficientBacktest).validate
  else do
    let values := buckets.map fun bucket => bucket.selected.runnerMs
    let test ← foldSteps (backTestFold query values) ⟨[], [], 0, []⟩
      (stepped forecastTrainingDays (values.length - query.horizonDays + 1) query.horizonDays)
    let coverage ← floorDivide (test.covered * 10000) test.evaluatedErrors.length
    let mae ← floorDivide test.evaluatedErrors.sum test.evaluatedErrors.length
    let prediction ← floorDivide (prefixTotal values values.length * query.horizonDays) values.length
    let radius ← maximum test.errors
    let available := decide (forecastMinimumCoverageBps ≤ coverage)
    ForecastResult.validate {
      available := available
      reason := if available = true then .conditionalOnUnchangedCollectionAndWorkload else .poorCalibration
      cutoff := query.createdUntil
      horizonDays := query.horizonDays
      predictedRunnerMs := if available = true then some prediction else none
      lowerRunnerMs := if available = true then some (prediction - radius) else none
      upperRunnerMs := if available = true then some (prediction + radius) else none
      backtestMaeMs := some mae
      empiricalCoverageBps := some coverage
      usableDays := values.length
      durationSamples := (buckets.map fun bucket => bucket.selected.durationSamples).sum
      folds := test.folds }

end CiCoordinator.CiEconomics

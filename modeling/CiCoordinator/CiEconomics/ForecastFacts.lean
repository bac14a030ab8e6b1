import CiCoordinator.CiEconomics.Forecast

/- What the test of the forecast measures and why the forecast returns. -/

namespace CiCoordinator.CiEconomics

open Library Kernel TestSchedule List

/-- The days of the folds of a query. -/
def AnalyticsQuery.schedule (query : AnalyticsQuery) : TestSchedule :=
  ⟨forecastTrainingDays, query.horizonDays, forecastCalibrationFolds⟩

/-- The forecast is the mean day of the training days, times the horizon. -/
def AnalyticsQuery.dailyMean (query : AnalyticsQuery) : Predictor Nat :=
  ⟨fun training => training.sum * query.horizonDays / training.length, List.sum⟩

/-- The fold at an index. -/
def makeFold (query : AnalyticsQuery) (values : List Nat) (index : Nat) : Py ForecastFold := do
  let trainingUntil ← addSeconds query.createdFrom (daySeconds * query.schedule.origin index)
  let testUntil ← addSeconds query.createdFrom (daySeconds * (query.schedule.origin index + query.horizonDays))
  ForecastFold.validate {
    trainingUntil := trainingUntil
    testUntil := testUntil
    predictedRunnerMs := query.schedule.predictionAt query.dailyMean values index
    actualRunnerMs := (query.schedule.holdout values index).sum
    lowerRunnerMs := (query.schedule.intervalAt query.dailyMean values index).map Prod.fst
    upperRunnerMs := (query.schedule.intervalAt query.dailyMean values index).map Prod.snd
    phase := if index < forecastCalibrationFolds then .calibration else .evaluation }

/-- A fold that is evaluated. -/
def ForecastFold.evaluated (fold : ForecastFold) : Bool :=
  decide (fold.phase = .evaluation)

section Folds

variable {query : AnalyticsQuery} {values : List Nat} {index count : Nat} {fold : ForecastFold} {test : BackTest}

theorem origin_pos : 0 < query.schedule.origin index := by
  have training : 0 < forecastTrainingDays := by decide
  exact Nat.lt_of_lt_of_le training (Nat.le_add_right _ _)

theorem horizon_pos (query : AnalyticsQuery) : 0 < query.horizonDays := by
  obtain ⟨-, -, -, -, -, horizon, -⟩ := query.admitted
  exact horizon.1

theorem validate_fold_eq_ok {self : ForecastFold} : self.validate = .ok fold ↔ self = fold ∧ self.Admitted := by
  simp only [ForecastFold.validate, bind_unit_eq_ok, raiseIf_eq_ok, not_not, pure_eq_ok_iff]
  exact and_comm

/-- What a made fold consists of. -/
theorem makeFold_eq_ok (made : makeFold query values index = .ok fold) :
    fold.trainingUntil.micros = query.createdFrom.micros + dayMicros * query.schedule.origin index ∧
      fold.testUntil.micros = fold.trainingUntil.micros + dayMicros * query.horizonDays ∧
      fold.predictedRunnerMs = query.schedule.predictionAt query.dailyMean values index ∧
      fold.actualRunnerMs = (query.schedule.holdout values index).sum ∧
      fold.lowerRunnerMs = (query.schedule.intervalAt query.dailyMean values index).map Prod.fst ∧
      fold.upperRunnerMs = (query.schedule.intervalAt query.dailyMean values index).map Prod.snd ∧
      fold.phase = (if index < forecastCalibrationFolds then .calibration else .evaluation) ∧ fold.Admitted := by
  simp only [makeFold, bind_eq_ok, addSeconds_eq_ok, validate_fold_eq_ok] at made
  obtain ⟨trainingUntil, training, testUntil, tested, rfl, admitted⟩ := made
  have day : secondMicros * daySeconds = dayMicros := by decide
  rw [← Nat.mul_assoc, day] at training tested
  refine ⟨training, ?_, rfl, rfl, rfl, rfl, rfl, admitted⟩
  rw [tested, training, Nat.mul_add, Nat.add_assoc]

theorem error_of_makeFold (made : makeFold query values index = .ok fold) :
    fold.error = query.schedule.errorAt query.dailyMean values index := by
  obtain ⟨-, -, predicted, actual, -⟩ := makeFold_eq_ok made
  rw [ForecastFold.error, predicted, actual]
  rfl

/-- The prefix sums give the occupancy of a holdout. -/
theorem prefixTotal_holdout :
    prefixTotal values (query.schedule.origin index + query.horizonDays) - prefixTotal values (query.schedule.origin index) =
      (query.schedule.holdout values index).sum := by
  rw [prefixTotal, prefixTotal, take_add, sum_append, Nat.add_sub_cancel_left]
  rfl

theorem prediction_eq (inside : query.schedule.origin index ≤ values.length) :
    floorDivide (prefixTotal values (query.schedule.origin index) * query.horizonDays) (query.schedule.origin index) =
      .ok (query.schedule.predictionAt query.dailyMean values index) := by
  have positive := @origin_pos query index
  have filled : ¬ query.schedule.origin index = 0 := Nat.ne_of_gt positive
  rw [floorDivide, raiseIf, if_neg filled, ok_bind_eq, predictionAt, AnalyticsQuery.dailyMean]
  simp only [length_take, Nat.min_eq_left inside]
  rfl

/-- The greatest of the errors so far is the radius. -/
theorem evaluatedRadius_eq : evaluatedRadius ((List.range index).map (query.schedule.errorAt query.dailyMean values)) =
      .ok (if index < forecastCalibrationFolds then none
        else some (query.schedule.radiusAt query.dailyMean values index)) := by
  rw [evaluatedRadius, length_map, length_range]
  by_cases early : index < forecastCalibrationFolds
  · rw [if_neg (not_le.mpr early), if_pos early]
  · rw [if_pos (not_lt.mp early), if_neg early, radiusAt]
    cases listed : (List.range index).map (query.schedule.errorAt query.dailyMean values) with
    | nil =>
      have empty := congrArg List.length listed
      rw [length_map, length_range, length_nil] at empty
      rw [empty] at early
      exact absurd (by decide) early
    | cons first rest =>
      rfl

/-- The variables of the loop after some folds. -/
structure BackTest.Tested (query : AnalyticsQuery) (values : List Nat) (test : BackTest) (count : Nat) : Prop where
  folds : collect (makeFold query values) (List.range count) = .ok test.folds
  errors : test.errors = test.folds.map ForecastFold.error
  evaluated : test.evaluatedErrors = (test.folds.filter ForecastFold.evaluated).map ForecastFold.error
  covered : test.covered = (test.folds.filter ForecastFold.evaluated).countP ForecastFold.covers

/-- The errors of the folds are those of the schedule. -/
theorem BackTest.Tested.errors_eq (tested : test.Tested query values count) :
    test.errors = (List.range count).map (query.schedule.errorAt query.dailyMean values) := by
  rw [tested.errors]
  exact map_collect tested.folds fun _ _ _ made => error_of_makeFold made

/-- The variables after one more fold. -/
def BackTest.extend (test : BackTest) (fold : ForecastFold) : BackTest where
  errors := test.errors ++ [fold.error]
  evaluatedErrors := test.evaluatedErrors ++ if fold.evaluated = true then [fold.error] else []
  covered := test.covered + if fold.covers = true then 1 else 0
  folds := test.folds ++ [fold]

/-- One pass of the loop makes the next fold. -/
theorem backTestFold_eq (tested : test.Tested query values count) (inside : query.schedule.origin count ≤ values.length) :
    backTestFold query values test (query.schedule.origin count) =
      makeFold query values count >>= fun fold => .ok (test.extend fold) := by
  have radius := @evaluatedRadius_eq query values count
  rw [← tested.errors_eq] at radius
  simp only [backTestFold, prediction_eq inside, radius, prefixTotal_holdout, makeFold, bind_assoc, ForecastFold.validate]
  have calibration : query.schedule.calibration = forecastCalibrationFolds := rfl
  by_cases early : count < forecastCalibrationFolds
  · simp only [intervalAt, calibration, if_pos early]
    rfl
  · simp only [intervalAt, calibration, if_neg early]
    rfl

theorem collect_range_succ {compute : Nat → Py ForecastFold} {folds : List ForecastFold}
    (computed : collect compute (List.range count) = .ok folds) (made : compute count = .ok fold) :
    collect compute (List.range (count + 1)) = .ok (folds ++ [fold]) := by
  rw [range_succ, collect_append_eq_ok]
  refine ⟨folds, [fold], computed, ?_, rfl⟩
  rw [collect_eq_ok]
  exact .cons made .nil

/-- Only evaluated folds have an interval that covers what happened. -/
theorem evaluated_of_covers (admitted : fold.Admitted) (covers : fold.covers = true) : fold.evaluated = true := by
  obtain ⟨-, -, -, -, -, interval⟩ := admitted
  unfold ForecastFold.intervalAdmitted at interval
  unfold ForecastFold.covers at covers
  cases phase : fold.phase with
  | evaluation => exact decide_eq_true phase
  | calibration =>
    cases lower : fold.lowerRunnerMs with
    | none =>
      rw [lower] at covers
      cases covers
    | some value =>
      rw [phase, lower] at interval
      cases interval

theorem BackTest.Tested.extend (tested : test.Tested query values count) (made : makeFold query values count = .ok fold) :
    (test.extend fold).Tested query values (count + 1) := by
  obtain ⟨folds, errors, evaluated, covered⟩ := tested
  obtain ⟨-, -, -, -, -, -, -, admitted⟩ := makeFold_eq_ok made
  refine ⟨collect_range_succ folds made, ?_, ?_, ?_⟩
  · rw [BackTest.extend, map_append, errors]
    rfl
  · rw [BackTest.extend, filter_append, map_append, evaluated]
    cases phase : fold.evaluated <;> simp [phase]
  · rw [BackTest.extend, filter_append, countP_append, covered]
    cases covers : fold.covers with
    | false => cases phase : fold.evaluated <;> simp [covers]
    | true => simp [evaluated_of_covers admitted covers, covers]

theorem BackTest.Tested.start : BackTest.Tested query values ⟨[], [], 0, []⟩ 0 :=
  ⟨rfl, rfl, rfl, rfl⟩

section

variable (inside : ∀ index < count, query.schedule.origin index ≤ values.length)
include inside

/-- The loop over the first origins makes the first folds. -/
theorem backTest_tested
    (looped : foldSteps (backTestFold query values) ⟨[], [], 0, []⟩ ((List.range count).map query.schedule.origin) = .ok test) :
    test.Tested query values count := by
  induction count generalizing test with
  | zero =>
    cases looped
    exact .start
  | succ count ih =>
    rw [range_succ, map_append, foldSteps_append] at looped
    obtain ⟨middle, first, last⟩ := bind_eq_ok.mp looped
    have tested := ih (fun index before => inside index (Nat.lt_succ_of_lt before)) first
    simp only [map_cons, foldSteps, backTestFold_eq tested (inside count (Nat.lt_succ_self count)), bind_eq_ok] at last
    obtain ⟨next, ⟨fold, made, extended⟩, final⟩ := last
    cases extended
    cases final
    exact tested.extend made

/-- The loop returns when all folds can be made. -/
theorem backTest_total (each : ∀ index < count, ∃ fold, makeFold query values index = .ok fold) :
    ∃ test, foldSteps (backTestFold query values) ⟨[], [], 0, []⟩ ((List.range count).map query.schedule.origin) = .ok test := by
  induction count with
  | zero => exact ⟨_, rfl⟩
  | succ count ih =>
    have earlier : ∀ index < count, query.schedule.origin index ≤ values.length :=
      fun index before => inside index (Nat.lt_succ_of_lt before)
    obtain ⟨test, first⟩ := ih earlier fun index before => each index (Nat.lt_succ_of_lt before)
    obtain ⟨fold, made⟩ := each count (Nat.lt_succ_self count)
    have tested := backTest_tested earlier first
    refine ⟨test.extend fold, ?_⟩
    simp [range_succ, foldSteps_append, first, foldSteps, backTestFold_eq tested (inside count (Nat.lt_succ_self count)), made]

/-- The loop never divides by zero. -/
theorem backTest_raises : Raises (fun error => error ≠ .zeroDivisionError)
      (foldSteps (backTestFold query values) ⟨[], [], 0, []⟩ ((List.range count).map query.schedule.origin)) := by
  induction count with
  | zero => exact .ok
  | succ count ih =>
    have earlier : ∀ index < count, query.schedule.origin index ≤ values.length :=
      fun index before => inside index (Nat.lt_succ_of_lt before)
    rw [range_succ, map_append, foldSteps_append]
    refine .bind (ih earlier) fun middle first => ?_
    simp only [map_cons, foldSteps, backTestFold_eq (backTest_tested earlier first) (inside count (Nat.lt_succ_self count))]
    have instants : ∀ seconds, Raises (fun error => error ≠ .zeroDivisionError) (addSeconds query.createdFrom seconds) := by
      intro seconds error raised
      rw [(addSeconds_eq_error.mp raised).2]
      exact PyError.noConfusion
    refine .bind (.bind (.bind (instants _) fun _ _ => .bind (instants _) fun _ _ => ?_) fun _ _ => .ok) fun _ _ => .ok
    exact .bind (.raiseIf fun _ => PyError.noConfusion) fun _ _ => .ok

end

end Folds

section Results

variable {query : AnalyticsQuery} {buckets : List DailyBucket} {cohort : CohortEvidence} {result : ForecastResult}

/-- The occupancy of each day. -/
def occupancies (buckets : List DailyBucket) : List Nat :=
  buckets.map fun bucket => bucket.selected.runnerMs

/-- The number of folds over some days. -/
def foldCount (query : AnalyticsQuery) (buckets : List DailyBucket) : Nat :=
  (buckets.length - forecastTrainingDays) / query.horizonDays

/-- The forecast is tested on days that are all usable and that are enough for some folds. -/
structure RunsBackTest (query : AnalyticsQuery) (buckets : List DailyBucket) (cohort : CohortEvidence) : Prop where
  usable : ∀ bucket ∈ buckets, usableDurationDay bucket query.minimumDailySamples = true
  stable : cohort.observedDefinitionChanges = false
  enough : forecastTrainingDays + query.horizonDays * (forecastCalibrationFolds + forecastMinimumEvaluationFolds) ≤ buckets.length

theorem foldCount_ge (runs : RunsBackTest query buckets cohort) :
    forecastCalibrationFolds + forecastMinimumEvaluationFolds ≤ foldCount query buckets := by
  have enough := runs.enough
  rw [foldCount, Nat.le_div_iff_mul_le (horizon_pos query), Nat.mul_comm]
  omega

theorem origin_inside {index : Nat} (before : index < foldCount query buckets) (filled : forecastTrainingDays ≤ buckets.length) :
    query.schedule.origin index + query.horizonDays ≤ buckets.length := by
  have folds : query.horizonDays * (index + 1) ≤ buckets.length - forecastTrainingDays := by
    rw [Nat.mul_comm]
    exact (Nat.le_div_iff_mul_le (horizon_pos query)).mp before
  have origin : query.schedule.origin index = forecastTrainingDays + query.horizonDays * index := rfl
  rw [Nat.mul_add, Nat.mul_one] at folds
  omega

/-- The origins of the loop are those of the folds. -/
theorem stepped_eq (runs : RunsBackTest query buckets cohort) :
    stepped forecastTrainingDays (buckets.length - query.horizonDays + 1) query.horizonDays =
      (List.range (foldCount query buckets)).map query.schedule.origin := by
  have enough := runs.enough
  have room : query.horizonDays ≤ query.horizonDays * (forecastCalibrationFolds + forecastMinimumEvaluationFolds) :=
    Nat.le_mul_of_pos_right _ (by decide)
  have count : buckets.length - query.horizonDays + 1 - forecastTrainingDays + query.horizonDays - 1 =
      buckets.length - forecastTrainingDays := by omega
  rw [stepped, count]
  rfl

/-- The result after the test. -/
def testedResult (query : AnalyticsQuery) (buckets : List DailyBucket) (test : BackTest) (coverage mae radius : Nat) :
    ForecastResult :=
  let prediction := (occupancies buckets).sum * query.horizonDays / buckets.length
  let available := decide (forecastMinimumCoverageBps ≤ coverage)
  { available := available
    reason := if available = true then .conditionalOnUnchangedCollectionAndWorkload else .poorCalibration
    cutoff := query.createdUntil
    horizonDays := query.horizonDays
    predictedRunnerMs := if available = true then some prediction else none
    lowerRunnerMs := if available = true then some (prediction - radius) else none
    upperRunnerMs := if available = true then some (prediction + radius) else none
    backtestMaeMs := some mae
    empiricalCoverageBps := some coverage
    usableDays := buckets.length
    durationSamples := (buckets.map fun bucket => bucket.selected.durationSamples).sum
    folds := test.folds }

variable (folds : List ForecastFold)

/-- The evaluated folds of a result. -/
def evaluations : List ForecastFold :=
  folds.filter ForecastFold.evaluated

/-- The folds at and after the calibration are evaluated. -/
theorem length_evaluations {values : List Nat} {count : Nat} {folds : List ForecastFold}
    (computed : collect (makeFold query values) (List.range count) = .ok folds) :
    (evaluations folds).length = count - forecastCalibrationFolds := by
  have phases : folds.map ForecastFold.evaluated = (List.range count).map fun index => decide (forecastCalibrationFolds ≤ index) := by
    refine map_collect computed fun index _ fold made => ?_
    obtain ⟨-, -, -, -, -, -, phase, -⟩ := makeFold_eq_ok made
    rw [ForecastFold.evaluated, phase]
    by_cases early : index < forecastCalibrationFolds
    · simp
    · simp [early, not_lt.mp early]
  have counted : (evaluations folds).length = (folds.map ForecastFold.evaluated).countP id := by
    rw [evaluations, ← countP_eq_length_filter, countP_map]
    rfl
  rw [counted, phases, countP_map]
  clear computed phases counted
  induction count with
  | zero => rfl
  | succ count ih =>
    rw [range_succ, countP_append, ih]
    by_cases early : forecastCalibrationFolds ≤ count
    · simp [early]
      omega
    · simp [early]
      omega

/-- The number of evaluated folds of a test that covers what happened. -/
def coverageOf : Nat :=
  (evaluations folds).countP ForecastFold.covers * 10000 / (evaluations folds).length

/-- The mean error of the evaluated folds. -/
def meanErrorOf : Nat :=
  ((evaluations folds).map ForecastFold.error).sum / (evaluations folds).length

theorem floorDivide_eq {dividend divisor : Nat} (positive : 0 < divisor) : floorDivide dividend divisor = .ok (dividend / divisor) := by
  rw [floorDivide, raiseIf, if_neg (Nat.ne_of_gt positive)]
  rfl

/-- The greatest error of some folds. -/
def greatestError : Nat :=
  (folds.map ForecastFold.error).foldl max 0

theorem maximum_eq {errors : List Nat} (filled : errors ≠ []) : maximum errors = .ok (errors.foldl max 0) := by
  cases errors with
  | nil => exact absurd rfl filled
  | cons first rest => rw [maximum, foldl_cons, Nat.max_eq_right (Nat.zero_le first)]

theorem length_occupancies (buckets : List DailyBucket) : (occupancies buckets).length = buckets.length :=
  length_map _

section

variable (runs : RunsBackTest query buckets cohort)
include runs

theorem origins_inside : ∀ index < foldCount query buckets, query.schedule.origin index ≤ (occupancies buckets).length := by
  intro index before
  have inside := origin_inside before ((Nat.le_add_right _ _).trans runs.enough)
  rw [length_occupancies]
  omega

theorem forecast_unfold :
    forecastOccupancy query buckets cohort = foldSteps (backTestFold query (occupancies buckets)) ⟨[], [], 0, []⟩
        ((List.range (foldCount query buckets)).map query.schedule.origin) >>= fun test =>
      floorDivide (test.covered * 10000) test.evaluatedErrors.length >>= fun coverage =>
      floorDivide test.evaluatedErrors.sum test.evaluatedErrors.length >>= fun mae =>
      maximum test.errors >>= fun radius => (testedResult query buckets test coverage mae radius).validate := by
  have enough := runs.enough
  have positive : 0 < buckets.length := Nat.lt_of_lt_of_le (by decide) ((Nat.le_add_right _ _).trans enough)
  have filled : buckets ≠ [] := length_pos_iff.mp positive
  have whole : prefixTotal (occupancies buckets) buckets.length = (occupancies buckets).sum := by
    rw [prefixTotal, take_of_length_le (Nat.le_of_eq (length_occupancies buckets))]
  have prediction : floorDivide (prefixTotal (occupancies buckets) (occupancies buckets).length * query.horizonDays)
      (occupancies buckets).length = .ok ((occupancies buckets).sum * query.horizonDays / buckets.length) := by
    rw [length_occupancies, floorDivide_eq positive, whole]
  unfold forecastOccupancy
  rw [if_neg (not_or.mpr ⟨filled, not_not.mpr runs.usable⟩), if_neg (by rw [runs.stable]; exact Bool.noConfusion),
    if_neg (not_lt.mpr enough)]
  change (foldSteps (backTestFold query (occupancies buckets)) _ (stepped _ ((occupancies buckets).length - _ + 1) _) >>= _) = _
  rw [length_occupancies, stepped_eq runs]
  refine congrArg _ (funext fun test => ?_)
  refine congrArg _ (funext fun coverage => ?_)
  refine congrArg _ (funext fun mae => ?_)
  change (floorDivide (prefixTotal (occupancies buckets) (occupancies buckets).length * _) (occupancies buckets).length >>= _) = _
  rw [prediction, ok_bind_eq]
  refine congrArg _ (funext fun radius => ?_)
  simp [testedResult]

/-- A test that has run gives the coverage and the mean error of its evaluated folds. -/
theorem forecast_of_tested {test : BackTest} (looped : foldSteps (backTestFold query (occupancies buckets)) ⟨[], [], 0, []⟩
      ((List.range (foldCount query buckets)).map query.schedule.origin) = .ok test) :
    test.Tested query (occupancies buckets) (foldCount query buckets) ∧ forecastOccupancy query buckets cohort =
        (testedResult query buckets test (coverageOf test.folds) (meanErrorOf test.folds) (greatestError test.folds)).validate := by
  have tested := backTest_tested (origins_inside runs) looped
  have count := foldCount_ge runs
  have evaluated : test.evaluatedErrors.length = (evaluations test.folds).length := by
    rw [tested.evaluated, length_map, evaluations]
  have positive : 0 < (evaluations test.folds).length := by
    rw [length_evaluations tested.folds]
    have minimum : 0 < forecastMinimumEvaluationFolds := by decide
    omega
  have filled : test.errors ≠ [] := by
    rw [tested.errors_eq]
    intro empty
    have lengths := congrArg List.length empty
    rw [length_map, length_range, length_nil] at lengths
    have minimum : 0 < forecastMinimumEvaluationFolds := by decide
    omega
  refine ⟨tested, ?_⟩
  rw [forecast_unfold runs, looped, ok_bind_eq, evaluated, floorDivide_eq positive, ok_bind_eq, floorDivide_eq positive,
    ok_bind_eq, maximum_eq filled, ok_bind_eq, tested.covered, tested.evaluated, tested.errors]
  rfl

end

end Results

section Totality

variable {query : AnalyticsQuery} {buckets : List DailyBucket} {cohort : CohortEvidence} {result : ForecastResult}

/-- The days are within the window of the query, and all totals of the test and of the forecast are counts. -/
structure BoundedTotals (query : AnalyticsQuery) (buckets : List DailyBucket) : Prop where
  window : query.createdFrom.micros + dayMicros * buckets.length ≤ query.createdUntil.micros
  predicted : ∀ index < foldCount query buckets,
    query.schedule.predictionAt query.dailyMean (occupancies buckets) index ≤ maxSafeJsonInteger
  actual : ∀ index < foldCount query buckets, (query.schedule.holdout (occupancies buckets) index).sum ≤ maxSafeJsonInteger
  intervals : ∀ index < foldCount query buckets, ∀ interval ∈ query.schedule.intervalAt query.dailyMean (occupancies buckets) index,
    interval.2 ≤ maxSafeJsonInteger
  forecast : (occupancies buckets).sum * query.horizonDays / buckets.length +
    query.schedule.radiusAt query.dailyMean (occupancies buckets) (foldCount query buckets) ≤ maxSafeJsonInteger
  samples : (buckets.map fun bucket => bucket.selected.durationSamples).sum ≤ maxSafeJsonInteger

theorem isCount_iff {value : Nat} : isCount value = true ↔ value ≤ maxSafeJsonInteger :=
  decide_eq_true_iff

theorem addSeconds_days {start : Instant} {days : Nat} (inside : start.micros + dayMicros * days < instantLimit) :
    ∃ finish, addSeconds start (daySeconds * days) = .ok finish ∧ finish.micros = start.micros + dayMicros * days := by
  refine ⟨⟨start.micros + dayMicros * days, inside⟩, addSeconds_eq_ok.mpr ?_, rfl⟩
  have day : secondMicros * daySeconds = dayMicros := by decide
  rw [← Nat.mul_assoc, day]

/-- The interval of a fold contains its prediction. -/
theorem interval_ordered {values : List Nat} {index : Nat} {interval : Nat × Nat}
    (found : query.schedule.intervalAt query.dailyMean values index = some interval) :
    interval.1 ≤ query.schedule.predictionAt query.dailyMean values index ∧
      query.schedule.predictionAt query.dailyMean values index ≤ interval.2 := by
  unfold intervalAt at found
  split at found
  · cases found
  · cases found
    exact ⟨Nat.sub_le _ _, Nat.le_add_right _ _⟩

/-- Every fold within the bounds can be made. -/
theorem makeFold_total (bounded : BoundedTotals query buckets) {index : Nat} (before : index < foldCount query buckets)
    (filled : forecastTrainingDays ≤ buckets.length) : ∃ fold, makeFold query (occupancies buckets) index = .ok fold := by
  have inside := origin_inside before filled
  have window := bounded.window
  have limit := query.createdUntil.inRange
  have last : dayMicros * (query.schedule.origin index + query.horizonDays) ≤ dayMicros * buckets.length :=
    Nat.mul_le_mul_left _ inside
  have apart : dayMicros * query.schedule.origin index < dayMicros * (query.schedule.origin index + query.horizonDays) :=
    Nat.mul_lt_mul_of_pos_left (Nat.lt_add_of_pos_right (horizon_pos query)) (by decide)
  obtain ⟨trainingUntil, training, trainingMicros⟩ :=
    @addSeconds_days query.createdFrom (query.schedule.origin index) (by omega)
  obtain ⟨testUntil, tested, testMicros⟩ :=
    @addSeconds_days query.createdFrom (query.schedule.origin index + query.horizonDays) (by omega)
  have predicted := isCount_iff.mpr (bounded.predicted index before)
  have actual := isCount_iff.mpr (bounded.actual index before)
  simp only [makeFold, training, tested]
  refine ⟨_, validate_fold_eq_ok.mpr ⟨rfl, predicted, actual, ?_, ?_, ?_, ?_⟩⟩
  · intro lower member
    obtain ⟨interval, found, rfl⟩ := Option.map_eq_some_iff.mp member
    exact isCount_iff.mpr ((interval_ordered found).1.trans (bounded.predicted index before))
  · intro upper member
    obtain ⟨interval, found, rfl⟩ := Option.map_eq_some_iff.mp member
    exact isCount_iff.mpr (bounded.intervals index before interval found)
  · rw [Instant.lt_def, trainingMicros, testMicros]
    omega
  · unfold ForecastFold.intervalAdmitted
    by_cases early : index < forecastCalibrationFolds
    · have none : query.schedule.intervalAt query.dailyMean (occupancies buckets) index = none := if_pos early
      simp [early, none]
    · obtain ⟨interval, found⟩ : ∃ interval, query.schedule.intervalAt query.dailyMean (occupancies buckets) index = some interval :=
        ⟨_, if_neg early⟩
      obtain ⟨lower, upper⟩ := interval_ordered found
      simp [early, found, lower, upper]

/-- Folds at successive indices are ordered. -/
theorem foldsOrdered_of_collect {values : List Nat} {start count : Nat} {folds : List ForecastFold} {previous : Option Instant}
    (computed : collect (makeFold query values) (List.range' start count) = .ok folds)
    (within : ∀ fold ∈ folds, fold.testUntil ≤ query.createdUntil)
    (follows : ∀ instant ∈ previous, instant.micros = query.createdFrom.micros + dayMicros * query.schedule.origin start) :
    ForecastResult.foldsOrdered query.createdUntil query.horizonDays (decide (forecastCalibrationFolds < start)) previous folds = true := by
  induction count generalizing start folds previous with
  | zero =>
    cases computed
    rfl
  | succ count ih =>
    rw [range'_succ, collect_eq_ok, forall₂_cons_left_iff] at computed
    obtain ⟨fold, rest, made, others, rfl⟩ := computed
    obtain ⟨training, tested, -, -, -, -, phase, -⟩ := makeFold_eq_ok made
    have next := @ih (start + 1) rest (some fold.testUntil) (collect_eq_ok.mpr others)
      (fun other member => within other (mem_cons_of_mem _ member)) (by
        rintro instant ⟨⟩
        have horizon : query.schedule.horizon = query.horizonDays := rfl
        rw [tested, training, origin_succ, Nat.mul_add, Nat.add_assoc, horizon])
    have linked : previous = none ∨ previous = some fold.trainingUntil := by
      cases known : previous with
      | none => exact .inl rfl
      | some instant =>
        have same := follows instant known
        exact .inr (congrArg some (Instant.eq_def.mpr (same.trans training.symm)))
    have calibrated : (decide (forecastCalibrationFolds < start) && decide (fold.phase = .calibration)) = false := by
      rw [phase]
      by_cases late : forecastCalibrationFolds < start
      · rw [if_neg (Nat.not_lt.mpr (Nat.le_of_lt late))]
        exact Bool.and_false _
      · rw [decide_eq_false late, Bool.false_and]
    have flag : (decide (forecastCalibrationFolds < start) || decide (fold.phase = .evaluation)) =
        decide (forecastCalibrationFolds < start + 1) := by
      rw [phase]
      by_cases early : start < forecastCalibrationFolds
      · rw [if_pos early]
        simp [Nat.not_lt.mpr (Nat.le_of_lt early), Nat.not_lt.mpr early]
      · rw [if_neg early]
        simp [Nat.lt_succ_of_le (Nat.not_lt.mp early)]
    rw [ForecastResult.foldsOrdered, calibrated, flag, next, decide_eq_true (within fold mem_cons_self),
      decide_eq_true linked, decide_eq_true tested]
    rfl

theorem error_le (fold : ForecastFold) (admitted : fold.Admitted) : fold.error ≤ maxSafeJsonInteger := by
  obtain ⟨predicted, actual, -⟩ := admitted
  have upper := isCount_iff.mp predicted
  have other := isCount_iff.mp actual
  rw [ForecastFold.error]
  omega

section

variable (folds : List ForecastFold)
include folds

/-- The sum of counts is at most their number times the greatest count. -/
theorem sum_errors_le (admitted : ∀ fold ∈ folds, fold.Admitted) :
    (folds.map ForecastFold.error).sum ≤ folds.length * maxSafeJsonInteger := by
  induction folds with
  | nil => exact Nat.zero_le _
  | cons fold rest ih =>
    have first := error_le fold (admitted fold mem_cons_self)
    have others := ih fun other member => admitted other (mem_cons_of_mem _ member)
    rw [map_cons, sum_cons, length_cons, Nat.add_mul, Nat.one_mul]
    omega

theorem meanErrorOf_le (admitted : ∀ fold ∈ folds, fold.Admitted) : meanErrorOf folds ≤ maxSafeJsonInteger :=
  Nat.div_le_of_le_mul (sum_errors_le _ fun fold member => admitted fold (mem_of_mem_filter member))

theorem coverageOf_le : coverageOf folds ≤ 10000 :=
  Nat.div_le_of_le_mul (Nat.mul_le_mul_right _ countP_le_length)

end

/-- Every usable day has a sample. -/
theorem days_le_samples (usable : ∀ bucket ∈ buckets, usableDurationDay bucket query.minimumDailySamples = true) :
    buckets.length ≤ (buckets.map (·.selected.durationSamples)).sum := by
  induction buckets with
  | nil => exact Nat.zero_le _
  | cons bucket rest ih =>
    have first := @samples_pos_of_usable query bucket (usable bucket mem_cons_self)
    have others := ih fun other member => usable other (mem_cons_of_mem _ member)
    rw [map_cons, sum_cons, length_cons]
    omega

/-- The phases of the folds split them. -/
theorem countP_phases (folds : List ForecastFold) :
    (folds.countP fun fold => decide (fold.phase = .evaluation)) = (evaluations folds).length ∧
      (folds.countP fun fold => decide (fold.phase = .calibration)) + (evaluations folds).length = folds.length := by
  constructor
  · rw [evaluations, ← countP_eq_length_filter]
    rfl
  · induction folds with
    | nil => rfl
    | cons fold rest ih =>
      rw [evaluations] at ih ⊢
      rw [countP_cons, filter_cons, length_cons, ForecastFold.evaluated]
      cases phase : fold.phase with
      | calibration =>
        simp only [decide_true, if_true, reduceCtorEq, decide_false, if_false]
        omega
      | evaluation =>
        simp only [decide_true, if_true, reduceCtorEq, decide_false, if_false, length_cons]
        omega

/-- The days of a query are as many as its window admits. -/
theorem days_le_window (window : query.createdFrom.micros + dayMicros * buckets.length ≤ query.createdUntil.micros) :
    buckets.length ≤ maxAnalyticsDays := by
  obtain ⟨-, -, -, -, -, -, -, -, -, -, -, -, bounded⟩ := query.admitted
  have days : dayMicros * buckets.length ≤ dayMicros * maxAnalyticsDays := by
    rw [Nat.mul_comm dayMicros maxAnalyticsDays]
    omega
  exact Nat.le_of_mul_le_mul_left days (by decide)

theorem validate_result_eq_ok {self : ForecastResult} : self.validate = .ok result ↔ self = result ∧ self.Admitted := by
  simp only [ForecastResult.validate, bind_unit_eq_ok, raiseIf_eq_ok, not_not, pure_eq_ok_iff]
  exact and_comm

/-- The result of a test within the bounds passes its checks. -/
theorem testedResult_admitted (runs : RunsBackTest query buckets cohort) (bounded : BoundedTotals query buckets)
    {test : BackTest} (length : test.folds.length = foldCount query buckets)
    (evaluated : (evaluations test.folds).length = foldCount query buckets - forecastCalibrationFolds)
    (admitted : ∀ fold ∈ test.folds, fold.Admitted)
    (ordered : ForecastResult.foldsOrdered query.createdUntil query.horizonDays false none test.folds = true)
    (radius : greatestError test.folds =
      query.schedule.radiusAt query.dailyMean (occupancies buckets) (foldCount query buckets)) :
    (testedResult query buckets test (coverageOf test.folds) (meanErrorOf test.folds) (greatestError test.folds)).Admitted := by
  have count := foldCount_ge runs
  have days := days_le_window bounded.window
  have samples := @days_le_samples query buckets runs.usable
  have forecast := bounded.forecast
  rw [← radius] at forecast
  obtain ⟨-, -, -, -, -, horizon, -⟩ := query.admitted
  obtain ⟨evaluationPhase, phases⟩ := countP_phases test.folds
  have estimate : isCount ((occupancies buckets).sum * query.horizonDays / buckets.length) = true :=
    isCount_iff.mpr ((Nat.le_add_right _ _).trans forecast)
  have lower : isCount ((occupancies buckets).sum * query.horizonDays / buckets.length - greatestError test.folds) = true :=
    isCount_iff.mpr ((Nat.sub_le _ _).trans (isCount_iff.mp estimate))
  have upper : isCount ((occupancies buckets).sum * query.horizonDays / buckets.length + greatestError test.folds) = true :=
    isCount_iff.mpr forecast
  have mean : isCount (meanErrorOf test.folds) = true := isCount_iff.mpr (meanErrorOf_le _ admitted)
  have folds : foldCount query buckets ≤ buckets.length := (Nat.div_le_self _ _).trans (Nat.sub_le _ _)
  refine ⟨horizon, ?_, ?_, isCount_iff.mpr (samples.trans bounded.samples), isCount_iff.mpr bounded.samples, ?_, admitted, ?_, ?_, ?_,
    ordered⟩
  · simp only [testedResult, forall_mem_cons, not_mem_nil, false_imp_iff, implies_true, and_true]
    refine ⟨?_, ?_, ?_, ?_⟩
    · intro value member
      split at member
      · cases member
        exact estimate
      · cases member
    · intro value member
      split at member
      · cases member
        exact lower
      · cases member
    · intro value member
      split at member
      · cases member
        exact upper
      · cases member
    · rintro value ⟨⟩
      exact mean
  · rintro coverage ⟨⟩
    exact coverageOf_le _
  · change test.folds.length ≤ _
    omega
  · simp only [testedResult]
    by_cases available : forecastMinimumCoverageBps ≤ coverageOf test.folds
    · have enough := runs.enough
      have calibrated : (test.folds.countP fun fold => decide (fold.phase = .calibration)) = forecastCalibrationFolds := by omega
      have tested : forecastMinimumEvaluationFolds ≤ test.folds.countP fun fold => decide (fold.phase = .evaluation) := by omega
      simp [ForecastResult.supported, available, enough, samples, calibrated, tested]
    · simp [ForecastResult.withheld, available]
  · exact iff_of_false (Option.some_ne_none _) (Option.some_ne_none _)
  · intro _ empty
    change test.folds = [] at empty
    have minimum : 0 < forecastCalibrationFolds + forecastMinimumEvaluationFolds := by decide
    rw [empty, length_nil] at length
    omega

/-- A forecast within the bounds returns. -/
theorem forecast_total (runs : RunsBackTest query buckets cohort) (bounded : BoundedTotals query buckets) :
    ∃ result, forecastOccupancy query buckets cohort = .ok result := by
  have filled : forecastTrainingDays ≤ buckets.length := (Nat.le_add_right _ _).trans runs.enough
  obtain ⟨test, looped⟩ := backTest_total (origins_inside runs) fun index before => makeFold_total bounded before filled
  obtain ⟨tested, computed⟩ := forecast_of_tested runs looped
  rw [computed]
  have made := collect_eq_ok.mp tested.folds
  have length : test.folds.length = foldCount query buckets := by rw [← made.length_eq, length_range]
  have evaluated := length_evaluations tested.folds
  have admitted : ∀ fold ∈ test.folds, fold.Admitted := by
    intro fold member
    obtain ⟨index, -, made⟩ := exists_of_mem_collect tested.folds member
    exact (makeFold_eq_ok made).2.2.2.2.2.2.2
  have ordered : ForecastResult.foldsOrdered query.createdUntil query.horizonDays false none test.folds = true := by
    refine @foldsOrdered_of_collect query (occupancies buckets) 0 (foldCount query buckets) test.folds none ?_ ?_ ?_
    · rw [← range_eq_range']
      exact tested.folds
    · intro fold member
      obtain ⟨index, before, made⟩ := exists_of_mem_collect tested.folds member
      obtain ⟨training, until_, -⟩ := makeFold_eq_ok made
      have inside := origin_inside (mem_range.mp before) filled
      have window := bounded.window
      have last : dayMicros * (query.schedule.origin index + query.horizonDays) ≤ dayMicros * buckets.length :=
        Nat.mul_le_mul_left _ inside
      rw [Nat.mul_add] at last
      rw [Instant.le_def, until_, training]
      omega
    · exact fun instant none => absurd none (by simp)
  have radius : greatestError test.folds = query.schedule.radiusAt query.dailyMean (occupancies buckets) (foldCount query buckets) := by
    rw [greatestError, ← tested.errors, tested.errors_eq]
    rfl
  refine ⟨_, validate_result_eq_ok.mpr ⟨rfl, testedResult_admitted runs bounded length evaluated admitted ordered radius⟩⟩

end Totality

section LookAhead

variable {query : AnalyticsQuery} {buckets others : List DailyBucket} {cohort otherCohort : CohortEvidence}
  {result other : ForecastResult} {index : Nat} {fold otherFold : ForecastFold}

/-- A result comes from a test whose folds it has. -/
theorem forecast_tested (runs : RunsBackTest query buckets cohort)
    (forecast : forecastOccupancy query buckets cohort = .ok result) :
    collect (makeFold query (occupancies buckets)) (List.range (foldCount query buckets)) = .ok result.folds ∧
      result.empiricalCoverageBps = some (coverageOf result.folds) ∧ result.backtestMaeMs = some (meanErrorOf result.folds) := by
  have unfolded := forecast_unfold runs
  rw [forecast] at unfolded
  obtain ⟨test, looped, -⟩ := bind_eq_ok.mp unfolded.symm
  obtain ⟨tested, computed⟩ := forecast_of_tested runs looped
  rw [forecast] at computed
  obtain ⟨rfl, -⟩ := validate_result_eq_ok.mp computed.symm
  exact ⟨tested.folds, rfl, rfl⟩

/-- The test of a forecast never divides by zero. -/
theorem forecast_raises (runs : RunsBackTest query buckets cohort) :
    forecastOccupancy query buckets cohort ≠ .error .zeroDivisionError := by
  intro raised
  cases looped : foldSteps (backTestFold query (occupancies buckets)) ⟨[], [], 0, []⟩
      ((List.range (foldCount query buckets)).map query.schedule.origin) with
  | error error =>
    rw [forecast_unfold runs, looped] at raised
    have same : error = .zeroDivisionError := Except.error.inj raised
    exact backTest_raises (origins_inside runs) error looped same
  | ok test =>
    rw [(forecast_of_tested runs looped).2, ForecastResult.validate] at raised
    rcases bind_eq_error.mp raised with checked | ⟨-, -, returned⟩
    · exact PyError.noConfusion (raiseIf_eq_error.mp checked).2
    · cases returned

/-- The fold at an index is made from the index. -/
theorem fold_made (computed : collect (makeFold query (occupancies buckets)) (List.range (foldCount query buckets)) = .ok result.folds)
    (found : result.folds[index]? = some fold) : makeFold query (occupancies buckets) index = .ok fold := by
  have pairs := collect_eq_ok.mp computed
  obtain ⟨inside, same⟩ := List.getElem?_eq_some_iff.mp found
  have before : index < (List.range (foldCount query buckets)).length := pairs.length_eq ▸ inside
  have made := List.Forall₂.get pairs before inside
  simp only [get_eq_getElem, getElem_range, same] at made
  exact made

/-- Days that agree before the holdout of a fold give the fold the same prediction and the same interval. -/
theorem fold_no_look_ahead (made : makeFold query (occupancies buckets) index = .ok fold)
    (otherMade : makeFold query (occupancies others) index = .ok otherFold)
    (agree : others.take (query.schedule.origin index) = buckets.take (query.schedule.origin index)) :
    fold.predictedRunnerMs = otherFold.predictedRunnerMs ∧ fold.lowerRunnerMs = otherFold.lowerRunnerMs ∧
      fold.upperRunnerMs = otherFold.upperRunnerMs := by
  have values : (occupancies others).take (query.schedule.origin index) = (occupancies buckets).take (query.schedule.origin index) := by
    rw [occupancies, occupancies, ← map_take, ← map_take, agree]
  obtain ⟨prediction, interval⟩ := @no_look_ahead _ query.schedule query.dailyMean _ _ index values
  obtain ⟨-, -, predicted, -, lower, upper, -⟩ := makeFold_eq_ok made
  obtain ⟨-, -, otherPredicted, -, otherLower, otherUpper, -⟩ := makeFold_eq_ok otherMade
  exact ⟨predicted.trans (prediction.symm.trans otherPredicted.symm), by rw [lower, otherLower, interval],
    by rw [upper, otherUpper, interval]⟩

/-- What a test of the forecast is: it never divides by zero; its folds are holdouts of the size of the horizon that follow
each other after the training days, and exactly the first of them have no interval; the reported coverage and error are
those of the evaluated folds; days that agree before a fold give it the same prediction and interval; and the forecast
returns when the days are in the window of the query and all totals are counts. -/
theorem forecast_back_test (query : AnalyticsQuery) (buckets : List DailyBucket) (cohort : CohortEvidence)
    (runs : RunsBackTest query buckets cohort) :
    forecastOccupancy query buckets cohort ≠ .error .zeroDivisionError ∧
      (∀ result, forecastOccupancy query buckets cohort = .ok result →
        result.folds.length = (buckets.length - forecastTrainingDays) / query.horizonDays ∧
          (∀ index fold, result.folds[index]? = some fold → fold.trainingUntil.micros =
                query.createdFrom.micros + dayMicros * (forecastTrainingDays + query.horizonDays * index) ∧
              fold.testUntil.micros = fold.trainingUntil.micros + dayMicros * query.horizonDays ∧
              (fold.lowerRunnerMs = none ↔ index < forecastCalibrationFolds) ∧
              (fold.upperRunnerMs = none ↔ index < forecastCalibrationFolds) ∧
              (fold.phase = .calibration ↔ index < forecastCalibrationFolds)) ∧
          (evaluations result.folds).length = result.folds.length - forecastCalibrationFolds ∧
          forecastMinimumEvaluationFolds ≤ (evaluations result.folds).length ∧
          result.empiricalCoverageBps = some ((evaluations result.folds).countP ForecastFold.covers * 10000 /
            (evaluations result.folds).length) ∧
          result.backtestMaeMs = some (((evaluations result.folds).map ForecastFold.error).sum /
            (evaluations result.folds).length)) ∧
      (∀ others otherCohort result other, RunsBackTest query others otherCohort →
        forecastOccupancy query buckets cohort = .ok result → forecastOccupancy query others otherCohort = .ok other →
        ∀ index fold otherFold, others.take (forecastTrainingDays + query.horizonDays * index) =
            buckets.take (forecastTrainingDays + query.horizonDays * index) →
          result.folds[index]? = some fold → other.folds[index]? = some otherFold →
          fold.predictedRunnerMs = otherFold.predictedRunnerMs ∧ fold.lowerRunnerMs = otherFold.lowerRunnerMs ∧
            fold.upperRunnerMs = otherFold.upperRunnerMs) ∧
      (BoundedTotals query buckets → ∃ result, forecastOccupancy query buckets cohort = .ok result) := by
  refine ⟨forecast_raises runs, fun result forecast => ?_, ?_, forecast_total runs⟩
  · obtain ⟨computed, coverage, error⟩ := forecast_tested runs forecast
    have length : result.folds.length = foldCount query buckets := by
      rw [← (collect_eq_ok.mp computed).length_eq, length_range]
    have evaluated := length_evaluations computed
    have count := foldCount_ge runs
    refine ⟨length, fun index fold found => ?_, by rw [evaluated, length], by omega, coverage, error⟩
    obtain ⟨training, tested, -, -, lower, upper, phase, -⟩ := makeFold_eq_ok (fold_made computed found)
    have interval : query.schedule.intervalAt query.dailyMean (occupancies buckets) index = none ↔
        index < forecastCalibrationFolds := by
      unfold intervalAt
      split
      · rename_i early
        exact iff_of_true rfl early
      · rename_i late
        exact iff_of_false (Option.some_ne_none _) late
    refine ⟨training, tested, ?_, ?_, ?_⟩
    · rw [lower, Option.map_eq_none_iff, interval]
    · rw [upper, Option.map_eq_none_iff, interval]
    · rw [phase]
      split
      · rename_i early
        exact iff_of_true rfl early
      · rename_i late
        exact iff_of_false FoldPhase.noConfusion late
  · intro others otherCohort result other otherRuns forecast otherForecast index fold otherFold agree found otherFound
    exact fold_no_look_ahead (fold_made (forecast_tested runs forecast).1 found)
      (fold_made (forecast_tested otherRuns otherForecast).1 otherFound) agree

end LookAhead

namespace Sample

def forecastFields (days : Nat) (inside : days * dayMicros < instantLimit) : AnalyticsQueryFields :=
  ⟨1, 2, 3, ⟨0, zero_lt_instantLimit⟩, ⟨days * dayMicros, inside⟩, none, none, none, 1, 1, 2000, 1000, 2⟩

theorem oneDay_inside : 1 * dayMicros < instantLimit := by
  decide

theorem someDays_inside : 22 * dayMicros < instantLimit := by
  decide

theorem oneDay_admitted : (forecastFields 1 oneDay_inside).Admitted :=
  ⟨by decide, by decide, by decide, by decide, by decide, by decide, by decide, by decide, by decide, by decide, by decide,
    by decide⟩

theorem someDays_admitted : (forecastFields 22 someDays_inside).Admitted :=
  ⟨by decide, by decide, by decide, by decide, by decide, by decide, by decide, by decide, by decide, by decide, by decide,
    by decide⟩

/-- Queries with a window of one day and of enough days for a test. -/
def oneDayQuery : AnalyticsQuery :=
  ⟨forecastFields 1 oneDay_inside, oneDay_admitted⟩

def someDaysQuery : AnalyticsQuery :=
  ⟨forecastFields 22 someDays_inside, someDays_admitted⟩

def forecastJobs : JobAggregateFields :=
  ⟨1, 0, 0, 1, 0, 5, 0, 0, 0, 1, 0, 0⟩

theorem forecastJobs_admitted : forecastJobs.Admitted :=
  ⟨by decide, rfl, rfl, by decide, by decide, by decide, by decide⟩

def forecastDayFields : DailyBucketFields :=
  ⟨⟨0, zero_lt_instantLimit⟩, .completeRetained, 1, 1, 1, 1, 0, 0, 0, 0, 0, 0, ⟨forecastJobs, forecastJobs_admitted⟩, some 5, none⟩

theorem forecastDay_admitted : forecastDayFields.Admitted :=
  ⟨by decide, rfl, by decide, by decide, rfl, rfl, rfl⟩

/-- Days with one job of five milliseconds each. -/
def forecastDays : List DailyBucket :=
  List.replicate 22 ⟨forecastDayFields, forecastDay_admitted⟩

/-- A cohort with one definition. -/
def stableCohort : CohortEvidence :=
  ⟨1, 0, 1, true, false, true, by decide⟩

theorem forecast_runs (query : AnalyticsQuery) (horizon : query.horizonDays = 1) (samples : query.minimumDailySamples = 1) :
    RunsBackTest query forecastDays stableCohort := by
  refine ⟨fun bucket member => ?_, rfl, ?_⟩
  · rw [eq_of_mem_replicate member, samples]
    decide
  · rw [horizon]
    decide

end Sample

/-- The forecast of days with one job each. -/
theorem Sample.forecast_someDays :
    ∃ result, forecastOccupancy Sample.someDaysQuery Sample.forecastDays Sample.stableCohort = .ok result := by
  refine (forecast_back_test Sample.someDaysQuery Sample.forecastDays Sample.stableCohort
    (Sample.forecast_runs _ rfl rfl)).2.2.2 ⟨?_, ?_, ?_, ?_, ?_, ?_⟩ <;> decide

/-- A forecast over more days than the window of its query raises although all its totals are small. -/
theorem forecast_outside_window :
    RunsBackTest Sample.oneDayQuery Sample.forecastDays Sample.stableCohort ∧
      (occupancies Sample.forecastDays).sum = 110 ∧
      (∀ index < foldCount Sample.oneDayQuery Sample.forecastDays,
        (Sample.oneDayQuery.schedule.holdout (occupancies Sample.forecastDays) index).sum ≤ maxSafeJsonInteger ∧
          Sample.oneDayQuery.schedule.predictionAt Sample.oneDayQuery.dailyMean (occupancies Sample.forecastDays) index +
            Sample.oneDayQuery.schedule.radiusAt Sample.oneDayQuery.dailyMean (occupancies Sample.forecastDays) index ≤
            maxSafeJsonInteger) ∧
      forecastOccupancy Sample.oneDayQuery Sample.forecastDays Sample.stableCohort = .error .validationError :=
  ⟨Sample.forecast_runs _ rfl rfl, by decide, by decide, by decide⟩

end CiCoordinator.CiEconomics

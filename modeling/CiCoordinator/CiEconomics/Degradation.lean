import CiCoordinator.CiEconomics.AnalyticsModels
import CiCoordinator.Library.Hysteresis

/- The slowdowns of a job against a fixed baseline and why later days never rewrite them. -/

namespace CiCoordinator.CiEconomics

open Library Kernel Monitor List Text

def baselineDays : Nat :=
  7

inductive DegradationState where
  | observedSlowdown
  | recovered
  deriving DecidableEq

def DegradationState.text : DegradationState → Text
  | .observedSlowdown => ascii "observed_slowdown"
  | .recovered => ascii "recovered"

structure DegradationEvent where
  key : Text
  day : Instant
  state : DegradationState
  meanDurationMs : Nat
  deriving DecidableEq

/-- The checks of the payload model of an event. -/
def DegradationEvent.validate (self : DegradationEvent) : Py DegradationEvent := do
  raiseIf (isSha256Hex self.key = false ∨ isCount self.meanDurationMs = false) .validationError
  return self

inductive DegradationStatus where
  | unavailable
  | clear
  | pending
  | observedSlowdown
  | recovered
  deriving DecidableEq

inductive DegradationReason where
  | incompatibleCohort
  | insufficientSamples
  | observedDurationOnly
  deriving DecidableEq

structure DegradationResult where
  status : DegradationStatus
  reason : DegradationReason
  baselineUntil : Option Instant
  baselineMeanMs : Option Nat
  baselineSamples : Nat
  events : List DegradationEvent
  deriving DecidableEq

/-- The checks of the payload model of a result. -/
def DegradationResult.validate (self : DegradationResult) : Py DegradationResult := do
  raiseIf ((∃ mean ∈ self.baselineMeanMs, isCount mean = false) ∨ isCount self.baselineSamples = false ∨
    maxAnalyticsDays < self.events.length) .validationError
  return self

def unavailableDegradation (reason : DegradationReason) : DegradationResult :=
  ⟨.unavailable, reason, none, none, 0, []⟩

/-- The loop that collects the first usable days and stops after the last of them. -/
def collectBaseline (minimumSamples index : Nat) (baseline : List DailyBucket) : List DailyBucket → List DailyBucket × Nat
  | [] => (baseline, 0)
  | bucket :: rest =>
    if usableDurationDay bucket minimumSamples = true then
      if (baseline ++ [bucket]).length = baselineDays then (baseline ++ [bucket], index + 1)
      else collectBaseline minimumSamples (index + 1) (baseline ++ [bucket]) rest
    else collectBaseline minimumSamples (index + 1) baseline rest

/-- The totals that later days are compared with. -/
structure DegradationBaseline where
  samples : Nat
  total : Nat
  deriving DecidableEq

def DegradationBaseline.of (days : List DailyBucket) : DegradationBaseline where
  samples := (days.map fun bucket => bucket.selected.durationSamples).sum
  total := (days.map fun bucket => bucket.selected.runnerMs).sum

namespace DegradationBaseline

variable (baseline : DegradationBaseline) (query : AnalyticsQuery) (bucket : DailyBucket)

/-- The difference of the means, multiplied by both numbers of samples. -/
def difference : Int :=
  bucket.selected.runnerMs * baseline.samples - baseline.total * bucket.selected.durationSamples

def absoluteThreshold : Int :=
  query.degradationAbsoluteMs * bucket.selected.durationSamples * baseline.samples

def relativeThreshold : Int :=
  query.degradationRelativeBps * baseline.total * bucket.selected.durationSamples

/-- A day is above both thresholds. -/
def High : Prop :=
  baseline.absoluteThreshold query bucket ≤ baseline.difference bucket ∧
    baseline.relativeThreshold query bucket ≤ baseline.difference bucket * 10000

/-- A day is below the halves of both thresholds. -/
def Low : Prop :=
  baseline.difference bucket * 2 < baseline.absoluteThreshold query bucket ∧
    baseline.difference bucket * 20000 < baseline.relativeThreshold query bucket

instance : Decidable (baseline.High query bucket) :=
  inferInstanceAs (Decidable (_ ∧ _))

instance : Decidable (baseline.Low query bucket) :=
  inferInstanceAs (Decidable (_ ∧ _))

end DegradationBaseline

/-- The text that identifies the purposes of a query. -/
def mappingDigest (mapping : Option PurposeMapping) : Py Json :=
  match mapping with
  | none => .ok .null
  | some mapping => do
    let digest ← mapping.digest
    return .str digest

def eventKey (query : AnalyticsQuery) (mapping : Option PurposeMapping) (day : Instant) (state : DegradationState) :
    Py Text := do
  let digest ← mappingDigest mapping
  hashObject (.obj [(ascii "model", .str (ascii "fixed-baseline-hysteresis/v1")), (ascii "query", query.cohortMapping),
    (ascii "mapping", digest), (ascii "day", .str day.isoText), (ascii "state", .str state.text)])

/-- The event of a change on a day. -/
def degradationEvent (query : AnalyticsQuery) (mapping : Option PurposeMapping) (bucket : DailyBucket) (active : Bool) :
    Py DegradationEvent := do
  let state : DegradationState := if active = true then .observedSlowdown else .recovered
  let key ← eventKey query mapping bucket.day state
  DegradationEvent.validate ⟨key, bucket.day, state, bucket.selected.runnerMs / bucket.selected.durationSamples⟩

/-- The variables of the loop over the days after the baseline. -/
structure DegradationWatch where
  active : Bool
  highStreak : Nat
  lowStreak : Nat
  events : List DegradationEvent
  lastUsable : Bool
  deriving DecidableEq

/-- The body of the loop. -/
def assessDay (query : AnalyticsQuery) (mapping : Option PurposeMapping) (baseline : DegradationBaseline)
    (watch : DegradationWatch) (bucket : DailyBucket) : Py DegradationWatch :=
  if usableDurationDay bucket query.minimumDailySamples = false then
    .ok ⟨watch.active, 0, 0, watch.events, false⟩
  else
    let highStreak := if baseline.High query bucket then watch.highStreak + 1 else 0
    let lowStreak := if baseline.Low query bucket then watch.lowStreak + 1 else 0
    if watch.active = false ∧ query.persistenceDays ≤ highStreak then do
      let event ← degradationEvent query mapping bucket true
      return ⟨true, highStreak, lowStreak, watch.events ++ [event], true⟩
    else if watch.active = true ∧ query.persistenceDays ≤ lowStreak then do
      let event ← degradationEvent query mapping bucket false
      return ⟨false, highStreak, lowStreak, watch.events ++ [event], true⟩
    else .ok ⟨watch.active, highStreak, lowStreak, watch.events, true⟩

def DegradationWatch.status (watch : DegradationWatch) : DegradationStatus :=
  if watch.lastUsable = false then .unavailable
  else if watch.active = true then .observedSlowdown
  else if watch.highStreak ≠ 0 then .pending
  else if watch.events ≠ [] then .recovered
  else .clear

def assessDegradation (query : AnalyticsQuery) (buckets : List DailyBucket) (mapping : Option PurposeMapping) :
    Py DegradationResult :=
  if query.workflowId = none ∨ query.jobName = none then (unavailableDegradation .incompatibleCohort).validate
  else
    let (days, baselineEnd) := collectBaseline query.minimumDailySamples 0 [] buckets
    if days.length < baselineDays ∨ baselineEnd = buckets.length then
      (unavailableDegradation .insufficientSamples).validate
    else
      let baseline := DegradationBaseline.of days
      do
        let watch ← foldSteps (assessDay query mapping baseline) ⟨false, 0, 0, [], true⟩ (buckets.drop baselineEnd)
        DegradationResult.validate ⟨watch.status, if watch.lastUsable = true then .observedDurationOnly else .insufficientSamples,
          (buckets[baselineEnd]?).map fun bucket => bucket.day, some (baseline.total / baseline.samples), baseline.samples,
          watch.events⟩

section Days

variable {query : AnalyticsQuery} {mapping : Option PurposeMapping} {baseline : DegradationBaseline} {bucket : DailyBucket}
  {watch next : DegradationWatch} {monitor : Monitor DailyBucket} {buckets : List DailyBucket}

/-- No day is both above the thresholds and below their halves. -/
theorem DegradationBaseline.not_high_and_low : ¬ (baseline.High query bucket ∧ baseline.Low query bucket) := by
  rintro ⟨⟨above, -⟩, below, -⟩
  have nonnegative : 0 ≤ baseline.absoluteThreshold query bucket := by
    unfold DegradationBaseline.absoluteThreshold
    exact_mod_cast Nat.zero_le (query.degradationAbsoluteMs * bucket.selected.durationSamples * baseline.samples)
  omega

/-- What a day tells about a slowdown. -/
def DegradationBaseline.reading (baseline : DegradationBaseline) (query : AnalyticsQuery) (bucket : DailyBucket) : Reading :=
  if usableDurationDay bucket query.minimumDailySamples = false then .unusable
  else if baseline.High query bucket then .high
  else if baseline.Low query bucket then .low
  else .between

theorem reading_eq_high (high : baseline.reading query bucket = .high) :
    usableDurationDay bucket query.minimumDailySamples = true ∧ baseline.High query bucket := by
  unfold DegradationBaseline.reading at high
  split at high
  · cases high
  · rename_i usable
    split at high
    · rename_i above
      exact ⟨Bool.not_eq_false _ ▸ usable, above⟩
    · split at high <;> cases high

theorem reading_eq_low (low : baseline.reading query bucket = .low) :
    usableDurationDay bucket query.minimumDailySamples = true ∧ baseline.Low query bucket := by
  unfold DegradationBaseline.reading at low
  split at low
  · cases low
  · rename_i usable
    split at low
    · cases low
    · split at low
      · rename_i below
        exact ⟨Bool.not_eq_false _ ▸ usable, below⟩
      · cases low

/-- The variables of the loop are those of a monitor, and its events are the changes of the monitor. -/
structure DegradationWatch.Follows (query : AnalyticsQuery) (mapping : Option PurposeMapping) (watch : DegradationWatch)
    (monitor : Monitor DailyBucket) : Prop where
  active : watch.active = monitor.active
  highStreak : watch.highStreak = monitor.highStreak
  lowStreak : watch.lowStreak = monitor.lowStreak
  events : collect (fun change => degradationEvent query mapping change.1 change.2) monitor.changes = .ok watch.events

theorem DegradationWatch.Follows.start : DegradationWatch.Follows query mapping ⟨false, 0, 0, [], true⟩ Monitor.start :=
  ⟨rfl, rfl, rfl, rfl⟩

section

variable (usable : usableDurationDay bucket query.minimumDailySamples = true)
include usable

/-- The streaks of the loop are those of the monitor. -/
theorem streaks_eq (follows : watch.Follows query mapping monitor) :
    monitor.streaks (baseline.reading query bucket) = (if baseline.High query bucket then watch.highStreak + 1 else 0,
        if baseline.Low query bucket then watch.lowStreak + 1 else 0) := by
  rw [DegradationBaseline.reading, if_neg (by rw [usable]; exact Bool.noConfusion), follows.highStreak, follows.lowStreak]
  by_cases high : baseline.High query bucket
  · have low : ¬ baseline.Low query bucket := fun low => DegradationBaseline.not_high_and_low ⟨high, low⟩
    rw [if_pos high, if_pos high, if_neg low]
    rfl
  · by_cases low : baseline.Low query bucket
    · rw [if_neg high, if_neg high, if_pos low, if_pos low]
      rfl
    · rw [if_neg high, if_neg high, if_neg low, if_neg low]
      rfl

theorem reading_ne_unusable : baseline.reading query bucket ≠ .unusable := by
  rw [DegradationBaseline.reading, if_neg (by rw [usable]; exact Bool.noConfusion)]
  split
  · exact Reading.noConfusion
  · split <;> exact Reading.noConfusion

/-- The loop and the monitor change at the same days. -/
theorem changesAt_iff (follows : watch.Follows query mapping monitor) :
    monitor.changesAt query.persistenceDays (baseline.reading query bucket) ↔
      (watch.active = false ∧ query.persistenceDays ≤ if baseline.High query bucket then watch.highStreak + 1 else 0) ∨
        (watch.active = true ∧ query.persistenceDays ≤ if baseline.Low query bucket then watch.lowStreak + 1 else 0) := by
  have usable' := @reading_ne_unusable query baseline bucket usable
  rw [changesAt, streaks_eq usable follows, ← follows.active]
  cases watch.active <;> simp [usable']

end

/-- A day without a change only moves the streaks. -/
theorem follows_quiet (follows : watch.Follows query mapping monitor)
    (quiet : ¬ monitor.changesAt query.persistenceDays (baseline.reading query bucket)) {highStreak lowStreak : Nat}
    (streaks : monitor.streaks (baseline.reading query bucket) = (highStreak, lowStreak)) (usable : Bool) :
    DegradationWatch.Follows query mapping ⟨watch.active, highStreak, lowStreak, watch.events, usable⟩
      (monitor.observe query.persistenceDays (baseline.reading query) bucket) := by
  have observed := @observe_streaks _ query.persistenceDays (baseline.reading query) monitor bucket
  rw [streaks, Prod.mk.injEq] at observed
  refine ⟨?_, observed.1.symm, observed.2.symm, ?_⟩
  · rw [observe_active, if_neg quiet]
    exact follows.active
  · rw [observe_changes, if_neg quiet, append_nil]
    exact follows.events

/-- A change adds its event. -/
theorem follows_changed (follows : watch.Follows query mapping monitor)
    (changed : monitor.changesAt query.persistenceDays (baseline.reading query bucket)) {highStreak lowStreak : Nat}
    (streaks : monitor.streaks (baseline.reading query bucket) = (highStreak, lowStreak)) {event : DegradationEvent}
    (made : degradationEvent query mapping bucket (!watch.active) = .ok event) :
    DegradationWatch.Follows query mapping ⟨!watch.active, highStreak, lowStreak, watch.events ++ [event], true⟩
      (monitor.observe query.persistenceDays (baseline.reading query) bucket) := by
  have observed := @observe_streaks _ query.persistenceDays (baseline.reading query) monitor bucket
  rw [streaks, Prod.mk.injEq] at observed
  refine ⟨?_, observed.1.symm, observed.2.symm, ?_⟩
  · rw [observe_active, if_pos changed, follows.active]
  · rw [observe_changes, if_pos changed, collect_append_eq_ok]
    refine ⟨watch.events, [event], follows.events, ?_, rfl⟩
    rw [← follows.active, collect_eq_ok]
    exact .cons made .nil

/-- An unusable day stops the streaks. -/
theorem assessDay_unusable (unusable : usableDurationDay bucket query.minimumDailySamples = false)
    (follows : watch.Follows query mapping monitor) :
    ∃ next, assessDay query mapping baseline watch bucket = .ok next ∧
      next.Follows query mapping (monitor.observe query.persistenceDays (baseline.reading query) bucket) := by
  have reading : baseline.reading query bucket = .unusable := if_pos unusable
  refine ⟨_, if_pos unusable, follows_quiet follows ?_ (by rw [reading]; rfl) false⟩
  rw [reading, changesAt]
  split <;> exact fun changed => changed.1 rfl

/-- A usable day adds an event exactly when the monitor changes. -/
theorem assessDay_usable (usable : usableDurationDay bucket query.minimumDailySamples = true)
    (follows : watch.Follows query mapping monitor) :
    assessDay query mapping baseline watch bucket =
      let highStreak := if baseline.High query bucket then watch.highStreak + 1 else 0
      let lowStreak := if baseline.Low query bucket then watch.lowStreak + 1 else 0
      if monitor.changesAt query.persistenceDays (baseline.reading query bucket) then do
        let event ← degradationEvent query mapping bucket (!watch.active)
        return ⟨!watch.active, highStreak, lowStreak, watch.events ++ [event], true⟩
      else .ok ⟨watch.active, highStreak, lowStreak, watch.events, true⟩ := by
  have changes := @changesAt_iff query mapping baseline bucket watch monitor usable follows
  rw [assessDay, if_neg (by rw [usable]; exact Bool.noConfusion)]
  cases active : watch.active with
  | false =>
    rw [active] at changes
    simp only [Bool.false_eq_true, false_and, or_false] at changes
    simp [changes]
  | true =>
    rw [active] at changes
    simp only [Bool.true_eq_false, false_and, false_or] at changes
    simp [changes]

section

variable (follows : watch.Follows query mapping monitor)
include follows

/-- A day of the loop is a day of the monitor. -/
theorem assessDay_follows (assessed : assessDay query mapping baseline watch bucket = .ok next) :
    next.Follows query mapping (monitor.observe query.persistenceDays (baseline.reading query) bucket) := by
  cases usable : usableDurationDay bucket query.minimumDailySamples with
  | false =>
    obtain ⟨other, computed, follows⟩ := @assessDay_unusable query mapping baseline bucket watch monitor usable follows
    exact Except.ok.inj (assessed.symm.trans computed) ▸ follows
  | true =>
    have streaks := @streaks_eq query mapping baseline bucket watch monitor usable follows
    rw [assessDay_usable usable follows] at assessed
    dsimp only at assessed
    split at assessed
    · rename_i changed
      obtain ⟨event, made, assessed⟩ := bind_eq_ok.mp assessed
      cases assessed
      exact follows_changed follows changed streaks made
    · rename_i quiet
      cases assessed
      exact follows_quiet follows quiet streaks true

/-- A day raises only when the event of a change raises. -/
theorem assessDay_total (events : ∃ events, collect (fun change => degradationEvent query mapping change.1 change.2)
      (monitor.observe query.persistenceDays (baseline.reading query) bucket).changes = .ok events) :
    ∃ next, assessDay query mapping baseline watch bucket = .ok next := by
  cases usable : usableDurationDay bucket query.minimumDailySamples with
  | false =>
    obtain ⟨next, computed, -⟩ := @assessDay_unusable query mapping baseline bucket watch monitor usable follows
    exact ⟨next, computed⟩
  | true =>
    rw [assessDay_usable usable follows]
    dsimp only
    split
    · rename_i changed
      obtain ⟨events, computed⟩ := events
      rw [observe_changes, if_pos changed, collect_append_eq_ok] at computed
      obtain ⟨-, last, -, made, -⟩ := computed
      rw [collect_eq_ok] at made
      cases made with
      | cons made _ =>
        rw [← follows.active] at made
        exact ⟨_, bind_eq_ok.mpr ⟨_, made, rfl⟩⟩
    · exact ⟨_, rfl⟩

/-- The loop over the days is the monitor over the days. -/
theorem assessDays_follows (assessed : foldSteps (assessDay query mapping baseline) watch buckets = .ok next) :
    next.Follows query mapping (monitor.watch query.persistenceDays (baseline.reading query) buckets) := by
  induction buckets generalizing watch monitor with
  | nil =>
    cases assessed
    exact follows
  | cons bucket rest ih =>
    obtain ⟨middle, first, others⟩ := bind_eq_ok.mp assessed
    exact ih (assessDay_follows follows first) others

/-- The loop returns when the events of all changes of the monitor can be made. -/
theorem assessDays_total (events : ∃ events, collect (fun change => degradationEvent query mapping change.1 change.2)
      (monitor.watch query.persistenceDays (baseline.reading query) buckets).changes = .ok events) :
    ∃ next, foldSteps (assessDay query mapping baseline) watch buckets = .ok next := by
  induction buckets generalizing watch monitor with
  | nil => exact ⟨watch, rfl⟩
  | cons bucket rest ih =>
    obtain ⟨all, computed⟩ := events
    obtain ⟨others, split⟩ := @changes_begin _ query.persistenceDays (baseline.reading query)
      (monitor.observe query.persistenceDays (baseline.reading query) bucket) rest
    have whole : (monitor.watch query.persistenceDays (baseline.reading query) (bucket :: rest)).changes =
        ((monitor.observe query.persistenceDays (baseline.reading query) bucket).watch query.persistenceDays
          (baseline.reading query) rest).changes := rfl
    rw [whole, ← split, collect_append_eq_ok] at computed
    obtain ⟨first, second, made, later, rfl⟩ := computed
    obtain ⟨middle, stepped⟩ := assessDay_total follows ⟨first, made⟩
    have rest := ih (assessDay_follows follows stepped) ⟨first ++ second, by
      rw [← split, collect_append_eq_ok]
      exact ⟨first, second, made, later, rfl⟩⟩
    obtain ⟨final, folded⟩ := rest
    exact ⟨final, bind_eq_ok.mpr ⟨middle, stepped, folded⟩⟩

end

end Days

section Baseline

variable {minimumSamples index : Nat} {baseline buckets more : List DailyBucket}

/-- A baseline that is complete does not depend on later days. -/
theorem collectBaseline_append (short : baseline.length < baselineDays)
    (complete : baselineDays ≤ (collectBaseline minimumSamples index baseline buckets).1.length) :
    collectBaseline minimumSamples index baseline (buckets ++ more) = collectBaseline minimumSamples index baseline buckets := by
  induction buckets generalizing index baseline with
  | nil => exact absurd complete (not_le.mpr short)
  | cons bucket rest ih =>
    rw [cons_append]
    unfold collectBaseline at complete ⊢
    split
    · rename_i usable
      rw [if_pos usable] at complete
      split
      · rfl
      · rename_i open_
        rw [if_neg open_] at complete
        refine ih ?_ complete
        rw [length_append, length_singleton] at open_ ⊢
        omega
    · rename_i unusable
      rw [if_neg unusable] at complete
      exact ih short complete

/-- A complete baseline ends at one of the days. -/
theorem collectBaseline_end (short : baseline.length < baselineDays)
    (complete : baselineDays ≤ (collectBaseline minimumSamples index baseline buckets).1.length) :
    (collectBaseline minimumSamples index baseline buckets).2 ≤ index + buckets.length := by
  induction buckets generalizing index baseline with
  | nil => exact absurd complete (not_le.mpr short)
  | cons bucket rest ih =>
    rw [length_cons]
    unfold collectBaseline at complete ⊢
    split
    · rename_i usable
      rw [if_pos usable] at complete
      split
      · omega
      · rename_i open_
        rw [if_neg open_] at complete
        rw [length_append, length_singleton] at open_
        have below := ih (by rw [length_append, length_singleton]; omega) complete
        omega
    · rename_i unusable
      rw [if_neg unusable] at complete
      have below := ih short complete
      omega

/-- The days of a baseline are usable. -/
theorem usable_of_mem_baseline {day : DailyBucket} (member : day ∈ (collectBaseline minimumSamples index baseline buckets).1) :
    day ∈ baseline ∨ usableDurationDay day minimumSamples = true := by
  induction buckets generalizing index baseline with
  | nil => exact .inl member
  | cons bucket rest ih =>
    unfold collectBaseline at member
    split at member
    · rename_i usable
      have extended : day ∈ baseline ++ [bucket] → day ∈ baseline ∨ usableDurationDay day minimumSamples = true := by
        intro inside
        refine (mem_append.mp inside).imp_right fun last => ?_
        rw [mem_singleton.mp last]
        exact usable
      split at member
      · exact extended member
      · exact (ih member).elim extended .inr
    · exact ih member

/-- The mean of usable days is a count. -/
theorem baseline_mean_le (days : List DailyBucket) (usable : ∀ day ∈ days, 1 ≤ day.selected.durationSamples) :
    (DegradationBaseline.of days).total ≤ maxSafeJsonInteger * (DegradationBaseline.of days).samples := by
  induction days with
  | nil => exact Nat.zero_le _
  | cons day rest ih =>
    have others := ih fun other member => usable other (mem_cons_of_mem _ member)
    have first : day.selected.runnerMs ≤ maxSafeJsonInteger * day.selected.durationSamples :=
      day.selected.runnerMs_le.trans (Nat.le_mul_of_pos_right _ (usable day mem_cons_self))
    simp only [DegradationBaseline.of, map_cons, sum_cons] at others ⊢
    rw [Nat.mul_add]
    omega

end Baseline

section Stability

variable {query : AnalyticsQuery} {mapping : Option PurposeMapping} {buckets more : List DailyBucket}
  {result later : DegradationResult}

/-- The baseline of a sequence of days, with the number of days up to its end. -/
def baselineOf (query : AnalyticsQuery) (buckets : List DailyBucket) : List DailyBucket × Nat :=
  collectBaseline query.minimumDailySamples 0 [] buckets

/-- A query names one job, and its days have a baseline and some day after it. -/
def Assessable (query : AnalyticsQuery) (buckets : List DailyBucket) : Prop :=
  (query.workflowId ≠ none ∧ query.jobName ≠ none) ∧ baselineDays ≤ (baselineOf query buckets).1.length ∧
    (baselineOf query buckets).2 ≠ buckets.length

/-- The monitor over the days after the baseline. -/
def monitorOf (query : AnalyticsQuery) (days : List DailyBucket) (buckets : List DailyBucket) : Monitor DailyBucket :=
  Monitor.start.watch query.persistenceDays ((DegradationBaseline.of days).reading query) buckets

/-- The result for days that can be assessed. -/
def assessedResult (query : AnalyticsQuery) (buckets : List DailyBucket) (watch : DegradationWatch) : DegradationResult :=
  let baseline := DegradationBaseline.of (baselineOf query buckets).1
  ⟨watch.status, if watch.lastUsable = true then .observedDurationOnly else .insufficientSamples,
    (buckets[(baselineOf query buckets).2]?).map fun bucket => bucket.day, some (baseline.total / baseline.samples),
    baseline.samples, watch.events⟩

variable {event : DegradationEvent}

theorem assessDegradation_of_assessable (assessable : Assessable query buckets) : assessDegradation query buckets mapping =
      foldSteps (assessDay query mapping (DegradationBaseline.of (baselineOf query buckets).1)) ⟨false, 0, 0, [], true⟩
        (buckets.drop (baselineOf query buckets).2) >>= fun watch => (assessedResult query buckets watch).validate := by
  obtain ⟨named, complete, open_⟩ := assessable
  unfold assessDegradation
  rw [if_neg (not_or.mpr named)]
  change (if (baselineOf query buckets).1.length < baselineDays ∨ (baselineOf query buckets).2 = buckets.length then _ else _) = _
  rw [if_neg (not_or.mpr ⟨not_lt.mpr complete, open_⟩)]
  rfl

/-- Days that cannot be assessed have no events. -/
theorem assessDegradation_of_not_assessable (unassessable : ¬ Assessable query buckets) :
    ∃ reason, assessDegradation query buckets mapping = .ok (unavailableDegradation reason) := by
  have valid : ∀ reason, (unavailableDegradation reason).validate = .ok (unavailableDegradation reason) := fun _ => rfl
  unfold assessDegradation
  split
  · exact ⟨_, valid _⟩
  · rename_i named
    change ∃ reason, (if (baselineOf query buckets).1.length < baselineDays ∨ (baselineOf query buckets).2 = buckets.length
      then _ else _) = _
    split
    · exact ⟨_, valid _⟩
    · rename_i usable
      rw [not_or] at named usable
      exact absurd ⟨named, not_lt.mp usable.1, usable.2⟩ unassessable

theorem validate_eq_ok {self : DegradationResult} : self.validate = .ok result ↔
    self = result ∧ (∀ mean ∈ self.baselineMeanMs, isCount mean = true) ∧ isCount self.baselineSamples = true ∧
      self.events.length ≤ maxAnalyticsDays := by
  simp only [DegradationResult.validate, bind_unit_eq_ok, raiseIf_eq_ok, pure_eq_ok_iff, not_or, not_exists, not_and,
    Bool.not_eq_false, not_lt]
  exact and_comm

/-- The events of assessed days are the changes of the monitor. -/
theorem events_of_assessable (assessable : Assessable query buckets)
    (assessed : assessDegradation query buckets mapping = .ok result) :
    collect (fun change => degradationEvent query mapping change.1 change.2)
      (monitorOf query (baselineOf query buckets).1 (buckets.drop (baselineOf query buckets).2)).changes = .ok result.events := by
  rw [assessDegradation_of_assessable assessable] at assessed
  obtain ⟨watch, folded, valid⟩ := bind_eq_ok.mp assessed
  rw [← (validate_eq_ok.mp valid).1]
  exact (assessDays_follows .start folded).events

section

variable (complete : baselineDays ≤ (baselineOf query buckets).1.length)
include complete

/-- Days with more days after them have the same baseline. -/
theorem baselineOf_append : baselineOf query (buckets ++ more) = baselineOf query buckets :=
  collectBaseline_append (by decide) complete

theorem baseline_end_le : (baselineOf query buckets).2 ≤ buckets.length := by
  have below := @collectBaseline_end query.minimumDailySamples 0 [] buckets (by decide) complete
  rwa [Nat.zero_add] at below

end

theorem Assessable.append (assessable : Assessable query buckets) : Assessable query (buckets ++ more) := by
  obtain ⟨named, complete, open_⟩ := assessable
  have below := baseline_end_le complete
  refine ⟨named, ?_, ?_⟩
  · rw [baselineOf_append complete]
    exact complete
  · rw [baselineOf_append complete, length_append]
    omega

/-- The events of days are the first events of the days with more days after them. -/
theorem events_extend (assessed : assessDegradation query (buckets ++ more) mapping = .ok later) :
    ∃ earlier, assessDegradation query buckets mapping = .ok earlier ∧ earlier.events <+: later.events := by
  by_cases assessable : Assessable query buckets
  · have same : baselineOf query (buckets ++ more) = baselineOf query buckets := baselineOf_append assessable.2.1
    have below := baseline_end_le assessable.2.1
    rw [assessDegradation_of_assessable assessable.append, same, drop_append_of_le_length below, foldSteps_append] at assessed
    obtain ⟨final, folded, valid⟩ := bind_eq_ok.mp assessed
    obtain ⟨watch, first, second⟩ := bind_eq_ok.mp folded
    have follows := assessDays_follows .start first
    have extended := assessDays_follows follows second
    obtain ⟨others, split⟩ := @changes_begin _ query.persistenceDays
      ((DegradationBaseline.of (baselineOf query buckets).1).reading query)
      (Monitor.start.watch query.persistenceDays ((DegradationBaseline.of (baselineOf query buckets).1).reading query)
        (buckets.drop (baselineOf query buckets).2)) more
    have events := extended.events
    rw [← split, collect_append_eq_ok] at events
    obtain ⟨left, right, made, -, whole⟩ := events
    obtain rfl : watch.events = left := Except.ok.inj (follows.events.symm.trans made)
    obtain ⟨rfl, mean, samples, count⟩ := validate_eq_ok.mp valid
    have included : watch.events <+: final.events := ⟨right, whole.symm⟩
    refine ⟨assessedResult query buckets watch, ?_, included⟩
    rw [assessDegradation_of_assessable assessable, first, ok_bind_eq, validate_eq_ok]
    simp only [assessedResult, same] at mean samples
    exact ⟨rfl, mean, samples, included.length_le.trans count⟩
  · obtain ⟨reason, unavailable⟩ := @assessDegradation_of_not_assessable query mapping buckets assessable
    exact ⟨_, unavailable, nil_prefix⟩

theorem degradationEvent_eq_ok {bucket : DailyBucket} {active : Bool}
    (made : degradationEvent query mapping bucket active = .ok event) :
    event.day = bucket.day ∧ event.state = if active = true then .observedSlowdown else .recovered := by
  simp only [degradationEvent, DegradationEvent.validate, bind_eq_ok, pure_eq_ok_iff] at made
  obtain ⟨key, -, -, -, rfl⟩ := made
  exact ⟨rfl, rfl⟩

section

variable (assessed : assessDegradation query buckets mapping = .ok result)
include assessed

/-- A change of the monitor is an event of the result. -/
theorem change_of_event (member : event ∈ result.events) : Assessable query buckets ∧
      ∃ change ∈ (monitorOf query (baselineOf query buckets).1 (buckets.drop (baselineOf query buckets).2)).changes,
        event.day = change.1.day ∧ event.state = if change.2 = true then .observedSlowdown else .recovered := by
  by_cases assessable : Assessable query buckets
  · obtain ⟨change, listed, made⟩ := exists_of_mem_collect (events_of_assessable assessable assessed) member
    exact ⟨assessable, change, listed, degradationEvent_eq_ok made⟩
  · obtain ⟨reason, unavailable⟩ := @assessDegradation_of_not_assessable query mapping buckets assessable
    rw [unavailable] at assessed
    cases assessed
    cases member

/-- The events alternate and start with a slowdown. -/
theorem events_alternate {index : Nat} (found : result.events[index]? = some event) :
    event.state = if index % 2 = 0 then .observedSlowdown else .recovered := by
  have assessable := (change_of_event assessed (mem_of_getElem? found)).1
  have events := events_of_assessable assessable assessed
  have states : result.events.map DegradationEvent.state =
      (monitorOf query (baselineOf query buckets).1 (buckets.drop (baselineOf query buckets).2)).changes.map
        fun change => if change.2 = true then .observedSlowdown else .recovered :=
    map_collect events fun _ _ _ made => (degradationEvent_eq_ok made).2
  have state := congrArg (fun states => states[index]?) states
  simp only [getElem?_map, found] at state
  obtain ⟨change, listed, same⟩ := Option.map_eq_some_iff.mp state.symm
  have toggled : (monitorOf query (baselineOf query buckets).1 (buckets.drop (baselineOf query buckets).2)).Toggled :=
    Monitor.Toggled.start.watch
  have side := toggled.alternating index change.2 (by rw [getElem?_map]; exact congrArg _ listed)
  rw [← same, side]
  simp

/-- An event ends a long enough run of usable days on its side that comes after the baseline. -/
theorem event_sustained (member : event ∈ result.events) :
    ∃ before streak after, buckets = before ++ streak ++ after ∧ (baselineOf query buckets).2 ≤ before.length ∧
      query.persistenceDays ≤ streak.length ∧
      (∀ bucket ∈ streak, usableDurationDay bucket query.minimumDailySamples = true ∧
        if event.state = .observedSlowdown then (DegradationBaseline.of (baselineOf query buckets).1).High query bucket
        else (DegradationBaseline.of (baselineOf query buckets).1).Low query bucket) ∧
      streak.getLast?.map (·.day) = some event.day := by
  obtain ⟨assessable, change, listed, day, state⟩ := change_of_event assessed member
  have below := baseline_end_le assessable.2.1
  obtain ⟨-, -, -, -, -, -, -, -, -, persistence, -⟩ := query.admitted
  have tracks : (monitorOf query (baselineOf query buckets).1 (buckets.drop (baselineOf query buckets).2)).Tracks
      query.persistenceDays ((DegradationBaseline.of (baselineOf query buckets).1).reading query)
      ([] ++ buckets.drop (baselineOf query buckets).2) :=
    Monitor.Tracks.start.watch (by omega)
  obtain ⟨before, streak, after, split, long, each, last⟩ := tracks.changes change listed
  rw [nil_append] at split
  refine ⟨buckets.take (baselineOf query buckets).2 ++ before, streak, after, ?_, ?_, long, ?_, ?_⟩
  · rw [append_assoc, append_assoc, ← append_assoc before, ← split, take_append_drop]
  · rw [length_append, length_take, Nat.min_eq_left below]
    omega
  · intro bucket inside
    have reading := each bucket inside
    rw [state]
    cases side : change.2 with
    | true =>
      rw [side] at reading
      exact reading_eq_high reading
    | false =>
      rw [side] at reading
      exact reading_eq_low reading
  · rw [last, day]
    rfl

end

/-- The slowdowns of a job are stable: the events of some days are the first events, with the same keys, when more days come
after them; events alternate and start with a slowdown; each ends a long enough run of usable days on its side of the
thresholds; and no day is on both sides. -/
theorem assessDegradation_stable (query : AnalyticsQuery) (mapping : Option PurposeMapping) (buckets more : List DailyBucket)
    (later : DegradationResult) (assessed : assessDegradation query (buckets ++ more) mapping = .ok later) :
    (∃ earlier, assessDegradation query buckets mapping = .ok earlier ∧ earlier.events <+: later.events) ∧
      (∀ index event, later.events[index]? = some event →
        event.state = if index % 2 = 0 then .observedSlowdown else .recovered) ∧
      (∀ event ∈ later.events, ∃ before streak after, buckets ++ more = before ++ streak ++ after ∧
        (baselineOf query (buckets ++ more)).2 ≤ before.length ∧ query.persistenceDays ≤ streak.length ∧
        (∀ bucket ∈ streak, usableDurationDay bucket query.minimumDailySamples = true ∧
          if event.state = .observedSlowdown then
            (DegradationBaseline.of (baselineOf query (buckets ++ more)).1).High query bucket
          else (DegradationBaseline.of (baselineOf query (buckets ++ more)).1).Low query bucket) ∧
        streak.getLast?.map (fun bucket => bucket.day) = some event.day) ∧
      ∀ (baseline : DegradationBaseline) (bucket : DailyBucket), ¬ (baseline.High query bucket ∧ baseline.Low query bucket) := by
  refine ⟨events_extend assessed, fun index event found => events_alternate assessed found, ?_, ?_⟩
  · exact fun event member => event_sustained assessed member
  · exact fun baseline bucket => DegradationBaseline.not_high_and_low

end Stability

section Totality

variable {query : AnalyticsQuery} {mapping : Option PurposeMapping} {buckets : List DailyBucket}

theorem isPositiveId_iff {value : Int} : isPositiveId value = true ↔ 1 ≤ value ∧ value ≤ maxSafeJsonInteger := by
  rw [isPositiveId, Bool.and_eq_true, decide_eq_true_eq, decide_eq_true_eq]

theorem admissible_positiveId {value : Int} (positive : isPositiveId value = true) : admissible (.int value) = true := by
  rw [admissible_int, decide_eq_true_eq]
  have bounds := isPositiveId_iff.mp positive
  omega

theorem admissible_natural {value : Nat} (bounded : value ≤ maxSafeJsonInteger) : admissible (.int value) = true := by
  rw [admissible_int, decide_eq_true_eq]
  exact bounded

theorem admissible_nullable {A : Type} {write : A → Json} {value : Option A}
    (each : ∀ item ∈ value, admissible (write item) = true) : admissible (nullable write value) = true := by
  cases value with
  | none => exact admissible_null
  | some item => exact each item rfl

theorem scalar_wireInstant (instant : Instant) : (wireInstant instant).scalar = true := by
  unfold wireInstant
  split <;> simp

theorem PurposeFilter.scalar_text (filter : PurposeFilter) : filter.text.scalar = true := by
  cases filter with
  | purpose category => cases category <;> exact scalar_ascii _
  | mixed => exact scalar_ascii _
  | unknown => exact scalar_ascii _

theorem AnalyticsQuery.admissible_cohortMapping (self : AnalyticsQuery) (scalar : ∀ name ∈ self.jobName, name.scalar = true) :
    admissible self.cohortMapping = true := by
  obtain ⟨installation, repository, generation, workflow, -, -, samples, relative, absolute, persistence, -, -⟩ := self.admitted
  have workflowId : admissible (nullable .int self.workflowId) = true :=
    admissible_nullable fun id member => admissible_positiveId (workflow id member)
  have jobName : admissible (nullable .str self.jobName) = true :=
    admissible_nullable fun name member => (admissible_str name).trans (scalar name member)
  have purpose : admissible (nullable (fun purpose : PurposeFilter => .str purpose.text) self.purpose) = true :=
    admissible_nullable fun purpose _ => (admissible_str _).trans purpose.scalar_text
  have thresholds : 100000 ≤ maxSafeJsonInteger ∧ 86400000 ≤ maxSafeJsonInteger ∧ 1000 ≤ maxSafeJsonInteger := by decide
  rw [cohortMapping, admissible_obj]
  simp [admissible_positiveId installation, admissible_positiveId repository, admissible_positiveId generation, workflowId, jobName, purpose, scalar_wireInstant, admissible_natural (samples.2.trans thresholds.2.2), admissible_natural (relative.2.trans thresholds.1), admissible_natural (absolute.2.trans thresholds.2.1), admissible_natural (persistence.2.trans (by decide))]

/-- The key of an event exists when the texts of the query and of its purposes can be encoded. -/
theorem degradationEvent_total (scalar : ∀ name ∈ query.jobName, name.scalar = true)
    (digest : ∃ digest, mappingDigest mapping = .ok digest ∧ admissible digest = true) (bucket : DailyBucket) (active : Bool) :
    ∃ event, degradationEvent query mapping bucket active = .ok event := by
  obtain ⟨digest, digested, admitted⟩ := digest
  have mean : isCount (bucket.selected.runnerMs / bucket.selected.durationSamples) = true :=
    decide_eq_true ((Nat.div_le_self _ _).trans bucket.selected.runnerMs_le)
  obtain ⟨key, hashed, hexadecimal⟩ := @hashObject_total
    (.obj [(ascii "model", .str (ascii "fixed-baseline-hysteresis/v1")), (ascii "query", query.cohortMapping),
      (ascii "mapping", digest), (ascii "day", .str bucket.day.isoText),
      (ascii "state", .str (if active = true then DegradationState.observedSlowdown else .recovered).text)])
    (by
      have state : ∀ state : DegradationState, state.text.scalar = true := by
        intro state
        cases state <;> exact scalar_ascii _
      simp [admitted, query.admissible_cohortMapping scalar, state])
  refine ⟨⟨key, bucket.day, if active = true then .observedSlowdown else .recovered,
    bucket.selected.runnerMs / bucket.selected.durationSamples⟩, ?_⟩
  simp only [degradationEvent, eventKey, digested, hashed, ok_bind_eq, DegradationEvent.validate, bind_unit_eq_ok, hexadecimal, mean, pure_eq_ok_iff]
  exact ⟨by simp, trivial⟩

/-- An assessment of the days of a query returns. -/
theorem assessDegradation_total (scalar : ∀ name ∈ query.jobName, name.scalar = true)
    (digest : ∃ digest, mappingDigest mapping = .ok digest ∧ admissible digest = true)
    (bounded : buckets.length ≤ maxAnalyticsDays)
    (samples : (DegradationBaseline.of (baselineOf query buckets).1).samples ≤ maxSafeJsonInteger) :
    ∃ result, assessDegradation query buckets mapping = .ok result := by
  by_cases assessable : Assessable query buckets
  · have events := @collect_total _ _ _ (fun change : DailyBucket × Bool => degradationEvent query mapping change.1 change.2)
      (monitorOf query (baselineOf query buckets).1 (buckets.drop (baselineOf query buckets).2)).changes
      fun change _ => degradationEvent_total scalar digest change.1 change.2
    obtain ⟨watch, folded⟩ := assessDays_total .start events
    have follows := assessDays_follows .start folded
    have counted : watch.events.length ≤ maxAnalyticsDays := by
      have same := (collect_eq_ok.mp follows.events).length_eq
      have changes := @length_changes_le _ query.persistenceDays
        ((DegradationBaseline.of (baselineOf query buckets).1).reading query) Monitor.start
        (buckets.drop (baselineOf query buckets).2)
      rw [length_drop, same] at changes
      have fresh : (Monitor.start : Monitor DailyBucket).changes.length = 0 := rfl
      omega
    refine ⟨assessedResult query buckets watch, ?_⟩
    rw [assessDegradation_of_assessable assessable, folded, ok_bind_eq, validate_eq_ok]
    refine ⟨rfl, ?_, decide_eq_true samples, counted⟩
    rintro mean ⟨⟩
    refine decide_eq_true (Nat.div_le_of_le_mul ?_)
    rw [Nat.mul_comm]
    refine baseline_mean_le _ fun day member => @samples_pos_of_usable query day ?_
    exact (usable_of_mem_baseline member).resolve_left not_mem_nil
  · obtain ⟨reason, unavailable⟩ := @assessDegradation_of_not_assessable query mapping buckets assessable
    exact ⟨_, unavailable⟩

end Totality

namespace Sample

/-- A query for the test job over ten days. -/
def slowdownQuery : AnalyticsQuery :=
  ⟨⟨1, 2, 3, ⟨0, by decide⟩, ⟨10 * dayMicros, by decide⟩, some 4, some (ascii "test"), none, 7, 1, 2000, 1000, 2⟩,
    ⟨by decide, by decide, by decide, by decide, by decide, by decide, by decide, by decide, by decide, by decide, by decide,
      by decide⟩⟩

def slowdownJobs (duration : Nat) : JobAggregateFields :=
  ⟨1, 0, 0, 1, 0, duration, 0, 0, 0, 1, 0, 0⟩

theorem slowdownJobs_admitted {duration : Nat} (bounded : duration ≤ maxSafeJsonInteger) : (slowdownJobs duration).Admitted := by
  refine ⟨?_, rfl, rfl, Nat.zero_le 1, Nat.zero_le 1, fun empty => absurd empty Nat.one_ne_zero, fun _ => rfl⟩
  have small : 1 ≤ maxSafeJsonInteger := by decide
  simp [slowdownJobs, isCount, bounded, small]

def slowdownDayFields (day : Fin 10) (duration : Nat) (bounded : duration ≤ maxSafeJsonInteger) : DailyBucketFields :=
  ⟨⟨day * dayMicros, Nat.lt_of_le_of_lt (Nat.mul_le_mul_right _ (Nat.le_of_lt day.isLt)) (by decide)⟩, .completeRetained,
    1, 1, 1, 1, 0, 0, 0, 0, 0, 0, ⟨slowdownJobs duration, slowdownJobs_admitted bounded⟩, some duration, none⟩

theorem slowdownDay_admitted {day : Fin 10} {duration : Nat} (bounded : duration ≤ maxSafeJsonInteger) :
    (slowdownDayFields day duration bounded).Admitted := by
  refine ⟨?_, rfl, Nat.le_refl 1, Nat.le_refl 1, rfl, rfl, rfl⟩
  simp [slowdownDayFields, isCount, maxSafeJsonInteger]

/-- One run of the test job on one day. -/
def slowdownDay (day : Fin 10) (duration : Nat) (bounded : duration ≤ maxSafeJsonInteger) : DailyBucket :=
  ⟨slowdownDayFields day duration bounded, slowdownDay_admitted bounded⟩

theorem short_bounded : 2000 ≤ maxSafeJsonInteger := by
  decide

theorem long_bounded : 9000 ≤ maxSafeJsonInteger := by
  decide

/-- Seven short days and a long one. -/
def firstDays : List DailyBucket :=
  [0, 1, 2, 3, 4, 5, 6].map (fun day => slowdownDay day 2000 short_bounded) ++ [slowdownDay 7 9000 long_bounded]

/-- Another long day. -/
def lastDays : List DailyBucket :=
  [slowdownDay 8 9000 long_bounded]

end Sample

/-- A second long day adds the first event and keeps the events before it. -/
theorem Sample.slowdown_stable : ∃ later,
    assessDegradation Sample.slowdownQuery (Sample.firstDays ++ Sample.lastDays) none = .ok later ∧
      ∃ earlier, assessDegradation Sample.slowdownQuery Sample.firstDays none = .ok earlier ∧ earlier.events <+: later.events := by
  have texts : ∀ name ∈ Sample.slowdownQuery.jobName, name.scalar = true := by decide
  obtain ⟨later, assessed⟩ := @assessDegradation_total Sample.slowdownQuery none (Sample.firstDays ++ Sample.lastDays) texts
    ⟨.null, rfl, admissible_null⟩ (by decide) (by decide)
  exact ⟨later, assessed, (assessDegradation_stable _ _ _ _ later assessed).1⟩

end CiCoordinator.CiEconomics

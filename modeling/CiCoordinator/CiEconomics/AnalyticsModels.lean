import CiCoordinator.CiEconomics.ArchiveStatistics

/- The queries of the archive analytics and the days that they aggregate. -/

namespace CiCoordinator.CiEconomics

open Library Kernel

def maxAnalyticsDays : Nat :=
  366

def dayMicros : Nat :=
  86400 * secondMicros

/-- A count of a payload model. -/
def isCount (value : Nat) : Bool :=
  value ≤ maxSafeJsonInteger

/-- A positive identity of a payload model. -/
def isPositiveId (value : Int) : Bool :=
  1 ≤ value && value ≤ maxSafeJsonInteger

/-- The name of a job in a query. -/
def isJobName (value : Text) : Bool :=
  1 ≤ value.length && value.length ≤ 512 && value.all (fun point => point ≠ 0)

inductive Purpose where
  | lint
  | typecheck
  | test
  | build
  | deploy
  deriving DecidableEq

def Purpose.text : Purpose → Text
  | .lint => ascii "lint"
  | .typecheck => ascii "typecheck"
  | .test => ascii "test"
  | .build => ascii "build"
  | .deploy => ascii "deploy"

inductive PurposeFilter where
  | purpose (purpose : Purpose)
  | mixed
  | unknown
  deriving DecidableEq

def PurposeFilter.text : PurposeFilter → Text
  | .purpose category => category.text
  | .mixed => ascii "mixed"
  | .unknown => ascii "unknown"

structure PurposeEntry where
  workflowId : Int
  jobName : Text
  purposes : List Purpose
  deriving DecidableEq

/-- What the payload model of a purpose entry checks. -/
structure PurposeEntry.Admitted (self : PurposeEntry) : Prop where
  workflow : isPositiveId self.workflowId = true
  jobName : isJobName self.jobName = true
  scalar : self.jobName.scalar = true
  bytes : self.jobName.utf8.length ≤ 2048
  purposes : 1 ≤ self.purposes.length ∧ self.purposes.length ≤ 5
  distinct : self.purposes.Nodup

def PurposeEntry.json (self : PurposeEntry) : Json :=
  .obj [(ascii "workflowId", .int self.workflowId), (ascii "jobName", .str self.jobName),
    (ascii "purposes", .arr (self.purposes.map fun purpose => .str purpose.text))]

structure PurposeMappingFields where
  installationId : Int
  repositoryId : Int
  generation : Int
  version : Text
  provenance : Text
  entries : List PurposeEntry
  deriving DecidableEq

/-- What the payload model of a purpose mapping checks. -/
structure PurposeMappingFields.Admitted (self : PurposeMappingFields) : Prop where
  installation : isPositiveId self.installationId = true
  repository : isPositiveId self.repositoryId = true
  generation : isPositiveId self.generation = true
  version : 1 ≤ self.version.length ∧ self.version.length ≤ 64
  provenance : 1 ≤ self.provenance.length ∧ self.provenance.length ≤ 256
  entries : self.entries.length ≤ 64 ∧ ∀ entry ∈ self.entries, entry.Admitted
  distinct : (self.entries.map fun entry => (entry.workflowId, entry.jobName)).Nodup

/-- The purposes that an operator gives to jobs. -/
structure PurposeMapping extends PurposeMappingFields where
  admitted : toPurposeMappingFields.Admitted

def PurposeMapping.digest (self : PurposeMapping) : Py Text :=
  hashObject (.obj [(ascii "installationId", .int self.installationId), (ascii "repositoryId", .int self.repositoryId),
    (ascii "generation", .int self.generation), (ascii "version", .str self.version),
    (ascii "provenance", .str self.provenance), (ascii "entries", .arr (self.entries.map PurposeEntry.json))])

structure AnalyticsQueryFields where
  installationId : Int
  repositoryId : Int
  generation : Int
  createdFrom : Instant
  createdUntil : Instant
  workflowId : Option Int
  jobName : Option Text
  purpose : Option PurposeFilter
  horizonDays : Nat
  minimumDailySamples : Nat
  degradationRelativeBps : Nat
  degradationAbsoluteMs : Nat
  persistenceDays : Nat
  deriving DecidableEq

/-- What the payload model of a query checks. -/
structure AnalyticsQueryFields.Admitted (self : AnalyticsQueryFields) : Prop where
  installation : isPositiveId self.installationId = true
  repository : isPositiveId self.repositoryId = true
  generation : isPositiveId self.generation = true
  workflow : ∀ id ∈ self.workflowId, isPositiveId id = true
  jobName : ∀ name ∈ self.jobName, isJobName name = true
  horizon : 1 ≤ self.horizonDays ∧ self.horizonDays ≤ 30
  samples : 1 ≤ self.minimumDailySamples ∧ self.minimumDailySamples ≤ 1000
  relative : 1 ≤ self.degradationRelativeBps ∧ self.degradationRelativeBps ≤ 100000
  absolute : 1 ≤ self.degradationAbsoluteMs ∧ self.degradationAbsoluteMs ≤ 86400000
  persistence : 2 ≤ self.persistenceDays ∧ self.persistenceDays ≤ 14
  wholeDays : self.createdFrom.micros % dayMicros = 0 ∧ self.createdUntil.micros % dayMicros = 0
  window : self.createdFrom < self.createdUntil ∧
    self.createdUntil.micros ≤ self.createdFrom.micros + maxAnalyticsDays * dayMicros

/-- A question about the archived days of a repository. -/
structure AnalyticsQuery extends AnalyticsQueryFields where
  admitted : toAnalyticsQueryFields.Admitted

/-- A query without the end of its window and without its horizon. -/
def AnalyticsQuery.cohortMapping (self : AnalyticsQuery) : Json :=
  .obj [(ascii "installationId", .int self.installationId), (ascii "repositoryId", .int self.repositoryId),
    (ascii "generation", .int self.generation), (ascii "createdFrom", .str (wireInstant self.createdFrom)),
    (ascii "workflowId", nullable .int self.workflowId), (ascii "jobName", nullable .str self.jobName),
    (ascii "purpose", nullable (fun purpose => .str purpose.text) self.purpose),
    (ascii "minimumDailySamples", .int self.minimumDailySamples),
    (ascii "degradationRelativeBps", .int self.degradationRelativeBps),
    (ascii "degradationAbsoluteMs", .int self.degradationAbsoluteMs),
    (ascii "persistenceDays", .int self.persistenceDays)]

structure JobAggregateFields where
  jobs : Nat
  failures : Nat
  cancellations : Nat
  durationSamples : Nat
  queueSamples : Nat
  runnerMs : Nat
  queueMs : Nat
  inconsistentTimings : Nat
  missingDuration : Nat
  missingQueue : Nat
  mixedJobs : Nat
  unknownPurposeJobs : Nat
  deriving DecidableEq

/-- What the payload model of an aggregate checks. -/
structure JobAggregateFields.Admitted (self : JobAggregateFields) : Prop where
  counts : ∀ value ∈ [self.jobs, self.failures, self.cancellations, self.durationSamples, self.queueSamples, self.runnerMs,
    self.queueMs, self.inconsistentTimings, self.missingDuration, self.missingQueue, self.mixedJobs, self.unknownPurposeJobs],
    isCount value = true
  durations : self.durationSamples + self.missingDuration + self.inconsistentTimings = self.jobs
  queues : self.queueSamples + self.missingQueue + self.inconsistentTimings = self.jobs
  ended : self.failures + self.cancellations ≤ self.jobs
  purposes : self.mixedJobs + self.unknownPurposeJobs ≤ self.jobs
  runner : self.durationSamples = 0 → self.runnerMs = 0
  queue : self.queueSamples = 0 → self.queueMs = 0

/-- The selected jobs of a day. -/
structure JobAggregate extends JobAggregateFields where
  admitted : toJobAggregateFields.Admitted
  deriving DecidableEq

inductive DailyCoverage where
  | unknown
  | partial_
  | completeRetained
  deriving DecidableEq

structure DailyBucketFields where
  day : Instant
  coverage : DailyCoverage
  runs : Nat
  attempts : Nat
  matchingAttempts : Nat
  completeAttempts : Nat
  partialAttempts : Nat
  unavailableAttempts : Nat
  conflictAttempts : Nat
  knownMissingJobs : Nat
  unknownPopulationAttempts : Nat
  conflictExcludedJobs : Nat
  selected : JobAggregate
  observedRunnerMs : Option Nat
  observedQueueMs : Option Nat
  deriving DecidableEq

/-- What the payload model of a day checks. -/
structure DailyBucketFields.Admitted (self : DailyBucketFields) : Prop where
  counts : ∀ value ∈ [self.runs, self.attempts, self.matchingAttempts, self.completeAttempts, self.partialAttempts,
    self.unavailableAttempts, self.conflictAttempts, self.knownMissingJobs, self.unknownPopulationAttempts,
    self.conflictExcludedJobs], isCount value = true
  partition_ : self.attempts =
    self.completeAttempts + self.partialAttempts + self.unavailableAttempts + self.conflictAttempts
  matching : self.matchingAttempts ≤ self.attempts
  runs : self.runs ≤ self.attempts
  covered : self.coverage =
    if self.attempts = 0 then .unknown
    else if self.completeAttempts = self.attempts then .completeRetained
    else .partial_
  runner : self.observedRunnerMs = if self.selected.durationSamples = 0 then none else some self.selected.runnerMs
  queue : self.observedQueueMs = if self.selected.queueSamples = 0 then none else some self.selected.queueMs

/-- The archived runs that were created on one day. -/
structure DailyBucket extends DailyBucketFields where
  admitted : toDailyBucketFields.Admitted
  deriving DecidableEq

def usableDurationDay (bucket : DailyBucket) (minimumSamples : Nat) : Bool :=
  decide (bucket.coverage = .completeRetained) && decide (minimumSamples ≤ bucket.selected.durationSamples) &&
    decide (bucket.selected.durationSamples = bucket.selected.jobs) && decide (bucket.conflictExcludedJobs = 0)

theorem JobAggregate.runnerMs_le (self : JobAggregate) : self.runnerMs ≤ maxSafeJsonInteger := by
  obtain ⟨counts, -⟩ := self.admitted
  exact of_decide_eq_true (counts self.runnerMs (by simp))

/-- A usable day of a query has samples. -/
theorem samples_pos_of_usable {query : AnalyticsQuery} {bucket : DailyBucket}
    (usable : usableDurationDay bucket query.minimumDailySamples = true) : 1 ≤ bucket.selected.durationSamples := by
  obtain ⟨-, -, -, -, -, -, samples, -⟩ := query.admitted
  simp only [usableDurationDay, Bool.and_eq_true, decide_eq_true_eq] at usable
  exact samples.1.trans usable.1.1.2

end CiCoordinator.CiEconomics

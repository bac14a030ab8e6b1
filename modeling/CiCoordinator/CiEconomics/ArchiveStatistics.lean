import CiCoordinator.CiEconomics.Sources
import CiCoordinator.Kernel.WriterRefinement

/- The statistics that an archive keeps of an attempt, their encoding and their refinement. -/

namespace CiCoordinator.CiEconomics

open Library Kernel

def maxJobsPerAttempt : Nat :=
  2000

def maxHistoryHeaderBytes : Nat :=
  8192

def maxHistoryJobBytes : Nat :=
  32768

def maxHistoryStatisticsBytes : Nat :=
  8388608

inductive WorkflowConclusion where
  | success
  | failure
  | cancelled
  | timedOut
  | skipped
  | neutral
  | actionRequired
  | startupFailure
  | stale
  deriving DecidableEq

def WorkflowConclusion.text : WorkflowConclusion → Text
  | .success => ascii "success"
  | .failure => ascii "failure"
  | .cancelled => ascii "cancelled"
  | .timedOut => ascii "timed_out"
  | .skipped => ascii "skipped"
  | .neutral => ascii "neutral"
  | .actionRequired => ascii "action_required"
  | .startupFailure => ascii "startup_failure"
  | .stale => ascii "stale"

inductive ArchivePopulation where
  | complete
  | partial_
  | unavailable
  | conflict
  deriving DecidableEq

def ArchivePopulation.text : ArchivePopulation → Text
  | .complete => ascii "complete"
  | .partial_ => ascii "partial"
  | .unavailable => ascii "unavailable"
  | .conflict => ascii "conflict"

/-- A payload model writes an instant in universal time with the letter of the zone. -/
def wireInstant (instant : Instant) : Text :=
  (if instant.microsecond = 0 then instant.isoSecondText else instant.isoMicrosecondText) ++ ascii "Z"

/-- A value that a payload model leaves out is written as null. -/
def nullable {A : Type} (write : A → Json) : Option A → Json
  | none => .null
  | some value => write value

/-- The value of a field of a dumped payload model. -/
inductive DumpedValue where
  | text (value : Text)
  | number (value : Int)
  | instant (value : Instant)
  | attempt (value : AttemptIdentity)
  | labels (values : List Text)
  deriving DecidableEq

def DumpedValue.json : DumpedValue → Json
  | .text value => .str value
  | .number value => .int value
  | .instant value => .str (wireInstant value)
  | .attempt value => value.canonicalMapping
  | .labels values => .arr (values.map .str)

/-- A dump lists the fields of a payload model, and a field can be none. -/
abbrev Dump := List (Text × Option DumpedValue)

def dumpJson (dump : Dump) : List (Text × Json) :=
  dump.map fun entry => (entry.1, nullable DumpedValue.json entry.2)

structure ArchivedJobFields where
  providerJobId : Int
  name : Text
  conclusion : WorkflowConclusion
  createdAt : Option Instant
  startedAt : Option Instant
  completedAt : Option Instant
  labels : List Text
  runnerId : Option Int
  runnerGroupId : Option Int
  deriving DecidableEq

/-- What the payload model of a job checks. -/
structure ArchivedJobFields.Admitted (self : ArchivedJobFields) : Prop where
  identity : 1 ≤ self.providerJobId ∧ self.providerJobId ≤ maxSafeJsonInteger
  name : 1 ≤ self.name.length ∧ self.name.length ≤ 512
  storable : 0 ∉ self.name ∧ self.name.scalar = true
  labels : self.labels.length ≤ 32 ∧ (∀ label ∈ self.labels, 1 ≤ label.length ∧ label.length ≤ 128) ∧ self.labels.Nodup
  runner : ∀ id ∈ self.runnerId, 1 ≤ id ∧ id ≤ maxSafeJsonInteger
  group : ∀ id ∈ self.runnerGroupId, 1 ≤ id ∧ id ≤ maxSafeJsonInteger
  grouped : self.runnerGroupId ≠ none → self.runnerId ≠ none

/-- The statistics of a job of an attempt. -/
structure ArchivedJobStatistics extends ArchivedJobFields where
  admitted : toArchivedJobFields.Admitted
  deriving DecidableEq

def ArchivedJobStatistics.dump (self : ArchivedJobStatistics) : Dump :=
  [(ascii "providerJobId", some (.number self.providerJobId)), (ascii "name", some (.text self.name)),
    (ascii "conclusion", some (.text self.conclusion.text)), (ascii "createdAt", self.createdAt.map .instant),
    (ascii "startedAt", self.startedAt.map .instant), (ascii "completedAt", self.completedAt.map .instant),
    (ascii "labels", some (.labels self.labels)), (ascii "runnerId", self.runnerId.map .number),
    (ascii "runnerGroupId", self.runnerGroupId.map .number)]

structure ArchivedAttemptHeaderFields where
  attempt : AttemptIdentity
  workflowId : Int
  workflowPath : Option Text
  workflowBlobSha : Option Text
  event : Text
  conclusion : Option WorkflowConclusion
  runCreatedAt : Instant
  population : ArchivePopulation
  providerJobTotal : Option Nat
  deriving DecidableEq

/-- What the payload model of a header checks. -/
structure ArchivedAttemptHeaderFields.Admitted (self : ArchivedAttemptHeaderFields) : Prop where
  workflow : 1 ≤ self.workflowId ∧ self.workflowId ≤ maxSafeJsonInteger
  path : ∀ path ∈ self.workflowPath, 1 ≤ path.length ∧ path.length ≤ 1024
  blob : ∀ sha ∈ self.workflowBlobSha, sha.length = 40 ∧ sha.all CodePoint.isLowerHex = true
  event : 1 ≤ self.event.length ∧ self.event.length ≤ 64
  declared : ∀ count ∈ self.providerJobTotal, count ≤ maxSafeJsonInteger
  located : self.workflowBlobSha ≠ none → self.workflowPath ≠ none

/-- The header of the statistics of an attempt. -/
structure ArchivedAttemptHeader extends ArchivedAttemptHeaderFields where
  admitted : toArchivedAttemptHeaderFields.Admitted
  deriving DecidableEq

namespace ArchivedAttemptHeader

variable (self : ArchivedAttemptHeader)

/-- The fields that an archive refines; the population is compared apart from them. -/
def dump : Dump :=
  [(ascii "schemaVersion", some (.text (ascii "ci-economics-archive-statistics/v1"))),
    (ascii "attempt", some (.attempt self.attempt)), (ascii "workflowId", some (.number self.workflowId)),
    (ascii "workflowPath", self.workflowPath.map .text), (ascii "workflowBlobSha", self.workflowBlobSha.map .text),
    (ascii "event", some (.text self.event)),
    (ascii "conclusion", self.conclusion.map fun conclusion => .text conclusion.text),
    (ascii "runCreatedAt", some (.instant self.runCreatedAt)),
    (ascii "providerJobTotal", self.providerJobTotal.map fun count => .number count)]

def canonicalMembers : List (Text × Json) :=
  dumpJson self.dump ++ [(ascii "population", .str self.population.text)]

/-- The count of the archived jobs agrees with the population that the header declares. -/
def AdmittedJobCount (count : Nat) : Prop :=
  count ≤ maxJobsPerAttempt ∧ (∀ declared ∈ self.providerJobTotal, count ≤ declared) ∧
    (self.population = .complete → self.providerJobTotal = some count) ∧
    (self.population = .partial_ → ¬ (count = 0 ∧ self.providerJobTotal = none) ∧ self.providerJobTotal ≠ some count) ∧
    (self.population = .unavailable → count = 0 ∧ self.providerJobTotal = none)

instance (self : ArchivedAttemptHeader) (count : Nat) : Decidable (self.AdmittedJobCount count) := by
  unfold AdmittedJobCount
  infer_instance

end ArchivedAttemptHeader

structure ArchivedAttemptStatisticsFields where
  header : ArchivedAttemptHeader
  jobs : List ArchivedJobStatistics
  deriving DecidableEq

/-- The jobs of an attempt are in the order of their identities, and their count is admitted. -/
def ArchivedAttemptStatisticsFields.Admitted (self : ArchivedAttemptStatisticsFields) : Prop :=
  Increasing (fun job : ArchivedJobStatistics => job.providerJobId) self.jobs ∧
    self.header.AdmittedJobCount self.jobs.length

instance (self : ArchivedAttemptStatisticsFields) : Decidable self.Admitted :=
  inferInstanceAs (Decidable (_ ∧ _))

/-- The statistics of an attempt. -/
structure ArchivedAttemptStatistics extends ArchivedAttemptStatisticsFields where
  admitted : toArchivedAttemptStatisticsFields.Admitted
  deriving DecidableEq

namespace ArchivedAttemptStatistics

def make (fields : ArchivedAttemptStatisticsFields) : Py ArchivedAttemptStatistics :=
  if admitted : fields.Admitted then .ok ⟨fields, admitted⟩ else .error .validationError

variable (self : ArchivedAttemptStatistics)

def canonicalMapping : Json :=
  .obj (self.header.canonicalMembers ++ [(ascii "jobs", .arr (self.jobs.map fun job => .obj (dumpJson job.dump)))])

def statisticsDigest : Py Text :=
  hashObject self.canonicalMapping

def jobOf (providerJobId : Int) : Option ArchivedJobStatistics :=
  self.jobs.find? fun job => decide (job.providerJobId = providerJobId)

end ArchivedAttemptStatistics

/-- A bounded writer raises after it has written too many bytes. -/
def boundedCanonicalJson (value : Json) (maxBytes : Nat) : Py (List Nat) := do
  let bytes ← canonicalJson value none
  raiseIf (maxBytes < bytes.length) (.canonicalJsonError {
    code := .canonicalJsonMaxBytesExceeded
    path := ascii "$"
    message := ascii "maximum canonical JSON byte count is " ++ decimal maxBytes
    instancePointer := some []
    limit := some maxBytes
    observed := some (maxBytes + 1) })
  return bytes

def encodeArchiveHeader (header : ArchivedAttemptHeader) : Py (List Nat) :=
  boundedCanonicalJson (.obj header.canonicalMembers) maxHistoryHeaderBytes

def encodeArchiveJob (job : ArchivedJobStatistics) : Py (List Nat) :=
  boundedCanonicalJson (.obj (dumpJson job.dump)) maxHistoryJobBytes

inductive ArchiveUpdate where
  | unchanged
  | refined
  | incomparable
  | conflict
  deriving DecidableEq

/-- The value of a field in a dump. -/
def dumped (dump : Dump) (name : Text) : Option DumpedValue :=
  (dump.lookup name).join

/-- Two dumps conflict in a field that both of them know. -/
def conflicts (left right : Dump) : Prop :=
  ∃ entry ∈ left, entry.2 ≠ none ∧ dumped right entry.1 ≠ none ∧ entry.2 ≠ dumped right entry.1

instance (left right : Dump) : Decidable (conflicts left right) :=
  inferInstanceAs (Decidable (∃ entry ∈ left, _))

/-- A dump keeps every field that another one knows. -/
def preserves (candidate required : Dump) : Prop :=
  ∀ entry ∈ required, entry.2 = none ∨ dumped candidate entry.1 = entry.2

instance (candidate required : Dump) : Decidable (preserves candidate required) :=
  inferInstanceAs (Decidable (∀ entry ∈ required, _))

variable (candidate required : ArchivedAttemptStatistics)

/-- The jobs of an attempt are among the jobs of another one. -/
def coversJobs : Prop :=
  ∀ job ∈ required.jobs, candidate.jobOf job.providerJobId ≠ none

instance (candidate required : ArchivedAttemptStatistics) : Decidable (coversJobs candidate required) :=
  inferInstanceAs (Decidable (∀ job ∈ required.jobs, _))

def preservesJobs : Prop :=
  coversJobs candidate required ∧
    ∀ job ∈ required.jobs, ∀ other ∈ candidate.jobOf job.providerJobId, preserves other.dump job.dump

instance (candidate required : ArchivedAttemptStatistics) : Decidable (preservesJobs candidate required) :=
  inferInstanceAs (Decidable (_ ∧ ∀ job ∈ required.jobs, _))

def classifyArchiveUpdate (prior incoming : ArchivedAttemptStatistics) : ArchiveUpdate :=
  if prior.header.population = .conflict ∨ incoming.header.population = .conflict then .conflict
  else if conflicts prior.header.dump incoming.header.dump ∨
      (∃ job ∈ prior.jobs, ∃ other ∈ incoming.jobOf job.providerJobId, conflicts job.dump other.dump) ∨
      (prior.header.population = .complete ∧ ¬ coversJobs prior incoming) ∨
      (incoming.header.population = .complete ∧ ¬ coversJobs incoming prior) then
    .conflict
  else if preserves prior.header.dump incoming.header.dump ∧ preservesJobs prior incoming ∧
      (incoming.header.population ≠ .complete ∨ prior.header.population = .complete) then
    .unchanged
  else if preserves incoming.header.dump prior.header.dump ∧ preservesJobs incoming prior ∧
      (prior.header.population ≠ .complete ∨ incoming.header.population = .complete) then
    .refined
  else .incomparable

/-- A refinement has every job of the statistics that it refines. -/
theorem coversJobs_of_refined {prior incoming : ArchivedAttemptStatistics}
    (refined : classifyArchiveUpdate prior incoming = .refined) : coversJobs incoming prior := by
  unfold classifyArchiveUpdate at refined
  split at refined
  · cases refined
  split at refined
  · cases refined
  split at refined
  · cases refined
  split at refined
  · rename_i kept
    exact kept.2.1.1
  · cases refined

end CiCoordinator.CiEconomics

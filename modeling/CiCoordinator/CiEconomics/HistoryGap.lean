import CiCoordinator.CiEconomics.HistoryCheckpoint
import CiCoordinator.CiEconomics.ArchiveStatistics

/- The gaps of an archive. -/

namespace CiCoordinator.CiEconomics

open Library Kernel ConfigControl

inductive HistoryGapReason where
  | providerTruncated
  | providerNotFound
  | jobPopulationIncomplete
  | incomparable
  | providerDeferred
  deriving DecidableEq

def HistoryGapReason.text : HistoryGapReason → Text
  | .providerTruncated => ascii "provider_truncated"
  | .providerNotFound => ascii "provider_not_found"
  | .jobPopulationIncomplete => ascii "job_population_incomplete"
  | .incomparable => ascii "incomparable"
  | .providerDeferred => ascii "provider_deferred"

inductive RecheckGapReason where
  | providerNotFound
  | retryExhausted
  | jobPopulationIncomplete
  | incomparable
  deriving DecidableEq

def RecheckGapReason.text : RecheckGapReason → Text
  | .providerNotFound => ascii "provider_not_found"
  | .retryExhausted => ascii "retry_exhausted"
  | .jobPopulationIncomplete => ascii "job_population_incomplete"
  | .incomparable => ascii "incomparable"

/-- A positive integer that JSON represents exactly. -/
def ObservationPositiveId (value : Int) : Prop :=
  1 ≤ value ∧ value ≤ maxSafeJsonInteger

instance (value : Int) : Decidable (ObservationPositiveId value) :=
  inferInstanceAs (Decidable (_ ∧ _))

/-- The run and the attempt that a gap is about. -/
structure GapSubject where
  workflowRunId : Int
  runAttempt : Int
  admitted : ObservationPositiveId workflowRunId ∧ ObservationPositiveId runAttempt
  deriving DecidableEq

/-- A gap of the backfill is about a page or about an attempt. -/
structure HistoryGap where
  generation : Int
  configurationRevision : Int
  cursor : HistoryCursor
  reason : HistoryGapReason
  subject : Option GapSubject
  positive : ObservationPositiveId generation ∧ ObservationPositiveId configurationRevision
  matched : reason = .providerTruncated ↔ subject = none
  deriving DecidableEq

/-- A gap of the recheck queue is about an attempt. -/
structure HistoryRecheckGap where
  scope : RepositoryScope
  generation : Int
  configurationRevision : Int
  subject : GapSubject
  workflowId : Int
  runCreatedAt : Instant
  reason : RecheckGapReason
  positive : ObservationPositiveId generation ∧ ObservationPositiveId configurationRevision ∧
    ObservationPositiveId workflowId
  deriving DecidableEq

def HistoryCursor.canonicalMapping (self : HistoryCursor) : Json :=
  .obj [(ascii "installationId", .int self.scope.installationId), (ascii "repositoryId", .int self.scope.repositoryId),
    (ascii "createdFrom", .str self.createdFrom.isoText), (ascii "createdThrough", .str self.createdThrough.isoText),
    (ascii "windowFrom", .str self.window.createdFrom.isoText),
    (ascii "windowThrough", .str self.window.createdThrough.isoText), (ascii "pageNumber", .int self.pageNumber),
    (ascii "cycleStartedAt", .str self.cycleStartedAt.isoText)]

/-- The gaps that an archive stores. -/
inductive ArchiveGap where
  | history (gap : HistoryGap)
  | recheck (gap : HistoryRecheckGap)
  deriving DecidableEq

namespace ArchiveGap

def scope : ArchiveGap → RepositoryScope
  | .history gap => gap.cursor.scope
  | .recheck gap => gap.scope

def generation : ArchiveGap → Int
  | .history gap => gap.generation
  | .recheck gap => gap.generation

def configurationRevision : ArchiveGap → Int
  | .history gap => gap.configurationRevision
  | .recheck gap => gap.configurationRevision

def sourceTime : ArchiveGap → Instant
  | .history gap => gap.cursor.cycleStartedAt
  | .recheck gap => gap.runCreatedAt

def subject : ArchiveGap → Option GapSubject
  | .history gap => gap.subject
  | .recheck gap => some gap.subject

def canonicalMapping : ArchiveGap → Json
  | .history gap =>
    .obj [(ascii "schemaVersion", .str (ascii "ci-economics-history-gap/v1")), (ascii "generation", .int gap.generation),
      (ascii "configurationRevision", .int gap.configurationRevision), (ascii "cursor", gap.cursor.canonicalMapping),
      (ascii "reason", .str gap.reason.text),
      (ascii "workflowRunId", nullable (fun subject => .int subject.workflowRunId) gap.subject),
      (ascii "runAttempt", nullable (fun subject => .int subject.runAttempt) gap.subject)]
  | .recheck gap =>
    .obj [(ascii "schemaVersion", .str (ascii "ci-economics-history-recheck-gap/v1")),
      (ascii "installationId", .int gap.scope.installationId), (ascii "repositoryId", .int gap.scope.repositoryId),
      (ascii "generation", .int gap.generation), (ascii "configurationRevision", .int gap.configurationRevision),
      (ascii "workflowRunId", .int gap.subject.workflowRunId), (ascii "workflowId", .int gap.workflowId),
      (ascii "runAttempt", .int gap.subject.runAttempt), (ascii "runCreatedAt", .str (wireInstant gap.runCreatedAt)),
      (ascii "reason", .str gap.reason.text)]

def gapId (self : ArchiveGap) : Py Text :=
  hashObject self.canonicalMapping

end ArchiveGap

end CiCoordinator.CiEconomics

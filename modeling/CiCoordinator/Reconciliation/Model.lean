import CiCoordinator.ExecutionOrchestration.ProviderSignal

/- The subjects of reconciliation, their contracts, and the observations made about them. -/

namespace CiCoordinator.Reconciliation

open Library Kernel ExecutionOrchestration

/-- A positive integer that every JSON reader keeps exact. -/
def positiveSafe (value : Int) : Bool :=
  1 ≤ value && value ≤ maxSafeJsonInteger

/-- A commit has between forty and sixty-four hexadecimal characters. -/
def gitSha (value : Text) : Bool :=
  40 ≤ value.length && value.length ≤ 64 && value.all CodePoint.isLowerHex

structure SubjectFields where
  installationId : Int
  repositoryId : Int
  eventName : Text
  ref : Text
  baseSha : Text
  headSha : Text
  workflowRunId : Int
  runAttempt : Int
  subjectId : Text
  deriving DecidableEq

namespace SubjectFields

def identityMapping (self : SubjectFields) : Json :=
  .obj [(ascii "schemaVersion", .str (ascii "ci-reconciliation-subject/v1")),
    (ascii "installationId", .int self.installationId), (ascii "repositoryId", .int self.repositoryId),
    (ascii "eventName", .str self.eventName), (ascii "ref", .str self.ref), (ascii "baseSha", .str self.baseSha),
    (ascii "headSha", .str self.headSha), (ascii "workflowRunId", .int self.workflowRunId),
    (ascii "runAttempt", .int self.runAttempt)]

def postInit (self : SubjectFields) : Py Unit := do
  forEach (fun (entry : Int × Text) =>
      valueErrorIf (positiveSafe entry.1 = false) (entry.2 ++ ascii " must be a positive JSON safe integer"))
    [(self.installationId, ascii "installation_id"), (self.repositoryId, ascii "repository_id"),
      (self.workflowRunId, ascii "workflow_run_id"), (self.runAttempt, ascii "run_attempt")]
  valueErrorIf (self.eventName ∉ [ascii "pull_request", ascii "push", ascii "merge_group"])
    (ascii "reconciliation subject event_name is unsupported")
  valueErrorIf (self.ref = []) (ascii "reconciliation subject ref must be non-empty text")
  forEach (fun (entry : Text × Text) =>
      valueErrorIf (gitSha entry.1 = false) (ascii "reconciliation subject " ++ entry.2 ++ ascii " is invalid"))
    [(self.baseSha, ascii "base_sha"), (self.headSha, ascii "head_sha")]
  valueErrorIf (isSha256Hex self.subjectId = false)
    (ascii "reconciliation subject id must be a lowercase SHA-256 digest")
  let identity ← hashObject self.identityMapping
  valueErrorIf (self.subjectId ≠ identity) (ascii "reconciliation subject id does not match its canonical identity")

end SubjectFields

/-- A decision of the provider under its content address. -/
structure ReconciliationSubject extends SubjectFields where
  admitted : toSubjectFields.postInit = .ok ()
  deriving DecidableEq

/-- A signal that the plan omitted. -/
structure OmittedSignal where
  signalId : Text
  name : Text
  identified : signalId ≠ []
  named : name ≠ []
  deriving DecidableEq

inductive SignalConclusion where
  | success
  | failure
  | cancelled
  | timedOut
  | skipped
  | neutral
  | unknown
  deriving DecidableEq

def SignalConclusion.text : SignalConclusion → Text
  | .success => ascii "success"
  | .failure => ascii "failure"
  | .cancelled => ascii "cancelled"
  | .timedOut => ascii "timed_out"
  | .skipped => ascii "skipped"
  | .neutral => ascii "neutral"
  | .unknown => ascii "unknown"

inductive SignalStatus where
  | inProgress
  | completed
  deriving DecidableEq

structure ObservationFields where
  observationId : Text
  subjectId : Text
  signalId : Text
  workflowRunId : Int
  runAttempt : Int
  providerJobId : Int
  status : SignalStatus
  conclusion : Option SignalConclusion
  deriving DecidableEq

/-- A value must be a nonempty text. -/
def requireNonEmpty (value fieldName : Text) : Py Unit :=
  valueErrorIf (value = []) (fieldName ++ ascii " must be a non-empty string")

def ObservationFields.postInit (self : ObservationFields) : Py Unit := do
  requireNonEmpty self.observationId (ascii "observation_id")
  requireNonEmpty self.subjectId (ascii "subject_id")
  requireNonEmpty self.signalId (ascii "signal_id")
  forEach (fun (entry : Int × Text) =>
      valueErrorIf (positiveSafe entry.1 = false) (entry.2 ++ ascii " must be a positive JSON safe integer"))
    [(self.workflowRunId, ascii "workflow_run_id"), (self.runAttempt, ascii "run_attempt"),
      (self.providerJobId, ascii "provider_job_id")]
  valueErrorIf (self.status = .inProgress ∧ self.conclusion ≠ none)
    (ascii "in_progress observations must not have a conclusion")
  valueErrorIf (self.status = .completed ∧ self.conclusion = none)
    (ascii "completed observations must have a conclusion")

/-- What was observed of a signal through one job of the provider. -/
structure SignalObservation extends ObservationFields where
  admitted : toObservationFields.postInit = .ok ()
  deriving DecidableEq

structure ContractFields where
  providerSignals : List ProviderSignal
  omittedSignals : List OmittedSignal

namespace ContractFields

/-- Signals must be strictly ordered by their ids. -/
def requireSortedUnique (signalIds : List Text) (fieldName : Text) : Py Unit := do
  let sorted ← sortedByText id signalIds
  valueErrorIf (signalIds ≠ sorted ∨ ¬ signalIds.Nodup) (fieldName ++ ascii " must be strictly ordered by unique signal_id")

def postInit (self : ContractFields) : Py Unit := do
  requireSortedUnique (self.providerSignals.map fun signal => signal.signalId) (ascii "provider_signals")
  requireSortedUnique (self.omittedSignals.map fun signal => signal.signalId) (ascii "omitted_signals")
  valueErrorIf (∃ signal ∈ self.providerSignals, signal.signalId ∈ self.omittedSignals.map fun omitted => omitted.signalId)
    (ascii "provider_signals and omitted_signals must not overlap")
  valueErrorIf (¬ (self.providerSignals.map fun signal => signal.jobName).Nodup)
    (ascii "provider signal job names must be unique")

end ContractFields

/-- The signals that a subject must show and those that it must not show. -/
structure ReconciliationContract extends ContractFields where
  admitted : toContractFields.postInit = .ok ()

structure SnapshotFields where
  subject : ReconciliationSubject
  contract : ReconciliationContract
  revision : Int
  observations : List SignalObservation

def SnapshotFields.postInit (self : SnapshotFields) : Py Unit := do
  valueErrorIf (self.revision < 0 ∨ maxSafeJsonInteger < self.revision)
    (ascii "reconciliation snapshot revision must be a non-negative JSON safe integer")
  valueErrorIf (¬ (self.observations.map fun observation => observation.observationId).Nodup)
    (ascii "reconciliation snapshot observations must not repeat observation_id")
  valueErrorIf (self.revision ≠ self.observations.length)
    (ascii "reconciliation snapshot revision must equal its observation count")
  valueErrorIf (∃ observation ∈ self.observations, observation.subjectId ≠ self.subject.subjectId)
    (ascii "reconciliation snapshot observations must belong to its subject")
  valueErrorIf (∃ observation ∈ self.observations, observation.workflowRunId ≠ self.subject.workflowRunId)
    (ascii "reconciliation snapshot observations must belong to its exact workflow run")
  valueErrorIf (∃ observation ∈ self.observations, observation.runAttempt ≠ self.subject.runAttempt)
    (ascii "reconciliation snapshot observations must belong to its exact run attempt")

/-- The contract of a subject with all observations so far. -/
structure ReconciliationSnapshot extends SnapshotFields where
  admitted : toSnapshotFields.postInit = .ok ()

inductive ReconciliationState where
  | pending
  | success
  | failure
  | conflict
  deriving DecidableEq

inductive ReconciliationFindingKind where
  | missingExpectedContract
  | missingExpectedSignal
  | incompleteExpectedSignal
  | failedExpectedSignal
  | skippedWithoutProof
  | neutralWithoutPolicy
  | omittedExecution
  | contradictoryObservation
  | reconciliationTimedOut
  | reconciliationAttemptsExhausted
  | ambiguousProviderSignal
  deriving DecidableEq

/-- What reconciliation found about a signal. -/
structure ReconciliationFinding where
  kind : ReconciliationFindingKind
  signalId : Option Text
  observationIds : List Text
  message : Text
  deriving DecidableEq

/-- The check of a finding's constructor. -/
def ReconciliationFinding.postInit (self : ReconciliationFinding) : Py Unit := do
  valueErrorIf (self.signalId = some []) (ascii "signal_id must be a non-empty string when present")
  valueErrorIf ([] ∈ self.observationIds) (ascii "observation_ids must contain non-empty strings")
  valueErrorIf (self.message = []) (ascii "message must be a non-empty string")

structure ReconciliationResult where
  subjectId : Text
  state : ReconciliationState
  findings : List ReconciliationFinding
  deriving DecidableEq

/-- The check of a result's constructor. -/
def ReconciliationResult.postInit (self : ReconciliationResult) : Py Unit :=
  valueErrorIf (self.subjectId = []) (ascii "subject_id must be a non-empty string")

theorem ReconciliationFinding.postInit_eq_ok {self : ReconciliationFinding} : self.postInit = .ok () ↔
    self.signalId ≠ some [] ∧ [] ∉ self.observationIds ∧ self.message ≠ [] := by
  simp [postInit]

theorem ReconciliationSubject.subjectId_ne_nil (self : ReconciliationSubject) : self.subjectId ≠ [] := by
  intro empty
  have admitted := self.admitted
  simp only [SubjectFields.postInit, bind_unit_eq_ok, raiseIf_eq_ok, empty] at admitted
  exact admitted.2.2.2.2.1 rfl

theorem SignalObservation.observationId_ne_nil (self : SignalObservation) : self.observationId ≠ [] := by
  have admitted := self.admitted
  simp only [ObservationFields.postInit, requireNonEmpty, bind_unit_eq_ok, raiseIf_eq_ok] at admitted
  exact admitted.1

end CiCoordinator.Reconciliation

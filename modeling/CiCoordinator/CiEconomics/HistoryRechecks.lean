import CiCoordinator.CiEconomics.HistoryProgress
import CiCoordinator.CiEconomics.ObservationFacts

/- The queue of attempts that a history archive rechecks, for one workflow run. -/

namespace CiCoordinator.CiEconomics

open Library Kernel ConfigControl

def maxHistoryRecheckAcquisitions : Int :=
  3

def historyRecheckBackoffSeconds : Nat :=
  60

def maxHistoryRecheckJitterSeconds : Int :=
  60

inductive HistoryRecheckSource where
  | recent
  | repair
  deriving DecidableEq

inductive HistoryRecheckOutcome where
  | recorded
  | unavailable
  | deferred
  | retryExhausted
  | capacityReached
  | waiting
  deriving DecidableEq

structure HistoryRecheckHintFields where
  cursor : HistoryAttemptCursor
  workflowId : Int
  runCreatedAt : Instant
  source : HistoryRecheckSource
  deriving DecidableEq

def HistoryRecheckHintFields.postInit (self : HistoryRecheckHintFields) : Py Unit :=
  positiveId self.workflowId (ascii "history workflow ID")

/-- The attempts of a workflow run that are to be rechecked. -/
structure HistoryRecheckHint extends HistoryRecheckHintFields where
  admitted : toHistoryRecheckHintFields.postInit = .ok ()
  deriving DecidableEq

def HistoryRecheckHint.make (fields : HistoryRecheckHintFields) : Py HistoryRecheckHint :=
  construct fields.postInit fun admitted => ⟨fields, admitted⟩

structure HistoryRecheckStateFields where
  hint : HistoryRecheckHint
  generation : Int
  revision : Int
  nextAttempt : Int
  nextAttemptAt : Instant
  acquisitionCount : Int
  lease : Option ObservationLease
  deriving DecidableEq

def HistoryRecheckStateFields.postInit (self : HistoryRecheckStateFields) : Py Unit := do
  forEach (fun value : Int => positiveId value (ascii "history recheck identity"))
    [self.generation, self.revision, self.nextAttempt]
  valueErrorIf (¬ (self.hint.cursor.nextAttempt ≤ self.nextAttempt ∧ self.nextAttempt ≤ self.hint.cursor.latestAttempt))
    (ascii "recheck cursor lies outside its original interval")
  valueErrorIf (¬ (0 ≤ self.acquisitionCount ∧ self.acquisitionCount ≤ maxHistoryRecheckAcquisitions))
    (ascii "history acquisition count exceeds its finite budget")
  valueErrorIf (self.acquisitionCount = maxHistoryRecheckAcquisitions ∧ self.lease = none)
    (ascii "exhausted recheck must retain its recovery lease")
  valueErrorIf (self.revision ≤ self.acquisitionCount) (ascii "recheck revision must include every acquisition")
  valueErrorIf (self.nextAttemptAt < self.hint.runCreatedAt) (ascii "recheck cannot precede its workflow run")
  valueErrorIf (∃ lease ∈ self.lease, self.acquisitionCount = 0 ∨ lease.acquiredAt < self.nextAttemptAt)
    (ascii "recheck lease must follow an eligible counted acquisition")

/-- The attempts of a workflow run that are still to be rechecked, with the lease of the worker on the first of them. -/
structure HistoryRecheckState extends HistoryRecheckStateFields where
  admitted : toHistoryRecheckStateFields.postInit = .ok ()
  deriving DecidableEq

def HistoryRecheckState.make (fields : HistoryRecheckStateFields) : Py HistoryRecheckState :=
  construct fields.postInit fun admitted => ⟨fields, admitted⟩

structure HistoryRecheckClaimFields where
  state : HistoryRecheckState
  configurationRevision : Int
  deriving DecidableEq

def HistoryRecheckClaimFields.postInit (self : HistoryRecheckClaimFields) : Py Unit := do
  raiseIf (self.state.lease = none) (.typeError (ascii "history recheck claim requires an exact leased state"))
  positiveId self.configurationRevision (ascii "history claim configuration revision")

/-- The authority of a worker over the first pending attempt. -/
structure HistoryRecheckClaim extends HistoryRecheckClaimFields where
  admitted : toHistoryRecheckClaimFields.postInit = .ok ()

def HistoryRecheckClaim.make (fields : HistoryRecheckClaimFields) : Py HistoryRecheckClaim :=
  construct fields.postInit fun admitted => ⟨fields, admitted⟩

structure HistoryRecheckTransitionFields where
  successor : Option HistoryRecheckState
  outcome : HistoryRecheckOutcome

def HistoryRecheckTransitionFields.postInit (self : HistoryRecheckTransitionFields) : Py Unit := do
  valueErrorIf (∃ successor ∈ self.successor, successor.lease ≠ none)
    (ascii "completed recheck transition cannot retain a lease")
  valueErrorIf (self.outcome ∈ [HistoryRecheckOutcome.deferred, .capacityReached, .waiting] ∧ self.successor = none)
    (ascii "deferred recheck cannot delete pending work")

/-- The successor of a state, or its deletion. -/
structure HistoryRecheckTransition extends HistoryRecheckTransitionFields where
  admitted : toHistoryRecheckTransitionFields.postInit = .ok ()

def HistoryRecheckTransition.make (fields : HistoryRecheckTransitionFields) : Py HistoryRecheckTransition :=
  construct fields.postInit fun admitted => ⟨fields, admitted⟩

def datasetAdmits (dataset : HistoryDataset) (state : HistoryRecheckState) (now : Instant) : Py Bool :=
  if dataset.scope = state.hint.cursor.scope ∧ dataset.generation = state.generation ∧ dataset.state = .active ∧
      dataset.configuredAt ≤ now ∧ state.hint.runCreatedAt ≤ now then
    dataset.configuration.selects state.hint.workflowId
  else .ok false

def initialHistoryRecheck (dataset : HistoryDataset) (hint : HistoryRecheckHint) (now : Instant) :
    Py (Option HistoryRecheckState) :=
  if now < hint.runCreatedAt then .ok none
  else do
    let state ← HistoryRecheckState.make ⟨hint, dataset.generation, 1, hint.cursor.nextAttempt, now, 0, none⟩
    let admits ← datasetAdmits dataset state now
    return if admits = true then some state else none

/-- What identifies the run of a hint. -/
def HistoryRecheckHint.identity (hint : HistoryRecheckHint) : RepositoryScope × Int × Int × Instant :=
  (hint.cursor.scope, hint.cursor.workflowRunId, hint.workflowId, hint.runCreatedAt)

/-- A recent hint keeps its source. -/
def mergedSource (old new : HistoryRecheckSource) : HistoryRecheckSource :=
  if HistoryRecheckSource.recent ∈ [old, new] then .recent else .repair

/-- The interval of two hints of a run. -/
def mergedCursorFields (old new : HistoryAttemptCursor) : HistoryAttemptCursorFields :=
  { old.toHistoryAttemptCursorFields with
    nextAttempt := min old.nextAttempt new.nextAttempt
    latestAttempt := max old.latestAttempt new.latestAttempt }

/-- The first pending attempt after a merge: it goes back to an earlier hint, or to a revisited one. -/
def mergedAttempt (state : HistoryRecheckState) (hint : HistoryRecheckHint) (revisitCompleted : Bool) : Int :=
  if revisitCompleted = true ∨ min state.hint.cursor.nextAttempt hint.cursor.nextAttempt < state.hint.cursor.nextAttempt then
    min state.nextAttempt hint.cursor.nextAttempt
  else state.nextAttempt

def mergeHistoryRecheckHint (state : HistoryRecheckState) (hint : HistoryRecheckHint) (revisitCompleted : Bool) :
    Py HistoryRecheckState := do
  valueErrorIf (revisitCompleted = true ∧ hint.source ≠ .repair)
    (ascii "only a parent-bound historical repair may revisit completed work")
  valueErrorIf (hint.identity ≠ state.hint.identity) (ascii "history hint contradicts the existing source identity")
  let cursor ← HistoryAttemptCursor.make (mergedCursorFields state.hint.cursor hint.cursor)
  let merged ← HistoryRecheckHint.make
    { state.hint.toHistoryRecheckHintFields with cursor, source := mergedSource state.hint.source hint.source }
  let nextAttempt := mergedAttempt state hint revisitCompleted
  if merged = state.hint ∧ nextAttempt = state.nextAttempt then
    return state
  else
    valueErrorIf (maxSafeJsonInteger - 1 ≤ state.revision)
      (ascii "history hint cannot exhaust the terminal revision reserve")
    HistoryRecheckState.make { state.toHistoryRecheckStateFields with
        hint := merged
        revision := state.revision + 1
        nextAttempt
        acquisitionCount := if nextAttempt < state.nextAttempt then 0 else state.acquisitionCount
        lease := if nextAttempt < state.nextAttempt then none else state.lease }

def acquireHistoryRecheck (dataset : HistoryDataset) (state : HistoryRecheckState) (now : Instant)
    (workerId token : Text) : Py (Option HistoryRecheckClaim) := do
  observationDigest workerId
  observationDigest token
  let admits ← datasetAdmits dataset state now
  if admits = false ∨ now < state.nextAttemptAt ∨ (∃ lease ∈ state.lease, now < lease.expiresAt) ∨
      state.acquisitionCount = maxHistoryRecheckAcquisitions ∨ maxSafeJsonInteger - 1 ≤ state.revision then
    return none
  else
    let expires ← addSeconds now observationLeaseSeconds
    let lease ← ObservationLease.make ⟨workerId, token, now, expires⟩
    let leased ← HistoryRecheckState.make
      { state.toHistoryRecheckStateFields with
        revision := state.revision + 1
        acquisitionCount := state.acquisitionCount + 1
        lease := some lease }
    let claim ← HistoryRecheckClaim.make ⟨leased, dataset.configurationRevision⟩
    return some claim

def currentHistoryRecheck (dataset : HistoryDataset) (state : HistoryRecheckState) (claim : HistoryRecheckClaim)
    (now : Instant) : Py Bool := do
  let admits ← datasetAdmits dataset state now
  return admits && decide (state = claim.state ∧ dataset.configurationRevision = claim.configurationRevision ∧
    ∃ lease ∈ state.lease, lease.acquiredAt ≤ now ∧ now < lease.expiresAt)

/-- The first pending attempt is done, and the last one deletes the state. -/
def advanceHistoryRecheck (state : HistoryRecheckState) (now : Instant) : Py (Option HistoryRecheckState) :=
  if state.nextAttempt = state.hint.cursor.latestAttempt then .ok none
  else do
    let successor ← HistoryRecheckState.make
      { state.toHistoryRecheckStateFields with
        revision := state.revision + 1
        nextAttempt := state.nextAttempt + 1
        nextAttemptAt := now
        acquisitionCount := 0
        lease := none }
    return some successor

/-- The state whose lease is given back, with a count and a delay. -/
def releaseHistoryRecheck (state : HistoryRecheckState) (now : Instant) (count : Int) (seconds : Nat) :
    Py HistoryRecheckState := do
  let nextAttemptAt ← addSeconds now seconds
  HistoryRecheckState.make { state.toHistoryRecheckStateFields with
      revision := state.revision + 1
      lease := none
      acquisitionCount := count
      nextAttemptAt }

def finishHistoryRecheck (dataset : HistoryDataset) (state : HistoryRecheckState) (claim : HistoryRecheckClaim)
    (now : Instant) (outcome : HistoryRecheckOutcome) (jitterSeconds : Int) : Py (Option HistoryRecheckTransition) := do
  valueErrorIf (outcome = .retryExhausted) (ascii "unsupported history recheck completion")
  valueErrorIf (¬ (0 ≤ jitterSeconds ∧ jitterSeconds ≤ maxHistoryRecheckJitterSeconds))
    (ascii "history recheck jitter exceeds its bound")
  let current ← currentHistoryRecheck dataset state claim now
  if current = false ∨ state.revision = maxSafeJsonInteger then
    return none
  else if outcome ∈ [HistoryRecheckOutcome.capacityReached, .waiting] then
    let successor ← releaseHistoryRecheck state now (state.acquisitionCount - 1)
      (historyRecheckBackoffSeconds + jitterSeconds.toNat)
    some <$> HistoryRecheckTransition.make ⟨some successor, outcome⟩
  else if outcome ≠ .deferred then
    let successor ← advanceHistoryRecheck state now
    some <$> HistoryRecheckTransition.make ⟨successor, outcome⟩
  else if state.acquisitionCount = maxHistoryRecheckAcquisitions then
    let successor ← advanceHistoryRecheck state now
    some <$> HistoryRecheckTransition.make ⟨successor, .retryExhausted⟩
  else
    let successor ← releaseHistoryRecheck state now state.acquisitionCount
      (historyRecheckBackoffSeconds * 2 ^ (state.acquisitionCount - 1).toNat + jitterSeconds.toNat)
    some <$> HistoryRecheckTransition.make ⟨some successor, .deferred⟩

def recoverExhaustedHistoryRecheck (dataset : HistoryDataset) (state : HistoryRecheckState) (now : Instant) :
    Py (Option HistoryRecheckTransition) := do
  let admits ← datasetAdmits dataset state now
  if admits = false ∨ state.acquisitionCount ≠ maxHistoryRecheckAcquisitions ∨
      (¬ ∃ lease ∈ state.lease, lease.expiresAt ≤ now) ∨ state.revision = maxSafeJsonInteger then
    return none
  else
    let successor ← advanceHistoryRecheck state now
    some <$> HistoryRecheckTransition.make ⟨successor, .retryExhausted⟩

end CiCoordinator.CiEconomics

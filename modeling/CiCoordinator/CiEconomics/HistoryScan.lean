import CiCoordinator.CiEconomics.HistoryCheckpoint
import CiCoordinator.CiEconomics.ObservationScan

/- The scans of a history archive and the lane that discovers its recent runs. -/

namespace CiCoordinator.CiEconomics

open Library Kernel ConfigControl

def historyDiscoveryOverlapSeconds : Nat :=
  300

inductive HistoryScanOutcome where
  | pageRecorded
  | attemptRecorded
  | refined
  | replayed
  | incomparable
  | conflict
  | unavailable
  | capacityReached
  | providerUnavailable
  | providerMalformed
  | accessUnavailable
  | timedOut
  | unselected
  | recheckQueued
  deriving DecidableEq

structure RecentHistoryProgressFields where
  recoveryFloor : Instant
  completedThrough : Option Instant
  deriving DecidableEq

def RecentHistoryProgressFields.postInit (self : RecentHistoryProgressFields) : Py Unit := do
  valueErrorIf (self.recoveryFloor.microsecond ≠ 0) (ascii "recent history floor requires second precision")
  valueErrorIf (∃ completed ∈ self.completedThrough, completed.microsecond ≠ 0 ∨ completed < self.recoveryFloor)
    (ascii "recent completion must follow its exact recovery floor")

/-- How far the recent runs have been discovered, from a floor on. -/
structure RecentHistoryProgress extends RecentHistoryProgressFields where
  admitted : toRecentHistoryProgressFields.postInit = .ok ()
  deriving DecidableEq

def RecentHistoryProgress.make (fields : RecentHistoryProgressFields) : Py RecentHistoryProgress :=
  construct fields.postInit fun admitted => ⟨fields, admitted⟩

structure HistoryScanStateFields where
  scope : RepositoryScope
  generation : Int
  configurationRevision : Int
  revision : Int
  checkpoint : HistoryCheckpoint
  nextAttemptAt : Instant
  lease : Option ObservationLease
  pagesSeen : Nat
  attemptsSeen : Nat
  lastOutcome : Option HistoryScanOutcome
  recent : Option RecentHistoryProgress
  deriving DecidableEq

namespace HistoryScanStateFields

variable (self : HistoryScanStateFields)

/-- The checks of a lane that discovers recent runs. -/
def requireRecent : Py Unit :=
  match self.recent with
  | none => .ok ()
  | some recent => do
    valueErrorIf (self.checkpoint.cursor.createdFrom < recent.recoveryFloor ∨ self.attemptsSeen ≠ 0)
      (ascii "recent discovery cannot cross its floor or count attempt reads")
    valueErrorIf (∃ completed ∈ recent.completedThrough, self.checkpoint.cursor.createdThrough < completed)
      (ascii "recent completion exceeds its frozen cycle")
    valueErrorIf (self.checkpoint.complete = true ∧
        recent.completedThrough ≠ some self.checkpoint.cursor.createdThrough)
      (ascii "completed discovery must retain its exact completed frontier")

def postInit : Py Unit := do
  forEach (fun value : Int => positiveId value (ascii "history scan revision"))
    [self.generation, self.configurationRevision, self.revision]
  forEach (fun value : Nat =>
      valueErrorIf (maxSafeJsonInteger < value) (ascii "history progress count must be a non-negative safe integer"))
    [self.pagesSeen, self.attemptsSeen]
  valueErrorIf (self.checkpoint.cursor.scope ≠ self.scope) (ascii "history checkpoint crosses its scan scope")
  self.requireRecent
  valueErrorIf (∃ lease ∈ self.lease, self.checkpoint.complete = true ∨
      lease.acquiredAt < self.checkpoint.cursor.cycleStartedAt)
    (ascii "history lease requires its current active cycle")

end HistoryScanStateFields

/-- The state of one lane of a history archive: the backfill, or the discovery of recent runs. -/
structure HistoryScanState extends HistoryScanStateFields where
  admitted : toHistoryScanStateFields.postInit = .ok ()
  deriving DecidableEq

def HistoryScanState.make (fields : HistoryScanStateFields) : Py HistoryScanState :=
  construct fields.postInit fun admitted => ⟨fields, admitted⟩

/-- The authority of a worker is the leased state that it was handed. -/
structure HistoryClaim where
  state : HistoryScanState
  leased : state.lease ≠ none
  deriving DecidableEq

def HistoryClaim.make (state : HistoryScanState) : Py HistoryClaim :=
  if leased : state.lease = none then .error (.typeError (ascii "history claim requires the exact leased scan"))
  else .ok ⟨state, leased⟩

variable (dataset : HistoryDataset)

def datasetMatches (state : HistoryScanState) : Prop :=
  dataset.state = .active ∧ dataset.scope = state.scope ∧ dataset.generation = state.generation ∧
    dataset.configurationRevision = state.configurationRevision

instance (dataset : HistoryDataset) (state : HistoryScanState) : Decidable (datasetMatches dataset state) :=
  inferInstanceAs (Decidable (_ ∧ _ ∧ _ ∧ _))

def acquireHistoryClaim (state : HistoryScanState) (now : Instant) (workerId token : Text) :
    Py (Option (HistoryScanState × HistoryClaim)) := do
  observationDigest workerId
  observationDigest token
  if ¬ datasetMatches dataset state ∨ state.checkpoint.complete = true ∨
      now < max dataset.configuredAt (max state.checkpoint.cursor.cycleStartedAt state.nextAttemptAt) ∨
      (∃ lease ∈ state.lease, now < lease.expiresAt) ∨ maxSafeJsonInteger - 1 ≤ state.revision then
    return none
  else
    let expires ← addSeconds now observationLeaseSeconds
    let lease ← ObservationLease.make ⟨workerId, token, now, expires⟩
    let successor ← HistoryScanState.make
      { state.toHistoryScanStateFields with revision := state.revision + 1, lease := some lease }
    let claim ← HistoryClaim.make successor
    return some (successor, claim)

def currentHistoryClaim (state : HistoryScanState) (claim : HistoryClaim) (now : Instant) :
    Prop :=
  datasetMatches dataset state ∧ state = claim.state ∧
    ∃ lease ∈ state.lease, dataset.configuredAt ≤ now ∧ lease.acquiredAt ≤ now ∧ now < lease.expiresAt

instance (dataset : HistoryDataset) (state : HistoryScanState) (claim : HistoryClaim) (now : Instant) :
    Decidable (currentHistoryClaim dataset state claim now) := by
  unfold currentHistoryClaim
  infer_instance

/-- What a holder reports when it is done with a page or an attempt. -/
structure HistoryCompletion where
  checkpoint : HistoryCheckpoint
  nextAttemptAt : Instant
  outcome : HistoryScanOutcome
  pagesCompleted : Nat
  attemptsCompleted : Nat

/-- A complete checkpoint moves the completed end of a discovery lane. -/
def recentAfter (recent : Option RecentHistoryProgress) (checkpoint : HistoryCheckpoint) :
    Py (Option RecentHistoryProgress) :=
  match recent with
  | none => .ok none
  | some recent =>
    if checkpoint.complete = true then
      some <$> RecentHistoryProgress.make
        { recent.toRecentHistoryProgressFields with completedThrough := some checkpoint.cursor.createdThrough }
    else .ok (some recent)

def finishHistoryClaim (state : HistoryScanState) (claim : HistoryClaim) (now : Instant)
    (done : HistoryCompletion) : Py (Option HistoryScanState) := do
  if ¬ currentHistoryClaim dataset state claim now then
    return none
  else if state.revision = maxSafeJsonInteger then
    return none
  else
    valueErrorIf (done.nextAttemptAt < now) (ascii "history retry cannot be scheduled before its completion")
    let old := state.checkpoint.cursor
    let new := done.checkpoint.cursor
    valueErrorIf ((new.scope, new.createdFrom, new.createdThrough, new.cycleStartedAt) ≠
        (old.scope, old.createdFrom, old.createdThrough, old.cycleStartedAt))
      (ascii "history worker cannot substitute its frozen population")
    valueErrorIf (1 < done.pagesCompleted ∨ 1 < done.attemptsCompleted)
      (ascii "history completion can consume at most one page or attempt")
    valueErrorIf (0 < done.pagesCompleted ∧ 0 < done.attemptsCompleted)
      (ascii "one claim cannot consume a page and an attempt")
    let recent ← recentAfter state.recent done.checkpoint
    let successor ← HistoryScanState.make
      { state.toHistoryScanStateFields with
        revision := state.revision + 1
        checkpoint := done.checkpoint
        nextAttemptAt := done.nextAttemptAt
        lease := none
        pagesSeen := state.pagesSeen + done.pagesCompleted
        attemptsSeen := state.attemptsSeen + done.attemptsCompleted
        lastOutcome := some done.outcome
        recent := recent }
    return some successor

variable (backfill : HistoryScanState)

/-- The discovery lane that starts together with a new dataset. -/
def startRecentHistory : Py HistoryScanState := do
  valueErrorIf (dataset.configurationRevision ≠ 1)
    (ascii "existing history cannot silently create a missing discovery lane")
  let floor := backfill.checkpoint.cursor.createdThrough
  let cursor ← HistoryCursor.start dataset.scope floor floor dataset.configuredAt
  let checkpoint ← HistoryCheckpoint.make cursor none false
  let recent ← RecentHistoryProgress.make ⟨floor, none⟩
  HistoryScanState.make
    ⟨dataset.scope, dataset.generation, dataset.configurationRevision, 1, checkpoint, dataset.configuredAt, none, 0, 0,
      none, some recent⟩

/-- A reconfiguration keeps the checkpoint of the lane and takes its lease away. -/
def reconfigureRecentHistory (prior : HistoryScanState) : Py HistoryScanState := do
  raiseIf (prior.recent = none) (.typeError (ascii "recent reconfiguration requires its exact previous lane"))
  valueErrorIf ((prior.scope, prior.generation) ≠ (dataset.scope, dataset.generation) ∨
      prior.configurationRevision + 1 ≠ dataset.configurationRevision ∨
      dataset.configuredAt < prior.checkpoint.cursor.cycleStartedAt)
    (ascii "recent reconfiguration substitutes its predecessor")
  HistoryScanState.make { prior.toHistoryScanStateFields with
      configurationRevision := dataset.configurationRevision
      revision := prior.revision + 1
      nextAttemptAt := dataset.configuredAt
      lease := none }

def configureRecentHistory (prior : Option HistoryScanState) :
    Py HistoryScanState := do
  valueErrorIf (backfill.recent ≠ none ∨ (dataset.scope, dataset.generation, dataset.configurationRevision) ≠
        (backfill.scope, backfill.generation, backfill.configurationRevision))
    (ascii "recent configuration crosses its paired dataset")
  match prior with
  | none => startRecentHistory dataset backfill
  | some prior => reconfigureRecentHistory dataset prior

/-- The next cycle overlaps the last one by at most five minutes, without crossing the floor. -/
def nextCycleStart (floor through : Instant) : Py Instant :=
  match through.before (min (through.micros - floor.micros) (secondMicros * historyDiscoveryOverlapSeconds)) with
  | some start => .ok start
  | none => .error .overflowError

def prepareRecentHistoryCycle (state : HistoryScanState) (now : Instant) : Py (Option HistoryScanState) := do
  match state.recent with
  | none => .error (.typeError (ascii "recent cycle preparation requires its exact lane"))
  | some recent =>
    match recent.completedThrough with
    | none => return none
    | some through =>
      if state.checkpoint.complete = false ∨ state.lease ≠ none ∨
          now < max state.nextAttemptAt state.checkpoint.cursor.cycleStartedAt then
        return none
      else
        let start ← nextCycleStart recent.recoveryFloor through
        let cursor ← HistoryCursor.start state.scope start now.wholeSecond now
        let checkpoint ← HistoryCheckpoint.make cursor none false
        let successor ← HistoryScanState.make
          { state.toHistoryScanStateFields with checkpoint := checkpoint, nextAttemptAt := now }
        return some successor

end CiCoordinator.CiEconomics

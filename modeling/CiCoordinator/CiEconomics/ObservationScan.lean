import CiCoordinator.CiEconomics.Observation

/- The lanes of an observation: their leases, their claims and the preparation of their cycles. -/

namespace CiCoordinator.CiEconomics

open Library Kernel ConfigControl

def observationLeaseSeconds : Nat :=
  60

def observationPollSeconds : Nat :=
  300

def observationRescanSeconds : Nat :=
  21600

def observationOverlapSeconds : Nat :=
  300

/-- A gap is kept for ninety days. -/
def observationGapRetentionSeconds : Nat :=
  7776000

/-- The check of the digest of a worker or of a token. -/
def observationDigest (value : Text) : Py Unit :=
  valueErrorIf (isSha256Hex value = false) (ascii "observation digest must be lowercase SHA-256 hexadecimal")

structure ObservationLeaseFields where
  workerId : Text
  token : Text
  acquiredAt : Instant
  expiresAt : Instant
  deriving DecidableEq

def ObservationLeaseFields.postInit (self : ObservationLeaseFields) : Py Unit := do
  observationDigest self.workerId
  observationDigest self.token
  valueErrorIf (self.expiresAt.micros ≠ self.acquiredAt.micros + secondMicros * observationLeaseSeconds)
    (ascii "observation lease must have the admitted duration")

/-- The lease of a worker lasts for a minute. -/
structure ObservationLease extends ObservationLeaseFields where
  admitted : toObservationLeaseFields.postInit = .ok ()
  deriving DecidableEq

def ObservationLease.make (fields : ObservationLeaseFields) : Py ObservationLease :=
  construct fields.postInit fun admitted => ⟨fields, admitted⟩

inductive ObservationLane where
  | recent
  | backfill
  deriving DecidableEq

def ObservationLane.text : ObservationLane → Text
  | .recent => ascii "recent"
  | .backfill => ascii "backfill"

structure ObservationScanStateFields where
  scope : RepositoryScope
  configRevision : Int
  lane : ObservationLane
  revision : Int
  cursor : Option ObservationCursor
  nextAttemptAt : Instant
  lease : Option ObservationLease
  deriving DecidableEq

variable (self : ObservationScanStateFields)

/-- A lease needs an active cursor whose cycle has started before it. -/
def ObservationScanStateFields.requireLease : Py Unit :=
  match self.lease, self.cursor with
  | none, _ => .ok ()
  | some _, none => .error (.typeError (ascii "leased scan requires an exact lease and active cursor"))
  | some lease, some cursor =>
    valueErrorIf (lease.acquiredAt < cursor.cycleStartedAt) (ascii "scan lease cannot precede its cycle")

def ObservationScanStateFields.postInit : Py Unit := do
  positiveId self.configRevision (ascii "scan configuration revision")
  positiveId self.revision (ascii "scan revision")
  self.requireLease

/-- The state of one lane of an observation. -/
structure ObservationScanState extends ObservationScanStateFields where
  admitted : toObservationScanStateFields.postInit = .ok ()
  deriving DecidableEq

def ObservationScanState.make (fields : ObservationScanStateFields) : Py ObservationScanState :=
  construct fields.postInit fun admitted => ⟨fields, admitted⟩

structure ObservationClaimFields where
  scope : RepositoryScope
  configRevision : Int
  lane : ObservationLane
  expectedRevision : Int
  cursor : ObservationCursor
  lease : ObservationLease
  deriving DecidableEq

def ObservationClaimFields.postInit (self : ObservationClaimFields) : Py Unit := do
  positiveId self.configRevision (ascii "claim configuration revision")
  positiveId self.expectedRevision (ascii "claim revision")
  valueErrorIf (self.lease.acquiredAt < self.cursor.cycleStartedAt) (ascii "scan claim cannot precede its cycle")

/-- The authority of a worker over one page of a lane. -/
structure ObservationClaim extends ObservationClaimFields where
  admitted : toObservationClaimFields.postInit = .ok ()
  deriving DecidableEq

def ObservationClaim.make (fields : ObservationClaimFields) : Py ObservationClaim :=
  construct fields.postInit fun admitted => ⟨fields, admitted⟩

variable (state : ObservationScanState)

/-- The lease of a state is running. -/
def ObservationScanState.LeasedAt (now : Instant) : Prop :=
  ∃ lease ∈ state.lease, now < lease.expiresAt

instance (state : ObservationScanState) (now : Instant) : Decidable (state.LeasedAt now) := by
  unfold ObservationScanState.LeasedAt
  infer_instance

variable (snapshot : ObservationSnapshot) (state : ObservationScanState)

def acquireObservationClaim (now : Instant)
    (workerId token : Text) : Py (Option (ObservationScanState × ObservationClaim)) := do
  observationDigest workerId
  observationDigest token
  match state.cursor with
  | none => return none
  | some cursor =>
    if snapshot.configuration.enabled = false ∨ snapshot.scope ≠ state.scope ∨
        snapshot.revision ≠ state.configRevision ∨ now < snapshot.configuredAt ∨ now < cursor.cycleStartedAt ∨
        now < state.nextAttemptAt ∨ state.LeasedAt now ∨ maxSafeJsonInteger - 1 ≤ state.revision then
      return none
    else
      let expires ← addSeconds now observationLeaseSeconds
      let lease ← ObservationLease.make ⟨workerId, token, now, expires⟩
      let successor ← ObservationScanState.make
        { state.toObservationScanStateFields with revision := state.revision + 1, lease := some lease }
      let claim ← ObservationClaim.make
        ⟨state.scope, state.configRevision, state.lane, successor.revision, cursor, lease⟩
      return some (successor, claim)

def currentObservationClaim (claim : ObservationClaim) (now : Instant) : Prop :=
  snapshot.configuration.enabled = true ∧ (snapshot.scope = state.scope ∧ state.scope = claim.scope) ∧
    (snapshot.revision = state.configRevision ∧ state.configRevision = claim.configRevision) ∧
    state.lane = claim.lane ∧ state.revision = claim.expectedRevision ∧ state.cursor = some claim.cursor ∧
    state.lease = some claim.lease ∧ snapshot.configuredAt ≤ now ∧ claim.lease.acquiredAt ≤ now ∧
    now < claim.lease.expiresAt

instance (snapshot : ObservationSnapshot) (state : ObservationScanState) (claim : ObservationClaim) (now : Instant) :
    Decidable (currentObservationClaim snapshot state claim now) := by
  unfold currentObservationClaim
  infer_instance

def finishObservationClaim (claim : ObservationClaim)
    (now : Instant) (cursor : Option ObservationCursor) (nextAttemptAt : Instant) : Py (Option ObservationScanState) := do
  if ¬ currentObservationClaim snapshot state claim now then
    return none
  else if state.revision = maxSafeJsonInteger then
    return none
  else
    valueErrorIf (nextAttemptAt < now) (ascii "scan completion cannot schedule a retry in the past")
    valueErrorIf (∃ next ∈ cursor, next.interval ≠ claim.cursor.interval ∨
        next.cycleStartedAt ≠ claim.cursor.cycleStartedAt)
      (ascii "holder completion cannot substitute a new scan cycle")
    let successor ← ObservationScanState.make
      { state.toObservationScanStateFields with
        revision := state.revision + 1
        cursor := cursor
        nextAttemptAt := nextAttemptAt
        lease := none }
    return some successor

inductive ObservationGapReason where
  | providerTruncated
  | outsideSourceWindow
  | sourceConflict
  | outageWindowLost
  deriving DecidableEq

def ObservationGapReason.text : ObservationGapReason → Text
  | .providerTruncated => ascii "provider_truncated"
  | .outsideSourceWindow => ascii "outside_source_window"
  | .sourceConflict => ascii "source_conflict"
  | .outageWindowLost => ascii "outage_window_lost"

structure ObservationGapFields where
  scope : RepositoryScope
  configRevision : Int
  selectorDigest : Text
  lane : ObservationLane
  cycleStartedAt : Instant
  createdFrom : Instant
  createdThrough : Instant
  reason : ObservationGapReason
  deriving DecidableEq

variable (self : ObservationGapFields)

def ObservationGapFields.expiresAt : Py Instant :=
  addSeconds self.cycleStartedAt observationGapRetentionSeconds

def ObservationGapFields.postInit : Py Unit := do
  positiveId self.configRevision (ascii "gap configuration revision")
  observationDigest self.selectorDigest
  valueErrorIf (¬ (self.createdFrom ≤ self.createdThrough ∧ self.createdThrough ≤ self.cycleStartedAt))
    (ascii "gap interval must be ordered and not later than its cycle")
  requireRepresentable self.expiresAt (ascii "gap cycle cannot represent its retention expiry")

/-- An interval that an observation has not covered. -/
structure ObservationGap extends ObservationGapFields where
  admitted : toObservationGapFields.postInit = .ok ()
  deriving DecidableEq

namespace ObservationGap

def make (fields : ObservationGapFields) : Py ObservationGap :=
  construct fields.postInit fun admitted => ⟨fields, admitted⟩

def canonicalMapping (self : ObservationGap) : Json :=
  .obj [(ascii "schemaVersion", .str (ascii "ci-economics-observation-gap/v1")),
    (ascii "installationId", .int self.scope.installationId), (ascii "repositoryId", .int self.scope.repositoryId),
    (ascii "configRevision", .int self.configRevision), (ascii "selectorDigest", .str self.selectorDigest),
    (ascii "lane", .str self.lane.text), (ascii "cycleStartedAt", .str self.cycleStartedAt.isoText),
    (ascii "createdFrom", .str self.createdFrom.isoText), (ascii "createdThrough", .str self.createdThrough.isoText),
    (ascii "reason", .str self.reason.text)]

def gapId (self : ObservationGap) : Py Text :=
  hashObject self.canonicalMapping

end ObservationGap

structure ObservationCyclePreparation where
  state : ObservationScanState
  gap : Option ObservationGap

/-- A gap belongs to the state that it is prepared with. -/
def ObservationCyclePreparation.make (gap : Option ObservationGap) :
    Py ObservationCyclePreparation := do
  valueErrorIf (∃ lost ∈ gap, lost.scope ≠ state.scope ∨ lost.configRevision ≠ state.configRevision ∨
      lost.lane ≠ state.lane ∨ state.lease ≠ none ∨
      ∀ cursor ∈ state.cursor, lost.cycleStartedAt ≠ cursor.cycleStartedAt)
    (ascii "cycle gap must belong to its exact successor")
  return ⟨state, gap⟩

/-- The instant from which the next cycle of a lane reads, before the seven-day bound is applied. -/
def cycleStart (completed : Option Instant) (lower : Instant) : Py Instant :=
  match state.cursor with
  | some cursor => .ok cursor.window.createdFrom
  | none =>
    match state.lane with
    | .recent => do
      let resumed ← subtractSeconds (completed.getD snapshot.configuredAt.wholeSecond) observationOverlapSeconds
      return max snapshot.configuredAt.wholeSecond resumed
    | .backfill => .ok lower

/-- The part of a cycle that has fallen out of the seven-day bound. -/
def outageGap (now start lower : Instant) :
    Py (Option ObservationGap) := do
  if start < lower then
    let digest ← snapshot.configuration.selectorDigest
    let gap ← ObservationGap.make
      ⟨snapshot.scope, snapshot.revision, digest, state.lane, now, start, lower, .outageWindowLost⟩
    return some gap
  else
    return none

def prepareObservationCycle
    (lastCompletedThrough : Option Instant) (now : Instant) : Py (Option ObservationCyclePreparation) := do
  valueErrorIf (∃ completed ∈ lastCompletedThrough, completed.microsecond ≠ 0)
    (ascii "completed observation endpoint must have whole-second precision")
  if snapshot.configuration.enabled = false ∨ snapshot.scope ≠ state.scope ∨
      snapshot.revision ≠ state.configRevision ∨ now < snapshot.configuredAt ∨ now < state.nextAttemptAt ∨
      state.LeasedAt now ∨ maxSafeJsonInteger - 2 ≤ state.revision ∨ (∃ completed ∈ lastCompletedThrough, now < completed) ∨
      (∃ cursor ∈ state.cursor, now < cursor.cycleStartedAt) then
    return none
  else
    let lower ← subtractSeconds now.wholeSecond maxDiscoveryWindowSeconds
    if ∃ cursor ∈ state.cursor, lower ≤ cursor.window.createdFrom then
      let prepared ← ObservationCyclePreparation.make state none
      return some prepared
    else
      let start ← cycleStart snapshot state lastCompletedThrough lower
      let gap ← outageGap snapshot state now start lower
      let interval ← RunDiscoveryWindow.make (max start lower) now.wholeSecond
      let cursor ← ObservationCursor.start interval now
      let successor ← ObservationScanState.make
        { state.toObservationScanStateFields with
          revision := state.revision + 1
          cursor := some cursor
          lease := none
          nextAttemptAt := now }
      let prepared ← ObservationCyclePreparation.make successor gap
      return some prepared

def observationCycleDueAt (lane : ObservationLane) (now : Instant) : Py Instant :=
  addSeconds now (if lane = .recent then observationPollSeconds else observationRescanSeconds)

inductive ObservationFailure where
  | providerUnavailable
  | providerBindingMismatch
  | providerMalformed
  | providerIncomplete
  | providerNotTerminal
  | providerUnstable
  | accessUnavailable
  | timedOut
  deriving DecidableEq

inductive ObservationOutcome where
  | failed (reason : ObservationFailure)
  | pageRecorded
  | capacityReached
  deriving DecidableEq

structure ObservationScanProgressFields where
  state : ObservationScanState
  lastCompletedThrough : Option Instant
  lastPageAt : Option Instant
  pagesSeen : Nat
  sourcesRegistered : Nat
  lastOutcome : Option ObservationOutcome
  deriving DecidableEq

def ObservationScanProgressFields.postInit (self : ObservationScanProgressFields) : Py Unit := do
  forEach (fun value : Nat =>
      valueErrorIf (maxSafeJsonInteger < value) (ascii "observation counters must be non-negative safe integers"))
    [self.pagesSeen, self.sourcesRegistered]
  valueErrorIf (¬ (self.pagesSeen = 0 ↔ self.lastPageAt = none) ∨ 100 * self.pagesSeen < self.sourcesRegistered ∨
      (0 < self.pagesSeen ∧ self.lastOutcome = none))
    (ascii "observation counters contradict recorded page progress")
  valueErrorIf (∃ completed ∈ self.lastCompletedThrough, completed.microsecond ≠ 0 ∨
      ∀ page ∈ self.lastPageAt, page < completed)
    (ascii "completed endpoint requires a later recorded page")

/-- The state of a lane with what it has read so far. -/
structure ObservationScanProgress extends ObservationScanProgressFields where
  admitted : toObservationScanProgressFields.postInit = .ok ()
  deriving DecidableEq

def ObservationScanProgress.make (fields : ObservationScanProgressFields) : Py ObservationScanProgress :=
  construct fields.postInit fun admitted => ⟨fields, admitted⟩

/-- The cycle that a lane of an enabled observation starts with. -/
def initialCycle (createdFrom createdThrough cycleStartedAt : Instant) : Py (Option ObservationCursor) := do
  let interval ← RunDiscoveryWindow.make createdFrom createdThrough
  let cursor ← ObservationCursor.start interval cycleStartedAt
  return some cursor

/-- A recent lane starts with the second of its configuration. -/
def initialRecentCycle : Py (Option ObservationCursor) :=
  if snapshot.configuration.enabled = true then
    initialCycle snapshot.configuredAt.wholeSecond snapshot.configuredAt.wholeSecond snapshot.configuredAt
  else .ok none

/-- A backfill starts with the days before the configuration, if there are any. -/
def initialBackfillCycle : Py (Option ObservationCursor) :=
  if snapshot.configuration.enabled = true ∧ 0 < snapshot.configuration.backfillDays then do
    let first ← subtractSeconds snapshot.configuredAt.wholeSecond (snapshot.configuration.backfillDays * daySeconds)
    initialCycle first snapshot.configuredAt.wholeSecond snapshot.configuredAt
  else .ok none

def initialBackfillDue : Py Instant :=
  if (snapshot.configuration.enabled = true ∧ 0 < snapshot.configuration.backfillDays) ∨
      snapshot.configuration.enabled = false then .ok snapshot.configuredAt
  else addSeconds snapshot.configuredAt observationRescanSeconds

def initialObservationScans : Py (ObservationScanState × ObservationScanState) := do
  let recentCursor ← initialRecentCycle snapshot
  let recent ← ObservationScanState.make
    ⟨snapshot.scope, snapshot.revision, .recent, 1, recentCursor, snapshot.configuredAt, none⟩
  let backfillCursor ← initialBackfillCycle snapshot
  let backfillDue ← initialBackfillDue snapshot
  let backfill ← ObservationScanState.make
    ⟨snapshot.scope, snapshot.revision, .backfill, 1, backfillCursor, backfillDue, none⟩
  return (recent, backfill)

end CiCoordinator.CiEconomics

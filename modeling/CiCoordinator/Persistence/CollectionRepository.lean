import CiCoordinator.CiEconomics.CollectionFacts

/- The transactions of the collection repository on the row of one source. -/

namespace CiCoordinator.Persistence

open Library Kernel CiEconomics

/-- The row of a collection, with the retention of the snapshot that is stored for it. -/
structure CollectionRow where
  state : CollectionState
  snapshotRetainUntil : Option Instant
  deriving DecidableEq

/-- What a transaction answers. -/
inductive CollectionReply where
  | claimed (claim : CollectionClaim)
  | terminalized
  | nothingDue
  | applied
  | captured
  | claimLost
  | expired
  | invariantViolation
  | raised (error : PyError)
  deriving DecidableEq

/-- The calls of the workers and of the supervisor. -/
inductive CollectionRequest where
  | claimNext (workerId : Text)
  | deferClaim (claim : CollectionClaim) (reason : CollectionFailureReason)
  | rejectClaim (claim : CollectionClaim)
  | recordSnapshot (claim : CollectionClaim) (evidenceStored : Bool)
  | expireEvidence
  deriving DecidableEq

/-- The repository translates the errors of its values and rolls back on every error. -/
def rolledBack (error : PyError) : CollectionReply :=
  match error with
  | .valueError _ => .invariantViolation
  | .validationError => .invariantViolation
  | .typeError _ => .invariantViolation
  | .strictJsonError _ => .invariantViolation
  | .canonicalJsonError _ => .invariantViolation
  | .unicodeEncodeError => .invariantViolation
  | .keyError => .raised .keyError
  | .indexError message => .raised (.indexError message)
  | .overflowError => .raised .overflowError
  | .zeroDivisionError => .raised .zeroDivisionError
  | .recursionError => .raised .recursionError
  | .runtimeError message => .raised (.runtimeError message)

/-- The rows that the claim query selects. -/
def selectedAsDue (state : CollectionState) (now : Instant) : Prop :=
  ((state.status = .pending ∨ state.status = .deferred) ∧ ∃ next ∈ state.nextAttemptAt, next ≤ now) ∨
    (state.status = .leased ∧ ∃ expires ∈ state.leaseExpiresAt, expires ≤ now)

instance (state : CollectionState) (now : Instant) : Decidable (selectedAsDue state now) :=
  inferInstanceAs (Decidable ((_ ∧ _) ∨ (_ ∧ _)))

/-- The conditions of the supervisor's update. -/
def supervisorAuthority (stored previous successor : CollectionState) (now : Instant) : Prop :=
  (stored.subjectId = previous.subjectId ∧ stored.policyHash = previous.policyHash ∧
    stored.revision = previous.revision ∧ stored.status = previous.status ∧
    stored.claimGeneration = previous.claimGeneration ∧ stored.attemptCount = previous.attemptCount) ∧
    (if previous.status = .leased then
      stored.leaseOwnerId = previous.leaseOwnerId ∧ stored.leaseToken = previous.leaseToken ∧
        stored.leaseAcquiredAt = previous.leaseAcquiredAt ∧ stored.leaseExpiresAt = previous.leaseExpiresAt ∧
        ∃ expires ∈ stored.leaseExpiresAt, expires ≤ now
    else stored.nextAttemptAt = previous.nextAttemptAt ∧ ∃ next ∈ stored.nextAttemptAt, next ≤ now) ∧
    (successor.status = .leased → ∃ expires ∈ successor.leaseExpiresAt, now < expires)

instance (stored previous successor : CollectionState) (now : Instant) :
    Decidable (supervisorAuthority stored previous successor now) :=
  inferInstanceAs (Decidable (_ ∧ _ ∧ _))

/-- The conditions of a holder's update. -/
def holderAuthority (stored : CollectionState) (claim : CollectionClaim) (now : Instant) : Prop :=
  leaseMatches stored claim ∧ now < claim.leaseExpiresAt

instance (stored : CollectionState) (claim : CollectionClaim) (now : Instant) :
    Decidable (holderAuthority stored claim now) :=
  inferInstanceAs (Decidable (_ ∧ _))

variable (policy : CollectionPolicy) (source : CollectionSource)

def claimNext (workerId : Text) (checkedAt writtenAt : Instant)
    (row : CollectionRow) : CollectionReply × CollectionRow :=
  if isSha256Hex workerId = false then (.raised (.valueError
    (ascii "collection worker id must be a lowercase SHA-256 digest")), row)
  else if ¬ selectedAsDue row.state checkedAt then (.nothingDue, row)
  else
    match acquireCollectionClaim row.state source workerId checkedAt policy with
    | .error error => (rolledBack error, row)
    | .ok .unavailable => (.nothingDue, row)
    | .ok (.terminalized successor) =>
      if supervisorAuthority row.state row.state successor writtenAt then
        (.terminalized, { row with state := successor })
      else (.invariantViolation, row)
    | .ok (.acquired successor claim) =>
      if supervisorAuthority row.state row.state successor writtenAt then
        (.claimed claim, { row with state := successor })
      else (.invariantViolation, row)

variable (claim : CollectionClaim)

/-- The update of a holder's transition, after the transition has been computed. -/
def writeHolderTransition (writtenAt : Instant) (row : CollectionRow)
    (success : CollectionReply) (stored : CollectionState → CollectionRow) :
    Py HolderOutcome → CollectionReply × CollectionRow
  | .error error => (rolledBack error, row)
  | .ok (.claimLost _) => (.claimLost, row)
  | .ok (.applied successor) =>
    if holderAuthority row.state claim writtenAt then (success, stored successor) else (.claimLost, row)

def deferClaim (reason : CollectionFailureReason) (checkedAt writtenAt : Instant) (row : CollectionRow) :
    CollectionReply × CollectionRow :=
  if claim.source ≠ source then (.invariantViolation, row)
  else writeHolderTransition claim writtenAt row .applied (fun successor => { row with state := successor })
    (deferCollectionClaim row.state claim checkedAt reason policy)

variable (checkedAt writtenAt : Instant)

def rejectClaim (row : CollectionRow) : CollectionReply × CollectionRow :=
  if claim.source ≠ source then (.invariantViolation, row)
  else writeHolderTransition claim writtenAt row .applied (fun successor => { row with state := successor })
    (rejectCollectionClaim row.state claim checkedAt)

/-- A snapshot is stored before the update, and the update that fails rolls it back. -/
def recordSnapshot (evidenceStored : Bool)
    (checkedAt writtenAt : Instant) (row : CollectionRow) : CollectionReply × CollectionRow :=
  if claim.source ≠ source then (.invariantViolation, row)
  else if evidenceStored = false ∧ collectionClaimIsActive row.state claim checkedAt = true then
    (.invariantViolation, row)
  else writeHolderTransition claim writtenAt row .captured
    (fun successor => ⟨successor, some row.state.evidenceRetainUntil⟩)
    (completeCollectionClaim row.state claim checkedAt)

/-- The expiry deletes the snapshot of a captured collection. -/
def expireEvidence (row : CollectionRow) : CollectionReply × CollectionRow :=
  if ¬ ((row.state.status = .captured ∨ row.state.status = .terminalUnavailable) ∧
      row.state.evidenceRetainUntil ≤ checkedAt) then (.nothingDue, row)
  else
    match expireCollectionState row.state checkedAt with
    | .error error => (rolledBack error, row)
    | .ok none => (.invariantViolation, row)
    | .ok (some successor) =>
      if row.snapshotRetainUntil.isSome ≠ decide (row.state.status = .captured) then (.invariantViolation, row)
      else if row.state.status = .captured ∧ ¬ ∃ retain ∈ row.snapshotRetainUntil, retain ≤ writtenAt then
        (.invariantViolation, row)
      else if row.state.evidenceRetainUntil ≤ writtenAt then (.expired, ⟨successor, none⟩)
      else (.invariantViolation, row)

variable (request : CollectionRequest)

/-- A transaction reads the row at one instant and writes it at another. -/
def serve (checkedAt writtenAt : Instant) (row : CollectionRow) : CollectionReply × CollectionRow :=
  match request with
  | .claimNext workerId => claimNext policy source workerId checkedAt writtenAt row
  | .deferClaim claim reason => deferClaim policy source claim reason checkedAt writtenAt row
  | .rejectClaim claim => rejectClaim source claim checkedAt writtenAt row
  | .recordSnapshot claim evidenceStored => recordSnapshot source claim evidenceStored checkedAt writtenAt row
  | .expireEvidence => expireEvidence checkedAt writtenAt row

/-- The row, the last instant of the database and the claims that have been handed out, the latest first. -/
structure CollectionWorld where
  row : CollectionRow
  clock : Instant
  issued : List CollectionClaim
  finished : Nat

/-- A captured or unavailable collection. -/
def CollectionStatus.Final (status : CollectionStatus) : Prop :=
  status = .captured ∨ status = .terminalUnavailable

instance (status : CollectionStatus) : Decidable (CollectionStatus.Final status) :=
  inferInstanceAs (Decidable (_ ∨ _))

/-- A step counts the transitions into a final status. -/
def CollectionWorld.step (checkedAt writtenAt : Instant) (world : CollectionWorld) : CollectionWorld :=
  let served := serve policy source request checkedAt writtenAt world.row
  { row := served.2
    clock := writtenAt
    issued := match served.1 with
      | .claimed claim => claim :: world.issued
      | _ => world.issued
    finished := if served.2.state ≠ world.row.state ∧ CollectionStatus.Final served.2.state.status then
        world.finished + 1
      else world.finished }

/-- The runs of any number of workers, with current, stale or invented claims, at instants that never decrease. -/
inductive CollectionRun (policy : CollectionPolicy) (source : CollectionSource) (start : CollectionWorld) :
    CollectionWorld → Prop
  | start : CollectionRun policy source start start
  | step {world : CollectionWorld} (run : CollectionRun policy source start world) (request : CollectionRequest)
      (checkedAt writtenAt : Instant) (later : world.clock ≤ checkedAt) (ordered : checkedAt ≤ writtenAt) :
      CollectionRun policy source start (world.step policy source request checkedAt writtenAt)

end CiCoordinator.Persistence

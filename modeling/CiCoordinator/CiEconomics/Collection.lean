import CiCoordinator.CiEconomics.Sources

/- The durable lifecycle of one collection and the authority of its leases. -/

namespace CiCoordinator.CiEconomics

open Library Kernel

/-- The check of a lowercase digest. -/
def requireDigest (value name : Text) : Py Unit :=
  valueErrorIf (isSha256Hex value = false) (name ++ ascii " must be a lowercase SHA-256 digest")

@[simp] theorem requireDigest_eq_ok {value name : Text} {passed : Unit} :
    requireDigest value name = .ok passed ↔ isSha256Hex value = true := by
  simp [requireDigest]

theorem requireDigest_passes {value name : Text} (digest : isSha256Hex value = true) : requireDigest value name = .ok () :=
  requireDigest_eq_ok.mpr digest

def maxCollectionAttempts : Nat :=
  100

def maxCollectionBackoffSeconds : Nat :=
  86400

def maxCollectionLeaseSeconds : Nat :=
  3600

def maxCollectionWindowSeconds : Nat :=
  2592000

def maxEvidenceDays : Nat :=
  3650

def maxTombstoneGraceSeconds : Nat :=
  2592000

inductive CollectionStatus where
  | pending
  | leased
  | deferred
  | captured
  | terminalUnavailable
  | expired
  deriving DecidableEq

inductive CollectionFailureReason where
  | providerUnavailable
  | providerBindingMismatch
  | providerMalformed
  | providerIncomplete
  | providerNotTerminal
  | providerUnstable
  | unexpectedError
  | evidenceConflict
  deriving DecidableEq

inductive CollectionTerminalReason where
  | deadlineExceeded
  | attemptsExhausted
  | evidenceConflict
  deriving DecidableEq

inductive CollectionFinalOutcome where
  | captured
  | terminalUnavailable
  deriving DecidableEq

def positiveBounded (value maximum : Nat) (name : Text) : Py Unit :=
  valueErrorIf (¬ (1 ≤ value ∧ value ≤ maximum) ∨ isSafeJsonInteger value = false)
    (name ++ ascii " is outside its admitted bound")

def positiveSafe (value : Nat) (name : Text) : Py Unit :=
  valueErrorIf (value < 1 ∨ isSafeJsonInteger value = false) (name ++ ascii " must be a positive safe integer")

def nonNegativeSafe (value : Nat) (name : Text) : Py Unit :=
  valueErrorIf (isSafeJsonInteger value = false) (name ++ ascii " must be a non-negative safe integer")

structure CollectionPolicyFields where
  collectionWindowSeconds : Nat
  initialBackoffSeconds : Nat
  maximumBackoffSeconds : Nat
  maximumAttempts : Nat
  leaseSeconds : Nat
  evidenceDays : Nat
  tombstoneGraceSeconds : Nat
  deriving DecidableEq

def CollectionPolicyFields.postInit (self : CollectionPolicyFields) : Py Unit := do
  positiveBounded self.collectionWindowSeconds maxCollectionWindowSeconds (ascii "collection window")
  positiveBounded self.initialBackoffSeconds maxCollectionBackoffSeconds (ascii "initial collection backoff")
  positiveBounded self.maximumBackoffSeconds maxCollectionBackoffSeconds (ascii "maximum collection backoff")
  positiveBounded self.maximumAttempts maxCollectionAttempts (ascii "maximum collection attempts")
  positiveBounded self.leaseSeconds maxCollectionLeaseSeconds (ascii "collection lease")
  positiveBounded self.evidenceDays maxEvidenceDays (ascii "evidence days")
  positiveBounded self.tombstoneGraceSeconds maxTombstoneGraceSeconds (ascii "tombstone grace")
  valueErrorIf (self.maximumBackoffSeconds < self.initialBackoffSeconds)
    (ascii "initial collection backoff cannot exceed its maximum")
  valueErrorIf (self.collectionWindowSeconds ≤ self.maximumBackoffSeconds)
    (ascii "maximum collection backoff must be shorter than the window")
  valueErrorIf (self.collectionWindowSeconds ≤ self.leaseSeconds)
    (ascii "collection lease must be shorter than the window")
  valueErrorIf (self.evidenceDays * daySeconds ≤ self.collectionWindowSeconds)
    (ascii "evidence retention must outlive the collection window")

structure CollectionPolicy extends CollectionPolicyFields where
  admitted : toCollectionPolicyFields.postInit = .ok ()

def CollectionPolicy.policyHash (self : CollectionPolicy) : Py Text :=
  hashObject (.obj [(ascii "schemaVersion", .str (ascii "ci-economics-collection-policy/v1")),
    (ascii "collectionWindowSeconds", .int self.collectionWindowSeconds),
    (ascii "initialBackoffSeconds", .int self.initialBackoffSeconds),
    (ascii "maximumBackoffSeconds", .int self.maximumBackoffSeconds),
    (ascii "maximumAttempts", .int self.maximumAttempts), (ascii "leaseSeconds", .int self.leaseSeconds),
    (ascii "evidenceDays", .int self.evidenceDays), (ascii "tombstoneGraceSeconds", .int self.tombstoneGraceSeconds)])

structure CollectionStateFields where
  subjectId : Text
  policyHash : Text
  sourceCreatedAt : Instant
  deadlineAt : Instant
  evidenceRetainUntil : Instant
  tombstoneRetainUntil : Instant
  status : CollectionStatus
  revision : Nat
  attemptCount : Nat
  maxAttempts : Nat
  backoffSeconds : Nat
  maxBackoffSeconds : Nat
  nextAttemptAt : Option Instant
  claimGeneration : Nat
  leaseOwnerId : Option Text
  leaseToken : Option Text
  leaseAcquiredAt : Option Instant
  leaseExpiresAt : Option Instant
  lastFailureReason : Option CollectionFailureReason
  finalOutcome : Option CollectionFinalOutcome
  terminalReason : Option CollectionTerminalReason
  completedAt : Option Instant
  expiredAt : Option Instant
  deriving DecidableEq

namespace CollectionStateFields

variable (self : CollectionStateFields)

def hasLease : Bool :=
  self.leaseOwnerId.isSome && self.leaseToken.isSome && self.leaseAcquiredAt.isSome && self.leaseExpiresAt.isSome

def hasAnyLease : Bool :=
  self.leaseOwnerId.isSome || self.leaseToken.isSome || self.leaseAcquiredAt.isSome || self.leaseExpiresAt.isSome

/-- A captured outcome is in time, and an unavailable one has a reason. -/
def outcomeShape : Bool :=
  match self.finalOutcome with
  | none => false
  | some .captured => self.terminalReason.isNone && self.completedAt.any fun completed =>
    decide (completed < self.evidenceRetainUntil)
  | some .terminalUnavailable => self.terminalReason.isSome

/-- The fields that each status requires. -/
def statusShape : Bool :=
  match self.status with
  | .pending =>
    decide (self.revision = 0) && decide (self.attemptCount = 0) && self.nextAttemptAt.isSome && !self.hasLease &&
      self.lastFailureReason.isNone && self.finalOutcome.isNone && self.terminalReason.isNone &&
      self.completedAt.isNone && self.expiredAt.isNone
  | .deferred =>
    decide (0 < self.attemptCount) && self.nextAttemptAt.isSome && !self.hasLease && self.lastFailureReason.isSome &&
      self.finalOutcome.isNone && self.terminalReason.isNone && self.completedAt.isNone && self.expiredAt.isNone
  | .leased =>
    decide (0 < self.attemptCount) && self.nextAttemptAt.isNone && self.hasLease && self.finalOutcome.isNone &&
      self.terminalReason.isNone && self.completedAt.isNone && self.expiredAt.isNone
  | .captured =>
    self.nextAttemptAt.isNone && !self.hasLease && decide (self.finalOutcome = some .captured) &&
      self.terminalReason.isNone && (self.completedAt.any fun completed => decide (completed < self.evidenceRetainUntil)) &&
      self.expiredAt.isNone
  | .terminalUnavailable =>
    self.nextAttemptAt.isNone && !self.hasLease && decide (self.finalOutcome = some .terminalUnavailable) &&
      self.terminalReason.isSome && self.completedAt.isSome && self.expiredAt.isNone
  | .expired =>
    self.nextAttemptAt.isNone && !self.hasLease && self.finalOutcome.isSome && self.completedAt.isSome &&
      (self.expiredAt.any fun expired => decide (self.evidenceRetainUntil ≤ expired)) && self.outcomeShape

/-- A conflict is recorded as failure and terminal reason alike, and an outcome needs the attempts it stands for. -/
def CausalHistory : Prop :=
  (self.lastFailureReason = some .evidenceConflict ↔ self.terminalReason = some .evidenceConflict) ∧
    (self.terminalReason = some .attemptsExhausted → self.attemptCount = self.maxAttempts) ∧
    (self.finalOutcome = some .captured → self.attemptCount ≠ 0) ∧
    (self.terminalReason = some .evidenceConflict → self.attemptCount ≠ 0)

instance (self : CollectionStateFields) : Decidable self.CausalHistory :=
  inferInstanceAs (Decidable (_ ∧ _ ∧ _ ∧ _))

def requireLease : Py Unit :=
  match self.leaseOwnerId, self.leaseToken, self.leaseAcquiredAt, self.leaseExpiresAt with
  | some owner, some token, some acquired, some expires => do
    requireDigest owner (ascii "collection lease owner")
    requireDigest token (ascii "collection lease token")
    valueErrorIf (¬ (self.sourceCreatedAt ≤ acquired ∧ acquired < expires ∧ expires < self.deadlineAt))
      (ascii "collection lease interval is invalid")
  | _, _, _, _ => .ok ()

def validateStateShape : Py Unit := do
  valueErrorIf (¬ self.CausalHistory) (ascii "collection state fields do not match its causal history")
  valueErrorIf (self.hasAnyLease = true ∧ self.hasLease = false)
    (ascii "collection lease fields must be all present or all absent")
  self.requireLease
  valueErrorIf (∃ next ∈ self.nextAttemptAt, ¬ (self.sourceCreatedAt ≤ next ∧ next < self.deadlineAt))
    (ascii "next collection attempt is outside the collection window")
  valueErrorIf (∃ completed ∈ self.completedAt, completed < self.sourceCreatedAt)
    (ascii "collection completion precedes its source")
  valueErrorIf (self.statusShape = false) (ascii "collection state fields do not match its status")

def postInit : Py Unit := do
  requireDigest self.subjectId (ascii "collection subject id")
  requireDigest self.policyHash (ascii "collection policy hash")
  valueErrorIf (¬ (self.sourceCreatedAt < self.deadlineAt ∧ self.deadlineAt < self.evidenceRetainUntil ∧
      self.evidenceRetainUntil < self.tombstoneRetainUntil))
    (ascii "collection lifecycle times are not strictly ordered")
  forEach (fun (entry : Nat × Text) => nonNegativeSafe entry.1 entry.2)
    [(self.revision, ascii "collection revision"), (self.attemptCount, ascii "collection attempt count"),
      (self.claimGeneration, ascii "collection claim generation")]
  positiveBounded self.maxAttempts maxCollectionAttempts (ascii "maximum attempts")
  positiveBounded self.backoffSeconds maxCollectionBackoffSeconds (ascii "collection backoff")
  positiveBounded self.maxBackoffSeconds maxCollectionBackoffSeconds (ascii "maximum collection backoff")
  valueErrorIf (self.maxAttempts < self.attemptCount) (ascii "collection attempt count exceeds its bound")
  valueErrorIf (self.maxBackoffSeconds < self.backoffSeconds) (ascii "collection backoff exceeds its bound")
  valueErrorIf (self.claimGeneration ≠ self.attemptCount)
    (ascii "collection claim generation must equal attempt count")
  valueErrorIf (self.revision < self.claimGeneration)
    (ascii "collection revision cannot precede its claim generation")
  self.validateStateShape

end CollectionStateFields

/-- A collection state has passed its constructor. -/
structure CollectionState extends CollectionStateFields where
  admitted : toCollectionStateFields.postInit = .ok ()
  deriving DecidableEq

variable (fields : CollectionStateFields)

def CollectionState.make : Py CollectionState :=
  construct fields.postInit fun admitted => ⟨fields, admitted⟩

structure CollectionClaimFields where
  source : CollectionSource
  revision : Nat
  generation : Nat
  attemptCount : Nat
  policyHash : Text
  workerId : Text
  token : Text
  claimedAt : Instant
  leaseExpiresAt : Instant
  deriving DecidableEq

def CollectionClaimFields.postInit (self : CollectionClaimFields) : Py Unit := do
  forEach (fun (entry : Nat × Text) => positiveSafe entry.1 entry.2)
    [(self.revision, ascii "collection claim revision"), (self.generation, ascii "collection claim generation"),
      (self.attemptCount, ascii "collection claim attempt")]
  forEach (fun (entry : Text × Text) => requireDigest entry.1 entry.2)
    [(self.policyHash, ascii "collection policy hash"), (self.workerId, ascii "worker id"),
      (self.token, ascii "claim token")]
  valueErrorIf (¬ self.claimedAt < self.leaseExpiresAt) (ascii "collection claim lease must be non-empty")
  valueErrorIf (self.generation ≠ self.attemptCount ∨ self.revision < self.generation)
    (ascii "collection claim counters are inconsistent")

/-- The claim that a worker holds. -/
structure CollectionClaim extends CollectionClaimFields where
  admitted : toCollectionClaimFields.postInit = .ok ()
  deriving DecidableEq

def CollectionClaim.make (fields : CollectionClaimFields) : Py CollectionClaim :=
  construct fields.postInit fun admitted => ⟨fields, admitted⟩

variable (state : CollectionState) (claim : CollectionClaim)

/-- The lease of the state is the one that the claim names. -/
def leaseMatches : Prop :=
  claim.source.sourceId = .ok state.subjectId ∧ state.policyHash = claim.policyHash ∧ state.status = .leased ∧
    state.revision = claim.revision ∧ state.claimGeneration = claim.generation ∧
    state.attemptCount = claim.attemptCount ∧ state.leaseOwnerId = some claim.workerId ∧
    state.leaseToken = some claim.token ∧ state.leaseAcquiredAt = some claim.claimedAt ∧
    state.leaseExpiresAt = some claim.leaseExpiresAt

instance (state : CollectionState) (claim : CollectionClaim) : Decidable (leaseMatches state claim) :=
  inferInstanceAs (Decidable (_ ∧ _ ∧ _ ∧ _ ∧ _ ∧ _ ∧ _ ∧ _ ∧ _ ∧ _))

variable (now : Instant)

def collectionClaimIsActive : Bool :=
  decide (leaseMatches state claim ∧ claim.claimedAt ≤ now ∧ now < claim.leaseExpiresAt)

/-- What an acquisition does. -/
inductive AcquireOutcome where
  | acquired (state : CollectionState) (claim : CollectionClaim)
  | terminalized (state : CollectionState)
  | unavailable

/-- An acquisition pairs a leased state with the claim to it. -/
def collectionClaimAcquired : Py AcquireOutcome := do
  valueErrorIf (¬ leaseMatches state claim) (ascii "collection acquisition state and claim diverge")
  return .acquired state claim

def collectionTerminalized : Py AcquireOutcome := do
  valueErrorIf (state.status ≠ .terminalUnavailable) (ascii "collection terminalization requires a terminal state")
  return .terminalized state

/-- What a holder's transition does. -/
inductive HolderOutcome where
  | applied (state : CollectionState)
  | claimLost (subjectId : Text)

/-- A lost claim reports the source that the claim names. -/
def collectionClaimLost : Py HolderOutcome := do
  let subjectId ← claim.source.sourceId
  requireDigest subjectId (ascii "lost collection subject id")
  return .claimLost subjectId

/-- The fields of a collection that has just been registered. -/
def pendingFields (subjectId policyHash : Text) (sourceCreatedAt registeredAt deadline evidenceRetainUntil
    tombstoneRetainUntil : Instant) (policy : CollectionPolicy) : CollectionStateFields where
  subjectId := subjectId
  policyHash := policyHash
  sourceCreatedAt := sourceCreatedAt
  deadlineAt := deadline
  evidenceRetainUntil := evidenceRetainUntil
  tombstoneRetainUntil := tombstoneRetainUntil
  status := .pending
  revision := 0
  attemptCount := 0
  maxAttempts := policy.maximumAttempts
  backoffSeconds := policy.initialBackoffSeconds
  maxBackoffSeconds := policy.maximumBackoffSeconds
  nextAttemptAt := some registeredAt
  claimGeneration := 0
  leaseOwnerId := none
  leaseToken := none
  leaseAcquiredAt := none
  leaseExpiresAt := none
  lastFailureReason := none
  finalOutcome := none
  terminalReason := none
  completedAt := none
  expiredAt := none

def initialCollectionState (subjectId : Text) (sourceCreatedAt registeredAt : Instant) (policy : CollectionPolicy) :
    Py CollectionState := do
  let deadline ← addSeconds sourceCreatedAt policy.collectionWindowSeconds
  valueErrorIf (¬ (sourceCreatedAt ≤ registeredAt ∧ registeredAt < deadline))
    (ascii "collection registration is outside its eligibility window")
  let evidenceRetainUntil ← addSeconds sourceCreatedAt (policy.evidenceDays * daySeconds)
  let policyHash ← policy.policyHash
  let tombstoneRetainUntil ← addSeconds evidenceRetainUntil policy.tombstoneGraceSeconds
  CollectionState.make (pendingFields subjectId policyHash sourceCreatedAt registeredAt deadline evidenceRetainUntil
    tombstoneRetainUntil policy)

/-- The fields of a state whose lease has been given up. -/
def CollectionStateFields.released : CollectionStateFields :=
  { fields with leaseOwnerId := none, leaseToken := none, leaseAcquiredAt := none, leaseExpiresAt := none }

def terminalFields (completedAt : Instant) (reason : CollectionTerminalReason)
    (failureReason : Option CollectionFailureReason) : CollectionStateFields :=
  { state.released with
    status := .terminalUnavailable
    revision := state.revision + 1
    nextAttemptAt := none
    lastFailureReason := failureReason.orElse fun _ => state.lastFailureReason
    finalOutcome := some .terminalUnavailable
    terminalReason := some reason
    completedAt := some completedAt }

def terminalState (completedAt : Instant) (reason : CollectionTerminalReason)
    (failureReason : Option CollectionFailureReason) : Py CollectionState :=
  CollectionState.make (terminalFields state completedAt reason failureReason)

variable (source : CollectionSource)

def requireTransitionInputs (policy : CollectionPolicy) :
    Py Unit := do
  let sourceId ← source.sourceId
  valueErrorIf (state.subjectId ≠ sourceId) (ascii "collection state belongs to another source")
  match source with
  | .reconciliation _ _ => pure ()
  | .providerRun run =>
    valueErrorIf (state.sourceCreatedAt ≠ run.runCreatedAt) (ascii "collection source creation time changed")
  let policyHash ← policy.policyHash
  valueErrorIf (state.policyHash ≠ policyHash) (ascii "collection state belongs to another policy")

def claimTimestamp (instant : Instant) : Text :=
  instant.isoMillisecondText ++ ascii "Z"

def claimSourceMapping : CollectionSource → Py (List (Text × Json))
  | .reconciliation subjectId contractHash =>
    .ok [(ascii "schemaVersion", .str (ascii "ci-economics-collection-claim/v1")),
      (ascii "subjectId", .str subjectId.text), (ascii "contractHash", .str contractHash.text)]
  | .providerRun source => do
    let sourceId ← source.sourceId
    return [(ascii "schemaVersion", .str (ascii "ci-economics-provider-run-collection-claim/v1")),
      (ascii "sourceId", .str sourceId), (ascii "sourceKind", .str (ascii "provider_run")),
      (ascii "attempt", source.attempt.canonicalMapping),
      (ascii "runCreatedAt", .str (source.runCreatedAt.isoMicrosecondText ++ ascii "+00:00")),
      (ascii "providerApiVersion", .str source.providerApiVersion.isoText),
      (ascii "sourceEvidenceDigest", .str source.sourceEvidenceDigest.text)]

def claimToken (policy : CollectionPolicy) (workerId : Text) (generation revision : Nat)
    (claimedAt : Instant) : Py Text := do
  let sourceMembers ← claimSourceMapping source
  let policyHash ← policy.policyHash
  hashObject (.obj (sourceMembers ++ [(ascii "policyHash", .str policyHash), (ascii "workerId", .str workerId),
    (ascii "generation", .int generation), (ascii "revision", .int revision),
    (ascii "claimedAt", .str (claimTimestamp claimedAt))]))

def leasedFields (workerId token : Text) (now leaseExpiresAt : Instant) :
    CollectionStateFields :=
  { state.toCollectionStateFields with
    status := .leased
    revision := state.revision + 1
    attemptCount := state.attemptCount + 1
    nextAttemptAt := none
    claimGeneration := state.claimGeneration + 1
    leaseOwnerId := some workerId
    leaseToken := some token
    leaseAcquiredAt := some now
    leaseExpiresAt := some leaseExpiresAt }

def claimFields (policyHash workerId token : Text) (now leaseExpiresAt : Instant) : CollectionClaimFields where
  source := source
  revision := state.revision + 1
  generation := state.claimGeneration + 1
  attemptCount := state.attemptCount + 1
  policyHash := policyHash
  workerId := workerId
  token := token
  claimedAt := now
  leaseExpiresAt := leaseExpiresAt

/-- The last part of an acquisition makes the leased state and the claim to it. -/
def leaseCollection (workerId : Text) (now leaseExpiresAt : Instant)
    (policy : CollectionPolicy) : Py AcquireOutcome := do
  let token ← claimToken source policy workerId (state.claimGeneration + 1) (state.revision + 1) now
  let successor ← CollectionState.make (leasedFields state workerId token now leaseExpiresAt)
  let policyHash ← policy.policyHash
  let claim ← CollectionClaim.make (claimFields state source policyHash workerId token now leaseExpiresAt)
  collectionClaimAcquired successor claim

variable (now : Instant)

/-- A state is due when no live lease and no later schedule stands in the way. -/
def CollectionState.Due : Prop :=
  (state.status = .pending ∨ state.status = .deferred ∨ state.status = .leased) ∧
    ¬ (state.status = .leased ∧ ∃ expires ∈ state.leaseExpiresAt, now < expires) ∧
    ¬ ∃ next ∈ state.nextAttemptAt, now < next

instance (state : CollectionState) (now : Instant) : Decidable (state.Due now) :=
  inferInstanceAs (Decidable (_ ∧ _ ∧ _))

def acquireCollectionClaim (workerId : Text) (now : Instant) (policy : CollectionPolicy) : Py AcquireOutcome := do
  requireTransitionInputs state source policy
  requireDigest workerId (ascii "collection worker id")
  if ¬ state.Due now then
    return .unavailable
  else
    let leaseExpiresAt ← addSeconds now policy.leaseSeconds
    if state.deadlineAt ≤ leaseExpiresAt then
      let terminal ← terminalState state now .deadlineExceeded none
      collectionTerminalized terminal
    else if state.maxAttempts ≤ state.attemptCount then
      let terminal ← terminalState state now .attemptsExhausted none
      collectionTerminalized terminal
    else
      leaseCollection state source workerId now leaseExpiresAt policy

/-- The number that the first hexadecimal characters of a digest write. -/
def readHexadecimal (text : Text) : Nat :=
  text.foldl (fun value point => value * 16 + (if point.isDigit then point.val - 48 else point.val - 87)) 0

def stableRetryDelay (backoffSeconds : Nat) (claim : CollectionClaim) : Py Nat := do
  let minimum := (backoffSeconds + 1) / 2
  let width := backoffSeconds - minimum + 1
  let sourceId ← claim.source.sourceId
  let digest ← hashObject (.obj [(ascii "schemaVersion", .str (ascii "ci-economics-collection-retry-jitter/v1")),
    (ascii "subjectId", .str sourceId), (ascii "attemptCount", .int claim.attemptCount)])
  return minimum + readHexadecimal (digest.take 16) % width

def deferredFields (nextAttempt : Instant) (reason : CollectionFailureReason) :
    CollectionStateFields :=
  { state.released with
    status := .deferred
    revision := state.revision + 1
    backoffSeconds := min (state.backoffSeconds * 2) state.maxBackoffSeconds
    nextAttemptAt := some nextAttempt
    lastFailureReason := some reason }

def deferCollectionClaim (reason : CollectionFailureReason) (policy : CollectionPolicy) : Py HolderOutcome := do
  valueErrorIf (reason = .evidenceConflict) (ascii "retryable collection failure reason is invalid")
  if collectionClaimIsActive state claim now = false then
    collectionClaimLost claim
  else
    let delay ← stableRetryDelay state.backoffSeconds claim
    let nextAttempt ← addSeconds now delay
    if state.maxAttempts ≤ state.attemptCount then
      let terminal ← terminalState state now .attemptsExhausted (some reason)
      return .applied terminal
    else
      let nextLease ← addSeconds nextAttempt policy.leaseSeconds
      if state.deadlineAt ≤ nextLease then
        let terminal ← terminalState state now .deadlineExceeded (some reason)
        return .applied terminal
      else
        let deferred ← CollectionState.make (deferredFields state nextAttempt reason)
        return .applied deferred

def capturedFields : CollectionStateFields :=
  { state.released with
    status := .captured
    revision := state.revision + 1
    nextAttemptAt := none
    finalOutcome := some .captured
    terminalReason := none
    completedAt := some now }

def completeCollectionClaim : Py HolderOutcome := do
  if collectionClaimIsActive state claim now = false then
    collectionClaimLost claim
  else
    let captured ← CollectionState.make (capturedFields state now)
    return .applied captured

def rejectCollectionClaim : Py HolderOutcome := do
  if collectionClaimIsActive state claim now = false then
    collectionClaimLost claim
  else
    let terminal ← terminalState state now .evidenceConflict (some .evidenceConflict)
    return .applied terminal

def expiredFields : CollectionStateFields :=
  { state.toCollectionStateFields with status := .expired, revision := state.revision + 1, expiredAt := some now }

def expireCollectionState : Py (Option CollectionState) := do
  if state.status ≠ .captured ∧ state.status ≠ .terminalUnavailable then
    return none
  else if now < state.evidenceRetainUntil then
    return none
  else
    let expired ← CollectionState.make (expiredFields state now)
    return some expired

end CiCoordinator.CiEconomics

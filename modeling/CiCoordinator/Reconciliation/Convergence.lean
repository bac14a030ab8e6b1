import CiCoordinator.Kernel.Time
import CiCoordinator.Library.JsonSyntax
import CiCoordinator.Reconciliation.Model

/- The schedule of a subject that is reconciled again until its deadline, and the round that claims it. -/

namespace CiCoordinator.Reconciliation

open Library Kernel

def maxReconciliationAttempts : Int :=
  1000

def maxReconciliationBackoffSeconds : Int :=
  3600

def maxReconciliationDeadlineSeconds : Nat :=
  86400

def maxReconciliationLeaseSeconds : Nat :=
  3600

inductive ConvergenceTerminalReason where
  | deadlineExceeded
  | attemptsExhausted
  deriving DecidableEq

def boundedPositive (value maximum : Int) (name : Text) : Py Unit :=
  valueErrorIf (value < 1 ∨ maximum < value ∨ isSafeJsonInteger value = false) (name ++ ascii " is outside its admitted bound")

def boundedNonNegative (value maximum : Int) (name : Text) : Py Unit :=
  valueErrorIf (value < 0 ∨ maximum < value ∨ isSafeJsonInteger value = false) (name ++ ascii " is outside its admitted bound")

def requireReconciliationDigest (value name : Text) : Py Unit :=
  valueErrorIf (isSha256Hex value = false) (name ++ ascii " must be a lowercase SHA-256 digest")

structure ConvergencePolicyFields where
  deadlineSeconds : Int
  initialBackoffSeconds : Int
  maxBackoffSeconds : Int
  maxAttempts : Int
  pollTimeoutSeconds : Int
  leaseSeconds : Int

def ConvergencePolicyFields.postInit (self : ConvergencePolicyFields) : Py Unit := do
  boundedPositive self.deadlineSeconds maxReconciliationDeadlineSeconds (ascii "reconciliation deadline")
  boundedPositive self.initialBackoffSeconds maxReconciliationBackoffSeconds (ascii "initial reconciliation backoff")
  boundedPositive self.maxBackoffSeconds maxReconciliationBackoffSeconds (ascii "maximum reconciliation backoff")
  boundedPositive self.maxAttempts maxReconciliationAttempts (ascii "maximum reconciliation attempts")
  boundedPositive self.pollTimeoutSeconds maxReconciliationLeaseSeconds (ascii "reconciliation poll timeout")
  boundedPositive self.leaseSeconds maxReconciliationLeaseSeconds (ascii "reconciliation lease")
  valueErrorIf (self.maxBackoffSeconds < self.initialBackoffSeconds)
    (ascii "initial reconciliation backoff cannot exceed its maximum")
  valueErrorIf (self.deadlineSeconds < self.maxBackoffSeconds)
    (ascii "maximum reconciliation backoff cannot exceed the deadline")
  valueErrorIf (self.leaseSeconds ≤ self.pollTimeoutSeconds)
    (ascii "reconciliation poll timeout must be shorter than the lease")
  valueErrorIf (self.deadlineSeconds < self.leaseSeconds) (ascii "reconciliation lease cannot exceed the deadline")

/-- How long and how often a subject is reconciled. -/
structure ReconciliationConvergencePolicy extends ConvergencePolicyFields where
  admitted : toConvergencePolicyFields.postInit = .ok ()

/-- The lease of a claim; its token and its instants come together. -/
structure ConvergenceLease where
  token : Text
  acquiredAt : Instant
  expiresAt : Instant
  deriving DecidableEq

structure ConvergenceStateFields where
  createdAt : Instant
  deadlineAt : Instant
  nextAttemptAt : Instant
  attemptCount : Int
  maxAttempts : Int
  backoffSeconds : Int
  maxBackoffSeconds : Int
  claimGeneration : Int
  lease : Option ConvergenceLease
  deriving DecidableEq

variable (self : ConvergenceStateFields)

def ConvergenceStateFields.checkLease : Py Unit :=
  match self.lease with
  | none => .ok ()
  | some lease => do
    requireReconciliationDigest lease.token (ascii "reconciliation lease token")
    valueErrorIf (lease.acquiredAt < self.createdAt)
      (ascii "reconciliation lease acquisition cannot precede creation")
    valueErrorIf (¬ lease.acquiredAt < lease.expiresAt) (ascii "reconciliation lease expiry must follow acquisition")
    let limit ← addSeconds lease.acquiredAt maxReconciliationLeaseSeconds
    valueErrorIf (limit < lease.expiresAt) (ascii "reconciliation lease duration exceeds its bound")

def ConvergenceStateFields.postInit : Py Unit := do
  valueErrorIf (¬ self.createdAt < self.deadlineAt) (ascii "reconciliation deadline must follow creation")
  let limit ← addSeconds self.createdAt maxReconciliationDeadlineSeconds
  valueErrorIf (limit < self.deadlineAt) (ascii "reconciliation deadline duration exceeds its bound")
  valueErrorIf (¬ (self.createdAt ≤ self.nextAttemptAt ∧ self.nextAttemptAt ≤ self.deadlineAt))
    (ascii "reconciliation due time must be within its lifetime")
  boundedNonNegative self.attemptCount self.maxAttempts (ascii "reconciliation attempt count")
  boundedPositive self.maxAttempts maxReconciliationAttempts (ascii "maximum reconciliation attempts")
  boundedPositive self.backoffSeconds self.maxBackoffSeconds (ascii "reconciliation backoff")
  boundedPositive self.maxBackoffSeconds maxReconciliationBackoffSeconds (ascii "maximum reconciliation backoff")
  boundedNonNegative self.claimGeneration maxSafeJsonInteger (ascii "reconciliation claim generation")
  valueErrorIf (self.claimGeneration < self.attemptCount)
    (ascii "reconciliation claim generation cannot trail attempts")
  self.checkLease

/-- The schedule of a subject. -/
structure ReconciliationConvergenceState extends ConvergenceStateFields where
  admitted : toConvergenceStateFields.postInit = .ok ()
  deriving DecidableEq

def ReconciliationConvergenceState.make (fields : ConvergenceStateFields) : Py ReconciliationConvergenceState :=
  construct fields.postInit fun admitted => ⟨fields, admitted⟩

structure AttemptClaimFields where
  subject : ReconciliationSubject
  contract : ReconciliationContract
  revision : Int
  token : Text
  generation : Int
  attemptCount : Int
  maxAttempts : Int
  claimedAt : Instant
  leaseExpiresAt : Instant
  deadlineAt : Instant
  terminalReason : Option ConvergenceTerminalReason

/-- What the reason of a claim says about its attempts and its instant. -/
def AttemptClaimFields.checkReason (self : AttemptClaimFields) : Py Unit :=
  match self.terminalReason with
  | some .deadlineExceeded =>
    valueErrorIf (self.claimedAt < self.deadlineAt) (ascii "reconciliation deadline claim precedes its deadline")
  | some .attemptsExhausted => do
    valueErrorIf (self.attemptCount < self.maxAttempts)
      (ascii "reconciliation attempt-limit claim has remaining attempts")
    valueErrorIf (self.deadlineAt ≤ self.claimedAt) (ascii "reconciliation deadline must dominate attempt exhaustion")
  | none => do
    valueErrorIf (self.attemptCount < 1) (ascii "pollable reconciliation claim must consume an attempt")
    valueErrorIf (self.deadlineAt ≤ self.claimedAt)
      (ascii "pollable reconciliation claim cannot start at its deadline")

def AttemptClaimFields.postInit (self : AttemptClaimFields) : Py Unit := do
  boundedNonNegative self.revision maxSafeJsonInteger (ascii "reconciliation revision")
  requireReconciliationDigest self.token (ascii "reconciliation claim token")
  boundedPositive self.generation maxSafeJsonInteger (ascii "reconciliation claim generation")
  boundedNonNegative self.attemptCount self.maxAttempts (ascii "reconciliation attempt count")
  boundedPositive self.maxAttempts maxReconciliationAttempts (ascii "maximum reconciliation attempts")
  valueErrorIf (self.leaseExpiresAt ≤ self.claimedAt) (ascii "reconciliation claim lease must have positive duration")
  let limit ← addSeconds self.claimedAt maxReconciliationLeaseSeconds
  valueErrorIf (limit < self.leaseExpiresAt) (ascii "reconciliation claim lease exceeds its duration bound")
  self.checkReason
  valueErrorIf (self.generation < self.attemptCount) (ascii "reconciliation claim generation cannot trail attempts")

/-- The authority of a worker over one attempt, or over the terminal result. -/
structure ReconciliationAttemptClaim extends AttemptClaimFields where
  admitted : toAttemptClaimFields.postInit = .ok ()

def ReconciliationAttemptClaim.make (fields : AttemptClaimFields) : Py ReconciliationAttemptClaim :=
  construct fields.postInit fun admitted => ⟨fields, admitted⟩

/-- Why a claim at an instant would be terminal; the deadline comes first. -/
def ConvergenceStateFields.terminalReasonAt (now : Instant) :
    Option ConvergenceTerminalReason :=
  if self.deadlineAt ≤ now then some .deadlineExceeded
  else if self.maxAttempts ≤ self.attemptCount then some .attemptsExhausted
  else none

def claimMapping (subject : ReconciliationSubject) (workerId : Text) (generation : Int) (claimedAt : Instant) : Json :=
  .obj [(ascii "schemaVersion", .str (ascii "ci-reconciliation-claim/v1")), (ascii "subjectId", .str subject.subjectId),
    (ascii "workerId", .str workerId), (ascii "generation", .int generation),
    (ascii "claimedAt", .str (claimedAt.isoMillisecondText ++ ascii "Z"))]

variable (state : ReconciliationConvergenceState)

def acquireReconciliationClaim (subject : ReconciliationSubject)
    (contract : ReconciliationContract) (revision : Int) (workerId : Text) (now : Instant)
    (policy : ReconciliationConvergencePolicy) :
    Py (Option (ReconciliationConvergenceState × ReconciliationAttemptClaim)) := do
  boundedNonNegative revision maxSafeJsonInteger (ascii "reconciliation revision")
  requireReconciliationDigest workerId (ascii "reconciliation worker id")
  if now < state.nextAttemptAt ∨ (∃ lease ∈ state.lease, now < lease.expiresAt) then
    return none
  else
    boundedPositive (state.claimGeneration + 1) maxSafeJsonInteger (ascii "reconciliation claim generation")
    let terminalReason := state.terminalReasonAt now
    let attemptCount := if terminalReason = none then state.attemptCount + 1 else state.attemptCount
    let leaseExpiresAt ← addSeconds now policy.leaseSeconds.toNat
    let token ← hashObject (claimMapping subject workerId (state.claimGeneration + 1) now)
    let successor ← ReconciliationConvergenceState.make
      { state.toConvergenceStateFields with
        attemptCount
        claimGeneration := state.claimGeneration + 1
        lease := some ⟨token, now, leaseExpiresAt⟩ }
    let claim ← ReconciliationAttemptClaim.make
      ⟨subject, contract, revision, token, state.claimGeneration + 1, attemptCount, state.maxAttempts, now, leaseExpiresAt,
        state.deadlineAt, terminalReason⟩
    return some (successor, claim)

/-- The lease of a state is the running one of a claim. -/
def claimIsActive (claim : ReconciliationAttemptClaim) (now : Instant) : Prop :=
  ∃ lease ∈ state.lease, lease.token = claim.token ∧ state.claimGeneration = claim.generation ∧
    lease.acquiredAt = claim.claimedAt ∧ claim.claimedAt ≤ now ∧ now < lease.expiresAt

instance (state : ReconciliationConvergenceState) (claim : ReconciliationAttemptClaim) (now : Instant) :
    Decidable (claimIsActive state claim now) := by
  unfold claimIsActive
  infer_instance

/-- The number that hexadecimal digits write. -/
def hexNumber (digits : Text) : Nat :=
  digits.foldl (fun number digit => 16 * number + (JsonSyntax.hexDigit digit).getD 0) 0

def subjectStableRetryDelay (backoffSeconds : Int) (claim : ReconciliationAttemptClaim) : Py Int := do
  let minimum := (backoffSeconds + 1) / 2
  let digest ← hashObject (.obj [(ascii "schemaVersion", .str (ascii "ci-reconciliation-retry-jitter/v1")),
    (ascii "subjectId", .str claim.subject.subjectId), (ascii "attemptCount", .int claim.attemptCount)])
  return minimum + (hexNumber (digest.take 16) : Int) % (backoffSeconds - minimum + 1)

inductive DeferOutcome where
  | released (state : ReconciliationConvergenceState)
  | lost (subjectId : Text)
  | terminalRequired (claim : ReconciliationAttemptClaim) (snapshotRevision : Int)

def deferReconciliationClaim (claim : ReconciliationAttemptClaim) (now : Instant)
    (snapshotRevision : Int) : Py DeferOutcome := do
  boundedNonNegative snapshotRevision maxSafeJsonInteger (ascii "reconciliation snapshot revision")
  if ¬ claimIsActive state claim now then
    return .lost claim.subject.subjectId
  else if state.deadlineAt ≤ now then
    return .terminalRequired claim snapshotRevision
  else
    valueErrorIf (state.maxAttempts ≤ state.attemptCount) (ascii "terminal reconciliation claim cannot be deferred")
    let delaySeconds ← subjectStableRetryDelay state.backoffSeconds claim
    let later ← addSeconds now delaySeconds.toNat
    let successor ← ReconciliationConvergenceState.make
      { state.toConvergenceStateFields with
        nextAttemptAt := min state.deadlineAt later
        backoffSeconds := min (state.backoffSeconds * 2) state.maxBackoffSeconds
        lease := none }
    return .released successor

/-- A completed claim clears its lease; a lost one changes nothing. -/
def releaseTerminalClaim (claim : ReconciliationAttemptClaim) (now : Instant) :
    Py (Option ReconciliationConvergenceState) :=
  if ¬ claimIsActive state claim now then .ok none
  else some <$> ReconciliationConvergenceState.make { state.toConvergenceStateFields with lease := none }

def convergenceFailure (claim : ReconciliationAttemptClaim) : ConvergenceTerminalReason → ReconciliationResult
  | .deadlineExceeded =>
    ⟨claim.subject.subjectId, .failure, [⟨.reconciliationTimedOut, none, [],
      ascii "reconciliation did not converge before its deadline"⟩]⟩
  | .attemptsExhausted =>
    ⟨claim.subject.subjectId, .failure, [⟨.reconciliationAttemptsExhausted, none, [],
      ascii "reconciliation did not converge within its attempt bound"⟩]⟩

/-- What the poller of the provider answers; an ambiguity comes with the failure that reports it. -/
inductive PollOutcome where
  | raised (error : PyError)
  | timedOut
  | unavailable
  | ambiguous (subjectId : Text) (failure : ReconciliationResult)
  | observed (observations : List SignalObservation)

/-- What the persistence answers to an observation: a snapshot, or that the claim is lost or the write refused. -/
inductive AppendOutcome where
  | snapshot (revision : Int)
  | ended

/-- What the persistence answers to a deferral; a required terminal result may name a foreign claim. -/
inductive DeferAnswer where
  | settled
  | terminalRequired (foreign : Bool) (snapshotRevision : Int)

/-- The world around a round: its poller, its persistence, the verdict on a snapshot and its clock. -/
structure RoundWorld where
  poll : PollOutcome
  loadSnapshot : Option Int
  append : Int → SignalObservation → AppendOutcome
  verdict : Int → ReconciliationResult
  deferClaim : DeferAnswer
  now : Instant

/-- What a round asks of the persistence, and the error that ends it. -/
inductive RoundAction where
  | raised (error : PyError)
  | recorded (claim : ReconciliationAttemptClaim) (revision : Int) (result : ReconciliationResult)
  | deferred (claim : ReconciliationAttemptClaim)

section Round

variable (world : RoundWorld) (claim : ReconciliationAttemptClaim)

/-- The observations are stored one after the other until one is not. -/
def appendObservations (revision : Int) : List SignalObservation → Option Int
  | [] => some revision
  | observation :: rest =>
    match world.append revision observation with
    | .snapshot next => appendObservations next rest
    | .ended => none

def recordTerminal (revision : Int) (reason : ConvergenceTerminalReason) : List RoundAction :=
  [.recorded claim revision (convergenceFailure claim reason)]

/-- A deferral at the deadline is followed by the terminal result. -/
def deferOrRecordDeadline : List RoundAction :=
  match world.deferClaim with
  | .settled => [.deferred claim]
  | .terminalRequired false revision => .deferred claim :: recordTerminal claim revision .deadlineExceeded
  | .terminalRequired true _ =>
    [.deferred claim, .raised (.valueError (ascii "terminal requirement belongs to another reconciliation claim"))]

def roundTerminalReason : Option ConvergenceTerminalReason :=
  if claim.deadlineAt ≤ world.now then some .deadlineExceeded
  else if claim.maxAttempts ≤ claim.attemptCount then some .attemptsExhausted
  else none

def deferOrFail : List RoundAction :=
  match roundTerminalReason world claim with
  | none => deferOrRecordDeadline world claim
  | some reason => recordTerminal claim claim.revision reason

/-- What follows the last observation. -/
def concludeRound (revision : Int) : List RoundAction :=
  let result := world.verdict revision
  if claim.deadlineAt ≤ world.now then recordTerminal claim revision .deadlineExceeded
  else if result.state = .pending then
    if claim.maxAttempts ≤ claim.attemptCount then recordTerminal claim revision .attemptsExhausted
    else deferOrRecordDeadline world claim
  else [.recorded claim revision result]

def reconcilePolled : PollOutcome → List RoundAction
  | .raised error => [.raised error]
  | .timedOut => deferOrFail world claim
  | .unavailable => deferOrFail world claim
  | .ambiguous subjectId failure =>
    if subjectId ≠ claim.subject.subjectId then
      [.raised (.valueError (ascii "provider ambiguity belongs to another subject"))]
    else if claim.deadlineAt ≤ world.now then recordTerminal claim claim.revision .deadlineExceeded
    else [.recorded claim claim.revision failure]
  | .observed observations =>
    match world.loadSnapshot.bind fun revision => appendObservations world revision observations with
    | none => []
    | some stored => concludeRound world claim stored

/-- A terminal claim is recorded without a poll. -/
def reconcileRound : List RoundAction :=
  match claim.terminalReason with
  | some reason => recordTerminal claim claim.revision reason
  | none => reconcilePolled world claim world.poll

end Round

end CiCoordinator.Reconciliation

import CiCoordinator.CiEconomics.Collection
import Mathlib.Tactic.Tauto

/- What the constructors of the collection check and which successors pass them. -/

namespace CiCoordinator.CiEconomics

open Library Kernel CollectionStateFields List Option

@[simp] theorem positiveBounded_eq_ok {value maximum : Nat} {name : Text} {passed : Unit} :
    positiveBounded value maximum name = .ok passed ↔ (1 ≤ value ∧ value ≤ maximum) ∧ value ≤ maxSafeJsonInteger := by
  simp [positiveBounded, isSafeJsonInteger]

@[simp] theorem positiveSafe_eq_ok {value : Nat} {name : Text} {passed : Unit} :
    positiveSafe value name = .ok passed ↔ 1 ≤ value ∧ value ≤ maxSafeJsonInteger := by
  simp [positiveSafe, isSafeJsonInteger]
  omega

@[simp] theorem nonNegativeSafe_eq_ok {value : Nat} {name : Text} {passed : Unit} :
    nonNegativeSafe value name = .ok passed ↔ value ≤ maxSafeJsonInteger := by
  simp [nonNegativeSafe, isSafeJsonInteger]

namespace CollectionStateFields

variable (self : CollectionStateFields)

def LeaseAbsent : Prop :=
  self.leaseOwnerId = none ∧ self.leaseToken = none ∧ self.leaseAcquiredAt = none ∧ self.leaseExpiresAt = none

/-- A lease is held by digests and ends before the deadline. -/
def LeasePresent : Prop :=
  ∃ owner token acquired expires, (self.leaseOwnerId = some owner ∧ self.leaseToken = some token ∧
    self.leaseAcquiredAt = some acquired ∧ self.leaseExpiresAt = some expires) ∧
    (isSha256Hex owner = true ∧ isSha256Hex token = true) ∧
    self.sourceCreatedAt ≤ acquired ∧ acquired < expires ∧ expires < self.deadlineAt

/-- What the constructor of a collection state checks. -/
structure Admitted (state : CollectionStateFields) : Prop where
  subject : isSha256Hex state.subjectId = true
  policy : isSha256Hex state.policyHash = true
  lifetime : state.sourceCreatedAt < state.deadlineAt ∧ state.deadlineAt < state.evidenceRetainUntil ∧
    state.evidenceRetainUntil < state.tombstoneRetainUntil
  safeRevision : state.revision ≤ maxSafeJsonInteger
  attemptBound : 1 ≤ state.maxAttempts ∧ state.maxAttempts ≤ maxCollectionAttempts
  backoffPositive : 1 ≤ state.backoffSeconds
  backoffBound : 1 ≤ state.maxBackoffSeconds ∧ state.maxBackoffSeconds ≤ maxCollectionBackoffSeconds
  attempts : state.attemptCount ≤ state.maxAttempts
  backoff : state.backoffSeconds ≤ state.maxBackoffSeconds
  generation : state.claimGeneration = state.attemptCount
  revision : state.claimGeneration ≤ state.revision
  causes : state.CausalHistory
  lease : state.LeaseAbsent ∨ state.LeasePresent
  schedule : ∀ next ∈ state.nextAttemptAt, state.sourceCreatedAt ≤ next ∧ next < state.deadlineAt
  completion : ∀ completed ∈ state.completedAt, state.sourceCreatedAt ≤ completed
  shape : state.statusShape = true

theorem lease_eq_ok : (¬ (self.hasAnyLease = true ∧ self.hasLease = false) ∧ self.requireLease = .ok ()) ↔
      self.LeaseAbsent ∨ self.LeasePresent := by
  unfold hasAnyLease hasLease requireLease LeaseAbsent LeasePresent
  cases self.leaseOwnerId <;> cases self.leaseToken <;> cases self.leaseAcquiredAt <;> cases self.leaseExpiresAt <;>
    simp [and_assoc]

theorem postInit_eq_ok : self.postInit = .ok () ↔ self.Admitted := by
  have lease := self.lease_eq_ok
  simp only [postInit, validateStateShape, bind_unit_eq_ok, requireDigest_eq_ok, raiseIf_eq_ok, forEach_eq_ok,
    mem_cons, not_mem_nil, or_false, forall_eq_or_imp, forall_eq, nonNegativeSafe_eq_ok, positiveBounded_eq_ok,
    not_not, not_lt, Bool.not_eq_false, ne_eq] at lease ⊢
  constructor
  · rintro ⟨subject, policy, lifetime, ⟨revision, attempt, generation⟩, maxAttempts, backoff, maxBackoff, attempts, bounded,
      equal, later, causes, whole, held, schedule, completion, shape⟩
    exact ⟨subject, policy, lifetime, revision, maxAttempts.1, backoff.1.1, maxBackoff.1, attempts, bounded, equal, later,
      causes, lease.mp ⟨whole, held⟩,
      fun next member => by_contra fun outside => schedule ⟨next, member, outside⟩,
      fun completed member => not_lt.mp fun early => completion ⟨completed, member, early⟩, shape⟩
  · intro admitted
    have safe : maxCollectionBackoffSeconds ≤ maxSafeJsonInteger := by decide
    have few : maxCollectionAttempts ≤ maxSafeJsonInteger := by decide
    obtain ⟨whole, held⟩ := lease.mpr admitted.lease
    have attempts := admitted.attempts
    have attemptBound := admitted.attemptBound
    have backoff := admitted.backoff
    have backoffBound := admitted.backoffBound
    have generation := admitted.generation
    refine ⟨admitted.subject, admitted.policy, admitted.lifetime, ⟨admitted.safeRevision, by omega, by omega⟩,
      ⟨attemptBound, by omega⟩, ⟨⟨admitted.backoffPositive, by omega⟩, by omega⟩, ⟨backoffBound, by omega⟩, attempts,
      backoff, generation, admitted.revision, admitted.causes, whole, held, ?_, ?_, admitted.shape⟩
    · rintro ⟨next, member, outside⟩
      exact outside (admitted.schedule next member)
    · rintro ⟨completed, member, early⟩
      exact absurd early (not_lt.mpr (admitted.completion completed member))

end CollectionStateFields

theorem CollectionState.facts (state : CollectionState) : state.Admitted :=
  (CollectionStateFields.postInit_eq_ok _).mp state.admitted

theorem CollectionState.make_ok {fields : CollectionStateFields} (admitted : fields.Admitted) :
    ∃ state, CollectionState.make fields = .ok state ∧ state.toCollectionStateFields = fields :=
  ⟨⟨fields, (CollectionStateFields.postInit_eq_ok _).mpr admitted⟩, construct_ok _, rfl⟩

theorem CollectionState.make_eq_ok {fields : CollectionStateFields} {state : CollectionState}
    (made : CollectionState.make fields = .ok state) : state.toCollectionStateFields = fields := by
  obtain ⟨passed, rfl⟩ := construct_eq_ok.mp made
  rfl

theorem CollectionPolicy.bounds (policy : CollectionPolicy) :
    (1 ≤ policy.maximumAttempts ∧ policy.maximumAttempts ≤ maxCollectionAttempts) ∧
      (1 ≤ policy.initialBackoffSeconds ∧ policy.initialBackoffSeconds ≤ policy.maximumBackoffSeconds) ∧
      policy.maximumBackoffSeconds ≤ maxCollectionBackoffSeconds ∧
      (1 ≤ policy.leaseSeconds ∧ policy.leaseSeconds ≤ maxCollectionLeaseSeconds) ∧
      (1 ≤ policy.collectionWindowSeconds ∧ policy.collectionWindowSeconds ≤ maxCollectionWindowSeconds) ∧
      policy.collectionWindowSeconds < policy.evidenceDays * daySeconds ∧ policy.evidenceDays ≤ maxEvidenceDays ∧
      1 ≤ policy.tombstoneGraceSeconds ∧ policy.tombstoneGraceSeconds ≤ maxTombstoneGraceSeconds := by
  have admitted := policy.admitted
  simp only [CollectionPolicyFields.postInit, bind_unit_eq_ok, positiveBounded_eq_ok, raiseIf_eq_ok, not_lt, not_le] at admitted
  tauto

/-- The identity of a policy is a digest. -/
theorem CollectionPolicy.policyHash_total (policy : CollectionPolicy) :
    ∃ hash, policy.policyHash = .ok hash ∧ isSha256Hex hash = true := by
  have bounds := policy.bounds
  apply hashObject_total
  simp only [admissible_obj, admissible_int, admissible_str, all_cons, all_nil, Text.scalar_ascii,
    Bool.and_true, Bool.true_and, Bool.and_eq_true, decide_eq_true_eq, Int.natAbs_natCast]
  simp only [maxCollectionAttempts, maxCollectionBackoffSeconds, maxCollectionLeaseSeconds, maxCollectionWindowSeconds,
    maxEvidenceDays, maxTombstoneGraceSeconds, maxSafeJsonInteger] at bounds ⊢
  omega

theorem claimSourceMapping_total (source : CollectionSource) :
    ∃ members, claimSourceMapping source = .ok members ∧ admissible (.obj members) = true := by
  cases source with
  | reconciliation subjectId contractHash => exact ⟨_, rfl, by simp⟩
  | providerRun run =>
    obtain ⟨id, named, digest⟩ := CollectionSource.sourceId_total (.providerRun run)
    simp only [CollectionSource.sourceId] at named
    rw [claimSourceMapping, named, ok_bind_eq]
    refine ⟨_, rfl, ?_⟩
    simp [scalar_of_isSha256Hex digest]

/-- A claim token is a digest. -/
theorem claimToken_total {source : CollectionSource} {policy : CollectionPolicy} {workerId : Text}
    {generation revision : Nat} {claimedAt : Instant} (worker : isSha256Hex workerId = true)
    (safeGeneration : generation ≤ maxSafeJsonInteger) (safeRevision : revision ≤ maxSafeJsonInteger) :
    ∃ token, claimToken source policy workerId generation revision claimedAt = .ok token ∧ isSha256Hex token = true := by
  obtain ⟨members, mapped, admitted⟩ := claimSourceMapping_total source
  obtain ⟨hash, hashed, digest⟩ := policy.policyHash_total
  have whole : admissible (.obj (members ++ [(ascii "policyHash", .str hash), (ascii "workerId", .str workerId),
      (ascii "generation", .int generation), (ascii "revision", .int revision),
      (ascii "claimedAt", .str (claimTimestamp claimedAt))])) = true := by
    rw [admissible_obj] at admitted ⊢
    rw [all_append, admitted]
    simp [scalar_of_isSha256Hex digest, scalar_of_isSha256Hex worker, claimTimestamp, safeGeneration, safeRevision]
  rw [claimToken, mapped, ok_bind_eq, hashed, ok_bind_eq]
  exact hashObject_total whole

theorem CollectionClaimFields.postInit_eq_ok (self : CollectionClaimFields) : self.postInit = .ok () ↔
    ((1 ≤ self.revision ∧ self.revision ≤ maxSafeJsonInteger) ∧ (1 ≤ self.generation ∧ self.generation ≤ maxSafeJsonInteger) ∧
      1 ≤ self.attemptCount ∧ self.attemptCount ≤ maxSafeJsonInteger) ∧
    (isSha256Hex self.policyHash = true ∧ isSha256Hex self.workerId = true ∧ isSha256Hex self.token = true) ∧
    self.claimedAt < self.leaseExpiresAt ∧ self.generation = self.attemptCount ∧ self.generation ≤ self.revision := by
  simp only [postInit, bind_unit_eq_ok, forEach_eq_ok, mem_cons, not_mem_nil, or_false, forall_eq_or_imp,
    forall_eq, positiveSafe_eq_ok, requireDigest_eq_ok, raiseIf_eq_ok, not_not, not_or, not_lt, not_le, ne_eq]

theorem CollectionClaim.facts (claim : CollectionClaim) :
    (1 ≤ claim.attemptCount ∧ claim.attemptCount ≤ maxSafeJsonInteger) ∧ claim.claimedAt < claim.leaseExpiresAt := by
  have admitted := (CollectionClaimFields.postInit_eq_ok _).mp claim.admitted
  exact ⟨admitted.1.2.2, admitted.2.2.1⟩

/-- The retry delay lies between the rounded half of the backoff and the backoff. -/
theorem stableRetryDelay_spec {backoff : Nat} (claim : CollectionClaim) (positive : 1 ≤ backoff) :
    ∃ delay, stableRetryDelay backoff claim = .ok delay ∧ (backoff + 1) / 2 ≤ delay ∧ delay ≤ backoff := by
  obtain ⟨id, named, digest⟩ := claim.source.sourceId_total
  have admitted : admissible (.obj [(ascii "schemaVersion", .str (ascii "ci-economics-collection-retry-jitter/v1")),
      (ascii "subjectId", .str id), (ascii "attemptCount", .int claim.attemptCount)]) = true := by
    simp [scalar_of_isSha256Hex digest, claim.facts.1.2]
  obtain ⟨hash, hashed, _⟩ := hashObject_total admitted
  rw [stableRetryDelay, named, ok_bind_eq, hashed, ok_bind_eq]
  refine ⟨_, rfl, by omega, ?_⟩
  have inside := Nat.mod_lt (readHexadecimal (hash.take 16)) (show 0 < backoff - (backoff + 1) / 2 + 1 by omega)
  omega

/-- A lost claim is reported under the identity of its source. -/
theorem collectionClaimLost_total (claim : CollectionClaim) :
    ∃ id, claim.source.sourceId = .ok id ∧ collectionClaimLost claim = .ok (.claimLost id) := by
  obtain ⟨id, named, digest⟩ := claim.source.sourceId_total
  refine ⟨id, named, ?_⟩
  simp [collectionClaimLost, named, requireDigest, raiseIf, digest, pure, Except.pure]

namespace CollectionState

/-- A collection whose outcome is still open. -/
def Open (state : CollectionState) : Prop :=
  state.status = .pending ∨ state.status = .deferred ∨ state.status = .leased

variable {state : CollectionState} {now : Instant}

/-- An open collection has no outcome yet, and no conflict has been recorded. -/
theorem open_shape (isOpen : state.Open) :
    state.finalOutcome = none ∧ state.terminalReason = none ∧ state.completedAt = none ∧ state.expiredAt = none ∧
      state.lastFailureReason ≠ some .evidenceConflict := by
  have shape := state.facts.shape
  have causes := state.facts.causes.1
  rcases isOpen with status | status | status <;>
    simp only [statusShape, status, Bool.and_eq_true, isNone_iff_eq_none] at shape <;>
    simp_all

/-- A lease is present in exactly the leased states. -/
theorem lease_shape (state : CollectionState) :
    (state.status = .leased ∧ state.LeasePresent ∧ state.nextAttemptAt = none ∧ 0 < state.attemptCount) ∨
      (state.status ≠ .leased ∧ state.LeaseAbsent) := by
  have shape := state.facts.shape
  rcases state.facts.lease with absent | present
  · refine .inr ⟨?_, absent⟩
    intro leased
    obtain ⟨owner, _⟩ := absent
    simp [statusShape, CollectionStateFields.hasLease, leased, owner] at shape
  · obtain ⟨owner, token, acquired, expires, ⟨hasOwner, hasToken, hasAcquired, hasExpires⟩, _⟩ := id present
    have held : state.hasLease = true := by
      simp [CollectionStateFields.hasLease, hasOwner, hasToken, hasAcquired, hasExpires]
    cases status : state.status <;>
      simp only [statusShape, status, held, Bool.and_eq_true, Bool.not_true, Bool.false_eq_true,
        and_false, false_and, isNone_iff_eq_none, decide_eq_true_eq] at shape
    exact .inl ⟨rfl, present, shape.1.1.1.1.1.2, shape.1.1.1.1.1.1⟩

/-- A due collection is open, and its time has come. -/
theorem Due.later (due : state.Due now) : state.sourceCreatedAt ≤ now := by
  obtain ⟨isOpen, free, scheduled⟩ := due
  rcases state.lease_shape with ⟨leased, present, _⟩ | ⟨unleased, _⟩
  · obtain ⟨owner, token, acquired, expires, ⟨_, _, _, hasExpires⟩, _, after, before, _⟩ := present
    have ended : expires ≤ now := not_lt.mp fun live => free ⟨leased, expires, hasExpires, live⟩
    exact after.trans (before.le.trans ended)
  · have shape := state.facts.shape
    have waiting : ∃ next, state.nextAttemptAt = some next := by
      rcases isOpen with status | status | status
      · simp only [statusShape, status, Bool.and_eq_true, isSome_iff_exists] at shape
        exact shape.1.1.1.1.1.1.2
      · simp only [statusShape, status, Bool.and_eq_true, isSome_iff_exists] at shape
        exact shape.1.1.1.1.1.1.2
      · exact absurd status unleased
    obtain ⟨next, found⟩ := waiting
    exact (state.facts.schedule next found).1.trans (not_lt.mp fun early => scheduled ⟨next, found, early⟩)

theorem leased_admitted {workerId token : Text} {expires : Instant} (due : state.Due now)
    (worker : isSha256Hex workerId = true) (digest : isSha256Hex token = true) (ordered : now < expires)
    (inTime : expires < state.deadlineAt) (budget : state.attemptCount < state.maxAttempts)
    (safe : state.revision + 1 ≤ maxSafeJsonInteger) : (leasedFields state workerId token now expires).Admitted := by
  have facts := state.facts
  obtain ⟨outcome, reason, completed, expired, failure⟩ := open_shape due.1
  exact { facts with
      safeRevision := safe
      attempts := budget
      generation := congrArg (· + 1) facts.generation
      revision := Nat.add_le_add_right facts.revision 1
      causes := by simp [CollectionStateFields.CausalHistory, leasedFields, outcome, reason, failure]
      lease := .inr ⟨workerId, token, now, expires, ⟨rfl, rfl, rfl, rfl⟩, ⟨worker, digest⟩, due.later, ordered, inTime⟩
      schedule := by simp [leasedFields]
      completion := by simp [leasedFields, completed]
      shape := by
        simp [statusShape, CollectionStateFields.hasLease, leasedFields, outcome, reason, completed, expired] }

theorem terminal_admitted {reason : CollectionTerminalReason} {failure : Option CollectionFailureReason}
    (isOpen : state.Open) (later : state.sourceCreatedAt ≤ now)
    (conflict : failure = some .evidenceConflict ↔ reason = .evidenceConflict)
    (counted : reason = .evidenceConflict → state.attemptCount ≠ 0)
    (exhausted : reason = .attemptsExhausted → state.attemptCount = state.maxAttempts)
    (safe : state.revision + 1 ≤ maxSafeJsonInteger) : (terminalFields state now reason failure).Admitted := by
  have facts := state.facts
  obtain ⟨outcome, noReason, completed, expired, noConflict⟩ := open_shape isOpen
  have recorded : (failure.orElse fun _ => state.lastFailureReason) = some .evidenceConflict ↔ reason = .evidenceConflict := by
    cases failure with
    | none => simpa [noConflict] using conflict
    | some value => simpa using conflict
  exact { facts with
      safeRevision := safe
      revision := facts.revision.trans (Nat.le_succ _)
      causes := by
        simp only [CollectionStateFields.CausalHistory, terminalFields, some.injEq]
        exact ⟨recorded, exhausted, by simp, counted⟩
      lease := .inl ⟨rfl, rfl, rfl, rfl⟩
      schedule := by simp [terminalFields]
      completion := by
        simp only [terminalFields, mem_def, some.injEq, forall_eq']
        exact later
      shape := by
        simp [statusShape, CollectionStateFields.hasLease, CollectionStateFields.released, terminalFields, expired] }

theorem isActive_iff {claim : CollectionClaim} : collectionClaimIsActive state claim now = true ↔
      leaseMatches state claim ∧ claim.claimedAt ≤ now ∧ now < claim.leaseExpiresAt := by
  rw [collectionClaimIsActive, decide_eq_true_eq]

/-- The lease of a leased state starts at its source or later, and ends before the evidence does. -/
theorem holder_times {claim : CollectionClaim} (active : collectionClaimIsActive state claim now = true) :
    state.Open ∧ state.sourceCreatedAt ≤ now ∧ now < state.deadlineAt ∧ 0 < state.attemptCount := by
  rw [isActive_iff] at active
  obtain ⟨⟨_, _, leased, _, _, _, _, _, acquired, expires⟩, started, live⟩ := active
  rcases state.lease_shape with ⟨_, present, _, counted⟩ | ⟨unleased, _⟩
  · obtain ⟨owner, token, from?, until?, ⟨_, _, sameStart, sameEnd⟩, _, after, _, inTime⟩ := present
    have start : from? = claim.claimedAt := some.inj (sameStart.symm.trans acquired)
    have finish : until? = claim.leaseExpiresAt := some.inj (sameEnd.symm.trans expires)
    subst start finish
    exact ⟨.inr (.inr leased), after.trans started, live.trans inTime, counted⟩
  · exact absurd leased unleased

theorem deferred_admitted {next : Instant} {reason : CollectionFailureReason} (isOpen : state.Open)
    (counted : 0 < state.attemptCount) (later : state.sourceCreatedAt ≤ next) (inTime : next < state.deadlineAt)
    (retryable : reason ≠ .evidenceConflict) (safe : state.revision + 1 ≤ maxSafeJsonInteger) :
    (deferredFields state next reason).Admitted := by
  have facts := state.facts
  obtain ⟨outcome, noReason, completed, expired, noConflict⟩ := open_shape isOpen
  have positive : 1 ≤ min (state.backoffSeconds * 2) state.maxBackoffSeconds := by
    have := facts.backoffPositive
    have := facts.backoffBound
    omega
  exact { facts with
      safeRevision := safe
      backoffPositive := positive
      backoff := Nat.min_le_right _ _
      revision := facts.revision.trans (Nat.le_succ _)
      causes := by
        simp [CollectionStateFields.CausalHistory, CollectionStateFields.released, deferredFields, outcome, noReason, retryable]
      lease := .inl ⟨rfl, rfl, rfl, rfl⟩
      schedule := by
        simp only [deferredFields, mem_def, some.injEq, forall_eq']
        exact ⟨later, inTime⟩
      completion := by simp [deferredFields, CollectionStateFields.released, completed]
      shape := by
        simp [statusShape, CollectionStateFields.hasLease, CollectionStateFields.released,
          deferredFields, counted, outcome, noReason, completed, expired] }

theorem captured_admitted (isOpen : state.Open) (counted : 0 < state.attemptCount)
    (later : state.sourceCreatedAt ≤ now) (inTime : now < state.deadlineAt)
    (safe : state.revision + 1 ≤ maxSafeJsonInteger) : (capturedFields state now).Admitted := by
  have facts := state.facts
  obtain ⟨outcome, noReason, completed, expired, noConflict⟩ := open_shape isOpen
  have retained : now < state.evidenceRetainUntil := inTime.trans facts.lifetime.2.1
  exact { facts with
      safeRevision := safe
      revision := facts.revision.trans (Nat.le_succ _)
      causes := by
        simp [CollectionStateFields.CausalHistory, CollectionStateFields.released, capturedFields, noConflict]
        omega
      lease := .inl ⟨rfl, rfl, rfl, rfl⟩
      schedule := by simp [capturedFields]
      completion := by
        simp only [capturedFields, mem_def, some.injEq, forall_eq']
        exact later
      shape := by
        simp [statusShape, CollectionStateFields.hasLease, CollectionStateFields.released,
          capturedFields, expired, retained] }

theorem expired_admitted (final : state.status = .captured ∨ state.status = .terminalUnavailable)
    (ended : state.evidenceRetainUntil ≤ now) (safe : state.revision + 1 ≤ maxSafeJsonInteger) :
    (expiredFields state now).Admitted := by
  have facts := state.facts
  have shape := facts.shape
  have absent : state.LeaseAbsent := by
    rcases state.lease_shape with ⟨leased, _⟩ | ⟨_, absent⟩
    · rcases final with status | status <;> rw [status] at leased <;> cases leased
    · exact absent
  exact { facts with
      safeRevision := safe
      revision := facts.revision.trans (Nat.le_succ _)
      lease := .inl absent
      shape := by
        cases completed : state.completedAt <;> rcases final with status | status <;>
          simp only [statusShape, status, Bool.and_eq_true, decide_eq_true_eq] at shape <;>
          simp_all [statusShape, outcomeShape, expiredFields,
            CollectionStateFields.hasLease, isSome_iff_exists] }

end CollectionState

end CiCoordinator.CiEconomics

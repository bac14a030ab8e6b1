import CiCoordinator.Reconciliation.Convergence
import CiCoordinator.Reconciliation.StateMachine

/- Every transition of a schedule keeps it admitted, and a round defers no terminal claim. -/

namespace CiCoordinator.Reconciliation

open Library Kernel ConvergenceStateFields Option

theorem boundedPositive_eq_ok {value maximum : Int} {name : Text} {passed : Unit} (safe : maximum ≤ maxSafeJsonInteger) :
    boundedPositive value maximum name = .ok passed ↔ 1 ≤ value ∧ value ≤ maximum := by
  rw [boundedPositive, raiseIf_eq_ok, isSafeJsonInteger, decide_eq_false_iff_not]
  omega

theorem boundedNonNegative_eq_ok {value maximum : Int} {name : Text} {passed : Unit} (safe : maximum ≤ maxSafeJsonInteger) :
    boundedNonNegative value maximum name = .ok passed ↔ 0 ≤ value ∧ value ≤ maximum := by
  rw [boundedNonNegative, raiseIf_eq_ok, isSafeJsonInteger, decide_eq_false_iff_not]
  omega

theorem requireReconciliationDigest_eq_ok {value name : Text} {passed : Unit} :
    requireReconciliationDigest value name = .ok passed ↔ isSha256Hex value = true := by
  rw [requireReconciliationDigest, raiseIf_eq_ok, Bool.not_eq_false]

/-- A bound some seconds after an instant, which is within the calendar. -/
def Within (start finish : Instant) (seconds : Nat) : Prop :=
  start.micros + secondMicros * seconds < instantLimit ∧ finish.micros ≤ start.micros + secondMicros * seconds

theorem within_iff {start finish : Instant} {seconds : Nat} :
    (∃ limit, addSeconds start seconds = .ok limit ∧ ¬ limit < finish) ↔ Within start finish seconds := by
  constructor
  · rintro ⟨limit, sum, notAfter⟩
    rw [addSeconds_eq_ok] at sum
    rw [Instant.lt_def, not_lt, sum] at notAfter
    have bound := limit.inRange
    exact ⟨by omega, notAfter⟩
  · rintro ⟨inRange, notAfter⟩
    refine ⟨⟨_, inRange⟩, addSeconds_eq_ok.mpr rfl, ?_⟩
    rw [Instant.lt_def, not_lt]
    exact notAfter

/-- What the constructor of a lease checks. -/
structure ConvergenceLease.Admitted (lease : ConvergenceLease) (createdAt : Instant) : Prop where
  token : isSha256Hex lease.token = true
  acquired : createdAt ≤ lease.acquiredAt
  positive : lease.acquiredAt < lease.expiresAt
  bounded : Within lease.acquiredAt lease.expiresAt maxReconciliationLeaseSeconds

theorem checkLease_eq_ok {fields : ConvergenceStateFields} :
    fields.checkLease = .ok () ↔ ∀ lease ∈ fields.lease, lease.Admitted fields.createdAt := by
  unfold checkLease
  split
  · rename_i unleased
    simp [unleased]
  · rename_i lease leased
    simp only [leased, mem_def, some.injEq, forall_eq', bind_unit_eq_ok, requireReconciliationDigest_eq_ok, raiseIf_eq_ok, not_lt]
    rw [bind_eq_ok]
    simp only [raiseIf_eq_ok]
    rw [within_iff]
    constructor
    · rintro ⟨token, acquired, positive, bounded⟩
      exact ⟨token, acquired, not_le.mp positive, bounded⟩
    · exact fun admitted => ⟨admitted.token, admitted.acquired, not_le.mpr admitted.positive, admitted.bounded⟩

/-- What the constructor of a schedule checks. -/
structure ConvergenceStateFields.Admitted (fields : ConvergenceStateFields) : Prop where
  lifetime : fields.createdAt < fields.deadlineAt
  bounded : Within fields.createdAt fields.deadlineAt maxReconciliationDeadlineSeconds
  due : fields.createdAt ≤ fields.nextAttemptAt ∧ fields.nextAttemptAt ≤ fields.deadlineAt
  attempts : 0 ≤ fields.attemptCount ∧ fields.attemptCount ≤ fields.maxAttempts
  limit : 1 ≤ fields.maxAttempts ∧ fields.maxAttempts ≤ maxReconciliationAttempts
  backoff : 1 ≤ fields.backoffSeconds ∧ fields.backoffSeconds ≤ fields.maxBackoffSeconds
  maxBackoff : 1 ≤ fields.maxBackoffSeconds ∧ fields.maxBackoffSeconds ≤ maxReconciliationBackoffSeconds
  generation : 0 ≤ fields.claimGeneration ∧ fields.claimGeneration ≤ maxSafeJsonInteger
  counted : fields.attemptCount ≤ fields.claimGeneration
  lease : ∀ lease ∈ fields.lease, lease.Admitted fields.createdAt

theorem safe_attempts : maxReconciliationAttempts ≤ maxSafeJsonInteger := by
  decide

theorem safe_backoff : maxReconciliationBackoffSeconds ≤ maxSafeJsonInteger := by
  decide

theorem ConvergenceStateFields.postInit_eq_ok (fields : ConvergenceStateFields) : fields.postInit = .ok () ↔ fields.Admitted := by
  have checks : fields.postInit = .ok () ↔ fields.createdAt < fields.deadlineAt ∧
      (∃ limit, addSeconds fields.createdAt maxReconciliationDeadlineSeconds = .ok limit ∧ ¬ limit < fields.deadlineAt ∧
        (fields.createdAt ≤ fields.nextAttemptAt ∧ fields.nextAttemptAt ≤ fields.deadlineAt) ∧
        boundedNonNegative fields.attemptCount fields.maxAttempts (ascii "reconciliation attempt count") = .ok () ∧
        boundedPositive fields.maxAttempts maxReconciliationAttempts (ascii "maximum reconciliation attempts") = .ok () ∧
        boundedPositive fields.backoffSeconds fields.maxBackoffSeconds (ascii "reconciliation backoff") = .ok () ∧
        boundedPositive fields.maxBackoffSeconds maxReconciliationBackoffSeconds
          (ascii "maximum reconciliation backoff") = .ok () ∧
        boundedNonNegative fields.claimGeneration maxSafeJsonInteger (ascii "reconciliation claim generation") = .ok () ∧
        ¬ fields.claimGeneration < fields.attemptCount ∧ ∀ lease ∈ fields.lease, lease.Admitted fields.createdAt) := by
    rw [postInit, bind_unit_eq_ok, raiseIf_eq_ok, not_not, bind_eq_ok]
    simp [checkLease_eq_ok]
  rw [checks]
  have safe := safe_attempts
  have safeBackoff := safe_backoff
  constructor
  · rintro ⟨lifetime, limit, sum, notAfter, due, attempts, most, backoff, maxBackoff, generation, counted, lease⟩
    have most := (boundedPositive_eq_ok safe_attempts).mp most
    have maxBackoff := (boundedPositive_eq_ok safe_backoff).mp maxBackoff
    exact ⟨lifetime, within_iff.mp ⟨limit, sum, notAfter⟩, due, (boundedNonNegative_eq_ok (by omega)).mp attempts, most,
      (boundedPositive_eq_ok (by omega)).mp backoff, maxBackoff, (boundedNonNegative_eq_ok (le_refl _)).mp generation,
      not_lt.mp counted, lease⟩
  · intro admitted
    obtain ⟨limit, sum, notAfter⟩ := within_iff.mpr admitted.bounded
    have most := admitted.limit
    have maxBackoff := admitted.maxBackoff
    exact ⟨admitted.lifetime, limit, sum, notAfter, admitted.due, (boundedNonNegative_eq_ok (by omega)).mpr admitted.attempts,
      (boundedPositive_eq_ok safe_attempts).mpr most, (boundedPositive_eq_ok (by omega)).mpr admitted.backoff,
      (boundedPositive_eq_ok safe_backoff).mpr maxBackoff, (boundedNonNegative_eq_ok (le_refl _)).mpr admitted.generation,
      not_lt.mpr admitted.counted, admitted.lease⟩

namespace ReconciliationConvergenceState

theorem facts (state : ReconciliationConvergenceState) : state.Admitted :=
  (postInit_eq_ok _).mp state.admitted

theorem make_ok {fields : ConvergenceStateFields} (admitted : fields.Admitted) :
    ∃ state, ReconciliationConvergenceState.make fields = .ok state :=
  ⟨⟨fields, (postInit_eq_ok _).mpr admitted⟩, construct_ok _⟩

end ReconciliationConvergenceState

section Transitions

variable {state : ReconciliationConvergenceState} {claim : ReconciliationAttemptClaim} {now : Instant}

theorem ReconciliationSubject.digest (subject : ReconciliationSubject) : isSha256Hex subject.subjectId = true := by
  have admitted := subject.admitted
  simp only [SubjectFields.postInit, bind_unit_eq_ok, raiseIf_eq_ok, Bool.not_eq_false] at admitted
  exact admitted.2.2.2.2.1

/-- What the constructor of a claim checks of its attempts. -/
theorem ReconciliationAttemptClaim.attempts (claim : ReconciliationAttemptClaim) :
    0 ≤ claim.attemptCount ∧ claim.attemptCount ≤ maxReconciliationAttempts := by
  have admitted := claim.admitted
  simp only [AttemptClaimFields.postInit, bind_unit_eq_ok] at admitted
  have most := (boundedPositive_eq_ok safe_attempts).mp admitted.2.2.2.2.1
  have safe := safe_attempts
  have attempts := (boundedNonNegative_eq_ok (by omega)).mp admitted.2.2.2.1
  omega

/-- A delay lies between half of the backoff, rounded up, and all of it. -/
theorem retryDelay_spec {backoffSeconds : Int} (positive : 1 ≤ backoffSeconds) (claim : ReconciliationAttemptClaim) :
    ∃ delay, subjectStableRetryDelay backoffSeconds claim = .ok delay ∧ (backoffSeconds + 1) / 2 ≤ delay ∧
      delay ≤ backoffSeconds := by
  have attempts := claim.attempts
  have safe := safe_attempts
  have passed : admissible (.obj [(ascii "schemaVersion", .str (ascii "ci-reconciliation-retry-jitter/v1")),
      (ascii "subjectId", .str claim.subject.subjectId), (ascii "attemptCount", .int claim.attemptCount)]) = true := by
    have small : claim.attemptCount.natAbs ≤ maxSafeJsonInteger := by omega
    simp [scalar_of_isSha256Hex claim.subject.digest, small]
  obtain ⟨digest, hashed, _⟩ := hashObject_total passed
  refine ⟨_, by rw [subjectStableRetryDelay, hashed, ok_bind_eq]; rfl, ?_, ?_⟩
  · have rest := Int.emod_nonneg (hexNumber (digest.take 16) : Int)
      (show backoffSeconds - (backoffSeconds + 1) / 2 + 1 ≠ 0 by omega)
    omega
  · have rest := Int.emod_lt_of_pos (hexNumber (digest.take 16) : Int)
      (show 0 < backoffSeconds - (backoffSeconds + 1) / 2 + 1 by omega)
    omega

/-- What an acquisition does to a schedule. -/
structure Acquired (state : ReconciliationConvergenceState) (now : Instant) (next : ReconciliationConvergenceState)
    (claim : ReconciliationAttemptClaim) : Prop where
  generation : next.claimGeneration = state.claimGeneration + 1 ∧ claim.generation = state.claimGeneration + 1
  reason : claim.terminalReason = state.terminalReasonAt now
  attempts : next.attemptCount = if claim.terminalReason = none then state.attemptCount + 1 else state.attemptCount
  counted : claim.attemptCount = next.attemptCount
  limit : next.maxAttempts = state.maxAttempts
  schedule : next.nextAttemptAt = state.nextAttemptAt ∧ next.backoffSeconds = state.backoffSeconds

section Acquisition

variable {subject : ReconciliationSubject} {contract : ReconciliationContract} {revision : Int} {workerId : Text}
  {policy : ReconciliationConvergencePolicy}

theorem acquire_facts {next : ReconciliationConvergenceState}
    (computed : acquireReconciliationClaim state subject contract revision workerId now policy = .ok (some (next, claim))) :
    Acquired state now next claim := by
  obtain ⟨_, _, computed⟩ := bind_eq_ok.mp computed
  obtain ⟨_, _, computed⟩ := bind_eq_ok.mp computed
  split at computed
  · cases computed
  · obtain ⟨_, _, computed⟩ := bind_eq_ok.mp computed
    obtain ⟨_, _, computed⟩ := bind_eq_ok.mp computed
    obtain ⟨_, _, computed⟩ := bind_eq_ok.mp computed
    obtain ⟨successor, made, computed⟩ := bind_eq_ok.mp computed
    obtain ⟨leased, claimed, returned⟩ := bind_eq_ok.mp computed
    cases returned
    obtain ⟨_, rfl⟩ := construct_eq_ok.mp made
    obtain ⟨_, rfl⟩ := construct_eq_ok.mp claimed
    exact ⟨⟨rfl, rfl⟩, rfl, rfl, rfl, rfl, rfl, rfl⟩

/-- An acquisition returns below the last generation, when its lease ends within the calendar. -/
theorem acquire_total (revised : 0 ≤ revision ∧ revision ≤ maxSafeJsonInteger) (worker : isSha256Hex workerId = true)
    (room : state.claimGeneration < maxSafeJsonInteger)
    (inRange : now.micros + secondMicros * maxReconciliationLeaseSeconds < instantLimit) :
    ∃ answer, acquireReconciliationClaim state subject contract revision workerId now policy = .ok answer := by
  have revisionPassed : boundedNonNegative revision maxSafeJsonInteger (ascii "reconciliation revision") = .ok () :=
    (boundedNonNegative_eq_ok (le_refl _)).mpr revised
  have workerPassed : requireReconciliationDigest workerId (ascii "reconciliation worker id") = .ok () :=
    requireReconciliationDigest_eq_ok.mpr worker
  rw [acquireReconciliationClaim, revisionPassed, ok_bind_eq, workerPassed, ok_bind_eq]
  split
  · exact ⟨none, rfl⟩
  · rename_i due
    rw [not_or, not_lt] at due
    have facts := state.facts
    have counted := facts.counted
    have attempts := facts.attempts
    have limit := facts.limit
    have leaseSeconds := policy.admitted
    simp only [ConvergencePolicyFields.postInit, bind_unit_eq_ok] at leaseSeconds
    have duration := (boundedPositive_eq_ok (show (maxReconciliationLeaseSeconds : Int) ≤ maxSafeJsonInteger by decide)).mp
      leaseSeconds.2.2.2.2.2.1
    have shorter : secondMicros * policy.leaseSeconds.toNat ≤ secondMicros * maxReconciliationLeaseSeconds :=
      Nat.mul_le_mul_left _ (by omega)
    have longer : secondMicros * 1 ≤ secondMicros * policy.leaseSeconds.toNat := Nat.mul_le_mul_left _ (by omega)
    have second : 0 < secondMicros * 1 := by decide
    obtain ⟨expires, sum⟩ : ∃ expires : Instant, expires.micros = now.micros + secondMicros * policy.leaseSeconds.toNat :=
      ⟨⟨_, by omega⟩, rfl⟩
    have generationPassed : boundedPositive (state.claimGeneration + 1) maxSafeJsonInteger
        (ascii "reconciliation claim generation") = .ok () := (boundedPositive_eq_ok (le_refl _)).mpr (by omega)
    have mapping : admissible (claimMapping subject workerId (state.claimGeneration + 1) now) = true := by
      have small : (state.claimGeneration + 1).natAbs ≤ maxSafeJsonInteger := by omega
      simp [claimMapping, scalar_of_isSha256Hex subject.digest, scalar_of_isSha256Hex worker, small]
    obtain ⟨token, hashed, digest⟩ := hashObject_total mapping
    have within : Within now expires maxReconciliationLeaseSeconds := ⟨inRange, by omega⟩
    have after : now < expires := by
      rw [Instant.lt_def]
      omega
    have lease : ConvergenceLease.Admitted ⟨token, now, expires⟩ state.createdAt :=
      ⟨digest, facts.due.1.trans due.1, after, within⟩
    have reason : state.terminalReasonAt now = none → state.attemptCount < state.maxAttempts := by
      intro pollable
      rw [terminalReasonAt] at pollable
      split_ifs at pollable
      omega
    have count : 0 ≤ (if state.terminalReasonAt now = none then state.attemptCount + 1 else state.attemptCount) ∧
        (if state.terminalReasonAt now = none then state.attemptCount + 1 else state.attemptCount) ≤ state.maxAttempts ∧
        (if state.terminalReasonAt now = none then state.attemptCount + 1 else state.attemptCount) ≤
          state.claimGeneration + 1 := by
      split_ifs with pollable
      · have left := reason pollable
        omega
      · omega
    obtain ⟨successor, made⟩ := @ReconciliationConvergenceState.make_ok { state.toConvergenceStateFields with
        attemptCount := if state.terminalReasonAt now = none then state.attemptCount + 1 else state.attemptCount
        claimGeneration := state.claimGeneration + 1
        lease := some ⟨token, now, expires⟩ }
      ⟨facts.lifetime, facts.bounded, facts.due, ⟨count.1, count.2.1⟩, facts.limit, facts.backoff, facts.maxBackoff,
        by dsimp only; omega, count.2.2, by
          simp only [mem_def, some.injEq, forall_eq']
          exact lease⟩
    have reasonPassed : AttemptClaimFields.checkReason ⟨subject, contract, revision, token, state.claimGeneration + 1,
        if state.terminalReasonAt now = none then state.attemptCount + 1 else state.attemptCount, state.maxAttempts, now,
        expires, state.deadlineAt, state.terminalReasonAt now⟩ = .ok () := by
      rw [AttemptClaimFields.checkReason]
      by_cases late : state.deadlineAt ≤ now
      · have reached : state.terminalReasonAt now = some .deadlineExceeded := if_pos late
        simp only [reached]
        exact valueErrorIf_passes (not_lt.mpr late)
      · by_cases spent : state.maxAttempts ≤ state.attemptCount
        · have reached : state.terminalReasonAt now = some .attemptsExhausted := (if_neg late).trans (if_pos spent)
          simp only [reached, bind_unit_eq_ok]
          exact ⟨valueErrorIf_passes (not_lt.mpr spent), valueErrorIf_passes late⟩
        · have reached : state.terminalReasonAt now = none := (if_neg late).trans (if_neg spent)
          simp only [reached, if_true, bind_unit_eq_ok]
          exact ⟨valueErrorIf_passes (by omega), valueErrorIf_passes late⟩
    have claimPassed : AttemptClaimFields.postInit ⟨subject, contract, revision, token, state.claimGeneration + 1,
        if state.terminalReasonAt now = none then state.attemptCount + 1 else state.attemptCount, state.maxAttempts, now,
        expires, state.deadlineAt, state.terminalReasonAt now⟩ = .ok () := by
      have safe := safe_attempts
      rw [AttemptClaimFields.postInit]
      simp only [bind_unit_eq_ok]
      rw [bind_eq_ok]
      refine ⟨revisionPassed, requireReconciliationDigest_eq_ok.mpr digest, generationPassed,
        (boundedNonNegative_eq_ok (by omega)).mpr ⟨count.1, count.2.1⟩,
        (boundedPositive_eq_ok safe_attempts).mpr limit, valueErrorIf_passes (not_le.mpr after), ?_⟩
      obtain ⟨bound, added, notAfter⟩ := within_iff.mpr within
      refine ⟨bound, added, ?_⟩
      simp only [bind_unit_eq_ok]
      exact ⟨valueErrorIf_passes notAfter, reasonPassed, valueErrorIf_passes (not_lt.mpr count.2.2)⟩
    rw [generationPassed, ok_bind_eq]
    rw [addSeconds_eq_ok.mpr sum, ok_bind_eq, hashed, ok_bind_eq, made, ok_bind_eq, ReconciliationAttemptClaim.make,
      construct_ok claimPassed]
    exact ⟨_, rfl⟩

end Acquisition

/-- What a deferral does to a schedule. -/
structure Deferred (state next : ReconciliationConvergenceState) : Prop where
  generation : next.claimGeneration = state.claimGeneration
  attempts : next.attemptCount = state.attemptCount
  limit : next.maxAttempts = state.maxAttempts

theorem defer_facts {snapshotRevision : Int} {next : ReconciliationConvergenceState}
    (computed : deferReconciliationClaim state claim now snapshotRevision = .ok (.released next)) : Deferred state next := by
  obtain ⟨_, _, computed⟩ := bind_eq_ok.mp computed
  split at computed
  · cases computed
  · split at computed
    · cases computed
    · obtain ⟨_, _, computed⟩ := bind_eq_ok.mp computed
      obtain ⟨_, _, computed⟩ := bind_eq_ok.mp computed
      obtain ⟨_, _, computed⟩ := bind_eq_ok.mp computed
      obtain ⟨successor, made, returned⟩ := bind_eq_ok.mp computed
      cases returned
      obtain ⟨_, rfl⟩ := construct_eq_ok.mp made
      exact ⟨rfl, rfl, rfl⟩

/-- A deferral returns while attempts are left, when its delay ends within the calendar. -/
theorem defer_total {snapshotRevision : Int} (revised : 0 ≤ snapshotRevision ∧ snapshotRevision ≤ maxSafeJsonInteger)
    (left : state.attemptCount < state.maxAttempts)
    (inRange : now.micros + secondMicros * maxReconciliationLeaseSeconds < instantLimit) :
    ∃ answer, deferReconciliationClaim state claim now snapshotRevision = .ok answer := by
  have revisionPassed : boundedNonNegative snapshotRevision maxSafeJsonInteger
      (ascii "reconciliation snapshot revision") = .ok () := (boundedNonNegative_eq_ok (le_refl _)).mpr revised
  rw [deferReconciliationClaim, revisionPassed, ok_bind_eq]
  split
  · exact ⟨_, rfl⟩
  · rename_i active
    split
    · exact ⟨_, rfl⟩
    · obtain ⟨lease, held, _, _, acquired, after, _⟩ := not_not.mp active
      have facts := state.facts
      have backoff := facts.backoff
      have maxBackoff := facts.maxBackoff
      have most : maxReconciliationBackoffSeconds = 3600 := rfl
      obtain ⟨delay, delayed, least, atMost⟩ := retryDelay_spec backoff.1 claim
      have shorter : secondMicros * delay.toNat ≤ secondMicros * maxReconciliationLeaseSeconds :=
        Nat.mul_le_mul_left _ (show delay.toNat ≤ 3600 by omega)
      obtain ⟨later, sum⟩ : ∃ later : Instant, later.micros = now.micros + secondMicros * delay.toNat := ⟨⟨_, by omega⟩, rfl⟩
      have created : state.createdAt ≤ now := by
        have started := (facts.lease lease held).acquired
        rw [acquired] at started
        exact started.trans after
      have follows : now ≤ later := by
        rw [Instant.le_def]
        omega
      have bounded : 1 ≤ min (state.backoffSeconds * 2) state.maxBackoffSeconds ∧
          min (state.backoffSeconds * 2) state.maxBackoffSeconds ≤ state.maxBackoffSeconds := by
        omega
      obtain ⟨successor, made⟩ := @ReconciliationConvergenceState.make_ok { state.toConvergenceStateFields with
          nextAttemptAt := min state.deadlineAt later
          backoffSeconds := min (state.backoffSeconds * 2) state.maxBackoffSeconds
          lease := none }
        ⟨facts.lifetime, facts.bounded, ⟨le_min facts.lifetime.le (created.trans follows), min_le_left _ _⟩, facts.attempts,
          facts.limit, bounded, facts.maxBackoff, facts.generation, facts.counted, by simp⟩
      rw [valueErrorIf_passes (not_le.mpr left), ok_bind_eq, delayed, ok_bind_eq, addSeconds_eq_ok.mpr sum, ok_bind_eq, made]
      exact ⟨_, rfl⟩

theorem release_facts {next : ReconciliationConvergenceState}
    (computed : releaseTerminalClaim state claim now = .ok (some next)) : Deferred state next := by
  rw [releaseTerminalClaim] at computed
  split at computed
  · cases computed
  · obtain ⟨made, built, returned⟩ := map_eq_ok.mp computed
    cases returned
    obtain ⟨_, rfl⟩ := construct_eq_ok.mp built
    exact ⟨rfl, rfl, rfl⟩

theorem release_total (state : ReconciliationConvergenceState) (claim : ReconciliationAttemptClaim) (now : Instant) :
    ∃ answer, releaseTerminalClaim state claim now = .ok answer := by
  rw [releaseTerminalClaim]
  split
  · exact ⟨none, rfl⟩
  · have facts := state.facts
    obtain ⟨successor, made⟩ := @ReconciliationConvergenceState.make_ok { state.toConvergenceStateFields with lease := none }
      ⟨facts.lifetime, facts.bounded, facts.due, facts.attempts, facts.limit, facts.backoff, facts.maxBackoff,
        facts.generation, facts.counted, by simp⟩
    rw [made]
    exact ⟨some successor, rfl⟩

end Transitions

/-- A deferral is asked for only by a pollable claim with attempts left, before its deadline. -/
theorem reconcileRound_defers {world : RoundWorld} {claim other : ReconciliationAttemptClaim}
    (deferred : RoundAction.deferred other ∈ reconcileRound world claim) :
    other = claim ∧ claim.terminalReason = none ∧ claim.attemptCount < claim.maxAttempts ∧ world.now < claim.deadlineAt := by
  have settled (due : world.now < claim.deadlineAt) (left : claim.attemptCount < claim.maxAttempts)
      (member : RoundAction.deferred other ∈ deferOrRecordDeadline world claim) (pollable : claim.terminalReason = none) :
      other = claim ∧ claim.terminalReason = none ∧ claim.attemptCount < claim.maxAttempts ∧ world.now < claim.deadlineAt := by
    have same : other = claim := by
      unfold deferOrRecordDeadline at member
      split at member
      · simpa using member
      · simpa [recordTerminal] using member
      · simpa using member
    exact ⟨same, pollable, left, due⟩
  have failed (member : RoundAction.deferred other ∈ deferOrFail world claim) (pollable : claim.terminalReason = none) :
      other = claim ∧ claim.terminalReason = none ∧ claim.attemptCount < claim.maxAttempts ∧ world.now < claim.deadlineAt := by
    rw [deferOrFail, roundTerminalReason] at member
    split_ifs at member with late spent
    · simp [recordTerminal] at member
    · simp [recordTerminal] at member
    · exact settled (not_le.mp late) (not_le.mp spent) member pollable
  rw [reconcileRound] at deferred
  split at deferred
  · simp [recordTerminal] at deferred
  · rename_i pollable
    cases answer : world.poll with
    | raised error =>
      rw [answer, reconcilePolled] at deferred
      simp at deferred
    | timedOut =>
      rw [answer, reconcilePolled] at deferred
      exact failed deferred pollable
    | unavailable =>
      rw [answer, reconcilePolled] at deferred
      exact failed deferred pollable
    | ambiguous subjectId failure =>
      rw [answer, reconcilePolled] at deferred
      split_ifs at deferred
      · simp at deferred
      · simp [recordTerminal] at deferred
      · simp at deferred
    | observed observations =>
      rw [answer, reconcilePolled] at deferred
      split at deferred
      · simp at deferred
      · rw [concludeRound] at deferred
        split_ifs at deferred with late undecided spent
        · simp [recordTerminal] at deferred
        · simp [recordTerminal] at deferred
        · exact settled (not_le.mp late) (not_le.mp spent) deferred pollable
        · simp at deferred

/-- The schedule of a subject with the number of its pollable claims so far. -/
structure ScheduleWorld where
  state : ReconciliationConvergenceState
  pollable : Int

inductive ScheduleCommand where
  | claim (subject : ReconciliationSubject) (contract : ReconciliationContract) (revision : Int) (workerId : Text)
      (now : Instant) (policy : ReconciliationConvergencePolicy)
  | postpone (claim : ReconciliationAttemptClaim) (now : Instant) (snapshotRevision : Int)
  | finish (claim : ReconciliationAttemptClaim) (now : Instant)

namespace ScheduleWorld

def countPollable (claim : ReconciliationAttemptClaim) : Int :=
  if claim.terminalReason = none then 1 else 0

/-- A command that raises, or that is refused, changes nothing. -/
def step (world : ScheduleWorld) : ScheduleCommand → ScheduleWorld
  | .claim subject contract revision workerId now policy =>
    match acquireReconciliationClaim world.state subject contract revision workerId now policy with
    | .ok (some (next, claim)) => ⟨next, world.pollable + countPollable claim⟩
    | _ => world
  | .postpone claim now snapshotRevision =>
    match deferReconciliationClaim world.state claim now snapshotRevision with
    | .ok (.released next) => ⟨next, world.pollable⟩
    | _ => world
  | .finish claim now =>
    match releaseTerminalClaim world.state claim now with
    | .ok (some next) => ⟨next, world.pollable⟩
    | _ => world

def run (world : ScheduleWorld) (commands : List ScheduleCommand) : ScheduleWorld :=
  commands.foldl step world

/-- Every pollable claim consumed an attempt of the schedule. -/
def Counts (start : ReconciliationConvergenceState) (world : ScheduleWorld) : Prop :=
  (world.state.maxAttempts = start.maxAttempts ∧ world.pollable + start.attemptCount = world.state.attemptCount) ∧
    start.claimGeneration ≤ world.state.claimGeneration

theorem counts_step {start : ReconciliationConvergenceState} {world : ScheduleWorld} (counts : world.Counts start)
    (command : ScheduleCommand) : (world.step command).Counts start := by
  obtain ⟨⟨limit, consumed⟩, generation⟩ := counts
  have unchanged {next : ReconciliationConvergenceState} (deferred : Deferred world.state next) :
      (ScheduleWorld.mk next world.pollable).Counts start :=
    ⟨⟨deferred.limit.trans limit, consumed.trans deferred.attempts.symm⟩, generation.trans_eq deferred.generation.symm⟩
  cases command with
  | claim subject contract revision workerId now policy =>
    rw [step]
    split
    · rename_i next claim answered
      have facts := acquire_facts answered
      refine ⟨⟨facts.limit.trans limit, ?_⟩, ?_⟩
      · show world.pollable + countPollable claim + start.attemptCount = next.attemptCount
        rw [facts.attempts, countPollable]
        split_ifs
        · omega
        · omega
      · show start.claimGeneration ≤ next.claimGeneration
        rw [facts.generation.1]
        omega
    · exact ⟨⟨limit, consumed⟩, generation⟩
  | postpone claim now snapshotRevision =>
    rw [step]
    split
    · rename_i next answered
      exact unchanged (defer_facts answered)
    · exact ⟨⟨limit, consumed⟩, generation⟩
  | finish claim now =>
    rw [step]
    split
    · rename_i next answered
      exact unchanged (release_facts answered)
    · exact ⟨⟨limit, consumed⟩, generation⟩

theorem counts_run {start : ReconciliationConvergenceState} (commands : List ScheduleCommand) :
    ∀ world : ScheduleWorld, world.Counts start → (world.run commands).Counts start := by
  induction commands with
  | nil => exact fun _ counts => counts
  | cons command rest inductionHypothesis =>
    intro world counts
    exact inductionHypothesis (world.step command) (counts_step counts command)

end ScheduleWorld

/-- The transitions of a schedule return unless a guard of theirs refuses: no constructor does. -/
structure TransitionsReturn (state : ReconciliationConvergenceState) : Prop where
  claims : ∀ subject contract (revision : Int) workerId now policy, 0 ≤ revision ∧ revision ≤ maxSafeJsonInteger →
    isSha256Hex workerId = true → state.claimGeneration < maxSafeJsonInteger →
    now.micros + secondMicros * maxReconciliationLeaseSeconds < instantLimit →
    ∃ answer, acquireReconciliationClaim state subject contract revision workerId now policy = .ok answer
  defers : ∀ claim now (snapshotRevision : Int), 0 ≤ snapshotRevision ∧ snapshotRevision ≤ maxSafeJsonInteger →
    state.attemptCount < state.maxAttempts → now.micros + secondMicros * maxReconciliationLeaseSeconds < instantLimit →
    ∃ answer, deferReconciliationClaim state claim now snapshotRevision = .ok answer
  finishes : ∀ claim now, ∃ answer, releaseTerminalClaim state claim now = .ok answer
  delays : ∀ claim, ∃ delay, subjectStableRetryDelay state.backoffSeconds claim = .ok delay ∧
    (state.backoffSeconds + 1) / 2 ≤ delay ∧ delay ≤ state.backoffSeconds

theorem transitionsReturn (state : ReconciliationConvergenceState) : TransitionsReturn state where
  claims _ _ _ _ _ _ revised worker room inRange := acquire_total revised worker room inRange
  defers _ _ _ revised left inRange := defer_total revised left inRange
  finishes claim now := release_total state claim now
  delays claim := retryDelay_spec state.facts.backoff.1 claim

/-- In every run of a schedule the constructor's checks hold, the pollable claims stay within the attempts, every claim has a
later generation, and a round defers no terminal claim. -/
theorem convergence_schedule_invariant (start : ReconciliationConvergenceState) (commands : List ScheduleCommand) :
    (((ScheduleWorld.mk start 0).run commands).state.Admitted ∧
      TransitionsReturn ((ScheduleWorld.mk start 0).run commands).state) ∧
    ((ScheduleWorld.mk start 0).run commands).pollable ≤ start.maxAttempts ∧
    (∀ subject contract revision workerId now policy next claim,
      acquireReconciliationClaim ((ScheduleWorld.mk start 0).run commands).state subject contract revision workerId now policy =
        .ok (some (next, claim)) →
      ((ScheduleWorld.mk start 0).run commands).state.claimGeneration < claim.generation ∧
        next.claimGeneration = claim.generation) ∧
    ∀ (world : RoundWorld) (claim other : ReconciliationAttemptClaim),
      RoundAction.deferred other ∈ reconcileRound world claim →
        other = claim ∧ claim.terminalReason = none ∧ claim.attemptCount < claim.maxAttempts ∧ world.now < claim.deadlineAt := by
  have counts : ((ScheduleWorld.mk start 0).run commands).Counts start := by
    apply ScheduleWorld.counts_run
    exact ⟨⟨rfl, Int.zero_add _⟩, le_refl _⟩
  refine ⟨⟨ReconciliationConvergenceState.facts _, transitionsReturn _⟩, ?_, ?_, fun _ _ _ => reconcileRound_defers⟩
  · obtain ⟨⟨limit, consumed⟩, _⟩ := counts
    have attempts := ((ScheduleWorld.mk start 0).run commands).state.facts.attempts
    have started := start.facts.attempts
    omega
  · intro subject contract revision workerId now policy next claim answered
    have facts := acquire_facts answered
    have generation := facts.generation
    omega

namespace ConvergenceSample

def created : Instant :=
  ⟨0, zero_lt_instantLimit⟩

theorem minute_lt_instantLimit : 60000000 < instantLimit := by
  decide

def due : Instant :=
  ⟨60000000, minute_lt_instantLimit⟩

def token : Text :=
  List.replicate 64 48

theorem token_passed : isSha256Hex token = true := by
  decide

/-- The schedule of one attempt, which has been claimed. -/
def claimedFields : ConvergenceStateFields :=
  ⟨created, due, created, 1, 1, 5, 60, 1, some ⟨token, created, due⟩⟩

theorem claimed_passed : claimedFields.postInit = .ok () := by
  have within : Within created due maxReconciliationDeadlineSeconds := ⟨by decide, by decide⟩
  have leased : Within created due maxReconciliationLeaseSeconds := ⟨by decide, by decide⟩
  refine claimedFields.postInit_eq_ok.mpr ⟨by decide, within, by decide, by decide, by decide, by decide, by decide, by decide,
    by decide, ?_⟩
  intro lease held
  cases held
  exact ⟨token_passed, le_refl _, by decide, leased⟩

def claimed : ReconciliationConvergenceState :=
  ⟨claimedFields, claimed_passed⟩

def lastClaimFields : AttemptClaimFields :=
  ⟨Sample.subject, Sample.contract, 0, token, 1, 1, 1, created, due, due, none⟩

theorem lastClaim_passed : lastClaimFields.postInit = .ok () := by
  have leased : Within created due maxReconciliationLeaseSeconds := ⟨by decide, by decide⟩
  obtain ⟨limit, sum, notAfter⟩ := within_iff.mpr leased
  rw [AttemptClaimFields.postInit]
  simp only [bind_unit_eq_ok]
  rw [bind_eq_ok]
  refine ⟨(boundedNonNegative_eq_ok (le_refl _)).mpr (by decide), requireReconciliationDigest_eq_ok.mpr token_passed,
    (boundedPositive_eq_ok (le_refl _)).mpr (by decide), (boundedNonNegative_eq_ok (by decide)).mpr (by decide),
    (boundedPositive_eq_ok safe_attempts).mpr (by decide), valueErrorIf_passes (by decide), limit, sum, ?_⟩
  simp only [bind_unit_eq_ok]
  exact ⟨valueErrorIf_passes notAfter, by decide, valueErrorIf_passes (by decide)⟩

/-- The pollable claim of the only attempt. -/
def lastClaim : ReconciliationAttemptClaim :=
  ⟨lastClaimFields, lastClaim_passed⟩

end ConvergenceSample

/-- The deferral of the last pollable claim raises. -/
theorem last_claim_deferral_raises :
    ConvergenceSample.lastClaim.terminalReason = none ∧
      deferReconciliationClaim ConvergenceSample.claimed ConvergenceSample.lastClaim ConvergenceSample.created 0 =
        .error (.valueError (ascii "terminal reconciliation claim cannot be deferred")) := by
  refine ⟨rfl, ?_⟩
  have revision : boundedNonNegative 0 maxSafeJsonInteger (ascii "reconciliation snapshot revision") = .ok () :=
    (boundedNonNegative_eq_ok (le_refl _)).mpr (by decide)
  have active : claimIsActive ConvergenceSample.claimed ConvergenceSample.lastClaim ConvergenceSample.created :=
    ⟨_, rfl, rfl, rfl, rfl, le_refl _, by decide⟩
  have early : ¬ ConvergenceSample.claimed.deadlineAt ≤ ConvergenceSample.created := by decide
  rw [deferReconciliationClaim, revision, ok_bind_eq, if_neg (not_not.mpr active), if_neg early, bind_eq_error]
  exact Or.inl (raiseIf_eq_error.mpr ⟨by decide, rfl⟩)

end CiCoordinator.Reconciliation

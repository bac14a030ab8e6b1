import CiCoordinator.CiEconomics.CollectionFacts

/- What each transition of a registered collection does, and when it raises. -/

namespace CiCoordinator.CiEconomics

open Library Kernel CollectionState CollectionState

/-- An attempt raises the revision twice, and a final status adds at most three. -/
def revisionAllowance : CollectionStatus → Nat
  | .leased => 0
  | .pending => 1
  | .deferred => 1
  | .captured => 2
  | .terminalUnavailable => 2
  | .expired => 3

/-- A state that belongs to a source and was registered under a policy. -/
structure Registered (policy : CollectionPolicy) (source : CollectionSource) (state : CollectionState) : Prop where
  subject : source.sourceId = .ok state.subjectId
  policyHash : policy.policyHash = .ok state.policyHash
  created : ∀ run, source = .providerRun run → state.sourceCreatedAt = run.runCreatedAt
  maxAttempts : state.maxAttempts = policy.maximumAttempts
  maxBackoff : state.maxBackoffSeconds = policy.maximumBackoffSeconds
  revision : state.revision ≤ 2 * state.attemptCount + revisionAllowance state.status

namespace Registered

variable {policy : CollectionPolicy} {source : CollectionSource} {state : CollectionState}

section

variable (registered : Registered policy source state)
include registered

theorem safe : state.revision + 1 ≤ maxSafeJsonInteger := by
  have attempts := state.facts.attempts
  have bound := state.facts.attemptBound.2
  have revision := registered.revision
  have few : revisionAllowance state.status ≤ 3 := by
    cases state.status <;> decide
  simp only [maxCollectionAttempts, maxSafeJsonInteger] at bound ⊢
  omega

theorem inputs : requireTransitionInputs state source policy = .ok () := by
  have created := registered.created
  cases source with
  | reconciliation subjectId contractHash =>
    simp [requireTransitionInputs, registered.subject, registered.policyHash]
  | providerRun run =>
    simp [requireTransitionInputs, registered.subject, registered.policyHash, created run rfl]

/-- A successor keeps what the registration fixed. -/
theorem successor {after : CollectionState}
    (subject : after.subjectId = state.subjectId) (hash : after.policyHash = state.policyHash)
    (created : after.sourceCreatedAt = state.sourceCreatedAt) (attempts : after.maxAttempts = state.maxAttempts)
    (backoff : after.maxBackoffSeconds = state.maxBackoffSeconds)
    (revision : after.revision ≤ 2 * after.attemptCount + revisionAllowance after.status) :
    Registered policy source after where
  subject := by rw [registered.subject, subject]
  policyHash := by rw [registered.policyHash, hash]
  created := fun run equal => by rw [created, registered.created run equal]
  maxAttempts := by rw [attempts, registered.maxAttempts]
  maxBackoff := by rw [backoff, registered.maxBackoff]
  revision := revision

end

end Registered

theorem terminalState_total {state : CollectionState} {now : Instant} {reason : CollectionTerminalReason}
    {failure : Option CollectionFailureReason} (admitted : (terminalFields state now reason failure).Admitted) :
    ∃ after, terminalState state now reason failure = .ok after ∧
      after.toCollectionStateFields = terminalFields state now reason failure :=
  make_ok admitted

section Acquire

variable {policy : CollectionPolicy} {source : CollectionSource} {state : CollectionState} {workerId : Text}
  {now expires : Instant}

/-- What an acquisition does to a due collection that has time and attempts left. -/
theorem leaseCollection_spec (registered : Registered policy source state) (worker : isSha256Hex workerId = true)
    (due : state.Due now) (ordered : now < expires) (inTime : expires < state.deadlineAt)
    (budget : state.attemptCount < state.maxAttempts) :
    ∃ token after claim, leaseCollection state source workerId now expires policy = .ok (.acquired after claim) ∧
      after.toCollectionStateFields = leasedFields state workerId token now expires ∧
      claim.toCollectionClaimFields = claimFields state source state.policyHash workerId token now expires ∧
      leaseMatches after claim := by
  have facts := state.facts
  have safe := registered.safe
  have attemptBound := facts.attemptBound.2
  have generation := facts.generation
  have later := facts.revision
  simp only [maxCollectionAttempts] at attemptBound
  obtain ⟨token, tokened, digest⟩ := @claimToken_total source policy workerId (state.claimGeneration + 1)
    (state.revision + 1) now worker (by simp only [maxSafeJsonInteger]; omega) safe
  obtain ⟨after, made, same⟩ := make_ok (leased_admitted due worker digest ordered inTime budget safe)
  have passed : (claimFields state source state.policyHash workerId token now expires).postInit = .ok () := by
    rw [CollectionClaimFields.postInit_eq_ok]
    simp only [claimFields, facts.policy, worker, digest, ordered, generation, true_and]
    simp only [maxSafeJsonInteger] at safe ⊢
    omega
  have agrees : leaseMatches after ⟨_, passed⟩ := by
    simp only [leaseMatches, same, leasedFields, claimFields, registered.subject, and_self]
  refine ⟨token, after, ⟨_, passed⟩, ?_, same, rfl, agrees⟩
  simp only [leaseCollection, tokened, made, registered.policyHash, CollectionClaim.make, construct_ok passed, ok_bind_eq,
    collectionClaimAcquired, raiseIf, not_not.mpr agrees, if_false, pure, Except.pure]

/-- The effect of an acquisition on a registered collection. -/
inductive AcquireEffect (policy : CollectionPolicy) (source : CollectionSource) (state : CollectionState)
    (workerId : Text) (now : Instant) : Py AcquireOutcome → Prop
  | unavailable (notDue : ¬ state.Due now) : AcquireEffect policy source state workerId now (.ok .unavailable)
  | outOfRange (due : state.Due now) (beyond : instantLimit ≤ now.micros + secondMicros * policy.leaseSeconds) :
      AcquireEffect policy source state workerId now (.error .overflowError)
  | terminalized {after : CollectionState} {reason : CollectionTerminalReason} (due : state.Due now)
      (cause : (reason = .deadlineExceeded ∧
          state.deadlineAt.micros ≤ now.micros + secondMicros * policy.leaseSeconds) ∨
        (reason = .attemptsExhausted ∧ state.attemptCount = state.maxAttempts))
      (fields : after.toCollectionStateFields = terminalFields state now reason none) :
      AcquireEffect policy source state workerId now (.ok (.terminalized after))
  | leased {token : Text} {expires : Instant} {after : CollectionState} {claim : CollectionClaim} (due : state.Due now)
      (ends : expires.micros = now.micros + secondMicros * policy.leaseSeconds) (inTime : expires < state.deadlineAt)
      (budget : state.attemptCount < state.maxAttempts)
      (fields : after.toCollectionStateFields = leasedFields state workerId token now expires)
      (claimed : claim.toCollectionClaimFields = claimFields state source state.policyHash workerId token now expires)
      (agrees : leaseMatches after claim) :
      AcquireEffect policy source state workerId now (.ok (.acquired after claim))

theorem acquireCollectionClaim_spec (registered : Registered policy source state) (worker : isSha256Hex workerId = true) :
    AcquireEffect policy source state workerId now (acquireCollectionClaim state source workerId now policy) := by
  have facts := state.facts
  rw [acquireCollectionClaim, registered.inputs, ok_bind_eq, requireDigest_passes worker, ok_bind_eq]
  split
  · exact .unavailable ‹_›
  · rename_i due
    rw [not_not] at due
    cases ends : addSeconds now policy.leaseSeconds with
    | error error =>
      obtain ⟨beyond, rfl⟩ := addSeconds_eq_error.mp ends
      exact .outOfRange due beyond
    | ok expires =>
      rw [addSeconds_eq_ok] at ends
      rw [ok_bind_eq]
      split
      · rename_i late
        rw [Instant.le_def, ends] at late
        obtain ⟨after, made, same⟩ := @terminalState_total state now .deadlineExceeded none
          (terminal_admitted due.1 due.later (by simp) (by simp) (by simp) registered.safe)
        simp only [made, ok_bind_eq, collectionTerminalized, raiseIf, same, terminalFields, ne_eq, not_true_eq_false,
          if_false, pure, Except.pure]
        exact .terminalized due (.inl ⟨rfl, late⟩) same
      · rename_i early
        split
        · rename_i spent
          have used : state.attemptCount = state.maxAttempts := le_antisymm facts.attempts spent
          obtain ⟨after, made, same⟩ := @terminalState_total state now .attemptsExhausted none
            (terminal_admitted due.1 due.later (by simp) (by simp) (fun _ => used) registered.safe)
          simp only [made, ok_bind_eq, collectionTerminalized, raiseIf, same, terminalFields, ne_eq, not_true_eq_false,
            if_false, pure, Except.pure]
          exact .terminalized due (.inr ⟨rfl, used⟩) same
        · rename_i budget
          have ordered : now < expires := by
            have := policy.bounds.2.2.2.1.1
            rw [Instant.lt_def, ends, secondMicros]
            omega
          obtain ⟨token, after, claim, leased, same, claimed, agrees⟩ := leaseCollection_spec registered worker due
            ordered (not_le.mp early) (not_le.mp budget)
          rw [leased]
          exact .leased due ends (not_le.mp early) (not_le.mp budget) same claimed agrees

end Acquire

section Holder

variable {policy : CollectionPolicy} {source : CollectionSource} {state : CollectionState} {claim : CollectionClaim}
  {now : Instant} {reason : CollectionFailureReason}

/-- The effect of a deferral on a registered collection. -/
inductive DeferEffect (policy : CollectionPolicy) (state : CollectionState) (claim : CollectionClaim) (now : Instant)
    (reason : CollectionFailureReason) : Py HolderOutcome → Prop
  | lost {id : Text} (inactive : collectionClaimIsActive state claim now = false) (named : claim.source.sourceId = .ok id) :
      DeferEffect policy state claim now reason (.ok (.claimLost id))
  | outOfRange {delay : Nat} (active : collectionClaimIsActive state claim now = true)
      (atLeast : (state.backoffSeconds + 1) / 2 ≤ delay) (atMost : delay ≤ state.backoffSeconds)
      (beyond : instantLimit ≤ now.micros + secondMicros * delay + secondMicros * policy.leaseSeconds) :
      DeferEffect policy state claim now reason (.error .overflowError)
  | terminal {after : CollectionState} {cause : CollectionTerminalReason}
      (active : collectionClaimIsActive state claim now = true)
      (fields : after.toCollectionStateFields = terminalFields state now cause (some reason)) :
      DeferEffect policy state claim now reason (.ok (.applied after))
  | deferred {delay : Nat} {next : Instant} {after : CollectionState}
      (active : collectionClaimIsActive state claim now = true)
      (atLeast : (state.backoffSeconds + 1) / 2 ≤ delay) (atMost : delay ≤ state.backoffSeconds)
      (scheduled : next.micros = now.micros + secondMicros * delay)
      (inTime : next.micros + secondMicros * policy.leaseSeconds < state.deadlineAt.micros)
      (fields : after.toCollectionStateFields = deferredFields state next reason) :
      DeferEffect policy state claim now reason (.ok (.applied after))

section

variable (registered : Registered policy source state)
include registered

theorem deferCollectionClaim_spec (retryable : reason ≠ .evidenceConflict) :
    DeferEffect policy state claim now reason (deferCollectionClaim state claim now reason policy) := by
  have facts := state.facts
  rw [deferCollectionClaim, valueErrorIf_passes retryable, ok_bind_eq]
  split
  · rename_i inactive
    obtain ⟨id, named, lost⟩ := collectionClaimLost_total claim
    rw [lost]
    exact .lost inactive named
  · rename_i active
    rw [Bool.not_eq_false] at active
    obtain ⟨isOpen, later, live, counted⟩ := holder_times active
    obtain ⟨delay, delayed, atLeast, atMost⟩ := stableRetryDelay_spec claim facts.backoffPositive
    rw [delayed, ok_bind_eq]
    have noConflict : ∀ cause : CollectionTerminalReason, cause ≠ .evidenceConflict →
        (some reason = some CollectionFailureReason.evidenceConflict ↔ cause = .evidenceConflict) := by
      intro cause other
      simp [retryable, other]
    cases scheduled : addSeconds now delay with
    | error error =>
      obtain ⟨beyond, rfl⟩ := addSeconds_eq_error.mp scheduled
      exact .outOfRange active atLeast atMost (by omega)
    | ok next =>
      rw [addSeconds_eq_ok] at scheduled
      rw [ok_bind_eq]
      split
      · rename_i spent
        have used : state.attemptCount = state.maxAttempts := le_antisymm facts.attempts spent
        obtain ⟨after, made, same⟩ := @terminalState_total state now .attemptsExhausted (some reason)
          (terminal_admitted isOpen later (noConflict _ (by decide)) (by simp) (fun _ => used) registered.safe)
        rw [made]
        exact .terminal active same
      · cases lease : addSeconds next policy.leaseSeconds with
        | error error =>
          obtain ⟨beyond, rfl⟩ := addSeconds_eq_error.mp lease
          exact .outOfRange active atLeast atMost (by omega)
        | ok nextLease =>
          rw [addSeconds_eq_ok] at lease
          rw [ok_bind_eq]
          split
          · obtain ⟨after, made, same⟩ := @terminalState_total state now .deadlineExceeded (some reason)
              (terminal_admitted isOpen later (noConflict _ (by decide)) (by simp) (by simp) registered.safe)
            rw [made]
            exact .terminal active same
          · rename_i early
            rw [Instant.le_def] at early
            have after : state.sourceCreatedAt ≤ next := by
              rw [Instant.le_def] at later ⊢
              omega
            have inTime : next < state.deadlineAt := by
              rw [Instant.lt_def]
              omega
            obtain ⟨successor, made, same⟩ := make_ok (deferred_admitted isOpen counted after inTime retryable registered.safe)
            rw [made]
            exact .deferred active atLeast atMost scheduled (by omega) same

theorem completeCollectionClaim_spec : (collectionClaimIsActive state claim now = false ∧
        ∃ id, completeCollectionClaim state claim now = .ok (.claimLost id) ∧ claim.source.sourceId = .ok id) ∨
      (collectionClaimIsActive state claim now = true ∧ ∃ after, completeCollectionClaim state claim now = .ok (.applied after) ∧
          after.toCollectionStateFields = capturedFields state now) := by
  rw [completeCollectionClaim]
  split
  · rename_i inactive
    obtain ⟨id, named, lost⟩ := collectionClaimLost_total claim
    exact .inl ⟨inactive, id, lost, named⟩
  · rename_i active
    rw [Bool.not_eq_false] at active
    obtain ⟨isOpen, later, live, counted⟩ := holder_times active
    obtain ⟨after, made, same⟩ := make_ok (captured_admitted isOpen counted later live registered.safe)
    exact .inr ⟨active, after, by rw [made]; rfl, same⟩

theorem rejectCollectionClaim_spec : (collectionClaimIsActive state claim now = false ∧
        ∃ id, rejectCollectionClaim state claim now = .ok (.claimLost id) ∧ claim.source.sourceId = .ok id) ∨
      (collectionClaimIsActive state claim now = true ∧ ∃ after, rejectCollectionClaim state claim now = .ok (.applied after) ∧
          after.toCollectionStateFields = terminalFields state now .evidenceConflict (some .evidenceConflict)) := by
  rw [rejectCollectionClaim]
  split
  · rename_i inactive
    obtain ⟨id, named, lost⟩ := collectionClaimLost_total claim
    exact .inl ⟨inactive, id, lost, named⟩
  · rename_i active
    rw [Bool.not_eq_false] at active
    obtain ⟨isOpen, later, live, counted⟩ := holder_times active
    obtain ⟨after, made, same⟩ := @terminalState_total state now .evidenceConflict (some .evidenceConflict)
      (terminal_admitted isOpen later (by simp) (fun _ => by omega) (by simp) registered.safe)
    exact .inr ⟨active, after, by rw [made]; rfl, same⟩

end

end Holder

theorem expireCollectionState_spec {policy : CollectionPolicy} {source : CollectionSource} {state : CollectionState}
    {now : Instant} (registered : Registered policy source state) :
    (¬ ((state.status = .captured ∨ state.status = .terminalUnavailable) ∧ state.evidenceRetainUntil ≤ now) ∧
        expireCollectionState state now = .ok none) ∨
      ((state.status = .captured ∨ state.status = .terminalUnavailable) ∧ state.evidenceRetainUntil ≤ now ∧
        ∃ after, expireCollectionState state now = .ok (some after) ∧
          after.toCollectionStateFields = expiredFields state now) := by
  rw [expireCollectionState]
  split
  · rename_i unfinished
    refine .inl ⟨?_, rfl⟩
    rintro ⟨captured | terminal, _⟩
    · exact unfinished.1 captured
    · exact unfinished.2 terminal
  · rename_i finished
    have final : state.status = .captured ∨ state.status = .terminalUnavailable := by
      by_contra neither
      rw [not_or] at neither
      exact finished neither
    split
    · rename_i early
      exact .inl ⟨fun ended => absurd ended.2 (not_le.mpr early), rfl⟩
    · rename_i ended
      obtain ⟨after, made, same⟩ := make_ok (expired_admitted final (not_lt.mp ended) registered.safe)
      exact .inr ⟨final, not_lt.mp ended, after, by rw [made]; rfl, same⟩

end CiCoordinator.CiEconomics

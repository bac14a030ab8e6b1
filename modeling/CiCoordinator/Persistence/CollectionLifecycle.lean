import CiCoordinator.CiEconomics.CollectionTransitions
import CiCoordinator.Persistence.CollectionRepository

/- The lifecycle of a collection over every run of its workers. -/

namespace CiCoordinator.Persistence

open Library Kernel CiEconomics CollectionState

variable {policy : CollectionPolicy} {source : CollectionSource} {checkedAt writtenAt : Instant}

/-- The replies that leave the row as it was. -/
def CollectionReply.Idle (reply : CollectionReply) : Prop :=
  reply = .nothingDue ∨ reply = .claimLost ∨ reply = .invariantViolation ∨ ∃ error, reply = .raised error

/-- Everything that a transaction can do to the row. -/
inductive CollectionChange (policy : CollectionPolicy) (source : CollectionSource) (checkedAt writtenAt : Instant)
    (before : CollectionState) : CollectionRequest → CollectionReply → CollectionState → Prop
  | leased {workerId token : Text} {expires : Instant} {after : CollectionState} {claim : CollectionClaim}
      (due : before.Due checkedAt) (inTime : expires < before.deadlineAt)
      (fields : after.toCollectionStateFields = leasedFields before workerId token checkedAt expires)
      (claimed : claim.source = source) (agrees : leaseMatches after claim) :
      CollectionChange policy source checkedAt writtenAt before (.claimNext workerId) (.claimed claim) after
  | terminalized {workerId : Text} {after : CollectionState} {reason : CollectionTerminalReason}
      (due : before.Due checkedAt)
      (fields : after.toCollectionStateFields = terminalFields before checkedAt reason none) :
      CollectionChange policy source checkedAt writtenAt before (.claimNext workerId) .terminalized after
  | deferred {claim : CollectionClaim} {reason : CollectionFailureReason} {next : Instant} {after : CollectionState}
      (held : holderAuthority before claim writtenAt) (active : collectionClaimIsActive before claim checkedAt = true)
      (inTime : next.micros + secondMicros * policy.leaseSeconds < before.deadlineAt.micros)
      (fields : after.toCollectionStateFields = deferredFields before next reason) :
      CollectionChange policy source checkedAt writtenAt before (.deferClaim claim reason) .applied after
  | abandoned {claim : CollectionClaim} {reason : CollectionFailureReason} {cause : CollectionTerminalReason}
      {after : CollectionState} (held : holderAuthority before claim writtenAt)
      (active : collectionClaimIsActive before claim checkedAt = true)
      (fields : after.toCollectionStateFields = terminalFields before checkedAt cause (some reason)) :
      CollectionChange policy source checkedAt writtenAt before (.deferClaim claim reason) .applied after
  | rejected {claim : CollectionClaim} {after : CollectionState} (held : holderAuthority before claim writtenAt)
      (active : collectionClaimIsActive before claim checkedAt = true)
      (fields : after.toCollectionStateFields =
        terminalFields before checkedAt .evidenceConflict (some .evidenceConflict)) :
      CollectionChange policy source checkedAt writtenAt before (.rejectClaim claim) .applied after
  | captured {claim : CollectionClaim} {after : CollectionState} (held : holderAuthority before claim writtenAt)
      (active : collectionClaimIsActive before claim checkedAt = true)
      (fields : after.toCollectionStateFields = capturedFields before checkedAt) :
      CollectionChange policy source checkedAt writtenAt before (.recordSnapshot claim true) .captured after
  | expired {after : CollectionState} (final : CollectionStatus.Final before.status)
      (ended : before.evidenceRetainUntil ≤ checkedAt)
      (fields : after.toCollectionStateFields = expiredFields before checkedAt) :
      CollectionChange policy source checkedAt writtenAt before .expireEvidence .expired after

theorem rolledBack_idle (error : PyError) : (rolledBack error).Idle := by
  cases error <;> simp [rolledBack, CollectionReply.Idle]

section Serve

variable {row : CollectionRow} (registered : Registered policy source row.state)
include registered

theorem claimNext_spec (workerId : Text) :
    let served := claimNext policy source workerId checkedAt writtenAt row
    (served.2 = row ∧ served.1.Idle) ∨
      (CollectionChange policy source checkedAt writtenAt row.state (.claimNext workerId) served.1 served.2.state) := by
  intro served
  simp only [served, claimNext]
  split
  · exact .inl ⟨rfl, by simp [CollectionReply.Idle]⟩
  · rename_i worker
    rw [Bool.not_eq_false] at worker
    split
    · exact .inl ⟨rfl, by simp [CollectionReply.Idle]⟩
    · have effect := @acquireCollectionClaim_spec policy source row.state workerId checkedAt registered worker
      cases outcome : acquireCollectionClaim row.state source workerId checkedAt policy with
      | error error => exact .inl ⟨rfl, rolledBack_idle error⟩
      | ok acquired =>
        rw [outcome] at effect
        cases effect with
        | unavailable notDue => exact .inl ⟨rfl, by simp [CollectionReply.Idle]⟩
        | terminalized due cause fields =>
          simp only
          split
          · exact .inr (.terminalized due fields)
          · exact .inl ⟨rfl, by simp [CollectionReply.Idle]⟩
        | leased due ends inTime budget fields claimed agrees =>
          simp only
          split
          · refine .inr (.leased due inTime fields ?_ agrees)
            rw [claimed]
            rfl
          · exact .inl ⟨rfl, by simp [CollectionReply.Idle]⟩

theorem deferClaim_spec (claim : CollectionClaim) (reason : CollectionFailureReason) :
    let served := deferClaim policy source claim reason checkedAt writtenAt row
    (served.2 = row ∧ served.1.Idle) ∨
      (CollectionChange policy source checkedAt writtenAt row.state (.deferClaim claim reason) served.1 served.2.state) := by
  intro served
  simp only [served, deferClaim]
  split
  · exact .inl ⟨rfl, by simp [CollectionReply.Idle]⟩
  · by_cases retryable : reason = .evidenceConflict
    · subst retryable
      exact .inl ⟨rfl, rolledBack_idle (.valueError (ascii "retryable collection failure reason is invalid"))⟩
    · have effect := @deferCollectionClaim_spec policy source row.state claim checkedAt reason registered retryable
      cases outcome : deferCollectionClaim row.state claim checkedAt reason policy with
      | error error => exact .inl ⟨rfl, rolledBack_idle error⟩
      | ok result =>
        rw [outcome] at effect
        cases effect with
        | lost inactive named => exact .inl ⟨rfl, by simp [writeHolderTransition, CollectionReply.Idle]⟩
        | terminal active fields =>
          simp only [writeHolderTransition]
          split
          · exact .inr (.abandoned ‹_› active fields)
          · exact .inl ⟨rfl, by simp [CollectionReply.Idle]⟩
        | deferred active atLeast atMost scheduled inTime fields =>
          simp only [writeHolderTransition]
          split
          · exact .inr (.deferred ‹_› active inTime fields)
          · exact .inl ⟨rfl, by simp [CollectionReply.Idle]⟩

theorem rejectClaim_spec (claim : CollectionClaim) :
    let served := rejectClaim source claim checkedAt writtenAt row
    (served.2 = row ∧ served.1.Idle) ∨
      (CollectionChange policy source checkedAt writtenAt row.state (.rejectClaim claim) served.1 served.2.state) := by
  intro served
  simp only [served, rejectClaim]
  split
  · exact .inl ⟨rfl, by simp [CollectionReply.Idle]⟩
  · rcases @rejectCollectionClaim_spec policy source row.state claim checkedAt registered with
      ⟨_, id, outcome, _⟩ | ⟨active, after, outcome, fields⟩
    · rw [outcome]
      exact .inl ⟨rfl, by simp [writeHolderTransition, CollectionReply.Idle]⟩
    · rw [outcome]
      simp only [writeHolderTransition]
      split
      · exact .inr (.rejected ‹_› active fields)
      · exact .inl ⟨rfl, by simp [CollectionReply.Idle]⟩

theorem recordSnapshot_spec (claim : CollectionClaim) (evidenceStored : Bool) :
    let served := recordSnapshot source claim evidenceStored checkedAt writtenAt row
    (served.2 = row ∧ served.1.Idle) ∨
      (CollectionChange policy source checkedAt writtenAt row.state (.recordSnapshot claim evidenceStored) served.1
        served.2.state) := by
  intro served
  simp only [served, recordSnapshot]
  split
  · exact .inl ⟨rfl, by simp [CollectionReply.Idle]⟩
  split
  · exact .inl ⟨rfl, by simp [CollectionReply.Idle]⟩
  · rename_i evidence
    rcases @completeCollectionClaim_spec policy source row.state claim checkedAt registered with
      ⟨_, id, outcome, _⟩ | ⟨active, after, outcome, fields⟩
    · rw [outcome]
      exact .inl ⟨rfl, by simp [writeHolderTransition, CollectionReply.Idle]⟩
    · have stored : evidenceStored = true := by
        by_contra missing
        exact evidence ⟨Bool.eq_false_iff.mpr missing, active⟩
      subst stored
      rw [outcome]
      simp only [writeHolderTransition]
      split
      · exact .inr (.captured ‹_› active fields)
      · exact .inl ⟨rfl, by simp [CollectionReply.Idle]⟩

theorem expireEvidence_spec :
    let served := expireEvidence checkedAt writtenAt row
    (served.2 = row ∧ served.1.Idle) ∨
      (CollectionChange policy source checkedAt writtenAt row.state .expireEvidence served.1 served.2.state) := by
  intro served
  simp only [served, expireEvidence]
  split
  · exact .inl ⟨rfl, by simp [CollectionReply.Idle]⟩
  · rename_i selected
    rw [not_not] at selected
    rcases @expireCollectionState_spec policy source row.state checkedAt registered with
      ⟨early, _⟩ | ⟨final, ended, after, outcome, fields⟩
    · exact absurd selected early
    · simp only [outcome]
      split
      · exact .inl ⟨rfl, by simp [CollectionReply.Idle]⟩
      split
      · exact .inl ⟨rfl, by simp [CollectionReply.Idle]⟩
      split
      · exact .inr (.expired final ended fields)
      · exact .inl ⟨rfl, by simp [CollectionReply.Idle]⟩

end Serve

/-- A transaction leaves the row as it was, or it makes one of the changes. -/
theorem serve_spec {row : CollectionRow} (registered : Registered policy source row.state) (request : CollectionRequest) :
    let served := serve policy source request checkedAt writtenAt row
    (served.2 = row ∧ served.1.Idle) ∨
      CollectionChange policy source checkedAt writtenAt row.state request served.1 served.2.state := by
  cases request with
  | claimNext workerId => exact claimNext_spec registered workerId
  | deferClaim claim reason => exact deferClaim_spec registered claim reason
  | rejectClaim claim => exact rejectClaim_spec registered claim
  | recordSnapshot claim evidenceStored => exact recordSnapshot_spec registered claim evidenceStored
  | expireEvidence => exact expireEvidence_spec registered

namespace CollectionChange

variable {before after : CollectionState} {request : CollectionRequest} {reply : CollectionReply}

/-- A change starts from an open collection or expires a final one. -/
theorem status_cases (change : CollectionChange policy source checkedAt writtenAt before request reply after) :
    (before.Open ∧ after.status ≠ .pending ∧ after.status ≠ .expired) ∨
      (CollectionStatus.Final before.status ∧ after.status = .expired) := by
  cases change with
  | leased due inTime fields claimed agrees => exact .inl ⟨due.1, by simp [fields, leasedFields]⟩
  | terminalized due fields => exact .inl ⟨due.1, by simp [fields, terminalFields]⟩
  | deferred held active inTime fields =>
    exact .inl ⟨(holder_times active).1, by simp [fields, deferredFields]⟩
  | abandoned held active fields =>
    exact .inl ⟨(holder_times active).1, by simp [fields, terminalFields]⟩
  | rejected held active fields =>
    exact .inl ⟨(holder_times active).1, by simp [fields, terminalFields]⟩
  | captured held active fields =>
    exact .inl ⟨(holder_times active).1, by simp [fields, capturedFields]⟩
  | expired final ended fields => exact .inr ⟨final, by simp [fields, expiredFields]⟩

theorem holder_leased {claim : CollectionClaim} (held : holderAuthority before claim writtenAt) : before.status = .leased :=
  held.1.2.2.1

section

variable (change : CollectionChange policy source checkedAt writtenAt before request reply after)
include change

/-- Every change keeps the registration. -/
theorem registered (known : Registered policy source before) : Registered policy source after := by
  have revision := known.revision
  cases change with
  | leased due inTime fields claimed agrees =>
    apply known.successor <;> simp [fields, leasedFields]
    rcases due.1 with status | status | status <;> simp only [status, revisionAllowance] at revision <;> omega
  | terminalized due fields =>
    apply known.successor <;>
      simp [fields, terminalFields, CollectionStateFields.released, revisionAllowance]
    rcases due.1 with status | status | status <;> simp only [status, revisionAllowance] at revision <;> omega
  | deferred held active inTime fields =>
    rw [holder_leased held] at revision
    apply known.successor <;>
      simp only [fields, deferredFields, CollectionStateFields.released, revisionAllowance] at revision ⊢
    omega
  | abandoned held active fields =>
    rw [holder_leased held] at revision
    apply known.successor <;>
      simp only [fields, terminalFields, CollectionStateFields.released, revisionAllowance] at revision ⊢
    omega
  | rejected held active fields =>
    rw [holder_leased held] at revision
    apply known.successor <;>
      simp only [fields, terminalFields, CollectionStateFields.released, revisionAllowance] at revision ⊢
    omega
  | captured held active fields =>
    rw [holder_leased held] at revision
    apply known.successor <;>
      simp only [fields, capturedFields, CollectionStateFields.released, revisionAllowance] at revision ⊢
    omega
  | expired final ended fields =>
    apply known.successor <;> simp [fields, expiredFields, revisionAllowance]
    rcases final with status | status <;> simp only [status, revisionAllowance] at revision <;> omega

/-- A change raises the revision, so it changes the state. -/
theorem ne : after ≠ before := by
  intro same
  have raised : after.revision = before.revision + 1 := by
    cases change with
    | leased due inTime fields claimed agrees => simp [fields, leasedFields]
    | terminalized due fields => simp [fields, terminalFields]
    | deferred held active inTime fields => simp [fields, deferredFields]
    | abandoned held active fields => simp [fields, terminalFields]
    | rejected held active fields => simp [fields, terminalFields]
    | captured held active fields => simp [fields, capturedFields]
    | expired final ended fields => simp [fields, expiredFields]
  rw [same] at raised
  omega

/-- Only an acquisition makes a leased state, and the claim that it hands out is the lease. -/
theorem leased_inversion
    (leased : after.status = .leased) : ∃ claim, reply = .claimed claim ∧ claim.source = source ∧ leaseMatches after claim := by
  cases change with
  | leased due inTime fields claimed agrees => exact ⟨_, rfl, claimed, agrees⟩
  | terminalized due fields => simp [fields, terminalFields] at leased
  | deferred held active inTime fields => simp [fields, deferredFields] at leased
  | abandoned held active fields => simp [fields, terminalFields] at leased
  | rejected held active fields => simp [fields, terminalFields] at leased
  | captured held active fields => simp [fields, capturedFields] at leased
  | expired final ended fields => simp [fields, expiredFields] at leased

/-- Only a deferral makes a deferred state, and the lease of the attempt that it schedules fits before the deadline. -/
theorem deferred_inversion (deferred : after.status = .deferred) : ∃ next, after.nextAttemptAt = some next ∧
    next.micros + secondMicros * policy.leaseSeconds < after.deadlineAt.micros := by
  cases change with
  | leased due inTime fields claimed agrees => simp [fields, leasedFields] at deferred
  | terminalized due fields => simp [fields, terminalFields] at deferred
  | @deferred _ _ next _ held active inTime fields =>
    refine ⟨next, ?_, ?_⟩
    · simp [fields, deferredFields]
    · simpa only [fields, deferredFields, CollectionStateFields.released] using inTime
  | abandoned held active fields => simp [fields, terminalFields] at deferred
  | rejected held active fields => simp [fields, terminalFields] at deferred
  | captured held active fields => simp [fields, capturedFields] at deferred
  | expired final ended fields => simp [fields, expiredFields] at deferred

end

end CollectionChange

instance (state : CollectionState) : Decidable state.Open :=
  inferInstanceAs (Decidable (_ ∨ _ ∨ _))

/-- What holds in every reachable world. -/
structure CollectionWorld.Consistent (policy : CollectionPolicy) (source : CollectionSource) (world : CollectionWorld) :
    Prop where
  registered : Registered policy source world.row.state
  holder : world.row.state.status = .leased →
    ∃ claim, world.issued.head? = some claim ∧ claim.source = source ∧ leaseMatches world.row.state claim
  finished : world.finished = if world.row.state.Open then 0 else 1
  retried : world.row.state.status = .deferred → ∃ next, world.row.state.nextAttemptAt = some next ∧
    next.micros + secondMicros * policy.leaseSeconds < world.row.state.deadlineAt.micros

/-- The worker whose claim is the latest one, and whose lease lasts until the write. -/
def CollectionWorld.Holder (world : CollectionWorld) (claim : CollectionClaim) (checkedAt writtenAt : Instant) : Prop :=
  world.issued.head? = some claim ∧ leaseMatches world.row.state claim ∧ claim.claimedAt ≤ checkedAt ∧
    writtenAt < claim.leaseExpiresAt

variable {state : CollectionState}

theorem not_open_of_final (final : CollectionStatus.Final state.status) : ¬ state.Open := by
  rintro (status | status | status) <;> rcases final with equal | equal <;> rw [status] at equal <;> cases equal

/-- A claim that names the lease of a row is determined by the row and its source. -/
theorem leaseMatches_unique {first second : CollectionClaim}
    (source : first.source = second.source) (left : leaseMatches state first) (right : leaseMatches state second) :
    first = second := by
  obtain ⟨_, policyHash, _, revision, generation, attempts, owner, token, acquired, expires⟩ := left
  obtain ⟨_, policyHash', _, revision', generation', attempts', owner', token', acquired', expires'⟩ := right
  rcases first with ⟨first, _⟩
  rcases first
  simp_all

namespace CollectionWorld

variable {world : CollectionWorld}

theorem step_consistent (consistent : world.Consistent policy source) (request : CollectionRequest)
    (checkedAt writtenAt : Instant) :
    (world.step policy source request checkedAt writtenAt).Consistent policy source := by
  rcases @serve_spec policy source checkedAt writtenAt world.row consistent.registered request with
    ⟨same, idle⟩ | change
  · have issued : (world.step policy source request checkedAt writtenAt).issued = world.issued := by
      rcases idle with reply | reply | reply | ⟨error, reply⟩ <;> simp [step, reply]
    have row : (world.step policy source request checkedAt writtenAt).row = world.row := same
    have finished : (world.step policy source request checkedAt writtenAt).finished = world.finished := by
      simp [step, same]
    exact ⟨by rw [row]; exact consistent.registered, by rw [row, issued]; exact consistent.holder,
      by rw [row, finished]; exact consistent.finished, by rw [row]; exact consistent.retried⟩
  · refine ⟨change.registered consistent.registered, ?_, ?_, change.deferred_inversion⟩
    · intro leased
      obtain ⟨claim, reply, claimed, agrees⟩ := change.leased_inversion leased
      refine ⟨claim, ?_, claimed, agrees⟩
      simp [step, reply]
    · have finished := consistent.finished
      rcases change.status_cases with ⟨isOpen, pending, expired⟩ | ⟨final, expired⟩
      · rw [if_pos isOpen] at finished
        show (if _ then _ else _) = _
        by_cases closed : (serve policy source request checkedAt writtenAt world.row).2.state.Open
        · rw [if_neg fun both => not_open_of_final both.2 closed]
          exact finished.trans (if_pos closed).symm
        · have final : CollectionStatus.Final (serve policy source request checkedAt writtenAt world.row).2.state.status := by
            unfold CollectionState.Open at closed
            unfold CollectionStatus.Final
            cases status : (serve policy source request checkedAt writtenAt world.row).2.state.status <;> simp_all
          rw [if_pos ⟨change.ne, final⟩, finished]
          exact (if_neg closed).symm
      · rw [if_neg (not_open_of_final final)] at finished
        have left : ¬ CollectionStatus.Final (serve policy source request checkedAt writtenAt world.row).2.state.status := by
          simp [CollectionStatus.Final, expired]
        have closed : ¬ (serve policy source request checkedAt writtenAt world.row).2.state.Open := by
          simp [CollectionState.Open, expired]
        show (if _ then _ else _) = _
        rw [if_neg fun both => left both.2, finished]
        exact (if_neg closed).symm

variable {start : CollectionWorld}

theorem run_consistent (consistent : start.Consistent policy source)
    (run : CollectionRun policy source start world) : world.Consistent policy source := by
  induction run with
  | start => exact consistent
  | step run request checkedAt writtenAt later ordered ih => exact step_consistent ih request checkedAt writtenAt

/-- A final collection can only expire. -/
theorem run_final (consistent : start.Consistent policy source)
    (final : CollectionStatus.Final start.row.state.status) (run : CollectionRun policy source start world) :
    world.row.state = start.row.state ∨ world.row.state.status = .expired := by
  induction run with
  | start => exact .inl rfl
  | @step previous run request checkedAt writtenAt later ordered ih =>
    have known := run_consistent consistent run
    rcases @serve_spec policy source checkedAt writtenAt previous.row known.registered request with
      ⟨same, _⟩ | change
    · have row : (previous.step policy source request checkedAt writtenAt).row = previous.row := same
      rw [row]
      exact ih
    · rcases change.status_cases with ⟨isOpen, _⟩ | ⟨_, expired⟩
      · rcases ih with unchanged | expired
        · rw [unchanged] at isOpen
          exact absurd isOpen (not_open_of_final final)
        · simp [CollectionState.Open, expired] at isOpen
      · exact .inr expired

/-- An expired collection stays as it is. -/
theorem run_expired (consistent : start.Consistent policy source)
    (expired : start.row.state.status = .expired) (run : CollectionRun policy source start world) :
    world.row.state = start.row.state := by
  induction run with
  | start => rfl
  | @step previous run request checkedAt writtenAt later ordered ih =>
    have known := run_consistent consistent run
    rcases @serve_spec policy source checkedAt writtenAt previous.row known.registered request with
      ⟨same, _⟩ | change
    · exact (congrArg CollectionRow.state same).trans ih
    · rw [← ih] at expired
      rcases change.status_cases with ⟨isOpen, _⟩ | ⟨final, _⟩
      · simp [CollectionState.Open, expired] at isOpen
      · simp [CollectionStatus.Final, expired] at final

end CollectionWorld

/-- The claim that a holder's request carries. -/
def CollectionRequest.claim? : CollectionRequest → Option CollectionClaim
  | .claimNext _ => none
  | .deferClaim claim _ => some claim
  | .rejectClaim claim => some claim
  | .recordSnapshot claim _ => some claim
  | .expireEvidence => none

/-- A deferral names a retryable reason, and the snapshot of a completion can be stored. -/
def CollectionRequest.WellFormed : CollectionRequest → Prop
  | .deferClaim _ reason => reason ≠ .evidenceConflict
  | .recordSnapshot _ evidenceStored => evidenceStored = true
  | _ => True

/-- The transitions return in a state, unless an instant leaves the range of the calendar. -/
structure TransitionsReturn (policy : CollectionPolicy) (source : CollectionSource) (state : CollectionState)
    (now : Instant) : Prop where
  acquire : ∀ workerId, isSha256Hex workerId = true →
    (∃ outcome, acquireCollectionClaim state source workerId now policy = .ok outcome) ∨
      (acquireCollectionClaim state source workerId now policy = .error .overflowError ∧
        instantLimit ≤ now.micros + secondMicros * policy.leaseSeconds)
  defer : ∀ claim reason, reason ≠ .evidenceConflict →
    (∃ outcome, deferCollectionClaim state claim now reason policy = .ok outcome) ∨
      (deferCollectionClaim state claim now reason policy = .error .overflowError ∧
        instantLimit ≤ now.micros + secondMicros * state.backoffSeconds + secondMicros * policy.leaseSeconds)
  complete : ∀ claim, ∃ outcome, completeCollectionClaim state claim now = .ok outcome
  reject : ∀ claim, ∃ outcome, rejectCollectionClaim state claim now = .ok outcome
  expire : ∃ outcome, expireCollectionState state now = .ok outcome

theorem transitions_return (registered : Registered policy source state) (now : Instant) :
    TransitionsReturn policy source state now where
  acquire := by
    intro workerId worker
    have effect := @acquireCollectionClaim_spec policy source state workerId now registered worker
    cases outcome : acquireCollectionClaim state source workerId now policy with
    | ok acquired => exact .inl ⟨acquired, rfl⟩
    | error error =>
      rw [outcome] at effect
      cases effect with
      | outOfRange due beyond => exact .inr ⟨rfl, beyond⟩
  defer := by
    intro claim reason retryable
    have effect := @deferCollectionClaim_spec policy source state claim now reason registered retryable
    cases outcome : deferCollectionClaim state claim now reason policy with
    | ok deferred => exact .inl ⟨deferred, rfl⟩
    | error error =>
      rw [outcome] at effect
      cases effect with
      | outOfRange active atLeast atMost beyond =>
        refine .inr ⟨rfl, beyond.trans ?_⟩
        have := Nat.mul_le_mul_left secondMicros atMost
        omega
  complete := by
    intro claim
    rcases @completeCollectionClaim_spec policy source state claim now registered with
      ⟨_, id, outcome, _⟩ | ⟨_, after, outcome, _⟩ <;> exact ⟨_, outcome⟩
  reject := by
    intro claim
    rcases @rejectCollectionClaim_spec policy source state claim now registered with
      ⟨_, id, outcome, _⟩ | ⟨_, after, outcome, _⟩ <;> exact ⟨_, outcome⟩
  expire := by
    rcases @expireCollectionState_spec policy source state now registered with
      ⟨_, outcome⟩ | ⟨_, _, after, outcome, _⟩ <;> exact ⟨_, outcome⟩

/-- A holder's request takes effect under the current lease, and is reported as lost otherwise. -/
def CollectionWorld.Fenced (policy : CollectionPolicy) (source : CollectionSource) (world : CollectionWorld)
    (request : CollectionRequest) (claim : CollectionClaim) (checkedAt writtenAt : Instant) : Prop :=
  let served := serve policy source request checkedAt writtenAt world.row
  (world.Holder claim checkedAt writtenAt ∧ (served.1 = .applied ∨ served.1 = .captured)) ∨
    (¬ world.Holder claim checkedAt writtenAt ∧ served.1 = .claimLost ∧ served.2 = world.row) ∨
    (served.1 = .raised .overflowError ∧ served.2 = world.row ∧ instantLimit ≤ checkedAt.micros +
      secondMicros * world.row.state.backoffSeconds + secondMicros * policy.leaseSeconds)

section Fencing

variable {world : CollectionWorld} {claim : CollectionClaim}

theorem holder_iff (consistent : world.Consistent policy source) (claimed : claim.source = source)
    (ordered : checkedAt ≤ writtenAt) :
    world.Holder claim checkedAt writtenAt ↔ collectionClaimIsActive world.row.state claim checkedAt = true ∧
      holderAuthority world.row.state claim writtenAt := by
  rw [isActive_iff]
  constructor
  · rintro ⟨_, agrees, started, live⟩
    exact ⟨⟨agrees, started, ordered.trans_lt live⟩, agrees, live⟩
  · rintro ⟨⟨agrees, started, _⟩, _, live⟩
    obtain ⟨latest, head, known, current⟩ := consistent.holder agrees.2.2.1
    rw [leaseMatches_unique (claimed.trans known.symm) agrees current]
    rw [leaseMatches_unique (claimed.trans known.symm) agrees current] at started live
    exact ⟨head, current, started, live⟩

/-- The write of a holder's transition happens exactly under the current lease. -/
theorem writeHolderTransition_fenced {success : CollectionReply} {stored : CollectionState → CollectionRow}
    {outcome : HolderOutcome}
    (lost : ∀ id, outcome = .claimLost id → collectionClaimIsActive world.row.state claim checkedAt = false)
    (applied : ∀ after, outcome = .applied after → collectionClaimIsActive world.row.state claim checkedAt = true)
    (consistent : world.Consistent policy source) (claimed : claim.source = source) (ordered : checkedAt ≤ writtenAt) :
    let served := writeHolderTransition claim writtenAt world.row success stored (.ok outcome)
    (world.Holder claim checkedAt writtenAt ∧ served.1 = success) ∨
      (¬ world.Holder claim checkedAt writtenAt ∧ served.1 = .claimLost ∧ served.2 = world.row) := by
  rw [holder_iff consistent claimed ordered]
  cases outcome with
  | claimLost id =>
    refine .inr ⟨?_, rfl, rfl⟩
    rw [lost id rfl]
    simp
  | applied after =>
    simp only [writeHolderTransition, applied after rfl, true_and]
    split
    · exact .inl ⟨‹_›, rfl⟩
    · exact .inr ⟨‹_›, rfl, rfl⟩

/-- In a consistent world every holder's request is fenced. -/
theorem serve_fenced (consistent : world.Consistent policy source) {request : CollectionRequest}
    (carries : request.claim? = some claim) (wellFormed : request.WellFormed) (claimed : claim.source = source)
    (ordered : checkedAt ≤ writtenAt) : world.Fenced policy source request claim checkedAt writtenAt := by
  cases request with
  | claimNext workerId => cases carries
  | expireEvidence => cases carries
  | deferClaim own reason =>
    cases carries
    have effect := @deferCollectionClaim_spec policy source world.row.state claim checkedAt reason
      consistent.registered wellFormed
    simp only [CollectionWorld.Fenced, serve, deferClaim, if_neg (not_not.mpr claimed)]
    cases outcome : deferCollectionClaim world.row.state claim checkedAt reason policy with
    | error error =>
      rw [outcome] at effect
      cases effect with
      | outOfRange active atLeast atMost beyond =>
        refine .inr (.inr ⟨rfl, rfl, beyond.trans ?_⟩)
        have := Nat.mul_le_mul_left secondMicros atMost
        omega
    | ok result =>
      rw [outcome] at effect
      have fenced := @writeHolderTransition_fenced policy source checkedAt writtenAt world claim .applied
        (fun successor => { world.row with state := successor }) result
        (by intro id equal; subst equal; cases effect; assumption)
        (by intro after equal; subst equal; cases effect <;> assumption) consistent claimed ordered
      exact fenced.imp (fun held => ⟨held.1, .inl held.2⟩) .inl
  | rejectClaim own =>
    cases carries
    simp only [CollectionWorld.Fenced, serve, rejectClaim, if_neg (not_not.mpr claimed)]
    rcases @rejectCollectionClaim_spec policy source world.row.state claim checkedAt consistent.registered with
      ⟨inactive, id, outcome, _⟩ | ⟨active, after, outcome, _⟩
    · rw [outcome]
      have fenced := @writeHolderTransition_fenced policy source checkedAt writtenAt world claim .applied
        (fun successor => { world.row with state := successor }) (.claimLost id) (fun _ _ => inactive) (by intro _ impossible; cases impossible) consistent
        claimed ordered
      exact fenced.imp (fun held => ⟨held.1, .inl held.2⟩) .inl
    · rw [outcome]
      have fenced := @writeHolderTransition_fenced policy source checkedAt writtenAt world claim .applied
        (fun successor => { world.row with state := successor }) (.applied after) (by intro _ impossible; cases impossible) (fun _ _ => active) consistent
        claimed ordered
      exact fenced.imp (fun held => ⟨held.1, .inl held.2⟩) .inl
  | recordSnapshot own evidenceStored =>
    cases carries
    cases wellFormed
    simp only [CollectionWorld.Fenced, serve, recordSnapshot, if_neg (not_not.mpr claimed)]
    rcases @completeCollectionClaim_spec policy source world.row.state claim checkedAt consistent.registered with
      ⟨inactive, id, outcome, _⟩ | ⟨active, after, outcome, _⟩
    · rw [outcome]
      have fenced := @writeHolderTransition_fenced policy source checkedAt writtenAt world claim .captured
        (fun successor => ⟨successor, some world.row.state.evidenceRetainUntil⟩) (.claimLost id) (fun _ _ => inactive) (by intro _ impossible; cases impossible) consistent
        claimed ordered
      exact fenced.imp (fun held => ⟨held.1, .inr held.2⟩) .inl
    · rw [outcome]
      have fenced := @writeHolderTransition_fenced policy source checkedAt writtenAt world claim .captured
        (fun successor => ⟨successor, some world.row.state.evidenceRetainUntil⟩) (.applied after) (by intro _ impossible; cases impossible) (fun _ _ => active) consistent
        claimed ordered
      exact fenced.imp (fun held => ⟨held.1, .inr held.2⟩) .inl

end Fencing

/-- The world in which a source has just been registered. -/
def CollectionWorld.initial (start : CollectionState) (registeredAt : Instant) : CollectionWorld :=
  ⟨⟨start, none⟩, registeredAt, [], 0⟩

variable {subjectId : Text} {createdAt registeredAt : Instant}

/-- What the registration of a source fixes. -/
theorem initial_registered {start : CollectionState}
    (named : source.sourceId = .ok subjectId) (created : ∀ run, source = .providerRun run → createdAt = run.runCreatedAt)
    (made : initialCollectionState subjectId createdAt registeredAt policy = .ok start) :
    Registered policy source start ∧ start.status = .pending := by
  simp only [initialCollectionState, bind_eq_ok] at made
  obtain ⟨deadline, _, _, _, evidence, _, hash, hashed, tombstone, _, built⟩ := made
  have fields := make_eq_ok built
  refine ⟨⟨?_, ?_, ?_, ?_, ?_, ?_⟩, ?_⟩ <;> simp only [fields, pendingFields]
  · exact named
  · exact hashed
  · exact created
  · omega

theorem initial_consistent {start : CollectionState}
    (named : source.sourceId = .ok subjectId) (created : ∀ run, source = .providerRun run → createdAt = run.runCreatedAt)
    (made : initialCollectionState subjectId createdAt registeredAt policy = .ok start) :
    (CollectionWorld.initial start registeredAt).Consistent policy source := by
  obtain ⟨registered, pending⟩ := initial_registered named created made
  refine ⟨registered, ?_, ?_, ?_⟩
  · intro leased
    rw [CollectionWorld.initial, pending] at leased
    cases leased
  · have isOpen : (CollectionWorld.initial start registeredAt).row.state.Open := .inl pending
    rw [if_pos isOpen]
    rfl
  · intro deferred
    rw [CollectionWorld.initial, pending] at deferred
    cases deferred

/-- A retry waits at least half of the backoff, and the backoff doubles up to its maximum. -/
theorem deferral_schedule {after : CollectionState} {claim : CollectionClaim} {now : Instant}
    {reason : CollectionFailureReason} (registered : Registered policy source state)
    (applied : deferCollectionClaim state claim now reason policy = .ok (.applied after))
    (deferred : after.status = .deferred) :
    ∃ delay next, after.nextAttemptAt = some next ∧ next.micros = now.micros + secondMicros * delay ∧
      (state.backoffSeconds + 1) / 2 ≤ delay ∧ delay ≤ state.backoffSeconds ∧
      after.backoffSeconds = min (state.backoffSeconds * 2) state.maxBackoffSeconds := by
  have retryable : reason ≠ .evidenceConflict := by
    rintro rfl
    cases applied
  have effect := @deferCollectionClaim_spec policy source state claim now reason registered retryable
  rw [applied] at effect
  cases effect with
  | terminal active fields => simp [fields, terminalFields] at deferred
  | deferred active atLeast atMost scheduled inTime fields =>
    exact ⟨_, _, by rw [fields]; rfl, scheduled, atLeast, atMost, by rw [fields]; rfl⟩

/-- The lifecycle of a collection in a world, towards all the worlds that can follow it. -/
structure CollectionWorld.Lifecycle (policy : CollectionPolicy) (source : CollectionSource) (world : CollectionWorld) :
    Prop where
  returns : ∀ now, TransitionsReturn policy source world.row.state now
  fenced : ∀ request claim, request.claim? = some claim → request.WellFormed → claim.source = source →
    ∀ checkedAt writtenAt, checkedAt ≤ writtenAt → world.Fenced policy source request claim checkedAt writtenAt
  changes : ∀ request claim, request.claim? = some claim → ∀ checkedAt writtenAt, checkedAt ≤ writtenAt →
    (serve policy source request checkedAt writtenAt world.row).2 ≠ world.row → world.Holder claim checkedAt writtenAt
  attempts : world.row.state.attemptCount ≤ policy.maximumAttempts ∧
    world.row.state.attemptCount = world.row.state.claimGeneration
  lease : ∀ expires ∈ world.row.state.leaseExpiresAt, expires < world.row.state.deadlineAt
  schedule : ∀ next ∈ world.row.state.nextAttemptAt, next < world.row.state.deadlineAt ∧
    (world.row.state.status = .deferred →
      next.micros + secondMicros * policy.leaseSeconds < world.row.state.deadlineAt.micros)
  retry : ∀ claim now reason after, deferCollectionClaim world.row.state claim now reason policy = .ok (.applied after) →
    after.status = .deferred → ∃ delay next, after.nextAttemptAt = some next ∧
      next.micros = now.micros + secondMicros * delay ∧ (world.row.state.backoffSeconds + 1) / 2 ≤ delay ∧
      delay ≤ world.row.state.backoffSeconds ∧
      after.backoffSeconds = min (world.row.state.backoffSeconds * 2) policy.maximumBackoffSeconds
  backoff : world.row.state.backoffSeconds ≤ policy.maximumBackoffSeconds
  finished : world.finished ≤ 1
  final : CollectionStatus.Final world.row.state.status → ∀ later, CollectionRun policy source world later →
    later.row.state = world.row.state ∨ later.row.state.status = .expired
  expired : world.row.state.status = .expired → ∀ later, CollectionRun policy source world later →
    later.row.state = world.row.state

theorem CollectionChange.holder {world : CollectionWorld} {request : CollectionRequest} {claim : CollectionClaim}
    {reply : CollectionReply} {after : CollectionState} (carries : request.claim? = some claim)
    (change : CollectionChange policy source checkedAt writtenAt world.row.state request reply after) :
    holderAuthority world.row.state claim writtenAt ∧ collectionClaimIsActive world.row.state claim checkedAt = true := by
  cases change <;> cases carries <;> exact ⟨‹_›, ‹_›⟩

/-- A request whose claim names another source leaves the row as it was. -/
theorem serve_foreign {row : CollectionRow} {request : CollectionRequest} {claim : CollectionClaim}
    (carries : request.claim? = some claim) (foreign : claim.source ≠ source) :
    (serve policy source request checkedAt writtenAt row).2 = row := by
  cases request <;> cases carries <;>
    simp [serve, deferClaim, rejectClaim, recordSnapshot, if_pos foreign]

/-- Every run of any number of workers keeps the lifecycle of the collection. -/
theorem collection_lifecycle {subjectId : Text} {createdAt registeredAt : Instant} {start : CollectionState}
    (named : source.sourceId = .ok subjectId) (created : ∀ run, source = .providerRun run → createdAt = run.runCreatedAt)
    (made : initialCollectionState subjectId createdAt registeredAt policy = .ok start) {world : CollectionWorld}
    (run : CollectionRun policy source (CollectionWorld.initial start registeredAt) world) :
    world.Lifecycle policy source := by
  have consistent := CollectionWorld.run_consistent (initial_consistent named created made) run
  have registered := consistent.registered
  have facts := world.row.state.facts
  refine ⟨transitions_return registered, ?_, ?_, ?_, ?_, ?_, ?_, ?_, ?_, ?_, ?_⟩
  · intro request claim carries wellFormed claimed checkedAt writtenAt ordered
    exact serve_fenced consistent carries wellFormed claimed ordered
  · intro request claim carries checkedAt writtenAt ordered changed
    have claimed : claim.source = source := by
      by_contra foreign
      exact changed (serve_foreign carries foreign)
    rw [holder_iff consistent claimed ordered]
    rcases @serve_spec policy source checkedAt writtenAt world.row registered request with ⟨same, _⟩ | change
    · exact absurd same changed
    · exact (change.holder carries).symm
  · exact ⟨registered.maxAttempts ▸ facts.attempts, facts.generation.symm⟩
  · intro expires member
    rcases facts.lease with ⟨_, _, _, absent⟩ | ⟨_, _, _, _, ⟨_, _, _, present⟩, _, _, _, inTime⟩
    · rw [absent] at member
      cases member
    · rw [present] at member
      exact (Option.some.inj member) ▸ inTime
  · intro next member
    refine ⟨(facts.schedule next member).2, ?_⟩
    intro deferred
    obtain ⟨scheduled, equal, inTime⟩ := consistent.retried deferred
    rw [equal] at member
    exact (Option.some.inj member) ▸ inTime
  · intro claim now reason after applied deferred
    rw [← registered.maxBackoff]
    exact deferral_schedule registered applied deferred
  · exact registered.maxBackoff ▸ facts.backoff
  · rw [consistent.finished]
    split <;> decide
  · exact fun final later run => CollectionWorld.run_final consistent final run
  · exact fun expired later run => CollectionWorld.run_expired consistent expired run

/-- A registration in time returns, as long as the retention stays in the range of the calendar. -/
theorem initialCollectionState_total {deadline evidence tombstone : Instant} (digest : isSha256Hex subjectId = true)
    (window : deadline.micros = createdAt.micros + secondMicros * policy.collectionWindowSeconds)
    (retained : evidence.micros = createdAt.micros + secondMicros * (policy.evidenceDays * daySeconds))
    (buried : tombstone.micros = evidence.micros + secondMicros * policy.tombstoneGraceSeconds)
    (eligible : createdAt ≤ registeredAt ∧ registeredAt < deadline) :
    ∃ start, initialCollectionState subjectId createdAt registeredAt policy = .ok start ∧
      start.nextAttemptAt = some registeredAt := by
  have bounds := policy.bounds
  obtain ⟨hash, hashed, policyDigest⟩ := policy.policyHash_total
  have inOrder : createdAt < deadline ∧ deadline < evidence ∧ evidence < tombstone := by
    simp only [Instant.lt_def, window, retained, buried, secondMicros]
    omega
  have admitted : (pendingFields subjectId hash createdAt registeredAt deadline evidence tombstone policy).Admitted :=
    { subject := digest
      policy := policyDigest
      lifetime := inOrder
      safeRevision := Nat.zero_le _
      attemptBound := bounds.1
      backoffPositive := bounds.2.1.1
      backoffBound := ⟨bounds.2.1.1.trans bounds.2.1.2, bounds.2.2.1⟩
      attempts := Nat.zero_le _
      backoff := bounds.2.1.2
      generation := rfl
      revision := le_rfl
      causes := by simp [CollectionStateFields.CausalHistory, pendingFields]
      lease := .inl ⟨rfl, rfl, rfl, rfl⟩
      schedule := by
        simp only [pendingFields, Option.mem_def, Option.some.injEq, forall_eq']
        exact eligible
      completion := by simp [pendingFields]
      shape := by simp [CollectionStateFields.statusShape, CollectionStateFields.hasLease, pendingFields] }
  obtain ⟨start, made, fields⟩ := make_ok admitted
  refine ⟨start, ?_, by rw [fields]; rfl⟩
  rw [initialCollectionState, addSeconds_eq_ok.mpr window, ok_bind_eq, valueErrorIf_passes (not_not.mpr eligible), ok_bind_eq,
    addSeconds_eq_ok.mpr retained, ok_bind_eq, hashed, ok_bind_eq, addSeconds_eq_ok.mpr buried, ok_bind_eq, made]

namespace Sample

/-- A policy with the shortest times. -/
def shortPolicy : CollectionPolicy :=
  ⟨⟨2, 1, 1, 1, 1, 1, 1⟩, by decide⟩

def zeroDigest : Digest :=
  ⟨List.replicate 64 48, isSha256Hex_zeros⟩

/-- A subject whose retention ends with the year 9999. -/
def lateSource : CollectionSource :=
  .reconciliation zeroDigest zeroDigest

def lateCreation : Instant :=
  ⟨315537811198000000, by decide⟩

def lastInstant : Instant :=
  ⟨315537897599999999, by decide⟩

/-- The second after the creation, in which a lease would last until the deadline. -/
def secondLater : Instant :=
  ⟨315537811199000000, by decide⟩

theorem crowded_registers : (initialCollectionState zeroDigest.text lateCreation secondLater shortPolicy).isOk = true := by
  decide +kernel

theorem late_registration : ∃ start, initialCollectionState zeroDigest.text lateCreation lateCreation shortPolicy =
    .ok start ∧ start.nextAttemptAt = some lateCreation :=
  @initialCollectionState_total shortPolicy zeroDigest.text lateCreation lateCreation ⟨315537811200000000, by decide⟩
    ⟨315537897598000000, by decide⟩ ⟨315537897599000000, by decide⟩ zeroDigest.lowerHex (by decide) (by decide) (by decide)
    (by decide)

end Sample

/-- An acquisition in the last second of the calendar raises, and the lease of a first attempt need not fit. -/
theorem collection_lifecycle_limits : (∃ start,
    initialCollectionState Sample.zeroDigest.text Sample.lateCreation Sample.lateCreation Sample.shortPolicy = .ok start ∧
      Sample.lateCreation ≤ Sample.lastInstant ∧
      acquireCollectionClaim start Sample.lateSource Sample.zeroDigest.text Sample.lastInstant Sample.shortPolicy =
        .error .overflowError) ∧
    ∃ start next,
      initialCollectionState Sample.zeroDigest.text Sample.lateCreation Sample.secondLater Sample.shortPolicy = .ok start ∧
        start.nextAttemptAt = some next ∧
        start.deadlineAt.micros ≤ next.micros + secondMicros * Sample.shortPolicy.leaseSeconds := by
  constructor
  · obtain ⟨start, made, scheduled⟩ := Sample.late_registration
    obtain ⟨registered, pending⟩ := @initial_registered Sample.shortPolicy Sample.lateSource _ _ _ _ rfl
      (fun run impossible => by cases impossible) made
    refine ⟨start, made, by decide, ?_⟩
    have due : start.Due Sample.lastInstant := by
      refine ⟨Or.inl pending, ?_, ?_⟩
      · rintro ⟨leased, _⟩
        rw [pending] at leased
        cases leased
      · rintro ⟨next, member, early⟩
        rw [scheduled] at member
        cases member
        exact absurd early (by decide)
    have beyond : addSeconds Sample.lastInstant Sample.shortPolicy.leaseSeconds = .error .overflowError := by decide
    rw [acquireCollectionClaim, registered.inputs, ok_bind_eq, requireDigest_passes Sample.zeroDigest.lowerHex, ok_bind_eq,
      if_neg (not_not.mpr due), beyond]
    rfl
  · exact ⟨_, Sample.secondLater, eq_ok_returned Sample.crowded_registers, by decide +kernel, by decide +kernel⟩

/-- The worlds of a run in which each request is served at an instant of its own. -/
def CollectionWorld.worldsFrom (policy : CollectionPolicy) (source : CollectionSource) (world : CollectionWorld) :
    List (Instant × (CollectionWorld → CollectionRequest)) → List CollectionWorld
  | [] => [world]
  | (instant, request) :: rest =>
    world :: (world.step policy source (request world) instant instant).worldsFrom policy source rest

theorem CollectionWorld.worldsFrom_run {start world : CollectionWorld}
    {requests : List (Instant × (CollectionWorld → CollectionRequest))} (run : CollectionRun policy source start world)
    (ordered : (world.clock :: requests.map Prod.fst).IsChain (· ≤ ·)) :
    ∀ later ∈ world.worldsFrom policy source requests, CollectionRun policy source start later := by
  induction requests generalizing world with
  | nil =>
    intro later member
    rw [List.mem_singleton.mp member]
    exact run
  | cons served rest ih =>
    obtain ⟨instant, request⟩ := served
    obtain ⟨later, following⟩ := List.isChain_cons_cons.mp ordered
    intro other member
    rcases List.mem_cons.mp member with rfl | member
    · exact run
    · exact ih (.step run (request world) instant instant later le_rfl) following other member

namespace Sample

/-- A policy that leaves time for several attempts. -/
def retryPolicy : CollectionPolicy :=
  ⟨⟨10, 2, 4, 3, 2, 1, 1⟩, by decide⟩

/-- The instants of the second minute of the calendar. -/
def minuteAnd (second : Fin 60) : Instant :=
  ⟨60000000 + 1000000 * second, by have := second.isLt; simp only [instantLimit]; omega⟩

/-- The instant at which the evidence may go. -/
def dayLater : Instant :=
  ⟨60000000 + 86400000000, by decide⟩

theorem retry_registers : (initialCollectionState zeroDigest.text (minuteAnd 0) (minuteAnd 0) retryPolicy).isOk = true := by
  decide +kernel

def retryStart : CollectionState :=
  returned _ retry_registers

/-- The request of the worker that received the claim of the given age. -/
def withClaim (age : Nat) (request : CollectionClaim → CollectionRequest) (world : CollectionWorld) : CollectionRequest :=
  match world.issued[age]? with
  | some claim => request claim
  | none => .expireEvidence

/-- A first attempt is deferred, a second one captures between two calls of the first worker, and the evidence expires. -/
def retryRequests : List (Instant × (CollectionWorld → CollectionRequest)) :=
  [(minuteAnd 0, fun _ => .claimNext zeroDigest.text),
    (minuteAnd 1, withClaim 0 (.deferClaim · .providerNotTerminal)),
    (minuteAnd 4, fun _ => .claimNext zeroDigest.text),
    (minuteAnd 5, withClaim 1 (.rejectClaim ·)),
    (minuteAnd 5, withClaim 0 (.recordSnapshot · true)),
    (minuteAnd 5, withClaim 1 (.rejectClaim ·)),
    (dayLater, fun _ => .expireEvidence)]

def retryWorlds : List CollectionWorld :=
  (CollectionWorld.initial retryStart (minuteAnd 0)).worldsFrom retryPolicy lateSource retryRequests

end Sample

/-- Every world of a run with a retry and a stale worker satisfies the lifecycle. -/
theorem collection_lifecycle_retry :
    (Sample.retryWorlds.map fun world => (world.row.state.status, world.row.state.attemptCount)) =
      [(.pending, 0), (.leased, 1), (.deferred, 1), (.leased, 2), (.leased, 2), (.captured, 2), (.captured, 2),
        (.expired, 2)] ∧
      ∀ world ∈ Sample.retryWorlds, world.Lifecycle Sample.retryPolicy Sample.lateSource := by
  refine ⟨by decide +kernel, ?_⟩
  intro world member
  have run := CollectionWorld.worldsFrom_run .start (by decide +kernel) world member
  exact collection_lifecycle rfl (fun run impossible => by cases impossible) (eq_ok_returned Sample.retry_registers) run

end CiCoordinator.Persistence

import CiCoordinator.CiEconomics.HistoryRechecks

/- The queue of rechecks loses no attempt, and what merges of hints agree on. -/

namespace CiCoordinator.CiEconomics

open Library Kernel ConfigControl HistoryAttemptCursorFields List Option

/-- What the constructor of a recheck checks. -/
structure HistoryRecheckStateFields.Admitted (fields : HistoryRecheckStateFields) : Prop where
  generation : 1 ≤ fields.generation ∧ fields.generation ≤ maxSafeJsonInteger
  revision : 1 ≤ fields.revision ∧ fields.revision ≤ maxSafeJsonInteger
  attempt : 1 ≤ fields.nextAttempt ∧ fields.nextAttempt ≤ maxSafeJsonInteger
  interval : fields.hint.cursor.nextAttempt ≤ fields.nextAttempt ∧ fields.nextAttempt ≤ fields.hint.cursor.latestAttempt
  budget : 0 ≤ fields.acquisitionCount ∧ fields.acquisitionCount ≤ maxHistoryRecheckAcquisitions
  recovery : fields.acquisitionCount = maxHistoryRecheckAcquisitions → fields.lease ≠ none
  counted : fields.acquisitionCount < fields.revision
  created : fields.hint.runCreatedAt ≤ fields.nextAttemptAt
  leased : ∀ lease ∈ fields.lease, fields.acquisitionCount ≠ 0 ∧ fields.nextAttemptAt ≤ lease.acquiredAt

theorem HistoryRecheckStateFields.postInit_eq_ok (fields : HistoryRecheckStateFields) :
    fields.postInit = .ok () ↔ fields.Admitted := by
  simp only [postInit, bind_unit_eq_ok, forEach_eq_ok, mem_cons, not_mem_nil, or_false, forall_eq_or_imp,
    forall_eq, positiveId_eq_ok, raiseIf_eq_ok, not_not, not_lt, not_le]
  constructor
  · rintro ⟨⟨generation, revision, attempt⟩, interval, budget, recovery, counted, created, leased⟩
    refine ⟨generation, revision, attempt, interval, budget, fun spent unleased => recovery ⟨spent, unleased⟩, counted,
      created, fun lease held => ⟨fun idle => leased ⟨lease, held, .inl idle⟩, ?_⟩⟩
    exact not_lt.mp fun early => leased ⟨lease, held, .inr early⟩
  · intro admitted
    refine ⟨⟨admitted.generation, admitted.revision, admitted.attempt⟩, admitted.interval, admitted.budget,
      fun exhausted => admitted.recovery exhausted.1 exhausted.2, admitted.counted, admitted.created, ?_⟩
    rintro ⟨lease, held, refused⟩
    obtain ⟨counted, eligible⟩ := admitted.leased lease held
    exact refused.elim counted (not_lt.mpr eligible)

theorem HistoryAttemptCursor.remake {cursor : HistoryAttemptCursor} {fields : HistoryAttemptCursorFields}
    (same : fields = cursor.toHistoryAttemptCursorFields) : HistoryAttemptCursor.make fields = .ok cursor := by
  subst same
  exact construct_ok cursor.admitted

theorem HistoryRecheckHint.remake {hint : HistoryRecheckHint} {fields : HistoryRecheckHintFields}
    (same : fields = hint.toHistoryRecheckHintFields) : HistoryRecheckHint.make fields = .ok hint := by
  subst same
  exact construct_ok hint.admitted

namespace HistoryRecheckState

theorem facts (state : HistoryRecheckState) : state.Admitted :=
  (HistoryRecheckStateFields.postInit_eq_ok _).mp state.admitted

theorem make_ok {fields : HistoryRecheckStateFields} (admitted : fields.Admitted) :
    ∃ state, HistoryRecheckState.make fields = .ok state :=
  ⟨⟨fields, (HistoryRecheckStateFields.postInit_eq_ok _).mpr admitted⟩, construct_ok _⟩

theorem make_eq_ok {fields : HistoryRecheckStateFields} {state : HistoryRecheckState}
    (made : HistoryRecheckState.make fields = .ok state) : state.toHistoryRecheckStateFields = fields := by
  obtain ⟨passed, rfl⟩ := construct_eq_ok.mp made
  rfl

end HistoryRecheckState

section Merges

variable {state merged : HistoryRecheckState} {hint : HistoryRecheckHint} {revisitCompleted : Bool}

/-- What a merge leads to. -/
structure Merged (state : HistoryRecheckState) (hint : HistoryRecheckHint) (revisitCompleted : Bool)
    (merged : HistoryRecheckState) : Prop where
  allowed : ¬ (revisitCompleted = true ∧ hint.source ≠ .repair)
  identity : hint.identity = state.hint.identity
  cursor : merged.hint.cursor.toHistoryAttemptCursorFields = mergedCursorFields state.hint.cursor hint.cursor
  source : merged.hint.source = mergedSource state.hint.source hint.source
  workflow : merged.hint.workflowId = state.hint.workflowId
  created : merged.hint.runCreatedAt = state.hint.runCreatedAt
  nextAttempt : merged.nextAttempt = mergedAttempt state hint revisitCompleted

theorem merge_facts (computed : mergeHistoryRecheckHint state hint revisitCompleted = .ok merged) :
    Merged state hint revisitCompleted merged := by
  rw [mergeHistoryRecheckHint] at computed
  simp only [bind_eq_ok, raiseIf_eq_ok, exists_const, not_not] at computed
  obtain ⟨allowed, identity, cursor, cursorMade, joined, hintMade, computed⟩ := computed
  obtain ⟨_, rfl⟩ := construct_eq_ok.mp cursorMade
  obtain ⟨_, rfl⟩ := construct_eq_ok.mp hintMade
  split at computed
  · rename_i unchanged
    cases computed
    obtain ⟨sameHint, sameAttempt⟩ := unchanged
    exact ⟨allowed, identity, (congrArg (·.cursor.toHistoryAttemptCursorFields) sameHint).symm,
      (congrArg (·.source) sameHint).symm, rfl, rfl, sameAttempt.symm⟩
  · obtain ⟨_, made⟩ := bind_unit_eq_ok.mp computed
    obtain ⟨_, rfl⟩ := construct_eq_ok.mp made
    exact ⟨allowed, identity, rfl, rfl, rfl, rfl, rfl⟩

theorem mergedCursorFields_admitted (old new : HistoryAttemptCursor) : (mergedCursorFields old new).postInit = .ok () := by
  have first := (postInit_eq_ok _).mp old.admitted
  have second := (postInit_eq_ok _).mp new.admitted
  rw [postInit_eq_ok]
  show _ ∧ (1 ≤ max old.latestAttempt new.latestAttempt ∧ max old.latestAttempt new.latestAttempt ≤ _) ∧
    (1 ≤ min old.nextAttempt new.nextAttempt ∧ min old.nextAttempt new.nextAttempt ≤ _) ∧
      min old.nextAttempt new.nextAttempt ≤ max old.latestAttempt new.latestAttempt
  refine ⟨first.1, ?_⟩
  omega

theorem mergedSource_repeated (old new : HistoryRecheckSource) : mergedSource (mergedSource old new) new = mergedSource old new := by
  cases old <;> cases new <;> rfl

theorem mergedSource_comm (old first second : HistoryRecheckSource) :
    mergedSource (mergedSource old first) second = mergedSource (mergedSource old second) first := by
  cases old <;> cases first <;> cases second <;> rfl

namespace Merged

variable (facts : Merged state hint revisitCompleted merged)
include facts

theorem lower : merged.hint.cursor.nextAttempt = min state.hint.cursor.nextAttempt hint.cursor.nextAttempt :=
  congrArg HistoryAttemptCursorFields.nextAttempt facts.cursor

theorem latest : merged.hint.cursor.latestAttempt = max state.hint.cursor.latestAttempt hint.cursor.latestAttempt :=
  congrArg HistoryAttemptCursorFields.latestAttempt facts.cursor

theorem sameIdentity : merged.hint.identity = state.hint.identity := by
  have scope := congrArg HistoryAttemptCursorFields.scope facts.cursor
  have run := congrArg HistoryAttemptCursorFields.workflowRunId facts.cursor
  rw [HistoryRecheckHint.identity, scope, run, facts.workflow, facts.created]
  rfl

/-- The first pending attempt of a merge is at most the one before. -/
theorem nextAttempt_le : merged.nextAttempt ≤ state.nextAttempt := by
  rw [facts.nextAttempt, mergedAttempt]
  split_ifs
  · exact min_le_left _ _
  · exact le_refl _

/-- A merge keeps every pending attempt pending. -/
theorem keeps {attempt : Int} (pending : state.nextAttempt ≤ attempt ∧ attempt ≤ state.hint.cursor.latestAttempt) :
    merged.nextAttempt ≤ attempt ∧ attempt ≤ merged.hint.cursor.latestAttempt := by
  rw [facts.latest]
  exact ⟨facts.nextAttempt_le.trans pending.1, pending.2.trans (le_max_left _ _)⟩

/-- An attempt of the hint is pending after the merge, or it lies before the first pending attempt of the old interval. -/
theorem admits {attempt : Int} (asked : hint.cursor.nextAttempt ≤ attempt ∧ attempt ≤ hint.cursor.latestAttempt) :
    (merged.nextAttempt ≤ attempt ∧ attempt ≤ merged.hint.cursor.latestAttempt) ∨
      (state.hint.cursor.nextAttempt ≤ attempt ∧ attempt < state.nextAttempt) := by
  have latest := facts.latest
  have next := facts.nextAttempt
  rw [mergedAttempt] at next
  split_ifs at next with rewound
  · omega
  · omega

/-- What was done before the first pending attempt of a merge was done before the old one. -/
theorem done {attempt : Int} (earlier : merged.hint.cursor.nextAttempt ≤ attempt ∧ attempt < merged.nextAttempt) :
    state.hint.cursor.nextAttempt ≤ attempt ∧ attempt < state.nextAttempt := by
  have lower := facts.lower
  have next := facts.nextAttempt
  rw [mergedAttempt] at next
  split_ifs at next with rewound
  · omega
  · omega

theorem mergedCursor_repeated :
    mergedCursorFields merged.hint.cursor hint.cursor = merged.hint.cursor.toHistoryAttemptCursorFields := by
  have lower : min merged.hint.cursor.nextAttempt hint.cursor.nextAttempt = merged.hint.cursor.nextAttempt := by
    rw [facts.lower, min_assoc, min_self]
  have latest : max merged.hint.cursor.latestAttempt hint.cursor.latestAttempt = merged.hint.cursor.latestAttempt := by
    rw [facts.latest, max_assoc, max_self]
  rw [mergedCursorFields, lower, latest]

theorem mergedAttempt_repeated : mergedAttempt merged hint revisitCompleted = merged.nextAttempt := by
  have lower := facts.lower
  have next := facts.nextAttempt
  rw [mergedAttempt] at next ⊢
  split_ifs at next ⊢ with again first
  · omega
  · obtain revisits | below := again
    · exact (first (.inl revisits)).elim
    · omega
  · omega
  · rfl

/-- A merge that is done twice changes nothing the second time. -/
theorem repeated : mergeHistoryRecheckHint merged hint revisitCompleted = .ok merged := by
  have source : mergedSource merged.hint.source hint.source = merged.hint.source := by
    rw [facts.source, mergedSource_repeated]
  have identity : hint.identity = merged.hint.identity := facts.identity.trans facts.sameIdentity.symm
  have cursorMade := HistoryAttemptCursor.remake facts.mergedCursor_repeated
  have hintMade : HistoryRecheckHint.make { merged.hint.toHistoryRecheckHintFields with
        cursor := merged.hint.cursor, source := mergedSource merged.hint.source hint.source } = .ok merged.hint := by
    rw [source]
    exact HistoryRecheckHint.remake rfl
  rw [mergeHistoryRecheckHint, valueErrorIf_passes facts.allowed, ok_bind_eq, valueErrorIf_passes (not_not.mpr identity),
    ok_bind_eq, cursorMade, ok_bind_eq, hintMade, ok_bind_eq]
  exact if_pos ⟨rfl, facts.mergedAttempt_repeated⟩

end Merged

/-- Two merges agree in either order on the interval, the source and the first pending attempt. -/
theorem merged_comm {first second : HistoryRecheckHint} {firstRevisits secondRevisits : Bool}
    {left right leftRight rightLeft : HistoryRecheckState} (one : Merged state first firstRevisits left)
    (two : Merged left second secondRevisits leftRight) (three : Merged state second secondRevisits right)
    (four : Merged right first firstRevisits rightLeft) :
    (leftRight.hint.cursor.toHistoryAttemptCursorFields = rightLeft.hint.cursor.toHistoryAttemptCursorFields ∧
      leftRight.hint.source = rightLeft.hint.source) ∧ leftRight.nextAttempt = rightLeft.nextAttempt := by
  refine ⟨⟨?_, ?_⟩, ?_⟩
  · rw [two.cursor, four.cursor, mergedCursorFields, mergedCursorFields, one.cursor, three.cursor]
    show HistoryAttemptCursorFields.mk _ _ _ _ = HistoryAttemptCursorFields.mk _ _ _ _
    rw [HistoryAttemptCursorFields.mk.injEq]
    exact ⟨rfl, rfl, max_right_comm _ _ _, min_right_comm _ _ _⟩
  · rw [two.source, four.source, one.source, three.source, mergedSource_comm]
  · have lowerLeft := one.lower
    have lowerRight := three.lower
    have nextLeft := one.nextAttempt
    have nextRight := three.nextAttempt
    rw [two.nextAttempt, four.nextAttempt]
    rw [mergedAttempt] at nextLeft nextRight ⊢
    rw [mergedAttempt]
    cases firstRevisits <;> cases secondRevisits <;>
      simp only [Bool.false_eq_true, false_or, true_or, if_true] at nextLeft nextRight ⊢
    · split_ifs at nextLeft nextRight ⊢ <;> omega
    · split_ifs at nextLeft ⊢ <;> omega
    · split_ifs at nextRight ⊢ <;> omega
    · omega

end Merges

section Operations

variable {dataset : HistoryDataset} {state : HistoryRecheckState} {now : Instant}
variable {outcome : HistoryRecheckOutcome}

theorem datasetAdmits_total (dataset : HistoryDataset) (state : HistoryRecheckState) (now : Instant) :
    ∃ admits, datasetAdmits dataset state now = .ok admits := by
  have workflow := positiveId_eq_ok.mp state.hint.admitted
  rw [datasetAdmits]
  split
  · exact HistoryConfiguration.selects_total _ workflow
  · exact ⟨false, rfl⟩

/-- A dataset admits no recheck before the run was created. -/
theorem created_of_admits (admits : datasetAdmits dataset state now = .ok true) : state.hint.runCreatedAt ≤ now := by
  rw [datasetAdmits] at admits
  split at admits
  · rename_i authority
    exact authority.2.2.2.2
  · cases admits

theorem initial_facts {hint : HistoryRecheckHint} {started : HistoryRecheckState}
    (computed : initialHistoryRecheck dataset hint now = .ok (some started)) :
    started.hint = hint ∧ started.nextAttempt = hint.cursor.nextAttempt := by
  rw [initialHistoryRecheck] at computed
  split at computed
  · cases computed
  · obtain ⟨made, built, computed⟩ := bind_eq_ok.mp computed
    obtain ⟨admits, _, returned⟩ := bind_eq_ok.mp computed
    obtain ⟨_, rfl⟩ := construct_eq_ok.mp built
    split at returned
    · cases returned
      exact ⟨rfl, rfl⟩
    · cases returned

theorem initial_total (dataset : HistoryDataset) (hint : HistoryRecheckHint) (now : Instant) :
    ∃ answer, initialHistoryRecheck dataset hint now = .ok answer := by
  rw [initialHistoryRecheck]
  split
  · exact ⟨none, rfl⟩
  · rename_i created
    have cursor := (postInit_eq_ok _).mp hint.cursor.admitted
    have generation := dataset.admitted
    simp only [HistoryDatasetFields.postInit, bind_unit_eq_ok, forEach_eq_ok, mem_cons, forall_eq_or_imp,
      positiveId_eq_ok] at generation
    have firstRevision : (1 : Int) ≤ 1 ∧ (1 : Int) ≤ maxSafeJsonInteger := by decide
    have unspent : ((0 : Int) ≤ 0 ∧ 0 ≤ maxHistoryRecheckAcquisitions) ∧ (0 : Int) ≠ maxHistoryRecheckAcquisitions := by decide
    obtain ⟨started, made⟩ := @HistoryRecheckState.make_ok ⟨hint, dataset.generation, 1, hint.cursor.nextAttempt, now, 0, none⟩
      ⟨generation.1.1, firstRevision, cursor.2.2.1, ⟨le_refl _, cursor.2.2.2⟩, unspent.1, fun spent => (unspent.2 spent).elim,
        Int.zero_lt_one, not_lt.mp created, by simp⟩
    obtain ⟨admits, admitted⟩ := datasetAdmits_total dataset started now
    rw [made, ok_bind_eq, admitted]
    exact ⟨_, rfl⟩

/-- An acquisition changes neither the interval nor the first pending attempt. -/
theorem acquire_facts {workerId token : Text} {claim : HistoryRecheckClaim}
    (computed : acquireHistoryRecheck dataset state now workerId token = .ok (some claim)) :
    claim.state.hint = state.hint ∧ claim.state.nextAttempt = state.nextAttempt := by
  obtain ⟨_, _, computed⟩ := bind_eq_ok.mp computed
  obtain ⟨_, _, computed⟩ := bind_eq_ok.mp computed
  obtain ⟨_, _, computed⟩ := bind_eq_ok.mp computed
  split at computed
  · cases computed
  · obtain ⟨_, _, computed⟩ := bind_eq_ok.mp computed
    obtain ⟨_, _, computed⟩ := bind_eq_ok.mp computed
    obtain ⟨leased, made, computed⟩ := bind_eq_ok.mp computed
    obtain ⟨built, claimed, returned⟩ := bind_eq_ok.mp computed
    cases returned
    obtain ⟨_, rfl⟩ := construct_eq_ok.mp claimed
    obtain ⟨_, rfl⟩ := construct_eq_ok.mp made
    exact ⟨rfl, rfl⟩

theorem acquire_total {workerId token : Text} (worker : isSha256Hex workerId = true) (secret : isSha256Hex token = true)
    (inRange : now.micros + secondMicros * observationLeaseSeconds < instantLimit) :
    ∃ answer, acquireHistoryRecheck dataset state now workerId token = .ok answer := by
  obtain ⟨admits, admitted⟩ := datasetAdmits_total dataset state now
  rw [acquireHistoryRecheck, observationDigest_passes worker, ok_bind_eq, observationDigest_passes secret, ok_bind_eq,
    admitted, ok_bind_eq]
  split
  · exact ⟨none, rfl⟩
  · rename_i due
    simp only [not_or, not_lt] at due
    obtain ⟨_, eligible, _, budget, room⟩ := due
    have facts := state.facts
    obtain ⟨expires, sum⟩ : ∃ expires : Instant, expires.micros = now.micros + secondMicros * observationLeaseSeconds :=
      ⟨⟨_, inRange⟩, rfl⟩
    have leaseAdmitted : ObservationLeaseFields.postInit ⟨workerId, token, now, expires⟩ = .ok () :=
      (ObservationLeaseFields.postInit_eq_ok _).mpr ⟨worker, secret, sum⟩
    have within := facts.budget
    have counted := facts.counted
    obtain ⟨leased, made⟩ := @HistoryRecheckState.make_ok { state.toHistoryRecheckStateFields with
        revision := state.revision + 1
        acquisitionCount := state.acquisitionCount + 1
        lease := some ⟨⟨workerId, token, now, expires⟩, leaseAdmitted⟩ }
      ⟨facts.generation, by simp only; omega, facts.attempt, facts.interval, by simp only; omega, fun _ => by simp,
        by simp only; omega, facts.created, by
          simp only [mem_def, some.injEq, forall_eq']
          exact ⟨by omega, eligible⟩⟩
    have leasedLease : leased.lease ≠ none := by
      rw [HistoryRecheckState.make_eq_ok made]
      simp
    have configuration := dataset.admitted
    simp only [HistoryDatasetFields.postInit, bind_unit_eq_ok, forEach_eq_ok, mem_cons, forall_eq_or_imp,
      positiveId_eq_ok] at configuration
    have claimAdmitted : HistoryRecheckClaimFields.postInit ⟨leased, dataset.configurationRevision⟩ = .ok () := by
      simp only [HistoryRecheckClaimFields.postInit, bind_unit_eq_ok, raiseIf_eq_ok, positiveId_eq_ok]
      exact ⟨leasedLease, configuration.1.2.1⟩
    rw [addSeconds_eq_ok.mpr sum, ok_bind_eq, ObservationLease.make, construct_ok leaseAdmitted, ok_bind_eq, made,
      ok_bind_eq, HistoryRecheckClaim.make, construct_ok claimAdmitted]
    exact ⟨_, rfl⟩

/-- The outcomes that end the recheck of an attempt. -/
def HistoryRecheckOutcome.Leaves (outcome : HistoryRecheckOutcome) : Prop :=
  outcome ∈ [HistoryRecheckOutcome.recorded, .unavailable, .retryExhausted]

instance decidableLeaves : DecidablePred HistoryRecheckOutcome.Leaves := fun outcome =>
  inferInstanceAs (Decidable (outcome ∈ [HistoryRecheckOutcome.recorded, .unavailable, .retryExhausted]))

theorem exhausted_leaves : HistoryRecheckOutcome.retryExhausted.Leaves := by
  decide

theorem deferred_stays : ¬ HistoryRecheckOutcome.deferred.Leaves := by
  decide

theorem stays_of_pending (pending : outcome ∈ [HistoryRecheckOutcome.deferred, .capacityReached, .waiting]) :
    ¬ outcome.Leaves := by
  cases outcome <;> revert pending <;> decide

theorem leaves_of_done (supported : outcome ≠ .retryExhausted)
    (spent : outcome ∉ [HistoryRecheckOutcome.capacityReached, .waiting]) (done : outcome ≠ .deferred) : outcome.Leaves := by
  cases outcome <;> revert supported spent done <;> decide

/-- What a transition does to the first pending attempt of a state. -/
inductive Settles (state : HistoryRecheckState) : Option HistoryRecheckState → HistoryRecheckOutcome → Prop
  | completed {outcome : HistoryRecheckOutcome} (leaves : outcome.Leaves)
      (last : state.nextAttempt = state.hint.cursor.latestAttempt) : Settles state none outcome
  | advanced {outcome : HistoryRecheckOutcome} {successor : HistoryRecheckState} (leaves : outcome.Leaves)
      (hint : successor.hint = state.hint) (next : successor.nextAttempt = state.nextAttempt + 1) :
      Settles state (some successor) outcome
  | kept {outcome : HistoryRecheckOutcome} {successor : HistoryRecheckState} (stays : ¬ outcome.Leaves)
      (hint : successor.hint = state.hint) (next : successor.nextAttempt = state.nextAttempt) :
      Settles state (some successor) outcome

theorem advance_settles {successor : Option HistoryRecheckState} (leaves : outcome.Leaves)
    (computed : advanceHistoryRecheck state now = .ok successor) : Settles state successor outcome := by
  rw [advanceHistoryRecheck] at computed
  split at computed
  · rename_i last
    cases computed
    exact .completed leaves last
  · obtain ⟨made, built, returned⟩ := bind_eq_ok.mp computed
    cases returned
    obtain ⟨_, rfl⟩ := construct_eq_ok.mp built
    exact .advanced leaves rfl rfl

theorem release_settles {count : Int} {seconds : Nat} {successor : HistoryRecheckState} (stays : ¬ outcome.Leaves)
    (computed : releaseHistoryRecheck state now count seconds = .ok successor) :
    Settles state (some successor) outcome := by
  obtain ⟨_, _, made⟩ := bind_eq_ok.mp computed
  obtain ⟨_, rfl⟩ := construct_eq_ok.mp made
  exact .kept stays rfl rfl

/-- A transition settles what the move of the state before it settles. -/
theorem settles_of_move {A : Type} {moved : Py A} {successor : A → Option HistoryRecheckState}
    {transition : HistoryRecheckTransition} (settles : ∀ value, moved = .ok value → Settles state (successor value) outcome)
    (computed : (do
      let value ← moved
      some <$> HistoryRecheckTransition.make ⟨successor value, outcome⟩) = .ok (some transition)) :
    Settles state transition.successor transition.outcome := by
  obtain ⟨value, moved, computed⟩ := bind_eq_ok.mp computed
  obtain ⟨made, built, returned⟩ := map_eq_ok.mp computed
  cases returned
  obtain ⟨_, rfl⟩ := construct_eq_ok.mp built
  exact settles value moved

/-- A completion settles the first pending attempt. -/
theorem finish_settles {claim : HistoryRecheckClaim} {jitterSeconds : Int} {transition : HistoryRecheckTransition}
    (computed : finishHistoryRecheck dataset state claim now outcome jitterSeconds = .ok (some transition)) :
    Settles state transition.successor transition.outcome := by
  rw [finishHistoryRecheck] at computed
  simp only [bind_eq_ok, raiseIf_eq_ok, exists_const] at computed
  obtain ⟨supported, _, current, _, computed⟩ := computed
  split at computed
  · cases computed
  · split at computed
    · rename_i refunded
      exact settles_of_move (fun _ => release_settles (stays_of_pending (mem_cons_of_mem _ refunded))) computed
    · rename_i spent
      split at computed
      · rename_i done
        exact settles_of_move (fun _ => advance_settles (leaves_of_done supported spent done)) computed
      · split at computed
        · exact settles_of_move (fun _ => advance_settles exhausted_leaves) computed
        · exact settles_of_move (fun _ => release_settles deferred_stays) computed

theorem recover_settles {transition : HistoryRecheckTransition}
    (computed : recoverExhaustedHistoryRecheck dataset state now = .ok (some transition)) :
    Settles state transition.successor transition.outcome := by
  obtain ⟨_, _, computed⟩ := bind_eq_ok.mp computed
  split at computed
  · cases computed
  · exact settles_of_move (fun _ => advance_settles exhausted_leaves) computed

end Operations

section Totality

variable {dataset : HistoryDataset} {state : HistoryRecheckState} {now : Instant}
variable {outcome : HistoryRecheckOutcome}

/-- A merge of a hint of the run returns below the revision reserve. -/
theorem merge_total {hint : HistoryRecheckHint} {revisitCompleted : Bool}
    (allowed : ¬ (revisitCompleted = true ∧ hint.source ≠ .repair)) (identity : hint.identity = state.hint.identity)
    (reserve : state.revision < maxSafeJsonInteger - 1) :
    ∃ merged, mergeHistoryRecheckHint state hint revisitCompleted = .ok merged := by
  have cursorMade : HistoryAttemptCursor.make (mergedCursorFields state.hint.cursor hint.cursor) =
      .ok ⟨_, mergedCursorFields_admitted _ _⟩ := construct_ok _
  obtain ⟨joined, hintMade, joinedCursor, joinedCreated⟩ : ∃ joined, HistoryRecheckHint.make
      { state.hint.toHistoryRecheckHintFields with
        cursor := ⟨_, mergedCursorFields_admitted state.hint.cursor hint.cursor⟩
        source := mergedSource state.hint.source hint.source } = .ok joined ∧
      joined.cursor.toHistoryAttemptCursorFields = mergedCursorFields state.hint.cursor hint.cursor ∧
      joined.runCreatedAt = state.hint.runCreatedAt :=
    ⟨⟨⟨⟨_, mergedCursorFields_admitted state.hint.cursor hint.cursor⟩, state.hint.workflowId, state.hint.runCreatedAt,
      mergedSource state.hint.source hint.source⟩, state.hint.admitted⟩, construct_ok _, rfl, rfl⟩
  rw [mergeHistoryRecheckHint, valueErrorIf_passes allowed, ok_bind_eq, valueErrorIf_passes (not_not.mpr identity),
    ok_bind_eq, cursorMade, ok_bind_eq, hintMade, ok_bind_eq]
  dsimp only
  split
  · exact ⟨state, rfl⟩
  · rw [valueErrorIf_passes (not_le.mpr reserve), ok_bind_eq]
    have lower : joined.cursor.nextAttempt = min state.hint.cursor.nextAttempt hint.cursor.nextAttempt :=
      congrArg HistoryAttemptCursorFields.nextAttempt joinedCursor
    have latest : joined.cursor.latestAttempt = max state.hint.cursor.latestAttempt hint.cursor.latestAttempt :=
      congrArg HistoryAttemptCursorFields.latestAttempt joinedCursor
    have facts := state.facts
    have interval := facts.interval
    have attempt := facts.attempt
    have budget := facts.budget
    have counted := facts.counted
    have cursor := (postInit_eq_ok _).mp hint.cursor.admitted
    have bounds : min state.hint.cursor.nextAttempt hint.cursor.nextAttempt ≤ mergedAttempt state hint revisitCompleted ∧
        mergedAttempt state hint revisitCompleted ≤ state.nextAttempt := by
      rw [mergedAttempt]
      split_ifs <;> omega
    have positive : 1 ≤ mergedAttempt state hint revisitCompleted := by
      have lower := (postInit_eq_ok _).mp state.hint.cursor.admitted
      omega
    apply HistoryRecheckState.make_ok
    refine ⟨facts.generation, ?_, ⟨positive, ?_⟩, ⟨lower.trans_le bounds.1, ?_⟩, ?_, ?_, ?_,
      joinedCreated.trans_le facts.created, ?_⟩
    · show 1 ≤ state.revision + 1 ∧ state.revision + 1 ≤ _
      omega
    · exact bounds.2.trans attempt.2
    · exact ((bounds.2.trans interval.2).trans (le_max_left _ _)).trans_eq latest.symm
    · dsimp only
      split_ifs
      · decide
      · exact budget
    · split_ifs
      · intro spent
        cases spent
      · exact facts.recovery
    · dsimp only
      split_ifs
      · omega
      · omega
    · split_ifs
      · simp
      · exact facts.leased

theorem advance_total (room : state.revision < maxSafeJsonInteger) (created : state.hint.runCreatedAt ≤ now) :
    ∃ successor, advanceHistoryRecheck state now = .ok successor := by
  rw [advanceHistoryRecheck]
  split
  · exact ⟨none, rfl⟩
  · have facts := state.facts
    have revision := facts.revision
    have interval := facts.interval
    have cursor := (postInit_eq_ok _).mp state.hint.cursor.admitted
    obtain ⟨successor, made⟩ := @HistoryRecheckState.make_ok { state.toHistoryRecheckStateFields with
        revision := state.revision + 1
        nextAttempt := state.nextAttempt + 1
        nextAttemptAt := now
        acquisitionCount := 0
        lease := none }
      ⟨facts.generation, by dsimp only; omega, by dsimp only; omega, by dsimp only; omega, by dsimp only; decide,
        fun spent => absurd spent (show (0 : Int) ≠ maxHistoryRecheckAcquisitions by decide), by dsimp only; omega, created,
        by simp⟩
    rw [made]
    exact ⟨some successor, rfl⟩

theorem release_total {count : Int} {seconds : Nat} (room : state.revision < maxSafeJsonInteger)
    (created : state.hint.runCreatedAt ≤ now) (budget : 0 ≤ count ∧ count < maxHistoryRecheckAcquisitions)
    (counted : count ≤ state.acquisitionCount) (inRange : now.micros + secondMicros * seconds < instantLimit) :
    ∃ successor, releaseHistoryRecheck state now count seconds = .ok successor ∧ successor.lease = none := by
  obtain ⟨later, sum⟩ : ∃ later : Instant, later.micros = now.micros + secondMicros * seconds := ⟨⟨_, inRange⟩, rfl⟩
  have facts := state.facts
  have before := facts.counted
  have delayed : state.hint.runCreatedAt ≤ later := by
    rw [Instant.le_def] at created ⊢
    omega
  obtain ⟨successor, made⟩ := @HistoryRecheckState.make_ok { state.toHistoryRecheckStateFields with
      revision := state.revision + 1
      lease := none
      acquisitionCount := count
      nextAttemptAt := later }
    ⟨facts.generation, by dsimp only; omega, facts.attempt, facts.interval, ⟨budget.1, budget.2.le⟩,
      fun spent => (budget.2.ne spent).elim, by dsimp only; omega, delayed, by simp⟩
  refine ⟨successor, ?_, congrArg HistoryRecheckStateFields.lease (HistoryRecheckState.make_eq_ok made)⟩
  rw [releaseHistoryRecheck, addSeconds_eq_ok.mpr sum, ok_bind_eq, made]

theorem transition_total {successor : Option HistoryRecheckState} (unleased : ∀ state ∈ successor, state.lease = none)
    (deferred : outcome ∈ [HistoryRecheckOutcome.deferred, .capacityReached, .waiting] → successor ≠ none) :
    ∃ answer, some <$> HistoryRecheckTransition.make ⟨successor, outcome⟩ = .ok answer := by
  have passed : HistoryRecheckTransitionFields.postInit ⟨successor, outcome⟩ = .ok () := by
    rw [HistoryRecheckTransitionFields.postInit, bind_unit_eq_ok]
    refine ⟨valueErrorIf_passes ?_, valueErrorIf_passes ?_⟩
    · rintro ⟨state, found, leased⟩
      exact leased (unleased state found)
    · rintro ⟨pending, deleted⟩
      exact deferred pending deleted
  exact ⟨some ⟨_, passed⟩, map_eq_ok.mpr ⟨⟨_, passed⟩, construct_ok passed, rfl⟩⟩

theorem advance_unleased {successor : Option HistoryRecheckState} (computed : advanceHistoryRecheck state now = .ok successor) :
    ∀ next ∈ successor, next.lease = none := by
  rw [advanceHistoryRecheck] at computed
  split at computed
  · cases computed
    simp
  · obtain ⟨made, built, returned⟩ := bind_eq_ok.mp computed
    cases returned
    intro next found
    cases found
    obtain ⟨_, rfl⟩ := construct_eq_ok.mp built
    rfl

/-- A completion that leaves the attempt returns its transition. -/
theorem advance_transition_total (leaves : outcome.Leaves) (room : state.revision < maxSafeJsonInteger)
    (created : state.hint.runCreatedAt ≤ now) :
    ∃ answer, (do
      let successor ← advanceHistoryRecheck state now
      some <$> HistoryRecheckTransition.make ⟨successor, outcome⟩) = .ok answer := by
  obtain ⟨successor, advanced⟩ := advance_total room created
  rw [advanced, ok_bind_eq]
  exact transition_total (advance_unleased advanced) fun pending => absurd leaves (stays_of_pending pending)

theorem recover_total (dataset : HistoryDataset) (state : HistoryRecheckState) (now : Instant) :
    ∃ answer, recoverExhaustedHistoryRecheck dataset state now = .ok answer := by
  obtain ⟨admits, admitted⟩ := datasetAdmits_total dataset state now
  rw [recoverExhaustedHistoryRecheck, admitted, ok_bind_eq]
  split
  · exact ⟨none, rfl⟩
  · rename_i due
    simp only [not_or] at due
    have authority : admits = true := by simpa using due.1
    rw [authority] at admitted
    have revision := state.facts.revision
    exact advance_transition_total exhausted_leaves (by omega) (created_of_admits admitted)

theorem finish_total {claim : HistoryRecheckClaim} {jitterSeconds : Int} (supported : outcome ≠ .retryExhausted)
    (jitter : 0 ≤ jitterSeconds ∧ jitterSeconds ≤ maxHistoryRecheckJitterSeconds)
    (inRange : now.micros + secondMicros * 180 < instantLimit) :
    ∃ answer, finishHistoryRecheck dataset state claim now outcome jitterSeconds = .ok answer := by
  obtain ⟨admits, admitted⟩ := datasetAdmits_total dataset state now
  rw [finishHistoryRecheck, valueErrorIf_passes supported, ok_bind_eq, valueErrorIf_passes (not_not.mpr jitter), ok_bind_eq,
    currentHistoryRecheck, admitted, ok_bind_eq]
  rw [pure_bind]
  split
  · exact ⟨none, rfl⟩
  · rename_i current
    simp only [not_or, Bool.not_eq_false, Bool.and_eq_true, decide_eq_true_eq] at current
    obtain ⟨⟨authority, _, _, lease, held, _⟩, revisionLeft⟩ := current
    rw [authority] at admitted
    have created := created_of_admits admitted
    have facts := state.facts
    have revision := facts.revision
    have room : state.revision < maxSafeJsonInteger := by omega
    have count := (facts.leased lease held).1
    have budget := facts.budget
    have limit : maxHistoryRecheckAcquisitions = 3 := rfl
    have jitterLimit : maxHistoryRecheckJitterSeconds = 60 := rfl
    have backoff : historyRecheckBackoffSeconds = 60 := rfl
    split
    · have delay : secondMicros * (historyRecheckBackoffSeconds + jitterSeconds.toNat) ≤ secondMicros * 180 :=
        Nat.mul_le_mul_left _ (by omega)
      obtain ⟨successor, released, unleased⟩ := @release_total state now (state.acquisitionCount - 1)
        (historyRecheckBackoffSeconds + jitterSeconds.toNat) room created (by omega) (by omega) (by omega)
      rw [released, ok_bind_eq]
      apply transition_total
      · intro next found
        cases found
        exact unleased
      · exact fun _ => some_ne_none successor
    · rename_i spent
      split
      · rename_i done
        exact advance_transition_total (leaves_of_done supported spent done) room created
      · split
        · exact advance_transition_total exhausted_leaves room created
        · have doubled : 2 ^ (state.acquisitionCount - 1).toNat ≤ 2 := by
            have small : (state.acquisitionCount - 1).toNat ≤ 1 := by omega
            exact Nat.pow_le_pow_right (by decide) small
          have delay : secondMicros * (historyRecheckBackoffSeconds * 2 ^ (state.acquisitionCount - 1).toNat +
              jitterSeconds.toNat) ≤ secondMicros * 180 := by
            apply Nat.mul_le_mul_left
            rw [backoff]
            omega
          obtain ⟨successor, released, unleased⟩ := @release_total state now state.acquisitionCount
            (historyRecheckBackoffSeconds * 2 ^ (state.acquisitionCount - 1).toNat + jitterSeconds.toNat) room created
            (by omega) (le_refl _) (by omega)
          rw [released, ok_bind_eq]
          apply transition_total
          · intro next found
            cases found
            exact unleased
          · exact fun _ => some_ne_none successor

end Totality

/-- The queued recheck of one workflow run, with the outcomes of its attempts so far. -/
structure RecheckWorld where
  state : Option HistoryRecheckState
  outcomes : List (Int × HistoryRecheckOutcome)

inductive RecheckCommand where
  | start (dataset : HistoryDataset) (hint : HistoryRecheckHint) (now : Instant)
  | merge (hint : HistoryRecheckHint) (revisitCompleted : Bool)
  | acquire (dataset : HistoryDataset) (now : Instant) (workerId token : Text)
  | finish (dataset : HistoryDataset) (claim : HistoryRecheckClaim) (now : Instant) (outcome : HistoryRecheckOutcome)
      (jitterSeconds : Int)
  | recover (dataset : HistoryDataset) (now : Instant)

namespace RecheckWorld

variable (world : RecheckWorld)

/-- A transition replaces the state, and its outcome is of the first pending attempt. -/
def settle (state : HistoryRecheckState) (answer : Py (Option HistoryRecheckTransition)) :
    RecheckWorld :=
  match answer with
  | .ok (some transition) => ⟨transition.successor, world.outcomes ++ [(state.nextAttempt, transition.outcome)]⟩
  | _ => world

/-- A command that raises, or that is refused, changes nothing. -/
def step (command : RecheckCommand) : RecheckWorld :=
  match world.state, command with
  | none, .start dataset hint now =>
    match initialHistoryRecheck dataset hint now with
    | .ok (some state) => ⟨some state, world.outcomes⟩
    | _ => world
  | some state, .merge hint revisitCompleted =>
    match mergeHistoryRecheckHint state hint revisitCompleted with
    | .ok merged => ⟨some merged, world.outcomes⟩
    | .error _ => world
  | some state, .acquire dataset now workerId token =>
    match acquireHistoryRecheck dataset state now workerId token with
    | .ok (some claim) => ⟨some claim.state, world.outcomes⟩
    | _ => world
  | some state, .finish dataset claim now outcome jitterSeconds =>
    world.settle state (finishHistoryRecheck dataset state claim now outcome jitterSeconds)
  | some state, .recover dataset now => world.settle state (recoverExhaustedHistoryRecheck dataset state now)
  | _, _ => world

def run (commands : List RecheckCommand) : RecheckWorld :=
  commands.foldl step world

def initial : RecheckWorld :=
  ⟨none, []⟩

/-- An attempt is still to be rechecked. -/
def Pending (attempt : Int) : Prop :=
  ∃ state ∈ world.state, state.nextAttempt ≤ attempt ∧ attempt ≤ state.hint.cursor.latestAttempt

/-- The recheck of an attempt has ended. -/
def Processed (attempt : Int) : Prop :=
  ∃ outcome : HistoryRecheckOutcome, outcome.Leaves ∧ (attempt, outcome) ∈ world.outcomes

/-- Every attempt of the interval before the first pending one is processed. -/
def Accounted : Prop :=
  ∀ state ∈ world.state, ∀ attempt, state.hint.cursor.nextAttempt ≤ attempt ∧ attempt < state.nextAttempt →
    world.Processed attempt

end RecheckWorld

/-- What one command can do. -/
inductive RecheckStep (world : RecheckWorld) : RecheckWorld → Prop
  | idle : RecheckStep world world
  | admitted {state : HistoryRecheckState} (absent : world.state = none)
      (first : state.nextAttempt = state.hint.cursor.nextAttempt) : RecheckStep world ⟨some state, world.outcomes⟩
  | merged {state merged : HistoryRecheckState} {hint : HistoryRecheckHint} {revisitCompleted : Bool}
      (present : world.state = some state) (facts : Merged state hint revisitCompleted merged) :
      RecheckStep world ⟨some merged, world.outcomes⟩
  | leased {state leased : HistoryRecheckState} (present : world.state = some state) (hint : leased.hint = state.hint)
      (next : leased.nextAttempt = state.nextAttempt) : RecheckStep world ⟨some leased, world.outcomes⟩
  | settled {state : HistoryRecheckState} {successor : Option HistoryRecheckState} {outcome : HistoryRecheckOutcome}
      (present : world.state = some state) (settles : Settles state successor outcome) :
      RecheckStep world ⟨successor, world.outcomes ++ [(state.nextAttempt, outcome)]⟩

theorem settle_step {world : RecheckWorld} {state : HistoryRecheckState} {answer : Py (Option HistoryRecheckTransition)}
    (present : world.state = some state)
    (settles : ∀ transition, answer = .ok (some transition) → Settles state transition.successor transition.outcome) :
    RecheckStep world (world.settle state answer) := by
  unfold RecheckWorld.settle
  split
  · rename_i transition
    exact .settled present (settles transition rfl)
  · exact .idle

theorem step_cases (world : RecheckWorld) (command : RecheckCommand) : RecheckStep world (world.step command) := by
  unfold RecheckWorld.step
  split
  · rename_i absent
    split
    · rename_i answer
      obtain ⟨hint, first⟩ := initial_facts answer
      exact .admitted absent (by rw [first, hint])
    · exact .idle
  · rename_i present
    split
    · rename_i answer
      exact .merged present (merge_facts answer)
    · exact .idle
  · rename_i present
    split
    · rename_i answer
      obtain ⟨hint, next⟩ := acquire_facts answer
      exact .leased present hint next
    · exact .idle
  · rename_i present
    exact settle_step present fun transition computed => finish_settles computed
  · rename_i present
    exact settle_step present fun transition computed => recover_settles computed
  · exact .idle

section Runs

variable {world next : RecheckWorld} {attempt : Int}

section

variable (step : RecheckStep world next)
include step

/-- An attempt leaves the pending ones from the bottom, alone and through an outcome that ends it. -/
theorem step_leaves (pending : world.Pending attempt) :
    next.Pending attempt ∨ ∃ state ∈ world.state, attempt = state.nextAttempt ∧
      ∃ outcome : HistoryRecheckOutcome, outcome.Leaves ∧ next.outcomes = world.outcomes ++ [(attempt, outcome)] := by
  obtain ⟨held, found, atLeast, upTo⟩ := pending
  cases step with
  | idle => exact .inl ⟨held, found, atLeast, upTo⟩
  | admitted absent first =>
    rw [absent] at found
    cases found
  | merged present facts =>
    rw [present] at found
    cases found
    exact .inl ⟨_, rfl, facts.keeps ⟨atLeast, upTo⟩⟩
  | leased present hint same =>
    rw [present] at found
    cases found
    exact .inl ⟨_, rfl, same.trans_le atLeast, by rw [hint]; exact upTo⟩
  | settled present settles =>
    rw [present] at found
    cases found
    rcases eq_or_lt_of_le atLeast with bottom | above
    · cases settles with
      | completed leaves last => exact .inr ⟨held, present, bottom.symm, _, leaves, by rw [bottom]⟩
      | advanced leaves hint same => exact .inr ⟨held, present, bottom.symm, _, leaves, by rw [bottom]⟩
      | kept stays hint same => exact .inl ⟨_, rfl, same.trans_le atLeast, by rw [hint]; exact upTo⟩
    · cases settles with
      | completed leaves last => omega
      | advanced leaves hint same => exact .inl ⟨_, rfl, by omega, by rw [hint]; exact upTo⟩
      | kept stays hint same => exact .inl ⟨_, rfl, same.trans_le atLeast, by rw [hint]; exact upTo⟩

theorem step_outcomes : ∃ more, next.outcomes = world.outcomes ++ more := by
  cases step with
  | idle => exact ⟨[], (append_nil _).symm⟩
  | admitted absent first => exact ⟨[], (append_nil _).symm⟩
  | merged present facts => exact ⟨[], (append_nil _).symm⟩
  | leased present hint same => exact ⟨[], (append_nil _).symm⟩
  | settled present settles => exact ⟨_, rfl⟩

theorem step_processed (processed : world.Processed attempt) : next.Processed attempt := by
  obtain ⟨more, grown⟩ := step_outcomes step
  obtain ⟨outcome, leaves, logged⟩ := processed
  exact ⟨outcome, leaves, by rw [grown]; exact mem_append_left _ logged⟩

/-- A step keeps what is done accounted for. -/
theorem step_accounted (accounted : world.Accounted) : next.Accounted := by
  intro state found attempt done
  cases step with
  | idle => exact accounted state found attempt done
  | admitted absent first =>
    cases found
    omega
  | merged present facts =>
    cases found
    exact accounted _ present attempt (facts.done done)
  | leased present hint same =>
    cases found
    rw [hint, same] at done
    exact accounted _ present attempt done
  | @settled held successor outcome present settles =>
    have earlier (before : held.hint.cursor.nextAttempt ≤ attempt ∧ attempt < held.nextAttempt) :
        RecheckWorld.Processed ⟨successor, world.outcomes ++ [(held.nextAttempt, outcome)]⟩ attempt :=
      step_processed (.settled present settles) (accounted held present attempt before)
    cases settles with
    | completed leaves last => cases found
    | advanced leaves hint same =>
      cases found
      rw [hint, same] at done
      rcases eq_or_ne attempt held.nextAttempt with bottom | before
      · exact ⟨outcome, leaves, mem_append_right _ (by rw [bottom]; exact mem_singleton_self _)⟩
      · exact earlier (by omega)
    | kept stays hint same =>
      cases found
      rw [hint, same] at done
      exact earlier done

end

variable (commands : List RecheckCommand)

theorem run_accounted : ∀ world : RecheckWorld, world.Accounted → (world.run commands).Accounted := by
  induction commands with
  | nil => exact fun _ accounted => accounted
  | cons command rest inductionHypothesis =>
    intro world accounted
    exact inductionHypothesis (world.step command) (step_accounted (step_cases world command) accounted)

/-- An attempt that is pending or processed stays one of the two. -/
theorem run_keeps : ∀ world : RecheckWorld, world.Pending attempt ∨ world.Processed attempt →
    (world.run commands).Pending attempt ∨ (world.run commands).Processed attempt := by
  induction commands with
  | nil => exact fun _ kept => kept
  | cons command rest inductionHypothesis =>
    intro world kept
    apply inductionHypothesis (world.step command)
    rcases kept with pending | processed
    · rcases step_leaves (step_cases world command) pending with still | ⟨state, _, _, outcome, leaves, logged⟩
      · exact .inl still
      · exact .inr ⟨outcome, leaves, by rw [logged]; exact mem_append_right _ (mem_singleton_self _)⟩
    · exact .inr (step_processed (step_cases world command) processed)

end Runs

/-- The operations on a state return unless a guard of theirs refuses: no constructor does. -/
structure OperationsReturn (state : HistoryRecheckState) : Prop where
  merges : ∀ hint revisitCompleted, ¬ (revisitCompleted = true ∧ hint.source ≠ .repair) →
    hint.identity = state.hint.identity → state.revision < maxSafeJsonInteger - 1 →
    ∃ merged, mergeHistoryRecheckHint state hint revisitCompleted = .ok merged
  acquires : ∀ dataset now workerId token, isSha256Hex workerId = true → isSha256Hex token = true →
    now.micros + secondMicros * observationLeaseSeconds < instantLimit →
    ∃ answer, acquireHistoryRecheck dataset state now workerId token = .ok answer
  finishes : ∀ dataset claim now outcome jitterSeconds, outcome ≠ .retryExhausted →
    0 ≤ jitterSeconds ∧ jitterSeconds ≤ maxHistoryRecheckJitterSeconds →
    now.micros + secondMicros * 180 < instantLimit →
    ∃ answer, finishHistoryRecheck dataset state claim now outcome jitterSeconds = .ok answer
  recovers : ∀ dataset now, ∃ answer, recoverExhaustedHistoryRecheck dataset state now = .ok answer

theorem operationsReturn (state : HistoryRecheckState) : OperationsReturn state where
  merges _ _ allowed identity reserve := merge_total allowed identity reserve
  acquires _ _ _ _ worker secret inRange := acquire_total worker secret inRange
  finishes _ _ _ _ _ supported jitter inRange := finish_total supported jitter inRange
  recovers dataset now := recover_total dataset state now

/-- In every run the constructor's checks hold, an attempt leaves only from the bottom and through an outcome that ends it,
and merges lose nothing, repeat as one and agree in either order when both orders return. -/
theorem historyRechecks_lose_no_attempt (commands : List RecheckCommand) :
    ((∀ state ∈ (RecheckWorld.initial.run commands).state, state.Admitted ∧
        state.acquisitionCount ≤ maxHistoryRecheckAcquisitions ∧ OperationsReturn state) ∧
      (∀ dataset hint now, ∃ answer, initialHistoryRecheck dataset hint now = .ok answer)) ∧
    (∀ command attempt, (RecheckWorld.initial.run commands).Pending attempt →
      ((RecheckWorld.initial.run commands).step command).Pending attempt ∨
        ∃ state ∈ (RecheckWorld.initial.run commands).state, attempt = state.nextAttempt ∧
          ∃ outcome : HistoryRecheckOutcome, outcome.Leaves ∧
            ((RecheckWorld.initial.run commands).step command).outcomes =
              (RecheckWorld.initial.run commands).outcomes ++ [(attempt, outcome)]) ∧
    (∀ later attempt, (RecheckWorld.initial.run commands).Pending attempt →
      (RecheckWorld.initial.run (commands ++ later)).Pending attempt ∨
        (RecheckWorld.initial.run (commands ++ later)).Processed attempt) ∧
    (∀ state ∈ (RecheckWorld.initial.run commands).state, ∀ hint revisitCompleted merged,
      mergeHistoryRecheckHint state hint revisitCompleted = .ok merged →
        (∀ attempt, state.nextAttempt ≤ attempt ∧ attempt ≤ state.hint.cursor.latestAttempt →
          merged.nextAttempt ≤ attempt ∧ attempt ≤ merged.hint.cursor.latestAttempt) ∧
        (∀ attempt, hint.cursor.nextAttempt ≤ attempt ∧ attempt ≤ hint.cursor.latestAttempt →
          ¬ (RecheckWorld.initial.run commands).Processed attempt →
          merged.nextAttempt ≤ attempt ∧ attempt ≤ merged.hint.cursor.latestAttempt) ∧
        mergeHistoryRecheckHint merged hint revisitCompleted = .ok merged) ∧
    ∀ (state : HistoryRecheckState) (first second : HistoryRecheckHint) (firstRevisits secondRevisits : Bool)
      (left leftRight right rightLeft : HistoryRecheckState),
      mergeHistoryRecheckHint state first firstRevisits = .ok left →
      mergeHistoryRecheckHint left second secondRevisits = .ok leftRight →
      mergeHistoryRecheckHint state second secondRevisits = .ok right →
      mergeHistoryRecheckHint right first firstRevisits = .ok rightLeft →
      (leftRight.hint.cursor.toHistoryAttemptCursorFields = rightLeft.hint.cursor.toHistoryAttemptCursorFields ∧
        leftRight.hint.source = rightLeft.hint.source) ∧ leftRight.nextAttempt = rightLeft.nextAttempt := by
  have accounted : (RecheckWorld.initial.run commands).Accounted := by
    apply run_accounted
    intro state absent
    cases absent
  refine ⟨⟨fun state _ => ⟨state.facts, state.facts.budget.2, operationsReturn state⟩, initial_total⟩, ?_, ?_, ?_, ?_⟩
  · exact fun command attempt pending => step_leaves (step_cases _ command) pending
  · intro later attempt pending
    rw [RecheckWorld.run, foldl_append]
    exact run_keeps later _ (Or.inl pending)
  · intro state found hint revisitCompleted merged computed
    have facts := merge_facts computed
    refine ⟨fun attempt pending => facts.keeps pending, fun attempt asked unprocessed => ?_, facts.repeated⟩
    exact (facts.admits asked).resolve_right fun done => unprocessed (accounted state found attempt done)
  · intro state first second firstRevisits secondRevisits left leftRight right rightLeft one two three four
    exact merged_comm (merge_facts one) (merge_facts two) (merge_facts three) (merge_facts four)

namespace RecheckSample

def scope : RepositoryScope :=
  ⟨⟨1, 1⟩, by decide⟩

def created : Instant :=
  ⟨0, zero_lt_instantLimit⟩

theorem workflowAdmitted : positiveId 3 (ascii "history workflow ID") = .ok () := by
  decide

/-- The hint of the attempts from one on to the ninth. -/
def hintFrom (attempt : Int) (admitted : HistoryAttemptCursorFields.postInit ⟨scope, 7, 9, attempt⟩ = .ok ()) :
    HistoryRecheckHint :=
  ⟨⟨⟨⟨scope, 7, 9, attempt⟩, admitted⟩, 3, created, .recent⟩, workflowAdmitted⟩

def third : HistoryRecheckHint :=
  hintFrom 3 (by decide)

def fourth : HistoryRecheckHint :=
  hintFrom 4 (by decide)

/-- A state one revision below the reserve. -/
def nearReserve : HistoryRecheckState :=
  ⟨⟨hintFrom 5 (by decide), 1, 9007199254740989, 5, created, 0, none⟩, by decide⟩

end RecheckSample

/-- Near the reserve two hints merge in one order, and the other order raises. -/
theorem merge_order_at_reserve :
    (∃ merged, mergeHistoryRecheckHint RecheckSample.nearReserve RecheckSample.third false = .ok merged ∧
        mergeHistoryRecheckHint merged RecheckSample.fourth false = .ok merged ∧ merged.nextAttempt = 3) ∧
      ∃ merged, mergeHistoryRecheckHint RecheckSample.nearReserve RecheckSample.fourth false = .ok merged ∧
        mergeHistoryRecheckHint merged RecheckSample.third false =
          .error (.valueError (ascii "history hint cannot exhaust the terminal revision reserve")) := by
  refine ⟨⟨⟨⟨RecheckSample.third, 1, 9007199254740990, 3, RecheckSample.created, 0, none⟩, by decide⟩, ?_, ?_, rfl⟩,
    ⟨⟨RecheckSample.fourth, 1, 9007199254740990, 4, RecheckSample.created, 0, none⟩, by decide⟩, ?_, ?_⟩
  · decide
  · decide
  · decide
  · decide

end CiCoordinator.CiEconomics

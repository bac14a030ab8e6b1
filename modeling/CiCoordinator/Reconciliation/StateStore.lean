import CiCoordinator.Reconciliation.StateMachine

/- The append of one observation to a snapshot and the verdicts along a run of appends. -/

namespace CiCoordinator.Reconciliation

open Library Kernel List

/-- The answers to an observation. -/
inductive ObservationAppend where
  | appended (snapshot : ReconciliationSnapshot)
  | duplicate (snapshot : ReconciliationSnapshot) (existing : SignalObservation)
  | conflict (snapshot : ReconciliationSnapshot) (existing : SignalObservation)
  | revisionConflict (snapshot : ReconciliationSnapshot)

/-- The snapshot that an answer leaves. -/
def ObservationAppend.snapshot : ObservationAppend → ReconciliationSnapshot
  | .appended snapshot => snapshot
  | .duplicate snapshot _ => snapshot
  | .conflict snapshot _ => snapshot
  | .revisionConflict snapshot => snapshot

def requireRevision (revision : Int) : Py Unit :=
  valueErrorIf (revision < 0 ∨ maxSafeJsonInteger < revision)
    (ascii "reconciliation revision must be a non-negative JSON safe integer")

/-- The checks that an observation belongs to a snapshot. -/
def requireMembership (subject : ReconciliationSubject) (observation : SignalObservation) : Py Unit := do
  valueErrorIf (observation.subjectId ≠ subject.subjectId)
    (ascii "reconciliation observation belongs to another subject")
  valueErrorIf (observation.workflowRunId ≠ subject.workflowRunId)
    (ascii "reconciliation observation belongs to another workflow run")
  valueErrorIf (observation.runAttempt ≠ subject.runAttempt)
    (ascii "reconciliation observation belongs to another run attempt")

/-- A snapshot that also has a new observation. -/
def successorFields (snapshot : ReconciliationSnapshot) (observation : SignalObservation) : SnapshotFields :=
  ⟨snapshot.subject, snapshot.contract, snapshot.revision + 1, snapshot.observations ++ [observation]⟩

def appendObservation (snapshot : ReconciliationSnapshot) (expectedRevision : Int) (observation : SignalObservation) :
    Py ObservationAppend := do
  requireRevision expectedRevision
  requireMembership snapshot.subject observation
  match snapshot.observations.find? fun candidate => candidate.observationId = observation.observationId with
  | some existing =>
    if existing = observation then pure (.duplicate snapshot existing) else pure (.conflict snapshot existing)
  | none =>
    if expectedRevision ≠ snapshot.revision then pure (.revisionConflict snapshot)
    else do
      requireRevision (snapshot.revision + 1)
      construct (successorFields snapshot observation).postInit fun admitted =>
        .appended ⟨successorFields snapshot observation, admitted⟩

section Appends

variable {snapshot : ReconciliationSnapshot} {expectedRevision : Int} {observation : SignalObservation}

theorem requireMembership_eq_ok {subject : ReconciliationSubject} : requireMembership subject observation = .ok () ↔
    observation.subjectId = subject.subjectId ∧ observation.workflowRunId = subject.workflowRunId ∧
      observation.runAttempt = subject.runAttempt := by
  simp [requireMembership]

theorem SnapshotFields.postInit_eq_ok {self : SnapshotFields} : self.postInit = .ok () ↔
    (0 ≤ self.revision ∧ self.revision ≤ maxSafeJsonInteger) ∧ (self.observations.map (·.observationId)).Nodup ∧
      self.revision = self.observations.length ∧
      ∀ observation ∈ self.observations, requireMembership self.subject observation = .ok () := by
  simp [SnapshotFields.postInit, requireMembership_eq_ok, forall_and]

theorem ReconciliationSnapshot.facts (self : ReconciliationSnapshot) :
    (0 ≤ self.revision ∧ self.revision ≤ maxSafeJsonInteger) ∧ (self.observations.map (·.observationId)).Nodup ∧
      self.revision = self.observations.length ∧
      ∀ observation ∈ self.observations, requireMembership self.subject observation = .ok () :=
  SnapshotFields.postInit_eq_ok.mp self.admitted

/-- An append keeps the subject and the contract and adds at most the new observation at the end. -/
theorem appendObservation_eq_ok {answer : ObservationAppend}
    (appended : appendObservation snapshot expectedRevision observation = .ok answer) :
    answer.snapshot.subject = snapshot.subject ∧ answer.snapshot.contract = snapshot.contract ∧
      ∃ added, added ⊆ [observation] ∧ answer.snapshot.observations = snapshot.observations ++ added := by
  simp only [appendObservation, bind_unit_eq_ok] at appended
  obtain ⟨-, -, appended⟩ := appended
  have same : answer.snapshot = snapshot → answer.snapshot.subject = snapshot.subject ∧
      answer.snapshot.contract = snapshot.contract ∧
      ∃ added, added ⊆ [observation] ∧ answer.snapshot.observations = snapshot.observations ++ added := by
    intro kept
    rw [kept]
    exact ⟨rfl, rfl, [], nil_subset _, (append_nil _).symm⟩
  split at appended
  · split at appended <;> cases appended <;> exact same rfl
  · split at appended
    · cases appended
      exact same rfl
    · obtain ⟨-, appended⟩ := bind_unit_eq_ok.mp appended
      obtain ⟨passed, rfl⟩ := construct_eq_ok.mp appended
      exact ⟨rfl, rfl, [observation], List.Subset.refl _, rfl⟩

end Appends

/-- The snapshots that appends lead to. -/
inductive AppendRun (start : ReconciliationSnapshot) : ReconciliationSnapshot → Prop
  | start : AppendRun start start
  | step {snapshot : ReconciliationSnapshot} {expectedRevision : Int} {observation : SignalObservation}
      {answer : ObservationAppend} (run : AppendRun start snapshot)
      (appended : appendObservation snapshot expectedRevision observation = .ok answer) : AppendRun start answer.snapshot

/-- A run of appends only adds observations at the end. -/
theorem AppendRun.extends {start snapshot : ReconciliationSnapshot} (run : AppendRun start snapshot) :
    snapshot.subject = start.subject ∧ snapshot.contract = start.contract ∧
      ∃ added, snapshot.observations = start.observations ++ added := by
  induction run with
  | start => exact ⟨rfl, rfl, [], (append_nil _).symm⟩
  | step run appended ih =>
    obtain ⟨subject, contract, added, observations⟩ := ih
    obtain ⟨sameSubject, sameContract, last, -, extended⟩ := appendObservation_eq_ok appended
    refine ⟨sameSubject.trans subject, sameContract.trans contract, added ++ last, ?_⟩
    rw [extended, observations, append_assoc]

theorem find?_of_extends {start snapshot : ReconciliationSnapshot} {kept observation : SignalObservation} {added : List SignalObservation}
    (extended : snapshot.observations = start.observations ++ added) (member : kept ∈ start.observations)
    (same : kept.observationId = observation.observationId) :
    (snapshot.observations.find? fun candidate => candidate.observationId = observation.observationId) = some kept := by
  have distinct := snapshot.facts.2.1
  have inside : kept ∈ snapshot.observations := extended ▸ mem_append_left _ member
  cases found : snapshot.observations.find? fun candidate => candidate.observationId = observation.observationId with
  | none => exact absurd (decide_eq_true same) (find?_eq_none.mp found kept inside)
  | some other =>
    have identity : other.observationId = observation.observationId := by simpa using find?_some found
    rw [inj_on_of_nodup_map distinct (mem_of_find?_eq_some found) inside (identity.trans same.symm)]

/-- Whatever is appended after a snapshot, its observations are answered as duplicates or conflicts, and a writer that still
holds its revision changes nothing. -/
theorem appends_lose_no_update {start snapshot : ReconciliationSnapshot} (run : AppendRun start snapshot) :
    (∀ kept ∈ start.observations, ∀ revision observation, requireRevision revision = .ok () →
      requireMembership start.subject observation = .ok () → kept.observationId = observation.observationId →
        appendObservation snapshot revision observation =
          .ok (if kept = observation then .duplicate snapshot kept else .conflict snapshot kept)) ∧
    ∀ observation answer, start.revision ≠ snapshot.revision →
      appendObservation snapshot start.revision observation = .ok answer → answer.snapshot = snapshot := by
  obtain ⟨subject, -, added, extended⟩ := run.extends
  refine ⟨fun kept member revision observation valid belongs same => ?_, fun observation answer stale appended => ?_⟩
  · simp only [appendObservation, valid, subject, belongs, find?_of_extends extended member same]
    split <;> rfl
  · simp only [appendObservation, bind_unit_eq_ok] at appended
    obtain ⟨-, -, appended⟩ := appended
    split at appended
    · split at appended <;> cases appended <;> rfl
    · rw [if_pos stale] at appended
      cases appended
      rfl

/-- An observation that is delivered again later is answered with itself. -/
theorem appends_lose_no_update_again : ∃ third answer, appendObservation Sample.forward 2 third = .ok answer ∧
    answer.snapshot.revision = 3 ∧
    appendObservation answer.snapshot 2 Sample.early = .ok (.duplicate answer.snapshot Sample.early) := by
  let third := Sample.started (ascii "third") (by decide)
  have belongs : requireMembership Sample.forward.subject third = .ok () := requireMembership_eq_ok.mpr ⟨rfl, rfl, rfl⟩
  have passed : (successorFields Sample.forward third).postInit = .ok () := by
    refine SnapshotFields.postInit_eq_ok.mpr ⟨by decide, by decide, rfl, fun one member => ?_⟩
    rcases mem_append.mp member with old | new
    · exact Sample.forward.facts.2.2.2 one old
    · exact mem_singleton.mp new ▸ belongs
  have appended : appendObservation Sample.forward 2 third = .ok (.appended ⟨_, passed⟩) := by
    rw [appendObservation, belongs]
    exact construct_ok passed
  refine ⟨third, _, appended, rfl, ?_⟩
  rw [(appends_lose_no_update (.step .start appended)).1 Sample.early mem_cons_self 2 Sample.early rfl
    (requireMembership_eq_ok.mpr ⟨rfl, rfl, rfl⟩) rfl, if_pos rfl]

end CiCoordinator.Reconciliation

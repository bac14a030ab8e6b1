import CiCoordinator.Reconciliation.Model

/- The verdict on the observations of a subject and how it changes when observations are added. -/

namespace CiCoordinator.Reconciliation

open Library Kernel ExecutionOrchestration List

/-- The verdict on one expected signal. -/
structure SignalAssessment where
  state : ReconciliationState
  findings : List ReconciliationFinding
  deriving DecidableEq

/-- The observations of a signal. -/
def observationsOf (signalId : Text) (observations : List SignalObservation) : List SignalObservation :=
  observations.filter fun observation => observation.signalId = signalId

/-- The identities of observations. -/
def identities (observations : List SignalObservation) : List Text :=
  observations.map fun observation => observation.observationId

def omittedExecutionFindings (omittedSignals : List OmittedSignal) (observations : List SignalObservation) :
    List ReconciliationFinding :=
  omittedSignals.filterMap fun signal =>
    let found := observationsOf signal.signalId observations
    if found = [] then none
    else some ⟨.omittedExecution, some signal.signalId, identities found,
      ascii "omitted signal " ++ signal.name ++ ascii " was observed"⟩

/-- An assessment with one finding. -/
def assessment (state : ReconciliationState) (kind : ReconciliationFindingKind) (signal : ProviderSignal)
    (observationIds : List Text) (message : Text) : SignalAssessment :=
  ⟨state, [⟨kind, some signal.signalId, observationIds, message⟩]⟩

def expectedSignal (signal : ProviderSignal) : Text :=
  ascii "expected signal " ++ signal.jobName

def failedConclusionAssessment (signal : ProviderSignal) (completed : List SignalObservation)
    (conclusion : Option SignalConclusion) : SignalAssessment :=
  match conclusion with
  | some .skipped =>
    assessment .failure .skippedWithoutProof signal (identities completed)
      (expectedSignal signal ++ ascii " was skipped without proof")
  | some .neutral =>
    assessment .failure .neutralWithoutPolicy signal (identities completed)
      (expectedSignal signal ++ ascii " was neutral without policy")
  | conclusion =>
    assessment .failure .failedExpectedSignal signal (identities completed)
      (expectedSignal signal ++ ascii " concluded " ++ conclusion.elim (ascii "None") SignalConclusion.text)

def classifyExpectedSignal (signal : ProviderSignal) (observations : List SignalObservation) : SignalAssessment :=
  let found := observationsOf signal.signalId observations
  if found = [] then
    assessment .pending .missingExpectedSignal signal [] (expectedSignal signal ++ ascii " was not observed")
  else if 1 < (found.map fun observation => observation.providerJobId).dedup.length then
    assessment .failure .ambiguousProviderSignal signal (identities found)
      (expectedSignal signal ++ ascii " resolved to multiple provider jobs")
  else
    let completed := found.filter fun observation => observation.status = .completed
    if 1 < (completed.map fun observation => observation.conclusion).dedup.length then
      assessment .conflict .contradictoryObservation signal (identities completed)
        (expectedSignal signal ++ ascii " has contradictory terminal observations")
    else
      match completed with
      | [] =>
        assessment .pending .incompleteExpectedSignal signal (identities found)
          (expectedSignal signal ++ ascii " is incomplete")
      | first :: _ =>
        if first.conclusion = some .success then ⟨.success, []⟩
        else failedConclusionAssessment signal completed first.conclusion

def resultState (findings : List ReconciliationFinding) (assessments : List SignalAssessment) : ReconciliationState :=
  let kinds := findings.map fun finding => finding.kind
  if .omittedExecution ∈ kinds ∨ .contradictoryObservation ∈ kinds then .conflict
  else if .missingExpectedContract ∈ kinds ∨ (∃ assessment ∈ assessments, assessment.state = .failure) then .failure
  else if ∃ assessment ∈ assessments, assessment.state = .pending then .pending
  else .success

/-- The verdict on a list of observations under a contract. -/
def classifyObservations (contract : ReconciliationContract) (subjectId : Text) (observations : List SignalObservation) :
    ReconciliationResult :=
  let assessments := contract.providerSignals.map fun signal => classifyExpectedSignal signal observations
  let findings := omittedExecutionFindings contract.omittedSignals observations ++
    (assessments.flatMap fun assessment => assessment.findings) ++
    if contract.providerSignals = [] then
      [⟨.missingExpectedContract, none, [], ascii "reconciliation has no expected signal contract"⟩]
    else []
  ⟨subjectId, resultState findings assessments, findings⟩

/-- The verdict on a snapshot. -/
def classifyObservedState (snapshot : ReconciliationSnapshot) : ReconciliationResult :=
  classifyObservations snapshot.contract snapshot.subject.subjectId snapshot.observations

section Signals

variable {signal : ProviderSignal} {observations : List SignalObservation}

theorem mem_observationsOf {signalId : Text} {observation : SignalObservation} :
    observation ∈ observationsOf signalId observations ↔ observation ∈ observations ∧ observation.signalId = signalId := by
  rw [observationsOf, mem_filter, decide_eq_true_eq]

/-- A list has two distinct values exactly when its set has more than one. -/
theorem one_lt_length_dedup {A B : Type} [DecidableEq B] {value : A → B} {items : List A} :
    1 < (items.map value).dedup.length ↔ ∃ first ∈ items, ∃ second ∈ items, value first ≠ value second := by
  constructor
  · intro many
    have distinct := nodup_dedup (items.map value)
    have inside := fun other => @mem_dedup B _ other (items.map value)
    cases listed : (items.map value).dedup with
    | nil => simp [listed] at many
    | cons first rest =>
      rw [listed] at many distinct inside
      cases rest with
      | nil => simp at many
      | cons second others =>
        obtain ⟨left, leftMember, rfl⟩ := mem_map.mp ((inside first).mp mem_cons_self)
        obtain ⟨right, rightMember, rfl⟩ :=
          mem_map.mp ((inside second).mp (mem_cons_of_mem _ mem_cons_self))
        refine ⟨left, leftMember, right, rightMember, ?_⟩
        intro same
        rw [nodup_cons] at distinct
        exact distinct.1 (same ▸ mem_cons_self)
  · rintro ⟨first, firstMember, second, secondMember, differ⟩
    by_contra few
    have one : (items.map value).dedup.length ≤ 1 := Nat.le_of_not_lt few
    have firstListed := mem_dedup.mpr (mem_map_of_mem (f := value) firstMember)
    have secondListed := mem_dedup.mpr (mem_map_of_mem (f := value) secondMember)
    cases listed : (items.map value).dedup with
    | nil => simp [listed] at firstListed
    | cons only rest =>
      rw [listed] at one firstListed secondListed
      have empty : rest = [] := length_eq_zero_iff.mp (by simpa using one)
      subst empty
      exact differ ((mem_singleton.mp firstListed).trans (mem_singleton.mp secondListed).symm)

/-- A signal was observed through several jobs of the provider. -/
def Ambiguous (signal : ProviderSignal) (observations : List SignalObservation) : Prop :=
  ∃ first ∈ observationsOf signal.signalId observations, ∃ second ∈ observationsOf signal.signalId observations,
    first.providerJobId ≠ second.providerJobId

/-- A signal completed with several conclusions. -/
def Contradictory (signal : ProviderSignal) (observations : List SignalObservation) : Prop :=
  ∃ first ∈ observationsOf signal.signalId observations, ∃ second ∈ observationsOf signal.signalId observations,
    first.status = .completed ∧ second.status = .completed ∧ first.conclusion ≠ second.conclusion

/-- A signal completed without success. -/
def Failed (signal : ProviderSignal) (observations : List SignalObservation) : Prop :=
  ∃ observation ∈ observationsOf signal.signalId observations,
    observation.status = .completed ∧ observation.conclusion ≠ some .success

/-- A signal completed. -/
def Completed (signal : ProviderSignal) (observations : List SignalObservation) : Prop :=
  ∃ observation ∈ observationsOf signal.signalId observations, observation.status = .completed

theorem failed_of_contradictory (contradictory : Contradictory signal observations) : Failed signal observations := by
  obtain ⟨first, firstMember, second, secondMember, firstDone, secondDone, differ⟩ := contradictory
  by_cases success : first.conclusion = some .success
  · exact ⟨second, secondMember, secondDone, fun same => differ (success.trans same.symm)⟩
  · exact ⟨first, firstMember, firstDone, success⟩

/-- The five verdicts on a signal, each with the observations that lead to it. -/
inductive Assessed (signal : ProviderSignal) (observations : List SignalObservation) : SignalAssessment → Prop
  | ambiguous {ids : List Text} {message : Text} (several : Ambiguous signal observations) :
      Assessed signal observations (assessment .failure .ambiguousProviderSignal signal ids message)
  | contradictory {ids : List Text} {message : Text} (single : ¬ Ambiguous signal observations)
      (differ : Contradictory signal observations) :
      Assessed signal observations (assessment .conflict .contradictoryObservation signal ids message)
  | incomplete {kind : ReconciliationFindingKind} {ids : List Text} {message : Text}
      (waiting : kind = .missingExpectedSignal ∨ kind = .incompleteExpectedSignal) (single : ¬ Ambiguous signal observations)
      (unfinished : ¬ Completed signal observations) : Assessed signal observations (assessment .pending kind signal ids message)
  | failed {kind : ReconciliationFindingKind} {ids : List Text} {message : Text}
      (reason : kind = .skippedWithoutProof ∨ kind = .neutralWithoutPolicy ∨ kind = .failedExpectedSignal)
      (single : ¬ Ambiguous signal observations) (failed : Failed signal observations) :
      Assessed signal observations (assessment .failure kind signal ids message)
  | success (single : ¬ Ambiguous signal observations) (completed : Completed signal observations)
      (succeeded : ¬ Failed signal observations) : Assessed signal observations ⟨.success, []⟩

theorem assessed_failedConclusion {completed : List SignalObservation} {conclusion : Option SignalConclusion}
    (single : ¬ Ambiguous signal observations) (failed : Failed signal observations) :
    Assessed signal observations (failedConclusionAssessment signal completed conclusion) := by
  unfold failedConclusionAssessment
  split
  · exact .failed (.inl rfl) single failed
  · exact .failed (.inr (.inl rfl)) single failed
  · exact .failed (.inr (.inr rfl)) single failed

theorem mem_completed {found : List SignalObservation} {observation : SignalObservation} :
    observation ∈ found.filter (fun observation => observation.status = .completed) ↔
      observation ∈ found ∧ observation.status = .completed := by
  rw [mem_filter, decide_eq_true_eq]

/-- The verdict on a signal follows from its observations. -/
theorem assessed_classifyExpectedSignal (signal : ProviderSignal) (observations : List SignalObservation) :
    Assessed signal observations (classifyExpectedSignal signal observations) := by
  unfold classifyExpectedSignal
  dsimp only
  split
  · rename_i none
    refine .incomplete (.inl rfl) ?_ ?_
    · rintro ⟨first, member, -⟩
      simp [none] at member
    · rintro ⟨first, member, -⟩
      simp [none] at member
  · split
    · rename_i several
      exact .ambiguous (one_lt_length_dedup.mp several)
    · rename_i single
      rw [one_lt_length_dedup] at single
      split
      · rename_i differ
        rw [one_lt_length_dedup] at differ
        obtain ⟨first, firstMember, second, secondMember, different⟩ := differ
        rw [mem_completed] at firstMember secondMember
        exact .contradictory single ⟨first, firstMember.1, second, secondMember.1, firstMember.2, secondMember.2, different⟩
      · rename_i agree
        rw [one_lt_length_dedup] at agree
        split
        · rename_i open_
          refine .incomplete (.inr rfl) single ?_
          rintro ⟨observation, member, done⟩
          have listed := mem_completed.mpr ⟨member, done⟩
          rw [open_] at listed
          cases listed
        · rename_i first rest listed
          have head := mem_completed.mp (listed ▸ mem_cons_self : first ∈ _)
          split
          · rename_i success
            refine .success single ⟨first, head.1, head.2⟩ ?_
            rintro ⟨other, member, done, failure⟩
            refine agree ⟨first, listed ▸ mem_cons_self, other, mem_completed.mpr ⟨member, done⟩, ?_⟩
            exact fun same => failure (same.symm.trans success)
          · rename_i failure
            exact assessed_failedConclusion single ⟨first, head.1, head.2, failure⟩

/-- A signal is bad when it was seen through several jobs or completed without success. -/
def Bad (signal : ProviderSignal) (observations : List SignalObservation) : Prop :=
  Ambiguous signal observations ∨ Failed signal observations

/-- More observations keep a bad signal bad. -/
theorem Bad.append {more : List SignalObservation} (bad : Bad signal observations) : Bad signal (observations ++ more) := by
  have kept : ∀ observation ∈ observationsOf signal.signalId observations,
      observation ∈ observationsOf signal.signalId (observations ++ more) := by
    intro observation member
    rw [mem_observationsOf] at member ⊢
    exact ⟨mem_append_left _ member.1, member.2⟩
  rcases bad with ⟨first, firstMember, second, secondMember, differ⟩ | ⟨observation, member, failure⟩
  · exact .inl ⟨first, kept first firstMember, second, kept second secondMember, differ⟩
  · exact .inr ⟨observation, kept observation member, failure⟩

/-- A signal is good when one job of the provider completed it, and only with success. -/
theorem good_iff : (¬ Bad signal observations ∧ Completed signal observations) ↔
    (∀ first ∈ observations, ∀ second ∈ observations, first.signalId = signal.signalId →
        second.signalId = signal.signalId → first.providerJobId = second.providerJobId) ∧
      (∃ observation ∈ observations, observation.signalId = signal.signalId ∧ observation.status = .completed) ∧
      ∀ observation ∈ observations, observation.signalId = signal.signalId → observation.status = .completed →
        observation.conclusion = some .success := by
  constructor
  · rintro ⟨good, observation, member, done⟩
    rw [Bad, not_or] at good
    obtain ⟨listed, own⟩ := mem_observationsOf.mp member
    refine ⟨fun first firstMember second secondMember firstOwn secondOwn => ?_, ⟨observation, listed, own, done⟩,
      fun other otherMember otherOwn otherDone => ?_⟩
    · by_contra differ
      exact good.1 ⟨first, mem_observationsOf.mpr ⟨firstMember, firstOwn⟩, second,
        mem_observationsOf.mpr ⟨secondMember, secondOwn⟩, differ⟩
    · by_contra failure
      exact good.2 ⟨other, mem_observationsOf.mpr ⟨otherMember, otherOwn⟩, otherDone, failure⟩
  · rintro ⟨single, ⟨observation, listed, own, done⟩, succeeded⟩
    refine ⟨?_, observation, mem_observationsOf.mpr ⟨listed, own⟩, done⟩
    rintro (⟨first, firstMember, second, secondMember, differ⟩ | ⟨other, member, otherDone, failure⟩)
    · rw [mem_observationsOf] at firstMember secondMember
      exact differ (single first firstMember.1 second secondMember.1 firstMember.2 secondMember.2)
    · rw [mem_observationsOf] at member
      exact failure (succeeded other member.1 member.2 otherDone)

namespace Assessed

variable {assessed : SignalAssessment}

section

variable (verdict : Assessed signal observations assessed)
include verdict

theorem bad_iff : Bad signal observations ↔ assessed.state = .failure ∨ assessed.state = .conflict := by
  cases verdict with
  | ambiguous several => exact iff_of_true (.inl several) (.inl rfl)
  | contradictory single differ => exact iff_of_true (.inr (failed_of_contradictory differ)) (.inr rfl)
  | incomplete waiting single unfinished =>
    refine iff_of_false ?_ (by simp [assessment])
    rintro (several | ⟨observation, member, done, -⟩)
    · exact single several
    · exact unfinished ⟨observation, member, done⟩
  | failed reason single failed => exact iff_of_true (.inr failed) (.inl rfl)
  | success single completed succeeded =>
    refine iff_of_false ?_ (by simp)
    rintro (several | failed)
    · exact single several
    · exact succeeded failed

theorem success_iff : assessed.state = .success ↔ ¬ Bad signal observations ∧ Completed signal observations := by
  rw [verdict.bad_iff]
  cases verdict with
  | ambiguous several => simp [assessment]
  | contradictory single differ => simp [assessment]
  | incomplete waiting single unfinished => simp [assessment, unfinished]
  | failed reason single failed => simp [assessment]
  | success single completed succeeded => simp [completed]

/-- Only a contradiction is reported as one, and no verdict on an expected signal reports anything about others. -/
theorem kinds : ((∃ finding ∈ assessed.findings, finding.kind = .contradictoryObservation) ↔ assessed.state = .conflict) ∧
      ∀ finding ∈ assessed.findings, finding.kind ≠ .omittedExecution ∧ finding.kind ≠ .missingExpectedContract := by
  cases verdict with
  | ambiguous several => simp [assessment]
  | contradictory single differ => simp [assessment]
  | incomplete waiting single unfinished => rcases waiting with rfl | rfl <;> simp [assessment]
  | failed reason single failed => rcases reason with rfl | rfl | rfl <;> simp [assessment]
  | success single completed succeeded => simp

end

end Assessed

end Signals

section Results

variable {contract : ReconciliationContract} {subjectId : Text} {observations : List SignalObservation}

/-- A signal that the plan omitted was observed. -/
def OmittedObserved (contract : ReconciliationContract) (observations : List SignalObservation) : Prop :=
  ∃ signal ∈ contract.omittedSignals, ∃ observation ∈ observations, observation.signalId = signal.signalId

theorem OmittedObserved.append {more : List SignalObservation} (observed : OmittedObserved contract observations) :
    OmittedObserved contract (observations ++ more) := by
  obtain ⟨signal, listed, observation, member, same⟩ := observed
  exact ⟨signal, listed, observation, mem_append_left _ member, same⟩

theorem mem_omittedExecutionFindings {omittedSignals : List OmittedSignal} {finding : ReconciliationFinding} :
    finding ∈ omittedExecutionFindings omittedSignals observations ↔ ∃ signal ∈ omittedSignals,
      observationsOf signal.signalId observations ≠ [] ∧ finding = ⟨.omittedExecution, some signal.signalId,
        identities (observationsOf signal.signalId observations), ascii "omitted signal " ++ signal.name ++ ascii " was observed"⟩ := by
  rw [omittedExecutionFindings, mem_filterMap]
  refine exists_congr fun signal => and_congr_right fun _ => ?_
  dsimp only
  split
  · rename_i none
    simp [none]
  · rename_i some
    simp [some, eq_comm]

theorem observationsOf_ne_nil {signalId : Text} :
    observationsOf signalId observations ≠ [] ↔ ∃ observation ∈ observations, observation.signalId = signalId := by
  constructor
  · intro some
    obtain ⟨observation, member⟩ := exists_mem_of_ne_nil _ some
    exact ⟨observation, mem_observationsOf.mp member⟩
  · rintro ⟨observation, member⟩
    exact ne_nil_of_mem (mem_observationsOf.mpr member)

section

variable (expected : contract.providerSignals ≠ [])
include expected

/-- The findings of a verdict when some signal is expected. -/
theorem mem_findings {finding : ReconciliationFinding} :
    finding ∈ (classifyObservations contract subjectId observations).findings ↔
      finding ∈ omittedExecutionFindings contract.omittedSignals observations ∨
        ∃ signal ∈ contract.providerSignals, finding ∈ (classifyExpectedSignal signal observations).findings := by
  unfold classifyObservations
  dsimp only
  rw [if_neg expected, append_nil, mem_append, flatMap_map, mem_flatMap]

theorem omittedExecution_iff :
    .omittedExecution ∈ (classifyObservations contract subjectId observations).findings.map (fun finding => finding.kind) ↔
      OmittedObserved contract observations := by
  rw [mem_map]
  constructor
  · rintro ⟨finding, member, kind⟩
    rcases (mem_findings expected).mp member with omitted | ⟨signal, -, found⟩
    · obtain ⟨signal, listed, observed, -⟩ := mem_omittedExecutionFindings.mp omitted
      exact ⟨signal, listed, observationsOf_ne_nil.mp observed⟩
    · exact absurd kind ((assessed_classifyExpectedSignal signal observations).kinds.2 finding found).1
  · rintro ⟨signal, listed, observed⟩
    refine ⟨_, (mem_findings expected).mpr (.inl (mem_omittedExecutionFindings.mpr
      ⟨signal, listed, observationsOf_ne_nil.mpr observed, rfl⟩)), rfl⟩

theorem contradictoryObservation_iff : .contradictoryObservation ∈
        (classifyObservations contract subjectId observations).findings.map (fun finding => finding.kind) ↔
      ∃ signal ∈ contract.providerSignals, (classifyExpectedSignal signal observations).state = .conflict := by
  rw [mem_map]
  constructor
  · rintro ⟨finding, member, kind⟩
    rcases (mem_findings expected).mp member with omitted | ⟨signal, listed, found⟩
    · obtain ⟨signal, listed, observed, rfl⟩ := mem_omittedExecutionFindings.mp omitted
      cases kind
    · exact ⟨signal, listed, (assessed_classifyExpectedSignal signal observations).kinds.1.mp ⟨finding, found, kind⟩⟩
  · rintro ⟨signal, listed, conflict⟩
    obtain ⟨finding, found, kind⟩ := (assessed_classifyExpectedSignal signal observations).kinds.1.mpr conflict
    exact ⟨finding, (mem_findings expected).mpr (.inr ⟨signal, listed, found⟩), kind⟩

theorem missingExpectedContract_absent : .missingExpectedContract ∉
      (classifyObservations contract subjectId observations).findings.map (fun finding => finding.kind) := by
  rw [mem_map]
  rintro ⟨finding, member, kind⟩
  rcases (mem_findings expected).mp member with omitted | ⟨signal, -, found⟩
  · obtain ⟨signal, listed, observed, rfl⟩ := mem_omittedExecutionFindings.mp omitted
    cases kind
  · exact absurd kind ((assessed_classifyExpectedSignal signal observations).kinds.2 finding found).2

end

omit observations in
theorem resultState_bad_iff {findings : List ReconciliationFinding} {assessments : List SignalAssessment} :
    (resultState findings assessments = .failure ∨ resultState findings assessments = .conflict) ↔
      (.omittedExecution ∈ findings.map (fun finding => finding.kind) ∨
          .contradictoryObservation ∈ findings.map (fun finding => finding.kind)) ∨
        .missingExpectedContract ∈ findings.map (fun finding => finding.kind) ∨
          ∃ assessment ∈ assessments, assessment.state = .failure := by
  unfold resultState
  dsimp only
  split
  · rename_i conflict
    exact iff_of_true (.inr rfl) (.inl conflict)
  · rename_i agree
    split
    · rename_i failed
      exact iff_of_true (.inl rfl) (.inr failed)
    · rename_i passed
      refine iff_of_false ?_ (not_or.mpr ⟨agree, passed⟩)
      split
      · simp
      · simp

theorem resultState_success_iff {findings : List ReconciliationFinding} {assessments : List SignalAssessment} :
    resultState findings assessments = .success ↔
      ¬ (resultState findings assessments = .failure ∨ resultState findings assessments = .conflict) ∧
        ∀ assessment ∈ assessments, assessment.state ≠ .pending := by
  rw [resultState_bad_iff]
  unfold resultState
  dsimp only
  split
  · rename_i conflict
    exact iff_of_false (by simp) fun good => good.1 (.inl conflict)
  · rename_i agree
    split
    · rename_i failed
      exact iff_of_false (by simp) fun good => good.1 (.inr failed)
    · rename_i passed
      split
      · rename_i waiting
        obtain ⟨assessment, member, pending⟩ := waiting
        exact iff_of_false (by simp) fun good => good.2 assessment member pending
      · rename_i done
        refine iff_of_true rfl ⟨not_or.mpr ⟨agree, passed⟩, fun assessment member pending => done ?_⟩
        exact ⟨assessment, member, pending⟩

/-- A verdict is bad exactly when an omitted signal was observed or an expected one is bad. -/
theorem bad_iff (expected : contract.providerSignals ≠ []) :
    ((classifyObservations contract subjectId observations).state = .failure ∨
        (classifyObservations contract subjectId observations).state = .conflict) ↔
      OmittedObserved contract observations ∨ ∃ signal ∈ contract.providerSignals, Bad signal observations := by
  have verdicts : (∃ signal ∈ contract.providerSignals, Bad signal observations) ↔
      (∃ signal ∈ contract.providerSignals, (classifyExpectedSignal signal observations).state = .failure) ∨
        ∃ signal ∈ contract.providerSignals, (classifyExpectedSignal signal observations).state = .conflict := by
    simp [(assessed_classifyExpectedSignal _ observations).bad_iff, ← exists_or, ← and_or_left]
  have failures : (∃ assessment ∈ contract.providerSignals.map fun signal => classifyExpectedSignal signal observations,
      assessment.state = .failure) ↔
      ∃ signal ∈ contract.providerSignals, (classifyExpectedSignal signal observations).state = .failure := by
    simp
  have missing := @missingExpectedContract_absent contract subjectId observations expected
  refine resultState_bad_iff.trans ?_
  change (_ ∈ (classifyObservations contract subjectId observations).findings.map _ ∨
    _ ∈ (classifyObservations contract subjectId observations).findings.map _) ∨
    _ ∈ (classifyObservations contract subjectId observations).findings.map _ ∨ _ ↔ _
  rw [omittedExecution_iff expected, contradictoryObservation_iff expected, failures, verdicts, iff_false_intro missing,
    false_or, or_assoc]
  exact or_congr_right or_comm

/-- A verdict is a success exactly when every expected signal completed well and no omitted one was observed. -/
theorem success_iff (expected : contract.providerSignals ≠ []) :
    (classifyObservations contract subjectId observations).state = .success ↔
      (∀ signal ∈ contract.providerSignals, ¬ Bad signal observations ∧ Completed signal observations) ∧
        ¬ OmittedObserved contract observations := by
  have verdict : (classifyObservations contract subjectId observations).state = .success ↔
      ¬ ((classifyObservations contract subjectId observations).state = .failure ∨
        (classifyObservations contract subjectId observations).state = .conflict) ∧
      ∀ signal ∈ contract.providerSignals, (classifyExpectedSignal signal observations).state ≠ .pending := by
    refine resultState_success_iff.trans (and_congr_right fun _ => ?_)
    exact forall_mem_map
  have signals : ∀ signal, ¬ Bad signal observations →
      ((classifyExpectedSignal signal observations).state ≠ .pending ↔ Completed signal observations) := by
    intro signal good
    have assessed := assessed_classifyExpectedSignal signal observations
    have success := assessed.success_iff
    rw [assessed.bad_iff] at good success
    constructor
    · intro done
      refine (success.mp ?_).2
      cases state : (classifyExpectedSignal signal observations).state with
      | pending => exact absurd state done
      | success => rfl
      | failure => exact absurd (.inl state) good
      | conflict => exact absurd (.inr state) good
    · intro completed pending
      rw [success.mpr ⟨good, completed⟩] at pending
      cases pending
  rw [verdict, bad_iff expected]
  constructor
  · rintro ⟨good, done⟩
    rw [not_or, not_exists] at good
    refine ⟨fun signal listed => ?_, good.1⟩
    have sound : ¬ Bad signal observations := fun bad => good.2 signal ⟨listed, bad⟩
    exact ⟨sound, (signals signal sound).mp (done signal listed)⟩
  · rintro ⟨each, unobserved⟩
    refine ⟨?_, fun signal listed => (signals signal (each signal listed).1).mpr (each signal listed).2⟩
    rintro (observed | ⟨signal, listed, bad⟩)
    · exact unobserved observed
    · exact (each signal listed).1 bad

end Results

section Permutations

/-- Findings that differ in the order of their observations only. -/
structure SameFinding (left right : ReconciliationFinding) : Prop where
  kind : left.kind = right.kind
  signalId : left.signalId = right.signalId
  message : left.message = right.message
  observationIds : left.observationIds.Perm right.observationIds

theorem SameFinding.refl (finding : ReconciliationFinding) : SameFinding finding finding :=
  ⟨rfl, rfl, rfl, List.Perm.refl _⟩

/-- Assessments that differ in the order of observations only. -/
def SameAssessment (left right : SignalAssessment) : Prop :=
  left.state = right.state ∧ List.Forall₂ SameFinding left.findings right.findings

variable {contract : ReconciliationContract} {subjectId : Text} {observations others : List SignalObservation}
  {signal : ProviderSignal}

section

variable (same : others.Perm observations)
include same

theorem observationsOf_perm (signalId : Text) : (observationsOf signalId others).Perm (observationsOf signalId observations) :=
  same.filter _

theorem sameAssessment_assessment {state : ReconciliationState} {kind : ReconciliationFindingKind} {message : Text} : SameAssessment (assessment state kind signal (identities others) message)
      (assessment state kind signal (identities observations) message) :=
  ⟨rfl, .cons ⟨rfl, rfl, rfl, same.map _⟩ .nil⟩

theorem sameAssessment_failed {conclusion : Option SignalConclusion} :
    SameAssessment (failedConclusionAssessment signal others conclusion)
      (failedConclusionAssessment signal observations conclusion) := by
  unfold failedConclusionAssessment
  split
  · exact sameAssessment_assessment same
  · exact sameAssessment_assessment same
  · exact sameAssessment_assessment same

/-- The verdict on a signal does not depend on the order of the observations. -/
theorem classifyExpectedSignal_perm :
    SameAssessment (classifyExpectedSignal signal others) (classifyExpectedSignal signal observations) := by
  have found := observationsOf_perm same signal.signalId
  unfold classifyExpectedSignal
  generalize observationsOf signal.signalId others = left at found
  generalize observationsOf signal.signalId observations = right at found
  dsimp only
  by_cases none : right = []
  · rw [if_pos none, if_pos (none ▸ found).eq_nil]
    exact ⟨rfl, .cons (SameFinding.refl _) .nil⟩
  · rw [if_neg none, if_neg fun empty => none (empty ▸ found).symm.eq_nil,
      (found.map fun observation => observation.providerJobId).dedup.length_eq]
    split
    · exact sameAssessment_assessment found
    · have completed := found.filter fun observation => observation.status = .completed
      rw [(completed.map fun observation => observation.conclusion).dedup.length_eq]
      split
      · exact sameAssessment_assessment completed
      · rename_i agree
        rw [one_lt_length_dedup] at agree
        generalize left.filter (fun observation => observation.status = .completed) = leftDone at completed
        generalize right.filter (fun observation => observation.status = .completed) = rightDone at completed agree
        cases leftDone with
        | nil =>
          rw [completed.symm.eq_nil]
          exact sameAssessment_assessment found
        | cons first rest =>
          cases rightDone with
          | nil => cases completed.eq_nil
          | cons second remaining =>
            have member : first ∈ second :: remaining := completed.mem_iff.mp mem_cons_self
            have equal : first.conclusion = second.conclusion := by
              by_contra differ
              exact agree ⟨first, member, second, mem_cons_self, differ⟩
            dsimp only
            rw [equal]
            split
            · exact ⟨rfl, .nil⟩
            · exact sameAssessment_failed completed

end

theorem map_kind_of_same {left right : List ReconciliationFinding} (same : List.Forall₂ SameFinding left right) :
    left.map (fun finding => finding.kind) = right.map fun finding => finding.kind := by
  induction same with
  | nil => rfl
  | cons head tail ih => rw [map_cons, map_cons, head.kind, ih]

omit observations others in
/-- The state of a result follows from the kinds of its findings and the states of its assessments. -/
theorem resultState_congr {left right : List ReconciliationFinding} {first second : List SignalAssessment}
    (findings : List.Forall₂ SameFinding left right) (assessments : List.Forall₂ SameAssessment first second) :
    resultState left first = resultState right second := by
  have states : ∀ state, (∃ assessment ∈ first, assessment.state = state) ↔ ∃ assessment ∈ second, assessment.state = state := by
    intro state
    induction assessments with
    | nil => simp
    | cons head tail ih => simp [head.1, ih]
  simp [resultState, map_kind_of_same findings, states]

theorem omittedExecutionFindings_perm (same : others.Perm observations) (omittedSignals : List OmittedSignal) :
    List.Forall₂ SameFinding (omittedExecutionFindings omittedSignals others)
      (omittedExecutionFindings omittedSignals observations) := by
  induction omittedSignals with
  | nil => exact .nil
  | cons omitted rest ih =>
    have found := observationsOf_perm same omitted.signalId
    unfold omittedExecutionFindings at ih ⊢
    by_cases none : observationsOf omitted.signalId observations = []
    · have empty := (none ▸ found).eq_nil
      simpa only [filterMap_cons, none, empty, if_true] using ih
    · have some : observationsOf omitted.signalId others ≠ [] := fun empty => none (empty ▸ found).symm.eq_nil
      simp only [filterMap_cons, none, some]
      exact .cons ⟨rfl, rfl, rfl, found.map _⟩ ih

theorem assessments_perm (same : others.Perm observations) (signals : List ProviderSignal) :
    List.Forall₂ SameAssessment (signals.map fun signal => classifyExpectedSignal signal others)
      (signals.map fun signal => classifyExpectedSignal signal observations) := by
  induction signals with
  | nil => exact .nil
  | cons signal rest ih => exact .cons (classifyExpectedSignal_perm same) ih

theorem flatMap_findings {left right : List SignalAssessment} (same : List.Forall₂ SameAssessment left right) :
    List.Forall₂ SameFinding (left.flatMap fun assessment => assessment.findings)
      (right.flatMap fun assessment => assessment.findings) := by
  induction same with
  | nil => exact .nil
  | cons head tail ih => exact rel_append head.2 ih

/-- The verdict on permuted observations is the same up to the order in which findings name their observations. -/
theorem classifyObservations_perm (same : others.Perm observations) :
    (classifyObservations contract subjectId others).state = (classifyObservations contract subjectId observations).state ∧
      List.Forall₂ SameFinding (classifyObservations contract subjectId others).findings
        (classifyObservations contract subjectId observations).findings := by
  have assessments := assessments_perm same contract.providerSignals
  have findings : List.Forall₂ SameFinding (classifyObservations contract subjectId others).findings
      (classifyObservations contract subjectId observations).findings := by
    refine rel_append (rel_append (omittedExecutionFindings_perm same _) (flatMap_findings assessments)) ?_
    split
    · exact .cons (SameFinding.refl _) .nil
    · exact .nil
  exact ⟨resultState_congr findings assessments, findings⟩

end Permutations

/-- The verdict on a contract that expects some signal: it does not depend on the order of the observations except where
findings list them, it is a success exactly when every expected signal completed well through one job and no omitted
signal was observed, and no further observations turn a bad verdict into a good or an open one. -/
theorem classifyObservations_spec (contract : ReconciliationContract) (expected : contract.providerSignals ≠ [])
    (subjectId : Text) (observations : List SignalObservation) :
    (∀ others : List SignalObservation, others.Perm observations →
        (classifyObservations contract subjectId others).state = (classifyObservations contract subjectId observations).state ∧
          List.Forall₂ SameFinding (classifyObservations contract subjectId others).findings
            (classifyObservations contract subjectId observations).findings) ∧
      ((classifyObservations contract subjectId observations).state = .success ↔ (∀ signal ∈ contract.providerSignals,
          (∀ first ∈ observations, ∀ second ∈ observations, first.signalId = signal.signalId →
            second.signalId = signal.signalId → first.providerJobId = second.providerJobId) ∧
          (∃ observation ∈ observations, observation.signalId = signal.signalId ∧ observation.status = .completed) ∧
          ∀ observation ∈ observations, observation.signalId = signal.signalId → observation.status = .completed →
            observation.conclusion = some .success) ∧
        ∀ omitted ∈ contract.omittedSignals, ∀ observation ∈ observations, observation.signalId ≠ omitted.signalId) ∧
      ((classifyObservations contract subjectId observations).state = .failure ∨
          (classifyObservations contract subjectId observations).state = .conflict →
        ∀ more, (classifyObservations contract subjectId (observations ++ more)).state = .failure ∨
          (classifyObservations contract subjectId (observations ++ more)).state = .conflict) := by
  refine ⟨fun others same => classifyObservations_perm same, ?_, ?_⟩
  · rw [success_iff expected]
    refine and_congr (forall₂_congr fun signal _ => good_iff) ?_
    simp [OmittedObserved]
  · intro bad more
    rw [bad_iff expected] at bad ⊢
    rcases bad with observed | ⟨signal, listed, bad⟩
    · exact Or.inl observed.append
    · exact Or.inr ⟨signal, listed, bad.append⟩

section Constructors

variable {signal : ProviderSignal} {observations : List SignalObservation} {finding : ReconciliationFinding}

theorem identities_ne_nil : [] ∉ identities observations := by
  intro listed
  obtain ⟨observation, -, empty⟩ := mem_map.mp listed
  exact observation.observationId_ne_nil empty

theorem mem_assessment {state : ReconciliationState} {kind : ReconciliationFindingKind} {ids : List Text} {message : Text}
    (filled : [] ∉ ids) (said : message ≠ []) (member : finding ∈ (assessment state kind signal ids message).findings) :
    finding.postInit = .ok () := by
  rw [assessment, mem_singleton] at member
  subst member
  exact ReconciliationFinding.postInit_eq_ok.mpr ⟨by simpa using signal.signalId_ne_nil, filled, said⟩

/-- The findings of a verdict pass the check of their constructor. -/
theorem classifyExpectedSignal_admits (member : finding ∈ (classifyExpectedSignal signal observations).findings) :
    finding.postInit = .ok () := by
  have start : ascii "expected signal " ≠ [] := by decide
  have said : ∀ rest, expectedSignal signal ++ rest ≠ [] := fun rest =>
    append_ne_nil_of_left_ne_nil (append_ne_nil_of_left_ne_nil start _) rest
  unfold classifyExpectedSignal failedConclusionAssessment at member
  dsimp only at member
  split at member
  · exact mem_assessment not_mem_nil (said _) member
  split at member
  · exact mem_assessment identities_ne_nil (said _) member
  split at member
  · exact mem_assessment identities_ne_nil (said _) member
  split at member
  · exact mem_assessment identities_ne_nil (said _) member
  split at member
  · cases member
  split at member
  · exact mem_assessment identities_ne_nil (said _) member
  · exact mem_assessment identities_ne_nil (said _) member
  · rw [append_assoc] at member
    exact mem_assessment identities_ne_nil (said _) member

/-- A verdict on a snapshot passes the checks of the constructors that it is built with. -/
theorem classifyObservedState_admits (snapshot : ReconciliationSnapshot) :
    (classifyObservedState snapshot).postInit = .ok () ∧
      ∀ finding ∈ (classifyObservedState snapshot).findings, finding.postInit = .ok () := by
  constructor
  · exact raiseIf_eq_ok.mpr snapshot.subject.subjectId_ne_nil
  · intro finding member
    rw [classifyObservedState, classifyObservations, mem_append, mem_append] at member
    rcases member with (omitted | expected) | missing
    · obtain ⟨signal, -, -, rfl⟩ := mem_omittedExecutionFindings.mp omitted
      have said : ascii "omitted signal " ≠ [] := by decide
      exact ReconciliationFinding.postInit_eq_ok.mpr ⟨by simpa using signal.identified, identities_ne_nil,
        append_ne_nil_of_left_ne_nil (append_ne_nil_of_left_ne_nil said _) _⟩
    · rw [flatMap_map, mem_flatMap] at expected
      obtain ⟨signal, -, found⟩ := expected
      exact classifyExpectedSignal_admits found
    · split at missing
      · cases mem_singleton.mp missing
        decide
      · cases missing

end Constructors

namespace Sample

def declaredObject : Json :=
  .obj [(ascii "schemaVersion", .str (ascii "declared-native-provider-signal/v1")),
    (ascii "workflowPath", .str (ascii ".github/workflows/ci.yml")), (ascii "jobId", .str (ascii "gate")),
    (ascii "jobName", .str (ascii "CI gate"))]

def gateSignalId : Text :=
  ascii "provider_signal_" ++ (sha256Hex (render (sortMembers declaredObject)).utf8).take 32

theorem gate_hashed : hashObject declaredObject = .ok (sha256Hex (render (sortMembers declaredObject)).utf8) :=
  hashObject_of_admissible (by decide)

theorem gate_declared :
    declaredSignalId (ascii ".github/workflows/ci.yml") (ascii "gate") (ascii "CI gate") = .ok gateSignalId := by
  have hashed := gate_hashed
  have path : isAdapterWorkflowPath (ascii ".github/workflows/ci.yml") = .ok true := by decide
  have job : isJobId (ascii "gate") = true := by decide
  have name : utf8Within 256 (ascii "CI gate") = .ok true := by decide
  have named : ascii "CI gate" ≠ [] := by decide
  rw [declaredObject] at hashed
  simp [declaredSignalId, path, job, name, named, hashed, gateSignalId, declaredObject]

theorem gate_scalar : gateSignalId.scalar = true := by
  rw [gateSignalId, Text.scalar_append]
  refine ⟨Text.scalar_ascii _, all_eq_true.mpr fun point member => ?_⟩
  exact all_eq_true.mp (scalar_of_isSha256Hex (isSha256Hex_of_hashObject gate_hashed)) point (mem_of_mem_take member)

def gateFields : ProviderSignalFields :=
  ⟨gateSignalId, ascii "CI gate", .declaredNative, none, none, some (ascii ".github/workflows/ci.yml"), some (ascii "gate")⟩

theorem gate_passed : gateFields.postInit = .ok () := by
  simp [ProviderSignalFields.postInit, gateFields, gate_declared]

/-- The declared gate of a workflow. -/
def gate : ProviderSignal :=
  ⟨gateFields, gate_passed⟩

theorem contract_passed : (ContractFields.mk [gate] []).postInit = .ok () := by
  have listed : sortedByText id [gate.signalId] = .ok [gate.signalId] :=
    sortedByText_of_canonical ⟨by simpa [gate, gateFields] using gate_scalar, pairwise_singleton _ _⟩
  have empty : sortedByText id [] = .ok [] := sortedByText_of_canonical CanonicalTexts.nil
  simp [ContractFields.postInit, ContractFields.requireSortedUnique, listed, empty]

/-- A contract that expects the gate. -/
def contract : ReconciliationContract :=
  ⟨⟨[gate], []⟩, contract_passed⟩

def baseSha : Text :=
  List.replicate 40 97

def headSha : Text :=
  List.replicate 40 98

def subjectIdentity : Json :=
  SubjectFields.identityMapping ⟨1, 2, ascii "push", ascii "refs/heads/main", baseSha, headSha, 5, 1, []⟩

def subjectFields : SubjectFields :=
  ⟨1, 2, ascii "push", ascii "refs/heads/main", baseSha, headSha, 5, 1,
    sha256Hex (render (sortMembers subjectIdentity)).utf8⟩

theorem subject_hashed : hashObject subjectIdentity = .ok (sha256Hex (render (sortMembers subjectIdentity)).utf8) :=
  hashObject_of_admissible (by decide)

theorem subject_passed : subjectFields.postInit = .ok () := by
  have digest := isSha256Hex_of_hashObject subject_hashed
  have mapping : subjectFields.identityMapping = subjectIdentity := rfl
  have branch : ascii "refs/heads/main" ≠ [] := by decide
  have base : gitSha baseSha = true := by decide
  have head : gitSha headSha = true := by decide
  simp only [SubjectFields.postInit, mapping, subject_hashed]
  simp [subjectFields, branch, base, head, positiveSafe, maxSafeJsonInteger]

/-- A push to a branch. -/
def subject : ReconciliationSubject :=
  ⟨subjectFields, subject_passed⟩

theorem subject_identified : subject.subjectId ≠ [] := by
  intro empty
  have digest := isSha256Hex_of_hashObject subject_hashed
  change isSha256Hex subject.subjectId = true at digest
  rw [empty] at digest
  cases digest

def observationFields (observationId : Text) : ObservationFields :=
  ⟨observationId, subject.subjectId, gateSignalId, 5, 1, 7, .inProgress, none⟩

theorem observation_passed {observationId : Text} (identified : observationId ≠ []) :
    (observationFields observationId).postInit = .ok () := by
  have subject := subject_identified
  have label : ascii "provider_signal_" ≠ [] := by decide
  simp [ObservationFields.postInit, requireNonEmpty, observationFields, identified, subject, gateSignalId, label,
    positiveSafe, maxSafeJsonInteger]

/-- The gate seen in progress. -/
def started (observationId : Text) (identified : observationId ≠ []) : SignalObservation :=
  ⟨observationFields observationId, observation_passed identified⟩

theorem early_named : ascii "early" ≠ [] := by
  decide

theorem late_named : ascii "late" ≠ [] := by
  decide

/-- Two sightings of the gate through the same job. -/
def early : SignalObservation :=
  started (ascii "early") early_named

def late : SignalObservation :=
  started (ascii "late") late_named

def snapshotFields (observations : List SignalObservation) : SnapshotFields :=
  ⟨subject, contract, observations.length, observations⟩

theorem snapshot_passed {first second : SignalObservation} (members : first = early ∧ second = late ∨ first = late ∧ second = early) :
    (snapshotFields [first, second]).postInit = .ok () := by
  have differ : ascii "early" ≠ ascii "late" := by decide
  rcases members with ⟨rfl, rfl⟩ | ⟨rfl, rfl⟩ <;>
    simp [SnapshotFields.postInit, snapshotFields, early, late, started, observationFields, maxSafeJsonInteger, differ,
      differ.symm, subject, subjectFields]

/-- A snapshot that saw the gate early and then late. -/
def forward : ReconciliationSnapshot :=
  ⟨snapshotFields [early, late], snapshot_passed (Or.inl ⟨rfl, rfl⟩)⟩

/-- The same snapshot in the other order. -/
def backward : ReconciliationSnapshot :=
  ⟨snapshotFields [late, early], snapshot_passed (Or.inr ⟨rfl, rfl⟩)⟩

theorem classify_waiting (first second : SignalObservation) (seen : ∀ one ∈ [first, second], one.signalId = gateSignalId ∧
    one.providerJobId = 7 ∧ one.status = .inProgress) :
    (classifyObservations contract subject.subjectId [first, second]).findings =
      [⟨.incompleteExpectedSignal, some gateSignalId, [first.observationId, second.observationId],
        expectedSignal gate ++ ascii " is incomplete"⟩] := by
  have one := seen first mem_cons_self
  have two := seen second (mem_cons_of_mem _ mem_cons_self)
  have found : observationsOf gateSignalId [first, second] = [first, second] := by
    simp [observationsOf, one.1, two.1]
  have gated : gate.signalId = gateSignalId := rfl
  simp [classifyObservations, contract, omittedExecutionFindings, classifyExpectedSignal, gated, found, one.2, two.2,
    assessment, identities]

end Sample

/-- The verdict on a gate that was seen early and late. -/
theorem Sample.classify_seen :
    (classifyObservations Sample.contract Sample.subject.subjectId [Sample.late, Sample.early]).state =
      (classifyObservations Sample.contract Sample.subject.subjectId [Sample.early, Sample.late]).state :=
  ((classifyObservations_spec Sample.contract (cons_ne_nil _ _) Sample.subject.subjectId [Sample.early, Sample.late]).1
    _ (List.Perm.swap _ _ _)).1

/-- The findings on two orders of the same observations differ. -/
theorem findings_differ :
    Sample.forward.subject = Sample.backward.subject ∧ Sample.forward.contract = Sample.backward.contract ∧
      Sample.forward.observations.Perm Sample.backward.observations ∧
      classifyObservedState Sample.forward ≠ classifyObservedState Sample.backward := by
  refine ⟨rfl, rfl, List.Perm.swap _ _ _, fun same => ?_⟩
  have seen : ∀ one ∈ [Sample.early, Sample.late], one.signalId = Sample.gateSignalId ∧ one.providerJobId = 7 ∧
      one.status = .inProgress := by
    simp [Sample.early, Sample.late, Sample.started, Sample.observationFields]
  have early := Sample.classify_waiting _ _ seen
  have late := Sample.classify_waiting Sample.late Sample.early fun one member =>
    seen one (by simpa [or_comm] using member)
  have findings : (classifyObservedState Sample.forward).findings = (classifyObservedState Sample.backward).findings :=
    congrArg _ same
  have ids : [Sample.early.observationId, Sample.late.observationId] = [Sample.late.observationId, Sample.early.observationId] := by
    have listed := early.symm.trans (findings.trans late)
    simpa using listed
  revert ids
  decide

end CiCoordinator.Reconciliation

import CiCoordinator.AgentRiskAdvice.Admission

/- Why the admission of advice always returns and what admitted advice may request. -/

namespace CiCoordinator.AgentRiskAdvice

open Library Kernel ValidationContract RepoContext List
open PlanningCore Text

/-- A value error whose message can be recorded. -/
def ScalarValueError (error : PyError) : Prop :=
  ∃ message, error = .valueError message ∧ message.scalar = true

variable {fieldName : Text} {increase : AdviceDepthIncrease} {catalog : ValidationCatalog}

theorem scalarValueError {message : Text} (scalar : message.scalar = true) : ScalarValueError (.valueError message) :=
  ⟨message, rfl, scalar⟩

theorem isBoundedText_scalar {value : Text} {maximumBytes : Nat} (bounded : isBoundedText value maximumBytes = true) :
    value.scalar = true := by
  simp only [isBoundedText, Bool.and_eq_true] at bounded
  exact bounded.1.2

theorem requireSorted_raises {values : List Text} {message : Text} (scalar : ∀ value ∈ values, value.scalar = true)
    (messageScalar : message.scalar = true) : Raises ScalarValueError (requireSorted values message) := by
  rw [requireSorted, sortedTexts_of_scalar scalar, ok_bind_eq]
  exact .raiseIf fun _ => scalarValueError messageScalar

variable (value : Json)

theorem adviceSchemaVersion_raises : Raises ScalarValueError (adviceSchemaVersion value) := by
  unfold adviceSchemaVersion
  split
  · exact .raiseIf fun _ => scalarValueError (scalar_ascii _)
  · exact .error (scalarValueError (scalar_ascii _))

theorem adviceString_raises (maximumBytes : Nat) (scalar : fieldName.scalar = true) :
    Raises ScalarValueError (adviceString value fieldName maximumBytes) := by
  have message : ScalarValueError (.valueError (ascii "agent_advice_" ++ fieldName ++ ascii "_invalid")) :=
    scalarValueError (by simp [scalar])
  unfold adviceString
  split
  · split
    · exact .ok
    · exact .error message
  · exact .error message

theorem adviceString_bounded {value : Json} {text : Text} {maximumBytes : Nat}
    (read : adviceString value fieldName maximumBytes = .ok text) : isBoundedText text maximumBytes = true := by
  unfold adviceString at read
  split at read
  · split at read
    · rename_i bounded
      cases read
      exact bounded
    · cases read
  · cases read

theorem adviceConfidence_raises : Raises ScalarValueError (adviceConfidence value) := by
  unfold adviceConfidence
  split
  · split
    · exact .ok
    · exact .error (scalarValueError (scalar_ascii _))
  · split
    · exact .ok
    · exact .error (scalarValueError (scalar_ascii _))
  · exact .error (scalarValueError (scalar_ascii _))

theorem adviceList_raises {A : Type} {value : Json} {readItem : Json → Py A} (scalar : fieldName.scalar = true)
    (each : ∀ item, Raises ScalarValueError (readItem item)) :
    Raises ScalarValueError (adviceList value fieldName readItem) := by
  have message : ScalarValueError (.valueError (ascii "agent_advice_" ++ fieldName ++ ascii "_invalid")) :=
    scalarValueError (by simp [scalar])
  unfold adviceList
  split
  · split
    · exact .error message
    · exact .collect fun item _ => each item
  · exact .error message

/-- Whatever every read item satisfies holds of the list. -/
theorem adviceList_forall {A : Type} {value : Json} {readItem : Json → Py A} {items : List A} {holds : A → Prop}
    (each : ∀ item result, readItem item = .ok result → holds result)
    (read : adviceList value fieldName readItem = .ok items) : ∀ item ∈ items, holds item := by
  unfold adviceList at read
  split at read
  · split at read
    · cases read
    · intro item member
      obtain ⟨source, -, computed⟩ := exists_of_mem_collect read member
      exact each source item computed
  · cases read

theorem adviceDepthIncrease_raises (item : Json) : Raises ScalarValueError (adviceDepthIncrease item) := by
  unfold adviceDepthIncrease
  split
  · split
    · split
      · exact .error (scalarValueError (scalar_ascii _))
      · exact .bind (adviceString_raises _ _ (scalar_ascii _)) fun _ _ => .ok
    · exact .error (scalarValueError (scalar_ascii _))
  · exact .error (scalarValueError (scalar_ascii _))

theorem adviceDepthIncrease_scalar {item : Json} (read : adviceDepthIncrease item = .ok increase) :
    increase.obligationId.scalar = true := by
  unfold adviceDepthIncrease at read
  split at read
  · split at read
    · split at read
      · cases read
      · obtain ⟨obligationId, named, equal⟩ := bind_eq_ok.mp read
        cases equal
        exact isBoundedText_scalar (adviceString_bounded named)
    · cases read
  · cases read

theorem adviceRiskFinding_raises (item : Json) : Raises ScalarValueError (adviceRiskFinding item) := by
  unfold adviceRiskFinding
  split
  · split
    · refine .bind (adviceString_raises _ _ (scalar_ascii _)) fun _ _ => ?_
      exact .bind (adviceString_raises _ _ (scalar_ascii _)) fun _ _ => .ok
    · exact .error (scalarValueError (scalar_ascii _))
  · exact .error (scalarValueError (scalar_ascii _))

theorem adviceRiskFinding_scalar {item : Json} {finding : AdviceRiskFinding} (read : adviceRiskFinding item = .ok finding) :
    finding.obligationId.scalar = true ∧ finding.reason.scalar = true := by
  unfold adviceRiskFinding at read
  split at read
  · split at read
    · obtain ⟨obligationId, named, rest⟩ := bind_eq_ok.mp read
      obtain ⟨reason, explained, equal⟩ := bind_eq_ok.mp rest
      cases equal
      exact ⟨isBoundedText_scalar (adviceString_bounded named), isBoundedText_scalar (adviceString_bounded explained)⟩
    · cases read
  · cases read

theorem adviceFallback_raises : Raises ScalarValueError (adviceFallback value) := by
  unfold adviceFallback
  split
  · exact .ok
  · split
    · exact .ok
    · exact .error (scalarValueError (scalar_ascii _))
  · exact .error (scalarValueError (scalar_ascii _))

/-- Reading advice raises only value errors, all of which become reasons. -/
theorem adviceOfMembers_raises (members : List (Text × Json)) : Raises ScalarValueError (adviceOfMembers members) := by
  refine .bind (adviceSchemaVersion_raises _) fun _ _ => ?_
  refine .bind (adviceString_raises _ _ (scalar_ascii _)) fun _ _ => ?_
  refine .bind (adviceConfidence_raises _) fun _ _ => ?_
  refine .bind (adviceList_raises (scalar_ascii _) fun _ => adviceString_raises _ _ (scalar_ascii _)) fun added addedRead => ?_
  refine .bind (adviceList_raises (scalar_ascii _) adviceDepthIncrease_raises) fun increases increasesRead => ?_
  refine .bind (adviceList_raises (scalar_ascii _) adviceRiskFinding_raises) fun findings findingsRead => ?_
  refine .bind (adviceFallback_raises _) fun _ _ => ?_
  refine .bind (adviceString_raises _ _ (scalar_ascii _)) fun _ _ => ?_
  have addedScalar := adviceList_forall (fun _ _ read => isBoundedText_scalar (adviceString_bounded read)) addedRead
  have increasesScalar := adviceList_forall (fun _ _ read => adviceDepthIncrease_scalar read) increasesRead
  have findingsScalar := adviceList_forall (fun _ _ read => adviceRiskFinding_scalar read) findingsRead
  refine .construct ?_
  refine .bind (requireSorted_raises addedScalar (by simp)) fun _ _ => ?_
  refine .bind (requireSorted_raises ?_ (by simp)) fun _ _ => ?_
  · intro value member
    obtain ⟨increase, inside, rfl⟩ := mem_map.mp member
    exact increasesScalar increase inside
  · refine requireSorted_raises ?_ (by simp)
    intro value member
    obtain ⟨finding, inside, rfl⟩ := mem_map.mp member
    simp [findingsScalar finding inside]

theorem adviceOfMembers_adviceId {members : List (Text × Json)} {advice : AgentAdvice}
    (read : adviceOfMembers members = .ok advice) : advice.adviceId.scalar = true := by
  simp only [adviceOfMembers, bind_eq_ok, exists_unit_iff, construct_eq_ok] at read
  obtain ⟨-, adviceId, named, _, -, _, -, _, -, _, -, _, -, _, -, _, rfl⟩ := read
  exact isBoundedText_scalar (adviceString_bounded named)

theorem keys_scalar {members : List (Text × Json)} (scalar : Json.scalarMembers members) :
    ∀ key ∈ members.map Prod.fst, key.scalar = true := by
  induction members with
  | nil => simp
  | cons member rest ih =>
    obtain ⟨key, value⟩ := member
    rw [Json.scalarMembers] at scalar
    intro other contained
    rcases mem_cons.mp contained with rfl | later
    · exact scalar.1
    · exact ih scalar.2.2 other later

/-- What is known about a parsed output: advice has a recordable identity, and so do the reasons against it. -/
def Recordable : AgentAdvice ⊕ List Text → Prop
  | .inl advice => advice.adviceId.scalar = true
  | .inr reasons => ∀ reason ∈ reasons, reason.scalar = true

/-- Every output parses to advice or to reasons. -/
theorem parseAdvice_total [Interpreter] (rawOutput : List Nat) :
    ∃ outcome, parseAdvice rawOutput = .ok outcome ∧ Recordable outcome := by
  have single : ∀ reason : Text, reason.scalar = true → Recordable (.inr [reason]) := by
    intro reason scalar other member
    rw [mem_singleton] at member
    exact member ▸ scalar
  rcases loadStrictJson_spec rawOutput rawOutput.length with ⟨value, loaded, scalar⟩ | ⟨message, failed⟩
  · cases value with
    | obj members =>
      rw [Json.scalarStrings] at scalar
      have unknownScalar : ∀ key ∈ (members.map Prod.fst).filter (· ∉ adviceKeys), key.scalar = true :=
        fun key member => keys_scalar scalar key (mem_of_mem_filter member)
      have missingScalar : ∀ key ∈ requiredAdviceKeys.filter (· ∉ members.map Prod.fst), key.scalar = true := by
        intro key member
        have known := mem_of_mem_filter (mem_of_mem_filter member)
        simp only [adviceKeys, mem_cons, not_mem_nil, or_false] at known
        rcases known with rfl | rfl | rfl | rfl | rfl | rfl | rfl | rfl <;> exact scalar_ascii _
      obtain ⟨unknown, unknownSorted, unknownCanonical, -⟩ := sortedTexts_total unknownScalar
      obtain ⟨missing, missingSorted, missingCanonical, -⟩ := sortedTexts_total missingScalar
      simp only [parseAdvice, loaded, unknownSorted, missingSorted, ok_bind_eq]
      split
      · exact ⟨_, rfl, single _ (by simp [scalar_joinTexts (scalar_ascii _) unknownCanonical.1])⟩
      · split
        · exact ⟨_, rfl, single _ (by simp [scalar_joinTexts (scalar_ascii _) missingCanonical.1])⟩
        · cases read : adviceOfMembers members with
          | ok advice => exact ⟨_, rfl, adviceOfMembers_adviceId read⟩
          | error error =>
            obtain ⟨message, rfl, messageScalar⟩ := adviceOfMembers_raises members error read
            exact ⟨_, rfl, single message messageScalar⟩
    | _ =>
      simp only [parseAdvice, loaded]
      exact ⟨_, rfl, single _ (scalar_ascii _)⟩
  · simp only [parseAdvice, failed]
    exact ⟨_, rfl, single _ (scalar_ascii _)⟩

/-- Advice requests only what the catalog offers: known obligations and depths that their witnesses support. -/
structure Requestable (catalog : ValidationCatalog) (advice : AgentAdvice) : Prop where
  added : ∀ obligationId ∈ advice.addObligations, ∃ obligation ∈ catalog.obligations,
    obligation.obligationId = obligationId
  increased : ∀ increase ∈ advice.increaseDepth, ∃ obligation ∈ catalog.obligations,
    obligation.obligationId = increase.obligationId ∧ increase.minDepth.rank ≤ obligation.fullDepth.rank ∧
      Supports catalog obligation increase.minDepth
  found : ∀ finding ∈ advice.riskFindings, ∃ obligation ∈ catalog.obligations,
    obligation.obligationId = finding.obligationId

theorem known_of_get? {obligationId : Text} (present : catalog.obligationsById.get? obligationId ≠ none) :
    ∃ obligation ∈ catalog.obligations, obligation.obligationId = obligationId := by
  obtain ⟨obligation, found⟩ := Option.ne_none_iff_exists'.mp present
  obtain ⟨member, identity⟩ := ValidationCatalog.obligationsById_eq_some.mp found
  exact ⟨obligation, member, identity⟩

theorem increaseReasons_scalar : ∀ reason ∈ increaseReasons catalog increase, reason.scalar = true := by
  intro reason member
  unfold increaseReasons at member
  split at member
  · rw [mem_singleton] at member
    exact member ▸ scalar_ascii _
  · rw [mem_reasonIf] at member
    exact member.2 ▸ scalar_ascii _

theorem increaseReasons_eq_nil (none : increaseReasons catalog increase = []) :
    ∃ obligation ∈ catalog.obligations, obligation.obligationId = increase.obligationId ∧
      increase.minDepth.rank ≤ obligation.fullDepth.rank ∧ Supports catalog obligation increase.minDepth := by
  unfold increaseReasons at none
  split at none
  · simp at none
  · rename_i obligation present
    obtain ⟨inside, identity⟩ := ValidationCatalog.obligationsById_eq_some.mp present
    rw [reasonIf_eq_nil] at none
    push Not at none
    refine ⟨obligation, inside, identity, none.1, fun witnessId required => ?_⟩
    have supported := none.2 witnessId required
    rw [Bool.ne_false_iff, Option.any_eq_true] at supported
    obtain ⟨witness, witnessFound, depth⟩ := supported
    exact ⟨witness, witnessFound, by simpa using depth⟩

theorem policyReasonList_scalar (advice : AgentAdvice) (envelope : AdviceExecutionEnvelope) (input : PlanningInput)
    (policy : PlanningPolicy) : ∀ reason ∈ policyReasonList advice envelope input policy, reason.scalar = true := by
  intro reason member
  simp only [policyReasonList, mem_append, mem_reasonIf, mem_flatMap] at member
  rcases member with (((((((member | member) | member) | member) | member) | member) | member) | member) | member
  case inl.inr =>
    obtain ⟨increase, -, nested⟩ := member
    exact increaseReasons_scalar reason nested
  all_goals exact member.2 ▸ scalar_ascii _

theorem requestable_of_policyReasonList {advice : AgentAdvice} {envelope : AdviceExecutionEnvelope}
    {input : PlanningInput} {policy : PlanningPolicy} (none : policyReasonList advice envelope input policy = []) :
    Requestable policy.catalog advice := by
  simp only [policyReasonList, append_eq_nil_iff, reasonIf_eq_nil, flatMap_eq_nil_iff, not_exists, not_and] at none
  obtain ⟨⟨⟨-, added⟩, increased⟩, found⟩ := none
  exact ⟨fun obligationId member => known_of_get? (added obligationId member),
    fun increase member => increaseReasons_eq_nil (increased increase member),
    fun finding member => known_of_get? (found finding member)⟩

/-- The policy always gives its reasons, and without reasons the advice is requestable. -/
theorem policyReasons_total (advice : AgentAdvice) (envelope : AdviceExecutionEnvelope) (input : PlanningInput)
    (policy : PlanningPolicy) :
    ∃ reasons, policyReasons advice envelope input policy = .ok reasons ∧ CanonicalTexts reasons ∧
      (reasons = [] → Requestable policy.catalog advice) := by
  obtain ⟨reasons, sorted, canonical, members⟩ :=
    sortedTexts_total (policyReasonList_scalar advice envelope input policy)
  refine ⟨reasons, sorted, canonical, ?_⟩
  rintro rfl
  have none : policyReasonList advice envelope input policy = [] :=
    eq_nil_iff_forall_not_mem.mpr fun reason member => by simpa using (members reason).mpr member
  exact requestable_of_policyReasonList none

/-- The audit of an envelope can always be recorded. -/
theorem adviceAudit_total (envelope : AdviceExecutionEnvelope) (adviceId : Option Text) (parseValid accepted : Bool)
    {reasons : List Text} (scalar : ∀ reason ∈ reasons, reason.scalar = true) :
    ∃ audit, adviceAudit envelope adviceId parseValid accepted reasons = .ok audit ∧ audit.adviceId = adviceId := by
  obtain ⟨sorted, computed, canonical, -⟩ := sortedTexts_total scalar
  have envelopeAdmitted := envelope.admitted
  have evaluationAdmitted := envelope.evaluation.admitted
  simp only [AdviceExecutionEnvelopeFields.postInit, bind_unit_eq_ok] at envelopeAdmitted
  simp only [AdviceEvaluationEvidenceFields.postInit, bind_unit_eq_ok] at evaluationAdmitted
  obtain ⟨-, -, input, model, prompt, -⟩ := envelopeAdmitted
  obtain ⟨output, evaluator, policy⟩ := evaluationAdmitted
  simp only [requireDigest, requireBoundedText, raiseIf_eq_ok] at output evaluator policy input model prompt
  have admitted : AdviceAuditMetadataFields.postInit
      ⟨envelope.evaluation.outputHash, adviceId, envelope.inputHash, envelope.modelId, envelope.promptHash,
        envelope.evaluation.evaluatorId, envelope.evaluation.policyHash, envelope.evaluation.passed, parseValid, accepted,
        sorted⟩ = .ok () := by
    simp only [AdviceAuditMetadataFields.postInit, requireDigest, requireBoundedText, bind_unit_eq_ok, raiseIf_eq_ok,
      requireSorted_eq_ok]
    exact ⟨output, input, model, prompt, evaluator, policy, canonical⟩
  refine ⟨⟨_, admitted⟩, ?_, rfl⟩
  simp only [adviceAudit, computed, ok_bind_eq]
  exact construct_ok admitted

/-- What is known about an admission. -/
def Admissible (catalog : ValidationCatalog) : AdviceAdmission → Prop
  | .rejected audit => audit.adviceId.all Text.scalar = true
  | .admitted advice audit => Requestable catalog advice ∧ audit.adviceId.all Text.scalar = true

/-- Every envelope is admitted with requestable advice or rejected. -/
theorem admitAdvice_total [Interpreter] (envelope : AdviceExecutionEnvelope) (input : PlanningInput) (policy : PlanningPolicy) :
    ∃ admission, admitAdvice envelope input policy = .ok admission ∧ Admissible policy.catalog admission := by
  obtain ⟨outcome, parsed, recordable⟩ := parseAdvice_total envelope.rawOutput
  cases outcome with
  | inr reasons =>
    obtain ⟨audit, audited, identity⟩ := adviceAudit_total envelope none false false recordable
    refine ⟨.rejected audit, by simp only [admitAdvice, parsed, ok_bind_eq, audited]; rfl, ?_⟩
    simp [Admissible, identity]
  | inl advice =>
    obtain ⟨reasons, listed, canonical, requestable⟩ := policyReasons_total advice envelope input policy
    by_cases rejected : reasons = []
    · obtain ⟨audit, audited, identity⟩ := adviceAudit_total envelope (some advice.adviceId) true true
        (show ∀ reason ∈ ([] : List Text), reason.scalar = true by simp)
      refine ⟨.admitted advice audit, ?_, requestable rejected, ?_⟩
      · simp only [admitAdvice, parsed, ok_bind_eq, listed, rejected, ne_eq, not_true_eq_false, if_false, audited]
        rfl
      · simpa [identity, Recordable] using recordable
    · obtain ⟨audit, audited, identity⟩ := adviceAudit_total envelope (some advice.adviceId) true false canonical.1
      refine ⟨.rejected audit, ?_, ?_⟩
      · simp only [admitAdvice, parsed, ok_bind_eq, listed, ne_eq, rejected, not_false_eq_true, if_true, audited]
        rfl
      · simpa [Admissible, identity, Recordable] using recordable

/-- A policy is open to an evaluated envelope about this input from a listed model and prompt. -/
def OpenTo (input : PlanningInput) (policy : PlanningPolicy) (envelope : AdviceExecutionEnvelope) : Prop :=
  policy.agentAdvice.enabled = true ∧ envelope.inputHash = input.inputHash ∧
    envelope.modelId ∈ policy.agentAdvice.modelIdAllowlist ∧ envelope.promptHash ∈ policy.agentAdvice.promptHashAllowlist ∧
    (policy.agentAdvice.promptInjectionEvalRequired = true → envelope.evaluation.passed = true)

/-- Advice is admitted only where the policy is open to its envelope. -/
theorem openTo_of_admitted [Interpreter] {envelope : AdviceExecutionEnvelope} {input : PlanningInput}
    {policy : PlanningPolicy} {advice : AgentAdvice} {audit : AdviceAuditMetadata}
    (decided : admitAdvice envelope input policy = .ok (.admitted advice audit)) : OpenTo input policy envelope := by
  obtain ⟨outcome, -, decided⟩ := bind_eq_ok.mp decided
  cases outcome with
  | inr reasons =>
    obtain ⟨_, -, equal⟩ := bind_eq_ok.mp decided
    cases equal
  | inl parsed =>
    obtain ⟨reasons, listed, decided⟩ := bind_eq_ok.mp decided
    split at decided
    · obtain ⟨_, -, equal⟩ := bind_eq_ok.mp decided
      cases equal
    · rename_i none
      have empty : policyReasonList parsed envelope input policy = [] := eq_nil_iff_forall_not_mem.mpr fun reason member =>
        not_mem_nil (not_not.mp none ▸ ((sortedTexts_spec listed).2 reason).mpr member)
      simp only [policyReasonList, append_eq_nil_iff, reasonIf_eq_nil, ne_eq, not_not, Bool.not_eq_false, not_and] at empty
      obtain ⟨⟨⟨⟨⟨⟨⟨⟨enabled, hash⟩, model⟩, prompt⟩, -⟩, evaluated⟩, -⟩, -⟩, -⟩ := empty
      exact ⟨enabled, hash, model, prompt, evaluated⟩

end CiCoordinator.AgentRiskAdvice

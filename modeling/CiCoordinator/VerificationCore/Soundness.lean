import CiCoordinator.VerificationCore.PlannerAgreement

/- The guarantees of the verifier over every input, policy, candidate and advice. -/

namespace CiCoordinator.VerificationCore

open Library Kernel ValidationContract RepoContext
open PlanningCore AgentRiskAdvice

variable {input : PlanningInput} {policy : PlanningPolicy} {candidate : DeterministicPlan}

theorem verify_of_rejected [Interpreter] {reason : RejectionReason}
    (rejected : admitDeterministicPlan input policy candidate = .ok (some reason))
    (advice : Option AdviceExecutionEnvelope) :
    verify input policy candidate advice = fallbackPlan input policy reason.text none := by
  simp only [verify, rejected, ok_bind_eq]

theorem verify_of_raised [Interpreter] {error : PyError} (raised : admitDeterministicPlan input policy candidate = .error error)
    (advice : Option AdviceExecutionEnvelope) : verify input policy candidate advice = .error error := by
  simp only [verify, raised]
  rfl

/-- An admitted candidate with advice leads to full CI or to an extension of the candidate. -/
theorem verify_admitted_total [Interpreter] (verifiable : Verifiable input)
    (admission : admitDeterministicPlan input policy candidate = .ok none) (advice : Option AdviceExecutionEnvelope) :
    ∃ verified, verify input policy candidate advice = .ok verified ∧
      (ReplacedByFullCi policy verified ∨ Extends policy candidate verified) := by
  have admitted := admittedPlan_of_admission verifiable admission
  simp only [verify, admission, ok_bind_eq]
  cases advice with
  | none =>
    obtain ⟨verified, id, made, fields⟩ := basePlan_total admitted (show ∀ item ∈ ([] : List VerificationEvidence),
      item.message.scalar = true by simp) (show ∀ audit : AdviceAuditMetadata, none = some audit → audit.adviceId.all Text.scalar = true by simp)
    exact ⟨verified, made, .inr (basePlan_extends admitted fields)⟩
  | some envelope =>
    obtain ⟨admission, computed, admissible⟩ := admitAdvice_total envelope input policy
    simp only [computed, ok_bind_eq]
    cases admission with
    | rejected audit =>
      obtain ⟨verified, id, made, fields⟩ := basePlan_total admitted
        (show ∀ item ∈ [(⟨.agentAdviceRejected, joinTexts (ascii ";") audit.reasons⟩ : VerificationEvidence)],
          item.message.scalar = true by
            simpa using scalar_joinTexts (Text.scalar_ascii _) (audit_reasons_scalar audit))
        (show ∀ other, some audit = some other → other.adviceId.all Text.scalar = true from
          fun other equal => Option.some.inj equal ▸ admissible)
      exact ⟨verified, made, .inr (basePlan_extends admitted fields)⟩
    | admitted advice audit => exact applyAdvice_total verifiable admitted admissible.1 admissible.2

/-- The verifier returns on every verifiable input. -/
theorem verify_total [Interpreter] (verifiable : Verifiable input) (policy : PlanningPolicy) (candidate : DeterministicPlan)
    (advice : Option AdviceExecutionEnvelope) :
    ∃ verified, verify input policy candidate advice = .ok verified ∧ (ReplacedByFullCi policy verified ∨
      admitDeterministicPlan input policy candidate = .ok none ∧ Extends policy candidate verified) := by
  obtain ⟨outcome, admission, -⟩ := admitDeterministicPlan_spec verifiable policy candidate
  cases outcome with
  | none =>
    obtain ⟨verified, computed, outcome⟩ := verify_admitted_total verifiable admission advice
    exact ⟨verified, computed, outcome.imp id fun extending => ⟨admission, extending⟩⟩
  | some reason =>
    obtain ⟨nonempty, scalar⟩ := RejectionReason.recordable reason
    obtain ⟨verified, made, replaced⟩ := fallbackPlan_total verifiable policy reason.text nonempty scalar none (by simp)
    exact ⟨verified, (verify_of_rejected admission advice).trans made, .inl replaced⟩

/-- An input that is not verifiable makes the verifier raise before it can return a plan. -/
theorem verify_raises [Interpreter] (unverifiable : ¬ Verifiable input) (policy : PlanningPolicy) (candidate : DeterministicPlan)
    (advice : Option AdviceExecutionEnvelope) :
    ∃ error, verify input policy candidate advice = .error error ∧ UnverifiableError error ∧
      (admitDeterministicPlan input policy candidate = .error error ∨ ∃ reason : RejectionReason,
        admitDeterministicPlan input policy candidate = .ok (some reason) ∧
          fullCiFallbackPlan input policy reason.text = .error error) := by
  by_cases repoEpoch : admissible input.repoEpoch.toIdentityMapping = true
  · obtain ⟨repoHash, repoHashed⟩ : ∃ hash, hashObject input.repoEpoch.toIdentityMapping = .ok hash :=
      ⟨_, hashObject_of_admissible repoEpoch⟩
    by_cases diff : admissible input.diff.toIdentityMapping = true
    · have malformed : isSha256Hex input.inputHash = false := by
        by_contra wellFormed
        exact unverifiable ⟨repoEpoch, diff, by simpa using wellFormed⟩
      obtain ⟨diffHash, diffHashed⟩ : ∃ hash, hashObject input.diff.toIdentityMapping = .ok hash :=
        ⟨_, hashObject_of_admissible diff⟩
      obtain ⟨inputHash, inputHashed⟩ : ∃ hash,
          hashObject (inputMapping input.repoEpoch input.diff input.dependencyGraph input.policy) = .ok hash :=
        ⟨_, hashObject_of_admissible (admissible_inputMapping repoEpoch)⟩
      have different : input.inputHash ≠ inputHash := by
        intro same
        rw [same, isSha256Hex_of_hashObject inputHashed] at malformed
        cases malformed
      have rejected : admitDeterministicPlan input policy candidate = .ok (some .deterministicPlanMismatch) := by
        simp only [admitDeterministicPlan, coordinatesAreCurrent, inputCoordinatesAreCurrent, repoHashed, diffHashed,
          inputHashed, ok_bind_eq, different, decide_false, Bool.and_false, pure, Except.pure, Bool.false_eq_true, if_false,
          if_true]
      obtain ⟨nonempty, scalar⟩ := RejectionReason.recordable .deterministicPlanMismatch
      obtain ⟨error, failed, classified⟩ := fullCiFallbackPlan_raises repoEpoch malformed policy nonempty scalar
      refine ⟨error, ?_, classified, .inr ⟨_, rejected, failed⟩⟩
      rw [verify_of_rejected rejected, fallbackPlan, failed]
      rfl
    · obtain ⟨refused, failed⟩ := hashObject_of_inadmissible (by simpa using diff)
      have raised : admitDeterministicPlan input policy candidate = .error (.canonicalJsonError refused) := by
        simp only [admitDeterministicPlan, coordinatesAreCurrent, inputCoordinatesAreCurrent, repoHashed, failed, ok_bind_eq]
        rfl
      exact ⟨_, verify_of_raised raised advice, .inl ⟨refused, rfl⟩, .inl raised⟩
  · obtain ⟨refused, failed⟩ := hashObject_of_inadmissible (by simpa using repoEpoch)
    have raised : admitDeterministicPlan input policy candidate = .error (.canonicalJsonError refused) := by
      simp only [admitDeterministicPlan, coordinatesAreCurrent, failed]
      rfl
    exact ⟨_, verify_of_raised raised advice, .inl ⟨refused, rfl⟩, .inl raised⟩

theorem verifiable_of_returned [Interpreter] {advice : Option AdviceExecutionEnvelope} {verified : VerifiedPlan}
    (returned : verify input policy candidate advice = .ok verified) : Verifiable input := by
  by_contra unverifiable
  obtain ⟨error, raised, -⟩ := verify_raises unverifiable policy candidate advice
  rw [returned] at raised
  cases raised

/-- A returned plan is the full plan of the policy or an extension of an admitted candidate. -/
theorem verify_outcome [Interpreter] {advice : Option AdviceExecutionEnvelope} {verified : VerifiedPlan}
    (returned : verify input policy candidate advice = .ok verified) :
    ReplacedByFullCi policy verified ∨ AdmittedPlan input policy candidate ∧ Extends policy candidate verified := by
  have verifiable := verifiable_of_returned returned
  obtain ⟨other, computed, outcome⟩ := verify_total verifiable policy candidate advice
  rw [returned, Except.ok.injEq] at computed
  subst computed
  exact outcome.imp id fun extending => ⟨admittedPlan_of_admission verifiable extending.1, extending.2⟩

/-- Without advice an admitted candidate is returned as it is. -/
theorem verify_without_advice [Interpreter] (admission : admitDeterministicPlan input policy candidate = .ok none)
    {base : VerifiedPlan} (returned : verify input policy candidate none = .ok base) :
    base.selectedObligations = candidate.selectedObligations ∧ base.selectedWitnesses = candidate.selectedWitnesses ∧
      base.omittedObligations = candidate.omittedObligations := by
  have admitted := admittedPlan_of_admission (verifiable_of_returned returned) admission
  obtain ⟨verified, id, made, fields⟩ := basePlan_total admitted (show ∀ item ∈ ([] : List VerificationEvidence),
    item.message.scalar = true by simp)
    (show ∀ audit : AdviceAuditMetadata, none = some audit → audit.adviceId.all Text.scalar = true by simp)
  simp only [verify, admission, ok_bind_eq, made, Except.ok.injEq] at returned
  subst returned
  rw [fields]
  exact ⟨rfl, rfl, rfl⟩

/-- Whatever the candidate and the advice, the verifier omits only obligations that the change cannot affect and selects
every other obligation of the catalog with all its witnesses. -/
theorem verify_omission_sound [Interpreter] {advice : Option AdviceExecutionEnvelope} {verified : VerifiedPlan}
    (returned : verify input policy candidate advice = .ok verified) :
    (∀ omitted ∈ verified.omittedObligations, ∃ obligation ∈ policy.catalog.obligations,
      obligation.obligationId = omitted.obligationId ∧ obligation.omitAllowed = true ∧ input.fallbackReasons = [] ∧
      (∀ path ∈ input.diff.namedPaths,
        isNode input.dependencyGraph path = true ∧ isGlobalRisk input.dependencyGraph path = false) ∧
      Unaffected input.dependencyGraph input.diff.namedPaths obligation) ∧
    ∀ obligation ∈ policy.catalog.obligations, obligation.obligationId ∉ omittedIdsOf verified.omittedObligations →
      ∃ item ∈ verified.selectedObligations, item.obligationId = obligation.obligationId ∧
        obligation.defaultDepth.rank ≤ item.depth.rank ∧
        (verified.fallback.triggered = true → obligation.fullDepth.rank ≤ item.depth.rank) ∧
        item.requiredWitnessIds = obligation.requiredWitnessIds ∧
        ∀ witnessId ∈ obligation.requiredWitnessIds, ∃ witness ∈ verified.selectedWitnesses,
          witness.witnessId = witnessId ∧ obligation.obligationId ∈ witness.requiredByObligationIds ∧
          item.depth.rank ≤ witness.depth.rank := by
  have outcome := verify_outcome returned
  have closes := verified.consistent.closes
  constructor
  · intro omitted member
    rcases outcome with replaced | ⟨admitted, extending⟩
    · rw [replaced.nothingOmitted] at member
      cases member
    · have source := verified.consistent.omissions member
      rw [extending.source] at source
      obtain ⟨obligation, justified⟩ := admitted.justified omitted source
      obtain ⟨regular, known, safe⟩ := admitted.context (List.ne_nil_of_mem source)
      exact ⟨obligation, justified.known, justified.identity, justified.allowed, regular,
        fun path changed => ⟨known path changed, safe path changed⟩, justified.unaffected⟩
  · intro obligation inside kept
    obtain ⟨item, selected, identity, required, deep, full⟩ :=
      selects_of_not_omitted (outcome.imp id And.right) inside kept
    refine ⟨item, selected, identity, deep, full, required, fun witnessId listed => ?_⟩
    have requires : witnessId ∈ item.requiredWitnessIds := required ▸ listed
    obtain ⟨witness, witnessMember, rfl⟩ := closes.required item selected witnessId requires
    exact ⟨witness, witnessMember, rfl, (closes.requiredBy witness witnessMember _).mpr ⟨item, selected, identity, requires⟩,
      closes.strong witness witnessMember item selected requires⟩

namespace Sample

/-- A host whose recursion limit is the usual one. -/
abbrev interpreter : Interpreter :=
  ⟨1000⟩

theorem returns_without_advice {input : PlanningInput} {result : DeterministicPlan}
    (built : BuiltFrom epoch (change (ascii "src/main")) artifact snapshot input)
    (admission : admitDeterministicPlan input policy result = .ok none) :
    ∃ verified, @verify interpreter input policy result none = .ok verified ∧
      verified.omittedObligations = result.omittedObligations := by
  let _ := interpreter
  obtain ⟨verified, returned, -⟩ := verify_total built.verifiable policy result none
  exact ⟨verified, returned, (verify_without_advice admission returned).2.2⟩

end Sample

/-- Only a source file changes: the verifier omits the documentation check, which the change cannot affect. -/
theorem verify_omission_sound_source : ∃ input result verified,
    BuiltFrom Sample.epoch (Sample.change (ascii "src/main")) Sample.artifact Sample.snapshot input ∧
      @verify Sample.interpreter input Sample.policy result none = .ok verified ∧
      (∃ omitted ∈ verified.omittedObligations, omitted.obligationId = ascii "docs") ∧
      Unaffected input.dependencyGraph input.diff.namedPaths Sample.docs := by
  let _ := Sample.interpreter
  obtain ⟨input, result, built, -, admission, listed⟩ := Sample.source_plan
  obtain ⟨verified, returned, same⟩ := Sample.returns_without_advice built admission
  obtain ⟨omitted, member, identity⟩ := List.mem_map.mp listed
  have inside : omitted ∈ verified.omittedObligations := same.symm ▸ member
  obtain ⟨obligation, known, obligationIdentity, -, -, -, unaffected⟩ :=
    (verify_omission_sound returned).1 omitted inside
  have docs : obligation = Sample.docs :=
    ValidationCatalog.obligation_unique known (by decide +kernel) (obligationIdentity.trans identity)
  exact ⟨input, result, verified, built, returned, ⟨omitted, inside, identity⟩, docs ▸ unaffected⟩

/-- The verifier returns exactly on the verifiable inputs. On every other input it raises while it admits the candidate
or builds the full plan, and only because the input cannot be hashed or carries a malformed hash. -/
theorem verify_returns_iff [Interpreter] (input : PlanningInput) (policy : PlanningPolicy) (candidate : DeterministicPlan)
    (advice : Option AdviceExecutionEnvelope) :
    ((∃ verified, verify input policy candidate advice = .ok verified) ↔ Verifiable input) ∧
      ∀ error, verify input policy candidate advice = .error error → UnverifiableError error ∧
        (admitDeterministicPlan input policy candidate = .error error ∨ ∃ reason : RejectionReason,
          admitDeterministicPlan input policy candidate = .ok (some reason) ∧
            fullCiFallbackPlan input policy reason.text = .error error) := by
  refine ⟨⟨fun ⟨_, returned⟩ => verifiable_of_returned returned, fun verifiable => ?_⟩, fun error raised => ?_⟩
  · obtain ⟨verified, returned, -⟩ := verify_total verifiable policy candidate advice
    exact ⟨verified, returned⟩
  · by_cases verifiable : Verifiable input
    · obtain ⟨verified, returned, -⟩ := verify_total verifiable policy candidate advice
      rw [raised] at returned
      cases returned
    · obtain ⟨other, computed, classified, origin⟩ := verify_raises verifiable policy candidate advice
      rw [raised, Except.error.injEq] at computed
      subst computed
      exact ⟨classified, origin⟩

/-- An input with an empty hash is well typed, and the verifier raises on it. -/
theorem verify_raises_on_empty_hash : ∃ (input : PlanningInput) (result : DeterministicPlan), input.inputHash = [] ∧
    ∃ error, @verify Sample.interpreter input Sample.policy result none = .error error := by
  let _ := Sample.interpreter
  obtain ⟨input, result, -⟩ := Sample.source_plan
  have unverifiable : ¬ Verifiable { input with inputHash := [] } := by
    rintro ⟨-, -, wellFormed⟩
    exact absurd wellFormed (by simp [isSha256Hex])
  obtain ⟨error, raised, -⟩ := verify_raises unverifiable Sample.policy result none
  exact ⟨_, result, rfl, error, raised⟩

/-- Where the verifier returns a plan without advice it returns one with every advice. The advised plan covers the
other, and outside full CI it runs under no further authority. -/
theorem verify_advice_strengthens [Interpreter] {base : VerifiedPlan} (returned : verify input policy candidate none = .ok base)
    (envelope : AdviceExecutionEnvelope) :
    ∃ advised, verify input policy candidate (some envelope) = .ok advised ∧
      ((compareCoverage base.selectedObligations base.selectedWitnesses advised.selectedObligations
          advised.selectedWitnesses).relation = .equal ∨
        (compareCoverage base.selectedObligations base.selectedWitnesses advised.selectedObligations
          advised.selectedWitnesses).relation = .strictlyGreater) ∧
      (advised.fallback.triggered = false → ∃ baseAuthorities advisedAuthorities,
        executionAuthorities policy.catalog base.selectedWitnesses = .ok baseAuthorities ∧
          executionAuthorities policy.catalog advised.selectedWitnesses = .ok advisedAuthorities ∧
          advisedAuthorities ⊆ baseAuthorities) := by
  have verifiable := verifiable_of_returned returned
  obtain ⟨advised, computed, outcome⟩ := verify_total verifiable policy candidate (some envelope)
  refine ⟨advised, computed, ?_⟩
  rw [compareCoverage_dominates_iff base.consistent.selected.nodup advised.consistent.selected.nodup
    base.consistent.closes.ordered.nodup advised.consistent.closes.ordered.nodup]
  obtain ⟨decision, admission, -⟩ := admitDeterministicPlan_spec verifiable policy candidate
  cases decision with
  | some reason =>
    rw [verify_of_rejected admission] at returned computed
    rw [returned, Except.ok.injEq] at computed
    subst computed
    refine ⟨⟨fun source member => ⟨source, member, rfl, rfl, le_rfl⟩,
      fun source member => ⟨source, member, rfl, le_rfl, List.Subset.refl _⟩⟩, fun regular => ?_⟩
    rcases outcome with replaced | ⟨contradiction, -⟩
    · rw [replaced.triggered] at regular
      cases regular
    · rw [admission] at contradiction
      cases contradiction
  | none =>
    have admitted := admittedPlan_of_admission verifiable admission
    obtain ⟨obligations, witnesses, -⟩ := verify_without_advice admission returned
    rw [obligations, witnesses]
    rcases outcome with replaced | ⟨-, extending⟩
    · have covers := replaced.covers admitted
      refine ⟨⟨covers, Closes.covers admitted.classifies.closes advised.consistent.closes covers⟩, fun regular => ?_⟩
      rw [replaced.triggered] at regular
      cases regular
    · have consistent := advised.consistent
      refine ⟨⟨?_, ?_⟩, fun _ => extending.authorities⟩
      · simpa only [extending.source] using consistent.covers
      · simpa only [extending.source] using consistent.witnesses

namespace Sample

/-- An agent output that asks for the documentation check. -/
def output : List Nat :=
  (ascii "\x7b\"schemaVersion\":\"agent-risk-advice/v2\",\"addObligations\":[\"docs\"]\x7d").utf8

def envelope : AdviceExecutionEnvelope :=
  ⟨⟨output, digest, ascii "model", digest, ⟨⟨sha256Hex output, ascii "evaluator", digest, true⟩, by decide +kernel⟩⟩,
    by decide +kernel⟩

/-- The policy is open to evaluated advice of one model. -/
def openPolicy : PlanningPolicy :=
  ⟨⟨digest, digest, digest, catalog, 60, ⟨⟨true, [ascii "model"], [digest], .ofInt 0, true⟩, by decide +kernel⟩⟩,
    by decide +kernel⟩

/-- Complete advice that adds the documentation check. -/
def adviceOutput : List Nat :=
  (render (.obj [(ascii "schemaVersion", .str agentAdviceSchemaVersion), (ascii "adviceId", .str (ascii "advice")),
    (ascii "confidence", .int 1), (ascii "addObligations", .arr [.str (ascii "docs")]), (ascii "increaseDepth", .arr []),
    (ascii "riskFindings", .arr []), (ascii "rationale", .str (ascii "quoted"))])).utf8

def evaluation : AdviceEvaluationEvidence :=
  ⟨⟨sha256Hex adviceOutput, ascii "evaluator", digest, true⟩, by decide +kernel⟩

/-- The advice that the output carries. -/
def advice : AgentAdvice :=
  ⟨⟨ascii "advice", .ofInt 1, [ascii "docs"], [], [], ascii "quoted", false⟩, by decide +kernel⟩

theorem parseAdvice_adviceOutput : @parseAdvice interpreter adviceOutput = .ok (.inl advice) := by
  decide +kernel

/-- The witness of the lint check alone. -/
def lintChecker : SelectedWitness :=
  ⟨⟨ascii "checker", .smoke, [ascii "lint"]⟩, by decide +kernel⟩

/-- The witness of both checks. -/
def sharedChecker : SelectedWitness :=
  ⟨⟨ascii "checker", .smoke, [ascii "docs", ascii "lint"]⟩, by decide +kernel⟩

/-- The planner and the admission do not read what a policy says about advice. -/
theorem source_open : ∃ input result, BuiltFrom epoch (change (ascii "src/main")) artifact snapshot input ∧
    plan input openPolicy = .ok (.inl result) ∧ admitDeterministicPlan input openPolicy result = .ok none ∧
    result.selectedObligations = [lintSelected] ∧ result.selectedWitnesses = [lintChecker] ∧
    result.fallback.triggered = false := by
  obtain ⟨input, result, built, computed, admission, omits, selective⟩ := source_selective
  have kept : ¬ Omits input lint := fun omitted => absurd omitted.allowed (by decide)
  have selected : result.selectedObligations = [lintSelected] := by
    refine selective.selects_single (List.mem_pair.mpr (.inr rfl)) kept (fun other known kept => ?_) rfl
    rcases List.mem_pair.mp known with rfl | rfl
    · exact absurd omits kept
    · rfl
  have closed : closeSelectedWitnesses catalog [lintSelected] = .ok [lintChecker] := by
    decide +kernel
  have canonical : CanonicalTexts (idsOf [lintSelected]) := selected ▸ result.facts.selected
  have closes := selective.closes
  rw [selected] at closes
  exact ⟨input, result, built, computed, admission, selected,
    closes.unique ((closeSelectedWitnesses_eq_ok canonical).mp closed).2, selective.triggered⟩

/-- The advice on an input in an envelope that the policy is open to. -/
theorem admitAdvice_adviceOutput {input : PlanningInput} (hashed : isSha256Hex input.inputHash = true) :
    ∃ (envelope : AdviceExecutionEnvelope) (audit : AdviceAuditMetadata),
      @admitAdvice interpreter envelope input openPolicy = .ok (.admitted advice audit) := by
  have checks : adviceOutput ≠ [] ∧ adviceOutput.length ≤ maxAgentAdviceOutputBytes ∧
      requireBoundedText (ascii "model") (ascii "advice model id") 256 = .ok () := by
    decide +kernel
  have admitted : AdviceExecutionEnvelopeFields.postInit
      ⟨adviceOutput, input.inputHash, ascii "model", digest, evaluation⟩ = .ok () := by
    simp only [AdviceExecutionEnvelopeFields.postInit, bind_unit_eq_ok, valueErrorIf, raiseIf_eq_ok, requireDigest, hashed]
    exact ⟨checks.1, Nat.not_lt.mpr checks.2.1, by simp, checks.2.2, by decide +kernel, fun differs => differs rfl⟩
  let envelope : AdviceExecutionEnvelope := ⟨_, admitted⟩
  have reasons : policyReasonList advice envelope input openPolicy = [] := by
    have known : (Float64.ofInt 1).lt (.ofInt 0) = false ∧ catalog.obligationsById.get? (ascii "docs") ≠ none := by
      decide +kernel
    simp [policyReasonList, reasonIf, known, envelope, openPolicy, advice, evaluation]
  obtain ⟨audit, audited, -⟩ := adviceAudit_total envelope (some advice.adviceId) true true
    (show ∀ reason ∈ ([] : List Text), reason.scalar = true by simp)
  refine ⟨envelope, audit, ?_⟩
  simp only [admitAdvice, show envelope.rawOutput = adviceOutput from rfl, parseAdvice_adviceOutput, ok_bind_eq, policyReasons,
    reasons, show sortedTexts [] = .ok [] from rfl, ne_eq, not_true_eq_false, if_false, audited]
  rfl

/-- What the advice makes of the selection without the documentation check. -/
theorem strengthen_advice : ∃ table, strengthen catalog [lintSelected] advice = .ok table ∧
    sortedByText (fun item => item.obligationId) table.values = .ok [docsSelected, lintSelected] :=
  exists_of_returns (by decide +kernel)

theorem applyAdvice_selection {input : PlanningInput} {result : DeterministicPlan} {audit : AdviceAuditMetadata}
    {advised : VerifiedPlan} (selected : result.selectedObligations = [lintSelected])
    (witnesses : result.selectedWitnesses = [lintChecker])
    (applied : applyAdvice input openPolicy result advice audit = .ok advised) :
    advised.selectedObligations = [docsSelected, lintSelected] ∧ advised.fallback = result.fallback := by
  obtain ⟨table, strengthened, sorted⟩ := strengthen_advice
  have closed : closeSelectedWitnesses catalog [docsSelected, lintSelected] = .ok [sharedChecker] ∧
      executionAuthorities catalog [sharedChecker] = .ok [authorityOf profile] ∧
      executionAuthorities catalog [lintChecker] = .ok [authorityOf profile] ∧
      (compareCoverage [lintSelected] [lintChecker] [docsSelected, lintSelected] [sharedChecker]).relation =
        .strictlyGreater := by
    decide +kernel
  rw [applyAdvice, if_neg (by decide)] at applied
  simp only [selected, witnesses, show openPolicy.catalog = catalog from rfl, strengthened, sorted, closed, ok_bind_eq,
    List.Subset.refl, not_true_eq_false, if_false, reduceCtorEq, or_self] at applied
  simp only [makeVerifiedPlan, strengthenedPlan, bind_eq_ok] at applied
  obtain ⟨final, ordered, _, -, _, -, _, -, made⟩ := applied
  obtain ⟨_, rfl⟩ := construct_eq_ok.mp made
  have same : sortedByText (fun item : SelectedObligation => item.obligationId) [docsSelected, lintSelected] =
      .ok [docsSelected, lintSelected] := by
    decide +kernel
  exact ⟨(Except.ok.inj (same.symm.trans ordered)).symm, rfl⟩

end Sample

/-- The advice of an agent on the change of a source file adds the check that the plan omits, under the same authority. -/
theorem verify_advice_strengthens_source : ∃ (input : PlanningInput) (result : DeterministicPlan)
    (envelope : AdviceExecutionEnvelope) (base advised : VerifiedPlan),
    @verify Sample.interpreter input Sample.openPolicy result none = .ok base ∧
      @verify Sample.interpreter input Sample.openPolicy result (some envelope) = .ok advised ∧
      base.selectedObligations = [Sample.lintSelected] ∧
      advised.selectedObligations = [Sample.docsSelected, Sample.lintSelected] ∧
      ((compareCoverage base.selectedObligations base.selectedWitnesses advised.selectedObligations
          advised.selectedWitnesses).relation = .equal ∨
        (compareCoverage base.selectedObligations base.selectedWitnesses advised.selectedObligations
          advised.selectedWitnesses).relation = .strictlyGreater) ∧
      ∃ baseAuthorities advisedAuthorities,
        executionAuthorities Sample.catalog base.selectedWitnesses = .ok baseAuthorities ∧
          executionAuthorities Sample.catalog advised.selectedWitnesses = .ok advisedAuthorities ∧
          advisedAuthorities ⊆ baseAuthorities := by
  let _ := Sample.interpreter
  obtain ⟨input, result, built, -, admission, selected, witnesses, regular⟩ := Sample.source_open
  obtain ⟨base, returned, -⟩ := verify_total built.verifiable Sample.openPolicy result none
  obtain ⟨envelope, audit, decided⟩ := Sample.admitAdvice_adviceOutput built.verifiable.inputHash
  obtain ⟨advised, computed, dominates, contained⟩ := verify_advice_strengthens returned envelope
  have applied := computed
  simp only [verify, admission, decided, ok_bind_eq] at applied
  obtain ⟨strengthened, same⟩ := Sample.applyAdvice_selection selected witnesses applied
  exact ⟨input, result, envelope, base, advised, returned, computed,
    (verify_without_advice admission returned).1.trans selected, strengthened, dominates, contained (same ▸ regular)⟩

/-- An envelope that the policy is not open to changes nothing that runs, whatever the agent has put out. -/
theorem closed_advice_ignored [Interpreter] {base : VerifiedPlan} (returned : verify input policy candidate none = .ok base)
    (envelope : AdviceExecutionEnvelope) (closed : ¬ OpenTo input policy envelope) :
    ∃ advised, verify input policy candidate (some envelope) = .ok advised ∧
      advised.selectedObligations = base.selectedObligations ∧ advised.selectedWitnesses = base.selectedWitnesses ∧
      advised.omittedObligations = base.omittedObligations := by
  have verifiable := verifiable_of_returned returned
  obtain ⟨decision, admission, -⟩ := admitDeterministicPlan_spec verifiable policy candidate
  cases decision with
  | some reason =>
    rw [verify_of_rejected admission] at returned ⊢
    exact ⟨base, returned, rfl, rfl, rfl⟩
  | none =>
    obtain ⟨selected, witnesses, omitted⟩ := verify_without_advice admission returned
    obtain ⟨decision, decided, recordable⟩ := admitAdvice_total envelope input policy
    cases decision with
    | admitted advice audit => exact absurd (openTo_of_admitted decided) closed
    | rejected audit =>
      obtain ⟨advised, id, made, fields⟩ := basePlan_total (admittedPlan_of_admission verifiable admission)
        (show ∀ item ∈ [(⟨.agentAdviceRejected, joinTexts (ascii ";") audit.reasons⟩ : VerificationEvidence)],
          item.message.scalar = true by simpa using scalar_joinTexts (Text.scalar_ascii _) (audit_reasons_scalar audit))
        (show ∀ other, some audit = some other → _ from fun other equal => Option.some.inj equal ▸ recordable)
      refine ⟨advised, by simp only [verify, admission, decided, ok_bind_eq, made], ?_⟩
      rw [fields, selected, witnesses, omitted]
      exact ⟨rfl, rfl, rfl⟩

/-- The sample policy lists no model. -/
theorem closed_advice_ignored_source : ∃ input result base advised,
    @verify Sample.interpreter input Sample.policy result none = .ok base ∧
      @verify Sample.interpreter input Sample.policy result (some Sample.envelope) = .ok advised ∧
      advised.omittedObligations = base.omittedObligations := by
  let _ := Sample.interpreter
  obtain ⟨input, result, built, -, admission, -⟩ := Sample.source_plan
  obtain ⟨base, returned, -⟩ := Sample.returns_without_advice built admission
  obtain ⟨advised, computed, -, -, same⟩ := closed_advice_ignored returned Sample.envelope
    fun opened => absurd opened.2.2.1 (by decide +kernel)
  exact ⟨input, result, base, advised, returned, computed, same⟩

/-- Whatever the candidate and the advice, nothing is omitted when an entry of the raw diff is irregular, and an obligation
that names a path of an entry, the new or the previous one, is selected with all its witnesses. -/
theorem raw_change_selected [Interpreter] {repoEpoch : RepositoryEpoch} {raw : DiffBuildInput}
    {artifact : DependencyGraphArtifact} {snapshot : PolicySnapshot} {input : PlanningInput} {policy : PlanningPolicy}
    {candidate : DeterministicPlan} {advice : Option AdviceExecutionEnvelope} {verified : VerifiedPlan}
    (built : BuiltFrom repoEpoch raw artifact snapshot input) (returned : verify input policy candidate advice = .ok verified) :
    (¬ raw.Regular → verified.omittedObligations = []) ∧ ∀ entry ∈ raw.files, ∀ path, isSafeRelativePath path = true →
      entry.path = .text path ∨ entry.previousPath = .text path → ∀ obligation ∈ policy.catalog.obligations,
        ∀ pattern ∈ obligation.responsibilityPaths, matchesPathPattern pattern path = true →
          ∃ item ∈ verified.selectedObligations, item.obligationId = obligation.obligationId ∧
            obligation.defaultDepth.rank ≤ item.depth.rank ∧
            ∀ witnessId ∈ obligation.requiredWitnessIds, ∃ witness ∈ verified.selectedWitnesses, witness.witnessId = witnessId := by
  have outcome := verify_outcome returned
  have omission : ∀ omitted ∈ verified.omittedObligations, input.fallbackReasons = [] ∧
      ∃ obligation ∈ policy.catalog.obligations, obligation.obligationId = omitted.obligationId ∧
        Unaffected input.dependencyGraph input.diff.namedPaths obligation := by
    intro omitted member
    rcases outcome with replaced | ⟨admitted, extending⟩
    · rw [replaced.nothingOmitted] at member
      cases member
    · have source := verified.consistent.omissions member
      rw [extending.source] at source
      obtain ⟨obligation, justified⟩ := admitted.justified omitted source
      exact ⟨(admitted.context (List.ne_nil_of_mem source)).1, obligation, justified.known, justified.identity, justified.unaffected⟩
  refine ⟨fun irregular => List.eq_nil_iff_forall_not_mem.mpr fun omitted member => irregular ?_,
    fun entry listed path safe named obligation known pattern responsible touched => ?_⟩
  · exact (reasons_eq_nil built.diffBuilt).mp (built.regular (omission omitted member).1).diffReasons
  · have kept : obligation.obligationId ∉ omittedIdsOf verified.omittedObligations := by
      intro omittedId
      obtain ⟨omitted, member, same⟩ := List.mem_map.mp omittedId
      obtain ⟨-, other, otherKnown, identity, unaffected⟩ := omission omitted member
      obtain rfl := ValidationCatalog.obligation_unique otherKnown known (identity.trans same)
      obtain ⟨paths, computed, inside⟩ := mem_changedPaths built.diffBuilt listed safe named
      have impacted : Impacted input.dependencyGraph input.diff.namedPaths path :=
        ⟨path, ((DiffContext.changedPaths_spec computed).2 path).mp inside, .refl⟩
      rw [unaffected.paths path impacted pattern responsible] at touched
      cases touched
    obtain ⟨item, selected, identity, required, deep, -⟩ := selects_of_not_omitted (outcome.imp id And.right) known kept
    refine ⟨item, selected, identity, deep, fun witnessId needed => ?_⟩
    obtain ⟨witness, member, same⟩ := verified.consistent.closes.required item selected witnessId (required ▸ needed)
    exact ⟨witness, member, same⟩

/-- A change of the documentation selects its check. -/
theorem raw_change_selected_docs : ∃ input candidate verified,
    BuiltFrom Sample.epoch (Sample.change (ascii "docs/guide")) Sample.artifact Sample.snapshot input ∧
      @verify Sample.interpreter input Sample.policy candidate none = .ok verified ∧
      ∃ item ∈ verified.selectedObligations, item.obligationId = ascii "docs" := by
  let _ := Sample.interpreter
  obtain ⟨input, computed, -⟩ := @Sample.exists_of_returns _ (fun _ => True) _
    (buildInput Sample.epoch (Sample.change (ascii "docs/guide")) Sample.artifact Sample.snapshot) (by decide +kernel)
  obtain ⟨_, candidate, -⟩ := Sample.source_plan
  have built := BuiltFrom.of_buildInput computed
  obtain ⟨verified, returned, -⟩ := verify_total built.verifiable Sample.policy candidate none
  obtain ⟨item, selected, identity, -⟩ := (raw_change_selected built returned).2 _ (List.mem_singleton.mpr rfl)
    (ascii "docs/guide") (by decide +kernel) (Or.inl rfl) Sample.docs (by decide +kernel) (ascii "docs/**")
    (by decide +kernel) (by decide +kernel)
  exact ⟨input, candidate, verified, built, returned, item, selected, identity⟩

end CiCoordinator.VerificationCore

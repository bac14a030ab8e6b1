import CiCoordinator.VerificationCore.Strengthening

/- The outcomes of the verifier: the full plan of the policy or an extension of the candidate. -/

namespace CiCoordinator.VerificationCore

open Library Kernel ValidationContract RepoContext List
open PlanningCore AgentRiskAdvice Text

variable {input : PlanningInput} {policy : PlanningPolicy} {candidate : DeterministicPlan}

/-- What every result needs to know about an admitted candidate. -/
structure AdmittedPlan (input : PlanningInput) (policy : PlanningPolicy) (candidate : DeterministicPlan) : Prop where
  classifies : Classifies policy.catalog candidate
  grounded : ∀ item ∈ candidate.selectedObligations, Grounded policy.catalog item
  bounded : ∀ item ∈ candidate.selectedObligations, ∀ obligation ∈ policy.catalog.obligations,
    obligation.obligationId = item.obligationId → item.depth.rank ≤ obligation.fullDepth.rank
  justified : ∀ omitted ∈ candidate.omittedObligations, ∃ obligation, OmissionJustified input policy omitted obligation
  context : candidate.omittedObligations ≠ [] → input.fallbackReasons = [] ∧
    (∀ path ∈ input.diff.namedPaths, isNode input.dependencyGraph path = true) ∧
    ∀ path ∈ input.diff.namedPaths, isGlobalRisk input.dependencyGraph path = false

variable {advice : Option AdviceAuditMetadata} {verified : VerifiedPlan}

theorem fallbackReasons_of_context (context : selectiveContextIsAdmitted input = .ok true) : input.fallbackReasons = [] := by
  simp only [selectiveContextIsAdmitted, bind_eq_ok, pure_eq_ok_iff, Bool.and_eq_true, decide_eq_true_eq, and_assoc] at context
  obtain ⟨-, -, none, -⟩ := context
  exact none

/-- A full plan decides every obligation at full depth. -/
theorem admittedPlan_of_exactFullCi (current : Current input policy candidate) (exact : ExactFullCi policy candidate) :
    AdmittedPlan input policy candidate := by
  obtain ⟨selected, computed, ids, repeats⟩ := selectAll_total policy.catalog (·.fullDepth)
  have same : candidate.selectedObligations = selected := by
    have expected := exact.selected
    rw [expectedSelected] at expected
    simp only [if_true] at expected
    rw [computed, Except.ok.injEq] at expected
    exact expected.symm
  have depthOf : ∀ item ∈ candidate.selectedObligations, ∀ obligation ∈ policy.catalog.obligations,
      obligation.obligationId = item.obligationId → item.depth = obligation.fullDepth := by
    intro item member obligation inside identity
    obtain ⟨other, otherInside, fields⟩ := repeats item (same ▸ member)
    rw [fields] at identity ⊢
    rw [ValidationCatalog.obligation_unique inside otherInside identity]
  have grounded : ∀ item ∈ candidate.selectedObligations, Grounded policy.catalog item := by
    intro item member
    obtain ⟨obligation, inside, fields⟩ := repeats item (same ▸ member)
    refine ⟨obligation, inside, by rw [fields], by rw [fields], ?_, ?_⟩
    · rw [fields]
      exact supports_full inside
    · rw [fields]
      exact obligation.facts.depths
  refine ⟨⟨current.catalog.symm, Grounded.closable grounded, exact.closes, ?_, ?_⟩, grounded, ?_, ?_, ?_⟩
  · intro id
    simp only [exact.omitted, same, ids, map_nil, not_mem_nil, or_false]
  · intro _
    refine ⟨exact.omitted, fun item member obligation inside identity => ?_⟩
    rw [depthOf item member obligation inside identity]
  · intro item member obligation inside identity
    rw [depthOf item member obligation inside identity]
  · simp [exact.omitted]
  · simp [exact.omitted]

/-- An admitted selective plan decides every obligation at default depth. -/
theorem admittedPlan_of_selective (current : Current input policy candidate)
    (selective : SelectiveAdmitted input policy candidate) (regular : candidate.fallback.triggered = false) :
    AdmittedPlan input policy candidate := by
  have complete := selective.complete
  have grounded : ∀ item ∈ candidate.selectedObligations, Grounded policy.catalog item := by
    intro item member
    have known := (complete.classified item.obligationId).mp (.inl (mem_map_of_mem member))
    obtain ⟨obligation, inside, identity⟩ := mem_map.mp known
    obtain ⟨required, depth⟩ := complete.defaults item member obligation inside identity
    exact ⟨obligation, inside, identity, required.symm, depth ▸ supports_default inside, by rw [depth]⟩
  refine ⟨⟨current.catalog.symm, Grounded.closable grounded, complete.closes, complete.classified, ?_⟩, grounded, ?_,
    selective.omissions, fun _ => ⟨fallbackReasons_of_context selective.context, selective.known, selective.safe⟩⟩
  · intro triggered
    rw [regular] at triggered
    cases triggered
  · intro item member obligation inside identity
    rw [(complete.defaults item member obligation inside identity).2]
    exact obligation.facts.depths

/-- Admission always decides, and an admitted candidate is an admitted plan. -/
theorem admittedPlan_of_admission (verifiable : Verifiable input)
    (admission : admitDeterministicPlan input policy candidate = .ok none) : AdmittedPlan input policy candidate := by
  obtain ⟨outcome, computed, admittedIff⟩ := admitDeterministicPlan_spec verifiable policy candidate
  rw [admission, Except.ok.injEq] at computed
  obtain ⟨current, decided⟩ := admittedIff.mp computed.symm
  split at decided
  · exact admittedPlan_of_exactFullCi current decided
  · rename_i regular
    exact admittedPlan_of_selective current decided (by simpa using regular)

/-- A strengthened selection makes a consistent plan. -/
theorem strengthenedPlan_consistent (admitted : AdmittedPlan input policy candidate) {table : Dictionary Text SelectedObligation}
    (strengthened : Strengthened policy.catalog candidate.selectedObligations table) {final : List SelectedObligation}
    (canonical : CanonicalTexts (idsOf final)) (members : ∀ item, item ∈ final ↔ ∃ key, table.get? key = some item)
    {witnesses : List SelectedWitness} (closes : Closes final witnesses) (evidence : List VerificationEvidence)
    (advice : Option AdviceAuditMetadata) :
    (strengthenedPlan candidate policy.catalog final witnesses evidence advice).Consistent := by
  have classifies := admitted.classifies
  have grounded : ∀ item ∈ final, Grounded policy.catalog item := by
    intro item member
    obtain ⟨key, found⟩ := (members item).mp member
    exact strengthened.grounded key item found
  have covers : ∀ source ∈ candidate.selectedObligations, ∃ item ∈ final, Covers item source := by
    intro source member
    obtain ⟨item, found, covered⟩ := strengthened.keeps source member
    exact ⟨item, (members item).mpr ⟨_, found⟩, covered⟩
  have knownIds : ∀ id ∈ idsOf final, id ∈ catalogIds policy.catalog := by
    intro id listed
    obtain ⟨item, member, rfl⟩ := mem_map.mp listed
    obtain ⟨obligation, inside, identity, -⟩ := grounded item member
    exact mem_map.mpr ⟨obligation, inside, identity⟩
  have omittedIds : ∀ id, id ∈ omittedIdsOf (candidate.omittedObligations.filter fun item =>
      item.obligationId ∉ idsOf final) ↔ id ∈ omittedIdsOf candidate.omittedObligations ∧ id ∉ idsOf final := by
    intro id
    simp only [mem_map, mem_filter, decide_eq_true_eq]
    constructor
    · rintro ⟨item, ⟨member, outside⟩, rfl⟩
      exact ⟨⟨item, member, rfl⟩, outside⟩
    · rintro ⟨⟨item, member, rfl⟩, outside⟩
      exact ⟨item, ⟨member, outside⟩, rfl⟩
  have classified : ∀ id, (id ∈ idsOf final ∨ id ∈ omittedIdsOf (candidate.omittedObligations.filter fun item =>
      item.obligationId ∉ idsOf final)) ↔ id ∈ catalogIds policy.catalog := by
    intro id
    rw [omittedIds]
    constructor
    · rintro (selected | ⟨omitted, -⟩)
      · exact knownIds id selected
      · exact (classifies.classified id).mp (.inr omitted)
    · intro known
      rcases (classifies.classified id).mpr known with selected | omitted
      · obtain ⟨source, member, rfl⟩ := mem_map.mp selected
        obtain ⟨item, inside, covered⟩ := covers source member
        exact .inl (mem_map.mpr ⟨item, inside, covered.1⟩)
      · by_cases inside : id ∈ idsOf final
        · exact .inl inside
        · exact .inr ⟨omitted, inside⟩
  refine ⟨classifies.hash, canonical, candidate.facts.omitted.sublist (filter_sublist.map _),
    Grounded.closable grounded, closes, ?_, classified, ?_, ?_, covers, ?_, filter_sublist.subset,
    Closes.covers classifies.closes closes covers⟩
  · intro id selected omitted
    exact ((omittedIds id).mp omitted).2 selected
  · intro triggered
    obtain ⟨nothing, deep⟩ := classifies.full triggered
    refine ⟨by simp [strengthenedPlan, nothing], fun item member obligation inside identity => ?_⟩
    have selected : item.obligationId ∈ idsOf candidate.selectedObligations := by
      have known := (classifies.classified item.obligationId).mpr (knownIds _ (mem_map_of_mem member))
      simpa [nothing] using known
    obtain ⟨source, sourceMember, sourceIdentity⟩ := mem_map.mp selected
    obtain ⟨cover, coverMember, covered⟩ := covers source sourceMember
    have same : cover = item :=
      inj_on_of_nodup_map canonical.nodup coverMember member (covered.1.trans sourceIdentity)
    exact same ▸ (deep source sourceMember obligation inside (identity.trans sourceIdentity.symm)).trans covered.2.2
  · intro id
    exact (classified id).trans (classifies.classified id).symm
  · intro item member
    obtain ⟨obligation, inside, identity, required, -⟩ := grounded item member
    rcases (classifies.classified item.obligationId).mpr (knownIds _ (mem_map_of_mem member)) with selected | omitted
    · obtain ⟨source, sourceMember, sourceIdentity⟩ := mem_map.mp selected
      refine .inl ⟨source, sourceMember, sourceIdentity, ?_⟩
      rw [classifies.closable.required sourceMember inside (identity.trans sourceIdentity.symm), required]
    · obtain ⟨source, sourceMember, sourceIdentity⟩ := mem_map.mp omitted
      refine .inr ⟨source, sourceMember, sourceIdentity, ?_⟩
      obtain ⟨other, justified⟩ := admitted.justified source sourceMember
      have same : other = obligation := ValidationCatalog.obligation_unique justified.known inside
        (justified.identity.trans (sourceIdentity.trans identity.symm))
      rw [justified.requirements, same, required]

/-- A verified plan that replaces the candidate by full CI. -/
structure ReplacedByFullCi (policy : PlanningPolicy) (verified : VerifiedPlan) : Prop where
  catalog : verified.catalog = policy.catalog
  source : IsFullCi policy verified.sourcePlan
  triggered : verified.fallback.triggered = true

/-- A verified plan that runs the candidate or more, under the authorities of the candidate. -/
structure Extends (policy : PlanningPolicy) (candidate : DeterministicPlan) (verified : VerifiedPlan) : Prop where
  catalog : verified.catalog = policy.catalog
  source : verified.sourcePlan = candidate
  grounded : ∀ item ∈ verified.selectedObligations, Grounded policy.catalog item
  authorities : ∃ base final, executionAuthorities policy.catalog candidate.selectedWitnesses = .ok base ∧
    executionAuthorities policy.catalog verified.selectedWitnesses = .ok final ∧ final ⊆ base

theorem repeatFullCi_total {plan : DeterministicPlan} (full : IsFullCi policy plan)
    (evidence : List VerificationEvidence) (scalar : ∀ item ∈ evidence, item.message.scalar = true)
    (identity : ∀ audit, advice = some audit → audit.adviceId.all Text.scalar = true) :
    ∃ verified, makeVerifiedPlan (repeatPlan plan policy.catalog evidence advice) = .ok verified ∧
      ReplacedByFullCi policy verified := by
  obtain ⟨verified, id, made, fields⟩ := makeVerifiedPlan_total
    (repeatPlan_consistent full.classifies evidence advice) (VerifiedPlanFields.admissible_identity scalar identity)
  refine ⟨verified, made, ?_, ?_, ?_⟩
  · rw [fields]
    rfl
  · rw [fields]
    exact full
  · rw [fields]
    exact full.triggered

/-- The fallback of a verifiable input always exists. -/
theorem fallbackPlan_total (verifiable : Verifiable input) (policy : PlanningPolicy) (reason : Text)
    (nonempty : reason ≠ []) (scalar : reason.scalar = true) (advice : Option AdviceAuditMetadata)
    (identity : ∀ audit, advice = some audit → audit.adviceId.all Text.scalar = true) :
    ∃ verified, fallbackPlan input policy reason advice = .ok verified ∧ ReplacedByFullCi policy verified := by
  obtain ⟨plan, computed, full⟩ := fullCiFallbackPlan_total verifiable policy reason nonempty scalar
  obtain ⟨verified, made, replaced⟩ := repeatFullCi_total full [⟨.deterministic, reason⟩] (by simpa using scalar) identity
  exact ⟨verified, by simp only [fallbackPlan, computed, ok_bind_eq, made], replaced⟩

/-- An admitted candidate can always be repeated. -/
theorem basePlan_total (admitted : AdmittedPlan input policy candidate) {evidence : List VerificationEvidence}
    (scalar : ∀ item ∈ evidence, item.message.scalar = true)
    (identity : ∀ audit, advice = some audit → audit.adviceId.all Text.scalar = true) :
    ∃ verified id, basePlan candidate policy.catalog advice evidence = .ok verified ∧
      verified.toVerifiedPlanFields = { repeatPlan candidate policy.catalog (independentlyAdmitted :: evidence) advice with
        executionPlanId := id } := by
  refine makeVerifiedPlan_total (repeatPlan_consistent admitted.classifies _ advice)
    (VerifiedPlanFields.admissible_identity ?_ identity)
  intro item member
  rcases mem_cons.mp member with rfl | later
  · exact scalar_ascii _
  · exact scalar item later

variable (audit : AdviceAuditMetadata)

theorem rejectedAudit_total {reason : Text} (scalar : reason.scalar = true) :
    ∃ rejected, rejectedAudit audit reason = .ok rejected ∧ rejected.adviceId = audit.adviceId := by
  have auditAdmitted := audit.admitted
  simp only [AdviceAuditMetadataFields.postInit, bind_unit_eq_ok, requireSorted_eq_ok] at auditAdmitted
  obtain ⟨advised, inputHash, model, prompt, evaluation, policyHash, canonical⟩ := auditAdmitted
  have listed : ∀ text ∈ audit.reasons ++ [reason], text.scalar = true := by
    intro text member
    rcases mem_append.mp member with earlier | new
    · exact canonical.1 text earlier
    · exact mem_singleton.mp new ▸ scalar
  obtain ⟨reasons, sorted, sortedCanonical, -⟩ := sortedTexts_total listed
  have admitted : AdviceAuditMetadataFields.postInit
      { audit.toAdviceAuditMetadataFields with accepted := false, reasons := reasons } = .ok () := by
    simp only [AdviceAuditMetadataFields.postInit, bind_unit_eq_ok, requireSorted_eq_ok]
    exact ⟨advised, inputHash, model, prompt, evaluation, policyHash, sortedCanonical⟩
  refine ⟨⟨_, admitted⟩, ?_, rfl⟩
  simp only [rejectedAudit, sorted, ok_bind_eq]
  exact construct_ok admitted

theorem adviceEvidence_scalar {catalog : ValidationCatalog} {advice : AgentAdvice}
    (requestable : Requestable catalog advice) : ∀ item ∈ adviceEvidence advice, item.message.scalar = true := by
  have known : ∀ id : Text, (∃ obligation ∈ catalog.obligations, obligation.obligationId = id) → id.scalar = true := by
    rintro id ⟨obligation, -, rfl⟩
    exact scalar_of_isIdentifier obligation.facts.identifier
  intro item member
  simp only [adviceEvidence, mem_append, mem_map] at member
  rcases member with (⟨id, listed, rfl⟩ | ⟨increase, listed, rfl⟩) | ⟨finding, listed, rfl⟩
  · simp [known id (requestable.added id listed)]
  · obtain ⟨obligation, inside, same, -⟩ := requestable.increased increase listed
    simp [known increase.obligationId ⟨obligation, inside, same⟩]
  · simp [known finding.obligationId (requestable.found finding listed)]

/-- Requestable advice always leads to full CI or to an extension of the candidate. -/
theorem applyAdvice_total (verifiable : Verifiable input) (admitted : AdmittedPlan input policy candidate)
    {advice : AgentAdvice} (requestable : Requestable policy.catalog advice) {audit : AdviceAuditMetadata}
    (identity : audit.adviceId.all Text.scalar = true) :
    ∃ verified, applyAdvice input policy candidate advice audit = .ok verified ∧
      (ReplacedByFullCi policy verified ∨ Extends policy candidate verified) := by
  have audited : ∀ other, some audit = some other → other.adviceId.all Text.scalar = true := by
    rintro other equal
    exact Option.some.inj equal ▸ identity
  have refused : ∀ reason : Text, reason ≠ [] → reason.scalar = true → ∃ verified, (do
        let rejected ← rejectedAudit audit reason
        fallbackPlan input policy reason (some rejected)) = .ok verified ∧ ReplacedByFullCi policy verified := by
    intro reason nonempty scalar
    obtain ⟨rejected, computed, same⟩ := rejectedAudit_total audit scalar
    obtain ⟨verified, made, replaced⟩ := fallbackPlan_total verifiable policy reason nonempty scalar
      (some rejected) (fun other equal => by rw [← Option.some.inj equal, same]; exact identity)
    exact ⟨verified, by simp only [computed, ok_bind_eq, made], replaced⟩
  unfold applyAdvice
  split
  · obtain ⟨plan, computed, full⟩ := fullCiFallbackPlan_total verifiable policy
      (ascii "agent_advice_recommended_full_ci") (by decide) (scalar_ascii _)
    obtain ⟨verified, made, replaced⟩ := repeatFullCi_total full [⟨.deterministic, ascii "agent_advice_recommended_full_ci"⟩,
        ⟨.agentAdviceAccepted, ascii "agent_advice_recommended_full_ci"⟩] (by simp) audited
    exact ⟨verified, by simp only [computed, ok_bind_eq, made], .inl replaced⟩
  · obtain ⟨table, strengthenComputed, strengthened⟩ :=
      strengthen_total candidate.facts.selected admitted.grounded requestable
    obtain ⟨final, sorted, canonical, members⟩ := strengthened.sorted
    have grounded : ∀ item ∈ final, Grounded policy.catalog item := by
      intro item member
      obtain ⟨key, found⟩ := (members item).mp member
      exact strengthened.grounded key item found
    obtain ⟨witnesses, closed, closes⟩ := closeSelectedWitnesses_total canonical (Grounded.closable grounded)
    obtain ⟨finalAuthorities, finalComputed⟩ := executionAuthorities_total (Grounded.closable grounded) closes
    obtain ⟨baseAuthorities, baseComputed⟩ :=
      executionAuthorities_total admitted.classifies.closable admitted.classifies.closes
    simp only [strengthenComputed, sorted, closed, finalComputed, baseComputed, ok_bind_eq]
    split
    · obtain ⟨verified, computed, replaced⟩ := refused (ascii "agent_advice_authority_expansion") (by decide) (scalar_ascii _)
      exact ⟨verified, computed, .inl replaced⟩
    · rename_i contained
      rw [not_not] at contained
      split
      · obtain ⟨verified, computed, replaced⟩ := refused (ascii "agent_advice_coverage_regression") (by decide) (scalar_ascii _)
        exact ⟨verified, computed, .inl replaced⟩
      · have consistent := strengthenedPlan_consistent admitted strengthened canonical members closes
          (independentlyAdmitted :: adviceEvidence advice) (some audit)
        obtain ⟨verified, id, made, fields⟩ := makeVerifiedPlan_total consistent (VerifiedPlanFields.admissible_identity (by
            intro item member
            rcases mem_cons.mp member with rfl | later
            · exact scalar_ascii _
            · exact adviceEvidence_scalar requestable item later) audited)
        refine ⟨verified, made, .inr ⟨by rw [fields]; rfl, by rw [fields]; rfl, ?_, ?_⟩⟩
        · rw [fields]
          exact grounded
        · rw [fields]
          exact ⟨baseAuthorities, finalAuthorities, baseComputed, finalComputed, contained⟩

theorem RejectionReason.recordable (reason : RejectionReason) : reason.text ≠ [] ∧ reason.text.scalar = true := by
  cases reason <;> exact ⟨by decide, scalar_ascii _⟩

theorem audit_reasons_scalar : ∀ reason ∈ audit.reasons, reason.scalar = true := by
  have admitted := audit.admitted
  simp only [AdviceAuditMetadataFields.postInit, bind_unit_eq_ok, requireSorted_eq_ok] at admitted
  exact admitted.2.2.2.2.2.2.1

/-- Repeating the candidate extends it. -/
theorem basePlan_extends (admitted : AdmittedPlan input policy candidate) {evidence : List VerificationEvidence}
    {id : Text} (fields : verified.toVerifiedPlanFields =
      { repeatPlan candidate policy.catalog (independentlyAdmitted :: evidence) advice with executionPlanId := id }) :
    Extends policy candidate verified := by
  obtain ⟨authorities, computed⟩ :=
    executionAuthorities_total admitted.classifies.closable admitted.classifies.closes
  refine ⟨by rw [fields]; rfl, by rw [fields]; rfl, ?_, ?_⟩
  · rw [fields]
    exact admitted.grounded
  · rw [fields]
    exact ⟨authorities, authorities, computed, computed, List.Subset.refl _⟩

theorem VerifiedPlan.consistent (verified : VerifiedPlan) : verified.Consistent :=
  (VerifiedPlanFields.postInit_eq_ok.mp verified.admitted).1

theorem ReplacedByFullCi.nothingOmitted (replaced : ReplacedByFullCi policy verified) : verified.omittedObligations = [] := by
  have contained := verified.consistent.omissions
  rw [replaced.source.nothingOmitted] at contained
  exact subset_nil.mp contained

/-- Full CI selects every obligation of the catalog at its full depth or deeper. -/
theorem ReplacedByFullCi.selects (replaced : ReplacedByFullCi policy verified) {obligation : ValidationObligation}
    (inside : obligation ∈ policy.catalog.obligations) :
    ∃ item ∈ verified.selectedObligations, item.obligationId = obligation.obligationId ∧
      item.requiredWitnessIds = obligation.requiredWitnessIds ∧ obligation.fullDepth.rank ≤ item.depth.rank := by
  obtain ⟨source, member, fields⟩ := replaced.source.selectsAll obligation inside
  obtain ⟨item, selected, identity, required, deep⟩ := verified.consistent.covers source member
  rw [fields] at identity required deep
  exact ⟨item, selected, identity, required, deep⟩

/-- Every obligation that is not omitted is selected at its default depth or deeper, and at its full depth or deeper in
full CI. -/
theorem selects_of_not_omitted (outcome : ReplacedByFullCi policy verified ∨ Extends policy candidate verified)
    {obligation : ValidationObligation} (inside : obligation ∈ policy.catalog.obligations)
    (kept : obligation.obligationId ∉ omittedIdsOf verified.omittedObligations) :
    ∃ item ∈ verified.selectedObligations, item.obligationId = obligation.obligationId ∧
      item.requiredWitnessIds = obligation.requiredWitnessIds ∧ obligation.defaultDepth.rank ≤ item.depth.rank ∧
      (verified.fallback.triggered = true → obligation.fullDepth.rank ≤ item.depth.rank) := by
  rcases outcome with replaced | extending
  · obtain ⟨item, selected, identity, required, deep⟩ := replaced.selects inside
    exact ⟨item, selected, identity, required, obligation.facts.depths.trans deep, fun _ => deep⟩
  · have listed : obligation.obligationId ∈ catalogIds verified.catalog := by
      rw [extending.catalog]
      exact mem_map_of_mem inside
    obtain ⟨item, selected, identity⟩ :=
      mem_map.mp (((verified.consistent.classified _).mpr listed).resolve_right kept)
    obtain ⟨other, otherInside, otherIdentity, required, -, deep⟩ := extending.grounded item selected
    have same : other = obligation :=
      ValidationCatalog.obligation_unique otherInside inside (otherIdentity.trans identity)
    subst same
    exact ⟨item, selected, identity, required.symm, deep, fun triggered =>
      (verified.consistent.full triggered).2 item selected other (extending.catalog ▸ inside) otherIdentity⟩

/-- Full CI covers every admitted candidate. -/
theorem ReplacedByFullCi.covers (replaced : ReplacedByFullCi policy verified) (admitted : AdmittedPlan input policy candidate) :
    ∀ source ∈ candidate.selectedObligations, ∃ item ∈ verified.selectedObligations, Covers item source := by
  intro source member
  obtain ⟨obligation, inside, identity, required, -⟩ := admitted.grounded source member
  obtain ⟨item, selected, itemIdentity, itemRequired, deep⟩ := replaced.selects inside
  exact ⟨item, selected, itemIdentity.trans identity, itemRequired.trans required,
    (admitted.bounded source member obligation inside identity).trans deep⟩

/-- The errors of an input that cannot be verified. -/
def UnverifiableError (error : PyError) : Prop :=
  (∃ refused, error = .canonicalJsonError refused) ∨
    error = .valueError (ascii "input_hash must be lowercase SHA-256 hexadecimal")

theorem fullCiFallbackPlan_raises (repoEpoch : admissible input.repoEpoch.toIdentityMapping = true)
    (malformed : isSha256Hex input.inputHash = false) (policy : PlanningPolicy) {reason : Text} (nonempty : reason ≠ [])
    (scalar : reason.scalar = true) :
    ∃ error, fullCiFallbackPlan input policy reason = .error error ∧ UnverifiableError error := by
  obtain ⟨selected, selectedAll, ids, repeats⟩ := selectAll_total policy.catalog (·.fullDepth)
  have canonical : CanonicalTexts (idsOf selected) := ids ▸ policy.catalog.facts.obligations
  have closable : Closable policy.catalog selected := closable_of_depths (fun _ member => supports_full member) repeats
  obtain ⟨witnesses, closed, closes⟩ := closeSelectedWitnesses_total canonical closable
  obtain ⟨fallback, fallbackMade, -⟩ :=
    PlanFallback.create_total policy.facts.2.2.2.1 policy.facts.2.2.2.2 nonempty scalar
  obtain ⟨evidence, evidenceMade⟩ := PlanEvidence.fallback_total nonempty scalar
  obtain ⟨repoHash, repoHashed⟩ : ∃ hash, hashObject input.repoEpoch.toIdentityMapping = .ok hash :=
    ⟨_, hashObject_of_admissible repoEpoch⟩
  simp only [fullCiFallbackPlan, selectedAll, closed, fallbackMade, evidenceMade, repoHashed, ok_bind_eq, DeterministicPlan.seal]
  set fields : DeterministicPlanFields :=
    { planId := []
      configEpochId := input.policy.epochId
      repoEpochHash := repoHash
      inputHash := input.inputHash
      diffHash := input.diff.diffHash
      compiledPolicyHash := policy.compiledPolicyHash
      policyHash := policy.policyHash
      dependencyGraphHash := input.dependencyGraph.graphHash
      catalogHash := policy.catalog.catalogHash
      selectedObligations := selected
      selectedWitnesses := witnesses
      omittedObligations := []
      fallback := fallback
      evidence := [evidence] }
  by_cases passed : admissible fields.identityMapping = true
  · obtain ⟨id, identified, idNonempty, idScalar⟩ := DeterministicPlanFields.expectedId_total passed
    refine ⟨_, ?_, .inr rfl⟩
    simp only [identified, ok_bind_eq]
    rw [construct_eq_error]
    have planId : requireNonEmptyString id (ascii "plan_id") = .ok () :=
      requireNonEmptyString_eq_ok.mpr ⟨idNonempty, idScalar⟩
    have config : requireSha256 input.policy.epochId (ascii "config_epoch_id") = .ok () :=
      requireSha256_eq_ok.mpr input.policy.digests.1
    have repo : requireSha256 repoHash (ascii "repo_epoch_hash") = .ok () :=
      requireSha256_eq_ok.mpr (isSha256Hex_of_hashObject repoHashed)
    have refused : requireSha256 input.inputHash (ascii "input_hash") =
        .error (.valueError (ascii "input_hash must be lowercase SHA-256 hexadecimal")) := by
      simp only [requireSha256, raiseIf, malformed, if_true]
      rfl
    simp only [DeterministicPlanFields.postInit, planId, ok_bind_eq, forEach, config, repo, refused]
    rfl
  · obtain ⟨refused, failed⟩ := hashObject_of_inadmissible (by simpa using passed)
    refine ⟨.canonicalJsonError refused, ?_, .inl ⟨refused, rfl⟩⟩
    simp only [DeterministicPlanFields.expectedId, failed]
    rfl

end CiCoordinator.VerificationCore

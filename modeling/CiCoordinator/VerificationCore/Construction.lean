import CiCoordinator.AgentRiskAdvice.Totality
import CiCoordinator.VerificationCore.Consistency

/- When verified plans can be constructed and the full plan that is always available. -/

namespace CiCoordinator.VerificationCore

open Library Kernel ValidationContract RepoContext List
open PlanningCore AgentRiskAdvice

@[simp] theorem scalar_evidenceKindText (kind : VerificationEvidenceKind) : kind.text.scalar = true := by
  cases kind <;> simp [VerificationEvidenceKind.text]

theorem admissible_adviceIdentity {advice : AdviceAuditMetadata} (identity : advice.adviceId.all Text.scalar = true) :
    admissible (adviceIdentity advice) = true := by
  have admitted := advice.admitted
  simp only [AdviceAuditMetadataFields.postInit, requireDigest, requireBoundedText, bind_unit_eq_ok, raiseIf_eq_ok,
    Bool.not_eq_false, requireSorted_eq_ok] at admitted
  obtain ⟨advised, input, model, prompt, evaluation, policy, reasons⟩ := admitted
  simp [adviceIdentity, scalar_of_isSha256Hex advised, scalar_of_isSha256Hex input, scalar_of_isSha256Hex prompt, scalar_of_isSha256Hex policy, isBoundedText_scalar model, isBoundedText_scalar evaluation, admissible_texts reasons.1, identity]

/-- A verified plan can be hashed when its own evidence and the identity of its advice are scalar. -/
theorem VerifiedPlanFields.admissible_identity {plan : VerifiedPlanFields}
    (evidence : ∀ item ∈ plan.verificationEvidence, item.message.scalar = true)
    (advice : ∀ audit, plan.agentAdvice = some audit → audit.adviceId.all Text.scalar = true) :
    admissible plan.identityMapping = true := by
  have evidenceMapping : (plan.verificationEvidence.map VerificationEvidence.toIdentityMapping).all admissible = true := by
    rw [all_map, all_eq_true]
    intro item member
    simp [VerificationEvidence.toIdentityMapping, evidence item member]
  have adviceMapping : admissible (optionalAdvice plan.agentAdvice) = true := by
    cases found : plan.agentAdvice with
    | none => simp [optionalAdvice]
    | some audit => exact admissible_adviceIdentity (advice audit found)
  simp [identityMapping, evidenceMapping, adviceMapping, plan.sourcePlan.admissible_mapping]

/-- Consistent fields that can be hashed make a verified plan. -/
theorem makeVerifiedPlan_total {fields : VerifiedPlanFields} (consistent : fields.Consistent)
    (passed : admissible fields.identityMapping = true) :
    ∃ plan id, makeVerifiedPlan fields = .ok plan ∧ plan.toVerifiedPlanFields = { fields with executionPlanId := id } := by
  obtain ⟨hash, hashed⟩ : ∃ hash, hashObject fields.identityMapping = .ok hash := ⟨_, hashObject_of_admissible passed⟩
  have identified : fields.expectedId = .ok (ascii "verified_plan_" ++ hash.take 32) := by
    simp only [VerifiedPlanFields.expectedId, hashed]
    rfl
  set id := ascii "verified_plan_" ++ hash.take 32
  have admitted : VerifiedPlanFields.postInit { fields with executionPlanId := id } = .ok () := by
    refine VerifiedPlanFields.postInit_eq_ok.mpr ⟨?_, identified⟩
    exact ⟨consistent.catalog, consistent.selected, consistent.omitted, consistent.closable, consistent.closes,
      consistent.disjoint, consistent.classified, consistent.full, consistent.sourceClassified, consistent.covers,
      consistent.requirements, consistent.omissions, consistent.witnesses⟩
  refine ⟨⟨_, admitted⟩, id, ?_, rfl⟩
  simp only [makeVerifiedPlan, sortedByText_of_canonical consistent.selected,
    sortedByText_of_canonical consistent.closes.ordered, sortedByText_of_canonical consistent.omitted, ok_bind_eq,
    identified]
  exact construct_ok admitted

/-- A plan classifies a catalog when it decides every obligation and its witnesses close its selection. -/
structure Classifies (catalog : ValidationCatalog) (plan : DeterministicPlan) : Prop where
  hash : catalog.catalogHash = plan.catalogHash
  closable : Closable catalog plan.selectedObligations
  closes : Closes plan.selectedObligations plan.selectedWitnesses
  classified : ∀ id, (id ∈ idsOf plan.selectedObligations ∨ id ∈ omittedIdsOf plan.omittedObligations) ↔
    id ∈ catalogIds catalog
  full : plan.fallback.triggered = true → plan.omittedObligations = [] ∧
    ∀ item ∈ plan.selectedObligations, ∀ obligation ∈ catalog.obligations,
      obligation.obligationId = item.obligationId → obligation.fullDepth.rank ≤ item.depth.rank

/-- A verified plan may repeat every plan that classifies the catalog. -/
theorem repeatPlan_consistent {plan : DeterministicPlan} {catalog : ValidationCatalog} (classifies : Classifies catalog plan)
    (evidence : List VerificationEvidence) (advice : Option AdviceAuditMetadata) :
    (repeatPlan plan catalog evidence advice).Consistent where
  catalog := classifies.hash
  selected := plan.facts.selected
  omitted := plan.facts.omitted
  closable := classifies.closable
  closes := classifies.closes
  disjoint := by
    intro id member
    obtain ⟨item, inside, rfl⟩ := mem_map.mp member
    exact plan.facts.disjoint item inside
  classified := classifies.classified
  full := classifies.full
  sourceClassified := fun _ => Iff.rfl
  covers := fun source member => ⟨source, member, rfl, rfl, le_rfl⟩
  requirements := fun item member => .inl ⟨item, member, rfl, rfl⟩
  omissions := List.Subset.refl _
  witnesses := fun source member => ⟨source, member, rfl, le_rfl, List.Subset.refl _⟩

/-- What a full plan of a policy is. -/
structure IsFullCi (policy : PlanningPolicy) (plan : DeterministicPlan) : Prop where
  classifies : Classifies policy.catalog plan
  triggered : plan.fallback.triggered = true
  nothingOmitted : plan.omittedObligations = []
  selectsAll : ∀ obligation ∈ policy.catalog.obligations, ∃ item ∈ plan.selectedObligations,
    item.toSelectedObligationFields = ⟨obligation.obligationId, obligation.fullDepth, obligation.requiredWitnessIds⟩

/-- The full plan of a verifiable input always exists. -/
theorem fullCiFallbackPlan_total {input : PlanningInput} (verifiable : Verifiable input) (policy : PlanningPolicy)
    (reason : Text) (nonempty : reason ≠ []) (scalar : reason.scalar = true) :
    ∃ plan, fullCiFallbackPlan input policy reason = .ok plan ∧ IsFullCi policy plan := by
  obtain ⟨selected, selectedAll, ids, repeats⟩ := selectAll_total policy.catalog (·.fullDepth)
  have canonical : CanonicalTexts (idsOf selected) := ids ▸ policy.catalog.facts.obligations
  have closable : Closable policy.catalog selected := closable_of_depths (fun _ member => supports_full member) repeats
  obtain ⟨witnesses, closed, closes⟩ := closeSelectedWitnesses_total canonical closable
  obtain ⟨fallback, fallbackMade, fallbackFields⟩ := PlanFallback.create_total policy.facts.2.2.2.1 policy.facts.2.2.2.2 nonempty scalar
  obtain ⟨evidence, evidenceMade⟩ := PlanEvidence.fallback_total nonempty scalar
  obtain ⟨hash, hashed⟩ : ∃ hash, hashObject input.repoEpoch.toIdentityMapping = .ok hash :=
    ⟨_, hashObject_of_admissible verifiable.repoEpoch⟩
  obtain ⟨config, -, -⟩ := input.policy.digests
  obtain ⟨-, compiled, policyHash, -⟩ := policy.facts
  obtain ⟨plan, id, sealed, planFields⟩ := DeterministicPlan.seal_total
    { planId := []
      configEpochId := input.policy.epochId
      repoEpochHash := hash
      inputHash := input.inputHash
      diffHash := input.diff.diffHash
      compiledPolicyHash := policy.compiledPolicyHash
      policyHash := policy.policyHash
      dependencyGraphHash := input.dependencyGraph.graphHash
      catalogHash := policy.catalog.catalogHash
      selectedObligations := selected
      selectedWitnesses := witnesses
      omittedObligations := []
      fallback := fallback
      evidence := [evidence] }
    (by
      simp only [mem_cons, not_mem_nil, or_false, forall_eq_or_imp, forall_eq]
      exact ⟨config, isSha256Hex_of_hashObject hashed, verifiable.inputHash, input.diff.facts.2.2.2, compiled,
        policyHash, input.dependencyGraph.digest, policy.catalog.isSha256Hex_catalogHash⟩)
    canonical CanonicalTexts.nil (by simp) closes
  have computed : fullCiFallbackPlan input policy reason = .ok plan := by
    simp [fullCiFallbackPlan, selectedAll, closed, fallbackMade, evidenceMade, hashed, sealed]
  refine ⟨plan, computed, ⟨?_, ?_, ?_, ?_, ?_⟩, ?_, ?_, ?_⟩
  · rw [planFields]
  · rw [planFields]
    exact closable
  · rw [planFields]
    exact closes
  · intro id
    rw [planFields]
    simp [ids]
  · intro _
    rw [planFields]
    refine ⟨rfl, fun item member obligation inside same => ?_⟩
    obtain ⟨other, otherInside, equal⟩ := repeats item member
    rw [equal] at same ⊢
    rw [ValidationCatalog.obligation_unique inside otherInside same]
  · rw [planFields]
    exact congrArg PlanFallbackFields.triggered fallbackFields
  · rw [planFields]
  · intro obligation inside
    rw [planFields]
    obtain ⟨item, member, created⟩ := mem_collect_of_mem selectedAll inside
    exact ⟨item, member, SelectedObligation.create_eq_ok.mp created⟩

end CiCoordinator.VerificationCore

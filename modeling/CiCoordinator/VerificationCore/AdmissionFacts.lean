import CiCoordinator.VerificationCore.Construction

/- What the admission of a deterministic plan decides. -/

namespace CiCoordinator.VerificationCore

open Library Kernel ValidationContract RepoContext List
open PlanningCore

variable {input : PlanningInput} {policy : PlanningPolicy} {candidate : DeterministicPlan}

/-- A candidate is current when it repeats the coordinates of an input that binds its own hashes. -/
structure Current (input : PlanningInput) (policy : PlanningPolicy) (candidate : DeterministicPlan) : Prop where
  policyContext : Matches input policy
  inputDiff : hashObject input.diff.toIdentityMapping = .ok input.diff.diffHash
  inputBound : hashObject (inputMapping input.repoEpoch input.diff input.dependencyGraph input.policy) = .ok input.inputHash
  configEpoch : candidate.configEpochId = input.policy.epochId
  repoEpoch : hashObject input.repoEpoch.toIdentityMapping = .ok candidate.repoEpochHash
  inputHash : candidate.inputHash = input.inputHash
  diff : candidate.diffHash = input.diff.diffHash
  compiledPolicy : candidate.compiledPolicyHash = policy.compiledPolicyHash
  policyHash : candidate.policyHash = policy.policyHash
  graph : candidate.dependencyGraphHash = input.dependencyGraph.graphHash
  catalog : candidate.catalogHash = policy.catalog.catalogHash

/-- The coordinates of a verifiable input are always compared. -/
theorem coordinatesAreCurrent_spec (verifiable : Verifiable input) (policy : PlanningPolicy) (candidate : DeterministicPlan) :
    ∃ current, coordinatesAreCurrent input policy candidate = .ok current ∧
      (current = true ↔ Current input policy candidate) := by
  obtain ⟨repoHash, repoHashed⟩ : ∃ hash, hashObject input.repoEpoch.toIdentityMapping = .ok hash :=
    ⟨_, hashObject_of_admissible verifiable.repoEpoch⟩
  obtain ⟨diffHash, diffHashed⟩ : ∃ hash, hashObject input.diff.toIdentityMapping = .ok hash :=
    ⟨_, hashObject_of_admissible verifiable.diff⟩
  obtain ⟨inputHash, inputHashed⟩ : ∃ hash,
      hashObject (inputMapping input.repoEpoch input.diff input.dependencyGraph input.policy) = .ok hash :=
    ⟨_, hashObject_of_admissible (admissible_inputMapping verifiable.repoEpoch)⟩
  simp only [coordinatesAreCurrent, inputCoordinatesAreCurrent, repoHashed, diffHashed, inputHashed, ok_bind_eq]
  by_cases bound : (policyContextIsCurrent input policy && input.diff.diffHash = diffHash &&
      input.inputHash = inputHash) = true
  · refine ⟨_, by simp only [bound, pure, Except.pure, ok_bind_eq, if_true, candidate.facts.identified]; rfl, ?_⟩
    simp only [policyContextIsCurrent, Bool.and_eq_true, decide_eq_true_eq] at bound ⊢
    obtain ⟨⟨⟨⟨config, compiled⟩, hash⟩, diff⟩, whole⟩ := bound
    constructor
    · rintro ⟨⟨⟨⟨⟨⟨⟨⟨-, configEpoch⟩, repoEpoch⟩, inputEqual⟩, diffEqual⟩, compiledEqual⟩, policyEqual⟩, graph⟩, catalog⟩
      exact ⟨⟨config, compiled, hash⟩, diff ▸ diffHashed, whole ▸ inputHashed, configEpoch, repoEpoch ▸ repoHashed,
        inputEqual, diffEqual, compiledEqual, policyEqual, graph, catalog⟩
    · intro facts
      have repoEqual : candidate.repoEpochHash = repoHash := by
        simpa [repoHashed] using facts.repoEpoch.symm
      exact ⟨⟨⟨⟨⟨⟨⟨⟨trivial, facts.configEpoch⟩, repoEqual⟩, facts.inputHash⟩, facts.diff⟩, facts.compiledPolicy⟩,
        facts.policyHash⟩, facts.graph⟩, facts.catalog⟩
  · rw [Bool.not_eq_true] at bound
    refine ⟨false, by simp only [bound, pure, Except.pure, ok_bind_eq, Bool.false_eq_true, if_false], ?_⟩
    simp only [Bool.false_eq_true, false_iff]
    intro facts
    obtain ⟨config, compiled, hash⟩ := facts.policyContext
    have diffEqual : input.diff.diffHash = diffHash := by
      simpa [diffHashed] using facts.inputDiff.symm
    have inputEqual : input.inputHash = inputHash := by
      simpa [inputHashed] using facts.inputBound.symm
    simp [policyContextIsCurrent, config, compiled, hash, diffEqual, inputEqual] at bound

theorem expectedSelected_total (catalog : ValidationCatalog) (full : Bool) :
    ∃ selected, expectedSelected catalog full = .ok selected ∧ idsOf selected = catalogIds catalog ∧
      Closable catalog selected := by
  obtain ⟨selected, computed, ids, repeats⟩ := selectAll_total catalog fun obligation =>
    if full then obligation.fullDepth else obligation.defaultDepth
  refine ⟨selected, computed, ids, closable_of_depths ?_ repeats⟩
  intro obligation member
  cases full
  · exact supports_default member
  · exact supports_full member

/-- A fallback candidate that is exactly the full plan of the policy. -/
structure ExactFullCi (policy : PlanningPolicy) (candidate : DeterministicPlan) : Prop where
  timeout : candidate.fallback.timeoutSeconds = policy.fallbackTimeoutSeconds
  selected : expectedSelected policy.catalog true = .ok candidate.selectedObligations
  closes : Closes candidate.selectedObligations candidate.selectedWitnesses
  omitted : candidate.omittedObligations = []
  evidence : ∃ reason evidence, candidate.fallback.reason = some reason ∧ candidate.evidence = [evidence] ∧
    evidence.toPlanEvidenceFields = ⟨.fallback, none, reason⟩

/-- The comparison with the full plan always returns. -/
theorem isExactFullCi_spec (policy : PlanningPolicy) (candidate : DeterministicPlan) :
    ∃ exact, isExactFullCi candidate policy = .ok exact ∧ (exact = true ↔ ExactFullCi policy candidate) := by
  obtain ⟨expected, computed, ids, closable⟩ := expectedSelected_total policy.catalog true
  have canonical : CanonicalTexts (idsOf expected) := ids ▸ policy.catalog.facts.obligations
  obtain ⟨witnesses, closed, closes⟩ := closeSelectedWitnesses_total canonical closable
  simp only [isExactFullCi, computed, closed, ok_bind_eq]
  by_cases same : candidate.fallback.timeoutSeconds = policy.fallbackTimeoutSeconds ∧ candidate.selectedObligations = expected
  · rw [if_pos same]
    obtain ⟨timeout, selected⟩ := same
    cases found : candidate.fallback.reason with
    | none =>
      refine ⟨false, rfl, ?_⟩
      simp only [Bool.false_eq_true, false_iff]
      intro exact
      obtain ⟨reason, -, given, -⟩ := exact.evidence
      rw [found] at given
      cases given
    | some reason =>
      obtain ⟨nonempty, scalar⟩ := candidate.fallback.reason_nonempty found
      obtain ⟨evidence, created⟩ := PlanEvidence.fallback_total nonempty scalar
      have fields := PlanEvidence.create_eq_ok.mp created
      by_cases closedSame : candidate.selectedWitnesses = witnesses ∧ candidate.omittedObligations = []
      · refine ⟨_, by simp only [if_pos closedSame, created, ok_bind_eq]; rfl, ?_⟩
        rw [decide_eq_true_eq]
        constructor
        · intro evidenceSame
          exact ⟨timeout, by rw [computed, selected], by rw [selected, closedSame.1]; exact closes, closedSame.2,
            reason, evidence, found, evidenceSame, fields⟩
        · intro exact
          obtain ⟨other, item, given, listed, itemFields⟩ := exact.evidence
          rw [found, Option.some.injEq] at given
          rw [listed, List.cons.injEq]
          refine ⟨?_, rfl⟩
          have remade := PlanEvidence.create_eq_ok.mpr (given ▸ itemFields)
          rw [created, Except.ok.injEq] at remade
          exact remade.symm
      · refine ⟨false, by simp only [if_neg closedSame], ?_⟩
        simp only [Bool.false_eq_true, false_iff]
        intro exact
        have witnessesSame : candidate.selectedWitnesses = witnesses :=
          Closes.unique exact.closes (selected ▸ closes)
        exact closedSame ⟨witnessesSame, exact.omitted⟩
  · refine ⟨false, by simp only [if_neg same], ?_⟩
    simp only [Bool.false_eq_true, false_iff]
    intro exact
    have selected := exact.selected
    rw [computed, Except.ok.injEq] at selected
    exact same ⟨exact.timeout, selected.symm⟩

/-- The evidence of a selective plan decides every obligation once and as the plan does. -/
def EvidenceComplete (candidate : DeterministicPlan) (catalog : ValidationCatalog) : Prop :=
  ∃ collected, evidenceByObligation candidate.evidence .empty = some collected ∧
    SameMembers collected.keys catalog.obligationsById.keys ∧ ∀ obligationId ∈ catalog.obligationsById.keys,
      ((collected.get? obligationId).any fun evidence =>
        evidence.kind = (if obligationId ∈ idsOf candidate.selectedObligations then .selected else .omitted)) = true

/-- A selective candidate that decides every obligation at default depth. -/
structure CompleteSelective (catalog : ValidationCatalog) (candidate : DeterministicPlan) : Prop where
  reason : candidate.fallback.reason = none
  classified : ∀ id, (id ∈ idsOf candidate.selectedObligations ∨ id ∈ omittedIdsOf candidate.omittedObligations) ↔
    id ∈ catalogIds catalog
  defaults : ∀ selected ∈ candidate.selectedObligations, ∀ obligation ∈ catalog.obligations,
    obligation.obligationId = selected.obligationId →
      selected.requiredWitnessIds = obligation.requiredWitnessIds ∧ selected.depth = obligation.defaultDepth
  closes : Closes candidate.selectedObligations candidate.selectedWitnesses
  evidence : EvidenceComplete candidate catalog

theorem CompleteSelective.closable_of {catalog : ValidationCatalog} {selected : List SelectedObligation}
    (known : ∀ id ∈ idsOf selected, id ∈ catalogIds catalog)
    (defaults : ∀ item ∈ selected, ∀ obligation ∈ catalog.obligations, obligation.obligationId = item.obligationId →
      item.requiredWitnessIds = obligation.requiredWitnessIds ∧ item.depth = obligation.defaultDepth) :
    Closable catalog selected := by
  intro item member
  obtain ⟨obligation, inside, same⟩ := mem_map.mp (known item.obligationId (mem_map_of_mem member))
  obtain ⟨required, depth⟩ := defaults item member obligation inside same
  exact ⟨obligation, inside, same, required.symm, depth ▸ supports_default inside⟩

theorem mismatch_iff {catalog : ValidationCatalog} {item : SelectedObligation} :
    ((catalog.obligationsById.get? item.obligationId).any fun obligation =>
        item.requiredWitnessIds ≠ obligation.requiredWitnessIds || item.depth ≠ obligation.defaultDepth) = false ↔
      ∀ obligation ∈ catalog.obligations, obligation.obligationId = item.obligationId →
        item.requiredWitnessIds = obligation.requiredWitnessIds ∧ item.depth = obligation.defaultDepth := by
  rw [← Bool.not_eq_true, Option.any_eq_true]
  simp only [ValidationCatalog.obligationsById_eq_some, Bool.or_eq_true, decide_eq_true_eq]
  constructor
  · intro none obligation member same
    by_contra different
    exact none ⟨obligation, ⟨member, same⟩, by tauto⟩
  · rintro every ⟨obligation, ⟨member, same⟩, different⟩
    obtain ⟨required, depth⟩ := every obligation member same
    exact different.elim (fun wrong => wrong required) fun wrong => wrong depth

/-- The structural check of a selective candidate always returns. -/
theorem isCompleteSelectiveStructure_spec (candidate : DeterministicPlan) (catalog : ValidationCatalog) :
    ∃ complete, isCompleteSelectiveStructure candidate catalog = .ok complete ∧
      (complete = true ↔ CompleteSelective catalog candidate) := by
  have refused : (¬ CompleteSelective catalog candidate) →
      (false = true ↔ CompleteSelective catalog candidate) := fun wrong => by simp [wrong]
  simp only [isCompleteSelectiveStructure]
  split
  · rename_i shape
    refine ⟨false, rfl, refused fun complete => ?_⟩
    rcases shape with reason | ⟨id, selected, omitted⟩ | members
    · exact reason complete.reason
    · obtain ⟨item, member, rfl⟩ := mem_map.mp selected
      exact candidate.facts.disjoint item member omitted
    · refine members (sameMembers_iff.mpr fun id => ?_)
      rw [mem_append, mem_obligationKeys]
      exact complete.classified id
  · rename_i shape
    push Not at shape
    obtain ⟨reason, -, members⟩ := shape
    have classified : ∀ id, (id ∈ idsOf candidate.selectedObligations ∨
        id ∈ omittedIdsOf candidate.omittedObligations) ↔ id ∈ catalogIds catalog := by
      intro id
      rw [← mem_obligationKeys, ← sameMembers_iff.mp members, mem_append]
    split
    · rename_i mismatch
      obtain ⟨item, member, wrong⟩ := mismatch
      refine ⟨false, rfl, refused fun complete => ?_⟩
      rw [mismatch_iff.mpr (complete.defaults item member)] at wrong
      cases wrong
    · rename_i matching
      push Not at matching
      have defaults : ∀ item ∈ candidate.selectedObligations, ∀ obligation ∈ catalog.obligations,
          obligation.obligationId = item.obligationId →
            item.requiredWitnessIds = obligation.requiredWitnessIds ∧ item.depth = obligation.defaultDepth :=
        fun item member => mismatch_iff.mp (by simpa using matching item member)
      have closable : Closable catalog candidate.selectedObligations :=
        CompleteSelective.closable_of (fun id member => (classified id).mp (.inl member)) defaults
      obtain ⟨witnesses, closed, closes⟩ := closeSelectedWitnesses_total candidate.facts.selected closable
      simp only [closed, ok_bind_eq]
      split
      · rename_i different
        refine ⟨false, rfl, refused fun complete => different (Closes.unique complete.closes closes)⟩
      · rename_i same
        rw [not_not] at same
        split
        · rename_i none
          refine ⟨false, rfl, refused fun complete => ?_⟩
          obtain ⟨collected, found, -⟩ := complete.evidence
          rw [none] at found
          cases found
        · rename_i collected found
          refine ⟨_, rfl, ?_⟩
          rw [Bool.and_eq_true, decide_eq_true_eq, all_eq_true]
          constructor
          · rintro ⟨keys, kinds⟩
            exact ⟨reason, classified, defaults, same ▸ closes, collected, found, keys, kinds⟩
          · intro complete
            obtain ⟨other, otherFound, keys, kinds⟩ := complete.evidence
            rw [found, Option.some.injEq] at otherFound
            exact otherFound ▸ ⟨keys, kinds⟩

/-- The impact facts of a verifiable input are the reachable paths and their risk classes. -/
structure ImpactFacts.Describes (impact : ImpactFacts) (graph : DependencyGraphContext) (changedPaths : List Text) :
    Prop where
  impacted : ∀ path, path ∈ impact.impactedPaths ↔ Impacted graph changedPaths path
  riskClasses : ∀ riskClass, riskClass ∈ impact.impactedRiskClasses ↔
    ∃ path, Impacted graph changedPaths path ∧ riskClass ∈ riskClassesOf graph path
  unknown : impact.unknownPaths = [] ↔ ∀ path ∈ changedPaths, isNode graph path = true
  globalRisk : impact.globalRiskPaths = [] ↔ ∀ path ∈ changedPaths, isGlobalRisk graph path = false

theorem deriveImpact_spec (verifiable : Verifiable input) :
    ∃ impact, deriveImpact input = .ok impact ∧ impact.Describes input.dependencyGraph input.diff.namedPaths := by
  obtain ⟨changedPaths, computed, -, members⟩ := sortedTexts_total (DiffContext.namedPaths_scalar verifiable.diff)
  refine ⟨_, by simp only [deriveImpact, DiffContext.changedPaths, computed, ok_bind_eq]; rfl, ?_, ?_, ?_, ?_⟩
  · intro path
    rw [mem_impactWalk_seen, impacted_congr _ members]
  · intro riskClass
    simp only [mem_flatMap, mem_impactWalk_visited, impacted_congr _ members]
  · simp [filter_eq_nil_iff, members]
  · simp [filter_eq_nil_iff, members]

/-- An omission that the verifier accepts: allowed, bound to the input and unaffected by the change. -/
structure OmissionJustified (input : PlanningInput) (policy : PlanningPolicy) (omitted : OmittedObligation)
    (obligation : ValidationObligation) : Prop where
  known : obligation ∈ policy.catalog.obligations
  identity : obligation.obligationId = omitted.obligationId
  allowed : obligation.omitAllowed = true
  requirements : omitted.requiredWitnessIds = obligation.requiredWitnessIds
  proof : ∃ repoEpochHash, hashObject input.repoEpoch.toIdentityMapping = .ok repoEpochHash ∧
    omitted.proof.toOmissionProofFields =
      { obligationId := obligation.obligationId
        ruleId := obligation.obligationId ++ ascii ":no-impact"
        repoEpochHash := repoEpochHash
        diffHash := input.diff.diffHash
        policyHash := policy.policyHash
        graphHash := input.dependencyGraph.graphHash
        catalogHash := policy.catalog.catalogHash
        predicates := {}
        assumptions := verifierOmissionAssumptions
        invalidatesWhen := verifierOmissionInvalidators }
  unaffected : Unaffected input.dependencyGraph input.diff.namedPaths obligation

theorem omissionIsValid_iff {impact : ImpactFacts} {omitted : OmittedObligation} {repoEpochHash : Text}
    (describes : impact.Describes input.dependencyGraph input.diff.namedPaths)
    (hashed : hashObject input.repoEpoch.toIdentityMapping = .ok repoEpochHash) :
    omissionIsValid input policy omitted impact policy.catalog.obligationsById repoEpochHash = true ↔
      ∃ obligation, OmissionJustified input policy omitted obligation := by
  have intersects : ∀ obligation : ValidationObligation,
      ((obligation.responsibilityRiskClasses.any fun riskClass => riskClass ∈ impact.impactedRiskClasses) = false ∧
        (obligation.responsibilityPaths.any fun pattern =>
          impact.impactedPaths.any fun path => matchesPathPattern pattern path) = false) ↔
      Unaffected input.dependencyGraph input.diff.namedPaths obligation := by
    intro obligation
    simp only [any_eq_false, decide_eq_true_eq, describes.riskClasses, describes.impacted, Bool.not_eq_true]
    constructor
    · rintro ⟨riskClasses, paths⟩
      exact ⟨fun path reached pattern member => paths pattern member path reached,
        fun path reached riskClass listed member => riskClasses riskClass member ⟨path, reached, listed⟩⟩
    · intro unaffected
      refine ⟨?_, fun pattern member path reached => unaffected.paths path reached pattern member⟩
      rintro riskClass member ⟨path, reached, listed⟩
      exact unaffected.riskClasses path reached riskClass listed member
  unfold omissionIsValid
  cases found : policy.catalog.obligationsById.get? omitted.obligationId with
  | none =>
    simp only [Bool.false_eq_true, false_iff, not_exists]
    intro obligation justified
    rw [ValidationCatalog.obligationsById_eq_some.mpr ⟨justified.known, justified.identity⟩] at found
    cases found
  | some obligation =>
    obtain ⟨member, identity⟩ := ValidationCatalog.obligationsById_eq_some.mp found
    simp only [Bool.and_eq_true, decide_eq_true_eq, Bool.not_eq_true', and_assoc, intersects]
    constructor
    · rintro ⟨allowed, requirements, id, rule, repo, diff, policyHash, graph, catalog, predicates, assumptions,
        invalidates, unaffected⟩
      refine ⟨obligation, member, identity, allowed, requirements, ⟨repoEpochHash, hashed, ?_⟩, unaffected⟩
      rw [← repo, ← diff, ← policyHash, ← graph, ← catalog, ← predicates, ← assumptions, ← invalidates, ← rule, ← id]
    · rintro ⟨other, justified⟩
      have same : other = obligation :=
        ValidationCatalog.obligation_unique justified.known member (justified.identity.trans identity.symm)
      subst same
      obtain ⟨hash, otherHashed, proof⟩ := justified.proof
      rw [hashed, Except.ok.injEq] at otherHashed
      subst otherHashed
      simp only [proof, true_and]
      exact ⟨justified.allowed, justified.requirements, justified.unaffected⟩

/-- A selective candidate that the verifier admits. -/
structure SelectiveAdmitted (input : PlanningInput) (policy : PlanningPolicy) (candidate : DeterministicPlan) :
    Prop where
  context : selectiveContextIsAdmitted input = .ok true
  timeout : candidate.fallback.timeoutSeconds = policy.fallbackTimeoutSeconds
  complete : CompleteSelective policy.catalog candidate
  known : ∀ path ∈ input.diff.namedPaths, isNode input.dependencyGraph path = true
  safe : ∀ path ∈ input.diff.namedPaths, isGlobalRisk input.dependencyGraph path = false
  omissions : ∀ omitted ∈ candidate.omittedObligations, ∃ obligation, OmissionJustified input policy omitted obligation

/-- Every candidate for a verifiable input is admitted or rejected, and admission means what it should. -/
theorem admitDeterministicPlan_spec (verifiable : Verifiable input) (policy : PlanningPolicy) (candidate : DeterministicPlan) :
    ∃ outcome, admitDeterministicPlan input policy candidate = .ok outcome ∧ (outcome = none ↔ Current input policy candidate ∧
        if candidate.fallback.triggered = true then ExactFullCi policy candidate
        else SelectiveAdmitted input policy candidate) := by
  obtain ⟨current, compared, currentIff⟩ := coordinatesAreCurrent_spec verifiable policy candidate
  simp only [admitDeterministicPlan, compared, ok_bind_eq]
  by_cases stale : current = false
  · refine ⟨some .deterministicPlanMismatch, by rw [if_pos stale], ?_⟩
    simp [← currentIff, stale]
  rw [if_neg stale]
  have currentFacts := currentIff.mp (by simpa using stale)
  by_cases triggered : candidate.fallback.triggered = true
  · rw [if_pos triggered]
    simp only [triggered, if_true, currentFacts, true_and]
    obtain ⟨exact, computed, exactIff⟩ := isExactFullCi_spec policy candidate
    refine ⟨_, by simp only [computed, ok_bind_eq]; rfl, ?_⟩
    rw [← exactIff]
    cases exact <;> simp
  rw [if_neg triggered]
  simp only [triggered, currentFacts, true_and]
  obtain ⟨repoHash, repoHashed⟩ : ∃ hash, hashObject input.repoEpoch.toIdentityMapping = .ok hash :=
    ⟨_, hashObject_of_admissible verifiable.repoEpoch⟩
  obtain ⟨selective, selectiveComputed⟩ : ∃ selective, selectiveContextIsAdmitted input = .ok selective := by
    simp only [selectiveContextIsAdmitted, repoHashed, ok_bind_eq]
    exact ⟨_, rfl⟩
  simp only [selectiveComputed, ok_bind_eq]
  by_cases foreign : selective = false
  · refine ⟨some .deterministicPlanMismatch, by rw [if_pos foreign], ?_⟩
    simp only [reduceCtorEq, false_iff]
    intro admitted
    have context := admitted.context
    rw [selectiveComputed, foreign] at context
    cases context
  rw [if_neg foreign]
  by_cases timeout : candidate.fallback.timeoutSeconds ≠ policy.fallbackTimeoutSeconds
  · refine ⟨some .deterministicPlanMismatch, by rw [if_pos timeout], ?_⟩
    simp only [reduceCtorEq, false_iff]
    exact fun admitted => timeout admitted.timeout
  rw [if_neg timeout]
  obtain ⟨complete, completeComputed, completeIff⟩ := isCompleteSelectiveStructure_spec candidate policy.catalog
  simp only [completeComputed, ok_bind_eq]
  by_cases partly : complete = false
  · refine ⟨some .deterministicPlanMismatch, by rw [if_pos partly], ?_⟩
    simp only [reduceCtorEq, false_iff]
    intro admitted
    rw [completeIff.mpr admitted.complete] at partly
    cases partly
  rw [if_neg partly]
  obtain ⟨impact, impactComputed, describes⟩ := deriveImpact_spec verifiable
  simp only [impactComputed, ok_bind_eq]
  by_cases risky : impact.unknownPaths ≠ [] ∨ impact.globalRiskPaths ≠ []
  · refine ⟨some .omissionProofMismatch, by rw [if_pos risky], ?_⟩
    simp only [reduceCtorEq, false_iff]
    intro admitted
    rcases risky with unknown | globalRisk
    · exact unknown (describes.unknown.mpr admitted.known)
    · exact globalRisk (describes.globalRisk.mpr admitted.safe)
  rw [if_neg risky]
  push Not at risky timeout
  refine ⟨_, by simp only [omissionsAreValid, repoHashed, ok_bind_eq]; rfl, ?_⟩
  set valid := candidate.omittedObligations.all fun omitted =>
    omissionIsValid input policy omitted impact policy.catalog.obligationsById repoHash with validDef
  have validIff : valid = true ↔ ∀ omitted ∈ candidate.omittedObligations,
      ∃ obligation, OmissionJustified input policy omitted obligation := by
    simp only [validDef, all_eq_true, omissionIsValid_iff describes repoHashed]
  have selected : selective = true := by simpa using foreign
  have completeTrue : complete = true := by simpa using partly
  constructor
  · intro admitted
    have validTrue : valid = true := by
      by_contra invalid
      simp [invalid] at admitted
    exact ⟨selected ▸ selectiveComputed, timeout, completeIff.mp completeTrue, describes.unknown.mp risky.1,
      describes.globalRisk.mp risky.2, validIff.mp validTrue⟩
  · intro admitted
    simp [validIff.mpr admitted.omissions]

/-- A current and complete selective candidate can only fail for its omissions. -/
theorem admitDeterministicPlan_complete (verifiable : Verifiable input) (current : Current input policy candidate)
    (regular : candidate.fallback.triggered = false) (context : selectiveContextIsAdmitted input = .ok true)
    (timeout : candidate.fallback.timeoutSeconds = policy.fallbackTimeoutSeconds)
    (complete : CompleteSelective policy.catalog candidate) :
    admitDeterministicPlan input policy candidate = .ok none ∨
      admitDeterministicPlan input policy candidate = .ok (some .omissionProofMismatch) := by
  obtain ⟨isCurrent, compared, currentIff⟩ := coordinatesAreCurrent_spec verifiable policy candidate
  obtain ⟨isComplete, structured, completeIff⟩ := isCompleteSelectiveStructure_spec candidate policy.catalog
  obtain ⟨impact, impactComputed, -⟩ := deriveImpact_spec verifiable
  obtain ⟨repoHash, repoHashed⟩ : ∃ hash, hashObject input.repoEpoch.toIdentityMapping = .ok hash :=
    ⟨_, hashObject_of_admissible verifiable.repoEpoch⟩
  simp only [admitDeterministicPlan, compared, ok_bind_eq, currentIff.mpr current, Bool.true_eq_false, if_false, regular,
    Bool.false_eq_true, context, timeout, ne_eq, not_true_eq_false, structured, completeIff.mpr complete, impactComputed,
    omissionsAreValid, repoHashed]
  split
  · exact .inr rfl
  · simp only [pure, Except.pure, ok_bind_eq, Except.ok.injEq]
    split
    · exact .inl rfl
    · exact .inr rfl

end CiCoordinator.VerificationCore

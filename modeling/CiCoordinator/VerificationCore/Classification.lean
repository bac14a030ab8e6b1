import CiCoordinator.VerificationCore.PlannerAgreement

/- How the planner divides the obligations of a catalog into selected and omitted ones. -/

namespace CiCoordinator.VerificationCore

open Library Kernel ValidationContract RepoContext List
open PlanningCore

/-- A change leaves an obligation alone: omission is allowed, no changed path is a global risk, no impacted path matches its
patterns and no impacted risk class is among its own. -/
structure LeftAlone (input : PlanningInput) (obligation : ValidationObligation) : Prop where
  allowed : obligation.omitAllowed = true
  safe : ∀ path ∈ input.diff.namedPaths, ∀ pattern ∈ input.dependencyGraph.globalRiskPaths, matchesPathPattern pattern path = false
  paths : ∀ path, Impacted input.dependencyGraph input.diff.namedPaths path → ∀ pattern ∈ obligation.responsibilityPaths,
    matchesPathPattern pattern path = false
  riskClasses : ∀ path, Impacted input.dependencyGraph input.diff.namedPaths path →
    ∀ riskClass ∈ riskClassesOf input.dependencyGraph path, riskClass ∉ obligation.responsibilityRiskClasses

/-- The evidence has a reason against it, or a changed path is not in the graph. -/
def Unbounded (input : PlanningInput) : Prop :=
  input.fallbackReasons ≠ [] ∨ ∃ path ∈ input.diff.namedPaths, isNode input.dependencyGraph path = false

/-- Every obligation is either selected or omitted; all are selected at full depth when the change is unbounded, and otherwise
exactly those that it leaves alone are omitted. -/
structure Classified (input : PlanningInput) (policy : PlanningPolicy) (plan : DeterministicPlan) : Prop where
  disjoint : ∀ id ∈ idsOf plan.selectedObligations, id ∉ omittedIdsOf plan.omittedObligations
  covers : ∀ id, id ∈ idsOf plan.selectedObligations ∨ id ∈ omittedIdsOf plan.omittedObligations ↔ id ∈ catalogIds policy.catalog
  full : Unbounded input → ∀ obligation ∈ policy.catalog.obligations,
    ∃ item ∈ plan.selectedObligations, item.obligationId = obligation.obligationId ∧ item.depth = obligation.fullDepth
  selective : ¬ Unbounded input → ∀ obligation ∈ policy.catalog.obligations,
    obligation.obligationId ∈ omittedIdsOf plan.omittedObligations ↔ LeftAlone input obligation

section Plans

variable {repoEpoch : RepositoryEpoch} {raw : DiffBuildInput} {artifact : DependencyGraphArtifact}
  {snapshot : PolicySnapshot} {input : PlanningInput} {policy : PlanningPolicy} {result : DeterministicPlan}

theorem omits_iff_leftAlone {obligation : ValidationObligation} : Omits input obligation ↔ LeftAlone input obligation := by
  constructor
  · intro omits
    refine ⟨omits.allowed, fun path member pattern listed => ?_, omits.unaffected.paths, omits.unaffected.riskClasses⟩
    have safe := omits.safe path member
    rw [isGlobalRisk, any_eq_false] at safe
    exact Bool.eq_false_iff.mpr (safe pattern listed)
  · intro alone
    refine ⟨alone.allowed, fun path member => ?_, alone.paths, alone.riskClasses⟩
    rw [isGlobalRisk, any_eq_false]
    exact fun pattern listed => Bool.eq_false_iff.mp (alone.safe path member pattern listed)

theorem mem_catalogIds {catalog : ValidationCatalog} {id : Text} :
    id ∈ catalogIds catalog ↔ ∃ obligation ∈ catalog.obligations, obligation.obligationId = id :=
  mem_map

/-- The full plan selects the catalog at full depth. -/
theorem FullPlan.classified (full : FullPlan policy result) (unbounded : Unbounded input) : Classified input policy result := by
  obtain ⟨selected, computed, ids, _⟩ := selectAll_total policy.catalog (·.fullDepth)
  obtain rfl := Except.ok.inj (computed.symm.trans full.selected)
  have none : omittedIdsOf result.omittedObligations = [] := by rw [full.omitted]; rfl
  refine ⟨fun id _ omitted => ?_, fun id => ?_, fun _ obligation member => ?_, fun bounded => absurd unbounded bounded⟩
  · rw [none] at omitted
    cases omitted
  · rw [none, ids]
    exact or_iff_left not_mem_nil
  · obtain ⟨item, contained, created⟩ := mem_collect_of_mem full.selected member
    have fields := SelectedObligation.create_eq_ok.mp created
    exact ⟨item, contained, congrArg SelectedObligationFields.obligationId fields, congrArg SelectedObligationFields.depth fields⟩

/-- The selective plan omits exactly what the change leaves alone. -/
theorem SelectivePlan.classified (selective : SelectivePlan input policy result) (bounded : ¬ Unbounded input) :
    Classified input policy result := by
  have omitted : ∀ obligation ∈ policy.catalog.obligations,
      obligation.obligationId ∈ omittedIdsOf result.omittedObligations ↔ Omits input obligation := by
    intro obligation known
    refine ⟨fun listed => ?_, selective.omits obligation known⟩
    obtain ⟨item, member, same⟩ := mem_map.mp listed
    obtain ⟨other, otherKnown, omits, identity, _⟩ := selective.omitted item member
    exact ValidationCatalog.obligation_unique otherKnown known (identity.symm.trans same) ▸ omits
  refine ⟨fun id selected => ?_, fun id => ?_, fun unbounded => absurd unbounded bounded, fun _ obligation known =>
    (omitted obligation known).trans omits_iff_leftAlone⟩
  · obtain ⟨item, member, rfl⟩ := mem_map.mp selected
    exact result.facts.disjoint item member
  · rw [mem_catalogIds]
    constructor
    · rintro (selected | omittedId)
      · obtain ⟨item, member, rfl⟩ := mem_map.mp selected
        obtain ⟨obligation, known, _, fields⟩ := (selective.selected item).mp member
        exact ⟨obligation, known, (congrArg SelectedObligationFields.obligationId fields).symm⟩
      · obtain ⟨item, member, rfl⟩ := mem_map.mp omittedId
        obtain ⟨obligation, known, _, identity, _⟩ := selective.omitted item member
        exact ⟨obligation, known, identity.symm⟩
    · rintro ⟨obligation, known, rfl⟩
      by_cases omits : Omits input obligation
      · exact .inr (selective.omits obligation known omits)
      · obtain ⟨item, created, _⟩ := create_total obligation obligation.defaultDepth
        have fields := SelectedObligation.create_eq_ok.mp created
        refine .inl (mem_map.mpr ⟨item, (selective.selected item).mpr ⟨obligation, known, omits, fields⟩, ?_⟩)
        exact congrArg SelectedObligationFields.obligationId fields

/-- For every built input and a policy that matches it the planner returns a plan, and the plan classifies the catalog. -/
theorem plan_classifies (built : BuiltFrom repoEpoch raw artifact snapshot input) (matching : Matches input policy) :
    ∃ result, plan input policy = .ok (.inl result) ∧ Classified input policy result := by
  obtain ⟨result, computed, _, decided⟩ := plan_total (plannable_of_built built) matching
  refine ⟨result, computed, ?_⟩
  rcases decided with ⟨needs, full⟩ | ⟨bounded, selective⟩
  · exact FullPlan.classified full ((needsFullCi_iff built).mp needs)
  · exact SelectivePlan.classified selective ((needsFullCi_iff built).not.mp bounded)

/-- A plan carries the hash of its input. -/
theorem finalizePlan_inputHash {selected : List SelectedObligation} {omitted : List OmittedObligation} {fallback : PlanFallback}
    {evidence : List PlanEvidence} (finalized : finalizePlan input policy selected omitted fallback evidence = .ok result) :
    result.inputHash = input.inputHash := by
  simp only [finalizePlan, DeterministicPlan.seal, bind_eq_ok, construct_eq_ok] at finalized
  obtain ⟨_, _, _, _, _, _, _, _, _, _, _, _, _, rfl⟩ := finalized
  rfl

theorem plan_inputHash (computed : plan input policy = .ok (.inl result)) : result.inputHash = input.inputHash := by
  simp only [plan, bind_eq_ok] at computed
  obtain ⟨_, _, computed⟩ := computed
  split at computed
  · obtain ⟨_, impossible⟩ := construct_eq_ok.mp computed
    cases impossible
  · simp only [bind_eq_ok] at computed
    obtain ⟨_, _, computed⟩ := computed
    split at computed
    · simp only [map_eq_ok, fullCiPlan, bind_eq_ok] at computed
      obtain ⟨_, ⟨_, _, _, _, _, _, finalized⟩, same⟩ := computed
      exact Sum.inl.inj same ▸ finalizePlan_inputHash finalized
    · simp only [bind_eq_ok] at computed
      obtain ⟨_, _, computed⟩ := computed
      split at computed
      · simp only [map_eq_ok, fullCiPlan, bind_eq_ok] at computed
        obtain ⟨_, ⟨_, _, _, _, _, _, finalized⟩, same⟩ := computed
        exact Sum.inl.inj same ▸ finalizePlan_inputHash finalized
      · simp only [map_eq_ok, bind_eq_ok] at computed
        obtain ⟨_, _, _, _, _, finalized, same⟩ := computed
        exact Sum.inl.inj same ▸ finalizePlan_inputHash finalized

/-- An input that matches its policy is not rejected. -/
theorem plan_not_rejected {rejected : PlanningRejected} (matching : Matches input policy) :
    plan input policy ≠ .ok (.inr rejected) := by
  intro computed
  obtain ⟨rejections, rejectionsComputed, _, _, none⟩ := plannerRejectionReasons_spec input policy
  obtain rfl := none.mpr matching
  simp only [plan, rejectionsComputed, ok_bind_eq, ne_eq, not_true_eq_false, if_false, bind_eq_ok] at computed
  obtain ⟨_, _, computed⟩ := computed
  split at computed
  · simp only [map_eq_ok, reduceCtorEq, and_false, exists_false] at computed
  · simp only [bind_eq_ok] at computed
    obtain ⟨_, _, computed⟩ := computed
    split at computed
    · simp only [map_eq_ok, reduceCtorEq, and_false, exists_false] at computed
    · simp only [map_eq_ok, bind_eq_ok, reduceCtorEq, and_false, exists_false] at computed

end Plans

/-- The plan of a source change classifies the catalog. -/
theorem plan_classifies_source : ∃ input result,
    BuiltFrom Sample.epoch (Sample.change (ascii "src/main")) Sample.artifact Sample.snapshot input ∧
      plan input Sample.policy = .ok (.inl result) ∧ Classified input Sample.policy result := by
  obtain ⟨input, built, _, _, matching, _⟩ := Sample.source_change
  obtain ⟨result, computed, classified⟩ := plan_classifies built matching
  exact ⟨input, result, built, computed, classified⟩

/-- An input with an empty hash is well typed and matches its policy, and the planner raises on it. -/
theorem plan_raises_on_empty_hash : ∃ input : PlanningInput, Matches input Sample.policy ∧ input.inputHash = [] ∧
    ∃ error, plan input Sample.policy = .error error := by
  obtain ⟨input, built, _, _, matching, _⟩ := Sample.source_change
  refine ⟨{ input with inputHash := [] }, matching, rfl, ?_⟩
  cases computed : plan { input with inputHash := [] } Sample.policy with
  | error error => exact ⟨error, rfl⟩
  | ok answer =>
    cases answer with
    | inl result =>
      have digest := result.facts.input
      rw [plan_inputHash computed] at digest
      cases digest
    | inr rejected => exact absurd computed (plan_not_rejected matching)

end CiCoordinator.VerificationCore

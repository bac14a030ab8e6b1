import CiCoordinator.VerificationCore.Closure

/- What the constructor of verified plans checks. -/

namespace CiCoordinator.VerificationCore

open Library Kernel ValidationContract List
open PlanningCore Dictionary

/-- What a verified plan guarantees against its catalog and its source plan. -/
structure VerifiedPlanFields.Consistent (plan : VerifiedPlanFields) : Prop where
  catalog : plan.catalog.catalogHash = plan.sourcePlan.catalogHash
  selected : CanonicalTexts (idsOf plan.selectedObligations)
  omitted : CanonicalTexts (omittedIdsOf plan.omittedObligations)
  closable : Closable plan.catalog plan.selectedObligations
  closes : Closes plan.selectedObligations plan.selectedWitnesses
  disjoint : ∀ id ∈ idsOf plan.selectedObligations, id ∉ omittedIdsOf plan.omittedObligations
  classified : ∀ id, (id ∈ idsOf plan.selectedObligations ∨ id ∈ omittedIdsOf plan.omittedObligations) ↔
    id ∈ catalogIds plan.catalog
  full : plan.fallback.triggered = true → plan.omittedObligations = [] ∧
    ∀ item ∈ plan.selectedObligations, ∀ obligation ∈ plan.catalog.obligations,
      obligation.obligationId = item.obligationId → obligation.fullDepth.rank ≤ item.depth.rank
  sourceClassified : ∀ id, (id ∈ idsOf plan.selectedObligations ∨ id ∈ omittedIdsOf plan.omittedObligations) ↔
    (id ∈ idsOf plan.sourcePlan.selectedObligations ∨ id ∈ omittedIdsOf plan.sourcePlan.omittedObligations)
  covers : ∀ source ∈ plan.sourcePlan.selectedObligations, ∃ item ∈ plan.selectedObligations, Covers item source
  requirements : ∀ item ∈ plan.selectedObligations,
    (∃ source ∈ plan.sourcePlan.selectedObligations, source.obligationId = item.obligationId ∧
      source.requiredWitnessIds = item.requiredWitnessIds) ∨
    ∃ source ∈ plan.sourcePlan.omittedObligations, source.obligationId = item.obligationId ∧
      source.requiredWitnessIds = item.requiredWitnessIds
  omissions : plan.omittedObligations ⊆ plan.sourcePlan.omittedObligations
  witnesses : ∀ source ∈ plan.sourcePlan.selectedWitnesses, ∃ witness ∈ plan.selectedWitnesses,
    WitnessCovers witness source

section Keys

variable {K A : Type} [DecidableEq K] {identity : A → K} {items : List A}

theorem keys_indexBy_eq_nil : (indexBy identity items).keys = [] ↔ items = [] := by
  rw [eq_nil_iff_forall_not_mem]
  constructor
  · intro none
    refine eq_nil_iff_forall_not_mem.mpr fun item member => none (identity item) ?_
    exact mem_keys_indexBy.mpr ⟨item, member, rfl⟩
  · rintro rfl key member
    obtain ⟨item, inside, -⟩ := mem_keys_indexBy.mp member
    simp at inside

theorem mem_keys_indexBy_map {key : K} : key ∈ (indexBy identity items).keys ↔ key ∈ items.map identity := by
  simp [mem_keys_indexBy]

end Keys

theorem sameMembers_iff {A : Type} {left right : List A} : SameMembers left right ↔ ∀ value, value ∈ left ↔ value ∈ right := by
  constructor
  · rintro ⟨forward, backward⟩ value
    exact ⟨fun member => forward member, fun member => backward member⟩
  · intro same
    exact ⟨fun value member => (same value).mp member, fun value member => (same value).mpr member⟩

namespace VerifiedPlanFields

variable {plan : VerifiedPlanFields}

theorem requireClassification_eq_ok : plan.requireClassification = .ok () ↔
      (∀ id ∈ idsOf plan.selectedObligations, id ∉ omittedIdsOf plan.omittedObligations) ∧
      (∀ id, (id ∈ idsOf plan.selectedObligations ∨ id ∈ omittedIdsOf plan.omittedObligations) ↔ id ∈ catalogIds plan.catalog) ∧
      (plan.fallback.triggered = true → plan.omittedObligations = [] ∧
        ∀ item ∈ plan.selectedObligations, ∀ obligation ∈ plan.catalog.obligations,
          obligation.obligationId = item.obligationId → obligation.fullDepth.rank ≤ item.depth.rank) ∧
      ∀ id, (id ∈ idsOf plan.selectedObligations ∨ id ∈ omittedIdsOf plan.omittedObligations) ↔
        (id ∈ idsOf plan.sourcePlan.selectedObligations ∨ id ∈ omittedIdsOf plan.sourcePlan.omittedObligations) := by
  have deep : ∀ item : SelectedObligation, ¬ ((plan.catalog.obligationsById.get? item.obligationId).any fun obligation =>
        decide (item.depth.rank < obligation.fullDepth.rank)) = true ↔
      ∀ obligation ∈ plan.catalog.obligations, obligation.obligationId = item.obligationId →
        obligation.fullDepth.rank ≤ item.depth.rank := by
    intro item
    rw [Option.any_eq_true]
    constructor
    · intro none obligation member same
      by_contra shallow
      refine none ⟨obligation, ValidationCatalog.obligationsById_eq_some.mpr ⟨member, same⟩, ?_⟩
      simpa using shallow
    · rintro every ⟨obligation, found, shallow⟩
      obtain ⟨member, same⟩ := ValidationCatalog.obligationsById_eq_some.mp found
      have bound := every obligation member same
      simp only [decide_eq_true_eq] at shallow
      omega
  simp only [requireClassification, bind_unit_eq_ok, raiseIf_eq_ok]
  simp [sameMembers_iff, selectedById, omittedById, sourceSelectedById, sourceOmittedById, mem_keys_indexBy_map, mem_obligationKeys, keys_indexBy_eq_nil, deep]

theorem requireObligationCoverage_eq_ok (selected : CanonicalTexts (idsOf plan.selectedObligations))
    (omitted : CanonicalTexts (omittedIdsOf plan.omittedObligations)) :
    plan.requireObligationCoverage = .ok () ↔
      (∀ source ∈ plan.sourcePlan.selectedObligations, ∃ item ∈ plan.selectedObligations, Covers item source) ∧
      (∀ item ∈ plan.selectedObligations,
        (∃ source ∈ plan.sourcePlan.selectedObligations, source.obligationId = item.obligationId ∧
          source.requiredWitnessIds = item.requiredWitnessIds) ∨
        ∃ source ∈ plan.sourcePlan.omittedObligations, source.obligationId = item.obligationId ∧
          source.requiredWitnessIds = item.requiredWitnessIds) ∧
      plan.omittedObligations ⊆ plan.sourcePlan.omittedObligations := by
  have sourceFacts := plan.sourcePlan.facts
  simp only [requireObligationCoverage, bind_unit_eq_ok, forEach_eq_ok, raiseIf_eq_ok]
  simp only [selectedById, omittedById, sourceSelectedById, sourceOmittedById, forall_entries_indexBy sourceFacts.selected.nodup, forall_entries_indexBy selected.nodup, forall_entries_indexBy omitted.nodup, not_not, Dictionary.get?_indexBy_eq_some_iff sourceFacts.omitted.nodup]
  refine and_congr ?_ (and_congr ?_ ?_)
  · refine forall₂_congr fun source _ => Iff.trans ?_ (Dictionary.exists_get?_indexBy selected.nodup)
    split
    · rename_i missing
      simp [missing]
    · rename_i candidate found
      simp [found]
  · refine forall₂_congr fun item _ => ?_
    split
    · rename_i source found
      obtain ⟨member, same⟩ := Dictionary.get?_indexBy_mem found
      simp only [Option.some.injEq]
      constructor
      · exact fun equal => .inl ⟨source, member, same, equal⟩
      · rintro (⟨other, inside, equal, required⟩ | ⟨other, inside, equal, -⟩)
        · rw [inj_on_of_nodup_map sourceFacts.selected.nodup member inside (same.trans equal.symm)]
          exact required
        · exact absurd (mem_map.mpr ⟨other, inside, equal.trans same.symm⟩) (sourceFacts.disjoint source member)
    · rename_i none
      rw [Dictionary.get?_indexBy_eq_none_iff] at none
      rw [Option.map_eq_some_iff]
      simp only [Dictionary.get?_indexBy_eq_some_iff sourceFacts.omitted.nodup, and_assoc]
      constructor
      · exact .inr
      · rintro (⟨other, inside, equal, -⟩ | found)
        · exact absurd equal (none other inside)
        · exact found
  · constructor
    · exact fun each item member => (each item member).1
    · exact fun included item member => ⟨included member, trivial⟩

theorem requireWitnessCoverage_eq_ok (canonical : CanonicalTexts (plan.selectedWitnesses.map (·.witnessId))) :
    plan.requireWitnessCoverage = .ok () ↔
      ∀ source ∈ plan.sourcePlan.selectedWitnesses, ∃ witness ∈ plan.selectedWitnesses, WitnessCovers witness source := by
  simp only [requireWitnessCoverage, forEach_eq_ok]
  refine forall₂_congr fun source _ => Iff.trans ?_ (Dictionary.exists_get?_indexBy canonical.nodup)
  split
  · rename_i missing
    simp [missing]
  · rename_i candidate found
    simp [found]

/-- The constructor accepts exactly the consistent plans that carry their own identifier. -/
theorem postInit_eq_ok : plan.postInit = .ok () ↔ plan.Consistent ∧ plan.expectedId = .ok plan.executionPlanId := by
  simp only [postInit, bind_eq_ok, exists_unit_iff, raiseIf_eq_ok, not_not, requireSorted_eq_ok]
  constructor
  · rintro ⟨catalog, selected, -, omitted, closed, computed, rfl, classification, coverage, witnesses, id, identified, rfl⟩
    obtain ⟨closable, closes⟩ := (closeSelectedWitnesses_eq_ok selected).mp computed
    obtain ⟨disjoint, classified, full, sourceClassified⟩ := requireClassification_eq_ok.mp classification
    obtain ⟨covers, requirements, omissions⟩ := (requireObligationCoverage_eq_ok selected omitted).mp coverage
    exact ⟨⟨catalog, selected, omitted, closable, closes, disjoint, classified, full, sourceClassified, covers,
      requirements, omissions, (requireWitnessCoverage_eq_ok closes.ordered).mp witnesses⟩, identified⟩
  · rintro ⟨consistent, identified⟩
    refine ⟨consistent.catalog, consistent.selected, consistent.closes.ordered, consistent.omitted,
      plan.selectedWitnesses, (closeSelectedWitnesses_eq_ok consistent.selected).mpr
        ⟨consistent.closable, consistent.closes⟩, rfl, ?_, ?_, ?_, plan.executionPlanId, identified, rfl⟩
    · exact requireClassification_eq_ok.mpr
        ⟨consistent.disjoint, consistent.classified, consistent.full, consistent.sourceClassified⟩
    · exact (requireObligationCoverage_eq_ok consistent.selected consistent.omitted).mpr
        ⟨consistent.covers, consistent.requirements, consistent.omissions⟩
    · exact (requireWitnessCoverage_eq_ok consistent.closes.ordered).mpr consistent.witnesses

end VerifiedPlanFields

end CiCoordinator.VerificationCore

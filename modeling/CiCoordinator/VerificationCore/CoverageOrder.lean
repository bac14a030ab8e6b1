import CiCoordinator.VerificationCore.ClosureAgreement

/- The order that the coverage comparison decides. -/

namespace CiCoordinator.VerificationCore

open Library ValidationContract List
open PlanningCore Dictionary

/-- A selection of a catalog with the witnesses that close it. -/
structure ClosedSelection (catalog : ValidationCatalog) where
  obligations : List SelectedObligation
  witnesses : List SelectedWitness
  drawn : DrawnFrom catalog obligations
  closed : closeSelectedWitnesses catalog obligations = .ok witnesses

/-- The comparison of a selection, the candidate, with another one, the baseline. -/
def ClosedSelection.compare {catalog : ValidationCatalog} (candidate baseline : ClosedSelection catalog) :
    CoverageRelation :=
  (compareCoverage baseline.obligations baseline.witnesses candidate.obligations candidate.witnesses).relation

namespace ClosedSelection

variable {catalog : ValidationCatalog} {first second third : ClosedSelection catalog} (self : ClosedSelection catalog)

theorem distinct : (idsOf self.obligations).Nodup :=
  (self.drawn.closeSelectedWitnesses_iff.mp self.closed).1

theorem closes : Closes self.obligations self.witnesses :=
  (self.drawn.closeSelectedWitnesses_iff.mp self.closed).2.2

/-- A selection dominates another when it has all its obligations at least as deep and with at least their witnesses. -/
def Dominates (candidate baseline : ClosedSelection catalog) : Prop :=
  ∀ source ∈ baseline.obligations, ∃ item ∈ candidate.obligations, item.obligationId = source.obligationId ∧
    source.depth.rank ≤ item.depth.rank ∧ source.requiredWitnessIds ⊆ item.requiredWitnessIds

/-- Obligations of one identity have the requirements of the catalog. -/
theorem required_eq {item other : SelectedObligation} (member : item ∈ first.obligations)
    (otherMember : other ∈ second.obligations) (same : item.obligationId = other.obligationId) :
    item.requiredWitnessIds = other.requiredWitnessIds := by
  obtain ⟨obligation, inside, identity, required⟩ := first.drawn item member
  obtain ⟨origin, originInside, originIdentity, originRequired⟩ := second.drawn other otherMember
  obtain rfl := ValidationCatalog.obligation_unique inside originInside (identity.trans (same.trans originIdentity.symm))
  exact required.symm.trans originRequired

theorem dominates_iff_covers :
    first.Dominates second ↔ ∀ source ∈ second.obligations, ∃ item ∈ first.obligations, Covers item source := by
  refine forall₂_congr fun source member => exists_congr fun item => and_congr_right fun inside => ?_
  constructor
  · rintro ⟨identity, deep, -⟩
    exact ⟨identity, required_eq inside member identity, deep⟩
  · rintro ⟨identity, required, deep⟩
    exact ⟨identity, deep, required ▸ List.Subset.refl _⟩

/-- A dominating selection has deeper witnesses with more reverse edges. -/
theorem Dominates.witnesses (dominates : first.Dominates second) :
    ∀ source ∈ second.witnesses, ∃ witness ∈ first.witnesses, WitnessCovers witness source :=
  second.closes.covers first.closes (dominates_iff_covers.mp dominates)

theorem Dominates.trans (left : first.Dominates second) (right : second.Dominates third) : first.Dominates third := by
  intro source member
  obtain ⟨middle, middleMember, middleIdentity, middleDeep, middleRequired⟩ := right source member
  obtain ⟨item, inside, identity, deep, required⟩ := left middle middleMember
  exact ⟨item, inside, identity.trans middleIdentity, middleDeep.trans deep, List.Subset.trans middleRequired required⟩

theorem obligation_ext {left right : SelectedObligation} (identity : left.obligationId = right.obligationId)
    (depth : left.depth = right.depth) (required : left.requiredWitnessIds = right.requiredWitnessIds) : left = right := by
  obtain ⟨⟨leftId, leftDepth, leftRequired⟩, leftAdmitted⟩ := left
  obtain ⟨⟨rightId, rightDepth, rightRequired⟩, rightAdmitted⟩ := right
  simp only at identity depth required
  subst identity depth required
  rfl

/-- Selections that dominate each other have the same obligations and witnesses. -/
theorem Dominates.antisymm (left : first.Dominates second) (right : second.Dominates first) :
    first.obligations.Perm second.obligations ∧ first.witnesses = second.witnesses := by
  have included : ∀ {first second : ClosedSelection catalog}, first.Dominates second → second.Dominates first →
      second.obligations ⊆ first.obligations := by
    intro first second left right source member
    obtain ⟨item, inside, identity, deep, -⟩ := left source member
    obtain ⟨other, otherMember, otherIdentity, otherDeep, -⟩ := right item inside
    obtain rfl := inj_on_of_nodup_map second.distinct otherMember member (otherIdentity.trans identity)
    rw [← obligation_ext identity (ValidationDepth.rank_injective (Nat.le_antisymm otherDeep deep))
      (required_eq inside otherMember identity)]
    exact inside
  have same : first.obligations.Perm second.obligations := by
    refine (perm_ext_iff_of_nodup (List.Nodup.of_map _ first.distinct) (List.Nodup.of_map _ second.distinct)).mpr ?_
    exact fun item => ⟨fun inside => included right left inside, fun inside => included left right inside⟩
  exact ⟨same, (closes_perm same first.closes).unique second.closes⟩

/-- Selections with the same obligations dominate each other. -/
theorem dominates_of_perm (same : first.obligations.Perm second.obligations) : first.Dominates second :=
  fun source member => ⟨source, same.mem_iff.mpr member, rfl, le_rfl, List.Subset.refl _⟩

end ClosedSelection

section Strengthening

variable {baselineObligations candidateObligations : List SelectedObligation}
  {baselineWitnesses candidateWitnesses : List SelectedWitness}

/-- An obligation is deeper in the candidate. -/
theorem compareObligation_strengthened (distinct : (idsOf candidateObligations).Nodup) {source : SelectedObligation} :
    (compareObligation (indexBy (fun item : SelectedObligation => item.obligationId) candidateObligations)
        (source.obligationId, source)).2 = true ↔
      ∃ item ∈ candidateObligations, item.obligationId = source.obligationId ∧ source.depth.rank < item.depth.rank := by
  rw [compareObligation.eq_def]
  refine Iff.trans ?_ (Dictionary.exists_get?_indexBy distinct)
  split
  · rename_i missing
    simp [missing]
  · rename_i candidate found
    simp [found]

/-- A witness is deeper in the candidate. -/
theorem compareWitness_strengthened (distinct : (candidateWitnesses.map (·.witnessId)).Nodup) {source : SelectedWitness} :
    (compareWitness (indexBy (fun item : SelectedWitness => item.witnessId) candidateWitnesses)
        (source.witnessId, source)).2 = true ↔
      ∃ witness ∈ candidateWitnesses, witness.witnessId = source.witnessId ∧ source.depth.rank < witness.depth.rank := by
  rw [compareWitness.eq_def]
  refine Iff.trans ?_ (Dictionary.exists_get?_indexBy distinct)
  split
  · rename_i missing
    simp [missing]
  · rename_i candidate found
    simp [found]

/-- No item is strengthened exactly when the baseline has every item of the candidate at least as deep. -/
theorem nothing_strengthened {A : Type} {identity : A → Text} {rank : A → Nat} {compare : Text × A → List Text × Bool}
    {baseline candidate : List A} (baselineDistinct : (baseline.map identity).Nodup)
    (deeper : ∀ source, (compare (identity source, source)).2 = true ↔
      ∃ item ∈ candidate, identity item = identity source ∧ rank source < rank item) :
    ((((indexBy identity baseline).entries.map compare).any Prod.snd = false ∧
      (indexBy identity candidate).keys.any (· ∉ (indexBy identity baseline).keys) = false) ↔
      ∀ item ∈ candidate, ∃ source ∈ baseline, identity source = identity item ∧ rank item ≤ rank source) := by
  rw [any_eq_false, forall_mem_map, forall_entries_indexBy baselineDistinct, any_eq_false]
  simp only [deeper, decide_eq_true_eq, not_not, mem_keys_indexBy]
  constructor
  · rintro ⟨shallow, listed⟩ item member
    obtain ⟨source, inside, same⟩ := listed (identity item) ⟨item, member, rfl⟩
    exact ⟨source, inside, same, not_lt.mp fun deep => shallow source inside ⟨item, member, same.symm, deep⟩⟩
  · intro covered
    constructor
    · rintro source inside ⟨item, member, same, deep⟩
      obtain ⟨other, otherInside, otherSame, bound⟩ := covered item member
      rw [inj_on_of_nodup_map baselineDistinct otherInside inside (otherSame.trans same)] at bound
      exact absurd deep (not_lt.mpr bound)
    · rintro key ⟨item, member, rfl⟩
      obtain ⟨source, inside, same, -⟩ := covered item member
      exact ⟨source, inside, same⟩

/-- The verdict without a strengthening. -/
theorem verdict_weak {reasons : List Text} {strengthened : Bool} {comparison : CoverageComparison}
    (result : comparison = if reasons ≠ [] then ⟨if strengthened then .incomparable else .less, reasons⟩
      else ⟨if strengthened then .strictlyGreater else .equal, []⟩) :
    (comparison.relation = .equal ∨ comparison.relation = .less) ↔ strengthened = false := by
  subst result
  cases strengthened <;> by_cases some : reasons ≠ [] <;> simp [some]

/-- The comparison finds nothing strengthened exactly when the baseline has every obligation and every witness of the
candidate at least as deep. -/
theorem compareCoverage_weak_iff (baselineDistinct : (idsOf baselineObligations).Nodup)
    (candidateDistinct : (idsOf candidateObligations).Nodup)
    (baselineWitnessesDistinct : (baselineWitnesses.map (·.witnessId)).Nodup)
    (candidateWitnessesDistinct : (candidateWitnesses.map (·.witnessId)).Nodup) :
    ((compareCoverage baselineObligations baselineWitnesses candidateObligations candidateWitnesses).relation = .equal ∨
      (compareCoverage baselineObligations baselineWitnesses candidateObligations candidateWitnesses).relation = .less) ↔
      (∀ item ∈ candidateObligations, ∃ source ∈ baselineObligations,
        source.obligationId = item.obligationId ∧ item.depth.rank ≤ source.depth.rank) ∧
      ∀ witness ∈ candidateWitnesses, ∃ source ∈ baselineWitnesses,
        source.witnessId = witness.witnessId ∧ witness.depth.rank ≤ source.depth.rank := by
  have obligations := @nothing_strengthened SelectedObligation (·.obligationId)
    (·.depth.rank) _ _ _ baselineDistinct fun source =>
      compareObligation_strengthened candidateDistinct
  have witnesses := @nothing_strengthened SelectedWitness (·.witnessId) (·.depth.rank) _ _ _
    baselineWitnessesDistinct fun source =>
      compareWitness_strengthened candidateWitnessesDistinct
  rw [← obligations, ← witnesses]
  refine (verdict_weak rfl).trans ?_
  simp only [Bool.or_eq_false_iff, and_assoc]

end Strengthening

namespace ClosedSelection

variable {catalog : ValidationCatalog} {first second third : ClosedSelection catalog}

/-- A selection is equal or strictly greater exactly when it dominates. -/
theorem compare_dominates :
    (first.compare second = .equal ∨ first.compare second = .strictlyGreater) ↔ first.Dominates second := by
  refine (compareCoverage_dominates_iff second.distinct first.distinct second.closes.ordered.nodup
    first.closes.ordered.nodup).trans ⟨fun both => dominates_iff_covers.mpr both.1, fun dominates => ?_⟩
  exact ⟨dominates_iff_covers.mp dominates, dominates.witnesses⟩

/-- A selection is equal or less exactly when it is dominated. -/
theorem compare_dominated : (first.compare second = .equal ∨ first.compare second = .less) ↔ second.Dominates first := by
  refine (compareCoverage_weak_iff second.distinct first.distinct second.closes.ordered.nodup
    first.closes.ordered.nodup).trans ⟨?_, fun dominates => ⟨?_, ?_⟩⟩
  · rintro ⟨covered, -⟩ item member
    obtain ⟨source, inside, same, deep⟩ := covered item member
    exact ⟨source, inside, same, deep, required_eq inside member same ▸ List.Subset.refl _⟩
  · intro item member
    obtain ⟨source, inside, same, deep, -⟩ := dominates item member
    exact ⟨source, inside, same, deep⟩
  · intro witness member
    obtain ⟨source, inside, same, deep, -⟩ := dominates.witnesses witness member
    exact ⟨source, inside, same, deep⟩

end ClosedSelection

/-- Over one catalog the comparison decides a partial order of the selections with their closing witnesses: domination
by deeper obligations. -/
theorem compareCoverage_partial_order {catalog : ValidationCatalog} (first second third : ClosedSelection catalog) :
    (first.compare second = .equal ↔ first.obligations.Perm second.obligations ∧ first.witnesses = second.witnesses) ∧
    (first.compare second = .strictlyGreater ↔ second.compare first = .less) ∧
    ((first.compare second = .equal ∨ first.compare second = .strictlyGreater) →
      (second.compare third = .equal ∨ second.compare third = .strictlyGreater) →
        (first.compare third = .equal ∨ first.compare third = .strictlyGreater)) ∧
    ((first.compare second = .equal ∨ first.compare second = .strictlyGreater) ↔
      ∀ source ∈ second.obligations, ∃ item ∈ first.obligations, item.obligationId = source.obligationId ∧
        source.depth.rank ≤ item.depth.rank ∧ source.requiredWitnessIds ⊆ item.requiredWitnessIds) ∧
    ((first.compare second = .equal ∨ first.compare second = .strictlyGreater) →
      ∀ source ∈ second.witnesses, ∃ witness ∈ first.witnesses, WitnessCovers witness source) := by
  have dominates := @ClosedSelection.compare_dominates catalog first second
  have dominated := @ClosedSelection.compare_dominated catalog first second
  refine ⟨⟨fun equal => ?_, fun same => ?_⟩, ?_, fun left right => ?_, dominates, fun greater => ?_⟩
  · exact (dominates.mp (Or.inl equal)).antisymm (dominated.mp (Or.inl equal))
  · have greater := dominates.mpr (ClosedSelection.dominates_of_perm same.1)
    have less := dominated.mpr (ClosedSelection.dominates_of_perm same.1.symm)
    rcases greater with equal | greater
    · exact equal
    · rcases less with equal | less
      · exact equal
      · rw [greater] at less
        cases less
  · have swapped := @ClosedSelection.compare_dominates catalog second first
    have other := @ClosedSelection.compare_dominated catalog second first
    cases verdict : first.compare second <;> cases reversed : second.compare first <;> simp_all
  · rw [ClosedSelection.compare_dominates] at left right ⊢
    exact left.trans right
  · exact (dominates.mp greater).witnesses

namespace Sample

theorem selection_closes : (closeSelectedWitnesses catalog selection).isOk = true := by
  decide +kernel

/-- The documentation check at full depth, with the lint check. -/
def deep : ClosedSelection catalog :=
  ⟨selection, returned _ selection_closes, selection_drawn, eq_ok_returned selection_closes⟩

/-- The lint check alone. -/
def lintSelection : List SelectedObligation :=
  [lintSelected]

/-- The documentation check at smoke depth, with the lint check. -/
def smokeSelection : List SelectedObligation :=
  docsSelected :: lintSelection

theorem smokeSelection_drawn : DrawnFrom catalog smokeSelection := by
  unfold DrawnFrom
  decide +kernel

theorem smokeSelection_closes : (closeSelectedWitnesses catalog smokeSelection).isOk = true := by
  decide +kernel

def shallow : ClosedSelection catalog :=
  ⟨smokeSelection, returned _ smokeSelection_closes, smokeSelection_drawn, eq_ok_returned smokeSelection_closes⟩

theorem lintSelection_closes : (closeSelectedWitnesses catalog lintSelection).isOk = true := by
  decide +kernel

def least : ClosedSelection catalog :=
  ⟨lintSelection, returned _ lintSelection_closes,
    fun item member => smokeSelection_drawn item (mem_cons_of_mem _ member), eq_ok_returned lintSelection_closes⟩

end Sample

/-- Three selections, each of which covers more than the next one. -/
theorem compareCoverage_partial_order_deeper :
    (Sample.deep.compare Sample.shallow = .strictlyGreater ∧ Sample.shallow.compare Sample.least = .strictlyGreater) ∧
      Sample.shallow.compare Sample.deep = .less ∧
      (Sample.deep.compare Sample.least = .equal ∨ Sample.deep.compare Sample.least = .strictlyGreater) ∧
      ∀ source ∈ Sample.shallow.witnesses, ∃ witness ∈ Sample.deep.witnesses, WitnessCovers witness source := by
  have strict : Sample.deep.compare Sample.shallow = .strictlyGreater ∧
      Sample.shallow.compare Sample.least = .strictlyGreater := by
    decide +kernel
  obtain ⟨-, reversed, chained, -, witnesses⟩ := compareCoverage_partial_order Sample.deep Sample.shallow Sample.least
  exact ⟨strict, reversed.mp strict.1, chained (.inr strict.1) (.inr strict.2), witnesses (.inr strict.1)⟩

end CiCoordinator.VerificationCore

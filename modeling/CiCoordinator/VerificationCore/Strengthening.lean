import CiCoordinator.VerificationCore.AdmissionFacts

/- The invariant of the advice requests and the plans they lead to. -/

namespace CiCoordinator.VerificationCore

open Library Kernel ValidationContract RepoContext List
open PlanningCore AgentRiskAdvice Dictionary

/-- A selected obligation repeats a catalog obligation at a supported depth that is at least the default one. -/
def Grounded (catalog : ValidationCatalog) (item : SelectedObligation) : Prop :=
  ∃ obligation ∈ catalog.obligations, obligation.obligationId = item.obligationId ∧
    obligation.requiredWitnessIds = item.requiredWitnessIds ∧ Supports catalog obligation item.depth ∧
    obligation.defaultDepth.rank ≤ item.depth.rank

/-- The table of selected obligations while advice is applied. -/
structure Strengthened (catalog : ValidationCatalog) (base : List SelectedObligation)
    (table : Dictionary Text SelectedObligation) : Prop where
  keyed : ∀ key item, table.get? key = some item → item.obligationId = key
  grounded : ∀ key item, table.get? key = some item → Grounded catalog item
  keeps : ∀ source ∈ base, ∃ item, table.get? source.obligationId = some item ∧ Covers item source

variable {catalog : ValidationCatalog} {base : List SelectedObligation} {table : Dictionary Text SelectedObligation}
variable {obligation : ValidationObligation}

theorem strengthened_base (canonical : CanonicalTexts (idsOf base)) (grounded : ∀ item ∈ base, Grounded catalog item) :
    Strengthened catalog base (indexBy (fun item : SelectedObligation => item.obligationId) base) where
  keyed := fun _ _ found => (Dictionary.get?_indexBy_mem found).2
  grounded := fun _ item found => grounded item (Dictionary.get?_indexBy_mem found).1
  keeps := fun source member =>
    ⟨source, (Dictionary.get?_indexBy_eq_some_iff canonical.nodup).mpr ⟨member, rfl⟩, rfl, rfl, le_rfl⟩

/-- A table keeps the invariant when an item replaces what stood under its own identity and covers it. -/
theorem Strengthened.set (strengthened : Strengthened catalog base table) {item : SelectedObligation}
    (grounded : Grounded catalog item)
    (covers : ∀ previous, table.get? item.obligationId = some previous → Covers item previous) :
    Strengthened catalog base (table.set item.obligationId item) where
  keyed := by
    intro key other found
    rw [Dictionary.get?_set] at found
    split at found
    · rename_i same
      rw [← Option.some.inj found, same]
    · exact strengthened.keyed key other found
  grounded := by
    intro key other found
    rw [Dictionary.get?_set] at found
    split at found
    · exact Option.some.inj found ▸ grounded
    · exact strengthened.grounded key other found
  keeps := by
    intro source member
    obtain ⟨previous, found, covered⟩ := strengthened.keeps source member
    rw [Dictionary.get?_set]
    split
    · rename_i same
      obtain ⟨identity, required, deeper⟩ := covers previous (same ▸ found)
      exact ⟨item, rfl, identity.trans covered.1, required.trans covered.2.1, covered.2.2.trans deeper⟩
    · exact ⟨previous, found, covered⟩

theorem requireObligation_known (member : obligation ∈ catalog.obligations) {obligationId : Text}
    (same : obligation.obligationId = obligationId) : requireObligation catalog obligationId = .ok obligation := by
  simp only [requireObligation, ValidationCatalog.obligationsById_eq_some.mpr ⟨member, same⟩]

theorem selectDefault_total (member : obligation ∈ catalog.obligations) :
    ∃ item, selectDefault obligation = .ok item ∧ item.obligationId = obligation.obligationId ∧
      item.requiredWitnessIds = obligation.requiredWitnessIds ∧ item.depth = obligation.defaultDepth ∧
      Grounded catalog item := by
  obtain ⟨item, created, fields⟩ := create_total obligation obligation.defaultDepth
  refine ⟨item, created, by rw [fields], by rw [fields], by rw [fields], obligation, member, by rw [fields],
    by rw [fields], ?_, by rw [fields]⟩
  rw [fields]
  exact supports_default member

/-- Adding a known obligation keeps the invariant. -/
theorem addObligation_total (strengthened : Strengthened catalog base table) {obligationId : Text}
    (known : ∃ obligation ∈ catalog.obligations, obligation.obligationId = obligationId) :
    ∃ next, addObligation catalog table obligationId = .ok next ∧ Strengthened catalog base next := by
  obtain ⟨obligation, member, rfl⟩ := known
  obtain ⟨item, created, identity, -, -, grounded⟩ := selectDefault_total member
  refine ⟨table.setDefault obligation.obligationId item, ?_, ?_⟩
  · simp only [addObligation, requireObligation_known member rfl, created, ok_bind_eq]
    rfl
  · unfold setDefault
    split
    · exact strengthened
    · rename_i none
      rw [← identity]
      refine strengthened.set grounded fun previous found => ?_
      rw [identity, none] at found
      cases found

/-- Deepening a known obligation to a supported depth keeps the invariant. -/
theorem increaseObligation_total (strengthened : Strengthened catalog base table) {increase : AdviceDepthIncrease}
    (member : obligation ∈ catalog.obligations) (same : obligation.obligationId = increase.obligationId)
    (supports : Supports catalog obligation increase.minDepth) :
    ∃ next, increaseObligation catalog table increase = .ok next ∧ Strengthened catalog base next := by
  obtain ⟨added, created, addedIdentity, -, -, addedGrounded⟩ := selectDefault_total member
  set current := (table.get? increase.obligationId).getD added with currentDef
  have currentFacts : current.obligationId = increase.obligationId ∧ Grounded catalog current := by
    cases found : table.get? increase.obligationId with
    | none =>
      rw [currentDef, found]
      exact ⟨addedIdentity.trans same, addedGrounded⟩
    | some item =>
      rw [currentDef, found]
      exact ⟨strengthened.keyed _ item found, strengthened.grounded _ item found⟩
  obtain ⟨identity, other, otherMember, otherSame, required, currentSupports, deep⟩ := currentFacts
  have equal : other = obligation :=
    ValidationCatalog.obligation_unique otherMember member (otherSame.trans (identity.trans same.symm))
  subst equal
  obtain ⟨deepened, made, fields⟩ := create_total other (current.depth.max increase.minDepth)
  have madeFrom : SelectedObligation.create current.obligationId (current.depth.max increase.minDepth)
      current.requiredWitnessIds = .ok deepened := by
    rw [← otherSame, ← required]
    exact made
  have deepRank : current.depth.rank ≤ (current.depth.max increase.minDepth).rank := by
    rw [ValidationDepth.rank_max]
    exact Nat.le_max_left _ _
  have grounded : Grounded catalog deepened := by
    refine ⟨other, member, by rw [fields], by rw [fields], ?_, ?_⟩
    · rw [fields]
      rcases ValidationDepth.max_eq current.depth increase.minDepth with left | right
      · simpa only [left] using currentSupports
      · simpa only [right] using supports
    · rw [fields]
      exact deep.trans deepRank
  have deepenedId : deepened.obligationId = increase.obligationId := by
    rw [fields]
    exact same
  refine ⟨table.set increase.obligationId deepened, ?_, ?_⟩
  · simp only [increaseObligation, requireObligation_known member same, created, ok_bind_eq, ← currentDef, madeFrom]
    rfl
  · rw [← deepenedId]
    refine strengthened.set grounded fun previous found => ?_
    rw [deepenedId] at found
    have currentEqual : current = previous := by rw [currentDef, found, Option.getD_some]
    subst currentEqual
    refine ⟨deepenedId.trans identity.symm, ?_, ?_⟩
    · rw [fields]
      exact required
    · rw [fields]
      exact deepRank

/-- Requestable advice always strengthens a grounded selection. -/
theorem strengthen_total (canonical : CanonicalTexts (idsOf base)) (grounded : ∀ item ∈ base, Grounded catalog item)
    {advice : AgentAdvice} (requestable : Requestable catalog advice) :
    ∃ table, strengthen catalog base advice = .ok table ∧ Strengthened catalog base table := by
  obtain ⟨added, addedComputed, addedHolds⟩ := foldSteps_invariant
    (fun obligationId member state (holds : Strengthened catalog base state) =>
      addObligation_total holds (requestable.added obligationId member)) (strengthened_base canonical grounded)
  obtain ⟨deepened, deepenedComputed, deepenedHolds⟩ := foldSteps_invariant
    (fun increase member state (holds : Strengthened catalog base state) => by
      obtain ⟨obligation, inside, same, -, supports⟩ := requestable.increased increase member
      exact increaseObligation_total holds inside same supports) addedHolds
  obtain ⟨final, finalComputed, finalHolds⟩ := foldSteps_invariant
    (fun obligationId (member : obligationId ∈ advice.riskFindings.map (·.obligationId)) state
        (holds : Strengthened catalog base state) => by
      obtain ⟨finding, inside, rfl⟩ := mem_map.mp member
      exact addObligation_total holds (requestable.found finding inside)) deepenedHolds
  exact ⟨final, by simp only [strengthen, addedComputed, ok_bind_eq, deepenedComputed, finalComputed], finalHolds⟩

theorem Grounded.closable {selected : List SelectedObligation} (grounded : ∀ item ∈ selected, Grounded catalog item) :
    Closable catalog selected := by
  intro item member
  obtain ⟨obligation, inside, same, required, supports, -⟩ := grounded item member
  exact ⟨obligation, inside, same, required, supports⟩

/-- The strengthened obligations in canonical order. -/
theorem Strengthened.sorted (strengthened : Strengthened catalog base table) :
    ∃ final, sortedByText (fun item : SelectedObligation => item.obligationId) table.values = .ok final ∧
      CanonicalTexts (idsOf final) ∧ ∀ item, item ∈ final ↔ ∃ key, table.get? key = some item := by
  have scalar : ∀ item ∈ table.values, item.obligationId.scalar = true := fun item _ => item.facts.2.1
  have ids : (table.values.map (·.obligationId)) = table.keys := by
    rw [Dictionary.values, Dictionary.keys, map_map]
    refine map_congr_left fun entry member => ?_
    exact strengthened.keyed entry.1 entry.2 (Dictionary.get?_eq_some_iff.mpr member)
  have distinct : (table.values.map (·.obligationId)).Nodup := ids ▸ table.distinct
  refine ⟨_, sortedByText_of_scalar scalar, canonical_sortBy distinct scalar, fun item => ?_⟩
  rw [mem_sortBy, mem_values_iff]

/-- The witnesses of a closable selection have execution authorities. -/
theorem executionAuthorities_total {selected : List SelectedObligation} {witnesses : List SelectedWitness}
    (closable : Closable catalog selected) (closes : Closes selected witnesses) :
    ∃ authorities, executionAuthorities catalog witnesses = .ok authorities := by
  refine collect_total fun witness member => ?_
  obtain ⟨item, inside, required, -⟩ := closes.attained witness member
  obtain ⟨obligation, obligationMember, -, sameRequired, -⟩ := closable item inside
  obtain ⟨found, lookup, -⟩ := catalog.facts.required obligation obligationMember witness.witnessId (sameRequired ▸ required)
  obtain ⟨profile, profiled⟩ := catalog.facts.profiled found (ValidationCatalog.witnessesById_eq_some.mp lookup).1
  exact ⟨authorityOf profile, by simp only [lookup, Option.bind_some, profiled]⟩

section Coverage

variable {baselineObligations candidateObligations : List SelectedObligation}
  {baselineWitnesses candidateWitnesses : List SelectedWitness}

theorem compareObligation_reasons_eq_nil (distinct : (idsOf candidateObligations).Nodup) {source : SelectedObligation} :
    (compareObligation (indexBy (fun item : SelectedObligation => item.obligationId) candidateObligations)
        (source.obligationId, source)).1 = [] ↔ ∃ item ∈ candidateObligations, Covers item source := by
  rw [compareObligation.eq_def]
  refine Iff.trans ?_ (Dictionary.exists_get?_indexBy distinct)
  split
  · rename_i missing
    simp [missing]
  · rename_i candidate found
    simp [found, reasonIf_eq_nil]

theorem compareWitness_reasons_eq_nil (distinct : (candidateWitnesses.map (·.witnessId)).Nodup) {source : SelectedWitness} :
    (compareWitness (indexBy (fun item : SelectedWitness => item.witnessId) candidateWitnesses)
        (source.witnessId, source)).1 = [] ↔ ∃ witness ∈ candidateWitnesses, WitnessCovers witness source := by
  rw [compareWitness.eq_def]
  refine Iff.trans ?_ (Dictionary.exists_get?_indexBy distinct)
  split
  · rename_i missing
    simp [missing]
  · rename_i candidate found
    simp [found, reasonIf_eq_nil, and_comm]

/-- The comparison finds no regression exactly when every obligation and every witness is covered. -/
theorem compareCoverage_dominates_iff (baselineDistinct : (idsOf baselineObligations).Nodup)
    (candidateDistinct : (idsOf candidateObligations).Nodup)
    (baselineWitnessesDistinct : (baselineWitnesses.map (·.witnessId)).Nodup)
    (candidateWitnessesDistinct : (candidateWitnesses.map (·.witnessId)).Nodup) :
    ((compareCoverage baselineObligations baselineWitnesses candidateObligations candidateWitnesses).relation = .equal ∨
      (compareCoverage baselineObligations baselineWitnesses candidateObligations candidateWitnesses).relation =
        .strictlyGreater) ↔
      (∀ source ∈ baselineObligations, ∃ item ∈ candidateObligations, Covers item source) ∧
        ∀ source ∈ baselineWitnesses, ∃ witness ∈ candidateWitnesses, WitnessCovers witness source := by
  have none : ∀ reasons : List Text, sortBy id reasons = [] ↔ reasons = [] := by
    intro reasons
    rw [← length_eq_zero_iff, ← length_eq_zero_iff, (sortBy_perm id reasons).length_eq]
  have covered : (∀ source ∈ baselineObligations, ∃ item ∈ candidateObligations, Covers item source) ↔
      ((indexBy (fun item : SelectedObligation => item.obligationId) baselineObligations).entries.map
        (compareObligation (indexBy (fun item : SelectedObligation => item.obligationId)
          candidateObligations))).flatMap Prod.fst = [] := by
    rw [flatMap_eq_nil_iff, forall_mem_map, forall_entries_indexBy baselineDistinct]
    exact forall₂_congr fun source _ => (compareObligation_reasons_eq_nil candidateDistinct).symm
  have witnessed : (∀ source ∈ baselineWitnesses, ∃ witness ∈ candidateWitnesses, WitnessCovers witness source) ↔
      ((indexBy (fun item : SelectedWitness => item.witnessId) baselineWitnesses).entries.map
        (compareWitness (indexBy (fun item : SelectedWitness => item.witnessId) candidateWitnesses))).flatMap Prod.fst = [] := by
    rw [flatMap_eq_nil_iff, forall_mem_map, forall_entries_indexBy baselineWitnessesDistinct]
    exact forall₂_congr fun source _ => (compareWitness_reasons_eq_nil candidateWitnessesDistinct).symm
  rw [covered, witnessed, ← append_eq_nil_iff, ← none]
  simp only [compareCoverage]
  split
  · rename_i reasons
    simp only [reasons, iff_false]
    split <;> simp
  · rename_i reasons
    rw [not_not] at reasons
    simp only [reasons, iff_true]
    split <;> simp

end Coverage

end CiCoordinator.VerificationCore

import CiCoordinator.PlanningCore.PlanFacts
import CiCoordinator.PlanningCore.RollbackCoverage
import CiCoordinator.RepoContext.BuilderFacts

/- The meaning of the coverage order: what a greater epoch plans. -/

namespace CiCoordinator.PlanningCore

open Library Kernel ValidationContract RepoContext List
open ConfigControl

section

variable {relation : CoverageRelation} {directions : List Int} {projection : DynamicCiPlanningProjection}
  {policy : PlanningPolicy} {snapshot : PolicySnapshot} {input : PlanningInput}

theorem compiledPolicyParts_distinct [JsonDecoder] {bytes : List Nat} {outer dynamic : Json}
    (computed : compiledPolicyParts bytes = .ok (outer, dynamic)) : outer.distinct := by
  simp only [compiledPolicyParts, bind_eq_ok] at computed
  obtain ⟨decoded, loaded, parts⟩ := computed
  have distinct := JsonDecoder.loads_distinct bytes decoded loaded
  cases decoded with
  | obj compiled =>
    simp only at parts
    split at parts
    · cases parts
    · cases parts
      rw [Json.distinct] at distinct ⊢
      obtain ⟨names, values⟩ := distinct
      rw [Json.distinctMembers_iff] at values ⊢
      exact ⟨names.sublist (filter_sublist.map _), fun pair member => values pair (mem_of_mem_filter member)⟩
  | _ => cases parts

theorem same_eq_false_comm {left right : Json} (leftDistinct : left.distinct) (rightDistinct : right.distinct) :
    left.same right = right.same left := by
  rw [Bool.eq_iff_iff]
  exact ⟨Json.same_symm left right leftDistinct rightDistinct, Json.same_symm right left rightDistinct leftDistinct⟩

/-- The comparison of two epochs in the other order gives the swapped relation. -/
theorem compareRetainedEpochCoverage_swap [JsonDecoder] {active target : ValidatedEpochDraft}
    (compared : compareRetainedEpochCoverage active target = .ok relation) :
    compareRetainedEpochCoverage target active = .ok relation.swap := by
  unfold compareRetainedEpochCoverage at compared ⊢
  by_cases sameBytes : active.compiledPolicyBytes = target.compiledPolicyBytes
  · rw [if_pos sameBytes] at compared
    rw [if_pos sameBytes.symm, ← Except.ok.inj compared]
    rfl
  · rw [if_neg sameBytes] at compared
    rw [if_neg (Ne.symm sameBytes)]
    simp only [bind_eq_ok] at compared ⊢
    obtain ⟨⟨activeOuter, activeDynamic⟩, activeParts, ⟨targetOuter, targetDynamic⟩, targetParts, decided⟩ := compared
    have outer : targetOuter.same activeOuter = activeOuter.same targetOuter :=
      same_eq_false_comm (compiledPolicyParts_distinct targetParts) (compiledPolicyParts_distinct activeParts)
    refine ⟨(targetOuter, targetDynamic), targetParts, (activeOuter, activeDynamic), activeParts, ?_⟩
    by_cases different : activeOuter.same targetOuter = false ∨ isAbsent activeDynamic = true ∨ isAbsent targetDynamic = true
    · have back : targetOuter.same activeOuter = false ∨ isAbsent targetDynamic = true ∨ isAbsent activeDynamic = true := by
        rw [outer]
        tauto
      simp only [if_pos different, pure_eq_ok_iff] at decided
      simp only [if_pos back, pure_eq_ok_iff, ← decided]
      rfl
    · have back : ¬ (targetOuter.same activeOuter = false ∨ isAbsent targetDynamic = true ∨ isAbsent activeDynamic = true) := by
        rw [outer]
        tauto
      simp only [if_neg different, bind_eq_ok] at decided
      simp only [if_neg back, bind_eq_ok]
      obtain ⟨activeProjection, activeProjected, targetProjection, targetProjected, decided⟩ := decided
      refine ⟨targetProjection, targetProjected, activeProjection, activeProjected, ?_⟩
      cases activeProjection with
      | none =>
        simp only [pure_eq_ok_iff] at decided
        cases targetProjection <;> simp only [pure_eq_ok_iff, ← decided] <;> rfl
      | some activeProjection =>
        cases targetProjection with
        | none =>
          simp only [pure_eq_ok_iff] at decided ⊢
          rw [← decided]
          rfl
        | some targetProjection => exact compareProjections_swap decided

/-- An obligation that runs whenever another one runs, and at least as deep. -/
structure ObligationCovers (target active : ValidationObligation) : Prop where
  identity : target.obligationId = active.obligationId
  requirements : target.requiredWitnessIds = active.requiredWitnessIds
  defaultDepth : active.defaultDepth.rank ≤ target.defaultDepth.rank
  fullDepth : active.fullDepth.rank ≤ target.fullDepth.rank
  omitAllowed : target.omitAllowed = true → active.omitAllowed = true
  paths : target.omitAllowed = true → active.responsibilityPaths ⊆ target.responsibilityPaths
  riskClasses : target.omitAllowed = true → active.responsibilityRiskClasses ⊆ target.responsibilityRiskClasses

theorem ObligationCovers.refl (obligation : ValidationObligation) : ObligationCovers obligation obligation :=
  ⟨rfl, rfl, le_rfl, le_rfl, id, fun _ => List.Subset.refl _, fun _ => List.Subset.refl _⟩

theorem le_of_order {active target : Nat} (grows : 0 ≤ order active target) : active ≤ target := by
  unfold order at grows
  split at grows <;> split at grows <;> omega

theorem subset_of_setOrder {active target : List Text} {direction : Int} (compared : setOrder active target = some direction)
    (grows : 0 ≤ direction) : active ⊆ target := by
  unfold setOrder at compared
  split at compared
  · rename_i both
    exact both.1
  · split at compared
    · assumption
    · split at compared
      · cases compared
        omega
      · cases compared

/-- Without a direction downwards an obligation covers the other. -/
theorem covers_of_directions {active target : ValidationObligation}
    (compared : compareObligationCoverage active target = some directions)
    (grows : ∀ direction ∈ directions, 0 ≤ direction) : ObligationCovers target active := by
  unfold compareObligationCoverage at compared
  split at compared
  · cases compared
  · rename_i same
    rw [not_or, not_not, not_not] at same
    have base : ∀ rest : List Int, (∀ direction ∈ [order active.defaultDepth.rank target.defaultDepth.rank,
          order active.fullDepth.rank target.fullDepth.rank,
          order active.omitAllowed.toNat target.omitAllowed.toNat * -1] ++ rest, 0 ≤ direction) →
        active.defaultDepth.rank ≤ target.defaultDepth.rank ∧ active.fullDepth.rank ≤ target.fullDepth.rank ∧
          (target.omitAllowed = true → active.omitAllowed = true) := by
      intro rest positive
      refine ⟨le_of_order (positive _ (by simp)), le_of_order (positive _ (by simp)), fun allowed => ?_⟩
      have omission := positive (order active.omitAllowed.toNat target.omitAllowed.toNat * -1) (by simp)
      by_contra kept
      simp [allowed, Bool.eq_false_iff.mpr kept, order] at omission
    simp only at compared
    split at compared
    · rename_i allowed
      split at compared
      · rename_i paths riskClasses pathsCompared riskClassesCompared
        cases compared
        obtain ⟨defaultDepth, fullDepth, omission⟩ := base _ grows
        exact ⟨same.1.symm, same.2.symm, defaultDepth, fullDepth, omission,
          fun _ => subset_of_setOrder pathsCompared (grows paths (by simp)),
          fun _ => subset_of_setOrder riskClassesCompared (grows riskClasses (by simp))⟩
      · cases compared
    · rename_i refused
      cases compared
      obtain ⟨defaultDepth, fullDepth, omission⟩ := base [] (by simpa using grows)
      have kept : target.omitAllowed = true → False := fun allowed => refused ⟨omission allowed, allowed⟩
      exact ⟨same.1.symm, same.2.symm, defaultDepth, fullDepth, omission, fun allowed => (kept allowed).elim,
        fun allowed => (kept allowed).elim⟩

theorem covers_of_compareObligations {active target : List ValidationObligation}
    (compared : compareObligations active target = some directions) (length : active.length = target.length)
    (grows : ∀ direction ∈ directions, 0 ≤ direction) :
    List.Forall₂ (fun active target => ObligationCovers target active) active target := by
  induction active generalizing target directions with
  | nil =>
    cases target with
    | nil => exact List.Forall₂.nil
    | cons _ _ => cases length
  | cons obligation rest ih =>
    cases target with
    | nil => cases length
    | cons other others =>
      rw [compareObligations] at compared
      split at compared
      · cases compared
      · rename_i first firstCompared
        obtain ⟨later, laterCompared, rfl⟩ := Option.map_eq_some_iff.mp compared
        refine List.Forall₂.cons (covers_of_directions firstCompared fun direction member => ?_)
          (ih laterCompared (Nat.succ.inj length) fun direction member => ?_)
        · exact grows direction (mem_append_left _ member)
        · exact grows direction (mem_append_right _ member)

theorem nonnegative_of_collapse (covers : collapseDirections directions = .equal ∨ collapseDirections directions = .greater) :
    ∀ direction ∈ directions, 0 ≤ direction := by
  have less : directions.any (· < 0) = false := by
    by_contra negative
    rw [Bool.not_eq_false] at negative
    simp only [collapseDirections, negative, Bool.and_true, if_true] at covers
    split at covers <;> simp at covers
  simpa [any_eq_false] using less

/-- What a covering epoch has in common with the active one. -/
structure EpochCovers (target active : DynamicCiPlanningProjection) : Prop where
  source : target.dependencyGraphSource = active.dependencyGraphSource
  globalRiskPaths : target.globalRiskPaths = active.globalRiskPaths
  riskClasses : target.riskClasses = active.riskClasses
  obligations : List.Forall₂ (fun active target => ObligationCovers target active)
    active.validationCatalog.obligations target.validationCatalog.obligations

theorem fromProjection_catalog [JsonDecoder] (made : PlanningPolicy.fromProjection projection = .ok policy) :
    policy.configEpochId = projection.epochId ∧ policy.compiledPolicyHash = projection.compiledPolicyHash ∧
      policy.policyHash = projection.policyHash ∧ policy.catalog = projection.validationCatalog := by
  simp only [PlanningPolicy.fromProjection, bind_eq_ok, exists_unit_iff, construct_eq_ok] at made
  obtain ⟨-, advice, -, -, rfl⟩ := made
  exact ⟨rfl, rfl, rfl, rfl⟩

theorem snapshotFromProjection_fields [JsonDecoder] (made : snapshotFromProjection projection = .ok snapshot) :
    snapshot.toPolicySnapshotFields = ⟨projection.epochId, projection.compiledPolicyHash, projection.policyHash,
      projection.dependencyGraphSource, projection.globalRiskPaths, projection.riskClasses⟩ := by
  simp only [snapshotFromProjection, bind_eq_ok, exists_unit_iff, construct_eq_ok] at made
  obtain ⟨-, -, rfl⟩ := made
  rfl

theorem epochCovers_of_compareProjections [JsonDecoder] {active target : DynamicCiPlanningProjection}
    (compared : compareProjections active target = .ok relation) (covers : relation = .equal ∨ relation = .greater) :
    EpochCovers target active := by
  unfold compareProjections at compared
  split at compared
  · cases compared
    simp at covers
  · rename_i same
    simp only [not_or, not_not] at same
    obtain ⟨source, paths, riskClasses, -, -⟩ := same
    simp only [bind_eq_ok, pure_eq_ok_iff] at compared
    obtain ⟨activePolicy, activeMade, targetPolicy, targetMade, rfl⟩ := compared
    refine ⟨source.symm, paths.symm, riskClasses.symm, ?_⟩
    rw [← (fromProjection_catalog activeMade).2.2.2, ← (fromProjection_catalog targetMade).2.2.2]
    unfold comparePolicies at covers
    split at covers
    · simp at covers
    · rename_i alike
      simp only [not_or, not_not] at alike
      split at covers
      · simp at covers
      · rename_i directions compared
        exact covers_of_compareObligations compared (by simpa using congrArg List.length alike.2.2)
          (nonnegative_of_collapse covers)

/-- An equal or greater epoch covers the active one. -/
theorem epochCovers_of_compare [JsonDecoder] {active target : ValidatedEpochDraft}
    {activeProjection targetProjection : DynamicCiPlanningProjection}
    (activeProjected : projectDynamicCiPlanning active = .ok (some activeProjection))
    (targetProjected : projectDynamicCiPlanning target = .ok (some targetProjection))
    (compared : compareRetainedEpochCoverage active target = .ok relation)
    (covers : relation = .equal ∨ relation = .greater) : EpochCovers targetProjection activeProjection := by
  unfold compareRetainedEpochCoverage at compared
  split at compared
  · rename_i sameBytes
    have same := facts_of_sameBytes sameBytes activeProjected targetProjected
    refine ⟨by rw [same], by rw [same], by rw [same], ?_⟩
    rw [same]
    exact forall₂_same.mpr fun obligation _ => ObligationCovers.refl obligation
  · simp only [bind_eq_ok] at compared
    obtain ⟨⟨activeOuter, activeDynamic⟩, -, ⟨targetOuter, targetDynamic⟩, -, decided⟩ := compared
    split at decided
    · cases decided
      simp at covers
    · simp only [activeProjected, targetProjected, ok_bind_eq] at decided
      exact epochCovers_of_compareProjections decided covers

/-- The policy and the planning input of an epoch for a diff and a graph artifact. -/
structure EpochInput [JsonDecoder] (draft : ValidatedEpochDraft) (repoEpoch : RepositoryEpoch) (diff : DiffContext)
    (artifact : DependencyGraphArtifact) (policy : PlanningPolicy) (input : PlanningInput) : Prop where
  bound : ∃ projection snapshot, projectDynamicCiPlanning draft = .ok (some projection) ∧
    PlanningPolicy.fromProjection projection = .ok policy ∧ snapshotFromProjection projection = .ok snapshot ∧
    Prepared repoEpoch diff snapshot artifact input

theorem matches_of_prepared [JsonDecoder] {repoEpoch : RepositoryEpoch} {diff : DiffContext}
    {artifact : DependencyGraphArtifact} (policyMade : PlanningPolicy.fromProjection projection = .ok policy)
    (snapshotMade : snapshotFromProjection projection = .ok snapshot)
    (prepared : Prepared repoEpoch diff snapshot artifact input) : Matches input policy := by
  obtain ⟨config, compiled, policyHash, -⟩ := fromProjection_catalog policyMade
  obtain ⟨-, -, -, bound⟩ := (buildPlanningInput_built prepared.inputBuilt).parts
  have fields := snapshotFromProjection_fields snapshotMade
  unfold Matches
  rw [bound, fields]
  exact ⟨config, compiled, policyHash⟩

/-- A returned plan without fallback reasons has analyzed scalar paths. -/
theorem scalar_of_plan {result : DeterministicPlan ⊕ PlanningRejected} (matching : Matches input policy)
    (computed : plan input policy = .ok result) (regular : input.fallbackReasons = []) :
    ∀ path ∈ input.diff.namedPaths, path.scalar = true := by
  obtain ⟨rejections, rejectionsComputed, -, -, rejectionsIff⟩ := plannerRejectionReasons_spec input policy
  have accepted : rejections = [] := rejectionsIff.mpr matching
  subst accepted
  have admission : plannerAdmissionReasons input policy = .ok [] := by
    simp only [plannerAdmissionReasons, rejectionsComputed, ok_bind_eq, append_nil, regular]
    exact sortedTexts_of_canonical CanonicalTexts.nil
  simp only [plan, rejectionsComputed, ok_bind_eq, ne_eq, not_true_eq_false, if_false, admission, bind_eq_ok] at computed
  obtain ⟨impact, analyzed, -⟩ := computed
  simp only [analyzeImpact, DiffContext.changedPaths, bind_eq_ok] at analyzed
  obtain ⟨changedPaths, sorted, -⟩ := analyzed
  exact (sortedTexts_eq_ok.mp sorted).1

theorem plannable_of_prepared {repoEpoch : RepositoryEpoch} {diff : DiffContext} {artifact : DependencyGraphArtifact}
    (prepared : Prepared repoEpoch diff snapshot artifact input)
    (scalar : input.fallbackReasons = [] → ∀ path ∈ input.diff.namedPaths, path.scalar = true) : Plannable input := by
  have built := buildPlanningInput_built prepared.inputBuilt
  obtain ⟨hash, hashed, -⟩ := built.reasons
  refine ⟨?_, isSha256Hex_of_hashObject built.hashed, scalar, built.canonical, prepared.named⟩
  rw [built.parts.1]
  exact admissible_of_hashObject hashed

/-- Two inputs on which the planner analyzes the same impact. -/
structure SameImpact (left right : PlanningInput) : Prop where
  diff : left.diff = right.diff
  nodes : left.dependencyGraph.nodes = right.dependencyGraph.nodes
  globalRiskPaths : left.dependencyGraph.globalRiskPaths = right.dependencyGraph.globalRiskPaths
  reasons : left.fallbackReasons = right.fallbackReasons

variable {left right : PlanningInput}

theorem SameImpact.isNode (same : SameImpact left right) : isNode left.dependencyGraph = isNode right.dependencyGraph := by
  funext path
  simp only [PlanningCore.isNode, nodesByPath, same.nodes]

theorem SameImpact.isGlobalRisk (same : SameImpact left right) :
    isGlobalRisk left.dependencyGraph = isGlobalRisk right.dependencyGraph := by
  funext path
  simp only [PlanningCore.isGlobalRisk, same.globalRiskPaths]

theorem SameImpact.impacted (same : SameImpact left right) :
    Impacted left.dependencyGraph left.diff.namedPaths = Impacted right.dependencyGraph right.diff.namedPaths := by
  have dependents : dependentsOf left.dependencyGraph = dependentsOf right.dependencyGraph := by
    funext path
    simp only [dependentsOf, nodesByPath, same.nodes]
  funext path
  rw [Impacted, Impacted, dependents, same.diff]

theorem SameImpact.riskClassesOf (same : SameImpact left right) :
    riskClassesOf left.dependencyGraph = riskClassesOf right.dependencyGraph := by
  funext path
  simp only [PlanningCore.riskClassesOf, nodesByPath, same.nodes]

theorem SameImpact.needsFullCi (same : SameImpact left right) : NeedsFullCi left ↔ NeedsFullCi right := by
  rw [NeedsFullCi, NeedsFullCi, same.reasons, same.isNode, same.impacted]

/-- What the covering obligation omits, the covered one omits too. -/
theorem ObligationCovers.omits {target active : ValidationObligation} (covers : ObligationCovers target active)
    {targetInput activeInput : PlanningInput} (same : SameImpact targetInput activeInput)
    (omits : Omits targetInput target) : Omits activeInput active := by
  refine ⟨covers.omitAllowed omits.allowed, ?_, ?_, ?_⟩
  · intro path changed
    rw [← same.isGlobalRisk]
    exact omits.safe path (same.diff ▸ changed)
  · intro path impacted pattern listed
    rw [← same.impacted] at impacted
    exact omits.unaffected.paths path impacted pattern (covers.paths omits.allowed listed)
  · intro path impacted riskClass listed responsible
    rw [← same.impacted] at impacted
    rw [← same.riskClassesOf] at listed
    exact omits.unaffected.riskClasses path impacted riskClass listed (covers.riskClasses omits.allowed responsible)

theorem exists_covering {active target : List ValidationObligation}
    (covers : List.Forall₂ (fun active target => ObligationCovers target active) active target)
    {obligation : ValidationObligation} (member : obligation ∈ active) :
    ∃ other ∈ target, ObligationCovers other obligation := by
  induction covers with
  | nil => cases member
  | cons first _ ih =>
    rcases mem_cons.mp member with rfl | later
    · exact ⟨_, mem_cons_self, first⟩
    · obtain ⟨other, inside, covered⟩ := ih later
      exact ⟨other, mem_cons_of_mem _ inside, covered⟩

/-- The plan of a covering policy selects what the plan of the other one selects. -/
theorem plan_covers {activeInput targetInput : PlanningInput} {activePolicy targetPolicy : PlanningPolicy}
    {activePlan targetPlan : DeterministicPlan} (same : SameImpact targetInput activeInput)
    (covers : List.Forall₂ (fun active target => ObligationCovers target active) activePolicy.catalog.obligations
      targetPolicy.catalog.obligations)
    (activeDecided : NeedsFullCi activeInput ∧ FullPlan activePolicy activePlan ∨
      ¬ NeedsFullCi activeInput ∧ SelectivePlan activeInput activePolicy activePlan)
    (targetDecided : NeedsFullCi targetInput ∧ FullPlan targetPolicy targetPlan ∨
      ¬ NeedsFullCi targetInput ∧ SelectivePlan targetInput targetPolicy targetPlan) :
    (∀ source ∈ activePlan.selectedObligations, ∃ item ∈ targetPlan.selectedObligations, Covers item source) ∧
      (activePlan.fallback.triggered = true → targetPlan.fallback.triggered = true) ∧
      Closes activePlan.selectedObligations activePlan.selectedWitnesses ∧
      Closes targetPlan.selectedObligations targetPlan.selectedWitnesses := by
  rcases activeDecided with ⟨needs, active⟩ | ⟨bounded, active⟩
  · rcases targetDecided with ⟨-, target⟩ | ⟨absurdity, -⟩
    · refine ⟨fun source member => ?_, fun _ => target.triggered, active.closes, target.closes⟩
      obtain ⟨obligation, inside, made⟩ := exists_of_mem_collect active.selected member
      obtain ⟨other, otherInside, covered⟩ := exists_covering covers inside
      obtain ⟨item, selected, itemMade⟩ := mem_collect_of_mem target.selected otherInside
      have sourceFields := SelectedObligation.create_eq_ok.mp made
      have itemFields := SelectedObligation.create_eq_ok.mp itemMade
      refine ⟨item, selected, ?_, ?_, ?_⟩
      · rw [itemFields, sourceFields]
        exact covered.identity
      · rw [itemFields, sourceFields]
        exact covered.requirements
      · rw [itemFields, sourceFields]
        exact covered.fullDepth
    · exact absurd (same.needsFullCi.mpr needs) absurdity
  · rcases targetDecided with ⟨needs, -⟩ | ⟨-, target⟩
    · exact absurd (same.needsFullCi.mp needs) bounded
    · refine ⟨fun source member => ?_, fun triggered => ?_, active.closes, target.closes⟩
      · obtain ⟨obligation, inside, kept, sourceFields⟩ := (active.selected source).mp member
        obtain ⟨other, otherInside, covered⟩ := exists_covering covers inside
        have otherKept : ¬ Omits targetInput other := fun omits => kept (covered.omits same omits)
        obtain ⟨item, itemFields⟩ : ∃ item : SelectedObligation, item.toSelectedObligationFields =
            ⟨other.obligationId, other.defaultDepth, other.requiredWitnessIds⟩ := by
          obtain ⟨item, -, fields⟩ := PlanningCore.create_total other other.defaultDepth
          exact ⟨item, fields⟩
        refine ⟨item, (target.selected item).mpr ⟨other, otherInside, otherKept, itemFields⟩, ?_, ?_, ?_⟩
        · rw [itemFields, sourceFields]
          exact covered.identity
        · rw [itemFields, sourceFields]
          exact covered.requirements
        · rw [itemFields, sourceFields]
          exact covered.defaultDepth
      · rw [active.triggered] at triggered
        cases triggered

/-- An equal or greater epoch plans for every diff and artifact what the active epoch plans or more, and the comparison
in the other order gives the swapped relation. -/
theorem rollback_coverage_sound [JsonDecoder] {active target : ValidatedEpochDraft} {relation : CoverageRelation}
    (compared : compareRetainedEpochCoverage active target = .ok relation) :
    compareRetainedEpochCoverage target active = .ok relation.swap ∧ (relation = .equal ∨ relation = .greater →
        ∀ (repoEpoch : RepositoryEpoch) (diff : DiffContext) (artifact : DependencyGraphArtifact)
          (activePolicy targetPolicy : PlanningPolicy) (activeInput targetInput : PlanningInput)
          (activePlan : DeterministicPlan),
          EpochInput active repoEpoch diff artifact activePolicy activeInput →
          EpochInput target repoEpoch diff artifact targetPolicy targetInput →
          plan activeInput activePolicy = .ok (.inl activePlan) →
          ∃ targetPlan, plan targetInput targetPolicy = .ok (.inl targetPlan) ∧
            (∀ source ∈ activePlan.selectedObligations, ∃ item ∈ targetPlan.selectedObligations, Covers item source) ∧
            (∀ source ∈ activePlan.selectedWitnesses, ∃ witness ∈ targetPlan.selectedWitnesses,
              WitnessCovers witness source) ∧
            (activePlan.fallback.triggered = true → targetPlan.fallback.triggered = true)) := by
  refine ⟨compareRetainedEpochCoverage_swap compared, ?_⟩
  intro covers repoEpoch diff artifact activePolicy targetPolicy activeInput targetInput activePlan activeBound targetBound
    planned
  obtain ⟨activeProjection, activeSnapshot, activeProjected, activeMade, activeSnapshotMade, activePrepared⟩ :=
    activeBound.bound
  obtain ⟨targetProjection, targetSnapshot, targetProjected, targetMade, targetSnapshotMade, targetPrepared⟩ :=
    targetBound.bound
  have epochs := epochCovers_of_compare activeProjected targetProjected compared covers
  have activeFields := snapshotFromProjection_fields activeSnapshotMade
  have targetFields := snapshotFromProjection_fields targetSnapshotMade
  obtain ⟨nodes, paths, reasons⟩ := Prepared.graph_congr (by rw [activeFields, targetFields]; exact epochs.source)
    (by rw [activeFields, targetFields]; exact epochs.globalRiskPaths)
    (by rw [activeFields, targetFields]; exact epochs.riskClasses) activePrepared targetPrepared
  have activeDiff := (buildPlanningInput_built activePrepared.inputBuilt).parts.2.1
  have targetDiff := (buildPlanningInput_built targetPrepared.inputBuilt).parts.2.1
  have same : SameImpact targetInput activeInput := by
    refine ⟨targetDiff.trans activeDiff.symm, nodes, paths, ?_⟩
    have computed := targetPrepared.fallbackReasons_eq
    rw [reasons, activePrepared.fallbackReasons_eq, Except.ok.injEq] at computed
    exact computed.symm
  have activeMatches := matches_of_prepared activeMade activeSnapshotMade activePrepared
  have scalar := scalar_of_plan activeMatches planned
  obtain ⟨activeResult, activeComputed, -, activeDecided⟩ :=
    plan_total (plannable_of_prepared activePrepared scalar) activeMatches
  rw [planned, Except.ok.injEq, Sum.inl.injEq] at activeComputed
  subst activeComputed
  obtain ⟨targetPlan, targetComputed, -, targetDecided⟩ :=
    plan_total (plannable_of_prepared targetPrepared fun regular path member => scalar (same.reasons ▸ regular) path
      (same.diff ▸ member)) (matches_of_prepared targetMade targetSnapshotMade targetPrepared)
  have obligations := epochs.obligations
  rw [← (fromProjection_catalog activeMade).2.2.2, ← (fromProjection_catalog targetMade).2.2.2] at obligations
  obtain ⟨selected, fallback, activeCloses, targetCloses⟩ := plan_covers same obligations activeDecided targetDecided
  exact ⟨targetPlan, targetComputed, selected, Closes.covers activeCloses targetCloses selected, fallback⟩

end

namespace Sample

/-- A host whose recursion limit is the usual one. -/
abbrev decoder : JsonDecoder :=
  @strictDecoder ⟨1000⟩

def digest : Text :=
  List.replicate 64 48

def commit : Text :=
  List.replicate 40 48

theorem sharding_admitted : (⟨1, 1, 1, .ofInt 0, .ofInt 1, .ofInt 0, .ofInt 0⟩ : ShardingPolicyFields).postInit = .ok () := by
  decide +kernel

def profile : ExecutionProfile :=
  ⟨⟨ascii "ci", ascii "ci", ascii "ci", ascii "ci", ascii "ci", [], ascii "ci", ⟨_, sharding_admitted⟩⟩, by decide +kernel⟩

def spelling : ExecutableWitness :=
  ⟨⟨ascii "spelling", ascii "ci", [.smoke, .full]⟩, by decide +kernel⟩

/-- The check of the documentation, which may always run as deep as in full CI. -/
def docs (deep : Bool) : ValidationObligation :=
  ⟨⟨ascii "docs", [ascii "docs/**"], [], [ascii "spelling"], if deep then .full else .smoke, .full, true⟩, by
    cases deep <;> decide +kernel⟩

def catalog (deep : Bool) : ValidationCatalogFields :=
  ⟨[docs deep], [spelling], [profile]⟩

/-- The compiled policy of a catalog. -/
def policyBytes (deep : Bool) : List Nat :=
  (render (.obj [(ascii "dynamicCi", .obj
    [(ascii "obligations", .arr [(docs deep).toIdentityMapping]), (ascii "witnesses", .arr [spelling.toIdentityMapping]),
      (ascii "executionProfiles", .arr [profile.toIdentityMapping]),
      (ascii "configuredValidationCatalogHash",
        .str (sha256Hex (render (sortMembers (catalog deep).toIdentityMapping)).utf8)),
      (ascii "policyHash", .str digest), (ascii "dependencyGraphSource", .str (ascii "configured")),
      (ascii "globalRiskPaths", .arr []), (ascii "riskClasses", .arr []),
      (ascii "agentAdvice", .obj [(ascii "enabled", .bool false), (ascii "modelIdAllowlist", .arr []),
        (ascii "promptHashAllowlist", .arr []), (ascii "minConfidence", .int 0),
        (ascii "promptInjectionEvalRequired", .bool false)]),
      (ascii "fallbackTimeoutSeconds", .int 60)])])).utf8

/-- The facts of the compiled policy. -/
def facts (deep : Bool) : PlanningFacts where
  policyHash := digest
  dependencyGraphSource := .configured
  globalRiskPaths := []
  riskClasses := []
  agentAdvice := ⟨false, [], [], .ofInt 0, false⟩
  fallbackTimeoutSeconds := 60
  validationCatalog := ⟨catalog deep, _, ValidationCatalogFields.postInit_of_checks (by cases deep <;> decide +kernel)⟩

theorem planningFacts_policyBytes (deep : Bool) : @planningFacts decoder (policyBytes deep) = .ok (some (facts deep)) := by
  cases deep <;> decide +kernel

def isEmptyObject : Json → Bool
  | .obj [] => true
  | _ => false

/-- Nothing stands beside the dynamic part of the compiled policy. -/
theorem compiledPolicyParts_policyBytes (deep : Bool) : ∃ dynamic,
    @compiledPolicyParts decoder (policyBytes deep) = .ok (.obj [], dynamic) ∧ isAbsent dynamic = false := by
  have computed : (@compiledPolicyParts decoder (policyBytes deep)).toOption.map (fun parts =>
      (isEmptyObject parts.1, isAbsent parts.2)) = some (true, false) := by
    cases deep <;> decide +kernel
  obtain ⟨⟨outer, dynamic⟩, parts, found⟩ := eq_ok_of_map_toOption computed
  simp only [Prod.mk.injEq] at found
  obtain ⟨empty, present⟩ := found
  unfold isEmptyObject at empty
  split at empty
  · exact ⟨dynamic, parts, present⟩
  · cases empty

def scope : RepositoryScope :=
  ⟨⟨1, 1⟩, firstScope⟩

/-- Bytes from which the facts of a sample policy are read, with the identity of their epoch. -/
structure Compiled (deep : Bool) where
  bytes : List Nat
  epochHash : Text
  epochId : Text
  bounded : requireBytes bytes (ascii "compiled_policy_bytes") 1 maxOutputBytes = .ok ()
  read : @planningFacts decoder bytes = .ok (some (facts deep))
  hashed : compiledPolicyHash bytes = epochHash
  identified : configEpochId scope digest digest epochHash = .ok epochId
  wellFormed : isSha256Hex epochHash = true ∧ isSha256Hex epochId = true

theorem isSha256Hex_configEpochId (epochHash : Text) : ∃ hash, configEpochId scope digest digest epochHash = .ok hash ∧
    isSha256Hex hash = true := by
  have admitted : admissible (.obj [(ascii "installationId", .int scope.installationId),
      (ascii "repositoryId", .int scope.repositoryId)]) = true := by
    decide
  exact ⟨_, by simp only [configEpochId, canonicalJson, canonicalJsonText_of_admissible admitted]; rfl, isSha256Hex_sha256Hex _⟩

def compiled (deep : Bool) : Compiled deep where
  bytes := policyBytes deep
  epochHash := compiledPolicyHash (policyBytes deep)
  epochId := (configEpochId scope digest digest (compiledPolicyHash (policyBytes deep))).toOption.getD []
  bounded := by cases deep <;> decide +kernel
  read := planningFacts_policyBytes deep
  hashed := rfl
  identified := by
    obtain ⟨hash, computed, -⟩ := isSha256Hex_configEpochId (compiledPolicyHash (policyBytes deep))
    rw [computed]
    rfl
  wellFormed := by
    obtain ⟨hash, computed, formed⟩ := isSha256Hex_configEpochId (compiledPolicyHash (policyBytes deep))
    rw [computed]
    exact ⟨isSha256Hex_sha256Hex _, formed⟩

theorem digest_wellFormed : isSha256Hex digest = true := by
  decide

theorem noAdvice_admitted : (⟨false, [], [], .ofInt 0, false⟩ : AgentAdvicePolicyFields).postInit =
    .ok ⟨false, [], [], .ofInt 0, false⟩ := by
  decide +kernel

def noAdvice : AgentAdvicePolicy :=
  ⟨_, noAdvice_admitted⟩

theorem noAdvice_created : AgentAdvicePolicy.create ⟨false, [], [], .ofInt 0, false⟩ = .ok noAdvice := by
  decide +kernel

namespace Compiled

variable {deep : Bool} (self : Compiled deep)

/-- The compiled policy under its own hashes. -/
def draft : ValidatedEpochDraft where
  sourceFormat := .json
  sourceBytes := []
  scope := scope
  normalizedDocumentBytes := [0]
  compiledPolicyBytes := self.bytes
  documentSchemaId := ascii "schema"
  documentProfileId := ascii "document"
  semanticProfileId := ascii "semantic"
  compiledSchemaId := ascii "compiled"
  producerResourceProfileId := ascii "resource"
  producerByteProfileId := ascii "byte"
  producerFeasibilityProfileId := ascii "feasibility"
  sourceHash := digest
  documentHash := digest
  epochHash := self.epochHash
  epochId := self.epochId
  admitted := by
    have texts : forEach (fun (entry : Text × Text) =>
        requireUnicodeScalarString entry.2 entry.1 maxConfigContractIdUtf8Bytes)
        [(ascii "document_schema_id", ascii "schema"), (ascii "document_profile_id", ascii "document"),
          (ascii "semantic_profile_id", ascii "semantic"), (ascii "compiled_schema_id", ascii "compiled"),
          (ascii "producer_resource_profile_id", ascii "resource"), (ascii "producer_byte_profile_id", ascii "byte"),
          (ascii "producer_feasibility_profile_id", ascii "feasibility")] = .ok () := by
      decide +kernel
    simp only [ValidatedEpochDraftFields.postInit, self.bounded, texts, bind_unit_eq_ok, true_and]
    simp [forEach_eq_ok, valueErrorIf, digest_wellFormed, self.wellFormed]
    decide

theorem verifies : verifyEpochIdentity self.draft = .ok () := by
  simp [verifyEpochIdentity, draft, self.hashed, self.identified, valueErrorIf]

def projection : DynamicCiPlanningProjection :=
  ⟨facts deep, self.draft, self.epochId, self.epochHash⟩

theorem verified : @projectVerifiedEpoch decoder self.draft = .ok (some self.projection) := by
  simp only [projectVerifiedEpoch, show self.draft.compiledPolicyBytes = self.bytes from rfl, self.read, ok_bind_eq]
  rfl

theorem projected : @projectDynamicCiPlanning decoder self.draft = .ok (some self.projection) := by
  simp only [projectDynamicCiPlanning, self.verifies, self.verified, ok_bind_eq]

theorem integral : @DynamicCiPlanningProjection.assertIntegrity decoder self.projection = .ok () := by
  have same : self.projection.same self.projection = true := by
    simp [DynamicCiPlanningProjection.same, projection]
    cases deep <;> decide +kernel
  simp only [DynamicCiPlanningProjection.assertIntegrity, show self.projection.admittedEpoch = self.draft from rfl,
    self.verifies, self.verified, ok_bind_eq, Option.any_some, same]
  rfl

/-- The policy that plans under the compiled policy. -/
def policy : PlanningPolicy :=
  ⟨⟨self.epochId, self.epochHash, digest, (facts deep).validationCatalog, 60, noAdvice⟩, by
    have patterns : ∀ obligation ∈ (facts deep).validationCatalog.obligations,
        ∀ pattern ∈ obligation.responsibilityPaths, validatePathPattern pattern = none := by
      cases deep <;> decide +kernel
    simpa [PlanningPolicyFields.postInit, self.wellFormed, digest_wellFormed] using patterns⟩

def snapshot : PolicySnapshot :=
  ⟨⟨self.epochId, self.epochHash, digest, .configured, [], []⟩, by
    simp [PolicySnapshotFields.postInit, self.wellFormed, digest_wellFormed, CanonicalTexts.nil]⟩

theorem policy_made : @PlanningPolicy.fromProjection decoder self.projection = .ok self.policy := by
  simp only [PlanningPolicy.fromProjection, self.integral, ok_bind_eq,
    show self.projection.agentAdvice = ⟨false, [], [], .ofInt 0, false⟩ from rfl, noAdvice_created]
  exact construct_ok self.policy.admitted

theorem snapshot_made : @snapshotFromProjection decoder self.projection = .ok self.snapshot := by
  simp only [snapshotFromProjection, self.integral, ok_bind_eq]
  exact construct_ok self.snapshot.admitted

/-- The epoch that checks the documentation in full is greater. -/
theorem compared {active : Compiled false} {target : Compiled true} (differ : active.bytes ≠ target.bytes)
    {activeDynamic targetDynamic : Json}
    (activeParts : @compiledPolicyParts decoder active.bytes = .ok (.obj [], activeDynamic))
    (targetParts : @compiledPolicyParts decoder target.bytes = .ok (.obj [], targetDynamic))
    (present : isAbsent activeDynamic = false ∧ isAbsent targetDynamic = false) :
    @compareRetainedEpochCoverage decoder active.draft target.draft = .ok .greater := by
  have policies : comparePolicies active.policy target.policy = .greater := by
    have evaluated : comparePolicies (compiled false).policy (compiled true).policy = .greater := by
      decide +kernel
    exact evaluated
  have projections : @compareProjections decoder active.projection target.projection = .ok .greater := by
    have alike : active.projection.agentAdvice.same target.projection.agentAdvice = true := by
      change CompiledAgentAdvice.same ⟨false, [], [], .ofInt 0, false⟩ ⟨false, [], [], .ofInt 0, false⟩ = true
      decide +kernel
    simp only [compareProjections, alike, policy_made, ok_bind_eq, policies]
    rfl
  have same : (Json.obj []).same (.obj []) = true := rfl
  simp only [compareRetainedEpochCoverage, show active.draft.compiledPolicyBytes = active.bytes from rfl,
    show target.draft.compiledPolicyBytes = target.bytes from rfl, differ, if_false, activeParts, targetParts, ok_bind_eq, same,
    present, projected, projections, Bool.true_eq_false, Bool.false_eq_true, or_self]

end Compiled

def epoch : RepositoryEpoch :=
  ⟨⟨1, 1, ascii "owner", ascii "name", .push, ascii "main", commit, commit⟩, by decide +kernel⟩

def artifact : DependencyGraphArtifact :=
  ⟨⟨.configured, ascii "v1", ascii "generator", commit, true, []⟩, [⟨ascii "docs/index", [], []⟩], []⟩

theorem onePage_admitted : (⟨true, 1, 1, 10⟩ : DiffSourceFields).postInit = .ok () := by
  decide

/-- The modification of one page. -/
def page : DiffBuildInput :=
  ⟨commit, commit, [⟨.text (ascii "docs/index"), .text (ascii "modified"), .integer 1, .integer 1, .absent, .absent⟩],
    ⟨_, onePage_admitted⟩⟩

/-- The diff of the page and what planning under a snapshot starts from. -/
def prepare (snapshot : PolicySnapshot) : Py (DiffContext × PlanningInput) := do
  let diff ← buildDiffContext page
  let graph ← buildDependencyGraph epoch diff snapshot artifact
  let input ← buildPlanningInput epoch diff graph snapshot
  return (diff, input)

/-- The evidence is complete, and nothing depends on the only changed path, which is known. -/
def Plain (input : PlanningInput) : Prop :=
  input.fallbackReasons = [] ∧ input.diff.namedPaths = [ascii "docs/index"] ∧
    isNode input.dependencyGraph (ascii "docs/index") = true ∧ dependentsOf input.dependencyGraph (ascii "docs/index") = []

instance (input : PlanningInput) : Decidable (Plain input) :=
  inferInstanceAs (Decidable (_ ∧ _ ∧ _ ∧ _))

theorem prepare_returns (deep : Bool) : ∃ diff input, buildDiffContext page = .ok diff ∧
    Prepared epoch diff (compiled deep).snapshot artifact input ∧ Plain input := by
  have computed : (prepare (compiled deep).snapshot).toOption.map (fun result => decide (Plain result.2)) = some true := by
    cases deep <;> decide +kernel
  obtain ⟨⟨diff, input⟩, returned, plain⟩ := eq_ok_of_map_toOption computed
  simp only [prepare, bind_eq_ok, pure_eq_ok_iff, Prod.mk.injEq] at returned
  obtain ⟨_, diffBuilt, _, graphBuilt, _, inputBuilt, rfl, rfl⟩ := returned
  obtain ⟨-, -, rfl, -⟩ := (buildPlanningInput_built inputBuilt).parts
  exact ⟨_, _, diffBuilt, ⟨graphBuilt, inputBuilt⟩, of_decide_eq_true plain⟩

def docsSelected (deep : Bool) : SelectedObligation :=
  ⟨⟨ascii "docs", if deep then .full else .smoke, [ascii "spelling"]⟩, by cases deep <;> decide +kernel⟩

/-- The modification of the page selects the check of the documentation at its default depth. -/
theorem plan_returns (deep : Bool) : ∃ diff input result, buildDiffContext page = .ok diff ∧
    @EpochInput decoder (compiled deep).draft epoch diff artifact (compiled deep).policy input ∧
    plan input (compiled deep).policy = .ok (.inl result) ∧ result.selectedObligations = [docsSelected deep] ∧
    result.fallback.triggered = false := by
  let _ := decoder
  obtain ⟨diff, input, diffBuilt, prepared, regular, changed, known, isolated⟩ := prepare_returns deep
  have matching := matches_of_prepared (compiled deep).policy_made (compiled deep).snapshot_made prepared
  have plannable : Plannable input := plannable_of_prepared prepared fun _ path member => by
    rw [changed, mem_singleton] at member
    exact member ▸ Text.scalar_ascii _
  obtain ⟨result, computed, -, decided⟩ := plan_total plannable matching
  refine ⟨diff, input, result, diffBuilt, ⟨⟨_, _, (compiled deep).projected, (compiled deep).policy_made,
    (compiled deep).snapshot_made, prepared⟩⟩, computed, ?_⟩
  rcases decided with ⟨needs, -⟩ | ⟨-, selective⟩
  · rcases needs with reasons | ⟨path, impacted, unknown⟩
    · exact absurd regular reasons
    · rw [changed] at impacted
      rw [impacted_single isolated impacted, known] at unknown
      cases unknown
  · have listed : docs deep ∈ (compiled deep).policy.catalog.obligations := mem_singleton.mpr rfl
    have kept : ¬ Omits input (docs deep) := by
      intro omits
      have touched := omits.unaffected.paths (ascii "docs/index") (changed ▸ ⟨_, mem_singleton.mpr rfl, .refl⟩)
        (ascii "docs/**") (mem_singleton.mpr rfl)
      exact absurd touched (by decide +kernel)
    exact ⟨selective.selects_single listed kept (fun other member _ => mem_singleton.mp member) rfl, selective.triggered⟩

end Sample

/-- A policy that checks the documentation in full covers one that checks it less deeply. -/
theorem rollback_coverage_sound_deeper : ∃ (activeInput targetInput : PlanningInput) (activePlan targetPlan : DeterministicPlan),
    @compareRetainedEpochCoverage Sample.decoder (Sample.compiled false).draft (Sample.compiled true).draft = .ok .greater ∧
      @compareRetainedEpochCoverage Sample.decoder (Sample.compiled true).draft (Sample.compiled false).draft = .ok .less ∧
      plan activeInput (Sample.compiled false).policy = .ok (.inl activePlan) ∧
      plan targetInput (Sample.compiled true).policy = .ok (.inl targetPlan) ∧
      activePlan.selectedObligations = [Sample.docsSelected false] ∧
      targetPlan.selectedObligations = [Sample.docsSelected true] ∧
      (∀ source ∈ activePlan.selectedObligations, ∃ item ∈ targetPlan.selectedObligations, Covers item source) ∧
      ∀ source ∈ activePlan.selectedWitnesses, ∃ witness ∈ targetPlan.selectedWitnesses, WitnessCovers witness source := by
  let _ := Sample.decoder
  obtain ⟨activeDynamic, activeParts, activePresent⟩ := Sample.compiledPolicyParts_policyBytes false
  obtain ⟨targetDynamic, targetParts, targetPresent⟩ := Sample.compiledPolicyParts_policyBytes true
  have differ : (Sample.compiled false).bytes ≠ (Sample.compiled true).bytes := by
    decide +kernel
  have compared := Sample.Compiled.compared differ activeParts targetParts ⟨activePresent, targetPresent⟩
  obtain ⟨diff, activeInput, activePlan, diffBuilt, activeBound, activePlanned, activeSelects, -⟩ := Sample.plan_returns false
  obtain ⟨other, targetInput, targetPlan, otherBuilt, targetBound, targetPlanned, targetSelects, -⟩ := Sample.plan_returns true
  rw [diffBuilt, Except.ok.injEq] at otherBuilt
  subst otherBuilt
  obtain ⟨swapped, sound⟩ := rollback_coverage_sound compared
  obtain ⟨covering, planned, obligations, witnesses, -⟩ :=
    sound (.inr rfl) _ _ _ _ _ _ _ _ activeBound targetBound activePlanned
  rw [targetPlanned, Except.ok.injEq, Sum.inl.injEq] at planned
  subst planned
  exact ⟨activeInput, targetInput, activePlan, targetPlan, compared, swapped, activePlanned, targetPlanned, activeSelects,
    targetSelects, obligations, witnesses⟩

end CiCoordinator.PlanningCore

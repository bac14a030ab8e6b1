import CiCoordinator.PlanningCore.PlanFacts
import CiCoordinator.RepoContext.BuilderFacts
import CiCoordinator.VerificationCore.Outcomes

/- When the verifier admits what the planner plans. -/

namespace CiCoordinator.VerificationCore

open Library Kernel ValidationContract RepoContext List
open PlanningCore Dictionary

section Agreement

variable {repoEpoch : RepositoryEpoch} {raw : DiffBuildInput} {artifact : DependencyGraphArtifact}
  {snapshot : PolicySnapshot} {input : PlanningInput} {policy : PlanningPolicy}

section

variable (built : BuiltFrom repoEpoch raw artifact snapshot input)
include built

theorem plannable_of_built : Plannable input :=
  ⟨built.verifiable.repoEpoch, built.verifiable.inputHash, fun _ => DiffContext.namedPaths_scalar built.verifiable.diff,
    (buildPlanningInput_built built.inputBuilt).canonical, built.prepared.named⟩

/-- Built inputs without fallback reasons are admitted for selective plans. -/
theorem selectiveContext_of_built (none : input.fallbackReasons = []) : selectiveContextIsAdmitted input = .ok true := by
  obtain ⟨epochSame, -, -, policySame⟩ := (buildPlanningInput_built built.inputBuilt).parts
  have graphFacts := buildDependencyGraph_built built.graphBuilt
  have regular := built.regular none
  obtain ⟨whole, complete, count, bound⟩ := (buildDiffContext_built built.diffBuilt).complete regular.diffReasons
  have graphAdmitted := input.dependencyGraph.admitted
  simp only [DependencyGraphContextFields.postInit, bind_eq_ok, exists_unit_iff, raiseIf_eq_ok, not_not] at graphAdmitted
  have fresh : input.dependencyGraph.fresh = true := by
    rw [graphAdmitted.1, regular.graphReasons]
    rfl
  simp only [selectiveContextIsAdmitted, bind_eq_ok, pure_eq_ok_iff]
  refine ⟨_, epochSame ▸ graphFacts.epochHash, ?_⟩
  simp [none, regular.diffReasons, whole, complete, count, regular.graphReasons, fresh, epochSame, policySame,
    regular.base, regular.head, graphFacts.diffHash, graphFacts.configEpoch, graphFacts.policyHash,
    graphFacts.compiledPolicy]
  exact count ▸ bound

end

theorem hasNode_iff {graph : DependencyGraphContext} {path : Text} : isNode graph path = true ↔ HasNode graph.nodes path := by
  rw [isNode, Option.isSome_iff_exists, ← mem_keys_iff, nodesByPath, mem_keys_indexBy_map, HasNode]

/-- Without fallback reasons a reachable unknown path is itself a changed path. -/
theorem known_of_built (built : BuiltFrom repoEpoch raw artifact snapshot input) (none : input.fallbackReasons = [])
    (known : ∀ path ∈ input.diff.namedPaths, isNode input.dependencyGraph path = true) :
    ∀ path, Impacted input.dependencyGraph input.diff.namedPaths path → isNode input.dependencyGraph path = true := by
  rintro path ⟨start, member, chain⟩
  cases chain with
  | refl => exact known path member
  | tail _ edge =>
    unfold dependentsOf at edge
    split at edge
    · simp at edge
    · rename_i node found
      exact hasNode_iff.mpr ((built.edges none).2 node (get?_indexBy_mem found).1 path edge)

/-- The obligation that a piece of evidence names. -/
def evidenceOwner (evidence : PlanEvidence) : Text :=
  evidence.obligationId.getD []

/-- Evidence that names distinct obligations and no fallback is collected completely. -/
theorem evidenceByObligation_total (evidence : List PlanEvidence) (collected : Dictionary Text PlanEvidence)
    (owned : ∀ item ∈ evidence, item.obligationId = some (evidenceOwner item) ∧ item.kind ≠ .fallback)
    (distinct : (evidence.map evidenceOwner).Nodup) (fresh : ∀ item ∈ evidence, evidenceOwner item ∉ collected.keys) :
    ∃ result, evidenceByObligation evidence collected = some result ∧
      (∀ item ∈ evidence, result.get? (evidenceOwner item) = some item) ∧
      ∀ key, key ∉ evidence.map evidenceOwner → result.get? key = collected.get? key := by
  induction evidence generalizing collected with
  | nil => exact ⟨collected, rfl, by simp, fun _ _ => rfl⟩
  | cons first rest ih =>
    obtain ⟨owner, kind⟩ := owned first mem_cons_self
    rw [map_cons, nodup_cons] at distinct
    have restFresh : ∀ item ∈ rest, evidenceOwner item ∉ (collected.set (evidenceOwner first) first).keys := by
      intro item member listed
      obtain ⟨value, found⟩ := mem_keys_iff.mp listed
      rw [get?_set] at found
      split at found
      · rename_i same
        exact distinct.1 (same ▸ mem_map_of_mem member)
      · exact fresh item (mem_cons_of_mem _ member) (mem_keys_iff.mpr ⟨value, found⟩)
    obtain ⟨result, computed, each, others⟩ := ih _ (fun item member => owned item (mem_cons_of_mem _ member))
      distinct.2 restFresh
    refine ⟨result, ?_, ?_, ?_⟩
    · simp only [evidenceByObligation, owner]
      rw [if_neg (not_or.mpr ⟨kind, fresh first mem_cons_self⟩), computed]
    · intro item member
      rcases mem_cons.mp member with rfl | later
      · rw [others _ distinct.1, get?_set, if_pos rfl]
      · exact each item later
    · intro key absent
      rw [map_cons, mem_cons, not_or] at absent
      rw [others key absent.2, get?_set, if_neg absent.1]

theorem Plans.owned {obligation : ValidationObligation} {repoEpochHash : Text} {entry : PlannedObligation}
    (plans : Plans input policy obligation repoEpochHash entry) :
    entry.evidence.obligationId = some obligation.obligationId ∧ entry.evidence.kind ≠ .fallback := by
  cases entry with
  | selected item evidence =>
    obtain ⟨-, -, kind, owner⟩ := plans
    exact ⟨owner, by rw [PlannedObligation.evidence, kind]; decide⟩
  | omitted item evidence =>
    obtain ⟨-, -, -, -, kind, owner⟩ := plans
    exact ⟨owner, by rw [PlannedObligation.evidence, kind]; decide⟩

section Selective

variable {result : DeterministicPlan}

section

variable (selective : SelectivePlan input policy result)
include selective

theorem SelectivePlan.mem_ids {obligation : ValidationObligation} (inside : obligation ∈ policy.catalog.obligations) :
    obligation.obligationId ∈ idsOf result.selectedObligations ↔ ¬ Omits input obligation := by
  constructor
  · intro listed
    obtain ⟨item, member, identity⟩ := mem_map.mp listed
    obtain ⟨other, otherInside, refused, fields⟩ := (selective.selected item).mp member
    rw [fields] at identity
    rwa [← ValidationCatalog.obligation_unique otherInside inside identity]
  · intro refused
    obtain ⟨item, -, fields⟩ := create_total obligation obligation.defaultDepth
    refine mem_map.mpr ⟨item, (selective.selected item).mpr ⟨obligation, inside, refused, fields⟩, ?_⟩
    rw [fields]

/-- The evidence of a selective plan is complete. -/
theorem SelectivePlan.evidenceComplete : EvidenceComplete result policy.catalog := by
  obtain ⟨planned, sorted, ids, origin⟩ := selective.evidence
  have perm : result.evidence.Perm (planned.map PlannedObligation.evidence) := sorted ▸ sortBy_perm _ _
  have ownerOf : ∀ entry ∈ planned, evidenceOwner entry.evidence = entry.obligationId := by
    intro entry member
    obtain ⟨obligation, -, plans⟩ := origin entry member
    rw [evidenceOwner, (Plans.owned plans).1, plans.obligationId, Option.getD_some]
  have owners : (result.evidence.map evidenceOwner).Perm (catalogIds policy.catalog) := by
    refine (perm.map evidenceOwner).trans (List.Perm.of_eq ?_)
    rw [map_map, ← ids]
    exact map_congr_left ownerOf
  have traced : ∀ item ∈ result.evidence, ∃ entry ∈ planned, entry.evidence = item ∧
      ∃ obligation ∈ policy.catalog.obligations, Plans input policy obligation result.repoEpochHash entry := by
    intro item member
    obtain ⟨entry, entryMember, rfl⟩ := mem_map.mp (perm.mem_iff.mp member)
    exact ⟨entry, entryMember, rfl, origin entry entryMember⟩
  obtain ⟨collected, computed, each, others⟩ := evidenceByObligation_total result.evidence .empty (fun item member => by
      obtain ⟨entry, -, rfl, obligation, -, plans⟩ := traced item member
      obtain ⟨owner, kind⟩ := Plans.owned plans
      exact ⟨by rw [evidenceOwner, owner, Option.getD_some], kind⟩)
    (owners.nodup_iff.mpr policy.catalog.facts.obligations.nodup) (by simp [Dictionary.empty, Dictionary.keys])
  have listed : ∀ key, key ∈ collected.keys ↔ key ∈ result.evidence.map evidenceOwner := by
    intro key
    constructor
    · intro present
      by_contra absent
      obtain ⟨value, found⟩ := mem_keys_iff.mp present
      rw [others key absent, get?_empty] at found
      cases found
    · intro present
      obtain ⟨item, member, rfl⟩ := mem_map.mp present
      exact mem_keys_iff.mpr ⟨item, each item member⟩
  refine ⟨collected, computed, sameMembers_iff.mpr fun key => ?_, fun obligationId known => ?_⟩
  · rw [listed, owners.mem_iff, mem_obligationKeys]
  · rw [mem_obligationKeys, ← owners.mem_iff] at known
    obtain ⟨item, member, rfl⟩ := mem_map.mp known
    obtain ⟨entry, -, rfl, obligation, inside, plans⟩ := traced item member
    have owner : evidenceOwner entry.evidence = obligation.obligationId := by
      rw [evidenceOwner, (Plans.owned plans).1, Option.getD_some]
    rw [each _ member, owner, Option.any_some, decide_eq_true_eq]
    have selectedIff := SelectivePlan.mem_ids selective inside
    cases entry with
    | selected item evidence => simp only [selectedIff, plans.1, not_false_eq_true, if_true, PlannedObligation.evidence, plans.2.2.1]
    | omitted item evidence =>
      simp only [selectedIff, plans.1, not_true_eq_false, if_false, PlannedObligation.evidence, plans.2.2.2.2.1]

/-- A selective plan decides every obligation at default depth and with complete evidence. -/
theorem SelectivePlan.complete : CompleteSelective policy.catalog result := by
  refine ⟨selective.reason, ?_, ?_, selective.closes, SelectivePlan.evidenceComplete selective⟩
  · intro id
    constructor
    · rintro (listed | listed)
      · obtain ⟨item, member, rfl⟩ := mem_map.mp listed
        obtain ⟨obligation, inside, -, fields⟩ := (selective.selected item).mp member
        exact mem_map.mpr ⟨obligation, inside, by rw [fields]⟩
      · obtain ⟨item, member, rfl⟩ := mem_map.mp listed
        obtain ⟨obligation, inside, -, identity, -⟩ := selective.omitted item member
        exact mem_map.mpr ⟨obligation, inside, identity.symm⟩
    · intro listed
      obtain ⟨obligation, inside, rfl⟩ := mem_map.mp listed
      by_cases omits : Omits input obligation
      · exact .inr (selective.omits obligation inside omits)
      · exact .inl ((SelectivePlan.mem_ids selective inside).mpr omits)
  · intro item member obligation inside identity
    obtain ⟨other, otherInside, -, fields⟩ := (selective.selected item).mp member
    rw [fields] at identity ⊢
    rw [ValidationCatalog.obligation_unique inside otherInside identity]
    exact ⟨rfl, rfl⟩

end

theorem SelectivePlan.omissions (coordinates : Coordinates input policy result) (selective : SelectivePlan input policy result) :
    ∀ omitted ∈ result.omittedObligations, ∃ obligation, OmissionJustified input policy omitted obligation := by
  intro item member
  obtain ⟨obligation, inside, omits, identity, required, proof⟩ := selective.omitted item member
  exact ⟨obligation, inside, identity.symm, omits.allowed, required,
    ⟨result.repoEpochHash, coordinates.repoEpoch, proof⟩, omits.unaffected⟩

end Selective

section

variable (built : BuiltFrom repoEpoch raw artifact snapshot input)
include built

theorem current_of_coordinates
    (matching : Matches input policy) {result : DeterministicPlan} (coordinates : Coordinates input policy result) :
    Current input policy result := by
  have inputFacts := buildPlanningInput_built built.inputBuilt
  obtain ⟨epochSame, -, -, policySame⟩ := inputFacts.parts
  exact ⟨matching, (buildDiffContext_built built.diffBuilt).hashed, epochSame ▸ policySame ▸ inputFacts.hashed,
    coordinates.configEpoch, coordinates.repoEpoch, coordinates.inputHash, coordinates.diff, coordinates.compiledPolicy,
    coordinates.policyHash, coordinates.graph, coordinates.catalog⟩

/-- The planner falls back on built inputs exactly when the evidence has a reason or a changed path is unknown. -/
theorem needsFullCi_iff : NeedsFullCi input ↔ input.fallbackReasons ≠ [] ∨
      ∃ path ∈ input.diff.namedPaths, isNode input.dependencyGraph path = false := by
  by_cases none : input.fallbackReasons = []
  · simp only [NeedsFullCi, none, ne_eq, not_true_eq_false, false_or]
    constructor
    · rintro ⟨path, impacted, unknown⟩
      by_contra known
      push Not at known
      rw [known_of_built built none (fun other member => by simpa using known other member) path impacted] at unknown
      cases unknown
    · rintro ⟨path, member, unknown⟩
      exact ⟨path, ⟨path, member, Relation.ReflTransGen.refl⟩, unknown⟩
  · simp [NeedsFullCi, none]

/-- The verifier admits the plan of the planner exactly when the planner fell back or no global-risk path changed, and
otherwise refuses its omissions. -/
theorem plan_admission (matching : Matches input policy) : ∃ result, plan input policy = .ok (.inl result) ∧
      (admitDeterministicPlan input policy result = .ok none ↔ NeedsFullCi input ∨
        ∀ path ∈ input.diff.namedPaths, isGlobalRisk input.dependencyGraph path = false) ∧
      (admitDeterministicPlan input policy result = .ok none ∨
        admitDeterministicPlan input policy result = .ok (some .omissionProofMismatch)) := by
  obtain ⟨result, computed, coordinates, decided⟩ := plan_total (plannable_of_built built) matching
  obtain ⟨outcome, admission, admittedIff⟩ := admitDeterministicPlan_spec built.verifiable policy result
  have current := current_of_coordinates built matching coordinates
  refine ⟨result, computed, ?_⟩
  rcases decided with ⟨needs, full⟩ | ⟨bounded, selective⟩
  · have exact : ExactFullCi policy result := ⟨full.timeout, full.selected, full.closes, full.omitted, full.evidence⟩
    have admitted : outcome = none := admittedIff.mpr ⟨current, by rw [if_pos full.triggered]; exact exact⟩
    rw [admission, admitted]
    exact ⟨by simp [needs], .inl rfl⟩
  · obtain ⟨none, known⟩ := not_or.mp ((needsFullCi_iff built).not.mp bounded)
    rw [not_not] at none
    have changedKnown : ∀ path ∈ input.diff.namedPaths, isNode input.dependencyGraph path = true := by
      intro path member
      by_contra unknown
      exact known ⟨path, member, by simpa using unknown⟩
    have complete := SelectivePlan.complete selective
    refine ⟨?_, admitDeterministicPlan_complete built.verifiable current selective.triggered
      (selectiveContext_of_built built none) selective.timeout complete⟩
    rw [admission, Except.ok.injEq, admittedIff]
    simp only [current, true_and, selective.triggered, Bool.false_eq_true, if_false, bounded, false_or]
    constructor
    · exact (·.safe)
    · exact fun safe => ⟨selectiveContext_of_built built none, selective.timeout, complete, changedKnown, safe,
        SelectivePlan.omissions coordinates selective⟩

end

/-- For every built input that matches a policy the planner returns a plan, and the independent verifier admits it
exactly when the evidence has a reason against it, a changed path is unknown or no changed path is a global risk. -/
theorem planner_plan_admitted_iff (built : BuiltFrom repoEpoch raw artifact snapshot input)
    (matching : Matches input policy) :
    ∃ result, plan input policy = .ok (.inl result) ∧ (admitDeterministicPlan input policy result = .ok none ↔
        input.fallbackReasons ≠ [] ∨ (∃ path ∈ input.diff.namedPaths, isNode input.dependencyGraph path = false) ∨
          ∀ path ∈ input.diff.namedPaths, isGlobalRisk input.dependencyGraph path = false) := by
  obtain ⟨result, computed, admittedIff, -⟩ := plan_admission built matching
  exact ⟨result, computed, by rw [admittedIff, needsFullCi_iff built, or_assoc]⟩

end Agreement

namespace Sample

def profile : ExecutionProfile :=
  ⟨⟨ascii "profile", ascii "runner", ascii "permission", ascii "credential", ascii "fixture", [], ascii "capacity",
    ⟨⟨1, 1, 1, .ofInt 0, .ofInt 1, .ofInt 0, .ofInt 0⟩, by decide +kernel⟩⟩, by decide +kernel⟩

def checker : ExecutableWitness :=
  ⟨⟨ascii "checker", ascii "profile", [.smoke, .full]⟩, by decide +kernel⟩

/-- An obligation that may be omitted when no documentation changes. -/
def docs : ValidationObligation :=
  ⟨⟨ascii "docs", [ascii "docs/**"], [], [ascii "checker"], .smoke, .full, true⟩, by decide +kernel⟩

/-- An obligation that always runs. -/
def lint : ValidationObligation :=
  ⟨⟨ascii "lint", [], [], [ascii "checker"], .smoke, .full, false⟩, by decide +kernel⟩

def catalogFields : ValidationCatalogFields :=
  ⟨[docs, lint], [checker], [profile]⟩

def catalog : ValidationCatalog where
  toValidationCatalogFields := catalogFields
  catalogHash := sha256Hex (render (sortMembers catalogFields.toIdentityMapping)).utf8
  admitted := ValidationCatalogFields.postInit_of_checks (by decide +kernel)

theorem docsSelected_admitted : (⟨ascii "docs", .smoke, [ascii "checker"]⟩ : SelectedObligationFields).postInit = .ok () := by
  decide +kernel

def docsSelected : SelectedObligation :=
  ⟨_, docsSelected_admitted⟩

theorem lintSelected_admitted : (⟨ascii "lint", .smoke, [ascii "checker"]⟩ : SelectedObligationFields).postInit = .ok () := by
  decide +kernel

def lintSelected : SelectedObligation :=
  ⟨_, lintSelected_admitted⟩

def digest : Text :=
  List.replicate 64 48

def commit : Text :=
  List.replicate 40 48

def policy : PlanningPolicy :=
  ⟨⟨digest, digest, digest, catalog, 60, ⟨⟨false, [], [], .ofInt 0, false⟩, by decide +kernel⟩⟩, by decide +kernel⟩

def epoch : RepositoryEpoch :=
  ⟨⟨1, 1, ascii "owner", ascii "name", .push, ascii "main", commit, commit⟩, by decide +kernel⟩

/-- Every change below the build directory is a global risk. -/
def snapshot : PolicySnapshot :=
  ⟨⟨digest, digest, digest, .configured, [ascii "build/**"], []⟩, by decide +kernel⟩

def artifact : DependencyGraphArtifact :=
  ⟨⟨.configured, ascii "v1", ascii "generator", commit, true, []⟩,
    [⟨ascii "build/make", [], []⟩, ⟨ascii "src/main", [], []⟩], [ascii "build/**"]⟩

/-- The modification of one file. -/
def change (path : Text) : DiffBuildInput :=
  ⟨commit, commit, [⟨.text path, .text (ascii "modified"), .integer 1, .integer 1, .absent, .absent⟩],
    ⟨⟨true, 1, 1, 10⟩, by decide +kernel⟩⟩

/-- A built input with complete evidence whose only changed path is known. -/
def Concerns (path : Text) (input : PlanningInput) : Prop :=
  input.fallbackReasons = [] ∧ input.diff.namedPaths = [path] ∧ Matches input policy ∧
    isNode input.dependencyGraph path = true ∧ dependentsOf input.dependencyGraph path = [] ∧
    riskClassesOf input.dependencyGraph path = [] ∧ input.dependencyGraph.globalRiskPaths = [ascii "build/**"]

instance (path : Text) (input : PlanningInput) : Decidable (Concerns path input) :=
  inferInstanceAs (Decidable (_ ∧ _ ∧ _ ∧ _ ∧ _ ∧ _ ∧ _))

/-- A fallible computation returns a value with a property. -/
def returns {A : Type} (holds : A → Prop) [DecidablePred holds] : Py A → Bool
  | .ok value => holds value
  | .error _ => false

theorem exists_of_returns {A : Type} {holds : A → Prop} [DecidablePred holds] {computation : Py A}
    (returned : returns holds computation = true) : ∃ value, computation = .ok value ∧ holds value := by
  cases computation with
  | error error => cases returned
  | ok value => exact ⟨value, rfl, of_decide_eq_true returned⟩

theorem change_built (path : Text) (returned : returns (Concerns path) (buildInput epoch (change path) artifact snapshot) =
    true) : ∃ input, BuiltFrom epoch (change path) artifact snapshot input ∧ Concerns path input := by
  obtain ⟨input, computed, concerns⟩ := exists_of_returns returned
  exact ⟨input, BuiltFrom.of_buildInput computed, concerns⟩

theorem build_change : ∃ input, BuiltFrom epoch (change (ascii "build/make")) artifact snapshot input ∧
    Concerns (ascii "build/make") input :=
  change_built _ (by decide +kernel)

theorem source_change : ∃ input, BuiltFrom epoch (change (ascii "src/main")) artifact snapshot input ∧
    Concerns (ascii "src/main") input :=
  change_built _ (by decide +kernel)

/-- Only a source file changes: the documentation check may be omitted, and the selective plan is admitted. -/
theorem source_selective : ∃ input result, BuiltFrom epoch (change (ascii "src/main")) artifact snapshot input ∧
    plan input policy = .ok (.inl result) ∧ admitDeterministicPlan input policy result = .ok none ∧
    Omits input docs ∧ SelectivePlan input policy result := by
  obtain ⟨input, built, regular, changed, matching, known, isolated, riskless, patterns⟩ := source_change
  have safe : ∀ path ∈ input.diff.namedPaths, isGlobalRisk input.dependencyGraph path = false := by
    intro path member
    rw [changed, mem_singleton] at member
    rw [isGlobalRisk, patterns, member]
    decide +kernel
  have omits : Omits input docs := by
    refine ⟨rfl, safe, ⟨fun path impacted pattern listed => ?_, fun path impacted riskClass listed => ?_⟩⟩
    · rw [changed] at impacted
      rw [impacted_single isolated impacted]
      rw [show docs.responsibilityPaths = [ascii "docs/**"] from rfl, mem_singleton] at listed
      rw [listed]
      decide +kernel
    · exact not_mem_nil
  obtain ⟨result, computed, coordinates, decided⟩ := plan_total (plannable_of_built built) matching
  obtain ⟨other, otherComputed, admittedIff, -⟩ := plan_admission built matching
  rw [computed, Except.ok.injEq, Sum.inl.injEq] at otherComputed
  subst otherComputed
  refine ⟨input, result, built, computed, admittedIff.mpr (.inr safe), omits, ?_⟩
  rcases decided with ⟨needs, -⟩ | ⟨-, selective⟩
  · rcases (needsFullCi_iff built).mp needs with reasons | ⟨path, member, unknown⟩
    · exact absurd regular reasons
    · rw [changed, mem_singleton] at member
      rw [member, known] at unknown
      cases unknown
  · exact selective

/-- The planner omits the documentation check when only a source file changes, and the verifier admits that. -/
theorem source_plan : ∃ input result, BuiltFrom epoch (change (ascii "src/main")) artifact snapshot input ∧
    plan input policy = .ok (.inl result) ∧ admitDeterministicPlan input policy result = .ok none ∧
    ascii "docs" ∈ omittedIdsOf result.omittedObligations := by
  obtain ⟨input, result, built, computed, admission, omits, selective⟩ := source_selective
  exact ⟨input, result, built, computed, admission, selective.omits docs (by decide +kernel) omits⟩

end Sample

/-- Only a source file changes, so the plan of the planner is admitted. -/
theorem planner_plan_admitted_iff_source : ∃ input result,
    BuiltFrom Sample.epoch (Sample.change (ascii "src/main")) Sample.artifact Sample.snapshot input ∧
      plan input Sample.policy = .ok (.inl result) ∧ admitDeterministicPlan input Sample.policy result = .ok none := by
  obtain ⟨input, built, -, changed, matching, -, -, -, patterns⟩ := Sample.source_change
  obtain ⟨result, computed, admittedIff⟩ := planner_plan_admitted_iff built matching
  refine ⟨input, result, built, computed, admittedIff.mpr (Or.inr (Or.inr fun path member => ?_))⟩
  rw [changed, mem_singleton] at member
  rw [isGlobalRisk, patterns, member]
  decide +kernel

/-- A known build file changes: the planner returns its plan and the verifier refuses it. -/
theorem build_change_plan_refused : ∃ input result,
    BuiltFrom Sample.epoch (Sample.change (ascii "build/make")) Sample.artifact Sample.snapshot input ∧
      Matches input Sample.policy ∧ plan input Sample.policy = .ok (.inl result) ∧ result.fallback.triggered = false ∧
      admitDeterministicPlan input Sample.policy result = .ok (some .omissionProofMismatch) := by
  obtain ⟨input, built, regular, changed, matching, known, -, -, patterns⟩ := Sample.build_change
  obtain ⟨result, computed, admittedIff, decided⟩ := plan_admission built matching
  have risky : isGlobalRisk input.dependencyGraph (ascii "build/make") = true := by
    rw [isGlobalRisk, patterns]
    decide +kernel
  have bounded : ¬ NeedsFullCi input := by
    intro needs
    rcases (needsFullCi_iff built).mp needs with reasons | ⟨path, member, unknown⟩
    · exact reasons regular
    · rw [changed, mem_singleton] at member
      rw [member, known] at unknown
      cases unknown
  have refused : admitDeterministicPlan input Sample.policy result ≠ .ok none := by
    intro admitted
    rcases admittedIff.mp admitted with needs | safe
    · exact bounded needs
    · have absurdRisk := safe (ascii "build/make") (by rw [changed]; exact mem_singleton.mpr rfl)
      rw [risky] at absurdRisk
      cases absurdRisk
  obtain ⟨other, otherComputed, -, ⟨needs, -⟩ | ⟨-, selective⟩⟩ := plan_total (plannable_of_built built) matching
  · exact absurd needs bounded
  · rw [computed, Except.ok.injEq, Sum.inl.injEq] at otherComputed
    subst otherComputed
    exact ⟨input, result, built, matching, computed, selective.triggered, decided.resolve_left refused⟩

end CiCoordinator.VerificationCore

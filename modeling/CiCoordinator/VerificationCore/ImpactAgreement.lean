import CiCoordinator.VerificationCore.PlannerAgreement

/- The planner and the verifier derive the same impact of a change. -/

namespace CiCoordinator.VerificationCore

open Library Kernel RepoContext List
open PlanningCore

/-- A set of paths contains the dependents of its paths. -/
def ClosedUnderDependents (graph : DependencyGraphContext) (paths : Set Text) : Prop :=
  ∀ path ∈ paths, ∀ dependent ∈ dependentsOf graph path, dependent ∈ paths

/-- The least set of paths that contains given ones and the dependents of its paths. -/
structure LeastClosed (graph : DependencyGraphContext) (starts paths : Set Text) : Prop where
  contains : starts ⊆ paths
  closed : ClosedUnderDependents graph paths
  least : ∀ other, starts ⊆ other → ClosedUnderDependents graph other → paths ⊆ other

section Agreement

variable {input : PlanningInput} {changedPaths : List Text} {graph : DependencyGraphContext}

theorem impacted_leastClosed : LeastClosed graph {path | path ∈ changedPaths} {path | Impacted graph changedPaths path} where
  contains := fun path member => ⟨path, member, Relation.ReflTransGen.refl⟩
  closed := by
    rintro path ⟨start, member, chain⟩ dependent edge
    exact ⟨start, member, chain.tail edge⟩
  least := by
    rintro other contains closed path ⟨start, member, chain⟩
    induction chain with
    | refl => exact contains member
    | tail _ edge inside => exact closed _ inside _ edge

/-- The verifier reports the reachable paths, their risk classes, the changed paths without node and the global risks. -/
theorem deriveImpact_eq (computed : input.diff.changedPaths = .ok changedPaths) : ∃ facts, deriveImpact input = .ok facts ∧
      (∀ path, path ∈ facts.impactedPaths ↔ Impacted input.dependencyGraph changedPaths path) ∧
      (∀ riskClass, riskClass ∈ facts.impactedRiskClasses ↔
        ∃ path, Impacted input.dependencyGraph changedPaths path ∧ riskClass ∈ riskClassesOf input.dependencyGraph path) ∧
      (∀ path, path ∈ facts.unknownPaths ↔ path ∈ changedPaths ∧ isNode input.dependencyGraph path = false) ∧
      ∀ path, path ∈ facts.globalRiskPaths ↔ path ∈ changedPaths ∧ isGlobalRisk input.dependencyGraph path = true := by
  refine ⟨_, by simp only [deriveImpact, computed]; rfl, fun path => mem_impactWalk_seen, fun riskClass => ?_,
    fun path => ?_, fun path => mem_filter⟩
  · simp [mem_impactWalk_visited]
  · rw [mem_filter, Bool.not_eq_true']

/-- In a graph without reasons against it every dependent of a node is a node. -/
theorem isNode_of_dependent {repoEpoch : RepositoryEpoch} {diff : DiffContext} {policy : PolicySnapshot}
    {artifact : DependencyGraphArtifact} (built : buildDependencyGraph repoEpoch diff policy artifact = .ok graph)
    (none : graph.invalidatingReasons = []) {path dependent : Text} (edge : dependent ∈ dependentsOf graph path) :
    isNode graph dependent = true := by
  obtain ⟨_, _, reasons, _, _, computed, _, empty⟩ := (buildDependencyGraph_built built).reasons
  obtain rfl := empty.mp none
  obtain ⟨_, closed, _⟩ := freshnessReasons_eq_nil computed
  unfold dependentsOf at edge
  split at edge
  · cases edge
  · rename_i node found
    exact hasNode_iff.mpr (closed node (Dictionary.get?_indexBy_mem found).1 dependent edge)

/-- Both walks end, the planner's impacted paths are the least closed set of the changed paths, the verifier agrees on the paths,
the risk classes and the global risks, and on the unknown paths of a graph that has been built without reasons against it. -/
theorem impact_agrees (computed : input.diff.changedPaths = .ok changedPaths) :
    (impactWalk .queue input.dependencyGraph changedPaths).waiting = [] ∧
      (impactWalk .stack input.dependencyGraph changedPaths).waiting = [] ∧
      ∃ impact facts, analyzeImpact input = .ok impact ∧ deriveImpact input = .ok facts ∧
        LeastClosed input.dependencyGraph {path | path ∈ changedPaths} {path | path ∈ impact.impactedPaths} ∧
        (∀ path, path ∈ facts.impactedPaths ↔ path ∈ impact.impactedPaths) ∧
        (∀ riskClass, riskClass ∈ facts.impactedRiskClasses ↔ riskClass ∈ impact.impactedRiskClasses) ∧
        (∀ path, path ∈ facts.globalRiskPaths ↔ path ∈ impact.globalRiskPaths) ∧
        ∀ repoEpoch diff policy artifact, buildDependencyGraph repoEpoch diff policy artifact = .ok input.dependencyGraph →
          input.dependencyGraph.invalidatingReasons = [] → ∀ path, path ∈ facts.unknownPaths ↔ path ∈ impact.unknownPaths := by
  obtain ⟨impact, analyzed, describes, _⟩ := analyzeImpact_spec computed
  obtain ⟨facts, derived, impacted, riskClasses, unknown, globalRisk⟩ := deriveImpact_eq computed
  have same : {path | path ∈ impact.impactedPaths} = {path | Impacted input.dependencyGraph changedPaths path} :=
    Set.ext describes.impacted
  refine ⟨closure_finished (dependentsOf_subset _), closure_finished (dependentsOf_subset _), impact, facts, analyzed, derived, ?_,
    fun path => ?_, fun riskClass => ?_, fun path => ?_, fun repoEpoch diff policy artifact built none path => ?_⟩
  · rw [same]
    exact impacted_leastClosed
  · rw [impacted, describes.impacted]
  · rw [riskClasses, describes.riskClasses]
  · rw [globalRisk, describes.globalRisk]
  · rw [unknown, describes.unknown]
    refine and_congr_left fun outside => ⟨fun member => ⟨path, member, Relation.ReflTransGen.refl⟩, ?_⟩
    rintro ⟨start, member, chain⟩
    cases chain with
    | refl => exact member
    | tail _ edge =>
      rw [isNode_of_dependent built none edge] at outside
      cases outside

end Agreement

namespace Sample

/-- A built input whose only changed path is not in the graph. -/
def Strange (path : Text) (input : PlanningInput) : Prop :=
  input.diff.changedPaths = .ok [path] ∧ isNode input.dependencyGraph path = false

instance (path : Text) (input : PlanningInput) : Decidable (Strange path input) :=
  inferInstanceAs (Decidable (_ ∧ _))

theorem strange_change : ∃ input, buildInput epoch (change (ascii "lib/new")) artifact snapshot = .ok input ∧
    Strange (ascii "lib/new") input :=
  exists_of_returns (by decide +kernel)

/-- Two modules that depend on each other, and a third one that depends on the second. -/
def cyclic : DependencyGraphArtifact :=
  ⟨⟨.configured, ascii "v1", ascii "generator", commit, true, []⟩,
    [⟨ascii "src/cart", [ascii "src/order"], []⟩, ⟨ascii "src/order", [ascii "src/cart", ascii "src/pay"], []⟩,
      ⟨ascii "src/pay", [], [ascii "money"]⟩, ⟨ascii "src/site", [ascii "src/cart"], []⟩], [ascii "src/pay"]⟩

def moneySnapshot : PolicySnapshot :=
  ⟨⟨digest, digest, digest, .configured, [ascii "src/pay"], [ascii "money"]⟩, by decide +kernel⟩

/-- A built input without reasons against its graph, whose change goes around the cycle and leaves it. -/
def Circles (input : PlanningInput) : Prop :=
  input.diff.changedPaths = .ok [ascii "src/cart"] ∧ input.dependencyGraph.invalidatingReasons = [] ∧
    (analyzeImpact input).toOption.any fun impact =>
      impact.impactedPaths = [ascii "src/cart", ascii "src/order", ascii "src/pay"] ∧
        impact.impactedRiskClasses = [ascii "money"] ∧ impact.globalRiskPaths = [] ∧ impact.unknownPaths = []

instance (input : PlanningInput) : Decidable (Circles input) :=
  inferInstanceAs (Decidable (_ ∧ _ ∧ _))

theorem cart_change : ∃ input, buildInput epoch (change (ascii "src/cart")) cyclic moneySnapshot = .ok input ∧ Circles input :=
  exists_of_returns (by decide +kernel)

end Sample

/-- Both walks follow the change of a module around its cycle and out of it, and end. -/
theorem impact_agrees_cycle : ∃ input impact facts, Sample.Circles input ∧ analyzeImpact input = .ok impact ∧
    deriveImpact input = .ok facts ∧
    (impactWalk .stack input.dependencyGraph [ascii "src/cart"]).waiting = [] ∧
    LeastClosed input.dependencyGraph {path | path ∈ [ascii "src/cart"]} {path | path ∈ impact.impactedPaths} ∧
    (∀ path, path ∈ facts.impactedPaths ↔ path ∈ impact.impactedPaths) ∧
    ∀ path, path ∈ facts.unknownPaths ↔ path ∈ impact.unknownPaths := by
  obtain ⟨input, built, circles⟩ := Sample.cart_change
  obtain ⟨-, ended, impact, facts, analyzed, derived, least, impacted, -, -, unknown⟩ := impact_agrees circles.1
  have graphBuilt := (BuiltFrom.of_buildInput built).graphBuilt
  exact ⟨input, impact, facts, circles, analyzed, derived, ended, least, impacted, unknown _ _ _ _ graphBuilt circles.2.1⟩

/-- A changed path that is not in the graph is impacted, although the empty set contains every known changed path. -/
theorem impacted_unknown_path : ∃ input impact, Sample.Strange (ascii "lib/new") input ∧ analyzeImpact input = .ok impact ∧
    ¬ LeastClosed input.dependencyGraph {path | path ∈ [ascii "lib/new"] ∧ isNode input.dependencyGraph path = true}
      {path | path ∈ impact.impactedPaths} := by
  obtain ⟨input, _, strange⟩ := Sample.strange_change
  obtain ⟨impact, analyzed, describes, _⟩ := analyzeImpact_spec strange.1
  refine ⟨input, impact, strange, analyzed, fun least => ?_⟩
  have impacted : ascii "lib/new" ∈ impact.impactedPaths :=
    (describes.impacted _).mpr ⟨_, mem_singleton_self _, Relation.ReflTransGen.refl⟩
  refine least.least ∅ ?_ (fun _ none => absurd none (Set.notMem_empty _)) impacted
  rintro path ⟨member, known⟩
  rw [mem_singleton.mp member, strange.2] at known
  cases known

end CiCoordinator.VerificationCore

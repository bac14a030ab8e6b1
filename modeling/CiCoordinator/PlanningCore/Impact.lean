import CiCoordinator.Library.Reachability
import CiCoordinator.PlanningCore.Policy

/- The impact analysis of the planner and what its graph walk computes. -/

namespace CiCoordinator.PlanningCore

open Library Kernel ValidationContract RepoContext List Dictionary

structure ImpactAnalysis where
  changedPaths : List Text
  impactedPaths : List Text
  impactedRiskClasses : List Text
  unknownPaths : List Text
  globalRiskPaths : List Text
  deriving DecidableEq

/-- The nodes of a graph by path; the last node of a path counts. -/
def nodesByPath (graph : DependencyGraphContext) : Dictionary Text DependencyGraphNode :=
  Dictionary.indexBy (fun node => node.path) graph.nodes

/-- The dependents of a path; a path without node has none. -/
def dependentsOf (graph : DependencyGraphContext) (path : Text) : List Text :=
  match (nodesByPath graph).get? path with
  | none => []
  | some node => node.dependents

/-- The risk classes of a path; a path without node has none. -/
def riskClassesOf (graph : DependencyGraphContext) (path : Text) : List Text :=
  match (nodesByPath graph).get? path with
  | none => []
  | some node => node.riskClasses

/-- Every path that some node names as a dependent. -/
def allDependents (graph : DependencyGraphContext) : List Text :=
  graph.nodes.flatMap fun node => node.dependents

/-- A path that is a node of the graph. -/
def isNode (graph : DependencyGraphContext) (path : Text) : Bool :=
  ((nodesByPath graph).get? path).isSome

/-- A path that matches a global-risk pattern of the graph. -/
def isGlobalRisk (graph : DependencyGraphContext) (path : Text) : Bool :=
  graph.globalRiskPaths.any fun pattern => matchesPathPattern pattern path

/-- The queue walk over dependents from the changed paths. -/
def impactWalk (discipline : Discipline) (graph : DependencyGraphContext) (changedPaths : List Text) : Traversal Text :=
  closure discipline (dependentsOf graph) (allDependents graph) changedPaths

/-- The paths and risk classes that a change can affect. -/
def analyzeImpact (input : PlanningInput) : Py ImpactAnalysis := do
  let graph := input.dependencyGraph
  let changedPaths ← input.diff.changedPaths
  let walk := impactWalk .queue graph changedPaths
  let unknown := changedPaths.filter (fun path => !isNode graph path) ++
    walk.visited.filter fun path => !isNode graph path
  let impactedPaths ← sortedTexts walk.seen
  let impactedRiskClasses ← sortedTexts (walk.visited.flatMap (riskClassesOf graph))
  let unknownPaths ← sortedTexts unknown
  let globalRiskPaths ← sortedTexts (changedPaths.filter (isGlobalRisk graph))
  return ⟨changedPaths, impactedPaths, impactedRiskClasses, unknownPaths, globalRiskPaths⟩

/-- A path that some chain of dependents leads to from a changed path. -/
def Impacted (graph : DependencyGraphContext) (changedPaths : List Text) (path : Text) : Prop :=
  Reachable (dependentsOf graph) changedPaths path

variable {graph : DependencyGraphContext} {changedPaths : List Text} {path : Text}

theorem dependentsOf_subset (graph : DependencyGraphContext) (path : Text) :
    ∀ dependent ∈ dependentsOf graph path, dependent ∈ allDependents graph := by
  intro dependent member
  unfold dependentsOf at member
  split at member
  · simp at member
  · rename_i node found
    exact mem_flatMap.mpr ⟨node, (get?_indexBy_mem found).1, member⟩

theorem mem_impactWalk_seen {discipline : Discipline} :
    path ∈ (impactWalk discipline graph changedPaths).seen ↔ Impacted graph changedPaths path :=
  mem_closure_seen (dependentsOf_subset graph)

theorem mem_impactWalk_visited {discipline : Discipline} :
    path ∈ (impactWalk discipline graph changedPaths).visited ↔ Impacted graph changedPaths path :=
  mem_closure_visited (dependentsOf_subset graph)

/-- A node of a context has scalar texts only. -/
theorem node_scalar {node : DependencyGraphNode} (member : node ∈ graph.nodes) :
    node.path.scalar = true ∧ (∀ dependent ∈ node.dependents, dependent.scalar = true) ∧
      ∀ riskClass ∈ node.riskClasses, riskClass.scalar = true := by
  have admitted := graph.admitted
  simp only [DependencyGraphContextFields.postInit, bind_eq_ok, exists_unit_iff] at admitted
  obtain ⟨-, -, -, -, -, -, hash, hashed, -⟩ := admitted
  have passed := admissible_of_hashObject hashed
  simp only [DependencyGraphContextFields.sealedMapping, admissible_obj, all_cons, Bool.and_eq_true, admissible_arr, all_map, all_eq_true] at passed
  obtain ⟨-, -, -, -, -, -, -, -, ⟨-, nodes⟩, -⟩ := passed
  have mapping := nodes node member
  simpa [DependencyGraphNode.toIdentityMapping] using mapping

theorem riskClassesOf_scalar {riskClass : Text} (member : riskClass ∈ riskClassesOf graph path) : riskClass.scalar = true := by
  unfold riskClassesOf at member
  split at member
  · simp at member
  · rename_i node found
    exact (node_scalar (get?_indexBy_mem found).1).2.2 riskClass member

theorem dependentsOf_scalar {dependent : Text} (member : dependent ∈ dependentsOf graph path) : dependent.scalar = true := by
  unfold dependentsOf at member
  split at member
  · simp at member
  · rename_i node found
    exact (node_scalar (get?_indexBy_mem found).1).2.1 dependent member

/-- Everything reachable from scalar paths is scalar. -/
theorem Impacted.scalar (changed : ∀ start ∈ changedPaths, start.scalar = true)
    (impacted : Impacted graph changedPaths path) : path.scalar = true := by
  obtain ⟨start, member, chain⟩ := impacted
  cases chain with
  | refl => exact changed _ member
  | tail _ edge => exact dependentsOf_scalar edge

/-- The analysis reports exactly the reachable paths, their risk classes, the unknown paths and the global risks. -/
structure ImpactAnalysis.Describes (impact : ImpactAnalysis) (graph : DependencyGraphContext)
    (changedPaths : List Text) : Prop where
  changed : impact.changedPaths = changedPaths
  impacted : ∀ path, path ∈ impact.impactedPaths ↔ Impacted graph changedPaths path
  riskClasses : ∀ riskClass, riskClass ∈ impact.impactedRiskClasses ↔
    ∃ path, Impacted graph changedPaths path ∧ riskClass ∈ riskClassesOf graph path
  unknown : ∀ path, path ∈ impact.unknownPaths ↔ Impacted graph changedPaths path ∧ isNode graph path = false
  globalRisk : ∀ path, path ∈ impact.globalRiskPaths ↔ path ∈ changedPaths ∧ isGlobalRisk graph path = true

/-- The analysis succeeds whenever the changed paths can be listed. -/
theorem analyzeImpact_spec {input : PlanningInput} (computed : input.diff.changedPaths = .ok changedPaths) :
    ∃ impact, analyzeImpact input = .ok impact ∧ impact.Describes input.dependencyGraph changedPaths ∧
      CanonicalTexts impact.impactedPaths ∧ CanonicalTexts impact.unknownPaths ∧
      CanonicalTexts impact.globalRiskPaths := by
  obtain ⟨canonical, -⟩ := DiffContext.changedPaths_spec computed
  set graph := input.dependencyGraph with graphDef
  have reachScalar : ∀ path, Impacted graph changedPaths path → path.scalar = true :=
    fun path impacted => impacted.scalar canonical.1
  have seen : ∀ path ∈ (impactWalk .queue graph changedPaths).seen, path.scalar = true :=
    fun path member => reachScalar path (mem_impactWalk_seen.mp member)
  have risks : ∀ riskClass ∈ (impactWalk .queue graph changedPaths).visited.flatMap (riskClassesOf graph),
      riskClass.scalar = true := by
    intro riskClass member
    obtain ⟨path, -, contained⟩ := mem_flatMap.mp member
    exact riskClassesOf_scalar contained
  have unknown : ∀ path ∈ changedPaths.filter (fun path => !isNode graph path) ++
      (impactWalk .queue graph changedPaths).visited.filter (fun path => !isNode graph path), path.scalar = true := by
    intro path member
    rcases mem_append.mp member with changed | visited
    · exact canonical.1 path (mem_of_mem_filter changed)
    · exact reachScalar path (mem_impactWalk_visited.mp (mem_of_mem_filter visited))
  have global : ∀ path ∈ changedPaths.filter (isGlobalRisk graph), path.scalar = true :=
    fun path member => canonical.1 path (mem_of_mem_filter member)
  obtain ⟨impactedPaths, impactedComputed, impactedCanonical, impactedMembers⟩ := sortedTexts_total seen
  obtain ⟨riskClasses, risksComputed, -, riskMembers⟩ := sortedTexts_total risks
  obtain ⟨unknownPaths, unknownComputed, unknownCanonical, unknownMembers⟩ := sortedTexts_total unknown
  obtain ⟨globalRiskPaths, globalComputed, globalCanonical, globalMembers⟩ := sortedTexts_total global
  refine ⟨⟨changedPaths, impactedPaths, riskClasses, unknownPaths, globalRiskPaths⟩, ?_, ⟨rfl, ?_, ?_, ?_, ?_⟩,
    impactedCanonical, unknownCanonical, globalCanonical⟩
  · simp only [analyzeImpact, computed, ok_bind_eq, ← graphDef, impactedComputed, risksComputed, unknownComputed, globalComputed]
    rfl
  · intro path
    rw [impactedMembers, mem_impactWalk_seen]
  · intro riskClass
    simp [riskMembers, mem_impactWalk_visited]
  · intro path
    rw [unknownMembers, mem_append, mem_filter, mem_filter, mem_impactWalk_visited]
    simp only [Bool.not_eq_true']
    constructor
    · rintro (⟨member, outside⟩ | impacted)
      · exact ⟨⟨path, member, Relation.ReflTransGen.refl⟩, outside⟩
      · exact impacted
    · exact .inr
  · intro path
    rw [globalMembers, mem_filter]

theorem impacted_congr (graph : DependencyGraphContext) {left right : List Text}
    (same : ∀ path, path ∈ left ↔ path ∈ right) (path : Text) : Impacted graph left path ↔ Impacted graph right path := by
  simp [Impacted, Reachable, same]

/-- Nothing that a change can reach belongs to the responsibility of an obligation. -/
structure Unaffected (graph : DependencyGraphContext) (changedPaths : List Text) (obligation : ValidationObligation) :
    Prop where
  paths : ∀ path, Impacted graph changedPaths path → ∀ pattern ∈ obligation.responsibilityPaths,
    matchesPathPattern pattern path = false
  riskClasses : ∀ path, Impacted graph changedPaths path → ∀ riskClass ∈ riskClassesOf graph path,
    riskClass ∉ obligation.responsibilityRiskClasses

end CiCoordinator.PlanningCore

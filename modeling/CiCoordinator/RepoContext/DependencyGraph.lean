import CiCoordinator.Kernel.PathPatterns
import CiCoordinator.RepoContext.DiffModel

/- The policy snapshot and the dependency graph context that is sealed against it. -/

namespace CiCoordinator.RepoContext

open Library Kernel

/-- Where a dependency graph comes from. -/
inductive GraphSource where
  | configured
  | generated
  deriving DecidableEq

def GraphSource.text : GraphSource → Text
  | .configured => ascii "configured"
  | .generated => ascii "generated"

structure PolicySnapshotFields where
  epochId : Text
  compiledPolicyHash : Text
  policyHash : Text
  dependencyGraphSource : GraphSource
  globalRiskPaths : List Text
  riskClasses : List Text
  deriving DecidableEq

def PolicySnapshotFields.postInit (self : PolicySnapshotFields) : Py Unit := do
  forEach (fun (entry : Text × Text) =>
      valueErrorIf (isSha256Hex entry.2 = false) (entry.1 ++ ascii " must be lowercase SHA-256 hexadecimal"))
    [(ascii "epoch_id", self.epochId), (ascii "compiled_policy_hash", self.compiledPolicyHash),
      (ascii "policy_hash", self.policyHash)]
  requireSortedUnique self.riskClasses (ascii "risk_classes")
  requireSortedUnique self.globalRiskPaths (ascii "global_risk_paths")
  valueErrorIf (∃ path ∈ self.globalRiskPaths, validatePathPattern path ≠ none)
    (ascii "global_risk_paths contains an invalid pattern")

/-- The part of a policy that planning inputs are bound to. -/
structure PolicySnapshot extends PolicySnapshotFields where
  admitted : toPolicySnapshotFields.postInit = .ok ()
  deriving DecidableEq

structure GraphProvenance where
  source : GraphSource
  schemaVersion : Text
  generator : Text
  retrievedForSha : Text
  trusted : Bool
  invalidatesWhenChanged : List Text
  deriving DecidableEq

def GraphProvenance.toIdentityMapping (self : GraphProvenance) : Json :=
  .obj [(ascii "source", .str self.source.text), (ascii "schemaVersion", .str self.schemaVersion),
    (ascii "generator", .str self.generator), (ascii "retrievedForSha", .str self.retrievedForSha),
    (ascii "trusted", .bool self.trusted),
    (ascii "invalidatesWhenChanged", .arr (self.invalidatesWhenChanged.map .str))]

/-- A path, the paths that depend on it and its risk classes. -/
structure DependencyGraphNode where
  path : Text
  dependents : List Text
  riskClasses : List Text
  deriving DecidableEq

def DependencyGraphNode.toIdentityMapping (self : DependencyGraphNode) : Json :=
  .obj [(ascii "path", .str self.path), (ascii "dependents", .arr (self.dependents.map .str)),
    (ascii "riskClasses", .arr (self.riskClasses.map .str))]

structure DependencyGraphArtifact where
  provenance : GraphProvenance
  nodes : List DependencyGraphNode
  globalRiskPaths : List Text
  deriving DecidableEq

def DependencyGraphNode.normalized (node : DependencyGraphNode) : Py DependencyGraphNode := do
  let dependents ← sortedTexts node.dependents
  let riskClasses ← sortedTexts node.riskClasses
  return ⟨node.path, dependents, riskClasses⟩

/-- Nodes are normalized one by one and sorted by path. -/
def normalizedNodes (nodes : List DependencyGraphNode) : Py (List DependencyGraphNode) := do
  let normalized ← collect DependencyGraphNode.normalized nodes
  sortedByText (fun node => node.path) normalized

def normalizedProvenance (provenance : GraphProvenance) : Py GraphProvenance := do
  let invalidators ← sortedTexts provenance.invalidatesWhenChanged
  return { provenance with invalidatesWhenChanged := invalidators }

structure DependencyGraphContextFields where
  graphHash : Text
  provenance : GraphProvenance
  admittedRepoEpochHash : Text
  admittedDiffHash : Text
  admittedConfigEpochId : Text
  admittedPolicyHash : Text
  admittedCompiledPolicyHash : Text
  fresh : Bool
  nodes : List DependencyGraphNode
  globalRiskPaths : List Text
  invalidatingReasons : List Text
  deriving DecidableEq

variable (self : DependencyGraphContextFields)

/-- The coordinates that the graph hash seals; unknown paths always mean full CI. -/
def DependencyGraphContextFields.sealedMapping : Json :=
  .obj [(ascii "provenance", self.provenance.toIdentityMapping),
    (ascii "admittedRepoEpochHash", .str self.admittedRepoEpochHash),
    (ascii "admittedDiffHash", .str self.admittedDiffHash),
    (ascii "admittedConfigEpochId", .str self.admittedConfigEpochId),
    (ascii "admittedPolicyHash", .str self.admittedPolicyHash),
    (ascii "admittedCompiledPolicyHash", .str self.admittedCompiledPolicyHash), (ascii "fresh", .bool self.fresh),
    (ascii "globalRiskPaths", .arr (self.globalRiskPaths.map .str)),
    (ascii "nodes", .arr (self.nodes.map DependencyGraphNode.toIdentityMapping)),
    (ascii "invalidatingReasons", .arr (self.invalidatingReasons.map .str)),
    (ascii "unknownPathMode", .str (ascii "full-ci"))]

def DependencyGraphContextFields.postInit : Py Unit := do
  valueErrorIf (self.fresh ≠ self.invalidatingReasons.isEmpty)
    (ascii "graph freshness must agree with invalidating reasons")
  let nodes ← normalizedNodes self.nodes
  valueErrorIf (self.nodes ≠ nodes) (ascii "graph nodes must be canonical")
  requireSorted self.globalRiskPaths (ascii "graph global risk paths must be canonical")
  requireSorted self.invalidatingReasons (ascii "graph invalidating reasons must be canonical")
  let graphHash ← hashObject self.sealedMapping
  valueErrorIf (self.graphHash ≠ graphHash) (ascii "graph hash does not seal graph context coordinates")

/-- A dependency graph together with the coordinates it was admitted for. -/
structure DependencyGraphContext extends DependencyGraphContextFields where
  admitted : toDependencyGraphContextFields.postInit = .ok ()
  deriving DecidableEq

/-- A change of an invalidating path is a reason against a graph; without invalidators no path is listed. -/
def invalidatorReasons (diff : DiffContext) (invalidators : List Text) : Py (List Text) :=
  if ∃ pattern ∈ invalidators, validatePathPattern pattern ≠ none then .ok [ascii "graph_invalidator_pattern_invalid"]
  else if invalidators = [] then .ok []
  else do
    let changedPaths ← diff.changedPaths
    return reasonIf (∃ pattern ∈ invalidators, ∃ path ∈ changedPaths, matchesPathPattern pattern path = true)
      (ascii "graph_invalidated_by_diff")

variable (repoEpoch : RepositoryEpoch)

/-- The reasons why a graph may not describe the diff. -/
def freshnessReasons (diff : DiffContext) (policy : PolicySnapshot)
    (provenance : GraphProvenance) (nodes : List DependencyGraphNode) (artifactGlobalRiskPaths : List Text) :
    Py (List Text) := do
  let invalidators ← sortedTexts provenance.invalidatesWhenChanged
  let invalidated ← invalidatorReasons diff invalidators
  let nodePaths := nodes.map fun node => node.path
  return reasonIf (repoEpoch.headSha ≠ diff.headSha) (ascii "repo_epoch_diff_mismatch") ++
    reasonIf (provenance.trusted = false) (ascii "graph_provenance_untrusted") ++
    reasonIf (provenance.schemaVersion.all isWhitespace = true ∨ provenance.generator.all isWhitespace = true)
      (ascii "graph_provenance_incomplete") ++
    reasonIf (provenance.retrievedForSha ≠ diff.headSha) (ascii "graph_head_mismatch") ++
    reasonIf (provenance.source ≠ policy.dependencyGraphSource) (ascii "graph_source_mismatch") ++
    reasonIf (artifactGlobalRiskPaths ≠ policy.globalRiskPaths) (ascii "graph_global_risk_paths_mismatch") ++
    invalidated ++
    reasonIf (nodePaths.dedup.length ≠ nodePaths.length) (ascii "duplicate_graph_node") ++
    reasonIf (∃ node ∈ nodes, isSafeRelativePath node.path = false) (ascii "unsafe_graph_node_path") ++
    reasonIf (∃ node ∈ nodes, ∃ dependent ∈ node.dependents, isSafeRelativePath dependent = false)
      (ascii "unsafe_graph_edge") ++
    reasonIf (∃ node ∈ nodes, ∃ dependent ∈ node.dependents, dependent ∉ nodePaths) (ascii "dangling_graph_edge") ++
    reasonIf (∃ node ∈ nodes, ∃ riskClass ∈ node.riskClasses, riskClass ∉ policy.riskClasses)
      (ascii "unknown_graph_risk_class") ++
    reasonIf (∃ pattern ∈ artifactGlobalRiskPaths, validatePathPattern pattern ≠ none)
      (ascii "invalid_global_risk_path")

/-- The context of a graph artifact for an epoch, a diff and a policy. -/
def buildDependencyGraph (diff : DiffContext) (policy : PolicySnapshot)
    (artifact : DependencyGraphArtifact) : Py DependencyGraphContext := do
  let nodes ← normalizedNodes artifact.nodes
  let artifactGlobalRiskPaths ← sortedTexts artifact.globalRiskPaths
  let provenance ← normalizedProvenance artifact.provenance
  let reasons ← freshnessReasons repoEpoch diff policy provenance nodes artifactGlobalRiskPaths
  let invalidatingReasons ← sortedTexts reasons
  let admittedRepoEpochHash ← hashObject repoEpoch.toIdentityMapping
  let coordinates : DependencyGraphContextFields :=
    { graphHash := []
      provenance := provenance
      admittedRepoEpochHash := admittedRepoEpochHash
      admittedDiffHash := diff.diffHash
      admittedConfigEpochId := policy.epochId
      admittedPolicyHash := policy.policyHash
      admittedCompiledPolicyHash := policy.compiledPolicyHash
      fresh := reasons.isEmpty
      nodes := nodes
      globalRiskPaths := policy.globalRiskPaths
      invalidatingReasons := invalidatingReasons }
  let graphHash ← hashObject coordinates.sealedMapping
  let context := { coordinates with graphHash := graphHash }
  construct context.postInit fun admitted => ⟨context, admitted⟩

theorem PolicySnapshot.digests (self : PolicySnapshot) :
    isSha256Hex self.epochId = true ∧ isSha256Hex self.compiledPolicyHash = true ∧ isSha256Hex self.policyHash = true := by
  have admitted := self.admitted
  simp only [PolicySnapshotFields.postInit, bind_unit_eq_ok, forEach_eq_ok, raiseIf_eq_ok, Bool.not_eq_false,
    List.mem_cons, List.not_mem_nil, or_false, forall_eq_or_imp, forall_eq] at admitted
  exact admitted.1

theorem DependencyGraphContext.digest (self : DependencyGraphContext) : isSha256Hex self.graphHash = true := by
  have admitted := self.admitted
  simp only [DependencyGraphContextFields.postInit, bind_eq_ok, exists_unit_iff, raiseIf_eq_ok, not_not] at admitted
  obtain ⟨-, -, -, -, -, -, hash, hashed, equal⟩ := admitted
  exact equal ▸ isSha256Hex_of_hashObject hashed

end CiCoordinator.RepoContext

import CiCoordinator.RepoContext.DiffAdmission

/- What the builders of diffs, graphs and planning inputs guarantee. -/

namespace CiCoordinator.RepoContext

open Library Kernel List

/-- A built diff binds its own hash, and without reasons it is complete. -/
structure DiffContext.Built (diff : DiffContext) : Prop where
  hashed : hashObject diff.toIdentityMapping = .ok diff.diffHash
  complete : diff.invalidatingReasons = [] → diff.truncated = false ∧ diff.source.complete = true ∧
    diff.source.fileCount = diff.files.length ∧ diff.source.fileCount ≤ diff.source.maxFiles

variable {policy : PolicySnapshot}

theorem buildDiffContext_built {input : DiffBuildInput} {diff : DiffContext} (built : buildDiffContext input = .ok diff) :
    diff.Built := by
  have builds := buildDiffContext_builds built
  refine ⟨builds.hashed, fun none => ?_⟩
  have regular := (reasons_eq_nil built).mp none
  have empty : truncationReasons input diff.files = [] :=
    eq_nil_iff_forall_not_mem.mpr fun reason member => by simpa [none] using (builds.reasons reason).mpr (.inl member)
  have length : (diff.files.length : Int) = input.source.fileCount := by
    rw [builds.files, builtFiles, (sortBy_perm _ _).length_eq, length_map, regular.counted]
  rw [builds.truncated, empty, builds.source]
  exact ⟨rfl, regular.complete, length.symm, regular.bounded⟩

/-- A path has a node in the nodes of a graph. -/
def HasNode (nodes : List DependencyGraphNode) (path : Text) : Prop :=
  path ∈ nodes.map fun node => node.path

/-- A built graph is admitted for its epoch, diff and policy, and a fresh one has no dangling edge. -/
structure DependencyGraphContext.Built (graph : DependencyGraphContext) (repoEpoch : RepositoryEpoch) (diff : DiffContext)
    (policy : PolicySnapshot) (artifact : DependencyGraphArtifact) : Prop where
  epochHash : hashObject repoEpoch.toIdentityMapping = .ok graph.admittedRepoEpochHash
  diffHash : graph.admittedDiffHash = diff.diffHash
  configEpoch : graph.admittedConfigEpochId = policy.epochId
  policyHash : graph.admittedPolicyHash = policy.policyHash
  compiledPolicy : graph.admittedCompiledPolicyHash = policy.compiledPolicyHash
  nodes : normalizedNodes artifact.nodes = .ok graph.nodes
  globalRiskPaths : graph.globalRiskPaths = policy.globalRiskPaths
  reasons : ∃ provenance paths reasons, normalizedProvenance artifact.provenance = .ok provenance ∧
    sortedTexts artifact.globalRiskPaths = .ok paths ∧
    freshnessReasons repoEpoch diff policy provenance graph.nodes paths = .ok reasons ∧
    (∀ reason, reason ∈ graph.invalidatingReasons ↔ reason ∈ reasons) ∧ (graph.invalidatingReasons = [] ↔ reasons = [])

theorem buildDependencyGraph_built {repoEpoch : RepositoryEpoch} {diff : DiffContext}
    {artifact : DependencyGraphArtifact} {graph : DependencyGraphContext}
    (built : buildDependencyGraph repoEpoch diff policy artifact = .ok graph) :
    graph.Built repoEpoch diff policy artifact := by
  simp only [buildDependencyGraph, bind_eq_ok, construct_eq_ok] at built
  obtain ⟨nodes, nodesComputed, paths, pathsComputed, provenance, provenanceComputed, reasons, reasonsComputed, sorted,
    sortedComputed, repoHash, repoHashed, graphHash, -, -, rfl⟩ := built
  have members := (sortedTexts_spec sortedComputed).2
  refine ⟨repoHashed, rfl, rfl, rfl, rfl, nodesComputed, rfl, provenance, paths, reasons, provenanceComputed,
    pathsComputed, reasonsComputed, members, ?_⟩
  simp only [eq_nil_iff_forall_not_mem, members]

theorem invalidatorReasons_named {diff : DiffContext} {invalidators reasons : List Text}
    (computed : invalidatorReasons diff invalidators = .ok reasons) : [] ∉ reasons := by
  unfold invalidatorReasons at computed
  split at computed
  · cases computed
    decide
  · split at computed
    · cases computed
      exact not_mem_nil
    · simp only [bind_eq_ok, pure_eq_ok_iff] at computed
      obtain ⟨changedPaths, -, rfl⟩ := computed
      rw [mem_reasonIf]
      rintro ⟨-, impossible⟩
      revert impossible
      decide

/-- The reasons of the freshness check are literals. -/
theorem freshnessReasons_named {repoEpoch : RepositoryEpoch} {diff : DiffContext} {provenance : GraphProvenance}
    {nodes : List DependencyGraphNode} {paths reasons : List Text}
    (computed : freshnessReasons repoEpoch diff policy provenance nodes paths = .ok reasons) : [] ∉ reasons := by
  simp only [freshnessReasons, bind_eq_ok, pure_eq_ok_iff] at computed
  obtain ⟨invalidators, -, invalidated, invalidatedComputed, rfl⟩ := computed
  have invalidatedNamed := invalidatorReasons_named invalidatedComputed
  simp only [mem_append, mem_reasonIf, not_or, not_and, invalidatedNamed, not_false_eq_true, and_true]
  refine ⟨⟨⟨⟨⟨⟨⟨⟨⟨⟨⟨?_, ?_⟩, ?_⟩, ?_⟩, ?_⟩, ?_⟩, ?_⟩, ?_⟩, ?_⟩, ?_⟩, ?_⟩, ?_⟩ <;>
    · intro _ impossible
      revert impossible
      decide

/-- A graph without reasons against it has distinct nodes and no dangling edge. -/
theorem freshnessReasons_eq_nil {repoEpoch : RepositoryEpoch} {diff : DiffContext} {provenance : GraphProvenance}
    {nodes : List DependencyGraphNode} {paths : List Text}
    (computed : freshnessReasons repoEpoch diff policy provenance nodes paths = .ok []) :
    (nodes.map (·.path)).Nodup ∧ (∀ node ∈ nodes, ∀ dependent ∈ node.dependents, HasNode nodes dependent) ∧
      provenance.source = policy.dependencyGraphSource ∧ paths = policy.globalRiskPaths := by
  simp only [freshnessReasons, bind_eq_ok, pure_eq_ok_iff, append_eq_nil_iff, reasonIf_eq_nil, not_not, not_exists,
    not_and, ne_eq] at computed
  obtain ⟨invalidators, -, invalidated, -, ⟨⟨⟨⟨⟨⟨⟨⟨-, source⟩, global⟩, -⟩, distinct⟩, -⟩, -⟩, edges⟩, -⟩, -⟩ := computed
  refine ⟨?_, edges, source, global⟩
  rw [← dedup_eq_self]
  exact List.Sublist.eq_of_length (dedup_sublist _) distinct

/-- The input repeats its parts and lists every reason against them. -/
structure PlanningInput.Built (input : PlanningInput) (repoEpoch : RepositoryEpoch) (diff : DiffContext)
    (graph : DependencyGraphContext) (policy : PolicySnapshot) : Prop where
  parts : input.repoEpoch = repoEpoch ∧ input.diff = diff ∧ input.dependencyGraph = graph ∧ input.policy = policy
  hashed : hashObject (inputMapping repoEpoch diff graph policy) = .ok input.inputHash
  canonical : CanonicalTexts input.fallbackReasons
  reasons : ∃ repoEpochHash, hashObject repoEpoch.toIdentityMapping = .ok repoEpochHash ∧
    ∀ reason, reason ∈ input.fallbackReasons ↔ reason ∈ diff.invalidatingReasons ++ graph.invalidatingReasons ++
      reasonIf (repoEpoch.baseSha ≠ diff.baseSha ∨ repoEpoch.headSha ≠ diff.headSha) (ascii "repo_epoch_diff_mismatch") ++
      reasonIf (graph.admittedRepoEpochHash ≠ repoEpochHash) (ascii "graph_repo_epoch_mismatch") ++
      reasonIf (graph.admittedDiffHash ≠ diff.diffHash) (ascii "graph_diff_mismatch") ++
      reasonIf (graph.admittedConfigEpochId ≠ policy.epochId) (ascii "graph_config_epoch_mismatch") ++
      reasonIf (graph.admittedPolicyHash ≠ policy.policyHash) (ascii "graph_policy_hash_mismatch") ++
      reasonIf (graph.admittedCompiledPolicyHash ≠ policy.compiledPolicyHash)
        (ascii "graph_compiled_policy_hash_mismatch")

theorem buildPlanningInput_built {repoEpoch : RepositoryEpoch} {diff : DiffContext} {graph : DependencyGraphContext}
    {input : PlanningInput} (built : buildPlanningInput repoEpoch diff graph policy = .ok input) :
    input.Built repoEpoch diff graph policy := by
  simp only [buildPlanningInput, bind_eq_ok, pure_eq_ok_iff] at built
  obtain ⟨repoHash, repoHashed, inputHash, inputHashed, reasons, reasonsComputed, rfl⟩ := built
  obtain ⟨canonical, members⟩ := sortedTexts_spec reasonsComputed
  exact ⟨⟨rfl, rfl, rfl, rfl⟩, inputHashed, canonical, repoHash, repoHashed, members⟩

/-- The named reasons of a diff are not empty. -/
theorem DiffContext.named (diff : DiffContext) : [] ∉ diff.invalidatingReasons := by
  have admitted := diff.admitted
  simp only [DiffContextFields.postInit, bind_unit_eq_ok, requireSortedUnique_eq_ok] at admitted
  exact admitted.2.2.1.1

/-- A planning input whose graph and coordinates come out of the builders. -/
structure Prepared (repoEpoch : RepositoryEpoch) (diff : DiffContext) (snapshot : PolicySnapshot)
    (artifact : DependencyGraphArtifact) (input : PlanningInput) : Prop where
  graphBuilt : buildDependencyGraph repoEpoch diff snapshot artifact = .ok input.dependencyGraph
  inputBuilt : buildPlanningInput repoEpoch diff input.dependencyGraph snapshot = .ok input

namespace Prepared

variable {repoEpoch : RepositoryEpoch} {diff : DiffContext} {snapshot other : PolicySnapshot}
  {artifact : DependencyGraphArtifact} {input otherInput : PlanningInput}

theorem named (prepared : Prepared repoEpoch diff snapshot artifact input) : [] ∉ input.fallbackReasons := by
  intro empty
  obtain ⟨hash, -, members⟩ := (buildPlanningInput_built prepared.inputBuilt).reasons
  obtain ⟨provenance, paths, reasons, -, -, computed, graphMembers, -⟩ :=
    (buildDependencyGraph_built prepared.graphBuilt).reasons
  have graphNamed : [] ∉ input.dependencyGraph.invalidatingReasons := fun member =>
    freshnessReasons_named computed ((graphMembers []).mp member)
  have listed := (members []).mp empty
  simp only [mem_append, mem_reasonIf, diff.named, graphNamed, false_or] at listed
  rcases listed with ((((⟨-, impossible⟩ | ⟨-, impossible⟩) | ⟨-, impossible⟩) | ⟨-, impossible⟩) | ⟨-, impossible⟩) |
    ⟨-, impossible⟩
  all_goals
    revert impossible
    decide

/-- Snapshots that agree on what the graph is checked against build the same graph with the same reasons. -/
theorem graph_congr (source : other.dependencyGraphSource = snapshot.dependencyGraphSource)
    (paths : other.globalRiskPaths = snapshot.globalRiskPaths) (riskClasses : other.riskClasses = snapshot.riskClasses)
    (prepared : Prepared repoEpoch diff snapshot artifact input)
    (otherPrepared : Prepared repoEpoch diff other artifact otherInput) :
    otherInput.dependencyGraph.nodes = input.dependencyGraph.nodes ∧
      otherInput.dependencyGraph.globalRiskPaths = input.dependencyGraph.globalRiskPaths ∧
      otherInput.dependencyGraph.invalidatingReasons = input.dependencyGraph.invalidatingReasons := by
  have graph := prepared.graphBuilt
  have otherGraph := otherPrepared.graphBuilt
  have reasons : ∀ provenance nodes patterns, freshnessReasons repoEpoch diff other provenance nodes patterns =
      freshnessReasons repoEpoch diff snapshot provenance nodes patterns := by
    intro provenance nodes patterns
    simp only [freshnessReasons, source, paths, riskClasses]
  simp only [buildDependencyGraph, bind_eq_ok, construct_eq_ok, reasons] at graph otherGraph
  obtain ⟨nodes, nodesComputed, patterns, patternsComputed, provenance, provenanceComputed, listed, listedComputed, sorted,
    sortedComputed, _, _, _, _, _, same⟩ := graph
  obtain ⟨otherNodes, otherNodesComputed, otherPatterns, otherPatternsComputed, otherProvenance,
    otherProvenanceComputed, otherListed, otherListedComputed, otherSorted, otherSortedComputed, _, _, _, _, _,
    otherSame⟩ := otherGraph
  rw [nodesComputed, Except.ok.injEq] at otherNodesComputed
  rw [patternsComputed, Except.ok.injEq] at otherPatternsComputed
  rw [provenanceComputed, Except.ok.injEq] at otherProvenanceComputed
  subst otherNodesComputed otherPatternsComputed otherProvenanceComputed
  rw [listedComputed, Except.ok.injEq] at otherListedComputed
  subst otherListedComputed
  rw [sortedComputed, Except.ok.injEq] at otherSortedComputed
  subst otherSortedComputed
  rw [← same, ← otherSame]
  exact ⟨rfl, paths, rfl⟩

/-- The reasons of a prepared input are those of its diff and its graph. -/
theorem fallbackReasons_eq (prepared : Prepared repoEpoch diff snapshot artifact input) :
    sortedTexts (diff.invalidatingReasons ++ input.dependencyGraph.invalidatingReasons ++
      reasonIf (repoEpoch.baseSha ≠ diff.baseSha ∨ repoEpoch.headSha ≠ diff.headSha) (ascii "repo_epoch_diff_mismatch")) =
        .ok input.fallbackReasons := by
  have graph := buildDependencyGraph_built prepared.graphBuilt
  have built := prepared.inputBuilt
  simp only [buildPlanningInput, bind_eq_ok, pure_eq_ok_iff, graph.diffHash, graph.configEpoch, graph.policyHash,
    graph.compiledPolicy] at built
  obtain ⟨hash, hashed, _, _, reasons, computed, same⟩ := built
  rw [graph.epochHash, Except.ok.injEq] at hashed
  simp only [hashed, ne_eq, not_true_eq_false, reasonIf, if_false, append_nil] at computed
  rw [← same]
  exact computed

end Prepared

/-- A planning input that comes out of the three builders. -/
structure BuiltFrom (repoEpoch : RepositoryEpoch) (raw : DiffBuildInput) (artifact : DependencyGraphArtifact)
    (snapshot : PolicySnapshot) (input : PlanningInput) : Prop where
  diffBuilt : buildDiffContext raw = .ok input.diff
  graphBuilt : buildDependencyGraph repoEpoch input.diff snapshot artifact = .ok input.dependencyGraph
  inputBuilt : buildPlanningInput repoEpoch input.diff input.dependencyGraph snapshot = .ok input

/-- The three builders in a row. -/
def buildInput (repoEpoch : RepositoryEpoch) (raw : DiffBuildInput) (artifact : DependencyGraphArtifact)
    (snapshot : PolicySnapshot) : Py PlanningInput := do
  let diff ← buildDiffContext raw
  let graph ← buildDependencyGraph repoEpoch diff snapshot artifact
  buildPlanningInput repoEpoch diff graph snapshot

namespace BuiltFrom

variable {repoEpoch : RepositoryEpoch} {raw : DiffBuildInput} {artifact : DependencyGraphArtifact}
  {snapshot : PolicySnapshot} {input : PlanningInput}

theorem of_buildInput (returned : buildInput repoEpoch raw artifact snapshot = .ok input) :
    BuiltFrom repoEpoch raw artifact snapshot input := by
  simp only [buildInput, bind_eq_ok] at returned
  obtain ⟨diff, diffBuilt, graph, graphBuilt, inputBuilt⟩ := returned
  obtain ⟨-, rfl, rfl, -⟩ := (buildPlanningInput_built inputBuilt).parts
  exact ⟨diffBuilt, graphBuilt, inputBuilt⟩

section

variable (built : BuiltFrom repoEpoch raw artifact snapshot input)
include built

theorem verifiable : Verifiable input := by
  have inputFacts := buildPlanningInput_built built.inputBuilt
  obtain ⟨epochSame, -⟩ := inputFacts.parts
  obtain ⟨hash, hashed, -⟩ := inputFacts.reasons
  exact ⟨epochSame ▸ admissible_of_hashObject hashed,
    admissible_of_hashObject (buildDiffContext_built built.diffBuilt).hashed, isSha256Hex_of_hashObject inputFacts.hashed⟩

theorem prepared : Prepared repoEpoch input.diff snapshot artifact input :=
  ⟨built.graphBuilt, built.inputBuilt⟩

end

/-- An input without fallback reasons has no reason in any part. -/
structure Regular (input : PlanningInput) (repoEpoch : RepositoryEpoch) : Prop where
  diffReasons : input.diff.invalidatingReasons = []
  graphReasons : input.dependencyGraph.invalidatingReasons = []
  base : repoEpoch.baseSha = input.diff.baseSha
  head : repoEpoch.headSha = input.diff.headSha

section

variable (built : BuiltFrom repoEpoch raw artifact snapshot input)
include built

theorem regular (none : input.fallbackReasons = []) : Regular input repoEpoch := by
  obtain ⟨hash, -, members⟩ := (buildPlanningInput_built built.inputBuilt).reasons
  have absent : input.diff.invalidatingReasons ++ input.dependencyGraph.invalidatingReasons ++
      reasonIf (repoEpoch.baseSha ≠ input.diff.baseSha ∨ repoEpoch.headSha ≠ input.diff.headSha)
        (ascii "repo_epoch_diff_mismatch") = [] := by
    refine eq_nil_iff_forall_not_mem.mpr fun reason member => ?_
    have listed : reason ∈ input.fallbackReasons := (members reason).mpr (by
      simp only [mem_append] at member ⊢
      tauto)
    simp [none] at listed
  simp only [append_eq_nil_iff, reasonIf_eq_nil, not_or, not_not, ne_eq] at absent
  exact ⟨absent.1.1, absent.1.2, absent.2.1, absent.2.2⟩

/-- Without fallback reasons every edge of the graph leads to a node. -/
theorem edges (none : input.fallbackReasons = []) : (input.dependencyGraph.nodes.map (·.path)).Nodup ∧
      ∀ node ∈ input.dependencyGraph.nodes, ∀ dependent ∈ node.dependents, HasNode input.dependencyGraph.nodes dependent := by
  obtain ⟨provenance, paths, reasons, -, -, computed, -, emptyIff⟩ := (buildDependencyGraph_built built.graphBuilt).reasons
  have empty := emptyIff.mp (built.regular none).graphReasons
  subst empty
  obtain ⟨distinct, closed, -⟩ := freshnessReasons_eq_nil computed
  exact ⟨distinct, closed⟩

end

end BuiltFrom

end CiCoordinator.RepoContext

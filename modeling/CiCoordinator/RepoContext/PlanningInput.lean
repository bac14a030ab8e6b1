import CiCoordinator.RepoContext.DependencyGraph

/- The diff builder and the planning input. -/

namespace CiCoordinator.RepoContext

open Library Kernel

/-- A provider field of any type; the builder tells apart absent values, texts and integers. -/
inductive RawField where
  | absent
  | text (value : Text)
  | integer (value : Int)
  | other
  deriving DecidableEq

structure DiffFileChangeInput where
  path : RawField
  status : RawField
  additions : RawField
  deletions : RawField
  patch : RawField
  previousPath : RawField
  deriving DecidableEq

structure DiffBuildInput where
  baseSha : Text
  headSha : Text
  files : List DiffFileChangeInput
  source : DiffSource
  deriving DecidableEq

structure NormalizedFileChange where
  file : FileDelta
  invalidatingReasons : List Text

def unknownPath : Text :=
  ascii "__ci_coordinator_unknown_path__"

def unknownPreviousPath : Text :=
  ascii "__ci_coordinator_unknown_previous_path__"

def normalizeStatus : RawField → FileChangeStatus
  | .text value =>
    ([.added, .modified, .removed, .renamed, .copied, .changed].find? fun status : FileChangeStatus =>
      status.text = value).getD .unknown
  | _ => .unknown

def nonNegativeInteger : RawField → Int
  | .integer value => if 0 < value then value else 0
  | _ => 0

/-- A missing path is replaced by a sentinel under a reason. -/
def pathOrSentinel : RawField → Text × List Text
  | .text value => if value = [] then (unknownPath, [ascii "missing_file_path"]) else (value, [])
  | _ => (unknownPath, [ascii "missing_file_path"])

def optionalPath : RawField → Option Text × List Text
  | .absent => (none, [])
  | .text value => if value = [] then (none, []) else (some value, [])
  | _ => (some unknownPreviousPath, [ascii "invalid_previous_file_path"])

def patchOrNone : RawField → Option Text × List Text
  | .text value =>
    if value = [] then (none, []) else if value.scalar then (some value, []) else (none, [ascii "unsafe_patch"])
  | _ => (none, [])

/-- A file change without sufficient evidence keeps a safe path, an unknown status and its reasons. -/
def normalizeFileChange (input : DiffFileChangeInput) : Py NormalizedFileChange := do
  let (path, pathReasons) := pathOrSentinel input.path
  let (previousPath, previousReasons) := optionalPath input.previousPath
  let (patch, patchReasons) := patchOrNone input.patch
  let status := normalizeStatus input.status
  let previousPathSafe := previousPath.all isSafeRelativePath
  let reasons := pathReasons ++ previousReasons ++ patchReasons ++
    reasonIf (status = .unknown) (ascii "unknown_file_status") ++
    reasonIf (isSafeRelativePath path = false) (ascii "unsafe_file_path") ++
    reasonIf (previousPathSafe = false) (ascii "unsafe_previous_file_path") ++
    reasonIf (status = .renamed ∧ previousPath = none) (ascii "incomplete_rename_evidence")
  let patchHash ← match patch with
    | none => pure none
    | some patch => do
      let hash ← hashObject (.obj [(ascii "patch", .str patch)])
      pure (some hash)
  let fields : FileDeltaFields :=
    { path := if isSafeRelativePath path then path else unknownPath
      status := if reasons = [] then status else .unknown
      additions := nonNegativeInteger input.additions
      deletions := nonNegativeInteger input.deletions
      previousPath := if previousPathSafe then previousPath else some unknownPreviousPath
      patchHash := patchHash }
  let file ← construct fields.postInit fun admitted => (⟨fields, admitted⟩ : FileDelta)
  let invalidatingReasons ← sortedTexts reasons
  return ⟨file, invalidatingReasons⟩

/-- Files are ordered by path, previous path and status. -/
def fileSortKey (file : FileDelta) : List (List Nat) :=
  [file.path.utf16, (file.previousPath.getD []).utf16, file.status.text.utf16]

def sortFiles (files : List FileDelta) : Py (List FileDelta) := do
  forEach (fun file : FileDelta =>
      raiseIf (file.path.scalar = false ∨ (file.previousPath.getD []).scalar = false) .unicodeEncodeError)
    files
  return sortBy fileSortKey files

def fileIdentity (file : FileDelta) : Text × Option Text × FileChangeStatus :=
  (file.path, file.previousPath, file.status)

def truncationReasons (input : DiffBuildInput) (files : List FileDelta) : List Text :=
  reasonIf (input.source.complete = false) (ascii "diff_source_incomplete") ++
    reasonIf ((input.files.length : Int) ≠ input.source.fileCount) (ascii "diff_file_count_mismatch") ++
    reasonIf (input.source.maxFiles < input.source.fileCount ∨ input.source.maxFiles < input.files.length)
      (ascii "diff_file_limit_exceeded") ++
    reasonIf ((files.map fileIdentity).dedup.length ≠ files.length) (ascii "duplicate_file_identity")

/-- The diff context of raw provider files. -/
def buildDiffContext (input : DiffBuildInput) : Py DiffContext := do
  let normalized ← collect normalizeFileChange input.files
  let files ← sortFiles (normalized.map fun item => item.file)
  let truncation := truncationReasons input files
  let reasons ← sortedTexts (truncation ++ normalized.flatMap fun item => item.invalidatingReasons)
  let truncated := !truncation.isEmpty
  let diffHash ← hashObject (diffMapping input.baseSha input.headSha truncated input.source files)
  let fields : DiffContextFields :=
    { baseSha := input.baseSha
      headSha := input.headSha
      files := files
      source := input.source
      truncated := truncated
      invalidatingReasons := reasons
      diffHash := diffHash }
  construct fields.postInit fun admitted => ⟨fields, admitted⟩

/-- Everything a plan is computed from; only the builder binds the parts to each other. -/
structure PlanningInput where
  repoEpoch : RepositoryEpoch
  diff : DiffContext
  dependencyGraph : DependencyGraphContext
  policy : PolicySnapshot
  inputHash : Text
  fallbackReasons : List Text
  deriving DecidableEq

variable (repoEpoch : RepositoryEpoch)

/-- The coordinates that the input hash binds. -/
def inputMapping (diff : DiffContext) (dependencyGraph : DependencyGraphContext) (policy : PolicySnapshot) : Json :=
  .obj [(ascii "repoEpoch", repoEpoch.toIdentityMapping), (ascii "configEpochId", .str policy.epochId),
    (ascii "compiledPolicyHash", .str policy.compiledPolicyHash), (ascii "diffHash", .str diff.diffHash),
    (ascii "policyHash", .str policy.policyHash), (ascii "dependencyGraphHash", .str dependencyGraph.graphHash)]

/-- The planning input of its parts, with a reason for every mismatch between them. -/
def buildPlanningInput (diff : DiffContext) (dependencyGraph : DependencyGraphContext)
    (policy : PolicySnapshot) : Py PlanningInput := do
  let repoEpochHash ← hashObject repoEpoch.toIdentityMapping
  let reasons := diff.invalidatingReasons ++ dependencyGraph.invalidatingReasons ++
    reasonIf (repoEpoch.baseSha ≠ diff.baseSha ∨ repoEpoch.headSha ≠ diff.headSha) (ascii "repo_epoch_diff_mismatch") ++
    reasonIf (dependencyGraph.admittedRepoEpochHash ≠ repoEpochHash) (ascii "graph_repo_epoch_mismatch") ++
    reasonIf (dependencyGraph.admittedDiffHash ≠ diff.diffHash) (ascii "graph_diff_mismatch") ++
    reasonIf (dependencyGraph.admittedConfigEpochId ≠ policy.epochId) (ascii "graph_config_epoch_mismatch") ++
    reasonIf (dependencyGraph.admittedPolicyHash ≠ policy.policyHash) (ascii "graph_policy_hash_mismatch") ++
    reasonIf (dependencyGraph.admittedCompiledPolicyHash ≠ policy.compiledPolicyHash)
      (ascii "graph_compiled_policy_hash_mismatch")
  let inputHash ← hashObject (inputMapping repoEpoch diff dependencyGraph policy)
  let fallbackReasons ← sortedTexts reasons
  return ⟨repoEpoch, diff, dependencyGraph, policy, inputHash, fallbackReasons⟩

/-- The inputs whose coordinates can be hashed and whose input hash has the digest format. -/
structure Verifiable (input : PlanningInput) : Prop where
  repoEpoch : admissible input.repoEpoch.toIdentityMapping = true
  diff : admissible input.diff.toIdentityMapping = true
  inputHash : isSha256Hex input.inputHash = true

theorem admissible_inputMapping {input : PlanningInput} (repoEpoch : admissible input.repoEpoch.toIdentityMapping = true) :
    admissible (inputMapping input.repoEpoch input.diff input.dependencyGraph input.policy) = true := by
  obtain ⟨epoch, compiled, policyHash⟩ := input.policy.digests
  simp [inputMapping, repoEpoch, scalar_of_isSha256Hex epoch, scalar_of_isSha256Hex compiled, scalar_of_isSha256Hex policyHash, scalar_of_isSha256Hex input.diff.facts.2.2.2, scalar_of_isSha256Hex input.dependencyGraph.digest]

end CiCoordinator.RepoContext

import CiCoordinator.Kernel.CanonicalJson
import CiCoordinator.Kernel.Ordering

/- The repository epoch, the file deltas and the diff context. -/

namespace CiCoordinator.RepoContext

open Library Kernel List

/-- The reason that holds under a condition. -/
def reasonIf (condition : Prop) [Decidable condition] (reason : Text) : List Text :=
  if condition then [reason] else []

@[simp] theorem mem_reasonIf {condition : Prop} [Decidable condition] {reason value : Text} :
    value ∈ reasonIf condition reason ↔ condition ∧ value = reason := by
  unfold reasonIf
  split <;> simp_all

@[simp] theorem reasonIf_eq_nil {condition : Prop} [Decidable condition] {reason : Text} :
    reasonIf condition reason = [] ↔ ¬ condition := by
  unfold reasonIf
  split <;> simp_all

/-- The events that plans are made for. -/
inductive EventName where
  | pullRequest
  | push
  | mergeGroup
  deriving DecidableEq

def EventName.text : EventName → Text
  | .pullRequest => ascii "pull_request"
  | .push => ascii "push"
  | .mergeGroup => ascii "merge_group"

/-- How a file changed; a change without sufficient evidence is unknown. -/
inductive FileChangeStatus where
  | added
  | modified
  | removed
  | renamed
  | copied
  | changed
  | unknown
  deriving DecidableEq

def FileChangeStatus.text : FileChangeStatus → Text
  | .added => ascii "added"
  | .modified => ascii "modified"
  | .removed => ascii "removed"
  | .renamed => ascii "renamed"
  | .copied => ascii "copied"
  | .changed => ascii "changed"
  | .unknown => ascii "unknown"

@[simp] theorem scalar_statusText (status : FileChangeStatus) : status.text.scalar = true := by
  cases status <;> simp [FileChangeStatus.text]

/-- A Git object id has forty to sixty-four lowercase hexadecimal characters. -/
def isGitObjectId (value : Text) : Bool :=
  40 ≤ value.length && value.length ≤ 64 && value.all CodePoint.isLowerHex

def requireGitObjectId (value : Text) (fieldName : Text) : Py Unit :=
  valueErrorIf (isGitObjectId value = false) (fieldName ++ ascii " must be 40..64 lowercase hexadecimal characters")

/-- Values must be nonempty, sorted and unique. -/
def requireSortedUnique (values : List Text) (fieldName : Text) : Py Unit := do
  valueErrorIf ([] ∈ values) (fieldName ++ ascii " must contain non-empty strings")
  requireSorted values (fieldName ++ ascii " must be sorted and unique by ECMAScript UTF-16 order")

structure RepositoryEpochFields where
  installationId : Int
  repositoryId : Int
  owner : Text
  name : Text
  eventName : EventName
  ref : Text
  baseSha : Text
  headSha : Text
  deriving DecidableEq

def RepositoryEpochFields.postInit (self : RepositoryEpochFields) : Py Unit := do
  forEach (fun (entry : Text × Int) => valueErrorIf (entry.2 < 1) (entry.1 ++ ascii " must be a positive integer"))
    [(ascii "installation_id", self.installationId), (ascii "repository_id", self.repositoryId)]
  forEach (fun (entry : Text × Text) => valueErrorIf (entry.2 = []) (entry.1 ++ ascii " must be a non-empty string"))
    [(ascii "owner", self.owner), (ascii "name", self.name), (ascii "ref", self.ref)]
  requireGitObjectId self.baseSha (ascii "base_sha")
  requireGitObjectId self.headSha (ascii "head_sha")

/-- The repository state that a plan is made for. -/
structure RepositoryEpoch extends RepositoryEpochFields where
  admitted : toRepositoryEpochFields.postInit = .ok ()
  deriving DecidableEq

def RepositoryEpoch.toIdentityMapping (self : RepositoryEpoch) : Json :=
  .obj [(ascii "installationId", .int self.installationId), (ascii "repositoryId", .int self.repositoryId),
    (ascii "owner", .str self.owner), (ascii "name", .str self.name), (ascii "event", .str self.eventName.text),
    (ascii "ref", .str self.ref), (ascii "baseSha", .str self.baseSha), (ascii "headSha", .str self.headSha)]

structure DiffSourceFields where
  complete : Bool
  pageCount : Int
  fileCount : Int
  maxFiles : Int
  deriving DecidableEq

def DiffSourceFields.postInit (self : DiffSourceFields) : Py Unit :=
  forEach (fun (entry : Text × Int × Int) =>
      valueErrorIf (entry.2.1 < entry.2.2) (entry.1 ++ ascii " must be an integer >= " ++ decimalInt entry.2.2))
    [(ascii "page_count", self.pageCount, 0), (ascii "file_count", self.fileCount, 0),
      (ascii "max_files", self.maxFiles, 1)]

/-- Where a diff was read from; the only provider is github. -/
structure DiffSource extends DiffSourceFields where
  admitted : toDiffSourceFields.postInit = .ok ()
  deriving DecidableEq

def DiffSource.toIdentityMapping (self : DiffSource) : Json :=
  .obj [(ascii "provider", .str (ascii "github")), (ascii "complete", .bool self.complete),
    (ascii "pageCount", .int self.pageCount), (ascii "fileCount", .int self.fileCount),
    (ascii "maxFiles", .int self.maxFiles)]

/-- An optional text in an identity mapping. -/
def optionalText : Option Text → Json
  | none => .null
  | some value => .str value

structure FileDeltaFields where
  path : Text
  status : FileChangeStatus
  additions : Int
  deletions : Int
  previousPath : Option Text
  patchHash : Option Text
  deriving DecidableEq

def FileDeltaFields.postInit (self : FileDeltaFields) : Py Unit := do
  valueErrorIf (self.path = []) (ascii "path must be a non-empty string")
  valueErrorIf (self.previousPath = some []) (ascii "previous_path must be absent or a non-empty string")
  forEach (fun (entry : Text × Int) => valueErrorIf (entry.2 < 0) (entry.1 ++ ascii " must be a non-negative integer"))
    [(ascii "additions", self.additions), (ascii "deletions", self.deletions)]
  valueErrorIf (self.patchHash.any (fun hash => !isSha256Hex hash) = true)
    (ascii "patch_hash must be lowercase SHA-256 hexadecimal")

/-- The change of one file. -/
structure FileDelta extends FileDeltaFields where
  admitted : toFileDeltaFields.postInit = .ok ()
  deriving DecidableEq

def FileDelta.toIdentityMapping (self : FileDelta) : Json :=
  .obj [(ascii "path", .str self.path), (ascii "previousPath", optionalText self.previousPath),
    (ascii "status", .str self.status.text), (ascii "additions", .int self.additions),
    (ascii "deletions", .int self.deletions), (ascii "patchHash", optionalText self.patchHash)]

structure DiffContextFields where
  baseSha : Text
  headSha : Text
  files : List FileDelta
  source : DiffSource
  truncated : Bool
  invalidatingReasons : List Text
  diffHash : Text
  deriving DecidableEq

def DiffContextFields.postInit (self : DiffContextFields) : Py Unit := do
  requireGitObjectId self.baseSha (ascii "base_sha")
  requireGitObjectId self.headSha (ascii "head_sha")
  requireSortedUnique self.invalidatingReasons (ascii "invalidating_reasons")
  valueErrorIf (isSha256Hex self.diffHash = false) (ascii "diff_hash must be lowercase SHA-256 hexadecimal")

/-- The changed files between two commits and the reasons why they may be incomplete. -/
structure DiffContext extends DiffContextFields where
  admitted : toDiffContextFields.postInit = .ok ()
  deriving DecidableEq

/-- The identity of a diff before it is hashed. -/
def diffMapping (baseSha headSha : Text) (truncated : Bool) (source : DiffSource) (files : List FileDelta) : Json :=
  .obj [(ascii "baseSha", .str baseSha), (ascii "headSha", .str headSha), (ascii "truncated", .bool truncated),
    (ascii "source", source.toIdentityMapping), (ascii "files", .arr (files.map FileDelta.toIdentityMapping))]

namespace DiffContext

variable (self : DiffContext)

/-- The paths that a diff names, previous paths included. -/
def namedPaths : List Text :=
  self.files.map (fun file => file.path) ++ self.files.filterMap fun file => file.previousPath

/-- The changed paths in the ECMAScript order. -/
def changedPaths : Py (List Text) :=
  sortedTexts self.namedPaths

def toIdentityMapping : Json :=
  diffMapping self.baseSha self.headSha self.truncated self.source self.files

end DiffContext

@[simp] theorem requireGitObjectId_eq_ok {value fieldName : Text} {passed : Unit} :
    requireGitObjectId value fieldName = .ok passed ↔ isGitObjectId value = true := by
  simp [requireGitObjectId]

@[simp] theorem requireSortedUnique_eq_ok {values : List Text} {fieldName : Text} {passed : Unit} :
    requireSortedUnique values fieldName = .ok passed ↔ [] ∉ values ∧ CanonicalTexts values := by
  simp [requireSortedUnique]

@[simp] theorem admissible_optionalText {value : Option Text} : admissible (optionalText value) = value.all Text.scalar := by
  cases value <;> simp [optionalText]

namespace DiffContext

/-- What the constructor of a diff guarantees. -/
theorem facts (self : DiffContext) :
    isGitObjectId self.baseSha = true ∧ isGitObjectId self.headSha = true ∧ CanonicalTexts self.invalidatingReasons ∧
      isSha256Hex self.diffHash = true := by
  have admitted := self.admitted
  simp only [DiffContextFields.postInit, bind_unit_eq_ok, requireGitObjectId_eq_ok, requireSortedUnique_eq_ok,
    raiseIf_eq_ok, Bool.not_eq_false] at admitted
  exact ⟨admitted.1, admitted.2.1, admitted.2.2.1.2, admitted.2.2.2⟩

/-- The changed paths are the named ones, listed in canonical order. -/
theorem changedPaths_spec {self : DiffContext} {paths : List Text} (computed : self.changedPaths = .ok paths) :
    CanonicalTexts paths ∧ ∀ path, path ∈ paths ↔ path ∈ self.namedPaths :=
  sortedTexts_spec computed

/-- A diff that can be hashed has scalar paths. -/
theorem namedPaths_scalar {self : DiffContext} (passed : admissible self.toIdentityMapping = true) :
    ∀ path ∈ self.namedPaths, path.scalar = true := by
  simp only [toIdentityMapping, diffMapping, admissible_obj, all_cons, Bool.and_eq_true, admissible_arr, all_map, all_eq_true, Function.comp_apply] at passed
  obtain ⟨-, -, -, -, ⟨-, files⟩, -⟩ := passed
  have fileFacts : ∀ file ∈ self.files, file.path.scalar = true ∧ file.previousPath.all Text.scalar = true := by
    intro file member
    have mapping := files file member
    simp only [FileDelta.toIdentityMapping, admissible_obj, all_cons, Text.scalar_ascii, Bool.true_and, Bool.and_eq_true, admissible_optionalText] at mapping
    exact ⟨mapping.1, mapping.2.1⟩
  intro path member
  simp only [namedPaths, mem_append, mem_map, mem_filterMap] at member
  rcases member with ⟨file, contained, rfl⟩ | ⟨file, contained, equal⟩
  · exact (fileFacts file contained).1
  · have previous := (fileFacts file contained).2
    rw [equal] at previous
    simpa using previous

end DiffContext

end CiCoordinator.RepoContext

import CiCoordinator.ConfigControl.EpochDraft
import CiCoordinator.Kernel.Time

/- The workflow attempts and the sources that evidence is collected from. -/

namespace CiCoordinator.CiEconomics

open Library Kernel ConfigControl List

/-- A lowercase hexadecimal digest. -/
structure Digest where
  text : Text
  lowerHex : isSha256Hex text = true
  deriving DecidableEq

structure AttemptIdentityFields where
  scope : RepositoryScope
  workflowRunId : Int
  runAttempt : Int
  headSha : Text
  deriving DecidableEq

def AttemptIdentityFields.postInit (self : AttemptIdentityFields) : Py Unit := do
  forEach (fun (entry : Text × Int) =>
      valueErrorIf (¬ (1 ≤ entry.2 ∧ entry.2 ≤ maxSafeJsonInteger))
        (entry.1 ++ ascii " must be a positive JSON-safe integer"))
    [(ascii "workflow_run_id", self.workflowRunId), (ascii "run_attempt", self.runAttempt)]
  valueErrorIf (¬ (self.headSha.length = 40 ∧ self.headSha.all CodePoint.isLowerHex = true))
    (ascii "head_sha must be lowercase hexadecimal with length 40")

/-- The attempt of a workflow run. -/
structure AttemptIdentity extends AttemptIdentityFields where
  admitted : toAttemptIdentityFields.postInit = .ok ()
  deriving DecidableEq

def AttemptIdentity.canonicalMapping (self : AttemptIdentity) : Json :=
  .obj [(ascii "installationId", .int self.scope.installationId), (ascii "repositoryId", .int self.scope.repositoryId),
    (ascii "workflowRunId", .int self.workflowRunId), (ascii "runAttempt", .int self.runAttempt),
    (ascii "headSha", .str self.headSha)]

/-- A run that the provider has reported, with the version of the interface that reported it. -/
structure ProviderRunCollectionSource where
  attempt : AttemptIdentity
  runCreatedAt : Instant
  providerApiVersion : CivilDate
  sourceEvidenceDigest : Digest
  deriving DecidableEq

/-- The collection reads of a reconciliation subject only its identity and the hash of its contract. -/
inductive CollectionSource where
  | reconciliation (subjectId contractHash : Digest)
  | providerRun (source : ProviderRunCollectionSource)
  deriving DecidableEq

/-- The source identity of a provider run depends on its attempt alone. -/
def ProviderRunCollectionSource.sourceId (self : ProviderRunCollectionSource) : Py Text :=
  hashObject (.obj [(ascii "schemaVersion", .str (ascii "ci-economics-provider-run-source/v1")),
    (ascii "attempt", self.attempt.canonicalMapping)])

def CollectionSource.sourceId : CollectionSource → Py Text
  | .reconciliation subjectId _ => .ok subjectId.text
  | .providerRun source => source.sourceId

theorem scope_bounds (scope : RepositoryScope) : (1 ≤ scope.installationId ∧ scope.installationId ≤ maxSafeJsonInteger) ∧
      1 ≤ scope.repositoryId ∧ scope.repositoryId ≤ maxSafeJsonInteger := by
  have admitted := scope.admitted
  simp only [RepositoryScopeFields.postInit, forEach_eq_ok, mem_cons, not_mem_nil, or_false,
    forall_eq_or_imp, forall_eq, raiseIf_eq_ok, not_not] at admitted
  exact admitted

namespace AttemptIdentity

variable (self : AttemptIdentity)

theorem bounds : (1 ≤ self.workflowRunId ∧ self.workflowRunId ≤ maxSafeJsonInteger) ∧
      (1 ≤ self.runAttempt ∧ self.runAttempt ≤ maxSafeJsonInteger) ∧
      self.headSha.length = 40 ∧ self.headSha.all CodePoint.isLowerHex = true := by
  have admitted := self.admitted
  simp only [AttemptIdentityFields.postInit, bind_unit_eq_ok, forEach_eq_ok, mem_cons, not_mem_nil, or_false,
    forall_eq_or_imp, forall_eq, raiseIf_eq_ok, not_not] at admitted
  exact ⟨admitted.1.1, admitted.1.2, admitted.2⟩

theorem scalar_headSha : self.headSha.scalar = true := by
  have hexadecimal := self.bounds.2.2.2
  simp only [all_eq_true] at hexadecimal
  simp only [Text.scalar, all_eq_true, Bool.not_eq_eq_eq_not]
  exact fun point member => isSurrogate_of_isLowerHex (hexadecimal point member)

@[simp] theorem admissible_canonicalMapping : admissible self.canonicalMapping = true := by
  have scope := scope_bounds self.scope
  have bounds := self.bounds
  simp only [canonicalMapping, admissible_obj, admissible_int, admissible_str, all_cons, all_nil,
    scalar_headSha, Text.scalar_ascii, Bool.and_true, Bool.true_and, Bool.and_eq_true, decide_eq_true_eq]
  omega

end AttemptIdentity

@[simp] theorem Digest.scalar_text (digest : Digest) : digest.text.scalar = true :=
  scalar_of_isSha256Hex digest.lowerHex

/-- Every source has a digest as its identity. -/
theorem CollectionSource.sourceId_total (source : CollectionSource) : ∃ id, source.sourceId = .ok id ∧ isSha256Hex id = true := by
  cases source with
  | reconciliation subjectId contractHash => exact ⟨subjectId.text, rfl, subjectId.lowerHex⟩
  | providerRun source =>
    apply hashObject_total
    simp

end CiCoordinator.CiEconomics

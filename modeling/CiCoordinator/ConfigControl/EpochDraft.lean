import CiCoordinator.Kernel.CanonicalJson

/- The validated draft of a configuration epoch and its identity. -/

namespace CiCoordinator.ConfigControl

open Library Kernel

/-- The source formats of a policy. -/
inductive PolicySourceFormat where
  | json
  | yaml12
  deriving DecidableEq

structure RepositoryScopeFields where
  installationId : Int
  repositoryId : Int
  deriving DecidableEq

def RepositoryScopeFields.postInit (self : RepositoryScopeFields) : Py Unit :=
  forEach (fun (entry : Text × Int) =>
      valueErrorIf (¬ (1 ≤ entry.2 ∧ entry.2 ≤ maxSafeJsonInteger))
        (entry.1 ++ ascii " must be a positive JSON safe integer"))
    [(ascii "installation_id", self.installationId), (ascii "repository_id", self.repositoryId)]

/-- The repository that an epoch configures. -/
structure RepositoryScope extends RepositoryScopeFields where
  admitted : toRepositoryScopeFields.postInit = .ok ()
  deriving DecidableEq

theorem firstScope : RepositoryScopeFields.postInit ⟨1, 1⟩ = .ok () := by
  decide

def maxConfigContractIdUtf8Bytes : Nat :=
  4096

def maxPolicySourceBytes : Nat :=
  2097152

def maxOutputBytes : Nat :=
  4194304

def requireBytes (value : List Nat) (fieldName : Text) (minimum maximum : Nat) : Py Unit :=
  valueErrorIf (¬ (minimum ≤ value.length ∧ value.length ≤ maximum))
    (fieldName ++ ascii " must be exact bytes with length " ++ decimal minimum ++ ascii ".." ++ decimal maximum)

/-- The check of a bounded nonempty string. -/
def requireUnicodeScalarString (value fieldName : Text) (maximumUtf8Bytes : Nat) : Py Unit := do
  valueErrorIf (value = []) (fieldName ++ ascii " must be a non-empty Unicode scalar string")
  valueErrorIf (value.scalar = false) (fieldName ++ ascii " must contain only Unicode scalar values")
  valueErrorIf (maximumUtf8Bytes < value.utf8.length) (fieldName ++ ascii " exceeds its UTF-8 byte limit")

structure ValidatedEpochDraftFields where
  sourceFormat : PolicySourceFormat
  sourceBytes : List Nat
  scope : RepositoryScope
  normalizedDocumentBytes : List Nat
  compiledPolicyBytes : List Nat
  documentSchemaId : Text
  documentProfileId : Text
  semanticProfileId : Text
  compiledSchemaId : Text
  producerResourceProfileId : Text
  producerByteProfileId : Text
  producerFeasibilityProfileId : Text
  sourceHash : Text
  documentHash : Text
  epochHash : Text
  epochId : Text
  deriving DecidableEq

def ValidatedEpochDraftFields.postInit (self : ValidatedEpochDraftFields) : Py Unit := do
  requireBytes self.sourceBytes (ascii "source_bytes") 0 maxPolicySourceBytes
  requireBytes self.normalizedDocumentBytes (ascii "normalized_document_bytes") 1 maxOutputBytes
  requireBytes self.compiledPolicyBytes (ascii "compiled_policy_bytes") 1 maxOutputBytes
  forEach (fun (entry : Text × Text) => requireUnicodeScalarString entry.2 entry.1 maxConfigContractIdUtf8Bytes)
    [(ascii "document_schema_id", self.documentSchemaId), (ascii "document_profile_id", self.documentProfileId),
      (ascii "semantic_profile_id", self.semanticProfileId), (ascii "compiled_schema_id", self.compiledSchemaId),
      (ascii "producer_resource_profile_id", self.producerResourceProfileId),
      (ascii "producer_byte_profile_id", self.producerByteProfileId),
      (ascii "producer_feasibility_profile_id", self.producerFeasibilityProfileId)]
  forEach (fun (entry : Text × Text) =>
      valueErrorIf (isSha256Hex entry.2 = false) (entry.1 ++ ascii " must be lowercase SHA-256 hexadecimal"))
    [(ascii "source_hash", self.sourceHash), (ascii "document_hash", self.documentHash),
      (ascii "epoch_hash", self.epochHash), (ascii "epoch_id", self.epochId)]

/-- A compiled policy with the hashes it was validated under. -/
structure ValidatedEpochDraft extends ValidatedEpochDraftFields where
  admitted : toValidatedEpochDraftFields.postInit = .ok ()
  deriving DecidableEq

/-- A byte domain ends with a zero byte. -/
def hashDomain (name : String) : List Nat :=
  (ascii name).utf8 ++ [0]

def compiledPolicyHash (compiledPolicyBytes : List Nat) : Text :=
  sha256Hex (hashDomain "ci-compiled-repository-policy/v1" ++ compiledPolicyBytes)

def configEpochId (scope : RepositoryScope) (sourceHash documentHash epochHash : Text) : Py Text := do
  let scopeBytes ← canonicalJson
    (.obj [(ascii "installationId", .int scope.installationId), (ascii "repositoryId", .int scope.repositoryId)]) none
  return sha256Hex (hashDomain "ci-config-epoch/v1" ++ scopeBytes ++ [0] ++ sourceHash.utf8 ++ [0] ++
    documentHash.utf8 ++ [0] ++ epochHash.utf8)

/-- The hashes of a draft must be those of its contents. -/
def verifyEpochIdentity (draft : ValidatedEpochDraft) : Py Unit := do
  let compiledHash := compiledPolicyHash draft.compiledPolicyBytes
  valueErrorIf (compiledHash ≠ draft.epochHash) (ascii "compiled policy bytes do not match epoch hash")
  let expectedEpochId ← configEpochId draft.scope draft.sourceHash draft.documentHash compiledHash
  valueErrorIf (expectedEpochId ≠ draft.epochId) (ascii "validated epoch fields do not match epoch identity")

end CiCoordinator.ConfigControl

import CiCoordinator.ControlPlaneIdentity.Activity
import CiCoordinator.Kernel.StrictJson
import CiCoordinator.Library.Timestamp

/- The events of the audit ledger, their validation and their hashes. -/

namespace CiCoordinator.AuditReplay

open Library Kernel ControlPlaneIdentity

def auditEventSchemaVersion : Text :=
  ascii "ci-audit-event/v1"

def auditSubjectTypes : List Text :=
  [ascii "webhook-delivery", ascii "observation", ascii "policy-decision", ascii "reconciliation-state",
    ascii "coordinator-check", ascii "dynamic-ci-plan", ascii "release-evidence", ascii "policy-drift"]

def maxAuditTextUtf8Bytes : Nat :=
  4096

def maxAuditPayloadCanonicalBytes : Nat :=
  1048576

def auditJsonResourceLimits : JsonResourceLimits :=
  ⟨64, 10000, by decide⟩

inductive AuditJsonResourceErrorCode where
  | auditPayloadMaxCanonicalBytesExceeded
  | auditTextMaxUtf8BytesExceeded
  | jsonMaxDepthExceeded
  | jsonMaxNodesExceeded
  deriving DecidableEq

structure AuditJsonResourceFailure where
  code : AuditJsonResourceErrorCode
  instancePointer : Text
  limit : Nat
  observed : Nat
  deriving DecidableEq

structure AuditEventError where
  message : Text
  auditEventId : Option Text := none
  resourceFailure : Option AuditJsonResourceFailure := none
  deriving DecidableEq

/-- Reading an event raises its own error, or one of the host's that nothing translates. -/
inductive AuditRaise where
  | auditEventError (error : AuditEventError)
  | host (error : PyError)
  deriving DecidableEq

abbrev Audit := Except AuditRaise

structure AuditEventInput where
  idempotencyKey : Text
  installationId : Option Int
  repositoryId : Option Int
  subjectType : Text
  subjectId : Text
  eventType : Text
  createdAt : Text
  actor : Text
  payload : Json

structure AuditEventRecord extends AuditEventInput where
  schemaVersion : Text
  auditEventId : Text
  sequence : Int
  previousEventHash : Option Text
  payloadHash : Text
  inputHash : Text
  eventHash : Text

def isAuditSubjectType (value : Text) : Bool :=
  decide (value ∈ auditSubjectTypes)

/-- Only the text that an instant itself is written as keeps to the pattern and reads back to itself. -/
def isIsoTimestamp (value : Text) : Bool :=
  match readTimestamp (value.dropLast ++ ascii "+00:00") with
  | none => false
  | some time => decide (time.isoMillisecondText ++ ascii "Z" = value)

def validateAuditText (value label : Text) : Option Text :=
  if value = [] then some (label ++ ascii " must be a non-empty string")
  else if value.scalar = false then some (label ++ ascii " must not contain invalid Unicode scalar values")
  else none

/-- A check that refuses with a message. -/
def refuseIf (refused : Prop) [Decidable refused] (message : Text) : Option Text :=
  if refused then some message else none

def isScopeIdentifier (value : Option Int) : Bool :=
  value.any fun number => isSafeJsonInteger number && decide (1 ≤ number)

variable (input : AuditEventInput)

def validateAuditEventInput : Option Text :=
  (validateAuditText input.idempotencyKey (ascii "idempotency key")).or <|
  (refuseIf (isAuditSubjectType input.subjectType = false) (ascii "subject type is unsupported")).or <|
  (validateAuditText input.subjectId (ascii "subject id")).or <|
  (validateAuditText input.eventType (ascii "event type")).or <|
  (refuseIf (isIsoTimestamp input.createdAt = false) (ascii "createdAt must be an ISO timestamp")).or <|
  (validateAuditText input.actor (ascii "actor")).or <|
  (refuseIf (input.installationId.isNone ≠ input.repositoryId.isNone)
    (ascii "repository scope identifiers must be both present or both absent")).or <|
  refuseIf (input.installationId ≠ none ∧
      (isScopeIdentifier input.installationId && isScopeIdentifier input.repositoryId) = false)
    (ascii "repository scope identifiers must be positive safe integers")

def validateAuditEventRecord (record : AuditEventRecord) : Option Text :=
  (refuseIf (record.schemaVersion ≠ auditEventSchemaVersion) (ascii "unsupported audit event schema version")).or <|
  (validateAuditEventInput record.toAuditEventInput).or <|
  (refuseIf (isAuditEventId record.auditEventId = false)
    (ascii "audit event id must match audit hash prefix format")).or <|
  (refuseIf (isSafeJsonInteger record.sequence = false ∨ record.sequence < 1)
    (ascii "sequence must be a positive safe integer")).or <|
  (refuseIf (∃ hash ∈ record.previousEventHash, isSha256Hex hash = false)
    (ascii "previous event hash must be null or a sha256 hex string")).or <|
  (refuseIf (isSha256Hex record.payloadHash = false) (ascii "payload hash must be a sha256 hex string")).or <|
  (refuseIf (isSha256Hex record.inputHash = false) (ascii "input hash must be a sha256 hex string")).or <|
  refuseIf (isSha256Hex record.eventHash = false) (ascii "event hash must be a sha256 hex string")

/-- A message of the validation is the error of the event. -/
def raiseMessage : Option Text → Audit Unit
  | none => .ok ()
  | some message => .error (.auditEventError { message := message })

def admitTextBytes (value pointer : Text) : Audit Unit :=
  raiseIf (maxAuditTextUtf8Bytes < value.utf8.length) (.auditEventError {
    message := pointer ++ ascii " exceeds maximum UTF-8 byte count of " ++ decimal maxAuditTextUtf8Bytes
    resourceFailure := some ⟨.auditTextMaxUtf8BytesExceeded, ascii "/" ++ pointer, maxAuditTextUtf8Bytes,
      maxAuditTextUtf8Bytes + 1⟩ })

def admitAuditTextBytes : Audit Unit := do
  admitTextBytes input.idempotencyKey (ascii "idempotencyKey")
  admitTextBytes input.subjectId (ascii "subjectId")
  admitTextBytes input.eventType (ascii "eventType")
  admitTextBytes input.actor (ascii "actor")

/-- What a message says about each code. -/
def auditJsonReason : CanonicalJsonCode → Text
  | .invalidUnicodeScalar => ascii "must not contain invalid Unicode scalar values"
  | .nonFiniteNumber => ascii "must not contain non-finite numbers"
  | .unsafeInteger => ascii "must be a JSON safe integer"
  | .jsonMaxDepthExceeded => ascii "exceeds maximum JSON depth"
  | .jsonMaxNodesExceeded => ascii "exceeds maximum JSON node count"
  | .cycle => ascii "must not contain cycles"
  | .nonStringKey => ascii "must contain only string keys"
  | .canonicalJsonMaxBytesExceeded | .nonCanonicalInput => ascii "must be JSON-safe"

def auditJsonResourceFailure (error : CanonicalJsonError) : Audit (Option AuditJsonResourceFailure) :=
  let describe (code : AuditJsonResourceErrorCode) : Audit (Option AuditJsonResourceFailure) :=
    match error.instancePointer, error.limit, error.observed with
    | some pointer, some limit, some observed => .ok (some ⟨code, ascii "/payload" ++ pointer, limit, observed⟩)
    | _, _, _ => .error (.host (.runtimeError
        (ascii "canonical JSON resource failure is missing required facts")))
  match error.code with
  | .jsonMaxDepthExceeded => describe .jsonMaxDepthExceeded
  | .jsonMaxNodesExceeded => describe .jsonMaxNodesExceeded
  | _ => .ok none

/-- The path of a canonical JSON error begins with the sign of the root, which the given path replaces. -/
def auditJsonErrorMessage (error : CanonicalJsonError) (rootPath : Text) (failure : Option AuditJsonResourceFailure) :
    Text :=
  rootPath ++ error.path.drop 1 ++ ascii " " ++ auditJsonReason error.code ++
    match failure with
    | none => []
    | some failure => ascii " of " ++ decimal failure.limit

def canonicalAuditPayloadBytes (value : Json) (path : Text) : Audit (List Nat) :=
  match canonicalJson value (some auditJsonResourceLimits) with
  | .error (.canonicalJsonError error) => do
    let failure ← auditJsonResourceFailure error
    .error (.auditEventError { message := auditJsonErrorMessage error path failure, resourceFailure := failure })
  | .error error => .error (.host error)
  | .ok bytes => do
    raiseIf (maxAuditPayloadCanonicalBytes < bytes.length) (.auditEventError {
      message := path ++ ascii " exceeds maximum canonical JSON byte count of " ++
        decimal maxAuditPayloadCanonicalBytes
      resourceFailure := some ⟨.auditPayloadMaxCanonicalBytesExceeded, ascii "/payload",
        maxAuditPayloadCanonicalBytes, maxAuditPayloadCanonicalBytes + 1⟩ })
    return bytes

/-- The host's own reader of JSON bytes, on bytes that the canonical writer has written. -/
def loadCanonicalBytes [Interpreter] (bytes : List Nat) : Audit Json :=
  match (Text.decodeUtf8 bytes).bind JsonSyntax.read with
  | none => .error (.host (.valueError (ascii "invalid JSON")))
  | some tree =>
    if Interpreter.jsonRecursionLimit < nesting tree then .error (.host .recursionError)
    else
      match loadTree tree with
      | none => .error (.host (.valueError (ascii "invalid JSON")))
      | some value => .ok value

/-- A payload is replaced by what its canonical bytes read back to. -/
def snapshotJsonValue [Interpreter] (value : Json) : Audit Json := do
  let bytes ← canonicalAuditPayloadBytes value (ascii "payload")
  loadCanonicalBytes bytes

def normalizeAuditSequence (value : Int) : Audit Int := do
  raiseIf (value < 1 ∨ isSafeJsonInteger value = false)
    (.auditEventError { message := ascii "sequence must be a positive safe integer" })
  return value

def validatedRecordSnapshot [Interpreter] (record : AuditEventRecord) : Audit AuditEventRecord := do
  let payload ← snapshotJsonValue record.payload
  let sequence ← normalizeAuditSequence record.sequence
  let result : AuditEventRecord := { record with payload := payload, sequence := sequence }
  raiseMessage (validateAuditEventInput result.toAuditEventInput)
  admitAuditTextBytes result.toAuditEventInput
  raiseMessage (validateAuditEventRecord result)
  return result

/-- The error of a record names the event that it is about. -/
def aboutEvent (auditEventId : Text) : Audit AuditEventRecord → Audit AuditEventRecord
  | .ok record => .ok record
  | .error (.host error) => .error (.host error)
  | .error (.auditEventError error) => .error (.auditEventError { error with auditEventId := some auditEventId })

/-- A record is read back as a checked copy of itself. -/
def auditEventFromMapping [Interpreter] (record : AuditEventRecord) : Audit AuditEventRecord :=
  aboutEvent record.auditEventId (validatedRecordSnapshot record)

def requireOptionalPositiveInt (value : Option Int) (key : Text) : Audit Unit :=
  raiseIf (∃ number ∈ value, number < 1)
    (.auditEventError { message := key ++ ascii " must be null or a positive integer" })

/-- The members of a stored event are checked one by one before the record is. -/
def auditEventFromSnapshot [Interpreter] (record : AuditEventRecord) : Audit AuditEventRecord := do
  let payload ← snapshotJsonValue record.payload
  raiseIf (record.schemaVersion ≠ auditEventSchemaVersion)
    (.auditEventError { message := ascii "unsupported audit event schema version" })
  raiseIf (isAuditSubjectType record.subjectType = false)
    (.auditEventError { message := ascii "subject type is unsupported" })
  requireOptionalPositiveInt record.installationId (ascii "installationId")
  requireOptionalPositiveInt record.repositoryId (ascii "repositoryId")
  let sequence ← normalizeAuditSequence record.sequence
  let result : AuditEventRecord := { record with payload := payload, sequence := sequence }
  raiseMessage (validateAuditEventInput result.toAuditEventInput)
  admitAuditTextBytes result.toAuditEventInput
  raiseMessage (validateAuditEventRecord result)
  auditEventFromMapping result

/-- The members that name the repository of an event. -/
def scopeMembers (installationId repositoryId : Option Int) : List (Text × Json) :=
  match installationId with
  | none => []
  | some installation =>
    [(ascii "installationId", .int installation), (ascii "repositoryId", (repositoryId.map Json.int).getD .null)]

def auditInputHash (payloadHash : Text) : Py Text :=
  hashObject (.obj ([
    (ascii "schemaVersion", .str auditEventSchemaVersion),
    (ascii "idempotencyKey", .str input.idempotencyKey),
    (ascii "subjectType", .str input.subjectType),
    (ascii "subjectId", .str input.subjectId),
    (ascii "eventType", .str input.eventType),
    (ascii "payloadHash", .str payloadHash)] ++ scopeMembers input.installationId input.repositoryId))

def auditEventHash (record : AuditEventRecord) : Py Text :=
  hashObject (.obj ([
    (ascii "schemaVersion", .str record.schemaVersion),
    (ascii "idempotencyKey", .str record.idempotencyKey),
    (ascii "subjectType", .str record.subjectType),
    (ascii "subjectId", .str record.subjectId),
    (ascii "eventType", .str record.eventType),
    (ascii "createdAt", .str record.createdAt),
    (ascii "actor", .str record.actor),
    (ascii "sequence", .int record.sequence),
    (ascii "previousEventHash", (record.previousEventHash.map Json.str).getD .null),
    (ascii "payloadHash", .str record.payloadHash),
    (ascii "inputHash", .str record.inputHash)] ++ scopeMembers record.installationId record.repositoryId))

variable [Interpreter]

omit [Interpreter] in
theorem normalizeAuditSequence_eq_ok {value sequence : Int} (normalized : normalizeAuditSequence value = .ok sequence) :
    sequence = value ∧ 1 ≤ sequence := by
  obtain ⟨_, inside, same⟩ := bind_eq_ok.mp normalized
  have positive := raiseIf_eq_ok.mp inside
  have kept : value = sequence := Except.ok.inj same
  omega

/-- A checked copy is the record itself with its payload read back. -/
theorem auditEventFromMapping_eq_ok {record result : AuditEventRecord} (read : auditEventFromMapping record = .ok result) :
    ∃ payload, snapshotJsonValue record.payload = .ok payload ∧ result = { record with payload := payload } ∧
      1 ≤ result.sequence ∧ validateAuditEventRecord result = none := by
  have snapshot : validatedRecordSnapshot record = .ok result := by
    rw [auditEventFromMapping] at read
    cases computed : validatedRecordSnapshot record with
    | ok found =>
      rw [computed] at read
      exact read
    | error failure =>
      rw [computed] at read
      cases failure <;> cases read
  obtain ⟨payload, loaded, rest⟩ := bind_eq_ok.mp snapshot
  obtain ⟨sequence, normalized, rest⟩ := bind_eq_ok.mp rest
  obtain ⟨kept, positive⟩ := normalizeAuditSequence_eq_ok normalized
  obtain ⟨_, _, rest⟩ := bind_eq_ok.mp rest
  obtain ⟨_, _, rest⟩ := bind_eq_ok.mp rest
  obtain ⟨_, validated, rest⟩ := bind_eq_ok.mp rest
  have equal := Except.ok.inj rest
  subst kept
  refine ⟨payload, loaded, equal.symm, ?_, ?_⟩
  · rw [← equal]
    exact positive
  · rw [← equal]
    cases messages : validateAuditEventRecord { record with payload := payload } with
    | none => rfl
    | some message =>
      have refused := validated
      simp only [messages, raiseMessage, reduceCtorEq] at refused

theorem sequence_of_snapshot {record result : AuditEventRecord} (read : auditEventFromSnapshot record = .ok result) :
    result.sequence = record.sequence := by
  obtain ⟨payload, _, rest⟩ := bind_eq_ok.mp read
  obtain ⟨_, _, rest⟩ := bind_eq_ok.mp rest
  obtain ⟨_, _, rest⟩ := bind_eq_ok.mp rest
  obtain ⟨_, _, rest⟩ := bind_eq_ok.mp rest
  obtain ⟨_, _, rest⟩ := bind_eq_ok.mp rest
  obtain ⟨sequence, normalized, rest⟩ := bind_eq_ok.mp rest
  obtain ⟨_, _, rest⟩ := bind_eq_ok.mp rest
  obtain ⟨_, _, rest⟩ := bind_eq_ok.mp rest
  obtain ⟨_, _, rest⟩ := bind_eq_ok.mp rest
  obtain ⟨_, _, equal, _⟩ := auditEventFromMapping_eq_ok rest
  rw [equal]
  exact (normalizeAuditSequence_eq_ok normalized).1

end CiCoordinator.AuditReplay

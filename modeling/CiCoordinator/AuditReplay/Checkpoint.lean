import CiCoordinator.AuditReplay.Event
import CiCoordinator.Kernel.HostTimestamps
import CiCoordinator.Kernel.LimitedDocuments

/- The statements about the tip of the audit chain, and the envelopes that carry them with a signature. -/

namespace CiCoordinator.AuditReplay

open Library Kernel

def auditCheckpointStatementSchema : Text :=
  ascii "ci-audit-checkpoint-statement/v1"

def auditCheckpointEnvelopeSchema : Text :=
  ascii "ci-audit-checkpoint-envelope/v1"

def auditCheckpointAlgorithm : Text :=
  ascii "Ed25519"

def maxAuditCheckpointBytes : Nat :=
  65536

def checkpointJsonLimits : JsonResourceLimits :=
  ⟨4, 64, by decide⟩

/-- Times are written in universal time with milliseconds. -/
def formatTimestamp (value : Instant) : Text :=
  value.isoMillisecondText ++ ascii "Z"

def isArtifactDigest (value : Text) : Bool :=
  decide (value.take 7 = ascii "sha256:") && isSha256Hex (value.drop 7)

def isEventId (value : Text) : Bool :=
  decide (value.take 6 = ascii "audit_") && decide ((value.drop 6).length = 32) && (value.drop 6).all CodePoint.isLowerHex

def requireDigest (value name : Text) : Py Unit :=
  valueErrorIf (isSha256Hex value = false) (name ++ ascii " digest is invalid")

def requireUtcMillisecond (value : Instant) (name : Text) : Py Unit :=
  valueErrorIf (value.microsecond % 1000 ≠ 0) (name ++ ascii " must be canonical UTC milliseconds")

structure ChainTipFields where
  databaseIdentityDigest : Text
  artifactDigest : Text
  retainedSequence : Int
  lastEventId : Text
  lastEventHash : Text
  observedAt : Instant
  deriving DecidableEq

def ChainTipFields.postInit (self : ChainTipFields) : Py Unit := do
  requireDigest self.databaseIdentityDigest (ascii "audit checkpoint database identity")
  valueErrorIf (isArtifactDigest self.artifactDigest = false) (ascii "audit checkpoint artifact digest is invalid")
  valueErrorIf (isSafeJsonInteger self.retainedSequence = false ∨ self.retainedSequence < 1)
    (ascii "audit checkpoint retained sequence is invalid")
  valueErrorIf (isEventId self.lastEventId = false) (ascii "audit checkpoint event id is invalid")
  requireDigest self.lastEventHash (ascii "audit checkpoint event")
  valueErrorIf (self.lastEventId ≠ ascii "audit_" ++ self.lastEventHash.take 32)
    (ascii "audit checkpoint event id does not match event hash")
  requireUtcMillisecond self.observedAt (ascii "audit checkpoint observation")

/-- A statement whose fields have passed the checks of its constructor. -/
structure AuditChainTipStatement extends ChainTipFields where
  constructed : toChainTipFields.postInit = .ok ()
  deriving DecidableEq

def AuditChainTipStatement.make (fields : ChainTipFields) : Py AuditChainTipStatement :=
  construct fields.postInit fun constructed => ⟨fields, constructed⟩

namespace ChainTipFields

variable (self : ChainTipFields)

def identityMapping : List (Text × Json) := [
  (ascii "artifactDigest", .str self.artifactDigest),
  (ascii "databaseIdentityDigest", .str self.databaseIdentityDigest),
  (ascii "lastEventHash", .str self.lastEventHash),
  (ascii "lastEventId", .str self.lastEventId),
  (ascii "ledgerSchema", .str auditEventSchemaVersion),
  (ascii "observedAt", .str (formatTimestamp self.observedAt)),
  (ascii "retainedSequence", .int self.retainedSequence),
  (ascii "schemaVersion", .str auditCheckpointStatementSchema)
]

def statementDigest : Py Text :=
  hashObject (.obj self.identityMapping)

def toMapping : Py (List (Text × Json)) := do
  let digest ← self.statementDigest
  return self.identityMapping ++ [(ascii "statementDigest", .str digest)]

end ChainTipFields

structure DecodedCheckpointEnvelope where
  keyId : Text
  signedAt : Instant
  expiresAt : Instant
  statement : AuditChainTipStatement
  signature : Text
  deriving DecidableEq

def keyIdAlphabet : Text :=
  ascii "ABCDEFGHIJKLMNOPQRSTUVWXYZabcdefghijklmnopqrstuvwxyz0123456789._-"

namespace DecodedCheckpointEnvelope

def validateEnvelopeFields (keyId : Text) (signedAt expiresAt : Instant) : Py Unit := do
  valueErrorIf (keyId.length < 1 ∨ 128 < keyId.length ∨ ∃ character ∈ keyId, character ∉ keyIdAlphabet)
    (ascii "audit checkpoint key id is invalid")
  valueErrorIf (signedAt.microsecond % 1000 ≠ 0) (ascii "audit checkpoint signedAt is invalid")
  valueErrorIf (expiresAt.microsecond % 1000 ≠ 0) (ascii "audit checkpoint expiresAt is invalid")
  valueErrorIf (expiresAt ≤ signedAt) (ascii "audit checkpoint validity interval is invalid")

def requireSignature (value : Text) : Py Unit :=
  valueErrorIf (value.length ≠ 86) (ascii "audit checkpoint signature is invalid")

variable (self : DecodedCheckpointEnvelope)

def unsignedMapping : Py (List (Text × Json)) := do
  let statement ← self.statement.toMapping
  return [
    (ascii "algorithm", .str auditCheckpointAlgorithm),
    (ascii "expiresAt", .str (formatTimestamp self.expiresAt)),
    (ascii "keyId", .str self.keyId),
    (ascii "schemaVersion", .str auditCheckpointEnvelopeSchema),
    (ascii "signedAt", .str (formatTimestamp self.signedAt)),
    (ascii "statement", .obj statement)
  ]

def encodeAuditCheckpointEnvelope : Py (List Nat) := do
  validateEnvelopeFields self.keyId self.signedAt self.expiresAt
  requireSignature self.signature
  let unsigned ← self.unsignedMapping
  let written ← canonicalJson (.obj (unsigned ++ [(ascii "signature", .str self.signature)])) (some checkpointJsonLimits)
  return written ++ [0x0A]

end DecodedCheckpointEnvelope

variable (value : Json)

def exactObject (keys : List Text) : Py (List (Text × Json)) :=
  match value with
  | .obj members => do
    valueErrorIf (¬ ((∀ key ∈ members.map Prod.fst, key ∈ keys) ∧ ∀ key ∈ keys, key ∈ members.map Prod.fst))
      (ascii "audit checkpoint object shape is invalid")
    return members
  | _ => .error (.valueError (ascii "audit checkpoint object shape is invalid"))

variable (record : List (Text × Json))

def memberOf (key : Text) : Py Json :=
  match Dictionary.find key record with
  | some value => .ok value
  | none => .error .keyError

/-- The comparison of a value with a text. -/
def isText (expected : Text) : Bool :=
  match value with
  | .str text => decide (text = expected)
  | _ => false

def textOf (name : Text) : Py Text :=
  match value with
  | .str text => do
    valueErrorIf (text = [] ∨ 512 < text.utf8.length) (name ++ ascii " is invalid")
    return text
  | _ => .error (.valueError (name ++ ascii " is invalid"))

def integerOf (name : Text) : Py Int :=
  match value with
  | .int number => .ok number
  | _ => .error (.valueError (name ++ ascii " is invalid"))

/-- A time is read and written again, so that only its own text is accepted. -/
def timestampOf : Py Instant := do
  let text ← textOf value (ascii "audit checkpoint timestamp")
  match strptime text with
  | none => .error (.valueError (ascii "audit checkpoint timestamp is invalid"))
  | some parsed => do
    valueErrorIf (formatTimestamp parsed ≠ text) (ascii "audit checkpoint timestamp is noncanonical")
    return parsed

def statementKeys : List Text := [
  ascii "artifactDigest", ascii "databaseIdentityDigest", ascii "lastEventHash", ascii "lastEventId",
  ascii "ledgerSchema", ascii "observedAt", ascii "retainedSequence", ascii "schemaVersion", ascii "statementDigest"
]

def envelopeKeys : List Text := [
  ascii "algorithm", ascii "expiresAt", ascii "keyId", ascii "schemaVersion", ascii "signature", ascii "signedAt",
  ascii "statement"
]

def statementFields : Py ChainTipFields := do
  let databaseIdentityDigest ← textOf (← memberOf record (ascii "databaseIdentityDigest")) (ascii "database identity digest")
  let artifactDigest ← textOf (← memberOf record (ascii "artifactDigest")) (ascii "artifact digest")
  let retainedSequence ← integerOf (← memberOf record (ascii "retainedSequence")) (ascii "retained sequence")
  let lastEventId ← textOf (← memberOf record (ascii "lastEventId")) (ascii "last event id")
  let lastEventHash ← textOf (← memberOf record (ascii "lastEventHash")) (ascii "last event hash")
  let observedAt ← timestampOf (← memberOf record (ascii "observedAt"))
  return ⟨databaseIdentityDigest, artifactDigest, retainedSequence, lastEventId, lastEventHash, observedAt⟩

def statementOf : Py AuditChainTipStatement := do
  let record ← exactObject value statementKeys
  let schemaVersion ← memberOf record (ascii "schemaVersion")
  let ledgerSchema ← memberOf record (ascii "ledgerSchema")
  valueErrorIf
    (isText schemaVersion auditCheckpointStatementSchema = false ∨ isText ledgerSchema auditEventSchemaVersion = false)
    (ascii "audit checkpoint statement identity is unsupported")
  let fields ← statementFields record
  let statement ← AuditChainTipStatement.make fields
  let claimed ← memberOf record (ascii "statementDigest")
  let digest ← statement.statementDigest
  valueErrorIf (isText claimed digest = false) (ascii "audit checkpoint statement digest does not match")
  return statement

def envelopeOf (root : List (Text × Json)) : Py DecodedCheckpointEnvelope := do
  let schemaVersion ← memberOf root (ascii "schemaVersion")
  let algorithm ← memberOf root (ascii "algorithm")
  valueErrorIf
    (isText schemaVersion auditCheckpointEnvelopeSchema = false ∨ isText algorithm auditCheckpointAlgorithm = false)
    (ascii "audit checkpoint envelope identity is unsupported")
  let statement ← statementOf (← memberOf root (ascii "statement"))
  let keyId ← textOf (← memberOf root (ascii "keyId")) (ascii "audit checkpoint key id")
  let signedAt ← timestampOf (← memberOf root (ascii "signedAt"))
  let expiresAt ← timestampOf (← memberOf root (ascii "expiresAt"))
  let signature ← textOf (← memberOf root (ascii "signature")) (ascii "audit checkpoint signature")
  DecodedCheckpointEnvelope.validateEnvelopeFields keyId signedAt expiresAt
  DecodedCheckpointEnvelope.requireSignature signature
  return ⟨keyId, signedAt, expiresAt, statement, signature⟩

/-- Only the canonical bytes of an envelope are accepted. -/
def decodeEnvelope [Interpreter] (content : List Nat) : Py DecodedCheckpointEnvelope := do
  let document ← loadLimitedJson content maxAuditCheckpointBytes checkpointJsonLimits
  let root ← exactObject document envelopeKeys
  let written ← canonicalJson (.obj root) (some checkpointJsonLimits)
  valueErrorIf (written ++ [0x0A] ≠ content) (ascii "audit checkpoint envelope is not canonical")
  envelopeOf root

end CiCoordinator.AuditReplay

import CiCoordinator.AuditReplay.Event
import CiCoordinator.Library.Dictionary

/- The verification of the hash chain over a suffix of the audit ledger. -/

namespace CiCoordinator.AuditReplay

open Library Kernel

structure InvalidAuditChain where
  reason : Text
  auditEventId : Option Text
  resourceFailure : Option AuditJsonResourceFailure := none
  deriving DecidableEq

inductive AuditChainVerificationResult where
  | valid (lastEventHash : Option Text)
  | invalid (failure : InvalidAuditChain)
  deriving DecidableEq

def canonicalJsonCodeText : CanonicalJsonCode → Text
  | .jsonMaxDepthExceeded => ascii "json_max_depth_exceeded"
  | .jsonMaxNodesExceeded => ascii "json_max_nodes_exceeded"
  | .unsafeInteger => ascii "unsafe_integer"
  | .nonFiniteNumber => ascii "non_finite_number"
  | .invalidUnicodeScalar => ascii "invalid_unicode_scalar"
  | .canonicalJsonMaxBytesExceeded => ascii "canonical_json_max_bytes_exceeded"
  | .nonCanonicalInput => ascii "non_canonical_input"
  | .nonStringKey => ascii "non_string_key"
  | .cycle => ascii "cycle"

/-- The text of an error of the canonical writer. -/
def canonicalJsonErrorText (error : CanonicalJsonError) : Text :=
  canonicalJsonCodeText error.code ++ ascii " at " ++ error.path ++ ascii ": " ++ error.message

/-- The rest of the content checks, after the payload has been hashed. -/
def verifyEventHashes (record : AuditEventRecord) (expectedPayloadHash : Text) : Py (Option InvalidAuditChain) := do
  let refuse (reason : Text) : Py (Option InvalidAuditChain) :=
    .ok (some { reason := reason, auditEventId := some record.auditEventId })
  if record.payloadHash ≠ expectedPayloadHash then refuse (ascii "payload hash does not match payload")
  else
    let expectedInputHash ← auditInputHash record.toAuditEventInput expectedPayloadHash
    if record.inputHash ≠ expectedInputHash then refuse (ascii "input hash does not match audit event input")
    else
      let expectedEventHash ← auditEventHash record
      if record.eventHash ≠ expectedEventHash then refuse (ascii "event hash does not match event identity")
      else if record.auditEventId ≠ ascii "audit_" ++ record.eventHash.take 32 then
        refuse (ascii "audit event id does not match event hash")
      else return none

def verifyAuditEventContent (record : AuditEventRecord) : Py (Option InvalidAuditChain) :=
  match hashObject record.payload with
  | .error (.canonicalJsonError error) =>
    .ok (some { reason := canonicalJsonErrorText error, auditEventId := some record.auditEventId })
  | .error error => .error error
  | .ok expectedPayloadHash => verifyEventHashes record expectedPayloadHash

def expectedSequence (previous : Option AuditEventRecord) : Int :=
  match previous with
  | none => 1
  | some record => record.sequence + 1

/-- A record continues the one before it and repeats no idempotency key of the suffix. -/
def verifyAuditChainRecord (record : AuditEventRecord) (previous : Option AuditEventRecord)
    (idempotencyKeys : Dictionary Text Text) : Py (Option InvalidAuditChain) := do
  let refuse (reason : Text) : Py (Option InvalidAuditChain) :=
    .ok (some { reason := reason, auditEventId := some record.auditEventId })
  if record.sequence ≠ expectedSequence previous then
    refuse (ascii "expected sequence " ++ decimalInt (expectedSequence previous) ++ ascii ", got " ++
      decimalInt record.sequence)
  else if record.previousEventHash ≠ previous.map (·.eventHash) then
    refuse (ascii "previous event hash does not match")
  else
    match ← verifyAuditEventContent record with
    | some invalid => return some invalid
    | none =>
      match idempotencyKeys.get? record.idempotencyKey with
      | none => return none
      | some existing =>
        refuse (if existing = record.inputHash then ascii "duplicate audit event idempotency key"
          else ascii "conflicting audit event idempotency key")

/-- The sequence number of a record, or zero before the first one. -/
def sequenceOf (record : Option AuditEventRecord) : Int :=
  match record with
  | none => 0
  | some record => record.sequence

variable {previous : Option AuditEventRecord}

theorem expectedSequence_eq (previous : Option AuditEventRecord) : expectedSequence previous = sequenceOf previous + 1 := by
  cases previous with
  | none => rfl
  | some _ => rfl

/-- A verified record has the next sequence number. -/
theorem sequence_of_verified {record : AuditEventRecord} {idempotencyKeys : Dictionary Text Text}
    (verified : verifyAuditChainRecord record previous idempotencyKeys = .ok none) :
    record.sequence = sequenceOf previous + 1 := by
  by_contra other
  rw [← expectedSequence_eq] at other
  have refused := verified
  rw [verifyAuditChainRecord, if_pos other] at refused
  cases refused

variable [Interpreter]

/-- Records are read back and verified one after the other, up to the first one that does not continue the chain. -/
def verifyRecords (previous : Option AuditEventRecord) (idempotencyKeys : Dictionary Text Text) :
    List AuditEventRecord → Py (List AuditEventRecord × AuditChainVerificationResult)
  | [] => .ok ([], .valid (previous.map (·.eventHash)))
  | raw :: rest =>
    match auditEventFromMapping raw with
    | .error (.host error) => .error error
    | .error (.auditEventError error) =>
      .ok ([], .invalid ⟨error.message, error.auditEventId, error.resourceFailure⟩)
    | .ok record => do
      match ← verifyAuditChainRecord record previous idempotencyKeys with
      | some invalid => return ([record], .invalid invalid)
      | none =>
        let (later, result) ←
          verifyRecords (some record) (idempotencyKeys.set record.idempotencyKey record.inputHash) rest
        return (record :: later, result)

/-- A suffix is verified against the record before it. -/
def normalizeAndVerifyAuditChainExtension (previous : Option AuditEventRecord) (records : List AuditEventRecord) :
    Py (List AuditEventRecord × AuditChainVerificationResult) :=
  match previous with
  | none => verifyRecords none Dictionary.empty records
  | some found =>
    match auditEventFromMapping found with
    | .error (.host error) => .error error
    | .error (.auditEventError error) =>
      .ok ([], .invalid ⟨error.message, error.auditEventId, error.resourceFailure⟩)
    | .ok record =>
      verifyRecords (some record) (Dictionary.empty.set record.idempotencyKey record.inputHash) records

/-- A valid suffix is read back record by record. -/
theorem verifyRecords_valid {records events : List AuditEventRecord} {lastEventHash : Option Text}
    {idempotencyKeys : Dictionary Text Text}
    (verified : verifyRecords previous idempotencyKeys records = .ok (events, .valid lastEventHash)) :
    List.Forall₂ (fun record event => auditEventFromMapping record = .ok event) records events ∧
      (events = [] ∨ sequenceOf previous < sequenceOf events.getLast?) := by
  induction records generalizing previous idempotencyKeys events with
  | nil =>
    rw [verifyRecords, Except.ok.injEq, Prod.mk.injEq] at verified
    rw [← verified.1]
    exact ⟨List.Forall₂.nil, .inl rfl⟩
  | cons raw rest ih =>
    rw [verifyRecords] at verified
    cases read : auditEventFromMapping raw with
    | error failure =>
      rw [read] at verified
      cases failure <;> cases verified
    | ok record =>
      rw [read] at verified
      obtain ⟨outcome, checked, verified⟩ := bind_eq_ok.mp verified
      cases outcome with
      | some invalid => cases verified
      | none =>
        obtain ⟨⟨later, result⟩, tail, equal⟩ := bind_eq_ok.mp verified
        have pair := Prod.mk.inj (Except.ok.inj equal)
        obtain ⟨rfl, rfl⟩ := pair
        obtain ⟨related, ends⟩ := ih tail
        refine ⟨List.Forall₂.cons read related, .inr ?_⟩
        have next := sequence_of_verified checked
        rcases ends with rfl | beyond
        · change sequenceOf previous < record.sequence
          omega
        · cases later with
          | nil =>
            change sequenceOf previous < record.sequence
            omega
          | cons second others =>
            rw [List.getLast?_cons_cons]
            change record.sequence < _ at beyond
            omega

/-- A valid extension is read back record by record, and its last record has a later number. -/
theorem extension_valid {records events : List AuditEventRecord} {lastEventHash : Option Text}
    (verified : normalizeAndVerifyAuditChainExtension previous records = .ok (events, .valid lastEventHash)) :
    List.Forall₂ (fun record event => auditEventFromMapping record = .ok event) records events ∧
      (events = [] ∨ sequenceOf previous < sequenceOf events.getLast?) := by
  cases previous with
  | none => exact verifyRecords_valid verified
  | some found =>
    dsimp only [normalizeAndVerifyAuditChainExtension] at verified
    cases read : auditEventFromMapping found with
    | error failure =>
      rw [read] at verified
      cases failure <;> cases verified
    | ok record =>
      rw [read] at verified
      obtain ⟨payload, -, equal, -⟩ := auditEventFromMapping_eq_ok read
      have same : sequenceOf (some found) = sequenceOf (some record) := by
        rw [equal]
        rfl
      rw [same]
      exact verifyRecords_valid verified

end CiCoordinator.AuditReplay

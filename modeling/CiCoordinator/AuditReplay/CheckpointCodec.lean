import CiCoordinator.AuditReplay.Checkpoint

/- The proof that an envelope is decoded from its own bytes, and from no others. -/

namespace CiCoordinator.AuditReplay

open Library Kernel ChainTipFields List

/-- The members of a statement with its digest. -/
def statementMembers (fields : ChainTipFields) (digest : Text) : List (Text × Json) :=
  fields.identityMapping ++ [(ascii "statementDigest", .str digest)]

/-- The members of an envelope in the order in which they are written. -/
def envelopeMembers (self : DecodedCheckpointEnvelope) (digest : Text) : List (Text × Json) := [
  (ascii "algorithm", .str auditCheckpointAlgorithm),
  (ascii "expiresAt", .str (formatTimestamp self.expiresAt)),
  (ascii "keyId", .str self.keyId),
  (ascii "schemaVersion", .str auditCheckpointEnvelopeSchema),
  (ascii "signature", .str self.signature),
  (ascii "signedAt", .str (formatTimestamp self.signedAt)),
  (ascii "statement", .obj (statementMembers self.statement.toChainTipFields digest))
]

section Members

variable {fields : ChainTipFields} {digest : Text} {envelope : DecodedCheckpointEnvelope}

theorem statementMembers_keys : (statementMembers fields digest).map Prod.fst = statementKeys := rfl

theorem envelopeMembers_keys : (envelopeMembers envelope digest).map Prod.fst = envelopeKeys := rfl

theorem statementKeys_increasing : Increasing id statementKeys := by
  decide

theorem envelopeKeys_increasing : Increasing id envelopeKeys := by
  decide

theorem statementKeys_nodup : statementKeys.Nodup := statementKeys_increasing.nodup

theorem envelopeKeys_nodup : envelopeKeys.Nodup := envelopeKeys_increasing.nodup

theorem sortMembers_statement : sortMembers (.obj (statementMembers fields digest)) = .obj (statementMembers fields digest) := by
  refine sortMembers_of_increasing statementKeys_increasing fun member inside => ?_
  simp only [statementMembers, identityMapping, cons_append, nil_append, mem_cons, not_mem_nil, or_false] at inside
  rcases inside with rfl | rfl | rfl | rfl | rfl | rfl | rfl | rfl | rfl <;> rfl

theorem sortMembers_envelope : sortMembers (.obj (envelopeMembers envelope digest)) = .obj (envelopeMembers envelope digest) := by
  refine sortMembers_of_increasing envelopeKeys_increasing fun member inside => ?_
  simp only [envelopeMembers, mem_cons, not_mem_nil, or_false] at inside
  rcases inside with rfl | rfl | rfl | rfl | rfl | rfl | rfl
  · rfl
  · rfl
  · rfl
  · rfl
  · rfl
  · rfl
  · exact sortMembers_statement

end Members

section Fields

variable {text name : Text} {instant : Instant}
variable {value : Json}

theorem length_utf8_le (text : Text) : text.utf8.length ≤ 4 * text.length := by
  induction text with
  | nil => exact le_rfl
  | cons point rest ih =>
    have few : point.utf8.length ≤ 4 := by
      rw [length_utf8_point]
      split_ifs <;> omega
    have split : Text.utf8 (point :: rest) = point.utf8 ++ Text.utf8 rest := rfl
    rw [split, length_append, length_cons]
    omega

/-- A text of one to 128 characters is accepted. -/
theorem textOf_str (filled : 1 ≤ text.length) (short : text.length ≤ 128) : textOf (.str text) name = .ok text := by
  have bytes := length_utf8_le text
  have accepted : ¬ (text = [] ∨ 512 < text.utf8.length) := by
    rintro (rfl | long)
    · cases filled
    · omega
  exact bind_unit_eq_ok.mpr ⟨raiseIf_eq_ok.mpr accepted, rfl⟩

theorem eq_str_of_textOf (read : textOf value name = .ok text) : value = .str text := by
  cases value with
  | str other =>
    rw [textOf, bind_unit_eq_ok, pure_eq_ok_iff] at read
    rw [read.2]
  | _ => cases read

theorem eq_int_of_integerOf {number : Int} (read : integerOf value name = .ok number) : value = .int number := by
  cases value with
  | int other => rw [Except.ok.inj read]
  | _ => cases read

theorem eq_str_of_isText (same : isText value text = true) : value = .str text := by
  cases value with
  | str other => rw [of_decide_eq_true same]
  | _ => cases same

theorem length_formatTimestamp (instant : Instant) :
    1 ≤ (formatTimestamp instant).length ∧ (formatTimestamp instant).length ≤ 32 := by
  have marks : (ascii "-").length = 1 ∧ (ascii "T").length = 1 ∧ (ascii ":").length = 1 ∧ (ascii ".").length = 1 ∧
      (ascii "Z").length = 1 := by decide
  simp [formatTimestamp, Instant.isoMillisecondText, Instant.isoSecondText, CivilDate.isoText, marks]

theorem scalar_formatTimestamp (instant : Instant) : (formatTimestamp instant).scalar = true := by
  have mark : (ascii "Z").scalar = true := by decide
  have written := Instant.scalar_isoMillisecondText instant
  rw [Text.scalar] at written mark ⊢
  rw [formatTimestamp, all_append, written, mark, Bool.and_self]

/-- The text of an instant in whole milliseconds is read back. -/
theorem timestampOf_format (whole : instant.microsecond % 1000 = 0) :
    timestampOf (.str (formatTimestamp instant)) = .ok instant := by
  have bounds := length_formatTimestamp instant
  rw [timestampOf, textOf_str bounds.1 (by omega), ok_bind_eq, formatTimestamp, strptime_milliseconds instant whole]
  exact bind_unit_eq_ok.mpr ⟨raiseIf_eq_ok.mpr (not_not.mpr rfl), rfl⟩

theorem eq_str_of_timestampOf (read : timestampOf value = .ok instant) : value = .str (formatTimestamp instant) := by
  simp only [timestampOf, bind_eq_ok] at read
  obtain ⟨text, isText, read⟩ := read
  cases parsed : strptime text with
  | none =>
    rw [parsed] at read
    cases read
  | some found =>
    rw [parsed] at read
    obtain ⟨same, returned⟩ := bind_unit_eq_ok.mp read
    rw [eq_str_of_textOf isText, ← not_not.mp (raiseIf_eq_ok.mp same), pure_eq_ok_iff.mp returned]

end Fields

/-- What the checks of a statement tell about it. -/
structure ValidTip (fields : ChainTipFields) : Prop where
  databaseIdentity : isSha256Hex fields.databaseIdentityDigest = true
  artifact : isArtifactDigest fields.artifactDigest = true
  safe : isSafeJsonInteger fields.retainedSequence = true
  eventId : isEventId fields.lastEventId = true
  eventHash : isSha256Hex fields.lastEventHash = true
  whole : fields.observedAt.microsecond % 1000 = 0

section Statements

variable {fields : ChainTipFields} {statement : AuditChainTipStatement} {digest : Text}
variable {value : Json} {record : List (Text × Json)}

theorem validTip (statement : AuditChainTipStatement) : ValidTip statement.toChainTipFields := by
  have passed := statement.constructed
  simp only [postInit, bind_eq_ok, exists_unit_iff, requireDigest, requireUtcMillisecond, raiseIf_eq_ok,
    not_or, Bool.not_eq_false, not_not] at passed
  obtain ⟨databaseIdentity, artifact, safe, eventId, eventHash, _, whole⟩ := passed
  exact ⟨databaseIdentity, artifact, safe.1, eventId, eventHash, whole⟩

theorem length_of_isSha256Hex {text : Text} (hex : isSha256Hex text = true) : text.length = 64 := by
  simp only [isSha256Hex, Bool.and_eq_true, decide_eq_true_eq] at hex
  exact hex.1

theorem ValidTip.artifact_length (valid : ValidTip fields) : fields.artifactDigest.length = 71 := by
  have checked := valid.artifact
  rw [isArtifactDigest, Bool.and_eq_true, decide_eq_true_eq] at checked
  have later := length_of_isSha256Hex checked.2
  rw [length_drop] at later
  omega

theorem ValidTip.eventId_length (valid : ValidTip fields) : fields.lastEventId.length = 38 := by
  have checked := valid.eventId
  rw [isEventId, Bool.and_eq_true, Bool.and_eq_true, decide_eq_true_eq, decide_eq_true_eq] at checked
  have later := checked.1.2
  rw [length_drop] at later
  omega

theorem make_self (statement : AuditChainTipStatement) : AuditChainTipStatement.make statement.toChainTipFields = .ok statement :=
  construct_ok statement.constructed

theorem exactObject_self {members : List (Text × Json)} {keys : List Text} (same : members.map Prod.fst = keys) :
    exactObject (.obj members) keys = .ok members := by
  refine bind_unit_eq_ok.mpr ⟨raiseIf_eq_ok.mpr (not_not.mpr ?_), rfl⟩
  rw [same]
  exact ⟨fun _ inside => inside, fun _ inside => inside⟩

theorem memberOf_of_mem {members : List (Text × Json)} {key : Text} (names : (members.map Prod.fst).Nodup)
    (inside : (key, value) ∈ members) : memberOf members key = .ok value := by
  rw [memberOf, Dictionary.find_of_mem names inside]

/-- Every member of a statement is found under its name. -/
structure StatementLookups (record : List (Text × Json)) (fields : ChainTipFields) (digest : Text) : Prop where
  artifactDigest : memberOf record (ascii "artifactDigest") = .ok (.str fields.artifactDigest)
  databaseIdentityDigest : memberOf record (ascii "databaseIdentityDigest") = .ok (.str fields.databaseIdentityDigest)
  lastEventHash : memberOf record (ascii "lastEventHash") = .ok (.str fields.lastEventHash)
  lastEventId : memberOf record (ascii "lastEventId") = .ok (.str fields.lastEventId)
  ledgerSchema : memberOf record (ascii "ledgerSchema") = .ok (.str auditEventSchemaVersion)
  observedAt : memberOf record (ascii "observedAt") = .ok (.str (formatTimestamp fields.observedAt))
  retainedSequence : memberOf record (ascii "retainedSequence") = .ok (.int fields.retainedSequence)
  schemaVersion : memberOf record (ascii "schemaVersion") = .ok (.str auditCheckpointStatementSchema)
  statementDigest : memberOf record (ascii "statementDigest") = .ok (.str digest)

theorem statementLookups (fields : ChainTipFields) (digest : Text) :
    StatementLookups (statementMembers fields digest) fields digest := by
  have found : ∀ member ∈ statementMembers fields digest, memberOf (statementMembers fields digest) member.1 = .ok member.2 :=
    fun member inside => memberOf_of_mem statementKeys_nodup inside
  simp only [statementMembers, identityMapping, cons_append, nil_append, forall_mem_cons] at found
  obtain ⟨artifact, database, eventHash, eventId, ledger, observed, sequence, schema, claimed, _⟩ := found
  exact ⟨artifact, database, eventHash, eventId, ledger, observed, sequence, schema, claimed⟩

/-- The members of a statement lead back to it. -/
theorem statementOf_members (hashed : statement.statementDigest = .ok digest) :
    statementOf (.obj (statementMembers statement.toChainTipFields digest)) = .ok statement := by
  have valid := validTip statement
  have identity := length_of_isSha256Hex valid.databaseIdentity
  have event := length_of_isSha256Hex valid.eventHash
  have artifact := valid.artifact_length
  have eventId := valid.eventId_length
  have found := statementLookups statement.toChainTipFields digest
  have read : statementFields (statementMembers statement.toChainTipFields digest) = .ok statement.toChainTipFields := by
    rw [statementFields, found.databaseIdentityDigest, ok_bind_eq, textOf_str (by omega) (by omega), ok_bind_eq,
      found.artifactDigest, ok_bind_eq, textOf_str (by omega) (by omega), ok_bind_eq, found.retainedSequence, ok_bind_eq,
      integerOf, ok_bind_eq, found.lastEventId, ok_bind_eq, textOf_str (by omega) (by omega), ok_bind_eq,
      found.lastEventHash, ok_bind_eq, textOf_str (by omega) (by omega), ok_bind_eq, found.observedAt, ok_bind_eq,
      timestampOf_format valid.whole, ok_bind_eq]
    rfl
  have identified : ¬ (isText (.str auditCheckpointStatementSchema) auditCheckpointStatementSchema = false ∨
      isText (.str auditEventSchemaVersion) auditEventSchemaVersion = false) := by
    simp [isText]
  have agrees : ¬ isText (.str digest) digest = false := by
    simp [isText]
  rw [statementOf, exactObject_self statementMembers_keys, ok_bind_eq, found.schemaVersion, ok_bind_eq,
    found.ledgerSchema, ok_bind_eq]
  refine bind_unit_eq_ok.mpr ⟨raiseIf_eq_ok.mpr identified, ?_⟩
  rw [read, ok_bind_eq, make_self, ok_bind_eq, found.statementDigest, ok_bind_eq, hashed, ok_bind_eq]
  exact bind_unit_eq_ok.mpr ⟨raiseIf_eq_ok.mpr agrees, rfl⟩

theorem exactObject_eq_ok {keys : List Text} (read : exactObject value keys = .ok record) :
    value = .obj record ∧ ∀ key ∈ record.map Prod.fst, key ∈ keys := by
  cases value with
  | obj members =>
    rw [exactObject, bind_unit_eq_ok, raiseIf_eq_ok, not_not, pure_eq_ok_iff] at read
    obtain ⟨same, rfl⟩ := read
    exact ⟨rfl, same.1⟩
  | _ => cases read

theorem find_of_memberOf {key : Text} (read : memberOf record key = .ok value) : Dictionary.find key record = some value := by
  rw [memberOf] at read
  cases found : Dictionary.find key record with
  | none =>
    rw [found] at read
    cases read
  | some other =>
    rw [found] at read
    rw [Except.ok.inj read]

/-- What is looked up in a record is sorted as the members of the statement. -/
theorem StatementLookups.sorted (found : StatementLookups record fields digest) (names : (record.map Prod.fst).Nodup)
    (known : ∀ key ∈ record.map Prod.fst, key ∈ statementKeys) :
    sortMembers (.obj record) = .obj (statementMembers fields digest) := by
  rw [← sortMembers_statement]
  refine sortMembers_of_lookups names statementKeys_nodup known ?_
  simp only [statementMembers, identityMapping, cons_append, nil_append, forall_mem_cons]
  exact ⟨⟨_, find_of_memberOf found.artifactDigest, rfl⟩, ⟨_, find_of_memberOf found.databaseIdentityDigest, rfl⟩,
    ⟨_, find_of_memberOf found.lastEventHash, rfl⟩, ⟨_, find_of_memberOf found.lastEventId, rfl⟩,
    ⟨_, find_of_memberOf found.ledgerSchema, rfl⟩, ⟨_, find_of_memberOf found.observedAt, rfl⟩,
    ⟨_, find_of_memberOf found.retainedSequence, rfl⟩, ⟨_, find_of_memberOf found.schemaVersion, rfl⟩,
    ⟨_, find_of_memberOf found.statementDigest, rfl⟩, forall_mem_nil _⟩

/-- A value that a statement is read from is sorted as the members of the statement. -/
theorem statementOf_eq_ok (distinct : value.distinct) (read : statementOf value = .ok statement) :
    ∃ digest, statement.statementDigest = .ok digest ∧
      sortMembers value = .obj (statementMembers statement.toChainTipFields digest) := by
  simp only [statementOf, bind_eq_ok, exists_unit_iff, raiseIf_eq_ok, pure_eq_ok_iff, not_or, Bool.not_eq_false] at read
  obtain ⟨record, shaped, schema, schemaFound, ledger, ledgerFound, ⟨schemaText, ledgerText⟩, fields, fieldsRead, made,
    constructed, claimed, claimedFound, digest, hashed, agrees, rfl⟩ := read
  obtain ⟨rfl, known⟩ := exactObject_eq_ok shaped
  have sameFields : made.toChainTipFields = fields := by
    obtain ⟨_, rfl⟩ := construct_eq_ok.mp constructed
    rfl
  simp only [statementFields, bind_eq_ok, pure_eq_ok_iff] at fieldsRead
  obtain ⟨databaseValue, databaseFound, database, databaseText, artifactValue, artifactFound, artifact, artifactText,
    sequenceValue, sequenceFound, sequence, sequenceRead, idValue, idFound, id, idText, hashValue, hashFound, hash,
    hashText, observedValue, observedFound, observed, observedRead, rfl⟩ := fieldsRead
  rw [eq_str_of_textOf databaseText] at databaseFound
  rw [eq_str_of_textOf artifactText] at artifactFound
  rw [eq_int_of_integerOf sequenceRead] at sequenceFound
  rw [eq_str_of_textOf idText] at idFound
  rw [eq_str_of_textOf hashText] at hashFound
  rw [eq_str_of_timestampOf observedRead] at observedFound
  rw [eq_str_of_isText schemaText] at schemaFound
  rw [eq_str_of_isText ledgerText] at ledgerFound
  rw [eq_str_of_isText agrees] at claimedFound
  refine ⟨digest, hashed, ?_⟩
  rw [sameFields]
  have found : StatementLookups record ⟨database, artifact, sequence, id, hash, observed⟩ digest :=
    ⟨artifactFound, databaseFound, hashFound, idFound, ledgerFound, observedFound, sequenceFound, schemaFound, claimedFound⟩
  exact found.sorted distinct.1 known

end Statements

section Envelopes

open DecodedCheckpointEnvelope

variable {envelope : DecodedCheckpointEnvelope} {digest : Text}

/-- Every member of an envelope is found under its name, the statement up to the order of its members. -/
structure EnvelopeLookups (root : List (Text × Json)) (envelope : DecodedCheckpointEnvelope) (digest : Text) : Prop where
  algorithm : memberOf root (ascii "algorithm") = .ok (.str auditCheckpointAlgorithm)
  expiresAt : memberOf root (ascii "expiresAt") = .ok (.str (formatTimestamp envelope.expiresAt))
  keyId : memberOf root (ascii "keyId") = .ok (.str envelope.keyId)
  schemaVersion : memberOf root (ascii "schemaVersion") = .ok (.str auditCheckpointEnvelopeSchema)
  signature : memberOf root (ascii "signature") = .ok (.str envelope.signature)
  signedAt : memberOf root (ascii "signedAt") = .ok (.str (formatTimestamp envelope.signedAt))
  statement : ∃ value, memberOf root (ascii "statement") = .ok value ∧
    sortMembers value = .obj (statementMembers envelope.statement.toChainTipFields digest)

theorem EnvelopeLookups.sorted {root : List (Text × Json)} (found : EnvelopeLookups root envelope digest)
    (names : (root.map Prod.fst).Nodup) (known : ∀ key ∈ root.map Prod.fst, key ∈ envelopeKeys) :
    sortMembers (.obj root) = .obj (envelopeMembers envelope digest) := by
  obtain ⟨value, statement, same⟩ := found.statement
  rw [← sortMembers_envelope]
  refine sortMembers_of_lookups names envelopeKeys_nodup known ?_
  simp only [envelopeMembers, forall_mem_cons]
  exact ⟨⟨_, find_of_memberOf found.algorithm, rfl⟩, ⟨_, find_of_memberOf found.expiresAt, rfl⟩,
    ⟨_, find_of_memberOf found.keyId, rfl⟩, ⟨_, find_of_memberOf found.schemaVersion, rfl⟩,
    ⟨_, find_of_memberOf found.signature, rfl⟩, ⟨_, find_of_memberOf found.signedAt, rfl⟩,
    ⟨_, find_of_memberOf statement, same.trans sortMembers_statement.symm⟩, forall_mem_nil _⟩

/-- An envelope with checked fields is encoded as the line of its members. -/
theorem encode_eq_ok {bytes : List Nat} : encodeAuditCheckpointEnvelope envelope = .ok bytes ↔
      validateEnvelopeFields envelope.keyId envelope.signedAt envelope.expiresAt = .ok () ∧
        requireSignature envelope.signature = .ok () ∧ ∃ digest, envelope.statement.statementDigest = .ok digest ∧
          ∃ written, canonicalJson (.obj (envelopeMembers envelope digest)) (some checkpointJsonLimits) = .ok written ∧
            written ++ [0x0A] = bytes := by
  have reordered : ∀ digest, sortMembers (.obj ([
        (ascii "algorithm", .str auditCheckpointAlgorithm),
        (ascii "expiresAt", .str (formatTimestamp envelope.expiresAt)),
        (ascii "keyId", .str envelope.keyId),
        (ascii "schemaVersion", .str auditCheckpointEnvelopeSchema),
        (ascii "signedAt", .str (formatTimestamp envelope.signedAt)),
        (ascii "statement", .obj (statementMembers envelope.statement.toChainTipFields digest))] ++
          [(ascii "signature", .str envelope.signature)])) =
      sortMembers (.obj (envelopeMembers envelope digest)) := by
    intro digest
    refine sortMembers_obj_congr (show [ascii "algorithm", ascii "expiresAt", ascii "keyId", ascii "schemaVersion",
      ascii "signedAt", ascii "statement", ascii "signature"].Nodup by decide) envelopeKeys_nodup ?_ ?_
    all_goals
      intro member inside
      refine ⟨member, ?_, rfl, rfl⟩
      simp only [envelopeMembers, cons_append, nil_append, mem_cons] at inside ⊢
      tauto
  simp only [encodeAuditCheckpointEnvelope, unsignedMapping, toMapping, bind_eq_ok, exists_unit_iff, pure_eq_ok_iff]
  constructor
  · rintro ⟨fields, signature, _, ⟨_, ⟨digest, hashed, rfl⟩, rfl⟩, written, wrote, line⟩
    exact ⟨fields, signature, digest, hashed, written, (canonicalJson_congr (reordered digest)).symm.trans wrote, line⟩
  · rintro ⟨fields, signature, digest, hashed, written, wrote, line⟩
    exact ⟨fields, signature, _, ⟨_, ⟨digest, hashed, rfl⟩, rfl⟩, written,
      (canonicalJson_congr (reordered digest)).trans wrote, line⟩

theorem envelopeLookups (envelope : DecodedCheckpointEnvelope) (digest : Text) :
    EnvelopeLookups (envelopeMembers envelope digest) envelope digest := by
  have found : ∀ member ∈ envelopeMembers envelope digest, memberOf (envelopeMembers envelope digest) member.1 = .ok member.2 :=
    fun member inside => memberOf_of_mem envelopeKeys_nodup inside
  simp only [envelopeMembers, forall_mem_cons] at found
  obtain ⟨algorithm, expires, key, schema, signature, signed, statement, _⟩ := found
  exact ⟨algorithm, expires, key, schema, signature, signed, _, statement, sortMembers_statement⟩

/-- The members of an envelope with checked fields lead back to it. -/
theorem envelopeOf_members (fields : validateEnvelopeFields envelope.keyId envelope.signedAt envelope.expiresAt = .ok ())
    (signed : requireSignature envelope.signature = .ok ()) (hashed : envelope.statement.statementDigest = .ok digest) :
    envelopeOf (envelopeMembers envelope digest) = .ok envelope := by
  have found := envelopeLookups envelope digest
  have statement : memberOf (envelopeMembers envelope digest) (ascii "statement") =
      .ok (.obj (statementMembers envelope.statement.toChainTipFields digest)) :=
    memberOf_of_mem envelopeKeys_nodup (by simp [envelopeMembers])
  have identified : ¬ (isText (.str auditCheckpointEnvelopeSchema) auditCheckpointEnvelopeSchema = false ∨
      isText (.str auditCheckpointAlgorithm) auditCheckpointAlgorithm = false) := by
    simp [isText]
  have checked := fields
  simp only [validateEnvelopeFields, bind_eq_ok, exists_unit_iff, raiseIf_eq_ok, not_or, not_lt, not_not] at checked
  obtain ⟨⟨filled, short, _⟩, signedWhole, expiresWhole, _⟩ := checked
  have length : envelope.signature.length = 86 := not_not.mp (raiseIf_eq_ok.mp signed)
  rw [envelopeOf, found.schemaVersion, ok_bind_eq, found.algorithm, ok_bind_eq]
  refine bind_unit_eq_ok.mpr ⟨raiseIf_eq_ok.mpr identified, ?_⟩
  rw [statement, ok_bind_eq, statementOf_members hashed, ok_bind_eq, found.keyId, ok_bind_eq, textOf_str filled short,
    ok_bind_eq, found.signedAt, ok_bind_eq, timestampOf_format signedWhole, ok_bind_eq, found.expiresAt, ok_bind_eq,
    timestampOf_format expiresWhole, ok_bind_eq, found.signature, ok_bind_eq, textOf_str (by omega) (by omega), ok_bind_eq,
    fields, ok_bind_eq, signed, ok_bind_eq]
  rfl

/-- A record that an envelope is read from is sorted as the members of the envelope. -/
theorem envelopeOf_eq_ok {root : List (Text × Json)} (distinct : (Json.obj root).distinct)
    (known : ∀ key ∈ root.map Prod.fst, key ∈ envelopeKeys) (read : envelopeOf root = .ok envelope) :
    validateEnvelopeFields envelope.keyId envelope.signedAt envelope.expiresAt = .ok () ∧
      requireSignature envelope.signature = .ok () ∧ ∃ digest, envelope.statement.statementDigest = .ok digest ∧
        sortMembers (.obj root) = .obj (envelopeMembers envelope digest) := by
  simp only [envelopeOf, bind_eq_ok, exists_unit_iff, raiseIf_eq_ok, pure_eq_ok_iff, not_or, Bool.not_eq_false] at read
  obtain ⟨schema, schemaFound, algorithm, algorithmFound, ⟨schemaText, algorithmText⟩, value, valueFound, statement,
    statementRead, keyValue, keyFound, key, keyText, signedValue, signedFound, signedAt, signedRead, expiresValue,
    expiresFound, expiresAt, expiresRead, signatureValue, signatureFound, signature, signatureText, fields, required,
    rfl⟩ := read
  rw [Json.distinct, Json.distinctMembers_iff] at distinct
  have inner : value.distinct :=
    distinct.2 (ascii "statement", value) (Dictionary.mem_of_find (find_of_memberOf valueFound))
  obtain ⟨digest, hashed, sorted⟩ := statementOf_eq_ok inner statementRead
  rw [eq_str_of_isText schemaText] at schemaFound
  rw [eq_str_of_isText algorithmText] at algorithmFound
  rw [eq_str_of_textOf keyText] at keyFound
  rw [eq_str_of_timestampOf signedRead] at signedFound
  rw [eq_str_of_timestampOf expiresRead] at expiresFound
  rw [eq_str_of_textOf signatureText] at signatureFound
  have found : EnvelopeLookups root ⟨key, signedAt, expiresAt, statement, signature⟩ digest :=
    ⟨algorithmFound, expiresFound, keyFound, schemaFound, signatureFound, signedFound, value, valueFound, sorted⟩
  exact ⟨fields, required, digest, hashed, found.sorted distinct.1 known⟩

/-- What is written for an envelope is small. -/
theorem byteBound_envelope (fields : validateEnvelopeFields envelope.keyId envelope.signedAt envelope.expiresAt = .ok ())
    (signed : requireSignature envelope.signature = .ok ()) (hashed : envelope.statement.statementDigest = .ok digest) :
    byteBound (.obj (envelopeMembers envelope digest)) < maxAuditCheckpointBytes := by
  have valid := validTip envelope.statement
  have identity := length_of_isSha256Hex valid.databaseIdentity
  have event := length_of_isSha256Hex valid.eventHash
  have claimed := length_of_isSha256Hex (isSha256Hex_of_hashObject hashed)
  have artifact := valid.artifact_length
  have eventId := valid.eventId_length
  have observed := length_formatTimestamp envelope.statement.observedAt
  have signedAt := length_formatTimestamp envelope.signedAt
  have expiresAt := length_formatTimestamp envelope.expiresAt
  have length : envelope.signature.length = 86 := not_not.mp (raiseIf_eq_ok.mp signed)
  simp only [validateEnvelopeFields, bind_eq_ok, exists_unit_iff, raiseIf_eq_ok, not_or, not_lt] at fields
  obtain ⟨⟨_, short, _⟩, _⟩ := fields
  have texts : auditEventSchemaVersion.length ≤ 128 ∧ auditCheckpointStatementSchema.length ≤ 128 ∧
      auditCheckpointAlgorithm.length ≤ 128 ∧ auditCheckpointEnvelopeSchema.length ≤ 128 := by decide
  have text : ∀ value : Text, value.length ≤ 128 → byteBound (.str value) ≤ 770 := by
    intro value bounded
    rw [byteBound]
    omega
  have sequence : byteBound (.int envelope.statement.retainedSequence) ≤ 770 := by
    have safe : envelope.statement.retainedSequence.natAbs ≤ maxSafeJsonInteger := of_decide_eq_true valid.safe
    have digits := length_decimal_le safe
    have bytes := length_utf8_le (decimalInt envelope.statement.retainedSequence)
    have mark : (ascii "-").length = 1 := by decide
    have short : (decimalInt envelope.statement.retainedSequence).length ≤ 17 := by
      rw [decimalInt]
      split
      · rw [length_append]
        omega
      · omega
    rw [byteBound]
    omega
  have statementNames : ∀ key ∈ statementKeys, key.length ≤ 32 := by decide
  have envelopeNames : ∀ key ∈ envelopeKeys, key.length ≤ 32 := by decide
  have statement : byteBound (.obj (statementMembers envelope.statement.toChainTipFields digest)) ≤ 8700 := by
    have inside : ∀ member ∈ statementMembers envelope.statement.toChainTipFields digest, byteBound member.2 ≤ 770 := by
      simp only [statementMembers, identityMapping, cons_append, nil_append, forall_mem_cons]
      exact ⟨text _ (by omega), text _ (by omega), text _ (by omega), text _ (by omega), text _ texts.1, text _ (by omega),
        sequence, text _ texts.2.1, text _ (by omega), forall_mem_nil _⟩
    have total := byteBoundMembers_le fun member found =>
      ⟨statementNames member.1 (mem_map_of_mem found), inside member found⟩
    have count : (statementMembers envelope.statement.toChainTipFields digest).length = 9 := rfl
    rw [byteBound]
    omega
  have inside : ∀ member ∈ envelopeMembers envelope digest, byteBound member.2 ≤ 8700 := by
    have wide : ∀ value : Text, value.length ≤ 128 → byteBound (.str value) ≤ 8700 := fun value bounded =>
      (text value bounded).trans (by decide)
    simp only [envelopeMembers, forall_mem_cons]
    exact ⟨wide _ texts.2.2.1, wide _ (by omega), wide _ short, wide _ texts.2.2.2, wide _ (by omega), wide _ (by omega),
      statement, forall_mem_nil _⟩
  have total := byteBoundMembers_le fun member found =>
    ⟨envelopeNames member.1 (mem_map_of_mem found), inside member found⟩
  have count : (envelopeMembers envelope digest).length = 7 := rfl
  rw [byteBound, maxAuditCheckpointBytes]
  omega

/-- An envelope whose fields can be written. -/
structure Admissible (envelope : DecodedCheckpointEnvelope) : Prop where
  fields : validateEnvelopeFields envelope.keyId envelope.signedAt envelope.expiresAt = .ok ()
  signed : requireSignature envelope.signature = .ok ()
  scalar : envelope.signature.scalar = true

theorem scalar_of_isLowerHex {text : Text} (lower : text.all CodePoint.isLowerHex = true) : text.scalar = true := by
  rw [Text.scalar, all_eq_true]
  intro point inside
  rw [isSurrogate_of_isLowerHex (all_eq_true.mp lower point inside)]
  rfl

theorem scalar_of_take {text : Text} {count : Nat} (head : Text.scalar (text.take count) = true)
    (tail : Text.scalar (text.drop count) = true) : text.scalar = true := by
  rw [Text.scalar] at head tail ⊢
  rw [← take_append_drop count text, all_append, head, tail, Bool.and_self]

/-- Everything that identifies a statement can be written. -/
theorem admissible_identity (statement : AuditChainTipStatement) :
    ∀ member ∈ statement.identityMapping, (member.1.scalar && admissible member.2) = true := by
  have valid := validTip statement
  have artifact : statement.artifactDigest.scalar = true := by
    have checked := valid.artifact
    rw [isArtifactDigest, Bool.and_eq_true, decide_eq_true_eq] at checked
    refine scalar_of_take ?_ (scalar_of_isSha256Hex checked.2)
    rw [checked.1]
    decide
  have eventId : statement.lastEventId.scalar = true := by
    have checked := valid.eventId
    rw [isEventId, Bool.and_eq_true, Bool.and_eq_true, decide_eq_true_eq, decide_eq_true_eq] at checked
    refine scalar_of_take ?_ (scalar_of_isLowerHex checked.2)
    rw [checked.1.1]
    decide
  have safe : statement.retainedSequence.natAbs ≤ maxSafeJsonInteger := of_decide_eq_true valid.safe
  have schemas : auditEventSchemaVersion.scalar = true ∧ auditCheckpointStatementSchema.scalar = true := by decide
  have names : ∀ key ∈ statementKeys, key.scalar = true := by decide
  have values : ∀ member ∈ statement.identityMapping, admissible member.2 = true := by
    simp only [identityMapping, forall_mem_cons, admissible_int, decide_eq_true_eq]
    exact ⟨artifact, scalar_of_isSha256Hex valid.databaseIdentity, scalar_of_isSha256Hex valid.eventHash, eventId,
      schemas.1, scalar_formatTimestamp _, safe, schemas.2, forall_mem_nil _⟩
  intro member inside
  have name : member.1 ∈ statementKeys := by
    have whole : member ∈ statementMembers statement.toChainTipFields [] := mem_append_left _ inside
    exact mem_map_of_mem whole
  rw [values member inside, names member.1 name, Bool.and_self]

/-- Everything that a statement writes can be written. -/
theorem admissible_statement (hashed : envelope.statement.statementDigest = .ok digest) :
    admissible (.obj (statementMembers envelope.statement.toChainTipFields digest)) = true := by
  have name : (ascii "statementDigest").scalar = true := by decide
  rw [admissible_obj_iff]
  intro member inside
  rcases mem_append.mp inside with identity | claimed
  · exact admissible_identity envelope.statement member identity
  · rw [mem_singleton.mp claimed, admissible_str, name, scalar_of_isSha256Hex (isSha256Hex_of_hashObject hashed), Bool.and_self]

theorem admissible_envelope (admissibleEnvelope : Admissible envelope)
    (hashed : envelope.statement.statementDigest = .ok digest) :
    admissible (.obj (envelopeMembers envelope digest)) = true := by
  have fields := admissibleEnvelope.fields
  simp only [validateEnvelopeFields, bind_eq_ok, exists_unit_iff, raiseIf_eq_ok, not_or, not_exists, not_and, not_not] at fields
  have alphabet : keyIdAlphabet.scalar = true := by decide +kernel
  have key : envelope.keyId.scalar = true := by
    rw [Text.scalar, all_eq_true]
    intro character inside
    rw [Text.scalar, all_eq_true] at alphabet
    exact alphabet character (fields.1.2.2 character inside)
  have names : ∀ name ∈ envelopeKeys, name.scalar = true := by decide
  have texts : auditCheckpointAlgorithm.scalar = true ∧ auditCheckpointEnvelopeSchema.scalar = true := by decide
  have values : ∀ member ∈ envelopeMembers envelope digest, admissible member.2 = true := by
    simp only [envelopeMembers, forall_mem_cons, admissible_str]
    exact ⟨texts.1, scalar_formatTimestamp _, key, texts.2, admissibleEnvelope.scalar, scalar_formatTimestamp _,
      admissible_statement hashed, forall_mem_nil _⟩
  rw [admissible_obj_iff]
  intro member inside
  rw [values member inside, names member.1 (mem_map_of_mem inside), Bool.and_self]

theorem admit_envelope : checkpointJsonLimits.Admit (Json.tree (.obj (envelopeMembers envelope digest))) := by
  constructor
  · simp [envelopeMembers, statementMembers, identityMapping, Json.tree, Json.treeMembers, valueDepth,
      depthMembers, checkpointJsonLimits]
  · simp [envelopeMembers, statementMembers, identityMapping, Json.tree, Json.treeMembers, valueCount,
      countMembers, checkpointJsonLimits]

theorem nesting_envelope : nesting (Json.tree (.obj (envelopeMembers envelope digest))) = 2 := by
  simp [envelopeMembers, statementMembers, identityMapping, Json.tree, Json.treeMembers, nesting, nestingMembers]

theorem exact_envelope : (Json.obj (envelopeMembers envelope digest)).Exact := by
  simp [envelopeMembers, statementMembers, identityMapping]

theorem distinct_envelope : (Json.obj (envelopeMembers envelope digest)).distinct := by
  have inner : (Json.obj (statementMembers envelope.statement.toChainTipFields digest)).distinct := by
    rw [Json.distinct, Json.distinctMembers_iff]
    refine ⟨statementKeys_nodup, ?_⟩
    simp [statementMembers, identityMapping, Json.distinct]
  rw [Json.distinct, Json.distinctMembers_iff]
  refine ⟨envelopeKeys_nodup, ?_⟩
  simp only [envelopeMembers, forall_mem_cons]
  exact ⟨trivial, trivial, trivial, trivial, trivial, trivial, inner, forall_mem_nil _⟩

variable [Interpreter] {bytes : List Nat}

/-- The bytes of an envelope are decoded as the envelope. -/
theorem decode_of_encode (nests : 2 ≤ Interpreter.jsonRecursionLimit)
    (encoded : encodeAuditCheckpointEnvelope envelope = .ok bytes) : decodeEnvelope bytes = .ok envelope := by
  obtain ⟨fields, signed, digest, hashed, written, wrote, rfl⟩ := encode_eq_ok.mp encoded
  have passed := admissible_of_canonicalJson wrote
  have small : checkpointJsonLimits.Admit (sortMembers (.obj (envelopeMembers envelope digest))).tree := by
    exact admit_envelope
  have text := Except.ok.inj (wrote.symm.trans (canonicalJson_within passed small))
  rw [sortMembers_envelope] at text
  have fits : (documentLine (.obj (envelopeMembers envelope digest))).length ≤ maxAuditCheckpointBytes := by
    have bound := byteBound_envelope fields signed hashed
    have size := length_render_le (.obj (envelopeMembers envelope digest))
    rw [documentLine, length_append, length_singleton]
    omega
  have loaded : loadLimitedJson (written ++ [0x0A]) maxAuditCheckpointBytes checkpointJsonLimits =
      .ok (.obj (envelopeMembers envelope digest)) := by
    rw [text]
    exact loadLimitedJson_line exact_envelope passed distinct_envelope fits (by rw [nesting_envelope]; exact nests) admit_envelope
  rw [decodeEnvelope, loaded, ok_bind_eq, exactObject_self envelopeMembers_keys, ok_bind_eq, wrote, ok_bind_eq]
  exact bind_unit_eq_ok.mpr ⟨raiseIf_eq_ok.mpr (not_not.mpr rfl), envelopeOf_members fields signed hashed⟩

/-- Only the bytes of an envelope are decoded as the envelope. -/
theorem encode_of_decode (decoded : decodeEnvelope bytes = .ok envelope) :
    encodeAuditCheckpointEnvelope envelope = .ok bytes := by
  simp only [decodeEnvelope, bind_eq_ok, exists_unit_iff, raiseIf_eq_ok, not_not] at decoded
  obtain ⟨document, loaded, root, shaped, written, wrote, line, read⟩ := decoded
  have distinct := loadLimitedJson_distinct loaded
  obtain ⟨rfl, known⟩ := exactObject_eq_ok shaped
  obtain ⟨fields, signed, digest, hashed, sorted⟩ := envelopeOf_eq_ok distinct known read
  refine encode_eq_ok.mpr ⟨fields, signed, digest, hashed, written, ?_, line⟩
  rw [← wrote]
  exact canonicalJson_congr (sortMembers_envelope.trans sorted.symm)

omit [Interpreter] in
/-- Every admissible envelope is encoded. -/
theorem encode_total (admissibleEnvelope : Admissible envelope) :
    ∃ bytes, encodeAuditCheckpointEnvelope envelope = .ok bytes := by
  obtain ⟨digest, hashed, _⟩ := hashObject_total (admissible_obj_iff.mpr (admissible_identity envelope.statement))
  have small : checkpointJsonLimits.Admit (sortMembers (.obj (envelopeMembers envelope digest))).tree := by
    exact admit_envelope
  exact ⟨_, encode_eq_ok.mpr ⟨admissibleEnvelope.fields, admissibleEnvelope.signed, digest, hashed, _,
    canonicalJson_within (admissible_envelope admissibleEnvelope hashed) small, rfl⟩⟩

/-- An envelope is encoded exactly as the bytes that it is decoded from, and every admissible envelope is encoded. -/
theorem checkpoint_envelope_codec (nests : 2 ≤ Interpreter.jsonRecursionLimit) (envelope : DecodedCheckpointEnvelope) :
    (Admissible envelope → ∃ bytes, encodeAuditCheckpointEnvelope envelope = .ok bytes) ∧
      ∀ bytes, encodeAuditCheckpointEnvelope envelope = .ok bytes ↔ decodeEnvelope bytes = .ok envelope :=
  ⟨encode_total, fun _ => ⟨decode_of_encode nests, encode_of_decode⟩⟩

end Envelopes

namespace CheckpointSample

abbrev host : Interpreter :=
  ⟨64⟩

def zeros (count : Nat) : Text :=
  List.replicate count 0x30

theorem observed : 0 < instantLimit := by
  decide

theorem expired : 1000 < instantLimit := by
  decide

def tip : ChainTipFields where
  databaseIdentityDigest := zeros 64
  artifactDigest := ascii "sha256:" ++ zeros 64
  retainedSequence := 1
  lastEventId := ascii "audit_" ++ zeros 32
  lastEventHash := zeros 64
  observedAt := ⟨0, observed⟩

theorem tip_constructed : tip.postInit = .ok () := by
  decide +kernel

def envelope : DecodedCheckpointEnvelope where
  keyId := keyIdAlphabet
  signedAt := ⟨0, observed⟩
  expiresAt := ⟨1000, expired⟩
  statement := ⟨tip, tip_constructed⟩
  signature := zeros 86

theorem admissible : Admissible envelope := by
  refine ⟨?_, by decide +kernel, by decide +kernel⟩
  have length : keyIdAlphabet.length = 65 := by decide +kernel
  have key : ¬ (keyIdAlphabet.length < 1 ∨ 128 < keyIdAlphabet.length ∨
      ∃ character ∈ keyIdAlphabet, character ∉ keyIdAlphabet) := by
    rintro (short | long | ⟨character, inside, outside⟩)
    · omega
    · omega
    · exact outside inside
  refine bind_unit_eq_ok.mpr ⟨raiseIf_eq_ok.mpr key, bind_unit_eq_ok.mpr ⟨raiseIf_eq_ok.mpr (by decide), ?_⟩⟩
  exact bind_unit_eq_ok.mpr ⟨raiseIf_eq_ok.mpr (by decide), raiseIf_eq_ok.mpr (by decide)⟩

end CheckpointSample

theorem checkpoint_envelope_codec_sample : ∃ bytes,
    DecodedCheckpointEnvelope.encodeAuditCheckpointEnvelope CheckpointSample.envelope = .ok bytes ∧
      @decodeEnvelope CheckpointSample.host bytes = .ok CheckpointSample.envelope := by
  obtain ⟨total, same⟩ := @checkpoint_envelope_codec CheckpointSample.host (by decide) CheckpointSample.envelope
  obtain ⟨bytes, written⟩ := total CheckpointSample.admissible
  exact ⟨bytes, written, (same bytes).mp written⟩

end CiCoordinator.AuditReplay

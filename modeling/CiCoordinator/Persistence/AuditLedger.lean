import CiCoordinator.AuditReplay.Chain
import CiCoordinator.Library.Epoch

/- The stored audit ledger with the reads of its head and of its pages. -/

namespace CiCoordinator.Persistence

open Library Kernel AuditReplay List

def auditReplayPageSize : Nat :=
  16

/-- The errors of a read. -/
inductive AuditStoreError where
  | persistenceInvariantViolation (message : Text)
  | storeUnavailable (message : Text)
  | host (error : PyError)
  deriving DecidableEq

abbrev AuditStore := Except AuditStoreError

/-- A stored event, with the digest of its idempotency key. -/
structure AuditEventRow extends AuditEventRecord where
  idempotencyKeyDigest : Text

structure AuditLedgerHead where
  revision : Int
  lastSequence : Option Int
  lastEventHash : Option Text
  deriving DecidableEq

/-- The table of events has its primary key and its check on the sequence, and its head is at most one row. -/
structure AuditLedger where
  rows : List AuditEventRow
  head : Option AuditLedgerHead
  keyed : Keyed (·.sequence) rows
  positive : ∀ row ∈ rows, 1 ≤ row.sequence

structure AuditLedgerSnapshotFields where
  lastSequence : Int
  lastEventHash : Option Text
  maximumSequence : Option Int
  deriving DecidableEq

def AuditLedgerSnapshotFields.postInit (self : AuditLedgerSnapshotFields) : Py Unit := do
  valueErrorIf (¬ (0 ≤ self.lastSequence ∧ self.lastSequence ≤ maxSafeJsonInteger))
    (ascii "audit snapshot sequence is outside its admitted interval")
  if self.lastSequence = 0 then
    valueErrorIf (self.lastEventHash ≠ none) (ascii "empty audit snapshot cannot have a head hash")
  else
    valueErrorIf (self.lastEventHash.any isSha256Hex = false) (ascii "non-empty audit snapshot requires a valid head hash")
  valueErrorIf (∃ maximum ∈ self.maximumSequence, ¬ (1 ≤ maximum ∧ maximum ≤ maxSafeJsonInteger))
    (ascii "audit snapshot maximum sequence is outside its admitted interval")

/-- A value that cannot be built is a broken invariant of the store. -/
def invariantOf {A : Type} (message : Text) : Py A → AuditStore A
  | .ok value => .ok value
  | .error _ => .error (.persistenceInvariantViolation message)

/-- What is known of the ledger when its head is read. -/
structure AuditLedgerSnapshot extends AuditLedgerSnapshotFields where
  admitted : toAuditLedgerSnapshotFields.postInit = .ok ()

namespace AuditLedger

def maximumSequence (ledger : AuditLedger) : Option Int :=
  (ledger.rows.map (·.sequence)).max?

/-- The events in the order of their numbers. -/
def inOrder (ledger : AuditLedger) : List AuditEventRow :=
  sortBy (·.sequence) ledger.rows

/-- The ledger is extended by events with later numbers; its head may be any. -/
def Grows (before after : AuditLedger) : Prop :=
  Extends (·.sequence) before.rows after.rows

def snapshot (ledger : AuditLedger) : AuditStore AuditLedgerSnapshot :=
  match ledger.head with
  | none => .error (.persistenceInvariantViolation (ascii "audit ledger head is missing"))
  | some head => do
    raiseIf (head.lastSequence ≠ if head.revision = 0 then none else some head.revision)
      (.persistenceInvariantViolation (ascii "audit ledger head sequence is inconsistent"))
    raiseIf (∃ digest ∈ head.lastEventHash, isSha256Hex digest = false)
      (.persistenceInvariantViolation (ascii "audit ledger head hash is invalid"))
    invariantOf (ascii "audit ledger snapshot is invalid")
      (construct (AuditLedgerSnapshotFields.postInit ⟨head.revision, head.lastEventHash, ledger.maximumSequence⟩)
        fun admitted => AuditLedgerSnapshot.mk _ admitted)

end AuditLedger

/-- A stored text is not empty and not longer than its column. -/
def boundedTextField (value key : Text) : Audit Unit :=
  raiseIf (¬ (1 ≤ value.utf8.length ∧ value.utf8.length ≤ maxAuditTextUtf8Bytes))
    (.host (.valueError (key ++ ascii " is outside its byte interval")))

def hashField (value key : Text) : Audit Unit :=
  raiseIf (isSha256Hex value = false) (.host (.valueError (key ++ ascii " is not a SHA-256 digest")))

def optionalHashField (value : Option Text) (key : Text) : Audit Unit :=
  match value with
  | none => .ok ()
  | some digest => hashField digest key

def readRow [Interpreter] (row : AuditEventRow) : Audit AuditEventRecord := do
  boundedTextField row.idempotencyKey (ascii "idempotency_key")
  boundedTextField row.subjectId (ascii "subject_id")
  boundedTextField row.eventType (ascii "event_type")
  boundedTextField row.actor (ascii "actor")
  let _ ← canonicalAuditPayloadBytes row.payload (ascii "payload")
  raiseIf (row.idempotencyKeyDigest ≠ sha256Hex row.idempotencyKey.utf8)
    (.host (.valueError (ascii "idempotency key digest does not match stored key")))
  optionalHashField row.previousEventHash (ascii "previous_event_hash")
  hashField row.payloadHash (ascii "payload_hash")
  hashField row.inputHash (ascii "input_hash")
  hashField row.eventHash (ascii "event_hash")
  auditEventFromSnapshot row.toAuditEventRecord

/-- A row that does not read back is a broken invariant of the store. -/
def unreadable : AuditRaise → AuditStoreError
  | .host (.runtimeError message) => .host (.runtimeError message)
  | _ => .persistenceInvariantViolation (ascii "stored audit event is invalid")

def rowToRecord [Interpreter] (row : AuditEventRow) : AuditStore AuditEventRecord :=
  match readRow row with
  | .ok record => .ok record
  | .error failure => .error (unreadable failure)

/-- The events after a number and up to another, as many as a page holds. -/
def AuditLedger.loadPage [Interpreter] (ledger : AuditLedger) (afterSequence throughSequence : Int) (limit : Nat) :
    AuditStore (List AuditEventRecord) := do
  raiseIf (¬ (1 ≤ limit ∧ limit ≤ auditReplayPageSize))
    (.persistenceInvariantViolation (ascii "audit replay page limit is invalid"))
  raiseIf (afterSequence < 0 ∨ throughSequence < afterSequence)
    (.persistenceInvariantViolation (ascii "audit replay page bounds are invalid"))
  collect rowToRecord ((rowsBetween (·.sequence) afterSequence throughSequence ledger.rows).take limit)

theorem sequence_of_row [Interpreter] {row : AuditEventRow} {record : AuditEventRecord}
    (read : rowToRecord row = .ok record) : record.sequence = row.sequence := by
  rw [rowToRecord] at read
  cases computed : readRow row with
  | error failure =>
    rw [computed] at read
    cases read
  | ok found =>
    rw [computed] at read
    obtain rfl := Except.ok.inj read
    simp only [readRow, bind_eq_ok] at computed
    obtain ⟨_, _, _, _, _, _, _, _, _, _, _, _, _, _, _, _, _, _, _, _, final⟩ := computed
    exact sequence_of_snapshot final

namespace AuditLedger

/-- A snapshot freezes a ledger whose last event it numbers. -/
def Frozen (ledger : AuditLedger) (lastSequence : Int) : Prop :=
  (ledger.rows = [] ∧ lastSequence = 0) ∨
    ∃ top ∈ ledger.rows, top.sequence = lastSequence ∧ ∀ row ∈ ledger.rows, row.sequence ≤ lastSequence

theorem inOrder_increasing (ledger : AuditLedger) : Increasing (·.sequence) ledger.inOrder :=
  sortBy_increasing (List.Nodup.of_map _ ledger.keyed) fun _ leftMember _ rightMember equal =>
    inj_on_of_nodup_map ledger.keyed leftMember rightMember equal

/-- A snapshot numbers its ledger by the numbers of the rows. -/
theorem snapshot_eq_ok {ledger : AuditLedger} {snapshot : AuditLedgerSnapshot} (read : ledger.snapshot = .ok snapshot) :
    snapshot.maximumSequence = ledger.maximumSequence ∧ 0 ≤ snapshot.lastSequence := by
  rw [AuditLedger.snapshot] at read
  split at read
  · cases read
  · rename_i head _
    obtain ⟨_, _, read⟩ := bind_eq_ok.mp read
    obtain ⟨_, _, read⟩ := bind_eq_ok.mp read
    cases built : construct (AuditLedgerSnapshotFields.postInit
        ⟨head.revision, head.lastEventHash, ledger.maximumSequence⟩) fun admitted => AuditLedgerSnapshot.mk _ admitted with
    | error failure =>
      rw [built] at read
      cases read
    | ok found =>
      rw [built] at read
      obtain rfl := Except.ok.inj read
      obtain ⟨admitted, rfl⟩ := construct_eq_ok.mp built
      refine ⟨rfl, ?_⟩
      have checked := admitted
      obtain ⟨_, range, _⟩ := bind_eq_ok.mp checked
      exact (not_not.mp (raiseIf_eq_ok.mp range)).1

/-- The greatest number of the rows freezes the ledger. -/
theorem frozen_of_maximum {ledger : AuditLedger} {lastSequence : Int}
    (maximum : ledger.maximumSequence = if lastSequence = 0 then none else some lastSequence) :
    ledger.Frozen lastSequence := by
  by_cases zero : lastSequence = 0
  · rw [if_pos zero, maximumSequence, max?_eq_none_iff, map_eq_nil_iff] at maximum
    exact .inl ⟨maximum, zero⟩
  · rw [if_neg zero, maximumSequence, max?_eq_some_iff] at maximum
    obtain ⟨inside, greatest⟩ := maximum
    obtain ⟨top, member, equal⟩ := mem_map.mp inside
    exact .inr ⟨top, member, equal, fun row present => greatest _ (mem_map_of_mem present)⟩

/-- The first page of a frozen ledger is the same in every ledger that it grows to. -/
theorem rowsBetween_frozen {frozen ledger : AuditLedger} {lastSequence : Int} (freezes : frozen.Frozen lastSequence)
    (grown : frozen.Grows ledger) (some : 0 < lastSequence) (lower : Int) :
    rowsBetween (·.sequence) lower lastSequence ledger.rows = rowsBetween (·.sequence) lower lastSequence frozen.rows := by
  rcases freezes with ⟨_, zero⟩ | ⟨top, member, rfl, _⟩
  · omega
  · exact rowsBetween_of_extends grown member lower

end AuditLedger

end CiCoordinator.Persistence

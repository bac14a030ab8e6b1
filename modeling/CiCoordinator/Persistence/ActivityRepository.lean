import CiCoordinator.ControlPlaneIdentity.ActivityCursor
import CiCoordinator.Library.Keyset

/- The reads of the journal and of the references of the audit ledger, one page at a time. -/

namespace CiCoordinator.Persistence

open Library Kernel ConfigControl ControlPlaneIdentity

structure ActivityEventFields where
  sequence : Int
  occurredAt : Instant
  retainUntil : Instant
  issuer : Text
  subject : Text
  actor : Text
  action : Text
  outcome : ActivityOutcome
  operationRef : Text
  deriving DecidableEq

/-- What the checks of the journal's table say. -/
structure ActivityEventRow extends ActivityEventFields where
  inRange : 1 ≤ sequence ∧ sequence ≤ maxSafeJsonInteger
  retained : retainUntil.micros = occurredAt.micros + secondMicros * securityRetentionSeconds
  deriving DecidableEq

structure AuditReferenceFields where
  sequence : Int
  scope : Option RepositoryScope
  createdAt : Instant
  actor : Text
  eventType : Text
  idempotencyKeyDigest : Text
  auditEventId : Text
  eventHash : Text
  deriving DecidableEq

/-- The columns of an audit event that the activity refers to; its time is kept in milliseconds. -/
structure AuditReferenceRow extends AuditReferenceFields where
  inRange : 1 ≤ sequence ∧ sequence ≤ maxSafeJsonInteger
  milliseconds : createdAt.microsecond % 1000 = 0
  deriving DecidableEq

/-- The text of a time in the audit ledger. -/
def auditTime (time : Instant) : Text :=
  time.isoMillisecondText ++ ascii "Z"

/-- The journal with the last number that it has given, and the audit ledger. -/
structure ActivityStore where
  journal : List ActivityEventRow
  journalSequence : Int
  audit : List AuditReferenceRow

def ActivityStore.empty : ActivityStore :=
  ⟨[], 0, []⟩

/-- The rows that a query is about. -/
inductive ActivityRow where
  | security (row : ActivityEventRow)
  | business (row : AuditReferenceRow)
  deriving DecidableEq

namespace ActivityRow

def sequence : ActivityRow → Int
  | .security row => row.sequence
  | .business row => row.sequence

/-- Rows are read from the last one back. -/
def order (row : ActivityRow) : Int :=
  -row.sequence

variable (query : ActivityQuery)

/-- The issuer of a query owns a row of the journal, and its scope owns an audit event. -/
def OwnedBy : ActivityRow → Prop
  | .security row => ∃ issuer ∈ query.issuer, row.issuer = issuer
  | .business row => ∃ scope ∈ query.scope, row.scope = some scope

instance (query : ActivityQuery) (row : ActivityRow) : Decidable (row.OwnedBy query) := by
  cases row <;> unfold OwnedBy <;> infer_instance

/-- A row passes the filters of a query. -/
def Filtered : ActivityRow → Prop
  | .security row => (∀ action ∈ query.action, row.action = action) ∧ ∀ actor ∈ query.actor, row.actor = actor
  | .business row => (∀ action ∈ query.action, row.eventType = action) ∧ ∀ actor ∈ query.actor, row.actor = actor

instance (query : ActivityQuery) (row : ActivityRow) : Decidable (row.Filtered query) := by
  cases row <;> unfold Filtered <;> infer_instance

/-- A row is in the window of a query at an instant. -/
def Current (now : Instant) : ActivityRow → Prop
  | .security row =>
    now < row.retainUntil ∧ query.since ≤ row.occurredAt ∧ row.occurredAt < min query.untilTime now
  | .business row =>
    row.eventType ∈ businessActions ∧ auditTime query.since ≤ auditTime row.createdAt ∧
      auditTime row.createdAt < auditTime query.untilTime ∧ auditTime row.createdAt ≤ auditTime now

instance (query : ActivityQuery) (now : Instant) (row : ActivityRow) : Decidable (row.Current query now) := by
  cases row <;> unfold Current <;> infer_instance

/-- A row that a query selects at an instant. -/
def Selected (now : Instant) (row : ActivityRow) : Prop :=
  row.OwnedBy query ∧ row.Current query now ∧ row.Filtered query

instance (query : ActivityQuery) (now : Instant) (row : ActivityRow) : Decidable (row.Selected query now) :=
  inferInstanceAs (Decidable (_ ∧ _ ∧ _))

/-- The entry that a row is shown as. -/
def entry : ActivityRow → Py ActivityEntry
  | .security row =>
    ActivityEntry.make ⟨row.sequence, .security, row.action, row.outcome, row.occurredAt, some row.actor, some row.issuer,
      some row.subject, row.operationRef, none, none⟩
  | .business row =>
    ActivityEntry.make ⟨row.sequence, .business, row.eventType, .committed, row.createdAt,
      if isActivityActor row.actor = true then some row.actor else none, none, none,
      ascii "sha256:" ++ row.idempotencyKeyDigest, some row.auditEventId, some row.eventHash⟩

end ActivityRow

namespace ActivityStore

variable (store : ActivityStore)

def table : ActivitySource → List ActivityRow
  | .security => store.journal.map .security
  | .business => store.audit.map .business

/-- The last row that the scope of a query owns. -/
def watermark (query : ActivityQuery) : Int :=
  (((store.table query.source).filter fun row => decide (row.OwnedBy query)).map ActivityRow.sequence).max?.getD 0

/-- The rows of a query up to a watermark and before a row, from the last one back. -/
def selected (query : ActivityQuery) (now : Instant) (through : Int) (before : Option Int) :
    List ActivityRow :=
  sortBy ActivityRow.order <| (store.table query.source).filter fun row =>
    decide (row.Selected query now ∧ row.sequence ≤ through ∧ ∀ bound ∈ before, row.sequence < bound)

def activityUnavailable (message : Text) : PyError :=
  .runtimeError message

/-- A row that cannot be shown makes the page unavailable. -/
def readEntries (rows : List ActivityRow) : Py (List ActivityEntry) :=
  match collect ActivityRow.entry rows with
  | .ok entries => .ok entries
  | .error (.valueError _) => .error (activityUnavailable (ascii "invalid retained activity"))
  | .error error => .error error

/-- The cursor of a page expires with the first page's cursor, which does not outlive its principal. -/
def cursorExpiry (principal : ActivityPrincipal) (position : Option ActivityPosition) (now : Instant) : Py Instant :=
  match position with
  | some position => .ok position.expiresAt
  | none => do
    let deadline ← addSeconds now activityCursorSeconds
    return min deadline principal.expiresAt

def nextCursor (codec : ActivityCursorCodec) (query : ActivityQuery) (principal : ActivityPrincipal)
    (position : Option ActivityPosition) (through : Int) (now : Instant) : Option ActivityEntry → Py (Option Text)
  | none => .ok none
  | some last => do
    let expiry ← cursorExpiry principal position now
    return some (codec.encode query principal ⟨through, last.sequence, expiry⟩)

def decodeCursor [Interpreter] (codec : ActivityCursorCodec) (query : ActivityQuery) (principal : ActivityPrincipal)
    (now : Instant) : Option Text → Py (Option ActivityPosition)
  | none => .ok none
  | some cursor => (codec.decode cursor query principal now).map some

/-- The watermark of the first page, and the rows, are read by statements of their own. -/
def page [Interpreter] (atWatermark atRows : ActivityStore) (codec : ActivityCursorCodec) (query : ActivityQuery)
    (principal : ActivityPrincipal) (cursor : Option Text) (now : Instant) : Py ActivityPage := do
  raiseIf (principal.expiresAt ≤ now) (activityUnavailable (ascii "activity principal expired"))
  let position ← decodeCursor codec query principal now cursor
  let through := (position.map ActivityPosition.through).getD (atWatermark.watermark query)
  let before := position.map ActivityPosition.before
  let rows ← readEntries ((atRows.selected query now through before).take (query.limit + 1))
  let (items, last) := pageOf query.limit rows
  let next ← nextCursor codec query principal position through now last
  return ⟨items, next, now, if query.source = .security then some securityRetentionSeconds else none,
    if query.source = .security then .journalTransaction else .auditReferenceOnly⟩

/-- Up to one hundred and twenty-eight rows that have expired, in the order in which they do. -/
def expiredRows (now : Instant) : List ActivityEventRow :=
  (sortBy (fun row : ActivityEventRow => [(row.retainUntil.micros : Int), row.sequence])
    (store.journal.filter fun row => decide (row.retainUntil ≤ now))).take 128

def cleanupActivity (now : Instant) : ActivityStore :=
  { store with journal := store.journal.filter fun row => decide (row ∉ store.expiredRows now) }

end ActivityStore

end CiCoordinator.Persistence

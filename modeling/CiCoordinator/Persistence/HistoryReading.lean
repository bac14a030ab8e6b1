import CiCoordinator.CiEconomics.HistoryRead
import CiCoordinator.Library.Keyset
import CiCoordinator.Persistence.HistorySettlement

/- The reads of an archive, one page at a time. -/

namespace CiCoordinator.Persistence

open Library Kernel ConfigControl CiEconomics

structure HistoryRecordSummary where
  header : ArchivedAttemptHeader
  jobCount : Nat
  hasConflict : Bool
  firstImportedAt : Instant
  detail : HistoryDetailView
  deriving DecidableEq

inductive HistoryGapResolution where
  | notEvaluated
  | missing
  | retainedComplete
  | retainedIncomplete
  | retainedConflicting
  deriving DecidableEq

def historyGapResolution (subject : Option GapSubject) (retained : Option HistoryRecordSummary) : HistoryGapResolution :=
  match subject, retained with
  | none, _ => .notEvaluated
  | some _, none => .missing
  | some _, some summary =>
    if summary.hasConflict = true ∨ summary.header.population = .conflict then .retainedConflicting
    else if summary.header.population = .complete then .retainedComplete
    else .retainedIncomplete

structure HistoryGapView where
  gapId : Text
  recordedAt : Instant
  gap : ArchiveGap
  retained : Option HistoryRecordSummary
  resolution : HistoryGapResolution
  deriving DecidableEq

/-- The creation of the run that a recheck gap is about. -/
def ArchiveGap.rechecked : ArchiveGap → Option HistoryRecheckGap
  | .history _ => none
  | .recheck gap => some gap

/-- The cursor of the page that a gap of the backfill is about. -/
def ArchiveGap.sourceWindow : ArchiveGap → Option HistoryCursor
  | .history gap => some gap.cursor
  | .recheck _ => none

/-- What the payload model of a gap checks. -/
def HistoryGapView.Admitted (self : HistoryGapView) : Prop :=
  isSha256Hex self.gapId = true ∧ (∀ gap ∈ ArchiveGap.rechecked self.gap, gap.runCreatedAt ≤ self.recordedAt) ∧
    ∀ summary ∈ self.retained,
      (∃ subject ∈ self.gap.subject, summary.header.attempt.workflowRunId = subject.workflowRunId ∧
        summary.header.attempt.runAttempt = subject.runAttempt) ∧
        ∀ gap ∈ ArchiveGap.rechecked self.gap, gap.runCreatedAt = summary.header.runCreatedAt

instance (view : HistoryGapView) : Decidable view.Admitted :=
  inferInstanceAs (Decidable (_ ∧ _ ∧ _))

def projectionError : PyError :=
  .valueError (ascii "archive projection contradicts retained canonical fields")

/-- The columns of a row agree with the header that the row keeps. -/
def HistoryAttemptRow.Projects (row : HistoryAttemptRow) : Prop :=
  row.key.scope = row.header.attempt.scope ∧ row.key.workflowRunId = row.header.attempt.workflowRunId ∧
    row.key.runAttempt = row.header.attempt.runAttempt ∧ row.columns.headSha = row.header.attempt.headSha ∧
    row.columns.workflowId = row.header.workflowId ∧ row.columns.runCreatedAt = row.header.runCreatedAt

instance (row : HistoryAttemptRow) : Decidable row.Projects :=
  inferInstanceAs (Decidable (_ ∧ _ ∧ _ ∧ _ ∧ _ ∧ _))

/-- The bytes of a stored object are bounded. -/
def admitStored (bytes : List Nat) (maximum : Nat) (context : Text) : Py Unit :=
  valueErrorIf (¬ (1 ≤ bytes.length ∧ bytes.length ≤ maximum))
    (ascii "stored " ++ context ++ ascii " violates its admitted byte bound")

def readHistorySummary (now : Instant) (row : HistoryAttemptRow) : Py HistoryRecordSummary := do
  admitStored row.columns.headerCanonical maxHistoryHeaderBytes (ascii "archive header")
  raiseIf (¬ row.Projects) projectionError
  let detail ← readHistoryDetail row.retention now
  raiseIf (¬ row.header.AdmittedJobCount row.columns.jobCount) .validationError
  return ⟨row.header, row.columns.jobCount, row.hasConflict, row.firstImportedAt, detail⟩

def readHistoryJob (row : HistoryJobRow) : Py ArchivedJobStatistics := do
  admitStored row.jobCanonical maxHistoryJobBytes (ascii "archive job")
  let raw ← encodeArchiveJob row.job
  raiseIf (row.jobCanonical ≠ raw) projectionError
  return row.job

/-- A gap and the summary of its attempt agree on the workflow. -/
def agreesOnWorkflow (gap : ArchiveGap) (retained : Option HistoryRecordSummary) : Prop :=
  ∀ summary ∈ retained, ∀ recheck ∈ ArchiveGap.rechecked gap, recheck.workflowId = summary.header.workflowId

instance (gap : ArchiveGap) (retained : Option HistoryRecordSummary) : Decidable (agreesOnWorkflow gap retained) :=
  inferInstanceAs (Decidable (∀ summary ∈ retained, _))

def readHistoryGap (row : HistoryGapRow) (scope : RepositoryScope) (generation : Int)
    (retained : Option HistoryRecordSummary) : Py HistoryGapView := do
  admitStored row.gapCanonical maxHistoryGapBytes (ascii "archive gap")
  let id ← row.gap.gapId
  valueErrorIf (row.gap.scope ≠ scope ∨ row.gap.generation ≠ generation ∨ id ≠ row.gapId)
    (ascii "archive gap contradicts its scope or identity")
  valueErrorIf (¬ agreesOnWorkflow row.gap retained) (ascii "gap and retained summary disagree on workflow identity")
  let view : HistoryGapView := ⟨id, row.recordedAt, row.gap, retained, historyGapResolution row.gap.subject retained⟩
  raiseIf (¬ view.Admitted) .validationError
  return view

/-- The rows that a read is about. -/
inductive HistoryReadItem where
  | record (row : HistoryAttemptRow)
  | job (row : HistoryJobRow)
  | gap (row : HistoryGapRow)
  deriving DecidableEq

namespace HistoryReadItem

/-- The key that continues a read after a row. -/
def key : HistoryReadItem → HistoryReadKey
  | .record row => .record row.columns.runCreatedAt row.key.workflowRunId row.key.runAttempt
  | .job row => .job row.job.providerJobId
  | .gap row => .gap row.gapId

/-- The order in which rows are read. -/
def order (item : HistoryReadItem) : List Int :=
  item.key.order

end HistoryReadItem

variable (rows : GenerationRows)

/-- The table that a kind of read is about. -/
def itemsOf : HistoryReadKind → List HistoryReadItem
  | .records => rows.attempts.map .record
  | .jobs => rows.jobs.map .job
  | .gaps => rows.gaps.map .gap

variable (query : HistoryReadQuery)

/-- An attempt is the one that a query names, if it names one. -/
def selectsAttempt (run attempt : Int) : Prop :=
  (∀ id ∈ query.workflowRunId, run = id) ∧ ∀ id ∈ query.runAttempt, attempt = id

instance (query : HistoryReadQuery) (run attempt : Int) : Decidable (selectsAttempt query run attempt) :=
  inferInstanceAs (Decidable (_ ∧ _))

/-- The rows of a generation that a query selects. -/
def selects (rows : GenerationRows) : HistoryReadItem → Prop
  | .record row =>
    selectsAttempt query row.key.workflowRunId row.key.runAttempt ∧
      (∀ first ∈ query.createdFrom, first.instant ≤ row.columns.runCreatedAt) ∧
      (∀ last ∈ query.createdThrough, row.columns.runCreatedAt ≤ last.instant) ∧
      (∀ id ∈ query.workflowId, row.columns.workflowId = id) ∧
      ∀ name ∈ query.jobName, ∃ job ∈ rows.jobs, job.key = row.key ∧ job.job.name = name
  | .job row =>
    selectsAttempt query row.key.workflowRunId row.key.runAttempt ∧ ∀ name ∈ query.jobName, row.job.name = name
  | .gap _ => True

instance (query : HistoryReadQuery) (rows : GenerationRows) (item : HistoryReadItem) : Decidable (selects query rows item) := by
  cases item <;> unfold selects <;> infer_instance

/-- The rows after a key that match a query, in the order of their keys. -/
def matchingItems (rows : GenerationRows) (after : Option HistoryReadKey) : List HistoryReadItem :=
  sortBy HistoryReadItem.order <| itemsAfter HistoryReadItem.order (after.map HistoryReadKey.order) <|
    (itemsOf rows query.kind).filter fun item => decide (selects query rows item)

structure HistoryReadPageFields where
  query : HistoryReadQuery
  configurationRevision : Int
  dataRevision : Int
  observedAt : Instant
  records : List HistoryRecordSummary
  jobs : List ArchivedJobStatistics
  gaps : List HistoryGapView
  nextKey : Option HistoryReadKey
  deriving DecidableEq

namespace HistoryReadPageFields

def recordKey (summary : HistoryRecordSummary) : HistoryReadKey :=
  .record summary.header.runCreatedAt summary.header.attempt.workflowRunId summary.header.attempt.runAttempt

variable (self : HistoryReadPageFields)

/-- The keys of what a page shows. -/
def keys : List HistoryReadKey :=
  match self.query.kind with
  | .records => self.records.map recordKey
  | .jobs => self.jobs.map fun job => .job job.providerJobId
  | .gaps => self.gaps.map fun gap => .gap gap.gapId

/-- A summary is of the scope of a query and not later than the instant of its page. -/
def observed (summary : HistoryRecordSummary) : Prop :=
  summary.header.attempt.scope = self.query.scope ∧ summary.firstImportedAt ≤ self.observedAt ∧
    summary.header.runCreatedAt ≤ self.observedAt

instance (self : HistoryReadPageFields) (summary : HistoryRecordSummary) : Decidable (self.observed summary) :=
  inferInstanceAs (Decidable (_ ∧ _ ∧ _))

/-- A record is one that the query of its page selects. -/
def selected (summary : HistoryRecordSummary) : Prop :=
  selectsAttempt self.query summary.header.attempt.workflowRunId summary.header.attempt.runAttempt ∧
    (∀ id ∈ self.query.workflowId, summary.header.workflowId = id) ∧
    (∀ first ∈ self.query.createdFrom, first.instant ≤ summary.header.runCreatedAt) ∧
    ∀ last ∈ self.query.createdThrough, summary.header.runCreatedAt ≤ last.instant

instance (self : HistoryReadPageFields) (summary : HistoryRecordSummary) : Decidable (self.selected summary) :=
  inferInstanceAs (Decidable (_ ∧ _ ∧ _ ∧ _))

def admittedGap (view : HistoryGapView) : Prop :=
  view.recordedAt ≤ self.observedAt ∧ view.gap.configurationRevision ≤ self.configurationRevision ∧
    (∀ cursor ∈ ArchiveGap.sourceWindow view.gap, cursor.scope = self.query.scope) ∧
    ∀ summary ∈ view.retained, self.observed summary

instance (self : HistoryReadPageFields) (view : HistoryGapView) : Decidable (self.admittedGap view) :=
  inferInstanceAs (Decidable (_ ∧ _ ∧ _ ∧ _))

/-- What the payload model of a page checks. -/
def Admitted : Prop :=
  (self.query.kind = .jobs → self.records.length = 1) ∧ (∀ summary ∈ self.records, self.observed summary ∧ self.selected summary) ∧
    Increasing HistoryReadKey.order self.keys ∧ (∀ job ∈ self.jobs, ∀ name ∈ self.query.jobName, job.name = name) ∧
    (∀ view ∈ self.gaps, self.admittedGap view) ∧ self.keys.length ≤ self.query.limit ∧
    ∀ key ∈ self.nextKey, self.keys.getLast? = some key

instance (self : HistoryReadPageFields) : Decidable self.Admitted :=
  inferInstanceAs (Decidable (_ ∧ _ ∧ _ ∧ _ ∧ _ ∧ _ ∧ _))

end HistoryReadPageFields

/-- A page of a read. -/
structure HistoryReadPage extends HistoryReadPageFields where
  admitted : toHistoryReadPageFields.Admitted
  deriving DecidableEq

def HistoryReadPage.make (fields : HistoryReadPageFields) : Py HistoryReadPage :=
  if admitted : fields.Admitted then .ok ⟨fields, admitted⟩ else .error .validationError

inductive HistoryReadRejection where
  | invalidCursor
  | staleCursor
  | notFound
  | datasetFenced
  deriving DecidableEq

inductive HistoryReadResult where
  | page (page : HistoryReadPage)
  | rejected (reason : HistoryReadRejection)

/-- What a page shows of its rows. -/
structure HistoryReadContents where
  records : List HistoryRecordSummary
  jobs : List ArchivedJobStatistics
  gaps : List HistoryGapView

/-- The attempt of a generation that a query or a gap names. -/
def attemptIn (run attempt : Option Int) : Option HistoryAttemptRow :=
  rows.attempts.find? fun row => decide (run = some row.key.workflowRunId ∧ attempt = some row.key.runAttempt)

/-- The summary of the attempt that a gap is about, when the attempt is retained. -/
def retainedSummary (now : Instant) (gap : ArchiveGap) : Py (Option HistoryRecordSummary) :=
  match attemptIn rows (gap.subject.map GapSubject.workflowRunId) (gap.subject.map GapSubject.runAttempt) with
  | none => .ok none
  | some row => (readHistorySummary now row).map some

variable (query : HistoryReadQuery)

def readGapItem (now : Instant) (row : HistoryGapRow) :
    Py HistoryGapView := do
  let retained ← retainedSummary rows now row.gap
  readHistoryGap row query.scope query.generation retained

/-- What a page shows of a row. -/
def showItem (now : Instant) : HistoryReadItem → Py HistoryReadContents
  | .record row => do
    let summary ← readHistorySummary now row
    return ⟨[summary], [], []⟩
  | .job row => do
    let job ← readHistoryJob row
    return ⟨[], [job], []⟩
  | .gap row => do
    let view ← readGapItem rows query now row
    return ⟨[], [], [view]⟩

/-- The summaries of the attempts of all fetched gaps are read before the gaps. -/
def prepareItem (now : Instant) : HistoryReadItem → Py Unit
  | .gap row => do
    let _ ← retainedSummary rows now row.gap
    return ()
  | _ => .ok ()

/-- Jobs are shown with the summary of their attempt. -/
def readParent (now : Instant) : Py (Option (List HistoryRecordSummary)) :=
  if query.kind = .jobs then
    match attemptIn rows query.workflowRunId query.runAttempt with
    | none => .ok none
    | some row => (readHistorySummary now row).map fun summary => some [summary]
  else .ok (some [])

def historyCursorSeconds : Nat :=
  1200

variable (dataset : HistoryDataset)

/-- A cursor continues a page of the same revisions for twenty minutes. -/
def staleCursor (cursor : HistoryReadCursor) (now : Instant) : Py Bool :=
  if cursor.configurationRevision ≠ dataset.configurationRevision ∨ cursor.dataRevision ≠ dataset.dataRevision ∨
      now < cursor.observedAt then
    .ok true
  else do
    let deadline ← addSeconds cursor.observedAt historyCursorSeconds
    return decide (deadline ≤ now)

/-- The reason for which a dataset does not answer a read. -/
def readRefusal (query : HistoryReadQuery) (cursor : Option HistoryReadCursor) (now : Instant) :
    Py (Option HistoryReadRejection) :=
  if dataset.state ≠ .active ∧ dataset.state ≠ .paused then .ok (some .datasetFenced)
  else if dataset.generation ≠ query.generation then .ok (some .staleCursor)
  else match cursor with
    | none => .ok none
    | some cursor => (staleCursor dataset cursor now).map fun stale => if stale = true then some .staleCursor else none

def admitKey (key : Option HistoryReadKey) : Py Unit :=
  raiseIf (∃ found ∈ key, ¬ found.Admitted) .validationError

/-- The page of the selected rows. -/
def showPage (query : HistoryReadQuery) (selected : List HistoryReadItem) (now : Instant) : Py HistoryReadResult := do
  let parent ← readParent rows query now
  match parent with
  | none => return .rejected .notFound
  | some parent => do
    let (visible, last) := pageOf query.limit selected
    forEach (prepareItem rows now) (selected.take (query.limit + 1))
    let contents ← collect (showItem rows query now) visible
    let nextKey := last.map HistoryReadItem.key
    admitKey nextKey
    let page ← HistoryReadPage.make {
      query := query
      configurationRevision := dataset.configurationRevision
      dataRevision := dataset.dataRevision
      observedAt := now
      records := parent ++ contents.flatMap HistoryReadContents.records
      jobs := contents.flatMap HistoryReadContents.jobs
      gaps := contents.flatMap HistoryReadContents.gaps
      nextKey := nextKey }
    return .page page

/-- A read of a dataset is refused, finds nothing or shows a page. -/
def readDataset (archive : HistoryArchive) (dataset : HistoryDataset) (query : HistoryReadQuery)
    (cursor : Option HistoryReadCursor) (now : Instant) : Py HistoryReadResult := do
  valueErrorIf (now < dataset.configuredAt) (ascii "archive configuration postdates observation")
  let refusal ← readRefusal dataset query cursor now
  match refusal with
  | some reason => return .rejected reason
  | none =>
    let rows := archive.rowsOf query.scope query.generation
    let selected := matchingItems query rows (cursor.map HistoryReadCursor.key)
    if query.workflowRunId ≠ none ∧ query.kind ≠ .jobs ∧ selected = [] then return .rejected .notFound
    else showPage rows dataset query selected now

def readHistory (archive : HistoryArchive) (query : HistoryReadQuery) (cursor : Option HistoryReadCursor) (now : Instant) :
    Py HistoryReadResult := do
  raiseIf (∃ found ∈ cursor, ¬ found.Admitted) .validationError
  if ∃ found ∈ cursor, ¬ found.key.OfKind query.kind then return .rejected .invalidCursor
  else
    match archive.datasetOf query.scope with
    | none => return .rejected .notFound
    | some dataset => readDataset archive dataset query cursor now

end CiCoordinator.Persistence

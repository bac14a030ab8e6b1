import CiCoordinator.CiEconomics.ObservationCycles
import Mathlib.Data.Prod.Lex

/- The transactions that claim, record and defer the recent lane of an observation. -/

namespace CiCoordinator.Persistence

open Library Kernel ConfigControl CiEconomics

def maxObservationGaps : Nat :=
  256

structure ObservationGapRow where
  gapId : Text
  gap : ObservationGap
  deriving DecidableEq

/-- The rows of the gaps, the deadline of the details that are lost, and the history of the gaps that were stored. -/
structure ObservationGapTable where
  rows : List ObservationGapRow
  detailTruncatedUntil : Option Instant
  recorded : List ObservationGap
  deriving DecidableEq

def gapDetailTruncationDeadline (prior : Option Instant) (evicted : ObservationGap) (now : Instant) : Option Instant :=
  (prior.toList ++ [evicted.expiry]).filter (fun value => decide (now < value)) |>.max?

/-- The order in which the gaps of a scope are read. -/
def gapOrder (row : ObservationGapRow) : Nat ×ₗ Text :=
  toLex (row.gap.expiry.micros, row.gapId)

def scopeRows (rows : List ObservationGapRow) (scope : RepositoryScope) : List ObservationGapRow :=
  rows.filter fun row => decide (row.gap.scope = scope)

variable (table : ObservationGapTable)

/-- A gap that is not stored yet takes the place of the first one when the quota of its scope is exceeded. -/
def insertGap (row : ObservationGapRow) (now : Instant) : Py ObservationGapTable := do
  let stored := table.rows ++ [row]
  let ordered := sortBy gapOrder (scopeRows stored row.gap.scope)
  let recorded := table.recorded ++ [row.gap]
  valueErrorIf (maxObservationGaps + 1 < ordered.length) (ascii "observation gap quota was already exceeded")
  if ordered.length ≤ maxObservationGaps then
    return { table with rows := stored, recorded := recorded }
  else
    match ordered with
    | [] => return { table with rows := stored, recorded := recorded }
    | evicted :: _ =>
      return {
        rows := stored.filter fun other => decide (other.gapId ≠ evicted.gapId ∨ other.gap.scope ≠ row.gap.scope)
        detailTruncatedUntil := gapDetailTruncationDeadline table.detailTruncatedUntil evicted.gap now
        recorded := recorded }

def recordObservationGap (gap : ObservationGap) (now : Instant) :
    Py ObservationGapTable := do
  valueErrorIf (now < gap.cycleStartedAt) (ascii "observation gap cannot precede its recovery cycle")
  let kept := table.rows.filter fun row => decide (¬ (row.gap.scope = gap.scope ∧ row.gap.expiry ≤ now))
  if gap.expiry ≤ now then
    return { table with rows := kept }
  else
    let gapId ← gap.gapId
    match kept.find? fun row => decide (row.gapId = gapId) with
    | some existing => do
      valueErrorIf (existing.gap ≠ gap) (ascii "observation gap identity has contradictory provenance")
      return { table with rows := kept, recorded := table.recorded ++ [gap] }
    | none => insertGap { table with rows := kept } ⟨gapId, gap⟩ now

/-- The rows of the recent lane and of the gaps, which share the lock of their scope. -/
structure ObservationStore where
  progress : ObservationScanProgress
  gaps : ObservationGapTable
  deriving DecidableEq

/-- The result of the registration of a source that a page has discovered. -/
inductive ProviderSourceRegistrationResult where
  | registered
  | replayed
  | sourceConflict
  | outsideSourceWindow
  | capacityReached
  deriving DecidableEq

inductive ObservationReply where
  | nothingDue
  | claimed (claim : ObservationClaim)
  | claimLost
  | applied
  | capacityReached
  deriving DecidableEq

/-- A lease that has ended before the write rolls the transaction back. -/
def liveLease (lease : ObservationLease) (writtenAt : Instant) : Prop :=
  lease.acquiredAt ≤ writtenAt ∧ writtenAt < lease.expiresAt

instance (lease : ObservationLease) (writtenAt : Instant) : Decidable (liveLease lease writtenAt) :=
  inferInstanceAs (Decidable (_ ∧ _))

/-- The gap of a preparation is recorded together with it. -/
def recordPreparedGap (gap : Option ObservationGap) (now : Instant) :
    Py ObservationGapTable :=
  match gap with
  | none => .ok table
  | some gap => recordObservationGap table gap now

variable (snapshot : ObservationSnapshot) (store : ObservationStore)

def claimObservation (workerId token : Text)
    (now writtenAt : Instant) : Py (ObservationReply × ObservationStore) := do
  observationDigest workerId
  let prepared ← prepareObservationCycle snapshot store.progress.state store.progress.lastCompletedThrough now
  match prepared with
  | none => return (.nothingDue, store)
  | some prepared => do
    let acquired ← acquireObservationClaim snapshot prepared.state now workerId token
    match acquired with
    | none => return (.nothingDue, store)
    | some (state, claim) => do
      let successor ← ObservationScanProgress.make
        { store.progress.toObservationScanProgressFields with state := state }
      let gaps ← recordPreparedGap store.gaps prepared.gap now
      if liveLease claim.lease writtenAt then
        return (.claimed claim, ⟨successor, gaps⟩)
      else
        return (.nothingDue, store)

/-- The sources of a page whose workflows are selected. -/
def selectedSources (observed : ProviderObservationPage) :
    Py (List ProviderRunCollectionSource) := do
  let selected ← collect snapshot.configuration.selects observed.workflowIds
  return ((observed.page.sources.zip selected).filter fun entry => entry.2).map fun entry => entry.1

variable (claim : ObservationClaim)

def pageGap (reason : ObservationGapReason) :
    Py ObservationGap := do
  let digest ← snapshot.configuration.selectorDigest
  ObservationGap.make
    ⟨claim.scope, claim.configRevision, digest, claim.lane, claim.cursor.cycleStartedAt, claim.cursor.window.createdFrom,
      claim.cursor.window.createdThrough, reason⟩

/-- The reasons for which the window of a page is recorded as a gap. -/
def pageGapReasons (progress : ObservationPageProgress) (outcomes : List ProviderSourceRegistrationResult) :
    List ObservationGapReason :=
  (if progress.providerTruncated = true then [.providerTruncated] else []) ++
    (if .outsideSourceWindow ∈ outcomes then [.outsideSourceWindow] else []) ++
    if .sourceConflict ∈ outcomes then [.sourceConflict] else []

variable (table : ObservationGapTable)

def recordPageGaps (reasons : List ObservationGapReason) (now : Instant) : Py ObservationGapTable :=
  foldSteps (fun table reason => do
    let gap ← pageGap snapshot claim reason
    recordObservationGap table gap now) table reasons

/-- What a page has led to before the lease is finished. -/
structure ObservedPage where
  cursor : Option ObservationCursor
  outcomes : List ProviderSourceRegistrationResult
  gaps : ObservationGapTable

variable (claim : ObservationClaim)

/-- A page that has found no room for a source is read again. -/
def observePage (observed : ProviderObservationPage) (progress : ObservationPageProgress)
    (register : List ProviderRunCollectionSource → List ProviderSourceRegistrationResult) (now : Instant) :
    Py ObservedPage := do
  let selected ← selectedSources snapshot observed
  let outcomes := if progress.registerSources = true then register selected else []
  let cursor := if .capacityReached ∈ outcomes then some claim.cursor else progress.cursor
  let gaps ← recordPageGaps snapshot claim table (pageGapReasons progress outcomes) now
  return ⟨cursor, outcomes, gaps⟩

/-- The instant at which the lane is due again after a page. -/
def nextAttemptAfter (page : ObservedPage) (now : Instant) (retryDelay : Nat) : Py Instant :=
  if .capacityReached ∈ page.outcomes then addSeconds now retryDelay
  else if page.cursor = none then observationCycleDueAt claim.lane now
  else .ok now

def recordObservationPage (observed : ProviderObservationPage)
    (register : List ProviderRunCollectionSource → List ProviderSourceRegistrationResult)
    (lockedAt now writtenAt : Instant) (retryDelay : Nat) : Py (ObservationReply × ObservationStore) := do
  valueErrorIf (observed.page.scope ≠ claim.scope) (ascii "observation page crosses repository scope")
  let progress ← advanceDiscoveryCursor claim.cursor observed.page
  if ¬ currentObservationClaim snapshot store.progress.state claim lockedAt then
    return (.claimLost, store)
  else
    let page ← observePage snapshot store.gaps claim observed progress register lockedAt
    let nextAttemptAt ← nextAttemptAfter claim page now retryDelay
    let state ← finishObservationClaim snapshot store.progress.state claim now page.cursor nextAttemptAt
    match state with
    | none => return (.claimLost, store)
    | some state => do
      let successor ← ObservationScanProgress.make {
        state := state
        lastCompletedThrough :=
          if page.cursor = none then some claim.cursor.interval.createdThrough
          else store.progress.lastCompletedThrough
        lastPageAt := some now
        pagesSeen := store.progress.pagesSeen + 1
        sourcesRegistered := store.progress.sourcesRegistered + page.outcomes.count .registered
        lastOutcome := some (if .capacityReached ∈ page.outcomes then .capacityReached else .pageRecorded) }
      if liveLease claim.lease writtenAt then
        return (if .capacityReached ∈ page.outcomes then .capacityReached else .applied, ⟨successor, page.gaps⟩)
      else
        return (.claimLost, store)

def deferObservation (reason : ObservationFailure) (now writtenAt : Instant) (retryDelay : Nat) :
    Py (ObservationReply × ObservationStore) := do
  if ¬ currentObservationClaim snapshot store.progress.state claim now then
    return (.claimLost, store)
  else
    let nextAttemptAt ← addSeconds now retryDelay
    let state ← finishObservationClaim snapshot store.progress.state claim now (some claim.cursor) nextAttemptAt
    match state with
    | none => return (.claimLost, store)
    | some state => do
      let successor ← ObservationScanProgress.make
        { store.progress.toObservationScanProgressFields with state := state, lastOutcome := some (.failed reason) }
      if liveLease claim.lease writtenAt then
        return (.applied, ⟨successor, store.gaps⟩)
      else
        return (.claimLost, store)

end CiCoordinator.Persistence

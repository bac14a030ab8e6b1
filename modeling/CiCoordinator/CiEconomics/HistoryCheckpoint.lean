import CiCoordinator.CiEconomics.HistoryConfiguration

/- The cursor and the checkpoint that drive a history backfill. -/

namespace CiCoordinator.CiEconomics

open Library Kernel ConfigControl

structure HistoryCursorFields where
  scope : RepositoryScope
  createdFrom : Instant
  createdThrough : Instant
  window : RunDiscoveryWindow
  pageNumber : Nat
  cycleStartedAt : Instant
  deriving DecidableEq

def HistoryCursorFields.postInit (self : HistoryCursorFields) : Py Unit := do
  forEach (fun (value : Instant) =>
      valueErrorIf (value.microsecond ≠ 0) (ascii "history boundaries require second precision"))
    [self.createdFrom, self.createdThrough]
  valueErrorIf (¬ (self.createdFrom ≤ self.window.createdFrom ∧ self.window.createdFrom ≤ self.window.createdThrough ∧
      self.window.createdThrough ≤ self.createdThrough ∧ self.createdThrough ≤ self.cycleStartedAt))
    (ascii "history segment is outside its frozen population")
  valueErrorIf (self.window.createdFrom = self.window.createdThrough ∧ self.createdFrom ≠ self.createdThrough)
    (ascii "a nonempty history interval requires positive-width query windows")
  valueErrorIf (¬ (1 ≤ self.pageNumber ∧ self.pageNumber ≤ maxDiscoveryPages)) (ascii "history page exceeds its bound")

/-- The cursor of a backfill over a frozen interval. -/
structure HistoryCursor extends HistoryCursorFields where
  admitted : toHistoryCursorFields.postInit = .ok ()
  deriving DecidableEq

def HistoryCursor.make (fields : HistoryCursorFields) : Py HistoryCursor :=
  construct fields.postInit fun admitted => ⟨fields, admitted⟩

/-- The first window of an interval has at most the width of a discovery window. -/
def segment (start finish : Instant) : Py RunDiscoveryWindow := do
  valueErrorIf (finish < start) (ascii "history lower bound follows its upper bound")
  let through ← addMicros start (min (finish.micros - start.micros) (secondMicros * maxDiscoveryWindowSeconds))
  RunDiscoveryWindow.make start through

namespace HistoryCursor

def start (scope : RepositoryScope) (createdFrom createdThrough cycleStartedAt : Instant) : Py HistoryCursor := do
  let window ← segment createdFrom createdThrough
  HistoryCursor.make {
    scope := scope
    createdFrom := createdFrom
    createdThrough := createdThrough
    window := window
    pageNumber := 1
    cycleStartedAt := cycleStartedAt }

def split (self : HistoryCursor) : Py (Option HistoryCursor) := do
  let seconds := (self.window.createdThrough.micros - self.window.createdFrom.micros) / secondMicros
  if seconds ≤ 1 then
    return none
  else
    let middle ← addSeconds self.window.createdFrom (seconds / 2)
    let window ← RunDiscoveryWindow.make self.window.createdFrom middle
    let cursor ← HistoryCursor.make { self.toHistoryCursorFields with window := window, pageNumber := 1 }
    return some cursor

def advanceWindow (self : HistoryCursor) : Py (Option HistoryCursor) := do
  if self.window.createdThrough = self.createdThrough then
    return none
  else
    let window ← segment self.window.createdThrough self.createdThrough
    let cursor ← HistoryCursor.make { self.toHistoryCursorFields with window := window, pageNumber := 1 }
    return some cursor

end HistoryCursor

/-- The progress of a page, with whether the provider left runs out. -/
structure HistoryPageProgress where
  cursor : Option HistoryCursor
  registerSources : Bool
  providerTruncated : Bool
  deriving DecidableEq

def HistoryPageProgress.make (cursor : Option HistoryCursor) (registerSources providerTruncated : Bool) :
    Py HistoryPageProgress := do
  valueErrorIf (registerSources = false ∧ (cursor = none ∨ providerTruncated = true))
    (ascii "history subdivision must preserve a cursor without a gap")
  return ⟨cursor, registerSources, providerTruncated⟩

/-- The population of a window does not fit into its pages. -/
def ProviderRunDiscoveryPage.overflows (page : ProviderRunDiscoveryPage) : Bool :=
  decide (discoveryPageSize * maxDiscoveryPages < page.providerTotal)

/-- The progress of a page that is not subdivided. -/
def followPage (cursor : HistoryCursor) (page : ProviderRunDiscoveryPage) : Py HistoryPageProgress := do
  if page.termination = .nextPage then
    let next ← HistoryCursor.make { cursor.toHistoryCursorFields with pageNumber := cursor.pageNumber + 1 }
    HistoryPageProgress.make (some next) true false
  else
    let next ← cursor.advanceWindow
    HistoryPageProgress.make next true (decide (page.termination = .truncated) || page.overflows)

def advanceHistoryCursor (cursor : HistoryCursor) (page : ProviderRunDiscoveryPage) : Py HistoryPageProgress := do
  valueErrorIf ((page.scope, page.window, page.pageNumber) ≠ (cursor.scope, cursor.window, cursor.pageNumber))
    (ascii "history page does not match its exact cursor")
  if page.overflows = true then
    let split ← cursor.split
    match split with
    | some part => HistoryPageProgress.make (some part) false false
    | none => followPage cursor page
  else followPage cursor page

structure HistoryAttemptCursorFields where
  scope : RepositoryScope
  workflowRunId : Int
  latestAttempt : Int
  nextAttempt : Int
  deriving DecidableEq

def HistoryAttemptCursorFields.postInit (self : HistoryAttemptCursorFields) : Py Unit := do
  forEach (fun (entry : Text × Int) => positiveId entry.2 entry.1)
    [(ascii "workflow_run_id", self.workflowRunId), (ascii "latest_attempt", self.latestAttempt),
      (ascii "next_attempt", self.nextAttempt)]
  valueErrorIf (self.latestAttempt < self.nextAttempt) (ascii "next attempt exceeds the frozen attempt population")

/-- The next attempt of a run whose latest attempt is known. -/
structure HistoryAttemptCursor extends HistoryAttemptCursorFields where
  admitted : toHistoryAttemptCursorFields.postInit = .ok ()
  deriving DecidableEq

def HistoryAttemptCursor.make (fields : HistoryAttemptCursorFields) : Py HistoryAttemptCursor :=
  construct fields.postInit fun admitted => ⟨fields, admitted⟩

def HistoryAttemptCursor.advance (self : HistoryAttemptCursor) (scope : RepositoryScope)
    (workflowRunId runAttempt : Int) : Py (Option HistoryAttemptCursor) := do
  positiveId workflowRunId (ascii "workflow run ID")
  positiveId runAttempt (ascii "run attempt")
  valueErrorIf ((scope, workflowRunId, runAttempt) ≠ (self.scope, self.workflowRunId, self.nextAttempt))
    (ascii "history completion does not match the exact attempt cursor")
  if self.nextAttempt = self.latestAttempt then
    return none
  else
    let next ← HistoryAttemptCursor.make { self.toHistoryAttemptCursorFields with nextAttempt := self.nextAttempt + 1 }
    return some next

structure HistoryPendingPageFields where
  observed : ProviderObservationPage
  runIndex : Nat
  nextAttempt : Int
  deriving DecidableEq

/-- The fields of the attempt cursor that a source of the page stands for. -/
def attemptFields (scope : RepositoryScope) (source : ProviderRunCollectionSource) (nextAttempt : Int) :
    HistoryAttemptCursorFields where
  scope := scope
  workflowRunId := source.attempt.workflowRunId
  latestAttempt := source.attempt.runAttempt
  nextAttempt := nextAttempt

def HistoryPendingPageFields.postInit (self : HistoryPendingPageFields) : Py Unit :=
  match self.observed.page.sources[self.runIndex]? with
  | none => .error (.valueError (ascii "pending history index is outside its bounded source page"))
  | some source => (attemptFields self.observed.page.scope source self.nextAttempt).postInit

/-- A registered page with the run and the attempt that come next. -/
structure HistoryPendingPage extends HistoryPendingPageFields where
  admitted : toHistoryPendingPageFields.postInit = .ok ()
  deriving DecidableEq

def HistoryPendingPage.make (fields : HistoryPendingPageFields) : Py HistoryPendingPage :=
  construct fields.postInit fun admitted => ⟨fields, admitted⟩

namespace HistoryPendingPage

variable (self : HistoryPendingPage)

theorem index_lt : self.runIndex < self.observed.page.sources.length := by
  have admitted := self.admitted
  unfold HistoryPendingPageFields.postInit at admitted
  split at admitted
  · cases admitted
  · rename_i source found
    exact (List.getElem?_eq_some_iff.mp found).1

def source : ProviderRunCollectionSource :=
  self.observed.page.sources.get ⟨self.runIndex, self.index_lt⟩

def attemptCursor : Py HistoryAttemptCursor :=
  HistoryAttemptCursor.make (attemptFields self.observed.page.scope self.source self.nextAttempt)

def workflowId : Int :=
  self.observed.workflowIds.get ⟨self.runIndex, by rw [self.observed.facts.1]; exact self.index_lt⟩

end HistoryPendingPage

structure HistoryCheckpointFields where
  cursor : HistoryCursor
  pending : Option HistoryPendingPage
  complete : Bool
  deriving DecidableEq

def HistoryCheckpointFields.postInit (self : HistoryCheckpointFields) : Py Unit := do
  valueErrorIf (self.complete = true ∧
      (self.pending ≠ none ∨ self.cursor.window.createdThrough ≠ self.cursor.createdThrough))
    (ascii "completed history must reach its interval end without pending work")
  match self.pending with
  | none => return ()
  | some pending =>
    let progress ← advanceHistoryCursor self.cursor pending.observed.page
    valueErrorIf (progress.registerSources = false)
      (ascii "a subdivided page cannot also become pending attempt work")

/-- The cursor of a backfill, with the page whose runs are being read. -/
structure HistoryCheckpoint extends HistoryCheckpointFields where
  admitted : toHistoryCheckpointFields.postInit = .ok ()
  deriving DecidableEq

namespace HistoryCheckpoint

def make (cursor : HistoryCursor) (pending : Option HistoryPendingPage) (complete : Bool) : Py HistoryCheckpoint :=
  construct (HistoryCheckpointFields.postInit ⟨cursor, pending, complete⟩) fun admitted =>
    ⟨⟨cursor, pending, complete⟩, admitted⟩

variable (self : HistoryCheckpoint)

def afterPage (cursor : Option HistoryCursor) : Py HistoryCheckpoint :=
  make (cursor.getD self.cursor) none cursor.isNone

/-- A page that is accepted reports whether the provider has left runs out. -/
def acceptPage (observed : ProviderObservationPage) : Py (HistoryCheckpoint × Bool) := do
  valueErrorIf (self.complete = true ∨ self.pending ≠ none) (ascii "history checkpoint is not awaiting a provider page")
  let progress ← advanceHistoryCursor self.cursor observed.page
  if progress.registerSources = false ∨ observed.page.sources = [] then
    let next ← self.afterPage progress.cursor
    return (next, progress.providerTruncated)
  else
    let pending ← HistoryPendingPage.make { observed := observed, runIndex := 0, nextAttempt := 1 }
    let next ← make self.cursor (some pending) false
    return (next, progress.providerTruncated)

def advanceRun (pending : HistoryPendingPage) : Py HistoryCheckpoint := do
  if pending.runIndex + 1 < pending.observed.page.sources.length then
    let next ← HistoryPendingPage.make
      { observed := pending.observed, runIndex := pending.runIndex + 1, nextAttempt := 1 }
    make self.cursor (some next) self.complete
  else
    let progress ← advanceHistoryCursor self.cursor pending.observed.page
    self.afterPage progress.cursor

def completeAttempt (scope : RepositoryScope) (workflowRunId runAttempt : Int) :
    Py HistoryCheckpoint := do
  match self.pending with
  | none => .error (.valueError (ascii "history checkpoint is not awaiting an attempt result"))
  | some pending =>
    let expected ← pending.attemptCursor
    let successor ← expected.advance scope workflowRunId runAttempt
    match successor with
    | some successor =>
      let next ← HistoryPendingPage.make
        { pending.toHistoryPendingPageFields with nextAttempt := successor.nextAttempt }
      make self.cursor (some next) self.complete
    | none => self.advanceRun pending

def skipUnselectedRun (configuration : HistoryConfiguration) : Py HistoryCheckpoint := do
  match self.pending with
  | none => .error (.valueError (ascii "only an explicitly unselected pending workflow may be skipped"))
  | some pending =>
    let selected ← configuration.selects pending.workflowId
    valueErrorIf (selected = true) (ascii "only an explicitly unselected pending workflow may be skipped")
    self.advanceRun pending

def handoffRun (scope : RepositoryScope) (workflowRunId : Int) : Py HistoryCheckpoint := do
  match self.pending with
  | none => .error (.valueError (ascii "whole-run handoff requires an unconsumed pending run"))
  | some pending =>
    valueErrorIf (pending.nextAttempt ≠ 1) (ascii "whole-run handoff requires an unconsumed pending run")
    let expected ← pending.attemptCursor
    valueErrorIf ((scope, workflowRunId) ≠ (expected.scope, expected.workflowRunId))
      (ascii "history handoff substitutes its pending run")
    self.advanceRun pending

end HistoryCheckpoint

end CiCoordinator.CiEconomics

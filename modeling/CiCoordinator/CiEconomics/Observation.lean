import CiCoordinator.CiEconomics.Discovery

/- The configuration of an observation and the cursor that drives a cycle of it. -/

namespace CiCoordinator.CiEconomics

open Library Kernel ConfigControl

def maxObservationWorkflowIds : Nat :=
  32

def maxObservationBackfillDays : Nat :=
  6

/-- The longest window of an observation is six hours. -/
def maxObservationSubwindowSeconds : Nat :=
  21600

/-- The workflows of a selector are bounded, distinct and in order. -/
def AdmittedSelector (workflowIds : List Int) : Prop :=
  1 ≤ workflowIds.length ∧ workflowIds.length ≤ maxObservationWorkflowIds ∧
    (∀ id ∈ workflowIds, 1 ≤ id ∧ id ≤ maxSafeJsonInteger) ∧ workflowIds.Pairwise (· < ·)

instance (workflowIds : List Int) : Decidable (AdmittedSelector workflowIds) :=
  inferInstanceAs (Decidable (_ ∧ _ ∧ _ ∧ _))

theorem allWorkflows : ∀ ids ∈ (none : Option (List Int)), AdmittedSelector ids := by
  simp

/-- The constructor sorts the workflows of the selector, so the value has them in order. -/
structure ObservationConfiguration where
  enabled : Bool
  workflowIds : Option (List Int)
  backfillDays : Nat
  backfill : backfillDays ≤ maxObservationBackfillDays
  selector : ∀ ids ∈ workflowIds, AdmittedSelector ids
  deriving DecidableEq

namespace ObservationConfiguration

variable (self : ObservationConfiguration)

def selects (workflowId : Int) : Py Bool := do
  positiveId workflowId (ascii "workflow ID")
  return self.workflowIds.all fun ids => decide (workflowId ∈ ids)

def selectorMapping : Json :=
  .obj [(ascii "kind", .str (ascii (if self.workflowIds.isNone then "all" else "selected"))),
    (ascii "workflowIds", match self.workflowIds with
      | none => .null
      | some ids => .arr (ids.map .int))]

def selectorDigest : Py Text :=
  hashObject self.selectorMapping

end ObservationConfiguration

structure ObservationSnapshotFields where
  scope : RepositoryScope
  revision : Int
  configuration : ObservationConfiguration
  configuredAt : Instant
  deriving DecidableEq

def ObservationSnapshotFields.postInit (self : ObservationSnapshotFields) : Py Unit :=
  positiveId self.revision (ascii "observation revision")

/-- The configuration that an observation runs under. -/
structure ObservationSnapshot extends ObservationSnapshotFields where
  admitted : toObservationSnapshotFields.postInit = .ok ()
  deriving DecidableEq

structure ObservationCursorFields where
  interval : RunDiscoveryWindow
  window : RunDiscoveryWindow
  pageNumber : Nat
  cycleStartedAt : Instant
  deriving DecidableEq

def ObservationCursorFields.postInit (self : ObservationCursorFields) : Py Unit := do
  valueErrorIf (¬ (self.interval.createdFrom ≤ self.window.createdFrom ∧
      self.window.createdFrom ≤ self.window.createdThrough ∧
      self.window.createdThrough ≤ self.interval.createdThrough))
    (ascii "active observation window is outside the frozen interval")
  valueErrorIf (secondMicros * maxObservationSubwindowSeconds <
      self.window.createdThrough.micros - self.window.createdFrom.micros)
    (ascii "active observation window exceeds six hours")
  valueErrorIf (¬ (1 ≤ self.pageNumber ∧ self.pageNumber ≤ maxDiscoveryPages))
    (ascii "observation page exceeds its bound")
  valueErrorIf (self.cycleStartedAt < self.interval.createdThrough)
    (ascii "observation interval cannot extend past its cycle start")

/-- The cursor of an observation cycle over a frozen interval. -/
structure ObservationCursor extends ObservationCursorFields where
  admitted : toObservationCursorFields.postInit = .ok ()
  deriving DecidableEq

def ObservationCursor.make (fields : ObservationCursorFields) : Py ObservationCursor :=
  construct fields.postInit fun admitted => ⟨fields, admitted⟩

/-- The first window of an interval has at most the width of an observation window. -/
def subwindow (start finish : Instant) : Py RunDiscoveryWindow := do
  let through ← addMicros start (min (finish.micros - start.micros) (secondMicros * maxObservationSubwindowSeconds))
  RunDiscoveryWindow.make start through

namespace ObservationCursor

def start (interval : RunDiscoveryWindow) (cycleStartedAt : Instant) : Py ObservationCursor := do
  let window ← subwindow interval.createdFrom interval.createdThrough
  ObservationCursor.make { interval := interval, window := window, pageNumber := 1, cycleStartedAt := cycleStartedAt }

def split (self : ObservationCursor) : Py (Option ObservationCursor) := do
  let seconds := (self.window.createdThrough.micros - self.window.createdFrom.micros) / secondMicros
  if seconds ≤ 1 then
    return none
  else
    let middle ← addSeconds self.window.createdFrom (seconds / 2)
    let window ← RunDiscoveryWindow.make self.window.createdFrom middle
    let cursor ← ObservationCursor.make { self.toObservationCursorFields with window := window, pageNumber := 1 }
    return some cursor

def advanceWindow (self : ObservationCursor) : Py (Option ObservationCursor) := do
  if self.window.createdThrough = self.interval.createdThrough then
    return none
  else
    let window ← subwindow self.window.createdThrough self.interval.createdThrough
    let cursor ← ObservationCursor.make { self.toObservationCursorFields with window := window, pageNumber := 1 }
    return some cursor

end ObservationCursor

/-- The progress of a page, with whether the provider left runs out. -/
structure ObservationPageProgress where
  cursor : Option ObservationCursor
  registerSources : Bool
  providerTruncated : Bool
  deriving DecidableEq

def ObservationPageProgress.make (cursor : Option ObservationCursor) (registerSources providerTruncated : Bool) :
    Py ObservationPageProgress := do
  valueErrorIf (registerSources = false ∧ (cursor = none ∨ providerTruncated = true))
    (ascii "a split must retain a cursor without declaring a gap")
  return ⟨cursor, registerSources, providerTruncated⟩

def advanceDiscoveryCursor (cursor : ObservationCursor) (page : ProviderRunDiscoveryPage) :
    Py ObservationPageProgress := do
  valueErrorIf (page.window ≠ cursor.window ∨ page.pageNumber ≠ cursor.pageNumber)
    (ascii "discovery page does not match its exact cursor")
  if discoveryPageSize * maxDiscoveryPages < page.providerTotal then
    let split ← cursor.split
    match split with
    | some part => ObservationPageProgress.make (some part) false false
    | none =>
      let next ← cursor.advanceWindow
      ObservationPageProgress.make next true true
  else if page.termination = .nextPage then
    let next ← ObservationCursor.make { cursor.toObservationCursorFields with pageNumber := cursor.pageNumber + 1 }
    ObservationPageProgress.make (some next) true false
  else
    let next ← cursor.advanceWindow
    ObservationPageProgress.make next true (decide (page.termination = .truncated))

end CiCoordinator.CiEconomics

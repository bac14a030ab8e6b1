import CiCoordinator.CiEconomics.HistoryCheckpoint

/- What each page and each attempt does to a history checkpoint. -/

namespace CiCoordinator.CiEconomics

open Library Kernel ConfigControl List

/-- What the constructor of a history cursor checks. -/
structure HistoryCursorFields.Admitted (fields : HistoryCursorFields) : Prop where
  wholeSeconds : fields.createdFrom.microsecond = 0 ∧ fields.createdThrough.microsecond = 0
  inside : fields.createdFrom ≤ fields.window.createdFrom ∧ fields.window.createdFrom ≤ fields.window.createdThrough ∧
    fields.window.createdThrough ≤ fields.createdThrough ∧ fields.createdThrough ≤ fields.cycleStartedAt
  positiveWidth : fields.createdFrom ≠ fields.createdThrough → fields.window.createdFrom < fields.window.createdThrough
  page : 1 ≤ fields.pageNumber ∧ fields.pageNumber ≤ maxDiscoveryPages

variable {cursor : HistoryCursor} {page : ProviderRunDiscoveryPage} {scope : RepositoryScope}

theorem HistoryCursorFields.postInit_eq_ok (fields : HistoryCursorFields) : fields.postInit = .ok () ↔ fields.Admitted := by
  simp only [postInit, bind_unit_eq_ok, forEach_eq_ok, mem_cons, not_mem_nil, or_false, forall_eq_or_imp,
    forall_eq, raiseIf_eq_ok, not_not, ne_eq]
  constructor
  · rintro ⟨whole, inside, width, page⟩
    exact ⟨whole, inside, fun wide => lt_of_le_of_ne inside.2.1 fun same => width ⟨same, wide⟩, page⟩
  · intro admitted
    exact ⟨admitted.wholeSeconds, admitted.inside, fun empty => (admitted.positiveWidth empty.2).ne empty.1, admitted.page⟩

namespace HistoryCursor

theorem facts (cursor : HistoryCursor) : cursor.Admitted :=
  (HistoryCursorFields.postInit_eq_ok _).mp cursor.admitted

theorem make_ok {fields : HistoryCursorFields} (admitted : fields.Admitted) :
    ∃ cursor, HistoryCursor.make fields = .ok cursor ∧ cursor.toHistoryCursorFields = fields :=
  ⟨⟨fields, (HistoryCursorFields.postInit_eq_ok _).mpr admitted⟩, construct_ok _, rfl⟩

theorem make_eq_ok {fields : HistoryCursorFields} {cursor : HistoryCursor} (made : HistoryCursor.make fields = .ok cursor) :
    cursor.toHistoryCursorFields = fields := by
  obtain ⟨passed, rfl⟩ := construct_eq_ok.mp made
  rfl

end HistoryCursor

/-- The first window of an interval starts with it, ends inside it and is only empty with it. -/
theorem segment_spec {start finish : Instant} (wholeStart : start.microsecond = 0) (wholeFinish : finish.microsecond = 0)
    (ordered : start ≤ finish) :
    ∃ window, segment start finish = .ok window ∧ window.createdFrom = start ∧ window.createdThrough ≤ finish ∧
      (start < finish → start < window.createdThrough) := by
  obtain ⟨through, window, sum, made, starts, ends, _, wide⟩ := @RunDiscoveryWindow.make_prefix start finish
    maxDiscoveryWindowSeconds wholeStart wholeFinish ordered ⟨by decide, le_rfl⟩
  refine ⟨window, ?_, starts, ends, wide⟩
  rw [segment, valueErrorIf_passes (not_lt.mpr ordered), ok_bind_eq, sum, ok_bind_eq, made]

/-- A later cursor over the same population. -/
def SamePopulation (first second : HistoryCursor) : Prop :=
  second.scope = first.scope ∧ second.createdFrom = first.createdFrom ∧ second.createdThrough = first.createdThrough ∧
    second.cycleStartedAt = first.cycleStartedAt

namespace HistoryCursor

/-- A split halves the window unless it is a single second. -/
theorem split_spec (cursor : HistoryCursor) : cursor.split = .ok none ∨
      ∃ part, cursor.split = .ok (some part) ∧ SamePopulation cursor part ∧ part.pageNumber = 1 ∧
        part.window.createdFrom = cursor.window.createdFrom ∧ part.window.createdFrom < part.window.createdThrough ∧
        part.window.createdThrough < cursor.window.createdThrough := by
  have facts := cursor.facts
  rw [split]
  split
  · exact .inl rfl
  · rename_i wide
    obtain ⟨middle, part, sum, made, starts, positive, narrower⟩ := cursor.window.make_half wide
    have admitted : HistoryCursorFields.Admitted { cursor.toHistoryCursorFields with window := part, pageNumber := 1 } := by
      refine ⟨facts.wholeSeconds, ⟨?_, part.facts.2.1, ?_, facts.inside.2.2.2⟩, fun _ => positive, firstPage⟩
      · exact starts ▸ facts.inside.1
      · exact narrower.le.trans facts.inside.2.2.1
    obtain ⟨next, built, same⟩ := make_ok admitted
    refine .inr ⟨next, ?_, ?_, ?_, ?_, ?_, ?_⟩
    · rw [sum, ok_bind_eq, made, ok_bind_eq, built]
      rfl
    · simp only [SamePopulation, same, and_self]
    · rw [same]
    · rw [same]
      exact starts
    · rw [same]
      exact positive
    · rw [same]
      exact narrower

/-- The next window begins where the last one ended, until the interval is used up. -/
theorem advanceWindow_spec (cursor : HistoryCursor) :
    (cursor.window.createdThrough = cursor.createdThrough ∧ cursor.advanceWindow = .ok none) ∨
      ∃ next, cursor.advanceWindow = .ok (some next) ∧ cursor.window.createdThrough ≠ cursor.createdThrough ∧
        SamePopulation cursor next ∧ next.pageNumber = 1 ∧
        next.window.createdFrom = cursor.window.createdThrough := by
  have facts := cursor.facts
  rw [advanceWindow]
  split
  · exact .inl ⟨‹_›, rfl⟩
  · rename_i unfinished
    have later : cursor.window.createdThrough < cursor.createdThrough := lt_of_le_of_ne facts.inside.2.2.1 unfinished
    obtain ⟨window, made, starts, ends, wide⟩ := segment_spec cursor.window.facts.1.2 facts.wholeSeconds.2 later.le
    have admitted : HistoryCursorFields.Admitted { cursor.toHistoryCursorFields with window := window, pageNumber := 1 } := by
      refine ⟨facts.wholeSeconds, ⟨?_, window.facts.2.1, ends, facts.inside.2.2.2⟩, ?_, firstPage⟩
      · exact starts ▸ facts.inside.1.trans facts.inside.2.1
      · exact fun _ => starts ▸ wide later
    obtain ⟨next, built, same⟩ := make_ok admitted
    refine .inr ⟨next, ?_, unfinished, ?_, ?_, ?_⟩
    · rw [made, ok_bind_eq, built]
      rfl
    · simp only [SamePopulation, same, and_self]
    · rw [same]
    · rw [same]
      exact starts

end HistoryCursor

/-- A page answers the exact question of a cursor. -/
def Answers (cursor : HistoryCursor) (page : ProviderRunDiscoveryPage) : Prop :=
  page.scope = cursor.scope ∧ page.window = cursor.window ∧ page.pageNumber = cursor.pageNumber

/-- Whether the provider has left runs of a window out. -/
def ProviderRunDiscoveryPage.truncates (page : ProviderRunDiscoveryPage) : Bool :=
  decide (page.termination = .truncated) || page.overflows

/-- What the progress of a page can be. -/
inductive PageStep (cursor : HistoryCursor) (page : ProviderRunDiscoveryPage) : HistoryPageProgress → Prop
  | split {part : HistoryCursor} (population : SamePopulation cursor part) (first : part.pageNumber = 1)
      (starts : part.window.createdFrom = cursor.window.createdFrom)
      (wide : part.window.createdFrom < part.window.createdThrough)
      (narrower : part.window.createdThrough < cursor.window.createdThrough) :
      PageStep cursor page ⟨some part, false, false⟩
  | nextPage {next : HistoryCursor} (announced : page.termination = .nextPage)
      (fields : next.toHistoryCursorFields = { cursor.toHistoryCursorFields with pageNumber := cursor.pageNumber + 1 }) :
      PageStep cursor page ⟨some next, true, false⟩
  | nextWindow {next : HistoryCursor} (last : page.termination ≠ .nextPage)
      (unfinished : cursor.window.createdThrough ≠ cursor.createdThrough) (population : SamePopulation cursor next)
      (first : next.pageNumber = 1) (starts : next.window.createdFrom = cursor.window.createdThrough) :
      PageStep cursor page ⟨some next, true, page.truncates⟩
  | finished (last : page.termination ≠ .nextPage) (ends : cursor.window.createdThrough = cursor.createdThrough) :
      PageStep cursor page ⟨none, true, page.truncates⟩

theorem followPage_spec (answers : Answers cursor page) :
    ∃ progress, followPage cursor page = .ok progress ∧ PageStep cursor page progress := by
  have facts := cursor.facts
  have registers : ∀ (next : Option HistoryCursor) (truncated : Bool),
      HistoryPageProgress.make next true truncated = .ok ⟨next, true, truncated⟩ := by
    intro next truncated
    simp [HistoryPageProgress.make, raiseIf, pure, Except.pure]
  rw [followPage]
  split
  · rename_i announced
    have room := (page.nextPage_facts announced).2
    rw [answers.2.2] at room
    obtain ⟨next, built, same⟩ := @HistoryCursor.make_ok { cursor.toHistoryCursorFields with pageNumber := cursor.pageNumber + 1 }
      ⟨facts.wholeSeconds, facts.inside, facts.positiveWidth, ⟨Nat.le_add_left _ _, room⟩⟩
    rw [built, ok_bind_eq, registers]
    exact ⟨_, rfl, .nextPage announced same⟩
  · rename_i last
    rcases cursor.advanceWindow_spec with ⟨ends, moved⟩ | ⟨next, moved, unfinished, population, first, starts⟩
    · rw [moved, ok_bind_eq, registers]
      exact ⟨_, rfl, .finished last ends⟩
    · rw [moved, ok_bind_eq, registers]
      exact ⟨_, rfl, .nextWindow last unfinished population first starts⟩

/-- Every page that answers a cursor makes progress. -/
theorem advanceHistoryCursor_spec (answers : Answers cursor page) :
    ∃ progress, advanceHistoryCursor cursor page = .ok progress ∧ PageStep cursor page progress := by
  have exact : (page.scope, page.window, page.pageNumber) = (cursor.scope, cursor.window, cursor.pageNumber) := by
    rw [answers.1, answers.2.1, answers.2.2]
  rw [advanceHistoryCursor, valueErrorIf_passes (not_not.mpr exact), ok_bind_eq]
  split
  · rcases cursor.split_spec with single | ⟨part, split, population, first, starts, wide, narrower⟩
    · rw [single, ok_bind_eq]
      exact followPage_spec answers
    · rw [split, ok_bind_eq]
      exact ⟨⟨some part, false, false⟩, by simp [HistoryPageProgress.make, raiseIf, pure, Except.pure],
        .split population first starts wide narrower⟩
  · exact followPage_spec answers

/-- Only a page that answers the cursor makes progress. -/
theorem answers_of_advance {progress : HistoryPageProgress}
    (advanced : advanceHistoryCursor cursor page = .ok progress) : Answers cursor page := by
  simp only [advanceHistoryCursor, bind_eq_ok, raiseIf_eq_ok, not_not, ne_eq, Prod.mk.injEq] at advanced
  obtain ⟨_, exact, _⟩ := advanced
  exact exact

theorem pageStep_of_advance {progress : HistoryPageProgress}
    (advanced : advanceHistoryCursor cursor page = .ok progress) : PageStep cursor page progress := by
  obtain ⟨other, computed, step⟩ := advanceHistoryCursor_spec (answers_of_advance advanced)
  rw [advanced] at computed
  exact Except.ok.inj computed ▸ step

/-- An interval of whole seconds that has ended can be scanned. -/
theorem HistoryCursor.start_spec {createdFrom createdThrough cycleStartedAt : Instant}
    (wholeFrom : createdFrom.microsecond = 0) (wholeThrough : createdThrough.microsecond = 0)
    (ordered : createdFrom ≤ createdThrough) (ended : createdThrough ≤ cycleStartedAt) :
    ∃ cursor, HistoryCursor.start scope createdFrom createdThrough cycleStartedAt = .ok cursor ∧
      cursor.scope = scope ∧ cursor.createdFrom = createdFrom ∧ cursor.createdThrough = createdThrough ∧
      cursor.cycleStartedAt = cycleStartedAt ∧ cursor.window.createdFrom = createdFrom ∧ cursor.pageNumber = 1 := by
  obtain ⟨window, made, starts, ends, wide⟩ := segment_spec wholeFrom wholeThrough ordered
  obtain ⟨cursor, built, same⟩ := @HistoryCursor.make_ok
    { scope := scope, createdFrom := createdFrom, createdThrough := createdThrough, window := window, pageNumber := 1,
      cycleStartedAt := cycleStartedAt }
    ⟨⟨wholeFrom, wholeThrough⟩, ⟨starts.ge, window.facts.2.1, ends, ended⟩,
      fun different => starts ▸ wide (lt_of_le_of_ne ordered different), firstPage⟩
  refine ⟨cursor, ?_, ?_⟩
  · rw [HistoryCursor.start, made, ok_bind_eq, built]
  · simp only [same, starts, and_self]

theorem HistoryCursor.start_eq_ok {createdFrom createdThrough cycleStartedAt : Instant}
    (started : HistoryCursor.start scope createdFrom createdThrough cycleStartedAt = .ok cursor) :
    cursor.scope = scope ∧ cursor.createdFrom = createdFrom ∧ cursor.createdThrough = createdThrough ∧
      cursor.cycleStartedAt = cycleStartedAt ∧ cursor.window.createdFrom = createdFrom ∧ cursor.pageNumber = 1 := by
  simp only [HistoryCursor.start, segment, bind_eq_ok] at started
  obtain ⟨window, ⟨_, _, through, _, made⟩, built⟩ := started
  have same := HistoryCursor.make_eq_ok built
  obtain ⟨passed, rfl⟩ := construct_eq_ok.mp made
  simp only [same, and_self]

theorem HistoryAttemptCursorFields.postInit_eq_ok (fields : HistoryAttemptCursorFields) : fields.postInit = .ok () ↔
    (1 ≤ fields.workflowRunId ∧ fields.workflowRunId ≤ maxSafeJsonInteger) ∧
      (1 ≤ fields.latestAttempt ∧ fields.latestAttempt ≤ maxSafeJsonInteger) ∧
      (1 ≤ fields.nextAttempt ∧ fields.nextAttempt ≤ maxSafeJsonInteger) ∧ fields.nextAttempt ≤ fields.latestAttempt := by
  simp only [postInit, bind_unit_eq_ok, forEach_eq_ok, mem_cons, not_mem_nil, or_false, forall_eq_or_imp,
    forall_eq, positiveId_eq_ok, raiseIf_eq_ok, not_lt, and_assoc]

theorem attemptFields_admitted {source : ProviderRunCollectionSource} {nextAttempt : Int} (first : 1 ≤ nextAttempt)
    (last : nextAttempt ≤ source.attempt.runAttempt) :
    (attemptFields scope source nextAttempt).postInit = .ok () := by
  have bounds := source.attempt.bounds
  rw [HistoryAttemptCursorFields.postInit_eq_ok]
  exact ⟨bounds.1, bounds.2.1, ⟨first, last.trans bounds.2.1.2⟩, last⟩

namespace HistoryPendingPage

theorem make_ok {observed : ProviderObservationPage} {index : Nat} {nextAttempt : Int}
    (inside : index < observed.page.sources.length) (first : 1 ≤ nextAttempt)
    (last : nextAttempt ≤ (observed.page.sources.get ⟨index, inside⟩).attempt.runAttempt) :
    ∃ pending, HistoryPendingPage.make ⟨observed, index, nextAttempt⟩ = .ok pending ∧
      pending.toHistoryPendingPageFields = ⟨observed, index, nextAttempt⟩ := by
  have passed : HistoryPendingPageFields.postInit ⟨observed, index, nextAttempt⟩ = .ok () := by
    simp only [HistoryPendingPageFields.postInit, getElem?_eq_getElem inside]
    exact attemptFields_admitted first last
  exact ⟨⟨_, passed⟩, construct_ok _, rfl⟩

/-- The next attempt of a pending run is one of its attempts. -/
theorem attempt_bounds (self : HistoryPendingPage) :
    1 ≤ self.nextAttempt ∧ self.nextAttempt ≤ self.source.attempt.runAttempt := by
  have admitted := self.admitted
  simp only [HistoryPendingPageFields.postInit, getElem?_eq_getElem self.index_lt] at admitted
  have bounds := (HistoryAttemptCursorFields.postInit_eq_ok _).mp admitted
  exact ⟨bounds.2.2.1.1, bounds.2.2.2⟩

theorem attemptCursor_spec (self : HistoryPendingPage) : ∃ expected, self.attemptCursor = .ok expected ∧
      expected.toHistoryAttemptCursorFields = attemptFields self.observed.page.scope self.source self.nextAttempt :=
  ⟨⟨_, attemptFields_admitted self.attempt_bounds.1 self.attempt_bounds.2⟩, construct_ok _, rfl⟩

end HistoryPendingPage

namespace HistoryCheckpoint

variable {cursor : HistoryCursor} {checkpoint : HistoryCheckpoint}

theorem make_eq_ok {pending : Option HistoryPendingPage} {complete : Bool}
    (made : HistoryCheckpoint.make cursor pending complete = .ok checkpoint) :
    checkpoint.toHistoryCheckpointFields = ⟨cursor, pending, complete⟩ := by
  obtain ⟨passed, rfl⟩ := construct_eq_ok.mp made
  rfl

/-- A checkpoint that awaits a page can be made from every cursor. -/
theorem make_awaiting (cursor : HistoryCursor) : ∃ checkpoint, HistoryCheckpoint.make cursor none false = .ok checkpoint ∧
      checkpoint.toHistoryCheckpointFields = ⟨cursor, none, false⟩ := by
  have passed : HistoryCheckpointFields.postInit ⟨cursor, none, false⟩ = .ok () := by
    simp [HistoryCheckpointFields.postInit, raiseIf, pure, Except.pure]
  exact ⟨⟨_, passed⟩, construct_ok passed, rfl⟩

theorem make_complete (ends : cursor.window.createdThrough = cursor.createdThrough) :
    ∃ checkpoint, HistoryCheckpoint.make cursor none true = .ok checkpoint ∧
      checkpoint.toHistoryCheckpointFields = ⟨cursor, none, true⟩ := by
  have passed : HistoryCheckpointFields.postInit ⟨cursor, none, true⟩ = .ok () := by
    simp [HistoryCheckpointFields.postInit, raiseIf, ends, pure, Except.pure]
  exact ⟨⟨_, passed⟩, construct_ok passed, rfl⟩

theorem make_pending {pending : HistoryPendingPage} {progress : HistoryPageProgress}
    (advanced : advanceHistoryCursor cursor pending.observed.page = .ok progress)
    (registers : progress.registerSources = true) :
    ∃ checkpoint, HistoryCheckpoint.make cursor (some pending) false = .ok checkpoint ∧
      checkpoint.toHistoryCheckpointFields = ⟨cursor, some pending, false⟩ := by
  have passed : HistoryCheckpointFields.postInit ⟨cursor, some pending, false⟩ = .ok () := by
    simp [HistoryCheckpointFields.postInit, raiseIf, advanced, registers]
  exact ⟨⟨_, passed⟩, construct_ok passed, rfl⟩

/-- A pending page was registered by the cursor of its checkpoint. -/
theorem pending_facts {pending : HistoryPendingPage} (waits : checkpoint.pending = some pending) :
    checkpoint.complete = false ∧ ∃ progress,
      advanceHistoryCursor checkpoint.cursor pending.observed.page = .ok progress ∧ progress.registerSources = true ∧
        PageStep checkpoint.cursor pending.observed.page progress := by
  have admitted := checkpoint.admitted
  simp only [HistoryCheckpointFields.postInit, waits, bind_eq_ok, raiseIf_eq_ok, ne_eq, reduceCtorEq,
    not_false_eq_true, true_or, and_true, Bool.not_eq_true, Bool.not_eq_false] at admitted
  obtain ⟨_, running, progress, advanced, registers⟩ := admitted
  exact ⟨running, progress, advanced, registers, pageStep_of_advance advanced⟩

/-- A complete checkpoint has reached the end of its interval. -/
theorem complete_facts (complete : checkpoint.complete = true) :
    checkpoint.pending = none ∧ checkpoint.cursor.window.createdThrough = checkpoint.cursor.createdThrough := by
  have admitted := checkpoint.admitted
  simp only [HistoryCheckpointFields.postInit, bind_eq_ok, raiseIf_eq_ok, complete, true_and, not_or, not_not, ne_eq] at admitted
  obtain ⟨_, facts, _⟩ := admitted
  exact facts

/-- The checkpoint after a page awaits the next one, or the backfill is complete. -/
theorem afterPage_spec {page : ProviderRunDiscoveryPage} {progress : HistoryPageProgress}
    (step : PageStep checkpoint.cursor page progress) :
    ∃ next, checkpoint.afterPage progress.cursor = .ok next ∧ next.toHistoryCheckpointFields =
      ⟨progress.cursor.getD checkpoint.cursor, none, progress.cursor.isNone⟩ := by
  cases step with
  | split population first starts wide narrower => exact make_awaiting _
  | nextPage announced fields => exact make_awaiting _
  | nextWindow last unfinished population first starts => exact make_awaiting _
  | finished last ends => exact make_complete ends

end HistoryCheckpoint

end CiCoordinator.CiEconomics

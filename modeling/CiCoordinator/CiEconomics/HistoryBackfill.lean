import CiCoordinator.CiEconomics.HistoryProgress

/- The runs of a history backfill and what they cover. -/

namespace CiCoordinator.CiEconomics

open Library Kernel ConfigControl HistoryCheckpoint

/-- The calls that drive a checkpoint. -/
inductive BackfillCall where
  | acceptPage (observed : ProviderObservationPage)
  | completeAttempt (scope : RepositoryScope) (workflowRunId runAttempt : Int)
  | skipUnselectedRun (configuration : HistoryConfiguration)
  | handoffRun (scope : RepositoryScope) (workflowRunId : Int)

/-- What has been done about the run at an index of a page. -/
inductive RunMark where
  | attempted (observed : ProviderObservationPage) (index : Nat) (attempt : Int)
  | skipped (observed : ProviderObservationPage) (index : Nat) (configuration : HistoryConfiguration)
  | handedOff (observed : ProviderObservationPage) (index : Nat)

/-- A window that the cursor has left behind, with its pages and whether a truncation was reported for it. -/
structure CoveredWindow where
  window : RunDiscoveryWindow
  pages : List ProviderObservationPage
  gapReported : Bool

/-- The checkpoint and the history of the calls that led to it. -/
structure BackfillWorld where
  checkpoint : HistoryCheckpoint
  covered : List CoveredWindow
  current : List ProviderObservationPage
  superseded : List ProviderObservationPage
  gapReported : Bool
  marks : List RunMark

namespace BackfillWorld

variable (world : BackfillWorld)

/-- The pages whose sources have been registered. -/
def registered : List ProviderObservationPage :=
  world.covered.flatMap CoveredWindow.pages ++ world.superseded ++ world.current

/-- A window is covered when the cursor leaves it, and is kept while its pages follow each other. -/
def moveTo (next : HistoryCheckpoint) : BackfillWorld :=
  if next.complete = true ∨ next.cursor.window ≠ world.checkpoint.cursor.window then
    { world with
      checkpoint := next
      covered := world.covered ++ [⟨world.checkpoint.cursor.window, world.current, world.gapReported⟩]
      current := [] }
  else { world with checkpoint := next }

/-- A run-level call keeps the page until the last of its runs is done. -/
def finishRun (next : HistoryCheckpoint) (mark : RunMark) : BackfillWorld :=
  let marked := { world with marks := mark :: world.marks }
  if next.pending = none then marked.moveTo next else { marked with checkpoint := next }

/-- The mark of a run-level call at the pending run. -/
def runStep (next : Py HistoryCheckpoint) (mark : HistoryPendingPage → RunMark) :
    Py BackfillWorld :=
  match next, world.checkpoint.pending with
  | .error error, _ => .error error
  | .ok next, some pending => .ok (world.finishRun next (mark pending))
  | .ok next, none => .ok { world with checkpoint := next }

def step : BackfillCall → Py BackfillWorld
  | .acceptPage observed => do
    let progress ← advanceHistoryCursor world.checkpoint.cursor observed.page
    let (next, truncated) ← world.checkpoint.acceptPage observed
    if progress.registerSources = false then
      return { world with checkpoint := next, superseded := world.superseded ++ world.current, current := [] }
    else
      let registered := { world with current := world.current ++ [observed], gapReported := truncated }
      return if next.pending = none then registered.moveTo next else { registered with checkpoint := next }
  | .completeAttempt scope workflowRunId runAttempt =>
    world.runStep (world.checkpoint.completeAttempt scope workflowRunId runAttempt) fun pending =>
      .attempted pending.observed pending.runIndex runAttempt
  | .skipUnselectedRun configuration =>
    world.runStep (world.checkpoint.skipUnselectedRun configuration) fun pending =>
      .skipped pending.observed pending.runIndex configuration
  | .handoffRun scope workflowRunId =>
    world.runStep (world.checkpoint.handoffRun scope workflowRunId) fun pending =>
      .handedOff pending.observed pending.runIndex

def initial (checkpoint : HistoryCheckpoint) : BackfillWorld :=
  ⟨checkpoint, [], [], [], false, []⟩

end BackfillWorld

/-- The runs that drive a backfill from its start. -/
inductive BackfillRun (start : BackfillWorld) : BackfillWorld → Prop
  | start : BackfillRun start start
  | step {world next : BackfillWorld} (run : BackfillRun start world) (call : BackfillCall)
      (accepted : world.step call = .ok next) : BackfillRun start next

/-- The windows follow each other from one instant to another. -/
def Tiles : Instant → List CoveredWindow → Instant → Prop
  | first, [], last => first = last
  | first, covered :: rest, last => covered.window.createdFrom = first ∧ Tiles covered.window.createdThrough rest last

theorem Tiles.append {covered : List CoveredWindow} {first middle : Instant} (tiles : Tiles first covered middle)
    {next : CoveredWindow} (starts : next.window.createdFrom = middle) :
    Tiles first (covered ++ [next]) next.window.createdThrough := by
  induction covered generalizing first with
  | nil => exact ⟨starts.trans tiles.symm, rfl⟩
  | cons head rest ih => exact ⟨tiles.1, ih tiles.2⟩

/-- A window is read up to an exhausted page, or a truncation is reported for it. -/
structure CoveredWindow.Read (covered : CoveredWindow) : Prop where
  inOrder : PagesInOrder covered.window covered.pages
  last : ∃ observed, covered.pages.getLast? = some observed ∧
    (observed.page.termination = .exhausted ∨ covered.gapReported = true)

/-- All the attempts of a run have been read, or the run has been skipped as unselected or handed off whole. -/
def Settled (marks : List RunMark) (observed : ProviderObservationPage) (index : Nat) : Prop :=
  (∀ source ∈ observed.page.sources[index]?, ∀ attempt, 1 ≤ attempt → attempt ≤ source.attempt.runAttempt →
      RunMark.attempted observed index attempt ∈ marks) ∨
    (∃ configuration, RunMark.skipped observed index configuration ∈ marks) ∨
    RunMark.handedOff observed index ∈ marks

/-- A run is only skipped under a configuration that does not select its workflow. -/
def SkipsUnselected (marks : List RunMark) : Prop :=
  ∀ observed index configuration, RunMark.skipped observed index configuration ∈ marks →
    ∃ workflowId ∈ observed.workflowIds[index]?, configuration.selects workflowId = .ok false

theorem Settled.mono {marks more : List RunMark} {observed : ProviderObservationPage} {index : Nat}
    (settled : Settled marks observed index) (grows : marks ⊆ more) : Settled more observed index := by
  rcases settled with attempts | ⟨configuration, skipped⟩ | handed
  · exact .inl fun source found attempt first last => grows (attempts source found attempt first last)
  · exact .inr (.inl ⟨configuration, grows skipped⟩)
  · exact .inr (.inr (grows handed))

/-- The marks that end the work on a pending run. -/
inductive Finishes (pending : HistoryPendingPage) : RunMark → Prop
  | lastAttempt (last : pending.nextAttempt = pending.source.attempt.runAttempt) :
      Finishes pending (.attempted pending.observed pending.runIndex pending.nextAttempt)
  | skipped {configuration : HistoryConfiguration} (unselected : configuration.selects pending.workflowId = .ok false) :
      Finishes pending (.skipped pending.observed pending.runIndex configuration)
  | handedOff (unconsumed : pending.nextAttempt = 1) : Finishes pending (.handedOff pending.observed pending.runIndex)

/-- Everything that a call can do to a backfill. -/
inductive BackfillStep (world : BackfillWorld) : BackfillWorld → Prop
  | subdivided {next : HistoryCheckpoint} {part : HistoryCursor} (awaiting : world.checkpoint.pending = none)
      (running : world.checkpoint.complete = false) (population : SamePopulation world.checkpoint.cursor part)
      (first : part.pageNumber = 1) (starts : part.window.createdFrom = world.checkpoint.cursor.window.createdFrom)
      (narrower : part.window.createdThrough < world.checkpoint.cursor.window.createdThrough)
      (fields : next.toHistoryCheckpointFields = ⟨part, none, false⟩) :
      BackfillStep world
        { world with checkpoint := next, superseded := world.superseded ++ world.current, current := [] }
  | opened {next : HistoryCheckpoint} {observed : ProviderObservationPage} {pending : HistoryPendingPage}
      {progress : HistoryPageProgress} (awaiting : world.checkpoint.pending = none)
      (running : world.checkpoint.complete = false)
      (advanced : advanceHistoryCursor world.checkpoint.cursor observed.page = .ok progress)
      (registers : progress.registerSources = true)
      (page : pending.toHistoryPendingPageFields = ⟨observed, 0, 1⟩)
      (fields : next.toHistoryCheckpointFields = ⟨world.checkpoint.cursor, some pending, false⟩) :
      BackfillStep world { world with
          checkpoint := next
          current := world.current ++ [observed]
          gapReported := progress.providerTruncated }
  | passed {next : HistoryCheckpoint} {observed : ProviderObservationPage} {progress : HistoryPageProgress}
      (awaiting : world.checkpoint.pending = none) (running : world.checkpoint.complete = false)
      (empty : observed.page.sources = [])
      (advanced : advanceHistoryCursor world.checkpoint.cursor observed.page = .ok progress)
      (registers : progress.registerSources = true)
      (fields : next.toHistoryCheckpointFields =
        ⟨progress.cursor.getD world.checkpoint.cursor, none, progress.cursor.isNone⟩) :
      BackfillStep world (BackfillWorld.moveTo
        { world with current := world.current ++ [observed], gapReported := progress.providerTruncated } next)
  | attempted {next : HistoryCheckpoint} {pending successor : HistoryPendingPage}
      (waits : world.checkpoint.pending = some pending) (more : pending.nextAttempt < pending.source.attempt.runAttempt)
      (page : successor.toHistoryPendingPageFields =
        { pending.toHistoryPendingPageFields with nextAttempt := pending.nextAttempt + 1 })
      (fields : next.toHistoryCheckpointFields = ⟨world.checkpoint.cursor, some successor, false⟩) :
      BackfillStep world { world with
          checkpoint := next
          marks := .attempted pending.observed pending.runIndex pending.nextAttempt :: world.marks }
  | nextRun {next : HistoryCheckpoint} {pending successor : HistoryPendingPage} {mark : RunMark}
      (waits : world.checkpoint.pending = some pending) (finishes : Finishes pending mark)
      (page : successor.toHistoryPendingPageFields = ⟨pending.observed, pending.runIndex + 1, 1⟩)
      (fields : next.toHistoryCheckpointFields = ⟨world.checkpoint.cursor, some successor, false⟩) :
      BackfillStep world { world with checkpoint := next, marks := mark :: world.marks }
  | pageDone {next : HistoryCheckpoint} {pending : HistoryPendingPage} {mark : RunMark} {progress : HistoryPageProgress}
      (waits : world.checkpoint.pending = some pending) (finishes : Finishes pending mark)
      (last : pending.observed.page.sources.length = pending.runIndex + 1)
      (advanced : advanceHistoryCursor world.checkpoint.cursor pending.observed.page = .ok progress)
      (registers : progress.registerSources = true)
      (fields : next.toHistoryCheckpointFields =
        ⟨progress.cursor.getD world.checkpoint.cursor, none, progress.cursor.isNone⟩) :
      BackfillStep world (BackfillWorld.moveTo { world with marks := mark :: world.marks } next)

/-- The end of a run opens the next run of the page or leaves the page. -/
theorem advanceRun_step {world : BackfillWorld} {pending : HistoryPendingPage} {mark : RunMark}
    (waits : world.checkpoint.pending = some pending) (finishes : Finishes pending mark) :
    ∃ next, world.checkpoint.advanceRun pending = .ok next ∧ BackfillStep world (world.finishRun next mark) := by
  obtain ⟨running, progress, advanced, registers, step⟩ := pending_facts waits
  rw [advanceRun]
  split
  · rename_i inside
    obtain ⟨successor, made, page⟩ := @HistoryPendingPage.make_ok pending.observed (pending.runIndex + 1) 1 inside le_rfl
      (AttemptIdentity.bounds _).2.1.1
    have same : successor.observed = pending.observed := by rw [page]
    obtain ⟨next, built, fields⟩ := @make_pending world.checkpoint.cursor successor progress
      (by rw [same]; exact advanced) registers
    refine ⟨next, by rw [made, ok_bind_eq, running, built], ?_⟩
    have unfinished : next.pending ≠ none := by simp [fields]
    rw [BackfillWorld.finishRun, if_neg unfinished]
    exact .nextRun waits finishes page fields
  · rename_i outside
    have last : pending.observed.page.sources.length = pending.runIndex + 1 := by
      have := pending.index_lt
      omega
    obtain ⟨next, moved, fields⟩ := afterPage_spec step
    refine ⟨next, by rw [advanced, ok_bind_eq, moved], ?_⟩
    have done : next.pending = none := by simp [fields]
    rw [BackfillWorld.finishRun, if_pos done]
    exact .pageDone waits finishes last advanced registers fields

section Calls

variable {world : BackfillWorld}

section Accept

variable {observed : ProviderObservationPage} {progress : HistoryPageProgress}
  (awaiting : world.checkpoint.pending = none) (running : world.checkpoint.complete = false)
  (advanced : advanceHistoryCursor world.checkpoint.cursor observed.page = .ok progress)
include awaiting running advanced

/-- A page of a window that overflows subdivides it, and nothing of the page is registered. -/
theorem acceptPage_subdivides (registers : progress.registerSources = false) : ∃ next, world.step (.acceptPage observed) = .ok
        { world with checkpoint := next, superseded := world.superseded ++ world.current, current := [] } ∧
      next.toHistoryCheckpointFields = ⟨progress.cursor.getD world.checkpoint.cursor, none, progress.cursor.isNone⟩ := by
  have ready : ¬ (world.checkpoint.complete = true ∨ world.checkpoint.pending ≠ none) := by simp [running, awaiting]
  obtain ⟨next, moved, fields⟩ := afterPage_spec (pageStep_of_advance advanced)
  refine ⟨next, ?_, fields⟩
  simp only [BackfillWorld.step, HistoryCheckpoint.acceptPage, valueErrorIf_passes ready, ok_bind_eq, advanced]
  rw [if_pos (.inl registers), moved, ok_bind_eq]
  simp only [pure, Except.pure, registers, if_true, ok_bind_eq]

/-- An empty page is done at once. -/
theorem acceptPage_passes (registers : progress.registerSources = true) (empty : observed.page.sources = []) :
    ∃ next, world.step (.acceptPage observed) = .ok (BackfillWorld.moveTo
        { world with current := world.current ++ [observed], gapReported := progress.providerTruncated } next) ∧
      next.toHistoryCheckpointFields = ⟨progress.cursor.getD world.checkpoint.cursor, none, progress.cursor.isNone⟩ := by
  have ready : ¬ (world.checkpoint.complete = true ∨ world.checkpoint.pending ≠ none) := by simp [running, awaiting]
  obtain ⟨next, moved, fields⟩ := afterPage_spec (pageStep_of_advance advanced)
  refine ⟨next, ?_, fields⟩
  simp only [BackfillWorld.step, HistoryCheckpoint.acceptPage, valueErrorIf_passes ready, ok_bind_eq, advanced]
  rw [if_pos (.inr empty), moved, ok_bind_eq]
  have done : next.pending = none := by simp [fields]
  simp only [pure, Except.pure, registers, Bool.true_eq_false, if_false]
  exact congrArg Except.ok (if_pos done)

/-- A page with runs becomes the pending page. -/
theorem acceptPage_opens (registers : progress.registerSources = true) (present : observed.page.sources ≠ []) :
    ∃ next pending, world.step (.acceptPage observed) = .ok { world with
          checkpoint := next
          current := world.current ++ [observed]
          gapReported := progress.providerTruncated } ∧
      pending.toHistoryPendingPageFields = ⟨observed, 0, 1⟩ ∧
      next.toHistoryCheckpointFields = ⟨world.checkpoint.cursor, some pending, false⟩ := by
  have ready : ¬ (world.checkpoint.complete = true ∨ world.checkpoint.pending ≠ none) := by simp [running, awaiting]
  have inside : 0 < observed.page.sources.length := List.length_pos_iff.mpr present
  obtain ⟨pending, made, page⟩ := @HistoryPendingPage.make_ok observed 0 1 inside le_rfl (AttemptIdentity.bounds _).2.1.1
  have same : pending.observed = observed := by rw [page]
  obtain ⟨next, built, fields⟩ := @make_pending world.checkpoint.cursor pending progress (by rw [same]; exact advanced) registers
  refine ⟨next, pending, ?_, page, fields⟩
  simp only [BackfillWorld.step, HistoryCheckpoint.acceptPage, valueErrorIf_passes ready, ok_bind_eq, advanced]
  rw [if_neg (by simp [registers, present]), made, ok_bind_eq, built, ok_bind_eq]
  have waits : next.pending ≠ none := by simp [fields]
  simp only [pure, Except.pure, registers, Bool.true_eq_false, if_false]
  exact congrArg Except.ok (if_neg waits)

end Accept

/-- A page that answers the cursor is accepted. -/
theorem acceptPage_step {observed : ProviderObservationPage} (awaiting : world.checkpoint.pending = none)
    (running : world.checkpoint.complete = false) (answers : Answers world.checkpoint.cursor observed.page) :
    ∃ next, world.step (.acceptPage observed) = .ok next ∧ BackfillStep world next := by
  obtain ⟨progress, advanced, step⟩ := advanceHistoryCursor_spec answers
  by_cases registers : progress.registerSources = true
  · by_cases empty : observed.page.sources = []
    · obtain ⟨next, accepted, fields⟩ := acceptPage_passes awaiting running advanced registers empty
      exact ⟨_, accepted, .passed awaiting running empty advanced registers fields⟩
    · obtain ⟨next, pending, accepted, page, fields⟩ := acceptPage_opens awaiting running advanced registers empty
      exact ⟨_, accepted, .opened awaiting running advanced registers page fields⟩
  · rw [Bool.not_eq_true] at registers
    obtain ⟨next, accepted, fields⟩ := acceptPage_subdivides awaiting running advanced registers
    refine ⟨_, accepted, ?_⟩
    cases step with
    | split population first starts wide narrower =>
      exact .subdivided awaiting running population first starts narrower fields
    | nextPage announced fields => cases registers
    | nextWindow last unfinished population first starts => cases registers
    | finished last ends => cases registers

/-- The expected attempt is accepted. -/
theorem completeAttempt_step {pending : HistoryPendingPage} (waits : world.checkpoint.pending = some pending) :
    ∃ next, world.step (.completeAttempt pending.observed.page.scope pending.source.attempt.workflowRunId
      pending.nextAttempt) = .ok next ∧ BackfillStep world next := by
  obtain ⟨running, progress, advanced, registers, step⟩ := pending_facts waits
  obtain ⟨expected, named, same⟩ := pending.attemptCursor_spec
  have bounds := pending.attempt_bounds
  have run := pending.source.attempt.bounds
  have positive : ∀ {value : Int} {name : Text}, 1 ≤ value ∧ value ≤ maxSafeJsonInteger → positiveId value name = .ok () :=
    positiveId_eq_ok.mpr
  simp only [BackfillWorld.step, HistoryCheckpoint.completeAttempt, waits, named, ok_bind_eq,
    HistoryAttemptCursor.advance, positive run.1, positive ⟨bounds.1, bounds.2.trans run.2.1.2⟩, same, attemptFields,
    raiseIf, ne_eq, not_true_eq_false, if_false]
  by_cases last : pending.nextAttempt = pending.source.attempt.runAttempt
  · obtain ⟨next, moved, done⟩ := advanceRun_step waits (.lastAttempt last)
    simp only [if_pos last, pure, Except.pure, ok_bind_eq, moved, BackfillWorld.runStep, waits]
    exact ⟨_, rfl, done⟩
  · have more : pending.nextAttempt < pending.source.attempt.runAttempt := lt_of_le_of_ne bounds.2 last
    have passed := @attemptFields_admitted pending.observed.page.scope pending.source (pending.nextAttempt + 1)
      (by omega) (by omega)
    obtain ⟨successor, made, page⟩ := @HistoryPendingPage.make_ok pending.observed pending.runIndex
      (pending.nextAttempt + 1) pending.index_lt (by omega) more
    have observed : successor.observed = pending.observed := by rw [page]
    obtain ⟨next, built, fields⟩ := @make_pending world.checkpoint.cursor successor progress
      (by rw [observed]; exact advanced) registers
    have made' : HistoryAttemptCursor.make (attemptFields pending.observed.page.scope pending.source
        (pending.nextAttempt + 1)) = .ok ⟨_, passed⟩ := construct_ok passed
    simp only [attemptFields] at made'
    simp only [if_neg last, made', pure, Except.pure, ok_bind_eq, made, running, built, BackfillWorld.runStep, waits]
    have unfinished : next.pending ≠ none := by simp [fields]
    rw [BackfillWorld.finishRun, if_neg unfinished]
    exact ⟨_, rfl, .attempted waits more page fields⟩

/-- A run of an unselected workflow is skipped. -/
theorem skipUnselectedRun_step {pending : HistoryPendingPage} {configuration : HistoryConfiguration}
    (waits : world.checkpoint.pending = some pending)
    (unselected : configuration.selects pending.workflowId = .ok false) :
    ∃ next, world.step (.skipUnselectedRun configuration) = .ok next ∧ BackfillStep world next := by
  obtain ⟨next, moved, done⟩ := advanceRun_step waits (.skipped unselected)
  simp only [BackfillWorld.step, HistoryCheckpoint.skipUnselectedRun, waits, unselected, ok_bind_eq, raiseIf,
    Bool.false_eq_true, if_false, moved, BackfillWorld.runStep]
  exact ⟨_, rfl, done⟩

/-- A run of which no attempt has been read is handed off. -/
theorem handoffRun_step {pending : HistoryPendingPage} (waits : world.checkpoint.pending = some pending)
    (unconsumed : pending.nextAttempt = 1) :
    ∃ next, world.step (.handoffRun pending.observed.page.scope pending.source.attempt.workflowRunId) = .ok next ∧
      BackfillStep world next := by
  obtain ⟨next, moved, done⟩ := advanceRun_step waits (.handedOff unconsumed)
  obtain ⟨expected, named, same⟩ := pending.attemptCursor_spec
  simp only [BackfillWorld.step, HistoryCheckpoint.handoffRun, waits, unconsumed, ok_bind_eq, raiseIf, ne_eq,
    not_true_eq_false, if_false, named, same, attemptFields, moved, BackfillWorld.runStep]
  exact ⟨_, rfl, done⟩

/-- Every call that is accepted makes one of the steps. -/
theorem step_spec {call : BackfillCall} {next : BackfillWorld} (accepted : world.step call = .ok next) :
    BackfillStep world next := by
  cases call with
  | acceptPage observed =>
    have checked := accepted
    simp only [BackfillWorld.step, bind_eq_ok] at checked
    obtain ⟨progress, advanced, ⟨_, _⟩, accepting, _⟩ := checked
    simp only [HistoryCheckpoint.acceptPage, bind_eq_ok, raiseIf_eq_ok, not_or, not_not, ne_eq, Bool.not_eq_true] at accepting
    obtain ⟨_, ⟨running, awaiting⟩, _⟩ := accepting
    obtain ⟨other, computed, step⟩ := acceptPage_step awaiting running (answers_of_advance advanced)
    rw [accepted] at computed
    exact Except.ok.inj computed ▸ step
  | completeAttempt scope workflowRunId runAttempt =>
    cases waits : world.checkpoint.pending with
    | none => simp [BackfillWorld.step, HistoryCheckpoint.completeAttempt, waits, BackfillWorld.runStep] at accepted
    | some pending =>
      obtain ⟨other, computed, step⟩ := completeAttempt_step waits
      obtain ⟨expected, named, same⟩ := pending.attemptCursor_spec
      have exact : (scope, workflowRunId, runAttempt) = (pending.observed.page.scope,
          pending.source.attempt.workflowRunId, pending.nextAttempt) := by
        by_contra different
        simp only [BackfillWorld.step, HistoryCheckpoint.completeAttempt, waits, named, ok_bind_eq,
          HistoryAttemptCursor.advance, same, attemptFields, raiseIf, ne_eq, different, not_false_eq_true, if_true]
          at accepted
        cases first : positiveId workflowRunId (ascii "workflow run ID") <;>
          cases second : positiveId runAttempt (ascii "run attempt") <;>
          simp [first, second, bind, Except.bind, BackfillWorld.runStep] at accepted
      cases exact
      rw [accepted] at computed
      exact Except.ok.inj computed ▸ step
  | skipUnselectedRun configuration =>
    cases waits : world.checkpoint.pending with
    | none => simp [BackfillWorld.step, HistoryCheckpoint.skipUnselectedRun, waits, BackfillWorld.runStep] at accepted
    | some pending =>
      have unselected : configuration.selects pending.workflowId = .ok false := by
        cases outcome : configuration.selects pending.workflowId with
        | error error =>
          simp [BackfillWorld.step, HistoryCheckpoint.skipUnselectedRun, waits, outcome, bind, Except.bind,
            BackfillWorld.runStep] at accepted
        | ok selected =>
          cases selected with
          | false => rfl
          | true =>
            simp [BackfillWorld.step, HistoryCheckpoint.skipUnselectedRun, waits, outcome, raiseIf, bind,
              Except.bind, BackfillWorld.runStep] at accepted
      obtain ⟨other, computed, step⟩ := skipUnselectedRun_step waits unselected
      rw [accepted] at computed
      exact Except.ok.inj computed ▸ step
  | handoffRun scope workflowRunId =>
    cases waits : world.checkpoint.pending with
    | none => simp [BackfillWorld.step, HistoryCheckpoint.handoffRun, waits, BackfillWorld.runStep] at accepted
    | some pending =>
      obtain ⟨expected, named, same⟩ := pending.attemptCursor_spec
      have unconsumed : pending.nextAttempt = 1 := by
        by_contra consumed
        simp [BackfillWorld.step, HistoryCheckpoint.handoffRun, waits, raiseIf, consumed, bind, Except.bind,
          BackfillWorld.runStep] at accepted
      have exact : (scope, workflowRunId) = (pending.observed.page.scope, pending.source.attempt.workflowRunId) := by
        by_contra different
        simp only [BackfillWorld.step, HistoryCheckpoint.handoffRun, waits, unconsumed, ok_bind_eq, raiseIf, ne_eq,
          not_true_eq_false, if_false, named, same, attemptFields, different, not_false_eq_true, if_true] at accepted
        simp [bind, Except.bind, BackfillWorld.runStep] at accepted
      obtain ⟨other, computed, step⟩ := handoffRun_step waits unconsumed
      cases exact
      rw [accepted] at computed
      exact Except.ok.inj computed ▸ step

end Calls

end CiCoordinator.CiEconomics

import CiCoordinator.CiEconomics.HistoryCoverage
import CiCoordinator.CiEconomics.HistoryScan

/- The discovery of recent runs over every order of its steps. -/

namespace CiCoordinator.CiEconomics

open Library Kernel ConfigControl List Option

variable {state : HistoryScanState} {dataset : HistoryDataset}

/-- What the constructor of a progress checks. -/
theorem RecentHistoryProgressFields.postInit_eq_ok (self : RecentHistoryProgressFields) : self.postInit = .ok () ↔
    self.recoveryFloor.microsecond = 0 ∧
      ∀ completed ∈ self.completedThrough, completed.microsecond = 0 ∧ self.recoveryFloor ≤ completed := by
  simp [postInit]

namespace RecentHistoryProgress

variable (self : RecentHistoryProgress)

theorem facts : self.recoveryFloor.microsecond = 0 ∧
    ∀ completed ∈ self.completedThrough, completed.microsecond = 0 ∧ self.recoveryFloor ≤ completed :=
  (RecentHistoryProgressFields.postInit_eq_ok _).mp self.admitted

theorem make_eq_ok {fields : RecentHistoryProgressFields} {self : RecentHistoryProgress}
    (made : RecentHistoryProgress.make fields = .ok self) : self.toRecentHistoryProgressFields = fields := by
  obtain ⟨passed, rfl⟩ := construct_eq_ok.mp made
  rfl

/-- The instant that the next cycle may not start after. -/
def frontier : Instant :=
  self.completedThrough.getD self.recoveryFloor

end RecentHistoryProgress

/-- What the constructor of a scan state checks. -/
structure HistoryScanStateFields.Admitted (fields : HistoryScanStateFields) : Prop where
  identities : ∀ value ∈ [fields.generation, fields.configurationRevision, fields.revision],
    1 ≤ value ∧ value ≤ maxSafeJsonInteger
  counts : fields.pagesSeen ≤ maxSafeJsonInteger ∧ fields.attemptsSeen ≤ maxSafeJsonInteger
  scope : fields.checkpoint.cursor.scope = fields.scope
  floor : ∀ recent ∈ fields.recent, recent.recoveryFloor ≤ fields.checkpoint.cursor.createdFrom ∧ fields.attemptsSeen = 0
  completed : ∀ recent ∈ fields.recent, ∀ completed ∈ recent.completedThrough,
    completed ≤ fields.checkpoint.cursor.createdThrough
  complete : ∀ recent ∈ fields.recent, fields.checkpoint.complete = true →
    recent.completedThrough = some fields.checkpoint.cursor.createdThrough
  lease : ∀ lease ∈ fields.lease, fields.checkpoint.complete = false ∧
    fields.checkpoint.cursor.cycleStartedAt ≤ lease.acquiredAt

variable (self : HistoryScanStateFields)

theorem HistoryScanStateFields.requireRecent_eq_ok : self.requireRecent = .ok () ↔
    ∀ recent ∈ self.recent, (recent.recoveryFloor ≤ self.checkpoint.cursor.createdFrom ∧ self.attemptsSeen = 0) ∧
      (∀ completed ∈ recent.completedThrough, completed ≤ self.checkpoint.cursor.createdThrough) ∧
      (self.checkpoint.complete = true → recent.completedThrough = some self.checkpoint.cursor.createdThrough) := by
  unfold requireRecent
  split
  · rename_i absent
    simp [absent]
  · rename_i recent present
    simp [present]

theorem HistoryScanStateFields.postInit_eq_ok : self.postInit = .ok () ↔ self.Admitted := by
  simp only [postInit, bind_unit_eq_ok, forEach_eq_ok, positiveId_eq_ok, mem_cons, not_mem_nil, or_false, forall_eq_or_imp, forall_eq, raiseIf_eq_ok, not_lt, not_not, requireRecent_eq_ok, not_exists, not_and, not_or, Bool.not_eq_true]
  constructor
  · rintro ⟨identities, counts, scope, recent, lease⟩
    exact
      { identities := by
          simpa only [mem_cons, not_mem_nil, or_false, forall_eq_or_imp, forall_eq] using identities
        counts := counts
        scope := scope
        floor := fun progress member => (recent progress member).1
        completed := fun progress member => (recent progress member).2.1
        complete := fun progress member => (recent progress member).2.2
        lease := lease }
  · intro admitted
    have identities := admitted.identities
    simp only [mem_cons, not_mem_nil, or_false, forall_eq_or_imp, forall_eq] at identities
    exact ⟨identities, admitted.counts, admitted.scope, fun progress member =>
        ⟨admitted.floor progress member, admitted.completed progress member, admitted.complete progress member⟩,
      admitted.lease⟩

namespace HistoryScanState

theorem facts (state : HistoryScanState) : state.Admitted :=
  (HistoryScanStateFields.postInit_eq_ok _).mp state.admitted

theorem make_ok {fields : HistoryScanStateFields} (admitted : fields.Admitted) :
    ∃ state, HistoryScanState.make fields = .ok state ∧ state.toHistoryScanStateFields = fields :=
  ⟨⟨fields, (HistoryScanStateFields.postInit_eq_ok _).mpr admitted⟩, construct_ok _, rfl⟩

theorem make_eq_ok {fields : HistoryScanStateFields} {state : HistoryScanState}
    (made : HistoryScanState.make fields = .ok state) : state.toHistoryScanStateFields = fields := by
  obtain ⟨passed, rfl⟩ := construct_eq_ok.mp made
  rfl

end HistoryScanState

/-- The overlap of the next cycle is bounded and stays above the floor. -/
theorem nextCycleStart_spec {floor through : Instant} (wholeFloor : floor.microsecond = 0)
    (wholeThrough : through.microsecond = 0) (ordered : floor ≤ through) :
    ∃ start, nextCycleStart floor through = .ok start ∧ start.microsecond = 0 ∧ floor ≤ start ∧ start ≤ through ∧
      through.micros - start.micros ≤ secondMicros * historyDiscoveryOverlapSeconds := by
  have inRange := through.inRange
  rw [Instant.le_def] at ordered
  obtain ⟨start, difference⟩ : ∃ start : Instant, through.micros =
      start.micros + min (through.micros - floor.micros) (secondMicros * historyDiscoveryOverlapSeconds) :=
    ⟨⟨through.micros - min (through.micros - floor.micros) (secondMicros * historyDiscoveryOverlapSeconds), by omega⟩,
      by simp only; omega⟩
  refine ⟨start, ?_, ?_, ?_, ?_, ?_⟩
  · rw [nextCycleStart, Instant.before_eq_some.mpr difference]
  · simp only [Instant.microsecond, secondMicros] at *
    omega
  · rw [Instant.le_def]
    omega
  · rw [Instant.le_def]
    omega
  · omega

/-- A prepared lane is a lane at the start of a cycle that begins before the end of the last one. -/
structure NextCycle (state : HistoryScanState) (recent : RecentHistoryProgress) (now : Instant) (next : HistoryScanState) :
    Prop where
  idle : state.checkpoint.complete = true ∧ state.lease = none
  fields : next.toHistoryScanStateFields =
    { state.toHistoryScanStateFields with checkpoint := next.checkpoint, nextAttemptAt := now }
  starts : recent.recoveryFloor ≤ next.checkpoint.cursor.createdFrom
  overlaps : ∃ through ∈ recent.completedThrough, next.checkpoint.cursor.createdFrom ≤ through ∧
    through.micros - next.checkpoint.cursor.createdFrom.micros ≤ secondMicros * historyDiscoveryOverlapSeconds
  ends : next.checkpoint.cursor.createdThrough = now.wholeSecond
  running : next.checkpoint.complete = false

/-- The preparation of a cycle never raises. -/
theorem prepareRecentHistoryCycle_spec {recent : RecentHistoryProgress} (lane : state.recent = some recent) (now : Instant) :
    prepareRecentHistoryCycle state now = .ok none ∨
      ∃ next, prepareRecentHistoryCycle state now = .ok (some next) ∧ NextCycle state recent now next := by
  simp only [prepareRecentHistoryCycle, lane]
  cases completed : recent.completedThrough with
  | none => exact .inl rfl
  | some through =>
    simp only
    split
    · exact .inl rfl
    · rename_i due
      simp only [not_or, Bool.not_eq_false, not_not, not_lt, max_le_iff] at due
      obtain ⟨complete, unleased, _, started⟩ := due
      have admitted := state.facts
      have progress := recent.facts
      obtain ⟨wholeThrough, ordered⟩ := progress.2 through completed
      obtain ⟨start, computed, wholeStart, above, before, overlap⟩ :=
        nextCycleStart_spec progress.1 wholeThrough ordered
      have reached : some through = some state.checkpoint.cursor.createdThrough := by
        rw [← completed]
        exact admitted.complete recent lane complete
      have inTime : through ≤ now := by
        rw [some.inj reached]
        exact state.checkpoint.cursor.facts.inside.2.2.2.trans started
      have frozen : through ≤ now.wholeSecond := Instant.le_wholeSecond wholeThrough inTime
      obtain ⟨cursor, opened, scope, lower, upper, cycle, _⟩ := @HistoryCursor.start_spec state.scope start
        now.wholeSecond now wholeStart (Instant.microsecond_wholeSecond now) (before.trans frozen) (Instant.wholeSecond_le now)
      obtain ⟨checkpoint, made, fields⟩ := HistoryCheckpoint.make_awaiting cursor
      have checkpointCursor : checkpoint.cursor = cursor := by rw [fields]
      have running : checkpoint.complete = false := by rw [fields]
      have ready : HistoryScanStateFields.Admitted
          { state.toHistoryScanStateFields with checkpoint := checkpoint, nextAttemptAt := now } := by
        refine ⟨admitted.identities, admitted.counts, ?_, ?_, ?_, ?_, ?_⟩
        · simp [checkpointCursor, scope]
        · intro other member
          rw [lane] at member
          cases member
          simp only [checkpointCursor, lower]
          exact ⟨above, (admitted.floor recent lane).2⟩
        · intro other member last ended
          rw [lane] at member
          cases member
          rw [completed] at ended
          cases ended
          simp only [checkpointCursor, upper]
          exact frozen
        · intro _ _ ended
          simp only [running, Bool.false_eq_true] at ended
        · intro lease member
          rw [unleased] at member
          cases member
      obtain ⟨next, built, same⟩ := HistoryScanState.make_ok ready
      refine .inr ⟨next, ?_, ?_⟩
      · simp only [lane] at built
        rw [computed, ok_bind_eq, opened, ok_bind_eq, made, ok_bind_eq, built]
        rfl
      · have nextCheckpoint : next.checkpoint = checkpoint := by rw [same]
        refine ⟨⟨complete, unleased⟩, by rw [same], ?_, ⟨through, completed, ?_, ?_⟩, ?_, ?_⟩
        · rw [nextCheckpoint, checkpointCursor, lower]
          exact above
        · rw [nextCheckpoint, checkpointCursor, lower]
          exact before
        · rw [nextCheckpoint, checkpointCursor, lower]
          exact overlap
        · rw [nextCheckpoint, checkpointCursor, upper]
        · rw [nextCheckpoint, running]

/-- What a successful acquisition hands out. -/
theorem acquireHistoryClaim_eq_ok {next : HistoryScanState} {claim : HistoryClaim} {now : Instant} {workerId token : Text}
    (acquired : acquireHistoryClaim dataset state now workerId token = .ok (some (next, claim))) :
    datasetMatches dataset state ∧ claim.state = next ∧ ∃ lease, lease.acquiredAt = now ∧ next.toHistoryScanStateFields =
        { state.toHistoryScanStateFields with revision := state.revision + 1, lease := some lease } := by
  simp only [acquireHistoryClaim, bind_unit_eq_ok] at acquired
  obtain ⟨_, _, acquired⟩ := acquired
  split at acquired
  · cases acquired
  · rename_i due
    simp only [not_or, not_not] at due
    simp only [bind_eq_ok] at acquired
    obtain ⟨expires, _, lease, leased, successor, made, handed, claimed, rfl, rfl⟩ := acquired
    obtain ⟨_, rfl⟩ := construct_eq_ok.mp leased
    refine ⟨due.1, ?_, _, rfl, HistoryScanState.make_eq_ok made⟩
    unfold HistoryClaim.make at claimed
    split at claimed
    · cases claimed
    · cases claimed
      rfl

/-- What a successful completion does to a discovery lane. -/
theorem finishHistoryClaim_eq_ok {next : HistoryScanState} {claim : HistoryClaim} {now : Instant}
    {done : HistoryCompletion} {recent : RecentHistoryProgress} (lane : state.recent = some recent)
    (finished : finishHistoryClaim dataset state claim now done = .ok (some next)) :
    currentHistoryClaim dataset state claim now ∧ SamePopulation state.checkpoint.cursor done.checkpoint.cursor ∧
      next.scope = state.scope ∧ next.generation = state.generation ∧
      next.configurationRevision = state.configurationRevision ∧ next.checkpoint = done.checkpoint ∧ next.lease = none ∧
      ∃ later, next.recent = some later ∧ later.recoveryFloor = recent.recoveryFloor ∧
        later.completedThrough = if done.checkpoint.complete = true then some done.checkpoint.cursor.createdThrough
          else recent.completedThrough := by
  unfold finishHistoryClaim at finished
  split at finished
  · cases finished
  split at finished
  · cases finished
  · rename_i holder _
    simp only [bind_eq_ok, raiseIf_eq_ok, not_not, Prod.mk.injEq, lane, pure_eq_ok_iff, some.injEq] at finished
    obtain ⟨_, _, _, population, _, _, _, _, progress, computed, successor, made, rfl⟩ := finished
    have fields := HistoryScanState.make_eq_ok made
    refine ⟨not_not.mp holder, population, ?_⟩
    simp only [fields, true_and]
    unfold recentAfter at computed
    split at computed
    · rename_i absent
      cases absent
    rename_i present
    cases present
    split at computed
    · rename_i complete
      rw [map_eq_ok] at computed
      obtain ⟨later, moved, rfl⟩ := computed
      have same := RecentHistoryProgress.make_eq_ok moved
      exact ⟨later, rfl, by rw [same], by rw [same, if_pos complete]⟩
    · rename_i running
      cases computed
      exact ⟨recent, rfl, rfl, by rw [if_neg running]⟩

theorem reconfigureRecentHistory_eq_ok {prior next : HistoryScanState}
    (configured : reconfigureRecentHistory dataset prior = .ok next) :
    (prior.scope = dataset.scope ∧ prior.generation = dataset.generation) ∧ next.toHistoryScanStateFields =
        { prior.toHistoryScanStateFields with
          configurationRevision := dataset.configurationRevision
          revision := prior.revision + 1
          nextAttemptAt := dataset.configuredAt
          lease := none } := by
  simp only [reconfigureRecentHistory, bind_unit_eq_ok, raiseIf_eq_ok, not_or, not_not, Prod.mk.injEq] at configured
  exact ⟨configured.2.1.1, HistoryScanState.make_eq_ok configured.2.2⟩

theorem startRecentHistory_eq_ok {backfill next : HistoryScanState}
    (configured : startRecentHistory dataset backfill = .ok next) :
    next.scope = dataset.scope ∧ next.generation = dataset.generation ∧
      next.configurationRevision = dataset.configurationRevision ∧ next.lease = none ∧
      ∃ recent, next.recent = some recent ∧ recent.completedThrough = none ∧
        next.checkpoint.cursor.createdFrom = recent.recoveryFloor := by
  simp only [startRecentHistory, bind_eq_ok] at configured
  obtain ⟨_, _, cursor, started, checkpoint, awaits, recent, progress, made⟩ := configured
  have fields := HistoryScanState.make_eq_ok made
  have checkpointFields := HistoryCheckpoint.make_eq_ok awaits
  have floor := RecentHistoryProgress.make_eq_ok progress
  simp only [fields, true_and]
  refine ⟨recent, rfl, by rw [floor], ?_⟩
  rw [checkpointFields, floor]
  exact (HistoryCursor.start_eq_ok started).2.1

/-- The steps of a discovery lane, each with the dataset that it is given. -/
inductive RecentCall where
  | configure (dataset : HistoryDataset) (backfill : HistoryScanState)
  | prepare (now : Instant)
  | acquire (dataset : HistoryDataset) (now : Instant) (workerId token : Text)
  | finish (dataset : HistoryDataset) (claim : HistoryClaim) (now : Instant) (done : HistoryCompletion)

def RecentCall.instant : RecentCall → Instant
  | .configure dataset _ => dataset.configuredAt
  | .prepare now => now
  | .acquire _ now _ _ => now
  | .finish _ _ now _ => now

/-- A cycle whose checkpoint has become complete. -/
structure CompletedCycle where
  createdFrom : Instant
  createdThrough : Instant

/-- The dataset that the lane was last configured with, the lane, the claims handed out and the completed cycles. -/
structure RecentWorld where
  dataset : HistoryDataset
  state : HistoryScanState
  clock : Instant
  issued : List HistoryClaim
  cycles : List CompletedCycle

namespace RecentWorld

variable (world : RecentWorld)

/-- The completion of a checkpoint is the completion of its cycle. -/
def finishTo (now : Instant) (next : HistoryScanState) : RecentWorld :=
  { world with
    state := next
    clock := now
    cycles := if next.checkpoint.complete = true then
        ⟨next.checkpoint.cursor.createdFrom, next.checkpoint.cursor.createdThrough⟩ :: world.cycles
      else world.cycles }

def step : RecentCall → Py RecentWorld
  | .configure dataset backfill => do
    let next ← configureRecentHistory dataset backfill (some world.state)
    return { world with dataset := dataset, state := next, clock := dataset.configuredAt }
  | .prepare now => do
    let prepared ← prepareRecentHistoryCycle world.state now
    return { world with state := prepared.getD world.state, clock := now }
  | .acquire dataset now workerId token => do
    let acquired ← acquireHistoryClaim dataset world.state now workerId token
    match acquired with
    | none => return { world with clock := now }
    | some (next, claim) => return { world with state := next, clock := now, issued := claim :: world.issued }
  | .finish dataset claim now done => do
    let finished ← finishHistoryClaim dataset world.state claim now done
    match finished with
    | none => return { world with clock := now }
    | some next => return world.finishTo now next

/-- The world in which a lane has just been configured with its dataset. -/
def initial (dataset : HistoryDataset) (state : HistoryScanState) : RecentWorld :=
  ⟨dataset, state, dataset.configuredAt, [], []⟩

/-- An instant is covered by a completed cycle. -/
def Covers (instant : Instant) : Prop :=
  ∃ cycle ∈ world.cycles, cycle.createdFrom ≤ instant ∧ instant ≤ cycle.createdThrough

/-- What holds of a lane at every instant. -/
structure Consistent (world : RecentWorld) (recent : RecentHistoryProgress) : Prop where
  lane : world.state.recent = some recent
  authority : world.state.scope = world.dataset.scope ∧ world.state.generation = world.dataset.generation ∧
    world.state.configurationRevision = world.dataset.configurationRevision
  floor : ∀ cycle ∈ world.cycles, recent.recoveryFloor ≤ cycle.createdFrom
  connected : world.state.checkpoint.cursor.createdFrom ≤ recent.frontier
  covered : ∀ completed ∈ recent.completedThrough, ∀ instant, recent.recoveryFloor ≤ instant → instant ≤ completed →
    world.Covers instant
  issued : world.state.lease ≠ none → ∃ claim, world.issued.head? = some claim ∧ claim.state = world.state

end RecentWorld

/-- The runs of a discovery lane at non-decreasing instants. -/
inductive RecentRun (start : RecentWorld) : RecentWorld → Prop
  | start : RecentRun start start
  | step {world next : RecentWorld} (run : RecentRun start world) (call : RecentCall)
      (later : world.clock ≤ call.instant) (served : world.step call = .ok next) : RecentRun start next

/-- The floor stays, and the completed end only moves on. -/
def RecentHistoryProgress.Reaches (earlier later : RecentHistoryProgress) : Prop :=
  later.recoveryFloor = earlier.recoveryFloor ∧
    ∀ completed ∈ earlier.completedThrough, ∃ end' ∈ later.completedThrough, completed ≤ end'

/-- The completion of a claim by the holder of the lease that is running under the current dataset. -/
def RecentWorld.HeldCompletion (world : RecentWorld) (call : RecentCall) : Prop :=
  ∃ dataset claim now done lease, call = .finish dataset claim now done ∧ world.issued.head? = some claim ∧
    claim.state = world.state ∧ world.state.lease = some lease ∧ (lease.acquiredAt ≤ now ∧ now < lease.expiresAt) ∧
    dataset.generation = world.dataset.generation ∧
    dataset.configurationRevision = world.dataset.configurationRevision

/-- The preparation of the cycle that follows a complete checkpoint. -/
def RecentWorld.NextPrepared (world : RecentWorld) (call : RecentCall) (next : RecentWorld) : Prop :=
  ∃ now recent, call = .prepare now ∧ world.state.recent = some recent ∧ NextCycle world.state recent now next.state

/-- What a step leads to. -/
structure RecentWorld.Advances (world : RecentWorld) (recent : RecentHistoryProgress) (call : RecentCall)
    (next : RecentWorld) (later : RecentHistoryProgress) : Prop where
  consistent : next.Consistent later
  reaches : recent.Reaches later
  changes : next.state.checkpoint ≠ world.state.checkpoint → world.HeldCompletion call ∨ world.NextPrepared call next

section Steps

variable {world next : RecentWorld} {recent : RecentHistoryProgress}
variable {dataset : HistoryDataset}

theorem RecentHistoryProgress.Reaches.refl (recent : RecentHistoryProgress) : recent.Reaches recent :=
  ⟨rfl, fun completed member => ⟨completed, member, le_rfl⟩⟩

theorem RecentHistoryProgress.Reaches.trans {first second third : RecentHistoryProgress} (left : first.Reaches second)
    (right : second.Reaches third) : first.Reaches third := by
  refine ⟨right.1.trans left.1, ?_⟩
  intro completed member
  obtain ⟨middle, found, before⟩ := left.2 completed member
  obtain ⟨last, reached, after⟩ := right.2 middle found
  exact ⟨last, reached, before.trans after⟩

section

variable (consistent : world.Consistent recent)
include consistent

theorem configure_advances {backfill : HistoryScanState} (served : world.step (.configure dataset backfill) = .ok next) :
    world.Advances recent (.configure dataset backfill) next recent := by
  simp only [RecentWorld.step, configureRecentHistory, bind_eq_ok, pure_eq_ok_iff] at served
  obtain ⟨state, ⟨_, _, configured⟩, rfl⟩ := served
  obtain ⟨same, fields⟩ := reconfigureRecentHistory_eq_ok configured
  refine ⟨⟨?_, ?_, consistent.floor, ?_, consistent.covered, ?_⟩, .refl recent, ?_⟩
  · simp [fields, consistent.lane]
  · simp [fields, same]
  · simp [fields, consistent.connected]
  · simp [fields]
  · simp [fields]

theorem prepare_advances {now : Instant}
    (served : world.step (.prepare now) = .ok next) : world.Advances recent (.prepare now) next recent := by
  simp only [RecentWorld.step, bind_eq_ok, pure_eq_ok_iff] at served
  obtain ⟨prepared, computed, rfl⟩ := served
  rcases prepareRecentHistoryCycle_spec consistent.lane now with idle | ⟨state, opened, cycle⟩
  · rw [idle] at computed
    cases computed
    exact ⟨⟨consistent.lane, consistent.authority, consistent.floor, consistent.connected, consistent.covered,
      consistent.issued⟩, .refl recent, fun changed => absurd rfl changed⟩
  · rw [opened] at computed
    cases computed
    obtain ⟨through, completed, before, _⟩ := cycle.overlaps
    refine ⟨⟨?_, ?_, consistent.floor, ?_, consistent.covered, ?_⟩, .refl recent, ?_⟩
    · exact (congrArg HistoryScanStateFields.recent cycle.fields).trans consistent.lane
    · exact ⟨(congrArg HistoryScanStateFields.scope cycle.fields).trans consistent.authority.1,
        (congrArg HistoryScanStateFields.generation cycle.fields).trans consistent.authority.2.1,
        (congrArg HistoryScanStateFields.configurationRevision cycle.fields).trans consistent.authority.2.2⟩
    · rw [RecentHistoryProgress.frontier, completed]
      exact before
    · exact fun leased => absurd ((congrArg HistoryScanStateFields.lease cycle.fields).trans cycle.idle.2) leased
    · exact fun _ => .inr ⟨now, recent, rfl, consistent.lane, cycle⟩

theorem acquire_advances {now : Instant} {workerId token : Text}
    (served : world.step (.acquire dataset now workerId token) = .ok next) :
    world.Advances recent (.acquire dataset now workerId token) next recent := by
  simp only [RecentWorld.step, bind_eq_ok] at served
  obtain ⟨acquired, computed, served⟩ := served
  cases acquired with
  | none =>
    cases served
    exact ⟨⟨consistent.lane, consistent.authority, consistent.floor, consistent.connected, consistent.covered,
      consistent.issued⟩, .refl recent, fun changed => absurd rfl changed⟩
  | some handed =>
    obtain ⟨state, claim⟩ := handed
    cases served
    obtain ⟨_, claimed, lease, _, fields⟩ := acquireHistoryClaim_eq_ok computed
    refine ⟨⟨?_, ?_, consistent.floor, ?_, consistent.covered, ?_⟩, .refl recent, ?_⟩
    · simp [fields, consistent.lane]
    · simp [fields, consistent.authority]
    · simp [fields, consistent.connected]
    · exact fun _ => ⟨claim, rfl, claimed⟩
    · simp [fields]

/-- The completion of the current cycle extends the coverage up to its end. -/
theorem covers_completed {createdThrough : Instant}
    (cycles : next.cycles = ⟨world.state.checkpoint.cursor.createdFrom, createdThrough⟩ :: world.cycles) {instant : Instant}
    (lower : recent.recoveryFloor ≤ instant) (upper : instant ≤ createdThrough) : next.Covers instant := by
  have newest : world.state.checkpoint.cursor.createdFrom ≤ instant → next.Covers instant :=
    fun inside => ⟨_, by rw [cycles]; exact mem_cons_self, inside, upper⟩
  rcases le_total world.state.checkpoint.cursor.createdFrom instant with inside | before
  · exact newest inside
  · have connected := consistent.connected
    rw [RecentHistoryProgress.frontier] at connected
    cases through : recent.completedThrough with
    | none =>
      rw [through, getD_none] at connected
      exact newest (connected.trans lower)
    | some previous =>
      rw [through, getD_some] at connected
      obtain ⟨cycle, member, bounds⟩ := consistent.covered previous through instant lower (before.trans connected)
      exact ⟨cycle, by rw [cycles]; exact mem_cons_of_mem _ member, bounds⟩

theorem finish_advances {claim : HistoryClaim} {now : Instant} {done : HistoryCompletion}
    (served : world.step (.finish dataset claim now done) = .ok next) :
    ∃ later, world.Advances recent (.finish dataset claim now done) next later := by
  simp only [RecentWorld.step, bind_eq_ok] at served
  obtain ⟨finished, computed, served⟩ := served
  cases finished with
  | none =>
    cases served
    exact ⟨recent, ⟨consistent.lane, consistent.authority, consistent.floor, consistent.connected, consistent.covered,
      consistent.issued⟩, .refl recent, fun changed => absurd rfl changed⟩
  | some state =>
    cases served
    obtain ⟨holder, population, scope, generation, revision, checkpoint, unleased, later, lane, floor, completed⟩ :=
      finishHistoryClaim_eq_ok consistent.lane computed
    obtain ⟨matched, claimed, lease, leased, _, acquired, unexpired⟩ := holder
    have changes : (world.finishTo now state).state.checkpoint ≠ world.state.checkpoint →
        world.HeldCompletion (.finish dataset claim now done) ∨
          world.NextPrepared (.finish dataset claim now done) (world.finishTo now state) := by
      intro _
      obtain ⟨issued, last, same⟩ := consistent.issued (by simp [mem_def.mp leased])
      have handed : issued = claim := by
        obtain ⟨_, _⟩ := issued
        obtain ⟨_, _⟩ := claim
        subst claimed
        subst same
        rfl
      refine .inl ⟨dataset, claim, now, done, lease, rfl, handed ▸ last, claimed.symm, leased, ⟨acquired, unexpired⟩, ?_, ?_⟩
      · exact matched.2.2.1.trans consistent.authority.2.1
      · exact matched.2.2.2.trans consistent.authority.2.2
    have authority : (world.finishTo now state).state.scope = world.dataset.scope ∧
        (world.finishTo now state).state.generation = world.dataset.generation ∧
        (world.finishTo now state).state.configurationRevision = world.dataset.configurationRevision := by
      simp [RecentWorld.finishTo, scope, generation, revision, consistent.authority]
    have idle : (world.finishTo now state).state.lease ≠ none →
        ∃ claim, (world.finishTo now state).issued.head? = some claim ∧ claim.state = (world.finishTo now state).state :=
      fun leased => absurd unleased leased
    by_cases complete : done.checkpoint.complete = true
    · rw [if_pos complete] at completed
      have cycles : (world.finishTo now state).cycles =
          ⟨done.checkpoint.cursor.createdFrom, done.checkpoint.cursor.createdThrough⟩ :: world.cycles := by
        simp [RecentWorld.finishTo, checkpoint, complete]
      have above : recent.recoveryFloor ≤ done.checkpoint.cursor.createdFrom := by
        rw [population.2.1]
        exact (world.state.facts.floor recent consistent.lane).1
      have frozen : ∀ last ∈ recent.completedThrough, last ≤ done.checkpoint.cursor.createdThrough := by
        rw [population.2.2.1]
        exact world.state.facts.completed recent consistent.lane
      refine ⟨later, ⟨lane, authority, ?_, ?_, ?_, idle⟩, ⟨floor, ?_⟩, changes⟩
      · intro cycle member
        rw [floor]
        rw [cycles] at member
        rcases mem_cons.mp member with rfl | earlier
        · exact above
        · exact consistent.floor cycle earlier
      · rw [RecentHistoryProgress.frontier, completed, getD_some]
        show state.checkpoint.cursor.createdFrom ≤ _
        rw [checkpoint]
        exact done.checkpoint.cursor.facts.inside.1.trans
          (done.checkpoint.cursor.facts.inside.2.1.trans done.checkpoint.cursor.facts.inside.2.2.1)
      · intro last reached instant lower upper
        rw [completed, mem_def, some.injEq] at reached
        subst reached
        rw [floor] at lower
        exact covers_completed consistent (population.2.1 ▸ cycles) lower upper
      · intro last reached
        exact ⟨_, completed, frozen last reached⟩
    · rw [if_neg complete] at completed
      have same : later = recent := by
        obtain ⟨⟨_, _⟩, _⟩ := later
        subst floor
        subst completed
        rfl
      subst same
      have cycles : (world.finishTo now state).cycles = world.cycles := by
        simp [RecentWorld.finishTo, checkpoint, complete]
      refine ⟨later, ⟨lane, authority, ?_, ?_, ?_, idle⟩, .refl later, changes⟩
      · rw [cycles]
        exact consistent.floor
      · show state.checkpoint.cursor.createdFrom ≤ _
        rw [checkpoint, population.2.1]
        exact consistent.connected
      · intro last reached instant lower upper
        rw [RecentWorld.Covers, cycles]
        exact consistent.covered last reached instant lower upper

/-- Every step keeps the lane consistent. -/
theorem step_advances {call : RecentCall} (served : world.step call = .ok next) :
    ∃ later, world.Advances recent call next later := by
  cases call with
  | configure dataset backfill => exact ⟨recent, configure_advances consistent served⟩
  | prepare now => exact ⟨recent, prepare_advances consistent served⟩
  | acquire dataset now workerId token => exact ⟨recent, acquire_advances consistent served⟩
  | finish dataset claim now done => exact finish_advances consistent served

theorem run_consistent {later : RecentWorld} (run : RecentRun world later) :
    ∃ progress, later.Consistent progress ∧ recent.Reaches progress := by
  induction run with
  | start => exact ⟨recent, consistent, .refl recent⟩
  | step run call later served ih =>
    obtain ⟨middle, kept, reached⟩ := ih
    obtain ⟨last, advances⟩ := step_advances kept served
    exact ⟨last, advances.consistent, reached.trans advances.reaches⟩

end

theorem initial_consistent {backfill state : HistoryScanState}
    (configured : configureRecentHistory dataset backfill none = .ok state) :
    ∃ recent, (RecentWorld.initial dataset state).Consistent recent := by
  simp only [configureRecentHistory, bind_eq_ok] at configured
  obtain ⟨_, _, started⟩ := configured
  obtain ⟨scope, generation, revision, unleased, recent, lane, completed, starts⟩ := startRecentHistory_eq_ok started
  refine ⟨recent, lane, ⟨scope, generation, revision⟩, ?_, ?_, ?_, ?_⟩
  · intro cycle member
    cases member
  · rw [RecentHistoryProgress.frontier, completed]
    exact starts.le
  · intro last member
    rw [completed] at member
    cases member
  · exact fun leased => absurd unleased leased

end Steps

/-- The discovery of recent runs in a world, towards all the worlds that can follow it. -/
structure RecentWorld.GapFree (world : RecentWorld) : Prop where
  constructor : world.state.toHistoryScanStateFields.postInit = .ok ()
  covered : ∃ recent, world.state.recent = some recent ∧
    recent.recoveryFloor ≤ world.state.checkpoint.cursor.createdFrom ∧
    (∀ cycle ∈ world.cycles, recent.recoveryFloor ≤ cycle.createdFrom) ∧
    ∀ completed ∈ recent.completedThrough, ∀ instant, recent.recoveryFloor ≤ instant → instant ≤ completed →
      world.Covers instant
  prepares : ∀ now, ∃ prepared, prepareRecentHistoryCycle world.state now = .ok prepared
  changes : ∀ call next, world.step call = .ok next → next.state.checkpoint ≠ world.state.checkpoint →
    world.HeldCompletion call ∨ world.NextPrepared call next
  progress : ∀ later, RecentRun world later → ∃ earlier progress, world.state.recent = some earlier ∧
    later.state.recent = some progress ∧ earlier.Reaches progress

/-- The discovery of recent runs is free of gaps in every run of its steps. -/
theorem recent_history_gap_free {dataset : HistoryDataset} {backfill state : HistoryScanState}
    (configured : configureRecentHistory dataset backfill none = .ok state) {world : RecentWorld}
    (run : RecentRun (RecentWorld.initial dataset state) world) : world.GapFree := by
  obtain ⟨first, initial⟩ := initial_consistent configured
  obtain ⟨recent, consistent, _⟩ := run_consistent initial run
  refine ⟨world.state.admitted, ⟨recent, consistent.lane, ?_, consistent.floor, consistent.covered⟩, ?_, ?_, ?_⟩
  · exact (world.state.facts.floor recent consistent.lane).1
  · intro now
    rcases prepareRecentHistoryCycle_spec consistent.lane now with idle | ⟨next, opened, _⟩
    · exact ⟨none, idle⟩
    · exact ⟨some next, opened⟩
  · intro call next served changed
    obtain ⟨later, advances⟩ := step_advances consistent served
    exact advances.changes changed
  · intro later run
    obtain ⟨progress, kept, reached⟩ := run_consistent consistent run
    exact ⟨recent, progress, consistent.lane, kept.lane, reached⟩

namespace Sample

/-- The archive of a repository at the epoch. -/
def archive : HistoryDataset :=
  ⟨⟨scope, 1, 1, 1, epoch, .active, ⟨true, none, none, ⟨1, 1, 1, 1, by decide, by decide⟩, allWorkflows⟩, .empty⟩,
    by decide⟩

def instantWindow : RunDiscoveryWindow :=
  ⟨⟨epoch, epoch⟩, by decide⟩

def epochCursor : HistoryCursor :=
  ⟨⟨scope, epoch, epoch, instantWindow, 1, epoch⟩, by decide⟩

def openCheckpoint : HistoryCheckpoint :=
  ⟨⟨epochCursor, none, false⟩, by decide⟩

def doneCheckpoint : HistoryCheckpoint :=
  ⟨⟨epochCursor, none, true⟩, by decide⟩

def backfill : HistoryScanState :=
  ⟨⟨scope, 1, 1, 1, openCheckpoint, epoch, none, 0, 0, none, none⟩, by decide⟩

def recentStart : HistoryScanState :=
  ⟨⟨scope, 1, 1, 1, openCheckpoint, epoch, none, 0, 0, none, some ⟨⟨epoch, none⟩, by decide⟩⟩, by decide⟩

def lease : ObservationLease :=
  ⟨⟨List.replicate 64 48, List.replicate 64 48, epoch, ⟨60000000, by decide⟩⟩, by decide⟩

def recentLeased : HistoryScanState :=
  ⟨⟨scope, 1, 1, 2, openCheckpoint, epoch, some lease, 0, 0, none, some ⟨⟨epoch, none⟩, by decide⟩⟩, by decide⟩

def recentDone : HistoryScanState :=
  ⟨⟨scope, 1, 1, 3, doneCheckpoint, epoch, none, 1, 0, some .pageRecorded, some ⟨⟨epoch, some epoch⟩, by decide⟩⟩,
    by decide⟩

/-- The next cycle of the lane, four seconds later. -/
def recentPrepared : HistoryScanState :=
  ⟨⟨scope, 1, 1, 3, ⟨⟨cursor, none, false⟩, by decide⟩, fourSeconds, none, 1, 0, some .pageRecorded,
    some ⟨⟨epoch, some epoch⟩, by decide⟩⟩, by decide⟩

theorem recent_configured : configureRecentHistory archive backfill none = .ok recentStart := by
  decide

theorem recent_acquired : acquireHistoryClaim archive recentStart epoch (List.replicate 64 48) (List.replicate 64 48) =
    .ok (some (recentLeased, ⟨recentLeased, by decide⟩)) := by
  decide

theorem recent_finished : finishHistoryClaim archive recentLeased ⟨recentLeased, by decide⟩ epoch
    ⟨doneCheckpoint, epoch, .pageRecorded, 1, 0⟩ = .ok (some recentDone) := by
  decide

theorem recent_prepared : prepareRecentHistoryCycle recentDone fourSeconds = .ok (some recentPrepared) := by
  decide

end Sample

/-- The preparation of the next cycle changes the checkpoint of a lane that nobody has leased. -/
theorem preparation_changes_checkpoint : ∃ world next,
    configureRecentHistory Sample.archive Sample.backfill none = .ok Sample.recentStart ∧
      RecentRun (RecentWorld.initial Sample.archive Sample.recentStart) world ∧ world.clock ≤ Sample.fourSeconds ∧
      world.state.lease = none ∧ world.step (.prepare Sample.fourSeconds) = .ok next ∧
      next.state.checkpoint ≠ world.state.checkpoint := by
  have acquired : (RecentWorld.initial Sample.archive Sample.recentStart).step
      (.acquire Sample.archive Sample.epoch (List.replicate 64 48) (List.replicate 64 48)) =
        .ok ⟨Sample.archive, Sample.recentLeased, Sample.epoch, [⟨Sample.recentLeased, by decide⟩], []⟩ := by
    rw [RecentWorld.step, RecentWorld.initial, Sample.recent_acquired]
    rfl
  have finished : RecentWorld.step
      ⟨Sample.archive, Sample.recentLeased, Sample.epoch, [⟨Sample.recentLeased, by decide⟩], []⟩
      (.finish Sample.archive ⟨Sample.recentLeased, by decide⟩ Sample.epoch
        ⟨Sample.doneCheckpoint, Sample.epoch, .pageRecorded, 1, 0⟩) =
        .ok ⟨Sample.archive, Sample.recentDone, Sample.epoch, [⟨Sample.recentLeased, by decide⟩],
          [⟨Sample.epoch, Sample.epoch⟩]⟩ := by
    rw [RecentWorld.step, Sample.recent_finished]
    rfl
  refine ⟨_, ⟨Sample.archive, Sample.recentPrepared, Sample.fourSeconds, [⟨Sample.recentLeased, by decide⟩],
    [⟨Sample.epoch, Sample.epoch⟩]⟩, Sample.recent_configured,
    .step (.step .start _ (by decide) acquired) _ (by decide) finished, by decide, rfl, ?_, by decide⟩
  rw [RecentWorld.step, Sample.recent_prepared]
  rfl

namespace Sample

/-- A request may name a claim that has been handed out, and one that comes too early is left out. -/
def serveRecent (world : RecentWorld) (request : RecentWorld → RecentCall) : Py RecentWorld :=
  if world.clock ≤ (request world).instant then world.step (request world) else .ok world

theorem serveRecent_run {start world next : RecentWorld} {request : RecentWorld → RecentCall} (run : RecentRun start world)
    (served : serveRecent world request = .ok next) : RecentRun start next := by
  unfold serveRecent at served
  split at served
  · exact .step run _ ‹_› served
  · exact Except.ok.inj served ▸ run

/-- The holder of the claim of the given age reports its page. -/
def reportPage (age : Nat) (checkpoint : HistoryCheckpoint) (now : Instant) (world : RecentWorld) : RecentCall :=
  match world.issued[age]? with
  | some claim => .finish archive claim now ⟨checkpoint, now, .pageRecorded, 1, 0⟩
  | none => .prepare now

def nextDone : HistoryCheckpoint :=
  ⟨⟨cursor, none, true⟩, by decide⟩

/-- Two cycles are claimed and completed, and the first holder reports once more. -/
def twoCycles : List (RecentWorld → RecentCall) :=
  [fun _ => .acquire archive epoch (List.replicate 64 48) (List.replicate 64 48), reportPage 0 doneCheckpoint epoch,
    fun _ => .prepare fourSeconds,
    fun _ => .acquire archive fourSeconds (List.replicate 64 48) (List.replicate 64 48),
    reportPage 0 nextDone fourSeconds, reportPage 1 doneCheckpoint fourSeconds]

theorem twoCycles_return : (foldSteps serveRecent (.initial archive recentStart) twoCycles).isOk = true := by
  decide +kernel

def twoCyclesWorld : RecentWorld :=
  returned _ twoCycles_return

theorem twoCyclesWorld_reached : RecentRun (.initial archive recentStart) twoCyclesWorld :=
  foldSteps_keeps (fun _ _ _ run served => serveRecent_run run served) .start (eq_ok_returned twoCycles_return)

end Sample

/-- A lane that has completed two cycles is free of gaps. -/
theorem recent_history_gap_free_sample :
    (Sample.twoCyclesWorld.cycles.map fun cycle => (cycle.createdFrom, cycle.createdThrough)) =
      [(Sample.epoch, Sample.fourSeconds), (Sample.epoch, Sample.epoch)] ∧
      Sample.twoCyclesWorld.issued.length = 2 ∧ Sample.twoCyclesWorld.GapFree :=
  ⟨by decide +kernel, by decide +kernel, recent_history_gap_free Sample.recent_configured Sample.twoCyclesWorld_reached⟩

end CiCoordinator.CiEconomics

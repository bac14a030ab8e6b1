import CiCoordinator.Persistence.ObservationTransactions

/- What the recent lane of an observation covers over every order of its transactions. -/

namespace CiCoordinator.Persistence

open Library Kernel ConfigControl CiEconomics List Option

/-- The transactions of the lane, and what the other users of the table of gaps do to it. -/
inductive ObservationRequest where
  | claim (workerId token : Text) (now writtenAt : Instant)
  | recordPage (claim : ObservationClaim) (observed : ProviderObservationPage)
      (register : List ProviderRunCollectionSource → List ProviderSourceRegistrationResult)
      (lockedAt now writtenAt : Instant) (retryDelay : Nat)
  | defer (claim : ObservationClaim) (reason : ObservationFailure) (now writtenAt : Instant) (retryDelay : Nat)
  | others (rows : List ObservationGapRow) (detailTruncatedUntil : Option Instant) (sound : GapsSound rows)

/-- A window with the pages that were recorded for it. -/
structure ReadWindow where
  window : RunDiscoveryWindow
  pages : List ProviderObservationPage

/-- The pages of a window are recorded up to the last one. -/
def ReadWindow.Complete (read : ReadWindow) : Prop :=
  PagesInOrder read.window read.pages ∧
    ∃ observed, read.pages.getLast? = some observed ∧ observed.page.termination = .exhausted

/-- The rows of the lane with the windows that have been read and the pages of the one that is being read. -/
structure ObservationWorld where
  store : ObservationStore
  read : List ReadWindow
  current : List ProviderObservationPage

namespace ObservationWorld

variable (world : ObservationWorld)

/-- A cycle that is replaced leaves the pages of its last window behind. -/
def followCycle (next : ObservationStore) : ObservationWorld :=
  { world with
    store := next
    current := if next.progress.state.cursor = world.store.progress.state.cursor then world.current else [] }

/-- A recorded page ends its window unless the next page of the window follows, and a subdivision starts it anew. -/
def followPage (observed : ProviderObservationPage) (progress : ObservationPageProgress)
    (next : ObservationStore) : ObservationWorld :=
  let pages := world.current ++ [observed]
  if progress.registerSources = false then { world with store := next, current := [] }
  else if ∃ moved ∈ progress.cursor, moved.pageNumber ≠ 1 then { world with store := next, current := pages }
  else
    { store := next
      current := []
      read := if progress.providerTruncated = true then world.read else ⟨observed.page.window, pages⟩ :: world.read }

def step (snapshot : ObservationSnapshot) (world : ObservationWorld) : ObservationRequest → Py ObservationWorld
  | .claim workerId token now writtenAt => do
    let (_, next) ← claimObservation snapshot world.store workerId token now writtenAt
    return world.followCycle next
  | .recordPage claim observed register lockedAt now writtenAt retryDelay => do
    let (reply, next) ←
      recordObservationPage snapshot world.store claim observed register lockedAt now writtenAt retryDelay
    let progress ← advanceDiscoveryCursor claim.cursor observed.page
    return if reply = .applied then world.followPage observed progress next else { world with store := next }
  | .defer claim reason now writtenAt retryDelay => do
    let (_, next) ← deferObservation snapshot world.store claim reason now writtenAt retryDelay
    return { world with store := next }
  | .others rows detailTruncatedUntil _ =>
    return { world with
      store := { world.store with
        gaps := { world.store.gaps with rows := rows, detailTruncatedUntil := detailTruncatedUntil } } }

/-- An instant that the lane has passed. -/
def Passed (instant : Instant) : Prop :=
  (∃ cursor ∈ world.store.progress.state.cursor, instant < cursor.window.createdFrom) ∨
    ∃ last ∈ world.store.progress.lastCompletedThrough, instant ≤ last

/-- An instant lies in a window that has been read or in a gap that has been recorded. -/
def Covers (instant : Instant) : Prop :=
  (∃ read ∈ world.read, read.window.createdFrom ≤ instant ∧ instant ≤ read.window.createdThrough) ∨
    ∃ gap ∈ world.store.gaps.recorded, gap.createdFrom ≤ instant ∧ instant ≤ gap.createdThrough

/-- What holds of a lane after every transaction. -/
structure Consistent (snapshot : ObservationSnapshot) (world : ObservationWorld) : Prop extends
    LaneSound world.store where
  lane : world.store.progress.state.lane = .recent
  begun : ∀ cursor ∈ world.store.progress.state.cursor, snapshot.configuredAt.wholeSecond ≤ cursor.window.createdFrom
  floor : ∀ last ∈ world.store.progress.lastCompletedThrough, snapshot.configuredAt.wholeSecond ≤ last
  covered : ∀ instant, snapshot.configuredAt.wholeSecond ≤ instant → world.Passed instant → world.Covers instant
  complete : ∀ read ∈ world.read, read.Complete
  pages : ∀ cursor ∈ world.store.progress.state.cursor,
    Unbroken cursor.window world.current ∧ cursor.pageNumber = world.current.length + 1

end ObservationWorld

/-- The runs of a lane. -/
inductive ObservationRun (snapshot : ObservationSnapshot) (start : ObservationWorld) : ObservationWorld → Prop
  | start : ObservationRun snapshot start start
  | step {world next : ObservationWorld} (run : ObservationRun snapshot start world) (request : ObservationRequest)
      (served : world.step snapshot request = .ok next) : ObservationRun snapshot start next

/-- The completed end of a lane only moves on. -/
def CompletedOn (earlier later : ObservationStore) : Prop :=
  ∀ last ∈ earlier.progress.lastCompletedThrough, ∃ reached ∈ later.progress.lastCompletedThrough, last ≤ reached

section Steps

variable {snapshot : ObservationSnapshot} {world : ObservationWorld}
variable {next : ObservationStore} {claim : ObservationClaim} {observed : ProviderObservationPage}

theorem CompletedOn.of_eq {earlier later : ObservationStore}
    (same : later.progress.lastCompletedThrough = earlier.progress.lastCompletedThrough) : CompletedOn earlier later :=
  fun last member => ⟨last, by rw [same]; exact member, le_rfl⟩

/-- A window or a gap stays when the history of gaps grows. -/
theorem covers_mono {next : ObservationWorld} {instant : Instant} (read : ∀ read ∈ world.read, read ∈ next.read)
    (grows : ∀ gap ∈ world.store.gaps.recorded, gap ∈ next.store.gaps.recorded) (covers : world.Covers instant) :
    next.Covers instant := by
  rcases covers with ⟨window, member, inside⟩ | ⟨gap, member, inside⟩
  · exact .inl ⟨window, read window member, inside⟩
  · exact .inr ⟨gap, grows gap member, inside⟩

section

variable (consistent : world.Consistent snapshot)
include consistent

/-- The beginning of a new cycle has been passed, or it is the beginning of the observation. -/
theorem passed_before_start {completed : Option Instant} {start instant : Instant}
    (begins : CycleBegins snapshot world.store.progress.state completed start)
    (same : completed = world.store.progress.lastCompletedThrough)
    (lower : snapshot.configuredAt.wholeSecond ≤ instant) (upper : instant < start) : world.Passed instant := by
  subst same
  cases active : world.store.progress.state.cursor with
  | some cursor =>
    rw [begins.1 cursor active] at upper
    exact .inl ⟨cursor, active, upper⟩
  | none =>
    have bound := (begins.2 active consistent.lane).2
    cases ended : world.store.progress.lastCompletedThrough with
    | none =>
      rw [ended, getD_none, max_self] at bound
      exact absurd (lower.trans_lt upper) (not_lt.mpr bound)
    | some last =>
      rw [ended, getD_some] at bound
      rcases le_max_iff.mp bound with first | later
      · exact absurd (lower.trans_lt upper) (not_lt.mpr first)
      · exact .inr ⟨last, ended, upper.le.trans later⟩

/-- The preparation of a cycle keeps the lane consistent. -/
theorem cycle_consistent {now : Instant} (written : CycleWritten snapshot world.store now next) :
    (world.followCycle next).Consistent snapshot ∧ CompletedOn world.store next := by
  obtain ⟨⟨prepared, preparation, log, cursor, lane, revision, lease⟩, rest, sound⟩ := written
  have completed : next.progress.lastCompletedThrough = world.store.progress.lastCompletedThrough := by rw [rest]
  have seen : next.progress.pagesSeen = world.store.progress.pagesSeen := by rw [rest]
  have grows : ∀ gap ∈ world.store.gaps.recorded, gap ∈ next.gaps.recorded := by
    intro gap member
    rw [log]
    exact mem_append_left _ member
  have counted := consistent.counted
  refine ⟨?_, .of_eq completed⟩
  cases preparation with
  | @kept active same recent =>
    have unmoved : next.progress.state.cursor = world.store.progress.state.cursor := cursor
    refine ⟨⟨sound, ?_, ?_, ?_⟩, ?_, ?_, ?_, ?_, consistent.complete, ?_⟩
    · intro held member other found
      simp only [ObservationWorld.followCycle, unmoved] at member found
      rcases lease with kept | ⟨new, present, acquired⟩
      · exact consistent.recent held (kept ▸ member) other found
      · rw [present, mem_def, some.injEq] at member
        rw [same, mem_def, some.injEq] at found
        subst member found
        have facts := active.facts
        have started := Instant.le_def.mp (facts.inside.2.1.trans (facts.inside.2.2.trans facts.ended))
        have fraction := Nat.mod_lt now.micros (y := secondMicros) (by decide)
        rw [acquired]
        simp only [Instant.wholeSecond] at recent
        omega
    · simp only [ObservationWorld.followCycle, unmoved, completed]
      exact consistent.ahead
    · simp only [ObservationWorld.followCycle, seen]
      exact lt_of_lt_of_le counted revision
    · exact lane.trans consistent.lane
    · simp only [ObservationWorld.followCycle, unmoved]
      exact consistent.begun
    · simp only [ObservationWorld.followCycle, completed]
      exact consistent.floor
    · intro instant lower passed
      simp only [ObservationWorld.Passed, ObservationWorld.followCycle, unmoved, completed] at passed
      exact @covers_mono world (world.followCycle next) instant (fun _ member => member) grows
        (consistent.covered instant lower passed)
    · simp only [ObservationWorld.followCycle, unmoved]
      exact consistent.pages
  | @replaced start successor cycleCursor gap configured passed begins cycle follows lost fields =>
    have moved : next.progress.state.cursor = some cycleCursor := by
      rw [cursor, fields]
    have lower : snapshot.configuredAt.wholeSecond ≤ start := by
      cases active : world.store.progress.state.cursor with
      | some old =>
        rw [begins.1 old active]
        exact consistent.begun old active
      | none => exact (begins.2 active consistent.lane).1
    have fresh : world.store.progress.state.cursor ≠ some cycleCursor ∨ world.current = [] := by
      by_cases same : world.store.progress.state.cursor = some cycleCursor
      · right
        have page := (consistent.pages cycleCursor same).2
        rw [cycle.first.2] at page
        exact length_eq_zero_iff.mp (by omega)
      · exact .inl same
    have restarted : (world.followCycle next).current = [] := by
      simp only [ObservationWorld.followCycle, moved]
      rcases fresh with different | empty
      · rw [if_neg fun same => different same.symm]
      · rw [empty, ite_self]
    refine ⟨⟨sound, ?_, ?_, ?_⟩, ?_, ?_, ?_, ?_, consistent.complete, ?_⟩
    · intro held member other found
      simp only [ObservationWorld.followCycle, moved, mem_def, some.injEq] at member found
      subst found
      rcases lease with kept | ⟨new, present, acquired⟩
      · rw [kept, fields] at member
        cases member
      · rw [present, some.injEq] at member
        subst member
        rw [acquired, cycle.started]
        simp only [secondMicros]
        omega
    · intro other found last member
      simp only [ObservationWorld.followCycle, moved, completed, mem_def, some.injEq] at found member
      subst found
      rw [cycle.through]
      exact Instant.le_wholeSecond (world.store.progress.facts.completed last member).1 (passed last member)
    · simp only [ObservationWorld.followCycle]
      rw [fields] at revision
      simp only at revision
      omega
    · have unmoved := lane
      rw [fields] at unmoved
      exact unmoved.trans consistent.lane
    · intro other found
      simp only [ObservationWorld.followCycle, moved, mem_def, some.injEq] at found
      subst found
      rw [cycle.first.1]
      exact lower.trans follows
    · simp only [ObservationWorld.followCycle, completed]
      exact consistent.floor
    · intro instant above passed
      have earlier : instant < start ∨ (∃ last ∈ world.store.progress.lastCompletedThrough, instant ≤ last) →
          (world.followCycle next).Covers instant := by
        intro before
        refine @covers_mono world (world.followCycle next) instant (fun _ member => member) grows
          (consistent.covered instant above ?_)
        exact before.elim (passed_before_start consistent begins rfl above) .inr
      rcases passed with ⟨other, found, before⟩ | done
      · simp only [ObservationWorld.followCycle, moved, mem_def, some.injEq] at found
        subst found
        rw [cycle.first.1] at before
        rcases lost with ⟨_, same⟩ | ⟨gap, present, lostFrom, lostThrough, _⟩
        · exact earlier (.inl (same ▸ before))
        · rcases lt_or_ge instant start with outside | inside
          · exact earlier (.inl outside)
          · refine .inr ⟨gap, ?_, lostFrom ▸ inside, lostThrough ▸ before.le⟩
            simp [ObservationWorld.followCycle, log, present]
      · simp only [ObservationWorld.followCycle, completed] at done
        exact earlier (.inr done)
    · intro other found
      simp only [ObservationWorld.followCycle, moved, mem_def, some.injEq] at found
      subst found
      rw [restarted]
      exact ⟨⟨rfl, by simp, by simp⟩, cycle.first.2⟩

/-- A holder that moves its cursor on within the cycle keeps the lane consistent when it covers what the cursor has left. -/
theorem moved_consistent {moved : ObservationCursor} {read : List ReadWindow} {current : List ProviderObservationPage}
    (written : HolderWritten snapshot world.store claim (some moved) next)
    (completed : next.progress.lastCompletedThrough = world.store.progress.lastCompletedThrough)
    (seen : next.progress.pagesSeen ≤ world.store.progress.pagesSeen + 1)
    (interval : moved.interval = claim.cursor.interval)
    (onward : claim.cursor.window.createdFrom ≤ moved.window.createdFrom)
    (left : ∀ instant, snapshot.configuredAt.wholeSecond ≤ instant → claim.cursor.window.createdFrom ≤ instant →
      instant < moved.window.createdFrom → ObservationWorld.Covers ⟨next, read, current⟩ instant)
    (kept : world.read ⊆ read) (complete : ∀ window ∈ read, window.Complete)
    (pages : Unbroken moved.window current ∧ moved.pageNumber = current.length + 1) :
    ObservationWorld.Consistent snapshot ⟨next, read, current⟩ ∧ CompletedOn world.store next := by
  obtain ⟨lane, revision, cursor, unleased⟩ := written.state
  have active := written.active
  have counted := consistent.counted
  refine ⟨⟨⟨written.sound, ?_, ?_, ?_⟩, lane.trans consistent.lane, ?_, ?_, ?_, complete, ?_⟩, .of_eq completed⟩
  · intro lease member
    rw [unleased] at member
    cases member
  · intro other found
    simp only [cursor, mem_def, some.injEq, completed] at found ⊢
    subst found
    rw [interval]
    exact consistent.ahead claim.cursor active
  · simp only
    omega
  · intro other found
    simp only [cursor, mem_def, some.injEq] at found
    subst found
    exact (consistent.begun claim.cursor active).trans onward
  · simp only [completed]
    exact consistent.floor
  · intro instant lower passed
    have earlier (before : world.Passed instant) : ObservationWorld.Covers ⟨next, read, current⟩ instant :=
      covers_mono kept written.grows (consistent.covered instant lower before)
    simp only [ObservationWorld.Passed, cursor, mem_def, some.injEq, exists_eq_left', completed] at passed
    rcases passed with before | done
    · rcases lt_or_ge instant claim.cursor.window.createdFrom with outside | inside
      · exact earlier (.inl ⟨claim.cursor, active, outside⟩)
      · exact left instant lower inside before
    · exact earlier (.inr done)
  · intro other found
    simp only [cursor, mem_def, some.injEq] at found
    subst found
    exact pages

/-- A holder that keeps its cursor keeps the lane consistent. -/
theorem retry_consistent (written : HolderWritten snapshot world.store claim (some claim.cursor) next)
    (completed : next.progress.lastCompletedThrough = world.store.progress.lastCompletedThrough)
    (seen : next.progress.pagesSeen ≤ world.store.progress.pagesSeen + 1) :
    ({ world with store := next } : ObservationWorld).Consistent snapshot ∧ CompletedOn world.store next :=
  moved_consistent consistent written completed seen rfl le_rfl
    (fun _ _ inside before => absurd before (not_lt.mpr inside)) (List.Subset.refl _) consistent.complete
    (consistent.pages claim.cursor written.active)

end

theorem left_window_kept {truncated : Bool} {left : ReadWindow} :
    world.read ⊆ if truncated = true then world.read else left :: world.read := by
  split
  · exact List.Subset.refl _
  · exact subset_cons_self _ _

section

variable (consistent : world.Consistent snapshot)
include consistent

/-- An instant up to the end of the window is covered once the window has been left. -/
theorem left_window_covers {truncated : Bool} {instant : Instant} (active : world.store.progress.state.cursor = some claim.cursor)
    (sameWindow : observed.page.window = claim.cursor.window)
    (grows : ∀ gap ∈ world.store.gaps.recorded, gap ∈ next.gaps.recorded)
    (recorded : truncated = true → ∃ gap ∈ next.gaps.recorded, IsPageGap claim gap)
    (lower : snapshot.configuredAt.wholeSecond ≤ instant) (upper : instant ≤ claim.cursor.window.createdThrough) :
    ObservationWorld.Covers ⟨next,
      if truncated = true then world.read else ⟨observed.page.window, world.current ++ [observed]⟩ :: world.read, []⟩
      instant := by
  rcases lt_or_ge instant claim.cursor.window.createdFrom with before | inside
  · exact covers_mono left_window_kept grows (consistent.covered instant lower (.inl ⟨claim.cursor, active, before⟩))
  · cases truncated with
    | true =>
      obtain ⟨gap, member, isGap⟩ := recorded rfl
      exact .inr ⟨gap, member, isGap.2.2.1 ▸ inside, isGap.2.2.2 ▸ upper⟩
    | false =>
      refine .inl ⟨⟨observed.page.window, world.current ++ [observed]⟩, by simp, ?_, ?_⟩
      · rw [sameWindow]
        exact inside
      · rw [sameWindow]
        exact upper

/-- A window that is left without a truncation has been read up to its last page. -/
theorem left_window_complete {truncated : Bool} (active : world.store.progress.state.cursor = some claim.cursor)
    (answers : AnswersCursor claim.cursor observed.page)
    (ended : observed.page.termination = .exhausted ∨ truncated = true) :
    ∀ read ∈ if truncated = true then world.read else ⟨observed.page.window, world.current ++ [observed]⟩ :: world.read,
      ReadWindow.Complete read := by
  obtain ⟨unbroken, number⟩ := consistent.pages claim.cursor active
  intro read member
  cases truncated with
  | true => exact consistent.complete read member
  | false =>
    rcases mem_cons.mp member with rfl | earlier
    · refine ⟨?_, observed, by simp, by simpa using ended⟩
      simp only [answers.1]
      exact unbroken.close answers.1 (answers.2.trans number)
    · exact consistent.complete read earlier

/-- A page that is recorded keeps the lane consistent. -/
theorem page_consistent {progress : ObservationPageProgress}
    (advanced : advanceDiscoveryCursor claim.cursor observed.page = .ok progress)
    (written : PageWritten snapshot world.store claim progress false next) :
    (world.followPage observed progress next).Consistent snapshot ∧ CompletedOn world.store next := by
  obtain ⟨answers, step⟩ := discoveryStep_of_advance advanced
  obtain ⟨holder, completed, seen, truncated⟩ := written
  simp only [Bool.false_eq_true, if_false] at holder completed
  have active := holder.active
  have facts := claim.cursor.facts
  cases step with
  | @split part cycle first starts =>
    have same : next.progress.lastCompletedThrough = world.store.progress.lastCompletedThrough := by simpa using completed
    exact moved_consistent consistent holder same seen.le cycle.1 starts.ge
      (fun _ _ inside before => absurd (starts ▸ before) (not_lt.mpr inside)) (List.Subset.refl _) consistent.complete
      ⟨⟨rfl, by simp, by simp⟩, first⟩
  | @nextPage moved announced fields =>
    have same : next.progress.lastCompletedThrough = world.store.progress.lastCompletedThrough := by simpa using completed
    have further : moved.pageNumber ≠ 1 := by
      have page := facts.page.1
      rw [fields]
      simp only
      omega
    have follows : world.followPage observed ⟨some moved, true, false⟩ next =
        { world with store := next, current := world.current ++ [observed] } := by
      simp [ObservationWorld.followPage, further]
    have window : moved.window = claim.cursor.window := by rw [fields]
    rw [follows]
    refine moved_consistent consistent holder same seen.le (by rw [fields]) (window ▸ le_rfl)
      (fun _ _ inside before => absurd (window ▸ before) (not_lt.mpr inside)) (List.Subset.refl _) consistent.complete ?_
    obtain ⟨unbroken, number⟩ := consistent.pages claim.cursor active
    rw [fields]
    refine ⟨unbroken.extend answers.1 (answers.2.trans number) announced, ?_⟩
    rw [length_append, length_singleton, number]
  | @nextWindow moved cut read cycle first starts =>
    have same : next.progress.lastCompletedThrough = world.store.progress.lastCompletedThrough := by simpa using completed
    have follows : world.followPage observed ⟨some moved, true, cut⟩ next =
        ⟨next, if cut = true then world.read else ⟨observed.page.window, world.current ++ [observed]⟩ :: world.read, []⟩ := by
      simp [ObservationWorld.followPage, first]
    rw [follows]
    exact moved_consistent consistent holder same seen.le cycle.1 (starts ▸ facts.inside.2.1) (fun instant lower _ before =>
        left_window_covers consistent active answers.1 holder.grows truncated lower (starts ▸ before).le)
      left_window_kept (left_window_complete consistent active answers read) ⟨⟨rfl, by simp, by simp⟩, first⟩
  | @finished cut read ends =>
    rw [if_pos rfl] at completed
    have follows : world.followPage observed ⟨none, true, cut⟩ next =
        ⟨next, if cut = true then world.read else ⟨observed.page.window, world.current ++ [observed]⟩ :: world.read, []⟩ := by
      simp [ObservationWorld.followPage]
    obtain ⟨lane, revision, cursor, unleased⟩ := holder.state
    have counted := consistent.counted
    rw [follows]
    refine ⟨⟨⟨holder.sound, ?_, ?_, ?_⟩, lane.trans consistent.lane, ?_, ?_, ?_, ?_, ?_⟩, ?_⟩
    · intro lease member
      rw [unleased] at member
      cases member
    · intro other found
      rw [cursor] at found
      cases found
    · simp only
      omega
    · intro other found
      rw [cursor] at found
      cases found
    · intro last member
      simp only [completed, mem_def, some.injEq] at member
      subst member
      exact (consistent.begun claim.cursor active).trans (facts.inside.2.1.trans facts.inside.2.2)
    · intro instant lower passed
      simp only [ObservationWorld.Passed, cursor, completed, mem_def, some.injEq, exists_eq_left', reduceCtorEq,
        false_and, exists_false, false_or] at passed
      exact left_window_covers consistent active answers.1 holder.grows truncated lower (passed.trans ends.ge)
    · exact left_window_complete consistent active answers read
    · intro other found
      rw [cursor] at found
      cases found
    · intro last member
      exact ⟨_, completed, consistent.ahead claim.cursor active last member⟩

/-- Every transaction keeps the lane consistent. -/
theorem step_consistent {request : ObservationRequest} {next : ObservationWorld}
    (served : world.step snapshot request = .ok next) :
    next.Consistent snapshot ∧ CompletedOn world.store next.store := by
  cases request with
  | claim workerId token now writtenAt =>
    simp only [ObservationWorld.step, bind_eq_ok, pure_eq_ok_iff] at served
    obtain ⟨⟨reply, store⟩, claimed, rfl⟩ := served
    rcases @claimObservation_spec snapshot world.store now consistent.sound workerId token writtenAt with
      ⟨_, other, computed, effect⟩ | ⟨_, raised, _⟩
    · rw [claimed] at computed
      cases computed
      rcases effect with rfl | written
      · simp only [ObservationWorld.followCycle]
        exact ⟨consistent, .of_eq rfl⟩
      · exact cycle_consistent consistent written
    · rw [claimed] at raised
      cases raised
  | recordPage claim observed register lockedAt now writtenAt retryDelay =>
    simp only [ObservationWorld.step, bind_eq_ok, pure_eq_ok_iff] at served
    obtain ⟨⟨reply, store⟩, recorded, progress, advanced, rfl⟩ := served
    rcases @recordObservationPage_spec snapshot world.store claim consistent.toLaneSound observed register lockedAt now
      writtenAt retryDelay with ⟨_, other, computed, effect⟩ | ⟨_, raised, _⟩
    · rw [recorded] at computed
      cases computed
      rcases effect with ⟨rfl, rfl⟩ | ⟨followed, full, replied, again, _, written⟩
      · exact ⟨consistent, .of_eq rfl⟩
      · rw [advanced] at again
        cases again
        cases full with
        | true =>
          simp only [replied]
          exact retry_consistent consistent written.holder written.completed written.pages.le
        | false =>
          simp only [replied, pageReply, Bool.false_eq_true, if_false, if_true]
          obtain ⟨kept, on⟩ := page_consistent consistent advanced written
          refine ⟨kept, ?_⟩
          unfold ObservationWorld.followPage
          split
          · exact on
          · split <;> exact on
    · rw [recorded] at raised
      cases raised
  | defer claim reason now writtenAt retryDelay =>
    simp only [ObservationWorld.step, bind_eq_ok, pure_eq_ok_iff] at served
    obtain ⟨⟨reply, store⟩, deferred, rfl⟩ := served
    rcases @deferObservation_spec snapshot world.store claim consistent.sound reason now writtenAt retryDelay with
      ⟨_, other, computed, effect⟩ | ⟨_, raised, _⟩
    · rw [deferred] at computed
      cases computed
      rcases effect with rfl | ⟨written, completed, seen⟩
      · exact ⟨consistent, .of_eq rfl⟩
      · exact retry_consistent consistent written completed (seen.le.trans (Nat.le_succ _))
    · rw [deferred] at raised
      cases raised
  | others rows detailTruncatedUntil sound =>
    cases served
    exact ⟨⟨⟨sound, consistent.recent, consistent.ahead, consistent.counted⟩, consistent.lane, consistent.begun,
      consistent.floor, consistent.covered, consistent.complete, consistent.pages⟩, .of_eq rfl⟩

end

theorem CompletedOn.trans {first second third : ObservationStore} (left : CompletedOn first second)
    (right : CompletedOn second third) : CompletedOn first third := by
  intro last member
  obtain ⟨middle, found, before⟩ := left last member
  obtain ⟨reached, final, after⟩ := right middle found
  exact ⟨reached, final, before.trans after⟩

theorem run_consistent {later : ObservationWorld} (consistent : world.Consistent snapshot)
    (run : ObservationRun snapshot world later) :
    later.Consistent snapshot ∧ CompletedOn world.store later.store := by
  induction run with
  | start => exact ⟨consistent, .of_eq rfl⟩
  | step run request served ih =>
    obtain ⟨kept, on⟩ := step_consistent ih.1 served
    exact ⟨kept, ih.2.trans on⟩

/-- The lane of an enabled observation starts with the second of its configuration. -/
theorem initial_consistent_observation {recent backfill : ObservationScanState} {progress : ObservationScanProgress}
    {table : ObservationGapTable} (enabled : snapshot.configuration.enabled = true)
    (initial : initialObservationScans snapshot = .ok (recent, backfill))
    (made : ObservationScanProgress.make ⟨recent, none, none, 0, 0, none⟩ = .ok progress) (sound : GapsSound table.rows) :
    (⟨⟨progress, table⟩, [], []⟩ : ObservationWorld).Consistent snapshot := by
  have fields := ObservationScanProgress.make_eq_ok made
  simp only [initialObservationScans, initialRecentCycle, initialCycle, enabled, if_true, bind_eq_ok, pure_eq_ok_iff] at initial
  obtain ⟨cursor, ⟨interval, window, first, opened, rfl⟩, state, built, _, _, _, _, _, _, rfl, _⟩ := initial
  have stateFields := ObservationScanState.make_eq_ok built
  obtain ⟨intervalFrom, _⟩ := RunDiscoveryWindow.make_eq_ok window
  obtain ⟨_, _, windowFrom, page⟩ := ObservationCursor.start_eq_ok opened
  have active : progress.state.cursor = some first := by rw [fields, stateFields]
  have completed : progress.lastCompletedThrough = none := by rw [fields]
  have begins : first.window.createdFrom = snapshot.configuredAt.wholeSecond := windowFrom.trans intervalFrom
  refine ⟨⟨sound, ?_, ?_, ?_⟩, ?_, ?_, ?_, ?_, by simp, ?_⟩
  · intro lease member
    simp only [fields, stateFields] at member
    cases member
  · intro other _ last member
    simp only [completed] at member
    cases member
  · simp only [fields, stateFields]
    decide
  · simp [fields, stateFields]
  · intro other found
    simp only [active, mem_def, some.injEq] at found
    subst found
    exact begins.ge
  · intro last member
    simp only [completed] at member
    cases member
  · intro instant lower passed
    simp only [ObservationWorld.Passed, active, completed, mem_def, some.injEq, exists_eq_left', reduceCtorEq,
      false_and, exists_false, or_false, begins] at passed
    exact absurd lower (not_le.mpr passed)
  · intro other found
    simp only [active, mem_def, some.injEq] at found
    subst found
    exact ⟨⟨rfl, by simp, by simp⟩, page⟩

end Steps

/-- An observation lane loses no time in a world, towards all the worlds that can follow it. -/
structure ObservationWorld.LosesNothing (snapshot : ObservationSnapshot) (world : ObservationWorld) : Prop where
  covered : ∀ last ∈ world.store.progress.lastCompletedThrough, ∀ instant,
    snapshot.configuredAt.wholeSecond ≤ instant → instant ≤ last → world.Covers instant
  complete : ∀ read ∈ world.read, read.Complete
  completed : ∀ later, ObservationRun snapshot world later → CompletedOn world.store later.store
  claims : ∀ workerId token now writtenAt, isSha256Hex workerId = true → isSha256Hex token = true →
    WithinCalendar snapshot.configuredAt → WithinCalendar now →
    (∃ next, world.step snapshot (.claim workerId token now writtenAt) = .ok next) ∨
      Colliding (InvolvedGap world.store (PreparedGap snapshot world.store now))
  records : ∀ claim observed register lockedAt now writtenAt retryDelay, observed.page.scope = claim.scope →
    AnswersCursor claim.cursor observed.page → AnswersEach register → WithinCalendar lockedAt → WithinCalendar now →
    retryDelay ≤ 120 →
    (∃ next, world.step snapshot (.recordPage claim observed register lockedAt now writtenAt retryDelay) = .ok next) ∨
      Colliding (InvolvedGap world.store (PageGap snapshot claim)) ∨ CounterFull world.store observed
  defers : ∀ claim reason now writtenAt retryDelay, WithinCalendar now → retryDelay ≤ 120 →
    ∃ next, world.step snapshot (.defer claim reason now writtenAt retryDelay) = .ok next

theorem retry_in_range {now : Instant} {retryDelay : Nat} (margin : WithinCalendar now) (bounded : retryDelay ≤ 120) :
    now.micros + secondMicros * retryDelay < instantLimit := by
  have bound := margin.2
  have short : retryDelay ≤ observationGapRetentionSeconds := bounded.trans (by decide)
  have product := Nat.mul_le_mul_left secondMicros short
  omega

/-- An observation lane loses no time in every run of its transactions. -/
theorem observation_loses_nothing {snapshot : ObservationSnapshot} {recent backfill : ObservationScanState}
    {progress : ObservationScanProgress} {table : ObservationGapTable} (enabled : snapshot.configuration.enabled = true)
    (initial : initialObservationScans snapshot = .ok (recent, backfill))
    (made : ObservationScanProgress.make ⟨recent, none, none, 0, 0, none⟩ = .ok progress) (sound : GapsSound table.rows)
    {world : ObservationWorld} (run : ObservationRun snapshot ⟨⟨progress, table⟩, [], []⟩ world) :
    world.LosesNothing snapshot := by
  have consistent := (run_consistent (initial_consistent_observation enabled initial made sound) run).1
  refine ⟨?_, consistent.complete, fun later run => (run_consistent consistent run).2, ?_, ?_, ?_⟩
  · exact fun last member instant lower upper => consistent.covered instant lower (Or.inr ⟨last, member, upper⟩)
  · intro workerId token now writtenAt worker secret configured margin
    rcases @claimObservation_spec snapshot world.store now consistent.sound workerId token writtenAt with
      ⟨reply, next, computed, _⟩ | ⟨_, _, cause⟩
    · exact Or.inl ⟨world.followCycle next, by rw [ObservationWorld.step, computed]; rfl⟩
    · refine Or.inr (cause worker secret margin ?_)
      have first : secondMicros * observationOverlapSeconds ≤ snapshot.configuredAt.wholeSecond.micros := by
        have bound := configured.1
        simp only [Instant.wholeSecond, secondMicros, maxDiscoveryWindowSeconds, observationOverlapSeconds] at bound ⊢
        omega
      cases ended : world.store.progress.lastCompletedThrough with
      | none => exact first
      | some last => exact first.trans (Instant.le_def.mp (consistent.floor last ended))
  · intro claim observed register lockedAt now writtenAt retryDelay scope answers each locked margin bounded
    rcases @recordObservationPage_spec snapshot world.store claim consistent.toLaneSound observed register lockedAt now
      writtenAt retryDelay with ⟨reply, next, computed, _⟩ | ⟨_, _, cause⟩
    · obtain ⟨progress, advanced, _⟩ := advanceDiscoveryCursor_spec answers
      exact Or.inl ⟨if reply = .applied then world.followPage observed progress next else { world with store := next },
        by rw [ObservationWorld.step, computed]; simp only [advanced]; rfl⟩
    · exact Or.inr (cause scope answers each locked margin (retry_in_range margin bounded))
  · intro claim reason now writtenAt retryDelay margin bounded
    rcases @deferObservation_spec snapshot world.store claim consistent.sound reason now writtenAt retryDelay with
      ⟨reply, next, computed, _⟩ | ⟨_, _, beyond⟩
    · exact ⟨{ world with store := next }, by rw [ObservationWorld.step, computed]; rfl⟩
    · exact absurd (retry_in_range margin bounded) (not_lt.mpr beyond)

namespace Sample

def yearOne : Instant :=
  ⟨0, zero_lt_instantLimit⟩

/-- An observation of all workflows that is configured in the first second of the calendar. -/
def yearOneSnapshot : ObservationSnapshot :=
  ⟨⟨⟨⟨1, 1⟩, firstScope⟩, 1, ⟨true, none, 0, Nat.zero_le _, allWorkflows⟩, yearOne⟩, by decide⟩

def yearOneWindow : RunDiscoveryWindow :=
  ⟨⟨yearOne, yearOne⟩, by decide⟩

def yearOneRecent : ObservationScanState :=
  ⟨⟨yearOneSnapshot.scope, 1, .recent, 1, some ⟨⟨yearOneWindow, yearOneWindow, 1, yearOne⟩, by decide⟩, yearOne, none⟩,
    by decide⟩

def yearOneBackfill : ObservationScanState :=
  ⟨⟨yearOneSnapshot.scope, 1, .backfill, 1, none, ⟨21600000000, by decide⟩, none⟩, by decide⟩

def yearOneProgress : ObservationScanProgress :=
  ⟨⟨yearOneRecent, none, none, 0, 0, none⟩, by decide⟩

/-- The lane with which the observation starts. -/
def yearOneWorld : ObservationWorld :=
  ⟨⟨yearOneProgress, ⟨[], none, []⟩⟩, [], []⟩

theorem yearOne_initial : initialObservationScans yearOneSnapshot = .ok (yearOneRecent, yearOneBackfill) := by
  decide

end Sample

/-- A lane cannot be claimed in the first week of the calendar. -/
theorem early_claim_raises :
    initialObservationScans Sample.yearOneSnapshot = .ok (Sample.yearOneRecent, Sample.yearOneBackfill) ∧
      Sample.yearOneSnapshot.configuration.enabled = true ∧
      ObservationRun Sample.yearOneSnapshot Sample.yearOneWorld Sample.yearOneWorld ∧
      Sample.yearOneWorld.step Sample.yearOneSnapshot
        (.claim (List.replicate 64 48) (List.replicate 64 48) Sample.yearOne Sample.yearOne) = .error .overflowError := by
  refine ⟨Sample.yearOne_initial, rfl, .start, ?_⟩
  rfl

namespace Sample

theorem watch_inRange (index : Fin 300) : 10800000000 * (index : Nat) < instantLimit := by
  have := index.isLt
  simp only [instantLimit]
  omega

/-- The instants that lie three hours apart. -/
def watch (index : Fin 300) : Instant :=
  ⟨10800000000 * index, watch_inRange index⟩

/-- An observation that is configured after twenty days. -/
def outageSnapshot : ObservationSnapshot :=
  ⟨⟨⟨⟨1, 1⟩, firstScope⟩, 1, ⟨true, none, 0, Nat.zero_le _, allWorkflows⟩, watch 160⟩, by decide⟩

theorem outage_starts : (initialObservationScans outageSnapshot).isOk = true := by
  decide +kernel

def outageScans : ObservationScanState × ObservationScanState :=
  returned _ outage_starts

theorem outage_progress :
    (ObservationScanProgress.make ⟨outageScans.1, none, none, 0, 0, none⟩).isOk = true := by
  decide +kernel

def outageStart : ObservationWorld :=
  ⟨⟨returned _ outage_progress, ⟨[], none, []⟩⟩, [], []⟩

/-- The claim that the lease of a state stands for. -/
def heldClaim (state : ObservationScanState) : Option ObservationClaim := do
  let cursor ← state.cursor
  let lease ← state.lease
  (ObservationClaim.make ⟨state.scope, state.configRevision, state.lane, state.revision, cursor, lease⟩).toOption

/-- A worker claims the lane and records a page under its claim. -/
def visit (world : ObservationWorld) (observed : Instant × ProviderObservationPage) : Py ObservationWorld := do
  let claimed ← world.step outageSnapshot (.claim (List.replicate 64 48) (List.replicate 64 48) observed.1 observed.1)
  match heldClaim claimed.store.progress.state with
  | none => return claimed
  | some claim =>
    claimed.step outageSnapshot
      (.recordPage claim observed.2 (fun sources => sources.map fun _ => .registered) observed.1 observed.1 observed.1 30)

theorem visit_run {start world next : ObservationWorld} {observed : Instant × ProviderObservationPage}
    (run : ObservationRun outageSnapshot start world) (visited : visit world observed = .ok next) :
    ObservationRun outageSnapshot start next := by
  obtain ⟨claimed, served, recorded⟩ := bind_eq_ok.mp visited
  have held := ObservationRun.step run _ served
  split at recorded
  · exact Except.ok.inj recorded ▸ held
  · exact .step held _ recorded

def firstWindow : RunDiscoveryWindow :=
  ⟨⟨watch 160, watch 160⟩, by decide⟩

/-- The window of the second cycle and its halves. -/
def wholeWindow : RunDiscoveryWindow :=
  ⟨⟨watch 160, watch 162⟩, by decide⟩

def headWindow : RunDiscoveryWindow :=
  ⟨⟨watch 160, watch 161⟩, by decide⟩

def tailWindow : RunDiscoveryWindow :=
  ⟨⟨watch 161, watch 162⟩, by decide⟩

/-- The first window of the week before the end of an outage of ten days. -/
def lateWindow : RunDiscoveryWindow :=
  ⟨⟨watch 186, watch 188⟩, by decide⟩

def firstPage : ProviderObservationPage :=
  ⟨⟨⟨⟨outageSnapshot.scope, firstWindow, 1, 0, [], .exhausted⟩, by decide⟩, []⟩, by decide⟩

/-- The provider reports more runs for the whole window than it lists. -/
def crowdedPage : ProviderObservationPage :=
  ⟨⟨⟨⟨outageSnapshot.scope, wholeWindow, 1, 2000, [], .truncated⟩, by decide⟩, []⟩, by decide⟩

def headSource : ProviderRunCollectionSource :=
  ⟨⟨⟨outageSnapshot.scope, 1, 1, List.replicate 40 48⟩, by decide⟩, watch 160, ⟨2022, 11, 28⟩,
    ⟨List.replicate 64 48, isSha256Hex_zeros⟩⟩

def headPage : ProviderObservationPage :=
  ⟨⟨⟨⟨outageSnapshot.scope, headWindow, 1, 1, [headSource], .exhausted⟩, by decide⟩, [1]⟩, by decide⟩

def tailPage : ProviderObservationPage :=
  ⟨⟨⟨⟨outageSnapshot.scope, tailWindow, 1, 0, [], .exhausted⟩, by decide⟩, []⟩, by decide⟩

def latePage : ProviderObservationPage :=
  ⟨⟨⟨⟨outageSnapshot.scope, lateWindow, 1, 0, [], .exhausted⟩, by decide⟩, []⟩, by decide⟩

/-- A first cycle, a second one in two halves, and the first page after an outage of ten days. -/
def outageVisits : List (Instant × ProviderObservationPage) :=
  [(watch 160, firstPage), (watch 162, crowdedPage), (watch 162, headPage), (watch 162, tailPage), (watch 242, latePage)]

theorem outageVisits_return : (foldSteps visit outageStart outageVisits).isOk = true := by
  decide +kernel

def outageWorld : ObservationWorld :=
  returned _ outageVisits_return

theorem outageWorld_reached : ObservationRun outageSnapshot outageStart outageWorld :=
  foldSteps_keeps (fun _ _ _ run visited => visit_run run visited) .start (eq_ok_returned outageVisits_return)

end Sample

/-- An observation completes two cycles, and a gap covers the days that an outage has lost. -/
theorem observation_loses_nothing_outage :
    Sample.outageWorld.store.progress.lastCompletedThrough = some (Sample.watch 162) ∧
      Sample.outageWorld.read.map ReadWindow.window =
        [Sample.lateWindow, Sample.tailWindow, Sample.headWindow, Sample.firstWindow] ∧
      (Sample.outageWorld.store.gaps.recorded.map fun gap => (gap.createdFrom.micros, gap.createdThrough)) =
        [((Sample.watch 162).micros - secondMicros * observationOverlapSeconds, Sample.watch 186)] ∧
      Sample.outageWorld.LosesNothing Sample.outageSnapshot := by
  refine ⟨by decide +kernel, by decide +kernel, by decide +kernel, ?_⟩
  exact observation_loses_nothing rfl (eq_ok_returned Sample.outage_starts) (eq_ok_returned Sample.outage_progress)
    ⟨by simp, by simp, by simp [scopeRows]⟩ Sample.outageWorld_reached

end CiCoordinator.Persistence

import CiCoordinator.CiEconomics.HistoryBackfill
import Mathlib.Data.Prod.Lex
import Mathlib.Order.WellFounded

/- The coverage and the termination of a history backfill. -/

namespace CiCoordinator.CiEconomics

open Library Kernel ConfigControl ProviderRunDiscoveryPageFields HistoryCheckpoint BackfillWorld List
open ProviderRunDiscoveryPageFields

/-- The pages of the window that the cursor is in. -/
def OpenPages (world : BackfillWorld) : Prop :=
  match world.checkpoint.pending with
  | none =>
    if world.checkpoint.complete = true then world.current = []
    else Unbroken world.checkpoint.cursor.window world.current ∧
      world.checkpoint.cursor.pageNumber = world.current.length + 1
  | some pending => ∃ earlier, world.current = earlier ++ [pending.observed] ∧
      Unbroken world.checkpoint.cursor.window earlier ∧ world.checkpoint.cursor.pageNumber = earlier.length + 1

/-- The instant up to which the windows are covered. -/
def BackfillWorld.frontier (world : BackfillWorld) : Instant :=
  if world.checkpoint.complete = true then world.checkpoint.cursor.window.createdThrough
  else world.checkpoint.cursor.window.createdFrom

/-- The windows of a backfill are covered in order. -/
structure WindowsInOrder (start : HistoryCursor) (world : BackfillWorld) : Prop where
  population : SamePopulation start world.checkpoint.cursor
  tiles : Tiles start.createdFrom world.covered world.frontier
  read : ∀ covered ∈ world.covered, covered.Read
  pages : OpenPages world
  reported : ∀ pending progress, world.checkpoint.pending = some pending →
    advanceHistoryCursor world.checkpoint.cursor pending.observed.page = .ok progress →
    world.gapReported = progress.providerTruncated

/-- The runs of the registered pages are settled, up to the pending one. -/
structure RunsSettled (world : BackfillWorld) : Prop where
  settled : ∀ observed ∈ world.registered, ∀ index < observed.page.sources.length,
    Settled world.marks observed index ∨
      ∃ pending, world.checkpoint.pending = some pending ∧ pending.observed = observed ∧ pending.runIndex ≤ index
  attempts : ∀ pending, world.checkpoint.pending = some pending → ∀ attempt, 1 ≤ attempt → attempt < pending.nextAttempt →
    RunMark.attempted pending.observed pending.runIndex attempt ∈ world.marks
  skips : SkipsUnselected world.marks

theorem SamePopulation.trans {first second third : HistoryCursor} (left : SamePopulation first second)
    (right : SamePopulation second third) : SamePopulation first third := by
  obtain ⟨scope, lower, upper, cycle⟩ := left
  obtain ⟨scope', lower', upper', cycle'⟩ := right
  exact ⟨scope'.trans scope, lower'.trans lower, upper'.trans upper, cycle'.trans cycle⟩

section Windows

variable {start : HistoryCursor} {world : BackfillWorld}

/-- A window that the cursor leaves has been read. -/
theorem read_of_last {window : RunDiscoveryWindow} {earlier : List ProviderObservationPage}
    {observed : ProviderObservationPage} (unbroken : Unbroken window earlier) (sameWindow : observed.page.window = window)
    (number : observed.page.pageNumber = earlier.length + 1) (last : observed.page.termination ≠ .nextPage) :
    CoveredWindow.Read ⟨window, earlier ++ [observed], observed.page.truncates⟩ := by
  refine ⟨unbroken.close sameWindow number, observed, by simp, ?_⟩
  cases ends : observed.page.termination with
  | nextPage => exact absurd ends last
  | exhausted => exact .inl rfl
  | truncated => exact .inr (by simp [ProviderRunDiscoveryPage.truncates, ends])

/-- A cursor that goes on to another window leaves a window of positive width. -/
theorem window_ne {cursor next : HistoryCursor} (unfinished : cursor.window.createdThrough ≠ cursor.createdThrough)
    (starts : next.window.createdFrom = cursor.window.createdThrough) : next.window ≠ cursor.window := by
  intro same
  have facts := cursor.facts
  have wide : cursor.createdFrom ≠ cursor.createdThrough := by
    intro equal
    apply unfinished
    apply le_antisymm facts.inside.2.2.1
    rw [← equal]
    exact facts.inside.1.trans facts.inside.2.1
  rw [same] at starts
  exact (facts.positiveWidth wide).ne starts

/-- A page whose runs are done leads to the next page, to the next window or to the end. -/
theorem moveTo_inOrder {earlier : List ProviderObservationPage} {observed : ProviderObservationPage}
    {progress : HistoryPageProgress} {next : HistoryCheckpoint} (population : SamePopulation start world.checkpoint.cursor)
    (tiles : Tiles start.createdFrom world.covered world.checkpoint.cursor.window.createdFrom)
    (read : ∀ covered ∈ world.covered, covered.Read) (current : world.current = earlier ++ [observed])
    (unbroken : Unbroken world.checkpoint.cursor.window earlier)
    (number : world.checkpoint.cursor.pageNumber = earlier.length + 1)
    (reported : world.gapReported = progress.providerTruncated)
    (advanced : advanceHistoryCursor world.checkpoint.cursor observed.page = .ok progress)
    (registers : progress.registerSources = true)
    (fields : next.toHistoryCheckpointFields = ⟨progress.cursor.getD world.checkpoint.cursor, none, progress.cursor.isNone⟩) :
    WindowsInOrder start (world.moveTo next) := by
  have answers := answers_of_advance advanced
  have sameWindow : observed.page.window = world.checkpoint.cursor.window := answers.2.1
  have sameNumber : observed.page.pageNumber = earlier.length + 1 := answers.2.2.trans number
  have awaiting : next.pending = none := by rw [fields]
  have noReport : ∀ pending progress, next.pending = some pending →
      advanceHistoryCursor next.cursor pending.observed.page = .ok progress →
        (world.moveTo next).gapReported = progress.providerTruncated := by
    intro pending _ waits
    rw [awaiting] at waits
    cases waits
  cases pageStep_of_advance advanced with
  | split population first starts wide narrower => cases registers
  | @nextPage cursor announced moved =>
    have running : next.complete = false := by rw [fields]; rfl
    have cursorFields : next.cursor.toHistoryCursorFields = { world.checkpoint.cursor.toHistoryCursorFields with
          pageNumber := world.checkpoint.cursor.pageNumber + 1 } := by
      rw [fields]
      exact moved
    have stays : ¬ (next.complete = true ∨ next.cursor.window ≠ world.checkpoint.cursor.window) := by
      simp [running, cursorFields]
    rw [moveTo, if_neg stays] at noReport ⊢
    refine ⟨population.trans ?_, ?_, read, ?_, noReport⟩
    · simp [SamePopulation, cursorFields]
    · simpa [BackfillWorld.frontier, running, cursorFields] using tiles
    · simp only [OpenPages, awaiting, running, cursorFields, current]
      exact ⟨unbroken.extend sameWindow sameNumber announced, by simp [number]⟩
  | @nextWindow cursor last unfinished same first starts =>
    have running : next.complete = false := by rw [fields]; rfl
    have moved : next.cursor = cursor := by rw [fields]; rfl
    have leaves : next.complete = true ∨ next.cursor.window ≠ world.checkpoint.cursor.window :=
      .inr (moved ▸ window_ne unfinished starts)
    rw [moveTo, if_pos leaves] at noReport ⊢
    refine ⟨population.trans (moved ▸ same), ?_, ?_, ?_, noReport⟩
    · simp only [BackfillWorld.frontier, running, moved, starts]
      exact Tiles.append tiles rfl
    · intro covered member
      rcases mem_append.mp member with before | added
      · exact read covered before
      · rw [mem_singleton.mp added, current, reported]
        exact read_of_last unbroken sameWindow sameNumber last
    · simp only [OpenPages, awaiting, running, moved, first]
      exact ⟨⟨rfl, by simp, by simp⟩, rfl⟩
  | finished last ends =>
    have complete : next.complete = true := by rw [fields]; rfl
    have moved : next.cursor = world.checkpoint.cursor := by rw [fields]; rfl
    rw [moveTo, if_pos (.inl complete)] at noReport ⊢
    refine ⟨moved ▸ population, ?_, ?_, ?_, noReport⟩
    · simp only [BackfillWorld.frontier, complete, moved]
      exact Tiles.append tiles rfl
    · intro covered member
      rcases mem_append.mp member with before | added
      · exact read covered before
      · rw [mem_singleton.mp added, current, reported]
        exact read_of_last unbroken sameWindow sameNumber last
    · simp [OpenPages, awaiting, complete]

theorem frontier_running (running : world.checkpoint.complete = false) :
    world.frontier = world.checkpoint.cursor.window.createdFrom := by
  simp [BackfillWorld.frontier, running]

/-- The windows stay in order while a page stays pending. -/
theorem WindowsInOrder.pending_moved {next : HistoryCheckpoint} {pending successor : HistoryPendingPage} {marks : List RunMark}
    (inOrder : WindowsInOrder start world) (waits : world.checkpoint.pending = some pending)
    (page : successor.observed = pending.observed)
    (fields : next.toHistoryCheckpointFields = ⟨world.checkpoint.cursor, some successor, false⟩) :
    WindowsInOrder start { world with checkpoint := next, marks := marks } := by
  have running := (pending_facts waits).1
  have tiles := inOrder.tiles
  have pages := inOrder.pages
  rw [frontier_running running] at tiles
  simp only [OpenPages, waits] at pages
  refine ⟨?_, ?_, inOrder.read, ?_, ?_⟩
  · rw [fields]
    exact inOrder.population
  · simp only [BackfillWorld.frontier, fields]
    exact tiles
  · simp only [OpenPages, fields, page]
    exact pages
  · intro other computed found advanced
    simp only [fields, Option.some.injEq] at found advanced
    subst found
    rw [page] at advanced
    exact inOrder.reported pending computed waits advanced

/-- Every step keeps the windows in order. -/
theorem step_inOrder {next : BackfillWorld} (inOrder : WindowsInOrder start world) (step : BackfillStep world next) :
    WindowsInOrder start next := by
  have pages := inOrder.pages
  have tiles := inOrder.tiles
  cases step with
  | @subdivided checkpoint part awaiting running population first starts narrower fields =>
    rw [frontier_running running] at tiles
    refine ⟨?_, ?_, inOrder.read, ?_, ?_⟩
    · rw [fields]
      exact inOrder.population.trans population
    · simp only [BackfillWorld.frontier, fields, starts]
      exact tiles
    · simp only [OpenPages, fields, first]
      exact ⟨⟨rfl, by simp, by simp⟩, rfl⟩
    · intro pending progress waits
      rw [fields] at waits
      cases waits
  | @opened checkpoint observed pending progress awaiting running advanced registers page fields =>
    rw [frontier_running running] at tiles
    simp only [OpenPages, awaiting, running] at pages
    refine ⟨?_, ?_, inOrder.read, ?_, ?_⟩
    · rw [fields]
      exact inOrder.population
    · simp only [BackfillWorld.frontier, fields]
      exact tiles
    · simp only [OpenPages, fields, page]
      exact ⟨world.current, rfl, pages⟩
    · intro other computed waits again
      simp only [fields, Option.some.injEq] at waits again
      subst waits
      rw [page, advanced] at again
      exact congrArg HistoryPageProgress.providerTruncated (Except.ok.inj again)
  | @passed checkpoint observed progress awaiting running empty advanced registers fields =>
    rw [frontier_running running] at tiles
    simp only [OpenPages, awaiting, running] at pages
    exact @moveTo_inOrder start _ world.current observed progress checkpoint inOrder.population tiles inOrder.read rfl
      pages.1 pages.2 rfl advanced registers fields
  | @attempted checkpoint pending successor waits more page fields =>
    exact inOrder.pending_moved waits (by rw [page]) fields
  | @nextRun checkpoint pending successor mark waits finishes page fields =>
    exact inOrder.pending_moved waits (by rw [page]) fields
  | @pageDone checkpoint pending mark progress waits finishes last advanced registers fields =>
    have running := (pending_facts waits).1
    rw [frontier_running running] at tiles
    simp only [OpenPages, waits] at pages
    obtain ⟨earlier, current, unbroken, number⟩ := pages
    exact @moveTo_inOrder start _ earlier pending.observed progress checkpoint inOrder.population tiles inOrder.read
      current unbroken number (inOrder.reported pending progress waits advanced) advanced registers fields

end Windows

section Runs

variable {world : BackfillWorld}

@[simp] theorem moveTo_checkpoint (world : BackfillWorld) (next : HistoryCheckpoint) : (world.moveTo next).checkpoint = next := by
  rw [moveTo]
  split <;> rfl

@[simp] theorem moveTo_marks (world : BackfillWorld) (next : HistoryCheckpoint) : (world.moveTo next).marks = world.marks := by
  rw [moveTo]
  split <;> rfl

@[simp] theorem mem_registered_moveTo {next : HistoryCheckpoint} {observed : ProviderObservationPage} :
    observed ∈ (world.moveTo next).registered ↔ observed ∈ world.registered := by
  rw [moveTo]
  split
  · simp only [BackfillWorld.registered, flatMap_append, flatMap_cons, mem_append]
    tauto
  · rfl

/-- The last mark of a run settles it. -/
theorem Finishes.settles {pending : HistoryPendingPage} {mark : RunMark} {marks : List RunMark} (finishes : Finishes pending mark)
    (attempts : ∀ attempt, 1 ≤ attempt → attempt < pending.nextAttempt →
      RunMark.attempted pending.observed pending.runIndex attempt ∈ marks) :
    Settled (mark :: marks) pending.observed pending.runIndex := by
  cases finishes with
  | lastAttempt last =>
    refine .inl fun source found attempt first bounded => ?_
    rw [getElem?_eq_getElem pending.index_lt] at found
    cases found
    rcases lt_or_eq_of_le bounded with earlier | final
    · exact mem_cons_of_mem _ (attempts attempt first (last.symm ▸ earlier))
    · rw [final, last]
      exact mem_cons_self
  | skipped unselected => exact .inr (.inl ⟨_, mem_cons_self⟩)
  | handedOff unconsumed => exact .inr (.inr mem_cons_self)

theorem Finishes.skips {pending : HistoryPendingPage} {mark : RunMark} {marks : List RunMark}
    (finishes : Finishes pending mark) (skips : SkipsUnselected marks) : SkipsUnselected (mark :: marks) := by
  intro observed index configuration member
  rcases mem_cons.mp member with head | earlier
  · cases finishes with
    | lastAttempt last => cases head
    | handedOff unconsumed => cases head
    | skipped unselected =>
      cases head
      refine ⟨pending.workflowId, ?_, unselected⟩
      exact getElem?_eq_getElem (by rw [pending.observed.facts.1]; exact pending.index_lt)
  · exact skips observed index configuration earlier

theorem settled_cases (settled : RunsSettled world) {observed : ProviderObservationPage}
    (member : observed ∈ world.registered) {index : Nat} (inside : index < observed.page.sources.length)
    {pending : HistoryPendingPage} (waits : world.checkpoint.pending = some pending) {mark : RunMark}
    (finishes : Finishes pending mark) :
    Settled (mark :: world.marks) observed index ∨ (pending.observed = observed ∧ pending.runIndex < index) := by
  rcases settled.settled observed member index inside with done | ⟨other, found, same, later⟩
  · exact .inl (done.mono (subset_cons_self _ _))
  · rw [waits] at found
    cases found
    rcases lt_or_eq_of_le later with after | here
    · exact .inr ⟨same, after⟩
    · subst same here
      exact .inl (finishes.settles (settled.attempts pending waits))

/-- Every step keeps the runs settled up to the pending one. -/
theorem step_settled {next : BackfillWorld} (settled : RunsSettled world) (step : BackfillStep world next) :
    RunsSettled next := by
  cases step with
  | @subdivided checkpoint part awaiting running population first starts narrower fields =>
    refine ⟨?_, ?_, settled.skips⟩
    · intro observed member index inside
      have known : observed ∈ world.registered := by
        simp only [BackfillWorld.registered, mem_append] at member ⊢
        tauto
      rcases settled.settled observed known index inside with done | ⟨pending, waits, _⟩
      · exact .inl done
      · rw [awaiting] at waits
        cases waits
    · intro pending waits
      rw [fields] at waits
      cases waits
  | @opened checkpoint observed pending progress awaiting running advanced registers page fields =>
    refine ⟨?_, ?_, settled.skips⟩
    · intro other member index inside
      have known : other ∈ world.registered ∨ other = observed := by
        simp only [BackfillWorld.registered, mem_append, mem_singleton] at member ⊢
        tauto
      rcases known with earlier | rfl
      · rcases settled.settled other earlier index inside with done | ⟨old, waits, _⟩
        · exact .inl done
        · rw [awaiting] at waits
          cases waits
      · exact .inr ⟨pending, by rw [fields], by rw [page], by rw [page]; exact Nat.zero_le _⟩
    · intro other waits attempt first earlier
      simp only [fields, Option.some.injEq] at waits
      subst waits
      simp only [page] at earlier
      omega
  | @passed checkpoint observed progress awaiting running empty advanced registers fields =>
    refine ⟨?_, ?_, ?_⟩
    · intro other member index inside
      rw [mem_registered_moveTo] at member
      have known : other ∈ world.registered ∨ other = observed := by
        simp only [BackfillWorld.registered, mem_append, mem_singleton] at member ⊢
        tauto
      rcases known with earlier | rfl
      · rcases settled.settled other earlier index inside with done | ⟨old, waits, _⟩
        · rw [moveTo_marks]
          exact .inl done
        · rw [awaiting] at waits
          cases waits
      · rw [empty] at inside
        cases inside
    · intro pending waits
      rw [moveTo_checkpoint, fields] at waits
      cases waits
    · rw [moveTo_marks]
      exact settled.skips
  | @attempted checkpoint pending successor waits more page fields =>
    refine ⟨?_, ?_, ?_⟩
    · intro observed member index inside
      rcases settled.settled observed member index inside with done | ⟨other, found, same, later⟩
      · exact .inl (done.mono (subset_cons_self _ _))
      · rw [waits] at found
        cases found
        exact .inr ⟨successor, by rw [fields], by rw [page]; exact same, by rw [page]; exact later⟩
    · intro other found attempt first earlier
      simp only [fields, Option.some.injEq] at found
      subst found
      rw [page] at earlier ⊢
      rcases lt_or_eq_of_le (Int.lt_add_one_iff.mp earlier) with before | here
      · exact mem_cons_of_mem _ (settled.attempts pending waits attempt first before)
      · rw [here]
        exact mem_cons_self
    · intro observed index configuration member
      rcases mem_cons.mp member with head | earlier
      · cases head
      · exact settled.skips observed index configuration earlier
  | @nextRun checkpoint pending successor mark waits finishes page fields =>
    refine ⟨?_, ?_, finishes.skips settled.skips⟩
    · intro observed member index inside
      rcases settled_cases settled member inside waits finishes with done | ⟨same, later⟩
      · exact .inl done
      · exact .inr ⟨successor, by rw [fields], by rw [page]; exact same, by rw [page]; exact later⟩
    · intro other found attempt first earlier
      simp only [fields, Option.some.injEq] at found
      subst found
      simp only [page] at earlier
      omega
  | @pageDone checkpoint pending mark progress waits finishes last advanced registers fields =>
    refine ⟨?_, ?_, ?_⟩
    · intro observed member index inside
      rw [mem_registered_moveTo] at member
      rw [moveTo_marks]
      rcases settled_cases settled member inside waits finishes with done | ⟨same, later⟩
      · exact .inl done
      · subst same
        omega
    · intro other found
      rw [moveTo_checkpoint, fields] at found
      cases found
    · rw [moveTo_marks]
      exact finishes.skips settled.skips

end Runs

theorem HistoryPendingPage.source_eq {first second : HistoryPendingPage} (observed : first.observed = second.observed)
    (index : first.runIndex = second.runIndex) : first.source = second.source := by
  rcases first with ⟨⟨_, _, _⟩, _⟩
  cases observed
  cases index
  rfl

/-- The work that is left: the interval, the window, its pages, the runs of a page and the attempts of a run. -/
def HistoryCheckpoint.rank (checkpoint : HistoryCheckpoint) : ℕ ×ₗ ℕ ×ₗ ℕ ×ₗ ℕ ×ₗ ℕ :=
  toLex (if checkpoint.complete = true then 0
      else checkpoint.cursor.createdThrough.micros - checkpoint.cursor.window.createdFrom.micros + 1,
    toLex (checkpoint.cursor.window.createdThrough.micros - checkpoint.cursor.window.createdFrom.micros,
      toLex (maxDiscoveryPages - checkpoint.cursor.pageNumber, toLex (match checkpoint.pending with
            | none => discoveryPageSize + 1
            | some pending => pending.observed.page.sources.length - pending.runIndex,
          match checkpoint.pending with
          | none => 0
          | some pending => (pending.source.attempt.runAttempt - pending.nextAttempt).toNat))))

section Termination

variable {world : BackfillWorld}

/-- A page that is done leaves less of the interval or fewer pages. -/
theorem pageStep_rank {checkpoint next : HistoryCheckpoint} {page : ProviderRunDiscoveryPage}
    {progress : HistoryPageProgress} (running : checkpoint.complete = false) (answers : Answers checkpoint.cursor page)
    (progressed : PageStep checkpoint.cursor page progress)
    (fields : next.toHistoryCheckpointFields =
      ⟨progress.cursor.getD checkpoint.cursor, none, progress.cursor.isNone⟩) : next.rank < checkpoint.rank := by
  have facts := checkpoint.cursor.facts
  have inside := facts.inside
  simp only [Instant.le_def] at inside
  cases progressed with
  | @split part population first starts wide narrower =>
    have cursor : next.cursor = part := by rw [fields]; rfl
    have goesOn : next.complete = false := by rw [fields]; rfl
    have width := part.window.facts.2.1
    rw [Instant.lt_def] at narrower
    rw [Instant.le_def] at width
    simp only [HistoryCheckpoint.rank, Prod.Lex.toLex_lt_toLex, running, goesOn, cursor, starts, population.2.2.1]
    rw [starts] at width
    refine .inr ⟨trivial, .inl ?_⟩
    omega
  | @nextPage cursor announced moved =>
    have room := (page.nextPage_facts announced).2
    rw [answers.2.2] at room
    have cursorFields : next.cursor.toHistoryCursorFields =
        { checkpoint.cursor.toHistoryCursorFields with pageNumber := checkpoint.cursor.pageNumber + 1 } := by
      rw [fields]
      exact moved
    have goesOn : next.complete = false := by rw [fields]; rfl
    simp only [HistoryCheckpoint.rank, Prod.Lex.toLex_lt_toLex, running, goesOn, cursorFields]
    refine .inr ⟨trivial, .inr ⟨trivial, .inl ?_⟩⟩
    omega
  | @nextWindow cursor last unfinished population first starts =>
    have moved : next.cursor = cursor := by rw [fields]; rfl
    have goesOn : next.complete = false := by rw [fields]; rfl
    have wide : checkpoint.cursor.window.createdFrom < checkpoint.cursor.window.createdThrough := by
      apply facts.positiveWidth
      intro equal
      apply unfinished
      apply le_antisymm facts.inside.2.2.1
      rw [← equal]
      exact facts.inside.1.trans facts.inside.2.1
    rw [Instant.lt_def] at wide
    simp only [HistoryCheckpoint.rank, Prod.Lex.toLex_lt_toLex, running, goesOn, moved, starts, population.2.2.1,
      Bool.false_eq_true, if_false]
    omega
  | finished last ends =>
    have complete : next.complete = true := by rw [fields]; rfl
    simp only [HistoryCheckpoint.rank, Prod.Lex.toLex_lt_toLex, running, complete, Bool.false_eq_true, if_true, if_false]
    omega

/-- Every step leaves less work. -/
theorem step_rank {next : BackfillWorld} (step : BackfillStep world next) : next.checkpoint.rank < world.checkpoint.rank := by
  cases step with
  | @subdivided checkpoint part awaiting running population first starts narrower fields =>
    have width := part.window.facts.2.1
    rw [Instant.lt_def] at narrower
    rw [Instant.le_def] at width
    simp only [HistoryCheckpoint.rank, Prod.Lex.toLex_lt_toLex, running, fields, starts, population.2.2.1]
    rw [starts] at width
    refine .inr ⟨trivial, .inl ?_⟩
    omega
  | @opened checkpoint observed pending progress awaiting running advanced registers page fields =>
    have few := observed.page.facts.2.1
    simp only [HistoryCheckpoint.rank, Prod.Lex.toLex_lt_toLex, running, fields, awaiting, page]
    refine .inr ⟨trivial, .inr ⟨trivial, .inr ⟨trivial, .inl ?_⟩⟩⟩
    omega
  | @passed checkpoint observed progress awaiting running empty advanced registers fields =>
    rw [moveTo_checkpoint]
    exact pageStep_rank running (answers_of_advance advanced) (pageStep_of_advance advanced) fields
  | @attempted checkpoint pending successor waits more page fields =>
    have running := (pending_facts waits).1
    have source : successor.source = pending.source := HistoryPendingPage.source_eq (by rw [page]) (by rw [page])
    simp only [HistoryCheckpoint.rank, Prod.Lex.toLex_lt_toLex, running, fields, waits, page, source]
    refine .inr ⟨trivial, .inr ⟨trivial, .inr ⟨trivial, .inr ⟨trivial, ?_⟩⟩⟩⟩
    omega
  | @nextRun checkpoint pending successor mark waits finishes page fields =>
    have running := (pending_facts waits).1
    have inside := pending.index_lt
    simp only [HistoryCheckpoint.rank, Prod.Lex.toLex_lt_toLex, running, fields, waits, page]
    refine .inr ⟨trivial, .inr ⟨trivial, .inr ⟨trivial, .inl ?_⟩⟩⟩
    omega
  | @pageDone checkpoint pending mark progress waits finishes last advanced registers fields =>
    rw [moveTo_checkpoint]
    exact pageStep_rank (pending_facts waits).1 (answers_of_advance advanced) (pageStep_of_advance advanced) fields

end Termination

/-- A page that answers a cursor exists, for instance one without further runs. -/
theorem exists_answer (cursor : HistoryCursor) : ∃ observed : ProviderObservationPage, Answers cursor observed.page := by
  have page := cursor.facts.page
  have passed : postInit ⟨cursor.scope, cursor.window, cursor.pageNumber,
      (cursor.pageNumber - 1) * discoveryPageSize, [], .exhausted⟩ = .ok () := by
    have safe : (cursor.pageNumber - 1) * discoveryPageSize ≤ maxSafeJsonInteger := by
      simp only [maxDiscoveryPages, discoveryPageSize, maxSafeJsonInteger] at page ⊢
      omega
    simp [postInit, requireTermination, endOffset, runIds, page, safe]
  exact ⟨⟨⟨⟨_, passed⟩, []⟩, rfl⟩, rfl, rfl, rfl⟩

/-- What a backfill guarantees in a world that it has reached. -/
structure BackfillWorld.Covers (start : HistoryCursor) (world : BackfillWorld) : Prop where
  windows : Tiles start.createdFrom world.covered world.frontier
  wholeInterval : world.checkpoint.complete = true → Tiles start.createdFrom world.covered start.createdThrough
  read : ∀ covered ∈ world.covered, covered.Read
  settled : world.checkpoint.pending = none → ∀ observed ∈ world.registered,
    ∀ index < observed.page.sources.length, Settled world.marks observed index
  skips : SkipsUnselected world.marks
  acceptsPage : world.checkpoint.complete = false → world.checkpoint.pending = none → ∀ observed,
    Answers world.checkpoint.cursor observed.page → ∃ next, world.step (.acceptPage observed) = .ok next
  acceptsAttempt : ∀ pending, world.checkpoint.pending = some pending →
    ∃ next, world.step (.completeAttempt pending.observed.page.scope pending.source.attempt.workflowRunId
      pending.nextAttempt) = .ok next
  acceptsSkip : ∀ pending configuration, world.checkpoint.pending = some pending →
    configuration.selects pending.workflowId = .ok false →
      ∃ next, world.step (.skipUnselectedRun configuration) = .ok next
  acceptsHandoff : ∀ pending, world.checkpoint.pending = some pending → pending.nextAttempt = 1 →
    ∃ next, world.step (.handoffRun pending.observed.page.scope pending.source.attempt.workflowRunId) = .ok next
  goesOn : world.checkpoint.complete = false → ∃ call next, world.step call = .ok next
  decreases : ∀ call next, world.step call = .ok next → next.checkpoint.rank < world.checkpoint.rank
  finite : ∀ worlds : ℕ → BackfillWorld, worlds 0 = world → ¬ ∀ n, ∃ call, (worlds n).step call = .ok (worlds (n + 1))

/-- No infinite run leaves less and less work. -/
theorem no_infinite_run (worlds : ℕ → BackfillWorld) : ¬ ∀ n, ∃ call, (worlds n).step call = .ok (worlds (n + 1)) := by
  intro goes
  obtain ⟨n, stuck⟩ := WellFounded.not_rel_apply_succ (r := (· < ·)) fun n => (worlds n).checkpoint.rank
  obtain ⟨call, stepped⟩ := goes n
  exact stuck (step_rank (step_spec stepped))

theorem run_inOrder {start : HistoryCursor} {first world : BackfillWorld} (inOrder : WindowsInOrder start first)
    (settled : RunsSettled first) (run : BackfillRun first world) : WindowsInOrder start world ∧ RunsSettled world := by
  induction run with
  | start => exact ⟨inOrder, settled⟩
  | step run call accepted ih =>
    have step := step_spec accepted
    exact ⟨step_inOrder ih.1 step, step_settled ih.2 step⟩

/-- Every run of a backfill covers its interval, settles its runs and ends. -/
theorem backfill_covers {scope : RepositoryScope} {createdFrom createdThrough cycleStartedAt : Instant}
    {start : HistoryCursor} {checkpoint : HistoryCheckpoint}
    (started : HistoryCursor.start scope createdFrom createdThrough cycleStartedAt = .ok start)
    (made : HistoryCheckpoint.make start none false = .ok checkpoint) {world : BackfillWorld}
    (run : BackfillRun (BackfillWorld.initial checkpoint) world) : world.Covers start := by
  have fields := HistoryCheckpoint.make_eq_ok made
  obtain ⟨_, lower, _, _, first, page⟩ := HistoryCursor.start_eq_ok started
  have inOrder : WindowsInOrder start (BackfillWorld.initial checkpoint) := by
    refine ⟨?_, ?_, by simp [BackfillWorld.initial], ?_, ?_⟩
    · simp [BackfillWorld.initial, fields, SamePopulation]
    · simp [BackfillWorld.initial, BackfillWorld.frontier, fields, Tiles, lower, first]
    · simp only [OpenPages, BackfillWorld.initial, fields, page]
      exact ⟨⟨rfl, by simp, by simp⟩, rfl⟩
    · simp [BackfillWorld.initial, fields]
  have settled : RunsSettled (BackfillWorld.initial checkpoint) := by
    refine ⟨by simp [BackfillWorld.initial, BackfillWorld.registered], by simp [BackfillWorld.initial, fields], ?_⟩
    simp [BackfillWorld.initial, SkipsUnselected]
  obtain ⟨inOrder, settled⟩ := run_inOrder inOrder settled run
  refine ⟨inOrder.tiles, ?_, inOrder.read, ?_, settled.skips, ?_, ?_, ?_, ?_, ?_, ?_, ?_⟩
  · intro complete
    have tiles := inOrder.tiles
    rw [BackfillWorld.frontier, if_pos complete, (complete_facts complete).2, inOrder.population.2.2.1] at tiles
    exact tiles
  · intro idle observed member index inside
    rcases settled.settled observed member index inside with done | ⟨pending, waits, _⟩
    · exact done
    · rw [idle] at waits
      cases waits
  · intro running awaiting observed answers
    obtain ⟨next, accepted, _⟩ := acceptPage_step awaiting running answers
    exact ⟨next, accepted⟩
  · intro pending waits
    obtain ⟨next, accepted, _⟩ := completeAttempt_step waits
    exact ⟨next, accepted⟩
  · intro pending configuration waits unselected
    obtain ⟨next, accepted, _⟩ := skipUnselectedRun_step waits unselected
    exact ⟨next, accepted⟩
  · intro pending waits unconsumed
    obtain ⟨next, accepted, _⟩ := handoffRun_step waits unconsumed
    exact ⟨next, accepted⟩
  · intro running
    cases waits : world.checkpoint.pending with
    | none =>
      obtain ⟨observed, answers⟩ := exists_answer world.checkpoint.cursor
      obtain ⟨next, accepted, _⟩ := acceptPage_step waits running answers
      exact ⟨_, next, accepted⟩
    | some pending =>
      obtain ⟨next, accepted, _⟩ := completeAttempt_step waits
      exact ⟨_, next, accepted⟩
  · exact fun call next accepted => step_rank (step_spec accepted)
  · exact fun worlds _ => no_infinite_run worlds

theorem HistoryCursor.ext_fields {first second : HistoryCursor}
    (same : first.toHistoryCursorFields = second.toHistoryCursorFields) : first = second := by
  rcases first with ⟨_, _⟩
  cases same
  rfl

theorem BackfillRun.trans {first second third : BackfillWorld} (left : BackfillRun first second)
    (right : BackfillRun second third) : BackfillRun first third := by
  induction right with
  | start => exact left
  | step run call accepted ih => exact .step ih call accepted

/-- A pending page whose runs have one attempt each can be read to its end. -/
theorem drain_page {remaining : Nat} {world : BackfillWorld} {pending : HistoryPendingPage}
    (waits : world.checkpoint.pending = some pending)
    (left : pending.observed.page.sources.length = pending.runIndex + remaining)
    (single : ∀ source ∈ pending.observed.page.sources, source.attempt.runAttempt = 1)
    (announced : pending.observed.page.termination = .nextPage) :
    ∃ later, BackfillRun world later ∧ later.checkpoint.pending = none ∧ later.checkpoint.complete = false ∧
      later.checkpoint.cursor.toHistoryCursorFields = { world.checkpoint.cursor.toHistoryCursorFields with
        pageNumber := world.checkpoint.cursor.pageNumber + 1 } ∧
      later.current = world.current ∧ later.superseded = world.superseded ∧ later.covered = world.covered := by
  induction remaining generalizing world pending with
  | zero =>
    have := pending.index_lt
    omega
  | succ remaining ih =>
    obtain ⟨next, accepted, step⟩ := completeAttempt_step waits
    have run : BackfillRun world next := .step .start _ accepted
    cases step with
    | subdivided awaiting => rw [waits] at awaiting; cases awaiting
    | opened awaiting => rw [waits] at awaiting; cases awaiting
    | passed awaiting => rw [waits] at awaiting; cases awaiting
    | @attempted checkpoint other successor found more page fields =>
      rw [waits] at found
      cases found
      have bounds := pending.attempt_bounds
      have one := single pending.source (get_mem _ _)
      omega
    | @nextRun checkpoint other successor mark found finishes page fields =>
      rw [waits] at found
      cases found
      have observed : successor.observed = pending.observed := by rw [page]
      have index : successor.runIndex = pending.runIndex + 1 := by rw [page]
      obtain ⟨later, rest, done, running, cursor, kept⟩ := @ih
        { world with checkpoint := checkpoint, marks := mark :: world.marks } successor (by rw [fields])
        (by rw [observed, index]; omega) (by rw [observed]; exact single) (by rw [observed]; exact announced)
      refine ⟨later, run.trans rest, done, running, ?_, kept⟩
      rw [cursor, fields]
    | @pageDone checkpoint other mark progress found finishes last advanced registers fields =>
      rw [waits] at found
      cases found
      cases pageStep_of_advance advanced with
      | split population first starts wide narrower => cases registers
      | @nextPage cursor _ moved =>
        have running : checkpoint.complete = false := by rw [fields]; rfl
        have cursorFields : checkpoint.cursor.toHistoryCursorFields =
            { world.checkpoint.cursor.toHistoryCursorFields with
              pageNumber := world.checkpoint.cursor.pageNumber + 1 } := by
          rw [fields]
          exact moved
        have stays : ¬ (checkpoint.complete = true ∨ checkpoint.cursor.window ≠ world.checkpoint.cursor.window) := by
          simp [running, cursorFields]
        refine ⟨_, run, ?_⟩
        rw [moveTo_checkpoint, moveTo, if_neg stays]
        exact ⟨by rw [fields], running, cursorFields, rfl, rfl, rfl⟩
      | nextWindow last unfinished population first starts => exact absurd announced last
      | finished last ends => exact absurd announced last

namespace Sample

def scope : RepositoryScope :=
  ⟨⟨1, 1⟩, firstScope⟩

def epoch : Instant :=
  ⟨0, zero_lt_instantLimit⟩

def fourSeconds : Instant :=
  ⟨4000000, by decide⟩

def wholeWindow : RunDiscoveryWindow :=
  ⟨⟨epoch, fourSeconds⟩, by decide⟩

def halfWindow : RunDiscoveryWindow :=
  ⟨⟨epoch, ⟨2000000, by decide⟩⟩, by decide⟩

def cursor : HistoryCursor :=
  ⟨⟨scope, epoch, fourSeconds, wholeWindow, 1, fourSeconds⟩, by decide⟩

def secondCursor : HistoryCursor :=
  ⟨⟨scope, epoch, fourSeconds, wholeWindow, 2, fourSeconds⟩, by decide⟩

def restWindow : RunDiscoveryWindow :=
  ⟨⟨⟨2000000, by decide⟩, fourSeconds⟩, by decide⟩

def restCursor : HistoryCursor :=
  ⟨⟨scope, epoch, fourSeconds, restWindow, 1, fourSeconds⟩, by decide⟩

def halfCursor : HistoryCursor :=
  ⟨⟨scope, epoch, fourSeconds, halfWindow, 1, fourSeconds⟩, by decide⟩

def attempt (index : Nat) (bounded : index < 100) : AttemptIdentity :=
  ⟨⟨scope, index + 1, 1, List.replicate 40 48⟩, by
    have upper : (index : Int) + 1 ≤ maxSafeJsonInteger := by
      simp only [maxSafeJsonInteger]
      omega
    simp only [AttemptIdentityFields.postInit, bind_unit_eq_ok, forEach_eq_ok, mem_cons, not_mem_nil, or_false,
      forall_eq_or_imp, forall_eq, raiseIf_eq_ok, not_not]
    exact ⟨⟨⟨by omega, upper⟩, by decide⟩, by decide⟩⟩

def source (index : Fin 100) : ProviderRunCollectionSource :=
  ⟨attempt index index.isLt, epoch, ⟨2022, 11, 28⟩, ⟨List.replicate 64 48, isSha256Hex_zeros⟩⟩

def sources : List ProviderRunCollectionSource :=
  (List.finRange 100).map source

theorem length_sources : sources.length = 100 := by
  rw [sources, length_map, length_finRange]

theorem mem_sources {other : ProviderRunCollectionSource} (member : other ∈ sources) :
    other.attempt.scope = scope ∧ other.runCreatedAt = epoch ∧ other.attempt.runAttempt = 1 := by
  obtain ⟨index, _, rfl⟩ := mem_map.mp member
  exact ⟨rfl, rfl, rfl⟩

theorem runIds_nodup : (sources.map (·.attempt.workflowRunId)).Nodup := by
  rw [sources, map_map]
  apply List.Nodup.map
  · intro first second same
    simp only [Function.comp, source, attempt] at same
    exact Fin.ext (by omega)
  · exact nodup_finRange 100

/-- The first page of the window announces a second one. -/
def firstPage : ProviderRunDiscoveryPage :=
  ⟨⟨scope, wholeWindow, 1, 150, sources, .nextPage⟩, by
    simp only [postInit, requireTermination, endOffset, runIds, bind_unit_eq_ok, raiseIf_eq_ok,
      length_sources, not_not, not_or]
    refine ⟨by decide, by decide, ⟨by decide, runIds_nodup⟩, ?_, by decide, by decide⟩
    rintro ⟨other, member, foreign | outside⟩
    · exact foreign (mem_sources member).1
    · rw [(mem_sources member).2.1] at outside
      exact outside (by decide)⟩

def firstObserved : ProviderObservationPage :=
  ⟨⟨firstPage, List.replicate 100 1⟩, by
    simp only [ProviderObservationPageFields.postInit, firstPage, raiseIf_eq_ok, length_sources, length_replicate]
    simp [maxSafeJsonInteger]⟩

/-- The second page of the window reports a population that has grown. -/
def grownObserved : ProviderObservationPage :=
  ⟨⟨⟨⟨scope, wholeWindow, 2, 2000, [], .truncated⟩, by decide⟩, []⟩, by decide⟩

def halfObserved : ProviderObservationPage :=
  ⟨⟨⟨⟨scope, halfWindow, 1, 0, [], .exhausted⟩, by decide⟩, []⟩, by decide⟩

end Sample

/-- A window whose first page is registered can be subdivided, so the next registered window begins with it again. -/
theorem registered_window_subdivided : ∃ checkpoint world,
    HistoryCursor.start Sample.scope Sample.epoch Sample.fourSeconds Sample.fourSeconds = .ok Sample.cursor ∧
      HistoryCheckpoint.make Sample.cursor none false = .ok checkpoint ∧
      BackfillRun (BackfillWorld.initial checkpoint) world ∧ world.superseded = [Sample.firstObserved] ∧
      world.covered.flatMap CoveredWindow.pages = [Sample.halfObserved] ∧
      Sample.halfObserved.page.window.createdFrom ≠ Sample.firstObserved.page.window.createdThrough := by
  obtain ⟨checkpoint, made, fields⟩ := make_awaiting Sample.cursor
  have present : Sample.firstObserved.page.sources ≠ [] := by
    decide
  obtain ⟨next, pending, accepted, page, opened⟩ := @acceptPage_opens (BackfillWorld.initial checkpoint)
    Sample.firstObserved ⟨some Sample.secondCursor, true, false⟩ (by simp [BackfillWorld.initial, fields])
    (by simp [BackfillWorld.initial, fields]) (by rw [BackfillWorld.initial, fields]; rfl) rfl present
  have observed : pending.observed = Sample.firstObserved := by rw [page]
  have index : pending.runIndex = 0 := by rw [page]
  obtain ⟨drained, rest, awaiting, running, cursor, current, superseded, covered⟩ := @drain_page 100
    { BackfillWorld.initial checkpoint with checkpoint := next, current := [Sample.firstObserved] } pending
    (by rw [opened]) (by rw [observed, index]; exact Sample.length_sources)
    (by rw [observed]; exact fun other member => (Sample.mem_sources member).2.2) (by rw [observed]; rfl)
  have second : drained.checkpoint.cursor = Sample.secondCursor := by
    apply HistoryCursor.ext_fields
    rw [cursor, opened, BackfillWorld.initial, fields]
    rfl
  obtain ⟨split, divided, halved⟩ := @acceptPage_subdivides drained Sample.grownObserved
    ⟨some Sample.halfCursor, false, false⟩ awaiting running (by rw [second]; rfl) rfl
  have half : split.cursor = Sample.halfCursor := by
    rw [halved]
    rfl
  have half_advances : advanceHistoryCursor Sample.halfCursor Sample.halfObserved.page =
      .ok ⟨some Sample.restCursor, true, false⟩ := by
    decide
  obtain ⟨last, passed, moved⟩ := @acceptPage_passes
    { drained with checkpoint := split, superseded := drained.superseded ++ drained.current, current := [] }
    Sample.halfObserved ⟨some Sample.restCursor, true, false⟩ (by rw [halved]) (by rw [halved]; rfl)
    (half ▸ half_advances) rfl rfl
  have rest_cursor : last.cursor = Sample.restCursor := by
    rw [moved]
    rfl
  have leaves : last.complete = true ∨ last.cursor.window ≠ split.cursor.window := by
    rw [rest_cursor, half]
    exact Or.inr (by decide)
  refine ⟨checkpoint, _, by decide, made, .step (.step ((BackfillRun.step .start _ accepted).trans rest) _ divided) _ passed,
    ?_, ?_, by decide⟩
  · rw [moveTo, if_pos leaves, superseded, current]
    rfl
  · rw [moveTo, if_pos leaves, covered]
    rfl

namespace Sample

/-- The provider reports more runs for the whole window than it lists. -/
def crowdedObserved : ProviderObservationPage :=
  ⟨⟨⟨⟨scope, wholeWindow, 1, 2000, [], .truncated⟩, by decide⟩, []⟩, by decide⟩

def repeatedSource : ProviderRunCollectionSource :=
  ⟨⟨⟨scope, 1, 2, List.replicate 40 48⟩, by decide⟩, epoch, ⟨2022, 11, 28⟩, ⟨List.replicate 64 48, isSha256Hex_zeros⟩⟩

/-- The half window holds a run of two attempts and a run of one. -/
def pairObserved : ProviderObservationPage :=
  ⟨⟨⟨⟨scope, halfWindow, 1, 2, [repeatedSource, source 1], .exhausted⟩, by decide⟩, [1, 1]⟩, by decide⟩

def restObserved : ProviderObservationPage :=
  ⟨⟨⟨⟨scope, restWindow, 1, 0, [], .exhausted⟩, by decide⟩, []⟩, by decide⟩

/-- The window is subdivided, both attempts of the first run are read, the second run is handed off and the rest is empty. -/
def sampleCalls : List BackfillCall :=
  [.acceptPage crowdedObserved, .acceptPage pairObserved, .completeAttempt scope 1 1, .completeAttempt scope 1 2,
    .handoffRun scope 2, .acceptPage restObserved]

theorem checkpoint_returns : (HistoryCheckpoint.make cursor none false).isOk = true := by
  decide +kernel

def checkpoint : HistoryCheckpoint :=
  returned _ checkpoint_returns

theorem sampleCalls_return : (foldSteps BackfillWorld.step (BackfillWorld.initial checkpoint) sampleCalls).isOk = true := by
  decide +kernel

def coveredWorld : BackfillWorld :=
  returned _ sampleCalls_return

theorem coveredWorld_reached : BackfillRun (BackfillWorld.initial checkpoint) coveredWorld :=
  foldSteps_keeps (fun _ call _ run accepted => .step run call accepted) .start (eq_ok_returned sampleCalls_return)

end Sample

/-- A backfill over four seconds covers them in two windows. -/
theorem backfill_covers_sample : Sample.coveredWorld.checkpoint.complete = true ∧
    Sample.coveredWorld.covered.map CoveredWindow.window = [Sample.halfWindow, Sample.restWindow] ∧
    Sample.coveredWorld.marks.length = 3 ∧ Sample.coveredWorld.Covers Sample.cursor := by
  refine ⟨by decide +kernel, by decide +kernel, by decide +kernel, ?_⟩
  have started : HistoryCursor.start Sample.scope Sample.epoch Sample.fourSeconds Sample.fourSeconds = .ok Sample.cursor := by
    decide
  exact backfill_covers started (eq_ok_returned Sample.checkpoint_returns) Sample.coveredWorld_reached

end CiCoordinator.CiEconomics

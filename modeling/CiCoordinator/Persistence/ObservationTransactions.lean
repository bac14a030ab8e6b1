import CiCoordinator.Persistence.ObservationGaps

/- What the transactions of an observation lane do to its rows. -/

namespace CiCoordinator.Persistence

open Library Kernel CiEconomics

/-- The gaps that a transaction can meet: the stored ones and those that it records itself. -/
def InvolvedGap (store : ObservationStore) (recorded : ObservationGap → Prop) (gap : ObservationGap) : Prop :=
  (∃ row ∈ store.gaps.rows, row.gap = gap) ∨ recorded gap

theorem involved_stored {store : ObservationStore} {recorded : ObservationGap → Prop} :
    ∀ row ∈ store.gaps.rows, InvolvedGap store recorded row.gap :=
  fun row member => .inl ⟨row, member, rfl⟩

section Cycle

variable {snapshot : ObservationSnapshot} {store : ObservationStore} {now : Instant}

/-- The gap that the preparation of a cycle records. -/
def PreparedGap (snapshot : ObservationSnapshot) (store : ObservationStore) (now : Instant) (gap : ObservationGap) : Prop :=
  ∃ prepared, prepareObservationCycle snapshot store.progress.state store.progress.lastCompletedThrough now =
    .ok (some prepared) ∧ prepared.gap = some gap

/-- The rows after the preparation of a cycle, whose state may have been leased at once. -/
structure CycleWritten (snapshot : ObservationSnapshot) (store : ObservationStore) (now : Instant)
    (next : ObservationStore) : Prop where
  written : ∃ prepared, CyclePreparation snapshot store.progress.state store.progress.lastCompletedThrough now
      (some prepared) ∧ next.gaps.recorded = store.gaps.recorded ++ prepared.gap.toList ∧
    next.progress.state.cursor = prepared.state.cursor ∧ next.progress.state.lane = prepared.state.lane ∧
    prepared.state.revision ≤ next.progress.state.revision ∧
    (next.progress.state.lease = prepared.state.lease ∨ ∃ lease, next.progress.state.lease = some lease ∧ lease.acquiredAt = now)
  rest : next.progress.toObservationScanProgressFields =
    { store.progress.toObservationScanProgressFields with state := next.progress.state }
  sound : GapsSound next.gaps.rows

theorem lostPart_started {start : Instant} {cursor : ObservationCursor} {gap : Option ObservationGap}
    (lost : LostPart start now cursor gap) : ∀ other ∈ gap, other.cycleStartedAt = now := by
  rcases lost with ⟨absent, _⟩ | ⟨other, present, _, _, started⟩
  · simp [absent]
  · simp [present, started]

theorem preparation_started {prepared : ObservationCyclePreparation} {state : ObservationScanState}
    {completed : Option Instant} (preparation : CyclePreparation snapshot state completed now (some prepared)) :
    ∀ gap ∈ prepared.gap, gap.cycleStartedAt = now := by
  cases preparation with
  | kept active recent => simp
  | replaced configured passed begins cycle follows lost fields => exact lostPart_started lost

/-- A progress keeps its counters when only its state changes. -/
theorem progress_total (progress : ObservationScanProgress) (state : ObservationScanState) :
    ∃ next, ObservationScanProgress.make { progress.toObservationScanProgressFields with state := state } = .ok next ∧
      next.toObservationScanProgressFields = { progress.toObservationScanProgressFields with state := state } :=
  ObservationScanProgress.make_ok ⟨progress.facts.safe, progress.facts.pages, progress.facts.sources,
    progress.facts.outcome, progress.facts.completed⟩

/-- A claim of the lane changes nothing, or it prepares and leases a cycle, or it raises. -/
theorem claimObservation_spec (sound : GapsSound store.gaps.rows) (workerId token : Text) (writtenAt : Instant) :
    (∃ reply next, claimObservation snapshot store workerId token now writtenAt = .ok (reply, next) ∧
        (next = store ∨ CycleWritten snapshot store now next)) ∨
      ∃ error, claimObservation snapshot store workerId token now writtenAt = .error error ∧
        (isSha256Hex workerId = true → isSha256Hex token = true → WithinCalendar now → secondMicros * observationOverlapSeconds ≤
            (store.progress.lastCompletedThrough.getD snapshot.configuredAt.wholeSecond).micros →
          Colliding (InvolvedGap store (PreparedGap snapshot store now))) := by
  rw [claimObservation]
  cases worker : observationDigest workerId with
  | error error =>
    refine .inr ⟨error, rfl, fun lowerHex => ?_⟩
    rw [observationDigest_passes lowerHex] at worker
    cases worker
  | ok passed =>
    simp only [ok_bind_eq]
    cases preparing : prepareObservationCycle snapshot store.progress.state store.progress.lastCompletedThrough now with
    | error error =>
      refine .inr ⟨error, rfl, fun _ _ margin early => ?_⟩
      obtain ⟨prepared, computed⟩ := @prepareObservationCycle_total snapshot store.progress.state
        store.progress.lastCompletedThrough now margin
        (fun last member => (store.progress.facts.completed last member).1) early
      rw [preparing] at computed
      cases computed
    | ok prepared =>
      cases prepared with
      | none => exact .inl ⟨_, store, rfl, .inl rfl⟩
      | some prepared =>
        have preparation := prepareObservationCycle_eq_ok preparing
        simp only [ok_bind_eq]
        rcases acquireObservationClaim_spec snapshot prepared.state now workerId token with
          ⟨error, raised, cause⟩ | ⟨acquired, computed, acquisition⟩
        · refine .inr ⟨error, by rw [raised]; rfl, fun worker secret margin _ => absurd ⟨worker, secret, ?_⟩ cause⟩
          have bound := margin.2
          simp only [secondMicros, observationGapRetentionSeconds, observationLeaseSeconds] at bound ⊢
          omega
        · rw [computed]
          cases acquisition with
          | unavailable => exact .inl ⟨_, store, rfl, .inl rfl⟩
          | @leased successor claim active acquired fields =>
            obtain ⟨progress, made, progressFields⟩ := progress_total store.progress successor
            simp only [ok_bind_eq, made]
            rcases @recordPreparedGap_spec store.gaps prepared.gap now
                (InvolvedGap store (PreparedGap snapshot store now)) sound involved_stored
                (fun gap member => .inr ⟨prepared, preparing, member⟩) (preparation_started preparation) with
              ⟨gaps, recorded, kept, log⟩ | ⟨error, raised, collision⟩
            · simp only [recorded, ok_bind_eq]
              split
              · refine .inl ⟨_, ⟨progress, gaps⟩, rfl, .inr ⟨⟨prepared, preparation, log, ?_, ?_, ?_, ?_⟩, ?_, kept⟩⟩
                · simp only [progressFields, fields]
                · simp only [progressFields, fields]
                · simp only [progressFields, fields]
                  omega
                · exact .inr ⟨claim.lease, by simp only [progressFields, fields], acquired⟩
                · simp only [progressFields]
              · exact .inl ⟨_, store, rfl, .inl rfl⟩
            · exact .inr ⟨error, by rw [raised]; rfl, fun _ _ _ _ => collision⟩

end Cycle

section Holder

variable {snapshot : ObservationSnapshot} {store : ObservationStore} {claim : ObservationClaim}

/-- The lease of a lane is younger than the discovery bound of its cycle. -/
def LeaseRecent (state : ObservationScanState) : Prop :=
  ∀ lease ∈ state.lease, ∀ cursor ∈ state.cursor, lease.acquiredAt.micros <
    cursor.cycleStartedAt.micros + secondMicros * maxDiscoveryWindowSeconds + secondMicros

/-- The gap of a page of the holder has started and is not over. -/
theorem holder_gap_running {now : Instant} (recent : LeaseRecent store.progress.state)
    (holder : currentObservationClaim snapshot store.progress.state claim now) :
    claim.cursor.cycleStartedAt ≤ now ∧
      now.micros < claim.cursor.cycleStartedAt.micros + secondMicros * observationGapRetentionSeconds := by
  obtain ⟨_, _, _, _, _, cursor, lease, _, acquired, unexpired⟩ := holder
  have young := recent claim.lease lease claim.cursor cursor
  have expires := claim.lease.expires
  refine ⟨claim.facts.2.trans acquired, ?_⟩
  rw [Instant.lt_def, expires] at unexpired
  simp only [secondMicros, observationLeaseSeconds, maxDiscoveryWindowSeconds, observationGapRetentionSeconds]
    at young unexpired ⊢
  omega

/-- The rows after the holder of the lease has finished with a cursor. -/
structure HolderWritten (snapshot : ObservationSnapshot) (store : ObservationStore) (claim : ObservationClaim)
    (cursor : Option ObservationCursor) (next : ObservationStore) : Prop where
  active : store.progress.state.cursor = some claim.cursor
  state : next.progress.state.lane = store.progress.state.lane ∧
    next.progress.state.revision = store.progress.state.revision + 1 ∧ next.progress.state.cursor = cursor ∧
    next.progress.state.lease = none
  sound : GapsSound next.gaps.rows
  grows : ∀ gap ∈ store.gaps.recorded, gap ∈ next.gaps.recorded

/-- What a deferral leads to. -/
theorem deferObservation_spec (sound : GapsSound store.gaps.rows) (reason : ObservationFailure) (now writtenAt : Instant)
    (retryDelay : Nat) :
    (∃ reply next, deferObservation snapshot store claim reason now writtenAt retryDelay = .ok (reply, next) ∧
        (next = store ∨ (HolderWritten snapshot store claim (some claim.cursor) next ∧
          next.progress.lastCompletedThrough = store.progress.lastCompletedThrough ∧
          next.progress.pagesSeen = store.progress.pagesSeen))) ∨
      ∃ error, deferObservation snapshot store claim reason now writtenAt retryDelay = .error error ∧
        instantLimit ≤ now.micros + secondMicros * retryDelay := by
  rw [deferObservation]
  split
  · exact .inl ⟨_, store, rfl, .inl rfl⟩
  · cases retry : addSeconds now retryDelay with
    | error error => exact .inr ⟨error, rfl, (addSeconds_eq_error.mp retry).1⟩
    | ok next =>
      simp only [ok_bind_eq]
      have later : now ≤ next := by
        rw [Instant.le_def, addSeconds_eq_ok.mp retry]
        omega
      rcases @finishObservationClaim_spec snapshot store.progress.state claim now next (some claim.cursor) later
          (by simp [SameCycle]) with lost | ⟨successor, finished, holder, fields⟩
      · rw [lost]
        exact .inl ⟨_, store, rfl, .inl rfl⟩
      · obtain ⟨progress, made, progressFields⟩ := @ObservationScanProgress.make_ok
          { store.progress.toObservationScanProgressFields with state := successor, lastOutcome := some (.failed reason) }
          ⟨store.progress.facts.safe, store.progress.facts.pages, store.progress.facts.sources, by simp,
            store.progress.facts.completed⟩
        simp only [finished, ok_bind_eq, made]
        split
        · refine .inl ⟨_, ⟨progress, store.gaps⟩, rfl, .inr ⟨⟨?_, ?_, sound, fun _ member => member⟩, ?_, ?_⟩⟩
          · exact holder.2.2.2.2.2.1
          · simp only [progressFields, fields, and_self]
          · simp only [progressFields]
          · simp only [progressFields]
        · exact .inl ⟨_, store, rfl, .inl rfl⟩

/-- The gaps that a page can record. -/
def PageGap (snapshot : ObservationSnapshot) (claim : ObservationClaim) (gap : ObservationGap) : Prop :=
  ∃ reason, pageGap snapshot claim reason = .ok gap

/-- The registration answers for each of its sources. -/
def AnswersEach (register : List ProviderRunCollectionSource → List ProviderSourceRegistrationResult) : Prop :=
  ∀ sources, (register sources).length = sources.length

/-- What the observation of a page leads to. -/
structure PageObserved (store : ObservationStore) (claim : ObservationClaim) (progress : ObservationPageProgress)
    (page : ObservedPage) : Prop where
  cursor : page.cursor = if .capacityReached ∈ page.outcomes then some claim.cursor else progress.cursor
  split : progress.registerSources = false → page.outcomes = []
  sound : GapsSound page.gaps.rows
  grows : ∀ gap ∈ store.gaps.recorded, gap ∈ page.gaps.recorded
  truncated : progress.providerTruncated = true → ∃ gap ∈ page.gaps.recorded, IsPageGap claim gap

theorem observePage_spec {observed : ProviderObservationPage} {progress : ObservationPageProgress} {now : Instant}
    {register : List ProviderRunCollectionSource → List ProviderSourceRegistrationResult}
    (sound : GapsSound store.gaps.rows) (recent : LeaseRecent store.progress.state)
    (holder : currentObservationClaim snapshot store.progress.state claim now) :
    (∃ page, observePage snapshot store.gaps claim observed progress register now = .ok page ∧
        PageObserved store claim progress page ∧
        (AnswersEach register → page.outcomes.length ≤ observed.page.sources.length)) ∨
      ∃ error, observePage snapshot store.gaps claim observed progress register now = .error error ∧
        (WithinCalendar now → Colliding (InvolvedGap store (PageGap snapshot claim))) := by
  obtain ⟨selected, computed, bounded⟩ := selectedSources_spec snapshot observed
  rw [observePage, computed]
  simp only [ok_bind_eq]
  obtain ⟨started, running⟩ := holder_gap_running recent holder
  generalize outcome : (if progress.registerSources = true then register selected else []) = outcomes
  rcases @recordPageGaps_spec snapshot claim now (InvolvedGap store (PageGap snapshot claim))
      (pageGapReasons progress outcomes) (fun reason gap made => .inr ⟨reason, made⟩) started running store.gaps sound
      involved_stored with ⟨gaps, recorded, kept, grows, each⟩ | ⟨error, raised, cause⟩
  · refine .inl ⟨_, by rw [recorded]; rfl, ⟨rfl, ?_, kept, grows, ?_⟩, ?_⟩
    · intro subdivided
      simp only [← outcome, subdivided, Bool.false_eq_true, if_false]
    · intro truncated
      obtain ⟨gap, member, isGap, _⟩ := each .providerTruncated (by simp [pageGapReasons, truncated])
      exact ⟨gap, member, isGap⟩
    · intro answers
      simp only [← outcome]
      split
      · rw [answers]
        exact bounded
      · exact Nat.zero_le _
  · refine .inr ⟨error, by rw [raised]; rfl, fun margin => cause ?_⟩
    have bound := margin.2
    rw [Instant.le_def] at started
    omega

theorem nextAttemptAfter_spec (claim : ObservationClaim) (page : ObservedPage) (now : Instant) (retryDelay : Nat) :
    (∃ next, nextAttemptAfter claim page now retryDelay = .ok next ∧ now ≤ next) ∨
      ∃ error, nextAttemptAfter claim page now retryDelay = .error error ∧
        (instantLimit ≤ now.micros + secondMicros * retryDelay ∨ ¬ WithinCalendar now) := by
  unfold nextAttemptAfter observationCycleDueAt
  split
  · cases retry : addSeconds now retryDelay with
    | error error => exact .inr ⟨error, rfl, .inl (addSeconds_eq_error.mp retry).1⟩
    | ok next =>
      refine .inl ⟨next, rfl, ?_⟩
      rw [Instant.le_def, addSeconds_eq_ok.mp retry]
      omega
  split
  · generalize interval : (if claim.lane = .recent then observationPollSeconds else observationRescanSeconds) = seconds
    cases due : addSeconds now seconds with
    | error error =>
      refine .inr ⟨error, rfl, .inr fun margin => ?_⟩
      have beyond := (addSeconds_eq_error.mp due).1
      have bound := margin.2
      have short : seconds ≤ observationGapRetentionSeconds := by
        rw [← interval]
        split <;> decide
      have product := Nat.mul_le_mul_left secondMicros short
      omega
    | ok next =>
      refine .inl ⟨next, rfl, ?_⟩
      rw [Instant.le_def, addSeconds_eq_ok.mp due]
      omega
  · exact .inl ⟨now, rfl, le_rfl⟩

/-- The rows after a page has been recorded, which is read again if it has found no room for a source. -/
structure PageWritten (snapshot : ObservationSnapshot) (store : ObservationStore) (claim : ObservationClaim)
    (progress : ObservationPageProgress) (full : Bool) (next : ObservationStore) : Prop where
  holder : HolderWritten snapshot store claim (if full = true then some claim.cursor else progress.cursor) next
  completed : next.progress.lastCompletedThrough =
    if (if full = true then some claim.cursor else progress.cursor) = none then
      some claim.cursor.interval.createdThrough
    else store.progress.lastCompletedThrough
  pages : next.progress.pagesSeen = store.progress.pagesSeen + 1
  truncated : progress.providerTruncated = true → ∃ gap ∈ next.gaps.recorded, IsPageGap claim gap

def pageReply (full : Bool) : ObservationReply :=
  if full = true then .capacityReached else .applied

/-- The counter of the registered sources has no room for those of a page. -/
def CounterFull (store : ObservationStore) (observed : ProviderObservationPage) : Prop :=
  maxSafeJsonInteger < store.progress.sourcesRegistered + observed.page.sources.length

theorem sameCycle_of_step {cursor next : ObservationCursor} {page : ProviderRunDiscoveryPage}
    {progress : ObservationPageProgress} (step : DiscoveryStep cursor page progress) (moved : next ∈ progress.cursor) :
    SameCycle cursor next := by
  cases step with
  | split cycle first starts =>
    cases moved
    exact cycle
  | nextPage announced fields =>
    cases moved
    simp only [SameCycle, fields, and_self]
  | nextWindow read cycle first starts =>
    cases moved
    exact cycle
  | finished read ends => cases moved

/-- What a lane keeps so that its pages can be recorded. -/
structure LaneSound (store : ObservationStore) : Prop where
  sound : GapsSound store.gaps.rows
  recent : LeaseRecent store.progress.state
  ahead : ∀ cursor ∈ store.progress.state.cursor, ∀ last ∈ store.progress.lastCompletedThrough,
    last ≤ cursor.interval.createdThrough
  counted : (store.progress.pagesSeen : Int) < store.progress.state.revision

/-- The progress of a lane can be written after a page, as long as its counter of sources has room. -/
theorem pageProgress_total {store : ObservationStore} {claim : ObservationClaim} {observed : ProviderObservationPage}
    {page : ObservedPage} {successor : ObservationScanState} {now : Instant} {outcome : ObservationOutcome}
    (lane : LaneSound store) (holder : currentObservationClaim snapshot store.progress.state claim now)
    (revision : successor.revision = store.progress.state.revision + 1)
    (bounded : page.outcomes.length ≤ observed.page.sources.length) (room : ¬ CounterFull store observed) :
    ObservationScanProgressFields.Admitted {
      state := successor
      lastCompletedThrough := if page.cursor = none then some claim.cursor.interval.createdThrough
        else store.progress.lastCompletedThrough
      lastPageAt := some now
      pagesSeen := store.progress.pagesSeen + 1
      sourcesRegistered := store.progress.sourcesRegistered + page.outcomes.count .registered
      lastOutcome := some outcome } := by
  obtain ⟨_, _, _, _, _, active, _, _, acquired, _⟩ := holder
  have facts := store.progress.facts
  have registered := page.outcomes.count_le_length (a := ProviderSourceRegistrationResult.registered)
  have through : claim.cursor.interval.createdThrough ≤ now :=
    claim.cursor.facts.ended.trans (claim.facts.2.trans acquired)
  refine ⟨⟨?_, ?_⟩, by simp, ?_, by simp, ?_⟩
  · have safe := successor.facts.revision.2
    have counted := lane.counted
    simp only
    omega
  · rw [CounterFull, not_lt] at room
    simp only
    omega
  · have sources := facts.sources
    have page := observed.page.facts.2.1
    simp only [discoveryPageSize] at page ⊢
    omega
  · simp only
    intro last member
    split at member
    · cases member
      exact ⟨claim.cursor.interval.facts.1.2, now, rfl, through⟩
    · exact ⟨(facts.completed last member).1, now, rfl, (lane.ahead claim.cursor active last member).trans through⟩

/-- A page that is recorded changes nothing, or it moves the lane on, or it raises. -/
theorem recordObservationPage_spec (lane : LaneSound store) (observed : ProviderObservationPage)
    (register : List ProviderRunCollectionSource → List ProviderSourceRegistrationResult)
    (lockedAt now writtenAt : Instant) (retryDelay : Nat) :
    (∃ reply next,
        recordObservationPage snapshot store claim observed register lockedAt now writtenAt retryDelay = .ok (reply, next) ∧
        ((reply = .claimLost ∧ next = store) ∨ ∃ progress full, reply = pageReply full ∧
          advanceDiscoveryCursor claim.cursor observed.page = .ok progress ∧
          (progress.registerSources = false → full = false) ∧
          PageWritten snapshot store claim progress full next)) ∨
      ∃ error, recordObservationPage snapshot store claim observed register lockedAt now writtenAt retryDelay = .error error ∧
        (observed.page.scope = claim.scope → AnswersCursor claim.cursor observed.page → AnswersEach register →
          WithinCalendar lockedAt → WithinCalendar now → now.micros + secondMicros * retryDelay < instantLimit →
          Colliding (InvolvedGap store (PageGap snapshot claim)) ∨ CounterFull store observed) := by
  rw [recordObservationPage]
  by_cases scope : observed.page.scope = claim.scope
  · rw [valueErrorIf_passes (not_not.mpr scope), ok_bind_eq]
    cases advanced : advanceDiscoveryCursor claim.cursor observed.page with
    | error error =>
      refine .inr ⟨error, rfl, fun _ answers => ?_⟩
      obtain ⟨progress, computed, _⟩ := advanceDiscoveryCursor_spec answers
      rw [advanced] at computed
      cases computed
    | ok progress =>
      have step := (discoveryStep_of_advance advanced).2
      simp only [ok_bind_eq]
      split
      · exact .inl ⟨_, store, rfl, .inl ⟨rfl, rfl⟩⟩
      · rename_i held
        rw [not_not] at held
        rcases @observePage_spec snapshot store claim observed progress lockedAt register lane.sound lane.recent held with
          ⟨page, computed, effect, bounded⟩ | ⟨error, raised, cause⟩
        · simp only [computed, ok_bind_eq]
          rcases nextAttemptAfter_spec claim page now retryDelay with ⟨next, due, later⟩ | ⟨error, raised, cause⟩
          · simp only [due, ok_bind_eq]
            have cycle : ∀ moved ∈ page.cursor, SameCycle claim.cursor moved := by
              intro moved member
              rw [effect.cursor] at member
              split at member
              · cases member
                exact ⟨rfl, rfl⟩
              · exact sameCycle_of_step step member
            rcases @finishObservationClaim_spec snapshot store.progress.state claim now next page.cursor later cycle with
              lost | ⟨successor, finished, holder, fields⟩
            · rw [lost]
              exact .inl ⟨_, store, rfl, .inl ⟨rfl, rfl⟩⟩
            · simp only [finished, ok_bind_eq]
              generalize outcome : (if .capacityReached ∈ page.outcomes then ObservationOutcome.capacityReached
                else .pageRecorded) = recorded
              cases made : ObservationScanProgress.make {
                  state := successor
                  lastCompletedThrough := if page.cursor = none then some claim.cursor.interval.createdThrough
                    else store.progress.lastCompletedThrough
                  lastPageAt := some now
                  pagesSeen := store.progress.pagesSeen + 1
                  sourcesRegistered := store.progress.sourcesRegistered + page.outcomes.count .registered
                  lastOutcome := some recorded } with
              | error error =>
                refine .inr ⟨error, rfl, fun _ _ answers _ _ _ => .inr (by_contra fun room => ?_)⟩
                obtain ⟨written, computed, _⟩ := ObservationScanProgress.make_ok (@pageProgress_total snapshot store claim
                  observed page successor now recorded lane holder (by rw [fields]) (bounded answers) room)
                rw [made] at computed
                cases computed
              | ok written =>
                have writtenFields := ObservationScanProgress.make_eq_ok made
                simp only [ok_bind_eq]
                split
                · refine .inl ⟨_, ⟨written, page.gaps⟩, rfl, .inr ⟨progress,
                    decide (ProviderSourceRegistrationResult.capacityReached ∈ page.outcomes), ?_, rfl, ?_, ?_⟩⟩
                  · simp only [pageReply, decide_eq_true_eq]
                  · intro subdivided
                    simp [effect.split subdivided]
                  · have moves := effect.cursor
                    refine ⟨⟨held.2.2.2.2.2.1, ?_, effect.sound, effect.grows⟩, ?_, ?_, effect.truncated⟩
                    · simp only [writtenFields, fields, decide_eq_true_eq, ← moves, and_self]
                    · simp only [writtenFields, decide_eq_true_eq, ← moves]
                    · simp only [writtenFields]
                · exact .inl ⟨_, store, rfl, .inl ⟨rfl, rfl⟩⟩
          · refine .inr ⟨error, by rw [raised]; rfl, fun _ _ _ _ margin inRange => ?_⟩
            rcases cause with beyond | outside
            · omega
            · exact absurd margin outside
        · exact .inr ⟨error, by rw [raised]; rfl, fun _ _ _ margin _ _ => .inl (cause margin)⟩
  · exact .inr ⟨_, bind_eq_error.mpr (.inl (raiseIf_eq_error.mpr ⟨scope, rfl⟩)), fun same => absurd same scope⟩

end Holder

end CiCoordinator.Persistence

import CiCoordinator.CiEconomics.ObservationFacts

/- The preparation of the cycles of an observation lane. -/

namespace CiCoordinator.CiEconomics

open Library Kernel Instant

/-- An instant that leaves room for a discovery window before it and for the retention of a gap after it. -/
def WithinCalendar (now : Instant) : Prop :=
  secondMicros * maxDiscoveryWindowSeconds ≤ now.micros ∧
    now.micros + secondMicros * observationGapRetentionSeconds < instantLimit

/-- Where the next cycle of a lane begins. -/
def CycleBegins (snapshot : ObservationSnapshot) (state : ObservationScanState) (completed : Option Instant)
    (start : Instant) : Prop :=
  (∀ cursor ∈ state.cursor, start = cursor.window.createdFrom) ∧
    (state.cursor = none → state.lane = .recent → snapshot.configuredAt.wholeSecond ≤ start ∧
      start ≤ max snapshot.configuredAt.wholeSecond (completed.getD snapshot.configuredAt.wholeSecond))

/-- A new cycle reads the last seven days up to the current second. -/
structure NewCycle (now : Instant) (cursor : ObservationCursor) : Prop where
  through : cursor.interval.createdThrough = now.wholeSecond
  started : cursor.cycleStartedAt = now
  first : cursor.window.createdFrom = cursor.interval.createdFrom ∧ cursor.pageNumber = 1
  recent : now.wholeSecond.micros ≤ cursor.interval.createdFrom.micros + secondMicros * maxDiscoveryWindowSeconds

/-- The part of a cycle that is lost to the seven-day bound is a gap. -/
def LostPart (start : Instant) (now : Instant) (cursor : ObservationCursor) (gap : Option ObservationGap) : Prop :=
  (gap = none ∧ cursor.interval.createdFrom = start) ∨
    ∃ lost, gap = some lost ∧ lost.createdFrom = start ∧ lost.createdThrough = cursor.interval.createdFrom ∧
      lost.cycleStartedAt = now

/-- What the preparation of a cycle leads to. -/
inductive CyclePreparation (snapshot : ObservationSnapshot) (state : ObservationScanState) (completed : Option Instant)
    (now : Instant) : Option ObservationCyclePreparation → Prop
  | notDue : CyclePreparation snapshot state completed now none
  | kept {cursor : ObservationCursor} (active : state.cursor = some cursor)
      (recent : now.wholeSecond.micros ≤ cursor.window.createdFrom.micros + secondMicros * maxDiscoveryWindowSeconds) :
      CyclePreparation snapshot state completed now (some ⟨state, none⟩)
  | replaced {start : Instant} {successor : ObservationScanState} {cursor : ObservationCursor}
      {gap : Option ObservationGap} (configured : snapshot.configuredAt ≤ now) (passed : ∀ last ∈ completed, last ≤ now)
      (begins : CycleBegins snapshot state completed start) (cycle : NewCycle now cursor)
      (follows : start ≤ cursor.interval.createdFrom) (lost : LostPart start now cursor gap)
      (fields : successor.toObservationScanStateFields = { state.toObservationScanStateFields with
          revision := state.revision + 1, cursor := some cursor, lease := none, nextAttemptAt := now }) :
      CyclePreparation snapshot state completed now (some ⟨successor, gap⟩)

section Start

variable {snapshot : ObservationSnapshot} {state : ObservationScanState} {completed : Option Instant} {lower : Instant}

theorem cycleStart_begins {start : Instant} (computed : cycleStart snapshot state completed lower = .ok start) :
    CycleBegins snapshot state completed start := by
  unfold cycleStart at computed
  split at computed
  · rename_i cursor active
    cases computed
    exact ⟨by simp [active], by simp [active]⟩
  · rename_i idle
    split at computed
    · simp only [bind_eq_ok, subtractSeconds_eq_ok, pure_eq_ok_iff] at computed
      obtain ⟨resumed, difference, rfl⟩ := computed
      refine ⟨by simp [idle], fun _ _ => ⟨le_max_left _ _, max_le_max le_rfl ?_⟩⟩
      rw [le_def]
      omega
    · rename_i lane
      exact ⟨by simp [idle], by simp [lane]⟩

/-- The start of a cycle is a whole second that has come. -/
theorem cycleStart_total {now : Instant} (wholeLower : lower.microsecond = 0) (passed : lower ≤ now.wholeSecond)
    (whole : ∀ last ∈ completed, last.microsecond = 0 ∧ last ≤ now) (configured : snapshot.configuredAt ≤ now)
    (started : ∀ cursor ∈ state.cursor, cursor.cycleStartedAt ≤ now)
    (early : secondMicros * observationOverlapSeconds ≤ (completed.getD snapshot.configuredAt.wholeSecond).micros) :
    ∃ start, cycleStart snapshot state completed lower = .ok start ∧ start.microsecond = 0 ∧ start ≤ now.wholeSecond := by
  unfold cycleStart
  cases active : state.cursor with
  | some cursor =>
    have facts := cursor.facts
    refine ⟨_, rfl, cursor.window.facts.1.1, le_wholeSecond cursor.window.facts.1.1 ?_⟩
    exact facts.inside.2.1.trans (facts.inside.2.2.trans (facts.ended.trans (started cursor active)))
  | none =>
    cases lane : state.lane with
    | backfill => exact ⟨lower, rfl, wholeLower, passed⟩
    | recent =>
      have base : (completed.getD snapshot.configuredAt.wholeSecond).microsecond = 0 ∧
          completed.getD snapshot.configuredAt.wholeSecond ≤ now.wholeSecond := by
        cases completed with
        | none => exact ⟨microsecond_wholeSecond _, wholeSecond_mono configured⟩
        | some last =>
          have facts := whole last rfl
          exact ⟨facts.1, le_wholeSecond facts.1 facts.2⟩
      generalize completed.getD snapshot.configuredAt.wholeSecond = resumed at early base ⊢
      obtain ⟨start, difference⟩ : ∃ start : Instant, resumed.micros = start.micros + secondMicros * observationOverlapSeconds :=
        ⟨⟨resumed.micros - secondMicros * observationOverlapSeconds, by have := resumed.inRange; omega⟩, by simp only; omega⟩
      have before : start ≤ resumed := by
        rw [le_def]
        omega
      have wholeStart : start.microsecond = 0 := by
        have wholeResumed := base.1
        simp only [Instant.microsecond, difference, secondMicros] at wholeResumed ⊢
        omega
      refine ⟨max snapshot.configuredAt.wholeSecond start, ?_, ?_, ?_⟩
      · simp only [subtractSeconds_eq_ok.mpr difference, ok_bind_eq]
        rfl
      · rcases max_choice snapshot.configuredAt.wholeSecond start with first | second
        · rw [first]
          exact microsecond_wholeSecond _
        · rw [second]
          exact wholeStart
      · exact max_le (wholeSecond_mono configured) (before.trans base.2)

end Start

/-- What the gap of an outage is about. -/
theorem outageGap_eq_ok {snapshot : ObservationSnapshot} {state : ObservationScanState} {now start lower : Instant}
    {gap : Option ObservationGap} (computed : outageGap snapshot state now start lower = .ok gap) :
    (gap = none ∧ lower ≤ start) ∨ ∃ lost, gap = some lost ∧ start < lower ∧ lost.scope = snapshot.scope ∧
      lost.configRevision = snapshot.revision ∧ lost.lane = state.lane ∧ lost.cycleStartedAt = now ∧
      lost.createdFrom = start ∧ lost.createdThrough = lower := by
  unfold outageGap at computed
  split at computed
  · rename_i early
    simp only [bind_eq_ok, pure_eq_ok_iff] at computed
    obtain ⟨digest, _, lost, made, rfl⟩ := computed
    simp only [ObservationGap.make_eq_ok made, Option.some.injEq, exists_eq_left', early, and_self, or_true]
  · cases computed
    exact .inl ⟨rfl, not_lt.mp ‹_›⟩

theorem outageGap_total {snapshot : ObservationSnapshot} {state : ObservationScanState} {now start lower : Instant}
    (passed : lower ≤ now) (margin : WithinCalendar now) : ∃ gap, outageGap snapshot state now start lower = .ok gap := by
  rw [outageGap]
  split
  · rename_i early
    obtain ⟨digest, hashed, lowerHex⟩ := snapshot.configuration.selectorDigest_total
    have revision := snapshot.admitted
    rw [ObservationSnapshotFields.postInit, positiveId_eq_ok] at revision
    obtain ⟨gap, made, fields⟩ := @ObservationGap.make_ok
      ⟨snapshot.scope, snapshot.revision, digest, state.lane, now, start, lower, .outageWindowLost⟩
      ⟨revision, lowerHex, ⟨early.le, passed⟩, margin.2⟩
    refine ⟨some gap, ?_⟩
    rw [hashed, ok_bind_eq, made]
    rfl
  · exact ⟨none, rfl⟩

section Prepare

variable {snapshot : ObservationSnapshot} {state : ObservationScanState} {completed : Option Instant} {now : Instant}

/-- What a preparation that returns has done. -/
theorem prepareObservationCycle_eq_ok {prepared : Option ObservationCyclePreparation}
    (computed : prepareObservationCycle snapshot state completed now = .ok prepared) :
    CyclePreparation snapshot state completed now prepared := by
  simp only [prepareObservationCycle, bind_eq_ok] at computed
  obtain ⟨_, _, computed⟩ := computed
  split at computed
  · cases computed
    exact .notDue
  · rename_i due
    simp only [not_or, not_lt, not_le, not_exists, not_and, not_not, ne_eq] at due
    obtain ⟨_, _, _, configured, _, _, _, passed, _⟩ := due
    simp only [bind_eq_ok, subtractSeconds_eq_ok] at computed
    obtain ⟨lower, difference, computed⟩ := computed
    split at computed
    · rename_i inside
      obtain ⟨cursor, active, recent⟩ := inside
      simp only [ObservationCyclePreparation.make, bind_eq_ok, pure_eq_ok_iff] at computed
      obtain ⟨_, ⟨_, _, rfl⟩, rfl⟩ := computed
      refine .kept active ?_
      rw [le_def] at recent
      omega
    · simp only [bind_eq_ok, ObservationCyclePreparation.make, pure_eq_ok_iff] at computed
      obtain ⟨start, begun, gap, lost, interval, made, cursor, opened, successor, built, _, ⟨_, _, rfl⟩, rfl⟩ := computed
      obtain ⟨intervalFrom, intervalThrough⟩ := RunDiscoveryWindow.make_eq_ok made
      obtain ⟨frozen, cycle, windowFrom, page⟩ := ObservationCursor.start_eq_ok opened
      have begins : cursor.interval.createdFrom = max start lower := by rw [frozen, intervalFrom]
      refine .replaced configured passed (cycleStart_begins begun) ⟨?_, cycle, ⟨?_, page⟩, ?_⟩ ?_ ?_
        (ObservationScanState.make_eq_ok built)
      · rw [frozen, intervalThrough]
      · rw [windowFrom, frozen]
      · rw [begins, difference]
        have upper := le_def.mp (le_max_right start lower)
        omega
      · rw [begins]
        exact le_max_left _ _
      · rcases outageGap_eq_ok lost with ⟨absent, later⟩ | ⟨other, present, outage, _, _, _, sameCycle, lostFrom, lostThrough⟩
        · exact .inl ⟨absent, by rw [begins, max_eq_left later]⟩
        · exact .inr ⟨other, present, lostFrom, by rw [lostThrough, begins, max_eq_right outage.le], sameCycle⟩

/-- The preparation of a cycle returns within the calendar. -/
theorem prepareObservationCycle_total (margin : WithinCalendar now) (whole : ∀ last ∈ completed, last.microsecond = 0)
    (early : secondMicros * observationOverlapSeconds ≤ (completed.getD snapshot.configuredAt.wholeSecond).micros) :
    ∃ prepared, prepareObservationCycle snapshot state completed now = .ok prepared := by
  have precise : ¬ ∃ last ∈ completed, last.microsecond ≠ 0 := by
    rintro ⟨last, member, fraction⟩
    exact fraction (whole last member)
  rw [prepareObservationCycle, valueErrorIf_passes precise, ok_bind_eq]
  split
  · exact ⟨none, rfl⟩
  · rename_i due
    simp only [not_or, not_lt, not_le, not_exists, not_and, not_not, ne_eq] at due
    obtain ⟨_, scope, config, configured, _, _, room, passed, started⟩ := due
    obtain ⟨lower, difference⟩ : ∃ lower : Instant,
        now.wholeSecond.micros = lower.micros + secondMicros * maxDiscoveryWindowSeconds := by
      have below : secondMicros * maxDiscoveryWindowSeconds ≤ now.wholeSecond.micros := by
        have bound := margin.1
        simp only [wholeSecond, secondMicros, maxDiscoveryWindowSeconds] at bound ⊢
        omega
      exact ⟨⟨now.wholeSecond.micros - secondMicros * maxDiscoveryWindowSeconds,
        by have := now.wholeSecond.inRange; omega⟩, by simp only; omega⟩
    have before : lower ≤ now.wholeSecond := by
      rw [le_def]
      omega
    have wholeLower : lower.microsecond = 0 := by
      have wholeNow := microsecond_wholeSecond now
      simp only [Instant.microsecond, difference, secondMicros] at wholeNow ⊢
      omega
    rw [subtractSeconds_eq_ok.mpr difference, ok_bind_eq]
    split
    · refine ⟨some ⟨state, none⟩, ?_⟩
      rw [ObservationCyclePreparation.make, valueErrorIf_passes (by simp)]
      rfl
    · obtain ⟨start, begun, wholeStart, inTime⟩ := @cycleStart_total snapshot state completed lower now
        wholeLower before (fun last member => ⟨whole last member, passed last member⟩) configured started early
      obtain ⟨gap, lost⟩ := @outageGap_total snapshot state now start lower (before.trans (wholeSecond_le now)) margin
      have wholeMax : (max start lower).microsecond = 0 := by
        rcases max_choice start lower with left | right
        · rw [left]
          exact wholeStart
        · rw [right]
          exact wholeLower
      obtain ⟨interval, made, _, intervalThrough⟩ := RunDiscoveryWindow.make_ok wholeMax
        (microsecond_wholeSecond now) (max_le inTime before) (by
          have upper := le_def.mp (le_max_right start lower)
          omega)
      obtain ⟨cursor, opened, _, cycle, _⟩ := @ObservationCursor.start_spec interval now (intervalThrough ▸ wholeSecond_le now)
      have facts := state.facts
      obtain ⟨successor, built, fields⟩ := @ObservationScanState.make_ok { state.toObservationScanStateFields with
          revision := state.revision + 1, cursor := some cursor, lease := none, nextAttemptAt := now }
        ⟨facts.config, by
          have revision := facts.revision
          simp only
          omega, by simp⟩
      have owned : ¬ ∃ lost ∈ gap, lost.scope ≠ successor.scope ∨ lost.configRevision ≠ successor.configRevision ∨
          lost.lane ≠ successor.lane ∨ successor.lease ≠ none ∨
          ∀ cursor ∈ successor.cursor, lost.cycleStartedAt ≠ cursor.cycleStartedAt := by
        rintro ⟨other, member, foreign⟩
        rcases outageGap_eq_ok lost with ⟨absent, _⟩ | ⟨gap, present, _, sameScope, sameConfig, sameLane, sameCycle, _⟩
        · rw [absent] at member
          cases member
        · rw [present] at member
          cases member
          simp [fields, sameScope, sameConfig, sameLane, sameCycle, scope, config, cycle] at foreign
      refine ⟨some ⟨successor, gap⟩, ?_⟩
      rw [begun, ok_bind_eq, lost, ok_bind_eq, made, ok_bind_eq, opened, ok_bind_eq, built, ok_bind_eq,
        ObservationCyclePreparation.make, valueErrorIf_passes owned]
      rfl

end Prepare

end CiCoordinator.CiEconomics

import CiCoordinator.CiEconomics.ObservationScan

/- What the operations of an observation lane return. -/

namespace CiCoordinator.CiEconomics

open Library Kernel List Text

variable {cursor : ObservationCursor} {page : ProviderRunDiscoveryPage}

@[simp] theorem observationDigest_eq_ok {value : Text} {passed : Unit} :
    observationDigest value = .ok passed ↔ isSha256Hex value = true := by
  simp [observationDigest]

theorem observationDigest_passes {value : Text} (digest : isSha256Hex value = true) : observationDigest value = .ok () :=
  observationDigest_eq_ok.mpr digest

/-- What the constructor of an observation cursor checks. -/
structure ObservationCursorFields.Admitted (fields : ObservationCursorFields) : Prop where
  inside : fields.interval.createdFrom ≤ fields.window.createdFrom ∧
    fields.window.createdFrom ≤ fields.window.createdThrough ∧
    fields.window.createdThrough ≤ fields.interval.createdThrough
  short : fields.window.createdThrough.micros - fields.window.createdFrom.micros ≤
    secondMicros * maxObservationSubwindowSeconds
  page : 1 ≤ fields.pageNumber ∧ fields.pageNumber ≤ maxDiscoveryPages
  ended : fields.interval.createdThrough ≤ fields.cycleStartedAt

theorem ObservationCursorFields.postInit_eq_ok (fields : ObservationCursorFields) :
    fields.postInit = .ok () ↔ fields.Admitted := by
  simp only [postInit, bind_unit_eq_ok, raiseIf_eq_ok, not_not, not_lt]
  constructor
  · rintro ⟨inside, short, page, ended⟩
    exact ⟨inside, short, page, ended⟩
  · intro admitted
    exact ⟨admitted.inside, admitted.short, admitted.page, admitted.ended⟩

/-- A later cursor of the same cycle. -/
def SameCycle (first second : ObservationCursor) : Prop :=
  second.interval = first.interval ∧ second.cycleStartedAt = first.cycleStartedAt

namespace ObservationCursor

theorem facts (cursor : ObservationCursor) : cursor.Admitted :=
  (ObservationCursorFields.postInit_eq_ok _).mp cursor.admitted

theorem make_ok {fields : ObservationCursorFields} (admitted : fields.Admitted) :
    ∃ cursor, ObservationCursor.make fields = .ok cursor ∧ cursor.toObservationCursorFields = fields :=
  ⟨⟨fields, (ObservationCursorFields.postInit_eq_ok _).mpr admitted⟩, construct_ok _, rfl⟩

/-- The first window of an interval that has ended can be observed. -/
theorem start_spec {interval : RunDiscoveryWindow} {cycleStartedAt : Instant} (ended : interval.createdThrough ≤ cycleStartedAt) :
    ∃ cursor, ObservationCursor.start interval cycleStartedAt = .ok cursor ∧ cursor.interval = interval ∧
      cursor.cycleStartedAt = cycleStartedAt ∧ cursor.window.createdFrom = interval.createdFrom ∧
      cursor.pageNumber = 1 := by
  have facts := interval.facts
  obtain ⟨through, window, sum, made, starts, ends, short, _⟩ := @RunDiscoveryWindow.make_prefix interval.createdFrom
    interval.createdThrough maxObservationSubwindowSeconds facts.1.1 facts.1.2 facts.2.1 ⟨by decide, by decide⟩
  obtain ⟨cursor, built, same⟩ := @make_ok
    { interval := interval, window := window, pageNumber := 1, cycleStartedAt := cycleStartedAt }
    ⟨⟨starts.ge, window.facts.2.1, ends⟩, starts ▸ short, firstPage, ended⟩
  refine ⟨cursor, ?_, ?_⟩
  · rw [start, subwindow, sum, ok_bind_eq, made, ok_bind_eq, built]
  · simp only [same, starts, and_self]

theorem make_eq_ok {fields : ObservationCursorFields} {cursor : ObservationCursor}
    (made : ObservationCursor.make fields = .ok cursor) : cursor.toObservationCursorFields = fields := by
  obtain ⟨passed, rfl⟩ := construct_eq_ok.mp made
  rfl

theorem start_eq_ok {interval : RunDiscoveryWindow} {cycleStartedAt : Instant} {cursor : ObservationCursor}
    (started : ObservationCursor.start interval cycleStartedAt = .ok cursor) :
    cursor.interval = interval ∧ cursor.cycleStartedAt = cycleStartedAt ∧
      cursor.window.createdFrom = interval.createdFrom ∧ cursor.pageNumber = 1 := by
  simp only [ObservationCursor.start, subwindow, bind_eq_ok] at started
  obtain ⟨window, ⟨through, _, made⟩, built⟩ := started
  obtain ⟨_, rfl⟩ := construct_eq_ok.mp made
  simp only [make_eq_ok built, and_self]

/-- A split halves the window unless it is a single second. -/
theorem split_spec (cursor : ObservationCursor) :
    cursor.split = .ok none ∨ ∃ part, cursor.split = .ok (some part) ∧ SameCycle cursor part ∧ part.pageNumber = 1 ∧
        part.window.createdFrom = cursor.window.createdFrom := by
  have facts := cursor.facts
  rw [split]
  split
  · exact .inl rfl
  · rename_i wide
    obtain ⟨middle, part, sum, made, starts, _, narrower⟩ := cursor.window.make_half wide
    have admitted : ObservationCursorFields.Admitted
        { cursor.toObservationCursorFields with window := part, pageNumber := 1 } := by
      refine ⟨⟨?_, part.facts.2.1, narrower.le.trans facts.inside.2.2⟩, ?_, firstPage, facts.ended⟩
      · exact starts ▸ facts.inside.1
      · have short := facts.short
        rw [Instant.lt_def] at narrower
        simp only [starts]
        omega
    obtain ⟨next, built, same⟩ := make_ok admitted
    refine .inr ⟨next, ?_, ?_, ?_, ?_⟩
    · rw [sum, ok_bind_eq, made, ok_bind_eq, built]
      rfl
    · simp only [SameCycle, same, and_self]
    · rw [same]
    · rw [same]
      exact starts

/-- The next window begins where the last one ended, until the interval is used up. -/
theorem advanceWindow_spec (cursor : ObservationCursor) :
    (cursor.window.createdThrough = cursor.interval.createdThrough ∧ cursor.advanceWindow = .ok none) ∨
      ∃ next, cursor.advanceWindow = .ok (some next) ∧ SameCycle cursor next ∧ next.pageNumber = 1 ∧
        next.window.createdFrom = cursor.window.createdThrough := by
  have facts := cursor.facts
  rw [advanceWindow]
  split
  · exact .inl ⟨‹_›, rfl⟩
  · obtain ⟨through, window, sum, made, starts, ends, short, _⟩ := @RunDiscoveryWindow.make_prefix
      cursor.window.createdThrough cursor.interval.createdThrough maxObservationSubwindowSeconds cursor.window.facts.1.2
      cursor.interval.facts.1.2 facts.inside.2.2 ⟨by decide, by decide⟩
    have admitted : ObservationCursorFields.Admitted
        { cursor.toObservationCursorFields with window := window, pageNumber := 1 } := by
      refine ⟨⟨?_, window.facts.2.1, ends⟩, starts ▸ short, firstPage, facts.ended⟩
      exact starts ▸ facts.inside.1.trans facts.inside.2.1
    obtain ⟨next, built, same⟩ := make_ok admitted
    refine .inr ⟨next, ?_, ?_, ?_, ?_⟩
    · rw [subwindow, sum, ok_bind_eq, made, ok_bind_eq, built]
      rfl
    · simp only [SameCycle, same, and_self]
    · rw [same]
    · rw [same]
      exact starts

end ObservationCursor

/-- What the progress of an observed page can be. -/
inductive DiscoveryStep (cursor : ObservationCursor) (page : ProviderRunDiscoveryPage) : ObservationPageProgress → Prop
  | split {part : ObservationCursor} (cycle : SameCycle cursor part) (first : part.pageNumber = 1)
      (starts : part.window.createdFrom = cursor.window.createdFrom) :
      DiscoveryStep cursor page ⟨some part, false, false⟩
  | nextPage {next : ObservationCursor} (announced : page.termination = .nextPage)
      (fields : next.toObservationCursorFields =
        { cursor.toObservationCursorFields with pageNumber := cursor.pageNumber + 1 }) :
      DiscoveryStep cursor page ⟨some next, true, false⟩
  | nextWindow {next : ObservationCursor} {truncated : Bool} (read : page.termination = .exhausted ∨ truncated = true)
      (cycle : SameCycle cursor next) (first : next.pageNumber = 1)
      (starts : next.window.createdFrom = cursor.window.createdThrough) :
      DiscoveryStep cursor page ⟨some next, true, truncated⟩
  | finished {truncated : Bool} (read : page.termination = .exhausted ∨ truncated = true)
      (ends : cursor.window.createdThrough = cursor.interval.createdThrough) :
      DiscoveryStep cursor page ⟨none, true, truncated⟩

/-- A page answers the exact question of a cursor. -/
def AnswersCursor (cursor : ObservationCursor) (page : ProviderRunDiscoveryPage) : Prop :=
  page.window = cursor.window ∧ page.pageNumber = cursor.pageNumber

theorem ObservationPageProgress.make_registers (cursor : Option ObservationCursor) (truncated : Bool) :
    ObservationPageProgress.make cursor true truncated = .ok ⟨cursor, true, truncated⟩ := by
  simp [ObservationPageProgress.make, raiseIf, pure, Except.pure]

/-- The window of a page whose window is done is followed by the next one. -/
theorem leaveWindow_spec {truncated : Bool} (read : page.termination = .exhausted ∨ truncated = true) : ∃ progress, (do
        let next ← cursor.advanceWindow
        ObservationPageProgress.make next true truncated) = .ok progress ∧ DiscoveryStep cursor page progress := by
  rcases cursor.advanceWindow_spec with ⟨ends, advanced⟩ | ⟨next, advanced, cycle, first, starts⟩
  · exact ⟨_, by rw [advanced, ok_bind_eq, ObservationPageProgress.make_registers], .finished read ends⟩
  · exact ⟨_, by rw [advanced, ok_bind_eq, ObservationPageProgress.make_registers], .nextWindow read cycle first starts⟩

/-- A page that answers its cursor always leads on. -/
theorem advanceDiscoveryCursor_spec (answers : AnswersCursor cursor page) :
    ∃ progress, advanceDiscoveryCursor cursor page = .ok progress ∧ DiscoveryStep cursor page progress := by
  have matched : ¬ (page.window ≠ cursor.window ∨ page.pageNumber ≠ cursor.pageNumber) := by
    simp [answers.1, answers.2]
  rw [advanceDiscoveryCursor, valueErrorIf_passes matched, ok_bind_eq]
  split
  · rcases cursor.split_spec with single | ⟨part, divided, cycle, first, starts⟩
    · rw [single, ok_bind_eq]
      exact leaveWindow_spec (.inr rfl)
    · exact ⟨_, by rw [divided]; rfl, .split cycle first starts⟩
  · split
    · rename_i announced
      have facts := cursor.facts
      have room := (page.nextPage_facts announced).2
      obtain ⟨next, made, same⟩ := @ObservationCursor.make_ok
        { cursor.toObservationCursorFields with pageNumber := cursor.pageNumber + 1 }
        ⟨facts.inside, facts.short, ⟨Nat.le_add_left _ _, by simp only; rw [← answers.2]; exact room⟩, facts.ended⟩
      exact ⟨_, by rw [made, ok_bind_eq, ObservationPageProgress.make_registers], .nextPage announced same⟩
    · rename_i last
      apply leaveWindow_spec
      cases ends : page.termination with
      | nextPage => exact absurd ends last
      | exhausted => exact .inl rfl
      | truncated => exact .inr (by simp)

theorem discoveryStep_of_advance {progress : ObservationPageProgress}
    (advanced : advanceDiscoveryCursor cursor page = .ok progress) :
    AnswersCursor cursor page ∧ DiscoveryStep cursor page progress := by
  have answers : AnswersCursor cursor page := by
    simp only [advanceDiscoveryCursor, bind_eq_ok, raiseIf_eq_ok, not_or, not_not, ne_eq] at advanced
    obtain ⟨_, matched, _⟩ := advanced
    exact matched
  obtain ⟨other, computed, step⟩ := advanceDiscoveryCursor_spec answers
  rw [computed] at advanced
  cases advanced
  exact ⟨answers, step⟩

theorem ObservationLeaseFields.postInit_eq_ok (fields : ObservationLeaseFields) : fields.postInit = .ok () ↔
    isSha256Hex fields.workerId = true ∧ isSha256Hex fields.token = true ∧
      fields.expiresAt.micros = fields.acquiredAt.micros + secondMicros * observationLeaseSeconds := by
  simp only [postInit, bind_unit_eq_ok, observationDigest_eq_ok, raiseIf_eq_ok, not_not, ne_eq]

theorem ObservationLease.expires (lease : ObservationLease) :
    lease.expiresAt.micros = lease.acquiredAt.micros + secondMicros * observationLeaseSeconds :=
  ((ObservationLeaseFields.postInit_eq_ok _).mp lease.admitted).2.2

/-- What the constructor of a scan state checks. -/
structure ObservationScanStateFields.Admitted (fields : ObservationScanStateFields) : Prop where
  config : 1 ≤ fields.configRevision ∧ fields.configRevision ≤ maxSafeJsonInteger
  revision : 1 ≤ fields.revision ∧ fields.revision ≤ maxSafeJsonInteger
  lease : ∀ lease ∈ fields.lease, ∃ cursor ∈ fields.cursor, cursor.cycleStartedAt ≤ lease.acquiredAt

variable (fields : ObservationScanStateFields)

theorem ObservationScanStateFields.requireLease_eq_ok :
    fields.requireLease = .ok () ↔ ∀ lease ∈ fields.lease, ∃ cursor ∈ fields.cursor, cursor.cycleStartedAt ≤ lease.acquiredAt := by
  unfold requireLease
  split
  · rename_i unleased
    simp [unleased]
  · rename_i lease leased idle
    simp [leased, idle]
  · rename_i lease cursor leased active
    simp [leased, active]

theorem ObservationScanStateFields.postInit_eq_ok : fields.postInit = .ok () ↔ fields.Admitted := by
  simp only [postInit, bind_unit_eq_ok, positiveId_eq_ok, requireLease_eq_ok]
  constructor
  · rintro ⟨config, revision, lease⟩
    exact ⟨config, revision, lease⟩
  · intro admitted
    exact ⟨admitted.config, admitted.revision, admitted.lease⟩

namespace ObservationScanState

theorem facts (state : ObservationScanState) : state.Admitted :=
  (ObservationScanStateFields.postInit_eq_ok _).mp state.admitted

theorem make_ok {fields : ObservationScanStateFields} (admitted : fields.Admitted) :
    ∃ state, ObservationScanState.make fields = .ok state ∧ state.toObservationScanStateFields = fields :=
  ⟨⟨fields, (ObservationScanStateFields.postInit_eq_ok _).mpr admitted⟩, construct_ok _, rfl⟩

theorem make_eq_ok {fields : ObservationScanStateFields} {state : ObservationScanState}
    (made : ObservationScanState.make fields = .ok state) : state.toObservationScanStateFields = fields := by
  obtain ⟨passed, rfl⟩ := construct_eq_ok.mp made
  rfl

end ObservationScanState

theorem ObservationClaim.facts (claim : ObservationClaim) :
    (1 ≤ claim.configRevision ∧ claim.configRevision ≤ maxSafeJsonInteger) ∧
      claim.cursor.cycleStartedAt ≤ claim.lease.acquiredAt := by
  have admitted := claim.admitted
  simp only [ObservationClaimFields.postInit, bind_unit_eq_ok, positiveId_eq_ok, raiseIf_eq_ok, not_lt] at admitted
  exact ⟨admitted.1, admitted.2.2⟩

/-- What the acquisition of a claim leads to. -/
inductive ObservationAcquisition (state : ObservationScanState) (now : Instant) :
    Option (ObservationScanState × ObservationClaim) → Prop
  | unavailable : ObservationAcquisition state now none
  | leased {successor : ObservationScanState} {claim : ObservationClaim} (active : state.cursor = some claim.cursor)
      (acquired : claim.lease.acquiredAt = now)
      (fields : successor.toObservationScanStateFields =
        { state.toObservationScanStateFields with revision := state.revision + 1, lease := some claim.lease }) :
      ObservationAcquisition state now (some (successor, claim))

/-- An acquisition returns when its lease ends within the calendar. -/
theorem acquireObservationClaim_total {snapshot : ObservationSnapshot} {state : ObservationScanState} {now : Instant}
    {workerId token : Text} (worker : isSha256Hex workerId = true) (secret : isSha256Hex token = true)
    (inRange : now.micros + secondMicros * observationLeaseSeconds < instantLimit) :
    ∃ acquired, acquireObservationClaim snapshot state now workerId token = .ok acquired := by
  rw [acquireObservationClaim, observationDigest_passes worker, ok_bind_eq, observationDigest_passes secret, ok_bind_eq]
  split
  · exact ⟨none, rfl⟩
  · rename_i cursor active
    split
    · exact ⟨none, rfl⟩
    · rename_i due
      simp only [not_or, not_lt, not_le] at due
      obtain ⟨_, _, _, _, started, _, _, room⟩ := due
      have facts := state.facts
      obtain ⟨expires, sum⟩ : ∃ expires : Instant,
          expires.micros = now.micros + secondMicros * observationLeaseSeconds := ⟨⟨_, inRange⟩, rfl⟩
      have leaseAdmitted : ObservationLeaseFields.postInit ⟨workerId, token, now, expires⟩ = .ok () :=
        (ObservationLeaseFields.postInit_eq_ok _).mpr ⟨worker, secret, sum⟩
      have next : 1 ≤ state.revision + 1 ∧ state.revision + 1 ≤ maxSafeJsonInteger := by
        have := facts.revision
        omega
      obtain ⟨successor, made, fields⟩ := @ObservationScanState.make_ok { state.toObservationScanStateFields with
          revision := state.revision + 1, lease := some ⟨⟨workerId, token, now, expires⟩, leaseAdmitted⟩ }
        ⟨facts.config, next, by
          simp only [Option.mem_def, Option.some.injEq, forall_eq', active]
          exact ⟨cursor, rfl, started⟩⟩
      have claimAdmitted : ObservationClaimFields.postInit ⟨state.scope, state.configRevision, state.lane,
          successor.revision, cursor, ⟨⟨workerId, token, now, expires⟩, leaseAdmitted⟩⟩ = .ok () := by
        simp only [ObservationClaimFields.postInit, bind_unit_eq_ok, positiveId_eq_ok, raiseIf_eq_ok, not_lt, fields]
        exact ⟨facts.config, next, started⟩
      refine ⟨some (successor, ⟨_, claimAdmitted⟩), ?_⟩
      rw [addSeconds_eq_ok.mpr sum, ok_bind_eq, ObservationLease.make, construct_ok leaseAdmitted, ok_bind_eq, made,
        ok_bind_eq, ObservationClaim.make, construct_ok claimAdmitted]
      rfl

/-- An acquisition by a worker with a digest only raises when its lease would end after the year 9999. -/
theorem acquireObservationClaim_spec (snapshot : ObservationSnapshot) (state : ObservationScanState) (now : Instant)
    (workerId token : Text) :
    (∃ error, acquireObservationClaim snapshot state now workerId token = .error error ∧
        ¬ (isSha256Hex workerId = true ∧ isSha256Hex token = true ∧
          now.micros + secondMicros * observationLeaseSeconds < instantLimit)) ∨
      ∃ acquired, acquireObservationClaim snapshot state now workerId token = .ok acquired ∧
        ObservationAcquisition state now acquired := by
  cases outcome : acquireObservationClaim snapshot state now workerId token with
  | error error =>
    refine .inl ⟨error, rfl, ?_⟩
    rintro ⟨worker, secret, inRange⟩
    obtain ⟨acquired, computed⟩ := @acquireObservationClaim_total snapshot state now workerId token worker secret inRange
    rw [outcome] at computed
    cases computed
  | ok acquired =>
    refine .inr ⟨acquired, rfl, ?_⟩
    simp only [acquireObservationClaim, bind_eq_ok] at outcome
    obtain ⟨_, _, _, _, outcome⟩ := outcome
    split at outcome
    · cases outcome
      exact .unavailable
    · rename_i cursor active
      split at outcome
      · cases outcome
        exact .unavailable
      · simp only [bind_eq_ok, pure_eq_ok_iff] at outcome
        obtain ⟨expires, _, lease, leased, successor, made, claim, claimed, rfl⟩ := outcome
        obtain ⟨_, rfl⟩ := construct_eq_ok.mp leased
        obtain ⟨_, rfl⟩ := construct_eq_ok.mp claimed
        exact .leased active rfl (ObservationScanState.make_eq_ok made)

/-- The completion of a claim by its holder, without a new cycle, returns. -/
theorem finishObservationClaim_spec {snapshot : ObservationSnapshot} {state : ObservationScanState}
    {claim : ObservationClaim} {now nextAttemptAt : Instant} {cursor : Option ObservationCursor}
    (later : now ≤ nextAttemptAt) (cycle : ∀ next ∈ cursor, SameCycle claim.cursor next) :
    finishObservationClaim snapshot state claim now cursor nextAttemptAt = .ok none ∨
      ∃ successor, finishObservationClaim snapshot state claim now cursor nextAttemptAt = .ok (some successor) ∧
        currentObservationClaim snapshot state claim now ∧
        successor.toObservationScanStateFields = { state.toObservationScanStateFields with
            revision := state.revision + 1, cursor := cursor, nextAttemptAt := nextAttemptAt, lease := none } := by
  rw [finishObservationClaim]
  split
  · exact .inl rfl
  split
  · exact .inl rfl
  · rename_i holder room
    have facts := state.facts
    have revision := facts.revision
    obtain ⟨successor, made, fields⟩ := @ObservationScanState.make_ok { state.toObservationScanStateFields with
        revision := state.revision + 1, cursor := cursor, nextAttemptAt := nextAttemptAt, lease := none }
      ⟨facts.config, by simp only; omega, by simp⟩
    have kept : ¬ ∃ next ∈ cursor, next.interval ≠ claim.cursor.interval ∨ next.cycleStartedAt ≠ claim.cursor.cycleStartedAt := by
      rintro ⟨next, member, different⟩
      have same := cycle next member
      simp [same.1, same.2] at different
    refine .inr ⟨successor, ?_, not_not.mp holder, fields⟩
    rw [valueErrorIf_passes (not_lt.mpr later), ok_bind_eq, valueErrorIf_passes kept, ok_bind_eq, made]
    rfl

variable (configuration : ObservationConfiguration)

theorem ObservationConfiguration.selectorDigest_total :
    ∃ digest, configuration.selectorDigest = .ok digest ∧ isSha256Hex digest = true := by
  apply hashObject_total
  have selector := configuration.selector
  cases ids : configuration.workflowIds with
  | none => simp [ObservationConfiguration.selectorMapping, ids]
  | some workflows =>
    have bounds := (selector workflows ids).2.2.1
    simp only [ObservationConfiguration.selectorMapping, ids, admissible_obj, admissible_str, admissible_arr, all_cons,
      all_nil, scalar_ascii, Bool.and_true, Bool.true_and, all_map, all_eq_true, Function.comp,
      admissible_int, decide_eq_true_eq]
    intro id member
    have := bounds id member
    omega

theorem ObservationConfiguration.selects_total {workflowId : Int} (bounds : 1 ≤ workflowId ∧ workflowId ≤ maxSafeJsonInteger) :
    ∃ selected, configuration.selects workflowId = .ok selected := by
  rw [selects, positiveId_passes bounds]
  exact ⟨_, rfl⟩

/-- What the constructor of a gap checks. -/
structure ObservationGapFields.Admitted (fields : ObservationGapFields) : Prop where
  config : 1 ≤ fields.configRevision ∧ fields.configRevision ≤ maxSafeJsonInteger
  selector : isSha256Hex fields.selectorDigest = true
  ordered : fields.createdFrom ≤ fields.createdThrough ∧ fields.createdThrough ≤ fields.cycleStartedAt
  expires : fields.cycleStartedAt.micros + secondMicros * observationGapRetentionSeconds < instantLimit

theorem ObservationGapFields.postInit_eq_ok (fields : ObservationGapFields) : fields.postInit = .ok () ↔ fields.Admitted := by
  simp only [postInit, bind_unit_eq_ok, positiveId_eq_ok, observationDigest_eq_ok, raiseIf_eq_ok, not_not,
    requireRepresentable_eq_ok, expiresAt, addSeconds_inRange]
  constructor
  · rintro ⟨config, selector, ordered, expires⟩
    exact ⟨config, selector, ordered, expires⟩
  · intro admitted
    exact ⟨admitted.config, admitted.selector, admitted.ordered, admitted.expires⟩

namespace ObservationGap

variable (gap : ObservationGap)

theorem facts : gap.Admitted :=
  (ObservationGapFields.postInit_eq_ok _).mp gap.admitted

theorem make_ok {fields : ObservationGapFields} (admitted : fields.Admitted) :
    ∃ gap, ObservationGap.make fields = .ok gap ∧ gap.toObservationGapFields = fields :=
  ⟨⟨fields, (ObservationGapFields.postInit_eq_ok _).mpr admitted⟩, construct_ok _, rfl⟩

theorem make_eq_ok {fields : ObservationGapFields} {gap : ObservationGap} (made : ObservationGap.make fields = .ok gap) :
    gap.toObservationGapFields = fields := by
  obtain ⟨passed, rfl⟩ := construct_eq_ok.mp made
  rfl

/-- The end of the retention of a gap. -/
def expiry : Instant :=
  ⟨gap.cycleStartedAt.micros + secondMicros * observationGapRetentionSeconds, gap.facts.expires⟩

theorem gapId_total : ∃ id, gap.gapId = .ok id ∧ isSha256Hex id = true := by
  apply hashObject_total
  have scope := scope_bounds gap.scope
  have config := gap.facts.config
  have selector := scalar_of_isSha256Hex gap.facts.selector
  have lane : gap.lane.text.scalar = true := by
    cases gap.lane <;> exact scalar_ascii _
  have reason : gap.reason.text.scalar = true := by
    cases gap.reason <;> exact scalar_ascii _
  simp only [canonicalMapping, admissible_obj, admissible_int, admissible_str, all_cons, all_nil,
    scalar_ascii, Instant.scalar_isoText, selector, lane, reason, Bool.and_true, Bool.true_and, Bool.and_eq_true,
    decide_eq_true_eq]
  omega

end ObservationGap

/-- What the constructor of a progress checks. -/
structure ObservationScanProgressFields.Admitted (fields : ObservationScanProgressFields) : Prop where
  safe : fields.pagesSeen ≤ maxSafeJsonInteger ∧ fields.sourcesRegistered ≤ maxSafeJsonInteger
  pages : fields.pagesSeen = 0 ↔ fields.lastPageAt = none
  sources : fields.sourcesRegistered ≤ 100 * fields.pagesSeen
  outcome : 0 < fields.pagesSeen → fields.lastOutcome ≠ none
  completed : ∀ completed ∈ fields.lastCompletedThrough, completed.microsecond = 0 ∧
    ∃ page ∈ fields.lastPageAt, completed ≤ page

theorem ObservationScanProgressFields.postInit_eq_ok (fields : ObservationScanProgressFields) :
    fields.postInit = .ok () ↔ fields.Admitted := by
  simp only [postInit, bind_unit_eq_ok, forEach_eq_ok, mem_cons, not_mem_nil, or_false, forall_eq_or_imp,
    forall_eq, raiseIf_eq_ok, not_lt, not_or, not_not, not_and, not_exists, not_forall, exists_prop, ne_eq]
  constructor
  · rintro ⟨safe, ⟨pages, sources, outcome⟩, completed⟩
    exact ⟨safe, pages, sources, outcome, completed⟩
  · intro admitted
    exact ⟨admitted.safe, ⟨admitted.pages, admitted.sources, admitted.outcome⟩, admitted.completed⟩

namespace ObservationScanProgress

theorem facts (progress : ObservationScanProgress) : progress.Admitted :=
  (ObservationScanProgressFields.postInit_eq_ok _).mp progress.admitted

theorem make_ok {fields : ObservationScanProgressFields} (admitted : fields.Admitted) :
    ∃ progress, ObservationScanProgress.make fields = .ok progress ∧ progress.toObservationScanProgressFields = fields :=
  ⟨⟨fields, (ObservationScanProgressFields.postInit_eq_ok _).mpr admitted⟩, construct_ok _, rfl⟩

theorem make_eq_ok {fields : ObservationScanProgressFields} {progress : ObservationScanProgress}
    (made : ObservationScanProgress.make fields = .ok progress) :
    progress.toObservationScanProgressFields = fields := by
  obtain ⟨passed, rfl⟩ := construct_eq_ok.mp made
  rfl

end ObservationScanProgress

end CiCoordinator.CiEconomics

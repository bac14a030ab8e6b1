import CiCoordinator.AuditReplay.PagedReplay
import Mathlib.Logic.Relation

/- The proof that an export shows the events of its frozen ledger, whatever is appended meanwhile. -/

namespace CiCoordinator.AuditReplay

open Library Kernel Persistence ReplayPhase List

section Runs

variable [Interpreter] {request : ReplayRequest} {frozen ledger : AuditLedger}

/-- A stored row reads back as an event of the ledger. -/
def ReadsAs (row : AuditEventRow) (event : AuditEventRecord) : Prop :=
  ∃ record, rowToRecord row = .ok record ∧ auditEventFromMapping record = .ok event

/-- The summaries of the matching events of some rows, in the order of the rows and each once. -/
def Shows (request : ReplayRequest) (rows : List AuditEventRow) (yielded : List AuditReplayEventSummary) : Prop :=
  ∃ events, List.Forall₂ ReadsAs rows events ∧
    List.Forall₂ (fun event summary => summarizeAuditEvent event request.includePayload = .ok summary)
      (events.filter fun event => auditEventMatchesFilter event request.replayFilter) yielded

variable {shown remaining : List AuditEventRow}

theorem ReadsAs.sequence {row : AuditEventRow} {event : AuditEventRecord} (reads : ReadsAs row event) :
    event.sequence = row.sequence := by
  obtain ⟨record, stored, normalized⟩ := reads
  obtain ⟨payload, _, equal, _⟩ := auditEventFromMapping_eq_ok normalized
  rw [equal]
  change record.sequence = row.sequence
  exact sequence_of_row stored

theorem sequence_of_summary {event : AuditEventRecord} {summary : AuditReplayEventSummary} {includePayload : Bool}
    (summarized : summarizeAuditEvent event includePayload = .ok summary) : summary.sequence = event.sequence := by
  obtain ⟨payload, _, equal⟩ := bind_eq_ok.mp summarized
  rw [← Except.ok.inj equal]

theorem Shows.nil : Shows request [] [] :=
  ⟨[], List.Forall₂.nil, List.Forall₂.nil⟩

theorem Shows.append {first second : List AuditEventRow} {early late : List AuditReplayEventSummary}
    (before : Shows request first early) (after : Shows request second late) :
    Shows request (first ++ second) (early ++ late) := by
  obtain ⟨events, read, summarized⟩ := before
  obtain ⟨others, later, further⟩ := after
  refine ⟨events ++ others, rel_append read later, ?_⟩
  rw [filter_append]
  exact rel_append summarized further

variable {rows : List AuditEventRow}

/-- What is shown of rows in the order of their numbers is in that order too. -/
theorem Shows.increasing {yielded : List AuditReplayEventSummary}
    (shows : Shows request rows yielded) (increasing : Increasing (·.sequence) rows) : Increasing (·.sequence) yielded := by
  obtain ⟨events, read, summarized⟩ := shows
  have numbers : events.map (·.sequence) = rows.map (·.sequence) :=
    map_eq_of_related read fun row event reads => reads.sequence
  have kept : yielded.map (·.sequence) =
      (events.filter fun event => auditEventMatchesFilter event request.replayFilter).map (·.sequence) :=
    map_eq_of_related summarized fun event summary => sequence_of_summary
  have sorted : (events.map (·.sequence)).Pairwise (· < ·) := by
    rw [numbers, pairwise_map]
    exact increasing
  have included : (events.filter fun event => auditEventMatchesFilter event request.replayFilter).Sublist events :=
    filter_sublist
  have chosen := sorted.sublist (included.map (·.sequence))
  rw [← kept, pairwise_map] at chosen
  exact chosen

section Pages

/-- Rows are first read from the store and then read back by the verification. -/
theorem readsAs_of_stages {records events : List AuditEventRecord}
    (stored : List.Forall₂ (fun row record => rowToRecord row = .ok record) rows records)
    (read : List.Forall₂ (fun record event => auditEventFromMapping record = .ok event) records events) :
    List.Forall₂ ReadsAs rows events := by
  induction stored generalizing events with
  | nil =>
    cases read
    exact List.Forall₂.nil
  | @cons row record rest others head _ ih =>
    cases read with
    | cons first later => exact List.Forall₂.cons ⟨record, head, first⟩ (ih later)

variable {snapshot : AuditLedgerSnapshot} {previous : Option AuditEventRecord} {pageSize : Nat}

/-- A verified page reads back the next rows of the ledger. -/
theorem loadVerifiedPage_rows {events : List AuditEventRecord}
    (loaded : loadVerifiedPage ledger snapshot previous pageSize = .ok (events, none)) :
    List.Forall₂ ReadsAs
        ((rowsBetween (·.sequence) (sequenceOf previous) snapshot.lastSequence ledger.rows).take pageSize) events ∧
      (events = [] ∨ sequenceOf previous < sequenceOf events.getLast?) := by
  rw [loadVerifiedPage] at loaded
  cases page : ledger.loadPage (sequenceOf previous) snapshot.lastSequence pageSize with
  | error failure =>
    rw [page] at loaded
    cases loaded
  | ok records =>
    rw [page] at loaded
    dsimp only at loaded
    split at loaded
    · cases loaded
    · split at loaded
      · cases loaded
      · cases loaded
      · rename_i normalized lastEventHash verified
        split at loaded
        · cases loaded
        · obtain ⟨rfl, -⟩ := Prod.mk.inj (Except.ok.inj loaded)
          obtain ⟨read, ends⟩ := extension_valid verified
          refine ⟨?_, ends⟩
          obtain ⟨_, _, rest⟩ := bind_eq_ok.mp page
          obtain ⟨_, _, collected⟩ := bind_eq_ok.mp rest
          have stored := collect_eq_ok.mp collected
          exact readsAs_of_stages stored read

end Pages

/-- What a page yields before it is done or raises. -/
theorem yieldMatching_spec (events : List AuditEventRecord) : ∃ done, done <+: events ∧
      List.Forall₂ (fun event summary => summarizeAuditEvent event request.includePayload = .ok summary)
        (done.filter fun event => auditEventMatchesFilter event request.replayFilter)
        (yieldMatching request.replayFilter request.includePayload events).1 ∧
      ((yieldMatching request.replayFilter request.includePayload events).2 = none → done = events) := by
  induction events with
  | nil => exact ⟨[], prefix_rfl, List.Forall₂.nil, fun _ => rfl⟩
  | cons event rest ih =>
    obtain ⟨done, begins, summarized, whole⟩ := ih
    rw [yieldMatching]
    by_cases matched : auditEventMatchesFilter event request.replayFilter = true
    · rw [if_pos matched]
      cases summary : summarizeAuditEvent event request.includePayload with
      | error failure => exact ⟨[], nil_prefix, List.Forall₂.nil, fun finished => by cases finished⟩
      | ok shown =>
        refine ⟨event :: done, cons_prefix_cons.mpr ⟨rfl, begins⟩, ?_, fun finished => ?_⟩
        · rw [filter_cons, if_pos matched]
          exact List.Forall₂.cons summary summarized
        · rw [whole finished]
    · rw [if_neg matched]
      refine ⟨event :: done, cons_prefix_cons.mpr ⟨rfl, begins⟩, ?_, fun finished => ?_⟩
      · rw [filter_cons, if_neg matched]
        exact summarized
      · rw [whole finished]

/-- The number of the last row that has been shown, or zero before the first one. -/
def lastNumber (shown : List AuditEventRow) : Int :=
  match shown.getLast? with
  | none => 0
  | some row => row.sequence

theorem lastNumber_of_events {events : List AuditEventRecord}
    (read : List.Forall₂ ReadsAs rows events) : sequenceOf events.getLast? = lastNumber rows := by
  have ends := getLast?_rel read
  rw [lastNumber]
  generalize rows.getLast? = row at ends ⊢
  generalize events.getLast? = event at ends ⊢
  cases ends with
  | none => rfl
  | some reads => exact reads.sequence

omit [Interpreter] in
theorem lastNumber_append {page : List AuditEventRow} (filled : page ≠ []) : lastNumber (shown ++ page) = lastNumber page := by
  rw [lastNumber, lastNumber, getLast?_append, getLast?_eq_some_getLast filled, Option.some_or]

omit [Interpreter] in
/-- The rows that are left are the ones between the last one shown and the end of the frozen ledger. -/
theorem rowsBetween_remaining {lastSequence : Int} (freezes : frozen.Frozen lastSequence)
    (parts : frozen.inOrder = shown ++ remaining) :
    rowsBetween (·.sequence) (lastNumber shown) lastSequence frozen.rows = remaining := by
  have below : ∀ row ∈ frozen.rows, row.sequence ≤ lastSequence := by
    rcases freezes with ⟨empty, _⟩ | ⟨_, _, _, below⟩
    · rw [empty]
      simp
    · exact below
  cases ends : shown.getLast? with
  | none =>
    rw [getLast?_eq_none_iff] at ends
    subst ends
    rw [← nil_append remaining, ← parts]
    exact rowsBetween_all (fun row member => frozen.positive row member) below
  | some last =>
    have number : lastNumber shown = last.sequence := by rw [lastNumber, ends]
    rw [number]
    exact rowsBetween_after frozen.keyed parts ends below

/-- A part of the frozen ledger has been shown, and the next page is read after it. -/
def Progress (request : ReplayRequest) (frozen : AuditLedger) (stream : ReplayStream) : Prop :=
  ∃ shown remaining, frozen.inOrder = shown ++ remaining ∧ Shows request shown stream.yielded ∧
    sequenceOf stream.previous = lastNumber shown

/-- What is known of a replay of a frozen ledger. -/
def ReplayPhase.Faithful (request : ReplayRequest) (frozen : AuditLedger) : ReplayPhase → Prop
  | .scanning snapshot _ _ => frozen.Frozen snapshot.lastSequence
  | .scanned scan => ∀ totalEvents lastEventHash replayFilter, scan.report = .valid totalEvents lastEventHash replayFilter →
      frozen.Frozen scan.snapshot.lastSequence ∧ replayFilter = request.replayFilter
  | .streaming scan replayFilter stream =>
    frozen.Frozen scan.snapshot.lastSequence ∧ replayFilter = request.replayFilter ∧ Progress request frozen stream
  | .completed yielded => Shows request frozen.inOrder yielded
  | .raised _ yielded => ∃ rows, rows <+: frozen.inOrder ∧ Shows request rows yielded

/-- A page of the grown ledger shows the next rows of the frozen one. -/
theorem page_of_frozen {snapshot : AuditLedgerSnapshot} {previous : Option AuditEventRecord} {pageSize : Nat}
    {events : List AuditEventRecord} (grown : frozen.Grows ledger) (freezes : frozen.Frozen snapshot.lastSequence)
    (parts : frozen.inOrder = shown ++ remaining) (reached : sequenceOf previous = lastNumber shown)
    (unfinished : sequenceOf previous < snapshot.lastSequence) (nonnegative : 0 ≤ sequenceOf previous)
    (loaded : loadVerifiedPage ledger snapshot previous pageSize = .ok (events, none)) :
    List.Forall₂ ReadsAs (remaining.take pageSize) events := by
  have read := (loadVerifiedPage_rows loaded).1
  rw [AuditLedger.rowsBetween_frozen freezes grown (by omega), reached, rowsBetween_remaining freezes parts] at read
  exact read

omit [Interpreter] in
theorem lastNumber_nonneg (parts : frozen.inOrder = shown ++ remaining) : 0 ≤ lastNumber shown := by
  rw [lastNumber]
  cases ends : shown.getLast? with
  | none => exact le_rfl
  | some last =>
    have inside : last ∈ frozen.inOrder := by
      rw [parts]
      exact mem_append_left remaining (mem_of_getLast? ends)
    have positive := frozen.positive last (mem_sortBy.mp inside)
    exact (zero_le_one).trans positive

omit [Interpreter] in
/-- Nothing is left once the last number of the frozen ledger has been reached. -/
theorem remaining_nil {lastSequence : Int} (freezes : frozen.Frozen lastSequence)
    (parts : frozen.inOrder = shown ++ remaining) (reached : lastSequence ≤ lastNumber shown) : remaining = [] := by
  rw [← rowsBetween_remaining freezes parts, rowsBetween]
  have none : (frozen.rows.filter fun row => decide (lastNumber shown < row.sequence ∧ row.sequence ≤ lastSequence)) = [] := by
    refine filter_eq_nil_iff.mpr fun row member inside => ?_
    have := of_decide_eq_true inside
    omega
  rw [none]
  rfl

theorem openScan_faithful : (openScan request frozen).Faithful request frozen := by
  have nothing : ∃ rows, rows <+: frozen.inOrder ∧ Shows request rows [] := ⟨[], nil_prefix, Shows.nil⟩
  rw [openScan]
  split
  · exact nothing
  · split
    · exact nothing
    · rename_i snapshot read
      obtain ⟨maximum, _⟩ := AuditLedger.snapshot_eq_ok read
      split
      · intro totalEvents lastEventHash replayFilter valid
        cases valid
      · rename_i consistent
        rw [snapshotInconsistency] at consistent
        have equal := not_not.mp fun different => by
          rw [if_pos different] at consistent
          cases consistent
        exact AuditLedger.frozen_of_maximum (maximum ▸ equal)

theorem scanTurn_faithful {snapshot : AuditLedgerSnapshot} {previous : Option AuditEventRecord} {matchedEventCount : Nat}
    (freezes : frozen.Frozen snapshot.lastSequence) :
    (scanTurn request ledger snapshot previous matchedEventCount).Faithful request frozen := by
  rw [scanTurn]
  split
  · split
    · exact ⟨[], nil_prefix, Shows.nil⟩
    · intro totalEvents lastEventHash replayFilter valid
      cases valid
    · intro totalEvents lastEventHash replayFilter valid
      cases valid
    · exact freezes
  · split
    · intro totalEvents lastEventHash replayFilter valid
      cases valid
    · intro totalEvents lastEventHash replayFilter valid
      dsimp only at valid
      rw [verifiedReport] at valid
      split at valid
      · cases valid
      · injection valid with _ _ same
        exact ⟨freezes, same.symm⟩

theorem openStream_faithful {scan : AuditReplayScan} (known : (ReplayPhase.scanned scan).Faithful request frozen) :
    (openStream request scan).Faithful request frozen := by
  have nothing : ∃ rows, rows <+: frozen.inOrder ∧ Shows request rows [] := ⟨[], nil_prefix, Shows.nil⟩
  rw [openStream]
  split
  · exact nothing
  · split
    · rename_i totalEvents lastEventHash replayFilter valid
      obtain ⟨freezes, same⟩ := known totalEvents lastEventHash replayFilter valid
      exact ⟨freezes, same, [], frozen.inOrder, rfl, Shows.nil, rfl⟩
    · exact nothing
    · exact nothing

/-- A turn of the iterator shows more of the frozen ledger, or ends. -/
theorem streamTurn_faithful {scan : AuditReplayScan} {replayFilter : AuditReplayFilter} {stream : ReplayStream}
    (grown : frozen.Grows ledger) (known : (ReplayPhase.streaming scan replayFilter stream).Faithful request frozen) :
    (streamTurn request ledger scan replayFilter stream).Faithful request frozen := by
  obtain ⟨freezes, rfl, shown, remaining, parts, shows, reached⟩ := known
  have begun : ∃ rows, rows <+: frozen.inOrder ∧ Shows request rows stream.yielded :=
    ⟨shown, ⟨remaining, parts.symm⟩, shows⟩
  have nonnegative : 0 ≤ sequenceOf stream.previous := reached ▸ lastNumber_nonneg parts
  rw [streamTurn]
  split
  · rename_i unfinished
    split
    · exact begun
    · exact begun
    · exact begun
    · rename_i event rest loaded
      have read := page_of_frozen grown freezes parts reached unfinished nonnegative loaded
      obtain ⟨done, begins, summarized, whole⟩ := @yieldMatching_spec _ request (event :: rest)
      have advanced : frozen.inOrder = shown ++ remaining.take request.outputPageSize ++
          remaining.drop request.outputPageSize := by
        rw [append_assoc, take_append_drop, parts]
      split
      · rename_i summaries failure yields
        rw [yields] at summarized
        rw [prefix_iff_eq_take] at begins
        have part := forall₂_take done.length read
        rw [← begins] at part
        refine ⟨shown ++ (remaining.take request.outputPageSize).take done.length, ?_, shows.append ⟨done, part, summarized⟩⟩
        rw [advanced, append_assoc, prefix_append_right_inj]
        exact (List.take_prefix _ _).trans (prefix_append _ _)
      · rename_i summaries yields
        rw [yields] at summarized whole
        rw [whole rfl] at summarized
        refine ⟨freezes, rfl, shown ++ remaining.take request.outputPageSize, remaining.drop request.outputPageSize,
          advanced, shows.append ⟨event :: rest, read, summarized⟩, ?_⟩
        change sequenceOf (event :: rest).getLast? = lastNumber (shown ++ remaining.take request.outputPageSize)
        rw [lastNumber_of_events read, lastNumber_append]
        intro empty
        rw [empty] at read
        cases read
  · rename_i finished
    split
    · exact begun
    · have nothing := remaining_nil freezes parts (by omega)
      rw [nothing, append_nil] at parts
      change Shows request frozen.inOrder stream.yielded
      rw [parts]
      exact shows

variable {phase : ReplayPhase}

theorem turn_faithful (grown : frozen.Grows ledger) (known : phase.Faithful request frozen) :
    (phase.turn request ledger).Faithful request frozen := by
  cases phase with
  | scanning snapshot previous matchedEventCount => exact scanTurn_faithful known
  | scanned scan => exact openStream_faithful known
  | streaming scan replayFilter stream => exact streamTurn_faithful grown known
  | completed yielded => exact known
  | raised error yielded => exact known

/-- In every phase the beginning of the frozen ledger has been shown. -/
theorem ReplayPhase.Faithful.begins (known : phase.Faithful request frozen) :
    ∃ rows, rows <+: frozen.inOrder ∧ Shows request rows phase.yielded := by
  cases phase with
  | scanning snapshot previous matchedEventCount => exact ⟨[], nil_prefix, Shows.nil⟩
  | scanned scan => exact ⟨[], nil_prefix, Shows.nil⟩
  | streaming scan replayFilter stream =>
    obtain ⟨_, _, shown, remaining, parts, shows, _⟩ := known
    exact ⟨shown, ⟨remaining, parts.symm⟩, shows⟩
  | completed yielded => exact ⟨frozen.inOrder, prefix_rfl, known⟩
  | raised error yielded => exact known

section Ending

/-- The most turns that a replay still takes. -/
def ReplayPhase.turnsLeft : ReplayPhase → Nat
  | .scanning snapshot previous _ =>
    (snapshot.lastSequence - sequenceOf previous).toNat + snapshot.lastSequence.toNat + 4
  | .scanned scan => scan.snapshot.lastSequence.toNat + 3
  | .streaming scan _ stream => (scan.snapshot.lastSequence - sequenceOf stream.previous).toNat + 1
  | .completed _ => 0
  | .raised _ _ => 0

/-- Every turn of a replay that has not ended brings its end nearer. -/
theorem turnsLeft_turn (running : ¬ phase.Finished) (ledger : AuditLedger) :
    (phase.turn request ledger).turnsLeft < phase.turnsLeft := by
  cases phase with
  | scanning snapshot previous matchedEventCount =>
    change (scanTurn request ledger snapshot previous matchedEventCount).turnsLeft < _
    rw [scanTurn]
    split
    · rename_i unfinished
      split
      · simp only [turnsLeft]
        omega
      · simp only [turnsLeft, invalidScan]
        omega
      · simp only [turnsLeft, invalidScan]
        omega
      · rename_i event rest loaded
        have further := (loadVerifiedPage_rows loaded).2.resolve_left (cons_ne_nil event rest)
        simp only [turnsLeft]
        omega
    · split
      · simp only [turnsLeft, invalidScan]
        omega
      · simp only [turnsLeft]
        omega
  | scanned scan =>
    change (openStream request scan).turnsLeft < _
    rw [openStream]
    split
    · simp only [turnsLeft]
      omega
    · split
      · simp only [turnsLeft, sequenceOf]
        omega
      · simp only [turnsLeft]
        omega
      · simp only [turnsLeft]
        omega
  | streaming scan replayFilter stream =>
    change (streamTurn request ledger scan replayFilter stream).turnsLeft < _
    rw [streamTurn]
    split
    · rename_i unfinished
      split
      · simp only [turnsLeft]
        omega
      · simp only [turnsLeft]
        omega
      · simp only [turnsLeft]
        omega
      · rename_i event rest loaded
        have further := (loadVerifiedPage_rows loaded).2.resolve_left (cons_ne_nil event rest)
        split
        · simp only [turnsLeft]
          omega
        · simp only [turnsLeft]
          omega
    · split
      · simp only [turnsLeft]
        omega
      · simp only [turnsLeft]
        omega
  | completed yielded => exact absurd trivial running
  | raised error yielded => exact absurd trivial running

omit [Interpreter] in
theorem finished_of_turnsLeft (none : phase.turnsLeft = 0) : phase.Finished := by
  cases phase with
  | completed yielded => trivial
  | raised error yielded => trivial
  | scanning snapshot previous matchedEventCount =>
    simp only [turnsLeft] at none
    omega
  | scanned scan =>
    simp only [turnsLeft] at none
    omega
  | streaming scan replayFilter stream =>
    simp only [turnsLeft] at none
    omega

end Ending

/-- The run of a replay from the moment that its snapshot has been read. -/
def ReplayRun (request : ReplayRequest) (frozen : AuditLedger) (system : ReplaySystem) : Prop :=
  Relation.ReflTransGen (ReplayStep request) ⟨frozen, openScan request frozen, 0⟩ system

/-- What holds after every step of a run. -/
structure RunInvariant (request : ReplayRequest) (frozen : AuditLedger) (system : ReplaySystem) : Prop where
  grown : frozen.Grows system.ledger
  faithful : system.phase.Faithful request frozen
  ends : system.phase.Finished ∨ system.turns + system.phase.turnsLeft ≤ (openScan request frozen).turnsLeft

theorem RunInvariant.step {system next : ReplaySystem} (known : RunInvariant request frozen system)
    (stepped : ReplayStep request system next) : RunInvariant request frozen next := by
  cases stepped with
  | append grown => exact ⟨known.grown.trans grown, known.faithful, known.ends⟩
  | turn =>
    rename_i ledger phase turns
    refine ⟨known.grown, turn_faithful known.grown known.faithful, ?_⟩
    by_cases finished : phase.Finished
    · refine .inl ?_
      cases phase <;> first | exact finished | exact absurd finished id
    · have left : turns + phase.turnsLeft ≤ _ := known.ends.resolve_left finished
      have nearer := @turnsLeft_turn _ request phase finished ledger
      refine .inr ?_
      change turns + 1 + (phase.turn request ledger).turnsLeft ≤ _
      omega
  | unavailable message running => exact ⟨known.grown, known.faithful.begins, .inl trivial⟩

theorem RunInvariant.run {system : ReplaySystem} (run : ReplayRun request frozen system) :
    RunInvariant request frozen system := by
  induction run with
  | refl => exact ⟨Extends.refl _, openScan_faithful, .inr (by simp)⟩
  | tail _ stepped ih => exact ih.step stepped

/-- Whatever is appended meanwhile, a replay yields a beginning of what its frozen ledger shows, in the order of the
events and each once; it ends, and when it completes it has yielded all of it. -/
theorem iterVerifiedReplayEvents_exact {system : ReplaySystem} (run : ReplayRun request frozen system) :
    (∃ rows, rows <+: frozen.inOrder ∧ Shows request rows system.phase.yielded) ∧
      Increasing (·.sequence) system.phase.yielded ∧
      (∀ yielded, system.phase = .completed yielded → Shows request frozen.inOrder yielded) ∧
      ((openScan request frozen).turnsLeft ≤ system.turns → system.phase.Finished) := by
  have known := RunInvariant.run run
  have begins := known.faithful.begins
  obtain ⟨rows, begun, shows⟩ := begins
  refine ⟨⟨rows, begun, shows⟩, ?_, ?_, ?_⟩
  · exact shows.increasing (frozen.inOrder_increasing.sublist begun.sublist)
  · intro yielded completed
    have faithful := known.faithful
    rw [completed] at faithful
    exact faithful
  · intro late
    rcases known.ends with finished | soon
    · exact finished
    · exact finished_of_turnsLeft (by omega)

end Runs

/-- A replay of a ledger that stays as it is goes on turn by turn. -/
theorem ReplayRun.turns [Interpreter] {request : ReplayRequest} {frozen ledger : AuditLedger} {phase : ReplayPhase} {turns : Nat}
    (run : ReplayRun request frozen ⟨ledger, phase, turns⟩) (count : Nat) :
    ReplayRun request frozen ⟨ledger, (ReplayPhase.turn request ledger)^[count] phase, turns + count⟩ := by
  induction count with
  | zero => exact run
  | succ count ih =>
    rw [Function.iterate_succ_apply']
    exact ih.tail .turn

namespace Sample

@[reducible] def interpreter : Interpreter :=
  ⟨1000⟩

/-- The events of one subject are asked for, one on a page. -/
def ofSubject : ReplayRequest :=
  ⟨.subject (ascii "observation") (ascii "subject"), 1, true, 1⟩

/-- The next event of a chain. -/
def chained (previous : Option AuditEventRow) (subjectId key : Text) : Py AuditEventRow := do
  let input : AuditEventInput :=
    { idempotencyKey := key
      installationId := some 1
      repositoryId := some 1
      subjectType := ascii "observation"
      subjectId := subjectId
      eventType := ascii "observed"
      createdAt := ascii "2026-07-15T00:00:00.000Z"
      actor := ascii "operator"
      payload := .obj [(ascii "key", .str key)] }
  let payloadHash ← hashObject input.payload
  let inputHash ← auditInputHash input payloadHash
  let record : AuditEventRecord :=
    { input with
      schemaVersion := auditEventSchemaVersion
      auditEventId := []
      sequence := sequenceOf (previous.map (·.toAuditEventRecord)) + 1
      previousEventHash := previous.map (·.eventHash)
      payloadHash := payloadHash
      inputHash := inputHash
      eventHash := [] }
  let eventHash ← auditEventHash record
  return { record with
    eventHash := eventHash
    auditEventId := ascii "audit_" ++ eventHash.take 32
    idempotencyKeyDigest := sha256Hex key.utf8 }

/-- A ledger of events with numbers of their own, whose head is the last of them. -/
def ledgerOf (rows : List AuditEventRow) : Py AuditLedger :=
  if sound : (rows.map fun row => row.sequence).Nodup ∧ ∀ row ∈ rows, 1 ≤ row.sequence then
    .ok ⟨rows, some ⟨rows.length, rows.getLast?.map (·.sequence), rows.getLast?.map (·.eventHash)⟩, by exact sound.1, sound.2⟩
  else .error .keyError

structure Export where
  frozen : AuditLedger
  grown : AuditLedger
  phase : ReplayPhase

/-- A third event is appended after the first page of the scan. -/
def exported : Py Export := do
  let first ← chained none (ascii "subject") (ascii "first")
  let second ← chained (some first) (ascii "other") (ascii "second")
  let third ← chained (some second) (ascii "subject") (ascii "third")
  let frozen ← ledgerOf [first, second]
  let grown ← ledgerOf [first, second, third]
  let scanned := @ReplayPhase.turn interpreter ofSubject frozen (openScan ofSubject frozen)
  return ⟨frozen, grown, (@ReplayPhase.turn interpreter ofSubject grown)^[6] scanned⟩

/-- The numbers of the events that a completed replay has yielded. -/
def completedNumbers : ReplayPhase → Option (List Int)
  | .completed yielded => some (yielded.map (·.sequence))
  | _ => none

theorem exported_returns : exported.toOption.map (fun replay => (replay.grown.rows.map (·.sequence),
    completedNumbers replay.phase)) = some ([1, 2, 3], some [1]) := by
  decide +kernel

theorem ledgerOf_rows {rows : List AuditEventRow} {ledger : AuditLedger} (made : ledgerOf rows = .ok ledger) :
    ledger.rows = rows := by
  unfold ledgerOf at made
  split at made
  · cases made
    rfl
  · cases made

theorem exported_run {replay : Export} (computed : exported = .ok replay)
    (numbers : replay.grown.rows.map (·.sequence) = [1, 2, 3]) :
    @ReplayRun interpreter ofSubject replay.frozen ⟨replay.grown, replay.phase, 7⟩ := by
  simp only [exported, bind_eq_ok, pure_eq_ok_iff] at computed
  obtain ⟨first, _, second, _, third, _, frozen, starts, grown, ends, rfl⟩ := computed
  have grows : frozen.Grows grown := by
    refine ⟨[third], by rw [ledgerOf_rows ends, ledgerOf_rows starts]; rfl, ?_⟩
    simp only [ledgerOf_rows ends, map_cons, map_nil, cons.injEq, and_true] at numbers
    simp only [ledgerOf_rows starts, mem_cons, not_mem_nil, or_false, forall_eq, forall_eq_or_imp]
    omega
  have opened : @ReplayRun interpreter ofSubject frozen ⟨frozen, openScan ofSubject frozen, 0⟩ := .refl
  have scanned := opened.tail (@ReplayStep.turn interpreter _ _ _ _)
  have appended := scanned.tail (@ReplayStep.append interpreter _ _ _ _ _ grows)
  exact @ReplayRun.turns interpreter _ _ _ _ _ appended 6

end Sample

/-- The event of the subject is yielded, and the one that is appended during the scan is not. -/
theorem iterVerifiedReplayEvents_exported : ∃ (replay : Sample.Export) (yielded : List AuditReplayEventSummary),
    replay.grown.rows.map (·.sequence) = [1, 2, 3] ∧ replay.phase = .completed yielded ∧
      yielded.map (·.sequence) = [1] ∧ @Shows Sample.interpreter Sample.ofSubject replay.frozen.inOrder yielded := by
  obtain ⟨replay, computed, summary⟩ := eq_ok_of_map_toOption Sample.exported_returns
  obtain ⟨numbers, completed⟩ := Prod.mk.inj summary
  have run := Sample.exported_run computed numbers
  cases ends : replay.phase with
  | completed yielded =>
    rw [ends] at completed
    exact ⟨replay, yielded, numbers, ends, Option.some.inj completed,
      (@iterVerifiedReplayEvents_exact Sample.interpreter _ _ _ run).2.2.1 yielded ends⟩
  | scanning snapshot previous count => rw [ends] at completed; cases completed
  | scanned scan => rw [ends] at completed; cases completed
  | streaming scan replayFilter stream => rw [ends] at completed; cases completed
  | raised error yielded => rw [ends] at completed; cases completed

end CiCoordinator.AuditReplay

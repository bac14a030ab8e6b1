import CiCoordinator.Persistence.AuditLedger

/- The paged scan of a frozen ledger and the export that reads it a second time. -/

namespace CiCoordinator.AuditReplay

open Library Kernel Persistence

inductive AuditReplayFilter where
  | all
  | subject (subjectType subjectId : Text)
  | auditEvent (auditEventId : Text)
  deriving DecidableEq

structure AuditReplayEventSummary where
  auditEventId : Text
  sequence : Int
  subjectType : Text
  subjectId : Text
  eventType : Text
  createdAt : Text
  actor : Text
  payloadHash : Text
  inputHash : Text
  previousEventHash : Option Text
  eventHash : Text
  payload : Option Json
  payloadIncluded : Bool

inductive AuditReplayResult where
  | valid (totalEvents : Int) (lastEventHash : Option Text) (replayFilter : AuditReplayFilter)
  | invalidLedger (totalEvents : Int) (failure : InvalidAuditChain) (replayFilter : AuditReplayFilter)
  | notFound (totalEvents : Int) (lastEventHash : Option Text) (replayFilter : AuditReplayFilter)

structure AuditReplayScan where
  snapshot : AuditLedgerSnapshot
  report : AuditReplayResult
  matchedEventCount : Nat
  lastEvent : Option AuditEventRecord

/-- What ends a scan or an export early. -/
inductive AuditReplayError where
  | valueError (message : Text)
  | snapshotChanged (message : Text)
  | store (error : AuditStoreError)
  | reading (error : AuditRaise)
  deriving DecidableEq

def auditEventMatchesFilter (event : AuditEventRecord) : AuditReplayFilter → Bool
  | .all => true
  | .subject subjectType subjectId => decide (event.subjectType = subjectType ∧ event.subjectId = subjectId)
  | .auditEvent auditEventId => decide (event.auditEventId = auditEventId)

/-- The payload of an event, when it is asked for. -/
def summaryPayload [Interpreter] (event : AuditEventRecord) (includePayload : Bool) : Audit (Option Json) := do
  if includePayload then
    let payload ← snapshotJsonValue event.payload
    return some payload
  else return none

def summarizeAuditEvent [Interpreter] (event : AuditEventRecord) (includePayload : Bool) : Audit AuditReplayEventSummary := do
  let payload ← summaryPayload event includePayload
  return {
    auditEventId := event.auditEventId
    sequence := event.sequence
    subjectType := event.subjectType
    subjectId := event.subjectId
    eventType := event.eventType
    createdAt := event.createdAt
    actor := event.actor
    payloadHash := event.payloadHash
    inputHash := event.inputHash
    previousEventHash := event.previousEventHash
    eventHash := event.eventHash
    payload := payload
    payloadIncluded := includePayload }

variable (snapshot : AuditLedgerSnapshot)

def snapshotInconsistency : Option Text :=
  if snapshot.maximumSequence ≠ (if snapshot.lastSequence = 0 then none else some snapshot.lastSequence) then
    some (ascii "audit ledger head does not match the maximum stored sequence")
  else none

/-- A page is read from the ledger as it is, and verified against the event before it. -/
def loadVerifiedPage [Interpreter] (ledger : AuditLedger) (snapshot : AuditLedgerSnapshot)
    (previous : Option AuditEventRecord) (pageSize : Nat) :
    Except AuditReplayError (List AuditEventRecord × Option InvalidAuditChain) :=
  match ledger.loadPage (sequenceOf previous) snapshot.lastSequence pageSize with
  | .error error => .error (.store error)
  | .ok page =>
    if pageSize < page.length then
      .ok ([], some { reason := ascii "audit repository returned an oversized replay page", auditEventId := none })
    else
      match normalizeAndVerifyAuditChainExtension previous page with
      | .error error => .error (.reading (.host error))
      | .ok (normalized, .invalid failure) => .ok (normalized, some failure)
      | .ok (normalized, .valid _) =>
        if snapshot.lastSequence < sequenceOf normalized.getLast? then
          .ok (normalized, some {
            reason := ascii "audit repository returned an event beyond the frozen head"
            auditEventId := normalized.getLast?.map (·.auditEventId) })
        else .ok (normalized, none)

/-- What is asked of a scan and of the export that follows it. -/
structure ReplayRequest where
  replayFilter : AuditReplayFilter
  scanPageSize : Nat
  includePayload : Bool
  outputPageSize : Nat

/-- The locals of the iterator, with what it has yielded. -/
structure ReplayStream where
  previous : Option AuditEventRecord
  yielded : List AuditReplayEventSummary

/-- Where a replay stands between two of its turns. -/
inductive ReplayPhase where
  | scanning (snapshot : AuditLedgerSnapshot) (previous : Option AuditEventRecord) (matchedEventCount : Nat)
  | scanned (scan : AuditReplayScan)
  | streaming (scan : AuditReplayScan) (replayFilter : AuditReplayFilter) (stream : ReplayStream)
  | completed (yielded : List AuditReplayEventSummary)
  | raised (error : AuditReplayError) (yielded : List AuditReplayEventSummary)

def requirePageSize (value : Nat) : Except AuditReplayError Unit :=
  raiseIf (¬ (1 ≤ value ∧ value ≤ auditReplayPageSize))
    (.valueError (ascii "audit replay page size must be between 1 and " ++ decimal auditReplayPageSize))

variable (replayFilter : AuditReplayFilter)

def invalidScan (failure : InvalidAuditChain) :
    AuditReplayScan :=
  ⟨snapshot, .invalidLedger snapshot.lastSequence failure replayFilter, 0, none⟩

/-- The report of a scan that has verified the whole ledger. -/
def verifiedReport (matchedEventCount : Nat) :
    AuditReplayResult :=
  if replayFilter ≠ .all ∧ matchedEventCount = 0 then
    .notFound snapshot.lastSequence snapshot.lastEventHash replayFilter
  else .valid snapshot.lastSequence snapshot.lastEventHash replayFilter

variable (request : ReplayRequest) (ledger : AuditLedger)

/-- A scan begins with the snapshot that it freezes. -/
def openScan : ReplayPhase :=
  match requirePageSize request.scanPageSize with
  | .error error => .raised error []
  | .ok () =>
    match ledger.snapshot with
    | .error error => .raised (.store error) []
    | .ok snapshot =>
      match snapshotInconsistency snapshot with
      | some reason =>
        .scanned (invalidScan snapshot request.replayFilter { reason := reason, auditEventId := none })
      | none => .scanning snapshot none 0

variable [Interpreter]

/-- One turn of the scan reads one page, or compares the head with the last event. -/
def scanTurn (snapshot : AuditLedgerSnapshot)
    (previous : Option AuditEventRecord) (matchedEventCount : Nat) : ReplayPhase :=
  if sequenceOf previous < snapshot.lastSequence then
    match loadVerifiedPage ledger snapshot previous request.scanPageSize with
    | .error error => .raised error []
    | .ok (_, some failure) => .scanned (invalidScan snapshot request.replayFilter failure)
    | .ok ([], none) => .scanned (invalidScan snapshot request.replayFilter {
        reason := ascii "audit ledger ended before the frozen head sequence"
        auditEventId := none })
    | .ok (event :: rest, none) =>
      .scanning snapshot (event :: rest).getLast?
        (matchedEventCount + (event :: rest).countP fun event => auditEventMatchesFilter event request.replayFilter)
  else if previous.map (·.eventHash) ≠ snapshot.lastEventHash then
    .scanned (invalidScan snapshot request.replayFilter {
      reason := ascii "audit ledger head hash does not match the verified chain"
      auditEventId := none })
  else .scanned ⟨snapshot, verifiedReport snapshot request.replayFilter matchedEventCount, matchedEventCount, previous⟩

/-- The iterator begins only with a valid scan. -/
def openStream (scan : AuditReplayScan) : ReplayPhase :=
  match requirePageSize request.outputPageSize with
  | .error error => .raised error []
  | .ok () =>
    match scan.report with
    | .valid _ _ replayFilter => .streaming scan replayFilter ⟨none, []⟩
    | .invalidLedger _ _ _ => .raised (.valueError (ascii "only a valid audit replay scan can be streamed")) []
    | .notFound _ _ _ => .raised (.valueError (ascii "only a valid audit replay scan can be streamed")) []

/-- The matching events of a page are yielded one after the other; a payload that cannot be read ends the export. -/
def yieldMatching (replayFilter : AuditReplayFilter) (includePayload : Bool) :
    List AuditEventRecord → List AuditReplayEventSummary × Option AuditRaise
  | [] => ([], none)
  | event :: rest =>
    if auditEventMatchesFilter event replayFilter then
      match summarizeAuditEvent event includePayload with
      | .error error => ([], some error)
      | .ok summary =>
        let (later, failure) := yieldMatching replayFilter includePayload rest
        (summary :: later, failure)
    else yieldMatching replayFilter includePayload rest

def snapshotChanged : AuditReplayError :=
  .snapshotChanged (ascii "verified audit ledger epoch changed before replay output completed")

/-- One turn of the iterator yields the events of one page, or compares the head and the count at the end. -/
def streamTurn (scan : AuditReplayScan) (replayFilter : AuditReplayFilter) (stream : ReplayStream) : ReplayPhase :=
  if sequenceOf stream.previous < scan.snapshot.lastSequence then
    match loadVerifiedPage ledger scan.snapshot stream.previous request.outputPageSize with
    | .error error => .raised error stream.yielded
    | .ok (_, some _) => .raised snapshotChanged stream.yielded
    | .ok ([], none) => .raised snapshotChanged stream.yielded
    | .ok (event :: rest, none) =>
      match yieldMatching replayFilter request.includePayload (event :: rest) with
      | (summaries, some error) => .raised (.reading error) (stream.yielded ++ summaries)
      | (summaries, none) => .streaming scan replayFilter ⟨(event :: rest).getLast?, stream.yielded ++ summaries⟩
  else if stream.previous.map (·.eventHash) ≠ scan.snapshot.lastEventHash ∨
      stream.yielded.length ≠ scan.matchedEventCount then
    .raised snapshotChanged stream.yielded
  else .completed stream.yielded

namespace ReplayPhase

/-- One turn of a replay, on the ledger as it is then. -/
def turn (request : ReplayRequest) (ledger : AuditLedger) : ReplayPhase → ReplayPhase
  | .scanning snapshot previous matchedEventCount => scanTurn request ledger snapshot previous matchedEventCount
  | .scanned scan => openStream request scan
  | .streaming scan replayFilter stream => streamTurn request ledger scan replayFilter stream
  | .completed yielded => .completed yielded
  | .raised error yielded => .raised error yielded

def yielded : ReplayPhase → List AuditReplayEventSummary
  | .scanning _ _ _ => []
  | .scanned _ => []
  | .streaming _ _ stream => stream.yielded
  | .completed yielded => yielded
  | .raised _ yielded => yielded

def Finished : ReplayPhase → Prop
  | .completed _ => True
  | .raised _ _ => True
  | _ => False

end ReplayPhase

/-- A replay next to its ledger, with the number of turns that it has taken. -/
structure ReplaySystem where
  ledger : AuditLedger
  phase : ReplayPhase
  turns : Nat

/-- Between the turns of a replay the ledger grows; a read can find the store unavailable. -/
inductive ReplayStep (request : ReplayRequest) : ReplaySystem → ReplaySystem → Prop where
  | append {ledger later : AuditLedger} {phase : ReplayPhase} {turns : Nat} (grown : ledger.Grows later) :
      ReplayStep request ⟨ledger, phase, turns⟩ ⟨later, phase, turns⟩
  | turn {ledger : AuditLedger} {phase : ReplayPhase} {turns : Nat} :
      ReplayStep request ⟨ledger, phase, turns⟩ ⟨ledger, phase.turn request ledger, turns + 1⟩
  | unavailable {ledger : AuditLedger} {phase : ReplayPhase} {turns : Nat} (message : Text) (running : ¬ phase.Finished) :
      ReplayStep request ⟨ledger, phase, turns⟩
        ⟨ledger, .raised (.store (.storeUnavailable message)) phase.yielded, turns + 1⟩

end CiCoordinator.AuditReplay

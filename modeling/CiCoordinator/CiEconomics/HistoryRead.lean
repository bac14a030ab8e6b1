import CiCoordinator.CiEconomics.HistoryGap
import CiCoordinator.Kernel.CanonicalInjectivity
import CiCoordinator.Library.Base64
import CiCoordinator.Library.Timestamp

/- The queries of an archive and the signed cursors that continue their pages. -/

namespace CiCoordinator.CiEconomics

open Library Kernel ConfigControl List

def maxHistoryReadPage : Nat :=
  50

inductive HistoryReadKind where
  | records
  | jobs
  | gaps
  deriving DecidableEq

def HistoryReadKind.text : HistoryReadKind → Text
  | .records => ascii "records"
  | .jobs => ascii "jobs"
  | .gaps => ascii "gaps"

/-- A timestamp is given as a text and stands for an instant. -/
structure ObservationTimestamp where
  text : Text
  instant : Instant
  read : readTimestamp text = some instant
  deriving DecidableEq

structure HistoryReadQueryFields where
  scope : RepositoryScope
  generation : Int
  kind : HistoryReadKind
  limit : Nat
  createdFrom : Option ObservationTimestamp
  createdThrough : Option ObservationTimestamp
  workflowId : Option Int
  workflowRunId : Option Int
  runAttempt : Option Int
  jobName : Option Text
  deriving DecidableEq

/-- What the payload model of a query checks. -/
structure HistoryReadQueryFields.Admitted (self : HistoryReadQueryFields) : Prop where
  generation : ObservationPositiveId self.generation
  limit : 1 ≤ self.limit ∧ self.limit ≤ maxHistoryReadPage
  identities : (∀ id ∈ self.workflowId, ObservationPositiveId id) ∧ (∀ id ∈ self.workflowRunId, ObservationPositiveId id) ∧
    ∀ id ∈ self.runAttempt, ObservationPositiveId id
  paired : self.workflowRunId = none ↔ self.runAttempt = none
  jobs : self.kind = .jobs → self.workflowRunId ≠ none
  gaps : self.kind = .gaps → self.workflowRunId = none ∧ self.jobName = none
  records : self.kind ≠ .records → self.createdFrom = none ∧ self.createdThrough = none ∧ self.workflowId = none
  name : ∀ name ∈ self.jobName, (1 ≤ name.length ∧ name.length ≤ 512) ∧ 0 ∉ name ∧ name.scalar = true
  inOrder : ∀ first ∈ self.createdFrom, ∀ last ∈ self.createdThrough, first.instant ≤ last.instant

/-- A query of one kind of rows of an archive. -/
structure HistoryReadQuery extends HistoryReadQueryFields where
  admitted : toHistoryReadQueryFields.Admitted
  deriving DecidableEq

namespace HistoryReadQuery

def canonicalMapping (self : HistoryReadQuery) : Json :=
  .obj [(ascii "installationId", .int self.scope.installationId), (ascii "repositoryId", .int self.scope.repositoryId),
    (ascii "generation", .int self.generation), (ascii "kind", .str self.kind.text), (ascii "limit", .int self.limit),
    (ascii "createdFrom", nullable (fun timestamp => .str timestamp.text) self.createdFrom),
    (ascii "createdThrough", nullable (fun timestamp => .str timestamp.text) self.createdThrough),
    (ascii "workflowId", nullable .int self.workflowId), (ascii "workflowRunId", nullable .int self.workflowRunId),
    (ascii "runAttempt", nullable .int self.runAttempt), (ascii "jobName", nullable .str self.jobName)]

/-- What the digest of a query binds. -/
def binding (self : HistoryReadQuery) (actor : Text) : Json :=
  .obj [(ascii "query", self.canonicalMapping), (ascii "actor", .str actor)]

end HistoryReadQuery

def historyQueryDigest (query : HistoryReadQuery) (actor : Text) : Py Text :=
  hashObject (query.binding actor)

/-- The identity of a row in the order of its kind. -/
inductive HistoryReadKey where
  | record (time : Instant) (run attempt : Int)
  | job (id : Int)
  | gap (id : Text)
  deriving DecidableEq

namespace HistoryReadKey

def Admitted : HistoryReadKey → Prop
  | .record _ run attempt => ObservationPositiveId run ∧ ObservationPositiveId attempt
  | .job id => ObservationPositiveId id
  | .gap id => isSha256Hex id = true

instance (key : HistoryReadKey) : Decidable key.Admitted := by
  cases key <;> unfold Admitted <;> infer_instance

/-- Keys are compared part by part. -/
def order : HistoryReadKey → List Int
  | .record time run attempt => [(time.micros : Int), run, attempt]
  | .job id => [id]
  | .gap id => id.map fun point => (point.val : Int)

/-- A key continues the pages of its own kind. -/
def OfKind : HistoryReadKey → HistoryReadKind → Prop
  | .record _ _ _, kind => kind = .records
  | .job _, kind => kind = .jobs
  | .gap _, kind => kind = .gaps

instance (key : HistoryReadKey) (kind : HistoryReadKind) : Decidable (key.OfKind kind) := by
  cases key <;> unfold OfKind <;> infer_instance

end HistoryReadKey

structure HistoryReadCursor where
  queryDigest : Text
  configurationRevision : Int
  dataRevision : Int
  observedAt : Instant
  key : HistoryReadKey
  deriving DecidableEq

/-- What the payload model of a cursor checks. -/
def HistoryReadCursor.Admitted (self : HistoryReadCursor) : Prop :=
  isSha256Hex self.queryDigest = true ∧ ObservationPositiveId self.configurationRevision ∧
    ObservationPositiveId self.dataRevision ∧ self.key.Admitted

instance (cursor : HistoryReadCursor) : Decidable cursor.Admitted :=
  inferInstanceAs (Decidable (_ ∧ _ ∧ _ ∧ _))

def maxHistoryCursorChars : Nat :=
  4096

/-- The codec signs a cursor; its payload model writes and parses the text of a cursor. -/
structure HistoryCursorCodec where
  key : List Nat
  dump : HistoryReadCursor → Text
  parse : List Nat → Py HistoryReadCursor
  long : 32 ≤ key.length

/-- The errors that a codec answers with the refusal of a cursor. -/
def PyError.RefusesCursor : PyError → Prop
  | .valueError _ | .validationError | .typeError _ | .unicodeEncodeError | .strictJsonError _ | .canonicalJsonError _ => True
  | _ => False

instance (error : PyError) : Decidable (PyError.RefusesCursor error) := by
  cases error <;> unfold PyError.RefusesCursor <;> infer_instance

namespace HistoryCursorCodec

def dot : CodePoint :=
  ⟨46, by omega⟩

variable (codec : HistoryCursorCodec)

def sign (raw : List Nat) : Text :=
  hmacSha256Hex codec.key ((ascii "archive-read/v1:").utf8 ++ raw)

def encode (codec : HistoryCursorCodec) (cursor : HistoryReadCursor) : Py Text := do
  raiseIf (¬ cursor.Admitted) .validationError
  let raw := (codec.dump cursor).utf8
  return Base64.encode raw ++ dot :: codec.sign raw

def invalidCursor : PyError :=
  .valueError (ascii "invalid archive cursor")

variable (token : Text)

/-- The parts of a token, separated by one dot. -/
def splitToken : Py (Text × Text) :=
  match token.splitOn dot with
  | [payload, signature] => .ok (payload, signature)
  | _ => .error invalidCursor

def decodePayload (payload : Text) : Py (List Nat) :=
  match Base64.decode payload with
  | none => .error invalidCursor
  | some raw => .ok raw

/-- The steps of decoding that can refuse a token. -/
def admitToken (query : HistoryReadQuery) (actor : Text) :
    Py HistoryReadCursor := do
  let (payload, signature) ← splitToken token
  let raw ← decodePayload payload
  raiseIf (signature ≠ codec.sign raw) invalidCursor
  let cursor ← codec.parse raw
  let digest ← historyQueryDigest query actor
  valueErrorIf (cursor.queryDigest ≠ digest) (ascii "foreign archive cursor")
  let again ← codec.encode cursor
  valueErrorIf (again ≠ token) (ascii "foreign archive cursor")
  return cursor

def decode (query : HistoryReadQuery) (actor : Text) : Py HistoryReadCursor := do
  raiseIf (¬ (1 ≤ token.length ∧ token.length ≤ maxHistoryCursorChars)) invalidCursor
  match codec.admitToken token query actor with
  | .ok cursor => return cursor
  | .error error => .error (if PyError.RefusesCursor error then invalidCursor else error)

end HistoryCursorCodec

section Tokens

variable {codec : HistoryCursorCodec} {cursor : HistoryReadCursor} {token : Text} {query : HistoryReadQuery} {actor : Text}

theorem utf8_octets {text : Text} : ∀ byte ∈ text.utf8, byte < 256 := by
  intro byte member
  obtain ⟨point, _, written⟩ := mem_flatMap.mp member
  have inRange := point.isLt
  unfold CodePoint.utf8 at written
  split at written
  · simp only [mem_singleton] at written
    omega
  · split at written
    · simp only [mem_cons, not_mem_nil, or_false] at written
      omega
    · split at written
      · simp only [mem_cons, not_mem_nil, or_false] at written
        omega
      · simp only [mem_cons, not_mem_nil, or_false] at written
        omega

theorem symbol_ne_dot {point : CodePoint} (symbol : Base64.IsSymbol point) : point ≠ HistoryCursorCodec.dot := by
  rintro rfl
  rcases symbol with same | ⟨bits, same⟩
  · cases same
  · have found := Base64.value_symbol bits
    rw [← same] at found
    cases found

theorem hex_ne_dot {point : CodePoint} (hex : point.isLowerHex = true) : point ≠ HistoryCursorCodec.dot := by
  rintro rfl
  cases hex

/-- The parts of an encoded token are read back. -/
theorem splitToken_encoded {raw : List Nat} {signature : Text} (hex : isSha256Hex signature = true) :
    HistoryCursorCodec.splitToken (Base64.encode raw ++ HistoryCursorCodec.dot :: signature) =
      .ok (Base64.encode raw, signature) := by
  have payload : HistoryCursorCodec.dot ∉ Base64.encode raw := fun member =>
    symbol_ne_dot (Base64.isSymbol_of_mem member) rfl
  have digits : HistoryCursorCodec.dot ∉ signature := fun member => by
    simp only [isSha256Hex, Bool.and_eq_true, all_eq_true] at hex
    exact hex_ne_dot (hex.2 _ member) rfl
  rw [HistoryCursorCodec.splitToken, splitOn_append_cons_self_of_not_mem payload, splitOn_eq_singleton digits]

namespace HistoryCursorCodec

theorem isSha256Hex_sign (raw : List Nat) : isSha256Hex (codec.sign raw) = true :=
  isSha256Hex_sha256Hex _

theorem encode_eq_ok : codec.encode cursor = .ok token ↔
      cursor.Admitted ∧ Base64.encode (codec.dump cursor).utf8 ++ dot :: codec.sign (codec.dump cursor).utf8 = token := by
  simp only [encode, bind_unit_eq_ok, raiseIf_eq_ok, not_not, pure_eq_ok_iff]

theorem admitToken_eq_ok : codec.admitToken token query actor = .ok cursor ↔
      ∃ payload signature raw, splitToken token = .ok (payload, signature) ∧ decodePayload payload = .ok raw ∧
        signature = codec.sign raw ∧ codec.parse raw = .ok cursor ∧
        historyQueryDigest query actor = .ok cursor.queryDigest ∧ codec.encode cursor = .ok token := by
  simp only [admitToken, bind_eq_ok, raiseIf_eq_ok, not_not, pure_eq_ok_iff, Prod.exists]
  constructor
  · rintro ⟨payload, signature, parts, raw, decoded, _, signed, found, parsed, digest, own, _, bound, same, again, _, rfl, rfl⟩
    exact ⟨payload, signature, raw, parts, decoded, signed, parsed, by rw [own, bound], again⟩
  · rintro ⟨payload, signature, raw, parts, decoded, signed, parsed, digest, again⟩
    exact ⟨payload, signature, parts, raw, decoded, (), signed, cursor, parsed, _, digest, (), rfl, _, again, (), rfl, rfl⟩

theorem decode_eq_ok : codec.decode token query actor = .ok cursor ↔
      (1 ≤ token.length ∧ token.length ≤ maxHistoryCursorChars) ∧ codec.admitToken token query actor = .ok cursor := by
  simp only [decode, bind_unit_eq_ok, raiseIf_eq_ok, not_not]
  refine and_congr_right fun _ => ?_
  cases codec.admitToken token query actor with
  | ok found => simp only [pure_eq_ok_iff, Except.ok.injEq]
  | error error => simp

section

variable (parsed : codec.parse (codec.dump cursor).utf8 = .ok cursor)
include parsed

/-- An issued token is parsed to the cursor that it was issued with. -/
theorem parse_issued {found : HistoryReadCursor}
    (issued : codec.encode cursor = .ok token) (admitted : codec.admitToken token query actor = .ok found) :
    found = cursor := by
  obtain ⟨_, rfl⟩ := encode_eq_ok.mp issued
  obtain ⟨payload, signature, raw, parts, decoded, _, read, _⟩ := admitToken_eq_ok.mp admitted
  rw [splitToken_encoded (isSha256Hex_sign _)] at parts
  cases parts
  rw [decodePayload, Base64.decode_encode utf8_octets] at decoded
  cases decoded
  rw [parsed] at read
  exact (Except.ok.inj read).symm

/-- An issued token is decoded for the query and the actor that its digest binds. -/
theorem decode_issued (issued : codec.encode cursor = .ok token)
    (fits : token.length ≤ maxHistoryCursorChars) (own : historyQueryDigest query actor = .ok cursor.queryDigest) :
    codec.decode token query actor = .ok cursor := by
  obtain ⟨_, written⟩ := encode_eq_ok.mp issued
  refine decode_eq_ok.mpr ⟨⟨?_, fits⟩, ?_⟩
  · rw [← written, length_append, length_cons]
    omega
  · refine admitToken_eq_ok.mpr ⟨Base64.encode (codec.dump cursor).utf8, codec.sign (codec.dump cursor).utf8,
      (codec.dump cursor).utf8, ?_, ?_, rfl, parsed, own, issued⟩
    · rw [← written, splitToken_encoded (isSha256Hex_sign _)]
    · rw [decodePayload, Base64.decode_encode utf8_octets]

end

end HistoryCursorCodec

end Tokens

section Bindings

variable {query other : HistoryReadQuery} {actor stranger : Text}

theorem ObservationTimestamp.ext_text {first second : ObservationTimestamp} (same : first.text = second.text) :
    first = second := by
  obtain ⟨text, instant, read⟩ := first
  obtain ⟨_, other, reread⟩ := second
  cases same
  rw [read] at reread
  cases reread
  rfl

variable {A : Type} {write : A → Json}

theorem nullable_inj (known : ∀ value, write value ≠ .null)
    (injective : ∀ left right, write left = write right → left = right) {left right : Option A}
    (same : nullable write left = nullable write right) : left = right := by
  cases left with
  | none =>
    cases right with
    | none => rfl
    | some value => exact absurd same.symm (known value)
  | some value =>
    cases right with
    | none => exact absurd same (known value)
    | some other => rw [injective value other same]

theorem sortMembers_nullable (plain : ∀ value, sortMembers (write value) = write value)
    (value : Option A) : sortMembers (nullable write value) = nullable write value := by
  cases value with
  | none => rw [nullable, sortMembers]
  | some value => exact plain value

theorem scope_ext {first second : RepositoryScope} (installation : first.installationId = second.installationId)
    (repository : first.repositoryId = second.repositoryId) : first = second := by
  obtain ⟨⟨_, _⟩, _⟩ := first
  obtain ⟨⟨_, _⟩, _⟩ := second
  cases installation
  cases repository
  rfl

theorem HistoryReadKind.text_injective {first second : HistoryReadKind} (same : first.text = second.text) : first = second := by
  cases first <;> cases second <;> first | rfl | exact absurd same (by decide)

/-- The mapping of a query determines the query. -/
theorem canonicalMapping_injective (same : sortMembers query.canonicalMapping = sortMembers other.canonicalMapping) :
    query = other := by
  have values := values_of_sortMembers same rfl (by simp only [map_cons, map_nil]; decide)
  have number : ∀ value : Option Int, sortMembers (nullable .int value) = nullable .int value :=
    sortMembers_nullable fun _ => by rw [sortMembers]
  have text : ∀ value : Option Text, sortMembers (nullable .str value) = nullable .str value :=
    sortMembers_nullable fun _ => by rw [sortMembers]
  have timestamp : ∀ value : Option ObservationTimestamp,
      sortMembers (nullable (fun timestamp => .str timestamp.text) value) = nullable (fun timestamp => .str timestamp.text) value :=
    sortMembers_nullable fun _ => by rw [sortMembers]
  simp only [map_cons, map_nil, List.cons.injEq, number, text, timestamp, sortMembers,
    Json.int.injEq, Json.str.injEq, and_true, Nat.cast_inj] at values
  obtain ⟨installation, repository, generation, kind, limit, first, last, workflow, run, attempt, name⟩ := values
  have numbers : ∀ left right : Option Int, nullable Json.int left = nullable Json.int right → left = right :=
    fun _ _ => @nullable_inj Int Json.int (fun _ => by simp) (fun _ _ => Json.int.inj) _ _
  have timestamps : ∀ left right : Option ObservationTimestamp,
      nullable (fun timestamp => Json.str timestamp.text) left = nullable (fun timestamp => .str timestamp.text) right →
        left = right :=
    fun _ _ => @nullable_inj ObservationTimestamp (fun timestamp => .str timestamp.text) (fun _ => by simp)
      (fun _ _ equal => ObservationTimestamp.ext_text (Json.str.inj equal)) _ _
  have names : query.jobName = other.jobName :=
    @nullable_inj Text Json.str (fun _ => by simp) (fun _ _ => Json.str.inj) _ _ name
  have fields : query.toHistoryReadQueryFields = other.toHistoryReadQueryFields := by
    have scope : query.scope = other.scope := scope_ext installation repository
    obtain ⟨⟨_, _, _, _, _, _, _, _, _, _⟩, _⟩ := query
    obtain ⟨⟨_, _, _, _, _, _, _, _, _, _⟩, _⟩ := other
    cases scope
    cases generation
    cases HistoryReadKind.text_injective kind
    cases limit
    cases timestamps _ _ first
    cases timestamps _ _ last
    cases numbers _ _ workflow
    cases numbers _ _ run
    cases numbers _ _ attempt
    cases names
    rfl
  cases query
  cases other
  cases fields
  rfl

theorem exact_nullable (plain : ∀ value, (write value).Exact) (value : Option A) : (nullable write value).Exact := by
  cases value with
  | none => exact Json.exact_null
  | some value => exact plain value

theorem exact_binding : (query.binding actor).Exact := by
  have mapping : query.canonicalMapping.Exact := by
    simp [HistoryReadQuery.canonicalMapping, exact_nullable]
  simp [HistoryReadQuery.binding, mapping]

/-- Without collisions, a digest binds one query and one actor. -/
theorem historyQueryDigest_binds {digest : Text} (free : CollisionFree (query.binding actor) (other.binding stranger))
    (own : historyQueryDigest query actor = .ok digest) (foreign : historyQueryDigest other stranger = .ok digest) :
    query = other ∧ actor = stranger := by
  have same := sortMembers_of_hashObject free exact_binding exact_binding own foreign
  have values := values_of_sortMembers same rfl (by simp only [map_cons, map_nil]; decide)
  simp only [map_cons, map_nil, List.cons.injEq, and_true] at values
  refine ⟨canonicalMapping_injective values.1, ?_⟩
  have actors := values.2
  rw [sortMembers, sortMembers] at actors
  exact Json.str.inj actors

end Bindings

end CiCoordinator.CiEconomics

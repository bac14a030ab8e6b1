import CiCoordinator.CiEconomics.HistoryRead
import CiCoordinator.ControlPlaneIdentity.Activity
import CiCoordinator.Kernel.LimitedJson

/- The signed cursors that continue the pages of the activity. -/

namespace CiCoordinator.ControlPlaneIdentity

open Library Kernel ConfigControl CiEconomics List

structure ActivityPosition where
  through : Int
  before : Int
  expiresAt : Instant
  deriving DecidableEq

/-- A cursor is valid for five minutes at most. -/
def activityCursorSeconds : Nat :=
  300

def maxActivityCursorChars : Nat :=
  1024

def activityCursorLimits : JsonResourceLimits :=
  ⟨2, 8, by decide⟩

structure ActivityCursorCodec where
  key : List Nat
  long : 32 ≤ key.length

/-- What the digest of a cursor binds. -/
def bindingValue (query : ActivityQuery) (principal : ActivityPrincipal) : Json :=
  .arr [query.binding, .str principal.actorId, .str principal.authorityProfileDigest]

namespace ActivityCursorCodec

def invalidCursor : PyError :=
  .valueError (ascii "invalid activity cursor")

def bindingDigest (query : ActivityQuery) (principal : ActivityPrincipal) : Text :=
  sha256Hex (render (sortMembers (bindingValue query principal))).utf8

def payload (query : ActivityQuery) (principal : ActivityPrincipal) (position : ActivityPosition) : Json :=
  .arr [.str (bindingDigest query principal), .int position.through, .int position.before, .str position.expiresAt.isoText]

def encode (codec : ActivityCursorCodec) (query : ActivityQuery) (principal : ActivityPrincipal)
    (position : ActivityPosition) : Text :=
  let raw := (render (payload query principal position)).utf8
  Base64.encode (hmacSha256 codec.key raw ++ raw)

/-- The bytes of a token that is written as its bytes are. -/
def decodeToken (value : Text) : Py (List Nat) :=
  match Base64.decode value with
  | none => .error invalidCursor
  | some raw => do
    valueErrorIf (Base64.encode raw ≠ value) (ascii "noncanonical activity cursor")
    return raw

/-- The bounds of a cursor's payload and its expiry, if the payload has the shape of one. -/
def positionOf : Json → Json → Json → Py (Int × Int × Text)
  | .int through, .int before, .str expiry => do
    valueErrorIf (¬ (0 < before ∧ before ≤ through ∧ through ≤ maxSafeJsonInteger)) (ascii "invalid activity cursor bounds")
    return (through, before, expiry)
  | _, _, _ => .error (.valueError (ascii "invalid activity cursor bounds"))

/-- An expiry has to be ahead, within the time that a cursor is valid. -/
def admitExpiry (expiry : Text) (now : Instant) : Py Instant :=
  match readTimestamp expiry with
  | none => .error (.valueError (ascii "invalid isoformat string"))
  | some expires => do
    valueErrorIf (¬ now < expires) (ascii "expired activity cursor")
    let latest ← addSeconds now activityCursorSeconds
    valueErrorIf (latest < expires) (ascii "expired activity cursor")
    return expires

def partsOf : Json → Py (Json × Json × Json × Json)
  | .arr [binding, through, before, expiry] => .ok (binding, through, before, expiry)
  | _ => .error invalidCursor

/-- The binding of a cursor's payload is the text of a digest. -/
def isBinding (digest : Text) : Json → Bool
  | .str found => decide (found = digest)
  | _ => false

/-- The steps of decoding that can refuse a token. -/
def admitToken [Interpreter] (codec : ActivityCursorCodec) (value : Text) (query : ActivityQuery)
    (principal : ActivityPrincipal) (now : Instant) : Py ActivityPosition := do
  let raw ← decodeToken value
  raiseIf (raw.take 32 ≠ hmacSha256 codec.key (raw.drop 32)) invalidCursor
  let parts ← loadLimitedJson (raw.drop 32) 1024 activityCursorLimits
  let (binding, through, before, expiry) ← partsOf parts
  valueErrorIf (isBinding (bindingDigest query principal) binding = false) (ascii "activity cursor binding changed")
  let (through, before, expiry) ← positionOf through before expiry
  let expires ← admitExpiry expiry now
  return ⟨through, before, expires⟩

def decode [Interpreter] (codec : ActivityCursorCodec) (value : Text) (query : ActivityQuery) (principal : ActivityPrincipal)
    (now : Instant) : Py ActivityPosition := do
  raiseIf (¬ (1 ≤ value.length ∧ value.length ≤ maxActivityCursorChars)) invalidCursor
  match codec.admitToken value query principal now with
  | .ok position => return position
  | .error error => .error (if PyError.RefusesCursor error then invalidCursor else error)

end ActivityCursorCodec

section Lengths

theorem length_base64 (bytes : List Nat) : (Base64.encode bytes).length = 4 * ((bytes.length + 2) / 3) := by
  fun_induction Base64.encode bytes with
  | case1 => rfl
  | case2 => simp
  | case3 => simp
  | case4 first second third rest ih =>
    simp only [length_cons, ih]
    omega

/-- A character that a JSON string shows as it is. -/
def Plain (point : CodePoint) : Prop :=
  0x20 ≤ point.val ∧ point.val ≤ 0x7E ∧ point.val ≠ 0x22 ∧ point.val ≠ 0x5C

instance (point : CodePoint) : Decidable (Plain point) :=
  inferInstanceAs (Decidable (_ ∧ _ ∧ _ ∧ _))

def PlainText (text : Text) : Prop :=
  ∀ point ∈ text, Plain point

instance (text : Text) : Decidable (PlainText text) :=
  decidable_of_iff ((text.all fun point => decide (Plain point)) = true) (by simp only [all_eq_true, decide_eq_true_eq, PlainText])

theorem escapePoint_plain {point : CodePoint} (plain : Plain point) : escapePoint point = [point] := by
  obtain ⟨low, _, quote, backslash⟩ := plain
  unfold escapePoint
  split_ifs with one two three four five six seven eight
  · exact absurd (congrArg Fin.val one) quote
  · exact absurd (congrArg Fin.val two) backslash
  · rw [three] at low
    exact absurd low (by decide)
  · rw [four] at low
    exact absurd low (by decide)
  · rw [five] at low
    exact absurd low (by decide)
  · rw [six] at low
    exact absurd low (by decide)
  · rw [seven] at low
    exact absurd low (by decide)
  · omega
  · rfl

theorem render_plain {value : Text} (plain : PlainText value) : render (.str value) = ascii "\"" ++ value ++ ascii "\"" := by
  rw [render, jsonString]
  congr 2
  induction value with
  | nil => rfl
  | cons point rest ih =>
    rw [PlainText, forall_mem_cons] at plain
    rw [flatMap_cons, escapePoint_plain plain.1, ih plain.2, singleton_append]

theorem plain_of_isLowerHex {point : CodePoint} (hex : point.isLowerHex = true) : Plain point := by
  simp only [CodePoint.isLowerHex, Bool.or_eq_true, Bool.and_eq_true, decide_eq_true_eq] at hex
  unfold Plain
  omega

theorem plain_of_isDigit {point : CodePoint} (digit : point.isDigit = true) : Plain point := by
  simp only [CodePoint.isDigit, Bool.and_eq_true, decide_eq_true_eq] at digit
  unfold Plain
  omega

theorem PlainText.append {first second : Text} (firstPlain : PlainText first) (secondPlain : PlainText second) :
    PlainText (first ++ second) := by
  intro point member
  rcases mem_append.mp member with early | late
  · exact firstPlain point early
  · exact secondPlain point late

theorem plain_padded (width number : Nat) : PlainText (padded width number) := fun _ member =>
  plain_of_isDigit (padded_isDigit member)

theorem plain_isoText (instant : Instant) : PlainText instant.isoText := by
  have second : PlainText instant.isoSecondText := by
    have dash : PlainText (ascii "-") := by decide
    have colon : PlainText (ascii ":") := by decide
    have time : PlainText (ascii "T") := by decide
    rw [Instant.isoSecondText, CivilDate.isoText]
    exact (((((((plain_padded 4 _).append dash).append (plain_padded 2 _)).append dash).append (plain_padded 2 _)).append
      time).append (plain_padded 2 _)).append colon |>.append (plain_padded 2 _) |>.append colon |>.append (plain_padded 2 _)
  have zone : PlainText (ascii "+00:00") := by decide
  have dot : PlainText (ascii ".") := by decide
  rw [Instant.isoText]
  split
  · exact second.append zone
  · exact ((second.append dot).append (plain_padded 6 _)).append zone

theorem length_isoText (instant : Instant) : instant.isoText.length ≤ 32 := by
  have sign : (ascii "-").length = 1 ∧ (ascii "T").length = 1 ∧ (ascii ":").length = 1 ∧ (ascii ".").length = 1 ∧
      (ascii "+00:00").length = 6 := by decide
  simp only [Instant.isoText, Instant.isoMicrosecondText, Instant.isoSecondText, CivilDate.isoText]
  split <;> simp [length_append, length_padded, sign]

end Lengths

/-- A position has been read from a page, before the watermark of the first one. -/
def ActivityPosition.Bounded (self : ActivityPosition) : Prop :=
  0 < self.before ∧ self.before ≤ self.through ∧ self.through ≤ maxSafeJsonInteger

section Tokens

open ActivityCursorCodec

variable {codec : ActivityCursorCodec} {query other : ActivityQuery} {principal stranger : ActivityPrincipal}
  {position found : ActivityPosition} {now : Instant}

theorem plain_bindingDigest : PlainText (bindingDigest query principal) := by
  have hex := isSha256Hex_sha256Hex (render (sortMembers (bindingValue query principal))).utf8
  simp only [isSha256Hex, Bool.and_eq_true, all_eq_true] at hex
  exact fun point member => plain_of_isLowerHex (hex.2 point member)

theorem length_bindingDigest : (bindingDigest query principal).length = 64 := by
  have hex := isSha256Hex_sha256Hex (render (sortMembers (bindingValue query principal))).utf8
  simp only [isSha256Hex, Bool.and_eq_true, decide_eq_true_eq] at hex
  exact hex.1

theorem plain_decimalInt (value : Int) : PlainText (decimalInt value) := by
  have digits : PlainText (decimal value.natAbs) := fun _ member => plain_of_isDigit (decimal_isDigit member)
  have sign : PlainText (ascii "-") := by decide
  rw [decimalInt]
  split
  · exact sign.append digits
  · exact digits

theorem length_decimalInt {value : Int} (positive : 0 < value) (safe : value ≤ maxSafeJsonInteger) :
    (decimalInt value).length ≤ 54 := by
  have magnitude : value.natAbs ≤ maxSafeJsonInteger := by omega
  rw [decimalInt, if_neg (by omega)]
  exact (length_decimal_le magnitude).trans (by decide)

/-- The text of a payload needs no escapes. -/
theorem render_fields {digest expiry : Text} {through before : Int} (plain : PlainText digest) (plainExpiry : PlainText expiry) :
    render (.arr [.str digest, .int through, .int before, .str expiry]) =
      ascii "[" ++ (ascii "\"" ++ digest ++ ascii "\"") ++ ascii "," ++ decimalInt through ++ ascii "," ++ decimalInt before ++
        ascii "," ++ (ascii "\"" ++ expiry ++ ascii "\"") ++ ascii "]" := by
  rw [render, renderItems, renderItems, renderItems, renderItems, renderItems, render_plain plain, render_plain plainExpiry,
    render, render]
  simp only [append_assoc, if_true, Bool.false_eq_true, if_false, nil_append]

theorem PlainText.ascii {text : Text} (plain : PlainText text) : ∀ point ∈ text, point.val < 0x80 := by
  intro point member
  have bounded := (plain point member).2.1
  omega

/-- A payload is short. -/
theorem length_payload (bounded : position.Bounded) : (render (payload query principal position)).utf8.length ≤ 300 := by
  obtain ⟨positive, order, safe⟩ := bounded
  have through := length_decimalInt (show 0 < position.through by omega) safe
  have before := length_decimalInt positive (show position.before ≤ maxSafeJsonInteger by omega)
  have expiry := length_isoText position.expiresAt
  have digest := @length_bindingDigest query principal
  have signs : (ascii "[").length = 1 ∧ (ascii "\"").length = 1 ∧ (ascii ",").length = 1 ∧ (ascii "]").length = 1 := by decide
  have plain := @plain_bindingDigest query principal
  have plainExpiry := plain_isoText position.expiresAt
  rw [payload]
  generalize bindingDigest query principal = digestText at digest plain
  generalize position.expiresAt.isoText = expiryText at expiry plainExpiry
  have points : ∀ point ∈ render (.arr [.str digestText, .int position.through, .int position.before, .str expiryText]),
      point.val < 0x80 := by
    have bracket : ∀ point ∈ ascii "[" ++ ascii "]" ++ ascii "\"", point.val < 0x80 := by
      have checked : ((ascii "[" ++ ascii "]" ++ ascii "\"").all fun point => decide (point.val < 0x80)) = true := by decide
      exact fun point member => of_decide_eq_true (all_eq_true.mp checked point member)
    have comma : PlainText (ascii ",") := by decide
    intro point member
    rw [render_fields plain plainExpiry] at member
    simp only [mem_append] at member bracket
    have plainDecimals := (plain_decimalInt position.through).append (plain_decimalInt position.before)
    have others := ((plain.append plainExpiry).append plainDecimals).append comma
    have plainPoint := others.ascii point
    simp only [mem_append] at plainPoint
    specialize bracket point
    tauto
  rw [Text.length_utf8_of_ascii points, render_fields plain plainExpiry]
  simp only [length_append, digest, signs]
  omega

theorem decodeToken_encode {bytes : List Nat} (octets : ∀ byte ∈ bytes, byte < 256) :
    decodeToken (Base64.encode bytes) = .ok bytes := by
  rw [decodeToken, Base64.decode_encode octets]
  dsimp only
  rw [valueErrorIf, raiseIf, if_neg (not_not.mpr rfl)]
  rfl

theorem length_encode (bounded : position.Bounded) : 1 ≤ (codec.encode query principal position).length ∧
      (codec.encode query principal position).length ≤ maxActivityCursorChars := by
  have short := @length_payload query principal position bounded
  have signature : (hmacSha256 codec.key (render (payload query principal position)).utf8).length = 32 := length_sha256 _
  rw [encode, length_base64, length_append, signature, maxActivityCursorChars]
  omega

theorem admitExpiry_eq_ok {expires deadline : Instant} : admitExpiry deadline.isoText now = .ok expires ↔
      expires = deadline ∧ now < deadline ∧ ∃ latest, addSeconds now activityCursorSeconds = .ok latest ∧ deadline ≤ latest := by
  rw [admitExpiry, readTimestamp_isoText]
  simp only [raiseIf_eq_ok, bind_eq_ok, exists_const, pure_eq_ok_iff, not_lt, not_le]
  constructor
  · rintro ⟨ahead, latest, computed, within, rfl⟩
    exact ⟨rfl, ahead, latest, computed, within⟩
  · rintro ⟨rfl, ahead, latest, computed, within⟩
    exact ⟨ahead, latest, computed, within, rfl⟩

variable [Interpreter]

theorem load_payload (nests : 1 ≤ Interpreter.jsonRecursionLimit) (bounded : position.Bounded) :
    loadLimitedJson (render (payload query principal position)).utf8 1024 activityCursorLimits =
      .ok (payload query principal position) := by
  have short := @length_payload query principal position bounded
  obtain ⟨positive, order, safe⟩ := bounded
  have through : position.through.natAbs ≤ maxSafeJsonInteger := by omega
  have before : position.before.natAbs ≤ maxSafeJsonInteger := by omega
  refine loadLimitedJson_render ?_ ?_ ?_ (short.trans (by decide)) ?_ ?_
  · simp [payload]
  · simp [payload, bindingDigest, through, before]
  · simp [payload, Json.distinct, Json.distinctItems]
  · simp [payload, Json.tree, Json.treeItems, nesting, nestingItems, nests]
  · constructor
    · simp [payload, Json.tree, Json.treeItems, valueDepth, depthItems, activityCursorLimits]
    · simp [payload, Json.tree, Json.treeItems, valueCount, countItems, activityCursorLimits]

/-- An issued token is read back, and accepted for what its digest binds while it is valid. -/
theorem admitToken_encode (nests : 1 ≤ Interpreter.jsonRecursionLimit) (bounded : position.Bounded) :
    codec.admitToken (codec.encode query principal position) other stranger now = .ok found ↔
      bindingDigest query principal = bindingDigest other stranger ∧
        admitExpiry position.expiresAt.isoText now = .ok found.expiresAt ∧ found.through = position.through ∧
          found.before = position.before := by
  have octets : ∀ byte ∈ hmacSha256 codec.key (render (payload query principal position)).utf8 ++
      (render (payload query principal position)).utf8, byte < 256 := by
    intro byte member
    rcases mem_append.mp member with signature | raw
    · exact sha256_octets _ byte signature
    · exact utf8_octets byte raw
  have signature : (hmacSha256 codec.key (render (payload query principal position)).utf8).length = 32 := length_sha256 _
  rw [admitToken, encode, decodeToken_encode octets, ok_bind_eq, ← signature, take_left, drop_left, load_payload nests bounded]
  have signed : raiseIf (hmacSha256 codec.key (render (payload query principal position)).utf8 ≠
      hmacSha256 codec.key (render (payload query principal position)).utf8) invalidCursor = .ok () :=
    raiseIf_eq_ok.mpr (not_not.mpr rfl)
  have parts : partsOf (payload query principal position) = .ok (.str (bindingDigest query principal), .int position.through,
      .int position.before, .str position.expiresAt.isoText) := rfl
  have bounds : positionOf (.int position.through) (.int position.before) (.str position.expiresAt.isoText) =
      .ok (position.through, position.before, position.expiresAt.isoText) :=
    bind_unit_eq_ok.mpr ⟨raiseIf_eq_ok.mpr (not_not.mpr bounded), rfl⟩
  rw [signed, ok_bind_eq, ok_bind_eq, parts, ok_bind_eq]
  obtain ⟨through, before, expiresAt⟩ := found
  dsimp only
  simp only [raiseIf_eq_ok, isBinding, decide_eq_false_iff_not, not_not, bounds, ok_bind_eq, bind_eq_ok, exists_const,
    pure_eq_ok_iff, ActivityPosition.mk.injEq]
  refine and_congr_right fun _ => ?_
  constructor
  · rintro ⟨expires, admitted, rfl, rfl, rfl⟩
    exact ⟨admitted, rfl, rfl⟩
  · rintro ⟨admitted, rfl, rfl⟩
    exact ⟨expiresAt, admitted, rfl, rfl, rfl⟩

theorem decode_eq_ok {value : Text} : codec.decode value query principal now = .ok position ↔
      (1 ≤ value.length ∧ value.length ≤ maxActivityCursorChars) ∧ codec.admitToken value query principal now = .ok position := by
  simp only [decode, bind_unit_eq_ok, raiseIf_eq_ok, not_not]
  refine and_congr_right fun _ => ?_
  cases codec.admitToken value query principal now with
  | ok position => simp only [pure_eq_ok_iff, Except.ok.injEq]
  | error error => simp

/-- An issued token is accepted for what its digest binds, as long as it is valid. -/
theorem decode_encode (nests : 1 ≤ Interpreter.jsonRecursionLimit) (bounded : position.Bounded) :
    codec.decode (codec.encode query principal position) other stranger now = .ok found ↔
      found = position ∧ bindingDigest query principal = bindingDigest other stranger ∧ now < position.expiresAt ∧
        ∃ latest, addSeconds now activityCursorSeconds = .ok latest ∧ position.expiresAt ≤ latest := by
  rw [decode_eq_ok, admitToken_encode nests bounded, admitExpiry_eq_ok]
  obtain ⟨through, before, expiresAt⟩ := found
  obtain ⟨ownThrough, ownBefore, ownExpiry⟩ := position
  simp only [ActivityPosition.mk.injEq]
  constructor
  · rintro ⟨_, same, ⟨expires, ahead⟩, sameThrough, sameBefore⟩
    exact ⟨⟨sameThrough, sameBefore, expires⟩, same, ahead⟩
  · rintro ⟨⟨sameThrough, sameBefore, expires⟩, same, ahead⟩
    exact ⟨length_encode bounded, same, ⟨expires, ahead⟩, sameThrough, sameBefore⟩

end Tokens

section Bindings

open ActivityCursorCodec

variable {query other : ActivityQuery} {principal stranger : ActivityPrincipal}

theorem ActivitySource.text_injective {first second : ActivitySource} (same : first.text = second.text) : first = second := by
  cases first <;> cases second <;> first | rfl | exact absurd same (by decide)

/-- The scopes of a query are determined by their numbers. -/
theorem scopes_ext {first second : Option RepositoryScope}
    (installation : nullable (fun scope : RepositoryScope => Json.int scope.installationId) first =
      nullable (fun scope : RepositoryScope => Json.int scope.installationId) second)
    (repository : nullable (fun scope : RepositoryScope => Json.int scope.repositoryId) first =
      nullable (fun scope : RepositoryScope => Json.int scope.repositoryId) second) : first = second := by
  cases first with
  | none =>
    cases second with
    | none => rfl
    | some scope => nomatch installation
  | some scope =>
    cases second with
    | none => nomatch installation
    | some found => rw [scope_ext (Json.int.inj installation) (Json.int.inj repository)]

/-- The binding of a query determines the query. -/
theorem binding_injective (same : sortMembers query.binding = sortMembers other.binding) : query = other := by
  have values := values_of_sortMembers same rfl (by simp only [map_cons, map_nil]; decide)
  have text : ∀ value : Option Text, sortMembers (nullable .str value) = nullable .str value :=
    sortMembers_nullable fun _ => by rw [sortMembers]
  have number : ∀ (field : RepositoryScope → Int) (value : Option RepositoryScope),
      sortMembers (nullable (fun scope => Json.int (field scope)) value) = nullable (fun scope => Json.int (field scope)) value :=
    fun _ => sortMembers_nullable fun _ => by rw [sortMembers]
  simp only [map_cons, map_nil, List.cons.injEq, number, text, sortMembers, Json.int.injEq, Json.str.injEq, and_true,
    Nat.cast_inj] at values
  obtain ⟨source, since, untilTime, issuer, installation, repository, actor, action, limit⟩ := values
  have texts : ∀ left right : Option Text, nullable Json.str left = nullable Json.str right → left = right :=
    fun _ _ => @nullable_inj Text Json.str (fun _ => by simp) (fun _ _ => Json.str.inj) _ _
  have fields : query.toActivityQueryFields = other.toActivityQueryFields := by
    have scope := scopes_ext installation repository
    obtain ⟨⟨_, _, _, _, _, _, _, _⟩, _⟩ := query
    obtain ⟨⟨_, _, _, _, _, _, _, _⟩, _⟩ := other
    cases ActivitySource.text_injective source
    cases isoText_injective since
    cases isoText_injective untilTime
    cases texts _ _ issuer
    cases scope
    cases texts _ _ actor
    cases texts _ _ action
    cases limit
    rfl
  cases query
  cases other
  cases fields
  rfl

theorem exact_bindingValue : (bindingValue query principal).Exact := by
  have mapping : query.binding.Exact := by
    simp [ActivityQuery.binding, exact_nullable]
  simp [bindingValue, mapping]

/-- The digest tells the bindings of two reads apart. -/
def BindingsApart (query other : ActivityQuery) (principal stranger : ActivityPrincipal) : Prop :=
  bindingDigest query principal = bindingDigest other stranger →
    (render (sortMembers (bindingValue query principal))).utf8 = (render (sortMembers (bindingValue other stranger))).utf8

/-- Without collisions, a digest binds one query, one actor and one profile of authority. -/
theorem bindingDigest_binds (apart : BindingsApart query other principal stranger) :
    bindingDigest query principal = bindingDigest other stranger ↔ query = other ∧ principal.actorId = stranger.actorId ∧
        principal.authorityProfileDigest = stranger.authorityProfileDigest := by
  constructor
  · intro same
    have values := sortMembers_of_render exact_bindingValue exact_bindingValue (apart same)
    simp only [bindingValue, sortMembers, sortMembersItems, Json.arr.injEq, List.cons.injEq, Json.str.injEq, and_true] at values
    exact ⟨binding_injective values.1, values.2⟩
  · rintro ⟨rfl, actor, profile⟩
    rw [bindingDigest, bindingDigest, bindingValue, bindingValue, actor, profile]

end Bindings

end CiCoordinator.ControlPlaneIdentity

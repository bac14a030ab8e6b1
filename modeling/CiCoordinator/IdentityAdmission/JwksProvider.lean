import CiCoordinator.Kernel.HostJson
import Mathlib.Data.Rat.Defs
import Mathlib.Algebra.Order.Ring.Rat

/- The cache of signing keys: its critical sections, and the lookups that share one refresh. -/

namespace CiCoordinator.IdentityAdmission

open Library Kernel

def maximumActionsOidcJwksKeys : Nat :=
  64

inductive JwksTransportFailureKind where
  | cancelled
  | redirected
  | timeout
  | unavailable
  | responseOversize
  deriving DecidableEq

inductive JwksUnavailableKind where
  | fetchCancelled
  | fetchTimeout
  | fetchUnavailable
  | responseInvalid
  | responseOversize
  | responseRedirected
  | refreshThrottled
  | signingKeyUnavailable
  deriving DecidableEq

structure JwksUnavailable where
  kind : JwksUnavailableKind
  message : Text
  deriving DecidableEq

structure JwksProviderConfigFields where
  maximumCacheAgeSeconds : Rat
  minimumRefreshIntervalSeconds : Rat
  failureBackoffSeconds : Rat
  maximumResponseBytes : Nat
  requiredContentTypePrefix : Text

def JwksProviderConfigFields.postInit (self : JwksProviderConfigFields) : Py Unit := do
  forEach (fun (entry : Rat × Text) =>
      valueErrorIf (entry.1 ≤ 0) (ascii "JWKS " ++ entry.2 ++ ascii " must be a positive number"))
    [(self.maximumCacheAgeSeconds, ascii "maximum cache age"),
      (self.minimumRefreshIntervalSeconds, ascii "minimum refresh interval"),
      (self.failureBackoffSeconds, ascii "failure backoff")]
  valueErrorIf (self.maximumCacheAgeSeconds < self.minimumRefreshIntervalSeconds)
    (ascii "JWKS refresh interval must not exceed cache age")
  valueErrorIf (self.maximumResponseBytes < 1) (ascii "JWKS response byte bound must be positive")
  valueErrorIf (self.requiredContentTypePrefix = []) (ascii "JWKS content type prefix is required")

structure JwksProviderConfig extends JwksProviderConfigFields where
  admitted : toJwksProviderConfigFields.postInit = .ok ()

/-- The configuration for the keys of the provider's actions. -/
def githubActionsJwksConfig : JwksProviderConfig :=
  ⟨⟨300, 30, 30, 1048576, ascii "application/json"⟩, by decide⟩

/-- An admitted key: the members that are texts, and its operations. -/
structure Jwk where
  alg : Text
  e : Text
  kid : Text
  kty : Text
  n : Text
  publicUse : Text
  keyOps : Option (List Text)
  deriving DecidableEq

structure ActionsOidcJwkSet where
  keys : List Jwk
  nonempty : keys ≠ []
  bounded : keys.length ≤ maximumActionsOidcJwksKeys
  distinct : (keys.map Jwk.kid).Nodup

/-- The cryptography library refuses the members of a key or imports them; only a public RSA key has a modulus here. -/
inductive ImportedKey where
  | refused
  | imported (isPrivate : Bool) (modulusBits : Option Nat)

/-- What the host does to case, and the import of keys into its cryptography library. -/
class KeyHost where
  lower : Text → Text
  importKey : Jwk → ImportedKey

section Keys

variable [KeyHost]

def privateJwkMembers : List Text :=
  [ascii "d", ascii "p", ascii "q", ascii "dp", ascii "dq", ascii "qi", ascii "oth"]

def minimumActionsOidcRsaModulusBits : Nat :=
  2048

/-- The key id of a key for signatures that the library imports; an admitted key has no members beside its own. -/
def readKeyId (key : Jwk) : Py Text := do
  valueErrorIf (key.kid = []) (ascii "OIDC JWK key id is required")
  valueErrorIf (key.kty ≠ ascii "RSA" ∨ key.alg ≠ ascii "RS256" ∨ key.publicUse ≠ ascii "sig")
    (ascii "OIDC JWK must be an RS256 signature key")
  valueErrorIf (key.keyOps ≠ none ∧ key.keyOps ≠ some [ascii "verify"])
    (ascii "OIDC JWK must permit only signature verification")
  match KeyHost.importKey key with
  | .imported false (some modulusBits) => do
    valueErrorIf (modulusBits < minimumActionsOidcRsaModulusBits) (ascii "OIDC JWK RSA modulus is below the admitted size")
    return key.kid
  | .imported false none => .error (.valueError (ascii "OIDC JWK must contain an RSA public key"))
  | _ => .error (.valueError (ascii "OIDC JWK RSA public key is invalid"))

/-- A member that is a text. -/
def textMember (value : List (Text × Json)) (name : String) : Option Text :=
  match memberOrNull value (ascii name) with
  | .str text => some text
  | _ => none

/-- The operations of a key, which may be absent; other values than texts are not admitted. -/
def keyOperations (value : List (Text × Json)) : Option (Option (List Text)) :=
  match memberOrNull value (ascii "key_ops") with
  | .null => some none
  | .arr operations => some <$> operations.mapM fun operation =>
      match operation with
      | .str text => some text
      | _ => none
  | _ => none

/-- A raw key without private members, with all its texts, whose key id can be read. -/
def admitJwk (value : List (Text × Json)) : Option Jwk :=
  if ∃ member ∈ value, member.1 ∈ privateJwkMembers then none
  else do
    let alg ← textMember value "alg"
    let e ← textMember value "e"
    let kid ← textMember value "kid"
    let kty ← textMember value "kty"
    let n ← textMember value "n"
    let publicUse ← textMember value "use"
    let keyOps ← keyOperations value
    let admitted : Jwk := { alg, e, kid, kty, n, publicUse, keyOps }
    if (readKeyId admitted).isOk then some admitted else none

/-- The admitted ones of some raw keys, under different key ids. -/
def ActionsOidcJwkSet.ofRaw (values : List (List (Text × Json))) : Py ActionsOidcJwkSet :=
  let keys := values.filterMap admitJwk
  if values = [] then .error (.valueError (ascii "OIDC JWK set must contain at least one key"))
  else if large : maximumActionsOidcJwksKeys < values.length then
    .error (.valueError (ascii "OIDC JWK set exceeds the admitted key limit"))
  else if none : keys = [] then .error (.valueError (ascii "OIDC JWK set must contain at least one admitted key"))
  else if distinct : (keys.map Jwk.kid).Nodup then
    .ok ⟨keys, none, (List.length_filterMap_le _ _).trans (Nat.le_of_not_lt large), distinct⟩
  else .error (.valueError (ascii "OIDC JWK set must not contain duplicate key ids"))

/-- What makes a key fit to verify signatures with. -/
structure Jwk.Verifies (key : Jwk) : Prop where
  identified : key.kid ≠ []
  signature : key.kty = ascii "RSA" ∧ key.alg = ascii "RS256" ∧ key.publicUse = ascii "sig"
  operations : key.keyOps = none ∨ key.keyOps = some [ascii "verify"]
  imported : ∃ modulusBits, KeyHost.importKey key = .imported false (some modulusBits) ∧
    minimumActionsOidcRsaModulusBits ≤ modulusBits

/-- A key id is read of the keys that verify signatures, and it is the one that they carry. -/
theorem readKeyId_eq_ok {key : Jwk} {keyId : Text} : readKeyId key = .ok keyId ↔ key.Verifies ∧ keyId = key.kid := by
  have fields : key.Verifies ↔ key.kid ≠ [] ∧ (key.kty = ascii "RSA" ∧ key.alg = ascii "RS256" ∧ key.publicUse = ascii "sig") ∧
      (key.keyOps = none ∨ key.keyOps = some [ascii "verify"]) ∧
      ∃ modulusBits, KeyHost.importKey key = .imported false (some modulusBits) ∧
        minimumActionsOidcRsaModulusBits ≤ modulusBits :=
    ⟨fun ⟨identified, signature, operations, imported⟩ => ⟨identified, signature, operations, imported⟩,
      fun ⟨identified, signature, operations, imported⟩ => ⟨identified, signature, operations, imported⟩⟩
  rw [fields, readKeyId]
  simp only [bind_unit_eq_ok, raiseIf_eq_ok, not_or, not_not, not_and_or, and_assoc]
  refine and_congr_right fun _ => and_congr_right fun _ => and_congr_right fun _ => and_congr_right fun _ =>
    and_congr_right fun _ => ?_
  cases KeyHost.importKey key with
  | refused => simp
  | imported isPrivate modulus =>
    cases isPrivate with
    | true => simp
    | false =>
      cases modulus with
      | none => simp
      | some modulusBits =>
        have same : (Except.ok key.kid : Py Text) = .ok keyId ↔ keyId = key.kid := by simp [eq_comm]
        have bits : (∃ other, ImportedKey.imported false (some modulusBits) = .imported false (some other) ∧
            minimumActionsOidcRsaModulusBits ≤ other) ↔ minimumActionsOidcRsaModulusBits ≤ modulusBits := by simp
        rw [bind_unit_eq_ok, raiseIf_eq_ok, not_lt, bits]
        exact and_congr_right fun _ => same

/-- The admitted keys all verify signatures. -/
theorem ActionsOidcJwkSet.verifies_of_ofRaw {values : List (List (Text × Json))} {keySet : ActionsOidcJwkSet}
    (made : ActionsOidcJwkSet.ofRaw values = .ok keySet) : ∀ key ∈ keySet.keys, key.Verifies := by
  intro key member
  have listed : key ∈ values.filterMap admitJwk := by
    rw [ofRaw] at made
    split at made
    · cases made
    split at made
    · cases made
    split at made
    · cases made
    split at made
    · cases made
      exact member
    · cases made
  obtain ⟨value, _, admitted⟩ := List.mem_filterMap.mp listed
  rw [admitJwk] at admitted
  split at admitted
  · cases admitted
  · simp only [Option.bind_eq_bind, Option.bind_eq_some_iff, Option.ite_none_right_eq_some, Option.some.injEq] at admitted
    obtain ⟨_, _, _, _, _, _, _, _, _, _, _, _, _, _, readable, rfl⟩ := admitted
    exact (readKeyId_eq_ok.mp (eq_ok_returned readable)).1

end Keys

structure JwksFetchResponse where
  status : Nat
  contentType : Option Text
  body : List Nat

/-- The key set that a refresh obtained, and when. -/
structure KeySnapshot where
  keySet : ActionsOidcJwkSet
  obtainedAt : Rat

/-- How a refresh ends: it may also raise, or be cancelled before it begins. -/
inductive RefreshResult where
  | snapshot (obtained : KeySnapshot)
  | unavailable (refusal : JwksUnavailable)
  | raised

/-- What the transport answers to a refresh. -/
inductive FetchOutcome where
  | cancelled
  | failed
  | failure (kind : JwksTransportFailureKind)
  | response (response : JwksFetchResponse)

def unavailable (kind : JwksUnavailableKind) (message : String) : JwksUnavailable :=
  ⟨kind, ascii message⟩

def transportFailure : JwksTransportFailureKind → JwksUnavailable
  | .cancelled => unavailable .fetchCancelled "JWKS fetch was cancelled"
  | .redirected => unavailable .responseRedirected "JWKS response must not redirect"
  | .timeout => unavailable .fetchTimeout "JWKS fetch timed out"
  | .responseOversize => unavailable .responseOversize "JWKS response exceeds the byte bound"
  | .unavailable => unavailable .fetchUnavailable "JWKS fetch is unavailable"

/-- The objects among the values of an array. -/
def objectKeys (values : List Json) : List (List (Text × Json)) :=
  values.filterMap fun value =>
    match value with
    | .obj members => some members
    | _ => none

section Decoding

variable [Interpreter] [KeyHost]

def decodeDocument : Json → Except JwksUnavailable ActionsOidcJwkSet
  | .obj members =>
    match memberOrNull members (ascii "keys") with
    | .arr values =>
      if maximumActionsOidcJwksKeys < values.length then
        .error (unavailable .responseInvalid "JWKS response exceeds the key-count bound")
      else
        match ActionsOidcJwkSet.ofRaw (objectKeys values) with
        | .ok keySet => .ok keySet
        | .error _ => .error (unavailable .responseInvalid "JWKS key entries are not admitted")
    | _ => .error (unavailable .responseInvalid "JWKS response has no key array")
  | _ => .error (unavailable .responseInvalid "JWKS response has no key array")

def decodeKeySet (response : JwksFetchResponse) (config : JwksProviderConfig) : Py (Except JwksUnavailable ActionsOidcJwkSet) :=
  if 300 ≤ response.status ∧ response.status < 400 then
    .ok (.error (unavailable .responseRedirected "JWKS response must not redirect"))
  else if response.status ≠ 200 then
    .ok (.error (unavailable .fetchUnavailable "JWKS endpoint returned a non-success status"))
  else if config.maximumResponseBytes < response.body.length then
    .ok (.error (unavailable .responseOversize "JWKS response exceeds the byte bound"))
  else if ¬ ∃ contentType ∈ response.contentType, config.requiredContentTypePrefix <+: KeyHost.lower contentType then
    .ok (.error (unavailable .responseInvalid "JWKS response content type is invalid"))
  else
    match loadStrictJson response.body config.maximumResponseBytes with
    | .error (.strictJsonError _) => .ok (.error (unavailable .responseInvalid "JWKS response is not valid JSON"))
    | .error error => .error error
    | .ok document => .ok (decodeDocument document)

/-- A refresh reads the clock as soon as the transport has answered. -/
def refresh (config : JwksProviderConfig) (outcome : FetchOutcome) (obtainedAt : Rat) : RefreshResult :=
  match outcome with
  | .cancelled => .unavailable (unavailable .fetchCancelled "JWKS fetch was cancelled")
  | .failed => .unavailable (unavailable .fetchUnavailable "JWKS fetch is unavailable")
  | .failure kind => .unavailable (transportFailure kind)
  | .response response =>
    match decodeKeySet response config with
    | .error _ => .raised
    | .ok (.error refusal) => .unavailable refusal
    | .ok (.ok keySet) => .snapshot ⟨keySet, obtainedAt⟩

variable {config : JwksProviderConfig} {keySet : ActionsOidcJwkSet}

omit [Interpreter] in
theorem verifies_of_decodeDocument {document : Json} (decoded : decodeDocument document = .ok keySet) :
    ∀ key ∈ keySet.keys, key.Verifies := by
  unfold decodeDocument at decoded
  split at decoded
  · split at decoded
    · split at decoded
      · cases decoded
      split at decoded
      · rename_i made
        cases decoded
        exact ActionsOidcJwkSet.verifies_of_ofRaw made
      · cases decoded
    · cases decoded
  · cases decoded

theorem verifies_of_decodeKeySet {response : JwksFetchResponse} (decoded : decodeKeySet response config = .ok (.ok keySet)) :
    ∀ key ∈ keySet.keys, key.Verifies := by
  unfold decodeKeySet at decoded
  split at decoded
  · cases decoded
  split at decoded
  · cases decoded
  split at decoded
  · cases decoded
  split at decoded
  · cases decoded
  split at decoded
  · cases decoded
  · cases decoded
  · exact verifies_of_decodeDocument (Except.ok.inj decoded)

/-- The keys that a refresh obtains all verify signatures. -/
theorem verifies_of_refresh {outcome : FetchOutcome} {obtainedAt : Rat} {obtained : KeySnapshot}
    (refreshed : refresh config outcome obtainedAt = .snapshot obtained) : ∀ key ∈ obtained.keySet.keys, key.Verifies := by
  cases outcome with
  | cancelled => cases refreshed
  | failed => cases refreshed
  | failure kind => cases refreshed
  | response response =>
    simp only [refresh] at refreshed
    split at refreshed
    · cases refreshed
    · cases refreshed
    · rename_i keySet accepted
      cases refreshed
      exact verifies_of_decodeKeySet accepted

end Decoding

/-- What the lock of the provider guards. A refresh task is named by its number. -/
structure CachingJwksProvider where
  snapshot : Option KeySnapshot
  refreshTask : Option Nat
  refreshAllowedAt : Rat
  closed : Bool

/-- What a caller asks for: the keys that have a key id, or only whether there are current keys. -/
inductive KeyRequest where
  | getKeySet (keyId : Text)
  | probe
  deriving DecidableEq

/-- The answer to a request. Keys come with the snapshot they are from and the reading of the clock that admitted it. -/
inductive KeyAnswer where
  | keys (obtained : KeySnapshot) (now : Rat)
  | current
  | unavailable (refusal : JwksUnavailable)

/-- A snapshot is current from when it was obtained until it has the maximum age. -/
def KeySnapshot.Current (snapshot : KeySnapshot) (config : JwksProviderConfig) (now : Rat) : Prop :=
  snapshot.obtainedAt ≤ now ∧ now < snapshot.obtainedAt + config.maximumCacheAgeSeconds

instance (snapshot : KeySnapshot) (config : JwksProviderConfig) (now : Rat) : Decidable (snapshot.Current config now) :=
  inferInstanceAs (Decidable (_ ∧ _))

def ActionsOidcJwkSet.HasKey (keySet : ActionsOidcJwkSet) (keyId : Text) : Prop :=
  ∃ key ∈ keySet.keys, key.kid = keyId

instance (keySet : ActionsOidcJwkSet) (keyId : Text) : Decidable (keySet.HasKey keyId) :=
  inferInstanceAs (Decidable (∃ key ∈ keySet.keys, _))

namespace CachingJwksProvider

def new : CachingJwksProvider :=
  ⟨none, none, 0, false⟩

variable (self : CachingJwksProvider) (config : JwksProviderConfig)

def matchingSnapshot (keyId : Text) (now : Rat) : Option KeySnapshot :=
  self.snapshot.filter fun snapshot => decide (snapshot.Current config now ∧ snapshot.keySet.HasKey keyId)

def hasCurrentSnapshot (now : Rat) : Bool :=
  self.snapshot.any fun snapshot => decide (snapshot.Current config now)

variable (request : KeyRequest)

/-- What the cache itself answers to a request. -/
def cached (now : Rat) : Option KeyAnswer :=
  match request with
  | .getKeySet keyId => (self.matchingSnapshot config keyId now).map fun snapshot => .keys snapshot now
  | .probe => if self.hasCurrentSnapshot config now then some .current else none

/-- The first critical section of a request answers it, or names the task to wait for. -/
inductive Entry where
  | answer (answer : KeyAnswer)
  | wait (task : Nat)
  | spawn

def enter (now : Rat) : Entry :=
  if self.closed then .answer (.unavailable (unavailable .fetchUnavailable "JWKS provider is closed"))
  else
    match self.cached config request now with
    | some answer => .answer answer
    | none =>
      match self.refreshTask with
      | some task => .wait task
      | none =>
        if now < self.refreshAllowedAt then
          .answer (.unavailable (unavailable .refreshThrottled "JWKS refresh is throttled"))
        else .spawn

/-- The result of a task is published once, and never after the provider has been closed. -/
def Publishes (task : Nat) : Prop :=
  self.closed = false ∧ self.refreshTask = some task

instance (task : Nat) : Decidable (self.Publishes task) :=
  inferInstanceAs (Decidable (_ ∧ _))

def publishRefresh (task : Nat) (result : RefreshResult) (now : Rat) : CachingJwksProvider :=
  if self.Publishes task then
    match result with
    | .snapshot obtained =>
      { self with
        refreshTask := none
        snapshot := some obtained
        refreshAllowedAt := obtained.obtainedAt + config.minimumRefreshIntervalSeconds }
    | _ => { self with refreshTask := none, refreshAllowedAt := now + config.failureBackoffSeconds }
  else self

/-- What a request answers after the refresh that it waited for. -/
def settle (result : RefreshResult) (now : Rat) : KeyAnswer :=
  match self.cached config request now, result with
  | some answer, _ => answer
  | none, .unavailable refusal => .unavailable refusal
  | none, _ =>
    match request with
    | .getKeySet _ => .unavailable (unavailable .signingKeyUnavailable "OIDC signing key is unavailable")
    | .probe => .unavailable (unavailable .fetchUnavailable "JWKS snapshot is no longer current")

def aclose : CachingJwksProvider :=
  if self.closed then self else { self with closed := true, snapshot := none, refreshTask := none }

end CachingJwksProvider

end CiCoordinator.IdentityAdmission

import CiCoordinator.ControlPlaneIdentity.Model
import CiCoordinator.Library.Base64

/- The sessions of the control plane: how a login issues one, who it authenticates and what ends it. -/

namespace CiCoordinator.ControlPlaneIdentity

open Library Kernel

structure ControlPlaneSessionRecordFields where
  handleDigest : List Nat
  issuer : Text
  subject : Text
  keycloakSessionId : Text
  actorId : Text
  roles : Finset ControlPlaneRole
  authorityProfileDigest : Text
  issuedAt : Instant
  expiresAt : Instant
  display : DisplayMetadata
  deriving DecidableEq

def ControlPlaneSessionRecordFields.postInit (self : ControlPlaneSessionRecordFields) : Py Unit := do
  requireBytes self.handleDigest (ascii "session handle digest") 32
  requireIdentity self.issuer self.subject self.keycloakSessionId
  let actor ← deriveHumanActorId self.issuer self.subject
  valueErrorIf (self.actorId ≠ actor) (ascii "session actor does not match its immutable identity")
  requireDigest self.authorityProfileDigest (ascii "authority profile digest")
  requireTimeInterval self.issuedAt self.expiresAt (ascii "control-plane session")
  valueErrorIf (self.issuedAt.micros + secondMicros * maxSessionSeconds < self.expiresAt.micros)
    (ascii "control-plane session exceeds the 15 minute maximum")

/-- A session keeps the digest of its handle, never the handle. -/
structure ControlPlaneSessionRecord extends ControlPlaneSessionRecordFields where
  admitted : toControlPlaneSessionRecordFields.postInit = .ok ()
  deriving DecidableEq

structure BackChannelLogoutTargetFields where
  keycloakSessionId : Option Text
  subject : Option Text
  deriving DecidableEq

def BackChannelLogoutTargetFields.postInit (self : BackChannelLogoutTargetFields) : Py Unit := do
  valueErrorIf (self.keycloakSessionId = none ∧ self.subject = none)
    (ascii "back-channel logout requires sid, subject, or both")
  requireOptionalText self.keycloakSessionId (ascii "logout session id") 512
  requireOptionalText self.subject (ascii "logout subject") 512

structure BackChannelLogoutTarget extends BackChannelLogoutTargetFields where
  admitted : toBackChannelLogoutTargetFields.postInit = .ok ()
  deriving DecidableEq

structure BackChannelLogoutEvidenceFields where
  issuer : Text
  tokenId : Text
  issuedAt : Instant
  expiresAt : Instant
  target : BackChannelLogoutTarget
  deriving DecidableEq

def BackChannelLogoutEvidenceFields.postInit (self : BackChannelLogoutEvidenceFields) : Py Unit := do
  requireIssuer self.issuer
  requireText self.tokenId (ascii "logout token id") 512
  requireTimeInterval self.issuedAt self.expiresAt (ascii "back-channel logout token")
  valueErrorIf (self.issuedAt.micros + secondMicros * maxLogoutTokenSeconds < self.expiresAt.micros)
    (ascii "back-channel logout token exceeds its lifetime maximum")

/-- A verified token by which the provider ends sessions. -/
structure BackChannelLogoutEvidence extends BackChannelLogoutEvidenceFields where
  admitted : toBackChannelLogoutEvidenceFields.postInit = .ok ()
  deriving DecidableEq

structure BrowserIdentityPolicyFields where
  issuer : Text
  authorityProfileDigest : Text
  sessionMaximumSeconds : Nat
  transactionMaximumSeconds : Nat
  clockSkewSeconds : Nat
  logoutTokenMaximumAgeSeconds : Nat
  deriving DecidableEq

def requireBoundedInteger (value : Nat) (name : Text) (minimum maximum : Nat) : Py Unit :=
  valueErrorIf (¬ (minimum ≤ value ∧ value ≤ maximum))
    (name ++ ascii " must be in [" ++ decimal minimum ++ ascii ", " ++ decimal maximum ++ ascii "]")

def BrowserIdentityPolicyFields.postInit (self : BrowserIdentityPolicyFields) : Py Unit := do
  valueErrorIf (isCanonicalOidcIssuer self.issuer = false) (ascii "browser identity issuer must be a canonical HTTPS URL")
  valueErrorIf (isSha256Hex self.authorityProfileDigest = false)
    (ascii "authority profile digest must be lowercase SHA-256 hexadecimal")
  requireBoundedInteger self.sessionMaximumSeconds (ascii "session maximum") 60 900
  requireBoundedInteger self.transactionMaximumSeconds (ascii "transaction maximum") 60 300
  requireBoundedInteger self.clockSkewSeconds (ascii "clock skew") 0 120
  requireBoundedInteger self.logoutTokenMaximumAgeSeconds (ascii "logout token maximum age") 1 120

structure BrowserIdentityPolicy extends BrowserIdentityPolicyFields where
  admitted : toBrowserIdentityPolicyFields.postInit = .ok ()
  deriving DecidableEq

structure BrowserOAuthTransaction where
  stateDigest : List Nat
  nonce : Text
  codeVerifier : Text
  authorityProfileDigest : Text
  issuedAt : Instant
  deriving DecidableEq

/-- The keys that are derived from the master key; the cipher opens the cookies of transactions. -/
structure ControlPlaneIdentityCrypto where
  sessionHandleKey : List Nat
  openBrowserTransaction : Option Text → Option BrowserOAuthTransaction

namespace ControlPlaneIdentityCrypto

/-- The text of random bytes, without the characters that fill up the last group. -/
def encodeHandle (bytes : List Nat) : Text :=
  ((Base64.encode bytes).reverse.dropWhile fun point => decide (point = Base64.pad)).reverse

variable (crypto : ControlPlaneIdentityCrypto)

def handleDigest (handle : Text) : Option (List Nat) :=
  if isHandle handle = true then some (hmacSha256 crypto.sessionHandleKey handle.utf8) else none

def stateMatches (transaction : BrowserOAuthTransaction) (state : Text) : Bool :=
  isHandle state && decide (transaction.stateDigest = sha256 state.utf8)

variable (evidence : KeycloakBrowserEvidence)

/-- The fields of the session that evidence admits. -/
def sessionFields (digest : List Nat) (issuedAt expiresAt : Instant)
    (authorityProfileDigest : Text) : ControlPlaneSessionRecordFields :=
  ⟨digest, evidence.issuer, evidence.subject, evidence.keycloakSessionId, humanActorId evidence.issuer evidence.subject,
    evidence.roles, authorityProfileDigest, issuedAt, expiresAt, evidence.display⟩

def issueSession (issuedAt expiresAt : Instant)
    (authorityProfileDigest : Text) (random : List Nat) : Py (Text × ControlPlaneSessionRecord) :=
  let handle := encodeHandle random
  match crypto.handleDigest handle with
  | none => .error (.runtimeError (ascii "generated session handle is invalid"))
  | some digest => do
    let fields := sessionFields evidence digest issuedAt expiresAt authorityProfileDigest
    let record ← construct fields.postInit fun admitted => (⟨fields, admitted⟩ : ControlPlaneSessionRecord)
    return (handle, record)

/-- The fields of the principal that a session stands for. -/
def principalFields (handle : Text) (record : ControlPlaneSessionRecord) : KeycloakHumanPrincipalFields :=
  ⟨record.issuer, record.subject, record.keycloakSessionId, record.roles, handle, record.expiresAt,
    record.authorityProfileDigest, record.display⟩

/-- A session is restored for the handle that it has been issued with. -/
def restoreHumanPrincipal (handle : Text) (record : ControlPlaneSessionRecord) :
    Option KeycloakHumanPrincipal :=
  if crypto.handleDigest handle = some record.handleDigest then
    (construct (principalFields handle record).postInit fun admitted =>
      (⟨principalFields handle record, admitted⟩ : KeycloakHumanPrincipal)).toOption
  else none

end ControlPlaneIdentityCrypto

section Issues

variable {crypto : ControlPlaneIdentityCrypto} {evidence : KeycloakBrowserEvidence} {digest : List Nat} {profile handle : Text}
  {issuedAt expiresAt : Instant} {random : List Nat}

theorem deriveHumanActorId_eq_ok {issuer subject sessionId : Text} (identity : requireIdentity issuer subject sessionId = .ok ()) :
    deriveHumanActorId issuer subject = .ok (humanActorId issuer subject) := by
  simp only [requireIdentity, bind_unit_eq_ok] at identity
  rw [deriveHumanActorId, identity.1, ok_bind_eq, identity.2.1, ok_bind_eq]
  rfl

/-- What a session has to meet. -/
theorem sessionRecord_admitted {self : ControlPlaneSessionRecordFields} (sized : self.handleDigest.length = 32)
    (identity : requireIdentity self.issuer self.subject self.keycloakSessionId = .ok ())
    (actor : deriveHumanActorId self.issuer self.subject = .ok self.actorId)
    (digested : isSha256Hex self.authorityProfileDigest = true) (order : self.issuedAt < self.expiresAt)
    (short : self.expiresAt.micros ≤ self.issuedAt.micros + secondMicros * maxSessionSeconds) : self.postInit = .ok () := by
  have bytes : requireBytes self.handleDigest (ascii "session handle digest") 32 = .ok () := valueErrorIf_passes (not_not.mpr sized)
  have authority : requireDigest self.authorityProfileDigest (ascii "authority profile digest") = .ok () :=
    valueErrorIf_passes (by simp [digested])
  have interval : requireTimeInterval self.issuedAt self.expiresAt (ascii "control-plane session") = .ok () :=
    valueErrorIf_passes (not_le.mpr order)
  rw [ControlPlaneSessionRecordFields.postInit, bytes, ok_bind_eq, identity, ok_bind_eq, actor, ok_bind_eq,
    valueErrorIf_passes (not_not.mpr rfl), ok_bind_eq, authority, ok_bind_eq, interval, ok_bind_eq,
    valueErrorIf_passes (not_lt.mpr short)]

/-- The session that evidence admits passes the checks of a session. -/
theorem sessionFields_admitted (sized : digest.length = 32) (digested : isSha256Hex profile = true) (order : issuedAt < expiresAt)
    (short : expiresAt.micros ≤ issuedAt.micros + secondMicros * maxSessionSeconds) :
    (ControlPlaneIdentityCrypto.sessionFields evidence digest issuedAt expiresAt profile).postInit = .ok () :=
  have identity := (bind_unit_eq_ok.mp evidence.admitted).1
  sessionRecord_admitted sized identity (deriveHumanActorId_eq_ok identity) digested order short

/-- A session is issued with a handle that is well formed. -/
theorem issueSession_ok (encoded : ControlPlaneIdentityCrypto.encodeHandle random = handle) (named : crypto.handleDigest handle = some digest)
    (admitted : (ControlPlaneIdentityCrypto.sessionFields evidence digest issuedAt expiresAt profile).postInit = .ok ()) :
    crypto.issueSession evidence issuedAt expiresAt profile random = .ok (handle, ⟨_, admitted⟩) := by
  rw [ControlPlaneIdentityCrypto.issueSession, encoded]
  dsimp only
  rw [named]
  dsimp only
  rw [construct_ok admitted]
  rfl

end Issues

inductive IdentityRejectionCode where
  | authorityProfileChanged
  | invalidLogin
  | invalidLogout
  | logoutReplayed
  | unauthenticated
  deriving DecidableEq

def maxCodeBytes : Nat :=
  1024

variable (policy : BrowserIdentityPolicy) (crypto : ControlPlaneIdentityCrypto)

/-- What a callback has to show before its code is exchanged. -/
def admitCallback (code state cookie : Option Text)
    (now : Instant) : Except IdentityRejectionCode (Text × BrowserOAuthTransaction) := do
  match crypto.openBrowserTransaction cookie with
  | none => .error .invalidLogin
  | some transaction =>
    raiseIf (¬ (transaction.issuedAt ≤ now ∧
      now.micros ≤ transaction.issuedAt.micros + secondMicros * policy.transactionMaximumSeconds)) .invalidLogin
    raiseIf (transaction.authorityProfileDigest ≠ policy.authorityProfileDigest) .authorityProfileChanged
    match code with
    | none => .error .invalidLogin
    | some code =>
      raiseIf (isBoundedText code maxCodeBytes = false ∨
        state.any (ControlPlaneIdentityCrypto.stateMatches transaction) = false) .invalidLogin
      return (code, transaction)

/-- The session of exchanged evidence, or none when the login is invalid; the three clocks are read one after another. -/
def prepareLogin (evidence : KeycloakBrowserEvidence)
    (applicationNow durableNow laterNow : Instant) (random : List Nat) : Py (Option (Text × ControlPlaneSessionRecord)) :=
  if evidence.issuer ≠ policy.issuer then .ok none
  else do
    let latest ← addSeconds applicationNow policy.clockSkewSeconds
    if latest < evidence.issuedAt ∨ evidence.expiresAt ≤ applicationNow then .ok none
    else do
      let bound ← addSeconds durableNow policy.sessionMaximumSeconds
      let expiresAt := min evidence.expiresAt bound
      if expiresAt ≤ durableNow ∨ evidence.expiresAt ≤ laterNow then .ok none
      else (crypto.issueSession evidence durableNow expiresAt policy.authorityProfileDigest random).map some

inductive BrowserAuthenticationResult where
  | authenticated (principal : KeycloakHumanPrincipal)
  | rejected (code : IdentityRejectionCode)
  deriving DecidableEq

/-- The answer for a session that has been loaded, and whether the session is to be deleted. -/
def authenticateRecord (handle : Text)
    (loaded : Option ControlPlaneSessionRecord) (now : Instant) : BrowserAuthenticationResult × Bool :=
  match loaded with
  | none => (.rejected .unauthenticated, false)
  | some record =>
    if record.authorityProfileDigest ≠ policy.authorityProfileDigest then (.rejected .authorityProfileChanged, true)
    else if record.issuer ≠ policy.issuer ∨ record.expiresAt ≤ now then (.rejected .unauthenticated, true)
    else
      match crypto.restoreHumanPrincipal handle record with
      | none => (.rejected .unauthenticated, true)
      | some principal => (.authenticated principal, false)

variable (evidence : BackChannelLogoutEvidence)

/-- How long the identity of a token that ends sessions is retained. -/
def logoutRetention : Py Instant := do
  let aged ← addSeconds evidence.issuedAt policy.logoutTokenMaximumAgeSeconds
  addSeconds (max evidence.expiresAt aged) policy.clockSkewSeconds

/-- A token is accepted in its time; the answer says how long its identity is retained. -/
def admitLogout (now : Instant) : Py (Option Instant) :=
  if evidence.issuer ≠ policy.issuer then .ok none
  else do
    let earliest ← subtractSeconds evidence.issuedAt policy.clockSkewSeconds
    if now < earliest then .ok none
    else do
      let latest ← addSeconds evidence.expiresAt policy.clockSkewSeconds
      if latest < now then .ok none
      else do
        let aged ← addSeconds evidence.issuedAt policy.logoutTokenMaximumAgeSeconds
        let oldest ← addSeconds aged policy.clockSkewSeconds
        if oldest < now then .ok none else (logoutRetention policy evidence).map some

end CiCoordinator.ControlPlaneIdentity

import CiCoordinator.ConfigControl.EpochDraft
import CiCoordinator.Kernel.Time
import CiCoordinator.Library.Url
import Mathlib.Data.Finset.Basic

/- The immutable values of the control plane's identities. -/

namespace CiCoordinator.ControlPlaneIdentity

open Library Kernel ConfigControl

inductive ControlPlaneRole where
  | activate
  | audit
  | configure
  | override
  | read
  deriving DecidableEq

def maxSessionSeconds : Nat :=
  900

/-- The longest life of a token that ends sessions. -/
def maxLogoutTokenSeconds : Nat :=
  120

section Checks

/-- The parts of a URL have to be the ones that it is written with. -/
def SplitUrl.isIssuer (parsed : SplitUrl) (value : Text) : Bool :=
  match parsed.hostname, parsed.port with
  | some hostname, some port =>
    let host := if colonSign ∈ hostname then [openSquare] ++ hostname ++ [closeSquare] else hostname
    let authority := match port with
      | none => host
      | some port => host ++ [colonSign] ++ decimal port
    decide (hostname = hostname.lower ∧ parsed.scheme = ascii "https" ∧ parsed.netloc ≠ [] ∧
      parsed.userinfo = (none, none) ∧ parsed.query = [] ∧ parsed.fragment = [] ∧ port ≠ some 0 ∧ port ≠ some 443 ∧
      value.getLast? ≠ some slash ∧ value = ascii "https://" ++ authority ++ parsed.path)
  | _, _ => false

variable (value : Text)

/-- An issuer is a canonical URL of printable ASCII. -/
def isCanonicalOidcIssuer : Bool :=
  decide (1 ≤ value.length ∧ value.length ≤ 512) && value.all (fun point => decide (0x21 ≤ point.val ∧ point.val ≤ 0x7E)) &&
    match urlsplit value with
    | none => false
    | some parsed => SplitUrl.isIssuer parsed value

def requireIssuer : Py Unit :=
  valueErrorIf (isCanonicalOidcIssuer value = false) (ascii "Keycloak issuer must be a canonical HTTPS URL")

/-- A text that is not empty, has no null character and is bounded in bytes. -/
def isBoundedText (maximumBytes : Nat) : Bool :=
  decide (value ≠ [] ∧ 0 ∉ value) && value.scalar && decide (value.utf8.length ≤ maximumBytes)

variable (value name : Text)

def requireText (maximumBytes : Nat) : Py Unit :=
  valueErrorIf (isBoundedText value maximumBytes = false) (name ++ ascii " must be bounded non-empty text")

def requireOptionalText (value : Option Text) (name : Text) (maximumBytes : Nat) : Py Unit :=
  match value with
  | none => .ok ()
  | some value => requireText value name maximumBytes

def requireDigest : Py Unit :=
  valueErrorIf (isSha256Hex value = false) (name ++ ascii " must be lowercase SHA-256 hexadecimal")

def isUrlSafe (point : CodePoint) : Bool :=
  point.isLetter || point.isDigit || decide (point = 0x2D ∨ point = 0x5F)

/-- A handle is the text of thirty-two bytes for URLs. -/
def isHandle : Bool :=
  decide (value.length = 43) && value.all isUrlSafe

def requireOpaqueHandle : Py Unit :=
  valueErrorIf (isHandle value = false) (name ++ ascii " must be canonical 32-byte base64url")

def requireBytes (value : List Nat) (name : Text) (exact : Nat) : Py Unit :=
  valueErrorIf (value.length ≠ exact) (name ++ ascii " must be exactly " ++ decimal exact ++ ascii " bytes")

def requireTimeInterval (start finish : Instant) (name : Text) : Py Unit :=
  valueErrorIf (finish ≤ start) (name ++ ascii " expiry must follow issue time")

def coordinateDigest (coordinates : List Text) : Text :=
  sha256Hex (List.intercalate [0] (coordinates.map Text.utf8))

end Checks

section Actors

def humanPrefix : Text :=
  ascii "keycloak-human:v1:"

def workloadPrefix : Text :=
  ascii "keycloak-workload:v1:"

def breakGlassPrefix : Text :=
  ascii "break-glass:v1:"

/-- A text that starts with a mark, and what follows it is admitted. -/
def startsWith (mark value : Text) (admits : Text → Bool) : Bool :=
  mark.isPrefixOf value && admits (value.drop mark.length)

variable (value : Text)

def isAdministratorActorId : Bool :=
  startsWith humanPrefix value isSha256Hex || startsWith workloadPrefix value isSha256Hex

/-- The name of a deployment begins and ends with a letter or a digit. -/
def isDeploymentIdentity : Bool :=
  let edge := fun point : CodePoint => point.isLower || point.isDigit
  decide (1 ≤ value.length ∧ value.length ≤ 64) &&
    value.all (fun point => edge point || decide (point = 0x2E ∨ point = 0x5F ∨ point = 0x2D)) &&
      value.head?.all edge && value.getLast?.all edge

def isBreakGlassActorId : Bool :=
  startsWith breakGlassPrefix value isDeploymentIdentity

def humanActorId (issuer subject : Text) : Text :=
  humanPrefix ++ coordinateDigest [issuer, subject]

def deriveHumanActorId (issuer subject : Text) : Py Text := do
  requireIssuer issuer
  requireText subject (ascii "Keycloak subject") 512
  return humanActorId issuer subject

def workloadActorId (issuer authorizedParty subject : Text) : Text :=
  workloadPrefix ++ coordinateDigest [issuer, authorizedParty, subject]

end Actors

structure DisplayMetadataFields where
  preferredUsername : Option Text
  displayName : Option Text
  deriving DecidableEq

def DisplayMetadataFields.postInit (self : DisplayMetadataFields) : Py Unit := do
  requireOptionalText self.preferredUsername (ascii "preferred username") 256
  requireOptionalText self.displayName (ascii "display name") 512

structure DisplayMetadata extends DisplayMetadataFields where
  admitted : toDisplayMetadataFields.postInit = .ok ()
  deriving DecidableEq

/-- The immutable coordinates of a person's identity. -/
def requireIdentity (issuer subject sessionId : Text) : Py Unit := do
  requireIssuer issuer
  requireText subject (ascii "Keycloak subject") 512
  requireText sessionId (ascii "Keycloak session id") 512

structure KeycloakBrowserEvidenceFields where
  issuer : Text
  subject : Text
  keycloakSessionId : Text
  roles : Finset ControlPlaneRole
  issuedAt : Instant
  expiresAt : Instant
  display : DisplayMetadata
  deriving DecidableEq

def KeycloakBrowserEvidenceFields.postInit (self : KeycloakBrowserEvidenceFields) : Py Unit := do
  requireIdentity self.issuer self.subject self.keycloakSessionId
  requireTimeInterval self.issuedAt self.expiresAt (ascii "Keycloak browser evidence")

/-- What the provider attests about a person who has logged in. -/
structure KeycloakBrowserEvidence extends KeycloakBrowserEvidenceFields where
  admitted : toKeycloakBrowserEvidenceFields.postInit = .ok ()
  deriving DecidableEq

structure KeycloakHumanPrincipalFields where
  issuer : Text
  subject : Text
  keycloakSessionId : Text
  roles : Finset ControlPlaneRole
  sessionHandle : Text
  expiresAt : Instant
  authorityProfileDigest : Text
  display : DisplayMetadata
  deriving DecidableEq

def KeycloakHumanPrincipalFields.postInit (self : KeycloakHumanPrincipalFields) : Py Unit := do
  requireIdentity self.issuer self.subject self.keycloakSessionId
  requireOpaqueHandle self.sessionHandle (ascii "browser session handle")
  requireDigest self.authorityProfileDigest (ascii "authority profile digest")

structure KeycloakHumanPrincipal extends KeycloakHumanPrincipalFields where
  admitted : toKeycloakHumanPrincipalFields.postInit = .ok ()
  deriving DecidableEq

def KeycloakHumanPrincipal.actorId (self : KeycloakHumanPrincipal) : Text :=
  humanActorId self.issuer self.subject

structure KeycloakWorkloadPrincipalFields where
  issuer : Text
  authorizedParty : Text
  subject : Text
  roles : Finset ControlPlaneRole
  issuedAt : Instant
  expiresAt : Instant
  authorityProfileDigest : Text
  deriving DecidableEq

def KeycloakWorkloadPrincipalFields.postInit (self : KeycloakWorkloadPrincipalFields) : Py Unit := do
  requireIssuer self.issuer
  requireText self.authorizedParty (ascii "Keycloak authorized party") 256
  requireText self.subject (ascii "Keycloak subject") 512
  requireTimeInterval self.issuedAt self.expiresAt (ascii "Keycloak workload principal")
  requireDigest self.authorityProfileDigest (ascii "authority profile digest")

structure KeycloakWorkloadPrincipal extends KeycloakWorkloadPrincipalFields where
  admitted : toKeycloakWorkloadPrincipalFields.postInit = .ok ()
  deriving DecidableEq

def KeycloakWorkloadPrincipal.actorId (self : KeycloakWorkloadPrincipal) : Text :=
  workloadActorId self.issuer self.authorizedParty self.subject

end CiCoordinator.ControlPlaneIdentity

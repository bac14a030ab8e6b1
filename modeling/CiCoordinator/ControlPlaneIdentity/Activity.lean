import CiCoordinator.ControlPlaneIdentity.Model
import CiCoordinator.CiEconomics.ArchiveStatistics

/- The queries of the activity of the control plane and the entries that answer them. -/

namespace CiCoordinator.ControlPlaneIdentity

open Library Kernel ConfigControl

def securityRetentionSeconds : Nat :=
  2592000

def maxActivityPageSize : Nat :=
  100

def businessActions : List Text :=
  [ascii "config-epoch-registration/v1", ascii "config-epoch-activation/v1", ascii "config-epoch-rollback/v1",
    ascii "ci-economics-history-configured/v1", ascii "ci-economics-history-gaps-requeued/v1",
    ascii "ci-economics-history-retention-applied/v1", ascii "operator_override_applied",
    ascii "governance-baseline-approved/v1"]

def securityActions : List Text :=
  [ascii "login", ascii "logout", ascii "expired", ascii "revoked", ascii "replaced", ascii "role_denied", ascii "export"]

inductive ActivitySource where
  | security
  | business
  deriving DecidableEq

def ActivitySource.text : ActivitySource → Text
  | .security => ascii "security"
  | .business => ascii "business"

def ActivitySource.actions : ActivitySource → List Text
  | .security => securityActions
  | .business => businessActions

inductive ActivityOutcome where
  | committed
  | denied
  | attempted
  deriving DecidableEq

variable (value : Text)

/-- A break-glass actor is read back from the deployment that it names. -/
def isActivityActor : Bool :=
  isAdministratorActorId value || isBreakGlassActorId value

/-- The principals that read the activity. -/
inductive ActivityPrincipal where
  | human (principal : KeycloakHumanPrincipal)
  | workload (principal : KeycloakWorkloadPrincipal)
  deriving DecidableEq

namespace ActivityPrincipal

def actorId : ActivityPrincipal → Text
  | .human principal => principal.actorId
  | .workload principal => principal.actorId

def expiresAt : ActivityPrincipal → Instant
  | .human principal => principal.expiresAt
  | .workload principal => principal.expiresAt

def authorityProfileDigest : ActivityPrincipal → Text
  | .human principal => principal.authorityProfileDigest
  | .workload principal => principal.authorityProfileDigest

end ActivityPrincipal

structure ActivityQueryFields where
  source : ActivitySource
  since : Instant
  untilTime : Instant
  issuer : Option Text
  scope : Option RepositoryScope
  actor : Option Text
  action : Option Text
  limit : Nat
  deriving DecidableEq

namespace ActivityQueryFields

/-- Each source has a scope of its own. -/
def admitScope (self : ActivityQueryFields) : Py Unit :=
  match self.source with
  | .security =>
    valueErrorIf (¬ (self.issuer.any isCanonicalOidcIssuer = true ∧ self.scope = none))
      (ascii "security activity requires exactly one issuer scope")
  | .business =>
    valueErrorIf (¬ (self.scope ≠ none ∧ self.issuer = none)) (ascii "business activity requires exactly one repository scope")

def postInit (self : ActivityQueryFields) : Py Unit := do
  forEach (fun time : Instant =>
      valueErrorIf (time.microsecond % 1000 ≠ 0) (ascii "activity time requires millisecond precision"))
    [self.since, self.untilTime]
  valueErrorIf (¬ (self.since < self.untilTime ∧ self.untilTime.micros ≤ self.since.micros + secondMicros * (31 * daySeconds)))
    (ascii "activity window must be positive and at most 31 days")
  self.admitScope
  valueErrorIf (∃ actor ∈ self.actor, isActivityActor actor = false) (ascii "invalid activity actor filter")
  valueErrorIf (∃ action ∈ self.action, action ∉ self.source.actions) (ascii "invalid activity action filter")
  valueErrorIf (¬ (1 ≤ self.limit ∧ self.limit ≤ maxActivityPageSize)) (ascii "invalid activity page limit")

end ActivityQueryFields

/-- A query of one source in a window of time. -/
structure ActivityQuery extends ActivityQueryFields where
  admitted : toActivityQueryFields.postInit = .ok ()
  deriving DecidableEq

def ActivityQuery.binding (self : ActivityQuery) : Json :=
  .obj [(ascii "source", .str self.source.text), (ascii "since", .str self.since.isoText),
    (ascii "until", .str self.untilTime.isoText), (ascii "issuer", CiEconomics.nullable .str self.issuer),
    (ascii "installation", CiEconomics.nullable (fun scope : RepositoryScope => .int scope.installationId) self.scope),
    (ascii "repository", CiEconomics.nullable (fun scope : RepositoryScope => .int scope.repositoryId) self.scope),
    (ascii "actor", CiEconomics.nullable .str self.actor), (ascii "action", CiEconomics.nullable .str self.action),
    (ascii "limit", .int self.limit)]

structure ActivityEntryFields where
  sequence : Int
  source : ActivitySource
  action : Text
  outcome : ActivityOutcome
  occurredAt : Instant
  actor : Option Text
  issuer : Option Text
  subject : Option Text
  operationRef : Text
  auditEventId : Option Text
  eventHash : Option Text
  deriving DecidableEq

/-- The lengths of the groups of hexadecimal digits in a universally unique identifier. -/
def isUuid : Bool :=
  let groups := value.splitOn 0x2D
  decide (groups.map List.length = [8, 4, 4, 4, 12]) && groups.all fun group => group.all CodePoint.isLowerHex

def isAuditEventId : Bool :=
  startsWith (ascii "audit_") value fun digits => decide (digits.length = 32) && digits.all CodePoint.isLowerHex

namespace ActivityEntryFields

/-- The outcome that the action of a security entry has. -/
def expectedOutcome (action : Text) : ActivityOutcome :=
  if action = ascii "role_denied" then .denied else if action = ascii "export" then .attempted else .committed

variable (self : ActivityEntryFields)

def isBusinessReference : Bool :=
  decide (self.issuer = none ∧ self.subject = none) && startsWith (ascii "sha256:") self.operationRef isSha256Hex &&
    self.auditEventId.any isAuditEventId && self.eventHash.any isSha256Hex

def isSecurityEntry : Bool :=
  decide (self.action ∈ securityActions ∧ self.outcome = expectedOutcome self.action) &&
    self.actor.any isAdministratorActorId && self.issuer.any isCanonicalOidcIssuer &&
      self.subject.any (fun subject => decide (1 ≤ subject.utf8.length ∧ subject.utf8.length ≤ 512)) &&
        isUuid self.operationRef && decide (self.auditEventId = none ∧ self.eventHash = none)

def postInit : Py Unit := do
  valueErrorIf (¬ (1 ≤ self.sequence ∧ self.sequence ≤ maxSafeJsonInteger)) (ascii "invalid activity sequence")
  valueErrorIf (∃ actor ∈ self.actor, isActivityActor actor = false) (ascii "invalid retained activity actor")
  match self.source with
  | .business => do
    valueErrorIf (¬ (self.action ∈ businessActions ∧ self.outcome = .committed)) (ascii "invalid business activity action")
    valueErrorIf (self.isBusinessReference = false) (ascii "invalid business activity reference")
  | .security => valueErrorIf (self.isSecurityEntry = false) (ascii "invalid security activity")

end ActivityEntryFields

structure ActivityEntry extends ActivityEntryFields where
  admitted : toActivityEntryFields.postInit = .ok ()
  deriving DecidableEq

def ActivityEntry.make (fields : ActivityEntryFields) : Py ActivityEntry :=
  construct fields.postInit fun admitted => ⟨fields, admitted⟩

/-- Whether a page is of the journal or of the references of the audit ledger. -/
inductive ActivityIntegrity where
  | journalTransaction
  | auditReferenceOnly
  deriving DecidableEq

structure ActivityPage where
  items : List ActivityEntry
  nextCursor : Option Text
  observedAt : Instant
  retentionSeconds : Option Nat
  integrity : ActivityIntegrity
  deriving DecidableEq

end CiCoordinator.ControlPlaneIdentity

import CiCoordinator.CiEconomics.ArchiveStatistics
import CiCoordinator.CiEconomics.HistoryConfiguration

/- The details that an archive keeps of an attempt for a time, and their retention. -/

namespace CiCoordinator.CiEconomics

open Library Kernel

def maxHistoryDetailBytes : Nat :=
  262144

/-- The bound of a stored detail is the one of the statistics. -/
def maxStoredHistoryDetailBytes : Nat :=
  maxHistoryStatisticsBytes

structure ArchiveStepFields where
  number : Int
  conclusion : Option WorkflowConclusion
  startedAt : Option Instant
  completedAt : Option Instant
  deriving DecidableEq

/-- A step of a job that has been completed. -/
structure ArchiveStepDetail extends ArchiveStepFields where
  admitted : 1 ≤ number ∧ number ≤ maxSafeJsonInteger
  deriving DecidableEq

def ArchiveStepDetail.canonicalMapping (self : ArchiveStepDetail) : Json :=
  .obj [(ascii "number", .int self.number), (ascii "status", .str (ascii "completed")),
    (ascii "conclusion", nullable (fun conclusion => .str conclusion.text) self.conclusion),
    (ascii "startedAt", nullable (fun instant => .str (wireInstant instant)) self.startedAt),
    (ascii "completedAt", nullable (fun instant => .str (wireInstant instant)) self.completedAt)]

/-- The steps of a job in the order of their numbers. -/
@[ext] structure ArchivedJobDetail where
  providerJobId : Int
  steps : List ArchiveStepDetail
  identity : 1 ≤ providerJobId ∧ providerJobId ≤ maxSafeJsonInteger
  bounded : steps.length ≤ 256
  ordered : Increasing (fun step : ArchiveStepDetail => step.number) steps

instance : DecidableEq ArchivedJobDetail :=
  fun _ _ => decidable_of_iff' _ ArchivedJobDetail.ext_iff

/-- The details of the jobs of an attempt. -/
structure ArchivedAttemptDetail where
  attempt : AttemptIdentity
  jobs : List ArchivedJobDetail
  bounded : jobs.length ≤ maxJobsPerAttempt
  ordered : Increasing (fun job : ArchivedJobDetail => job.providerJobId) jobs
  deriving DecidableEq

def ArchivedAttemptDetail.canonicalMapping (self : ArchivedAttemptDetail) : Json :=
  .obj [(ascii "schemaVersion", .str (ascii "ci-economics-archive-detail/v1")),
    (ascii "attempt", self.attempt.canonicalMapping),
    (ascii "jobs", .arr (self.jobs.map fun job =>
      .obj [(ascii "providerJobId", .int job.providerJobId),
        (ascii "steps", .arr (job.steps.map ArchiveStepDetail.canonicalMapping))]))]

variable (statistics : ArchivedAttemptStatistics) (detail : ArchivedAttemptDetail)

def validateHistoryDetail : Py Unit := do
  valueErrorIf (statistics.header.population ≠ .complete)
    (ascii "archive detail requires a complete statistics population")
  valueErrorIf (detail.attempt ≠ statistics.header.attempt)
    (ascii "archive detail attempt identity differs from statistics")
  valueErrorIf (detail.jobs.map (fun job => job.providerJobId) ≠ statistics.jobs.map fun job => job.providerJobId)
    (ascii "archive detail job identities differ from statistics")

def encodeArchiveDetail : Py (List Nat) :=
  boundedCanonicalJson detail.canonicalMapping maxHistoryDetailBytes

/-- A detail that cannot be validated or encoded is not available. -/
def validateAndEncodeDetail :
    Option (List Nat) :=
  match validateHistoryDetail statistics detail with
  | .error _ => none
  | .ok () =>
    match encodeArchiveDetail detail with
    | .error _ => none
    | .ok encoded => if 1 ≤ encoded.length ∧ encoded.length ≤ maxHistoryDetailBytes then some encoded else none

inductive ArchiveDetailState where
  | notImported
  | retained
  | expired
  deriving DecidableEq

def ArchiveDetailState.text : ArchiveDetailState → Text
  | .notImported => ascii "not_imported"
  | .retained => ascii "retained"
  | .expired => ascii "expired"

/-- The first import of a detail with the policy that was last applied to it. -/
structure AppliedRetention where
  firstImportedAt : Instant
  policy : DetailRetentionPolicy
  reference : DetailPolicyReference
  deriving DecidableEq

/-- The number of days for which a policy keeps a detail. -/
def DetailRetentionPolicy.dayCount : DetailRetentionPolicy → Option Nat
  | .days count _ => some count
  | _ => none

structure ArchiveDetailRetentionFields where
  state : ArchiveDetailState
  applied : Option AppliedRetention
  deriving DecidableEq

/-- The deadline of a detail that is kept for a number of days. -/
def AppliedRetention.deadline (applied : AppliedRetention) : Py (Option Instant) :=
  match applied.policy.dayCount with
  | none => .ok none
  | some count =>
    match addSeconds applied.firstImportedAt (daySeconds * count) with
    | .ok deadline => .ok (some deadline)
    | .error _ => .error (.valueError (ascii "detail deadline is outside the representable time domain"))

def ArchiveDetailRetentionFields.postInit (self : ArchiveDetailRetentionFields) : Py Unit :=
  match self.state, self.applied with
  | .notImported, none => .ok ()
  | .notImported, some _ => .error (.valueError (ascii "never imported detail cannot have applied retention"))
  | _, none => .error (.typeError (ascii "imported detail requires exact first import and applied policy"))
  | state, some applied => do
    valueErrorIf (state = .retained ∧ applied.policy = .disabled)
      (ascii "disabled applied policy cannot admit retained detail")
    let _ ← applied.deadline
    return ()

/-- The retention of the detail of an attempt. -/
structure ArchiveDetailRetention extends ArchiveDetailRetentionFields where
  admitted : toArchiveDetailRetentionFields.postInit = .ok ()
  deriving DecidableEq

namespace ArchiveDetailRetention

def make (fields : ArchiveDetailRetentionFields) : Py ArchiveDetailRetention :=
  construct fields.postInit fun admitted => ⟨fields, admitted⟩

def notImported : ArchiveDetailRetention :=
  ⟨⟨.notImported, none⟩, rfl⟩

variable (self : ArchiveDetailRetention)

def expiresAt : Option Instant :=
  match self.applied with
  | none => none
  | some applied => (applied.deadline.toOption).join

def DueAt (now : Instant) : Prop :=
  self.state = .retained ∧ ∃ deadline ∈ self.expiresAt, deadline ≤ now

instance (self : ArchiveDetailRetention) (now : Instant) : Decidable (self.DueAt now) := by
  unfold DueAt
  infer_instance

end ArchiveDetailRetention

def recordFirstDetailImport (prior : ArchiveDetailRetention) (policy : DetailRetentionPolicy)
    (reference : DetailPolicyReference) (now : Instant) : Py ArchiveDetailRetention :=
  if prior.state ≠ .notImported ∨ policy = .disabled then .ok prior
  else ArchiveDetailRetention.make ⟨.retained, some ⟨now, policy, reference⟩⟩

def expireArchiveDetail (prior : ArchiveDetailRetention) (now : Instant) : Py ArchiveDetailRetention :=
  if prior.DueAt now then ArchiveDetailRetention.make { prior.toArchiveDetailRetentionFields with state := .expired }
  else .ok prior

/-- The revision of a policy does not go back, and a revision names one policy. -/
def requireCurrentPolicy (prior : ArchiveDetailRetention) (policy : DetailRetentionPolicy)
    (reference : DetailPolicyReference) : Py Unit := do
  valueErrorIf (∃ applied ∈ prior.applied, reference.source = applied.reference.source ∧
      reference.revision < applied.reference.revision)
    (ascii "detail policy application cannot regress its revision")
  valueErrorIf (∃ applied ∈ prior.applied, reference = applied.reference ∧ policy ≠ applied.policy)
    (ascii "one policy revision cannot name conflicting policies")

def applyDetailPolicy (prior : ArchiveDetailRetention) (policy : DetailRetentionPolicy)
    (reference : DetailPolicyReference) (now : Instant) : Py ArchiveDetailRetention := do
  requireCurrentPolicy prior policy reference
  let current ← expireArchiveDetail prior now
  if current.state ≠ .retained ∨ ∃ applied ∈ current.applied, reference = applied.reference then
    return current
  else
    let successor ← ArchiveDetailRetention.make {
      state := if policy = .disabled then .expired else .retained
      applied := current.applied.map fun applied => { applied with policy := policy, reference := reference } }
    expireArchiveDetail successor now

/-- The instant at which a detail was first imported. -/
def ArchiveDetailRetention.importedAt (retention : ArchiveDetailRetention) : Option Instant :=
  retention.applied.map AppliedRetention.firstImportedAt

section Imports

variable {prior successor : ArchiveDetailRetention} {now : Instant}

theorem makeRetention_eq_ok {fields : ArchiveDetailRetentionFields}
    (made : ArchiveDetailRetention.make fields = .ok successor) : successor.toArchiveDetailRetentionFields = fields := by
  rw [ArchiveDetailRetention.make, construct_eq_ok] at made
  obtain ⟨_, rfl⟩ := made
  rfl

theorem expireArchiveDetail_importedAt (expired : expireArchiveDetail prior now = .ok successor) :
    successor.importedAt = prior.importedAt := by
  unfold expireArchiveDetail at expired
  split at expired
  · rw [ArchiveDetailRetention.importedAt, makeRetention_eq_ok expired, ArchiveDetailRetention.importedAt]
  · cases expired
    rfl

/-- No policy renews the import of a detail. -/
theorem applyDetailPolicy_importedAt {policy : DetailRetentionPolicy} {reference : DetailPolicyReference}
    (applied : applyDetailPolicy prior policy reference now = .ok successor) :
    successor.importedAt = prior.importedAt := by
  simp only [applyDetailPolicy, bind_eq_ok] at applied
  obtain ⟨_, _, current, expired, rest⟩ := applied
  have before := expireArchiveDetail_importedAt expired
  split at rest
  · cases rest
    exact before
  · simp only [bind_eq_ok] at rest
    obtain ⟨renewed, made, expiredAgain⟩ := rest
    rw [expireArchiveDetail_importedAt expiredAgain, ArchiveDetailRetention.importedAt, makeRetention_eq_ok made, ← before,
      ArchiveDetailRetention.importedAt, Option.map_map]
    rfl

end Imports

end CiCoordinator.CiEconomics

import CiCoordinator.CiEconomics.Observation

/- The configuration, the quota and the dataset of a history archive. -/

namespace CiCoordinator.CiEconomics

open Library Kernel ConfigControl

def maxArchiveDetailDays : Nat :=
  36500

/-- How long the details of an attempt are kept after their first import. -/
inductive DetailRetentionPolicy where
  | disabled
  | days (count : Nat) (bounded : 1 ≤ count ∧ count ≤ maxArchiveDetailDays)
  | forever
  deriving DecidableEq

inductive DetailPolicySource where
  | serviceDefault
  | repositoryOverride
  deriving DecidableEq

structure DetailPolicyReference where
  source : DetailPolicySource
  revision : Int
  deriving DecidableEq

/-- The largest archive that a configuration admits. -/
structure HistoryQuota where
  attempts : Nat
  jobs : Nat
  gaps : Nat
  canonicalBytes : Nat
  positive : 1 ≤ attempts ∧ 1 ≤ jobs ∧ 1 ≤ gaps ∧ 1 ≤ canonicalBytes
  safe : attempts ≤ maxSafeJsonInteger ∧ jobs ≤ maxSafeJsonInteger ∧ gaps ≤ maxSafeJsonInteger ∧
    canonicalBytes ≤ maxSafeJsonInteger
  deriving DecidableEq

structure HistoryConfiguration where
  enabled : Bool
  workflowIds : Option (List Int)
  detailRetention : Option DetailRetentionPolicy
  quota : HistoryQuota
  selector : ∀ ids ∈ workflowIds, AdmittedSelector ids

instance : DecidableEq HistoryConfiguration := fun first second =>
  decidable_of_iff (first.enabled = second.enabled ∧ first.workflowIds = second.workflowIds ∧
      first.detailRetention = second.detailRetention ∧ first.quota = second.quota)
    (by rcases first with ⟨⟩; rcases second with ⟨⟩; simp)

/-- The resources that a dataset occupies. -/
structure HistoryUsage where
  attempts : Nat
  jobs : Nat
  gaps : Nat
  canonicalBytes : Nat
  safe : attempts ≤ maxSafeJsonInteger ∧ jobs ≤ maxSafeJsonInteger ∧ gaps ≤ maxSafeJsonInteger ∧
    canonicalBytes ≤ maxSafeJsonInteger
  deriving DecidableEq

namespace HistoryUsage

/-- A usage refuses counts that are negative or unsafe. -/
def make (attempts jobs gaps canonicalBytes : Int) : Py HistoryUsage :=
  if nonNegative : 0 ≤ attempts ∧ 0 ≤ jobs ∧ 0 ≤ gaps ∧ 0 ≤ canonicalBytes then
    if safe : attempts ≤ maxSafeJsonInteger ∧ jobs ≤ maxSafeJsonInteger ∧ gaps ≤ maxSafeJsonInteger ∧
        canonicalBytes ≤ maxSafeJsonInteger then
      .ok ⟨attempts.toNat, jobs.toNat, gaps.toNat, canonicalBytes.toNat, by omega⟩
    else .error .validationError
  else .error .validationError

def empty : HistoryUsage :=
  ⟨0, 0, 0, 0, by decide⟩

def fits (usage : HistoryUsage) (quota : HistoryQuota) : Prop :=
  usage.attempts ≤ quota.attempts ∧ usage.jobs ≤ quota.jobs ∧ usage.gaps ≤ quota.gaps ∧
    usage.canonicalBytes ≤ quota.canonicalBytes

instance (usage : HistoryUsage) (quota : HistoryQuota) : Decidable (usage.fits quota) :=
  inferInstanceAs (Decidable (_ ∧ _ ∧ _ ∧ _))

/-- An addition is admitted within the quota, and an empty addition always. -/
def reserve (prior addition : HistoryUsage) (quota : HistoryQuota) : Py (Option HistoryUsage) :=
  if addition = empty then .ok (some prior)
  else if quota.attempts < prior.attempts + addition.attempts ∨ quota.jobs < prior.jobs + addition.jobs ∨
      quota.gaps < prior.gaps + addition.gaps ∨
      quota.canonicalBytes < prior.canonicalBytes + addition.canonicalBytes then
    .ok none
  else
    some <$> make (prior.attempts + addition.attempts) (prior.jobs + addition.jobs) (prior.gaps + addition.gaps)
      (prior.canonicalBytes + addition.canonicalBytes)

def release (prior removed : HistoryUsage) : Py HistoryUsage :=
  make ((prior.attempts : Int) - removed.attempts) ((prior.jobs : Int) - removed.jobs) ((prior.gaps : Int) - removed.gaps)
    ((prior.canonicalBytes : Int) - removed.canonicalBytes)

theorem make_eq_ok {attempts jobs gaps canonicalBytes : Int} {usage : HistoryUsage} :
    make attempts jobs gaps canonicalBytes = .ok usage ↔ (usage.attempts = attempts ∧ usage.jobs = jobs) ∧
      usage.gaps = gaps ∧ usage.canonicalBytes = canonicalBytes := by
  have safe := usage.safe
  unfold make
  constructor
  · intro made
    split at made
    · split at made
      · cases made
        refine ⟨⟨?_, ?_⟩, ?_, ?_⟩ <;> simp only <;> omega
      · cases made
    · cases made
  · rintro ⟨⟨rfl, rfl⟩, rfl, rfl⟩
    rw [dif_pos (by omega), dif_pos (by omega)]
    simp

theorem make_ok {attempts jobs gaps canonicalBytes : Nat} (safe : attempts ≤ maxSafeJsonInteger ∧
    jobs ≤ maxSafeJsonInteger ∧ gaps ≤ maxSafeJsonInteger ∧ canonicalBytes ≤ maxSafeJsonInteger) :
    make attempts jobs gaps canonicalBytes = .ok ⟨attempts, jobs, gaps, canonicalBytes, safe⟩ :=
  make_eq_ok.mpr ⟨⟨rfl, rfl⟩, rfl, rfl⟩

/-- A release takes the released resources away. -/
theorem release_eq_ok {prior removed usage : HistoryUsage} : prior.release removed = .ok usage ↔
    (prior.attempts = usage.attempts + removed.attempts ∧ prior.jobs = usage.jobs + removed.jobs) ∧
      prior.gaps = usage.gaps + removed.gaps ∧ prior.canonicalBytes = usage.canonicalBytes + removed.canonicalBytes := by
  rw [release, make_eq_ok]
  omega

/-- The release of resources that are occupied returns. -/
theorem release_total {prior removed : HistoryUsage} (occupied : removed.attempts ≤ prior.attempts ∧
    removed.jobs ≤ prior.jobs ∧ removed.gaps ≤ prior.gaps ∧ removed.canonicalBytes ≤ prior.canonicalBytes) :
    ∃ usage, prior.release removed = .ok usage := by
  have safe := prior.safe
  refine ⟨⟨prior.attempts - removed.attempts, prior.jobs - removed.jobs, prior.gaps - removed.gaps,
    prior.canonicalBytes - removed.canonicalBytes, by omega⟩, release_eq_ok.mpr ?_⟩
  simp only
  omega

/-- A reservation answers in every case, and an addition that it admits fits the quota. -/
theorem reserve_spec {prior addition : HistoryUsage} {quota : HistoryQuota} (occupies : addition ≠ empty) :
    prior.reserve addition quota = .ok none ∨ ∃ usage, prior.reserve addition quota = .ok (some usage) ∧ usage.fits quota ∧
      (usage.attempts = prior.attempts + addition.attempts ∧ usage.jobs = prior.jobs + addition.jobs) ∧
      usage.gaps = prior.gaps + addition.gaps ∧
      usage.canonicalBytes = prior.canonicalBytes + addition.canonicalBytes := by
  rw [reserve, if_neg occupies]
  split
  · exact .inl rfl
  · rename_i within
    have safe := quota.safe
    simp only [not_or, not_lt] at within
    have bounds : prior.attempts + addition.attempts ≤ maxSafeJsonInteger ∧
        prior.jobs + addition.jobs ≤ maxSafeJsonInteger ∧ prior.gaps + addition.gaps ≤ maxSafeJsonInteger ∧
        prior.canonicalBytes + addition.canonicalBytes ≤ maxSafeJsonInteger := by
      omega
    have made := make_ok bounds
    push_cast at made
    refine .inr ⟨⟨_, _, _, _, bounds⟩, ?_, within, ⟨rfl, rfl⟩, rfl, rfl⟩
    rw [made]
    rfl

end HistoryUsage

inductive HistoryDatasetState where
  | active
  | paused
  | erasing
  | erased
  deriving DecidableEq

structure HistoryDatasetFields where
  scope : RepositoryScope
  generation : Int
  configurationRevision : Int
  dataRevision : Int
  configuredAt : Instant
  state : HistoryDatasetState
  configuration : HistoryConfiguration
  usage : HistoryUsage
  deriving DecidableEq

def HistoryDatasetFields.postInit (self : HistoryDatasetFields) : Py Unit := do
  forEach (fun value : Int => positiveId value (ascii "history dataset revision"))
    [self.generation, self.configurationRevision, self.dataRevision]
  valueErrorIf (¬ (self.configuration.enabled = true ↔ self.state = .active))
    (ascii "history configuration contradicts dataset write admission")
  valueErrorIf (self.state = .erased ∧ self.usage ≠ .empty)
    (ascii "erased history must have released all occupied resources")

/-- The archive of a repository with its configuration and the resources that it occupies. -/
structure HistoryDataset extends HistoryDatasetFields where
  admitted : toHistoryDatasetFields.postInit = .ok ()
  deriving DecidableEq

/-- The policy of the service for the details of all archives. -/
structure HistoryDefaults where
  revision : Int
  detailRetention : DetailRetentionPolicy
  updatedAt : Instant
  positive : 1 ≤ revision ∧ revision ≤ maxSafeJsonInteger
  deriving DecidableEq

/-- A repository can override the policy of the service. -/
def HistoryDataset.resolveDetailPolicy (self : HistoryDataset) (defaults : HistoryDefaults) :
    DetailRetentionPolicy × DetailPolicyReference :=
  match self.configuration.detailRetention with
  | some policy => (policy, ⟨.repositoryOverride, self.configurationRevision⟩)
  | none => (defaults.detailRetention, ⟨.serviceDefault, defaults.revision⟩)

variable (self : HistoryConfiguration)

def HistoryConfiguration.selects (workflowId : Int) : Py Bool := do
  valueErrorIf (¬ (1 ≤ workflowId ∧ workflowId ≤ maxSafeJsonInteger))
    (ascii "history workflow identity must be a positive safe integer")
  return self.workflowIds.all fun ids => decide (workflowId ∈ ids)

theorem HistoryConfiguration.selects_total {workflowId : Int}
    (bounds : 1 ≤ workflowId ∧ workflowId ≤ maxSafeJsonInteger) : ∃ selected, self.selects workflowId = .ok selected := by
  rw [selects, valueErrorIf_passes (not_not.mpr bounds)]
  exact ⟨_, rfl⟩

end CiCoordinator.CiEconomics

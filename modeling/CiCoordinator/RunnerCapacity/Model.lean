import CiCoordinator.ValidationContract.Catalog
import CiCoordinator.Kernel.Time

/- The capacity observations and the test manifests of execution profiles. -/

namespace CiCoordinator.RunnerCapacity

open Library Kernel ValidationContract

def requireNonemptyString (value fieldName : Text) : Py Unit :=
  valueErrorIf (value = []) (fieldName ++ ascii " must be a non-empty string")

/-- Texts must be nonempty and in canonical order, and there must be one. -/
def requireCanonicalStrings (values : List Text) (fieldName : Text) : Py Unit := do
  valueErrorIf (values = [] ∨ [] ∈ values) (fieldName ++ ascii " must contain non-empty strings")
  requireSorted values (fieldName ++ ascii " must be canonical")

structure ManifestTestFields where
  testId : Text
  witnessId : Text
  deriving DecidableEq

def ManifestTestFields.postInit (self : ManifestTestFields) : Py Unit := do
  requireNonemptyString self.testId (ascii "test_id")
  requireNonemptyString self.witnessId (ascii "witness_id")

/-- A test and the witness that runs it. -/
structure ManifestTest extends ManifestTestFields where
  admitted : toManifestTestFields.postInit = .ok ()
  deriving DecidableEq

structure TestManifestFields where
  verifiedPlanId : Text
  targetRegistryHash : Text
  selectedWitnessIds : List Text
  tests : List ManifestTest
  catalog : ValidationCatalog
  deriving DecidableEq

namespace TestManifestFields

variable (self : TestManifestFields)

/-- The tests are canonical and belong to exactly the selected witnesses of the catalog. -/
def postInit : Py Unit := do
  requireNonemptyString self.verifiedPlanId (ascii "verified_plan_id")
  valueErrorIf (isSha256Hex self.targetRegistryHash = false)
    (ascii "target_registry_hash must be lowercase SHA-256 hexadecimal")
  requireCanonicalStrings self.selectedWitnessIds (ascii "selected_witness_ids")
  requireSorted (self.tests.map fun item => item.testId) (ascii "manifest test identities must be canonical")
  valueErrorIf (¬ self.selectedWitnessIds ⊆ self.catalog.witnessesById.keys)
    (ascii "selected witnesses must resolve in the validation catalog")
  valueErrorIf (¬ SameMembers (self.tests.map fun item => item.witnessId) self.selectedWitnessIds)
    (ascii "manifest tests must cover every selected witness")

/-- The profile of every witness of the catalog. -/
def profileByWitnessId : Dictionary Text Text :=
  Dictionary.comprehend (self.catalog.witnesses.map fun item => (item.witnessId, item.executionProfileId))

/-- The tests whose witness runs under a profile; an admitted manifest finds the profile of every test. -/
def testsForProfile (profileId : Text) : List ManifestTest :=
  self.tests.filter fun item => self.profileByWitnessId.get? item.witnessId = some profileId

/-- The profiles of the selected witnesses in canonical order; an admitted manifest finds all of them. -/
def executionProfiles : Py (List ExecutionProfile) := do
  let profileIds ← sortedTexts (self.selectedWitnessIds.filterMap self.profileByWitnessId.get?)
  return profileIds.filterMap self.catalog.profilesById.get?

end TestManifestFields

/-- The tests of a verified plan. -/
structure TestManifest extends TestManifestFields where
  admitted : toTestManifestFields.postInit = .ok ()
  deriving DecidableEq

structure RunnerCapacityFields where
  capacityClassId : Text
  freeSlots : Int
  deriving DecidableEq

def RunnerCapacityFields.postInit (self : RunnerCapacityFields) : Py Unit := do
  requireNonemptyString self.capacityClassId (ascii "capacity_class_id")
  valueErrorIf (self.freeSlots < 0) (ascii "free_slots must be a non-negative integer")

set_option linter.dupNamespace false in
/-- The free runners of a capacity class. -/
structure RunnerCapacity extends RunnerCapacityFields where
  admitted : toRunnerCapacityFields.postInit = .ok ()
  deriving DecidableEq

/-- Who observed a snapshot. -/
inductive SnapshotSource where
  | githubSelfHosted
  | operator
  deriving DecidableEq

structure RunnerSnapshotFields where
  observedAt : Instant
  freshnessTtlSeconds : Int
  capacities : List RunnerCapacity
  source : SnapshotSource
  deriving DecidableEq

variable (self : RunnerSnapshotFields)

def RunnerSnapshotFields.postInit : Py Unit := do
  valueErrorIf (self.freshnessTtlSeconds < 1) (ascii "snapshot freshness ttl must be a positive integer")
  requireSorted (self.capacities.map fun item => item.capacityClassId)
    (ascii "snapshot capacity classes must be canonical")

/-- The free runners of every capacity class at an instant. -/
structure RunnerSnapshot extends RunnerSnapshotFields where
  admitted : toRunnerSnapshotFields.postInit = .ok ()
  deriving DecidableEq

def RunnerSnapshotFields.freeSlotsFor (capacityClassId : Text) : Option Nat :=
  (self.capacities.find? fun item => item.capacityClassId = capacityClassId).map fun item => item.freeSlots.toNat

end CiCoordinator.RunnerCapacity

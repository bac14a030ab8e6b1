import CiCoordinator.ValidationContract.Model
import CiCoordinator.Library.Dictionary

/- The validation catalog, which is closed over its own identities. -/

namespace CiCoordinator.ValidationContract

open Library Kernel List Dictionary

/-- Two sequences list the same set. -/
abbrev SameMembers {A : Type} (left right : List A) : Prop :=
  left ⊆ right ∧ right ⊆ left

/-- Members must exist and be ordered by their identities. -/
def requireCanonicalObjects {A : Type} (values : List A) (identity : A → Text) (fieldName : Text) : Py Unit := do
  valueErrorIf (values.isEmpty = true) (fieldName ++ ascii " must not be empty")
  requireSorted (values.map identity) (fieldName ++ ascii " must be canonical")

structure ValidationCatalogFields where
  obligations : List ValidationObligation
  witnesses : List ExecutableWitness
  executionProfiles : List ExecutionProfile
  deriving DecidableEq

namespace ValidationCatalogFields

def toIdentityMapping (self : ValidationCatalogFields) : Json :=
  .obj [(ascii "obligations", .arr (self.obligations.map ValidationObligation.toIdentityMapping)),
    (ascii "witnesses", .arr (self.witnesses.map ExecutableWitness.toIdentityMapping)),
    (ascii "executionProfiles", .arr (self.executionProfiles.map ExecutionProfile.toIdentityMapping))]

variable (self : ValidationCatalogFields)

/-- Witnesses and profiles are exactly the referenced ones, and witnesses support the depths they are required at. -/
def requireClosedReferences : Py Unit := do
  let witnesses := Dictionary.indexBy (fun item : ExecutableWitness => item.witnessId) self.witnesses
  let referencedWitnesses := self.obligations.flatMap fun obligation => obligation.requiredWitnessIds
  valueErrorIf (¬ SameMembers referencedWitnesses witnesses.keys)
    (ascii "every witness must be referenced by an obligation exactly by identity")
  valueErrorIf (¬ SameMembers (self.witnesses.map fun item => item.executionProfileId)
      (self.executionProfiles.map fun item => item.profileId))
    (ascii "every execution profile must be referenced by a witness")
  forEach (fun (obligation : ValidationObligation) =>
      forEach (fun witnessId =>
          match witnesses.get? witnessId with
          | none => .error .keyError
          | some witness =>
            valueErrorIf (¬ (obligation.defaultDepth ∈ witness.supportedDepths ∧
                obligation.fullDepth ∈ witness.supportedDepths))
              (ascii "witness \'" ++ witnessId ++ ascii "\' does not support obligation depths"))
        obligation.requiredWitnessIds)
    self.obligations

/-- The constructor checks the members, closes the references and computes the catalog hash. -/
def postInit : Py Text := do
  requireCanonicalObjects self.obligations (fun item => item.obligationId) (ascii "obligations")
  requireCanonicalObjects self.witnesses (fun item => item.witnessId) (ascii "witnesses")
  requireCanonicalObjects self.executionProfiles (fun item => item.profileId) (ascii "execution_profiles")
  self.requireClosedReferences
  hashObject self.toIdentityMapping

end ValidationCatalogFields

/-- A catalog whose references are closed and whose hash seals its members. -/
structure ValidationCatalog extends ValidationCatalogFields where
  catalogHash : Text
  admitted : toValidationCatalogFields.postInit = .ok catalogHash
  deriving DecidableEq

@[simp] theorem requireCanonicalObjects_eq_ok {A : Type} {values : List A} {identity : A → Text} {fieldName : Text}
    {passed : Unit} :
    requireCanonicalObjects values identity fieldName = .ok passed ↔ values ≠ [] ∧ CanonicalTexts (values.map identity) := by
  simp [requireCanonicalObjects]

@[simp] theorem admissible_validationCatalog (self : ValidationCatalogFields) : admissible self.toIdentityMapping = true := by
  simp [ValidationCatalogFields.toIdentityMapping]

/-- Members that pass the checks of the constructor are sealed by the digest of their canonical text. -/
theorem ValidationCatalogFields.postInit_of_checks {self : ValidationCatalogFields}
    (checks : requireCanonicalObjects self.obligations (fun item => item.obligationId) (ascii "obligations") = .ok () ∧
      requireCanonicalObjects self.witnesses (fun item => item.witnessId) (ascii "witnesses") = .ok () ∧
      requireCanonicalObjects self.executionProfiles (fun item => item.profileId) (ascii "execution_profiles") = .ok () ∧
      self.requireClosedReferences = .ok ()) :
    self.postInit = .ok (sha256Hex (render (sortMembers self.toIdentityMapping)).utf8) := by
  simp only [ValidationCatalogFields.postInit, bind_unit_eq_ok]
  exact ⟨checks.1, checks.2.1, checks.2.2.1, checks.2.2.2, hashObject_of_admissible (admissible_validationCatalog _)⟩

namespace ValidationCatalog

variable (self : ValidationCatalog)

/-- The obligations by identity. -/
def obligationsById : Dictionary Text ValidationObligation :=
  Dictionary.indexBy (fun item => item.obligationId) self.obligations

/-- The witnesses by identity. -/
def witnessesById : Dictionary Text ExecutableWitness :=
  Dictionary.indexBy (fun item => item.witnessId) self.witnesses

/-- The profiles by identity. -/
def profilesById : Dictionary Text ExecutionProfile :=
  Dictionary.indexBy (fun item => item.profileId) self.executionProfiles

/-- What the constructor of a catalog guarantees. -/
structure Facts (catalog : ValidationCatalog) : Prop where
  nonempty : catalog.obligations ≠ []
  obligations : CanonicalTexts (catalog.obligations.map fun item => item.obligationId)
  witnesses : CanonicalTexts (catalog.witnesses.map fun item => item.witnessId)
  profiles : CanonicalTexts (catalog.executionProfiles.map fun item => item.profileId)
  required : ∀ obligation ∈ catalog.obligations, ∀ witnessId ∈ obligation.requiredWitnessIds,
    ∃ witness, catalog.witnessesById.get? witnessId = some witness ∧
      obligation.defaultDepth ∈ witness.supportedDepths ∧ obligation.fullDepth ∈ witness.supportedDepths
  profiled : ∀ witness ∈ catalog.witnesses,
    ∃ profile, catalog.profilesById.get? witness.executionProfileId = some profile
  hash : hashObject catalog.toIdentityMapping = .ok catalog.catalogHash

theorem facts : self.Facts := by
  have admitted := self.admitted
  simp only [ValidationCatalogFields.postInit, ValidationCatalogFields.requireClosedReferences, bind_unit_eq_ok,
    requireCanonicalObjects_eq_ok, raiseIf_eq_ok, not_not, forEach_eq_ok] at admitted
  obtain ⟨⟨nonempty, obligations⟩, ⟨-, witnesses⟩, ⟨-, profiles⟩, ⟨-, profiled, depths⟩, hash⟩ := admitted
  refine ⟨nonempty, obligations, witnesses, profiles, ?_, ?_, hash⟩
  · intro obligation member witnessId required
    have checked := depths obligation member witnessId required
    cases found : (Dictionary.indexBy (fun item : ExecutableWitness => item.witnessId) self.witnesses).get? witnessId with
    | none => simp [found] at checked
    | some witness =>
      rw [found] at checked
      exact ⟨witness, found, by simpa using checked⟩
  · intro witness member
    have present : witness.executionProfileId ∈ self.executionProfiles.map (·.profileId) :=
      profiled.1 (mem_map_of_mem member)
    obtain ⟨profile, contained, equal⟩ := mem_map.mp present
    exact ⟨profile, (get?_indexBy_eq_some_iff profiles.nodup).mpr ⟨contained, equal⟩⟩

variable {self : ValidationCatalog}

theorem obligationsById_eq_some {key : Text} {obligation : ValidationObligation} :
    self.obligationsById.get? key = some obligation ↔ obligation ∈ self.obligations ∧ obligation.obligationId = key :=
  get?_indexBy_eq_some_iff self.facts.obligations.nodup

theorem witnessesById_eq_some {key : Text} {witness : ExecutableWitness} :
    self.witnessesById.get? key = some witness ↔ witness ∈ self.witnesses ∧ witness.witnessId = key :=
  get?_indexBy_eq_some_iff self.facts.witnesses.nodup

theorem profilesById_eq_some {key : Text} {profile : ExecutionProfile} :
    self.profilesById.get? key = some profile ↔ profile ∈ self.executionProfiles ∧ profile.profileId = key :=
  get?_indexBy_eq_some_iff self.facts.profiles.nodup

/-- Obligations of one identity are one obligation. -/
theorem obligation_unique {left right : ValidationObligation} (leftMember : left ∈ self.obligations)
    (rightMember : right ∈ self.obligations) (equal : left.obligationId = right.obligationId) : left = right :=
  inj_on_of_nodup_map self.facts.obligations.nodup leftMember rightMember equal

/-- The catalog hash has the digest format. -/
theorem isSha256Hex_catalogHash (self : ValidationCatalog) : isSha256Hex self.catalogHash = true :=
  isSha256Hex_of_hashObject self.facts.hash

end ValidationCatalog

/-- Every witness that an obligation requires supports a depth. -/
def Supports (catalog : ValidationCatalog) (obligation : ValidationObligation) (depth : ValidationDepth) : Prop :=
  ∀ witnessId ∈ obligation.requiredWitnessIds,
    ∃ witness, catalog.witnessesById.get? witnessId = some witness ∧ depth ∈ witness.supportedDepths

theorem supports_default {catalog : ValidationCatalog} {obligation : ValidationObligation}
    (member : obligation ∈ catalog.obligations) : Supports catalog obligation obligation.defaultDepth := by
  intro witnessId required
  obtain ⟨witness, found, supported, -⟩ := catalog.facts.required obligation member witnessId required
  exact ⟨witness, found, supported⟩

theorem supports_full {catalog : ValidationCatalog} {obligation : ValidationObligation}
    (member : obligation ∈ catalog.obligations) : Supports catalog obligation obligation.fullDepth := by
  intro witnessId required
  obtain ⟨witness, found, -, supported⟩ := catalog.facts.required obligation member witnessId required
  exact ⟨witness, found, supported⟩

end CiCoordinator.ValidationContract

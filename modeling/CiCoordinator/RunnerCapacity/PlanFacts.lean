import CiCoordinator.RunnerCapacity.Optimizer

/- What an admitted manifest guarantees about its profiles. -/

namespace CiCoordinator.RunnerCapacity

open Library Kernel ValidationContract TestManifestFields List Text Dictionary

@[simp] theorem requireCanonicalStrings_eq_ok {values : List Text} {fieldName : Text} {passed : Unit} :
    requireCanonicalStrings values fieldName = .ok passed ↔ (values ≠ [] ∧ [] ∉ values) ∧ CanonicalTexts values := by
  simp [requireCanonicalStrings]

namespace TestManifest

/-- What the constructor of a manifest guarantees. -/
structure Facts (manifest : TestManifest) : Prop where
  registry : isSha256Hex manifest.targetRegistryHash = true
  selected : CanonicalTexts manifest.selectedWitnessIds
  nonempty : manifest.selectedWitnessIds ≠ []
  tests : CanonicalTexts (manifest.tests.map fun item => item.testId)
  resolved : manifest.selectedWitnessIds ⊆ manifest.catalog.witnessesById.keys
  covered : SameMembers (manifest.tests.map fun item => item.witnessId) manifest.selectedWitnessIds

section

variable (self : TestManifest)
include self

theorem facts : self.Facts := by
  have admitted := self.admitted
  simp only [postInit, bind_unit_eq_ok, requireCanonicalStrings_eq_ok, requireSorted_eq_ok,
    raiseIf_eq_ok, not_not, Bool.not_eq_false] at admitted
  obtain ⟨-, registry, ⟨⟨nonempty, -⟩, selected⟩, tests, resolved, covered⟩ := admitted
  exact ⟨registry, selected, nonempty, tests, resolved, covered⟩

/-- Every selected witness has a profile in the catalog. -/
theorem profiled {witnessId : Text} (selected : witnessId ∈ self.selectedWitnessIds) :
    ∃ profile ∈ self.catalog.executionProfiles, self.profileByWitnessId.get? witnessId = some profile.profileId := by
  obtain ⟨witness, found⟩ := mem_keys_iff.mp (self.facts.resolved selected)
  obtain ⟨member, rfl⟩ := ValidationCatalog.witnessesById_eq_some.mp found
  obtain ⟨profile, resolved⟩ := self.catalog.facts.profiled witness member
  obtain ⟨inside, equal⟩ := ValidationCatalog.profilesById_eq_some.mp resolved
  refine ⟨profile, inside, ?_⟩
  rw [equal]
  refine get?_comprehend_of_mem ?_ (mem_map.mpr ⟨witness, member, rfl⟩)
  have distinct := self.catalog.facts.witnesses.nodup
  rwa [map_map]

/-- The witness of every test is selected. -/
theorem selected_of_mem {test : ManifestTest} (member : test ∈ self.tests) : test.witnessId ∈ self.selectedWitnessIds :=
  self.facts.covered.1 (mem_map_of_mem member)

theorem mem_testsForProfile {profileId : Text} {test : ManifestTest} : test ∈ self.testsForProfile profileId ↔
      test ∈ self.tests ∧ self.profileByWitnessId.get? test.witnessId = some profileId := by
  simp [testsForProfile]

end

/-- What the profiles of a manifest are: the profiles of its tests, in canonical order. -/
structure HasProfiles (manifest : TestManifest) (profiles : List ExecutionProfile) : Prop where
  canonical : CanonicalTexts (profiles.map fun item => item.profileId)
  nonempty : profiles ≠ []
  populated : ∀ profile ∈ profiles, manifest.testsForProfile profile.profileId ≠ []
  complete : ∀ test ∈ manifest.tests, ∃ profile ∈ profiles, test ∈ manifest.testsForProfile profile.profileId

theorem executionProfiles_total (self : TestManifest) :
    ∃ profiles, self.executionProfiles = .ok profiles ∧ self.HasProfiles profiles := by
  have known : ∀ profileId ∈ self.selectedWitnessIds.filterMap self.profileByWitnessId.get?,
      ∃ profile ∈ self.catalog.executionProfiles, profile.profileId = profileId := by
    intro profileId member
    obtain ⟨witnessId, selected, found⟩ := mem_filterMap.mp member
    obtain ⟨profile, inside, resolved⟩ := self.profiled selected
    rw [resolved] at found
    exact ⟨profile, inside, Option.some.inj found⟩
  have scalar : ∀ profileId ∈ self.selectedWitnessIds.filterMap self.profileByWitnessId.get?, profileId.scalar = true := by
    intro profileId member
    obtain ⟨profile, -, rfl⟩ := known profileId member
    exact profile.scalars.1
  obtain ⟨profileIds, sorted, canonical, members⟩ := sortedTexts_total scalar
  have resolved : ∀ profileId ∈ profileIds, ∃ profile, self.catalog.profilesById.get? profileId = some profile ∧
      profile.profileId = profileId := by
    intro profileId member
    obtain ⟨profile, inside, rfl⟩ := known profileId ((members profileId).mp member)
    exact ⟨profile, ValidationCatalog.profilesById_eq_some.mpr ⟨inside, rfl⟩, rfl⟩
  have identities : (profileIds.filterMap self.catalog.profilesById.get?).map (·.profileId) = profileIds := by
    clear sorted canonical members
    induction profileIds with
    | nil => rfl
    | cons profileId rest ih =>
      obtain ⟨profile, found, equal⟩ := resolved profileId mem_cons_self
      rw [filterMap_cons_some found, map_cons, equal, ih fun other member => resolved other (mem_cons_of_mem _ member)]
  have mem_profiles : ∀ profileId, profileId ∈ profileIds ↔
      ∃ test ∈ self.tests, self.profileByWitnessId.get? test.witnessId = some profileId := by
    intro profileId
    rw [members, mem_filterMap]
    constructor
    · rintro ⟨witnessId, selected, found⟩
      obtain ⟨test, member, rfl⟩ := mem_map.mp (self.facts.covered.2 selected)
      exact ⟨test, member, found⟩
    · rintro ⟨test, member, found⟩
      exact ⟨test.witnessId, self.selected_of_mem member, found⟩
  refine ⟨_, by simp only [executionProfiles, sorted, ok_bind_eq]; rfl, ?_, ?_, ?_, ?_⟩
  · rwa [identities]
  · intro empty
    rw [empty, map_nil] at identities
    obtain ⟨witnessId, selected⟩ := exists_mem_of_ne_nil _ self.facts.nonempty
    obtain ⟨profile, -, found⟩ := self.profiled selected
    have member := (members profile.profileId).mpr (mem_filterMap.mpr ⟨witnessId, selected, found⟩)
    rw [← identities] at member
    exact not_mem_nil member
  · intro profile member
    have listed : profile.profileId ∈ profileIds := identities ▸ mem_map_of_mem member
    obtain ⟨test, inside, found⟩ := (mem_profiles profile.profileId).mp listed
    exact ne_nil_of_mem (self.mem_testsForProfile.mpr ⟨inside, found⟩)
  · intro test member
    obtain ⟨profile, -, found⟩ := self.profiled (self.selected_of_mem member)
    have listed := (mem_profiles profile.profileId).mpr ⟨test, member, found⟩
    rw [← identities] at listed
    obtain ⟨other, inside, equal⟩ := mem_map.mp listed
    exact ⟨other, inside, self.mem_testsForProfile.mpr ⟨member, by rw [equal]; exact found⟩⟩

end TestManifest

end CiCoordinator.RunnerCapacity

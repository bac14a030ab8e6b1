import CiCoordinator.VerificationCore.Verifier

/- When the witness closure of the verifier exists and what it is. -/

namespace CiCoordinator.VerificationCore

open Library Kernel ValidationContract
open PlanningCore

variable {catalog : ValidationCatalog} {selected : List SelectedObligation}

/-- The checks of the closure pass exactly on closable selections. -/
theorem closureChecks_iff : (∀ item ∈ selected,
      ((catalog.obligationsById.get? item.obligationId).map (·.requiredWitnessIds) = some item.requiredWitnessIds) ∧
        ∀ witnessId ∈ item.requiredWitnessIds,
          ((catalog.witnessesById.get? witnessId).any fun witness => item.depth ∈ witness.supportedDepths) = true) ↔
      Closable catalog selected := by
  refine forall₂_congr fun item _ => ?_
  rw [Option.map_eq_some_iff]
  constructor
  · rintro ⟨⟨obligation, found, required⟩, depths⟩
    obtain ⟨member, identity⟩ := ValidationCatalog.obligationsById_eq_some.mp found
    refine ⟨obligation, member, identity, required, fun witnessId contained => ?_⟩
    have supported := depths witnessId (required ▸ contained)
    rw [Option.any_eq_true] at supported
    obtain ⟨witness, witnessFound, depth⟩ := supported
    exact ⟨witness, witnessFound, by simpa using depth⟩
  · rintro ⟨obligation, member, identity, required, supports⟩
    refine ⟨⟨obligation, ValidationCatalog.obligationsById_eq_some.mpr ⟨member, identity⟩, required⟩, ?_⟩
    intro witnessId contained
    obtain ⟨witness, found, depth⟩ := supports witnessId (required ▸ contained)
    rw [Option.any_eq_true]
    exact ⟨witness, found, by simpa using depth⟩

/-- A canonical selection is closed by exactly the witnesses that close it. -/
theorem closeSelectedWitnesses_eq_ok {witnesses : List SelectedWitness} (canonical : CanonicalTexts (idsOf selected)) :
    closeSelectedWitnesses catalog selected = .ok witnesses ↔ Closable catalog selected ∧ Closes selected witnesses := by
  obtain ⟨closed, computed, closes⟩ := assembleWitnesses_total canonical
  simp only [closeSelectedWitnesses, bind_unit_eq_ok, forEach_eq_ok, raiseIf_eq_ok, not_not, Bool.not_eq_false,
    closureChecks_iff, computed, Except.ok.injEq]
  refine and_congr_right fun _ => ⟨?_, fun other => closes.unique other⟩
  rintro rfl
  exact closes

theorem closeSelectedWitnesses_total (canonical : CanonicalTexts (idsOf selected)) (closable : Closable catalog selected) :
    ∃ witnesses, closeSelectedWitnesses catalog selected = .ok witnesses ∧ Closes selected witnesses := by
  obtain ⟨closed, computed, closes⟩ := assembleWitnesses_total canonical
  exact ⟨closed, (closeSelectedWitnesses_eq_ok canonical).mpr ⟨closable, closes⟩, closes⟩

end CiCoordinator.VerificationCore

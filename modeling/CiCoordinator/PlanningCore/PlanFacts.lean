import CiCoordinator.PlanningCore.Planner

/- What the planner returns for every input that it can read. -/

namespace CiCoordinator.PlanningCore

open Library Kernel ValidationContract RepoContext List Text

variable {input : PlanningInput} {policy : PlanningPolicy}

/-- An input that can be hashed and whose fallback reasons can be recorded. -/
structure Plannable (input : PlanningInput) : Prop where
  repoEpoch : admissible input.repoEpoch.toIdentityMapping = true
  inputHash : isSha256Hex input.inputHash = true
  paths : input.fallbackReasons = [] → ∀ path ∈ input.diff.namedPaths, path.scalar = true
  reasons : CanonicalTexts input.fallbackReasons
  named : [] ∉ input.fallbackReasons

/-- The planner omits an obligation exactly when this holds. -/
structure Omits (input : PlanningInput) (obligation : ValidationObligation) : Prop where
  allowed : obligation.omitAllowed = true
  safe : ∀ path ∈ input.diff.namedPaths, isGlobalRisk input.dependencyGraph path = false
  unaffected : Unaffected input.dependencyGraph input.diff.namedPaths obligation

variable {impact : ImpactAnalysis} {obligation : ValidationObligation} {repoEpochHash : Text}
  {entry : PlannedObligation}

/-- The analysis of an input in terms of the paths that its diff names. -/
theorem analyzeImpact_total (scalar : ∀ path ∈ input.diff.namedPaths, path.scalar = true) :
    ∃ impact, analyzeImpact input = .ok impact ∧ impact.Describes input.dependencyGraph impact.changedPaths ∧
      (∀ path, path ∈ impact.changedPaths ↔ path ∈ input.diff.namedPaths) ∧ CanonicalTexts impact.impactedPaths ∧
      CanonicalTexts impact.unknownPaths ∧ CanonicalTexts impact.globalRiskPaths := by
  obtain ⟨changedPaths, computed, -, members⟩ := sortedTexts_total scalar
  obtain ⟨impact, analyzed, describes, impacted, unknown, global⟩ := analyzeImpact_spec computed
  exact ⟨impact, analyzed, describes.changed ▸ describes, describes.changed ▸ members, impacted, unknown, global⟩

theorem omits_iff (describes : impact.Describes input.dependencyGraph impact.changedPaths)
    (members : ∀ path, path ∈ impact.changedPaths ↔ path ∈ input.diff.namedPaths) :
    Omits input obligation ↔ obligation.omitAllowed = true ∧ impact.globalRiskPaths = [] ∧
      (∀ path ∈ impact.impactedPaths, ∀ pattern ∈ obligation.responsibilityPaths, matchesPathPattern pattern path = false) ∧
      ∀ riskClass ∈ obligation.responsibilityRiskClasses, riskClass ∉ impact.impactedRiskClasses := by
  have safe : impact.globalRiskPaths = [] ↔ ∀ path ∈ input.diff.namedPaths, isGlobalRisk input.dependencyGraph path = false := by
    simp only [eq_nil_iff_forall_not_mem, describes.globalRisk, members, not_and, Bool.not_eq_true]
  have reach := fun path => impacted_congr input.dependencyGraph members path
  rw [safe]
  simp only [describes.impacted, describes.riskClasses, reach]
  constructor
  · intro omits
    refine ⟨omits.allowed, omits.safe, omits.unaffected.paths, ?_⟩
    rintro riskClass member ⟨path, impacted, listed⟩
    exact omits.unaffected.riskClasses path impacted riskClass listed member
  · rintro ⟨allowed, globalRisk, paths, riskClasses⟩
    exact ⟨allowed, globalRisk, paths,
      fun path impacted riskClass listed member => riskClasses riskClass member ⟨path, impacted, listed⟩⟩

/-- The proof that the planner attaches to an omission. -/
def omissionFields (input : PlanningInput) (policy : PlanningPolicy) (obligation : ValidationObligation)
    (repoEpochHash : Text) : OmissionProofFields :=
  { obligationId := obligation.obligationId
    ruleId := obligation.obligationId ++ ascii ":no-impact"
    repoEpochHash := repoEpochHash
    diffHash := input.diff.diffHash
    policyHash := policy.policyHash
    graphHash := input.dependencyGraph.graphHash
    catalogHash := policy.catalog.catalogHash
    predicates := {}
    assumptions := omissionAssumptions
    invalidatesWhen := omissionInvalidators }

theorem omissionFields_admitted (digest : isSha256Hex repoEpochHash = true) :
    (omissionFields input policy obligation repoEpochHash).postInit = .ok () := by
  have identifier := obligation.facts.identifier
  obtain ⟨-, -, policyHash, -⟩ := policy.facts
  have listed : requireSortedUniqueStrings omissionAssumptions (ascii "assumptions") false = .ok () ∧
      requireSortedUniqueStrings omissionInvalidators (ascii "invalidates_when") false = .ok () := by
    decide +kernel
  simp only [OmissionProofFields.postInit, omissionFields, bind_unit_eq_ok, requireNonEmptyString_eq_ok, forEach_eq_ok,
    requireSha256_eq_ok, mem_cons, not_mem_nil, or_false, forall_eq_or_imp, forall_eq]
  refine ⟨⟨ne_nil_of_isIdentifier identifier, scalar_of_isIdentifier identifier⟩, ⟨?_, ?_⟩,
    ⟨digest, input.diff.facts.2.2.2, policyHash, input.dependencyGraph.digest, policy.catalog.isSha256Hex_catalogHash⟩,
    listed⟩
  · exact append_ne_nil_of_left_ne_nil (ne_nil_of_isIdentifier identifier) _
  · simp [scalar_of_isIdentifier identifier]

/-- What the planner decides about one obligation. -/
def Decides (input : PlanningInput) (policy : PlanningPolicy) (obligation : ValidationObligation) (repoEpochHash : Text) :
    OmissionDecision → Prop
  | .proven proof => Omits input obligation ∧
      proof.toOmissionProofFields = omissionFields input policy obligation repoEpochHash
  | .notOmittable reason => ¬ Omits input obligation ∧ reason ≠ [] ∧ reason.scalar = true

/-- The omission decision always returns and follows the impact. -/
theorem buildOmissionProof_total (describes : impact.Describes input.dependencyGraph impact.changedPaths)
    (members : ∀ path, path ∈ impact.changedPaths ↔ path ∈ input.diff.namedPaths)
    (impacted : CanonicalTexts impact.impactedPaths) (global : CanonicalTexts impact.globalRiskPaths)
    (hashed : hashObject input.repoEpoch.toIdentityMapping = .ok repoEpochHash) (obligation : ValidationObligation) :
    ∃ decision, buildOmissionProof input policy obligation impact = .ok decision ∧
      Decides input policy obligation repoEpochHash decision := by
  have kept : ∀ reason : Text, ¬ Omits input obligation → reason ≠ [] → reason.scalar = true →
      Decides input policy obligation repoEpochHash (.notOmittable reason) :=
    fun reason refused nonempty scalar => ⟨refused, nonempty, scalar⟩
  have labelled : ∀ (literal : String) (text : Text), ascii literal ≠ [] → ascii literal ++ text ≠ [] :=
    fun literal text nonempty => append_ne_nil_of_left_ne_nil nonempty _
  unfold buildOmissionProof
  split
  · rename_i forbidden
    refine ⟨_, rfl, kept _ (fun omits => ?_) (by decide) (scalar_ascii _)⟩
    rw [omits.allowed] at forbidden
    cases forbidden
  · rename_i allowed
    split
    · rename_i risky
      refine ⟨_, rfl, kept _ (fun omits => risky ((omits_iff describes members).mp omits).2.1) (labelled _ _ (by decide)) ?_⟩
      simp [scalar_joinTexts (scalar_ascii _) global.1]
    · rename_i safe
      rw [not_not] at safe
      split
      · rename_i path found
        have member := mem_of_find?_eq_some found
        refine ⟨_, rfl, kept _ (fun omits => ?_) (labelled _ _ (by decide)) (by simp [impacted.1 path member])⟩
        have intersects := find?_some found
        obtain ⟨pattern, listed, matching⟩ := any_eq_true.mp intersects
        rw [((omits_iff describes members).mp omits).2.2.1 path member pattern listed] at matching
        cases matching
      · rename_i noPath
        split
        · rename_i riskClass found
          have member := mem_of_find?_eq_some found
          refine ⟨_, rfl, kept _ (fun omits => ?_) (labelled _ _ (by decide)) ?_⟩
          · have intersects := find?_some found
            exact ((omits_iff describes members).mp omits).2.2.2 riskClass member (by simpa using intersects)
          · simp [obligation.facts.riskClasses.1 riskClass member]
        · rename_i noRisk
          have digest := isSha256Hex_of_hashObject hashed
          simp only [hashed, ok_bind_eq]
          refine ⟨_, construct_ok (omissionFields_admitted digest), (omits_iff describes members).mpr
            ⟨by simpa using allowed, safe, ?_, ?_⟩, rfl⟩
          · intro path member pattern listed
            have none := find?_eq_none.mp noPath path member
            simp only [any_eq_true, not_exists, not_and, Bool.not_eq_true] at none
            exact none pattern listed
          · intro riskClass member
            simpa using find?_eq_none.mp noRisk riskClass member

/-- What the planner records about one obligation. -/
def Plans (input : PlanningInput) (policy : PlanningPolicy) (obligation : ValidationObligation) (repoEpochHash : Text) :
    PlannedObligation → Prop
  | .selected item evidence => ¬ Omits input obligation ∧ item.toSelectedObligationFields =
        ⟨obligation.obligationId, obligation.defaultDepth, obligation.requiredWitnessIds⟩ ∧
      evidence.kind = .selected ∧ evidence.obligationId = some obligation.obligationId
  | .omitted item evidence => Omits input obligation ∧ item.obligationId = obligation.obligationId ∧
      item.requiredWitnessIds = obligation.requiredWitnessIds ∧
      item.proof.toOmissionProofFields = omissionFields input policy obligation repoEpochHash ∧
      evidence.kind = .omitted ∧ evidence.obligationId = some obligation.obligationId

theorem evidence_total (kind : PlanEvidenceKind) (obligation : ValidationObligation) {message : Text}
    (nonempty : message ≠ []) (scalar : message.scalar = true) :
    ∃ evidence, PlanEvidence.create kind (some obligation.obligationId) message = .ok evidence ∧
      evidence.kind = kind ∧ evidence.obligationId = some obligation.obligationId := by
  have identifier := obligation.facts.identifier
  have admitted : PlanEvidenceFields.postInit ⟨kind, some obligation.obligationId, message⟩ = .ok () := by
    simp only [PlanEvidenceFields.postInit, bind_unit_eq_ok, requireNonEmptyString_eq_ok]
    exact ⟨⟨ne_nil_of_isIdentifier identifier, scalar_of_isIdentifier identifier⟩, nonempty, scalar⟩
  exact ⟨⟨_, admitted⟩, construct_ok admitted, rfl, rfl⟩

theorem planObligation_total {decision : OmissionDecision}
    (decided : buildOmissionProof input policy obligation impact = .ok decision)
    (decides : Decides input policy obligation repoEpochHash decision) :
    ∃ planned, planObligation input policy impact obligation = .ok planned ∧
      Plans input policy obligation repoEpochHash planned := by
  simp only [planObligation, decided, ok_bind_eq]
  cases decision with
  | notOmittable reason =>
    obtain ⟨refused, nonempty, scalar⟩ := decides
    obtain ⟨item, created, fields⟩ := create_total obligation obligation.defaultDepth
    obtain ⟨evidence, recorded, kind, identity⟩ := evidence_total .selected obligation nonempty scalar
    exact ⟨.selected item evidence, by simp only [created, recorded, ok_bind_eq]; rfl, refused, fields, kind, identity⟩
  | proven proof =>
    obtain ⟨omits, fields⟩ := decides
    obtain ⟨evidence, recorded, kind, identity⟩ := evidence_total .omitted obligation
      (show ascii "deterministic proof showed no impact on this obligation" ≠ [] by decide) (scalar_ascii _)
    have facts := obligation.facts
    have admitted : OmittedObligationFields.postInit ⟨obligation.obligationId, obligation.requiredWitnessIds, proof⟩ =
        .ok () := by
      simp only [OmittedObligationFields.postInit, bind_unit_eq_ok, raiseIf_eq_ok, not_not, requireSortedUniqueStrings_eq_ok]
      refine ⟨by rw [fields]; rfl, fun _ => facts.witnessesNonempty, ?_, facts.witnesses⟩
      exact fun empty => ne_nil_of_isIdentifier (facts.witnessIdentifiers [] empty) rfl
    refine ⟨.omitted ⟨_, admitted⟩ evidence, ?_, omits, rfl, rfl, fields, kind, identity⟩
    simp only [construct_ok admitted, recorded, ok_bind_eq]
    rfl

/-- The planner's closure takes its requirements from the catalog, which closable selections repeat. -/
theorem closeSelectedWitnesses_total {catalog : ValidationCatalog} {selected : List SelectedObligation}
    (canonical : CanonicalTexts (idsOf selected)) (closable : Closable catalog selected) :
    ∃ witnesses, closeSelectedWitnesses catalog selected = .ok witnesses ∧ Closes selected witnesses := by
  obtain ⟨witnesses, assembled, closes⟩ := assembleWitnesses_total canonical
  refine ⟨witnesses, ?_, closes⟩
  unfold closeSelectedWitnesses
  rw [collect_eq_map fun item member => ?_]
  · rw [ok_bind_eq, ← flatMap_def]
    exact assembled
  · obtain ⟨obligation, inside, identity, required, supports⟩ := closable item member
    rw [ValidationCatalog.obligationsById_eq_some.mpr ⟨inside, identity⟩]
    simp only [bind_unit_eq_ok, forEach_eq_ok, pure_eq_ok_iff]
    refine ⟨fun witnessId listed => ?_, by rw [required]⟩
    obtain ⟨witness, found, depth⟩ := supports witnessId listed
    simp only [found, raiseIf_eq_ok, not_not, depth]

/-- A plan carries the coordinates of its input and its policy. -/
structure Coordinates (input : PlanningInput) (policy : PlanningPolicy) (plan : DeterministicPlan) : Prop where
  configEpoch : plan.configEpochId = input.policy.epochId
  repoEpoch : hashObject input.repoEpoch.toIdentityMapping = .ok plan.repoEpochHash
  inputHash : plan.inputHash = input.inputHash
  diff : plan.diffHash = input.diff.diffHash
  compiledPolicy : plan.compiledPolicyHash = policy.compiledPolicyHash
  policyHash : plan.policyHash = policy.policyHash
  graph : plan.dependencyGraphHash = input.dependencyGraph.graphHash
  catalog : plan.catalogHash = policy.catalog.catalogHash

theorem evidenceSortText_scalar (evidence : PlanEvidence) : (evidenceSortText evidence).scalar = true := by
  obtain ⟨identity, message⟩ := evidence.facts
  have owner : (evidence.obligationId.getD []).scalar = true := by
    cases found : evidence.obligationId with
    | none => rfl
    | some id =>
      rw [found] at identity
      simpa using identity
  simp [evidenceSortText, owner, message]

/-- A canonical, closable and disjoint decision can be finalized. -/
theorem finalizePlan_total (plannable : Plannable input) (policy : PlanningPolicy) {selected : List SelectedObligation}
    {omitted : List OmittedObligation} (fallback : PlanFallback) (evidence : List PlanEvidence)
    (canonical : CanonicalTexts (idsOf selected)) (omittedCanonical : CanonicalTexts (omittedIdsOf omitted))
    (disjoint : ∀ item ∈ selected, item.obligationId ∉ omittedIdsOf omitted)
    (closable : Closable policy.catalog selected) :
    ∃ plan, finalizePlan input policy selected omitted fallback evidence = .ok plan ∧ Coordinates input policy plan ∧
      plan.selectedObligations = selected ∧ plan.omittedObligations = omitted ∧
      Closes plan.selectedObligations plan.selectedWitnesses ∧ plan.fallback = fallback ∧
      plan.evidence = sortBy (fun item => (evidenceSortText item).utf16) evidence := by
  obtain ⟨witnesses, closed, closes⟩ := closeSelectedWitnesses_total canonical closable
  obtain ⟨hash, hashed⟩ : ∃ hash, hashObject input.repoEpoch.toIdentityMapping = .ok hash :=
    ⟨_, hashObject_of_admissible plannable.repoEpoch⟩
  obtain ⟨-, compiled, policyHash, -⟩ := policy.facts
  obtain ⟨plan, id, sealed, fields⟩ := DeterministicPlan.seal_total
    { planId := []
      configEpochId := input.policy.epochId
      repoEpochHash := hash
      inputHash := input.inputHash
      diffHash := input.diff.diffHash
      compiledPolicyHash := policy.compiledPolicyHash
      policyHash := policy.policyHash
      dependencyGraphHash := input.dependencyGraph.graphHash
      catalogHash := policy.catalog.catalogHash
      selectedObligations := selected
      selectedWitnesses := witnesses
      omittedObligations := omitted
      fallback := fallback
      evidence := sortBy (fun item => (evidenceSortText item).utf16) evidence }
    (by
      simp only [mem_cons, not_mem_nil, or_false, forall_eq_or_imp, forall_eq]
      exact ⟨input.policy.digests.1, isSha256Hex_of_hashObject hashed, plannable.inputHash, input.diff.facts.2.2.2,
        compiled, policyHash, input.dependencyGraph.digest, policy.catalog.isSha256Hex_catalogHash⟩)
    canonical omittedCanonical disjoint closes
  refine ⟨plan, ?_, ⟨by rw [fields], by rw [fields, hashed], by rw [fields], by rw [fields], by rw [fields],
    by rw [fields], by rw [fields], by rw [fields]⟩, by rw [fields], by rw [fields], ?_, by rw [fields], by rw [fields]⟩
  · simp only [finalizePlan, sortedByText_of_canonical canonical, sortedByText_of_canonical omittedCanonical, closed,
      sortedByText_of_scalar fun item _ => evidenceSortText_scalar item, hashed, ok_bind_eq, sealed]
  · rw [fields]
    exact closes

/-- The conservative plan selects everything at full depth for one recorded reason. -/
structure FullPlan (policy : PlanningPolicy) (plan : DeterministicPlan) : Prop where
  timeout : plan.fallback.timeoutSeconds = policy.fallbackTimeoutSeconds
  triggered : plan.fallback.triggered = true
  selected : collect (fun (obligation : ValidationObligation) =>
    SelectedObligation.create obligation.obligationId obligation.fullDepth obligation.requiredWitnessIds)
      policy.catalog.obligations = .ok plan.selectedObligations
  closes : Closes plan.selectedObligations plan.selectedWitnesses
  omitted : plan.omittedObligations = []
  evidence : ∃ reason evidence, plan.fallback.reason = some reason ∧ plan.evidence = [evidence] ∧
    evidence.toPlanEvidenceFields = ⟨.fallback, none, reason⟩

theorem fullCiPlan_total (plannable : Plannable input) (policy : PlanningPolicy) {reason : Text}
    (nonempty : reason ≠ []) (scalar : reason.scalar = true) :
    ∃ plan, fullCiPlan input policy reason = .ok plan ∧ Coordinates input policy plan ∧ FullPlan policy plan := by
  obtain ⟨selected, selectedAll, ids, repeats⟩ := selectAll_total policy.catalog (·.fullDepth)
  have canonical : CanonicalTexts (idsOf selected) := ids ▸ policy.catalog.facts.obligations
  have closable : Closable policy.catalog selected := closable_of_depths (fun _ member => supports_full member) repeats
  obtain ⟨fallback, fallbackMade, fallbackFields⟩ :=
    PlanFallback.create_total policy.facts.2.2.2.1 policy.facts.2.2.2.2 nonempty scalar
  obtain ⟨evidence, evidenceMade⟩ := PlanEvidence.fallback_total nonempty scalar
  obtain ⟨plan, finalized, coordinates, selectedSame, omittedSame, closes, fallbackSame, evidenceSame⟩ :=
    finalizePlan_total plannable policy fallback [evidence] canonical (show CanonicalTexts (omittedIdsOf []) from
      CanonicalTexts.nil) (by simp) closable
  refine ⟨plan, ?_, coordinates, ?_, ?_, ?_, closes, omittedSame, reason, evidence, ?_, evidenceSame,
    PlanEvidence.create_eq_ok.mp evidenceMade⟩
  · simp only [fullCiPlan, selectedAll, fallbackMade, evidenceMade, ok_bind_eq, finalized]
  · rw [fallbackSame, fallbackFields]
  · rw [fallbackSame, fallbackFields]
  · rw [selectedSame]
    exact selectedAll
  · rw [fallbackSame, fallbackFields]

/-- The selective plan keeps what must run at default depth and omits the rest with proofs. -/
structure SelectivePlan (input : PlanningInput) (policy : PlanningPolicy) (plan : DeterministicPlan) : Prop where
  timeout : plan.fallback.timeoutSeconds = policy.fallbackTimeoutSeconds
  triggered : plan.fallback.triggered = false
  reason : plan.fallback.reason = none
  selected : ∀ item, item ∈ plan.selectedObligations ↔ ∃ obligation ∈ policy.catalog.obligations,
    ¬ Omits input obligation ∧ item.toSelectedObligationFields =
      ⟨obligation.obligationId, obligation.defaultDepth, obligation.requiredWitnessIds⟩
  omitted : ∀ item ∈ plan.omittedObligations, ∃ obligation ∈ policy.catalog.obligations, Omits input obligation ∧
    item.obligationId = obligation.obligationId ∧ item.requiredWitnessIds = obligation.requiredWitnessIds ∧
    item.proof.toOmissionProofFields = omissionFields input policy obligation plan.repoEpochHash
  omits : ∀ obligation ∈ policy.catalog.obligations, Omits input obligation →
    obligation.obligationId ∈ omittedIdsOf plan.omittedObligations
  closes : Closes plan.selectedObligations plan.selectedWitnesses
  evidence : ∃ planned : List PlannedObligation, plan.evidence =
      sortBy (fun item => (evidenceSortText item).utf16) (planned.map PlannedObligation.evidence) ∧
    planned.map PlannedObligation.obligationId = catalogIds policy.catalog ∧
    ∀ entry ∈ planned, ∃ obligation ∈ policy.catalog.obligations, Plans input policy obligation plan.repoEpochHash entry

/-- A path without dependents reaches only itself. -/
theorem impacted_single {graph : DependencyGraphContext} {path other : Text} (isolated : dependentsOf graph path = [])
    (impacted : Impacted graph [path] other) : other = path := by
  obtain ⟨start, member, chain⟩ := impacted
  rw [mem_singleton] at member
  subst member
  induction chain with
  | refl => rfl
  | tail _ edge ih =>
    rw [ih, isolated] at edge
    simp at edge

/-- Where only one obligation must run, the plan selects it alone. -/
theorem SelectivePlan.selects_single {input : PlanningInput} {policy : PlanningPolicy} {plan : DeterministicPlan}
    (selective : SelectivePlan input policy plan) {obligation : ValidationObligation} {item : SelectedObligation}
    (known : obligation ∈ policy.catalog.obligations) (kept : ¬ Omits input obligation)
    (others : ∀ other ∈ policy.catalog.obligations, ¬ Omits input other → other = obligation)
    (fields : item.toSelectedObligationFields =
      ⟨obligation.obligationId, obligation.defaultDepth, obligation.requiredWitnessIds⟩) :
    plan.selectedObligations = [item] := by
  have selects : ∀ selected, selected ∈ plan.selectedObligations ↔ selected ∈ [item] := by
    intro selected
    rw [selective.selected, mem_singleton]
    constructor
    · rintro ⟨other, otherKnown, otherKept, otherFields⟩
      rw [others other otherKnown otherKept] at otherFields
      exact SelectedObligation.ext_fields (otherFields.trans fields.symm)
    · rintro rfl
      exact ⟨obligation, known, kept, fields⟩
  have distinct : plan.selectedObligations.Nodup := plan.facts.selected.nodup.of_map _
  exact perm_singleton.mp ((perm_ext_iff_of_nodup distinct (nodup_singleton _)).mpr selects)

theorem map_filterMap_sublist {A B C : Type} {choose : A → Option B} {project : B → C} {identity : A → C}
    (same : ∀ value chosen, choose value = some chosen → project chosen = identity value) (values : List A) :
    ((values.filterMap choose).map project).Sublist (values.map identity) := by
  induction values with
  | nil => exact List.Sublist.refl _
  | cons value rest ih =>
    cases chosen : choose value with
    | none =>
      rw [filterMap_cons_none chosen, map_cons]
      exact ih.cons _
    | some result =>
      rw [filterMap_cons_some chosen, map_cons, map_cons, same value result chosen]
      exact ih.cons_cons _

theorem selected?_eq_some {item : SelectedObligation} :
    entry.selected? = some item ↔ ∃ evidence, entry = .selected item evidence := by
  cases entry <;> simp [PlannedObligation.selected?]

theorem omitted?_eq_some {item : OmittedObligation} :
    entry.omitted? = some item ↔ ∃ evidence, entry = .omitted item evidence := by
  cases entry <;> simp [PlannedObligation.omitted?]

theorem Plans.obligationId (plans : Plans input policy obligation repoEpochHash entry) :
    entry.obligationId = obligation.obligationId := by
  cases entry with
  | selected item evidence =>
    obtain ⟨-, fields, -⟩ := plans
    rw [PlannedObligation.obligationId, fields]
  | omitted item evidence => exact plans.2.1

/-- The planned obligations of a catalog split into canonical selections and omissions. -/
theorem selectivePlan_total (plannable : Plannable input)
    (hashed : hashObject input.repoEpoch.toIdentityMapping = .ok repoEpochHash) (policy : PlanningPolicy)
    (total : ∀ obligation ∈ policy.catalog.obligations, ∃ planned, planObligation input policy impact obligation = .ok planned ∧
      Plans input policy obligation repoEpochHash planned) :
    ∃ plan, (do
        let planned ← collect (planObligation input policy impact) policy.catalog.obligations
        let fallback ← PlanFallback.create policy.fallbackTimeoutSeconds false none
        finalizePlan input policy (planned.filterMap PlannedObligation.selected?)
          (planned.filterMap PlannedObligation.omitted?) fallback (planned.map PlannedObligation.evidence)) = .ok plan ∧
      Coordinates input policy plan ∧ SelectivePlan input policy plan := by
  obtain ⟨planned, computed⟩ := collect_total fun obligation (member : obligation ∈ policy.catalog.obligations) =>
    (total obligation member).imp fun _ both => both.1
  have plansOf : ∀ obligation ∈ policy.catalog.obligations, ∀ entry,
      planObligation input policy impact obligation = .ok entry → Plans input policy obligation repoEpochHash entry := by
    intro obligation member entry decided
    obtain ⟨other, otherDecided, plans⟩ := total obligation member
    rw [decided, Except.ok.injEq] at otherDecided
    exact otherDecided ▸ plans
  have origin : ∀ entry ∈ planned, ∃ obligation ∈ policy.catalog.obligations,
      Plans input policy obligation repoEpochHash entry := by
    intro entry member
    obtain ⟨obligation, inside, decided⟩ := exists_of_mem_collect computed member
    exact ⟨obligation, inside, plansOf obligation inside entry decided⟩
  have ids : planned.map PlannedObligation.obligationId = catalogIds policy.catalog :=
    map_collect computed fun obligation inside entry decided => (plansOf obligation inside entry decided).obligationId
  have plannedCanonical : CanonicalTexts (planned.map PlannedObligation.obligationId) := by
    rw [ids]
    exact policy.catalog.facts.obligations
  have canonical : CanonicalTexts (idsOf (planned.filterMap PlannedObligation.selected?)) := by
    refine plannedCanonical.sublist (map_filterMap_sublist (fun entry item chosen => ?_) planned)
    obtain ⟨evidence, rfl⟩ := selected?_eq_some.mp chosen
    rfl
  have omittedCanonical : CanonicalTexts (omittedIdsOf (planned.filterMap PlannedObligation.omitted?)) := by
    refine plannedCanonical.sublist (map_filterMap_sublist (fun entry item chosen => ?_) planned)
    obtain ⟨evidence, rfl⟩ := omitted?_eq_some.mp chosen
    rfl
  have selectedMem : ∀ item, item ∈ planned.filterMap PlannedObligation.selected? ↔
      ∃ obligation ∈ policy.catalog.obligations, ¬ Omits input obligation ∧ item.toSelectedObligationFields =
        ⟨obligation.obligationId, obligation.defaultDepth, obligation.requiredWitnessIds⟩ := by
    intro item
    rw [mem_filterMap]
    constructor
    · rintro ⟨entry, member, chosen⟩
      obtain ⟨evidence, rfl⟩ := selected?_eq_some.mp chosen
      obtain ⟨obligation, inside, refused, fields, -⟩ := origin _ member
      exact ⟨obligation, inside, refused, fields⟩
    · rintro ⟨obligation, inside, refused, fields⟩
      obtain ⟨entry, member, decided⟩ := mem_collect_of_mem computed inside
      have plans := plansOf obligation inside entry decided
      cases entry with
      | selected other evidence =>
        have same : other = item := SelectedObligation.ext_fields (plans.2.1.trans fields.symm)
        exact ⟨_, member, same ▸ rfl⟩
      | omitted other evidence => exact absurd plans.1 refused
  have disjoint : ∀ item ∈ planned.filterMap PlannedObligation.selected?,
      item.obligationId ∉ omittedIdsOf (planned.filterMap PlannedObligation.omitted?) := by
    intro item member listed
    obtain ⟨other, otherMember, same⟩ := mem_map.mp listed
    obtain ⟨entry, inside, chosen⟩ := mem_filterMap.mp member
    obtain ⟨otherEntry, otherInside, otherChosen⟩ := mem_filterMap.mp otherMember
    obtain ⟨evidence, rfl⟩ := selected?_eq_some.mp chosen
    obtain ⟨otherEvidence, rfl⟩ := omitted?_eq_some.mp otherChosen
    have equal := inj_on_of_nodup_map plannedCanonical.nodup inside otherInside same.symm
    cases equal
  have closable : Closable policy.catalog (planned.filterMap PlannedObligation.selected?) := by
    refine closable_of_depths (fun _ inside => supports_default inside) fun item member => ?_
    obtain ⟨obligation, inside, -, fields⟩ := (selectedMem item).mp member
    exact ⟨obligation, inside, fields⟩
  obtain ⟨fallback, fallbackMade, fallbackFields⟩ :=
    PlanFallback.create_regular_total policy.facts.2.2.2.1 policy.facts.2.2.2.2
  obtain ⟨plan, finalized, coordinates, selectedSame, omittedSame, closes, fallbackSame, evidenceSame⟩ :=
    finalizePlan_total plannable policy fallback (planned.map PlannedObligation.evidence) canonical
      omittedCanonical disjoint closable
  have hashSame : plan.repoEpochHash = repoEpochHash := by
    have repoEpoch := coordinates.repoEpoch
    rw [hashed, Except.ok.injEq] at repoEpoch
    exact repoEpoch.symm
  refine ⟨plan, by simp only [computed, fallbackMade, ok_bind_eq, finalized], coordinates, ?_⟩
  refine ⟨by rw [fallbackSame, fallbackFields], by rw [fallbackSame, fallbackFields],
    by rw [fallbackSame, fallbackFields], fun item => by rw [selectedSame, selectedMem], ?_, ?_, closes, planned,
    evidenceSame, ids, hashSame ▸ origin⟩
  · intro item member
    rw [omittedSame] at member
    obtain ⟨entry, inside, chosen⟩ := mem_filterMap.mp member
    obtain ⟨evidence, rfl⟩ := omitted?_eq_some.mp chosen
    obtain ⟨obligation, known, omits, identity, required, proof, -⟩ := origin _ inside
    exact ⟨obligation, known, omits, identity, required, hashSame ▸ proof⟩
  · intro obligation inside omits
    obtain ⟨entry, member, decided⟩ := mem_collect_of_mem computed inside
    have plans := plansOf obligation inside entry decided
    cases entry with
    | selected other evidence => exact absurd omits plans.1
    | omitted item evidence =>
      rw [omittedSame]
      exact mem_map.mpr ⟨item, mem_filterMap.mpr ⟨_, member, rfl⟩, plans.2.1⟩

/-- A change that the planner cannot bound: the evidence has a reason against it or a path is unknown. -/
def NeedsFullCi (input : PlanningInput) : Prop :=
  input.fallbackReasons ≠ [] ∨
    ∃ path, Impacted input.dependencyGraph input.diff.namedPaths path ∧ isNode input.dependencyGraph path = false

theorem joinTexts_ne_nil {separator : Text} {texts : List Text} (some : texts ≠ []) (named : [] ∉ texts) :
    joinTexts separator texts ≠ [] := by
  cases texts with
  | nil => exact absurd rfl some
  | cons first rest =>
    have nonempty : first ≠ [] := fun empty => named (empty ▸ mem_cons_self)
    cases rest with
    | nil => simpa [joinTexts, List.intercalate] using nonempty
    | cons second others => simp [joinTexts, List.intercalate, nonempty]

/-- For a matching input the planner always returns a plan: the full one when needed, else the selective one. -/
theorem plan_total (plannable : Plannable input) (matching : Matches input policy) :
    ∃ result, plan input policy = .ok (.inl result) ∧ Coordinates input policy result ∧
      (NeedsFullCi input ∧ FullPlan policy result ∨ ¬ NeedsFullCi input ∧ SelectivePlan input policy result) := by
  obtain ⟨rejections, rejectionsComputed, -, -, rejectionsIff⟩ := plannerRejectionReasons_spec input policy
  have accepted : rejections = [] := rejectionsIff.mpr matching
  subst accepted
  have admission : plannerAdmissionReasons input policy = .ok input.fallbackReasons := by
    simp only [plannerAdmissionReasons, rejectionsComputed, ok_bind_eq, append_nil]
    exact sortedTexts_of_canonical plannable.reasons
  simp only [plan, rejectionsComputed, ok_bind_eq, ne_eq, not_true_eq_false, if_false, admission]
  by_cases regular : input.fallbackReasons = []
  · simp only [regular, not_true_eq_false, if_false]
    obtain ⟨impact, analyzed, describes, members, impacted, unknown, global⟩ := analyzeImpact_total (plannable.paths regular)
    have unknownIff : impact.unknownPaths ≠ [] ↔ NeedsFullCi input := by
      rw [ne_eq, eq_nil_iff_forall_not_mem, not_forall_not]
      simp only [describes.unknown, impacted_congr _ members, NeedsFullCi, regular, ne_eq, not_true_eq_false, false_or]
    simp only [analyzed, ok_bind_eq]
    by_cases bounded : impact.unknownPaths = []
    · simp only [bounded, not_true_eq_false, if_false]
      obtain ⟨hash, hashed⟩ : ∃ hash, hashObject input.repoEpoch.toIdentityMapping = .ok hash :=
        ⟨_, hashObject_of_admissible plannable.repoEpoch⟩
      obtain ⟨result, computed, coordinates, selective⟩ := selectivePlan_total plannable hashed policy fun obligation _ => by
          obtain ⟨decision, decided, decides⟩ := buildOmissionProof_total describes members impacted global hashed obligation
          exact planObligation_total decided decides
      refine ⟨result, ?_, coordinates, .inr ⟨fun needs => unknownIff.mpr needs bounded, selective⟩⟩
      simp only [bind_eq_ok] at computed ⊢
      obtain ⟨planned, plannedComputed, fallback, fallbackMade, finalized⟩ := computed
      exact ⟨planned, plannedComputed, fallback, fallbackMade, by rw [finalized]; rfl⟩
    · simp only [bounded, not_false_eq_true, if_true]
      have scalar : (ascii "unknown changed paths: " ++ joinTexts (ascii ", ") impact.unknownPaths).scalar = true := by
        simp [scalar_joinTexts (scalar_ascii _) unknown.1]
      obtain ⟨result, computed, coordinates, full⟩ := fullCiPlan_total plannable policy
        (append_ne_nil_of_left_ne_nil (by decide) _) scalar
      exact ⟨result, by rw [computed]; rfl, coordinates, .inl ⟨unknownIff.mp bounded, full⟩⟩
  · simp only [regular, not_false_eq_true, if_true]
    obtain ⟨result, computed, coordinates, full⟩ := fullCiPlan_total plannable policy
      (joinTexts_ne_nil regular plannable.named) (scalar_joinTexts (scalar_ascii "; ") plannable.reasons.1)
    exact ⟨result, by rw [computed]; rfl, coordinates, .inl ⟨.inl regular, full⟩⟩

end CiCoordinator.PlanningCore

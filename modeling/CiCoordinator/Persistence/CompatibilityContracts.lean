import CiCoordinator.Kernel.CanonicalJson
import CiCoordinator.Library.Dictionary

/- The declarations of database revisions and the relation between a revision and its successor. -/

namespace CiCoordinator.Persistence

open Library Kernel List Dictionary

/-- The exceptions of the compatibility protocol, with those of the encoders below it. -/
inductive CompatibilityError where
  | compatibilityContractError (code message : Text)
  | databaseCompatibilityError (message : Text)
  | databaseCapabilityUnavailable (message : Text)
  | raised (error : PyError)
  deriving DecidableEq

abbrev Compatibility := Except CompatibilityError

abbrev contractErrorIf (rejected : Prop) [Decidable rejected] (code message : Text) : Compatibility Unit :=
  raiseIf rejected (.compatibilityContractError code message)

abbrev databaseErrorIf (rejected : Prop) [Decidable rejected] (message : Text) : Compatibility Unit :=
  raiseIf rejected (.databaseCompatibilityError message)

/-- An error of an encoder is raised as it is. -/
def encoded {A : Type} : Py A → Compatibility A
  | .ok value => .ok value
  | .error error => .error (.raised error)

structure CompatibilityProfileFields where
  lineageId : Text
  protocolVersion : Nat
  maximumCapabilitiesPerRevision : Nat
  maximumCapabilityIdBytes : Nat
  declarationReadLimit : Nat
  capabilityReadLimit : Nat
  revisionIdPattern : Text → Bool
  capabilityIdPattern : Text → Bool

/-- The checks on these values when a profile is parsed; a read fetches one capability more than a revision may have. -/
def CompatibilityProfileFields.parseChecks (self : CompatibilityProfileFields) : Py Unit := do
  valueErrorIf (self.lineageId = [] ∨ self.lineageId.scalar = false)
    (ascii "profile.lineageId must be a non-empty Unicode scalar string")
  forEach (fun (entry : Nat × Text) => valueErrorIf (entry.1 < 1) (entry.2 ++ ascii " must be a positive integer"))
    [(self.protocolVersion, ascii "profile.protocolVersion"),
      (self.maximumCapabilitiesPerRevision, ascii "declaration.maximumCapabilitiesPerRevision"),
      (self.maximumCapabilityIdBytes, ascii "declaration.maximumCapabilityIdBytes"),
      (self.declarationReadLimit, ascii "boundedReadProtocol.declarationLimit"),
      (self.capabilityReadLimit, ascii "boundedReadProtocol.capabilityLimitPerRevision")]
  valueErrorIf (self.declarationReadLimit ≠ 2 ∨ self.capabilityReadLimit ≠ self.maximumCapabilitiesPerRevision + 1)
    (ascii "database compatibility bounded read limits are inconsistent")

/-- The limits of an admitted profile. -/
structure CompatibilityProfile extends CompatibilityProfileFields where
  admitted : toCompatibilityProfileFields.parseChecks = .ok ()

theorem CompatibilityProfile.bounded (profile : CompatibilityProfile) :
    profile.capabilityReadLimit = profile.maximumCapabilitiesPerRevision + 1 := by
  have admitted := profile.admitted
  simp only [CompatibilityProfileFields.parseChecks, bind_unit_eq_ok, raiseIf_eq_ok, not_or, not_not] at admitted
  exact admitted.2.2.2

/-- Eight digits, a low line and four digits. -/
def bundledRevisionId (value : Text) : Bool :=
  value.length = 13 && (value.take 8).all CodePoint.isDigit && (value.drop 8).head? = some 0x5F &&
    (value.drop 9).all CodePoint.isDigit

/-- A name and a version with a solidus between them. -/
def bundledCapabilityId (value : Text) : Bool :=
  let plain := fun point : CodePoint => point.isDigit || 97 ≤ point.val && point.val ≤ 122
  match value.splitOn 0x2F with
  | [first :: name, 0x76 :: leading :: version] =>
    plain first && (name.all fun point => plain point || point = 0x2E || point = 0x2D) &&
      leading.isDigit && leading ≠ 0x30 && version.all CodePoint.isDigit
  | _ => false

/-- The profile that the package carries. -/
def bundledProfile : CompatibilityProfile where
  lineageId := ascii "ci-coordinator-postgresql/v1"
  protocolVersion := 1
  maximumCapabilitiesPerRevision := 256
  maximumCapabilityIdBytes := 128
  declarationReadLimit := 2
  capabilityReadLimit := 257
  revisionIdPattern := bundledRevisionId
  capabilityIdPattern := bundledCapabilityId
  admitted := by decide

example : bundledProfile.revisionIdPattern (ascii "20260101_0007") = true ∧
    bundledProfile.capabilityIdPattern (ascii "audit-ledger.read/v10") = true ∧
    bundledProfile.capabilityIdPattern (ascii "audit-ledger.read/v01") = false := by
  decide

inductive TransitionKind where
  | bootstrap
  | expand
  | contract
  deriving DecidableEq

def TransitionKind.text : TransitionKind → Text
  | .bootstrap => ascii "bootstrap"
  | .expand => ascii "expand"
  | .contract => ascii "contract"

@[ext] structure CapabilityDeclaration where
  capabilityId : Text
  descriptorHash : Text
  digest : isSha256Hex descriptorHash = true

instance : DecidableEq CapabilityDeclaration :=
  fun _ _ => decidable_of_iff _ CapabilityDeclaration.ext_iff.symm

def CapabilityDeclaration.make (capabilityId descriptorHash : Text) : Compatibility CapabilityDeclaration :=
  construct (contractErrorIf (¬ isSha256Hex descriptorHash = true) (ascii "database_capability_descriptor_invalid")
      (ascii "capability descriptor hash must be a lowercase SHA-256 hex digest"))
    fun passed => ⟨capabilityId, descriptorHash, not_not.mp (raiseIf_eq_ok.mp passed)⟩

variable (capability : CapabilityDeclaration)

/-- Capabilities are ordered by the UTF-8 bytes of their identifiers. -/
def CapabilityDeclaration.sortKey : List Nat :=
  capability.capabilityId.utf8

variable (capabilities : List CapabilityDeclaration)

def orderedUniqueCapabilities : Compatibility (List CapabilityDeclaration) := do
  raiseIf (∃ capability ∈ capabilities, capability.capabilityId.scalar = false) (.raised .unicodeEncodeError)
  let ordered := sortBy CapabilityDeclaration.sortKey capabilities
  contractErrorIf (¬ (ordered.map CapabilityDeclaration.capabilityId).Nodup)
    (ascii "database_capability_identifier_duplicate") (ascii "capability identifiers must be unique")
  return ordered

structure RevisionFields where
  generation : Int
  lineageId : Text
  revisionId : Text
  parentRevisionId : Option Text
  transitionKind : TransitionKind
  protocolVersion : Int
  capabilities : List CapabilityDeclaration
  declarationHash : Text
  deriving DecidableEq

def RevisionFields.postInit (self : RevisionFields) : Compatibility Unit := do
  contractErrorIf (self.generation < 1) (ascii "database_declaration_generation_invalid")
    (ascii "declaration generation must be a positive integer")
  contractErrorIf (self.capabilities = []) (ascii "database_declaration_capabilities_empty")
    (ascii "declaration capabilities must be non-empty")
  let ordered ← orderedUniqueCapabilities self.capabilities
  contractErrorIf (self.capabilities ≠ ordered) (ascii "database_declaration_capabilities_unordered")
    (ascii "declaration capabilities must be unique and ordered by UTF-8 bytes")

/-- A declaration whose fields have passed the checks of its constructor. -/
structure RevisionDeclaration extends RevisionFields where
  constructed : toRevisionFields.postInit = .ok ()
  deriving DecidableEq

def RevisionDeclaration.make (fields : RevisionFields) : Compatibility RevisionDeclaration :=
  construct fields.postInit fun constructed => ⟨fields, constructed⟩

def optionalText : Option Text → Json
  | none => .null
  | some text => .str text

def capabilityProjection : Json :=
  .obj [
    (ascii "capabilityId", .str capability.capabilityId),
    (ascii "descriptorHash", .str capability.descriptorHash)
  ]

def RevisionFields.projection (self : RevisionFields) : Json :=
  .obj [
    (ascii "generation", .int self.generation),
    (ascii "lineageId", .str self.lineageId),
    (ascii "revisionId", .str self.revisionId),
    (ascii "parentRevisionId", optionalText self.parentRevisionId),
    (ascii "transitionKind", .str self.transitionKind.text),
    (ascii "protocolVersion", .int self.protocolVersion),
    (ascii "providedCapabilities", .arr (self.capabilities.map capabilityProjection))
  ]

/-- The hash of a declaration covers every field but the hash. -/
def declarationHash (fields : RevisionFields) : Compatibility Text := do
  let written ← encoded (canonicalJson fields.projection none)
  return sha256Hex ((ascii "ci-database-revision/v1").utf8 ++ 0 :: written)

def validateRevisionId (profile : CompatibilityProfile) (revisionId label : Text) : Compatibility Unit :=
  contractErrorIf (profile.revisionIdPattern revisionId = false) (ascii "database_declaration_revision_invalid")
    (label ++ ascii " does not match the admitted revision identifier pattern")

def validateCapability (profile : CompatibilityProfile) (capability : CapabilityDeclaration) : Compatibility Unit := do
  raiseIf (capability.capabilityId.scalar = false) (.raised .unicodeEncodeError)
  contractErrorIf (profile.maximumCapabilityIdBytes < capability.capabilityId.utf8.length)
    (ascii "database_capability_identifier_too_large") (ascii "capability identifier exceeds the profile byte limit")
  contractErrorIf (profile.capabilityIdPattern capability.capabilityId = false)
    (ascii "database_capability_identifier_invalid")
    (ascii "capability identifier does not match the admitted pattern")

def validateParentRevisionId (profile : CompatibilityProfile) : Option Text → Compatibility Unit
  | none => .ok ()
  | some parentRevisionId => validateRevisionId profile parentRevisionId (ascii "parent revision")

/-- A bootstrap has generation one and no parent, and every other declaration has a later generation and a parent. -/
def validateTransition (declaration : RevisionFields) : Compatibility Unit :=
  if declaration.transitionKind = .bootstrap then
    contractErrorIf (declaration.generation ≠ 1 ∨ declaration.parentRevisionId ≠ none)
      (ascii "database_declaration_bootstrap_invalid") (ascii "bootstrap must use generation one and no parent revision")
  else
    contractErrorIf (declaration.generation = 1 ∨ declaration.parentRevisionId = none)
      (ascii "database_declaration_successor_invalid")
      (ascii "a successor must have a generation above one and an exact parent revision")

def validateDeclaration (profile : CompatibilityProfile) (declaration : RevisionDeclaration) : Compatibility Unit := do
  validateRevisionId profile declaration.revisionId (ascii "revision")
  validateParentRevisionId profile declaration.parentRevisionId
  contractErrorIf (declaration.lineageId ≠ profile.lineageId) (ascii "database_declaration_lineage_invalid")
    (ascii "declaration lineage does not match the admitted profile")
  contractErrorIf (declaration.protocolVersion ≠ profile.protocolVersion) (ascii "database_declaration_protocol_invalid")
    (ascii "declaration protocol version does not match the admitted profile")
  contractErrorIf (profile.maximumCapabilitiesPerRevision < declaration.capabilities.length)
    (ascii "database_declaration_bounds_exceeded") (ascii "declaration exceeds the capability bound")
  forEach (validateCapability profile) declaration.capabilities
  let expectedHash ← declarationHash declaration.toRevisionFields
  contractErrorIf (declaration.declarationHash ≠ expectedHash) (ascii "database_declaration_hash_mismatch")
    (ascii "declaration hash does not match its canonical projection")
  validateTransition declaration.toRevisionFields

/-- The descriptor of each identifier. -/
def descriptorsById : Dictionary Text Text :=
  .comprehend (capabilities.map fun capability => (capability.capabilityId, capability.descriptorHash))

def identifiers : List Text :=
  capabilities.map CapabilityDeclaration.capabilityId

def rewritten (previous candidate : List CapabilityDeclaration) : Prop :=
  ∃ capabilityId ∈ identifiers previous, capabilityId ∈ identifiers candidate ∧
    (descriptorsById previous).get? capabilityId ≠ (descriptorsById candidate).get? capabilityId

instance (previous candidate : List CapabilityDeclaration) : Decidable (rewritten previous candidate) :=
  inferInstanceAs (Decidable (∃ capabilityId ∈ identifiers previous, _ ∧ _))

/-- The proper inclusion of the identifiers. -/
def fewerIdentifiers (fewer more : List CapabilityDeclaration) : Prop :=
  (∀ capabilityId ∈ identifiers fewer, capabilityId ∈ identifiers more) ∧
    ¬ ∀ capabilityId ∈ identifiers more, capabilityId ∈ identifiers fewer

instance (fewer more : List CapabilityDeclaration) : Decidable (fewerIdentifiers fewer more) :=
  inferInstanceAs (Decidable (_ ∧ _))

def validateChange (kind : TransitionKind) (previous candidate : List CapabilityDeclaration) : Compatibility Unit :=
  match kind with
  | .bootstrap => .ok ()
  | .expand =>
    contractErrorIf (¬ fewerIdentifiers previous candidate) (ascii "database_declaration_expand_invalid")
      (ascii "an expand transition must add at least one capability and remove none")
  | .contract =>
    contractErrorIf (¬ fewerIdentifiers candidate previous) (ascii "database_declaration_contract_invalid")
      (ascii "a contract transition must remove at least one capability and add none")

def validateSuccessor (profile : CompatibilityProfile) (previous : Option RevisionDeclaration)
    (candidate : RevisionDeclaration) : Compatibility Unit := do
  validateDeclaration profile candidate
  match previous with
  | none =>
    contractErrorIf (candidate.transitionKind ≠ .bootstrap) (ascii "database_declaration_bootstrap_required")
      (ascii "the first declaration must be a bootstrap")
  | some previous => do
    validateDeclaration profile previous
    contractErrorIf (candidate.transitionKind = .bootstrap) (ascii "database_declaration_duplicate_bootstrap")
      (ascii "a successor cannot be a bootstrap")
    contractErrorIf (candidate.generation ≠ previous.generation + 1) (ascii "database_declaration_generation_gap")
      (ascii "successor generation must increment by one")
    contractErrorIf (candidate.parentRevisionId ≠ some previous.revisionId) (ascii "database_declaration_parent_invalid")
      (ascii "successor parent must be the immediately previous revision")
    contractErrorIf (rewritten previous.capabilities candidate.capabilities)
      (ascii "database_capability_descriptor_rewritten")
      (ascii "a retained capability identifier cannot change descriptor hash")
    validateChange candidate.transitionKind previous.capabilities candidate.capabilities

def assertExactReplay (stored proposed : RevisionDeclaration) : Compatibility Unit :=
  contractErrorIf (stored ≠ proposed) (ascii "database_declaration_replay_conflict")
    (ascii "an existing revision declaration differs from the proposed replay")

def capabilitiesCover (required provided : List CapabilityDeclaration) : Bool :=
  required.all fun item => decide ((descriptorsById provided).get? item.capabilityId = some item.descriptorHash)

section Constructors

theorem CapabilityDeclaration.make_self (capability : CapabilityDeclaration) :
    CapabilityDeclaration.make capability.capabilityId capability.descriptorHash = .ok capability :=
  construct_ok (raiseIf_eq_ok.mpr (not_not.mpr capability.digest))

variable (declaration : RevisionDeclaration)

theorem RevisionDeclaration.make_self : RevisionDeclaration.make declaration.toRevisionFields = .ok declaration :=
  construct_ok declaration.constructed

theorem orderedUniqueCapabilities_eq_ok {capabilities ordered : List CapabilityDeclaration}
    (passed : orderedUniqueCapabilities capabilities = .ok ordered) :
    (identifiers ordered).Nodup ∧ sortBy CapabilityDeclaration.sortKey capabilities = ordered := by
  rw [orderedUniqueCapabilities, bind_unit_eq_ok, bind_unit_eq_ok, raiseIf_eq_ok, raiseIf_eq_ok, not_not,
    pure_eq_ok_iff] at passed
  obtain ⟨_, distinct, rfl⟩ := passed
  exact ⟨distinct, rfl⟩

theorem RevisionDeclaration.sorted : (identifiers declaration.capabilities).Nodup ∧
      declaration.capabilities.Pairwise fun left right => left.sortKey ≤ right.sortKey := by
  have passed := declaration.constructed
  simp only [RevisionFields.postInit, bind_eq_ok, exists_unit_iff, raiseIf_eq_ok, ne_eq, not_not] at passed
  obtain ⟨_, _, ordered, unique, same⟩ := passed
  obtain ⟨distinct, sorted⟩ := orderedUniqueCapabilities_eq_ok unique
  rw [same]
  refine ⟨distinct, ?_⟩
  rw [← sorted]
  exact sortBy_ordered CapabilityDeclaration.sortKey declaration.capabilities

end Constructors

/-- What the checks of a declaration tell about it. -/
structure ValidDeclaration (profile : CompatibilityProfile) (declaration : RevisionDeclaration) : Prop where
  bounded : declaration.capabilities.length ≤ profile.maximumCapabilitiesPerRevision
  patterns : ∀ capability ∈ declaration.capabilities, profile.capabilityIdPattern capability.capabilityId = true
  transition : validateTransition declaration.toRevisionFields = .ok ()

/-- What the checks of a successor tell about it and the declaration before it. -/
structure Succeeds (profile : CompatibilityProfile) (previous candidate : RevisionDeclaration) : Prop where
  valid : validateDeclaration profile candidate = .ok ()
  previousValid : validateDeclaration profile previous = .ok ()
  kind : candidate.transitionKind ≠ .bootstrap
  generation : candidate.generation = previous.generation + 1
  parent : candidate.parentRevisionId = some previous.revisionId
  kept : ¬ rewritten previous.capabilities candidate.capabilities
  change : validateChange candidate.transitionKind previous.capabilities candidate.capabilities = .ok ()

section Validation

variable {profile : CompatibilityProfile} {previous candidate : RevisionDeclaration}

theorem validDeclaration_of_ok (passed : validateDeclaration profile candidate = .ok ()) :
    ValidDeclaration profile candidate := by
  simp only [validateDeclaration, bind_eq_ok, exists_unit_iff, raiseIf_eq_ok, forEach_eq_ok] at passed
  obtain ⟨_, _, _, _, bounded, each, _, _, _, transition⟩ := passed
  refine ⟨not_lt.mp bounded, fun capability member => ?_, transition⟩
  have checked := each capability member
  simp only [validateCapability, bind_unit_eq_ok, raiseIf_eq_ok] at checked
  exact Bool.eq_true_of_not_eq_false checked.2.2

theorem validateSuccessor_none : validateSuccessor profile none candidate = .ok () ↔
      validateDeclaration profile candidate = .ok () ∧ candidate.transitionKind = .bootstrap := by
  rw [validateSuccessor, bind_unit_eq_ok, raiseIf_eq_ok, ne_eq, not_not]

theorem validateSuccessor_some :
    validateSuccessor profile (some previous) candidate = .ok () ↔ Succeeds profile previous candidate := by
  simp only [validateSuccessor, bind_unit_eq_ok, raiseIf_eq_ok, ne_eq, not_not]
  constructor
  · rintro ⟨valid, previousValid, kind, generation, parent, kept, change⟩
    exact ⟨valid, previousValid, kind, generation, parent, kept, change⟩
  · rintro ⟨valid, previousValid, kind, generation, parent, kept, change⟩
    exact ⟨valid, previousValid, kind, generation, parent, kept, change⟩

theorem transition_bootstrap {declaration : RevisionFields} (passed : validateTransition declaration = .ok ())
    (kind : declaration.transitionKind = .bootstrap) :
    declaration.generation = 1 ∧ declaration.parentRevisionId = none := by
  rw [validateTransition, if_pos kind, raiseIf_eq_ok, not_or, not_not, not_not] at passed
  exact passed

end Validation

section Coverage

variable {required provided : List CapabilityDeclaration}

theorem get?_descriptorsById (distinct : (identifiers provided).Nodup) {capability : CapabilityDeclaration}
    (member : capability ∈ provided) :
    (descriptorsById provided).get? capability.capabilityId = some capability.descriptorHash := by
  refine get?_comprehend_of_mem ?_ (mem_map.mpr ⟨capability, member, rfl⟩)
  rw [map_map]
  exact distinct

theorem mem_of_descriptor {capabilityId descriptorHash : Text}
    (found : (descriptorsById provided).get? capabilityId = some descriptorHash) :
    ∃ offered ∈ provided, offered.capabilityId = capabilityId ∧ offered.descriptorHash = descriptorHash := by
  rw [descriptorsById, get?_comprehend] at found
  have member := mem_reverse.mp (mem_of_find found)
  obtain ⟨offered, inside, same⟩ := mem_map.mp member
  exact ⟨offered, inside, congrArg Prod.fst same, congrArg Prod.snd same⟩

/-- Coverage means that each required capability is offered with its own descriptor. -/
theorem capabilitiesCover_iff (distinct : (identifiers provided).Nodup) :
    capabilitiesCover required provided = true ↔ ∀ item ∈ required, ∃ offered ∈ provided,
        offered.capabilityId = item.capabilityId ∧ offered.descriptorHash = item.descriptorHash := by
  rw [capabilitiesCover, all_eq_true]
  refine forall_congr' fun item => forall_congr' fun _ => ?_
  rw [decide_eq_true_iff]
  constructor
  · exact mem_of_descriptor
  · rintro ⟨offered, member, sameId, sameHash⟩
    rw [← sameId, ← sameHash]
    exact get?_descriptorsById distinct member

variable {profile : CompatibilityProfile} {previous candidate : RevisionDeclaration}

/-- A capability that a successor retains keeps its descriptor. -/
theorem Succeeds.descriptor (succeeds : Succeeds profile previous candidate) {old new : CapabilityDeclaration}
    (oldMember : old ∈ previous.capabilities) (newMember : new ∈ candidate.capabilities)
    (same : new.capabilityId = old.capabilityId) : new.descriptorHash = old.descriptorHash := by
  by_contra different
  refine succeeds.kept ⟨old.capabilityId, mem_map_of_mem oldMember, ?_, ?_⟩
  · rw [← same]
    exact mem_map_of_mem newMember
  · rw [get?_descriptorsById previous.sorted.1 oldMember, ← same, get?_descriptorsById candidate.sorted.1 newMember]
    exact fun equal => different (Option.some.inj equal).symm

/-- What a declaration covers, its successor covers exactly when it has the required identifiers. -/
theorem Succeeds.covers_iff (succeeds : Succeeds profile previous candidate)
    (covered : capabilitiesCover required previous.capabilities = true) :
    capabilitiesCover required candidate.capabilities = true ↔
      ∀ item ∈ required, item.capabilityId ∈ identifiers candidate.capabilities := by
  rw [capabilitiesCover_iff previous.sorted.1] at covered
  rw [capabilitiesCover_iff candidate.sorted.1]
  refine forall_congr' fun item => forall_congr' fun member => ?_
  obtain ⟨old, oldMember, sameId, sameHash⟩ := covered item member
  constructor
  · rintro ⟨new, newMember, newId, _⟩
    rw [← newId]
    exact mem_map_of_mem newMember
  · intro retained
    obtain ⟨new, newMember, newId⟩ := mem_map.mp retained
    exact ⟨new, newMember, newId, (succeeds.descriptor oldMember newMember (newId.trans sameId.symm)).trans sameHash⟩

theorem mem_identifiers_of_cover (covered : capabilitiesCover required previous.capabilities = true)
    {item : CapabilityDeclaration} (member : item ∈ required) : item.capabilityId ∈ identifiers previous.capabilities := by
  obtain ⟨offered, inside, same, _⟩ := (capabilitiesCover_iff previous.sorted.1).mp covered item member
  rw [← same]
  exact mem_map_of_mem inside

/-- Without a contract step, coverage is kept. -/
theorem Succeeds.covers_expand (succeeds : Succeeds profile previous candidate) (expands : candidate.transitionKind ≠ .contract)
    (covered : capabilitiesCover required previous.capabilities = true) :
    capabilitiesCover required candidate.capabilities = true := by
  have kind : candidate.transitionKind = .expand := by
    cases same : candidate.transitionKind with
    | bootstrap => exact absurd same succeeds.kind
    | expand => rfl
    | contract => exact absurd same expands
  have change := succeeds.change
  rw [kind, validateChange, raiseIf_eq_ok, not_not] at change
  exact (succeeds.covers_iff covered).mpr fun item member =>
    change.1 item.capabilityId (mem_identifiers_of_cover covered member)

end Coverage

end CiCoordinator.Persistence

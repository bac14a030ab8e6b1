import CiCoordinator.Persistence.CompatibilityContracts

/- The tables of the declared revisions, the protocol that appends to them, and the bounded read of the current revision. -/

namespace CiCoordinator.Persistence

open Library

structure DeclarationRow where
  generation : Int
  revisionId : Text
  parentRevisionId : Option Text
  transitionKind : TransitionKind
  lineageId : Text
  protocolVersion : Int
  declarationHash : Text
  deriving DecidableEq

structure CapabilityRow where
  revisionId : Text
  capabilityId : Text
  descriptorHash : Text
  deriving DecidableEq

/-- The tables of the declared revisions, with the current revisions of the migration tool. -/
structure CompatibilityTables where
  versions : List Text
  declarations : List DeclarationRow
  capabilities : List CapabilityRow
  deriving DecidableEq

/-- The order in which the database sorts identifiers. It sorts those of the admitted pattern by their bytes. -/
structure Collation (profile : CompatibilityProfile) where
  before : Text → Text → Bool
  bytewise : ∀ left right, profile.capabilityIdPattern left = true → profile.capabilityIdPattern right = true →
    before left right = decide (left.utf8 ≤ right.utf8)

/-- The collation by bytes. -/
instance inhabited_collation (profile : CompatibilityProfile) : Inhabited (Collation profile) :=
  ⟨⟨fun left right => decide (left.utf8 ≤ right.utf8), fun _ _ _ _ => rfl⟩⟩

variable (declaration : RevisionDeclaration)

def RevisionDeclaration.row : DeclarationRow :=
  ⟨declaration.generation, declaration.revisionId, declaration.parentRevisionId, declaration.transitionKind,
    declaration.lineageId, declaration.protocolVersion, declaration.declarationHash⟩

def capabilityRow (revisionId : Text) (capability : CapabilityDeclaration) : CapabilityRow :=
  ⟨revisionId, capability.capabilityId, capability.descriptorHash⟩

def RevisionDeclaration.capabilityRows : List CapabilityRow :=
  declaration.capabilities.map (capabilityRow declaration.revisionId)

def revisionDeclarationFromRow (row : DeclarationRow) (capabilities : List CapabilityDeclaration) :
    Compatibility RevisionDeclaration :=
  RevisionDeclaration.make ⟨row.generation, row.lineageId, row.revisionId, row.parentRevisionId, row.transitionKind,
    row.protocolVersion, capabilities, row.declarationHash⟩

def capabilityFromRow (row : CapabilityRow) : Compatibility CapabilityDeclaration :=
  CapabilityDeclaration.make row.capabilityId row.descriptorHash

/-- A stored row that breaks its contract is an error of the database. -/
def storedContract {A : Type} (message : Text) : Compatibility A → Compatibility A
  | .error (.compatibilityContractError _ _) => .error (.databaseCompatibilityError message)
  | outcome => outcome

section Reading

variable (profile : CompatibilityProfile) (collation : Collation profile) (tables : CompatibilityTables)

def currentAlembicRevision : Compatibility Text :=
  match tables.versions with
  | [revision] => .ok revision
  | _ => .error (.databaseCompatibilityError (ascii "database must expose exactly one Alembic revision"))

variable (revisionId : Text)

def capabilityRowsOf : List CapabilityRow :=
  (((tables.capabilities.filter fun row => decide (row.revisionId = revisionId)).mergeSort fun left right =>
    collation.before left.capabilityId right.capabilityId)).take profile.capabilityReadLimit

def loadCapabilities : Compatibility (List CapabilityDeclaration) := do
  let rows := capabilityRowsOf profile collation tables revisionId
  databaseErrorIf (rows.length = profile.capabilityReadLimit)
    (ascii "database compatibility capability bound is exceeded")
  storedContract (ascii "database compatibility capabilities violate their immutable contract")
    (collect capabilityFromRow rows)

def loadDeclaration : Compatibility (Option RevisionDeclaration) :=
  match tables.declarations.find? fun row => decide (row.revisionId = revisionId) with
  | none => .ok none
  | some row => do
    let capabilities ← loadCapabilities profile collation tables revisionId
    some <$> storedContract (ascii "database compatibility declaration violates its immutable contract")
      (revisionDeclarationFromRow row capabilities)

/-- A declaration that has to be there. -/
def requireDeclaration (missing : CompatibilityError) : Compatibility RevisionDeclaration := do
  match ← loadDeclaration profile collation tables revisionId with
  | none => .error missing
  | some declaration => .ok declaration

variable (declaration : RevisionDeclaration)

def parentOf (missing : CompatibilityError) :
    Compatibility (Option RevisionDeclaration) :=
  match declaration.parentRevisionId with
  | none => .ok none
  | some parentRevisionId => some <$> requireDeclaration profile collation tables parentRevisionId missing

def validateStoredDeclaration : Compatibility Unit := do
  let parent ← parentOf profile collation tables declaration
    (.databaseCompatibilityError (ascii "database declaration parent is missing"))
  storedContract (ascii "stored database compatibility declaration chain is invalid")
    (validateSuccessor profile parent declaration)

/-- The revision of the last generation. -/
def latestRevisionId : Option Text :=
  (sortBy (fun row : DeclarationRow => -row.generation) tables.declarations).head?.map DeclarationRow.revisionId

def latestDeclaration : Compatibility (Option RevisionDeclaration) :=
  match latestRevisionId tables with
  | none => .ok none
  | some revisionId =>
    some <$> requireDeclaration profile collation tables revisionId
      (.databaseCompatibilityError (ascii "latest database compatibility declaration is missing"))

structure CurrentCompatibility where
  declaration : RevisionDeclaration
  parent : Option RevisionDeclaration
  deriving DecidableEq

def undeclaredRevision : CompatibilityError :=
  .databaseCapabilityUnavailable (ascii "current Alembic revision has no compatibility declaration")

def loadCurrentCompatibility : Compatibility CurrentCompatibility := do
  let revisionId ← currentAlembicRevision tables
  let current ← requireDeclaration profile collation tables revisionId undeclaredRevision
  let parent ← parentOf profile collation tables current undeclaredRevision
  storedContract (ascii "database compatibility declaration chain is invalid") (validateSuccessor profile parent current)
  return ⟨current, parent⟩

end Reading

/-- A text that a column of a width can hold. -/
def fitsColumn (width : Nat) (text : Text) : Bool :=
  decide (text.length ≤ width) && text.scalar && decide ((0 : CodePoint) ∉ text)

/-- The constraints of the table of declarations on its own columns. -/
def DeclarationRow.wellFormed (row : DeclarationRow) : Bool :=
  fitsColumn 32 row.revisionId && row.parentRevisionId.all (fitsColumn 32) && fitsColumn 128 row.lineageId &&
    isSha256Hex row.declarationHash && decide (1 ≤ row.generation ∧ row.generation < 2 ^ 63) &&
    decide (-(2 ^ 15) ≤ row.protocolVersion ∧ row.protocolVersion < 2 ^ 15) &&
    decide ((row.generation = 1 ∧ row.parentRevisionId = none ∧ row.transitionKind = .bootstrap) ∨
      (1 < row.generation ∧ row.parentRevisionId ≠ none ∧ row.transitionKind ≠ .bootstrap))

def CapabilityRow.wellFormed (row : CapabilityRow) : Bool :=
  fitsColumn 128 row.capabilityId && isSha256Hex row.descriptorHash

/-- The keys and the references of the tables. -/
structure KeysAdmit (tables : CompatibilityTables) (declaration : RevisionDeclaration) : Prop where
  generation : ∀ row ∈ tables.declarations, row.generation ≠ declaration.generation
  revision : ∀ row ∈ tables.declarations, row.revisionId ≠ declaration.revisionId
  parent : ∀ parentRevisionId ∈ declaration.parentRevisionId,
    ∃ row ∈ tables.declarations, row.revisionId = parentRevisionId
  capability : (identifiers declaration.capabilities).Nodup
  unused : ∀ row ∈ tables.capabilities, row.revisionId = declaration.revisionId →
    row.capabilityId ∉ identifiers declaration.capabilities

instance (tables : CompatibilityTables) (declaration : RevisionDeclaration) : Decidable (KeysAdmit tables declaration) :=
  decidable_of_iff ((∀ row ∈ tables.declarations, row.generation ≠ declaration.generation) ∧
      (∀ row ∈ tables.declarations, row.revisionId ≠ declaration.revisionId) ∧
      (∀ parentRevisionId ∈ declaration.parentRevisionId.toList,
        ∃ row ∈ tables.declarations, row.revisionId = parentRevisionId) ∧
      (identifiers declaration.capabilities).Nodup ∧
      ∀ row ∈ tables.capabilities, row.revisionId = declaration.revisionId →
        row.capabilityId ∉ identifiers declaration.capabilities)
    ⟨fun ⟨generation, revision, parent, capability, unused⟩ =>
        ⟨generation, revision, fun parentRevisionId member => parent parentRevisionId (Option.mem_toList.mpr member),
          capability, unused⟩,
      fun ⟨generation, revision, parent, capability, unused⟩ =>
        ⟨generation, revision, fun parentRevisionId member => parent parentRevisionId (Option.mem_toList.mp member),
          capability, unused⟩⟩

/-- The rows of a declaration are stored together or not at all. -/
def insertDeclaration (tables : CompatibilityTables) (declaration : RevisionDeclaration) :
    Compatibility CompatibilityTables := do
  databaseErrorIf
    (¬ (declaration.row.wellFormed = true ∧ (declaration.capabilityRows.all CapabilityRow.wellFormed) = true ∧
      KeysAdmit tables declaration))
    (ascii "could not append the database compatibility declaration")
  return { tables with
    declarations := tables.declarations ++ [declaration.row]
    capabilities := tables.capabilities ++ declaration.capabilityRows
  }

inductive ForwardDeclarationOutcome where
  | appended
  | replayValidated
  deriving DecidableEq

/-- The arguments of a call, with the attestation that its caller owns. -/
structure ForwardCall where
  previousRevisionId : Text
  proposed : RevisionDeclaration
  attestResultingCapabilities : RevisionDeclaration → Compatibility Unit

section Writing

variable (profile : CompatibilityProfile) (collation : Collation profile) (tables : CompatibilityTables)

def validateStoredPredecessor : Option RevisionDeclaration → Compatibility Unit
  | none => .ok ()
  | some predecessor => validateStoredDeclaration profile collation tables predecessor

/-- A new declaration follows the latest one, or begins the history. -/
def requireLatest (predecessor : Option RevisionDeclaration) : Compatibility Unit := do
  let latest ← latestDeclaration profile collation tables
  match predecessor with
  | none =>
    databaseErrorIf (latest ≠ none) (ascii "a new declaration cannot follow an undeclared migration predecessor")
  | some predecessor =>
    databaseErrorIf (latest ≠ some predecessor) (ascii "a new declaration cannot fork retained compatibility history")

def applyForwardDeclaration (call : ForwardCall) : Compatibility (ForwardDeclarationOutcome × CompatibilityTables) := do
  let actualPreviousRevisionId ← currentAlembicRevision tables
  databaseErrorIf (actualPreviousRevisionId ≠ call.previousRevisionId)
    (ascii "current Alembic revision does not match the declared migration predecessor")
  let predecessor ← loadDeclaration profile collation tables call.previousRevisionId
  validateStoredPredecessor profile collation tables predecessor
  match ← loadDeclaration profile collation tables call.proposed.revisionId with
  | some existing => do
    assertExactReplay existing call.proposed
    validateSuccessor profile predecessor call.proposed
    call.attestResultingCapabilities call.proposed
    return (.replayValidated, tables)
  | none => do
    requireLatest profile collation tables predecessor
    validateSuccessor profile predecessor call.proposed
    call.attestResultingCapabilities call.proposed
    let appended ← insertDeclaration tables call.proposed
    return (.appended, appended)

/-- What happens to the database: its current revision is set, or a declaration is applied. -/
inductive HistoryMove where
  | setRevision (versions : List Text)
  | applyForward (call : ForwardCall)

/-- A call that raises leaves the database as it was. -/
def historyStep (move : HistoryMove) : CompatibilityTables :=
  match move with
  | .setRevision versions => { tables with versions := versions }
  | .applyForward call =>
    match applyForwardDeclaration profile collation tables call with
    | .ok (_, next) => next
    | .error _ => tables

end Writing

/-- The database before any revision is declared. -/
def undeclaredDatabase (versions : List Text) : CompatibilityTables :=
  ⟨versions, [], []⟩

def historyRun (profile : CompatibilityProfile) (collation : Collation profile) (versions : List Text)
    (moves : List HistoryMove) : CompatibilityTables :=
  moves.foldl (historyStep profile collation) (undeclaredDatabase versions)

end CiCoordinator.Persistence

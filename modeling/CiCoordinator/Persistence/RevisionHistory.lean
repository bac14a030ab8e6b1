import CiCoordinator.Persistence.MigrationProtocol
import CiCoordinator.Library.Succession

/- The proof that the declared revisions form one chain that every later read accepts. -/

namespace CiCoordinator.Persistence

open Library Kernel RevisionDeclaration List

/-- The first declaration is a valid bootstrap. -/
def Bootstraps (profile : CompatibilityProfile) (declaration : RevisionDeclaration) : Prop :=
  validateDeclaration profile declaration = .ok () ∧ declaration.transitionKind = .bootstrap

/-- The tables hold exactly the declarations of a chain. -/
structure Holds (profile : CompatibilityProfile) (tables : CompatibilityTables) (chain : List RevisionDeclaration) : Prop where
  declarations : tables.declarations = chain.map RevisionDeclaration.row
  capabilities : tables.capabilities = chain.flatMap capabilityRows
  distinct : (chain.map fun declaration => declaration.revisionId).Nodup
  linked : Linked (Bootstraps profile) (Succeeds profile) chain

section Chains

variable {profile : CompatibilityProfile} {chain : List RevisionDeclaration}

section

variable (linked : Linked (Bootstraps profile) (Succeeds profile) chain)
include linked

theorem valid_of_linked : ∀ declaration ∈ chain, validateDeclaration profile declaration = .ok () :=
  linked.forall_mem (fun _ boots => boots.1) fun _ _ succeeds => succeeds.valid

theorem generations_of_linked : (chain.map (·.generation)) =
      (List.range chain.length).map fun position : Nat => (position : Int) + 1 :=
  linked.numbers (fun _ boots => (transition_bootstrap (validDeclaration_of_ok boots.1).transition boots.2).1)
    fun _ _ succeeds => succeeds.generation

end

end Chains

section Loading

variable {profile : CompatibilityProfile} {collation : Collation profile} {tables : CompatibilityTables}
  {chain : List RevisionDeclaration} {declaration : RevisionDeclaration}

/-- Among distinct revisions, the capability rows of a revision are its own. -/
theorem filter_capabilityRows (distinct : (chain.map (·.revisionId)).Nodup) (member : declaration ∈ chain) :
    ((chain.flatMap capabilityRows).filter fun row =>
      decide (row.revisionId = declaration.revisionId)) = declaration.capabilityRows := by
  have own : ∀ other : RevisionDeclaration, other.capabilityRows.filter
      (fun row => decide (row.revisionId = declaration.revisionId)) =
        if other.revisionId = declaration.revisionId then other.capabilityRows else [] := by
    intro other
    split
    · next same =>
        refine filter_eq_self.mpr fun row inside => ?_
        obtain ⟨capability, _, rfl⟩ := mem_map.mp inside
        exact decide_eq_true same
    · next different =>
        refine filter_eq_nil_iff.mpr fun row inside => ?_
        obtain ⟨capability, _, rfl⟩ := mem_map.mp inside
        rw [decide_eq_true_iff]
        exact different
  induction chain with
  | nil => cases member
  | cons first rest ih =>
    rw [map_cons, nodup_cons] at distinct
    rw [flatMap_cons, filter_append, own first]
    cases member with
    | head =>
      rw [if_pos rfl]
      refine (congrArg (declaration.capabilityRows ++ ·) (filter_eq_nil_iff.mpr fun row inside => ?_)).trans (append_nil _)
      obtain ⟨other, otherMember, rowMember⟩ := mem_flatMap.mp inside
      obtain ⟨capability, _, rfl⟩ := mem_map.mp rowMember
      rw [decide_eq_true_iff]
      intro same
      exact distinct.1 (mem_map.mpr ⟨other, otherMember, same⟩)
    | tail _ later =>
      rw [if_neg fun same => distinct.1 (mem_map.mpr ⟨declaration, later, same.symm⟩), nil_append]
      exact ih distinct.2 later

section

variable (holds : Holds profile tables chain)
include holds

/-- The database returns the capabilities of a valid declaration in their own order, all of them. -/
theorem capabilityRowsOf_declared (member : declaration ∈ chain) :
    capabilityRowsOf profile collation tables declaration.revisionId = declaration.capabilityRows := by
  have valid := validDeclaration_of_ok (valid_of_linked holds.linked declaration member)
  have ordered : declaration.capabilityRows.Pairwise fun left right =>
      collation.before left.capabilityId right.capabilityId = true := by
    refine pairwise_map.mpr (List.Pairwise.imp_of_mem ?_ declaration.sorted.2)
    intro left right leftMember rightMember before
    change collation.before left.capabilityId right.capabilityId = true
    rw [collation.bytewise _ _ (valid.patterns left leftMember) (valid.patterns right rightMember), decide_eq_true_iff]
    exact before
  have short : declaration.capabilityRows.length ≤ profile.capabilityReadLimit := by
    rw [capabilityRows, length_map, profile.bounded]
    exact Nat.le_succ_of_le valid.bounded
  rw [capabilityRowsOf, holds.capabilities, filter_capabilityRows holds.distinct member,
    mergeSort_of_pairwise ordered, take_of_length_le short]

theorem loadCapabilities_declared (member : declaration ∈ chain) :
    loadCapabilities profile collation tables declaration.revisionId = .ok declaration.capabilities := by
  have valid := validDeclaration_of_ok (valid_of_linked holds.linked declaration member)
  have within : ¬ declaration.capabilityRows.length = profile.capabilityReadLimit := by
    rw [capabilityRows, length_map, profile.bounded]
    exact (Nat.lt_succ_of_le valid.bounded).ne
  have decoded : collect capabilityFromRow declaration.capabilityRows = .ok declaration.capabilities := by
    rw [capabilityRows]
    induction declaration.capabilities with
    | nil => rfl
    | cons capability rest ih =>
      rw [map_cons, collect_cons, ih, capabilityFromRow, capabilityRow, CapabilityDeclaration.make_self]
      rfl
  rw [loadCapabilities, capabilityRowsOf_declared holds member]
  refine bind_unit_eq_ok.mpr ⟨raiseIf_eq_ok.mpr within, ?_⟩
  rw [decoded]
  rfl

/-- A declared revision is loaded as it was declared. -/
theorem loadDeclaration_declared (member : declaration ∈ chain) :
    loadDeclaration profile collation tables declaration.revisionId = .ok (some declaration) := by
  have found : (tables.declarations.find? fun row => decide (row.revisionId = declaration.revisionId)) =
      some declaration.row := by
    rw [holds.declarations, find?_map]
    have located : chain.find? ((fun row : DeclarationRow => decide (row.revisionId = declaration.revisionId)) ∘
        RevisionDeclaration.row) = some declaration := by
      cases search : chain.find? ((fun row : DeclarationRow => decide (row.revisionId = declaration.revisionId)) ∘
          RevisionDeclaration.row) with
      | none => exact absurd (decide_eq_true rfl) (find?_eq_none.mp search declaration member)
      | some other =>
        have same : other.row.revisionId = declaration.revisionId := by simpa using find?_some search
        rw [inj_on_of_nodup_map holds.distinct (mem_of_find?_eq_some search) member same]
    rw [located]
    rfl
  rw [loadDeclaration, found]
  change (loadCapabilities profile collation tables declaration.revisionId >>= _) = _
  rw [loadCapabilities_declared holds member, ok_bind_eq]
  change some <$> storedContract _ (RevisionDeclaration.make declaration.toRevisionFields) = _
  rw [declaration.make_self]
  rfl

theorem loadDeclaration_none {revisionId : Text} (loaded : loadDeclaration profile collation tables revisionId = .ok none) :
    ∀ declaration ∈ chain, declaration.revisionId ≠ revisionId := by
  rintro declaration member rfl
  rw [loadDeclaration_declared holds member] at loaded
  cases loaded

theorem requireDeclaration_declared (member : declaration ∈ chain) (missing : CompatibilityError) :
    requireDeclaration profile collation tables declaration.revisionId missing = .ok declaration := by
  rw [requireDeclaration, loadDeclaration_declared holds member]
  rfl

/-- The revision with the last generation is the last of the chain. -/
theorem latestRevisionId_declared : latestRevisionId tables = chain.getLast?.map (·.revisionId) := by
  have numbers := generations_of_linked holds.linked
  have increasing : chain.Pairwise fun left right => left.generation < right.generation := by
    have ascending : (chain.map (·.generation)).Pairwise (· < ·) := by
      rw [numbers]
      refine pairwise_map.mpr (pairwise_lt_range.imp fun before => ?_)
      omega
    exact pairwise_map.mp ascending
  have descending : Increasing (fun row : DeclarationRow => -row.generation) tables.declarations.reverse := by
    rw [Increasing, pairwise_reverse, holds.declarations]
    exact pairwise_map.mpr (increasing.imp fun before => neg_lt_neg before)
  have sorted : sortBy (fun row : DeclarationRow => -row.generation) tables.declarations = tables.declarations.reverse := by
    rw [← sortBy_of_increasing descending]
    refine sortBy_congr (fun left leftMember right rightMember same => ?_) tables.declarations.reverse_perm.symm
    exact descending.separates left (mem_reverse.mpr leftMember) right (mem_reverse.mpr rightMember) same
  rw [latestRevisionId, sorted, head?_reverse, holds.declarations, getLast?_map, Option.map_map]
  rfl

theorem latestDeclaration_declared : latestDeclaration profile collation tables = .ok chain.getLast? := by
  rw [latestDeclaration, latestRevisionId_declared holds]
  cases last : chain.getLast? with
  | none => rfl
  | some declaration =>
    change some <$> requireDeclaration _ _ _ declaration.revisionId _ = _
    rw [requireDeclaration_declared holds (mem_of_getLast? last)]
    rfl

end

end Loading

section Protocol

variable {profile : CompatibilityProfile} {collation : Collation profile} {tables next : CompatibilityTables}
  {chain : List RevisionDeclaration} {call : ForwardCall} {outcome : ForwardDeclarationOutcome}

section

variable (holds : Holds profile tables chain)
include holds

/-- The current revisions play no part in what is declared. -/
theorem Holds.setVersions (versions : List Text) : Holds profile { tables with versions := versions } chain :=
  ⟨holds.declarations, holds.capabilities, holds.distinct, holds.linked⟩

/-- A new declaration is only let through after the last one, and then it succeeds it. -/
theorem succeeds_last {predecessor : Option RevisionDeclaration}
    (latest : requireLatest profile collation tables predecessor = .ok ()) : predecessor = chain.getLast? := by
  rw [requireLatest, latestDeclaration_declared holds, ok_bind_eq] at latest
  cases predecessor with
  | none => exact (not_not.mp (raiseIf_eq_ok.mp latest)).symm
  | some declaration => exact (not_not.mp (raiseIf_eq_ok.mp latest)).symm

/-- The insertion of a successor of the last declaration makes the chain longer. -/
theorem insertDeclaration_holds {proposed : RevisionDeclaration}
    (fresh : ∀ declaration ∈ chain, declaration.revisionId ≠ proposed.revisionId)
    (succeeds : validateSuccessor profile chain.getLast? proposed = .ok ())
    (inserted : insertDeclaration tables proposed = .ok next) : Holds profile next (chain ++ [proposed]) := by
  rw [insertDeclaration, bind_unit_eq_ok, pure_eq_ok_iff] at inserted
  obtain ⟨_, rfl⟩ := inserted
  refine ⟨?_, ?_, ?_, ?_⟩
  · rw [map_append, ← holds.declarations]
    rfl
  · rw [flatMap_append, ← holds.capabilities, flatMap_singleton]
  · rw [map_append, map_singleton, nodup_append]
    refine ⟨holds.distinct, nodup_singleton _, ?_⟩
    intro revisionId member other single same
    obtain ⟨declaration, inside, rfl⟩ := mem_map.mp member
    rw [mem_singleton.mp single] at same
    exact fresh declaration inside same
  · refine holds.linked.append ?_ ?_
    · rintro rfl
      exact validateSuccessor_none.mp succeeds
    · intro last member
      rw [Option.mem_def.mp member] at succeeds
      exact validateSuccessor_some.mp succeeds

/-- A call that returns has validated a replay, or has appended its declaration to the chain. -/
theorem applyForwardDeclaration_holds (applied : applyForwardDeclaration profile collation tables call = .ok (outcome, next)) :
    outcome = .replayValidated ∧ next = tables ∨ outcome = .appended ∧ Holds profile next (chain ++ [call.proposed]) := by
  simp only [applyForwardDeclaration, bind_eq_ok, exists_unit_iff] at applied
  obtain ⟨_, _, _, predecessor, _, _, existing, loaded, rest⟩ := applied
  cases existing with
  | some stored =>
    simp only [bind_eq_ok, exists_unit_iff, pure_eq_ok_iff, Prod.mk.injEq] at rest
    obtain ⟨_, _, _, same, unchanged⟩ := rest
    exact .inl ⟨same.symm, unchanged.symm⟩
  | none =>
    simp only [bind_eq_ok, exists_unit_iff, pure_eq_ok_iff, Prod.mk.injEq] at rest
    obtain ⟨latest, succeeds, _, appended, inserted, same, changed⟩ := rest
    rw [succeeds_last holds latest] at succeeds
    rw [changed] at inserted
    exact .inr ⟨same.symm, insertDeclaration_holds holds (loadDeclaration_none holds loaded) succeeds inserted⟩

/-- One move keeps the tables a chain, which it can only extend. -/
theorem historyStep_holds (move : HistoryMove) :
    ∃ added, Holds profile (historyStep profile collation tables move) (chain ++ added) := by
  cases move with
  | setRevision versions => exact ⟨[], by rw [append_nil]; exact holds.setVersions versions⟩
  | applyForward call =>
    rw [historyStep]
    cases applied : applyForwardDeclaration profile collation tables call with
    | error error => exact ⟨[], by rw [append_nil]; exact holds⟩
    | ok returned =>
      obtain ⟨outcome, next⟩ := returned
      rcases applyForwardDeclaration_holds holds applied with ⟨_, rfl⟩ | ⟨_, longer⟩
      · exact ⟨[], by rw [append_nil]; exact holds⟩
      · exact ⟨[call.proposed], longer⟩

end

/-- Every run of moves keeps the tables a chain. -/
theorem historyRun_holds (versions : List Text) (moves : List HistoryMove) :
    ∃ chain, Holds profile (historyRun profile collation versions moves) chain := by
  have run : ∀ (moves : List HistoryMove) (tables : CompatibilityTables) (chain : List RevisionDeclaration),
      Holds profile tables chain → ∃ longer, Holds profile (moves.foldl (historyStep profile collation) tables) longer := by
    intro moves
    induction moves with
    | nil => exact fun tables chain holds => ⟨chain, holds⟩
    | cons move rest ih =>
      intro tables chain holds
      obtain ⟨added, stepped⟩ := @historyStep_holds profile collation tables chain holds move
      exact ih _ _ stepped
  exact run moves (undeclaredDatabase versions) [] ⟨rfl, rfl, nodup_nil, Linked.nil⟩

/-- A call that is rejected or replayed changes no table. -/
theorem historyStep_unchanged (call : ForwardCall)
    (stores : ∀ next, applyForwardDeclaration profile collation tables call ≠ .ok (.appended, next)) :
    historyStep profile collation tables (.applyForward call) = tables := by
  rw [historyStep]
  cases applied : applyForwardDeclaration profile collation tables call with
  | error error => rfl
  | ok returned =>
    obtain ⟨outcome, next⟩ := returned
    cases outcome with
    | appended => exact absurd applied (stores next)
    | replayValidated =>
      simp only [applyForwardDeclaration, bind_eq_ok, exists_unit_iff] at applied
      obtain ⟨_, _, _, predecessor, _, _, existing, _, rest⟩ := applied
      cases existing with
      | some stored =>
        simp only [bind_eq_ok, exists_unit_iff, pure_eq_ok_iff, Prod.mk.injEq] at rest
        exact rest.2.2.2.2.symm
      | none =>
        simp only [bind_eq_ok, exists_unit_iff, pure_eq_ok_iff, Prod.mk.injEq] at rest
        obtain ⟨_, _, _, _, _, same, _⟩ := rest
        cases same

end Protocol

/-- The declaration before a declaration in a chain. -/
def IsPredecessor (chain : List RevisionDeclaration) (declaration : RevisionDeclaration) :
    Option RevisionDeclaration → Prop
  | none => ∃ after, chain = declaration :: after
  | some previous => ∃ before after, chain = before ++ previous :: declaration :: after

section Reads

variable {profile : CompatibilityProfile} {collation : Collation profile} {tables : CompatibilityTables}
  {chain : List RevisionDeclaration} {declaration : RevisionDeclaration}

/-- Every declaration is the first of the chain or succeeds the one before it. -/
theorem predecessor_cases (linked : Linked (Bootstraps profile) (Succeeds profile) chain) (member : declaration ∈ chain) :
    ∃ parent, IsPredecessor chain declaration parent ∧ validateSuccessor profile parent declaration = .ok () ∧
      declaration.parentRevisionId = parent.map (·.revisionId) := by
  obtain ⟨before, after, parts⟩ := append_of_mem member
  rcases eq_nil_or_concat' before with rfl | ⟨front, previous, rfl⟩
  · have boots : Bootstraps profile declaration := by
      refine linked.first declaration ?_
      rw [parts]
      exact rfl
    refine ⟨none, ⟨after, parts⟩, validateSuccessor_none.mpr boots, ?_⟩
    exact (transition_bootstrap (validDeclaration_of_ok boots.1).transition boots.2).2
  · rw [append_assoc] at parts
    have succeeds : Succeeds profile previous declaration := by
      have links := linked.chain
      rw [parts] at links
      exact links.right_of_append.rel_head? rfl
    exact ⟨some previous, ⟨front, after, parts⟩, validateSuccessor_some.mpr succeeds, succeeds.parent⟩

/-- The bounded read accepts every declared revision, with the declaration before it. -/
theorem loadCurrentCompatibility_declared (holds : Holds profile tables chain) (member : declaration ∈ chain) :
    ∃ parent, IsPredecessor chain declaration parent ∧
      loadCurrentCompatibility profile collation { tables with versions := [declaration.revisionId] } =
        .ok ⟨declaration, parent⟩ := by
  obtain ⟨parent, precedes, succeeds, named⟩ := predecessor_cases holds.linked member
  have current := holds.setVersions [declaration.revisionId]
  refine ⟨parent, precedes, ?_⟩
  have loaded : parentOf profile collation { tables with versions := [declaration.revisionId] } declaration
      undeclaredRevision = .ok parent := by
    rw [parentOf, named]
    cases parent with
    | none => rfl
    | some previous =>
      obtain ⟨before, after, parts⟩ := precedes
      have inside : previous ∈ chain := by
        rw [parts]
        exact mem_append_right before mem_cons_self
      change some <$> requireDeclaration _ _ _ previous.revisionId _ = _
      rw [requireDeclaration_declared current inside]
      rfl
  have found : currentAlembicRevision { tables with versions := [declaration.revisionId] } = .ok declaration.revisionId := rfl
  rw [loadCurrentCompatibility, found, ok_bind_eq, requireDeclaration_declared current member, ok_bind_eq, loaded,
    ok_bind_eq, succeeds]
  rfl

end Reads

/-- The identifiers that a declaration no longer provides. -/
def removedIdentifiers (previous candidate : RevisionDeclaration) : List Text :=
  (identifiers previous.capabilities).filter fun capabilityId => decide (capabilityId ∉ identifiers candidate.capabilities)

theorem covers_contract {profile : CompatibilityProfile} {previous candidate : RevisionDeclaration}
    {required : List CapabilityDeclaration} (succeeds : Succeeds profile previous candidate)
    (covered : capabilitiesCover required previous.capabilities = true) :
    capabilitiesCover required candidate.capabilities = true ↔
      ∀ item ∈ required, item.capabilityId ∉ removedIdentifiers previous candidate := by
  rw [succeeds.covers_iff covered]
  refine forall_congr' fun item => forall_congr' fun member => ?_
  rw [removedIdentifiers, mem_filter, decide_eq_true_iff, not_and, not_not]
  exact ⟨fun kept _ => kept, fun kept => kept (mem_identifiers_of_cover covered member)⟩

/-- Whatever is applied, and wherever the current revision is moved between the calls, the declared revisions form one
chain of successors that every later read accepts. A rejected or replayed call stores nothing. Coverage is kept by each
step that is no contract, and by a contract exactly when it removes none of the required identifiers. -/
theorem revision_history_never_forks (profile : CompatibilityProfile) (collation : Collation profile)
    (versions : List Text) (moves : List HistoryMove) :
    ∃ chain : List RevisionDeclaration,
      (historyRun profile collation versions moves).declarations = chain.map RevisionDeclaration.row ∧
      (historyRun profile collation versions moves).capabilities = chain.flatMap capabilityRows ∧
      (chain.map fun declaration => declaration.generation) =
        (List.range chain.length).map (fun position : Nat => (position : Int) + 1) ∧
      (∀ first ∈ chain.head?, first.transitionKind = .bootstrap) ∧
      (chain.IsChain fun previous candidate => candidate.parentRevisionId = some previous.revisionId ∧
        validateSuccessor profile (some previous) candidate = .ok ()) ∧
      (∀ call, (∀ next, applyForwardDeclaration profile collation (historyRun profile collation versions moves) call ≠
          .ok (.appended, next)) →
        historyStep profile collation (historyRun profile collation versions moves) (.applyForward call) =
          historyRun profile collation versions moves) ∧
      (∀ declaration ∈ chain, ∃ parent, IsPredecessor chain declaration parent ∧
        loadCurrentCompatibility profile collation
            { historyRun profile collation versions moves with versions := [declaration.revisionId] } =
          .ok ⟨declaration, parent⟩) ∧
      (∀ required before earlier between later after, chain = before ++ earlier :: between ++ later :: after →
        (∀ declaration ∈ between ++ [later], declaration.transitionKind ≠ .contract) →
        capabilitiesCover required earlier.capabilities = true → capabilitiesCover required later.capabilities = true) ∧
      (∀ required before previous candidate after, chain = before ++ previous :: candidate :: after →
        candidate.transitionKind = .contract → capabilitiesCover required previous.capabilities = true →
        (capabilitiesCover required candidate.capabilities = true ↔
          ∀ item ∈ required, item.capabilityId ∉ removedIdentifiers previous candidate)) := by
  obtain ⟨chain, holds⟩ := @historyRun_holds profile collation versions moves
  refine ⟨chain, holds.declarations, holds.capabilities, generations_of_linked holds.linked, ?_, ?_, ?_, ?_, ?_, ?_⟩
  · exact fun first head => (holds.linked.first first head).2
  · exact holds.linked.chain.imp fun previous candidate succeeds => ⟨succeeds.parent, validateSuccessor_some.mpr succeeds⟩
  · exact fun call stores => historyStep_unchanged call stores
  · exact fun declaration member => loadCurrentCompatibility_declared holds member
  · intro required before earlier between later after parts expands covered
    have links := holds.linked.chain
    rw [parts, append_assoc, ← singleton_append (l := after), cons_append, ← append_assoc,
      ← cons_append, ← append_assoc] at links
    exact isChain_carry (P := fun declaration : RevisionDeclaration => capabilitiesCover required declaration.capabilities = true)
      (fun previous candidate succeeds keeps => succeeds.covers_expand keeps) links.left_of_append.right_of_append
      expands covered later (mem_append_right between mem_cons_self)
  · intro required before previous candidate after parts _ covered
    have links := holds.linked.chain
    rw [parts] at links
    exact covers_contract (isChain_cons_cons.mp links.right_of_append).1 covered

end CiCoordinator.Persistence

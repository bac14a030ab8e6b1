import CiCoordinator.Library.BoundedSearch
import CiCoordinator.RepoContext.WorkflowInventory

/- The admission of the local calls between workflows and the exact class of graphs it decides. -/

namespace CiCoordinator.RepoContext

open Library Kernel List Option

/-- A workflow changes what its jobs see or hides that they fail. -/
def RevisionWorkflowCapability.weakened (self : RevisionWorkflowCapability) : Bool :=
  self.declaresWorkflowEnvironment || self.declaresWorkflowDefaults ||
    self.jobAuthorities.any fun authority => authority.declaresContinueOnError

namespace ProviderWorkflowInventory

variable (self : ProviderWorkflowInventory)

def capabilityPaths : List Text :=
  self.revisionCapabilities.map fun item => item.path

/-- The search along local calls, which sees at most fifty-one workflows from a root. -/
def closureSearch : BoundedSearch Text where
  admits path :=
    match self.capability path with
    | none => false
    | some item => !item.weakened
  calls path :=
    match self.capability path with
    | none => []
    | some item => item.localReusableWorkflowPaths
  callable target :=
    match self.capability target with
    | none => false
    | some item => item.supportsReuse
  limit := 51

/-- Every root is searched with room for ten workflows on a path, and the paths that are seen are collected. -/
def visitRoots (self : ProviderWorkflowInventory) : List Text → Option (List Text)
  | [] => some []
  | root :: rest =>
    match self.closureSearch.visit 10 root [] [] with
    | none => none
    | some seen => (seen ++ ·) <$> visitRoots self rest

def admitsLocalReusableWorkflowClosure (rootPaths expectedPaths : List Text) : Py Bool :=
  if rootPaths = [] then return false
  else do
    let sortedRoots ← sortedTexts rootPaths
    if sortedRoots ≠ rootPaths then return false
    let sortedPaths ← sortedTexts expectedPaths
    if sortedPaths ≠ expectedPaths then return false
    if ¬ ∀ root ∈ rootPaths, root ∈ expectedPaths then return false
    if ¬ ((∀ path ∈ self.capabilityPaths, path ∈ expectedPaths) ∧ ∀ path ∈ expectedPaths, path ∈ self.capabilityPaths) then
      return false
    match self.visitRoots rootPaths with
    | none => return false
    | some reachable => return (∀ path ∈ reachable, path ∈ expectedPaths) ∧ ∀ path ∈ expectedPaths, path ∈ reachable

/-- What a closure must be, apart from the length of its chains of calls. -/
structure ClosureRequirements (inventory : ProviderWorkflowInventory) (rootPaths expectedPaths : List Text) : Prop where
  exact_paths : ∀ path, (inventory.capability path).isSome ↔ path ∈ expectedPaths
  reached : ∀ path ∈ expectedPaths, ∃ root ∈ rootPaths, inventory.closureSearch.Leads root path
  reuse : ∀ root ∈ rootPaths, ∀ path, inventory.closureSearch.Leads root path → ∀ target ∈ inventory.closureSearch.calls path,
    ∃ item, inventory.capability target = some item ∧ item.supportsReuse = true
  acyclic : ∀ root ∈ rootPaths, ∀ path, inventory.closureSearch.Leads root path →
    ¬ Relation.TransGen inventory.closureSearch.Edge path path
  small : ∀ root ∈ rootPaths, ∀ paths : List Text, paths.Nodup →
    (∀ path ∈ paths, inventory.closureSearch.Leads root path) → paths.length ≤ 51
  strict : ∀ root ∈ rootPaths, ∀ path item, inventory.closureSearch.Leads root path → inventory.capability path = some item →
    item.weakened = false

/-- Every chain of calls from a root has at most ten workflows. -/
def ChainsBounded (rootPaths : List Text) : Prop :=
  ∀ root ∈ rootPaths, ∀ size last, self.closureSearch.Chain size root last → size ≤ 10

variable {self : ProviderWorkflowInventory} {rootPaths expectedPaths : List Text}

/-- The roots are searched as one search each, and what is reachable is what the roots lead to. -/
theorem visitRoots_some {reachable : List Text} (visited : self.visitRoots rootPaths = some reachable) :
    (∀ root ∈ rootPaths, self.closureSearch.Sound root ∧ self.closureSearch.Small (self.closureSearch.Leads root) ∧
      ¬ self.closureSearch.Overflows 10 root) ∧
      ∀ path, path ∈ reachable ↔ ∃ root ∈ rootPaths, self.closureSearch.Leads root path := by
  induction rootPaths generalizing reachable with
  | nil =>
    cases visited
    exact ⟨by simp, by simp⟩
  | cons root rest ih =>
    rw [visitRoots] at visited
    split at visited
    · cases visited
    rename_i seen searched
    obtain ⟨later, laterVisited, rfl⟩ := map_eq_some_iff.mp visited
    obtain ⟨each, exactly⟩ := ih laterVisited
    obtain ⟨sound, small, fits, seenExactly⟩ := BoundedSearch.visit_root searched
    refine ⟨fun start listed => ?_, fun path => ?_⟩
    · rcases mem_cons.mp listed with rfl | listed
      · exact ⟨sound, small, fits⟩
      · exact each start listed
    · rw [mem_append, seenExactly, exactly]
      simp

theorem visitRoots_total (each : ∀ root ∈ rootPaths, self.closureSearch.Sound root ∧
    self.closureSearch.Small (self.closureSearch.Leads root) ∧ ¬ self.closureSearch.Overflows 10 root) :
    ∃ reachable, self.visitRoots rootPaths = some reachable := by
  induction rootPaths with
  | nil => exact ⟨[], rfl⟩
  | cons root rest ih =>
    obtain ⟨later, laterVisited⟩ := ih fun start listed => each start (mem_cons_of_mem _ listed)
    obtain ⟨sound, small, fits⟩ := each root mem_cons_self
    obtain ⟨seen, searched⟩ := BoundedSearch.visit_root_total sound small fits
    exact ⟨seen ++ later, by rw [visitRoots, searched, laterVisited]; rfl⟩

/-- A path is admitted when it has a capability that does not weaken its jobs. -/
theorem closureSearch_admits {path : Text} :
    self.closureSearch.admits path = true ↔ ∃ item, self.capability path = some item ∧ item.weakened = false := by
  cases found : self.capability path with
  | none => simp [closureSearch, found]
  | some item => simp [closureSearch, found]

theorem closureSearch_callable {target : Text} :
    self.closureSearch.callable target = true ↔ ∃ item, self.capability target = some item ∧ item.supportsReuse = true := by
  cases found : self.capability target with
  | none => simp [closureSearch, found]
  | some item => simp [closureSearch, found]

/-- Among known roots, the requirements are the soundness and size of the search and that it reaches all paths. -/
theorem requirements_iff (known : ∀ root ∈ rootPaths, root ∈ expectedPaths)
    (exact_paths : ∀ path, (self.capability path).isSome ↔ path ∈ expectedPaths) :
    self.ClosureRequirements rootPaths expectedPaths ↔
      (∀ root ∈ rootPaths, self.closureSearch.Sound root ∧ self.closureSearch.Small (self.closureSearch.Leads root)) ∧
        ∀ path ∈ expectedPaths, ∃ root ∈ rootPaths, self.closureSearch.Leads root path := by
  constructor
  · intro required
    refine ⟨fun root listed => ⟨fun path leads => ?_, required.small root listed⟩, required.reached⟩
    have callable : ∀ target ∈ self.closureSearch.calls path, self.closureSearch.callable target = true :=
      fun target called => closureSearch_callable.mpr (required.reuse root listed path leads target called)
    refine ⟨closureSearch_admits.mpr ?_, callable, required.acyclic root listed path leads⟩
    have present : (self.capability path).isSome := by
      cases Relation.ReflTransGen.cases_tail leads with
      | inl same =>
        subst same
        exact (exact_paths _).mpr (known _ listed)
      | inr last =>
        obtain ⟨before, reached, edge⟩ := last
        obtain ⟨item, found, _⟩ := required.reuse root listed before reached path edge
        simp [found]
    obtain ⟨item, found⟩ := isSome_iff_exists.mp present
    exact ⟨item, found, required.strict root listed path item leads found⟩
  · rintro ⟨each, reached⟩
    refine ⟨exact_paths, reached, fun root listed path leads target called => ?_, fun root listed path leads => ?_,
      fun root listed => (each root listed).2, fun root listed path item leads found => ?_⟩
    · exact closureSearch_callable.mp (((each root listed).1 path leads).2.1 target called)
    · exact ((each root listed).1 path leads).2.2
    · obtain ⟨other, same, strict⟩ := closureSearch_admits.mp ((each root listed).1 path leads).1
      rw [found] at same
      cases same
      exact strict

/-- On canonical paths the admission checks the roots, the paths and then what the search reaches. -/
theorem admits_of_canonical (some : rootPaths ≠ []) (roots : CanonicalTexts rootPaths) (paths : CanonicalTexts expectedPaths) :
    self.admitsLocalReusableWorkflowClosure rootPaths expectedPaths = if ¬ ∀ root ∈ rootPaths, root ∈ expectedPaths then .ok false
      else if ¬ ((∀ path ∈ self.capabilityPaths, path ∈ expectedPaths) ∧
          ∀ path ∈ expectedPaths, path ∈ self.capabilityPaths) then .ok false
      else .ok (((self.visitRoots rootPaths).map fun reachable =>
        decide ((∀ path ∈ reachable, path ∈ expectedPaths) ∧ ∀ path ∈ expectedPaths, path ∈ reachable)).getD false) := by
  rw [admitsLocalReusableWorkflowClosure, if_neg some, sortedTexts_of_canonical roots, sortedTexts_of_canonical paths]
  show (if rootPaths ≠ rootPaths then _ else _) = _
  rw [if_neg (not_not.mpr rfl)]
  show (if expectedPaths ≠ expectedPaths then _ else _) = _
  rw [if_neg (not_not.mpr rfl)]
  cases self.visitRoots rootPaths with
  | none => rfl
  | some reachable => rfl

/-- The verdict on canonical paths, with the first chains of calls that it looks at. -/
theorem admits_spec (roots : CanonicalTexts rootPaths) (paths : CanonicalTexts expectedPaths) :
    ∃ verdict, self.admitsLocalReusableWorkflowClosure rootPaths expectedPaths = .ok verdict ∧
      (verdict = true ↔ (rootPaths ≠ [] ∧ ∀ root ∈ rootPaths, root ∈ expectedPaths) ∧
        self.ClosureRequirements rootPaths expectedPaths ∧ ∀ root ∈ rootPaths, ¬ self.closureSearch.Overflows 10 root) := by
  by_cases empty : rootPaths = []
  · exact ⟨false, by rw [admitsLocalReusableWorkflowClosure, if_pos empty]; rfl, by simp [empty]⟩
  rw [admits_of_canonical empty roots paths]
  by_cases known : ∀ root ∈ rootPaths, root ∈ expectedPaths
  case neg => exact ⟨false, if_pos known, by simp [known]⟩
  rw [if_neg (not_not.mpr known)]
  by_cases same : (∀ path ∈ self.capabilityPaths, path ∈ expectedPaths) ∧ ∀ path ∈ expectedPaths, path ∈ self.capabilityPaths
  case neg =>
    refine ⟨false, if_pos same, ?_⟩
    simp only [Bool.false_eq_true, false_iff]
    rintro ⟨_, required, _⟩
    exact same ⟨fun path listed => (required.exact_paths path).mp (capability_isSome.mpr listed),
      fun path expected => capability_isSome.mp ((required.exact_paths path).mpr expected)⟩
  rw [if_neg (not_not.mpr same)]
  have exact_paths : ∀ path, (self.capability path).isSome ↔ path ∈ expectedPaths := fun path =>
    capability_isSome.trans ⟨same.1 path, same.2 path⟩
  rw [requirements_iff known exact_paths]
  cases visited : self.visitRoots rootPaths with
  | none =>
    refine ⟨false, rfl, ?_⟩
    simp only [Bool.false_eq_true, false_iff]
    rintro ⟨_, ⟨each, _⟩, fits⟩
    obtain ⟨reachable, some⟩ := visitRoots_total fun root listed =>
      ⟨(each root listed).1, (each root listed).2, fits root listed⟩
    rw [visited] at some
    cases some
  | some reachable =>
    obtain ⟨each, exactly⟩ := visitRoots_some visited
    refine ⟨_, rfl, ?_⟩
    rw [map_some, getD_some, decide_eq_true_eq]
    constructor
    · rintro ⟨_, all⟩
      refine ⟨⟨empty, known⟩, ⟨fun root listed => ⟨(each root listed).1, (each root listed).2.1⟩, fun path expected => ?_⟩,
        fun root listed => (each root listed).2.2⟩
      exact (exactly path).mp (all path expected)
    · rintro ⟨_, ⟨_, reached⟩, _⟩
      refine ⟨fun path found => ?_, fun path expected => (exactly path).mpr (reached path expected)⟩
      obtain ⟨root, listed, leads⟩ := (exactly path).mp found
      obtain ⟨item, present, _⟩ := closureSearch_admits.mp ((each root listed).1 path leads).1
      exact (exact_paths path).mp (by simp [present])

/-- A root without a chain of more than ten workflows has no first chain that overflows. -/
theorem not_overflows (bounded : self.ChainsBounded rootPaths) {root : Text} (listed : root ∈ rootPaths) :
    ¬ self.closureSearch.Overflows 10 root := by
  rintro ⟨last, chain, some⟩
  obtain ⟨next, called⟩ := exists_mem_of_ne_nil _ some
  have longer := chain.chain.append called
  exact absurd (bounded root listed 11 next longer) (by decide)

/-- The verdict is the exact closure except where a bound on first chains misses a longer chain or the roots are refused. -/
theorem admits_local_reusable_workflow_closure_iff (inventory : ProviderWorkflowInventory) (rootPaths expectedPaths : List Text)
    (roots : CanonicalTexts rootPaths) (paths : CanonicalTexts expectedPaths) :
    ∃ verdict, inventory.admitsLocalReusableWorkflowClosure rootPaths expectedPaths = .ok verdict ∧
      ((verdict = true ↔ inventory.ClosureRequirements rootPaths expectedPaths ∧ inventory.ChainsBounded rootPaths) ↔
        (inventory.ClosureRequirements rootPaths expectedPaths →
          ((rootPaths ≠ [] ∧ ∀ root ∈ rootPaths, root ∈ expectedPaths) →
            inventory.ChainsBounded rootPaths ∨ ∃ root ∈ rootPaths, inventory.closureSearch.Overflows 10 root) ∧
          (¬ (rootPaths ≠ [] ∧ ∀ root ∈ rootPaths, root ∈ expectedPaths) → ¬ inventory.ChainsBounded rootPaths))) := by
  obtain ⟨verdict, computed, decided⟩ := admits_spec roots paths
  refine ⟨verdict, computed, ?_⟩
  have fits : inventory.ChainsBounded rootPaths → ∀ root ∈ rootPaths, ¬ inventory.closureSearch.Overflows 10 root :=
    fun bounded root listed => not_overflows bounded listed
  have overflow : (∃ root ∈ rootPaths, inventory.closureSearch.Overflows 10 root) ↔
      ¬ ∀ root ∈ rootPaths, ¬ inventory.closureSearch.Overflows 10 root := by
    simp
  rw [decided, overflow]
  generalize (rootPaths ≠ [] ∧ ∀ root ∈ rootPaths, root ∈ expectedPaths) = admitted
  tauto

/-- The path of the workflow with a one-letter name. -/
def letterPath (letter : String) : Text :=
  ascii ".github/workflows/" ++ ascii letter ++ ascii ".yml"

def letterAuthority : WorkflowJobAuthorityFields where
  jobId := ascii "call"
  controlProjectionHash := List.replicate 64 0x30
  conditionContexts := []
  declaresContinueOnError := false

theorem letterAuthority_admitted : letterAuthority.postInit = .ok () := by
  decide

/-- A workflow with one job that may be called and calls some workflows. -/
def letterFields (letter : String) (targets : List String) : RevisionWorkflowCapabilityFields where
  path := letterPath letter
  revisionSha := List.replicate 40 0x30
  jobIds := [ascii "call"]
  jobNeeds := [(ascii "call", [])]
  providerJobNames := []
  alwaysJobIds := []
  triggers := [ascii "workflow_call"]
  localReusableWorkflowPaths := targets.map letterPath
  jobAuthorities := [⟨letterAuthority, letterAuthority_admitted⟩]
  declaresWorkflowEnvironment := false
  declaresWorkflowDefaults := false
  jobRunnerSelectors := []

/-- The root calls two workflows, the second calls the first, and the first starts a chain of nine. -/
def detour : List RevisionWorkflowCapabilityFields :=
  [letterFields "a" ["c"], letterFields "b" ["a"], letterFields "c" ["d"], letterFields "d" ["e"], letterFields "e" ["f"],
    letterFields "f" ["g"], letterFields "g" ["h"], letterFields "h" ["i"], letterFields "i" ["j"], letterFields "j" [],
    letterFields "r" ["a", "b"]]

theorem detour_admitted : ∀ item ∈ detour, item.postInit = .ok () := by
  decide

def detourFields : ProviderWorkflowInventoryFields where
  revisionSha := List.replicate 40 0x30
  defaultBranchWorkflows := []
  revisionCapabilities := detour.pmap (fun item admitted => ⟨item, admitted⟩) detour_admitted

theorem detourFields_admitted : detourFields.postInit = .ok () := by
  decide

def detourInventory : ProviderWorkflowInventory :=
  ⟨detourFields, detourFields_admitted⟩

theorem detour_roots : CanonicalTexts [letterPath "r"] := by
  decide

theorem detour_paths : CanonicalTexts detourInventory.capabilityPaths := by
  decide

/-- A workflow that is first seen on a short chain is not visited again on a longer one. -/
theorem long_chain_accepted :
    detourInventory.admitsLocalReusableWorkflowClosure [letterPath "r"] detourInventory.capabilityPaths = .ok true ∧
      CanonicalTexts [letterPath "r"] ∧ CanonicalTexts detourInventory.capabilityPaths ∧
      ¬ (detourInventory.ClosureRequirements [letterPath "r"] detourInventory.capabilityPaths ∧
        detourInventory.ChainsBounded [letterPath "r"]) := by
  refine ⟨by decide, detour_roots, detour_paths, ?_⟩
  rintro ⟨_, bounded⟩
  have calls : ∀ call ∈ [("r", "b"), ("b", "a"), ("a", "c"), ("c", "d"), ("d", "e"), ("e", "f"), ("f", "g"), ("g", "h"),
      ("h", "i"), ("i", "j")], letterPath call.2 ∈ detourInventory.closureSearch.calls (letterPath call.1) := by
    decide
  simp only [forall_mem_cons] at calls
  obtain ⟨root, second, first, c, d, e, f, g, h, i, _⟩ := calls
  have chain : detourInventory.closureSearch.Chain 11 (letterPath "r") (letterPath "j") :=
    .step root (.step second (.step first (.step c (.step d (.step e (.step f (.step g (.step h (.step i (.here _))))))))))
  exact absurd (bounded _ mem_cons_self 11 _ chain) (by decide)

theorem admits_local_reusable_workflow_closure_detour :
    ∃ verdict, detourInventory.admitsLocalReusableWorkflowClosure [letterPath "r"] detourInventory.capabilityPaths =
        .ok verdict ∧
      ((verdict = true ↔ detourInventory.ClosureRequirements [letterPath "r"] detourInventory.capabilityPaths ∧
          detourInventory.ChainsBounded [letterPath "r"]) ↔
        (detourInventory.ClosureRequirements [letterPath "r"] detourInventory.capabilityPaths →
          (([letterPath "r"] ≠ [] ∧ ∀ root ∈ [letterPath "r"], root ∈ detourInventory.capabilityPaths) →
            detourInventory.ChainsBounded [letterPath "r"] ∨
              ∃ root ∈ [letterPath "r"], detourInventory.closureSearch.Overflows 10 root) ∧
          (¬ ([letterPath "r"] ≠ [] ∧ ∀ root ∈ [letterPath "r"], root ∈ detourInventory.capabilityPaths) →
            ¬ detourInventory.ChainsBounded [letterPath "r"]))) :=
  admits_local_reusable_workflow_closure_iff detourInventory _ _ detour_roots detour_paths

end ProviderWorkflowInventory

end CiCoordinator.RepoContext

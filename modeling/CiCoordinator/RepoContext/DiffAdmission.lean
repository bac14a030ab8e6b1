import CiCoordinator.RepoContext.PlanningInput

/- Which raw diffs the builder accepts, and what it does not lose of them. -/

namespace CiCoordinator.RepoContext

open Library Kernel List Text

variable (entry : DiffFileChangeInput)

/-- The reasons of the builder against one entry. -/
def fileReasons : List Text :=
  (pathOrSentinel entry.path).2 ++ (optionalPath entry.previousPath).2 ++ (patchOrNone entry.patch).2 ++
    reasonIf (normalizeStatus entry.status = .unknown) (ascii "unknown_file_status") ++
    reasonIf (isSafeRelativePath (pathOrSentinel entry.path).1 = false) (ascii "unsafe_file_path") ++
    reasonIf ((optionalPath entry.previousPath).1.all isSafeRelativePath = false) (ascii "unsafe_previous_file_path") ++
    reasonIf (normalizeStatus entry.status = .renamed ∧ (optionalPath entry.previousPath).1 = none)
      (ascii "incomplete_rename_evidence")

/-- The identity that an entry claims. -/
def claimedIdentity : Text × Option Text × FileChangeStatus :=
  (if isSafeRelativePath (pathOrSentinel entry.path).1 then (pathOrSentinel entry.path).1 else unknownPath,
    if (optionalPath entry.previousPath).1.all isSafeRelativePath then (optionalPath entry.previousPath).1
      else some unknownPreviousPath,
    if fileReasons entry = [] then normalizeStatus entry.status else .unknown)

/-- What the builder makes of one entry. -/
structure Normalizes (entry : DiffFileChangeInput) (item : NormalizedFileChange) : Prop where
  identity : fileIdentity item.file = claimedIdentity entry
  additions : item.file.additions = nonNegativeInteger entry.additions
  deletions : item.file.deletions = nonNegativeInteger entry.deletions
  patchHash : item.file.patchHash.all isSha256Hex = true
  reasons : ∀ reason, reason ∈ item.invalidatingReasons ↔ reason ∈ fileReasons entry

theorem fileReasons_named {entry : DiffFileChangeInput} : ∀ reason ∈ fileReasons entry, reason.scalar = true ∧ reason ≠ [] := by
  have path : ∀ reason ∈ (pathOrSentinel entry.path).2, reason = ascii "missing_file_path" := by
    unfold pathOrSentinel
    grind
  have previousPath : ∀ reason ∈ (optionalPath entry.previousPath).2, reason = ascii "invalid_previous_file_path" := by
    unfold optionalPath
    grind
  have patch : ∀ reason ∈ (patchOrNone entry.patch).2, reason = ascii "unsafe_patch" := by
    unfold patchOrNone
    grind
  intro reason member
  simp only [fileReasons, mem_append, mem_reasonIf] at member
  rcases member with (((((listed | listed) | listed) | ⟨-, rfl⟩) | ⟨-, rfl⟩) | ⟨-, rfl⟩) | ⟨-, rfl⟩
  · exact path reason listed ▸ by decide
  · exact previousPath reason listed ▸ by decide
  · exact patch reason listed ▸ by decide
  all_goals decide

theorem claimedIdentity_safe : isSafeRelativePath (claimedIdentity entry).1 = true ∧
      (claimedIdentity entry).2.1.all isSafeRelativePath = true := by
  have sentinels : isSafeRelativePath unknownPath = true ∧ isSafeRelativePath unknownPreviousPath = true := by decide
  dsimp only [claimedIdentity]
  constructor
  · split
    · assumption
    · exact sentinels.1
  · split
    · assumption
    · exact sentinels.2

theorem scalar_of_safe {path : Text} (safe : isSafeRelativePath path = true) : path.scalar = true ∧ path ≠ [] := by
  simp only [isSafeRelativePath, Bool.and_eq_true, decide_eq_true_eq] at safe
  exact ⟨safe.1.1.1.1.1.1, safe.1.1.1.1.1.2⟩

theorem nonNegativeInteger_nonneg (value : RawField) : 0 ≤ nonNegativeInteger value := by
  unfold nonNegativeInteger
  grind

def hashPatch : Option Text → Py (Option Text)
  | none => pure none
  | some patch => do
    let hash ← hashObject (.obj [(ascii "patch", .str patch)])
    pure (some hash)

def normalizedFields (patchHash : Option Text) : FileDeltaFields :=
  { path := (claimedIdentity entry).1
    status := (claimedIdentity entry).2.2
    additions := nonNegativeInteger entry.additions
    deletions := nonNegativeInteger entry.deletions
    previousPath := (claimedIdentity entry).2.1
    patchHash := patchHash }

theorem normalizeFileChange_eq : normalizeFileChange entry = (do
    let patchHash ← hashPatch (patchOrNone entry.patch).1
    let fields := normalizedFields entry patchHash
    let file ← construct fields.postInit fun admitted => (⟨fields, admitted⟩ : FileDelta)
    let invalidatingReasons ← sortedTexts (fileReasons entry)
    return ⟨file, invalidatingReasons⟩) := by
  unfold normalizeFileChange normalizedFields claimedIdentity fileReasons
  generalize patchOrNone entry.patch = patched
  obtain ⟨_ | patch, patchReasons⟩ := patched
  · rfl
  · simp only [hashPatch, bind_assoc, pure_bind]

theorem hashPatch_total :
    ∃ patchHash, hashPatch (patchOrNone entry.patch).1 = .ok patchHash ∧ patchHash.all isSha256Hex = true := by
  cases found : (patchOrNone entry.patch).1 with
  | none => exact ⟨none, rfl, rfl⟩
  | some patch =>
    have scalar : patch.scalar = true := by
      unfold patchOrNone at found
      grind
    obtain ⟨hash, computed, digest⟩ := @hashObject_total (.obj [(ascii "patch", .str patch)]) (by simp [scalar])
    exact ⟨some hash, bind_eq_ok.mpr ⟨hash, computed, rfl⟩, digest⟩

/-- No entry makes the builder raise before it hashes the diff. -/
theorem normalizeFileChange_total : ∃ item, normalizeFileChange entry = .ok item ∧ Normalizes entry item := by
  obtain ⟨patchHash, hashed, digest⟩ := hashPatch_total entry
  obtain ⟨reasons, sorted, -, members⟩ :=
    sortedTexts_total fun reason member => (@fileReasons_named entry reason member).1
  have safe := claimedIdentity_safe entry
  have checked : (normalizedFields entry patchHash).postInit = .ok () := by
    refine bind_unit_eq_ok.mpr ⟨raiseIf_eq_ok.mpr (scalar_of_safe safe.1).2, bind_unit_eq_ok.mpr ⟨raiseIf_eq_ok.mpr ?_, ?_⟩⟩
    · intro (empty : (claimedIdentity entry).2.1 = some [])
      rw [empty] at safe
      exact (scalar_of_safe safe.2).2 rfl
    · refine bind_unit_eq_ok.mpr ⟨forEach_eq_ok.mpr ?_, raiseIf_eq_ok.mpr ?_⟩
      · simp [normalizedFields, nonNegativeInteger_nonneg]
      · cases patchHash with
        | none => simp [normalizedFields]
        | some hash => simpa [normalizedFields] using digest
  refine ⟨⟨⟨_, checked⟩, reasons⟩, ?_, rfl, rfl, rfl, digest, members⟩
  rw [normalizeFileChange_eq]
  exact bind_eq_ok.mpr ⟨patchHash, hashed, bind_eq_ok.mpr ⟨_, construct_ok checked, bind_eq_ok.mpr ⟨reasons, sorted, rfl⟩⟩⟩

theorem truncationReasons_named {input : DiffBuildInput} {files : List FileDelta} :
    ∀ reason ∈ truncationReasons input files, reason.scalar = true ∧ reason ≠ [] := by
  intro reason member
  simp only [truncationReasons, mem_append, mem_reasonIf] at member
  rcases member with ((⟨-, rfl⟩ | ⟨-, rfl⟩) | ⟨-, rfl⟩) | ⟨-, rfl⟩ <;> decide

theorem normalizeFileChange_isOk : (normalizeFileChange entry).toOption.isSome = true := by
  obtain ⟨item, computed, -⟩ := normalizeFileChange_total entry
  rw [computed]
  rfl

/-- What the builder makes of one entry. -/
def normalized : NormalizedFileChange :=
  (normalizeFileChange entry).toOption.get (normalizeFileChange_isOk entry)

theorem normalized_spec : normalizeFileChange entry = .ok (normalized entry) ∧ Normalizes entry (normalized entry) := by
  obtain ⟨item, computed, normalizes⟩ := normalizeFileChange_total entry
  have same : normalized entry = item := by simp [normalized, computed, Except.toOption]
  rw [same]
  exact ⟨computed, normalizes⟩

theorem safe_file : isSafeRelativePath (normalized entry).file.path = true ∧
      (normalized entry).file.previousPath.all isSafeRelativePath = true := by
  have safe := claimedIdentity_safe entry
  rw [← (normalized_spec entry).2.identity] at safe
  exact safe

theorem scalar_previousPath : (normalized entry).file.previousPath.all Text.scalar = true := by
  have safe := (safe_file entry).2
  cases found : (normalized entry).file.previousPath with
  | none => rfl
  | some path =>
    rw [found] at safe
    exact (scalar_of_safe safe).1

/-- The files of a context. -/
def builtFiles (entries : List DiffFileChangeInput) : List FileDelta :=
  sortBy fileSortKey (entries.map fun entry => (normalized entry).file)

theorem mem_builtFiles {entries : List DiffFileChangeInput} {file : FileDelta} :
    file ∈ builtFiles entries ↔ ∃ entry ∈ entries, (normalized entry).file = file := by
  rw [builtFiles, mem_sortBy, mem_map]

/-- The context of files and reasons. -/
def DiffBuildInput.assemble (input : DiffBuildInput) (truncated : Bool) (reasons : List Text) : Py DiffContext := do
  let files := builtFiles input.files
  let diffHash ← hashObject (diffMapping input.baseSha input.headSha truncated input.source files)
  let fields : DiffContextFields := ⟨input.baseSha, input.headSha, files, input.source, truncated, reasons, diffHash⟩
  construct fields.postInit fun admitted => ⟨fields, admitted⟩

/-- The builder can only fail where it hashes the diff or constructs the context. -/
theorem buildDiffContext_eq (input : DiffBuildInput) : ∃ reasons, CanonicalTexts reasons ∧
    (∀ reason, reason ∈ reasons ↔ reason ∈ truncationReasons input (builtFiles input.files) ∨
      ∃ entry ∈ input.files, reason ∈ fileReasons entry) ∧
    buildDiffContext input = input.assemble (!(truncationReasons input (builtFiles input.files)).isEmpty) reasons := by
  have collected : collect normalizeFileChange input.files = .ok (input.files.map normalized) :=
    collect_eq_map fun entry _ => (normalized_spec entry).1
  have sorted : sortFiles ((input.files.map normalized).map fun item => item.file) = .ok (builtFiles input.files) := by
    rw [map_map]
    refine bind_unit_eq_ok.mpr ⟨forEach_eq_ok.mpr fun file member => raiseIf_eq_ok.mpr ?_, rfl⟩
    obtain ⟨entry, -, rfl⟩ := mem_map.mp member
    have path := (scalar_of_safe (safe_file entry).1).1
    have previous := scalar_previousPath entry
    cases found : (normalized entry).file.previousPath <;> simp_all
  have named : ∀ reason ∈ truncationReasons input (builtFiles input.files) ++
      (input.files.map normalized).flatMap fun item => item.invalidatingReasons, reason.scalar = true := by
    intro reason member
    rcases mem_append.mp member with truncation | listed
    · exact (truncationReasons_named reason truncation).1
    · obtain ⟨item, kept, inside⟩ := mem_flatMap.mp listed
      obtain ⟨entry, -, rfl⟩ := mem_map.mp kept
      exact (fileReasons_named reason (((normalized_spec entry).2.reasons reason).mp inside)).1
  obtain ⟨reasons, computed, canonical, members⟩ := sortedTexts_total named
  refine ⟨reasons, canonical, fun reason => ?_, ?_⟩
  · rw [members, mem_append, mem_flatMap]
    simp only [mem_map, exists_exists_and_eq_and, (normalized_spec _).2.reasons]
  · simp only [buildDiffContext, collected, ok_bind_eq, sorted, computed, DiffBuildInput.assemble]

/-- What a built context holds. -/
structure DiffBuildInput.Builds (input : DiffBuildInput) (context : DiffContext) : Prop where
  commits : context.baseSha = input.baseSha ∧ context.headSha = input.headSha
  source : context.source = input.source
  files : context.files = builtFiles input.files
  truncated : context.truncated = !(truncationReasons input context.files).isEmpty
  reasons : ∀ reason, reason ∈ context.invalidatingReasons ↔ reason ∈ truncationReasons input context.files ∨
    ∃ entry ∈ input.files, reason ∈ fileReasons entry
  hashed : hashObject context.toIdentityMapping = .ok context.diffHash

theorem buildDiffContext_builds {input : DiffBuildInput} {context : DiffContext}
    (built : buildDiffContext input = .ok context) : input.Builds context := by
  obtain ⟨reasons, -, members, computed⟩ := buildDiffContext_eq input
  rw [computed] at built
  obtain ⟨diffHash, hashed, constructed⟩ := bind_eq_ok.mp built
  obtain ⟨passed, rfl⟩ := construct_eq_ok.mp constructed
  exact ⟨⟨rfl, rfl⟩, rfl, rfl, rfl, members, hashed⟩

/-- No count leaves the range that canonical JSON can write. -/
structure DiffBuildInput.CountsFit (input : DiffBuildInput) : Prop where
  pageCount : input.source.pageCount ≤ maxSafeJsonInteger
  fileCount : input.source.fileCount ≤ maxSafeJsonInteger
  maxFiles : input.source.maxFiles ≤ maxSafeJsonInteger
  files : ∀ entry ∈ input.files, nonNegativeInteger entry.additions ≤ maxSafeJsonInteger ∧
    nonNegativeInteger entry.deletions ≤ maxSafeJsonInteger

theorem admissible_file : admissible (normalized entry).file.toIdentityMapping = true ↔
    nonNegativeInteger entry.additions ≤ maxSafeJsonInteger ∧ nonNegativeInteger entry.deletions ≤ maxSafeJsonInteger := by
  have made := (normalized_spec entry).2
  have patchHash : (normalized entry).file.patchHash.all Text.scalar = true := by
    cases found : (normalized entry).file.patchHash with
    | none => rfl
    | some hash => exact scalar_of_isSha256Hex (by simpa [found] using made.patchHash)
  have additions := nonNegativeInteger_nonneg entry.additions
  have deletions := nonNegativeInteger_nonneg entry.deletions
  simp only [FileDelta.toIdentityMapping, admissible_obj, all_cons, all_nil, scalar_ascii, admissible_str,
    admissible_optionalText, scalar_statusText, (scalar_of_safe (safe_file entry).1).1, scalar_previousPath, patchHash,
    admissible_int, made.additions, made.deletions, Bool.true_and, Bool.and_true, Bool.and_eq_true, decide_eq_true_eq]
  omega

/-- Of what the builder hashes, only a count can be refused. -/
theorem admissible_builtFiles {input : DiffBuildInput} {truncated : Bool} (base : isGitObjectId input.baseSha = true)
    (head : isGitObjectId input.headSha = true) :
    admissible (diffMapping input.baseSha input.headSha truncated input.source (builtFiles input.files)) = true ↔
      input.CountsFit := by
  have scalar {value : Text} (object : isGitObjectId value = true) : value.scalar = true := by
    simp only [isGitObjectId, Bool.and_eq_true, all_eq_true] at object
    simp only [Text.scalar, all_eq_true, Bool.not_eq_eq_eq_not, Bool.not_true]
    exact fun point member => isSurrogate_of_isLowerHex (object.2 point member)
  have files : (∀ file ∈ builtFiles input.files, admissible file.toIdentityMapping = true) ↔
      ∀ entry ∈ input.files, nonNegativeInteger entry.additions ≤ maxSafeJsonInteger ∧
        nonNegativeInteger entry.deletions ≤ maxSafeJsonInteger := by
    simp only [mem_builtFiles, forall_exists_index, and_imp, forall_apply_eq_imp_iff₂, admissible_file]
  have counts := input.source.admitted
  simp only [DiffSourceFields.postInit, forEach_eq_ok, raiseIf_eq_ok, forall_mem_cons, not_lt] at counts
  obtain ⟨pages, total, most, -⟩ := counts
  simp only [diffMapping, DiffSource.toIdentityMapping, admissible_obj, admissible_arr, all_cons, all_nil,
    scalar_ascii, admissible_str, admissible_bool, admissible_int, scalar base, scalar head, Bool.true_and,
    Bool.and_true, Bool.and_eq_true, decide_eq_true_eq, all_map, all_eq_true, Function.comp_apply, files]
  constructor
  · rintro ⟨⟨first, second, third⟩, fits⟩
    exact ⟨by omega, by omega, by omega, fits⟩
  · rintro ⟨first, second, third, fits⟩
    exact ⟨⟨by omega, by omega, by omega⟩, fits⟩

/-- A diff is built for two commits whenever its counts can be written. -/
theorem buildDiffContext_total {input : DiffBuildInput} (base : isGitObjectId input.baseSha = true)
    (head : isGitObjectId input.headSha = true) (fits : input.CountsFit) : ∃ context, buildDiffContext input = .ok context := by
  obtain ⟨reasons, canonical, members, computed⟩ := buildDiffContext_eq input
  have named : [] ∉ reasons := by
    rw [members]
    rintro (truncation | ⟨entry, -, listed⟩)
    · exact (truncationReasons_named [] truncation).2 rfl
    · exact (fileReasons_named [] listed).2 rfl
  rw [computed]
  obtain ⟨diffHash, hashed, digest⟩ := hashObject_total ((admissible_builtFiles base head).mpr fits)
  refine ⟨_, bind_eq_ok.mpr ⟨diffHash, hashed, construct_ok ?_⟩⟩
  simp only [DiffContextFields.postInit, bind_unit_eq_ok, requireGitObjectId_eq_ok, requireSortedUnique_eq_ok,
    raiseIf_eq_ok, Bool.not_eq_false]
  exact ⟨base, head, ⟨named, canonical⟩, digest⟩

/-- What was built had counts that can be written. -/
theorem countsFit_of_built {input : DiffBuildInput} {context : DiffContext} (built : buildDiffContext input = .ok context) :
    isGitObjectId input.baseSha = true ∧ isGitObjectId input.headSha = true ∧ input.CountsFit := by
  have builds := buildDiffContext_builds built
  obtain ⟨base, head, -⟩ := context.facts
  have passed := admissible_of_hashObject builds.hashed
  rw [builds.commits.1] at base
  rw [builds.commits.2] at head
  rw [DiffContext.toIdentityMapping, builds.commits.1, builds.commits.2, builds.source, builds.files] at passed
  exact ⟨base, head, (admissible_builtFiles base head).mp passed⟩

theorem statusText_injective {left right : FileChangeStatus} (equal : left.text = right.text) : left = right := by
  cases left <;> cases right <;> first
    | rfl
    | exact absurd equal (by decide)

/-- A safe previous path is not the empty text that stands for none in the key. -/
theorem previousPath_injective {left right : Option Text} (leftSafe : left.all isSafeRelativePath = true)
    (rightSafe : right.all isSafeRelativePath = true) (equal : (left.getD []).utf16 = (right.getD []).utf16) :
    left = right := by
  have named {path : Option Text} (safe : path.all isSafeRelativePath = true) :
      (path.getD []).scalar = true ∧ (path = none ↔ path.getD [] = []) := by
    cases path with
    | none => exact ⟨rfl, by simp⟩
    | some path => simpa using scalar_of_safe (by simpa using safe)
  have texts := utf16_injective (named leftSafe).1 (named rightSafe).1 equal
  have both := (named leftSafe).2.trans (texts ▸ (named rightSafe).2.symm)
  cases left with
  | none => exact (both.mp rfl).symm
  | some path =>
    cases right with
    | none => exact absurd (both.mpr rfl) (by simp)
    | some other => exact congrArg some texts

/-- Entries of distinct identities have distinct keys. -/
theorem builtFiles_perm {entries others : List DiffFileChangeInput} (same : entries.Perm others)
    (distinct : (entries.map claimedIdentity).Nodup) : builtFiles entries = builtFiles others := by
  refine sortBy_congr ?_ (same.map _)
  have identities : ((entries.map fun entry => (normalized entry).file).map fileIdentity).Nodup := by
    rw [map_map]
    exact (map_congr_left fun entry _ => (normalized_spec entry).2.identity).symm ▸ distinct
  intro left leftMember right rightMember equal
  refine inj_on_of_nodup_map identities leftMember rightMember ?_
  obtain ⟨first, -, rfl⟩ := mem_map.mp leftMember
  obtain ⟨second, -, rfl⟩ := mem_map.mp rightMember
  have firstSafe := safe_file first
  have secondSafe := safe_file second
  simp only [fileSortKey, List.cons.injEq, and_true] at equal
  obtain ⟨paths, previous, statuses⟩ := equal
  refine Prod.ext (utf16_injective (scalar_of_safe firstSafe.1).1 (scalar_of_safe secondSafe.1).1 paths)
    (Prod.ext (previousPath_injective firstSafe.2 secondSafe.2 previous) ?_)
  exact statusText_injective (utf16_injective (scalar_statusText _) (scalar_statusText _) statuses)

theorem buildDiffContext_perm {input : DiffBuildInput} {files : List DiffFileChangeInput} (same : input.files.Perm files)
    (distinct : (input.files.map claimedIdentity).Nodup) :
    buildDiffContext { input with files := files } = buildDiffContext input := by
  obtain ⟨reasons, canonical, members, computed⟩ := buildDiffContext_eq input
  obtain ⟨others, otherCanonical, otherMembers, otherComputed⟩ := buildDiffContext_eq { input with files := files }
  have sorted := builtFiles_perm same distinct
  have truncation : truncationReasons { input with files := files } = truncationReasons input := by
    funext built
    simp only [truncationReasons, same.length_eq]
  rw [truncation] at otherMembers otherComputed
  simp only [← sorted] at otherMembers otherComputed
  have equal : others = reasons := otherCanonical.ext canonical fun reason => by
    rw [members, otherMembers]
    simp only [same.mem_iff]
  rw [computed, otherComputed, equal]
  unfold DiffBuildInput.assemble
  dsimp only
  generalize builtFiles input.files = built at sorted ⊢
  rw [sorted]

/-- The builder reads a path, an optional previous path, a known status and a patch without surrogates. -/
structure DiffFileChangeInput.WellFormed (entry : DiffFileChangeInput) : Prop where
  path : ∃ path, entry.path = .text path ∧ isSafeRelativePath path = true
  previousPath : entry.previousPath = .absent ∨ entry.previousPath = .text [] ∨
    ∃ path, entry.previousPath = .text path ∧ isSafeRelativePath path = true
  status : ∃ status : FileChangeStatus, status ≠ .unknown ∧ entry.status = .text status.text
  rename : entry.status = .text (ascii "renamed") → entry.previousPath ≠ .absent ∧ entry.previousPath ≠ .text []
  patch : ∀ patch, entry.patch = .text patch → patch.scalar = true

theorem normalizeStatus_eq {value : RawField} {status : FileChangeStatus} (known : status ≠ .unknown) :
    normalizeStatus value = status ↔ value = .text status.text := by
  constructor
  · intro normalized
    cases value with
    | text value =>
      rw [normalizeStatus] at normalized
      cases found : [FileChangeStatus.added, .modified, .removed, .renamed, .copied, .changed].find? fun status =>
          decide (status.text = value) with
      | none =>
        rw [found] at normalized
        exact absurd normalized.symm known
      | some listed =>
        rw [found] at normalized
        have same : listed.text = value := by simpa using find?_some found
        rw [← normalized, Option.getD_some, same]
    | _ => exact absurd normalized.symm known
  · rintro rfl
    cases status <;> first
      | exact absurd rfl known
      | decide

theorem fileReasons_eq_nil {entry : DiffFileChangeInput} : fileReasons entry = [] ↔ entry.WellFormed := by
  have path : (pathOrSentinel entry.path).2 = [] ∧ isSafeRelativePath (pathOrSentinel entry.path).1 ≠ false ↔
      ∃ path, entry.path = .text path ∧ isSafeRelativePath path = true := by
    have empty : isSafeRelativePath [] = false := by decide
    unfold pathOrSentinel
    grind
  have previousPath : (optionalPath entry.previousPath).2 = [] ∧
      (optionalPath entry.previousPath).1.all isSafeRelativePath ≠ false ↔
        entry.previousPath = .absent ∨ entry.previousPath = .text [] ∨
          ∃ path, entry.previousPath = .text path ∧ isSafeRelativePath path = true := by
    have empty : isSafeRelativePath [] = false := by decide
    unfold optionalPath
    grind
  have patch : (patchOrNone entry.patch).2 = [] ↔ ∀ patch, entry.patch = .text patch → patch.scalar = true := by
    unfold patchOrNone
    grind [scalar_nil]
  have status : normalizeStatus entry.status ≠ .unknown ↔
      ∃ status : FileChangeStatus, status ≠ .unknown ∧ entry.status = .text status.text :=
    ⟨fun known => ⟨_, known, (normalizeStatus_eq known).mp rfl⟩, fun ⟨status, known, equal⟩ =>
      (normalizeStatus_eq known).mpr equal ▸ known⟩
  have rename : ¬ (normalizeStatus entry.status = .renamed ∧ (optionalPath entry.previousPath).1 = none) ↔
      (entry.status = .text (ascii "renamed") → entry.previousPath ≠ .absent ∧ entry.previousPath ≠ .text []) := by
    rw [@normalizeStatus_eq _ .renamed (by decide), not_and]
    unfold optionalPath
    grind [FileChangeStatus.text]
  simp only [fileReasons, append_eq_nil_iff, reasonIf_eq_nil]
  constructor
  · rintro ⟨⟨⟨⟨⟨⟨first, second⟩, third⟩, fourth⟩, fifth⟩, sixth⟩, seventh⟩
    exact ⟨path.mp ⟨first, fifth⟩, previousPath.mp ⟨second, sixth⟩, status.mp fourth, rename.mp seventh, patch.mp third⟩
  · intro formed
    have paths := path.mpr formed.path
    have previous := previousPath.mpr formed.previousPath
    exact ⟨⟨⟨⟨⟨⟨paths.1, previous.1⟩, patch.mpr formed.patch⟩, status.mpr formed.status⟩, paths.2⟩, previous.2⟩,
      rename.mpr formed.rename⟩

/-- The inputs that a diff is built from without a reason against it. -/
structure DiffBuildInput.Regular (input : DiffBuildInput) : Prop where
  entries : ∀ entry ∈ input.files, entry.WellFormed
  distinct : (input.files.map claimedIdentity).Nodup
  complete : input.source.complete = true
  counted : (input.files.length : Int) = input.source.fileCount
  bounded : input.source.fileCount ≤ input.source.maxFiles

theorem reasons_eq_nil {input : DiffBuildInput} {context : DiffContext} (built : buildDiffContext input = .ok context) :
    context.invalidatingReasons = [] ↔ input.Regular := by
  have builds := buildDiffContext_builds built
  have identities : (context.files.map fileIdentity).Perm (input.files.map claimedIdentity) := by
    rw [builds.files]
    refine ((sortBy_perm fileSortKey _).map fileIdentity).trans (List.Perm.of_eq ?_)
    rw [map_map]
    exact map_congr_left fun entry _ => (normalized_spec entry).2.identity
  have distinct : (context.files.map fileIdentity).dedup.length = context.files.length ↔
      (input.files.map claimedIdentity).Nodup := by
    rw [← identities.nodup_iff, ← dedup_eq_self, ← length_map fileIdentity]
    exact ⟨fun same => (dedup_sublist _).eq_of_length same, congrArg List.length⟩
  have empty : context.invalidatingReasons = [] ↔ truncationReasons input context.files = [] ∧
      ∀ entry ∈ input.files, fileReasons entry = [] := by
    simp only [eq_nil_iff_forall_not_mem, builds.reasons, not_or, not_exists, not_and, forall_and]
    exact and_congr_right fun _ => ⟨fun none entry member reason => none reason entry member,
      fun none reason entry member => none entry member reason⟩
  simp only [empty, fileReasons_eq_nil, truncationReasons, append_eq_nil_iff, reasonIf_eq_nil, ne_eq, not_not,
    Bool.not_eq_false, not_or, not_lt, distinct]
  constructor
  · rintro ⟨⟨⟨⟨complete, counted⟩, bounded, -⟩, distinct⟩, entries⟩
    exact ⟨entries, distinct, complete, counted, bounded⟩
  · intro regular
    exact ⟨⟨⟨⟨regular.complete, regular.counted⟩, regular.bounded, regular.counted ▸ regular.bounded⟩, regular.distinct⟩,
      regular.entries⟩

/-- No neighbour makes the builder lose a path. -/
theorem mem_changedPaths {input : DiffBuildInput} {context : DiffContext} (built : buildDiffContext input = .ok context)
    {entry : DiffFileChangeInput} (member : entry ∈ input.files) {path : Text} (safe : isSafeRelativePath path = true)
    (named : entry.path = .text path ∨ entry.previousPath = .text path) :
    ∃ paths, context.changedPaths = .ok paths ∧ path ∈ paths := by
  have builds := buildDiffContext_builds built
  obtain ⟨paths, sorted, -, members⟩ := sortedTexts_total (DiffContext.namedPaths_scalar (admissible_of_hashObject builds.hashed))
  refine ⟨paths, sorted, (members path).mpr (mem_append.mpr ?_)⟩
  have listed : (normalized entry).file ∈ context.files := builds.files ▸ mem_builtFiles.mpr ⟨entry, member, rfl⟩
  have filled := (scalar_of_safe safe).2
  have identity := (normalized_spec entry).2.identity
  simp only [fileIdentity, claimedIdentity, Prod.mk.injEq] at identity
  rcases named with here | before
  · refine .inl (mem_map.mpr ⟨_, listed, ?_⟩)
    simp [identity.1, here, pathOrSentinel, filled, safe]
  · refine .inr (mem_filterMap.mpr ⟨_, listed, ?_⟩)
    simp [identity.2.1, before, optionalPath, filled, safe]

/-- The builder returns a context exactly for commits whose diff has no count outside the range of canonical JSON. -/
theorem diff_builder_totality (input : DiffBuildInput) : (∃ context, buildDiffContext input = .ok context) ↔
    isGitObjectId input.baseSha = true ∧ isGitObjectId input.headSha = true ∧ input.CountsFit := by
  constructor
  · rintro ⟨context, built⟩
    exact countsFit_of_built built
  · rintro ⟨base, head, fits⟩
    exact buildDiffContext_total base head fits

theorem oneFile_admitted : (⟨true, 1, 1, 1⟩ : DiffSourceFields).postInit = .ok () := by
  decide

/-- One modified file, between two commits, with a field of any type for its additions. -/
def oneFile (additions : RawField) : DiffBuildInput :=
  ⟨List.replicate 40 0x61, List.replicate 40 0x61,
    [⟨.text [0x61], .text (ascii "modified"), additions, .absent, .absent, .absent⟩], ⟨⟨true, 1, 1, 1⟩, oneFile_admitted⟩⟩

theorem unsafe_count_raises : ¬ ∃ context, buildDiffContext (oneFile (.integer (2 ^ 53))) = .ok context := by
  rintro ⟨context, built⟩
  have fits := ((countsFit_of_built built).2.2.files _ mem_cons_self).1
  revert fits
  decide

/-- Without a repeated identity the order of the entries does not matter, a context without reasons comes from well-formed
entries of a complete listing, and every safe path is a changed one. -/
theorem diff_context_admission :
    (∀ (input : DiffBuildInput) (files : List DiffFileChangeInput), input.files.Perm files →
      (input.files.map claimedIdentity).Nodup →
        buildDiffContext { input with files := files } = buildDiffContext input) ∧
    (∀ (input : DiffBuildInput) (context : DiffContext), buildDiffContext input = .ok context →
      (context.invalidatingReasons = [] ↔ input.Regular)) ∧
    (∀ (input : DiffBuildInput) (context : DiffContext), buildDiffContext input = .ok context →
      ∀ entry ∈ input.files, ∀ path, isSafeRelativePath path = true →
        entry.path = .text path ∨ entry.previousPath = .text path →
          ∃ paths, context.changedPaths = .ok paths ∧ path ∈ paths) :=
  ⟨fun _ _ same distinct => buildDiffContext_perm same distinct, fun _ _ built => reasons_eq_nil built,
    fun _ _ built _ member _ safe named => mem_changedPaths built member safe named⟩

/-- A count that is no integer is read as zero, without a reason. -/
theorem miscounted_entry_passes : ∃ context, buildDiffContext (oneFile .other) = .ok context ∧
    context.invalidatingReasons = [] := by
  have fits : (oneFile .other).CountsFit := ⟨by decide, by decide, by decide, by decide⟩
  obtain ⟨context, built⟩ := buildDiffContext_total (by decide) (by decide) fits
  refine ⟨context, built, (reasons_eq_nil built).mpr ⟨?_, by decide, rfl, by decide, by decide⟩⟩
  intro entry listed
  rw [mem_singleton.mp listed]
  exact ⟨⟨_, rfl, by decide⟩, Or.inl rfl, ⟨.modified, by decide, rfl⟩, fun renamed => absurd renamed (by decide), nofun⟩

end CiCoordinator.RepoContext

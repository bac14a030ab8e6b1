import CiCoordinator.Kernel.NormalJson

/- The proof that canonical JSON is a codec: its text is read back and tells values apart. -/

namespace CiCoordinator.Kernel

open Library Json List Dictionary

section Agreement

theorem numericEq_finite (first second : FiniteFloat) :
    (Float64.finite first).numericEq (.finite second) = true ↔ first.value = second.value := by
  rw [Float64.numericEq, Float64.le, Float64.le, Bool.and_eq_true, decide_eq_true_eq, decide_eq_true_eq]
  exact ⟨fun both => le_antisymm both.1 both.2, fun same => ⟨same.le, same.ge⟩⟩

theorem equalsInteger_finite (number : FiniteFloat) (value : Int) :
    equalsInteger (.finite number) value = true ↔ number.value = value := by
  rw [equalsInteger, decide_eq_true_eq]

/-- Objects have one normal value when they have the same names with the same normal values. -/
theorem normal_members_iff {left right : List (Text × Json)} (leftNames : (left.map Prod.fst).Nodup)
    (rightNames : (right.map Prod.fst).Nodup) :
    sortBy Prod.fst (left.map normalMember) = sortBy Prod.fst (right.map normalMember) ↔ left.length = right.length ∧
        ∀ pair ∈ left, ∃ other, Dictionary.find pair.1 right = some other ∧ pair.2.normal = other.normal := by
  have leftDistinct : ((left.map normalMember).map Prod.fst).Nodup := by rwa [keys_normalMember]
  have rightDistinct : ((right.map normalMember).map Prod.fst).Nodup := by rwa [keys_normalMember]
  rw [sortBy_eq_iff_perm leftDistinct rightDistinct]
  constructor
  · intro same
    refine ⟨by simpa using same.length_eq, fun pair member => ?_⟩
    obtain ⟨other, inside, equal⟩ := mem_map.mp (same.mem_iff.mp (mem_map_of_mem member))
    rw [normalMember, normalMember, Prod.mk.injEq] at equal
    exact ⟨other.2, find_of_mem rightNames (equal.1 ▸ inside), equal.2.symm⟩
  · rintro ⟨lengths, found⟩
    have included : left.map normalMember ⊆ right.map normalMember := by
      intro entry listed
      obtain ⟨pair, member, rfl⟩ := mem_map.mp listed
      obtain ⟨other, located, equal⟩ := found pair member
      refine mem_map.mpr ⟨(pair.1, other), mem_of_find located, ?_⟩
      rw [normalMember, normalMember, equal]
    refine (subperm_of_subset (List.Nodup.of_map _ leftDistinct) included).perm_of_length_le ?_
    rw [length_map, length_map, lengths]

theorem agrees_shape {first second : Json} (agreed : first.agrees second = true) : first.shape = second.shape := by
  cases first <;> cases second <;> first | rfl | (rw [Json.agrees] at agreed <;> cases agreed)

theorem normal_shape {value : Json} (passed : admissible value = true) : value.normal.shape = value.shape := by
  cases value with
  | float value =>
    obtain ⟨number, rfl⟩ := safeFloat_finite (admissible_float value ▸ passed)
    rw [normal_float, loadedFloat_shape, Json.shape]
  | null => rw [normal_null]
  | bool value => rw [normal_bool]
  | int value => rw [normal_int]
  | str value => rw [normal_str]
  | arr items => rw [normal_arr, Json.shape, Json.shape]
  | obj members => rw [normal_obj, Json.shape, Json.shape]

/-- Numbers agree exactly when they are read as one value. -/
theorem agrees_number {first second : Json} (firstNumber : first.shape = .number) (secondNumber : second.shape = .number)
    (firstPassed : admissible first = true) (secondPassed : admissible second = true) :
    first.agrees second = true ↔ first.normal = second.normal := by
  cases first with
  | int value =>
    cases second with
    | int other => rw [Json.agrees, normal_int, normal_int, decide_eq_true_eq, Json.int.injEq]
    | float other =>
      rw [admissible_float] at secondPassed
      obtain ⟨number, rfl⟩ := safeFloat_finite secondPassed
      rw [Json.agrees, equalsInteger_finite, normal_int, normal_float, ← loadedFloat_eq_int_iff secondPassed, eq_comm]
    | _ => cases secondNumber
  | float value =>
    rw [admissible_float] at firstPassed
    obtain ⟨number, rfl⟩ := safeFloat_finite firstPassed
    cases second with
    | int other =>
      rw [Json.agrees, equalsInteger_finite, normal_int, normal_float, loadedFloat_eq_int_iff firstPassed]
    | float other =>
      rw [admissible_float] at secondPassed
      obtain ⟨number, rfl⟩ := safeFloat_finite secondPassed
      rw [Json.agrees, numericEq_finite, normal_float, normal_float, loadedFloat_eq_iff firstPassed secondPassed]
    | _ => cases secondNumber
  | _ => cases firstNumber

theorem agrees_iff_of_shape {first second : Json} (firstPassed : admissible first = true)
    (secondPassed : admissible second = true)
    (same : first.shape = second.shape → (first.agrees second = true ↔ first.normal = second.normal)) :
    first.agrees second = true ↔ first.normal = second.normal := by
  by_cases shape : first.shape = second.shape
  · exact same shape
  · refine iff_of_false (fun agreed => shape (agrees_shape agreed)) fun equal => shape ?_
    rw [← normal_shape firstPassed, equal, normal_shape secondPassed]

/-- Accepted values agree exactly when they have one normal value. -/
theorem agrees_iff_normal (first second : Json) (firstPassed : admissible first = true)
    (secondPassed : admissible second = true) (firstDistinct : first.distinct) (secondDistinct : second.distinct) :
    first.agrees second = true ↔ first.normal = second.normal := by
  refine agrees_iff_of_shape firstPassed secondPassed fun shape => ?_
  induction first generalizing second with
  | null =>
    cases second <;> cases shape
    simp [Json.agrees]
  | bool value =>
    cases second <;> cases shape
    simp [Json.agrees]
  | int value => exact agrees_number rfl shape.symm firstPassed secondPassed
  | float value => exact agrees_number rfl shape.symm firstPassed secondPassed
  | str value =>
    cases second <;> cases shape
    simp [Json.agrees]
  | arr items ih =>
    cases second <;> cases shape
    rename_i others
    rw [admissible_arr_iff] at firstPassed secondPassed
    rw [Json.distinct] at firstDistinct secondDistinct
    rw [Json.agrees, normal_arr, normal_arr, Json.arr.injEq]
    induction items generalizing others with
    | nil => cases others <;> simp [agreesItems]
    | cons item rest tail =>
      cases others with
      | nil => simp [agreesItems]
      | cons other others =>
        rw [forall_mem_cons] at ih firstPassed secondPassed
        rw [Json.distinctItems] at firstDistinct secondDistinct
        rw [agreesItems, Bool.and_eq_true, map_cons, map_cons, List.cons.injEq, agrees_iff_of_shape firstPassed.1 secondPassed.1
            (ih.1 other firstPassed.1 secondPassed.1 firstDistinct.1 secondDistinct.1),
          tail ih.2 firstPassed.2 firstDistinct.2 others secondPassed.2 secondDistinct.2]
  | obj members ih =>
    cases second <;> cases shape
    rename_i others
    rw [admissible_obj_iff] at firstPassed secondPassed
    rw [Json.distinct, distinctMembers_iff] at firstDistinct secondDistinct
    rw [Json.agrees, normal_obj, normal_obj, Json.obj.injEq, Bool.and_eq_true, decide_eq_true_eq,
      normal_members_iff firstDistinct.1 secondDistinct.1, agreesMembers_iff]
    refine and_congr_right fun _ => forall₂_congr fun pair member => exists_congr fun other => and_congr_right fun found => ?_
    have listed := mem_of_find found
    have left := firstPassed pair member
    have right := secondPassed _ listed
    rw [Bool.and_eq_true] at left right
    exact agrees_iff_of_shape left.2 right.2
      (ih pair member other left.2 right.2 (firstDistinct.2 pair member) (secondDistinct.2 _ listed))

end Agreement

section Codec

variable {value : Json} {body : List Nat}

/-- The loader reads canonical bytes as the normal value when the nesting permits it. -/
theorem loadStrictJson_canonical [Interpreter] (distinct : value.distinct) (written : canonicalJson value none = .ok body)
    (shallow : value.nested ≤ Interpreter.jsonRecursionLimit) : loadStrictJson body body.length = .ok value.normal := by
  obtain ⟨passed, rfl⟩ := canonicalJson_eq_ok.mp written
  refine loadStrictJson_loaded ?_ (distinct_sortMembers value distinct) le_rfl ?_
  · rwa [admissible_sortMembers]
  · rwa [nesting_tree, nested_sortMembers]

/-- The loader refuses canonical bytes beyond its recursion limit. -/
theorem loadStrictJson_deep [Interpreter] (written : canonicalJson value none = .ok body)
    (deep : Interpreter.jsonRecursionLimit < value.nested) :
    loadStrictJson body body.length = .error (.strictJsonError (ascii "invalid strict JSON bytes")) := by
  obtain ⟨passed, rfl⟩ := canonicalJson_eq_ok.mp written
  have sorted : admissible (sortMembers value) = true := by rwa [admissible_sortMembers]
  rw [loadStrictJson, raiseIf, if_neg (lt_irrefl _), ok_bind_eq, Text.decodeUtf8_utf8 (scalar_render _ sorted), Option.bind_some,
    read_render sorted]
  dsimp only
  rw [if_pos (by rwa [nesting_tree, nested_sortMembers])]

/-- Arrays inside one another. -/
def nestedArrays : Nat → Json
  | 0 => .arr []
  | count + 1 => .arr [nestedArrays count]

theorem nested_nestedArrays (count : Nat) : (nestedArrays count).nested = count + 1 := by
  induction count with
  | zero => rw [nestedArrays, Json.nested, nestedItems]
  | succ count ih => rw [nestedArrays, Json.nested, nestedItems, nestedItems, ih, Nat.max_zero]

theorem admissible_nestedArrays (count : Nat) : admissible (nestedArrays count) = true := by
  induction count with
  | zero => rw [nestedArrays, admissible_arr, all_nil]
  | succ count ih => rw [nestedArrays, admissible_arr, all_cons, ih, all_nil, Bool.and_true]

theorem distinct_nestedArrays (count : Nat) : (nestedArrays count).distinct := by
  induction count with
  | zero =>
    rw [nestedArrays, Json.distinct, Json.distinctItems]
    trivial
  | succ count ih =>
    rw [nestedArrays, Json.distinct, Json.distinctItems, Json.distinctItems]
    exact ⟨ih, trivial⟩

/-- Accepted values have one canonical text exactly when they have one normal value. -/
theorem canonicalJson_eq_iff {other : Json} {otherBody : List Nat} (distinct : value.distinct) (otherDistinct : other.distinct)
    (written : canonicalJson value none = .ok body) (otherWritten : canonicalJson other none = .ok otherBody) :
    otherBody = body ↔ value.normal = other.normal := by
  obtain ⟨passed, rfl⟩ := canonicalJson_eq_ok.mp written
  obtain ⟨otherPassed, rfl⟩ := canonicalJson_eq_ok.mp otherWritten
  constructor
  · intro same
    have texts := Text.utf8_inj same
    have sorted : admissible (sortMembers value) = true := by rwa [admissible_sortMembers]
    have otherSorted : admissible (sortMembers other) = true := by rwa [admissible_sortMembers]
    have trees := read_render otherSorted
    rw [texts, read_render sorted] at trees
    have loaded := loadTree_tree _ sorted (distinct_sortMembers value distinct)
    rw [Option.some.inj trees, loadTree_tree _ otherSorted (distinct_sortMembers other otherDistinct)] at loaded
    exact (Option.some.inj loaded).symm
  · intro same
    rw [← render_normal passed, ← render_normal otherPassed, same]

/-- Canonical JSON is read back up to the kinds of numbers and the order of members, and tells all other values apart. -/
theorem canonicalJson_codec [Interpreter] (distinct : value.distinct) (written : canonicalJson value none = .ok body) :
    (value.nested ≤ Interpreter.jsonRecursionLimit →
      ∃ loaded, loadStrictJson body body.length = .ok loaded ∧ loaded.agrees value = true ∧
        canonicalJson loaded none = .ok body) ∧
      ∀ other otherBody, other.distinct → canonicalJson other none = .ok otherBody →
        (otherBody = body ↔ value.agrees other = true) := by
  obtain ⟨passed, text⟩ := canonicalJson_eq_ok.mp written
  constructor
  · intro shallow
    refine ⟨value.normal, loadStrictJson_canonical distinct written shallow, ?_, ?_⟩
    · rw [agrees_iff_normal _ _ (admissible_normal passed) passed (distinct_normal distinct) distinct, normal_normal]
    · rw [canonicalJson_eq_ok, sortMembers_normal, render_normal passed]
      exact ⟨admissible_normal passed, text⟩
  · intro other otherBody otherDistinct otherWritten
    rw [agrees_iff_normal _ _ passed (canonicalJson_eq_ok.mp otherWritten).1 distinct otherDistinct]
    exact canonicalJson_eq_iff distinct otherDistinct written otherWritten

/-- Whatever the recursion limit, the text of some accepted value is refused. -/
theorem loadStrictJson_nestedArrays : ¬ ∃ interpreter : Interpreter, ∀ value body, value.distinct →
    canonicalJson value none = .ok body → ∃ loaded, @loadStrictJson interpreter body body.length = .ok loaded := by
  rintro ⟨interpreter, always⟩
  have passed := admissible_nestedArrays interpreter.jsonRecursionLimit
  have written := canonicalJson_eq_ok.mpr ⟨passed, rfl⟩
  have deep : interpreter.jsonRecursionLimit < (nestedArrays interpreter.jsonRecursionLimit).nested := by
    rw [nested_nestedArrays]
    exact Nat.lt_succ_self _
  obtain ⟨loaded, accepted⟩ := always _ _ (distinct_nestedArrays _) written
  rw [@loadStrictJson_deep _ _ interpreter written deep] at accepted
  cases accepted

end Codec

namespace Sample

@[reducible] def decoder : Interpreter := ⟨1000⟩

def two : FiniteFloat :=
  ⟨false, 2 ^ 52, -51, by decide⟩

def minusHalf : FiniteFloat :=
  ⟨true, 2 ^ 52, -53, by decide⟩

def document : Json :=
  .obj [(ascii "b", .float (.finite two)), (ascii "a", .arr [.float (.finite minusHalf), .int 7])]

def documentBytes : List Nat :=
  (ascii "\x7b\"a\":[-0.5,7],\"b\":2\x7d").utf8

theorem document_distinct : document.distinct := by
  have names : ascii "b" ≠ ascii "a" := by decide
  simp [document, Json.distinct, distinctMembers, Json.distinctItems, names]

theorem document_written : canonicalJson document none = .ok documentBytes := by
  rfl

theorem document_shallow : document.nested ≤ decoder.jsonRecursionLimit := by
  decide

end Sample

theorem canonicalJson_codec_document : ∃ loaded,
    @loadStrictJson Sample.decoder Sample.documentBytes Sample.documentBytes.length = .ok loaded ∧
      loaded.agrees Sample.document = true ∧ canonicalJson loaded none = .ok Sample.documentBytes :=
  (@canonicalJson_codec _ _ Sample.decoder Sample.document_distinct Sample.document_written).1 Sample.document_shallow

end CiCoordinator.Kernel

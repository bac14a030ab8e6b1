import CiCoordinator.Kernel.BoundedWriter
import CiCoordinator.Kernel.LimitedJson

/- The writing and the reading of documents that stay within limits and end with a line feed. -/

namespace CiCoordinator.Kernel

open Library Json Text List

section Counting

theorem valueCount_null : valueCount .null = 1 := rfl

theorem valueCount_bool (value : Bool) : valueCount (.bool value) = 1 := rfl

theorem valueCount_str (value : Text) : valueCount (.str value) = 1 := rfl

theorem valueCount_number (literal : NumberLiteral) : valueCount (.number literal) = 1 := rfl

theorem valueCount_pos (tree : JsonSyntax) : 1 ≤ valueCount tree := by
  cases tree <;> simp [valueCount]

theorem length_le_countItems (items : List Json) : items.length ≤ countItems (treeItems items) := by
  induction items with
  | nil => exact Nat.zero_le _
  | cons item rest ih =>
    have one := valueCount_pos item.tree
    rw [treeItems, countItems, length_cons]
    omega

theorem length_le_countMembers (members : List (Text × Json)) : members.length ≤ countMembers (treeMembers members) := by
  induction members with
  | nil => exact Nat.zero_le _
  | cons member rest ih =>
    have one := valueCount_pos member.2.tree
    rw [treeMembers, countMembers, length_cons]
    omega

theorem valueCount_floatTree (number : Float64) : valueCount (floatTree number) = 1 := by
  cases number <;> rfl

end Counting

section Within

variable {limits : JsonResourceLimits}

theorem visit_within {frame : ValueFrame} {nodes : Nat} (deep : frame.depth ≤ limits.maxDepth)
    (many : nodes + 1 ≤ limits.maxNodes) : visit (some limits) frame nodes = .ok (nodes + 1) := by
  rw [visit, if_neg (not_lt.mpr deep), if_neg (not_lt.mpr many)]

theorem admitDirectChildren_within {frame : ValueFrame} {nodes childCount : Nat} (many : nodes + childCount ≤ limits.maxNodes) :
    admitDirectChildren (some limits) childCount frame nodes = .ok () := by
  rw [admitDirectChildren, raiseIf_eq_ok]
  omega

mutual

/-- The writer returns the text of an admissible value that stays within the limits. -/
theorem writeValue_within : (value : Json) → (frame : ValueFrame) → (nodes : Nat) → admissible value = true →
    frame.depth + valueDepth value.tree ≤ limits.maxDepth → nodes + valueCount value.tree ≤ limits.maxNodes →
      writeValue (some limits) value frame nodes = .ok (render value, nodes + valueCount value.tree)
  | .null, frame, nodes, _, deep, many => by
    rw [Json.tree, valueCount_null] at many
    rw [writeValue, render, visit_within (by omega) many]
    rfl
  | .bool value, frame, nodes, _, deep, many => by
    rw [Json.tree, valueCount_bool] at many
    rw [writeValue, render, visit_within (by omega) many]
    rfl
  | .str value, frame, nodes, passed, deep, many => by
    rw [admissible_str] at passed
    rw [Json.tree, valueCount_str] at many
    rw [writeValue, render, visit_within (by omega) many]
    simp [rejectSurrogates, raiseIf, passed, pure, Except.pure, Json.tree, valueCount_str]
  | .int value, frame, nodes, passed, deep, many => by
    rw [admissible_int, decide_eq_true_eq] at passed
    rw [Json.tree, valueCount_number] at many
    rw [writeValue, render, visit_within (by omega) many]
    simp [rejectUnsafeInteger, raiseIf, Nat.not_lt.mpr passed, pure, Except.pure, Json.tree, valueCount_number]
  | .float value, frame, nodes, passed, deep, many => by
    rw [admissible_float] at passed
    rw [Json.tree, valueCount_floatTree] at many
    rw [writeValue, render, visit_within (by omega) many, ok_bind_eq, canonicalFloat_of_safe passed, Json.tree,
      valueCount_floatTree]
    rfl
  | .arr items, frame, nodes, passed, deep, many => by
    rw [admissible_arr] at passed
    rw [Json.tree, valueDepth] at deep
    rw [Json.tree, valueCount] at many
    have enough := length_le_countItems items
    rw [writeValue, render, visit_within (by omega) (by omega), ok_bind_eq, admitDirectChildren_within (by omega),
      ok_bind_eq, writeItems_within items frame 0 (nodes + 1) passed (by omega) (by omega), Json.tree, valueCount]
    simp only [ok_bind_eq, pure, Except.pure, decide_true]
    congr 2
    omega
  | .obj members, frame, nodes, passed, deep, many => by
    rw [admissible_obj] at passed
    rw [Json.tree, valueDepth] at deep
    rw [Json.tree, valueCount] at many
    have enough := length_le_countMembers members
    have keys : forEach (fun member : Text × Json =>
        rejectSurrogates member.1 frame.path (ascii "object key contains surrogate code point")) members = .ok () := by
      rw [forEach_eq_ok]
      intro member contained
      have scalar := all_eq_true.mp passed member contained
      simp only [Bool.and_eq_true] at scalar
      simp [rejectSurrogates, scalar.1]
    rw [writeValue, render, visit_within (by omega) (by omega), ok_bind_eq, admitDirectChildren_within (by omega),
      ok_bind_eq, keys, ok_bind_eq, writeMembers_within members frame true (nodes + 1) passed (by omega) (by omega),
      Json.tree, valueCount]
    simp only [ok_bind_eq, pure, Except.pure]
    congr 2
    omega

theorem writeItems_within : (items : List Json) → (frame : ValueFrame) → (index nodes : Nat) →
    items.all admissible = true → frame.depth + depthItems (treeItems items) ≤ limits.maxDepth →
    nodes + countItems (treeItems items) ≤ limits.maxNodes → writeItems (some limits) items frame index nodes =
        .ok (renderItems items (index = 0), nodes + countItems (treeItems items))
  | [], frame, index, nodes, _, _, _ => by
    rw [writeItems, renderItems, treeItems, countItems, Nat.add_zero]
  | item :: rest, frame, index, nodes, passed, deep, many => by
    rw [all_cons, Bool.and_eq_true] at passed
    rw [treeItems, depthItems] at deep
    rw [treeItems, countItems] at many
    have inner : (frame.item index).depth + valueDepth item.tree ≤ limits.maxDepth := by
      change frame.depth + 1 + valueDepth item.tree ≤ _
      omega
    rw [writeItems, renderItems, writeValue_within item _ _ passed.1 inner (by omega), ok_bind_eq]
    dsimp only
    rw [writeItems_within rest frame (index + 1) _ passed.2 (by omega) (by omega), ok_bind_eq, treeItems,
      countItems, ← Nat.add_assoc]
    by_cases first : index = 0 <;> simp [first, pure, Except.pure]

theorem writeMembers_within : (members : List (Text × Json)) → (frame : ValueFrame) → (first : Bool) → (nodes : Nat) →
    (members.all fun member => member.1.scalar && admissible member.2) = true →
    frame.depth + depthMembers (treeMembers members) ≤ limits.maxDepth →
    nodes + countMembers (treeMembers members) ≤ limits.maxNodes → writeMembers (some limits) members frame first nodes =
        .ok (renderMembers members first, nodes + countMembers (treeMembers members))
  | [], frame, first, nodes, _, _, _ => by
    rw [writeMembers, renderMembers, treeMembers, countMembers, Nat.add_zero]
  | (key, value) :: rest, frame, first, nodes, passed, deep, many => by
    rw [all_cons, Bool.and_eq_true, Bool.and_eq_true] at passed
    rw [treeMembers, depthMembers] at deep
    rw [treeMembers, countMembers] at many
    have inner : (frame.member key).depth + valueDepth value.tree ≤ limits.maxDepth := by
      change frame.depth + 1 + valueDepth value.tree ≤ _
      omega
    rw [writeMembers, renderMembers, writeValue_within value _ _ passed.1.2 inner (by omega), ok_bind_eq]
    dsimp only
    rw [writeMembers_within rest frame false _ passed.2 (by omega) (by omega), ok_bind_eq, treeMembers,
      countMembers, ← Nat.add_assoc]
    rfl

end

/-- The canonical bytes of a value within the limits are those without limits. -/
theorem canonicalJson_within {value : Json} (passed : admissible value = true) (small : limits.Admit (sortMembers value).tree) :
    canonicalJson value (some limits) = .ok (render (sortMembers value)).utf8 := by
  have sorted : admissible (sortMembers value) = true := by rw [admissible_sortMembers, passed]
  have written := @writeValue_within limits (sortMembers value) rootFrame 0 sorted
    (by rw [rootFrame, Nat.zero_add]; exact small.1) (by rw [Nat.zero_add]; exact small.2)
  rw [canonicalJson, canonicalJsonText, written]
  rfl

end Within

section Refusal

variable {limits : Option JsonResourceLimits}

mutual

/-- Whatever the limits are, the writer writes admissible values only. -/
theorem admissible_of_writeValue : (value : Json) → (frame : ValueFrame) → (nodes : Nat) → {written : Text × Nat} →
    writeValue limits value frame nodes = .ok written → admissible value = true
  | .null, _, _, _, _ => rfl
  | .bool _, _, _, _, _ => rfl
  | .str value, frame, nodes, _, wrote => by
    rw [writeValue] at wrote
    simp only [bind_eq_ok, exists_unit_iff, rejectSurrogates, raiseIf_eq_ok] at wrote
    obtain ⟨_, _, scalar, _⟩ := wrote
    exact Bool.eq_true_of_not_eq_false scalar
  | .int value, frame, nodes, _, wrote => by
    rw [writeValue] at wrote
    simp only [bind_eq_ok, exists_unit_iff, rejectUnsafeInteger, raiseIf_eq_ok, not_lt] at wrote
    obtain ⟨_, _, safe, _⟩ := wrote
    rw [admissible_int, decide_eq_true_eq]
    exact safe
  | .float value, frame, nodes, _, wrote => by
    rw [writeValue] at wrote
    simp only [bind_eq_ok] at wrote
    obtain ⟨_, _, _, float, _⟩ := wrote
    rw [admissible_float]
    by_contra outside
    obtain ⟨error, raised⟩ := canonicalFloat_of_unsafe (Bool.eq_false_iff.mpr outside)
    rw [raised] at float
    cases float
  | .arr items, frame, nodes, _, wrote => by
    rw [writeValue] at wrote
    simp only [bind_eq_ok, exists_unit_iff] at wrote
    obtain ⟨_, _, _, _, inside, _⟩ := wrote
    rw [admissible_arr]
    exact admissible_of_writeItems items frame 0 _ inside
  | .obj members, frame, nodes, _, wrote => by
    rw [writeValue] at wrote
    simp only [bind_eq_ok, exists_unit_iff, forEach_eq_ok, rejectSurrogates, raiseIf_eq_ok] at wrote
    obtain ⟨_, _, _, names, _, inside, _⟩ := wrote
    rw [admissible_obj, all_eq_true]
    intro member contained
    rw [Bool.and_eq_true]
    exact ⟨Bool.eq_true_of_not_eq_false (names member contained),
      admissible_of_writeMembers members frame true _ inside member contained⟩

theorem admissible_of_writeItems : (items : List Json) → (frame : ValueFrame) → (index nodes : Nat) →
    {written : Text × Nat} → writeItems limits items frame index nodes = .ok written → items.all admissible = true
  | [], _, _, _, _, _ => rfl
  | item :: rest, frame, index, nodes, _, wrote => by
    rw [writeItems] at wrote
    simp only [bind_eq_ok] at wrote
    obtain ⟨_, head, _, later, _⟩ := wrote
    rw [all_cons, Bool.and_eq_true]
    exact ⟨admissible_of_writeValue item _ _ head, admissible_of_writeItems rest frame (index + 1) _ later⟩

theorem admissible_of_writeMembers : (members : List (Text × Json)) → (frame : ValueFrame) → (first : Bool) →
    (nodes : Nat) → {written : Text × Nat} → writeMembers limits members frame first nodes = .ok written →
      ∀ member ∈ members, admissible member.2 = true
  | [], _, _, _, _, _ => forall_mem_nil _
  | (key, value) :: rest, frame, first, nodes, _, wrote => by
    rw [writeMembers] at wrote
    simp only [bind_eq_ok] at wrote
    obtain ⟨_, head, _, later, _⟩ := wrote
    rw [forall_mem_cons]
    exact ⟨admissible_of_writeValue value _ _ head, admissible_of_writeMembers rest frame false _ later⟩

end

theorem admissible_of_canonicalJson {value : Json} {bytes : List Nat} (written : canonicalJson value limits = .ok bytes) :
    admissible value = true := by
  simp only [canonicalJson, canonicalJsonText, bind_eq_ok] at written
  obtain ⟨_, ⟨_, wrote, _⟩, _⟩ := written
  rw [← admissible_sortMembers]
  exact admissible_of_writeValue _ _ _ wrote

/-- Values that are sorted alike are written alike. -/
theorem canonicalJson_congr {first second : Json} (same : sortMembers first = sortMembers second) :
    canonicalJson first limits = canonicalJson second limits := by
  rw [canonicalJson, canonicalJson, canonicalJsonText, canonicalJsonText, same]

end Refusal

section Sorting

/-- Objects whose members have the same names and the same sorted values are sorted alike. -/
theorem sortMembers_obj_congr {left right : List (Text × Json)} (leftNames : (left.map Prod.fst).Nodup)
    (rightNames : (right.map Prod.fst).Nodup)
    (forward : ∀ member ∈ left, ∃ other ∈ right, other.1 = member.1 ∧ sortMembers other.2 = sortMembers member.2)
    (backward : ∀ member ∈ right, ∃ other ∈ left, other.1 = member.1 ∧ sortMembers other.2 = sortMembers member.2) :
    sortMembers (.obj left) = sortMembers (.obj right) := by
  let sorted : Text × Json → Text × Json := fun member => (member.1, sortMembers member.2)
  have names : ∀ members : List (Text × Json), (members.map sorted).map Prod.fst = members.map Prod.fst := by
    intro members
    rw [map_map]
    rfl
  have same : (left.map sorted).Perm (right.map sorted) := by
    refine (perm_ext_iff_of_nodup (List.Nodup.of_map Prod.fst (by rw [names]; exact leftNames))
      (List.Nodup.of_map Prod.fst (by rw [names]; exact rightNames))).mpr fun entry => ?_
    rw [mem_map, mem_map]
    constructor
    · rintro ⟨member, inside, rfl⟩
      obtain ⟨other, found, name, value⟩ := forward member inside
      exact ⟨other, found, Prod.ext name value⟩
    · rintro ⟨member, inside, rfl⟩
      obtain ⟨other, found, name, value⟩ := backward member inside
      exact ⟨other, found, Prod.ext name value⟩
  rw [sortMembers, sortMembers, sortMembersEntries_eq, sortMembersEntries_eq]
  refine congrArg Json.obj (sortBy_congr (fun first firstInside second secondInside equal => ?_) same)
  exact inj_on_of_nodup_map (by rw [names]; exact leftNames) firstInside secondInside equal

/-- An object is sorted as the fields that are looked up in it. -/
theorem sortMembers_of_lookups {members fields : List (Text × Json)} (names : (members.map Prod.fst).Nodup)
    (fieldNames : (fields.map Prod.fst).Nodup) (known : ∀ key ∈ members.map Prod.fst, key ∈ fields.map Prod.fst)
    (lookups : ∀ field ∈ fields, ∃ value, Dictionary.find field.1 members = some value ∧
      sortMembers value = sortMembers field.2) : sortMembers (.obj members) = sortMembers (.obj fields) := by
  refine sortMembers_obj_congr names fieldNames ?_ ?_
  · intro member inside
    obtain ⟨field, fieldInside, same⟩ := mem_map.mp (known member.1 (mem_map_of_mem inside))
    obtain ⟨value, found, sorted⟩ := lookups field fieldInside
    rw [same, Dictionary.find_of_mem names inside] at found
    refine ⟨field, fieldInside, same, ?_⟩
    rw [Option.some.inj found, sorted]
  · intro field inside
    obtain ⟨value, found, sorted⟩ := lookups field inside
    exact ⟨(field.1, value), Dictionary.mem_of_find found, rfl, sorted⟩

/-- An object whose names increase and whose values are sorted is sorted. -/
theorem sortMembers_of_increasing {members : List (Text × Json)} (increasing : Increasing id (members.map Prod.fst))
    (sorted : ∀ member ∈ members, sortMembers member.2 = member.2) : sortMembers (.obj members) = .obj members := by
  have same : (members.map fun member => (member.1, sortMembers member.2)) = members := by
    conv_rhs => rw [← map_id members]
    exact map_congr_left fun member inside => Prod.ext rfl (sorted member inside)
  have ordered : Increasing Prod.fst members := pairwise_map.mp increasing
  rw [sortMembers, sortMembersEntries_eq, same, sortBy_of_increasing ordered]

end Sorting

section Lines

/-- The bytes of a document and of the line feed after it. -/
def documentLine (value : Json) : List Nat :=
  (render value).utf8 ++ [0x0A]

/-- A line feed after a document is white space. -/
theorem read_render_line {value : Json} (passed : admissible value = true) :
    JsonSyntax.read (render value ++ [0x0A]) = some value.tree := by
  have plain := @skipSpace_render [0x0A] value passed
  have ends : Separated [0x0A] := separated_of_head (by decide)
  have read := @readValue_render value [0x0A] (2 * (render value ++ [0x0A]).length + 1) passed ends (by rw [length_append]; omega)
  rw [JsonSyntax.read, plain, read]
  rfl

theorem decodeUtf8_documentLine {value : Json} (passed : admissible value = true) :
    decodeUtf8 (documentLine value) = some (render value ++ [0x0A]) := by
  have scalar : Text.scalar (render value ++ [0x0A]) = true := by
    rw [Text.scalar, all_append, Bool.and_eq_true]
    exact ⟨scalar_render value passed, by decide⟩
  have bytes : documentLine value = Text.utf8 (render value ++ [0x0A]) := by
    rw [documentLine, Text.utf8, Text.utf8, flatMap_append]
    rfl
  rw [bytes, decodeUtf8_utf8 scalar]

variable [Interpreter] {value : Json} {maxBytes : Nat} {limits : JsonResourceLimits}

/-- The limited loader reads the line of a small value back. -/
theorem loadLimitedJson_line (exact : value.Exact) (passed : admissible value = true) (distinct : value.distinct)
    (fits : (documentLine value).length ≤ maxBytes) (shallow : nesting value.tree ≤ Interpreter.jsonRecursionLimit)
    (small : limits.Admit value.tree) : loadLimitedJson (documentLine value) maxBytes limits = .ok value := by
  have decoded := decodeUtf8_documentLine passed
  have syntactic : preflight limits (documentLine value) = .ok () := by
    rw [preflight, decoded, Option.bind_some, read_render_line passed]
    exact raiseIf_eq_ok.mpr (not_not.mpr small)
  have bounded : raiseIf (maxBytes < (documentLine value).length)
      (PyError.strictJsonError (ascii "strict JSON input exceeds its byte bound")) = .ok () :=
    raiseIf_eq_ok.mpr (not_lt.mpr fits)
  rw [loadLimitedJson, bounded, ok_bind_eq, syntactic, ok_bind_eq, loadStrictJson, bounded, ok_bind_eq, decoded,
    Option.bind_some, read_render_line passed]
  dsimp only
  rw [if_neg (not_lt.mpr shallow), loadTree_tree value passed distinct, exact.loaded]

/-- A loaded object repeats no name. -/
theorem loadLimitedJson_distinct {body : List Nat} (loaded : loadLimitedJson body maxBytes limits = .ok value) :
    value.distinct := by
  simp only [loadLimitedJson, loadStrictJson, bind_eq_ok, exists_unit_iff] at loaded
  obtain ⟨_, _, _, found⟩ := loaded
  split at found
  · cases found
  · split at found
    · cases found
    · split at found
      · cases found
      · next tree _ _ _ loadedTree =>
          cases found
          exact distinct_loadTree _ _ loadedTree

end Lines

mutual

/-- A bound of the number of bytes of the text of a value. -/
def byteBound : Json → Nat
  | .null => 4
  | .bool _ => 5
  | .str value => 6 * value.length + 2
  | .int value => (decimalInt value).utf8.length
  | .float value => (renderFloat value).utf8.length
  | .arr items => byteBoundItems items + 2
  | .obj members => byteBoundMembers members + 2

/-- A bound for the items of an array. -/
def byteBoundItems : List Json → Nat
  | [] => 0
  | item :: rest => byteBound item + 1 + byteBoundItems rest

/-- A bound for the members of an object. -/
def byteBoundMembers : List (Text × Json) → Nat
  | [] => 0
  | (key, value) :: rest => 6 * key.length + byteBound value + 4 + byteBoundMembers rest

end

section Bounds

/-- A character takes six bytes in a string at most. -/
theorem length_escapePoint_le (point : CodePoint) : (escapePoint point).utf8.length ≤ 6 := by
  have control : ∀ number, number < 0x20 → (Text.utf8 (ascii "\\u" ++ Sha256.hexadecimal 4 number [])).length ≤ 6 := by
    decide
  have itself : (Text.utf8 [point]).length ≤ 6 := by
    have bytes : Text.utf8 [point] = point.utf8 := append_nil _
    rw [bytes, length_utf8_point]
    split_ifs <;> omega
  unfold escapePoint
  split_ifs with quote backslash newline carriage tab feed back low
  · decide
  · decide
  · decide
  · decide
  · decide
  · decide
  · decide
  · exact control point.val low
  · exact itself

theorem length_jsonString_le (value : Text) : (jsonString value).utf8.length ≤ 6 * value.length + 2 := by
  have inside : (Text.utf8 (value.flatMap escapePoint)).length ≤ 6 * value.length := by
    induction value with
    | nil => exact le_rfl
    | cons point rest ih =>
      have first := length_escapePoint_le point
      rw [flatMap_cons, utf8_append, length_append, length_cons]
      omega
  have marks : (ascii "\"").utf8.length = 1 := by decide
  rw [jsonString, utf8_append, utf8_append, length_append, length_append, marks]
  omega

mutual

/-- The text of a value takes no more bytes than its bound. -/
theorem length_render_le : (value : Json) → (render value).utf8.length ≤ byteBound value
  | .null => by decide
  | .bool value => by cases value <;> decide
  | .str value => by
    rw [render, byteBound]
    exact length_jsonString_le value
  | .int value => by rw [render, byteBound]
  | .float value => by rw [render, byteBound]
  | .arr items => by
    have marks : (ascii "[").utf8.length = 1 ∧ (ascii "]").utf8.length = 1 := by decide
    have inside := length_renderItems_le items true
    rw [render, byteBound, utf8_append, utf8_append, length_append, length_append, marks.1, marks.2]
    omega
  | .obj members => by
    have marks : (ascii "\x7b").utf8.length = 1 ∧ (ascii "\x7d").utf8.length = 1 := by decide
    have inside := length_renderMembers_le members true
    rw [render, byteBound, utf8_append, utf8_append, length_append, length_append, marks.1, marks.2]
    omega

theorem length_renderItems_le : (items : List Json) → (first : Bool) →
    (renderItems items first).utf8.length ≤ byteBoundItems items
  | [], first => by
    rw [renderItems]
    exact Nat.zero_le _
  | item :: rest, first => by
    have head := length_render_le item
    have later := length_renderItems_le rest false
    have comma : (Text.utf8 (if first then [] else ascii ",")).length ≤ 1 := by cases first <;> decide
    rw [renderItems, byteBoundItems, utf8_append, utf8_append, length_append, length_append]
    omega

theorem length_renderMembers_le : (members : List (Text × Json)) → (first : Bool) →
    (renderMembers members first).utf8.length ≤ byteBoundMembers members
  | [], first => by
    rw [renderMembers]
    exact Nat.zero_le _
  | (key, value) :: rest, first => by
    have name := length_jsonString_le key
    have head := length_render_le value
    have later := length_renderMembers_le rest false
    have comma : (Text.utf8 (if first then [] else ascii ",")).length ≤ 1 := by cases first <;> decide
    have colon : (ascii ":").utf8.length = 1 := by decide
    rw [renderMembers, byteBoundMembers, utf8_append, utf8_append, utf8_append, utf8_append,
      length_append, length_append, length_append, length_append, colon]
    omega

end

/-- Members with bounded names and values are bounded. -/
theorem byteBoundMembers_le {members : List (Text × Json)} {name size : Nat}
    (each : ∀ member ∈ members, member.1.length ≤ name ∧ byteBound member.2 ≤ size) :
    byteBoundMembers members ≤ members.length * (6 * name + size + 4) := by
  induction members with
  | nil => exact Nat.zero_le _
  | cons member rest ih =>
    rw [forall_mem_cons] at each
    have later := ih each.2
    rw [byteBoundMembers, length_cons, Nat.add_mul, Nat.one_mul]
    omega

end Bounds

end CiCoordinator.Kernel

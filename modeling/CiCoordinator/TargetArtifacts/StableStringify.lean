import CiCoordinator.TargetArtifacts.EcmaScript
import CiCoordinator.Kernel.CanonicalCodec
import CiCoordinator.Kernel.LimitedJson
import CiCoordinator.Library.Selection

/- The target's canonical notation and the proof that it agrees with the coordinator's. -/

namespace CiCoordinator.TargetArtifacts

open Library Kernel JsValue Json List

/-- The sign of the result orders two strings by their code points. -/
def compareUnicodeCodePoints : Text → Text → Int
  | left :: leftRest, right :: rightRest =>
    if left.val ≠ right.val then (left.val : Int) - right.val else compareUnicodeCodePoints leftRest rightRest
  | left, right => (left.length : Int) - right.length

/-- `Array.prototype.sort` is stable and puts a smaller entry first. -/
def sortEntries {A : Type} (entries : List (Text × A)) : List (Text × A) :=
  entries.insertionSort fun left right => compareUnicodeCodePoints left.1 right.1 ≤ 0

/-- `JSON.stringify` of a value that is not an object. -/
def stringifyPrimitive : JsValue → Text
  | .bool value => if value then ascii "true" else ascii "false"
  | .number value => stringifyNumber value
  | .str value => quoteJsonString value
  | _ => ascii "null"

/-- The canonical notation, on a call stack with room for a number of nested calls. -/
def stableStringify : Nat → JsValue → Except ScriptError Text
  | 0, _ => .error .rangeError
  | room + 1, .arr items => do
    let written ← collect (stableStringify room) items
    return ascii "[" ++ List.intercalate (ascii ",") written ++ ascii "]"
  | room + 1, .obj properties => do
    let written ← collect (fun entry => do
      let text ← stableStringify room entry.2
      return quoteJsonString entry.1 ++ ascii ":" ++ text) (sortEntries (objectEntries properties))
    return ascii "\x7b" ++ List.intercalate (ascii ",") written ++ ascii "\x7d"
  | _ + 1, value => .ok (stringifyPrimitive value)

section Order

/-- The comparison orders strings like the coordinator. -/
theorem compareUnicodeCodePoints_pos (left right : Text) : 0 < compareUnicodeCodePoints left right ↔ right < left := by
  induction left generalizing right with
  | nil =>
    cases right with
    | nil => simp [compareUnicodeCodePoints]
    | cons point rest =>
      refine iff_of_false ?_ (not_lt_nil _)
      rw [compareUnicodeCodePoints, length_nil, length_cons]
      · omega
      · simp
  | cons point rest ih =>
    cases right with
    | nil =>
      refine iff_of_true ?_ (nil_lt_cons _ _)
      rw [compareUnicodeCodePoints, length_nil, length_cons]
      · omega
      · simp
    | cons other others =>
      rw [compareUnicodeCodePoints, cons_lt_cons_iff]
      by_cases same : point = other
      · subst same
        rw [if_neg (not_not.mpr rfl), ih]
        simp
      · have apart : point.val ≠ other.val := fun equal => same (Fin.ext equal)
        rw [if_pos apart, Fin.lt_def]
        have apart' : other ≠ point := Ne.symm same
        simp only [apart', false_and, or_false]
        omega

theorem sortEntries_eq {A : Type} (entries : List (Text × A)) : sortEntries entries = sortBy Prod.fst entries := by
  have relation : (fun left right : Text × A => compareUnicodeCodePoints left.1 right.1 ≤ 0) =
      fun left right => left.1 ≤ right.1 := by
    funext left right
    rw [← not_lt, compareUnicodeCodePoints_pos, not_lt]
  rw [sortEntries, sortBy]
  congr

/-- Entries that are ordered by name keep their order, whatever order an object enumerates them in. -/
theorem sortEntries_objectEntries {A : Type} {entries : List (Text × A)} (ordered : Increasing Prod.fst entries) :
    sortEntries (objectEntries entries) = entries := by
  have same := objectEntries_perm entries
  have distinct : ((objectEntries entries).map Prod.fst).Nodup := (same.map Prod.fst).nodup_iff.mpr ordered.nodup_map
  rw [sortEntries_eq, (sortBy_eq_iff_perm distinct ordered.nodup_map).mpr same, sortBy_of_increasing ordered]

end Order

section Numbers

/-- An integer is written as the coordinator writes it. -/
theorem stringify_integerLiteral {value : Int} (safe : value.natAbs ≤ maxSafeJsonInteger) :
    stringifyNumber (integerLiteral value).toFloat64 = decimalInt value := by
  have small : value.natAbs < 2 ^ 53 := lt_of_le_of_lt safe (by decide)
  obtain ⟨number, rounded, sign, numerator⟩ := Float64.round_natural (decide (value < 0)) small
  have read : (integerLiteral value).toFloat64 = .finite number := by
    have digits : (integerLiteral value).digits = value.natAbs := by
      rw [NumberLiteral.digits, integerLiteral, Option.getD_none, append_nil, readDigits_decimal]
    have power : (integerLiteral value).power = 0 := rfl
    rw [NumberLiteral.toFloat64, digits, power, Float64.roundDecimal_whole le_rfl, Int.toNat_zero, Nat.pow_zero, Nat.mul_one]
    exact rounded
  have bounded : safeFloat (.finite number) = true := by
    rw [safeFloat, decide_eq_true_eq, numerator]
    exact Nat.mul_le_mul_right _ safe
  have same : number.value = value := by
    have some : (number.denominator : ℚ) ≠ 0 := by exact_mod_cast number.denominator_pos.ne'
    rw [ratio_value, sign, numerator, Nat.cast_mul, mul_div_cancel_right₀ _ some]
    by_cases negative : value < 0
    · rw [decide_eq_true negative, if_pos rfl]
      have magnitude : (value : ℚ) = -(value.natAbs : ℚ) := by
        have absolute : value = -(value.natAbs : Int) := by omega
        exact_mod_cast absolute
      exact magnitude.symm
    · rw [decide_eq_false negative, if_neg Bool.false_ne_true]
      have magnitude : (value.natAbs : Int) = value := by omega
      rw [← Int.cast_natCast, magnitude]
  have text := render_loadedFloat bounded
  rw [loadedFloat_of_integer bounded same, render, renderFloat_literal] at text
  rw [read, stringifyNumber, Float64.isFinite, if_pos rfl, numberToString, ← text]

/-- A safe float is written as the coordinator writes it. -/
theorem stringify_numberLiteral {number : FiniteFloat} (safe : safeFloat (.finite number) = true) :
    stringifyNumber (numberLiteral number).toFloat64 = renderFloat (.finite number) := by
  rcases loadedFloat_cases number with ⟨value, loaded⟩ | ⟨loaded, nonzero⟩
  · have bounded := admissible_loadedFloat safe
    rw [loaded, admissible_int, decide_eq_true_eq] at bounded
    rw [numberLiteral_integer safe loaded, stringify_integerLiteral bounded, ← render_loadedFloat safe, loaded, render]
  · have mixed : number.shortestDecimal.2 < 0 := by
      by_contra whole
      rw [loadedFloat, if_neg nonzero, if_pos (not_lt.mp whole)] at loaded
      cases loaded
    rw [(numberLiteral_fraction (safe_of_safeFloat safe) nonzero mixed).1, stringifyNumber, Float64.isFinite, if_pos rfl,
      numberToString, renderFloat_literal]

end Numbers

section Containers

/-- Members with their own names become properties in the same order. -/
theorem ofMembers_tree {members : List (Text × Json)} {properties : List (Text × JsValue)}
    (distinct : (properties.map Prod.fst ++ members.map Prod.fst).Nodup) :
    ofMembers (treeMembers members) properties = properties ++ members.map fun member => (member.1, ofTree member.2.tree) := by
  induction members generalizing properties with
  | nil => rw [treeMembers, ofMembers, map_nil, append_nil]
  | cons member rest ih =>
    obtain ⟨key, value⟩ := member
    have fresh : key ∉ properties.map Prod.fst := by
      intro taken
      exact (nodup_append.mp distinct).2.2 key taken key mem_cons_self rfl
    rw [treeMembers, ofMembers, Dictionary.assign_of_fresh fresh, ih, append_assoc]
    · rfl
    · rwa [map_append, append_assoc]

/-- Joined items are the items that the writer separates by commas. -/
theorem intercalate_items (items : List Json) : List.intercalate (ascii ",") (items.map render) = renderItems items true := by
  induction items with
  | nil => rw [map_nil, intercalate_nil, renderItems]
  | cons item rest ih =>
    cases rest with
    | nil => rw [map_cons, map_nil, intercalate_singleton, renderItems, if_pos rfl, renderItems, nil_append,
        append_nil]
    | cons next others =>
      rw [renderItems, if_pos rfl, nil_append] at ih
      rw [map_cons, map_cons, intercalate_cons_cons, ← map_cons, ih, renderItems, if_pos rfl,
        nil_append, renderItems, if_neg Bool.false_ne_true]
      simp only [append_assoc]

/-- Joined properties are the members that the writer separates by commas. -/
theorem intercalate_members (members : List (Text × Json)) :
    List.intercalate (ascii ",") (members.map fun member => jsonString member.1 ++ ascii ":" ++ render member.2) =
      renderMembers members true := by
  induction members with
  | nil => rw [map_nil, intercalate_nil, renderMembers]
  | cons member rest ih =>
    obtain ⟨key, value⟩ := member
    cases rest with
    | nil => rw [map_cons, map_nil, intercalate_singleton, renderMembers, if_pos rfl, renderMembers,
        nil_append, append_nil]
    | cons next others =>
      obtain ⟨nextKey, nextValue⟩ := next
      rw [map_cons, renderMembers, if_pos rfl, nil_append] at ih
      rw [map_cons, map_cons, intercalate_cons_cons, ih, renderMembers, if_pos rfl,
        nil_append, renderMembers, if_neg Bool.false_ne_true]
      simp only [append_assoc]

end Containers

section Depth

theorem depthItems_lt_iff {items : List Json} {room : Nat} :
    depthItems (treeItems items) < room + 1 ↔ ∀ item ∈ items, valueDepth item.tree < room := by
  induction items with
  | nil => simp [treeItems, depthItems]
  | cons item rest ih => rw [treeItems, depthItems, max_lt_iff, ih, Nat.add_lt_add_iff_right, forall_mem_cons]

theorem depthMembers_lt_iff {members : List (Text × Json)} {room : Nat} :
    depthMembers (treeMembers members) < room + 1 ↔ ∀ member ∈ members, valueDepth member.2.tree < room := by
  induction members with
  | nil => simp [treeMembers, depthMembers]
  | cons member rest ih => rw [treeMembers, depthMembers, max_lt_iff, ih, Nat.add_lt_add_iff_right, forall_mem_cons]

/-- Ordering the members keeps the depth. -/
theorem depth_sortMembers (value : Json) : valueDepth (sortMembers value).tree = valueDepth value.tree := by
  induction value with
  | arr items ih =>
    rw [sortMembers, sortMembersItems_eq, Json.tree, Json.tree, valueDepth, valueDepth]
    refine eq_of_forall_gt_iff fun room => ?_
    cases room with
    | zero => simp
    | succ room =>
      rw [depthItems_lt_iff, depthItems_lt_iff, forall_mem_map]
      exact forall₂_congr fun item member => by rw [ih item member]
  | obj members ih =>
    rw [sortMembers, sortMembersEntries_eq, Json.tree, Json.tree, valueDepth, valueDepth]
    refine eq_of_forall_gt_iff fun room => ?_
    cases room with
    | zero => simp
    | succ room =>
      rw [depthMembers_lt_iff, depthMembers_lt_iff]
      simp only [mem_sortBy, forall_mem_map]
      exact forall₂_congr fun member listed => by rw [ih member listed]
  | _ => rw [sortMembers]

end Depth

section Agreement

variable {room : Nat}

theorem stableStringify_primitive {value : JsValue} {text : Text}
    (primitive : stableStringify (room + 1) value = .ok (stringifyPrimitive value)) (same : stringifyPrimitive value = text) :
    stableStringify (room + 1) value = if 0 < room + 1 then .ok text else .error .rangeError := by
  rw [primitive, same, if_pos (Nat.succ_pos room)]

/-- An array is written as the coordinator writes it when its items are. -/
theorem stableStringify_items {items : List Json} (each : ∀ item ∈ items,
      stableStringify room (ofTree item.tree) = if valueDepth item.tree < room then .ok (render item) else .error .rangeError) :
    stableStringify (room + 1) (ofTree (Json.arr items).tree) =
      if valueDepth (Json.arr items).tree < room + 1 then .ok (render (.arr items)) else .error .rangeError := by
  have parsed : ofItems (treeItems items) = items.map fun item => ofTree item.tree := by
    clear each
    induction items with
    | nil => rw [treeItems, ofItems, map_nil]
    | cons item rest ih => rw [treeItems, ofItems, ih, map_cons]
  rw [Json.tree, ofTree, parsed, valueDepth, stableStringify, collect_map, collect_ite each]
  simp only [depthItems_lt_iff]
  split_ifs
  · rw [ok_bind_eq, intercalate_items, render]
    rfl
  · rfl

/-- An object with ordered members is written as the coordinator writes it when its values are. -/
theorem stableStringify_members {members : List (Text × Json)} (ordered : Increasing Prod.fst members)
    (scalar : ∀ member ∈ members, member.1.scalar = true) (each : ∀ member ∈ members,
      stableStringify room (ofTree member.2.tree) =
        if valueDepth member.2.tree < room then .ok (render member.2) else .error .rangeError) :
    stableStringify (room + 1) (ofTree (Json.obj members).tree) =
      if valueDepth (Json.obj members).tree < room + 1 then .ok (render (.obj members)) else .error .rangeError := by
  have parsed : ofMembers (treeMembers members) [] = members.map fun member => (member.1, ofTree member.2.tree) := by
    rw [ofMembers_tree, nil_append]
    exact ordered.nodup_map
  have listed : sortEntries (objectEntries (members.map fun member => (member.1, ofTree member.2.tree))) =
      members.map fun member => (member.1, ofTree member.2.tree) :=
    sortEntries_objectEntries (Increasing.map_iff.mpr ordered)
  have entries : ∀ member ∈ members, (do
        let text ← stableStringify room (ofTree member.2.tree)
        return quoteJsonString member.1 ++ ascii ":" ++ text) =
      if valueDepth member.2.tree < room then .ok (jsonString member.1 ++ ascii ":" ++ render member.2)
      else .error .rangeError := by
    intro member inside
    rw [each member inside, quoteJsonString_scalar (scalar member inside)]
    split_ifs <;> rfl
  rw [Json.tree, ofTree, parsed, valueDepth, stableStringify, listed, collect_map, collect_ite entries]
  simp only [depthMembers_lt_iff]
  split_ifs
  · rw [ok_bind_eq, intercalate_members, render]
    rfl
  · rfl

/-- The parsed text of a value is written as the text when the call stack has room for the deepest value inside it. -/
theorem stableStringify_tree (value : Json) (passed : admissible value = true) (distinct : value.distinct) (room : Nat) :
    stableStringify room (ofTree (sortMembers value).tree) =
      if valueDepth (sortMembers value).tree < room then .ok (render (sortMembers value)) else .error .rangeError := by
  induction value generalizing room with
  | null =>
    rw [sortMembers, Json.tree, ofTree, render]
    cases room with
    | zero => rfl
    | succ room => exact stableStringify_primitive rfl rfl
  | bool value =>
    rw [sortMembers, Json.tree, ofTree, render]
    cases room with
    | zero => rfl
    | succ room => exact stableStringify_primitive rfl rfl
  | int value =>
    rw [admissible_int, decide_eq_true_eq] at passed
    rw [sortMembers, Json.tree, ofTree, render]
    cases room with
    | zero => rfl
    | succ room => exact stableStringify_primitive rfl (stringify_integerLiteral passed)
  | float value =>
    rw [admissible_float] at passed
    obtain ⟨number, rfl⟩ := safeFloat_finite passed
    rw [sortMembers, Json.tree, floatTree, ofTree, render]
    cases room with
    | zero => rfl
    | succ room => exact stableStringify_primitive rfl (stringify_numberLiteral passed)
  | str value =>
    rw [admissible_str] at passed
    rw [sortMembers, Json.tree, ofTree, render]
    cases room with
    | zero => rfl
    | succ room => exact stableStringify_primitive rfl (quoteJsonString_scalar passed)
  | arr items ih =>
    rw [admissible_arr_iff] at passed
    rw [Json.distinct, distinctItems_iff] at distinct
    rw [sortMembers, sortMembersItems_eq]
    cases room with
    | zero => rfl
    | succ room =>
      apply stableStringify_items
      rw [forall_mem_map]
      exact fun item member => ih item member (passed item member) (distinct item member) room
  | obj members ih =>
    rw [Json.distinct, distinctMembers_iff] at distinct
    have inside := admissible_obj_iff.mp passed
    have names : ((sortMembersEntries members).map Prod.fst).Nodup := by
      rw [sortMembersEntries_eq, map_map]
      exact distinct.1
    have ordered : Increasing Prod.fst (sortBy Prod.fst (sortMembersEntries members)) :=
      sortBy_increasing (List.Nodup.of_map _ names) fun _ first _ second equal =>
        inj_on_of_nodup_map names first second equal
    have origin : ∀ member ∈ sortBy Prod.fst (sortMembersEntries members), ∃ source ∈ members,
        member = (source.1, sortMembers source.2) := by
      intro member listed
      rw [mem_sortBy, sortMembersEntries_eq] at listed
      obtain ⟨source, known, equal⟩ := mem_map.mp listed
      exact ⟨source, known, equal.symm⟩
    rw [sortMembers]
    cases room with
    | zero => rfl
    | succ room =>
      refine stableStringify_members ordered ?_ ?_
      · intro member listed
        obtain ⟨source, known, rfl⟩ := origin member listed
        have scalar := inside source known
        rw [Bool.and_eq_true] at scalar
        exact scalar.1
      · intro member listed
        obtain ⟨source, known, rfl⟩ := origin member listed
        have scalar := inside source known
        rw [Bool.and_eq_true] at scalar
        exact ih source known scalar.2 (distinct.2 source known) room

variable {value : Json} {body : List Nat}

/-- The target writes what it parses from canonical bytes as the same bytes, exactly when its call stack has room for the
deepest value inside. -/
theorem stableStringify_canonicalJson (distinct : value.distinct) (written : canonicalJson value none = .ok body) :
    ∃ text parsed, Text.decodeUtf8 body = some text ∧ jsonParse text = some parsed ∧ text.utf8 = body ∧
      ∀ room, stableStringify room parsed = if valueDepth value.tree < room then .ok text else .error .rangeError := by
  obtain ⟨passed, rfl⟩ := canonicalJson_eq_ok.mp written
  have sorted : admissible (sortMembers value) = true := by rwa [admissible_sortMembers]
  refine ⟨render (sortMembers value), ofTree (sortMembers value).tree, Text.decodeUtf8_utf8 (scalar_render _ sorted), ?_,
    rfl, fun room => ?_⟩
  · rw [jsonParse, read_render sorted, Option.map_some]
  · rw [stableStringify_tree value passed distinct, depth_sortMembers]

end Agreement

namespace Sample

/-- Two array indices, two names that code units and code points order differently, and an object inside an array. -/
def document : Json :=
  .obj [([0x1F600], .null), (ascii "9", .float (.finite Kernel.Sample.minusHalf)), ([0xFF5E], .str (ascii "\n")),
    (ascii "10", .arr [.int 7, .obj []])]

def documentText : Text :=
  ascii "\x7b\"10\":[7,\x7b\x7d],\"9\":-0.5,\"" ++ [0xFF5E] ++ ascii "\":\"\\n\",\"" ++ [0x1F600] ++ ascii "\":null\x7d"

theorem document_distinct : document.distinct := by
  have names : [[(0x1F600 : CodePoint)], ascii "9", [0xFF5E], ascii "10"].Nodup := by decide
  refine ⟨names, ?_⟩
  simp [distinctMembers, Json.distinct, distinctItems]

theorem document_written : canonicalJson document none = .ok documentText.utf8 := by
  rfl

end Sample

theorem stableStringify_canonicalJson_document : ∃ text parsed, Text.decodeUtf8 Sample.documentText.utf8 = some text ∧
    jsonParse text = some parsed ∧ text.utf8 = Sample.documentText.utf8 ∧
      ∀ room, stableStringify room parsed = if 2 < room then .ok text else .error .rangeError :=
  stableStringify_canonicalJson Sample.document_distinct Sample.document_written

/-- Whatever room the call stack has, the canonical text of some accepted value overflows it. -/
theorem stableStringify_nestedArrays : ¬ ∃ room, ∀ value body, value.distinct → canonicalJson value none = .ok body →
    ∃ text parsed, Text.decodeUtf8 body = some text ∧ jsonParse text = some parsed ∧
      stableStringify room parsed = .ok text := by
  rintro ⟨room, always⟩
  have deep : ∀ count, valueDepth (nestedArrays count).tree = count := by
    intro count
    induction count with
    | zero => rfl
    | succ count ih => rw [nestedArrays, Json.tree, treeItems, treeItems, valueDepth, depthItems, ih, depthItems, Nat.max_zero]
  have written := canonicalJson_eq_ok.mpr ⟨admissible_nestedArrays room, rfl⟩
  obtain ⟨text, parsed, decoded, read, stringified⟩ := always _ _ (distinct_nestedArrays room) written
  obtain ⟨other, value, same, reread, -, limited⟩ := stableStringify_canonicalJson (distinct_nestedArrays room) written
  rw [same, Option.some.injEq] at decoded
  subst decoded
  rw [reread, Option.some.injEq] at read
  subst read
  rw [limited, deep, if_neg (lt_irrefl room)] at stringified
  cases stringified

end CiCoordinator.TargetArtifacts

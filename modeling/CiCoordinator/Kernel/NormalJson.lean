import CiCoordinator.Kernel.CanonicalReading

/- The equality of JSON values by their numbers and members, and the normal value that decides it. -/

namespace CiCoordinator.Kernel

open Library Json List

mutual

/-- Values agree when they differ in the kinds of numbers, the sign of zero and the order of members only. -/
def Json.agrees : Json → Json → Bool
  | .null, .null => true
  | .bool left, .bool right => left = right
  | .str left, .str right => left = right
  | .int left, .int right => left = right
  | .int left, .float right => equalsInteger right left
  | .float left, .int right => equalsInteger left right
  | .float left, .float right => left.numericEq right
  | .arr left, .arr right => agreesItems left right
  | .obj left, .obj right => left.length = right.length && agreesMembers left right
  | _, _ => false

/-- Items agree one by one. -/
def Json.agreesItems : List Json → List Json → Bool
  | [], [] => true
  | left :: leftRest, right :: rightRest => left.agrees right && agreesItems leftRest rightRest
  | _, _ => false

/-- Every member agrees with one under its name. -/
def Json.agreesMembers : List (Text × Json) → List (Text × Json) → Bool
  | [], _ => true
  | (key, value) :: rest, members =>
    (match Dictionary.find key members with
      | none => false
      | some other => value.agrees other) && agreesMembers rest members

end

theorem Json.agreesMembers_iff {left right : List (Text × Json)} : agreesMembers left right = true ↔
      ∀ pair ∈ left, ∃ other, Dictionary.find pair.1 right = some other ∧ pair.2.agrees other = true := by
  induction left with
  | nil => simp [agreesMembers]
  | cons pair rest ih =>
    rw [agreesMembers, Bool.and_eq_true, ih, forall_mem_cons]
    cases Dictionary.find pair.1 right <;> simp

mutual

/-- The nesting depth of the arrays and objects of a value. -/
def Json.nested : Json → Nat
  | .arr items => nestedItems items + 1
  | .obj members => nestedMembers members + 1
  | _ => 0

/-- The greatest nesting depth among items. -/
def Json.nestedItems : List Json → Nat
  | [] => 0
  | item :: rest => max item.nested (nestedItems rest)

/-- The greatest nesting depth among members. -/
def Json.nestedMembers : List (Text × Json) → Nat
  | [] => 0
  | (_, value) :: rest => max value.nested (nestedMembers rest)

end

/-- The value that is read from the canonical text of a value. -/
def Json.normal (value : Json) : Json :=
  (sortMembers value).loaded

section Normal

@[simp] theorem Json.normal_null : Json.null.normal = .null := by
  rw [Json.normal, sortMembers, Json.loaded]

@[simp] theorem Json.normal_bool (value : Bool) : (Json.bool value).normal = .bool value := by
  rw [Json.normal, sortMembers, Json.loaded]

@[simp] theorem Json.normal_int (value : Int) : (Json.int value).normal = .int value := by
  rw [Json.normal, sortMembers, Json.loaded]

@[simp] theorem Json.normal_str (value : Text) : (Json.str value).normal = .str value := by
  rw [Json.normal, sortMembers, Json.loaded]

@[simp] theorem Json.normal_float (value : Float64) : (Json.float value).normal = loadedFloat value := by
  rw [Json.normal, sortMembers, Json.loaded]

@[simp] theorem Json.normal_arr (items : List Json) : (Json.arr items).normal = .arr (items.map Json.normal) := by
  rw [Json.normal, sortMembers, Json.loaded, sortMembersItems_eq, loadedItems_eq, map_map]
  rfl

/-- The members of a normal value. -/
def normalMember (member : Text × Json) : Text × Json :=
  (member.1, member.2.normal)

variable (members : List (Text × Json))

@[simp] theorem Json.normal_obj : (Json.obj members).normal = .obj (sortBy Prod.fst (members.map normalMember)) := by
  have kept : ∀ member : Text × Json, (member.1, member.2.loaded).1 = member.1 := fun _ => rfl
  rw [Json.normal, sortMembers, Json.loaded, sortMembersEntries_eq, loadedMembers_eq, map_sortBy kept, map_map]
  rfl

theorem keys_normalMember : (members.map normalMember).map Prod.fst = members.map Prod.fst := by
  rw [map_map]
  rfl

end Normal

section Nesting

theorem Json.nestedItems_le_iff {items : List Json} {bound : Nat} :
    nestedItems items ≤ bound ↔ ∀ item ∈ items, item.nested ≤ bound := by
  induction items with
  | nil => simp [nestedItems]
  | cons item rest ih => rw [nestedItems, max_le_iff, ih, forall_mem_cons]

theorem Json.nestedMembers_le_iff {members : List (Text × Json)} {bound : Nat} :
    nestedMembers members ≤ bound ↔ ∀ member ∈ members, member.2.nested ≤ bound := by
  induction members with
  | nil => simp [nestedMembers]
  | cons member rest ih => rw [nestedMembers, max_le_iff, ih, forall_mem_cons]

mutual

/-- The tree of a value nests as deep as the value. -/
theorem nesting_tree : (value : Json) → nesting value.tree = value.nested
  | .null => by rw [Json.tree, nesting, Json.nested] <;> simp
  | .bool _ => by rw [Json.tree, nesting, Json.nested] <;> simp
  | .int _ => by rw [Json.tree, nesting, Json.nested] <;> simp
  | .float value => by cases value <;> rw [Json.tree, floatTree, nesting, Json.nested] <;> simp
  | .str _ => by rw [Json.tree, nesting, Json.nested] <;> simp
  | .arr items => by rw [Json.tree, nesting, Json.nested, nestingItems_tree items]
  | .obj members => by rw [Json.tree, nesting, Json.nested, nestingMembers_tree members]

theorem nestingItems_tree : (items : List Json) → nestingItems (treeItems items) = nestedItems items
  | [] => by rw [treeItems, nestingItems, nestedItems]
  | item :: rest => by rw [treeItems, nestingItems, nestedItems, nesting_tree item, nestingItems_tree rest]

theorem nestingMembers_tree : (members : List (Text × Json)) → nestingMembers (treeMembers members) = nestedMembers members
  | [] => by rw [treeMembers, nestingMembers, nestedMembers]
  | (key, value) :: rest => by
    rw [treeMembers, nestingMembers, nestedMembers, nesting_tree value, nestingMembers_tree rest]

end

/-- Ordering the members keeps the nesting depth. -/
theorem nested_sortMembers (value : Json) : (sortMembers value).nested = value.nested := by
  induction value with
  | arr items ih =>
    rw [sortMembers, sortMembersItems_eq, Json.nested, Json.nested]
    congr 1
    refine eq_of_forall_ge_iff fun bound => ?_
    rw [nestedItems_le_iff, nestedItems_le_iff, forall_mem_map]
    exact forall₂_congr fun item member => by rw [ih item member]
  | obj members ih =>
    rw [sortMembers, sortMembersEntries_eq, Json.nested, Json.nested]
    congr 1
    refine eq_of_forall_ge_iff fun bound => ?_
    rw [nestedMembers_le_iff, nestedMembers_le_iff]
    simp only [mem_sortBy, forall_mem_map]
    exact forall₂_congr fun member listed => by rw [ih member listed]
  | _ => rw [sortMembers]

end Nesting

section Preservation

theorem distinct_sortMembers (value : Json) (distinct : value.distinct) : (sortMembers value).distinct := by
  induction value with
  | arr items ih =>
    rw [Json.distinct, distinctItems_iff] at distinct
    rw [sortMembers, Json.distinct, sortMembersItems_eq, distinctItems_iff, forall_mem_map]
    exact fun item member => ih item member (distinct item member)
  | obj members ih =>
    rw [Json.distinct, distinctMembers_iff] at distinct
    have names : (sortMembersEntries members).map Prod.fst = members.map Prod.fst := by
      rw [sortMembersEntries_eq, map_map]
      rfl
    rw [sortMembers, Json.distinct, distinctMembers_iff]
    refine ⟨?_, fun pair sorted => ?_⟩
    · rw [((sortBy_perm Prod.fst _).map Prod.fst).nodup_iff, names]
      exact distinct.1
    · rw [mem_sortBy, sortMembersEntries_eq] at sorted
      obtain ⟨member, listed, rfl⟩ := mem_map.mp sorted
      exact ih member listed (distinct.2 member listed)
  | _ => rwa [sortMembers]

end Preservation

section Numbers

variable {first second : FiniteFloat}

theorem ratio_value (number : FiniteFloat) : number.value = if number.negative then -((number.numerator : ℚ) / number.denominator)
      else (number.numerator : ℚ) / number.denominator := by
  rw [FiniteFloat.value, Rat.mkRat_eq_div]
  cases number.negative with
  | true =>
    simp only [if_true]
    push_cast
    rw [neg_div]
  | false =>
    simp only [Bool.false_eq_true, if_false]
    push_cast
    rfl

/-- A safe float that is an integer is read as that integer. -/
theorem loadedFloat_of_integer {value : Int} (safe : safeFloat (.finite first) = true) (same : first.value = value) :
    loadedFloat (.finite first) = .int value := by
  have rational := rational_loadedFloat safe
  have integer : ∃ read, loadedFloat (.finite first) = .int read := by
    by_cases zero : first.significand = 0
    · exact ⟨0, by rw [loadedFloat, if_pos zero]⟩
    · have some : (first.denominator : ℚ) ≠ 0 := by exact_mod_cast first.denominator_pos.ne'
      have magnitude : first.numerator = value.natAbs * first.denominator := by
        have absolute : |first.value| = (first.numerator : ℚ) / first.denominator := by
          have nonneg : (0 : ℚ) ≤ (first.numerator : ℚ) / first.denominator := by positivity
          rw [ratio_value]
          split
          · rw [abs_neg, abs_of_nonneg nonneg]
          · exact abs_of_nonneg nonneg
        rw [same, ← Int.cast_abs, Int.abs_eq_natAbs, eq_div_iff some] at absolute
        exact_mod_cast absolute.symm
      have positive : 0 < value.natAbs := by
        refine Nat.pos_of_ne_zero fun none => zero (FiniteFloat.numerator_eq_zero.mp ?_)
        rw [magnitude, none, Nat.zero_mul]
      have small : value.natAbs < 2 ^ 53 := by
        have bound := safe_of_safeFloat safe
        rw [FiniteFloat.Safe, magnitude] at bound
        exact Nat.lt_of_mul_lt_mul_right bound
      have whole := FiniteFloat.shortestDecimal_whole positive small magnitude
      exact ⟨_, by rw [loadedFloat, if_neg zero, if_pos whole]⟩
  obtain ⟨read, loaded⟩ := integer
  rw [loaded, Json.rational, same, Option.some.injEq] at rational
  rw [loaded, Int.cast_injective rational]

/-- A float that is not zero is determined by its value. -/
theorem eq_of_value (nonzero : first.significand ≠ 0) (same : first.value = second.value) : first = second := by
  have some := first.denominator_pos
  have some' := second.denominator_pos
  have positive : 0 < (first.numerator : ℚ) / first.denominator := by
    have numerator : first.numerator ≠ 0 := fun zero => nonzero (FiniteFloat.numerator_eq_zero.mp zero)
    positivity
  have nonneg : 0 ≤ (second.numerator : ℚ) / second.denominator := by positivity
  rw [ratio_value, ratio_value] at same
  cases firstSign : first.negative <;> cases secondSign : second.negative <;>
    simp only [firstSign, secondSign, Bool.false_eq_true, if_true, if_false] at same
  · exact FiniteFloat.eq_of_ratio (firstSign.trans secondSign.symm) same
  · linarith
  · linarith
  · exact FiniteFloat.eq_of_ratio (firstSign.trans secondSign.symm) (neg_injective same)

/-- Safe floats are read as one value exactly when they have one value. -/
theorem loadedFloat_eq_iff (firstSafe : safeFloat (.finite first) = true) (secondSafe : safeFloat (.finite second) = true) :
    loadedFloat (.finite first) = loadedFloat (.finite second) ↔ first.value = second.value := by
  constructor
  · intro equal
    have rational := rational_loadedFloat firstSafe
    rw [equal, rational_loadedFloat secondSafe] at rational
    exact (Option.some.inj rational).symm
  · intro same
    rcases loadedFloat_cases first with ⟨value, loaded⟩ | ⟨loaded, nonzero⟩
    · have rational := rational_loadedFloat firstSafe
      rw [loaded, Json.rational, same, Option.some.injEq] at rational
      rw [loaded, loadedFloat_of_integer secondSafe rational.symm]
    · rw [eq_of_value nonzero same]

theorem loadedFloat_eq_int_iff {value : Int} (safe : safeFloat (.finite first) = true) :
    loadedFloat (.finite first) = .int value ↔ first.value = value := by
  refine ⟨fun loaded => ?_, loadedFloat_of_integer safe⟩
  have rational := rational_loadedFloat safe
  rw [loaded, Json.rational] at rational
  exact (Option.some.inj rational).symm

/-- A value that is read from a float is a number. -/
theorem loadedFloat_shape (number : FiniteFloat) : (loadedFloat (.finite number)).shape = .number := by
  rcases loadedFloat_cases number with ⟨value, loaded⟩ | ⟨loaded, _⟩ <;> rw [loaded, Json.shape]

theorem safeFloat_finite {value : Float64} (safe : safeFloat value = true) : ∃ number, value = .finite number := by
  cases value with
  | nan => cases safe
  | infinity negative => cases safe
  | finite number => exact ⟨number, rfl⟩

end Numbers

section Loaded

mutual

/-- A value that is read back has the text that it was read from. -/
theorem render_loaded : (value : Json) → admissible value = true → render value.loaded = render value
  | .null, _ => by rw [Json.loaded]
  | .bool _, _ => by rw [Json.loaded]
  | .int _, _ => by rw [Json.loaded]
  | .str _, _ => by rw [Json.loaded]
  | .float value, passed => by
    rw [admissible_float] at passed
    obtain ⟨number, rfl⟩ := safeFloat_finite passed
    rw [Json.loaded, render_loadedFloat passed, render]
  | .arr items, passed => by
    rw [Json.loaded, render, render, render_loadedItems items true (admissible_arr_iff.mp passed)]
  | .obj members, passed => by
    rw [Json.loaded, render, render, render_loadedMembers members true (admissible_obj_iff.mp passed)]

theorem render_loadedItems : (items : List Json) → (first : Bool) → (∀ item ∈ items, admissible item = true) →
    renderItems (loadedItems items) first = renderItems items first
  | [], _, _ => by rw [loadedItems]
  | item :: rest, first, passed => by
    rw [forall_mem_cons] at passed
    rw [loadedItems, renderItems, renderItems, render_loaded item passed.1, render_loadedItems rest false passed.2]

theorem render_loadedMembers : (members : List (Text × Json)) → (first : Bool) →
    (∀ member ∈ members, (member.1.scalar && admissible member.2) = true) →
    renderMembers (loadedMembers members) first = renderMembers members first
  | [], _, _ => by rw [loadedMembers]
  | (key, value) :: rest, first, passed => by
    rw [forall_mem_cons] at passed
    rw [Bool.and_eq_true] at passed
    rw [loadedMembers, renderMembers, renderMembers, render_loaded value passed.1.2, render_loadedMembers rest false passed.2]

end

variable (value : Json)

/-- A value that is read back is one that the writer does not refuse. -/
theorem admissible_loaded (passed : admissible value = true) : admissible value.loaded = true := by
  induction value with
  | float value =>
    rw [admissible_float] at passed
    obtain ⟨number, rfl⟩ := safeFloat_finite passed
    rw [Json.loaded]
    exact admissible_loadedFloat passed
  | arr items ih =>
    rw [admissible_arr_iff] at passed
    rw [Json.loaded, loadedItems_eq, admissible_arr_iff, forall_mem_map]
    exact fun item member => ih item member (passed item member)
  | obj members ih =>
    rw [admissible_obj_iff] at passed
    rw [Json.loaded, loadedMembers_eq, admissible_obj_iff, forall_mem_map]
    intro member listed
    have both := passed member listed
    rw [Bool.and_eq_true] at both ⊢
    exact ⟨both.1, ih member listed both.2⟩
  | _ => rwa [Json.loaded]

theorem distinct_loaded (distinct : value.distinct) : value.loaded.distinct := by
  induction value with
  | float value =>
    cases value with
    | finite number =>
      rcases loadedFloat_cases number with ⟨value, loaded⟩ | ⟨loaded, _⟩ <;> rw [Json.loaded, loaded, Json.distinct] <;> trivial
    | _ => rwa [Json.loaded]
  | arr items ih =>
    rw [Json.distinct, distinctItems_iff] at distinct
    rw [Json.loaded, Json.distinct, loadedItems_eq, distinctItems_iff, forall_mem_map]
    exact fun item member => ih item member (distinct item member)
  | obj members ih =>
    rw [Json.distinct, distinctMembers_iff] at distinct
    rw [Json.loaded, Json.distinct, loadedMembers_keys, loadedMembers_eq, distinctMembers_iff, forall_mem_map]
    exact ⟨distinct.1, fun member listed => ih member listed (distinct.2 member listed)⟩
  | _ => rwa [Json.loaded]

/-- A value that is read back is read back as itself. -/
theorem loaded_loaded : value.loaded.loaded = value.loaded := by
  induction value with
  | float value =>
    cases value with
    | finite number =>
      rcases loadedFloat_cases number with ⟨value, loaded⟩ | ⟨loaded, _⟩
      · rw [Json.loaded, loaded, Json.loaded]
      · rw [Json.loaded, loaded, Json.loaded, loaded]
    | _ => rw [Json.loaded, loadedFloat, Json.loaded, loadedFloat] <;> simp
  | arr items ih =>
    rw [Json.loaded, Json.loaded, loadedItems_eq, loadedItems_eq, map_map]
    exact congrArg Json.arr (map_congr_left ih)
  | obj members ih =>
    rw [Json.loaded, Json.loaded, loadedMembers_eq, loadedMembers_eq, map_map]
    exact congrArg Json.obj (map_congr_left fun member listed => Prod.ext rfl (ih member listed))
  | _ => rw [Json.loaded, Json.loaded]

/-- The members of a normal value are ordered. -/
theorem sortMembers_normal : sortMembers value.normal = value.normal := by
  induction value with
  | float value =>
    rw [normal_float]
    cases value with
    | finite number =>
      rcases loadedFloat_cases number with ⟨value, loaded⟩ | ⟨loaded, _⟩ <;> rw [loaded, sortMembers]
    | _ =>
      rw [loadedFloat, sortMembers]
      simp
  | arr items ih =>
    rw [normal_arr, sortMembers, sortMembersItems_eq, map_map]
    exact congrArg Json.arr (map_congr_left ih)
  | obj members ih =>
    have kept : ∀ member : Text × Json, (member.1, sortMembers member.2).1 = member.1 := fun _ => rfl
    rw [normal_obj, sortMembers, sortMembersEntries_eq, map_sortBy kept, sortBy_sortBy, map_map]
    exact congrArg (fun entries => Json.obj (sortBy Prod.fst entries))
      (map_congr_left fun member listed => Prod.ext rfl (ih member listed))
  | _ => simp [sortMembers]

end Loaded

section NormalValues

variable {value : Json}

theorem normal_normal : value.normal.normal = value.normal := by
  rw [Json.normal, sortMembers_normal, Json.normal, loaded_loaded]

theorem admissible_normal (passed : admissible value = true) : admissible value.normal = true :=
  admissible_loaded _ (by rwa [admissible_sortMembers])

theorem distinct_normal (distinct : value.distinct) : value.normal.distinct :=
  distinct_loaded _ (distinct_sortMembers value distinct)

/-- The canonical text of a value is the text of its normal value. -/
theorem render_normal (passed : admissible value = true) : render value.normal = render (sortMembers value) :=
  render_loaded _ (by rwa [admissible_sortMembers])

end NormalValues

end CiCoordinator.Kernel

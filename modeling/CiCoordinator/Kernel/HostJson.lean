import CiCoordinator.Kernel.StrictJson
import CiCoordinator.Library.Dictionary

/- Decoded JSON values as the host compares them and reads their members. -/

namespace CiCoordinator.Kernel

open Library Json List Option Dictionary

/-- The value of a member, or null when the member is absent. -/
def memberOrNull (members : List (Text × Json)) (key : Text) : Json :=
  (Dictionary.find key members).getD .null

mutual

/-- The objects inside a value do not repeat names. -/
def Json.distinct : Json → Prop
  | .arr items => Json.distinctItems items
  | .obj members => (members.map Prod.fst).Nodup ∧ distinctMembers members
  | .null => True
  | .bool _ => True
  | .int _ => True
  | .float _ => True
  | .str _ => True

/-- The objects inside the items do not repeat names. -/
def Json.distinctItems : List Json → Prop
  | [] => True
  | item :: rest => item.distinct ∧ Json.distinctItems rest

/-- The objects inside the members do not repeat names. -/
def Json.distinctMembers : List (Text × Json) → Prop
  | [] => True
  | (_, value) :: rest => value.distinct ∧ distinctMembers rest

end

/-- The lenient decoder of the host. Its objects are dictionaries, so no name repeats. -/
class JsonDecoder where
  loads : List Nat → Py Json
  loads_distinct : ∀ bytes value, loads bytes = .ok value → value.distinct

/-- The integer that a truth value or an integer stands for. -/
def Json.integer? : Json → Option Int
  | .bool value => some (if value then 1 else 0)
  | .int value => some value
  | _ => none

/-- A float equals an integer when its exact value does. -/
def equalsInteger (number : Float64) (value : Int) : Bool :=
  match number with
  | .finite finite => finite.value = value
  | _ => false

/-- Numbers are equal across their types. -/
def Json.sameNumber (left right : Json) : Bool :=
  match left.integer?, right.integer?, left, right with
  | some left, some right, _, _ => left = right
  | some left, none, _, .float right => equalsInteger right left
  | none, some right, .float left, _ => equalsInteger left right
  | none, none, .float left, .float right => left.numericEq right
  | _, _, _, _ => false

mutual

/-- Equality of decoded values: dictionaries ignore the order of their names. -/
def Json.same : Json → Json → Bool
  | .null, .null => true
  | .str left, .str right => left = right
  | .arr left, .arr right => sameItems left right
  | .obj left, .obj right => left.length = right.length && sameMembers left right
  | left, right => left.sameNumber right

/-- Equality of arrays. -/
def Json.sameItems : List Json → List Json → Bool
  | [], [] => true
  | left :: leftRest, right :: rightRest => left.same right && sameItems leftRest rightRest
  | _, _ => false

/-- Every member has an equal one under its name. -/
def Json.sameMembers : List (Text × Json) → List (Text × Json) → Bool
  | [], _ => true
  | (key, value) :: rest, members =>
    (match Dictionary.find key members with
      | none => false
      | some other => value.same other) && sameMembers rest members

end

theorem Json.sameMembers_iff {left right : List (Text × Json)} : sameMembers left right = true ↔
      ∀ pair ∈ left, ∃ other, Dictionary.find pair.1 right = some other ∧ pair.2.same other = true := by
  induction left with
  | nil => simp [sameMembers]
  | cons pair rest ih =>
    rw [sameMembers, Bool.and_eq_true, ih, forall_mem_cons]
    cases Dictionary.find pair.1 right <;> simp

theorem Json.distinctItems_iff {items : List Json} : distinctItems items ↔ ∀ item ∈ items, item.distinct := by
  induction items with
  | nil => simp [distinctItems]
  | cons item rest ih => rw [distinctItems, ih, forall_mem_cons]

theorem Json.distinctMembers_iff {members : List (Text × Json)} :
    distinctMembers members ↔ ∀ pair ∈ members, pair.2.distinct := by
  induction members with
  | nil => simp [distinctMembers]
  | cons pair rest ih => rw [distinctMembers, ih, forall_mem_cons]

/-- Equality of decoded values is symmetric. -/
theorem Json.same_symm (left right : Json) (leftDistinct : left.distinct) (rightDistinct : right.distinct)
    (equal : left.same right = true) : right.same left = true := by
  induction left generalizing right with
  | arr left ih =>
    cases right with
    | arr right =>
      simp only [Json.same] at equal leftDistinct rightDistinct ⊢
      induction left generalizing right with
      | nil => cases right <;> simp_all [sameItems]
      | cons item rest tail =>
        cases right with
        | nil => simp [sameItems] at equal
        | cons other others =>
          rw [forall_mem_cons] at ih
          simp only [sameItems, Bool.and_eq_true] at equal leftDistinct rightDistinct ⊢
          exact ⟨ih.1 other leftDistinct.1 rightDistinct.1 equal.1, tail ih.2 leftDistinct.2 others rightDistinct.2 equal.2⟩
    | _ => simp [Json.same, sameNumber, Json.integer?] at equal
  | obj left ih =>
    cases right with
    | obj right =>
      simp only [Json.same, Bool.and_eq_true, decide_eq_true_eq] at equal leftDistinct rightDistinct ⊢
      obtain ⟨length, members⟩ := equal
      obtain ⟨leftNames, leftValues⟩ := leftDistinct
      obtain ⟨rightNames, rightValues⟩ := rightDistinct
      rw [Json.sameMembers_iff] at members
      rw [distinctMembers_iff] at leftValues rightValues
      have contained : left.map Prod.fst ⊆ right.map Prod.fst := by
        intro key listed
        obtain ⟨pair, member, rfl⟩ := mem_map.mp listed
        obtain ⟨other, found, -⟩ := members pair member
        exact mem_map.mpr ⟨_, mem_of_find found, rfl⟩
      have covered : right.map Prod.fst ⊆ left.map Prod.fst := by
        apply List.Perm.subset
        apply List.Perm.symm
        apply (subperm_of_subset leftNames contained).perm_of_length_le
        simp [length]
      refine ⟨length.symm, Json.sameMembers_iff.mpr fun pair member => ?_⟩
      obtain ⟨source, sourceMember, sameKey⟩ := mem_map.mp (covered (mem_map_of_mem member))
      obtain ⟨other, found, equal⟩ := members source sourceMember
      rw [sameKey, find_of_mem rightNames member, some.injEq] at found
      subst found
      refine ⟨source.2, find_of_mem leftNames (sameKey ▸ sourceMember), ?_⟩
      exact ih source sourceMember pair.2 (leftValues source sourceMember) (rightValues pair member) equal
    | _ => simp [Json.same, sameNumber, Json.integer?] at equal
  | _ => cases right <;> simp_all [Json.same, sameNumber, Json.integer?, Float64.numericEq]

mutual

/-- Strictly loaded values do not repeat names. -/
theorem distinct_loadTree : (tree : JsonSyntax) → (value : Json) → loadTree tree = some value → value.distinct
  | .null, value, loaded => by
    rw [← Option.some.inj loaded, Json.distinct]
    trivial
  | .bool _, value, loaded => by
    rw [← Option.some.inj loaded, Json.distinct]
    trivial
  | .number literal, value, loaded => by
    rw [loadTree, loadNumber] at loaded
    split at loaded
    · split at loaded
      · cases loaded
      · rw [← Option.some.inj loaded, Json.distinct]
        trivial
    · obtain ⟨-, equal⟩ := ite_none_right_eq_some.mp loaded
      rw [← some.inj equal, Json.distinct]
      trivial
  | .str text, value, loaded => by
    obtain ⟨-, equal⟩ := ite_none_right_eq_some.mp loaded
    rw [← some.inj equal, Json.distinct]
    trivial
  | .arr items, value, loaded => by
    obtain ⟨values, found, rfl⟩ := map_eq_some_iff.mp loaded
    exact distinct_loadItems items values found
  | .obj members, value, loaded => by
    obtain ⟨values, found, rfl⟩ := map_eq_some_iff.mp loaded
    exact distinct_loadMembers members values found

theorem distinct_loadItems : (items : List JsonSyntax) → (values : List Json) → loadItems items = some values →
    Json.distinctItems values
  | [], values, loaded => by
    rw [← Option.some.inj loaded, Json.distinctItems]
    trivial
  | item :: rest, values, loaded => by
    rw [loadItems] at loaded
    split at loaded
    · rename_i value later found laterFound
      rw [← Option.some.inj loaded, Json.distinctItems]
      exact ⟨distinct_loadTree item value found, distinct_loadItems rest later laterFound⟩
    · cases loaded

theorem distinct_loadMembers : (members : List (Text × JsonSyntax)) → (values : List (Text × Json)) →
    loadMembers members = some values → (values.map Prod.fst).Nodup ∧ distinctMembers values
  | [], values, loaded => by
    rw [← Option.some.inj loaded, distinctMembers]
    exact ⟨nodup_nil, trivial⟩
  | (key, item) :: rest, values, loaded => by
    rw [loadMembers] at loaded
    split at loaded
    · rename_i value later found laterFound
      obtain ⟨⟨-, fresh⟩, equal⟩ := ite_none_right_eq_some.mp loaded
      obtain ⟨names, distinct⟩ := distinct_loadMembers rest later laterFound
      rw [← some.inj equal, distinctMembers]
      exact ⟨nodup_cons.mpr ⟨fresh, names⟩, distinct_loadTree item value found, distinct⟩
    · cases loaded

end

/-- The strict loader decodes the documents it accepts as the lenient one does. -/
abbrev strictDecoder [Interpreter] : JsonDecoder where
  loads := fun bytes => loadStrictJson bytes bytes.length
  loads_distinct := by
    intro bytes value loaded
    simp only [loadStrictJson, bind_eq_ok] at loaded
    obtain ⟨-, -, loaded⟩ := loaded
    split at loaded
    · cases loaded
    · split at loaded
      · cases loaded
      · split at loaded
        · cases loaded
        · rename_i found
          cases loaded
          exact distinct_loadTree _ _ found

end CiCoordinator.Kernel

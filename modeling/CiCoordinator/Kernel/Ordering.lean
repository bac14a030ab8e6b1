import CiCoordinator.Kernel.Errors
import CiCoordinator.Library.Sorting

/- The ECMAScript order of identities and the checks for canonical sequences. -/

namespace CiCoordinator.Kernel

open Library

/-- Items sorted by the ordering key of an identity; the key of every item is computed first, and a surrogate has none. -/
def sortedByText {A : Type} (identity : A → Text) (items : List A) : Py (List A) := do
  forEach (fun item => raiseIf ((identity item).scalar = false) .unicodeEncodeError) items
  return sortBy (fun item => (identity item).utf16) items

variable (values : List Text)

/-- A set of texts in the ECMAScript order. -/
def sortedTexts : Py (List Text) :=
  sortedByText id values.dedup

/-- Texts are canonical when they are scalar and increase in the ECMAScript order. -/
def CanonicalTexts : Prop :=
  (∀ value ∈ values, value.scalar = true) ∧ Increasing Text.utf16 values

instance (values : List Text) : Decidable (CanonicalTexts values) :=
  inferInstanceAs (Decidable (_ ∧ _))

/-- A sequence must equal its own sorted set. -/
def requireSorted (message : Text) : Py Unit := do
  let sorted ← sortedTexts values
  valueErrorIf (sorted ≠ values) message

variable {A : Type} {identity : A → Text} {items : List A}
variable {values : List Text}

theorem sortedByText_eq_ok {result : List A} : sortedByText identity items = .ok result ↔
      (∀ item ∈ items, (identity item).scalar = true) ∧ sortBy (fun item => (identity item).utf16) items = result := by
  simp [sortedByText]

theorem sortedByText_of_scalar (scalar : ∀ item ∈ items, (identity item).scalar = true) :
    sortedByText identity items = .ok (sortBy (fun item => (identity item).utf16) items) :=
  sortedByText_eq_ok.mpr ⟨scalar, rfl⟩

/-- Items in canonical order are their own sorting. -/
theorem sortedByText_of_canonical (canonical : CanonicalTexts (items.map identity)) :
    sortedByText identity items = .ok items := by
  refine sortedByText_eq_ok.mpr ⟨?_, sortBy_of_increasing (Increasing.map_iff.mp canonical.2)⟩
  intro item member
  exact canonical.1 _ (List.mem_map_of_mem member)

theorem sortedTexts_eq_ok {result : List Text} : sortedTexts values = .ok result ↔
      (∀ value ∈ values, value.scalar = true) ∧ sortedUnique Text.utf16 values = result := by
  rw [sortedTexts, sortedByText_eq_ok]
  simp [sortedUnique]

theorem sortedTexts_of_scalar (scalar : ∀ value ∈ values, value.scalar = true) :
    sortedTexts values = .ok (sortedUnique Text.utf16 values) :=
  sortedTexts_eq_ok.mpr ⟨scalar, rfl⟩

/-- A sorted set of texts is canonical and has the members of the set. -/
theorem sortedTexts_spec {result : List Text} (sorted : sortedTexts values = .ok result) :
    CanonicalTexts result ∧ ∀ value, value ∈ result ↔ value ∈ values := by
  obtain ⟨scalar, rfl⟩ := sortedTexts_eq_ok.mp sorted
  refine ⟨⟨?_, sortedUnique_increasing (separates_utf16 scalar)⟩, fun value => mem_sortedUnique⟩
  intro value member
  exact scalar value (mem_sortedUnique.mp member)

/-- Scalar texts can always be sorted. -/
theorem sortedTexts_total (scalar : ∀ value ∈ values, value.scalar = true) :
    ∃ sorted, sortedTexts values = .ok sorted ∧ CanonicalTexts sorted ∧ ∀ value, value ∈ sorted ↔ value ∈ values :=
  ⟨_, sortedTexts_of_scalar scalar, sortedTexts_spec (sortedTexts_of_scalar scalar)⟩

theorem sortedTexts_of_canonical (canonical : CanonicalTexts values) : sortedTexts values = .ok values :=
  sortedTexts_eq_ok.mpr ⟨canonical.1, (sortedUnique_eq_self_iff (separates_utf16 canonical.1)).mpr canonical.2⟩

/-- The check passes exactly on canonical texts. -/
@[simp] theorem requireSorted_eq_ok {message : Text} {passed : Unit} :
    requireSorted values message = .ok passed ↔ CanonicalTexts values := by
  constructor
  · intro checked
    simp only [requireSorted, bind_eq_ok, raiseIf_eq_ok, not_not] at checked
    obtain ⟨sorted, computed, rfl⟩ := checked
    exact (sortedTexts_spec computed).1
  · intro canonical
    simp [requireSorted, sortedTexts_of_canonical canonical]

namespace CanonicalTexts

theorem nodup {values : List Text} (canonical : CanonicalTexts values) : values.Nodup :=
  canonical.2.nodup

theorem nil : CanonicalTexts [] :=
  ⟨by simp, List.Pairwise.nil⟩

theorem sublist {values some : List Text} (canonical : CanonicalTexts values) (included : some.Sublist values) :
    CanonicalTexts some :=
  ⟨fun value member => canonical.1 value (included.subset member), canonical.2.sublist included⟩

/-- Canonical sequences with the same members are equal. -/
theorem ext {left right : List Text} (leftCanonical : CanonicalTexts left) (rightCanonical : CanonicalTexts right)
    (same : ∀ value, value ∈ left ↔ value ∈ right) : left = right :=
  Increasing.ext leftCanonical.2 rightCanonical.2 same

end CanonicalTexts

/-- Items with distinct scalar identities become canonical by sorting. -/
theorem canonical_sortBy (distinct : (items.map identity).Nodup) (scalar : ∀ item ∈ items, (identity item).scalar = true) :
    CanonicalTexts ((sortBy (fun item => (identity item).utf16) items).map identity) := by
  constructor
  · intro value member
    obtain ⟨item, contained, rfl⟩ := List.mem_map.mp member
    exact scalar item (mem_sortBy.mp contained)
  · rw [Increasing.map_iff]
    refine sortBy_increasing (List.Nodup.of_map identity distinct) fun left leftMember right rightMember equal => ?_
    have same := Text.utf16_injective (scalar left leftMember) (scalar right rightMember) equal
    exact List.inj_on_of_nodup_map distinct leftMember rightMember same

end CiCoordinator.Kernel

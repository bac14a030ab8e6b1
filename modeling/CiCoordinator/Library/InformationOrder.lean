import Mathlib.Order.Basic

/- The order of partial knowledge about an entity and its records, and when two pieces of it clash. -/

namespace CiCoordinator.Library

variable {K I V : Type}

/-- A table knows every fact that another one knows. -/
def Knows (more less : K → Option V) : Prop :=
  ∀ name value, less name = some value → more name = some value

/-- Two tables know different values of one field. -/
def Clashes (left right : K → Option V) : Prop :=
  ∃ name first second, left name = some first ∧ right name = some second ∧ first ≠ second

section Tables

variable {first second third : K → Option V}

theorem Knows.refl (table : K → Option V) : Knows table table :=
  fun _ _ known => known

theorem Knows.trans (upper : Knows third second) (lower : Knows second first) : Knows third first :=
  fun name value known => upper name value (lower name value known)

/-- Tables that know each other are equal. -/
theorem Knows.antisymm (forward : Knows second first) (backward : Knows first second) : first = second :=
  funext fun name => Option.ext fun value => ⟨forward name value, backward name value⟩

theorem Clashes.symm (clash : Clashes first second) : Clashes second first := by
  obtain ⟨name, left, right, leftKnown, rightKnown, differ⟩ := clash
  exact ⟨name, right, left, rightKnown, leftKnown, differ.symm⟩

/-- A table does not clash with what it knows. -/
theorem Knows.not_clashes (knows : Knows second first) : ¬ Clashes first second := by
  rintro ⟨name, left, right, leftKnown, rightKnown, differ⟩
  exact differ (Option.some.inj ((knows name left leftKnown).symm.trans rightKnown))

end Tables

/-- Partial knowledge of an entity and of its records; the records can be known to be complete, and knowledge can be in
dispute. -/
structure Evidence (K I V : Type) where
  header : K → Option V
  records : I → Option (K → Option V)
  complete : Prop
  disputed : Prop

namespace Evidence

variable {first second third : Evidence K I V}

/-- Later knowledge keeps every fact, every record with its facts, and completeness. -/
structure Refines (later earlier : Evidence K I V) : Prop where
  header : Knows later.header earlier.header
  records : ∀ id facts, earlier.records id = some facts → ∃ more, later.records id = some more ∧ Knows more facts
  complete : earlier.complete → later.complete

instance : Preorder (Evidence K I V) where
  le earlier later := later.Refines earlier
  le_refl self := ⟨.refl _, fun _ facts recorded => ⟨facts, recorded, .refl _⟩, fun complete => complete⟩
  le_trans := by
    intro first second third lower upper
    refine ⟨upper.header.trans lower.header, ?_, fun complete => upper.complete (lower.complete complete)⟩
    intro id facts recorded
    obtain ⟨more, middle, knows⟩ := lower.records id facts recorded
    obtain ⟨most, last, further⟩ := upper.records id more middle
    exact ⟨most, last, further.trans knows⟩

theorem le_iff_refines : first ≤ second ↔ second.Refines first :=
  Iff.rfl

/-- Evidence has a record that complete evidence lacks. -/
def Exceeds (other self : Evidence K I V) : Prop :=
  self.complete ∧ ∃ id, other.records id ≠ none ∧ self.records id = none

/-- Two pieces of evidence cannot both hold. -/
def Clash (left right : Evidence K I V) : Prop :=
  (left.disputed ∨ right.disputed) ∨ Clashes left.header right.header ∨
    (∃ id facts others, left.records id = some facts ∧ right.records id = some others ∧ Clashes facts others) ∨
    right.Exceeds left ∨ left.Exceeds right

theorem Clash.symm (clash : first.Clash second) : second.Clash first := by
  rcases clash with disputed | header | ⟨id, facts, others, left, right, clash⟩ | exceeds | exceeds
  · exact .inl disputed.symm
  · exact .inr (.inl header.symm)
  · exact .inr (.inr (.inl ⟨id, others, facts, right, left, clash.symm⟩))
  · exact .inr (.inr (.inr (.inr exceeds)))
  · exact .inr (.inr (.inr (.inl exceeds)))

theorem clash_comm : first.Clash second ↔ second.Clash first :=
  ⟨Clash.symm, Clash.symm⟩

/-- Evidence that refines other evidence has its records. -/
theorem recorded_of_le (refines : first ≤ second) {id : I} (recorded : first.records id ≠ none) : second.records id ≠ none := by
  obtain ⟨facts, known⟩ := Option.ne_none_iff_exists'.mp recorded
  obtain ⟨more, later, -⟩ := refines.records id facts known
  exact later ▸ Option.some_ne_none more

/-- Complete evidence has the same records as every refinement of it that does not clash with it. -/
theorem records_of_complete (refines : first ≤ second) (agree : ¬ first.Clash second) (complete : first.complete) (id : I) :
    first.records id ≠ none ↔ second.records id ≠ none := by
  refine ⟨recorded_of_le refines, fun recorded missing => agree ?_⟩
  exact .inr (.inr (.inr (.inl ⟨complete, id, recorded, missing⟩)))

/-- Evidence does not clash with a refinement of a refinement. -/
theorem not_clash_trans (lower : first ≤ second) (upper : second ≤ third) (agree : ¬ first.Clash second)
    (further : ¬ second.Clash third) : ¬ first.Clash third := by
  have whole : first ≤ third := lower.trans upper
  rintro ((disputed | disputed) | header | ⟨id, facts, others, left, right, clash⟩ | ⟨complete, id, recorded, missing⟩ |
    ⟨complete, id, recorded, missing⟩)
  · exact agree (.inl (.inl disputed))
  · exact further (.inl (.inr disputed))
  · exact whole.header.not_clashes header
  · obtain ⟨more, found, knows⟩ := whole.records id facts left
    exact knows.not_clashes (Option.some.inj (found.symm.trans right) ▸ clash)
  · have middle := (records_of_complete upper further (lower.complete complete) id).mpr recorded
    exact (records_of_complete lower agree complete id).mpr middle missing
  · exact recorded_of_le whole recorded missing

/-- Pieces of evidence that refine each other have the same facts and records and the same completeness. -/
theorem same_of_le_of_le (forward : first ≤ second) (backward : second ≤ first) :
    first.header = second.header ∧ first.records = second.records ∧ (first.complete ↔ second.complete) := by
  refine ⟨forward.header.antisymm backward.header, funext fun id => ?_, forward.complete, backward.complete⟩
  cases known : first.records id with
  | none =>
    by_contra recorded
    exact recorded_of_le backward (Ne.symm recorded) known
  | some facts =>
    obtain ⟨more, later, knows⟩ := forward.records id facts known
    obtain ⟨less, earlier, known'⟩ := backward.records id more later
    obtain rfl : facts = less := Option.some.inj (known.symm.trans earlier)
    rw [later, knows.antisymm known']

end Evidence

end CiCoordinator.Library

import Mathlib.Algebra.Order.Ring.Nat
import Mathlib.Data.List.Forall2
import Mathlib.Data.List.Basic

/- The rules for computations that either return or raise. -/

namespace CiCoordinator.Library

open List

variable {ε A B : Type}

/-- A guard raises exactly when its rejecting condition holds. -/
def raiseIf (rejected : Prop) [Decidable rejected] (error : ε) : Except ε Unit :=
  if rejected then .error error else .ok ()

/-- A loop over a sequence of checks stops at the first check that raises. -/
def forEach (check : A → Except ε Unit) : List A → Except ε Unit
  | [] => .ok ()
  | value :: rest =>
    match check value with
    | .error error => .error error
    | .ok () => forEach check rest

/-- A fallible comprehension stops at the first item that raises. -/
def collect (compute : A → Except ε B) : List A → Except ε (List B)
  | [] => .ok []
  | value :: rest =>
    match compute value with
    | .error error => .error error
    | .ok result =>
      match collect compute rest with
      | .error error => .error error
      | .ok results => .ok (result :: results)

/-- A loop that carries a value through fallible steps. -/
def foldSteps (step : B → A → Except ε B) : B → List A → Except ε B
  | state, [] => .ok state
  | state, value :: rest => do
    let next ← step state value
    foldSteps step next rest

/-- A constructor runs its check and packs the value with the check's own evidence. -/
def construct (check : Except ε Unit) (make : check = .ok () → A) : Except ε A :=
  match check, make with
  | .error error, _ => .error error
  | .ok (), make => .ok (make rfl)

/-- A constructor that computes a value on the way packs that value with its own evidence. -/
def constructWith (compute : Except ε B) (make : (value : B) → compute = .ok value → A) : Except ε A :=
  match compute, make with
  | .error error, _ => .error error
  | .ok value, make => .ok (make value rfl)

/-- The value of a computation that returns. -/
def returned (outcome : Except ε A) (returns : outcome.isOk = true) : A :=
  match outcome, returns with
  | .ok value, _ => value

theorem eq_ok_returned {outcome : Except ε A} (returns : outcome.isOk = true) : outcome = .ok (returned outcome returns) := by
  cases outcome with
  | error error => cases returns
  | ok value => rfl

theorem eq_ok_of_map_toOption {outcome : Except ε A} {project : A → B} {result : B}
    (projected : outcome.toOption.map project = some result) : ∃ value, outcome = .ok value ∧ project value = result := by
  cases outcome with
  | error error => cases projected
  | ok value => exact ⟨value, rfl, Option.some.inj projected⟩

variable {next compute : A → Except ε B} {value : A} {check : A → Except ε Unit} {values : List A} {results : List B}
  {step : B → A → Except ε B}

@[simp] theorem raiseIf_eq_ok {rejected : Prop} [Decidable rejected] {error : ε} {passed : Unit} :
    raiseIf rejected error = .ok passed ↔ ¬ rejected := by
  unfold raiseIf
  split <;> simp_all

@[simp] theorem raiseIf_eq_error {rejected : Prop} [Decidable rejected] {error other : ε} :
    raiseIf rejected error = .error other ↔ rejected ∧ error = other := by
  unfold raiseIf
  split <;> simp_all

@[simp] theorem bind_eq_ok {first : Except ε A} {result : B} :
    (first >>= next) = .ok result ↔ ∃ value, first = .ok value ∧ next value = .ok result := by
  cases first with
  | error error => simp [bind, Except.bind]
  | ok value => simp [bind, Except.bind]

@[simp] theorem bind_unit_eq_ok {first : Except ε Unit} {next : Unit → Except ε B} {result : B} :
    (first >>= next) = .ok result ↔ first = .ok () ∧ next () = .ok result := by
  cases first with
  | error error => simp [bind, Except.bind]
  | ok value => simp [bind, Except.bind]

@[simp] theorem exists_unit_iff {holds : Unit → Prop} : (∃ passed, holds passed) ↔ holds () :=
  ⟨fun ⟨_, proof⟩ => proof, fun proof => ⟨(), proof⟩⟩

@[simp] theorem bind_eq_error {first : Except ε A} {error : ε} : (first >>= next) = .error error ↔
      first = .error error ∨ ∃ value, first = .ok value ∧ next value = .error error := by
  cases first with
  | error error => simp [bind, Except.bind]
  | ok value => simp [bind, Except.bind]

@[simp] theorem pure_eq_ok_iff {result : A} : (pure value : Except ε A) = .ok result ↔ value = result := by
  simp [pure, Except.pure]

@[simp] theorem ok_bind_eq : ((Except.ok value : Except ε A) >>= next) = next value := rfl

@[simp] theorem map_eq_ok {first : Except ε A} {compute : A → B} {result : B} :
    (compute <$> first) = .ok result ↔ ∃ value, first = .ok value ∧ compute value = result := by
  cases first with
  | error error => simp [Functor.map, Except.map]
  | ok value => simp [Functor.map, Except.map]

/-- An answer behind a guard that answers nothing. -/
theorem ite_none_eq_some {rejected : Prop} [Decidable rejected] {answer : Except ε (Option A)} :
    (if rejected then .ok none else answer) = .ok (some value) ↔ ¬ rejected ∧ answer = .ok (some value) := by
  split <;> simp_all

theorem toOption_eq_some {outcome : Except ε A} : outcome.toOption = some value ↔ outcome = .ok value := by
  cases outcome <;> simp [Except.toOption]

variable {rest : List A}

theorem forEach_cons : forEach check (value :: rest) = check value >>= fun _ => forEach check rest := by
  rw [forEach]
  cases check value with
  | error error => rfl
  | ok passed => rfl

@[simp] theorem forEach_eq_ok {passed : Unit} : forEach check values = .ok passed ↔ ∀ value ∈ values, check value = .ok () := by
  induction values with
  | nil => exact iff_of_true rfl (forall_mem_nil _)
  | cons value rest ih => rw [forEach_cons, bind_unit_eq_ok, ih, forall_mem_cons]

theorem forEach_eq_error {error : ε} (raised : forEach check values = .error error) :
    ∃ value ∈ values, check value = .error error := by
  induction values with
  | nil => cases raised
  | cons value rest ih =>
    rw [forEach_cons, bind_eq_error] at raised
    rcases raised with here | ⟨passed, _, later⟩
    · exact ⟨value, mem_cons_self, here⟩
    · obtain ⟨other, member, found⟩ := ih later
      exact ⟨other, mem_cons_of_mem _ member, found⟩

theorem collect_cons : collect compute (value :: rest) =
      compute value >>= fun result => collect compute rest >>= fun results => .ok (result :: results) := by
  rw [collect]
  cases compute value with
  | error error => rfl
  | ok result =>
    cases collect compute rest with
    | error error => rfl
    | ok results => rfl

theorem collect_eq_ok : collect compute values = .ok results ↔
      List.Forall₂ (fun value result => compute value = .ok result) values results := by
  induction values generalizing results with
  | nil =>
    rw [forall₂_nil_left_iff]
    exact ⟨fun computed => (Except.ok.inj computed).symm, fun empty => congrArg Except.ok empty.symm⟩
  | cons value rest ih =>
    rw [collect_cons, bind_eq_ok, forall₂_cons_left_iff]
    constructor
    · intro ⟨result, head, computed⟩
      obtain ⟨others, tail, packed⟩ := bind_eq_ok.mp computed
      exact ⟨result, others, head, ih.mp tail, (Except.ok.inj packed).symm⟩
    · intro ⟨result, others, head, tail, packed⟩
      exact ⟨result, head, bind_eq_ok.mpr ⟨others, ih.mpr tail, congrArg Except.ok packed.symm⟩⟩

variable {first : List A}

/-- A comprehension over two sequences is one over each of them. -/
theorem collect_append_eq_ok {second : List A} : collect compute (first ++ second) = .ok results ↔
      ∃ left right, collect compute first = .ok left ∧ collect compute second = .ok right ∧ results = left ++ right := by
  simp only [collect_eq_ok]
  constructor
  · intro pairs
    induction first generalizing results with
    | nil => exact ⟨[], results, .nil, pairs, rfl⟩
    | cons value rest ih =>
      cases pairs with
      | cons head tail =>
        obtain ⟨left, right, leftPairs, rightPairs, rfl⟩ := ih tail
        exact ⟨_ :: left, right, .cons head leftPairs, rightPairs, rfl⟩
  · rintro ⟨left, right, leftPairs, rightPairs, rfl⟩
    exact rel_append leftPairs rightPairs

/-- A comprehension whose items never raise returns the mapped list. -/
theorem collect_eq_map {total : A → B} (each : ∀ value ∈ values, compute value = .ok (total value)) :
    collect compute values = .ok (values.map total) := by
  induction values with
  | nil => rfl
  | cons value rest ih =>
    have head := each value (by simp)
    have tail := ih (fun other member => each other (by simp [member]))
    rw [collect_cons, head, tail]
    rfl

theorem collect_total (each : ∀ value ∈ values, ∃ result, compute value = .ok result) :
    ∃ results, collect compute values = .ok results := by
  induction values with
  | nil => exact ⟨[], rfl⟩
  | cons value rest ih =>
    obtain ⟨result, head⟩ := each value (by simp)
    obtain ⟨results, tail⟩ := ih fun other member => each other (by simp [member])
    refine ⟨result :: results, ?_⟩
    rw [collect_cons, head, tail]
    rfl

theorem collect_eq_error {error : ε} (raised : collect compute values = .error error) :
    ∃ value ∈ values, compute value = .error error := by
  induction values with
  | nil => cases raised
  | cons value rest ih =>
    rw [collect_cons, bind_eq_error] at raised
    rcases raised with here | ⟨result, _, tail⟩
    · exact ⟨value, mem_cons_self, here⟩
    · rcases bind_eq_error.mp tail with later | ⟨results, _, packed⟩
      · obtain ⟨other, member, found⟩ := ih later
        exact ⟨other, mem_cons_of_mem _ member, found⟩
      · cases packed

theorem exists_of_mem_collect {result : B} (computed : collect compute values = .ok results)
    (member : result ∈ results) : ∃ value ∈ values, compute value = .ok result := by
  have pairs := collect_eq_ok.mp computed
  clear computed
  induction pairs with
  | nil => simp at member
  | @cons value first rest others head tail ih =>
    rcases mem_cons.mp member with rfl | later
    · exact ⟨value, by simp, head⟩
    · obtain ⟨other, otherMember, found⟩ := ih later
      exact ⟨other, mem_cons_of_mem _ otherMember, found⟩

theorem mem_collect_of_mem (computed : collect compute values = .ok results) (member : value ∈ values) :
    ∃ result ∈ results, compute value = .ok result := by
  have pairs := collect_eq_ok.mp computed
  clear computed
  induction pairs with
  | nil => simp at member
  | @cons first result rest others head tail ih =>
    rcases mem_cons.mp member with rfl | later
    · exact ⟨result, by simp, head⟩
    · obtain ⟨other, otherMember, found⟩ := ih later
      exact ⟨other, mem_cons_of_mem _ otherMember, found⟩

/-- A loop in which some item raises, and every raising item raises the same error, raises that error. -/
theorem collect_error {error : ε}
    (uniform : ∀ value ∈ values, (∃ result, compute value = .ok result) ∨ compute value = .error error)
    (some : ∃ value ∈ values, compute value = .error error) : collect compute values = .error error := by
  cases computed : collect compute values with
  | error other =>
    obtain ⟨value, member, raised⟩ := collect_eq_error computed
    rcases uniform value member with ⟨result, returned⟩ | same
    · rw [returned] at raised
      cases raised
    · rw [same, Except.error.injEq] at raised
      rw [raised]
  | ok results =>
    obtain ⟨value, member, raised⟩ := some
    obtain ⟨result, -, returned⟩ := mem_collect_of_mem computed member
    rw [raised] at returned
    cases returned

/-- A comprehension whose items return when they fit and raise one error otherwise returns when all items fit. -/
theorem collect_ite {fits : A → Prop} [DecidablePred fits] {total : A → B} {error : ε}
    (each : ∀ value ∈ values, compute value = if fits value then .ok (total value) else .error error) :
    collect compute values = if ∀ value ∈ values, fits value then .ok (values.map total) else .error error := by
  split_ifs with all
  · exact collect_eq_map fun value member => by rw [each value member, if_pos (all value member)]
  · push Not at all
    obtain ⟨value, member, large⟩ := all
    refine collect_error (fun other inside => ?_) ⟨value, member, by rw [each value member, if_neg large]⟩
    rw [each other inside]
    by_cases small : fits other
    · exact .inl ⟨total other, if_pos small⟩
    · exact .inr (if_neg small)

/-- Checks of which some raises, and every raising one raises the same error, raise that error. -/
theorem forEach_error {error : ε} (uniform : ∀ value ∈ values, check value = .ok () ∨ check value = .error error)
    (some : ∃ value ∈ values, check value = .error error) : forEach check values = .error error := by
  cases computed : forEach check values with
  | error other =>
    obtain ⟨value, member, raised⟩ := forEach_eq_error computed
    rcases uniform value member with passed | same
    · rw [passed] at raised
      cases raised
    · rw [same] at raised
      exact raised.symm
  | ok passed =>
    obtain ⟨value, member, raised⟩ := some
    rw [forEach_eq_ok.mp computed value member] at raised
    cases raised

variable {C : Type}

/-- A comprehension only depends on what it computes for its items. -/
theorem collect_map_congr {first : B → Except ε C} {source target : A → B}
    (same : ∀ value ∈ values, first (source value) = first (target value)) :
    collect first (values.map source) = collect first (values.map target) := by
  induction values with
  | nil => rfl
  | cons value rest ih =>
    rw [map_cons, map_cons, collect_cons, collect_cons]
    rw [same value mem_cons_self, ih fun other member => same other (mem_cons_of_mem _ member)]

/-- Lists whose items are related have the same projections when related items do. -/
theorem map_eq_of_related {related : A → B → Prop} {source : A → C} {target : B → C}
    {second : List B} (pairs : List.Forall₂ related first second)
    (keeps : ∀ left right, related left right → target right = source left) : second.map target = first.map source := by
  induction pairs with
  | nil => rfl
  | @cons left right rest others head tail ih => rw [map_cons, map_cons, keeps left right head, ih]

/-- A comprehension that keeps a projection of its items keeps the list of projections. -/
theorem map_collect {source : A → C} {target : B → C} (computed : collect compute values = .ok results)
    (keeps : ∀ value ∈ values, ∀ result, compute value = .ok result → target result = source value) :
    results.map target = values.map source := by
  have pairs := collect_eq_ok.mp computed
  clear computed
  induction pairs with
  | nil => rfl
  | @cons value result rest others head tail ih =>
    rw [map_cons, map_cons, keeps value (by simp) result head]
    rw [ih fun other member => keeps other (mem_cons_of_mem _ member)]

variable {state : B}

theorem foldSteps_cons : foldSteps step state (value :: rest) = step state value >>= fun next => foldSteps step next rest := rfl

/-- A loop whose steps return and keep an invariant returns and keeps it. -/
theorem foldSteps_invariant {invariant : B → Prop}
    (each : ∀ value ∈ values, ∀ state, invariant state → ∃ next, step state value = .ok next ∧ invariant next)
    (start : invariant state) : ∃ final, foldSteps step state values = .ok final ∧ invariant final := by
  induction values generalizing state with
  | nil => exact ⟨state, rfl, start⟩
  | cons value rest ih =>
    obtain ⟨next, stepped, kept⟩ := each value mem_cons_self state start
    obtain ⟨final, folded, holds⟩ := ih (fun other member => each other (mem_cons_of_mem _ member)) kept
    exact ⟨final, by rw [foldSteps_cons, stepped, ok_bind_eq, folded], holds⟩

/-- A loop that returns keeps what each of its steps keeps. -/
theorem foldSteps_keeps {invariant : B → Prop}
    (each : ∀ state value next, invariant state → step state value = .ok next → invariant next) {final : B}
    (start : invariant state) (folded : foldSteps step state values = .ok final) : invariant final := by
  induction values generalizing state with
  | nil => exact (Except.ok.inj folded) ▸ start
  | cons value rest ih =>
    rw [foldSteps_cons, bind_eq_ok] at folded
    obtain ⟨next, stepped, followed⟩ := folded
    exact ih (each state value next start stepped) followed

/-- A loop over two sequences is one after the other. -/
theorem foldSteps_append {second : List A} :
    foldSteps step state (first ++ second) = foldSteps step state first >>= fun middle => foldSteps step middle second := by
  induction first generalizing state with
  | nil => rfl
  | cons value rest ih =>
    rw [cons_append, foldSteps_cons, foldSteps_cons]
    cases step state value with
    | error error => rfl
    | ok next => exact ih

theorem construct_eq_ok {check : Except ε Unit} {make : check = .ok () → A} :
    construct check make = .ok value ↔ ∃ passed : check = .ok (), make passed = value := by
  cases check with
  | error error => simp [construct]
  | ok passed => simp [construct]

theorem construct_ok {check : Except ε Unit} {make : check = .ok () → A} (passed : check = .ok ()) :
    construct check make = .ok (make passed) :=
  construct_eq_ok.mpr ⟨passed, rfl⟩

theorem construct_eq_error {check : Except ε Unit} {make : check = .ok () → A} {error : ε} :
    construct check make = .error error ↔ check = .error error := by
  cases check with
  | error other => simp [construct]
  | ok passed => simp [construct]

/-- Every error of a computation is an allowed one. -/
def Raises (allowed : ε → Prop) (computation : Except ε A) : Prop :=
  ∀ error, computation = .error error → allowed error

namespace Raises

variable {allowed : ε → Prop}

theorem ok {value : A} : Raises allowed (Except.ok value : Except ε A) := by
  intro error impossible
  cases impossible

theorem error {raised : ε} (permitted : allowed raised) : Raises allowed (Except.error raised : Except ε A) := by
  intro other equal
  cases equal
  exact permitted

theorem raiseIf {rejected : Prop} [Decidable rejected] {raised : ε} (permitted : rejected → allowed raised) :
    Raises allowed (Library.raiseIf rejected raised) := by
  intro other failed
  obtain ⟨condition, rfl⟩ := raiseIf_eq_error.mp failed
  exact permitted condition

theorem bind {first : Except ε A} {next : A → Except ε B} (head : Raises allowed first)
    (tail : ∀ value, first = .ok value → Raises allowed (next value)) : Raises allowed (first >>= next) := by
  intro error failed
  rcases bind_eq_error.mp failed with early | ⟨value, computed, late⟩
  · exact head error early
  · exact tail value computed error late

theorem map {first : Except ε A} {compute : A → B} (raises : Raises allowed first) : Raises allowed (compute <$> first) := by
  intro error failed
  cases first with
  | error other =>
    cases failed
    exact raises _ rfl
  | ok value => cases failed

theorem forEach {check : A → Except ε Unit} {values : List A} (each : ∀ value ∈ values, Raises allowed (check value)) :
    Raises allowed (Library.forEach check values) := by
  intro error failed
  obtain ⟨value, member, raised⟩ := forEach_eq_error failed
  exact each value member error raised

theorem collect {compute : A → Except ε B} {values : List A} (each : ∀ value ∈ values, Raises allowed (compute value)) :
    Raises allowed (Library.collect compute values) := by
  intro error failed
  obtain ⟨value, member, raised⟩ := collect_eq_error failed
  exact each value member error raised

theorem construct {check : Except ε Unit} {make : check = .ok () → A} (checked : Raises allowed check) :
    Raises allowed (Library.construct check make) := by
  intro error failed
  exact checked error (construct_eq_error.mp failed)

/-- A computation that raises no error returns. -/
theorem total {computation : Except ε A} (never : Raises (fun _ => False) computation) : ∃ value, computation = .ok value := by
  cases computation with
  | error error => exact absurd rfl (never error)
  | ok value => exact ⟨value, rfl⟩

end Raises

end CiCoordinator.Library

import Mathlib.Algebra.Order.Ring.Nat
import Mathlib.Data.List.Basic
import Mathlib.Data.List.Nodup
import Mathlib.Tactic.Common

/- Insertion-ordered dictionaries: a key keeps its first position and its last value. -/

namespace CiCoordinator.Library

open List

/-- A dictionary lists its entries in insertion order and never repeats a key. -/
structure Dictionary (K V : Type) where
  entries : List (K × V)
  distinct : (entries.map Prod.fst).Nodup

namespace Dictionary

variable {K V A : Type} [DecidableEq K]

/-- The dictionary without entries. -/
def empty : Dictionary K V :=
  ⟨[], nodup_nil⟩

/-- The keys in insertion order. -/
def keys (dictionary : Dictionary K V) : List K :=
  dictionary.entries.map Prod.fst

/-- The values in insertion order. -/
def values (dictionary : Dictionary K V) : List V :=
  dictionary.entries.map Prod.snd

/-- The value of the first entry with a key. -/
def find (key : K) : List (K × V) → Option V
  | [] => none
  | entry :: rest => if entry.1 = key then some entry.2 else find key rest

/-- The value stored under a key, if there is one. -/
def get? (dictionary : Dictionary K V) (key : K) : Option V :=
  find key dictionary.entries

/-- An assignment replaces the value of a present key in place and appends a new key. -/
def assign (key : K) (value : V) : List (K × V) → List (K × V)
  | [] => [(key, value)]
  | entry :: rest => if entry.1 = key then (key, value) :: rest else entry :: assign key value rest

variable {key : K} {value : V} {entries pairs : List (K × V)} {dictionary : Dictionary K V} {identity : A → K}
  {items : List A}

@[simp] theorem find_nil : find key ([] : List (K × V)) = none := rfl

theorem find_cons {entry : K × V} {rest : List (K × V)} :
    find key (entry :: rest) = if entry.1 = key then some entry.2 else find key rest := rfl

@[simp] theorem assign_nil : assign key value [] = [(key, value)] := rfl

theorem assign_cons {entry : K × V} {rest : List (K × V)} :
    assign key value (entry :: rest) = if entry.1 = key then (key, value) :: rest else entry :: assign key value rest := rfl

theorem mem_of_find (found : find key entries = some value) : (key, value) ∈ entries := by
  induction entries with
  | nil => simp at found
  | cons entry rest ih =>
    by_cases same : entry.1 = key
    · simp only [find_cons, same, if_true, Option.some.injEq] at found
      simp [← same, ← found]
    · simp only [find_cons, same, if_false] at found
      exact mem_cons_of_mem _ (ih found)

theorem find_eq_none_iff : find key entries = none ↔ key ∉ entries.map Prod.fst := by
  induction entries with
  | nil => simp
  | cons entry rest ih =>
    by_cases same : entry.1 = key
    · simp [find_cons, same]
    · simp [find_cons, same, ih, Ne.symm same]

theorem find_append {left right : List (K × V)} : find key (left ++ right) = (find key left).or (find key right) := by
  induction left with
  | nil => simp
  | cons entry rest ih =>
    by_cases same : entry.1 = key
    · simp [find_cons, same]
    · simp [find_cons, same, ih]

theorem mem_keys_assign {other : K} :
    other ∈ (assign key value entries).map Prod.fst ↔ other = key ∨ other ∈ entries.map Prod.fst := by
  induction entries with
  | nil => simp
  | cons entry rest ih =>
    by_cases same : entry.1 = key
    · simp [assign_cons, same]
    · simp only [assign_cons, same, if_false, map_cons, mem_cons, ih]
      tauto

theorem nodup_assign (distinct : (entries.map Prod.fst).Nodup) : ((assign key value entries).map Prod.fst).Nodup := by
  induction entries with
  | nil => simp
  | cons entry rest ih =>
    rw [map_cons, nodup_cons] at distinct
    by_cases same : entry.1 = key
    · simp only [assign_cons, same, if_true, map_cons, nodup_cons]
      exact ⟨same ▸ distinct.1, distinct.2⟩
    · rw [assign_cons, if_neg same, map_cons, nodup_cons, mem_keys_assign, not_or]
      exact ⟨⟨same, distinct.1⟩, ih distinct.2⟩

/-- A new key is appended. -/
theorem assign_of_fresh (fresh : key ∉ entries.map Prod.fst) : assign key value entries = entries ++ [(key, value)] := by
  induction entries with
  | nil => rfl
  | cons entry rest ih =>
    rw [map_cons, mem_cons, not_or] at fresh
    rw [assign_cons, if_neg (Ne.symm fresh.1), ih fresh.2, cons_append]

/-- The dictionary after one assignment. -/
def set (dictionary : Dictionary K V) (key : K) (value : V) : Dictionary K V :=
  ⟨assign key value dictionary.entries, nodup_assign dictionary.distinct⟩

/-- The dictionary after an assignment that keeps a present value. -/
def setDefault (dictionary : Dictionary K V) (key : K) (value : V) : Dictionary K V :=
  match dictionary.get? key with
  | some _ => dictionary
  | none => dictionary.set key value

/-- A comprehension assigns its pairs from first to last. -/
def comprehend (pairs : List (K × V)) : Dictionary K V :=
  pairs.foldl (fun dictionary pair => dictionary.set pair.1 pair.2) empty

/-- An update assigns pairs from first to last. -/
def update (dictionary : Dictionary K V) (pairs : List (K × V)) : Dictionary K V :=
  pairs.foldl (fun table pair => table.set pair.1 pair.2) dictionary

/-- Values are collected under their keys, each list in order of appearance. -/
def group (pairs : List (K × V)) : Dictionary K (List V) :=
  pairs.foldl (fun table pair => table.set pair.1 ((table.get? pair.1).getD [] ++ [pair.2])) empty

/-- Items are indexed by an identity of theirs. -/
def indexBy (identity : A → K) (items : List A) : Dictionary K A :=
  comprehend (items.map fun item => (identity item, item))

theorem find_of_mem (distinct : (entries.map Prod.fst).Nodup) (member : (key, value) ∈ entries) :
    find key entries = some value := by
  induction entries with
  | nil => simp at member
  | cons entry rest ih =>
    rw [map_cons, nodup_cons] at distinct
    rcases mem_cons.mp member with equal | later
    · simp [find_cons, ← equal]
    · have other : entry.1 ≠ key := fun same =>
        distinct.1 (mem_map.mpr ⟨(key, value), later, same.symm⟩)
      rw [find_cons, if_neg other]
      exact ih distinct.2 later

theorem get?_eq_some_iff : dictionary.get? key = some value ↔ (key, value) ∈ dictionary.entries :=
  ⟨mem_of_find, find_of_mem dictionary.distinct⟩

theorem mem_keys_iff : key ∈ dictionary.keys ↔ ∃ value, dictionary.get? key = some value := by
  simp [keys, get?_eq_some_iff]

theorem mem_values_iff : value ∈ dictionary.values ↔ ∃ key, dictionary.get? key = some value := by
  simp [values, get?_eq_some_iff]

@[simp] theorem get?_empty : (empty : Dictionary K V).get? key = none := rfl

@[simp] theorem get?_set {other : K} :
    (dictionary.set key value).get? other = if other = key then some value else dictionary.get? other := by
  obtain ⟨entries, distinct⟩ := dictionary
  simp only [get?, set]
  clear distinct
  induction entries with
  | nil => simp [find_cons, eq_comm]
  | cons entry rest ih =>
    by_cases same : entry.1 = key
    · by_cases target : other = key
      · simp [assign_cons, find_cons, same, target]
      · simp [assign_cons, find_cons, same, target, Ne.symm target]
    · by_cases first : entry.1 = other
      · have target : other ≠ key := fun equal => same (first.trans equal)
        simp [assign_cons, find_cons, first, target]
      · simp [assign_cons, find_cons, same, first, ih]

theorem foldl_set_get? : (pairs.foldl (fun table pair => table.set pair.1 pair.2) dictionary).get? key =
      (find key pairs.reverse).or (dictionary.get? key) := by
  induction pairs generalizing dictionary with
  | nil => simp
  | cons pair rest ih =>
    rw [foldl_cons, ih, get?_set, reverse_cons, find_append, Option.or_assoc]
    by_cases same : pair.1 = key
    · simp [find_cons, same]
    · simp [find_cons, same, Ne.symm same]

/-- An update keeps the keys of a dictionary and adds those of the pairs. -/
theorem mem_keys_update : key ∈ (dictionary.update pairs).keys ↔ key ∈ dictionary.keys ∨ key ∈ pairs.map Prod.fst := by
  have updated : (dictionary.update pairs).get? key = (find key pairs.reverse).or (dictionary.get? key) :=
    foldl_set_get?
  rw [mem_keys_iff, mem_keys_iff, ← Option.ne_none_iff_exists', ← Option.ne_none_iff_exists', updated, ne_eq,
    Option.or_eq_none_iff, find_eq_none_iff, map_reverse, mem_reverse]
  tauto

theorem get?_update : (dictionary.update pairs).get? key = (find key pairs.reverse).or (dictionary.get? key) :=
  foldl_set_get?

variable {E : Type} {pairsOf : E → List (K × V)} {sources : List E}

/-- Updates that do not name a key keep its value. -/
theorem get?_updates_of_fresh (fresh : ∀ source ∈ sources, key ∉ (pairsOf source).map Prod.fst) :
    (sources.foldl (fun table source => table.update (pairsOf source)) dictionary).get? key = dictionary.get? key := by
  induction sources generalizing dictionary with
  | nil => rfl
  | cons source rest ih =>
    have absent : find key (pairsOf source).reverse = none := by
      rw [find_eq_none_iff, map_reverse, mem_reverse]
      exact fresh source mem_cons_self
    rw [foldl_cons, ih fun other member => fresh other (mem_cons_of_mem _ member), get?_update, absent, Option.none_or]

/-- Among several updates, the only one that names a key decides its value. -/
theorem get?_updates_of_mem {chosen : E}
    (distinct : ((pairsOf chosen).map Prod.fst).Nodup) (named : (key, value) ∈ pairsOf chosen)
    (member : chosen ∈ sources) (only : ∀ source ∈ sources, key ∈ (pairsOf source).map Prod.fst → source = chosen) :
    (sources.foldl (fun table source => table.update (pairsOf source)) dictionary).get? key = some value := by
  induction sources generalizing dictionary with
  | nil => cases member
  | cons source rest ih =>
    have later := fun other (inside : other ∈ rest) => only other (mem_cons_of_mem _ inside)
    rw [foldl_cons]
    by_cases again : ∃ other ∈ rest, key ∈ (pairsOf other).map Prod.fst
    · obtain ⟨other, inside, contained⟩ := again
      have same := later other inside contained
      exact ih (same ▸ inside) later
    · have fresh : ∀ other ∈ rest, key ∉ (pairsOf other).map Prod.fst := fun other inside contained =>
        again ⟨other, inside, contained⟩
      have last : chosen = source := by
        rcases mem_cons.mp member with equal | inside
        · exact equal
        · exact absurd (mem_map.mpr ⟨(key, value), named, rfl⟩) (fresh chosen inside)
      have reversed : ((pairsOf chosen).reverse.map Prod.fst).Nodup := by
        rw [map_reverse]
        exact nodup_reverse.mpr distinct
      rw [get?_updates_of_fresh fresh, get?_update, ← last, find_of_mem reversed (mem_reverse.mpr named), Option.some_or]

/-- The keys after several updates. -/
theorem mem_keys_updates : key ∈ (sources.foldl (fun table source => table.update (pairsOf source)) dictionary).keys ↔
      key ∈ dictionary.keys ∨ ∃ source ∈ sources, key ∈ (pairsOf source).map Prod.fst := by
  induction sources generalizing dictionary with
  | nil => simp
  | cons source rest ih =>
    rw [foldl_cons, ih, mem_keys_update, or_assoc]
    simp only [mem_cons, exists_eq_or_imp]

/-- The last pair of a key decides its value. -/
theorem get?_comprehend : (comprehend pairs).get? key = find key pairs.reverse := by
  simp [comprehend, foldl_set_get?]

theorem get?_comprehend_of_mem (distinct : (pairs.map Prod.fst).Nodup) (member : (key, value) ∈ pairs) :
    (comprehend pairs).get? key = some value := by
  rw [get?_comprehend]
  refine find_of_mem ?_ (mem_reverse.mpr member)
  rw [map_reverse]
  exact nodup_reverse.mpr distinct

theorem foldl_set_entries (distinct : ((dictionary.entries ++ pairs).map Prod.fst).Nodup) :
    (pairs.foldl (fun table pair => table.set pair.1 pair.2) dictionary).entries = dictionary.entries ++ pairs := by
  induction pairs generalizing dictionary with
  | nil => exact (append_nil _).symm
  | cons pair rest ih =>
    have parts := distinct
    rw [map_append, map_cons, nodup_middle, nodup_cons, mem_append, not_or] at parts
    have appended : (dictionary.set pair.1 pair.2).entries = dictionary.entries ++ [pair] := assign_of_fresh parts.1.1
    rw [foldl_cons, ih, appended, append_assoc, singleton_append]
    rw [appended, append_assoc]
    exact distinct

/-- A comprehension with distinct keys lists its pairs. -/
theorem entries_comprehend (distinct : (pairs.map Prod.fst).Nodup) : (comprehend pairs).entries = pairs :=
  foldl_set_entries distinct

theorem mem_keys_comprehend : key ∈ (comprehend pairs).keys ↔ key ∈ pairs.map Prod.fst := by
  rw [mem_keys_iff, get?_comprehend, ← Option.ne_none_iff_exists', ne_eq, find_eq_none_iff, not_not, map_reverse, mem_reverse]

/-- The values that pairs give to a key. -/
def valuesOf (key : K) (pairs : List (K × V)) : List V :=
  (pairs.filter fun pair => pair.1 = key).map Prod.snd

theorem mem_valuesOf : value ∈ valuesOf key pairs ↔ (key, value) ∈ pairs := by
  simp only [valuesOf, mem_map, mem_filter, decide_eq_true_eq]
  constructor
  · rintro ⟨pair, ⟨member, rfl⟩, rfl⟩
    exact member
  · intro member
    exact ⟨(key, value), ⟨member, rfl⟩, rfl⟩

theorem foldl_group_get? {table : Dictionary K (List V)} :
    (pairs.foldl (fun table pair => table.set pair.1 ((table.get? pair.1).getD [] ++ [pair.2])) table).get? key =
      if valuesOf key pairs = [] then table.get? key else some ((table.get? key).getD [] ++ valuesOf key pairs) := by
  induction pairs generalizing table with
  | nil => simp [valuesOf]
  | cons pair rest ih =>
    rw [foldl_cons, ih, get?_set]
    by_cases same : pair.1 = key
    · subst same
      by_cases last : valuesOf pair.1 rest = []
      · have single : valuesOf pair.1 (pair :: rest) = [pair.2] := by
          simpa [valuesOf] using last
        simp [last, single]
      · have more : valuesOf pair.1 (pair :: rest) = pair.2 :: valuesOf pair.1 rest := by
          simp [valuesOf]
        simp [last, more]
    · have skipped : valuesOf key (pair :: rest) = valuesOf key rest := by
        simp [valuesOf, same]
      simp [skipped, Ne.symm same]

/-- A key of a grouping holds exactly the values given to it. -/
theorem get?_group {values : List V} : (group pairs).get? key = some values ↔ valuesOf key pairs = values ∧ values ≠ [] := by
  rw [group, foldl_group_get?]
  by_cases none : valuesOf key pairs = []
  · simp only [none, if_true, get?_empty]
    constructor
    · intro impossible
      simp at impossible
    · rintro ⟨rfl, nonempty⟩
      exact absurd rfl nonempty
  · simp only [none, if_false, get?_empty, Option.getD_none, nil_append, Option.some.injEq]
    constructor
    · rintro rfl
      exact ⟨rfl, none⟩
    · exact fun both => both.1

theorem getD_get?_group : ((group pairs).get? key).getD [] = valuesOf key pairs := by
  cases found : (group pairs).get? key with
  | none =>
    by_contra different
    have present := get?_group.mpr ⟨rfl, Ne.symm different⟩
    rw [found] at present
    cases present
  | some values =>
    obtain ⟨equal, -⟩ := get?_group.mp found
    exact equal.symm

theorem mem_keys_group : key ∈ (group pairs).keys ↔ ∃ value, (key, value) ∈ pairs := by
  rw [mem_keys_iff]
  constructor
  · rintro ⟨values, found⟩
    obtain ⟨rfl, nonempty⟩ := get?_group.mp found
    obtain ⟨value, member⟩ := exists_mem_of_ne_nil _ nonempty
    exact ⟨value, mem_valuesOf.mp member⟩
  · rintro ⟨value, member⟩
    exact ⟨_, get?_group.mpr ⟨rfl, ne_nil_of_mem (mem_valuesOf.mpr member)⟩⟩

theorem mem_keys_indexBy : key ∈ (indexBy identity items).keys ↔ ∃ item ∈ items, identity item = key := by
  simp [indexBy, mem_keys_comprehend]

theorem get?_indexBy_mem {item : A} (found : (indexBy identity items).get? key = some item) :
    item ∈ items ∧ identity item = key := by
  rw [indexBy, get?_comprehend] at found
  have member := mem_reverse.mp (mem_of_find found)
  obtain ⟨entry, entryMember, pairEqual⟩ := mem_map.mp member
  obtain ⟨keyEqual, itemEqual⟩ := Prod.mk.inj pairEqual
  exact itemEqual ▸ ⟨entryMember, keyEqual⟩

/-- Distinct identities make every item the one found under its identity. -/
theorem get?_indexBy_eq_some_iff (distinct : (items.map identity).Nodup) {item : A} :
    (indexBy identity items).get? key = some item ↔ item ∈ items ∧ identity item = key := by
  constructor
  · exact get?_indexBy_mem
  · rintro ⟨member, equal⟩
    have present : key ∈ (indexBy identity items).keys := mem_keys_indexBy.mpr ⟨item, member, equal⟩
    obtain ⟨other, found⟩ := mem_keys_iff.mp present
    obtain ⟨otherMember, otherEqual⟩ := get?_indexBy_mem found
    have same : other = item :=
      inj_on_of_nodup_map distinct otherMember member (otherEqual.trans equal.symm)
    rw [found, same]

/-- What is good in an index is good in the items. -/
theorem exists_get?_indexBy (distinct : (items.map identity).Nodup) {good : A → Prop} :
    (∃ item, (indexBy identity items).get? key = some item ∧ good item) ↔ ∃ item ∈ items, identity item = key ∧ good item := by
  simp only [get?_indexBy_eq_some_iff distinct, and_assoc]

theorem get?_indexBy_eq_none_iff : (indexBy identity items).get? key = none ↔ ∀ item ∈ items, identity item ≠ key := by
  rw [← not_iff_not, ← ne_eq, Option.ne_none_iff_exists', ← mem_keys_iff, mem_keys_indexBy]
  push Not
  rfl

/-- The entries of an index by distinct identities are its items under their identities. -/
theorem forall_entries_indexBy (distinct : (items.map identity).Nodup) {holds : K × A → Prop} :
    (∀ entry ∈ (indexBy identity items).entries, holds entry) ↔ ∀ item ∈ items, holds (identity item, item) := by
  constructor
  · intro every item member
    exact every _ (get?_eq_some_iff.mp ((get?_indexBy_eq_some_iff distinct).mpr ⟨member, rfl⟩))
  · rintro every ⟨key, item⟩ member
    obtain ⟨inside, rfl⟩ := get?_indexBy_mem (get?_eq_some_iff.mpr member)
    exact every item inside

end Dictionary

end CiCoordinator.Library

import CiCoordinator.Kernel.CanonicalJson
import CiCoordinator.Library.JsonSyntax

/- The strict JSON loader for untrusted bytes. -/

namespace CiCoordinator.Kernel

open Library Json Option

/-- The host's JSON decoder gives up beyond a nesting depth that depends on the interpreter. -/
class Interpreter where
  jsonRecursionLimit : Nat

/-- The host refuses integer texts with more digits than this. -/
def maxIntegerDigits : Nat :=
  4300

mutual

/-- The nesting depth of a document. -/
def nesting : JsonSyntax → Nat
  | .arr items => nestingItems items + 1
  | .obj members => nestingMembers members + 1
  | _ => 0

/-- The greatest nesting depth among items. -/
def nestingItems : List JsonSyntax → Nat
  | [] => 0
  | item :: rest => max (nesting item) (nestingItems rest)

/-- The greatest nesting depth among members. -/
def nestingMembers : List (Text × JsonSyntax) → Nat
  | [] => 0
  | (_, value) :: rest => max (nesting value) (nestingMembers rest)

end

/-- The host reads a literal without fraction and exponent as an integer and every other one as a float. -/
def loadNumber (literal : NumberLiteral) : Option Json :=
  match literal.fraction, literal.exponent with
  | none, none =>
    if maxIntegerDigits < literal.whole.length then none
    else
      let magnitude : Int := readDigits literal.whole
      some (.int (if literal.negative then -magnitude else magnitude))
  | _, _ => if literal.toFloat64.isFinite then some (.float literal.toFloat64) else none

mutual

/-- Strict loading refuses surrogates, repeated names and numbers beyond the host's range. -/
def loadTree : JsonSyntax → Option Json
  | .null => some .null
  | .bool value => some (.bool value)
  | .number literal => loadNumber literal
  | .str value => if value.scalar then some (.str value) else none
  | .arr items => (loadItems items).map .arr
  | .obj members => (loadMembers members).map .obj

/-- The items of a strictly loaded array. -/
def loadItems : List JsonSyntax → Option (List Json)
  | [] => some []
  | item :: rest =>
    match loadTree item, loadItems rest with
    | some value, some values => some (value :: values)
    | _, _ => none

/-- The members of a strictly loaded object. -/
def loadMembers : List (Text × JsonSyntax) → Option (List (Text × Json))
  | [] => some []
  | (key, item) :: rest =>
    match loadTree item, loadMembers rest with
    | some value, some values =>
      if key.scalar ∧ key ∉ values.map Prod.fst then some ((key, value) :: values) else none
    | _, _ => none

end

/-- Strict JSON bytes are bounded, well formed and within the host's limits. -/
def loadStrictJson [Interpreter] (body : List Nat) (maxBytes : Nat) : Py Json := do
  raiseIf (maxBytes < body.length) (.strictJsonError (ascii "strict JSON input exceeds its byte bound"))
  match (Text.decodeUtf8 body).bind JsonSyntax.read with
  | none => .error (.strictJsonError (ascii "invalid strict JSON bytes"))
  | some tree =>
    if Interpreter.jsonRecursionLimit < nesting tree then
      .error (.strictJsonError (ascii "invalid strict JSON bytes"))
    else
      match loadTree tree with
      | none => .error (.strictJsonError (ascii "invalid strict JSON bytes"))
      | some value => .ok value

mutual

/-- Every string of a value, names included, is scalar. -/
def Json.scalarStrings : Json → Prop
  | .str value => value.scalar = true
  | .arr items => scalarItems items
  | .obj members => scalarMembers members
  | .null => True
  | .bool _ => True
  | .int _ => True
  | .float _ => True

/-- Every string of the items is scalar. -/
def Json.scalarItems : List Json → Prop
  | [] => True
  | item :: rest => item.scalarStrings ∧ scalarItems rest

/-- Every string and every name of the members is scalar. -/
def Json.scalarMembers : List (Text × Json) → Prop
  | [] => True
  | (key, value) :: rest => key.scalar = true ∧ value.scalarStrings ∧ scalarMembers rest

end

theorem scalarStrings_loadNumber {literal : NumberLiteral} {value : Json} (loaded : loadNumber literal = some value) :
    value.scalarStrings := by
  unfold loadNumber at loaded
  split at loaded
  · split at loaded
    · simp at loaded
    · rw [← some.inj loaded, scalarStrings]
      trivial
  · obtain ⟨-, equal⟩ := ite_none_right_eq_some.mp loaded
    rw [← some.inj equal, scalarStrings]
    trivial

mutual

/-- Strictly loaded values have scalar strings only. -/
theorem scalarStrings_loadTree : (tree : JsonSyntax) → (value : Json) → loadTree tree = some value → value.scalarStrings
  | .null, value, loaded => by
    rw [← Option.some.inj loaded, scalarStrings]
    trivial
  | .bool _, value, loaded => by
    rw [← Option.some.inj loaded, scalarStrings]
    trivial
  | .number literal, value, loaded => by
    exact scalarStrings_loadNumber loaded
  | .str text, value, loaded => by
    obtain ⟨scalar, equal⟩ := ite_none_right_eq_some.mp loaded
    rw [← some.inj equal, scalarStrings]
    exact scalar
  | .arr items, value, loaded => by
    obtain ⟨values, found, rfl⟩ := map_eq_some_iff.mp loaded
    exact scalarItems_loadItems items values found
  | .obj members, value, loaded => by
    obtain ⟨values, found, rfl⟩ := map_eq_some_iff.mp loaded
    exact scalarMembers_loadMembers members values found

theorem scalarItems_loadItems : (items : List JsonSyntax) → (values : List Json) → loadItems items = some values →
    scalarItems values
  | [], values, loaded => by
    rw [← Option.some.inj loaded, scalarItems]
    trivial
  | item :: rest, values, loaded => by
    rw [loadItems] at loaded
    split at loaded
    · rename_i value others first remaining
      rw [← Option.some.inj loaded, scalarItems]
      exact ⟨scalarStrings_loadTree item value first, scalarItems_loadItems rest others remaining⟩
    · simp at loaded

theorem scalarMembers_loadMembers : (members : List (Text × JsonSyntax)) → (values : List (Text × Json)) →
    loadMembers members = some values → scalarMembers values
  | [], values, loaded => by
    rw [← Option.some.inj loaded, scalarMembers]
    trivial
  | (key, item) :: rest, values, loaded => by
    rw [loadMembers] at loaded
    split at loaded
    · rename_i value others first remaining
      obtain ⟨admitted, equal⟩ := ite_none_right_eq_some.mp loaded
      rw [← some.inj equal, scalarMembers]
      exact ⟨admitted.1, scalarStrings_loadTree item value first, scalarMembers_loadMembers rest others remaining⟩
    · simp at loaded

end

/-- Strict loading returns scalar strings or raises its own error. -/
theorem loadStrictJson_spec [Interpreter] (body : List Nat) (maxBytes : Nat) :
    (∃ value, loadStrictJson body maxBytes = .ok value ∧ value.scalarStrings) ∨
      ∃ message, loadStrictJson body maxBytes = .error (.strictJsonError message) := by
  unfold loadStrictJson
  by_cases long : maxBytes < body.length
  · exact .inr ⟨_, by simp only [raiseIf, if_pos long]; rfl⟩
  · simp only [raiseIf, if_neg long]
    split
    · exact .inr ⟨_, rfl⟩
    · rename_i tree read
      split
      · exact .inr ⟨_, rfl⟩
      · split
        · exact .inr ⟨_, rfl⟩
        · rename_i value loaded
          exact .inl ⟨value, rfl, scalarStrings_loadTree tree value loaded⟩

end CiCoordinator.Kernel

import CiCoordinator.Kernel.CanonicalReading

/- The strict loader of documents that are bounded in depth and size. -/

namespace CiCoordinator.Kernel

open Library

mutual

/-- The depth of the deepest value of a document. -/
def valueDepth : JsonSyntax → Nat
  | .arr items => depthItems items
  | .obj members => depthMembers members
  | _ => 0

/-- The depth of the deepest value below an array. -/
def depthItems : List JsonSyntax → Nat
  | [] => 0
  | item :: rest => max (valueDepth item + 1) (depthItems rest)

/-- The depth of the deepest value below an object. -/
def depthMembers : List (Text × JsonSyntax) → Nat
  | [] => 0
  | (_, value) :: rest => max (valueDepth value + 1) (depthMembers rest)

end

mutual

/-- The number of values of a document. -/
def valueCount : JsonSyntax → Nat
  | .arr items => countItems items + 1
  | .obj members => countMembers members + 1
  | _ => 1

/-- The number of values below an array. -/
def countItems : List JsonSyntax → Nat
  | [] => 0
  | item :: rest => valueCount item + countItems rest

/-- The number of values below an object. -/
def countMembers : List (Text × JsonSyntax) → Nat
  | [] => 0
  | (_, value) :: rest => valueCount value + countMembers rest

end

variable (limits : JsonResourceLimits)

/-- A document that stays within its limits. -/
def JsonResourceLimits.Admit (tree : JsonSyntax) : Prop :=
  valueDepth tree ≤ limits.maxDepth ∧ valueCount tree ≤ limits.maxNodes

instance (limits : JsonResourceLimits) (tree : JsonSyntax) : Decidable (limits.Admit tree) :=
  inferInstanceAs (Decidable (_ ∧ _))

/-- The syntax and the limits of a document are checked before its values are loaded. -/
def preflight (body : List Nat) : Py Unit :=
  match (Text.decodeUtf8 body).bind JsonSyntax.read with
  | none => .error (.strictJsonError (ascii "invalid strict JSON bytes"))
  | some tree => raiseIf (¬ limits.Admit tree) (.strictJsonError (ascii "invalid strict JSON bytes"))

def loadLimitedJson [Interpreter] (body : List Nat) (maxBytes : Nat) (limits : JsonResourceLimits) : Py Json := do
  raiseIf (maxBytes < body.length) (.strictJsonError (ascii "strict JSON input exceeds its byte bound"))
  preflight limits body
  loadStrictJson body maxBytes

variable [Interpreter] {value : Json} {maxBytes : Nat} {limits : JsonResourceLimits}

/-- The limited loader reads the canonical text of a small value back. -/
theorem loadLimitedJson_render (exact : value.Exact) (passed : admissible value = true) (distinct : value.distinct)
    (fits : (render value).utf8.length ≤ maxBytes) (shallow : nesting value.tree ≤ Interpreter.jsonRecursionLimit)
    (small : limits.Admit value.tree) : loadLimitedJson (render value).utf8 maxBytes limits = .ok value := by
  have syntactic : preflight limits (render value).utf8 = .ok () := by
    rw [preflight, Text.decodeUtf8_utf8 (scalar_render value passed), Option.bind_some, read_render passed]
    exact raiseIf_eq_ok.mpr (not_not.mpr small)
  rw [loadLimitedJson, raiseIf, if_neg (not_lt.mpr fits), ok_bind_eq, syntactic, ok_bind_eq]
  exact loadStrictJson_render exact passed distinct fits shallow

end CiCoordinator.Kernel

import CiCoordinator.Kernel.NumberText
import CiCoordinator.Library.Dictionary

/- The values of the target's host language, its JSON parser and its notation of primitive values. -/

namespace CiCoordinator.TargetArtifacts

open Library Kernel

/-- A value that a JSON document can denote; an object lists its own properties in the order of their creation. -/
inductive JsValue where
  | null
  | bool (value : Bool)
  | number (value : Float64)
  | str (value : Text)
  | arr (items : List JsValue)
  | obj (properties : List (Text × JsValue))

mutual

/-- The value of a document; a repeated name keeps its place and takes the later value. -/
def JsValue.ofTree : JsonSyntax → JsValue
  | .null => .null
  | .bool value => .bool value
  | .number literal => .number literal.toFloat64
  | .str value => .str value
  | .arr items => .arr (JsValue.ofItems items)
  | .obj members => .obj (JsValue.ofMembers members [])

/-- The values of array items. -/
def JsValue.ofItems : List JsonSyntax → List JsValue
  | [] => []
  | item :: rest => JsValue.ofTree item :: JsValue.ofItems rest

/-- Members are defined as properties from first to last. -/
def JsValue.ofMembers : List (Text × JsonSyntax) → List (Text × JsValue) → List (Text × JsValue)
  | [], properties => properties
  | (key, item) :: rest, properties =>
    JsValue.ofMembers rest (Dictionary.assign key (JsValue.ofTree item) properties)

end

/-- What the target's programs throw; a full call stack is a range error. -/
inductive ScriptError where
  | error (message : Text)
  | typeError
  | rangeError
  deriving DecidableEq

/-- `JSON.parse`, which throws on a text that is no document. -/
def jsonParse (text : Text) : Option JsValue :=
  (JsonSyntax.read text).map JsValue.ofTree

/-- A name that is the notation of an array index. -/
def isArrayIndex (key : Text) : Bool :=
  key = decimal (readDigits key) && readDigits key < 2 ^ 32 - 1

/-- `Object.entries` lists array indices in ascending order before all other names. -/
def objectEntries {A : Type} (properties : List (Text × A)) : List (Text × A) :=
  sortBy (fun property => readDigits property.1) (properties.filter fun property => isArrayIndex property.1) ++
    properties.filter fun property => !isArrayIndex property.1

/-- `Number::toString` lays the shortest digits of a number out; both zeros are written alike. -/
def numberToString : Float64 → Text
  | .nan => ascii "NaN"
  | .infinity negative => if negative then ascii "-Infinity" else ascii "Infinity"
  | .finite number => (numberLiteral number).text

/-- A character inside a quoted string; lone surrogates are escaped. -/
def quotePoint (point : CodePoint) : Text :=
  if point = 0x08 then ascii "\\b"
  else if point = 0x09 then ascii "\\t"
  else if point = 0x0A then ascii "\\n"
  else if point = 0x0C then ascii "\\f"
  else if point = 0x0D then ascii "\\r"
  else if point = 0x22 then ascii "\\\""
  else if point = 0x5C then ascii "\\\\"
  else if point.val < 0x20 ∨ point.isSurrogate then ascii "\\u" ++ Sha256.hexadecimal 4 point.val []
  else [point]

/-- `JSON.stringify` of a string. -/
def quoteJsonString (value : Text) : Text :=
  ascii "\"" ++ value.flatMap quotePoint ++ ascii "\""

/-- `JSON.stringify` of a number writes null for what JSON cannot denote. -/
def stringifyNumber (value : Float64) : Text :=
  if value.isFinite then numberToString value else ascii "null"

theorem quotePoint_scalar {point : CodePoint} (scalar : point.isSurrogate = false) : quotePoint point = escapePoint point := by
  unfold quotePoint escapePoint
  split_ifs <;> first | rfl | simp_all

/-- Both hosts quote scalar strings alike. -/
theorem quoteJsonString_scalar {value : Text} (scalar : value.scalar = true) : quoteJsonString value = jsonString value := by
  have points : value.flatMap quotePoint = value.flatMap escapePoint := by
    refine List.flatMap_congr fun point member => quotePoint_scalar ?_
    simpa using List.all_eq_true.mp scalar point member
  rw [quoteJsonString, points, jsonString]

theorem objectEntries_perm {A : Type} (properties : List (Text × A)) : (objectEntries properties).Perm properties := by
  have parts := List.filter_append_perm (fun property : Text × A => isArrayIndex property.1) properties
  exact ((sortBy_perm _ _).append_right _).trans parts

end CiCoordinator.TargetArtifacts

import CiCoordinator.Kernel.Errors
import CiCoordinator.Library.Float64
import CiCoordinator.Library.Sorting
import CiCoordinator.Library.Sha256

/- The canonical JSON writer of the kernel and the object hash over it. -/

namespace CiCoordinator.Kernel

open Library List

/-- A value of the JSON domain; an object lists its members in insertion order. -/
inductive Json where
  | null
  | bool (value : Bool)
  | int (value : Int)
  | float (value : Float64)
  | str (value : Text)
  | arr (items : List Json)
  | obj (members : List (Text × Json))

/-- What holds of an array when it holds of the items, and of an object when it holds of the members, holds of every value. -/
@[induction_eliminator] theorem Json.induct {motive : Json → Prop} (null : motive .null) (bool : ∀ value, motive (.bool value))
    (int : ∀ value, motive (.int value)) (float : ∀ value, motive (.float value)) (str : ∀ value, motive (.str value))
    (arr : ∀ items, (∀ item ∈ items, motive item) → motive (.arr items))
    (obj : ∀ members, (∀ member ∈ members, motive member.2) → motive (.obj members)) (value : Json) : motive value :=
  @Json.rec motive (fun items => ∀ item ∈ items, motive item) (fun members => ∀ member ∈ members, motive member.2)
    (fun member => motive member.2) null bool int float str arr obj (forall_mem_nil _)
    (fun _ _ head tail => forall_mem_cons.mpr ⟨head, tail⟩) (forall_mem_nil _)
    (fun _ _ head tail => forall_mem_cons.mpr ⟨head, tail⟩) (fun _ _ inside => inside) value

/-- The largest integer that both hosts represent exactly. -/
def maxSafeJsonInteger : Nat :=
  9007199254740991

/-- The bounds of a resource-limited traversal. -/
structure JsonResourceLimits where
  maxDepth : Nat
  maxNodes : Nat
  positive : 1 ≤ maxNodes
  deriving DecidableEq

/-- The place of a value inside the traversed document. -/
structure ValueFrame where
  path : Text
  instancePointer : Text
  depth : Nat

/-- The frame of the whole document. -/
def rootFrame : ValueFrame :=
  ⟨ascii "$", [], 0⟩

/-- A pointer token escapes the tilde before the slash. -/
def jsonPointerChild (instancePointer token : Text) : Text :=
  instancePointer ++ ascii "/" ++
    token.flatMap fun point =>
      if point = 0x7E then ascii "~0" else if point = 0x2F then ascii "~1" else [point]

/-- The frame of an array item. -/
def ValueFrame.item (frame : ValueFrame) (index : Nat) : ValueFrame :=
  ⟨frame.path ++ ascii "[" ++ decimal index ++ ascii "]", jsonPointerChild frame.instancePointer (decimal index),
    frame.depth + 1⟩

/-- The frame of an object member. -/
def ValueFrame.member (frame : ValueFrame) (key : Text) : ValueFrame :=
  ⟨frame.path ++ ascii "." ++ key, jsonPointerChild frame.instancePointer key, frame.depth + 1⟩

variable (limits : Option JsonResourceLimits)

/-- Every visited value counts against the limits. -/
def visit (frame : ValueFrame) (nodes : Nat) : Py Nat :=
  match limits with
  | none => .ok nodes
  | some limits =>
    if limits.maxDepth < frame.depth then
      .error (.canonicalJsonError ⟨.jsonMaxDepthExceeded, frame.path,
        ascii "maximum JSON depth is " ++ decimal limits.maxDepth, some frame.instancePointer,
        some limits.maxDepth, some frame.depth⟩)
    else if limits.maxNodes < nodes + 1 then
      .error (.canonicalJsonError ⟨.jsonMaxNodesExceeded, frame.path,
        ascii "maximum JSON node count is " ++ decimal limits.maxNodes, some frame.instancePointer,
        some limits.maxNodes, some (nodes + 1)⟩)
    else .ok (nodes + 1)

/-- A container is refused before its children when they cannot all be counted. -/
def admitDirectChildren (childCount : Nat) (frame : ValueFrame) (nodes : Nat) :
    Py Unit :=
  match limits with
  | none => .ok ()
  | some limits =>
    raiseIf ((limits.maxNodes : Int) - nodes < childCount) (.canonicalJsonError ⟨.jsonMaxNodesExceeded, frame.path,
        ascii "maximum JSON node count is " ++ decimal limits.maxNodes, some frame.instancePointer,
        some limits.maxNodes, some (limits.maxNodes + 1)⟩)

/-- Surrogates are not written. -/
def rejectSurrogates (value : Text) (path : Text) (message : Text) : Py Unit :=
  raiseIf (value.scalar = false) (.canonicalJsonError ⟨.invalidUnicodeScalar, path, message, none, none, none⟩)

/-- Integers beyond the safe range are not written. -/
def rejectUnsafeInteger (value : Int) (path : Text) : Py Unit :=
  raiseIf (maxSafeJsonInteger < value.natAbs)
    (.canonicalJsonError ⟨.unsafeInteger, path, ascii "integer exceeds JSON safe integer range", none, none, none⟩)

/-- The characters of one code point inside a JSON string. -/
def escapePoint (point : CodePoint) : Text :=
  if point = 0x22 then ascii "\\\""
  else if point = 0x5C then ascii "\\\\"
  else if point = 0x0A then ascii "\\n"
  else if point = 0x0D then ascii "\\r"
  else if point = 0x09 then ascii "\\t"
  else if point = 0x0C then ascii "\\f"
  else if point = 0x08 then ascii "\\b"
  else if point.val < 0x20 then ascii "\\u" ++ Sha256.hexadecimal 4 point.val []
  else [point]

/-- A JSON string escapes quotes, backslashes and control characters only. -/
def jsonString (value : Text) : Text :=
  ascii "\"" ++ value.flatMap escapePoint ++ ascii "\""

/-- The digits and the power of ten of a decimal, written as the host prints a magnitude. -/
def reprMagnitude (digits : Text) (decimalPoint : Int) : Text :=
  if -4 < decimalPoint ∧ decimalPoint ≤ 16 then
    if decimalPoint ≤ 0 then ascii "0." ++ List.replicate (-decimalPoint).toNat 0x30 ++ digits
    else if digits.length ≤ decimalPoint.toNat then
      digits ++ List.replicate (decimalPoint.toNat - digits.length) 0x30 ++ ascii ".0"
    else digits.take decimalPoint.toNat ++ ascii "." ++ digits.drop decimalPoint.toNat
  else
    let exponent := decimalPoint - 1
    let magnitude := decimal exponent.natAbs
    digits.take 1 ++ (if digits.length ≤ 1 then [] else ascii "." ++ digits.drop 1) ++ ascii "e" ++
      (if exponent < 0 then ascii "-" else ascii "+") ++
      (if magnitude.length < 2 then ascii "0" ++ magnitude else magnitude)

/-- The host's notation of a finite magnitude uses its shortest digits. -/
def reprFloat (number : FiniteFloat) : Text :=
  let shortest := number.shortestDecimal
  let digits := decimal shortest.1
  reprMagnitude digits (digits.length + shortest.2)

/-- The text before and after the first occurrence of a character, if there is one. -/
def splitOnce (separator : CodePoint) (text : Text) : Option (Text × Text) :=
  match text.span (· ≠ separator) with
  | (_, []) => none
  | (before, _ :: after) => some (before, after)

/-- The integer written by an optional sign and digits. -/
def readExponentText (text : Text) : Int :=
  match text with
  | [] => 0
  | sign :: digits =>
    if sign = 0x2D then -(readDigits digits : Int)
    else if sign = 0x2B then readDigits digits
    else readDigits text

/-- The digits of a mantissa and the position of its decimal point. -/
def decimalParts (mantissa : Text) (exponent : Int) : Text × Int :=
  match splitOnce 0x2E mantissa with
  | none => (mantissa, mantissa.length + exponent)
  | some (whole, fraction) => (whole ++ fraction, whole.length + exponent)

/-- A text without its trailing run of a character. -/
def stripRight (character : CodePoint) (text : Text) : Text :=
  (text.reverse.dropWhile (· = character)).reverse

/-- Digits laid out around a decimal point. -/
def fixedDecimal (digits : Text) (decimalIndex : Int) : Text :=
  let text :=
    if decimalIndex ≤ 0 then ascii "0." ++ List.replicate decimalIndex.natAbs 0x30 ++ digits
    else if (digits.length : Int) ≤ decimalIndex then
      digits ++ List.replicate (decimalIndex - digits.length).toNat 0x30
    else digits.take decimalIndex.toNat ++ ascii "." ++ digits.drop decimalIndex.toNat
  if (0x2E : CodePoint) ∈ text then stripRight 0x2E (stripRight 0x30 text) else text

/-- The trailing fraction of an integral float is dropped. -/
def stripIntegerFloat (text : Text) : Text :=
  if (ascii ".0").isSuffixOf text then text.take (text.length - 2) else text

/-- The ECMAScript notation is derived from the host's notation of the magnitude. -/
def ecmascriptNumberText (number : FiniteFloat) : Text :=
  let sign := if number.negative then ascii "-" else []
  let text := reprFloat number
  match splitOnce 0x65 text with
  | none => sign ++ stripIntegerFloat text
  | some (mantissa, exponentText) =>
    let exponent := readExponentText exponentText
    let parts := decimalParts mantissa exponent
    if -6 ≤ exponent ∧ exponent < 21 then sign ++ fixedDecimal parts.1 parts.2
    else
      let rest := stripRight 0x30 (parts.1.drop 1)
      let exponentSuffix := if 0 ≤ exponent then ascii "+" ++ decimalInt exponent else decimalInt exponent
      if rest = [] then sign ++ parts.1.take 1 ++ ascii "e" ++ exponentSuffix
      else sign ++ parts.1.take 1 ++ ascii "." ++ rest ++ ascii "e" ++ exponentSuffix

/-- A float is written only when it is finite and within the safe magnitude. -/
def canonicalFloat (value : Float64) (path : Text) : Py Text :=
  match value with
  | .finite number =>
    if maxSafeJsonInteger * number.denominator < number.numerator then
      .error (.canonicalJsonError
        ⟨.unsafeInteger, path, ascii "number exceeds JSON safe integer magnitude", none, none, none⟩)
    else if number.significand = 0 then .ok (ascii "0")
    else .ok (ecmascriptNumberText number)
  | _ => .error (.canonicalJsonError ⟨.nonFiniteNumber, path, ascii "number must be finite", none, none, none⟩)

mutual

/-- Object members are ordered by code point at every level. -/
def sortMembers : Json → Json
  | .arr items => .arr (sortMembersItems items)
  | .obj members => .obj (sortBy Prod.fst (sortMembersEntries members))
  | .null => .null
  | .bool value => .bool value
  | .int value => .int value
  | .float value => .float value
  | .str value => .str value

/-- The items of an array with their members ordered. -/
def sortMembersItems : List Json → List Json
  | [] => []
  | item :: rest => sortMembers item :: sortMembersItems rest

/-- The members of an object with their own members ordered. -/
def sortMembersEntries : List (Text × Json) → List (Text × Json)
  | [] => []
  | (key, value) :: rest => (key, sortMembers value) :: sortMembersEntries rest

end

mutual

/-- The writer visits a value, then its children from left to right, and raises at the first one it refuses. -/
def writeValue (limits : Option JsonResourceLimits) : Json → ValueFrame → Nat → Py (Text × Nat)
  | .null, frame, nodes => do
    let nodes ← visit limits frame nodes
    return (ascii "null", nodes)
  | .bool value, frame, nodes => do
    let nodes ← visit limits frame nodes
    return (if value then ascii "true" else ascii "false", nodes)
  | .str value, frame, nodes => do
    let nodes ← visit limits frame nodes
    rejectSurrogates value frame.path (ascii "string contains surrogate code point")
    return (jsonString value, nodes)
  | .int value, frame, nodes => do
    let nodes ← visit limits frame nodes
    rejectUnsafeInteger value frame.path
    return (decimalInt value, nodes)
  | .float value, frame, nodes => do
    let nodes ← visit limits frame nodes
    let text ← canonicalFloat value frame.path
    return (text, nodes)
  | .arr items, frame, nodes => do
    let nodes ← visit limits frame nodes
    admitDirectChildren limits items.length frame nodes
    let (text, nodes) ← writeItems limits items frame 0 nodes
    return (ascii "[" ++ text ++ ascii "]", nodes)
  | .obj members, frame, nodes => do
    let nodes ← visit limits frame nodes
    admitDirectChildren limits members.length frame nodes
    forEach (fun member => rejectSurrogates member.1 frame.path (ascii "object key contains surrogate code point"))
      members
    let (text, nodes) ← writeMembers limits members frame true nodes
    return (ascii "\x7b" ++ text ++ ascii "\x7d", nodes)

/-- The items of an array are separated by commas. -/
def writeItems (limits : Option JsonResourceLimits) : List Json → ValueFrame → Nat → Nat → Py (Text × Nat)
  | [], _, _, nodes => .ok ([], nodes)
  | item :: rest, frame, index, nodes => do
    let (text, nodes) ← writeValue limits item (frame.item index) nodes
    let (others, nodes) ← writeItems limits rest frame (index + 1) nodes
    return ((if index = 0 then text else ascii "," ++ text) ++ others, nodes)

/-- The members of an object are separated by commas and name their values. -/
def writeMembers (limits : Option JsonResourceLimits) : List (Text × Json) → ValueFrame → Bool → Nat → Py (Text × Nat)
  | [], _, _, nodes => .ok ([], nodes)
  | (key, value) :: rest, frame, first, nodes => do
    let (text, nodes) ← writeValue limits value (frame.member key) nodes
    let (others, nodes) ← writeMembers limits rest frame false nodes
    return ((if first then [] else ascii ",") ++ jsonString key ++ ascii ":" ++ text ++ others, nodes)

end

/-- A float that the writer does not refuse. -/
def safeFloat : Float64 → Bool
  | .finite number => number.numerator ≤ maxSafeJsonInteger * number.denominator
  | _ => false

mutual

/-- A value that the writer does not refuse when it has no limits. -/
def admissible : Json → Bool
  | .null => true
  | .bool _ => true
  | .str value => value.scalar
  | .int value => value.natAbs ≤ maxSafeJsonInteger
  | .float value => safeFloat value
  | .arr items => admissibleItems items
  | .obj members => admissibleMembers members

/-- Items that the writer does not refuse. -/
def admissibleItems : List Json → Bool
  | [] => true
  | item :: rest => admissible item && admissibleItems rest

/-- Members that the writer does not refuse. -/
def admissibleMembers : List (Text × Json) → Bool
  | [] => true
  | (key, value) :: rest => key.scalar && admissible value && admissibleMembers rest

end

/-- The text of a float that the writer does not refuse. -/
def renderFloat : Float64 → Text
  | .finite number => if number.significand = 0 then ascii "0" else ecmascriptNumberText number
  | _ => []

mutual

/-- The text of a value that the writer does not refuse. -/
def render : Json → Text
  | .null => ascii "null"
  | .bool value => if value then ascii "true" else ascii "false"
  | .str value => jsonString value
  | .int value => decimalInt value
  | .float value => renderFloat value
  | .arr items => ascii "[" ++ renderItems items true ++ ascii "]"
  | .obj members => ascii "\x7b" ++ renderMembers members true ++ ascii "\x7d"

/-- The text of the items of an array. -/
def renderItems : List Json → Bool → Text
  | [], _ => []
  | item :: rest, first => (if first then [] else ascii ",") ++ render item ++ renderItems rest false

/-- The text of the members of an object. -/
def renderMembers : List (Text × Json) → Bool → Text
  | [], _ => []
  | (key, value) :: rest, first =>
    (if first then [] else ascii ",") ++ jsonString key ++ ascii ":" ++ render value ++ renderMembers rest false

end

/-- The canonical text of a value. -/
def canonicalJsonText (value : Json) (limits : Option JsonResourceLimits) : Py Text := do
  let (text, _) ← writeValue limits (sortMembers value) rootFrame 0
  return text

/-- The canonical bytes of a value. -/
def canonicalJson (value : Json) (limits : Option JsonResourceLimits) : Py (List Nat) := do
  let text ← canonicalJsonText value limits
  return text.utf8

/-- The hash of a value is the digest of its canonical bytes. -/
def hashObject (value : Json) : Py Text := do
  let bytes ← canonicalJson value none
  return sha256Hex bytes

@[simp] theorem admissible_null : admissible .null = true := rfl

@[simp] theorem admissible_bool (value : Bool) : admissible (.bool value) = true := rfl

@[simp] theorem admissible_str (value : Text) : admissible (.str value) = value.scalar := rfl

@[simp] theorem admissible_int (value : Int) : admissible (.int value) = decide (value.natAbs ≤ maxSafeJsonInteger) := rfl

@[simp] theorem admissible_float (value : Float64) : admissible (.float value) = safeFloat value := rfl

@[simp] theorem admissible_arr (items : List Json) : admissible (.arr items) = items.all admissible := by
  show admissibleItems items = _
  induction items with
  | nil => rfl
  | cons item rest ih =>
    show (admissible item && admissibleItems rest) = _
    rw [ih, all_cons]

variable (members : List (Text × Json))

@[simp] theorem admissible_obj :
    admissible (.obj members) = members.all fun member => member.1.scalar && admissible member.2 := by
  show admissibleMembers members = _
  induction members with
  | nil => rfl
  | cons member rest ih =>
    show (member.1.scalar && admissible member.2 && admissibleMembers rest) = _
    rw [ih, all_cons]

theorem sortMembersItems_eq (items : List Json) : sortMembersItems items = items.map sortMembers := by
  induction items with
  | nil => rfl
  | cons item rest ih =>
    show sortMembers item :: sortMembersItems rest = _
    rw [ih, map_cons]

theorem sortMembersEntries_eq : sortMembersEntries members = members.map fun member => (member.1, sortMembers member.2) := by
  induction members with
  | nil => rfl
  | cons member rest ih =>
    show (member.1, sortMembers member.2) :: sortMembersEntries rest = _
    rw [ih, map_cons]

/-- Ordering the members changes nothing the writer could refuse. -/
theorem admissible_sortMembers (value : Json) : admissible (sortMembers value) = admissible value := by
  induction value with
  | arr items ih =>
    rw [sortMembers, sortMembersItems_eq, admissible_arr, admissible_arr, all_map, Bool.eq_iff_iff, all_eq_true, all_eq_true]
    exact forall₂_congr fun item member => by rw [Function.comp_apply, ih item member]
  | obj members ih =>
    rw [sortMembers, sortMembersEntries_eq, admissible_obj, admissible_obj, List.Perm.all_eq (sortBy_perm _ _),
      all_map, Bool.eq_iff_iff, all_eq_true, all_eq_true]
    exact forall₂_congr fun member listed => by rw [Function.comp_apply, ih member listed]
  | _ => rw [sortMembers]

theorem canonicalFloat_of_safe {value : Float64} {path : Text} (safe : safeFloat value = true) :
    canonicalFloat value path = .ok (renderFloat value) := by
  cases value with
  | nan => simp [safeFloat] at safe
  | infinity negative => simp [safeFloat] at safe
  | finite number =>
    have bound : ¬ maxSafeJsonInteger * number.denominator < number.numerator := by
      simpa [safeFloat] using safe
    simp only [canonicalFloat, renderFloat, if_neg bound]
    split <;> rfl

theorem canonicalFloat_of_unsafe {value : Float64} {path : Text} (refused : safeFloat value = false) :
    ∃ error, canonicalFloat value path = .error (.canonicalJsonError error) := by
  cases value with
  | nan => exact ⟨_, rfl⟩
  | infinity negative => exact ⟨_, rfl⟩
  | finite number =>
    have bound : maxSafeJsonInteger * number.denominator < number.numerator := by
      simpa [safeFloat] using refused
    exact ⟨_, by rw [canonicalFloat, if_pos bound]⟩

section Unlimited

mutual

/-- Without limits the writer returns the text of an admissible value. -/
theorem writeValue_of_admissible : (value : Json) → (frame : ValueFrame) → (nodes : Nat) →
    admissible value = true → writeValue none value frame nodes = .ok (render value, nodes)
  | .null, frame, nodes, _ => by
    rw [writeValue, render]
    rfl
  | .bool value, frame, nodes, _ => by
    rw [writeValue, render]
    rfl
  | .str value, frame, nodes, passed => by
    rw [admissible_str] at passed
    rw [writeValue, render]
    simp [visit, rejectSurrogates, raiseIf, passed, pure, Except.pure]
  | .int value, frame, nodes, passed => by
    rw [admissible_int, decide_eq_true_eq] at passed
    rw [writeValue, render]
    simp [visit, rejectUnsafeInteger, raiseIf, Nat.not_lt.mpr passed, pure, Except.pure]
  | .float value, frame, nodes, passed => by
    rw [admissible_float] at passed
    rw [writeValue, render, canonicalFloat_of_safe passed]
    rfl
  | .arr items, frame, nodes, passed => by
    rw [admissible_arr] at passed
    rw [writeValue, render]
    simp [visit, admitDirectChildren, writeItems_of_admissible items frame 0 nodes passed, pure, Except.pure]
  | .obj members, frame, nodes, passed => by
    rw [admissible_obj] at passed
    have keys : forEach (fun member : Text × Json =>
        rejectSurrogates member.1 frame.path (ascii "object key contains surrogate code point")) members = .ok () := by
      rw [forEach_eq_ok]
      intro member contained
      have scalar := all_eq_true.mp passed member contained
      simp only [Bool.and_eq_true] at scalar
      simp [rejectSurrogates, scalar.1]
    rw [writeValue, render, keys]
    simp [visit, admitDirectChildren, writeMembers_of_admissible members frame true nodes passed, pure, Except.pure]

theorem writeItems_of_admissible : (items : List Json) → (frame : ValueFrame) → (index nodes : Nat) →
    items.all admissible = true → writeItems none items frame index nodes = .ok (renderItems items (index = 0), nodes)
  | [], frame, index, nodes, _ => by
    rw [writeItems, renderItems]
  | item :: rest, frame, index, nodes, passed => by
    rw [all_cons, Bool.and_eq_true] at passed
    rw [writeItems, renderItems, writeValue_of_admissible item _ _ passed.1]
    simp only [ok_bind_eq, writeItems_of_admissible rest frame (index + 1) nodes passed.2]
    by_cases first : index = 0 <;> simp [first, pure, Except.pure]

theorem writeMembers_of_admissible : (members : List (Text × Json)) → (frame : ValueFrame) → (first : Bool) →
    (nodes : Nat) → (members.all fun member => member.1.scalar && admissible member.2) = true →
      writeMembers none members frame first nodes = .ok (renderMembers members first, nodes)
  | [], frame, first, nodes, _ => by
    rw [writeMembers, renderMembers]
  | (key, value) :: rest, frame, first, nodes, passed => by
    rw [all_cons, Bool.and_eq_true, Bool.and_eq_true] at passed
    rw [writeMembers, renderMembers, writeValue_of_admissible value _ _ passed.1.2]
    simp [writeMembers_of_admissible rest frame false nodes passed.2, pure, Except.pure]

end

mutual

/-- Without limits the writer refuses every other value with a canonical JSON error. -/
theorem writeValue_of_inadmissible : (value : Json) → (frame : ValueFrame) → (nodes : Nat) →
    admissible value = false → ∃ error, writeValue none value frame nodes = .error (.canonicalJsonError error)
  | .null, _, _, refused => by simp at refused
  | .bool _, _, _, refused => by simp at refused
  | .str value, frame, nodes, refused => by
    rw [admissible_str] at refused
    exact ⟨_, by rw [writeValue]; simp only [visit, rejectSurrogates, raiseIf, refused]; rfl⟩
  | .int value, frame, nodes, refused => by
    rw [admissible_int, decide_eq_false_iff_not, Nat.not_le] at refused
    exact ⟨_, by rw [writeValue]; simp only [visit, rejectUnsafeInteger, raiseIf, if_pos refused]; rfl⟩
  | .float value, frame, nodes, refused => by
    rw [admissible_float] at refused
    obtain ⟨error, raised⟩ := canonicalFloat_of_unsafe refused
    exact ⟨error, by rw [writeValue, raised]; rfl⟩
  | .arr items, frame, nodes, refused => by
    rw [admissible_arr] at refused
    obtain ⟨error, raised⟩ := writeItems_of_inadmissible items frame 0 nodes refused
    exact ⟨error, by rw [writeValue]; simp [visit, admitDirectChildren, raised]⟩
  | .obj members, frame, nodes, refused => by
    rw [admissible_obj] at refused
    rw [writeValue]
    cases keys : forEach (fun member : Text × Json =>
        rejectSurrogates member.1 frame.path (ascii "object key contains surrogate code point")) members with
    | error error =>
      obtain ⟨member, -, raised⟩ := forEach_eq_error keys
      simp only [rejectSurrogates, raiseIf_eq_error] at raised
      rw [← raised.2]
      exact ⟨_, rfl⟩
    | ok passed =>
      have scalar : ∀ member ∈ members, member.1.scalar = true := by
        intro member contained
        simpa [rejectSurrogates] using forEach_eq_ok.mp keys member contained
      obtain ⟨error, raised⟩ := writeMembers_of_inadmissible members frame true nodes scalar refused
      exact ⟨error, by simp [visit, admitDirectChildren, raised]⟩

theorem writeItems_of_inadmissible : (items : List Json) → (frame : ValueFrame) → (index nodes : Nat) →
    items.all admissible = false → ∃ error, writeItems none items frame index nodes = .error (.canonicalJsonError error)
  | [], _, _, _, refused => by simp at refused
  | item :: rest, frame, index, nodes, refused => by
    rw [writeItems]
    cases first : admissible item with
    | false =>
      obtain ⟨error, raised⟩ := writeValue_of_inadmissible item (frame.item index) nodes first
      exact ⟨error, by rw [raised]; rfl⟩
    | true =>
      rw [all_cons, first, Bool.true_and] at refused
      obtain ⟨error, raised⟩ := writeItems_of_inadmissible rest frame (index + 1) nodes refused
      exact ⟨error, by rw [writeValue_of_admissible item _ _ first]; simp [raised]⟩

theorem writeMembers_of_inadmissible : (members : List (Text × Json)) → (frame : ValueFrame) → (first : Bool) →
    (nodes : Nat) → (∀ member ∈ members, member.1.scalar = true) →
    (members.all fun member => member.1.scalar && admissible member.2) = false →
      ∃ error, writeMembers none members frame first nodes = .error (.canonicalJsonError error)
  | [], _, _, _, _, refused => by simp at refused
  | (key, value) :: rest, frame, first, nodes, scalar, refused => by
    rw [writeMembers]
    cases head : admissible value with
    | false =>
      obtain ⟨error, raised⟩ := writeValue_of_inadmissible value (frame.member key) nodes head
      exact ⟨error, by rw [raised]; rfl⟩
    | true =>
      have keyScalar := scalar (key, value) mem_cons_self
      rw [all_cons, head, keyScalar, Bool.true_and, Bool.true_and] at refused
      obtain ⟨error, raised⟩ := writeMembers_of_inadmissible rest frame false nodes
        (fun member contained => scalar member (mem_cons_of_mem _ contained)) refused
      exact ⟨error, by rw [writeValue_of_admissible value _ _ head]; simp [raised]⟩

end

variable {value : Json}

/-- The canonical text of an admissible value. -/
theorem canonicalJsonText_of_admissible (passed : admissible value = true) :
    canonicalJsonText value none = .ok (render (sortMembers value)) := by
  have sorted : admissible (sortMembers value) = true := by rw [admissible_sortMembers, passed]
  simp [canonicalJsonText, writeValue_of_admissible _ rootFrame 0 sorted, pure, Except.pure]

/-- Hashing succeeds on admissible values. -/
theorem hashObject_of_admissible (passed : admissible value = true) :
    hashObject value = .ok (sha256Hex (render (sortMembers value)).utf8) := by
  simp [hashObject, canonicalJson, canonicalJsonText_of_admissible passed, pure, Except.pure]

/-- Canonical bytes are those of the text of the value with ordered members. -/
theorem canonicalJson_eq_ok {bytes : List Nat} :
    canonicalJson value none = .ok bytes ↔ admissible value = true ∧ bytes = (render (sortMembers value)).utf8 := by
  cases passed : admissible value with
  | true => simp [canonicalJson, canonicalJsonText_of_admissible passed, pure, Except.pure, eq_comm]
  | false =>
    have sorted : admissible (sortMembers value) = false := by rw [admissible_sortMembers, passed]
    obtain ⟨error, raised⟩ := writeValue_of_inadmissible _ rootFrame 0 sorted
    simp [canonicalJson, canonicalJsonText, raised]

theorem hashObject_total (passed : admissible value = true) : ∃ hash, hashObject value = .ok hash ∧ isSha256Hex hash = true :=
  ⟨_, hashObject_of_admissible passed, isSha256Hex_sha256Hex _⟩

/-- Hashing refuses every other value with a canonical JSON error. -/
theorem hashObject_of_inadmissible (refused : admissible value = false) :
    ∃ error, hashObject value = .error (.canonicalJsonError error) := by
  have sorted : admissible (sortMembers value) = false := by rw [admissible_sortMembers, refused]
  obtain ⟨error, raised⟩ := writeValue_of_inadmissible _ rootFrame 0 sorted
  exact ⟨error, by simp [hashObject, canonicalJson, canonicalJsonText, raised]⟩

theorem admissible_of_hashObject {hash : Text} (hashed : hashObject value = .ok hash) : admissible value = true := by
  by_contra refused
  obtain ⟨error, raised⟩ := hashObject_of_inadmissible (Bool.eq_false_iff.mpr refused)
  rw [raised] at hashed
  cases hashed

/-- Every object hash has the digest format. -/
theorem isSha256Hex_of_hashObject {hash : Text} (hashed : hashObject value = .ok hash) : isSha256Hex hash = true := by
  rw [hashObject_of_admissible (admissible_of_hashObject hashed)] at hashed
  rw [← Except.ok.inj hashed]
  exact isSha256Hex_sha256Hex _

end Unlimited

end CiCoordinator.Kernel

import CiCoordinator.Kernel.HostNumbers
import CiCoordinator.WorkflowDiscovery.YamlPreflight

/- The projection of a composed node, and that a passed preflight makes its key checks pass. -/

namespace CiCoordinator.WorkflowDiscovery

open Library Kernel

/-- The notation of a text in the messages of the host. -/
class HostNotation where
  shown : Text → Text

/-- A node of the composed tree. -/
inductive Node where
  | scalar (mark : Mark) (tag value : Text)
  | sequence (mark : Mark) (tag : Text) (items : List Node)
  | mapping (mark : Mark) (tag : Text) (entries : List (Node × Node))

inductive YamlScalarValue where
  | null
  | bool (value : Bool)
  | int (value : Int)
  | float (value : Float64)
  | str (value : Text)

inductive YamlNode where
  | scalar (value : YamlScalarValue) (line column : Nat)
  | sequence (items : List YamlNode) (line column : Nat)
  | mapping (entries : List (Text × YamlNode)) (line column : Nat)

def refusalMessage [HostNotation] : IntegerRefusal → Text
  | .invalidLiteral base value =>
    ascii "invalid literal for int() with base " ++
      (decimal (base.elim 0 IntegerBase.radix) ++ (ascii ": " ++ HostNotation.shown value))
  | .tooManyDigits digits =>
    ascii "Exceeds the limit (4300 digits) for integer string conversion: value has " ++ (decimal digits ++
      ascii " digits; use sys.set_int_max_str_digits() to increase the limit")

section Scalars

variable [HostNotation] (value : Text)

/-- The host's refusals are value errors. -/
def readInteger (base : Option IntegerBase) : Py Int :=
  match hostInteger base value with
  | .ok integer => .ok integer
  | .error refusal => .error (.valueError (refusalMessage refusal))

def readFloat : Py Float64 :=
  match hostFloat value with
  | some number => .ok number
  | none => .error (.valueError (ascii "could not convert string to float: " ++ HostNotation.shown value))

def removeUnderscores : Text :=
  value.filter fun point => point ∉ ascii "_"

/-- Every leading sign is dropped, and only the first one counts. -/
def parseInteger : Py Int := do
  let normalized := removeUnderscores value
  let sign : Int := if (ascii "-").isPrefixOf normalized then -1 else 1
  let unsigned := normalized.dropWhile fun point => point ∈ ascii "+-"
  let magnitude ← (
    if (ascii "0x").isPrefixOf unsigned ∨ (ascii "0X").isPrefixOf unsigned then readInteger unsigned none
    else if (ascii "0o").isPrefixOf unsigned ∨ (ascii "0O").isPrefixOf unsigned then readInteger unsigned none
    else readInteger unsigned (some .decimal))
  return sign * magnitude

/-- A number that is not finite, or larger than every safe integer. -/
def unsafeFloat : Float64 → Bool
  | .finite number => decide (maxSafeJsonInteger * number.denominator < number.numerator)
  | _ => true

def scalarValue (tag value : Text) : Py YamlScalarValue :=
  if tag = yamlTag "str" then .ok (.str value)
  else if tag = yamlTag "null" then .ok .null
  else if tag = yamlTag "bool" then do
    let normalized := casefold value
    valueErrorIf (normalized ∉ [ascii "true", ascii "false"]) (ascii "YAML boolean is not canonical YAML 1.2")
    return .bool (decide (normalized = ascii "true"))
  else if tag = yamlTag "int" then do
    let integer ← parseInteger value
    valueErrorIf (maxSafeJsonInteger < integer.natAbs) (ascii "YAML integer exceeds the JSON safe-integer range")
    return .int integer
  else if tag = yamlTag "float" then do
    let number ← readFloat (removeUnderscores value)
    valueErrorIf (unsafeFloat number = true) (ascii "YAML number is not finite and safely bounded")
    return .float number
  else .error (.valueError (ascii "YAML scalar tag is not admitted"))

end Scalars

def keysNotStrings : PyError :=
  .valueError (ascii "YAML mapping keys must be strings")

def keysNotUnique : PyError :=
  .valueError (ascii "YAML mapping keys must be unique")

/-- A possibly empty text within a number of bytes. -/
def requireKeyText (value name : Text) (maximumBytes : Nat) : Py Unit := do
  valueErrorIf (value.scalar = false) (name ++ ascii " must contain only Unicode scalar values")
  valueErrorIf (maximumBytes < value.utf8.length) (name ++ ascii " exceeds its byte bound")

/-- The text of a key, which is a scalar with the tag of a string. -/
def keyText : Node → Py Text
  | .scalar _ tag value => if tag = yamlTag "str" then .ok value else .error keysNotStrings
  | _ => .error keysNotStrings

mutual

def projectYamlNode [HostNotation] : Node → Py YamlNode
  | .scalar mark tag value => do
    let value ← scalarValue tag value
    return .scalar value (mark.line + 1) (mark.column + 1)
  | .sequence mark _ items => do
    let items ← projectItems items
    return .sequence items (mark.line + 1) (mark.column + 1)
  | .mapping mark _ entries => do
    let entries ← projectEntries [] entries
    return .mapping entries (mark.line + 1) (mark.column + 1)

def projectItems [HostNotation] : List Node → Py (List YamlNode)
  | [] => .ok []
  | item :: rest => do
    let projected ← projectYamlNode item
    let others ← projectItems rest
    return projected :: others

/-- The entries of a mapping after some keys. -/
def projectEntries [HostNotation] (seen : List Text) : List (Node × Node) → Py (List (Text × YamlNode))
  | [] => .ok []
  | (rawKey, rawValue) :: rest => do
    let key ← keyText rawKey
    requireKeyText key (ascii "YAML mapping key") maxTextBytes
    raiseIf (key ∈ seen) keysNotUnique
    let projected ← projectYamlNode rawValue
    let others ← projectEntries (key :: seen) rest
    return (key, projected) :: others

end

mutual

/-- The node that the events of a tree compose; an alias composes none by itself. -/
def YamlTree.composed : YamlTree → Option Node
  | .aliased _ => none
  | .scalar mark _ tag value => some (.scalar mark tag value)
  | .sequence mark _ _ tag items => (composedItems items).map (.sequence mark tag)
  | .mapping mark _ _ tag entries => (composedEntries entries).map (.mapping mark tag)

def composedItems : List YamlTree → Option (List Node)
  | [] => some []
  | item :: rest => do
    let node ← item.composed
    let others ← composedItems rest
    return node :: others

def composedEntries : List (YamlTree × YamlTree) → Option (List (Node × Node))
  | [] => some []
  | (key, value) :: rest => do
    let keyNode ← key.composed
    let valueNode ← value.composed
    let others ← composedEntries rest
    return (keyNode, valueNode) :: others

end

/-- Neither of the two errors about the keys of a mapping. -/
def OtherError (error : PyError) : Prop :=
  error ≠ keysNotStrings ∧ error ≠ keysNotUnique

instance decidableOtherError : DecidablePred OtherError := fun error =>
  inferInstanceAs (Decidable (error ≠ keysNotStrings ∧ error ≠ keysNotUnique))

theorem checked_raises {rejected : Prop} [Decidable rejected] {error : PyError} (other : OtherError error) :
    Raises OtherError (raiseIf rejected error) :=
  Raises.raiseIf fun _ => other

theorem otherError_append {first rest : Text} {point : CodePoint} (leading : first.head? = some point)
    (differs : point ≠ 0x59) : OtherError (.valueError (first ++ rest)) := by
  have other (message : Text) (starts : message.head? = some 0x59) : PyError.valueError (first ++ rest) ≠ .valueError message := by
    intro same
    have heads : (first ++ rest).head? = message.head? := congrArg List.head? (PyError.valueError.inj same)
    rw [List.head?_append, leading, starts] at heads
    exact differs (Option.some.inj heads)
  exact ⟨other _ (by decide), other _ (by decide)⟩

section Scalars

variable [HostNotation] (value : Text)

theorem readInteger_raises (base : Option IntegerBase) : Raises OtherError (readInteger value base) := by
  rw [readInteger]
  cases hostInteger base value with
  | ok integer => exact Raises.ok
  | error refusal =>
    apply Raises.error
    cases refusal with
    | invalidLiteral base shown => exact @otherError_append _ _ 0x69 (by decide) (by decide)
    | tooManyDigits digits => exact @otherError_append _ _ 0x45 (by decide) (by decide)

theorem readFloat_raises : Raises OtherError (readFloat value) := by
  rw [readFloat]
  cases hostFloat value with
  | some number => exact Raises.ok
  | none => exact Raises.error (@otherError_append _ _ 0x63 (by decide) (by decide))

theorem parseInteger_raises : Raises OtherError (parseInteger value) := by
  apply Raises.bind
  · split_ifs
    · exact readInteger_raises _ _
    · exact readInteger_raises _ _
    · exact readInteger_raises _ _
  · exact fun magnitude _ => Raises.ok

theorem scalarValue_raises (tag value : Text) : Raises OtherError (scalarValue tag value) := by
  rw [scalarValue]
  split_ifs
  · exact Raises.ok
  · exact Raises.ok
  · exact (checked_raises (by decide)).bind fun passed _ => Raises.ok
  · apply Raises.bind (parseInteger_raises value)
    intro integer _
    exact (checked_raises (by decide)).bind fun passed _ => Raises.ok
  · apply Raises.bind (readFloat_raises _)
    intro number _
    exact (checked_raises (by decide)).bind fun passed _ => Raises.ok
  · exact Raises.error (by decide)

end Scalars

namespace Sample

/-- A text without quotes and control characters is shown between quotes. -/
@[reducible] def quoted : HostNotation :=
  ⟨fun text => ascii "'" ++ (text ++ ascii "'")⟩

end Sample

example : @scalarValue Sample.quoted (yamlTag "int") (ascii "-0x1F") = .ok (.int (-31)) := by
  rfl

example : @scalarValue Sample.quoted (yamlTag "int") (ascii "1.5") =
    .error (.valueError (ascii "invalid literal for int() with base 10: '1.5'")) := by
  rfl

section Composition

variable {limits : YamlLimits}

mutual

/-- An admitted tree has no alias, so it composes a node. -/
theorem admitted_composes : (tree : YamlTree) → (depth : Nat) → tree.Admitted limits depth → ∃ node, tree.composed = some node
  | .aliased _, _, admitted => admitted.elim
  | .scalar mark _ tag value, _, _ => ⟨.scalar mark tag value, rfl⟩
  | .sequence mark _ _ tag items, depth, admitted => by
    obtain ⟨nodes, inside⟩ := admittedItems_compose items (depth + 1) admitted.2
    exact ⟨.sequence mark tag nodes, congrArg (Option.map _) inside⟩
  | .mapping mark _ _ tag entries, depth, admitted => by
    obtain ⟨nodes, inside⟩ := admittedEntries_compose entries [] (depth + 1) admitted.2
    exact ⟨.mapping mark tag nodes, congrArg (Option.map _) inside⟩

theorem admittedItems_compose : (items : List YamlTree) → (depth : Nat) → AdmittedItems limits depth items →
    ∃ nodes, composedItems items = some nodes
  | [], _, _ => ⟨[], rfl⟩
  | item :: rest, depth, admitted => by
    obtain ⟨node, first⟩ := admitted_composes item depth admitted.1
    obtain ⟨others, later⟩ := admittedItems_compose rest depth admitted.2
    rw [composedItems, first, later]
    exact ⟨node :: others, rfl⟩

theorem admittedEntries_compose : (entries : List (YamlTree × YamlTree)) → (seen : List Text) → (depth : Nat) →
    AdmittedEntries limits depth seen entries → ∃ nodes, composedEntries entries = some nodes
  | [], _, _, _ => ⟨[], rfl⟩
  | (.scalar mark anchor tag name, value) :: rest, seen, depth, admitted => by
    obtain ⟨_, _, valued, more⟩ := admitted
    obtain ⟨node, first⟩ := admitted_composes value depth valued
    obtain ⟨others, later⟩ := admittedEntries_compose rest (name :: seen) depth more
    rw [composedEntries, YamlTree.composed, first, later]
    exact ⟨(.scalar mark tag name, node) :: others, rfl⟩
  | (.aliased _, _) :: _, _, _, admitted => admitted.elim
  | (.sequence _ _ _ _ _, _) :: _, _, _, admitted => admitted.elim
  | (.mapping _ _ _ _ _, _) :: _, _, _, admitted => admitted.elim

end

end Composition

section Projection

variable [HostNotation] {limits : YamlLimits}

mutual

/-- The projection of the node of an admitted tree raises neither error about keys. -/
theorem projectYamlNode_raises : (tree : YamlTree) → (depth : Nat) → tree.Admitted limits depth → (node : Node) →
    tree.composed = some node → Raises OtherError (projectYamlNode node)
  | .aliased _, _, admitted, _, _ => admitted.elim
  | .scalar mark anchor tag value, _, _, node, composed => by
    obtain rfl := Option.some.inj composed
    rw [projectYamlNode]
    exact (scalarValue_raises tag value).bind fun value _ => Raises.ok
  | .sequence mark ending anchor tag items, depth, admitted, node, composed => by
    rw [YamlTree.composed, Option.map_eq_some_iff] at composed
    obtain ⟨nodes, inside, rfl⟩ := composed
    rw [projectYamlNode]
    exact (projectItems_raises items (depth + 1) admitted.2 nodes inside).bind fun projected _ => Raises.ok
  | .mapping mark ending anchor tag entries, depth, admitted, node, composed => by
    rw [YamlTree.composed, Option.map_eq_some_iff] at composed
    obtain ⟨nodes, inside, rfl⟩ := composed
    rw [projectYamlNode]
    exact (projectEntries_raises entries [] (depth + 1) admitted.2 nodes inside).bind fun projected _ => Raises.ok

theorem projectItems_raises : (items : List YamlTree) → (depth : Nat) → AdmittedItems limits depth items →
    (nodes : List Node) → composedItems items = some nodes → Raises OtherError (projectItems nodes)
  | [], _, _, nodes, composed => by
    obtain rfl := Option.some.inj composed
    exact Raises.ok
  | item :: rest, depth, admitted, nodes, composed => by
    rw [composedItems] at composed
    obtain ⟨node, first, composed⟩ := Option.bind_eq_some_iff.mp composed
    obtain ⟨others, later, composed⟩ := Option.bind_eq_some_iff.mp composed
    obtain rfl := Option.some.inj composed
    rw [projectItems]
    apply (projectYamlNode_raises item depth admitted.1 node first).bind
    intro projected _
    apply (projectItems_raises rest depth admitted.2 others later).bind
    exact fun items _ => Raises.ok

/-- The keys of admitted entries are strings, and new after the keys before them. -/
theorem projectEntries_raises : (entries : List (YamlTree × YamlTree)) → (seen : List Text) → (depth : Nat) →
    AdmittedEntries limits depth seen entries → (nodes : List (Node × Node)) → composedEntries entries = some nodes →
    Raises OtherError (projectEntries seen nodes)
  | [], _, _, _, nodes, composed => by
    obtain rfl := Option.some.inj composed
    exact Raises.ok
  | (.scalar mark anchor tag name, value) :: rest, seen, depth, admitted, nodes, composed => by
    obtain ⟨_, ⟨named, _, fresh⟩, valued, more⟩ := admitted
    rw [composedEntries, YamlTree.composed] at composed
    obtain ⟨_, keyed, composed⟩ := Option.bind_eq_some_iff.mp composed
    obtain rfl := Option.some.inj keyed
    obtain ⟨node, first, composed⟩ := Option.bind_eq_some_iff.mp composed
    obtain ⟨others, later, composed⟩ := Option.bind_eq_some_iff.mp composed
    obtain rfl := Option.some.inj composed
    have key : keyText (.scalar mark tag name) = .ok name := if_pos named
    rw [projectEntries, key, ok_bind_eq]
    apply Raises.bind
    · exact (checked_raises (by decide)).bind fun _ _ => checked_raises (by decide)
    intro _ _
    apply Raises.bind
    · exact Raises.raiseIf fun repeated => (fresh repeated).elim
    intro _ _
    apply (projectYamlNode_raises value depth valued node first).bind
    intro projected _
    apply (projectEntries_raises rest (name :: seen) depth more others later).bind
    exact fun entries _ => Raises.ok
  | (.aliased _, _) :: _, _, _, admitted, _, _ => admitted.elim
  | (.sequence _ _ _ _ _, _) :: _, _, _, admitted, _, _ => admitted.elim
  | (.mapping _ _ _ _ _, _) :: _, _, _, admitted, _, _ => admitted.elim

end

end Projection

end CiCoordinator.WorkflowDiscovery

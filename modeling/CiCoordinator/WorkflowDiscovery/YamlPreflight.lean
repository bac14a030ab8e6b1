import CiCoordinator.Kernel.Errors

/- The check of an event stream before its documents are composed. -/

namespace CiCoordinator.WorkflowDiscovery

open Library Kernel List

/-- What a parser event is; the tag of a node is the resolved one. -/
inductive YamlEventKind where
  | documentStart (version : Option (Nat × Nat))
  | aliased
  | mappingEnd
  | sequenceEnd
  | scalar (anchor : Option Text) (tag value : Text)
  | mappingStart (anchor : Option Text) (tag : Text)
  | sequenceStart (anchor : Option Text) (tag : Text)
  | other

/-- An event and where it starts. -/
structure YamlEvent where
  kind : YamlEventKind
  line : Nat
  column : Nat

structure YamlPreflightFailure where
  code : Text
  line : Nat
  column : Nat
  deriving DecidableEq

/-- The reasons to leave the loop over the events early. -/
inductive PreflightStop where
  | failure (reported : YamlPreflightFailure)
  | raised (error : PyError)
  deriving DecidableEq

structure YamlLimits where
  maxEvents : Nat
  maxNodes : Nat
  maxDepth : Nat
  maxScalarBytes : Nat

/-- An open collection, with the keys that a mapping has seen. -/
inductive Frame where
  | mapping (expectingKey : Bool) (seenKeys : List Text)
  | sequence
  deriving DecidableEq

/-- The counters of the loop and the open collections, innermost first. -/
structure PreflightState where
  frames : List Frame
  events : Nat
  nodes : Nat
  documents : Nat
  deriving DecidableEq

abbrev Preflight := Except PreflightStop

def maxTextBytes : Nat :=
  4096

def yamlTag (name : String) : Text :=
  ascii "tag:yaml.org,2002:" ++ ascii name

def jsonTags : List Text :=
  ["bool", "float", "int", "map", "null", "seq", "str"].map yamlTag

def YamlEvent.fail (event : YamlEvent) (code : String) : PreflightStop :=
  .failure ⟨ascii code, event.line + 1, event.column + 1⟩

/-- The bytes of a value, which a lone surrogate has not. -/
def valueBytes (value : Text) : Preflight Nat :=
  if value.scalar then .ok value.utf8.length else .error (.raised .unicodeEncodeError)

/-- After a value a mapping expects its next key. -/
def completeValue : List Frame → List Frame
  | .mapping _ seen :: rest => .mapping true seen :: rest
  | frames => frames

def closeCollection (event : YamlEvent) (mapping : Bool) : List Frame → Preflight (List Frame)
  | .mapping expectingKey _ :: rest =>
    if mapping = true ∧ expectingKey = true then .ok (completeValue rest) else .error (event.fail "invalid_syntax")
  | .sequence :: rest => if mapping then .error (event.fail "invalid_syntax") else .ok (completeValue rest)
  | [] => .error (event.fail "invalid_syntax")

def admitScalar (event : YamlEvent) (tag value : Text) : List Frame → Preflight (List Frame)
  | .mapping true seen :: rest => do
    let bytes ← valueBytes value
    raiseIf (maxTextBytes < bytes) (event.fail "mapping_key_limit_exceeded")
    raiseIf (tag ≠ yamlTag "str") (event.fail "mapping_key_invalid")
    raiseIf (value ∈ seen) (event.fail "duplicate_key")
    return .mapping false (value :: seen) :: rest
  | frames => .ok (completeValue frames)

/-- A collection is no key. -/
def openCollection (event : YamlEvent) (opened : Frame) : List Frame → Preflight (List Frame)
  | .mapping true _ :: _ => .error (event.fail "mapping_key_invalid")
  | frames => .ok (opened :: frames)

/-- A node has no anchor and a tag of JSON, and it is counted. -/
def admitNode (limits : YamlLimits) (event : YamlEvent) (anchor : Option Text) (tag : Text) (state : PreflightState) :
    Preflight PreflightState := do
  raiseIf (anchor ≠ none) (event.fail "anchor_forbidden")
  raiseIf (tag ∉ jsonTags) (event.fail "custom_tag_forbidden")
  raiseIf (limits.maxNodes < state.nodes + 1) (event.fail "node_limit_exceeded")
  raiseIf (limits.maxDepth < state.frames.length) (event.fail "depth_limit_exceeded")
  return { state with nodes := state.nodes + 1 }

/-- What an event does after it is counted. -/
def admitEvent (limits : YamlLimits) (state : PreflightState) (event : YamlEvent) : Preflight PreflightState :=
  match event.kind with
  | .documentStart version => do
    raiseIf (1 < state.documents + 1) (event.fail "multiple_documents")
    raiseIf (version ≠ none ∧ version ≠ some (1, 2)) (event.fail "invalid_yaml_version")
    return { state with documents := state.documents + 1 }
  | .aliased => .error (event.fail "alias_forbidden")
  | .mappingEnd => do
    let frames ← closeCollection event true state.frames
    return { state with frames }
  | .sequenceEnd => do
    let frames ← closeCollection event false state.frames
    return { state with frames }
  | .other => .ok state
  | .scalar anchor tag value => do
    let state ← admitNode limits event anchor tag state
    let bytes ← valueBytes value
    raiseIf (limits.maxScalarBytes < bytes) (event.fail "scalar_limit_exceeded")
    let frames ← admitScalar event tag value state.frames
    return { state with frames }
  | .mappingStart anchor tag => do
    let state ← admitNode limits event anchor tag state
    let frames ← openCollection event (.mapping true []) state.frames
    return { state with frames }
  | .sequenceStart anchor tag => do
    let state ← admitNode limits event anchor tag state
    let frames ← openCollection event .sequence state.frames
    return { state with frames }

def preflightStep (limits : YamlLimits) (state : PreflightState) (event : YamlEvent) : Preflight PreflightState := do
  raiseIf (limits.maxEvents < state.events + 1) (event.fail "event_limit_exceeded")
  admitEvent limits { state with events := state.events + 1 } event

/-- Where an event starts. -/
structure Mark where
  line : Nat
  column : Nat

/-- A node as the parser serializes it: its tag is resolved, and an alias stands for a node. -/
inductive YamlTree where
  | aliased (mark : Mark)
  | scalar (mark : Mark) (anchor : Option Text) (tag value : Text)
  | sequence (mark final : Mark) (anchor : Option Text) (tag : Text) (items : List YamlTree)
  | mapping (mark final : Mark) (anchor : Option Text) (tag : Text) (entries : List (YamlTree × YamlTree))

def YamlEventKind.at (kind : YamlEventKind) (mark : Mark) : YamlEvent :=
  ⟨kind, mark.line, mark.column⟩

mutual

/-- The events of a node. -/
def YamlTree.serialize : YamlTree → List YamlEvent
  | .aliased mark => [YamlEventKind.aliased.at mark]
  | .scalar mark anchor tag value => [(YamlEventKind.scalar anchor tag value).at mark]
  | .sequence mark final anchor tag items =>
    (YamlEventKind.sequenceStart anchor tag).at mark :: (serializeItems items ++ [YamlEventKind.sequenceEnd.at final])
  | .mapping mark final anchor tag entries =>
    (YamlEventKind.mappingStart anchor tag).at mark :: (serializeEntries entries ++ [YamlEventKind.mappingEnd.at final])

def serializeItems : List YamlTree → List YamlEvent
  | [] => []
  | item :: rest => item.serialize ++ serializeItems rest

def serializeEntries : List (YamlTree × YamlTree) → List YamlEvent
  | [] => []
  | (key, value) :: rest => key.serialize ++ (value.serialize ++ serializeEntries rest)

end

mutual

/-- The nodes of a tree; an alias is none. -/
def YamlTree.nodes : YamlTree → Nat
  | .aliased _ => 0
  | .scalar _ _ _ _ => 1
  | .sequence _ _ _ _ items => itemNodes items + 1
  | .mapping _ _ _ _ entries => entryNodes entries + 1

def itemNodes : List YamlTree → Nat
  | [] => 0
  | item :: rest => item.nodes + itemNodes rest

def entryNodes : List (YamlTree × YamlTree) → Nat
  | [] => 0
  | (key, value) :: rest => key.nodes + (value.nodes + entryNodes rest)

end

/-- A node without an anchor and with a tag of JSON, at a depth within the limit. -/
def PlainNode (limits : YamlLimits) (depth : Nat) (anchor : Option Text) (tag : Text) : Prop :=
  anchor = none ∧ tag ∈ jsonTags ∧ depth ≤ limits.maxDepth

def BoundedScalar (limit : Nat) (value : Text) : Prop :=
  value.scalar = true ∧ value.utf8.length ≤ limit

mutual

/-- A tree at a depth meets the limits, has no alias, anchor or foreign tag, and its keys are different bounded strings. -/
def YamlTree.Admitted (limits : YamlLimits) (depth : Nat) : YamlTree → Prop
  | .aliased _ => False
  | .scalar _ anchor tag value => PlainNode limits depth anchor tag ∧ BoundedScalar limits.maxScalarBytes value
  | .sequence _ _ anchor tag items => PlainNode limits depth anchor tag ∧ AdmittedItems limits (depth + 1) items
  | .mapping _ _ anchor tag entries => PlainNode limits depth anchor tag ∧ AdmittedEntries limits (depth + 1) [] entries

def AdmittedItems (limits : YamlLimits) (depth : Nat) : List YamlTree → Prop
  | [] => True
  | item :: rest => item.Admitted limits depth ∧ AdmittedItems limits depth rest

/-- Entries whose keys are new after some keys. -/
def AdmittedEntries (limits : YamlLimits) (depth : Nat) (seen : List Text) : List (YamlTree × YamlTree) → Prop
  | [] => True
  | (.scalar _ anchor tag name, value) :: rest =>
    (PlainNode limits depth anchor tag ∧ BoundedScalar limits.maxScalarBytes name) ∧
      (tag = yamlTag "str" ∧ name.utf8.length ≤ maxTextBytes ∧ name ∉ seen) ∧
      value.Admitted limits depth ∧ AdmittedEntries limits depth (name :: seen) rest
  | _ :: _ => False

end

/-- Where a value may begin: no mapping expects a key. -/
def ValuePosition : List Frame → Prop
  | .mapping true _ :: _ => False
  | _ => True

/-- A state after some more events and nodes. -/
def PreflightState.advance (state : PreflightState) (frames : List Frame) (events nodes : Nat) : PreflightState :=
  { state with frames, events := state.events + events, nodes := state.nodes + nodes }

/-- The limits leave room for some more events and nodes. -/
def PreflightState.Room (limits : YamlLimits) (state : PreflightState) (events nodes : Nat) : Prop :=
  state.events + events ≤ limits.maxEvents ∧ state.nodes + nodes ≤ limits.maxNodes

/-- The loop over some events ends in a state. -/
def Runs (limits : YamlLimits) (state : PreflightState) (events : List YamlEvent) (final : PreflightState) : Prop :=
  foldSteps (preflightStep limits) state events = .ok final

/-- The keys that a mapping has seen after some entries. -/
def seenAfter (seen : List Text) : List (YamlTree × YamlTree) → List Text
  | [] => seen
  | (.scalar _ _ _ name, _) :: rest => seenAfter (name :: seen) rest
  | _ :: rest => seenAfter seen rest

section Steps

variable {limits : YamlLimits} {state final : PreflightState} {event : YamlEvent}
variable {anchor : Option Text} {tag value : Text} {rest : List Frame} {seen : List Text} {mark : Mark}

theorem runs_nil : Runs limits state [] final ↔ final = state := by
  exact ⟨fun done => (Except.ok.inj done).symm, fun same => congrArg Except.ok same.symm⟩

theorem runs_cons {rest : List YamlEvent} : Runs limits state (event :: rest) final ↔
      ∃ next, preflightStep limits state event = .ok next ∧ Runs limits next rest final := by
  rw [Runs, foldSteps_cons, bind_eq_ok]
  rfl

theorem runs_append {first second : List YamlEvent} :
    Runs limits state (first ++ second) final ↔ ∃ next, Runs limits state first next ∧ Runs limits next second final := by
  rw [Runs, foldSteps_append, bind_eq_ok]
  rfl

theorem runs_singleton : Runs limits state [event] final ↔ preflightStep limits state event = .ok final := by
  rw [runs_cons]
  simp [runs_nil]

theorem preflightStep_eq_ok : preflightStep limits state event = .ok final ↔
      state.events + 1 ≤ limits.maxEvents ∧ admitEvent limits { state with events := state.events + 1 } event = .ok final := by
  simp [preflightStep]

theorem admitNode_eq_ok : admitNode limits event anchor tag state = .ok final ↔
      PlainNode limits state.frames.length anchor tag ∧ state.nodes + 1 ≤ limits.maxNodes ∧
        final = { state with nodes := state.nodes + 1 } := by
  simp only [admitNode, PlainNode, bind_eq_ok, raiseIf_eq_ok, pure, Except.pure, Except.ok.injEq, not_lt]
  tauto

theorem valueBytes_eq_ok {bytes : Nat} : valueBytes value = .ok bytes ↔ value.scalar = true ∧ bytes = value.utf8.length := by
  rw [valueBytes]
  split
  · rename_i scalar
    simp [scalar, eq_comm]
  · rename_i lone
    simp [lone]

/-- A value begins at the root, in a sequence or after a key. -/
theorem position_cases {frames : List Frame} (position : ValuePosition frames) :
    frames = [] ∨ (∃ rest, frames = .sequence :: rest) ∨ ∃ seen rest, frames = .mapping false seen :: rest := by
  cases frames with
  | nil => exact .inl rfl
  | cons frame rest =>
    cases frame with
    | sequence => exact .inr (.inl ⟨rest, rfl⟩)
    | mapping expectingKey seen =>
      cases expectingKey with
      | true => exact position.elim
      | false => exact .inr (.inr ⟨seen, rest, rfl⟩)

theorem openCollection_eq_ok {opened : Frame} {frames next : List Frame} (position : ValuePosition frames) :
    openCollection event opened frames = .ok next ↔ next = opened :: frames := by
  have returns : openCollection event opened frames = .ok (opened :: frames) := by
    cases position_cases position with
    | inl empty => rw [empty]; rfl
    | inr shape =>
      obtain ⟨rest, rfl⟩ | ⟨seen, rest, rfl⟩ := shape
      · rfl
      · rfl
  rw [returns, Except.ok.injEq, eq_comm]

theorem admitScalar_value {frames next : List Frame} (position : ValuePosition frames) :
    admitScalar event tag value frames = .ok next ↔ next = completeValue frames := by
  have returns : admitScalar event tag value frames = .ok (completeValue frames) := by
    cases position_cases position with
    | inl empty => rw [empty]; rfl
    | inr shape =>
      obtain ⟨rest, rfl⟩ | ⟨seen, rest, rfl⟩ := shape
      · rfl
      · rfl
  rw [returns, Except.ok.injEq, eq_comm]

theorem admitScalar_key {next : List Frame} : admitScalar event tag value (.mapping true seen :: rest) = .ok next ↔
      value.scalar = true ∧ (tag = yamlTag "str" ∧ value.utf8.length ≤ maxTextBytes ∧ value ∉ seen) ∧
        next = .mapping false (value :: seen) :: rest := by
  simp only [admitScalar, bind_eq_ok, valueBytes_eq_ok, raiseIf_eq_ok, pure, Except.pure, Except.ok.injEq, not_not, not_lt, exists_const]
  constructor
  · rintro ⟨_, ⟨scalar, rfl⟩, bounded, named, fresh, rfl⟩
    exact ⟨scalar, ⟨named, bounded, fresh⟩, rfl⟩
  · rintro ⟨scalar, ⟨named, bounded, fresh⟩, rfl⟩
    exact ⟨_, ⟨scalar, rfl⟩, bounded, named, fresh, rfl⟩

section

variable (position : ValuePosition state.frames)
include position

/-- The start of a collection where a value may begin. -/
theorem step_open {event : YamlEvent} {frame : Frame} (admits : ∀ before, admitEvent limits before event = (do
      let opened ← admitNode limits event anchor tag before
      let frames ← openCollection event frame opened.frames
      return { opened with frames })) :
    preflightStep limits state event = .ok final ↔ PlainNode limits state.frames.length anchor tag ∧ state.Room limits 1 1 ∧
        final = state.advance (frame :: state.frames) 1 1 := by
  simp only [preflightStep_eq_ok, admits, bind_eq_ok, admitNode_eq_ok]
  constructor
  · rintro ⟨events, _, ⟨plain, nodes, rfl⟩, frames, opened, returned⟩
    obtain rfl := (openCollection_eq_ok position).mp opened
    cases returned
    exact ⟨plain, ⟨events, nodes⟩, rfl⟩
  · rintro ⟨plain, ⟨events, nodes⟩, rfl⟩
    exact ⟨events, _, ⟨plain, nodes, rfl⟩, _, (openCollection_eq_ok position).mpr rfl, rfl⟩

theorem step_mappingStart : preflightStep limits state ((YamlEventKind.mappingStart anchor tag).at mark) = .ok final ↔
      PlainNode limits state.frames.length anchor tag ∧ state.Room limits 1 1 ∧
        final = state.advance (.mapping true [] :: state.frames) 1 1 :=
  step_open position fun _ => rfl

theorem step_sequenceStart : preflightStep limits state ((YamlEventKind.sequenceStart anchor tag).at mark) = .ok final ↔
      PlainNode limits state.frames.length anchor tag ∧ state.Room limits 1 1 ∧
        final = state.advance (.sequence :: state.frames) 1 1 :=
  step_open position fun _ => rfl

/-- A scalar where a value may begin. -/
theorem step_scalar : preflightStep limits state ((YamlEventKind.scalar anchor tag value).at mark) = .ok final ↔
      (PlainNode limits state.frames.length anchor tag ∧ BoundedScalar limits.maxScalarBytes value) ∧ state.Room limits 1 1 ∧
        final = state.advance (completeValue state.frames) 1 1 := by
  simp only [preflightStep_eq_ok, admitEvent, YamlEventKind.at, bind_eq_ok, admitNode_eq_ok, valueBytes_eq_ok, raiseIf_eq_ok]
  constructor
  · rintro ⟨events, _, ⟨plain, nodes, rfl⟩, _, ⟨scalar, rfl⟩, _, bounded, frames, admitted, returned⟩
    obtain rfl := (admitScalar_value position).mp admitted
    cases returned
    exact ⟨⟨plain, scalar, not_lt.mp bounded⟩, ⟨events, nodes⟩, rfl⟩
  · rintro ⟨⟨plain, scalar, bounded⟩, ⟨events, nodes⟩, rfl⟩
    exact ⟨events, _, ⟨plain, nodes, rfl⟩, _, ⟨scalar, rfl⟩, (), not_lt.mpr bounded, _, (admitScalar_value position).mpr rfl, rfl⟩

end

/-- A scalar where a mapping expects a key. -/
theorem step_key (frames : state.frames = .mapping true seen :: rest) :
    preflightStep limits state ((YamlEventKind.scalar anchor tag value).at mark) = .ok final ↔
      ((PlainNode limits state.frames.length anchor tag ∧ BoundedScalar limits.maxScalarBytes value) ∧
        (tag = yamlTag "str" ∧ value.utf8.length ≤ maxTextBytes ∧ value ∉ seen)) ∧ state.Room limits 1 1 ∧
        final = state.advance (.mapping false (value :: seen) :: rest) 1 1 := by
  simp only [preflightStep_eq_ok, admitEvent, YamlEventKind.at, bind_eq_ok, admitNode_eq_ok, valueBytes_eq_ok, raiseIf_eq_ok]
  constructor
  · rintro ⟨events, _, ⟨plain, nodes, rfl⟩, _, ⟨scalar, rfl⟩, _, bounded, next, admitted, returned⟩
    rw [frames] at admitted
    obtain ⟨_, named, rfl⟩ := admitScalar_key.mp admitted
    cases returned
    exact ⟨⟨⟨plain, scalar, not_lt.mp bounded⟩, named⟩, ⟨events, nodes⟩, rfl⟩
  · rintro ⟨⟨⟨plain, scalar, bounded⟩, named⟩, ⟨events, nodes⟩, rfl⟩
    have admitted : admitScalar ((YamlEventKind.scalar anchor tag value).at mark) tag value (.mapping true seen :: rest) =
        .ok (.mapping false (value :: seen) :: rest) := admitScalar_key.mpr ⟨scalar, named, rfl⟩
    rw [← frames] at admitted
    exact ⟨events, _, ⟨plain, nodes, rfl⟩, _, ⟨scalar, rfl⟩, (), not_lt.mpr bounded, _, admitted, rfl⟩

/-- Nothing but a scalar is a key. -/
theorem step_key_refused {kind : YamlEventKind} (frames : state.frames = .mapping true seen :: rest)
    (other : kind = .aliased ∨ (∃ anchor tag, kind = .mappingStart anchor tag) ∨ ∃ anchor tag, kind = .sequenceStart anchor tag) :
    preflightStep limits state (kind.at mark) ≠ .ok final := by
  rw [ne_eq, preflightStep_eq_ok]
  rintro ⟨_, admitted⟩
  obtain rfl | ⟨anchor, tag, rfl⟩ | ⟨anchor, tag, rfl⟩ := other
  · cases admitted
  all_goals
    simp only [admitEvent, YamlEventKind.at, bind_eq_ok, admitNode_eq_ok] at admitted
    obtain ⟨_, ⟨_, _, rfl⟩, next, opened, _⟩ := admitted
    rw [frames] at opened
    cases opened

/-- A collection that closes where its kind is the open one. -/
theorem step_close {event : YamlEvent} {isMapping : Bool} (admits : ∀ before, admitEvent limits before event = (do
      let frames ← closeCollection event isMapping before.frames
      return { before with frames }))
    (closed : closeCollection event isMapping state.frames = .ok (completeValue rest)) :
    preflightStep limits state event = .ok final ↔
      state.events + 1 ≤ limits.maxEvents ∧ final = state.advance (completeValue rest) 1 0 := by
  rw [preflightStep_eq_ok]
  refine and_congr_right fun _ => ?_
  rw [admits]
  show (closeCollection event isMapping state.frames >>= _) = _ ↔ _
  rw [closed, ok_bind_eq]
  exact ⟨fun returned => (Except.ok.inj returned).symm, fun same => congrArg Except.ok same.symm⟩

theorem step_mappingEnd (frames : state.frames = .mapping true seen :: rest) :
    preflightStep limits state (YamlEventKind.mappingEnd.at mark) = .ok final ↔
      state.events + 1 ≤ limits.maxEvents ∧ final = state.advance (completeValue rest) 1 0 := by
  have closed : closeCollection (YamlEventKind.mappingEnd.at mark) true state.frames = .ok (completeValue rest) := by
    rw [frames]
    rfl
  exact step_close (fun _ => rfl) closed

theorem step_sequenceEnd (frames : state.frames = .sequence :: rest) :
    preflightStep limits state (YamlEventKind.sequenceEnd.at mark) = .ok final ↔
      state.events + 1 ≤ limits.maxEvents ∧ final = state.advance (completeValue rest) 1 0 := by
  have closed : closeCollection (YamlEventKind.sequenceEnd.at mark) false state.frames = .ok (completeValue rest) := by
    rw [frames]
    rfl
  exact step_close (fun _ => rfl) closed

end Steps

section Trees

open PreflightState (Room)

variable {limits : YamlLimits}
variable {ending : Mark} {anchor : Option Text}

theorem PreflightState.Room.grow {state : PreflightState} {frames : List Frame} {events nodes moreEvents moreNodes : Nat} :
    (state.advance frames events nodes).Room limits moreEvents moreNodes ↔
      state.Room limits (events + moreEvents) (nodes + moreNodes) := by
  rw [Room, Room, advance, Nat.add_assoc, Nat.add_assoc]

theorem PreflightState.Room.less {state : PreflightState} {events nodes fewerEvents fewerNodes : Nat}
    (room : state.Room limits events nodes) (eventsLe : fewerEvents ≤ events) (nodesLe : fewerNodes ≤ nodes) :
    state.Room limits fewerEvents fewerNodes :=
  ⟨(Nat.add_le_add_left eventsLe _).trans room.1, (Nat.add_le_add_left nodesLe _).trans room.2⟩

theorem advance_advance {state : PreflightState} {frames next : List Frame} {events nodes moreEvents moreNodes : Nat} :
    (state.advance frames events nodes).advance next moreEvents moreNodes =
      state.advance next (events + moreEvents) (nodes + moreNodes) := by
  rw [PreflightState.advance, PreflightState.advance, PreflightState.advance, Nat.add_assoc, Nat.add_assoc]

theorem serialize_sequence_length {mark : Mark} {tag : Text} {items : List YamlTree} :
    (YamlTree.sequence mark ending anchor tag items).serialize.length = 1 + ((serializeItems items).length + 1) := by
  rw [YamlTree.serialize, length_cons, length_append, length_singleton, Nat.add_comm]

theorem serialize_mapping_length {mark : Mark} {tag : Text} {entries : List (YamlTree × YamlTree)} :
    (YamlTree.mapping mark ending anchor tag entries).serialize.length = 1 + ((serializeEntries entries).length + 1) := by
  rw [YamlTree.serialize, length_cons, length_append, length_singleton, Nat.add_comm]

theorem sequence_nodes {mark : Mark} {tag : Text} {items : List YamlTree} :
    (YamlTree.sequence mark ending anchor tag items).nodes = 1 + (itemNodes items + 0) := by
  rw [YamlTree.nodes, Nat.add_comm]
  rfl

theorem mapping_nodes {mark : Mark} {tag : Text} {entries : List (YamlTree × YamlTree)} :
    (YamlTree.mapping mark ending anchor tag entries).nodes = 1 + (entryNodes entries + 0) := by
  rw [YamlTree.nodes, Nat.add_comm]
  rfl

/-- A mapping that expects a key runs over nothing but scalar keys. -/
theorem key_refused {key : YamlTree} {state final : PreflightState} {more : List YamlEvent} {seen : List Text}
    {rest : List Frame} (frames : state.frames = .mapping true seen :: rest)
    (other : ∀ mark anchor tag name, key ≠ .scalar mark anchor tag name) :
    ¬ Runs limits state (key.serialize ++ more) final := by
  intro runs
  cases key with
  | aliased mark =>
    obtain ⟨_, stepped, _⟩ := runs_cons.mp runs
    exact step_key_refused frames (.inl rfl) stepped
  | scalar mark anchor tag name => exact other mark anchor tag name rfl
  | sequence mark ending anchor tag items =>
    obtain ⟨_, stepped, _⟩ := runs_cons.mp runs
    exact step_key_refused frames (.inr (.inr ⟨anchor, tag, rfl⟩)) stepped
  | mapping mark ending anchor tag entries =>
    obtain ⟨_, stepped, _⟩ := runs_cons.mp runs
    exact step_key_refused frames (.inr (.inl ⟨anchor, tag, rfl⟩)) stepped

mutual

/-- Where a value may begin, the loop runs over the events of a tree exactly when the tree is admitted and there is room. -/
theorem serialize_runs : (tree : YamlTree) → (state final : PreflightState) → ValuePosition state.frames →
    (Runs limits state tree.serialize final ↔ tree.Admitted limits state.frames.length ∧
      state.Room limits tree.serialize.length tree.nodes ∧
      final = state.advance (completeValue state.frames) tree.serialize.length tree.nodes)
  | .aliased mark, state, final, _ => by
    rw [YamlTree.serialize, runs_singleton, YamlTree.Admitted, preflightStep_eq_ok]
    constructor
    · rintro ⟨_, refused⟩
      cases refused
    · exact fun refused => refused.1.elim
  | .scalar mark anchor tag value, state, final, position => by
    rw [YamlTree.serialize, runs_singleton, step_scalar position]
    rfl
  | .sequence mark ending anchor tag items, state, final, position => by
    rw [serialize_sequence_length, sequence_nodes, YamlTree.serialize, runs_cons]
    simp only [runs_append, runs_singleton, step_sequenceStart position]
    constructor
    · rintro ⟨_, ⟨plain, first, rfl⟩, middle, inside, ended⟩
      obtain ⟨admitted, room, rfl⟩ := (serializeItems_runs items _ middle state.frames rfl (Room.grow.mpr first)).mp inside
      obtain ⟨events, rfl⟩ := (step_sequenceEnd rfl).mp ended
      have last : state.events + 1 + (serializeItems items).length + 1 ≤ limits.maxEvents := events
      refine ⟨⟨plain, admitted⟩, ⟨?_, (Room.grow.mp room).2⟩, ?_⟩
      · omega
      · rw [advance_advance, advance_advance]
    · rintro ⟨⟨plain, admitted⟩, room, rfl⟩
      have start : state.Room limits 1 1 := room.less (by omega) (by omega)
      have within : state.Room limits (1 + (serializeItems items).length) (1 + itemNodes items) :=
        room.less (by omega) (by omega)
      have last : state.events + 1 + (serializeItems items).length + 1 ≤ limits.maxEvents := by
        have bound := room.1
        omega
      refine ⟨_, ⟨plain, start, rfl⟩, _, (serializeItems_runs items _ _ state.frames rfl (Room.grow.mpr start)).mpr
        ⟨admitted, Room.grow.mpr within, rfl⟩, (step_sequenceEnd rfl).mpr ⟨last, ?_⟩⟩
      rw [advance_advance, advance_advance]
  | .mapping mark ending anchor tag entries, state, final, position => by
    rw [serialize_mapping_length, mapping_nodes, YamlTree.serialize, runs_cons]
    simp only [runs_append, runs_singleton, step_mappingStart position]
    constructor
    · rintro ⟨_, ⟨plain, first, rfl⟩, middle, inside, ended⟩
      obtain ⟨admitted, room, rfl⟩ :=
        (serializeEntries_runs entries [] _ middle state.frames rfl (Room.grow.mpr first)).mp inside
      obtain ⟨events, rfl⟩ := (step_mappingEnd rfl).mp ended
      have last : state.events + 1 + (serializeEntries entries).length + 1 ≤ limits.maxEvents := events
      refine ⟨⟨plain, admitted⟩, ⟨?_, (Room.grow.mp room).2⟩, ?_⟩
      · omega
      · rw [advance_advance, advance_advance]
    · rintro ⟨⟨plain, admitted⟩, room, rfl⟩
      have start : state.Room limits 1 1 := room.less (by omega) (by omega)
      have within : state.Room limits (1 + (serializeEntries entries).length) (1 + entryNodes entries) :=
        room.less (by omega) (by omega)
      have last : state.events + 1 + (serializeEntries entries).length + 1 ≤ limits.maxEvents := by
        have bound := room.1
        omega
      refine ⟨_, ⟨plain, start, rfl⟩, _, (serializeEntries_runs entries [] _ _ state.frames rfl (Room.grow.mpr start)).mpr
        ⟨admitted, Room.grow.mpr within, rfl⟩, (step_mappingEnd rfl).mpr ⟨last, ?_⟩⟩
      rw [advance_advance, advance_advance]

/-- Items follow each other inside a sequence. -/
theorem serializeItems_runs : (items : List YamlTree) → (state final : PreflightState) → (rest : List Frame) →
    state.frames = .sequence :: rest → state.Room limits 0 0 →
    (Runs limits state (serializeItems items) final ↔ AdmittedItems limits state.frames.length items ∧
      state.Room limits (serializeItems items).length (itemNodes items) ∧
      final = state.advance state.frames (serializeItems items).length (itemNodes items))
  | [], state, final, rest, frames, room => by
    rw [serializeItems, runs_nil]
    exact ⟨fun same => ⟨trivial, room, same⟩, fun holds => holds.2.2⟩
  | item :: others, state, final, rest, frames, _ => by
    have position : ValuePosition state.frames := by
      rw [frames]
      trivial
    have same : completeValue state.frames = state.frames := by
      rw [frames]
      rfl
    rw [serializeItems, runs_append, itemNodes, AdmittedItems, length_append]
    constructor
    · rintro ⟨middle, first, later⟩
      obtain ⟨admitted, room, rfl⟩ := (serialize_runs item state middle position).mp first
      rw [same] at later
      obtain ⟨others, more, rfl⟩ := (serializeItems_runs others (state.advance state.frames item.serialize.length item.nodes)
        final rest frames (Room.grow.mpr room)).mp later
      exact ⟨⟨admitted, others⟩, Room.grow.mp more, advance_advance⟩
    · rintro ⟨⟨admitted, more⟩, room, rfl⟩
      have first : state.Room limits item.serialize.length item.nodes := room.less (Nat.le_add_right _ _) (Nat.le_add_right _ _)
      refine ⟨_, (serialize_runs item state _ position).mpr ⟨admitted, first, rfl⟩, ?_⟩
      rw [same]
      exact (serializeItems_runs others (state.advance state.frames item.serialize.length item.nodes) _ rest frames
        (Room.grow.mpr first)).mpr
        ⟨more, Room.grow.mpr room, advance_advance.symm⟩

/-- The key of an entry is checked before its value, and the mapping then expects the next key. -/
theorem serializeEntries_runs : (entries : List (YamlTree × YamlTree)) → (seen : List Text) → (state final : PreflightState) →
    (rest : List Frame) → state.frames = .mapping true seen :: rest → state.Room limits 0 0 →
    (Runs limits state (serializeEntries entries) final ↔ AdmittedEntries limits state.frames.length seen entries ∧
      state.Room limits (serializeEntries entries).length (entryNodes entries) ∧
      final = state.advance (.mapping true (seenAfter seen entries) :: rest) (serializeEntries entries).length
        (entryNodes entries))
  | [], seen, state, final, rest, frames, room => by
    rw [serializeEntries, runs_nil, seenAfter, ← frames]
    exact ⟨fun same => ⟨trivial, room, same⟩, fun holds => holds.2.2⟩
  | (.scalar mark anchor tag name, value) :: others, seen, state, final, rest, frames, _ => by
    rw [serializeEntries, YamlTree.serialize, runs_append, entryNodes, AdmittedEntries, seenAfter, length_append,
      length_append, length_singleton, YamlTree.nodes]
    simp only [runs_singleton, step_key frames, runs_append]
    have position : ValuePosition (state.advance (.mapping false (name :: seen) :: rest) 1 1).frames := trivial
    have depth : state.frames.length = (Frame.mapping false (name :: seen) :: rest).length := by rw [frames]; rfl
    constructor
    · rintro ⟨_, ⟨⟨key, named⟩, first, rfl⟩, middle, valued, later⟩
      obtain ⟨admitted, room, rfl⟩ := (serialize_runs value _ middle position).mp valued
      obtain ⟨more, lastRoom, rfl⟩ :=
        (serializeEntries_runs others (name :: seen) _ final rest rfl (Room.grow.mpr room)).mp later
      refine ⟨⟨key, named, ?_, ?_⟩, Room.grow.mp (Room.grow.mp lastRoom), ?_⟩
      · rw [depth]
        exact admitted
      · rw [depth]
        exact more
      · rw [advance_advance, advance_advance]
    · rintro ⟨⟨key, named, admitted, more⟩, room, rfl⟩
      rw [depth] at admitted more
      have first : state.Room limits 1 1 := room.less (Nat.le_add_right _ _) (Nat.le_add_right _ _)
      have second : state.Room limits (1 + value.serialize.length) (1 + value.nodes) := room.less (by omega) (by omega)
      refine ⟨_, ⟨⟨key, named⟩, first, rfl⟩, _, (serialize_runs value _ _ position).mpr ⟨admitted, Room.grow.mpr second, rfl⟩,
        (serializeEntries_runs others (name :: seen) _ _ rest rfl (Room.grow.mpr (Room.grow.mpr second))).mpr
          ⟨more, Room.grow.mpr (Room.grow.mpr room), ?_⟩⟩
      rw [advance_advance, advance_advance]
  | (.aliased mark, value) :: others, seen, state, final, rest, frames, _ => by
    exact ⟨fun runs => (key_refused frames (by simp) runs).elim, fun holds => holds.1.elim⟩
  | (.sequence mark ending anchor tag items, value) :: others, seen, state, final, rest, frames, _ => by
    exact ⟨fun runs => (key_refused frames (by simp) runs).elim, fun holds => holds.1.elim⟩
  | (.mapping mark ending anchor tag entries, value) :: others, seen, state, final, rest, frames, _ => by
    exact ⟨fun runs => (key_refused frames (by simp) runs).elim, fun holds => holds.1.elim⟩

end

end Trees

/-- A document of a stream, with the version that its directive declares. -/
structure YamlDocument where
  start : Mark
  version : Option (Nat × Nat)
  root : YamlTree
  ending : Mark

def YamlDocument.serialize (document : YamlDocument) : List YamlEvent :=
  (YamlEventKind.documentStart document.version).at document.start ::
    (document.root.serialize ++ [YamlEventKind.other.at document.ending])

/-- A document of the admitted version with an admitted root. -/
def YamlDocument.Admitted (limits : YamlLimits) (document : YamlDocument) : Prop :=
  (document.version = none ∨ document.version = some (1, 2)) ∧ document.root.Admitted limits 0

section Streams

variable {limits : YamlLimits} {state final : PreflightState}

/-- The state after another document. -/
def PreflightState.document (state : PreflightState) : PreflightState :=
  { state with documents := state.documents + 1 }

end Streams

end CiCoordinator.WorkflowDiscovery

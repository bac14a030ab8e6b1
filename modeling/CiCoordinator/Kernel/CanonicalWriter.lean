import CiCoordinator.Kernel.CanonicalJson

/- The canonical writer as the host runs it: a stack of frames over an output. -/

namespace CiCoordinator.Kernel

open Library List

/-- A key of a host dictionary; any other key than a text is known by its notation. -/
inductive HostKey where
  | text (value : Text)
  | other (notationText : Text)

/-- A value that a caller passes. Containers have identities: a cyclic value is cut where a container is met again
inside itself, because the writer does not look behind that place. -/
inductive HostValue where
  | none
  | bool (value : Bool)
  | int (value : Int)
  | float (value : Float64)
  | str (value : Text)
  | list (objectId : Nat) (items : List HostValue)
  | dict (objectId : Nat) (entries : List (HostKey × HostValue))
  | bytes
  | datetime
  | collection
  | other (typeName : Text)

/-- What remains to be written. -/
inductive WriterFrame where
  | value (candidate : HostValue) (frame : ValueFrame)
  | text (text : Text)
  | string (value path instancePointer : Text)
  | exit (objectId : Nat)

/-- What the writer sends its texts to. -/
class JsonOutput (O : Type) where
  append : O → Text → O
  /-- The output after it has been asked for the notation of a string, and the text that remains to be appended. -/
  boundedJsonString : O → Text → Text → Text → O × Text

/-- The writer between two frames. -/
structure WriterState (O : Type) where
  nodes : Nat
  active : List Nat
  output : O

section Writer

variable {O : Type} [JsonOutput O]

def WriterState.append (state : WriterState O) (text : Text) : WriterState O :=
  { state with output := JsonOutput.append state.output text }

def WriterState.appendString (state : WriterState O) (value path instancePointer : Text) : WriterState O :=
  let written := JsonOutput.boundedJsonString state.output value path instancePointer
  { state with output := JsonOutput.append written.1 written.2 }

/-- An error without a limit. -/
def refusal (code : CanonicalJsonCode) (path message : Text) : PyError :=
  .canonicalJsonError ⟨code, path, message, none, none, none⟩

/-- The frames of the items of a list from an index on. -/
def itemFrames (frame : ValueFrame) : Nat → List HostValue → List WriterFrame
  | _, [] => []
  | index, item :: rest =>
    (if 0 < index then [.text (ascii ",")] else []) ++
      .value item (frame.item index) :: itemFrames frame (index + 1) rest

variable (limits : Option JsonResourceLimits)

def scheduleList (objectId : Nat) (values : List HostValue) (frame : ValueFrame)
    (state : WriterState O) : Py (List WriterFrame × WriterState O) := do
  raiseIf (objectId ∈ state.active) (refusal .cycle frame.path (ascii "cyclic arrays are not JSON values"))
  admitDirectChildren limits values.length frame state.nodes
  return (itemFrames frame 0 values ++ [.text (ascii "]"), .exit objectId],
    { state with active := objectId :: state.active }.append (ascii "["))

variable (frame : ValueFrame)

/-- The text of a key. -/
def entryKey (entry : HostKey × HostValue) : Py (Text × HostValue) :=
  match entry.1 with
  | .other notationText =>
    .error (refusal .nonStringKey frame.path (ascii "object key " ++ notationText ++ ascii " is not a string"))
  | .text key => do
    rejectSurrogates key frame.path (ascii "object key contains surrogate code point")
    return (key, entry.2)

/-- The frames of the entries of a dictionary from an index on. -/
def entryFrames (frame : ValueFrame) : Nat → List (Text × HostValue) → List WriterFrame
  | _, [] => []
  | index, (key, item) :: rest =>
    (if 0 < index then [.text (ascii ",")] else []) ++
      .string key frame.path (jsonPointerChild frame.instancePointer key) :: .text (ascii ":") ::
        .value item (frame.member key) :: entryFrames frame (index + 1) rest

def scheduleObject (objectId : Nat) (value : List (HostKey × HostValue))
    (frame : ValueFrame) (state : WriterState O) : Py (List WriterFrame × WriterState O) := do
  raiseIf (objectId ∈ state.active) (refusal .cycle frame.path (ascii "cyclic objects are not JSON values"))
  admitDirectChildren limits value.length frame state.nodes
  let entries ← collect (entryKey frame) value
  return (entryFrames frame 0 (sortBy Prod.fst entries) ++ [.text (ascii "\x7d"), .exit objectId],
    { state with active := objectId :: state.active }.append (ascii "\x7b"))

/-- A value writes its text or schedules its children. -/
def writeCandidate (candidate : HostValue) (frame : ValueFrame)
    (state : WriterState O) : Py (List WriterFrame × WriterState O) :=
  match candidate with
  | .none => .ok ([], state.append (ascii "null"))
  | .bool value => .ok ([], state.append (if value then ascii "true" else ascii "false"))
  | .str value => do
    rejectSurrogates value frame.path (ascii "string contains surrogate code point")
    return ([], state.appendString value frame.path frame.instancePointer)
  | .int value => do
    rejectUnsafeInteger value frame.path
    return ([], state.append (decimalInt value))
  | .float value => do
    let text ← canonicalFloat value frame.path
    return ([], state.append text)
  | .list objectId items => scheduleList limits objectId items frame state
  | .dict objectId entries => scheduleObject limits objectId entries frame state
  | .bytes => .error (refusal .nonCanonicalInput frame.path (ascii "bytes are not JSON values"))
  | .datetime => .error (refusal .nonCanonicalInput frame.path (ascii "datetime values are not JSON values"))
  | .collection => .error (refusal .nonCanonicalInput frame.path (ascii "collection type is not a JSON array"))
  | .other typeName =>
    .error (refusal .nonCanonicalInput frame.path (typeName ++ ascii " is not a JSON-domain value"))

/-- One turn of the loop: the frames that the popped frame pushes, and the state after it. -/
def writeFrame (frame : WriterFrame) (state : WriterState O) :
    Py (List WriterFrame × WriterState O) :=
  match frame with
  | .text text => .ok ([], state.append text)
  | .string value path instancePointer => .ok ([], state.appendString value path instancePointer)
  | .exit objectId => .ok ([], { state with active := state.active.erase objectId })
  | .value candidate place => do
    let nodes ← visit limits place state.nodes
    writeCandidate limits candidate place { state with nodes := nodes }

mutual

/-- The turns that a value takes. -/
def HostValue.weight : HostValue → Nat
  | .list _ items => 3 + weightItems items
  | .dict _ entries => 3 + weightEntries entries
  | .none | .bool _ | .int _ | .float _ | .str _ | .bytes | .datetime | .collection | .other _ => 1

/-- The turns that the items of a list take at most. -/
def weightItems : List HostValue → Nat
  | [] => 0
  | item :: rest => 1 + item.weight + weightItems rest

/-- The turns that the entries of a dictionary take at most. -/
def weightEntries : List (HostKey × HostValue) → Nat
  | [] => 0
  | (_, item) :: rest => 3 + item.weight + weightEntries rest

end

/-- The turns that a frame takes at most. -/
def WriterFrame.weight : WriterFrame → Nat
  | .value candidate _ => candidate.weight
  | _ => 1

/-- The turns that a stack takes at most. -/
def stackWeight (frames : List WriterFrame) : Nat :=
  (frames.map WriterFrame.weight).sum

theorem stackWeight_append (first second : List WriterFrame) :
    stackWeight (first ++ second) = stackWeight first + stackWeight second := by
  rw [stackWeight, map_append, sum_append]
  rfl

theorem stackWeight_itemFrames (index : Nat) (items : List HostValue) :
    stackWeight (itemFrames frame index items) ≤ weightItems items := by
  induction items generalizing index with
  | nil => exact le_rfl
  | cons item rest ih =>
    have later := ih (index + 1)
    rw [itemFrames, stackWeight_append, weightItems]
    unfold stackWeight at later ⊢
    rw [map_cons, sum_cons, WriterFrame.weight]
    split
    · simp only [map_cons, map_nil, sum_cons, sum_nil, WriterFrame.weight]
      omega
    · simp only [map_nil, sum_nil]
      omega

theorem stackWeight_entryFrames (index : Nat) (entries : List (Text × HostValue)) :
    stackWeight (entryFrames frame index entries) ≤ (entries.map fun entry => 3 + entry.2.weight).sum := by
  induction entries generalizing index with
  | nil => exact le_rfl
  | cons entry rest ih =>
    have later := ih (index + 1)
    rw [entryFrames, stackWeight_append, map_cons, sum_cons]
    unfold stackWeight at later ⊢
    simp only [map_cons, sum_cons, WriterFrame.weight]
    split
    · simp only [map_cons, map_nil, sum_cons, sum_nil, WriterFrame.weight]
      omega
    · simp only [map_nil, sum_nil]
      omega

theorem weightEntries_eq (entries : List (HostKey × HostValue)) :
    weightEntries entries = (entries.map fun entry => 3 + entry.2.weight).sum := by
  induction entries with
  | nil => rfl
  | cons entry rest ih => rw [weightEntries, ih, map_cons, sum_cons]

/-- A turn pushes frames that take fewer turns than the frame that it pops. -/
theorem writeFrame_weight {limits : Option JsonResourceLimits} {frame : WriterFrame} {state next : WriterState O}
    {pushed : List WriterFrame} (turned : writeFrame limits frame state = .ok (pushed, next)) :
    stackWeight pushed < frame.weight := by
  have nothing {candidate : WriterFrame} (none : pushed = []) (positive : 0 < candidate.weight) :
      stackWeight pushed < candidate.weight := by
    rw [none]
    exact positive
  cases frame with
  | text text =>
    simp only [writeFrame, Except.ok.injEq, Prod.mk.injEq] at turned
    exact nothing turned.1.symm Nat.one_pos
  | string value path instancePointer =>
    simp only [writeFrame, Except.ok.injEq, Prod.mk.injEq] at turned
    exact nothing turned.1.symm Nat.one_pos
  | exit objectId =>
    simp only [writeFrame, Except.ok.injEq, Prod.mk.injEq] at turned
    exact nothing turned.1.symm Nat.one_pos
  | value candidate place =>
    simp only [writeFrame, bind_eq_ok] at turned
    obtain ⟨nodes, -, written⟩ := turned
    cases candidate with
    | list objectId items =>
      simp only [writeCandidate, scheduleList, bind_eq_ok, pure_eq_ok_iff, Prod.mk.injEq] at written
      obtain ⟨-, -, -, -, rfl, -⟩ := written
      have children := stackWeight_itemFrames place 0 items
      rw [stackWeight_append, WriterFrame.weight, HostValue.weight]
      change _ + 2 < _
      omega
    | dict objectId entries =>
      simp only [writeCandidate, scheduleObject, bind_eq_ok, pure_eq_ok_iff, Prod.mk.injEq] at written
      obtain ⟨-, -, -, -, named, collected, rfl, -⟩ := written
      have children := stackWeight_entryFrames place 0 (sortBy Prod.fst named)
      have same : (named.map fun entry => 3 + entry.2.weight) = entries.map fun entry => 3 + entry.2.weight := by
        refine map_collect collected fun entry _ result keyed => ?_
        unfold entryKey at keyed
        split at keyed
        · cases keyed
        · simp only [bind_eq_ok, pure_eq_ok_iff] at keyed
          obtain ⟨-, -, rfl⟩ := keyed
          rfl
      rw [((sortBy_perm Prod.fst named).map _).sum_nat, same, ← weightEntries_eq] at children
      rw [stackWeight_append, WriterFrame.weight, HostValue.weight]
      change _ + 2 < _
      omega
    | none | bool _ =>
      simp only [writeCandidate, Except.ok.injEq, Prod.mk.injEq] at written
      exact nothing written.1.symm Nat.one_pos
    | int _ | float _ | str _ =>
      simp only [writeCandidate, bind_eq_ok, pure_eq_ok_iff, Prod.mk.injEq] at written
      obtain ⟨-, -, none, -⟩ := written
      exact nothing none.symm Nat.one_pos
    | bytes | datetime | collection | other _ => cases written

/-- The loop runs while frames remain. -/
def writeFrames (limits : Option JsonResourceLimits) (frames : List WriterFrame) (state : WriterState O) : Py O :=
  match frames with
  | [] => .ok state.output
  | frame :: rest =>
    match _turned : writeFrame limits frame state with
    | .error error => .error error
    | .ok (pushed, next) => writeFrames limits (pushed ++ rest) next
termination_by stackWeight frames
decreasing_by
  have shorter := writeFrame_weight _turned
  rw [stackWeight_append]
  change _ < frame.weight + stackWeight rest
  omega

/-- One turn, then the rest of the loop. -/
theorem writeFrames_cons (frame : WriterFrame) (rest : List WriterFrame) (state : WriterState O) :
    writeFrames limits (frame :: rest) state =
      (writeFrame limits frame state >>= fun turn => writeFrames limits (turn.1 ++ rest) turn.2) := by
  rw [writeFrames]
  split
  · rename_i error turned
    rw [turned]
    rfl
  · rename_i pushed next turned
    rw [turned]
    rfl

/-- The writer starts with the frame of the whole value. -/
def writeCanonicalJson (value : HostValue) (limits : Option JsonResourceLimits) (output : O) : Py O :=
  writeFrames limits [.value value rootFrame] ⟨0, [], output⟩

end Writer

/-- The output of the unbounded writer keeps the texts. -/
structure TextOutput where
  chunks : List Text

/-- The text that the chunks make up. -/
def TextOutput.joined (output : TextOutput) : Text :=
  output.chunks.flatten

instance : JsonOutput TextOutput where
  append output text := ⟨output.chunks ++ [text]⟩
  boundedJsonString output value _ _ := (output, jsonString value)

/-- The output of the bounded writer keeps bytes until a text does not fit any more. -/
structure BoundedBytesOutput where
  maxBytes : Nat
  chunks : List Nat
  overflow : Option PyError

variable (output : BoundedBytesOutput)

/-- The first overflow is kept. -/
def BoundedBytesOutput.recordByteOverflow (path instancePointer : Text) : BoundedBytesOutput :=
  match output.overflow with
  | some _ => output
  | none =>
    { output with
      overflow := some (.canonicalJsonError ⟨.canonicalJsonMaxBytesExceeded, path,
        ascii "maximum canonical JSON byte count is " ++ decimal output.maxBytes, some instancePointer,
        some output.maxBytes, some (output.maxBytes + 1)⟩) }

/-- The bytes of a text, counted from left to right until they exceed a limit. -/
def utf8LengthExceedsFrom (limit : Nat) : Nat → Text → Bool
  | _, [] => false
  | observed, point :: rest =>
    let next := observed + (if point.val ≤ 0x7F then 1 else if point.val ≤ 0x7FF then 2 else
      if point.val ≤ 0xFFFF then 3 else 4)
    if limit < next then true else utf8LengthExceedsFrom limit next rest

def utf8LengthExceeds (value : Text) (limit : Nat) : Bool :=
  if value.all fun point => point.val < 0x80 then limit < value.length else utf8LengthExceedsFrom limit 0 value

instance : JsonOutput BoundedBytesOutput where
  append output text :=
    match output.overflow with
    | some _ => output
    | none =>
      if output.maxBytes - output.chunks.length < text.utf8.length then output.recordByteOverflow (ascii "$") []
      else { output with chunks := output.chunks ++ text.utf8 }
  boundedJsonString output value path instancePointer :=
    match output.overflow with
    | some _ => (output, [])
    | none =>
      if utf8LengthExceeds value output.maxBytes then (output.recordByteOverflow path instancePointer, [])
      else (output, jsonString value)

/-- The bytes, unless a text did not fit. -/
def BoundedBytesOutput.finish : Py (List Nat) :=
  match output.overflow with
  | some error => .error error
  | none => .ok output.chunks

variable (value : HostValue) (limits : Option JsonResourceLimits)

/-- The text of a host value. -/
def hostCanonicalJsonText : Py Text := do
  let output ← writeCanonicalJson value limits (⟨[]⟩ : TextOutput)
  return output.joined

/-- The bytes of a host value. -/
def hostCanonicalJson : Py (List Nat) := do
  let text ← hostCanonicalJsonText value limits
  return text.utf8

/-- The bytes of a host value, as many as a limit admits. -/
def hostBoundedCanonicalJson (maxBytes : Int) (limits : Option JsonResourceLimits) : Py (List Nat) := do
  valueErrorIf (maxBytes < 0) (ascii "max_bytes must be a non-negative integer")
  let output ← writeCanonicalJson value limits (⟨maxBytes.toNat, [], none⟩ : BoundedBytesOutput)
  output.finish

end CiCoordinator.Kernel

import CiCoordinator.Kernel.CanonicalWriter

/- The agreement of the bounded writer with the unbounded one. -/

namespace CiCoordinator.Kernel

open Library List Text

section Simulation

variable {O P : Type} [JsonOutput O] [JsonOutput P]

/-- Related outputs stay related whatever is written to both. -/
structure Simulates (related : O → P → Prop) : Prop where
  append : ∀ {output : O} {other : P} (text : Text), related output other →
    related (JsonOutput.append output text) (JsonOutput.append other text)
  appendString : ∀ {output : O} {other : P} (value path instancePointer : Text), related output other →
    related (JsonOutput.append (JsonOutput.boundedJsonString output value path instancePointer).1
        (JsonOutput.boundedJsonString output value path instancePointer).2)
      (JsonOutput.append (JsonOutput.boundedJsonString other value path instancePointer).1
        (JsonOutput.boundedJsonString other value path instancePointer).2)

/-- States of two writers that have come equally far. -/
structure StatesAgree (related : O → P → Prop) (state : WriterState O) (other : WriterState P) : Prop where
  nodes : state.nodes = other.nodes
  active : state.active = other.active
  output : related state.output other.output

/-- Two computations raise the same error or return related values. -/
inductive Alike {A B : Type} (related : A → B → Prop) : Py A → Py B → Prop
  | ok {value : A} {other : B} : related value other → Alike related (.ok value) (.ok other)
  | error (error : PyError) : Alike related (.error error) (.error error)

/-- A common step before two computations. -/
theorem Alike.bind {A B C : Type} {related : B → C → Prop} (first : Py A) {left : A → Py B} {right : A → Py C}
    (rest : ∀ value, first = .ok value → Alike related (left value) (right value)) :
    Alike related (first >>= left) (first >>= right) := by
  cases computed : first with
  | error error => exact .error error
  | ok value => exact rest value computed

/-- The outcomes of one turn of both writers. -/
def TurnsAgree (related : O → P → Prop) (turn : List WriterFrame × WriterState O) (other : List WriterFrame × WriterState P) :
    Prop :=
  turn.1 = other.1 ∧ StatesAgree related turn.2 other.2

variable {related : O → P → Prop} {limits : Option JsonResourceLimits} {state : WriterState O} {other : WriterState P}

section

variable (simulates : Simulates related)
include simulates

theorem StatesAgree.append (agree : StatesAgree related state other) (text : Text) :
    StatesAgree related (state.append text) (other.append text) :=
  ⟨agree.nodes, agree.active, simulates.append text agree.output⟩

theorem StatesAgree.appendString (agree : StatesAgree related state other) (value path instancePointer : Text) :
    StatesAgree related (state.appendString value path instancePointer) (other.appendString value path instancePointer) :=
  ⟨agree.nodes, agree.active, simulates.appendString value path instancePointer agree.output⟩

/-- A value is treated alike by both writers. -/
theorem writeCandidate_agree (agree : StatesAgree related state other) (candidate : HostValue) (frame : ValueFrame) :
    Alike (TurnsAgree related) (writeCandidate limits candidate frame state) (writeCandidate limits candidate frame other) := by
  obtain ⟨nodes, active, output⟩ := state
  obtain ⟨otherNodes, otherActive, otherOutput⟩ := other
  obtain ⟨rfl, rfl, outputs⟩ := agree
  have agree : StatesAgree related ⟨nodes, active, output⟩ ⟨nodes, active, otherOutput⟩ := ⟨rfl, rfl, outputs⟩
  cases candidate with
  | none => exact .ok ⟨rfl, agree.append simulates _⟩
  | bool value => exact .ok ⟨rfl, agree.append simulates _⟩
  | str value => exact Alike.bind _ fun _ _ => .ok ⟨rfl, agree.appendString simulates _ _ _⟩
  | int value => exact Alike.bind _ fun _ _ => .ok ⟨rfl, agree.append simulates _⟩
  | float value => exact Alike.bind _ fun _ _ => .ok ⟨rfl, agree.append simulates _⟩
  | list objectId items =>
    have entered : StatesAgree related ⟨nodes, objectId :: active, output⟩ ⟨nodes, objectId :: active, otherOutput⟩ :=
      ⟨rfl, rfl, outputs⟩
    exact Alike.bind _ fun _ _ => Alike.bind _ fun _ _ => .ok ⟨rfl, entered.append simulates _⟩
  | dict objectId entries =>
    have entered : StatesAgree related ⟨nodes, objectId :: active, output⟩ ⟨nodes, objectId :: active, otherOutput⟩ :=
      ⟨rfl, rfl, outputs⟩
    exact Alike.bind _ fun _ _ => Alike.bind _ fun _ _ => Alike.bind _ fun _ _ => .ok ⟨rfl, entered.append simulates _⟩
  | bytes => exact .error _
  | datetime => exact .error _
  | collection => exact .error _
  | other typeName => exact .error _

/-- A turn of both writers. -/
theorem writeFrame_agree (agree : StatesAgree related state other) (frame : WriterFrame) :
    Alike (TurnsAgree related) (writeFrame limits frame state) (writeFrame limits frame other) := by
  cases frame with
  | text text => exact .ok ⟨rfl, agree.append simulates text⟩
  | string value path instancePointer => exact .ok ⟨rfl, agree.appendString simulates value path instancePointer⟩
  | exit objectId => exact .ok ⟨rfl, agree.nodes, congrArg (List.erase · objectId) agree.active, agree.output⟩
  | value candidate place =>
    unfold writeFrame
    rw [agree.nodes]
    refine Alike.bind _ fun nodes _ => ?_
    have counted : StatesAgree related { state with nodes := nodes } { other with nodes := nodes } :=
      ⟨rfl, agree.active, agree.output⟩
    exact writeCandidate_agree simulates counted candidate place

/-- Both writers run in lockstep to the end. -/
theorem writeFrames_agree (frames : List WriterFrame) (agree : StatesAgree related state other) :
    Alike related (writeFrames limits frames state) (writeFrames limits frames other) := by
  induction frames, state using @writeFrames.induct O _ limits generalizing other with
  | case1 state =>
    rw [writeFrames, writeFrames]
    exact .ok agree.output
  | case2 state frame rest error turned =>
    have turn := @writeFrame_agree _ _ _ _ _ limits _ _ simulates agree frame
    rw [writeFrames_cons, writeFrames_cons]
    rw [turned] at turn ⊢
    generalize writeFrame limits frame other = outcome at turn
    cases turn with
    | error => exact .error _
  | case3 state frame rest pushed next turned ih =>
    have turn := @writeFrame_agree _ _ _ _ _ limits _ _ simulates agree frame
    rw [writeFrames_cons, writeFrames_cons]
    rw [turned] at turn ⊢
    generalize writeFrame limits frame other = outcome at turn
    cases turn with
    | @ok _ otherTurn both =>
      obtain ⟨same, advanced⟩ := both
      have later := ih advanced
      change pushed = otherTurn.1 at same
      subst same
      exact later

end

end Simulation

section Bounded

/-- The number of bytes of a code point. -/
theorem length_utf8_point (point : CodePoint) :
    point.utf8.length = if point.val ≤ 0x7F then 1 else if point.val ≤ 0x7FF then 2 else
      if point.val ≤ 0xFFFF then 3 else 4 := by
  unfold CodePoint.utf8
  split_ifs <;> first | rfl | omega

theorem utf8LengthExceedsFrom_eq {limit observed : Nat} (within : observed ≤ limit) (value : Text) :
    utf8LengthExceedsFrom limit observed value = decide (limit < observed + value.utf8.length) := by
  induction value generalizing observed with
  | nil => simpa [utf8LengthExceedsFrom, Text.utf8] using within
  | cons point rest ih =>
    have split : Text.utf8 (point :: rest) = point.utf8 ++ Text.utf8 rest := rfl
    rw [utf8LengthExceedsFrom, ← length_utf8_point, split, length_append]
    by_cases exceeded : limit < observed + point.utf8.length
    · simp only [exceeded, if_true]
      exact (decide_eq_true (by omega)).symm
    · simp only [exceeded, if_false]
      rw [ih (not_lt.mp exceeded), Nat.add_assoc]

/-- The count decides whether the bytes of a text exceed a limit. -/
theorem utf8LengthExceeds_eq (value : Text) (limit : Nat) :
    utf8LengthExceeds value limit = decide (limit < value.utf8.length) := by
  unfold utf8LengthExceeds
  split
  · rename_i plain
    rw [length_utf8_of_ascii fun point member => by simpa using all_eq_true.mp plain point member]
  · rw [utf8LengthExceedsFrom_eq (Nat.zero_le limit), Nat.zero_add]

/-- An escape takes no fewer bytes than the code point that it stands for. -/
theorem length_utf8_escapePoint (point : CodePoint) : point.utf8.length ≤ (escapePoint point).utf8.length := by
  have small : point.val < 0x80 → point.utf8.length = 1 := fun plain => by
    rw [length_utf8_point, if_pos (by omega)]
  unfold escapePoint
  split_ifs with quote backslash newline carriage tab feed back control
  · subst quote
    decide
  · subst backslash
    decide
  · subst newline
    decide
  · subst carriage
    decide
  · subst tab
    decide
  · subst feed
    decide
  · subst back
    decide
  · rw [small (by omega), utf8_append, length_append]
    have marks : (ascii "\\u").utf8.length = 2 := by decide
    omega
  · simp [Text.utf8]

/-- A string takes more bytes in its notation. -/
theorem length_utf8_jsonString (value : Text) : value.utf8.length < (jsonString value).utf8.length := by
  have inside : value.utf8.length ≤ (Text.utf8 (value.flatMap escapePoint)).length := by
    induction value with
    | nil => exact le_rfl
    | cons point rest ih =>
      have split : Text.utf8 (point :: rest) = point.utf8 ++ Text.utf8 rest := rfl
      rw [flatMap_cons, utf8_append, split, length_append, length_append]
      exact Nat.add_le_add (length_utf8_escapePoint point) ih
  have marks : (ascii "\"").utf8.length = 1 := by decide
  rw [jsonString, utf8_append, utf8_append, length_append, length_append, marks]
  omega

/-- An error that reports more bytes than a limit admits. -/
def IsOverflow (maxBytes : Nat) (error : PyError) : Prop :=
  ∃ path instancePointer, error = .canonicalJsonError ⟨.canonicalJsonMaxBytesExceeded, path,
    ascii "maximum canonical JSON byte count is " ++ decimal maxBytes, some instancePointer, some maxBytes,
    some (maxBytes + 1)⟩

/-- The bounded output holds the bytes of the text while they fit, and an overflow once they do not. -/
structure Bounds (maxBytes : Nat) (output : TextOutput) (bounded : BoundedBytesOutput) : Prop where
  limit : bounded.maxBytes = maxBytes
  fits : bounded.overflow = none → bounded.chunks = output.joined.utf8 ∧ output.joined.utf8.length ≤ maxBytes
  exceeds : ∀ error, bounded.overflow = some error → IsOverflow maxBytes error ∧ maxBytes < output.joined.utf8.length

variable {maxBytes : Nat} {output : TextOutput} {bounded : BoundedBytesOutput}

theorem joined_append (output : TextOutput) (text : Text) : (JsonOutput.append output text).joined = output.joined ++ text := by
  change (output.chunks ++ [text]).flatten = output.chunks.flatten ++ text
  rw [flatten_append, flatten_singleton]

/-- A recorded overflow is right when the text is too long. -/
theorem Bounds.record (limit : bounded.maxBytes = maxBytes) (fresh : bounded.overflow = none)
    (long : maxBytes < output.joined.utf8.length) (path instancePointer : Text) :
    Bounds maxBytes output (bounded.recordByteOverflow path instancePointer) := by
  unfold BoundedBytesOutput.recordByteOverflow
  rw [fresh]
  refine ⟨limit, fun none => (by cases none), fun error recorded => ⟨?_, long⟩⟩
  rw [← Option.some.inj recorded, limit]
  exact ⟨path, instancePointer, rfl⟩

/-- More text keeps an output that has overflowed. -/
theorem Bounds.overflowed (bounds : Bounds maxBytes output bounded) {error : PyError} (recorded : bounded.overflow = some error)
    (text : Text) : Bounds maxBytes (JsonOutput.append output text) bounded := by
  refine ⟨bounds.limit, fun none => absurd (recorded.symm.trans none) (by simp), fun other found => ?_⟩
  obtain ⟨shape, long⟩ := bounds.exceeds other found
  refine ⟨shape, ?_⟩
  rw [joined_append, utf8_append, length_append]
  omega

theorem Bounds.append (bounds : Bounds maxBytes output bounded) (text : Text) :
    Bounds maxBytes (JsonOutput.append output text) (JsonOutput.append bounded text) := by
  cases overflow : bounded.overflow with
  | some error =>
    have kept : JsonOutput.append bounded text = bounded := by
      simp only [JsonOutput.append, overflow]
    rw [kept]
    exact bounds.overflowed overflow text
  | none =>
    obtain ⟨chunks, short⟩ := bounds.fits overflow
    have total : (JsonOutput.append output text).joined.utf8.length = output.joined.utf8.length + text.utf8.length := by
      rw [joined_append, utf8_append, length_append]
    simp only [JsonOutput.append, overflow]
    split
    · rename_i exceeded
      rw [bounds.limit, chunks] at exceeded
      refine Bounds.record bounds.limit overflow ?_ _ _
      change maxBytes < (JsonOutput.append output text).joined.utf8.length
      omega
    · rename_i fitting
      rw [bounds.limit, chunks] at fitting
      refine ⟨bounds.limit, fun _ => ⟨?_, ?_⟩, fun error found => (by cases found)⟩
      · change bounded.chunks ++ text.utf8 = (JsonOutput.append output text).joined.utf8
        rw [chunks, joined_append, utf8_append]
      · change (JsonOutput.append output text).joined.utf8.length ≤ maxBytes
        omega

/-- The bounded output stays right whatever is written. -/
theorem bounds_simulates (maxBytes : Nat) : Simulates (Bounds maxBytes) := by
  refine ⟨fun text bounds => bounds.append text, ?_⟩
  intro output bounded value path instancePointer bounds
  cases overflow : bounded.overflow with
  | some error =>
    have asked : JsonOutput.boundedJsonString bounded value path instancePointer = (bounded, []) := by
      simp only [JsonOutput.boundedJsonString, overflow]
    have kept : JsonOutput.append bounded [] = bounded := by
      simp only [JsonOutput.append, overflow]
    rw [asked, kept]
    exact bounds.overflowed overflow (jsonString value)
  | none =>
    by_cases exceeded : utf8LengthExceeds value bounded.maxBytes = true
    · have asked : JsonOutput.boundedJsonString bounded value path instancePointer =
          (bounded.recordByteOverflow path instancePointer, []) := by
        simp only [JsonOutput.boundedJsonString, overflow, exceeded, if_true]
      have long : maxBytes < (JsonOutput.append output (jsonString value)).joined.utf8.length := by
        rw [utf8LengthExceeds_eq, decide_eq_true_eq, bounds.limit] at exceeded
        have longer := length_utf8_jsonString value
        rw [joined_append, utf8_append, length_append]
        omega
      have recorded := Bounds.record bounds.limit overflow long path instancePointer
      rw [asked]
      cases found : (bounded.recordByteOverflow path instancePointer).overflow with
      | none =>
        have short := (recorded.fits found).2
        exact absurd long (not_lt.mpr short)
      | some error =>
        have kept : JsonOutput.append (bounded.recordByteOverflow path instancePointer) [] =
            bounded.recordByteOverflow path instancePointer := by
          simp only [JsonOutput.append, found]
        rw [kept]
        exact recorded
    · have asked : JsonOutput.boundedJsonString bounded value path instancePointer = (bounded, jsonString value) := by
        simp only [JsonOutput.boundedJsonString, overflow, exceeded, Bool.false_eq_true, if_false]
      rw [asked]
      exact bounds.append (jsonString value)

end Bounded

section Unbounded

/-- An error other than an overflow. -/
def NotOverflow (error : PyError) : Prop :=
  ∀ raised, error = .canonicalJsonError raised → raised.code ≠ .canonicalJsonMaxBytesExceeded

theorem notOverflow_canonical {error : CanonicalJsonError} (other : error.code ≠ .canonicalJsonMaxBytesExceeded) :
    NotOverflow (.canonicalJsonError error) := by
  intro raised same
  cases same
  exact other

theorem notOverflow_rejectSurrogates (value path message : Text) : Raises NotOverflow (rejectSurrogates value path message) :=
  .raiseIf fun _ => notOverflow_canonical (by simp)

variable (limits : Option JsonResourceLimits)

theorem notOverflow_visit (frame : ValueFrame) (nodes : Nat) : Raises NotOverflow (visit limits frame nodes) := by
  unfold visit
  split
  · exact .ok
  · split
    · exact .error (notOverflow_canonical (by simp))
    · split
      · exact .error (notOverflow_canonical (by simp))
      · exact .ok

theorem notOverflow_admitDirectChildren (count : Nat) (frame : ValueFrame) (nodes : Nat) :
    Raises NotOverflow (admitDirectChildren limits count frame nodes) := by
  unfold admitDirectChildren
  split
  · exact .ok
  · exact .raiseIf fun _ => notOverflow_canonical (by simp)

theorem notOverflow_canonicalFloat (value : Float64) (path : Text) : Raises NotOverflow (canonicalFloat value path) := by
  unfold canonicalFloat
  split
  · split
    · exact .error (notOverflow_canonical (by simp))
    · split
      · exact .ok
      · exact .ok
  · exact .error (notOverflow_canonical (by simp))

theorem notOverflow_entryKey (frame : ValueFrame) (entry : HostKey × HostValue) : Raises NotOverflow (entryKey frame entry) := by
  unfold entryKey
  split
  · exact .error (notOverflow_canonical (by simp))
  · exact .bind (notOverflow_rejectSurrogates _ _ _) fun _ _ => .ok

/-- A turn raises no overflow, whatever the output: an overflow is only reported at the end. -/
theorem notOverflow_writeFrame {O : Type} [JsonOutput O] (limits : Option JsonResourceLimits) (frame : WriterFrame)
    (state : WriterState O) : Raises NotOverflow (writeFrame limits frame state) := by
  cases frame with
  | text text => exact .ok
  | string value path instancePointer => exact .ok
  | exit objectId => exact .ok
  | value candidate place =>
    refine .bind (notOverflow_visit _ _ _) fun nodes _ => ?_
    cases candidate with
    | none | bool _ => exact .ok
    | str value => exact .bind (notOverflow_rejectSurrogates _ _ _) fun _ _ => .ok
    | int value =>
      exact .bind (.raiseIf fun _ => notOverflow_canonical (by simp)) fun _ _ => .ok
    | float value => exact .bind (notOverflow_canonicalFloat _ _) fun _ _ => .ok
    | list objectId items =>
      refine .bind (.raiseIf fun _ => notOverflow_canonical (by simp)) fun _ _ => ?_
      exact .bind (notOverflow_admitDirectChildren _ _ _ _) fun _ _ => .ok
    | dict objectId entries =>
      refine .bind (.raiseIf fun _ => notOverflow_canonical (by simp)) fun _ _ => ?_
      refine .bind (notOverflow_admitDirectChildren _ _ _ _) fun _ _ => ?_
      exact .bind (.collect fun entry _ => notOverflow_entryKey _ entry) fun _ _ => .ok
    | bytes | datetime | collection | other _ => exact .error (notOverflow_canonical (by simp))

theorem notOverflow_writeFrames {O : Type} [JsonOutput O] (limits : Option JsonResourceLimits) (frames : List WriterFrame)
    (state : WriterState O) : Raises NotOverflow (writeFrames limits frames state) := by
  induction frames, state using @writeFrames.induct O _ limits with
  | case1 state =>
    rw [writeFrames]
    exact .ok
  | case2 state frame rest error turned =>
    rw [writeFrames_cons, turned]
    exact .error (notOverflow_writeFrame _ _ _ _ turned)
  | case3 state frame rest pushed next turned ih =>
    rw [writeFrames_cons, turned]
    exact ih

/-- The unbounded writer reports no overflow. -/
theorem notOverflow_hostCanonicalJson (value : HostValue) (limits : Option JsonResourceLimits) :
    Raises NotOverflow (hostCanonicalJson value limits) :=
  .bind (.bind (notOverflow_writeFrames _ _ _) fun _ _ => .ok) fun _ _ => .ok

end Unbounded

/-- The bounded writer returns the bytes of the unbounded one when they fit and raises the errors of the unbounded one.
It reports an overflow exactly when there are bytes and they do not fit. -/
theorem hostBoundedCanonicalJson_agrees (value : HostValue) (maxBytes : Nat) (limits : Option JsonResourceLimits) :
    (∀ bytes, hostCanonicalJson value limits = .ok bytes → bytes.length ≤ maxBytes →
      hostBoundedCanonicalJson value maxBytes limits = .ok bytes) ∧
    (∀ error, hostCanonicalJson value limits = .error error →
      hostBoundedCanonicalJson value maxBytes limits = .error error) ∧
    ((∃ error, IsOverflow maxBytes error ∧ hostBoundedCanonicalJson value maxBytes limits = .error error) ↔
      ∃ bytes, hostCanonicalJson value limits = .ok bytes ∧ maxBytes < bytes.length) := by
  have never := notOverflow_hostCanonicalJson value limits
  have start : Bounds maxBytes ⟨[]⟩ ⟨maxBytes, [], none⟩ :=
    ⟨rfl, fun _ => ⟨rfl, Nat.zero_le _⟩, fun _ found => by cases found⟩
  have agree := @writeFrames_agree _ _ _ _ _ limits ⟨0, [], ⟨[]⟩⟩ ⟨0, [], ⟨maxBytes, [], none⟩⟩ (bounds_simulates maxBytes)
    [.value value rootFrame] ⟨rfl, rfl, start⟩
  have written : hostBoundedCanonicalJson value maxBytes limits =
      (writeCanonicalJson value limits ⟨maxBytes, [], none⟩ >>= BoundedBytesOutput.finish) := by
    unfold hostBoundedCanonicalJson
    rw [show valueErrorIf ((maxBytes : Int) < 0) (ascii "max_bytes must be a non-negative integer") = .ok () from
      raiseIf_eq_ok.mpr (by omega)]
    rfl
  rw [written]
  unfold hostCanonicalJson hostCanonicalJsonText writeCanonicalJson at never ⊢
  generalize writeFrames limits [.value value rootFrame] ⟨0, [], (⟨[]⟩ : TextOutput)⟩ = outcome at agree never
  generalize writeFrames limits [.value value rootFrame] ⟨0, [], (⟨maxBytes, [], none⟩ : BoundedBytesOutput)⟩ = other at agree
  cases agree with
  | error error =>
    refine ⟨fun bytes returned => (by cases returned), fun other raised => ?_, ?_⟩
    · cases raised
      rfl
    · constructor
      · rintro ⟨overflow, ⟨path, instancePointer, shape⟩, raised⟩
        change Except.error error = Except.error overflow at raised
        rw [Except.error.injEq] at raised
        exact absurd rfl (never error rfl _ (raised.trans shape))
      · rintro ⟨bytes, returned, -⟩
        cases returned
  | @ok output bounded bounds =>
    refine ⟨fun bytes returned short => ?_, fun error raised => (by cases raised), ?_⟩
    · cases returned
      change bounded.finish = _
      unfold BoundedBytesOutput.finish
      cases overflow : bounded.overflow with
      | none => rw [(bounds.fits overflow).1]
      | some error => exact absurd short (not_le.mpr (bounds.exceeds error overflow).2)
    · change (∃ error, IsOverflow maxBytes error ∧ bounded.finish = .error error) ↔ _
      unfold BoundedBytesOutput.finish
      cases overflow : bounded.overflow with
      | none =>
        constructor
        · rintro ⟨error, -, raised⟩
          cases raised
        · rintro ⟨bytes, returned, long⟩
          cases returned
          exact absurd long (not_lt.mpr (bounds.fits overflow).2)
      | some error =>
        obtain ⟨shape, long⟩ := bounds.exceeds error overflow
        exact ⟨fun _ => ⟨_, rfl, long⟩, fun _ => ⟨error, shape, rfl⟩⟩

end CiCoordinator.Kernel

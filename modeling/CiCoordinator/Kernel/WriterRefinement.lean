import CiCoordinator.Kernel.BoundedWriter

/- The refinement of the recursive writer by the writer with a stack. -/

namespace CiCoordinator.Kernel

open Library HostValue List

/-- A step from a container to a value inside it. -/
inductive ValueStep where
  | item (index : Nat)
  | member (key : Text)
  deriving DecidableEq

mutual

/-- A value of the JSON domain as the host holds it: every container has the identity of the steps that lead to it, the last
one first. -/
def HostValue.ofJson (identity : List ValueStep → Nat) (steps : List ValueStep) : Json → HostValue
  | .null => .none
  | .bool value => .bool value
  | .int value => .int value
  | .float value => .float value
  | .str value => .str value
  | .arr items => .list (identity steps) (ofJsonItems identity steps 0 items)
  | .obj members => .dict (identity steps) (ofJsonMembers identity steps members)

/-- The items of an array as the host holds them. -/
def ofJsonItems (identity : List ValueStep → Nat) (steps : List ValueStep) (index : Nat) : List Json → List HostValue
  | [] => []
  | item :: rest => .ofJson identity (.item index :: steps) item :: ofJsonItems identity steps (index + 1) rest

/-- The members of an object as the host holds them. -/
def ofJsonMembers (identity : List ValueStep → Nat) (steps : List ValueStep) : List (Text × Json) → List (HostKey × HostValue)
  | [] => []
  | (key, value) :: rest => (.text key, .ofJson identity (.member key :: steps) value) :: ofJsonMembers identity steps rest

end

/-- A container and the containers around it are different objects. Objects beside one another may be one. -/
def Acyclic (identity : List ValueStep → Nat) : Prop :=
  ∀ steps outer, outer <:+ steps → outer ≠ steps → identity outer ≠ identity steps

section Members

variable (identity : List ValueStep → Nat) (steps : List ValueStep)

/-- A member of an object with its value as the host holds it. -/
def hostMember (member : Text × Json) : Text × HostValue :=
  (member.1, .ofJson identity (.member member.1 :: steps) member.2)

theorem length_ofJsonItems (index : Nat) (items : List Json) : (ofJsonItems identity steps index items).length = items.length := by
  induction items generalizing index with
  | nil => rw [ofJsonItems, length_nil, length_nil]
  | cons item rest ih => rw [ofJsonItems, length_cons, ih, length_cons]

theorem ofJsonMembers_eq (members : List (Text × Json)) : ofJsonMembers identity steps members =
      (members.map (hostMember identity steps)).map fun member => (.text member.1, member.2) := by
  induction members with
  | nil => rw [ofJsonMembers, map_nil, map_nil]
  | cons member rest ih =>
    rw [ofJsonMembers, ih, map_cons, map_cons]
    rfl

end Members

/-- An output that is the text itself. -/
structure JoinedOutput where
  text : Text

instance : JsonOutput JoinedOutput where
  append output text := ⟨output.text ++ text⟩
  boundedJsonString output value _ _ := (output, jsonString value)

/-- Chunks only matter through the text that they make up. -/
theorem joined_simulates : Simulates fun (output : TextOutput) (other : JoinedOutput) => output.joined = other.text := by
  constructor
  · intro output other text same
    rw [joined_append, same]
    rfl
  · intro output other value path instancePointer same
    exact (joined_append output (jsonString value)).trans (by rw [same]; rfl)

/-- The containers that are being written are around the place that the steps lead to. -/
def Around (identity : List ValueStep → Nat) (steps : List ValueStep) (active : List Nat) : Prop :=
  ∀ objectId ∈ active, ∃ outer, outer <:+ steps ∧ outer ≠ steps ∧ identity outer = objectId

/-- The stack writes a value as the recursion does and goes on with the frames below. -/
def Writes (limits : Option JsonResourceLimits) (identity : List ValueStep → Nat) (value : Json) : Prop :=
  ∀ (steps : List ValueStep) (frame : ValueFrame) (nodes : Nat) (active : List Nat) (text : Text) (rest : List WriterFrame),
    Around identity steps active →
      writeFrames limits (.value (.ofJson identity steps value) frame :: rest) ⟨nodes, active, (⟨text⟩ : JoinedOutput)⟩ =
        (writeValue limits (sortMembers value) frame nodes >>= fun written =>
          writeFrames limits rest ⟨written.2, active, ⟨text ++ written.1⟩⟩)

section Refinement

variable {limits : Option JsonResourceLimits} {identity : List ValueStep → Nat}

theorem writeFrames_text (written : Text) (rest : List WriterFrame) (nodes : Nat) (active : List Nat) (text : Text) :
    writeFrames limits (.text written :: rest) ⟨nodes, active, (⟨text⟩ : JoinedOutput)⟩ =
      writeFrames limits rest ⟨nodes, active, ⟨text ++ written⟩⟩ := by
  rw [writeFrames_cons]
  rfl

theorem writeFrames_string (value path instancePointer : Text) (rest : List WriterFrame) (nodes : Nat) (active : List Nat)
    (text : Text) :
    writeFrames limits (.string value path instancePointer :: rest) ⟨nodes, active, (⟨text⟩ : JoinedOutput)⟩ =
      writeFrames limits rest ⟨nodes, active, ⟨text ++ jsonString value⟩⟩ := by
  rw [writeFrames_cons]
  rfl

theorem writeFrames_exit (objectId : Nat) (rest : List WriterFrame) (nodes : Nat) (active : List Nat) (text : Text) :
    writeFrames limits (.exit objectId :: rest) ⟨nodes, objectId :: active, (⟨text⟩ : JoinedOutput)⟩ =
      writeFrames limits rest ⟨nodes, active, ⟨text⟩⟩ := by
  rw [writeFrames_cons]
  change writeFrames limits rest ⟨nodes, (objectId :: active).erase objectId, (⟨text⟩ : JoinedOutput)⟩ = _
  rw [erase_cons_head]

section

variable (steps : List ValueStep) (active : List Nat) (around : ∀ step, Around identity (step :: steps) active)
include around

/-- The frames of the items of an array. -/
theorem writeFrames_items {items : List Json} (writes : ∀ item ∈ items, Writes limits identity item)
    (frame : ValueFrame) (index nodes : Nat) (text : Text) (rest : List WriterFrame) :
    writeFrames limits (itemFrames frame index (ofJsonItems identity steps index items) ++ rest)
        ⟨nodes, active, (⟨text⟩ : JoinedOutput)⟩ =
      (writeItems limits (items.map sortMembers) frame index nodes >>= fun written =>
        writeFrames limits rest ⟨written.2, active, ⟨text ++ written.1⟩⟩) := by
  induction items generalizing index nodes text with
  | nil =>
    rw [ofJsonItems, map_nil, itemFrames, writeItems, ok_bind_eq, nil_append, append_nil]
  | cons item others ih =>
    have head := writes item mem_cons_self
    have tail := ih fun other member => writes other (mem_cons_of_mem _ member)
    rw [ofJsonItems, map_cons, itemFrames, writeItems, append_assoc, cons_append]
    by_cases first : index = 0
    · subst first
      rw [if_neg (Nat.lt_irrefl 0), nil_append, head _ _ _ _ _ _ (around _)]
      simp only [bind_assoc, tail, if_true]
      refine bind_congr fun written => bind_congr fun others => ?_
      rw [pure_bind, append_assoc]
    · rw [if_pos (Nat.pos_of_ne_zero first), singleton_append, writeFrames_text, head _ _ _ _ _ _ (around _)]
      simp only [bind_assoc, tail, if_neg first]
      refine bind_congr fun written => bind_congr fun others => ?_
      rw [pure_bind]
      simp only [append_assoc]

/-- The frames of the members of an object, in the order of their names. -/
theorem writeFrames_members {members : List (Text × Json)} (writes : ∀ member ∈ members, Writes limits identity member.2)
    (frame : ValueFrame) (index nodes : Nat) (text : Text) (rest : List WriterFrame) :
    writeFrames limits (entryFrames frame index (members.map (hostMember identity steps)) ++ rest)
        ⟨nodes, active, (⟨text⟩ : JoinedOutput)⟩ =
      (writeMembers limits (members.map fun member => (member.1, sortMembers member.2)) frame (index = 0) nodes >>=
        fun written => writeFrames limits rest ⟨written.2, active, ⟨text ++ written.1⟩⟩) := by
  induction members generalizing index nodes text with
  | nil =>
    rw [map_nil, map_nil, entryFrames, writeMembers, ok_bind_eq, nil_append, append_nil]
  | cons member others ih =>
    have head := writes member mem_cons_self
    have tail := ih fun other inside => writes other (mem_cons_of_mem _ inside)
    rw [map_cons, map_cons, hostMember, entryFrames, writeMembers, append_assoc, cons_append, cons_append, cons_append]
    by_cases first : index = 0
    · subst first
      rw [if_neg (Nat.lt_irrefl 0), nil_append, writeFrames_string, writeFrames_text, head _ _ _ _ _ _ (around _)]
      simp only [bind_assoc, tail, Nat.zero_add, one_ne_zero, decide_true, decide_false, if_true]
      refine bind_congr fun written => bind_congr fun others => ?_
      rw [pure_bind]
      simp only [append_assoc, nil_append]
    · rw [if_pos (Nat.pos_of_ne_zero first), singleton_append, writeFrames_text, writeFrames_string, writeFrames_text,
        head _ _ _ _ _ _ (around _)]
      simp only [bind_assoc, tail, Nat.add_eq_zero_iff, one_ne_zero, and_false, decide_false, first, Bool.false_eq_true, if_false]
      refine bind_congr fun written => bind_congr fun others => ?_
      rw [pure_bind]
      simp only [append_assoc]

end

theorem entryKey_text (frame : ValueFrame) (key : Text) (item : HostValue) : entryKey frame (.text key, item) =
      (rejectSurrogates key frame.path (ascii "object key contains surrogate code point") >>= fun _ => .ok (key, item)) :=
  rfl

/-- The keys of an object are texts, so only a surrogate refuses them. -/
theorem collect_entryKey (frame : ValueFrame) (members : List (Text × HostValue)) :
    collect (entryKey frame) (members.map fun member => (.text member.1, member.2)) =
      (forEach (fun member => rejectSurrogates member.1 frame.path (ascii "object key contains surrogate code point"))
          members >>= fun _ => .ok members) := by
  induction members with
  | nil => rfl
  | cons member rest ih =>
    rw [map_cons, collect, entryKey_text, ih, forEach]
    cases rejectSurrogates member.1 frame.path (ascii "object key contains surrogate code point") with
    | error error => rfl
    | ok passed =>
      cases forEach (fun member : Text × HostValue => rejectSurrogates member.1 frame.path
          (ascii "object key contains surrogate code point")) rest with
      | error error => rfl
      | ok others => rfl

/-- The check of the keys does not depend on their order, because each refusal is the same. -/
theorem forEach_rejectSurrogates_perm {A B : Type} {first : List (Text × A)} {second : List (Text × B)} (path message : Text)
    (same : (first.map Prod.fst).Perm (second.map Prod.fst)) :
    forEach (fun member => rejectSurrogates member.1 path message) first =
      forEach (fun member => rejectSurrogates member.1 path message) second := by
  have outcome : ∀ {C : Type} (members : List (Text × C)),
      forEach (fun member => rejectSurrogates member.1 path message) members =
        if ∀ key ∈ members.map Prod.fst, key.scalar = true then .ok ()
        else .error (.canonicalJsonError ⟨.invalidUnicodeScalar, path, message, none, none, none⟩) := by
    intro C members
    split
    · rename_i scalar
      refine forEach_eq_ok.mpr fun member inside => ?_
      simp [rejectSurrogates, scalar member.1 (mem_map_of_mem inside)]
    · rename_i refused
      push Not at refused
      obtain ⟨key, listed, surrogate⟩ := refused
      obtain ⟨member, inside, rfl⟩ := mem_map.mp listed
      refine forEach_error (fun other _ => ?_) ⟨member, inside, ?_⟩
      · unfold rejectSurrogates raiseIf
        split
        · exact .inr rfl
        · exact .inl rfl
      · exact raiseIf_eq_error.mpr ⟨by simpa using surrogate, rfl⟩
  rw [outcome, outcome]
  simp only [same.mem_iff]

theorem Around.inside {steps : List ValueStep} {active : List Nat} (around : Around identity steps active) (step : ValueStep) :
    Around identity (step :: steps) (identity steps :: active) := by
  intro objectId member
  rcases mem_cons.mp member with rfl | earlier
  · exact ⟨steps, suffix_cons step steps, fun same => absurd (congrArg List.length same) (by simp), rfl⟩
  · obtain ⟨outer, enclosing, -, same⟩ := around objectId earlier
    refine ⟨outer, enclosing.trans (suffix_cons step steps), ?_, same⟩
    rintro rfl
    exact absurd enclosing.length_le (by simp)

/-- A container is not among the containers around it. -/
theorem Around.absent (acyclic : Acyclic identity) {steps : List ValueStep} {active : List Nat} (around : Around identity steps active) :
    identity steps ∉ active := by
  intro member
  obtain ⟨outer, enclosing, apart, same⟩ := around _ member
  exact acyclic steps outer enclosing apart same

/-- Every value is written as the recursion writes it. -/
theorem writes (acyclic : Acyclic identity) (value : Json) : Writes limits identity value := by
  induction value with
  | null =>
    intro steps frame nodes active text rest _
    rw [writeFrames_cons, sortMembers, writeValue]
    cases visited : visit limits frame nodes <;> simp only [writeFrame, ofJson, visited] <;> rfl
  | bool value =>
    intro steps frame nodes active text rest _
    rw [writeFrames_cons, sortMembers, writeValue]
    cases visited : visit limits frame nodes <;> simp only [writeFrame, ofJson, visited] <;> rfl
  | int value =>
    intro steps frame nodes active text rest _
    rw [writeFrames_cons, sortMembers, writeValue]
    simp only [writeFrame, ofJson, writeCandidate, bind_assoc, pure_bind]
    rfl
  | float value =>
    intro steps frame nodes active text rest _
    rw [writeFrames_cons, sortMembers, writeValue]
    simp only [writeFrame, ofJson, writeCandidate, bind_assoc, pure_bind]
    rfl
  | str value =>
    intro steps frame nodes active text rest _
    rw [writeFrames_cons, sortMembers, writeValue]
    simp only [writeFrame, ofJson, writeCandidate, bind_assoc, pure_bind]
    rfl
  | arr items ih =>
    intro steps frame nodes active text rest around
    have absent := around.absent acyclic
    rw [writeFrames_cons, sortMembers, writeValue, sortMembersItems_eq, length_map]
    simp only [writeFrame, ofJson, writeCandidate, scheduleList, length_ofJsonItems, raiseIf, absent,
      if_false, ok_bind_eq, bind_assoc, pure_bind]
    refine bind_congr fun visited => bind_congr fun _ => ?_
    rw [append_assoc]
    refine (writeFrames_items steps _ around.inside ih frame 0 visited _ _).trans ?_
    refine bind_congr fun written => ?_
    rw [cons_append, writeFrames_text, singleton_append, writeFrames_exit]
    simp only [append_assoc]
  | obj members ih =>
    intro steps frame nodes active text rest around
    have absent := around.absent acyclic
    have sortedWrites : ∀ member ∈ sortBy Prod.fst members, Writes limits identity member.2 := fun member inside =>
      ih member (mem_sortBy.mp inside)
    have ordered : sortBy Prod.fst (members.map (hostMember identity steps)) =
        (sortBy Prod.fst members).map (hostMember identity steps) :=
      (@map_sortBy _ _ _ _ Prod.fst Prod.fst (hostMember identity steps) (fun _ => rfl) members).symm
    have hostKeys : forEach (fun member => rejectSurrogates member.1 frame.path
          (ascii "object key contains surrogate code point")) (members.map (hostMember identity steps)) =
        forEach (fun member => rejectSurrogates member.1 frame.path
          (ascii "object key contains surrogate code point")) members := by
      refine forEach_rejectSurrogates_perm _ _ ?_
      rw [map_map]
      exact List.Perm.refl _
    have target : sortBy Prod.fst (members.map fun member => (member.1, sortMembers member.2)) =
        (sortBy Prod.fst members).map fun member => (member.1, sortMembers member.2) :=
      (@map_sortBy _ _ _ _ Prod.fst Prod.fst (fun member : Text × Json => (member.1, sortMembers member.2))
        (fun _ => rfl) members).symm
    have keys : forEach (fun member => rejectSurrogates member.1 frame.path (ascii "object key contains surrogate code point"))
        ((sortBy Prod.fst members).map fun member => (member.1, sortMembers member.2)) =
        forEach (fun member => rejectSurrogates member.1 frame.path
          (ascii "object key contains surrogate code point")) members := by
      refine forEach_rejectSurrogates_perm _ _ ?_
      rw [map_map]
      exact (sortBy_perm Prod.fst members).map _
    rw [writeFrames_cons, sortMembers, writeValue, sortMembersEntries_eq, target, keys, length_map,
      (sortBy_perm Prod.fst members).length_eq]
    simp only [writeFrame, ofJson, writeCandidate, scheduleObject, ofJsonMembers_eq, length_map, raiseIf,
      absent, if_false, ok_bind_eq, bind_assoc, pure_bind, collect_entryKey, hostKeys, ordered]
    refine bind_congr fun visited => bind_congr fun _ => bind_congr fun _ => ?_
    rw [append_assoc]
    refine (writeFrames_members steps _ around.inside sortedWrites frame 0 visited _ _).trans ?_
    refine bind_congr fun written => ?_
    rw [cons_append, writeFrames_text, singleton_append, writeFrames_exit]
    simp only [append_assoc]

end Refinement

/-- The writer with a stack writes the canonical bytes of every value of the JSON domain, whatever the objects are that hold
it, as long as none of them is inside itself. -/
theorem hostCanonicalJson_ofJson (value : Json) (limits : Option JsonResourceLimits) {identity : List ValueStep → Nat}
    (acyclic : Acyclic identity) : hostCanonicalJson (.ofJson identity [] value) limits = canonicalJson value limits := by
  have agree := @writeFrames_agree _ _ _ _ _ limits ⟨0, [], ⟨[]⟩⟩ ⟨0, [], ⟨[]⟩⟩ joined_simulates
    [.value (.ofJson identity [] value) rootFrame] ⟨rfl, rfl, rfl⟩
  have written := @writes limits identity acyclic value [] rootFrame 0 [] [] [] fun _ member => absurd member not_mem_nil
  rw [written] at agree
  unfold hostCanonicalJson hostCanonicalJsonText writeCanonicalJson canonicalJson canonicalJsonText
  generalize writeFrames limits [.value (.ofJson identity [] value) rootFrame] ⟨0, [], (⟨[]⟩ : TextOutput)⟩ = outcome at agree
  cases computed : writeValue limits (sortMembers value) rootFrame 0 with
  | error error =>
    rw [computed] at agree
    cases agree
    rfl
  | ok result =>
    rw [computed] at agree
    change Alike _ outcome (writeFrames limits [] ⟨result.2, [], (⟨[] ++ result.1⟩ : JoinedOutput)⟩) at agree
    rw [writeFrames] at agree
    cases agree with
    | @ok output _ same =>
      change (Except.ok output.joined >>= fun text => pure (Text.utf8 text) : Py (List Nat)) = .ok (Text.utf8 result.1)
      rw [same, nil_append]
      rfl

namespace Sample

/-- An array that is held twice, beside itself and not inside itself. -/
def sharedArray : Json :=
  .obj [(ascii "second", .arr [.int 1, .arr []]), (ascii "first", .arr [.int 1, .arr []])]

/-- Containers at one depth are one object. -/
theorem acyclic_length : Acyclic List.length := by
  intro steps outer enclosing apart same
  exact apart (enclosing.eq_of_length same)

end Sample

theorem hostCanonicalJson_ofJson_shared : hostCanonicalJson (.ofJson List.length [] Sample.sharedArray) none =
      .ok (ascii "\x7b\"first\":[1,[]],\"second\":[1,[]]\x7d").utf8 :=
  (hostCanonicalJson_ofJson Sample.sharedArray none Sample.acyclic_length).trans (by rfl)

end CiCoordinator.Kernel

import CiCoordinator.ConfigControl.EpochDraft
import CiCoordinator.ConfigControl.JsonPreflight

/- The parser of policy documents in JSON and the proof that the host's decoder never diverges from
its preflight. -/

namespace CiCoordinator.ConfigControl

open Library Kernel JsonGrammar List

/-- What the parser lets escape. -/
inductive DocumentError where
  | valueError
  | recursionError
  | assertionError (message : Text)
  | preflight (stop : ScanStop ParseStop)
  deriving DecidableEq

/-- A parsed document, or the diagnostic of its failure. -/
inductive DocumentParseResult where
  | parsed (value : Json) (sourceFormat : PolicySourceFormat)
  | diagnostic (failure : PolicyDiagnostic)

/-- A member joins an object that does not have its name. -/
def keepPair (result : List (Text × Json)) (pair : Text × Json) : Except DocumentError (List (Text × Json)) := do
  raiseIf (pair.1 ∈ result.map Prod.fst)
    (.assertionError (ascii "JSON construction observed a duplicate key after preflight"))
  return result ++ [pair]

/-- An object keeps its members where no name is repeated. -/
def defensiveObject (pairs : List (Text × Json)) : Except DocumentError (List (Text × Json)) :=
  foldSteps keepPair [] pairs

/-- The host reads an integer of bounded length exactly and every other number as the nearest float. -/
def constructNumber (literal : NumberLiteral) : Except DocumentError Json :=
  match literal.fraction, literal.exponent with
  | none, none =>
    if maxIntegerDigits < literal.whole.length then .error .valueError
    else .ok (.int (signed literal.negative (readDigits literal.whole)))
  | _, _ => .ok (.float literal.toFloat64)

mutual

/-- The value that the host's decoder builds. -/
def constructTree : JsonSyntax → Except DocumentError Json
  | .null => .ok .null
  | .bool value => .ok (.bool value)
  | .number literal => constructNumber literal
  | .str value => .ok (.str value)
  | .arr items => do
    let values ← constructItems items
    return .arr values
  | .obj members => do
    let pairs ← constructMembers members
    let kept ← defensiveObject pairs
    return .obj kept

/-- The items that the host's decoder builds. -/
def constructItems : List JsonSyntax → Except DocumentError (List Json)
  | [] => .ok []
  | item :: rest => do
    let value ← constructTree item
    let values ← constructItems rest
    return value :: values

/-- The pairs that the host's decoder builds. -/
def constructMembers : List (Text × JsonSyntax) → Except DocumentError (List (Text × Json))
  | [] => .ok []
  | (key, item) :: rest => do
    let value ← constructTree item
    let pairs ← constructMembers rest
    return (key, value) :: pairs

end

/-- The host's decoder refuses other text, the constants that are not finite among it, and gives up on deep nesting. -/
def constructJsonDocument [Interpreter] (text : Text) : Except DocumentError Json :=
  match JsonSyntax.read text with
  | none => .error .valueError
  | some tree => if Interpreter.jsonRecursionLimit < nesting tree then .error .recursionError else constructTree tree

def parseJsonDocument [Interpreter] (schema : DocumentSchema) (text : Text) : Except DocumentError DocumentParseResult :=
  match JsonPreflight.run schema text with
  | .error (.raised (.failure failure)) => .ok (.diagnostic failure)
  | .error stop => .error (.preflight stop)
  | .ok () =>
    match constructJsonDocument text with
    | .ok value => .ok (.parsed value .json)
    | .error .valueError =>
      .error (.assertionError (ascii "JSON construction diverged from deterministic preflight"))
    | .error error => .error error

/-- The number that a literal denotes. -/
def denoteNumber (literal : NumberLiteral) : Json :=
  if literal.fraction = none ∧ literal.exponent = none then .int (signed literal.negative (readDigits literal.whole))
  else .float literal.toFloat64

mutual

/-- The value that a document denotes. -/
def denote : JsonSyntax → Json
  | .null => .null
  | .bool value => .bool value
  | .number literal => denoteNumber literal
  | .str value => .str value
  | .arr items => .arr (denoteItems items)
  | .obj members => .obj (denoteMembers members)

/-- The values that items denote. -/
def denoteItems : List JsonSyntax → List Json
  | [] => []
  | item :: rest => denote item :: denoteItems rest

/-- The pairs that members denote. -/
def denoteMembers : List (Text × JsonSyntax) → List (Text × Json)
  | [] => []
  | (key, value) :: rest => (key, denote value) :: denoteMembers rest

end

mutual

/-- Every number is safe and the decoded names of each object are distinct. -/
def Unambiguous : JsonSyntax → Prop
  | .number literal => JsonPreflight.SafeNumber literal
  | .arr items => UnambiguousItems items
  | .obj members => (members.map Prod.fst).Nodup ∧ UnambiguousMembers members
  | .null => True
  | .bool _ => True
  | .str _ => True

/-- Every item is unambiguous. -/
def UnambiguousItems : List JsonSyntax → Prop
  | [] => True
  | item :: rest => Unambiguous item ∧ UnambiguousItems rest

/-- The value of every member is unambiguous. -/
def UnambiguousMembers : List (Text × JsonSyntax) → Prop
  | [] => True
  | (_, value) :: rest => Unambiguous value ∧ UnambiguousMembers rest

end

section Admission

open JsonPreflight

mutual

theorem admits_iff : (tree : JsonSyntax) → (admission.Admits tree ↔ Unambiguous tree)
  | .null => by rw [Admission.Admits, Unambiguous]
  | .bool _ => by rw [Admission.Admits, Unambiguous]
  | .number _ => by rw [Admission.Admits, Unambiguous]; exact Iff.rfl
  | .str _ => by rw [Admission.Admits, Unambiguous]
  | .arr items => by rw [Admission.Admits, Unambiguous, admitsItems_iff items]
  | .obj members => by
    rw [Admission.Admits, Unambiguous, admitsMembers_iff [] members]
    simp

theorem admitsItems_iff : (items : List JsonSyntax) → (admission.AdmitsItems items ↔ UnambiguousItems items)
  | [] => by rw [Admission.AdmitsItems, UnambiguousItems]
  | item :: rest => by rw [Admission.AdmitsItems, UnambiguousItems, admits_iff item, admitsItems_iff rest]

/-- Names that are checked one after the other are distinct, and differ from those before them. -/
theorem admitsMembers_iff : (keys : List Text) → (members : List (Text × JsonSyntax)) → (admission.AdmitsMembers keys members ↔
      (members.map Prod.fst).Nodup ∧ (∀ key ∈ members.map Prod.fst, key ∉ keys) ∧ UnambiguousMembers members)
  | keys, [] => by
    rw [Admission.AdmitsMembers, UnambiguousMembers]
    simp
  | keys, (key, value) :: rest => by
    rw [Admission.AdmitsMembers, UnambiguousMembers, admits_iff value, admitsMembers_iff _ rest, map_cons,
      nodup_cons, forall_mem_cons]
    have fresh : admission.fresh (admission.keep key) keys ↔ key ∉ keys := Iff.rfl
    have others : (∀ other ∈ rest.map Prod.fst, other ∉ admission.keep key :: keys) ↔
        key ∉ rest.map Prod.fst ∧ ∀ other ∈ rest.map Prod.fst, other ∉ keys := by
      constructor
      · intro apart
        exact ⟨fun repeated => apart key repeated mem_cons_self,
          fun other member old => apart other member (mem_cons_of_mem _ old)⟩
      · rintro ⟨first, apart⟩ other member old
        rcases mem_cons.mp old with rfl | old
        · exact first member
        · exact apart other member old
    rw [fresh, others]
    tauto

end

end Admission

section Construction

theorem keepPairs_eq {before pairs : List (Text × Json)} (distinct : ((before ++ pairs).map Prod.fst).Nodup) :
    foldSteps keepPair before pairs = .ok (before ++ pairs) := by
  induction pairs generalizing before with
  | nil => rw [append_nil, foldSteps]
  | cons pair rest ih =>
    have fresh : pair.1 ∉ before.map Prod.fst := by
      rw [map_append, map_cons] at distinct
      intro repeated
      exact disjoint_of_nodup_append distinct repeated mem_cons_self
    have step : keepPair before pair = .ok (before ++ [pair]) := by
      rw [keepPair, raiseIf, if_neg fresh]
      rfl
    rw [append_cons] at distinct ⊢
    rw [foldSteps, step, ok_bind_eq, ih distinct]

/-- Pairs with distinct names are kept. -/
theorem defensiveObject_eq {pairs : List (Text × Json)} (distinct : (pairs.map Prod.fst).Nodup) :
    defensiveObject pairs = .ok pairs :=
  keepPairs_eq distinct

theorem denoteMembers_keys (members : List (Text × JsonSyntax)) : (denoteMembers members).map Prod.fst = members.map Prod.fst := by
  induction members with
  | nil => rw [denoteMembers]; rfl
  | cons member rest ih => rw [denoteMembers, map_cons, map_cons, ih]

/-- A safe integer has few digits. -/
theorem length_le_of_safe {whole : Text} (formed : whole = [0x30] ∨ (DigitRun whole ∧ whole.head? ≠ some 0x30))
    (safe : readDigits whole ≤ maxSafeJsonInteger) : whole.length ≤ maxIntegerDigits := by
  rcases formed with rfl | ⟨run, leading⟩
  · decide
  · obtain ⟨point, digits, rfl⟩ := exists_cons_of_ne_nil run.filled
    have nonzero : point ≠ digitPoint 0 := by
      rintro rfl
      exact leading rfl
    have lower := @le_readDigits point digits (run.all point mem_cons_self) nonzero
    have bound : maxSafeJsonInteger < 10 ^ 16 ∧ 17 ≤ maxIntegerDigits := by decide
    have short := (Nat.pow_lt_pow_iff_right (by decide : 1 < 10)).mp ((lower.trans safe).trans_lt bound.1)
    rw [length_cons]
    omega

theorem constructNumber_eq {literal : NumberLiteral} (formed : literal.WellFormed) (safe : JsonPreflight.SafeNumber literal) :
    constructNumber literal = .ok (denoteNumber literal) := by
  rw [JsonPreflight.SafeNumber] at safe
  by_cases plain : literal.fraction = none ∧ literal.exponent = none
  · rw [if_pos plain] at safe
    rw [denoteNumber, if_pos plain]
    simp only [constructNumber, plain.1, plain.2, if_neg (not_lt.mpr (length_le_of_safe formed.whole safe))]
  · rw [denoteNumber, if_neg plain]
    unfold constructNumber
    split
    · rename_i fraction exponent
      exact absurd ⟨fraction, exponent⟩ plain
    · rfl

variable {lone : Prop} {text rest : Text}

mutual

/-- The host's decoder builds the value that an unambiguous document denotes. -/
theorem constructTree_eq {tree : JsonSyntax} {text rest : Text} : Value lone tree text rest → Unambiguous tree →
    constructTree tree = .ok (denote tree)
  | .scalar derived, unambiguous => by
    cases derived with
    | null => rw [constructTree, denote]
    | yes => rw [constructTree, denote]
    | no => rw [constructTree, denote]
    | number number =>
      rw [Unambiguous] at unambiguous
      rw [constructTree, denote, constructNumber_eq number.formed unambiguous]
    | str _ => rw [constructTree, denote]
  | .emptyArr _, _ => by
    rw [constructTree, denote, constructItems, denoteItems]
    rfl
  | .arr _ derived, unambiguous => by
    rw [Unambiguous] at unambiguous
    rw [constructTree, denote, constructItems_eq derived unambiguous]
    rfl
  | .emptyObj _, _ => by
    rw [constructTree, denote, constructMembers, denoteMembers]
    rfl
  | @Value.obj _ members _ _ _ _ derived, unambiguous => by
    rw [Unambiguous] at unambiguous
    have distinct : ((denoteMembers members).map Prod.fst).Nodup := by
      rw [denoteMembers_keys]
      exact unambiguous.1
    rw [constructTree, denote, constructMembers_eq derived unambiguous.2, ok_bind_eq, defensiveObject_eq distinct]
    rfl

theorem constructItems_eq {items : List JsonSyntax} {text rest : Text} : Items lone items text rest → UnambiguousItems items →
    constructItems items = .ok (denoteItems items)
  | .last item _, unambiguous => by
    rw [UnambiguousItems] at unambiguous
    rw [constructItems, constructTree_eq item unambiguous.1, denoteItems, constructItems, denoteItems]
    rfl
  | .more item _ _ later, unambiguous => by
    rw [UnambiguousItems] at unambiguous
    rw [constructItems, constructTree_eq item unambiguous.1, denoteItems, ok_bind_eq, constructItems_eq later unambiguous.2]
    rfl

theorem constructMembers_eq {members : List (Text × JsonSyntax)} {text rest : Text} : Members lone members text rest →
    UnambiguousMembers members → constructMembers members = .ok (denoteMembers members)
  | .last (.mk _ _ _ value) _, unambiguous => by
    rw [UnambiguousMembers] at unambiguous
    rw [constructMembers, constructTree_eq value unambiguous.1, denoteMembers, constructMembers, denoteMembers]
    rfl
  | .more (.mk _ _ _ value) _ _ later, unambiguous => by
    rw [UnambiguousMembers] at unambiguous
    rw [constructMembers, constructTree_eq value unambiguous.1, denoteMembers, ok_bind_eq,
      constructMembers_eq later unambiguous.2]
    rfl

end

mutual

/-- A document nests its containers at most one deeper than its values. -/
theorem nesting_le : (tree : JsonSyntax) → nesting tree ≤ valueDepth tree + 1
  | .null => by rw [nesting]; exact Nat.zero_le _; all_goals rintro _ ⟨⟩
  | .bool _ => by rw [nesting]; exact Nat.zero_le _; all_goals rintro _ ⟨⟩
  | .number _ => by rw [nesting]; exact Nat.zero_le _; all_goals rintro _ ⟨⟩
  | .str _ => by rw [nesting]; exact Nat.zero_le _; all_goals rintro _ ⟨⟩
  | .arr items => by rw [nesting, valueDepth]; exact Nat.succ_le_succ (nestingItems_le items)
  | .obj members => by rw [nesting, valueDepth]; exact Nat.succ_le_succ (nestingMembers_le members)

theorem nestingItems_le : (items : List JsonSyntax) → nestingItems items ≤ depthItems items
  | [] => by rw [nestingItems]; exact Nat.zero_le _
  | item :: rest => by rw [nestingItems, depthItems]; exact max_le_max (nesting_le item) (nestingItems_le rest)

theorem nestingMembers_le : (members : List (Text × JsonSyntax)) → nestingMembers members ≤ depthMembers members
  | [] => by rw [nestingMembers]; exact Nat.zero_le _
  | (_, value) :: rest => by rw [nestingMembers, depthMembers]; exact max_le_max (nesting_le value) (nestingMembers_le rest)

end

end Construction

mutual

/-- The strict loader reads the value that a document denotes. -/
theorem denote_loaded : (tree : JsonSyntax) → (value : Json) → loadTree tree = some value → denote tree = value
  | .null, _, loaded => by rw [loadTree] at loaded; rw [denote, Option.some.inj loaded]
  | .bool _, _, loaded => by rw [loadTree] at loaded; rw [denote, Option.some.inj loaded]
  | .number literal, _, loaded => by
    rw [loadTree, loadNumber] at loaded
    rw [denote, denoteNumber]
    split at loaded
    · rename_i fraction exponent
      rw [if_pos ⟨fraction, exponent⟩]
      exact Option.some.inj (Option.ite_none_left_eq_some.mp loaded).2
    · rename_i broken
      rw [if_neg fun plain => broken plain.1 plain.2]
      exact Option.some.inj (Option.ite_none_right_eq_some.mp loaded).2
  | .str _, _, loaded => by
    rw [loadTree] at loaded
    rw [denote, Option.some.inj (Option.ite_none_right_eq_some.mp loaded).2]
  | .arr items, _, loaded => by
    rw [loadTree] at loaded
    obtain ⟨values, found, rfl⟩ := Option.map_eq_some_iff.mp loaded
    rw [denote, denoteItems_loaded items values found]
  | .obj members, _, loaded => by
    rw [loadTree] at loaded
    obtain ⟨values, found, rfl⟩ := Option.map_eq_some_iff.mp loaded
    rw [denote, denoteMembers_loaded members values found]

theorem denoteItems_loaded : (items : List JsonSyntax) → (values : List Json) → loadItems items = some values →
    denoteItems items = values
  | [], _, loaded => by rw [loadItems] at loaded; rw [denoteItems, Option.some.inj loaded]
  | item :: rest, _, loaded => by
    rw [loadItems] at loaded
    split at loaded <;> cases loaded
    rename_i first later
    rw [denoteItems, denote_loaded item _ first, denoteItems_loaded rest _ later]

theorem denoteMembers_loaded : (members : List (Text × JsonSyntax)) → (values : List (Text × Json)) →
    loadMembers members = some values → denoteMembers members = values
  | [], _, loaded => by rw [loadMembers] at loaded; rw [denoteMembers, Option.some.inj loaded]
  | (_, item) :: rest, _, loaded => by
    rw [loadMembers] at loaded
    split at loaded
    · rename_i first later
      rw [denoteMembers, denote_loaded item _ first, denoteMembers_loaded rest _ later]
      exact Option.some.inj (Option.ite_none_right_eq_some.mp loaded).2
    · cases loaded

end

section Parsing

variable [Interpreter] {schema : DocumentSchema} {text : Text}

omit [Interpreter] in
/-- The preflight accepts the documents with paired surrogate escapes, safe numbers, distinct names and bounded size. -/
theorem run_eq_ok_iff : JsonPreflight.run schema text = .ok () ↔
    ∃ tree, Document False tree text ∧ Unambiguous tree ∧ valueDepth tree ≤ maxDepth ∧ valueCount tree ≤ maxNodes := by
  rw [JsonPreflight.run, JsonScanner.scanDocument_eq_ok (JsonPreflight.scanner_meets schema text)]
  refine exists_congr fun tree => and_congr_right fun _ => ⟨fun passes => ?_, fun ⟨unambiguous, shallow, few⟩ => ?_⟩
  · exact ⟨(admits_iff tree).mp passes.admits, (Nat.zero_add _).symm.trans_le passes.shallow, passes.few⟩
  · exact ⟨(admits_iff tree).mpr unambiguous, (Nat.zero_add _).trans_le shallow, (Nat.zero_add _).symm, few⟩

theorem parse_of_document (holds : maxDepth + 1 ≤ Interpreter.jsonRecursionLimit) {tree : JsonSyntax}
    (document : Document False tree text) (unambiguous : Unambiguous tree) (shallow : valueDepth tree ≤ maxDepth)
    (few : valueCount tree ≤ maxNodes) : parseJsonDocument schema text = .ok (.parsed (denote tree) .json) := by
  have accepted := (@run_eq_ok_iff schema text).mpr ⟨tree, document, unambiguous, shallow, few⟩
  have depth : ¬ Interpreter.jsonRecursionLimit < nesting tree :=
    not_lt.mpr ((nesting_le tree).trans ((Nat.succ_le_succ shallow).trans holds))
  obtain ⟨_, value, _⟩ := id document
  rw [parseJsonDocument, accepted]
  simp only [constructJsonDocument, document.read_eq, if_neg depth, constructTree_eq value unambiguous]

/-- The preflight accepts exactly its grammar; the parser returns the denoted value of every text that it accepts and
a diagnostic for every other one, and lets no error escape. -/
theorem parseJsonDocument_accepts_iff (holds : maxDepth + 1 ≤ Interpreter.jsonRecursionLimit) (schema : DocumentSchema)
    (text : Text) :
    (JsonPreflight.run schema text = .ok () ↔
      ∃ tree, Document False tree text ∧ Unambiguous tree ∧ valueDepth tree ≤ maxDepth ∧ valueCount tree ≤ maxNodes) ∧
    (∀ tree, Document False tree text → JsonPreflight.run schema text = .ok () →
      parseJsonDocument schema text = .ok (.parsed (denote tree) .json)) ∧
    ∀ error, parseJsonDocument schema text ≠ .error error := by
  refine ⟨run_eq_ok_iff, fun tree document accepted => ?_, fun error raised => ?_⟩
  · obtain ⟨other, derived, unambiguous, shallow, few⟩ := run_eq_ok_iff.mp accepted
    rw [document.unique derived]
    exact parse_of_document holds derived unambiguous shallow few
  · rcases JsonPreflight.run_cases schema text with accepted | ⟨diagnostic, refused⟩
    · obtain ⟨tree, document, unambiguous, shallow, few⟩ := run_eq_ok_iff.mp accepted
      rw [parse_of_document holds document unambiguous shallow few] at raised
      cases raised
    · rw [parseJsonDocument, refused] at raised
      cases raised

/-- The parser reads text as the strict loader does, or answers a diagnostic. -/
theorem parsers_agree (holds : maxDepth + 1 ≤ Interpreter.jsonRecursionLimit) {body : List Nat} {maxBytes : Nat}
    {value : Json} (decoded : Text.decodeUtf8 body = some text) (loaded : loadStrictJson body maxBytes = .ok value) :
    parseJsonDocument schema text = .ok (.parsed value .json) ∨
      ∃ diagnostic, parseJsonDocument schema text = .ok (.diagnostic diagnostic) := by
  rcases JsonPreflight.run_cases schema text with accepted | ⟨diagnostic, refused⟩
  · obtain ⟨tree, document, unambiguous, shallow, few⟩ := run_eq_ok_iff.mp accepted
    rw [loadStrictJson, decoded, Option.bind_some, document.read_eq] at loaded
    obtain ⟨_, _, loaded⟩ := bind_eq_ok.mp loaded
    dsimp only at loaded
    split at loaded
    · cases loaded
    · split at loaded <;> cases loaded
      rename_i found
      exact .inl (denote_loaded tree _ found ▸ parse_of_document holds document unambiguous shallow few)
  · exact .inr ⟨diagnostic, by rw [parseJsonDocument, refused]⟩

end Parsing

namespace Sample

/-- A schema that knows no member. -/
def emptySchema : DocumentSchema where
  Cursor := Unit
  documentSchema := ()
  schemaForKind := fun _ _ => ()
  property := fun _ _ => none
  unknown := ()
  arrayItemSchema := fun _ => ()

@[reducible] def host : Interpreter :=
  ⟨1000⟩

/-- An object with an escape in its name, an integer and a number with an exponent. -/
def objectText : Text :=
  ascii "\x7b\"\\u0061\": [-1,2.5e1]\x7d"

def objectTree : JsonSyntax :=
  .obj [(ascii "a", .arr [.number ⟨true, ascii "1", none, none⟩,
    .number ⟨false, ascii "2", some (ascii "5"), some (false, ascii "1")⟩])]

def objectValue : Json :=
  .obj [(ascii "a", .arr [.int (-1), .float (Float64.ofInt 25)])]

theorem objectDocument : Document False objectTree objectText := by
  have unit : JsonSyntax.hexUnit 0x30 0x30 0x36 0x31 = some 0x61 := by decide
  have negative : Number ⟨true, ascii "1", none, none⟩ (ascii "-1,2.5e1]\x7d") (ascii ",2.5e1]\x7d") := readNumber_eq_some rfl
  have scaled : Number ⟨false, ascii "2", some (ascii "5"), some (false, ascii "1")⟩ (ascii "2.5e1]\x7d") (ascii "]\x7d") :=
    readNumber_eq_some rfl
  have name : Characters False (ascii "a") (objectText.drop 2) (objectText.drop 9) :=
    Characters.more (Character.unit unit (by decide)) Characters.done
  have array : Value False _ (objectText.drop 11) (ascii "\x7d") :=
    Value.arr Space.done (Items.more (Value.scalar (Scalar.number negative)) Space.done Space.done
      (Items.last (Value.scalar (Scalar.number scaled)) Space.done))
  have member := Member.mk name Space.done (Space.more rfl Space.done) array
  exact Document.mk Space.done (Value.obj Space.done (Members.last member Space.done)) Space.done

theorem unambiguous_object : Unambiguous objectTree := by
  have negative : JsonPreflight.SafeNumber ⟨true, ascii "1", none, none⟩ := by
    rw [JsonPreflight.SafeNumber, if_pos ⟨rfl, rfl⟩]
    decide
  have scaled : JsonPreflight.SafeNumber ⟨false, ascii "2", some (ascii "5"), some (false, ascii "1")⟩ := by
    rw [JsonPreflight.SafeNumber, if_neg (by simp)]
    decide +kernel
  simp only [objectTree, Unambiguous, UnambiguousItems, UnambiguousMembers]
  exact ⟨by decide, ⟨negative, scaled, trivial⟩, trivial⟩

theorem run_object : JsonPreflight.run emptySchema objectText = .ok () := by
  refine run_eq_ok_iff.mpr ⟨_, objectDocument, unambiguous_object, ?_, ?_⟩
  · simp [objectTree, valueDepth, depthItems, depthMembers, maxDepth]
  · simp [objectTree, valueCount, countItems, countMembers, maxNodes]

theorem parseJsonDocument_object :
    @parseJsonDocument host emptySchema objectText = .ok (.parsed objectValue .json) :=
  (@parseJsonDocument_accepts_iff host (by decide) emptySchema objectText).2.1 _ objectDocument run_object

theorem parsers_agree_object : @parseJsonDocument host emptySchema objectText = .ok (.parsed objectValue .json) ∨
      ∃ diagnostic, @parseJsonDocument host emptySchema objectText = .ok (.diagnostic diagnostic) :=
  @parsers_agree host emptySchema objectText (by decide) objectText.utf8 64 objectValue rfl rfl

end Sample

end CiCoordinator.ConfigControl

import CiCoordinator.Kernel.CanonicalCodec

/- The projection of a control job that its hash is taken of and the labels that it forgets. -/

namespace CiCoordinator.RepoContext

open Library Kernel

/-- A constructed value of a workflow file; the other values are those without a JSON counterpart. -/
inductive YamlValue where
  | null
  | bool (value : Bool)
  | int (value : Int)
  | float (value : Float64)
  | str (value : Text)
  | list (items : List YamlValue)
  | dict (entries : List (YamlValue × YamlValue))
  | other

/-- The actions whose revision is a label. -/
def pinnedActions : List Text :=
  [ascii "actions/checkout", ascii "actions/setup-node"]

def immutableGitObject : Text :=
  ascii "@<immutable-git-object>"

/-- An action of a list at a revision of forty hexadecimal characters. -/
def isPinned (action value : Text) : Bool :=
  (action ++ ascii "@").isPrefixOf value && (value.drop (action.length + 1)).length = 40 &&
    (value.drop (action.length + 1)).all CodePoint.isLowerHex

/-- The revision of a pinned action is replaced by a placeholder. -/
def normalizeUses (value : Text) : Text :=
  match pinnedActions.find? fun action => isPinned action value with
  | some action => action ++ immutableGitObject
  | none => value

/-- Only texts have revisions, and a text is normalized to itself. -/
def placeRevision : Json → Json
  | .str value => .str (normalizeUses value)
  | value => value

def unsupportedValue : PyError :=
  .typeError (ascii "workflow control projection contains an unsupported value")

def requiresMappings : PyError :=
  .typeError (ascii "workflow control projection requires string-keyed mappings")

def requiresSequence : PyError :=
  .typeError (ascii "workflow control steps must be a sequence")

mutual

def normalizeValue : YamlValue → Py Json
  | .null => .ok .null
  | .bool value => .ok (.bool value)
  | .int value => .ok (.int value)
  | .str value => .ok (.str value)
  | .float (.finite number) => .ok (.float (.finite number))
  | .float _ => .error (.valueError (ascii "workflow control projection contains a non-finite number"))
  | .list items => .arr <$> normalizeItems items
  | .dict entries => .obj <$> normalizeMapping [] false entries
  | .other => .error unsupportedValue

def normalizeItems : List YamlValue → Py (List Json)
  | [] => .ok []
  | item :: rest => do
    let first ← normalizeValue item
    let others ← normalizeItems rest
    return first :: others

/-- The entries of a mapping without the omitted keys; a list of steps is a list of mappings without names. -/
def normalizeMapping (omitted : List Text) (step : Bool) : List (YamlValue × YamlValue) → Py (List (Text × Json))
  | [] => .ok []
  | (.str key, item) :: rest =>
    if key ∈ omitted then normalizeMapping omitted step rest
    else do
      let value ←
        (if key = ascii "steps" then normalizeSteps item
        else if step && key = ascii "uses" then placeRevision <$> normalizeValue item
        else normalizeValue item)
      let others ← normalizeMapping omitted step rest
      return (key, value) :: others
  | _ :: _ => .error requiresMappings

def normalizeSteps : YamlValue → Py Json
  | .list children => .arr <$> normalizeChildren children
  | _ => .error requiresSequence

def normalizeChildren : List YamlValue → Py (List Json)
  | [] => .ok []
  | child :: rest => do
    let first ← normalizeStep child
    let others ← normalizeChildren rest
    return first :: others

def normalizeStep : YamlValue → Py Json
  | .dict entries => .obj <$> normalizeMapping [ascii "name"] true entries
  | _ => .error requiresMappings

end

/-- What is kept of an item under a key that is not omitted. -/
def normalizeMember (step : Bool) (key : Text) (item : YamlValue) : Py Json :=
  if key = ascii "steps" then normalizeSteps item
  else if step && key = ascii "uses" then placeRevision <$> normalizeValue item
  else normalizeValue item

theorem normalizeMapping_cons {omitted : List Text} {step : Bool} {key : Text} {item : YamlValue}
    {rest : List (YamlValue × YamlValue)} :
    normalizeMapping omitted step ((.str key, item) :: rest) = if key ∈ omitted then normalizeMapping omitted step rest
      else normalizeMember step key item >>= fun value =>
        normalizeMapping omitted step rest >>= fun others => .ok ((key, value) :: others) :=
  rfl

/-- The value under a name, if it is there. -/
def entry (name : Text) : List (YamlValue × YamlValue) → Option YamlValue
  | [] => none
  | (.str key, item) :: rest => if key = name then some item else entry name rest
  | _ :: rest => entry name rest

def normalizeJob : YamlValue → Py Json
  | .dict entries => .obj <$> normalizeMapping [ascii "name", ascii "needs"] false entries
  | _ => .error requiresMappings

/-- The member of a part of the workflow that may be absent. -/
def normalizePart (name : Text) : Option YamlValue → Py (List (Text × Json))
  | none => .ok []
  | some value => do
    let part ← normalizeValue value
    return [(name, part)]

/-- The projection of a job with the defaults and the environment of its workflow. -/
def controlJobProjection (job : YamlValue) (workflow : List (YamlValue × YamlValue)) : Py Json := do
  let projected ← normalizeJob job
  let defaults ← normalizePart (ascii "workflowDefaults") (entry (ascii "defaults") workflow)
  let environment ← normalizePart (ascii "workflowEnvironment") (entry (ascii "env") workflow)
  return .obj ((ascii "job", projected) :: (defaults ++ environment))

def controlJobProjectionHash (job : YamlValue) (workflow : List (YamlValue × YamlValue)) : Option Text :=
  (controlJobProjection job workflow >>= hashObject).toOption

mutual

/-- The JSON value of a constructed value; what has no counterpart is null. -/
def YamlValue.json : YamlValue → Json
  | .null => .null
  | .bool value => .bool value
  | .int value => .int value
  | .float value => .float value
  | .str value => .str value
  | .list items => .arr (jsonItems items)
  | .dict entries => .obj (jsonEntries entries)
  | .other => .null

def jsonItems : List YamlValue → List Json
  | [] => []
  | item :: rest => item.json :: jsonItems rest

def jsonEntries : List (YamlValue × YamlValue) → List (Text × Json)
  | [] => []
  | (.str key, item) :: rest => (key, item.json) :: jsonEntries rest
  | _ :: rest => jsonEntries rest

end

mutual

/-- The keys of every mapping inside a value are different. -/
def YamlValue.distinct : YamlValue → Prop
  | .list items => distinctItems items
  | .dict entries => ((jsonEntries entries).map Prod.fst).Nodup ∧ distinctEntries entries
  | .null => True
  | .bool _ => True
  | .int _ => True
  | .float _ => True
  | .str _ => True
  | .other => True

def distinctItems : List YamlValue → Prop
  | [] => True
  | item :: rest => item.distinct ∧ distinctItems rest

def distinctEntries : List (YamlValue × YamlValue) → Prop
  | [] => True
  | (_, item) :: rest => item.distinct ∧ distinctEntries rest

end

mutual

def YamlValue.decidableDistinct : (value : YamlValue) → Decidable value.distinct
  | .list items => decidableItems items
  | .dict entries => @instDecidableAnd _ _ inferInstance (decidableEntries entries)
  | .null => .isTrue trivial
  | .bool _ => .isTrue trivial
  | .int _ => .isTrue trivial
  | .float _ => .isTrue trivial
  | .str _ => .isTrue trivial
  | .other => .isTrue trivial

def decidableItems : (items : List YamlValue) → Decidable (distinctItems items)
  | [] => .isTrue trivial
  | item :: rest => @instDecidableAnd _ _ item.decidableDistinct (decidableItems rest)

def decidableEntries : (entries : List (YamlValue × YamlValue)) → Decidable (distinctEntries entries)
  | [] => .isTrue trivial
  | (_, item) :: rest => @instDecidableAnd _ _ item.decidableDistinct (decidableEntries rest)

end

instance decidable_distinct (value : YamlValue) : Decidable value.distinct :=
  value.decidableDistinct

def YamlValue.forgetRevision : YamlValue → YamlValue
  | .str value => .str (normalizeUses value)
  | value => value

mutual

/-- A value without the names of steps and the revisions of pinned actions, wherever it has a list of steps. -/
def YamlValue.forget : YamlValue → YamlValue
  | .list items => .list (forgetItems items)
  | .dict entries => .dict (forgetEntries [] false entries)
  | .null => .null
  | .bool value => .bool value
  | .int value => .int value
  | .float value => .float value
  | .str value => .str value
  | .other => .other

def forgetItems : List YamlValue → List YamlValue
  | [] => []
  | item :: rest => item.forget :: forgetItems rest

/-- The entries of a mapping, or of a step, without some keys. -/
def forgetEntries (omitted : List Text) (step : Bool) : List (YamlValue × YamlValue) → List (YamlValue × YamlValue)
  | [] => []
  | (.str key, item) :: rest =>
    if key ∈ omitted then forgetEntries omitted step rest
    else (.str key,
        if key = ascii "steps" then item.forgetSteps
        else if step && key = ascii "uses" then item.forget.forgetRevision
        else item.forget) :: forgetEntries omitted step rest
  | entry :: rest => entry :: forgetEntries omitted step rest

def YamlValue.forgetSteps : YamlValue → YamlValue
  | .list children => .list (forgetChildren children)
  | value => value

def forgetChildren : List YamlValue → List YamlValue
  | [] => []
  | child :: rest => child.forgetStep :: forgetChildren rest

def YamlValue.forgetStep : YamlValue → YamlValue
  | .dict entries => .dict (forgetEntries [ascii "name"] true entries)
  | value => value

end

/-- A job without its name and needs and without the labels of steps. -/
def YamlValue.forgetJob : YamlValue → YamlValue
  | .dict entries => .dict (forgetEntries [ascii "name", ascii "needs"] false entries)
  | value => value

theorem placeRevision_json (item : YamlValue) : placeRevision item.forget.json = item.forget.forgetRevision.json := by
  cases item <;> rfl

theorem distinct_placeRevision {value : Json} (distinct : value.distinct) : (placeRevision value).distinct := by
  cases value with
  | str text => trivial
  | _ => exact distinct

mutual

/-- A normalized value is the JSON value of what is left of it. -/
theorem normalizeValue_spec : (value : YamlValue) → (result : Json) → value.distinct →
    normalizeValue value = .ok result → result = value.forget.json ∧ result.distinct
  | .null, _, _, rfl => ⟨rfl, trivial⟩
  | .bool _, _, _, rfl => ⟨rfl, trivial⟩
  | .int _, _, _, rfl => ⟨rfl, trivial⟩
  | .str _, _, _, rfl => ⟨rfl, trivial⟩
  | .float value, result, _, returned => by
    cases value with
    | finite number =>
      cases returned
      exact ⟨rfl, trivial⟩
    | _ => cases returned
  | .list items, result, distinct, returned => by
    obtain ⟨values, computed, rfl⟩ := map_eq_ok.mp returned
    obtain ⟨rfl, apart⟩ := normalizeItems_spec items values distinct computed
    exact ⟨rfl, apart⟩
  | .dict entries, result, distinct, returned => by
    obtain ⟨members, computed, rfl⟩ := map_eq_ok.mp returned
    obtain ⟨rfl, apart, names⟩ := normalizeMapping_spec entries [] false members distinct.2 computed
    exact ⟨rfl, distinct.1.sublist names, apart⟩
  | .other, _, _, returned => by cases returned

theorem normalizeItems_spec : (items : List YamlValue) → (results : List Json) → distinctItems items →
    normalizeItems items = .ok results → results = jsonItems (forgetItems items) ∧ Json.distinctItems results
  | [], _, _, rfl => ⟨rfl, trivial⟩
  | item :: rest, results, distinct, returned => by
    obtain ⟨value, computed, returned⟩ := bind_eq_ok.mp returned
    obtain ⟨others, more, returned⟩ := bind_eq_ok.mp returned
    cases returned
    obtain ⟨rfl, apart⟩ := normalizeValue_spec item value distinct.1 computed
    obtain ⟨rfl, later⟩ := normalizeItems_spec rest others distinct.2 more
    exact ⟨rfl, apart, later⟩

theorem normalizeMapping_spec : (entries : List (YamlValue × YamlValue)) → (omitted : List Text) → (step : Bool) →
    (members : List (Text × Json)) → distinctEntries entries → normalizeMapping omitted step entries = .ok members →
    members = jsonEntries (forgetEntries omitted step entries) ∧ Json.distinctMembers members ∧
      (members.map Prod.fst).Sublist ((jsonEntries entries).map Prod.fst)
  | [], _, _, _, _, rfl => ⟨rfl, trivial, List.Sublist.refl _⟩
  | (.str key, item) :: rest, omitted, step, members, distinct, returned => by
    by_cases skipped : key ∈ omitted
    · rw [normalizeMapping_cons, if_pos skipped] at returned
      obtain ⟨rfl, apart, names⟩ := normalizeMapping_spec rest omitted step members distinct.2 returned
      rw [forgetEntries, if_pos skipped]
      exact ⟨rfl, apart, names.cons _⟩
    · rw [normalizeMapping_cons, if_neg skipped] at returned
      obtain ⟨value, computed, returned⟩ := bind_eq_ok.mp returned
      obtain ⟨others, more, returned⟩ := bind_eq_ok.mp returned
      cases returned
      obtain ⟨rfl, later, names⟩ := normalizeMapping_spec rest omitted step others distinct.2 more
      rw [forgetEntries, if_neg skipped]
      have same : value = (if key = ascii "steps" then item.forgetSteps
          else if step && key = ascii "uses" then item.forget.forgetRevision else item.forget).json ∧ value.distinct := by
        rw [normalizeMember] at computed
        by_cases steps : key = ascii "steps"
        · rw [if_pos steps] at computed ⊢
          exact normalizeSteps_spec item value distinct.1 computed
        · rw [if_neg steps] at computed ⊢
          by_cases action : (step && decide (key = ascii "uses")) = true
          · rw [if_pos action] at computed ⊢
            obtain ⟨plain, inner, rfl⟩ := map_eq_ok.mp computed
            obtain ⟨rfl, apart⟩ := normalizeValue_spec item plain distinct.1 inner
            exact ⟨placeRevision_json item, distinct_placeRevision apart⟩
          · rw [if_neg action] at computed ⊢
            exact normalizeValue_spec item value distinct.1 computed
      obtain ⟨rfl, apart⟩ := same
      exact ⟨rfl, ⟨apart, later⟩, names.cons_cons _⟩
  | (.null, _) :: _, _, _, _, _, returned => by cases returned
  | (.bool _, _) :: _, _, _, _, _, returned => by cases returned
  | (.int _, _) :: _, _, _, _, _, returned => by cases returned
  | (.float _, _) :: _, _, _, _, _, returned => by cases returned
  | (.list _, _) :: _, _, _, _, _, returned => by cases returned
  | (.dict _, _) :: _, _, _, _, _, returned => by cases returned
  | (.other, _) :: _, _, _, _, _, returned => by cases returned

theorem normalizeSteps_spec : (value : YamlValue) → (result : Json) → value.distinct →
    normalizeSteps value = .ok result → result = value.forgetSteps.json ∧ result.distinct
  | .list children, result, distinct, returned => by
    obtain ⟨values, computed, rfl⟩ := map_eq_ok.mp returned
    obtain ⟨rfl, apart⟩ := normalizeChildren_spec children values distinct computed
    exact ⟨rfl, apart⟩
  | .null, _, _, returned => by cases returned
  | .bool _, _, _, returned => by cases returned
  | .int _, _, _, returned => by cases returned
  | .float _, _, _, returned => by cases returned
  | .str _, _, _, returned => by cases returned
  | .dict _, _, _, returned => by cases returned
  | .other, _, _, returned => by cases returned

theorem normalizeChildren_spec : (children : List YamlValue) → (results : List Json) → distinctItems children →
    normalizeChildren children = .ok results → results = jsonItems (forgetChildren children) ∧ Json.distinctItems results
  | [], _, _, rfl => ⟨rfl, trivial⟩
  | child :: rest, results, distinct, returned => by
    obtain ⟨value, computed, returned⟩ := bind_eq_ok.mp returned
    obtain ⟨others, more, returned⟩ := bind_eq_ok.mp returned
    cases returned
    obtain ⟨rfl, apart⟩ := normalizeStep_spec child value distinct.1 computed
    obtain ⟨rfl, later⟩ := normalizeChildren_spec rest others distinct.2 more
    exact ⟨rfl, apart, later⟩

theorem normalizeStep_spec : (value : YamlValue) → (result : Json) → value.distinct →
    normalizeStep value = .ok result → result = value.forgetStep.json ∧ result.distinct
  | .dict entries, result, distinct, returned => by
    obtain ⟨members, computed, rfl⟩ := map_eq_ok.mp returned
    obtain ⟨rfl, apart, names⟩ := normalizeMapping_spec entries [ascii "name"] true members distinct.2 computed
    exact ⟨rfl, distinct.1.sublist names, apart⟩
  | .null, _, _, returned => by cases returned
  | .bool _, _, _, returned => by cases returned
  | .int _, _, _, returned => by cases returned
  | .float _, _, _, returned => by cases returned
  | .str _, _, _, returned => by cases returned
  | .list _, _, _, returned => by cases returned
  | .other, _, _, returned => by cases returned

end

/-- Values are the same when they differ in the order of keys and in the kinds of equal numbers only. -/
def SameValue (first second : YamlValue) : Prop :=
  first.json.agrees second.json = true

/-- Parts of a workflow are the same when both are absent or what is left of them is the same. -/
def SamePart : Option YamlValue → Option YamlValue → Prop
  | none, none => True
  | some first, some second => SameValue first.forget second.forget
  | _, _ => False

/-- The member of what is left of a part. -/
def partMember (name : Text) (part : Option YamlValue) : List (Text × Json) :=
  (part.map fun value => (name, value.forget.json)).toList

theorem normalizePart_spec {name : Text} {part : Option YamlValue} {members : List (Text × Json)}
    (distinct : ∀ value, part = some value → value.distinct) (returned : normalizePart name part = .ok members) :
    members = partMember name part ∧ Json.distinctMembers members := by
  cases part with
  | none =>
    cases returned
    exact ⟨rfl, trivial⟩
  | some value =>
    obtain ⟨result, computed, returned⟩ := bind_eq_ok.mp returned
    cases returned
    obtain ⟨rfl, apart⟩ := normalizeValue_spec value result (distinct value rfl) computed
    exact ⟨rfl, apart, trivial⟩

theorem distinct_entry {name : Text} {entries : List (YamlValue × YamlValue)} {value : YamlValue}
    (distinct : distinctEntries entries) (found : entry name entries = some value) : value.distinct := by
  induction entries with
  | nil => cases found
  | cons pair rest ih =>
    obtain ⟨key, item⟩ := pair
    cases key with
    | str text =>
      rw [entry] at found
      split at found
      · cases found
        exact distinct.1
      · exact ih distinct.2 found
    | _ => exact ih distinct.2 found

theorem normalizeJob_spec {job : YamlValue} {result : Json} (distinct : job.distinct)
    (returned : normalizeJob job = .ok result) : result = job.forgetJob.json ∧ result.distinct := by
  cases job with
  | dict entries =>
    obtain ⟨members, computed, rfl⟩ := map_eq_ok.mp returned
    obtain ⟨rfl, apart, names⟩ := normalizeMapping_spec entries _ false members distinct.2 computed
    exact ⟨rfl, distinct.1.sublist names, apart⟩
  | _ => cases returned

section Projection

variable {job : YamlValue} {workflow : List (YamlValue × YamlValue)}

/-- A projection holds what is left of the job, the defaults and the environment. -/
theorem controlJobProjection_spec {projection : Json} (distinct : job.distinct) (apart : distinctEntries workflow)
    (returned : controlJobProjection job workflow = .ok projection) :
    projection = .obj ((ascii "job", job.forgetJob.json) ::
      (partMember (ascii "workflowDefaults") (entry (ascii "defaults") workflow) ++
        partMember (ascii "workflowEnvironment") (entry (ascii "env") workflow))) ∧ projection.distinct := by
  obtain ⟨projected, computed, returned⟩ := bind_eq_ok.mp returned
  obtain ⟨defaults, defaultsComputed, returned⟩ := bind_eq_ok.mp returned
  obtain ⟨environment, environmentComputed, returned⟩ := bind_eq_ok.mp returned
  cases returned
  obtain ⟨rfl, jobDistinct⟩ := normalizeJob_spec distinct computed
  obtain ⟨rfl, defaultsDistinct⟩ := normalizePart_spec (fun value found => distinct_entry apart found) defaultsComputed
  obtain ⟨rfl, environmentDistinct⟩ := normalizePart_spec (fun value found => distinct_entry apart found) environmentComputed
  refine ⟨rfl, ?_, jobDistinct, ?_⟩
  · have names : [ascii "job", ascii "workflowDefaults", ascii "workflowEnvironment"].Nodup := by decide
    cases entry (ascii "defaults") workflow <;> cases entry (ascii "env") workflow <;>
      exact names.sublist (by simp [partMember])
  · rw [Json.distinctMembers_iff] at defaultsDistinct environmentDistinct ⊢
    intro pair member
    rcases List.mem_append.mp member with listed | listed
    · exact defaultsDistinct pair listed
    · exact environmentDistinct pair listed

theorem controlJobProjectionHash_eq_some {hash : Text} (defined : controlJobProjectionHash job workflow = some hash) :
    ∃ projection, controlJobProjection job workflow = .ok projection ∧ hashObject projection = .ok hash := by
  rw [controlJobProjectionHash] at defined
  cases computed : controlJobProjection job workflow >>= hashObject with
  | error error =>
    rw [computed] at defined
    cases defined
  | ok other =>
    rw [computed] at defined
    cases defined
    exact bind_eq_ok.mp computed

end Projection

/-- Objects of a job and two optional parts agree when each of the three does. -/
theorem agrees_projection {first second : YamlValue} {firstDefaults secondDefaults firstEnvironment secondEnvironment :
    Option YamlValue} :
    (Json.obj ((ascii "job", first.json) :: (partMember (ascii "workflowDefaults") firstDefaults ++
        partMember (ascii "workflowEnvironment") firstEnvironment))).agrees
      (.obj ((ascii "job", second.json) :: (partMember (ascii "workflowDefaults") secondDefaults ++
        partMember (ascii "workflowEnvironment") secondEnvironment))) = true ↔
      SameValue first second ∧ SamePart firstDefaults secondDefaults ∧ SamePart firstEnvironment secondEnvironment := by
  have first_second : ascii "job" ≠ ascii "workflowDefaults" := by decide
  have first_third : ascii "job" ≠ ascii "workflowEnvironment" := by decide
  have second_third : ascii "workflowDefaults" ≠ ascii "workflowEnvironment" := by decide
  cases firstDefaults <;> cases secondDefaults <;> cases firstEnvironment <;> cases secondEnvironment <;>
    simp [Json.agrees, Json.agreesMembers, partMember, SamePart, SameValue, Dictionary.find_cons, first_second, first_third,
      second_third, second_third.symm]

/-- Without collisions, hashes are equal when nothing but labels of steps, at any depth, is different. -/
theorem control_job_projection_hash_iff {first second : YamlValue} {firstWorkflow secondWorkflow : List (YamlValue × YamlValue)}
    {firstHash secondHash : Text} (firstDistinct : first.distinct) (secondDistinct : second.distinct)
    (firstApart : distinctEntries firstWorkflow) (secondApart : distinctEntries secondWorkflow)
    (firstDefined : controlJobProjectionHash first firstWorkflow = some firstHash)
    (secondDefined : controlJobProjectionHash second secondWorkflow = some secondHash)
    (free : ∀ projection other, controlJobProjection first firstWorkflow = .ok projection →
      controlJobProjection second secondWorkflow = .ok other → CollisionFree projection other) :
    firstHash = secondHash ↔ SameValue first.forgetJob second.forgetJob ∧
      SamePart (entry (ascii "defaults") firstWorkflow) (entry (ascii "defaults") secondWorkflow) ∧
      SamePart (entry (ascii "env") firstWorkflow) (entry (ascii "env") secondWorkflow) := by
  obtain ⟨projection, projected, hashed⟩ := controlJobProjectionHash_eq_some firstDefined
  obtain ⟨other, otherProjected, otherHashed⟩ := controlJobProjectionHash_eq_some secondDefined
  obtain ⟨bytes, written, rfl⟩ := map_eq_ok.mp hashed
  obtain ⟨otherBytes, otherWritten, rfl⟩ := map_eq_ok.mp otherHashed
  have collide : sha256Hex bytes = sha256Hex otherBytes ↔ bytes = otherBytes :=
    ⟨free projection other projected otherProjected bytes otherBytes written otherWritten, congrArg sha256Hex⟩
  obtain ⟨whole, distinct⟩ := controlJobProjection_spec firstDistinct firstApart projected
  obtain ⟨otherWhole, otherDistinct⟩ := controlJobProjection_spec secondDistinct secondApart otherProjected
  have passed := (canonicalJson_eq_ok.mp written).1
  have otherPassed := (canonicalJson_eq_ok.mp otherWritten).1
  rw [collide, eq_comm, canonicalJson_eq_iff distinct otherDistinct written otherWritten,
    ← agrees_iff_normal projection other passed otherPassed distinct otherDistinct, whole, otherWhole, agrees_projection]

end CiCoordinator.RepoContext

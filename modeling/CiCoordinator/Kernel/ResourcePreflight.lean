import CiCoordinator.Kernel.JsonScanner
import CiCoordinator.Kernel.ScalarScan

/- The resource preflight of strict JSON text and the proof that it accepts its grammar. -/

namespace CiCoordinator.Kernel

open Library JsonSyntax JsonGrammar List

namespace JsonResourcePreflight

def failSyntax {A : Type} : Py A :=
  .error (.strictJsonError (ascii "invalid strict JSON bytes"))

/-- A visit counts a value within the bounds. -/
def visit (limits : JsonResourceLimits) (depth nodes : Nat) : Py Nat := do
  raiseIf (limits.maxDepth < depth) (.strictJsonError (ascii "strict JSON input exceeds its depth bound"))
  raiseIf (limits.maxNodes < nodes + 1) (.strictJsonError (ascii "strict JSON input exceeds its node bound"))
  return nodes + 1

/-- The text after a string whose opening quote has been read. -/
def parseString : Text → Py Text
  | [] => failSyntax
  | character :: rest =>
    if character = quote then .ok rest
    else if character.val < 0x20 then failSyntax
    else if character ≠ backslash then parseString rest
    else
      match rest with
      | [] => failSyntax
      | escaped :: after =>
        if escaped ∈ escapeLetters then parseString after
        else if escaped ≠ 0x75 then failSyntax
        else
          match after with
          | a :: b :: c :: d :: remaining =>
            if ∃ digit ∈ [a, b, c, d], digit ∉ hexdigits then failSyntax else parseString remaining
          | _ => failSyntax

/-- A part of a number raises the one syntax error wherever it fails. -/
def part (outcome : Except Text Text) : Py Text :=
  match outcome with
  | .ok rest => .ok rest
  | .error _ => failSyntax

/-- The text after the digits before the point. -/
def parseWhole (text : Text) : Py Text :=
  match expect 0x30 text with
  | some rest => .ok rest
  | none =>
    match text with
    | [] => failSyntax
    | first :: rest => if first ∈ ascii "123456789" then .ok (rest.dropWhile CodePoint.isDigit) else failSyntax

/-- The text after a number. -/
def parseNumber (text : Text) : Py Text := do
  raiseIf (expect minus text = some []) (.strictJsonError (ascii "invalid strict JSON bytes"))
  let afterWhole ← parseWhole (unsigned text)
  let afterFraction ← part (scanFraction afterWhole)
  part (scanExponent afterFraction)

/-- A value that is no container. -/
def parseScalar (limits : JsonResourceLimits) (depth nodes : Nat) (text : Text) : Py (Nat × Text) := do
  let counted ← visit limits depth nodes
  match text with
  | [] => failSyntax
  | character :: others =>
    if character = quote then do
      let rest ← parseString others
      return (counted, rest)
    else
      match scanWord text with
      | some rest => return (counted, rest)
      | none =>
        if character = minus ∨ character.isDigit then do
          let rest ← parseNumber text
          return (counted, rest)
        else failSyntax

/-- The call of a value deeper than the interpreter's stack holds raises. -/
def call (room depth : Nat) : Py Unit :=
  raiseIf (room < depth) .recursionError

/-- The preflight; the names of members are scanned and not kept. -/
def scanner (room : Nat) (limits : JsonResourceLimits) : JsonScanner Unit Unit PyError where
  call := call room
  visit := fun _ depth nodes => visit limits depth nodes
  scalar := fun _ depth nodes text => parseScalar limits depth nodes text
  name := fun _ _ text => (fun rest => ((), rest)) <$> parseString text
  refuse := fun _ => .strictJsonError (ascii "invalid strict JSON bytes")
  inside := fun _ place => place
  item := fun place _ => place
  member := fun place _ => place

/-- A run of the preflight where the interpreter's stack holds the calls of values down to a depth of `room`. -/
def run (room : Nat) (limits : JsonResourceLimits) (text : Text) : Except (ScanStop PyError) Unit :=
  (scanner room limits).scanDocument () text

section Strings

variable {text rest : Text}

theorem parseString_plain {character : CodePoint} (above : 0x20 ≤ character.val) (inside : character ≠ quote)
    (other : character ≠ backslash) : parseString (character :: rest) = parseString rest := by
  rw [parseString.eq_def]
  simp only [if_neg inside, if_neg (not_lt.mpr above), if_pos other]

theorem parseString_short {letter : CodePoint} (known : letter ∈ escapeLetters) :
    parseString (backslash :: letter :: rest) = parseString rest := by
  rw [parseString.eq_def]
  simp only [if_neg (by decide : ¬ backslash = quote), if_neg (by decide : ¬ backslash.val < 0x20), ne_eq, not_true_eq_false,
    if_false, if_pos known]

theorem parseString_unit {a b c d : CodePoint} {unit : Nat} (known : hexUnit a b c d = some unit) :
    parseString (backslash :: 0x75 :: a :: b :: c :: d :: rest) = parseString rest := by
  have digits := exists_hexUnit_iff.mp ⟨unit, known⟩
  rw [parseString.eq_def]
  simp only [if_neg (by decide : ¬ backslash = quote), if_neg (by decide : ¬ backslash.val < 0x20), ne_eq, not_true_eq_false,
    if_false, if_neg (by decide : ¬ (0x75 : CodePoint) ∈ escapeLetters), if_neg digits]

/-- A derived string is scanned. -/
theorem parseString_complete {lone : Prop} {value : Text} (derived : Characters lone value text rest) :
    parseString text = .ok rest := by
  induction derived with
  | done => rw [parseString.eq_def]; simp only [if_true]
  | more first _ ih =>
    cases first with
    | plain above inside other => rw [parseString_plain above inside other, ih]
    | short known => rw [parseString_short (mem_escapeLetters_iff.mpr ⟨_, known⟩), ih]
    | unit known _ => rw [parseString_unit known, ih]
    | pair known _ second _ => rw [parseString_unit known, parseString_unit second, ih]
    | half _ known _ _ => rw [parseString_unit known, ih]

/-- One step of the scan of a string. -/
theorem parseString_step (scanned : parseString text = .ok rest) : text = quote :: rest ∨
      (∃ character others, Character True character text others ∧ parseString others = .ok rest) ∨
      ∃ a b c d unit others, text = backslash :: 0x75 :: a :: b :: c :: d :: others ∧ hexUnit a b c d = some unit ∧
        parseString others = .ok rest := by
  cases text with
  | nil => cases scanned
  | cons character others =>
    rw [parseString.eq_def] at scanned
    dsimp only at scanned
    split at scanned
    · rename_i closing
      cases scanned
      exact .inl (by rw [closing])
    rename_i inside
    split at scanned
    · cases scanned
    rename_i control
    split at scanned
    · rename_i other
      exact .inr (.inl ⟨character, others, Character.plain (not_lt.mp control) inside other, scanned⟩)
    rename_i escape
    rw [not_not.mp escape]
    cases others with
    | nil => cases scanned
    | cons letter after =>
      dsimp only at scanned
      split at scanned
      · rename_i short
        obtain ⟨decoded, known⟩ := mem_escapeLetters_iff.mp short
        exact .inr (.inl ⟨decoded, after, Character.short known, scanned⟩)
      split at scanned
      · cases scanned
      rename_i unicode
      rw [not_not.mp unicode]
      split at scanned
      · rename_i a b c d remaining
        split at scanned
        · cases scanned
        rename_i digits
        obtain ⟨unit, known⟩ := exists_hexUnit_iff.mpr digits
        exact .inr (.inr ⟨a, b, c, d, unit, remaining, rfl, known, scanned⟩)
      · cases scanned

/-- A string that is scanned is derived: the two escapes of a surrogate pair are one character of the grammar and two
steps of the scan. -/
theorem parseString_sound {length : Nat} (short : text.length ≤ length) (scanned : parseString text = .ok rest) :
    ∃ value, Characters True value text rest := by
  induction length using Nat.strongRecOn generalizing text with
  | ind length ih =>
    rcases parseString_step scanned with rfl | ⟨character, others, first, later⟩ |
      ⟨a, b, c, d, unit, others, rfl, known, later⟩
    · exact ⟨[], Characters.done⟩
    · obtain ⟨value, derived⟩ := ih others.length (first.length_lt.trans_le short) le_rfl later
      exact ⟨character :: value, Characters.more first derived⟩
    · by_cases surrogate : 0xD800 ≤ unit ∧ unit ≤ 0xDFFF
      · by_cases pair : unit ≤ 0xDBFF ∧ ∃ low after, lowEscape others = some (low, after)
        · obtain ⟨high, low, after, found⟩ := pair
          obtain ⟨e, f, g, h, rfl, second, range⟩ := lowEscape_eq_some found
          rw [parseString_unit second] at later
          obtain ⟨value, derived⟩ := ih after.length (by simp only [length_cons] at short; omega) le_rfl later
          exact ⟨_, Characters.more (Character.pair known ⟨surrogate.1, high⟩ second range) derived⟩
        · obtain ⟨value, derived⟩ := ih others.length (by simp only [length_cons] at short; omega) le_rfl later
          refine ⟨_, Characters.more (Character.half trivial known surrogate fun high => ?_) derived⟩
          exact Option.eq_none_iff_forall_not_mem.mpr fun found escape => pair ⟨high, found.1, found.2, escape⟩
      · obtain ⟨value, derived⟩ := ih others.length (by simp only [length_cons] at short; omega) le_rfl later
        exact ⟨_, Characters.more (Character.unit known surrogate) derived⟩

end Strings

section Numbers

variable {text rest : Text}

@[simp] theorem part_eq_ok {outcome : Except Text Text} : part outcome = .ok rest ↔ outcome = .ok rest := by
  cases outcome <;> simp [part, failSyntax]

theorem parseWhole_eq_ok : parseWhole text = .ok rest ↔ ∃ whole, readWhole text = some (whole, rest) := by
  cases text with
  | nil => simp [parseWhole, expect, readWhole, failSyntax]
  | cons first others =>
    rw [parseWhole, expect, readWhole]
    by_cases zero : first = 0x30
    · simp [zero]
    · have leading := mem_nonzero_iff zero
      by_cases digit : first.isDigit = true
      · simp [zero, leading, digit, readRun, span_eq_takeWhile_dropWhile]
      · simp [zero, leading, digit, readRun, span_eq_takeWhile_dropWhile, failSyntax]

theorem parseNumber_eq_ok : parseNumber text = .ok rest ↔ ∃ literal, readNumber text = some (literal, rest) := by
  rw [parseNumber, exists_readNumber_iff, bind_unit_eq_ok, raiseIf_eq_ok]
  simp only [bind_eq_ok, part_eq_ok, parseWhole_eq_ok]
  constructor
  · rintro ⟨_, afterWhole, whole, afterFraction, fraction, exponent⟩
    exact ⟨afterWhole, afterFraction, whole, fraction, exponent⟩
  · rintro ⟨afterWhole, afterFraction, ⟨whole, wholeRead⟩, fraction, exponent⟩
    refine ⟨fun alone => ?_, afterWhole, ⟨whole, wholeRead⟩, afterFraction, fraction, exponent⟩
    rw [unsigned, alone] at wholeRead
    cases wholeRead

end Numbers

section Agreement

variable {room : Nat} {limits : JsonResourceLimits} {depth nodes counted : Nat} {text rest : Text}

theorem visit_eq_ok : visit limits depth nodes = .ok counted ↔
    depth ≤ limits.maxDepth ∧ nodes + 1 ≤ limits.maxNodes ∧ counted = nodes + 1 := by
  rw [visit, bind_unit_eq_ok, bind_unit_eq_ok, raiseIf_eq_ok, raiseIf_eq_ok, pure_eq_ok_iff, not_lt, not_lt, eq_comm]

/-- What the preflight admits: every number and name, any escape, and values that the interpreter's stack holds. -/
def admission (room : Nat) (limits : JsonResourceLimits) : Admission Unit where
  lone := True
  maxDepth := min room limits.maxDepth
  maxNodes := limits.maxNodes
  number := fun _ => True
  keep := fun _ => ()
  fresh := fun _ _ => True

mutual

theorem admission_admits : (tree : JsonSyntax) → (admission room limits).Admits tree
  | .null => by rw [Admission.Admits]; trivial
  | .bool _ => by rw [Admission.Admits]; trivial
  | .number _ => by rw [Admission.Admits]; trivial
  | .str _ => by rw [Admission.Admits]; trivial
  | .arr items => by rw [Admission.Admits]; exact admission_admitsItems items
  | .obj members => by rw [Admission.Admits]; exact admission_admitsMembers [] members

theorem admission_admitsItems : (items : List JsonSyntax) → (admission room limits).AdmitsItems items
  | [] => by rw [Admission.AdmitsItems]; trivial
  | item :: rest => by rw [Admission.AdmitsItems]; exact ⟨admission_admits item, admission_admitsItems rest⟩

theorem admission_admitsMembers : (keys : List Unit) → (members : List (Text × JsonSyntax)) →
    (admission room limits).AdmitsMembers keys members
  | _, [] => by rw [Admission.AdmitsMembers]; trivial
  | keys, (_, value) :: rest => by
    rw [Admission.AdmitsMembers]
    exact ⟨trivial, admission_admits value, admission_admitsMembers _ rest⟩

end

theorem parseScalar_sound (scanned : parseScalar limits depth nodes text = .ok (counted, rest)) :
    visit limits depth nodes = .ok counted ∧ ∃ tree, Scalar True tree text rest := by
  obtain ⟨visited, visit, scanned⟩ := bind_eq_ok.mp scanned
  cases text with
  | nil => cases scanned
  | cons character others =>
    dsimp only at scanned
    split at scanned
    · rename_i opening
      obtain ⟨after, string, result⟩ := bind_eq_ok.mp scanned
      cases result
      obtain ⟨value, derived⟩ := parseString_sound le_rfl string
      rw [opening]
      exact ⟨visit, _, Scalar.str derived⟩
    · split at scanned
      · rename_i after word
        cases scanned
        obtain ⟨tree, derived, _⟩ := @scanWord_eq_some True _ _ word
        exact ⟨visit, tree, derived⟩
      · obtain ⟨_, scanned⟩ : _ ∧ (parseNumber (character :: others) >>= fun rest => pure (visited, rest)) =
            .ok (counted, rest) := by
          split at scanned
          · rename_i start
            exact ⟨start, scanned⟩
          · cases scanned
        obtain ⟨after, number, result⟩ := bind_eq_ok.mp scanned
        cases result
        obtain ⟨literal, found⟩ := parseNumber_eq_ok.mp number
        exact ⟨visit, _, Scalar.number (readNumber_eq_some found)⟩

theorem parseScalar_complete {lone : Prop} {tree : JsonSyntax} (derived : Scalar lone tree text rest)
    (separated : Separated rest) (visited : visit limits depth nodes = .ok counted) :
    parseScalar limits depth nodes text = .ok (counted, rest) := by
  have word : IsWord tree → parseScalar limits depth nodes text = .ok (counted, rest) := by
    intro word
    have found := scanWord_of_scalar derived word
    obtain ⟨first, others, rfl, _⟩ := derived.opens
    have plain : first ≠ quote := by
      rintro rfl
      rw [scanWord_foreign (by decide)] at found
      cases found
    rw [parseScalar, visited]
    simp only [ok_bind_eq, if_neg plain, found]
    rfl
  cases derived with
  | null => exact word (.inl rfl)
  | yes => exact word (.inr (.inl rfl))
  | no => exact word (.inr (.inr rfl))
  | number number =>
    have scanned := parseNumber_eq_ok.mpr ⟨_, number.readNumber separated⟩
    obtain ⟨first, others, rfl, start⟩ := number.head
    rw [parseScalar, visited]
    simp only [ok_bind_eq, if_neg (opens_of_number start).2.2.2, scanWord_number start, if_pos start, scanned]
    rfl
  | str characters =>
    rw [parseScalar, visited]
    simp only [ok_bind_eq, if_true, parseString_complete characters]
    rfl

/-- The preflight meets its admission. -/
theorem scanner_meets (room : Nat) (limits : JsonResourceLimits) : (scanner room limits).Meets (admission room limits) where
  calls := fun shallow => raiseIf_eq_ok.mpr (not_lt.mpr (shallow.trans (min_le_left _ _)))
  visits := fun called => by
    have within := not_lt.mp (raiseIf_eq_ok.mp called)
    refine visit_eq_ok.trans (and_congr_left' ?_)
    exact ⟨fun shallow => le_min within shallow, fun shallow => shallow.trans (min_le_right _ _)⟩
  scalar_sound := fun called scanned => by
    have within := not_lt.mp (raiseIf_eq_ok.mp called)
    obtain ⟨visited, tree, derived⟩ := parseScalar_sound scanned
    obtain ⟨shallow, few, counts⟩ := visit_eq_ok.mp visited
    exact ⟨tree, derived, admission_admits tree, le_min within shallow, few, counts⟩
  scalar_complete := fun derived _ separated shallow few =>
    parseScalar_complete derived separated (visit_eq_ok.mpr ⟨shallow.trans (min_le_right _ _), few, rfl⟩)
  name_sound := fun scanned => by
    obtain ⟨after, string, result⟩ := map_eq_ok.mp scanned
    cases result
    obtain ⟨value, derived⟩ := parseString_sound le_rfl string
    exact ⟨value, derived, rfl, trivial⟩
  name_complete := fun derived _ => map_eq_ok.mpr ⟨_, parseString_complete derived, rfl⟩

theorem run_eq_ok_iff : run room limits text = .ok () ↔
    ∃ tree, Document True tree text ∧ valueDepth tree ≤ limits.maxDepth ∧ valueCount tree ≤ limits.maxNodes ∧
      valueDepth tree ≤ room := by
  rw [run, JsonScanner.scanDocument_eq_ok (scanner_meets room limits)]
  refine exists_congr fun tree => and_congr_right fun _ => ⟨fun passes => ?_, fun ⟨shallow, few, within⟩ => ?_⟩
  · have deep : 0 + valueDepth tree ≤ min room limits.maxDepth := passes.shallow
    rw [Nat.zero_add] at deep
    exact ⟨deep.trans (min_le_right _ _), passes.few, deep.trans (min_le_left _ _)⟩
  · exact ⟨admission_admits tree, (Nat.zero_add _).trans_le (le_min within shallow), (Nat.zero_add _).symm, few⟩

/-- The preflight ends on every text; it accepts exactly the documents of the grammar that stay within the limits and
no deeper than the interpreter's stack holds. -/
theorem run_accepts_iff (room : Nat) (limits : JsonResourceLimits) (text : Text) :
    run room limits text ≠ .error .unfinished ∧ (run room limits text = .ok () ↔
        ∃ tree, Document True tree text ∧ valueDepth tree ≤ limits.maxDepth ∧ valueCount tree ≤ limits.maxNodes ∧
          valueDepth tree ≤ room) :=
  ⟨JsonScanner.scanDocument_finishes (scanner_meets room limits), run_eq_ok_iff⟩

end Agreement

namespace Sample

/-- Empty arrays inside each other. -/
def nestedArrays : Nat → JsonSyntax
  | 0 => .arr []
  | depth + 1 => .arr [nestedArrays depth]

/-- The text of nested arrays before another text. -/
def nestedText : Nat → Text → Text
  | 0, rest => openBracket :: closeBracket :: rest
  | depth + 1, rest => openBracket :: nestedText depth (closeBracket :: rest)

theorem nestedText_value (depth : Nat) (rest : Text) : Value True (nestedArrays depth) (nestedText depth rest) rest := by
  induction depth generalizing rest with
  | zero => exact Value.emptyArr Space.done
  | succ depth ih => exact Value.arr Space.done (Items.last (ih _) Space.done)

theorem nestedArrays_measures (depth : Nat) : valueDepth (nestedArrays depth) = depth ∧ valueCount (nestedArrays depth) = depth + 1 := by
  induction depth with
  | zero => simp [nestedArrays, valueDepth, depthItems, valueCount, countItems]
  | succ depth ih => simp [nestedArrays, valueDepth, depthItems, valueCount, countItems, ih]

/-- A bound that is deeper than the interpreter's default stack. -/
def deepLimits : JsonResourceLimits :=
  ⟨1000, 1000, by decide⟩

/-- A document within its limits that is too deep for the stack is refused. -/
theorem run_refuses_nested :
    Document True (nestedArrays 600) (nestedText 600 []) ∧ valueDepth (nestedArrays 600) ≤ deepLimits.maxDepth ∧
      valueCount (nestedArrays 600) ≤ deepLimits.maxNodes ∧ run 498 deepLimits (nestedText 600 []) ≠ .ok () := by
  have document : Document True (nestedArrays 600) (nestedText 600 []) :=
    Document.mk Space.done (nestedText_value 600 []) Space.done
  obtain ⟨deep, many⟩ := nestedArrays_measures 600
  refine ⟨document, deep.trans_le (by decide), many.trans_le (by decide), fun accepted => ?_⟩
  obtain ⟨tree, derived, _, _, within⟩ := run_eq_ok_iff.mp accepted
  rw [derived.unique document, deep] at within
  exact absurd within (by decide)

end Sample

end JsonResourcePreflight

end CiCoordinator.Kernel

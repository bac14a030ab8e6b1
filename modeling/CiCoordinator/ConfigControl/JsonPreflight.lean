import CiCoordinator.ConfigControl.ParserSupport

/- The preflight of policy documents in JSON and what it accepts. -/

namespace CiCoordinator.ConfigControl

open Library Kernel JsonSyntax JsonGrammar List Option

/-- The preflight ends early with the diagnostic of a parse failure, or with an error of the host's decoder. -/
inductive ParseStop where
  | failure (diagnostic : PolicyDiagnostic)
  | raised (error : PyError)
  deriving DecidableEq

namespace JsonPreflight

/-- A syntax failure is located by the text that is left. -/
def failSyntax (source remaining : Text) : ParseStop :=
  let (line, column) := lineColumn source (source.length - remaining.length)
  .failure ⟨ascii "parse.invalid_syntax", [], .position (ascii "json") line column⟩

def visit (pointer : Text) (depth nodes : Nat) : Except ParseStop Nat := do
  raiseIf (maxDepth < depth) (.failure ⟨ascii "resource.max_depth_exceeded", pointer, .bound maxDepth depth⟩)
  raiseIf (maxNodes < nodes + 1) (.failure ⟨ascii "resource.max_nodes_exceeded", pointer, .bound maxNodes (nodes + 1)⟩)
  return nodes + 1

def unpairedSurrogate (pointer : Text) : ParseStop :=
  .failure ⟨ascii "parse.unpaired_surrogate", pointer, .none⟩

/-- The code unit of an escape from its letter on, and the text after it. -/
def unicodeEscape (source : Text) : Text → Except ParseStop (Nat × Text)
  | letter :: a :: b :: c :: d :: rest =>
    if letter ≠ 0x75 ∨ ∃ digit ∈ [a, b, c, d], digit ∉ hexdigits then
      .error (failSyntax source (letter :: a :: b :: c :: d :: rest))
    else .ok ((hexUnit a b c d).getD 0, rest)
  | text => .error (failSyntax source text)

/-- The text after an escape whose backslash has been read. -/
def scanEscape (source pointer : Text) : Text → Except ParseStop Text
  | [] => .error (failSyntax source [])
  | escape :: after =>
    if escape ≠ 0x75 then
      if escape ∉ escapeLetters then .error (failSyntax source (escape :: after)) else .ok after
    else do
      let (codePoint, remaining) ← unicodeEscape source (escape :: after)
      if 0xD800 ≤ codePoint ∧ codePoint ≤ 0xDBFF then
        if (ascii "\\u").isPrefixOf remaining then do
          let (low, last) ← unicodeEscape source (remaining.drop 1)
          if 0xDC00 ≤ low ∧ low ≤ 0xDFFF then .ok last else .error (unpairedSurrogate pointer)
        else .error (unpairedSurrogate pointer)
      else if 0xDC00 ≤ codePoint ∧ codePoint ≤ 0xDFFF then .error (unpairedSurrogate pointer)
      else .ok remaining

/-- The text after a string whose opening quote has been read; every step takes up some of the text. -/
def scanString (source pointer : Text) : Nat → Text → Except ParseStop Text
  | 0, text => .error (failSyntax source text)
  | _ + 1, [] => .error (failSyntax source [])
  | fuel + 1, character :: rest =>
    if character = quote then .ok rest
    else if character.val < 0x20 then .error (failSyntax source (character :: rest))
    else if character ≠ backslash then scanString source pointer fuel rest
    else do
      let remaining ← scanEscape source pointer rest
      scanString source pointer fuel remaining

/-- The host decodes the token of a string. -/
def decodeString (token : Text) : Except ParseStop Text :=
  match JsonSyntax.read token with
  | some (.str value) => .ok value
  | _ => .error (.raised (.valueError (ascii "invalid JSON string")))

/-- A string after its opening quote, decoded. -/
def parseString (source pointer text : Text) : Except ParseStop (Text × Text) := do
  let rest ← scanString source pointer (text.length + 1) text
  let value ← decodeString (quote :: text.take (text.length - rest.length))
  return (value, rest)

/-- The text after the digits before the point. -/
def scanWhole (text : Text) : Except Text Text :=
  match expect 0x30 text with
  | some rest => if (rest.head?.map CodePoint.isDigit).getD false then .error rest else .ok rest
  | none =>
    match text with
    | [] => .error []
    | first :: _ => if first ∈ ascii "123456789" then .ok (text.dropWhile CodePoint.isDigit) else .error text

/-- A number with a fraction or an exponent is no integer. -/
def isInteger (afterWhole afterFraction : Text) : Bool :=
  (expect point afterWhole).isNone && !((afterFraction.head?.map fun letter => letter = 0x65 || letter = 0x45).getD false)

/-- The text after a number, and whether it is an integer. -/
def scanNumber (text : Text) : Except Text (Text × Bool) := do
  let afterWhole ← scanWhole (unsigned text)
  let afterFraction ← scanFraction afterWhole
  let rest ← scanExponent afterFraction
  return (rest, isInteger afterWhole afterFraction)

/-- The host's float of a number token. -/
def floatOf (token : Text) : Float64 :=
  match readNumber token with
  | some (literal, _) => literal.toFloat64
  | none => .nan

/-- The text after a number within the safe magnitude. -/
def parseNumber (source pointer text : Text) : Except ParseStop Text :=
  match scanNumber text with
  | .error remaining => .error (failSyntax source remaining)
  | .ok (rest, integer) =>
    let token := text.take (text.length - rest.length)
    if integer then
      if integerTokenIsUnsafe token then .error (.failure ⟨ascii "parse.unsafe_integer", pointer, .none⟩) else .ok rest
    else
      match floatOf token with
      | .finite value =>
        if maxSafeJsonInteger * value.denominator < value.numerator then
          .error (.failure ⟨ascii "parse.unsafe_integer", pointer, .none⟩)
        else .ok rest
      | _ => .error (.failure ⟨ascii "parse.non_finite_number", pointer, .none⟩)

/-- Whether a token that starts a text ends where a value may end. -/
def tokenEndsAfter (token text : Text) : Bool :=
  ((text.drop token.length).head?.map fun next => isSpace next || next ∈ ascii ",]\x7d").getD true

/-- The tokens of the numbers that are not finite. -/
def nonFiniteToken (text : Text) : Bool :=
  [ascii "-Infinity", ascii "Infinity", ascii "NaN"].any fun token => token.isPrefixOf text && tokenEndsAfter token text

/-- A string or a number is visited after it was scanned, and also when its syntax fails. -/
def visitAfter (pointer : Text) (depth nodes : Nat) (outcome : Except ParseStop Text) : Except ParseStop (Nat × Text) :=
  match outcome with
  | .ok rest => do
    let counted ← visit pointer depth nodes
    return (counted, rest)
  | .error (.failure diagnostic) =>
    if diagnostic.code = ascii "parse.invalid_syntax" then do
      let _ ← visit pointer depth nodes
      .error (.failure diagnostic)
    else .error (.failure diagnostic)
  | .error (.raised error) => .error (.raised error)

/-- A value that is no container. -/
def parseScalar (source pointer : Text) (depth nodes : Nat) (text : Text) : Except ParseStop (Nat × Text) :=
  match text with
  | [] => .error (failSyntax source [])
  | character :: others =>
    if character = quote then visitAfter pointer depth nodes (Prod.snd <$> parseString source pointer others)
    else
      match scanWord text with
      | some rest => do
        let counted ← visit pointer depth nodes
        return (counted, rest)
      | none =>
        if nonFiniteToken text then .error (.failure ⟨ascii "parse.non_finite_number", pointer, .none⟩)
        else if character = minus ∨ character.isDigit then
          visitAfter pointer depth nodes (parseNumber source pointer text)
        else .error (failSyntax source text)

/-- The name of a member differs from the names before it. -/
def parseName (source pointer : Text) (keys : List Text) (text : Text) : Except ParseStop (Text × Text) := do
  let (key, rest) ← parseString source pointer text
  raiseIf (key ∈ keys) (.failure ⟨ascii "parse.duplicate_key", pointer, .none⟩)
  return (key, rest)

/-- The preflight of a source text; a place is a pointer and a cursor of the schema. -/
def scanner (schema : DocumentSchema) (source : Text) : JsonScanner (Text × schema.Cursor) Text ParseStop where
  call := fun _ => .ok ()
  visit := fun place depth nodes => visit place.1 depth nodes
  scalar := fun place depth nodes text => parseScalar source place.1 depth nodes text
  name := fun place keys text => parseName source place.1 keys text
  refuse := failSyntax source
  inside := fun kind place => (place.1, schema.schemaForKind place.2 kind)
  item := fun place index => (place.1 ++ ascii "/" ++ decimal index, schema.arrayItemSchema place.2)
  member := fun place key => schema.objectChildLocation place.1 place.2 key

def run (schema : DocumentSchema) (source : Text) : Except (ScanStop ParseStop) Unit :=
  (scanner schema source).scanDocument ([], schema.documentSchema) source

section Strings

variable {source pointer text rest : Text}

theorem unicodeEscape_eq_ok {unit : Nat} : unicodeEscape source text = .ok (unit, rest) ↔
    ∃ a b c d, text = 0x75 :: a :: b :: c :: d :: rest ∧ hexUnit a b c d = some unit := by
  constructor
  · intro scanned
    unfold unicodeEscape at scanned
    split at scanned
    · rename_i letter a b c d others
      split at scanned
      · cases scanned
      rename_i digits
      rw [not_or, not_not] at digits
      obtain ⟨value, known⟩ := exists_hexUnit_iff.mpr digits.2
      rw [known, getD_some] at scanned
      cases scanned
      exact ⟨a, b, c, d, by rw [digits.1], known⟩
    · cases scanned
  · rintro ⟨a, b, c, d, rfl, known⟩
    rw [unicodeEscape, if_neg, known, getD_some]
    exact not_or.mpr ⟨not_not.mpr rfl, exists_hexUnit_iff.mp ⟨unit, known⟩⟩

/-- An escape that is scanned is a character: a surrogate pair is one escape, and one half alone is none. -/
theorem scanEscape_sound (scanned : scanEscape source pointer text = .ok rest) :
    ∃ character, Character False character (backslash :: text) rest := by
  cases text with
  | nil => cases scanned
  | cons escape after =>
    rw [scanEscape] at scanned
    split at scanned
    · split at scanned
      · cases scanned
      · rename_i short
        obtain ⟨decoded, known⟩ := mem_escapeLetters_iff.mp (not_not.mp short)
        cases scanned
        exact ⟨decoded, Character.short known⟩
    obtain ⟨⟨codePoint, remaining⟩, unit, scanned⟩ := bind_eq_ok.mp scanned
    obtain ⟨a, b, c, d, shape, known⟩ := unicodeEscape_eq_ok.mp unit
    rw [shape]
    dsimp only at scanned
    split at scanned
    · rename_i high
      split at scanned
      · rename_i marks
        obtain ⟨others, rfl⟩ := isPrefixOf_iff_prefix.mp marks
        obtain ⟨⟨low, last⟩, second, scanned⟩ := bind_eq_ok.mp scanned
        obtain ⟨e, f, g, h, follows, lowKnown⟩ := unicodeEscape_eq_ok.mp second
        have letters : ascii "\\u" = [backslash, 0x75] := by decide
        rw [letters] at follows ⊢
        rw [cons_append, drop_one, tail_cons] at follows
        split at scanned
        · rename_i range
          cases scanned
          rw [cons_append, follows]
          exact ⟨_, Character.pair known high lowKnown range⟩
        · cases scanned
      · cases scanned
    · split at scanned
      · cases scanned
      · cases scanned
        exact ⟨_, Character.unit known (by omega)⟩

/-- A character with paired surrogates is plain, or its escape is scanned. -/
theorem Character.scanEscape {character : CodePoint} (derived : Character False character text rest) :
    (text = character :: rest ∧ 0x20 ≤ character.val ∧ character ≠ quote ∧ character ≠ backslash) ∨
      ∃ escape, text = backslash :: escape ∧ scanEscape source pointer escape = .ok rest := by
  have letters : ascii "\\u" = [backslash, 0x75] := by decide
  cases derived with
  | plain above inside other => exact .inl ⟨rfl, above, inside, other⟩
  | @short letter _ _ known =>
    have member := mem_escapeLetters_iff.mpr ⟨_, known⟩
    have other : letter ≠ 0x75 := by
      rintro rfl
      exact absurd member (by decide)
    refine .inr ⟨_, rfl, ?_⟩
    rw [JsonPreflight.scanEscape, if_pos other, if_neg (not_not.mpr member)]
  | unit known range =>
    refine .inr ⟨_, rfl, ?_⟩
    rw [JsonPreflight.scanEscape, if_neg (not_not.mpr rfl), unicodeEscape_eq_ok.mpr ⟨_, _, _, _, rfl, known⟩, ok_bind_eq]
    dsimp only
    rw [if_neg (by omega), if_neg (by omega)]
  | pair known high second low =>
    refine .inr ⟨_, rfl, ?_⟩
    rw [JsonPreflight.scanEscape, if_neg (not_not.mpr rfl), unicodeEscape_eq_ok.mpr ⟨_, _, _, _, rfl, known⟩, ok_bind_eq]
    dsimp only
    rw [if_pos high, letters, if_pos (by simp), drop_one, tail_cons,
      unicodeEscape_eq_ok.mpr ⟨_, _, _, _, rfl, second⟩, ok_bind_eq]
    exact if_pos low
  | half absurd _ _ _ => exact absurd.elim

/-- A string that is scanned is derived with paired surrogate escapes. -/
theorem scanString_sound {fuel : Nat} (scanned : scanString source pointer fuel text = .ok rest) :
    ∃ value, Characters False value text rest := by
  induction fuel generalizing text with
  | zero => cases scanned
  | succ fuel ih =>
    cases text with
    | nil => cases scanned
    | cons character others =>
      rw [scanString] at scanned
      split at scanned
      · rename_i closing
        cases scanned
        rw [closing]
        exact ⟨[], Characters.done⟩
      rename_i inside
      split at scanned
      · cases scanned
      rename_i control
      split at scanned
      · rename_i other
        obtain ⟨value, later⟩ := ih scanned
        exact ⟨character :: value, Characters.more (Character.plain (not_lt.mp control) inside other) later⟩
      · rename_i escape
        obtain ⟨remaining, first, scanned⟩ := bind_eq_ok.mp scanned
        obtain ⟨value, later⟩ := ih scanned
        obtain ⟨decoded, derived⟩ := scanEscape_sound first
        rw [not_not.mp escape]
        exact ⟨decoded :: value, Characters.more derived later⟩

/-- A string that is derived with paired surrogate escapes is scanned. -/
theorem scanString_complete {value : Text} (derived : Characters False value text rest) {fuel : Nat}
    (enough : text.length ≤ fuel) : scanString source pointer fuel text = .ok rest := by
  induction derived generalizing fuel with
  | done =>
    obtain ⟨less, rfl⟩ : ∃ less, fuel = less + 1 := ⟨fuel - 1, by rw [length_cons] at enough; omega⟩
    rw [scanString, if_pos rfl]
  | @more character value text between rest first _ ih =>
    have shorter := first.length_lt
    obtain ⟨less, rfl⟩ : ∃ less, fuel = less + 1 := ⟨fuel - 1, by omega⟩
    have later := @ih less (by omega)
    rcases @Character.scanEscape source pointer _ _ _ first with ⟨rfl, above, inside, other⟩ | ⟨escape, rfl, scanned⟩
    · rw [scanString, if_neg inside, if_neg (not_lt.mpr above), if_pos other, later]
    · have marks : ¬ backslash = quote ∧ ¬ backslash.val < 0x20 ∧ ¬ backslash ≠ backslash := by decide
      rw [scanString, if_neg marks.1, if_neg marks.2.1, if_neg marks.2.2, scanned, ok_bind_eq, later]

/-- Where surrogate escapes are paired, a character does not depend on what follows it. -/
theorem Character.locally {character : CodePoint} (derived : Character False character text rest) :
    ∃ part, text = part ++ rest ∧ ∀ other, Character False character (part ++ other) other := by
  cases derived with
  | plain above inside other => exact ⟨[character], rfl, fun _ => Character.plain above inside other⟩
  | @short letter _ _ known => exact ⟨[backslash, letter], rfl, fun _ => Character.short known⟩
  | @unit a b c d _ _ known range =>
    exact ⟨[backslash, 0x75, a, b, c, d], rfl, fun _ => Character.unit known range⟩
  | @pair a b c d e f g h _ _ _ known high second low =>
    exact ⟨[backslash, 0x75, a, b, c, d, backslash, 0x75, e, f, g, h], rfl, fun _ => Character.pair known high second low⟩
  | half absurd _ _ _ => exact absurd.elim

theorem Characters.locally {value : Text} (derived : Characters False value text rest) :
    ∃ part, text = part ++ rest ∧ Characters False value part [] := by
  induction derived with
  | done => exact ⟨[quote], rfl, Characters.done⟩
  | more first _ ih =>
    obtain ⟨part, rfl, local_⟩ := Character.locally first
    obtain ⟨others, rfl, later⟩ := ih
    exact ⟨part ++ others, (append_assoc _ _ _).symm, Characters.more (local_ others) later⟩

/-- The host decodes the token of a scanned string as its characters. -/
theorem parseString_eq_ok {value : Text} :
    parseString source pointer text = .ok (value, rest) ↔ Characters False value text rest := by
  have decodes : ∀ {value : Text}, Characters False value text rest →
      decodeString (quote :: text.take (text.length - rest.length)) = .ok value := by
    intro value derived
    obtain ⟨part, rfl, alone⟩ := Characters.locally derived
    have token : (part ++ rest).take ((part ++ rest).length - rest.length) = part := by
      rw [length_append, Nat.add_sub_cancel, take_left]
    have document : Document False (.str value) (quote :: part) :=
      Document.mk Space.done (Value.scalar (Scalar.str alone)) Space.done
    rw [token, decodeString, document.read_eq]
  constructor
  · intro parsed
    obtain ⟨after, scanned, parsed⟩ := bind_eq_ok.mp parsed
    obtain ⟨other, decoded, result⟩ := bind_eq_ok.mp parsed
    cases result
    obtain ⟨decodedValue, derived⟩ := scanString_sound scanned
    rw [decodes derived] at decoded
    cases decoded
    exact derived
  · intro derived
    rw [parseString, scanString_complete derived (Nat.le_succ _), ok_bind_eq, decodes derived]
    rfl

end Strings

/-- A number whose value is finite and within the safe magnitude: an integer exactly, every other number as a float. -/
def SafeNumber (literal : NumberLiteral) : Prop :=
  if literal.fraction = none ∧ literal.exponent = none then readDigits literal.whole ≤ maxSafeJsonInteger
  else safeFloat literal.toFloat64 = true

section Numbers

variable {source pointer text rest : Text} {literal : NumberLiteral}

theorem head_dropWhile (stops : CodePoint → Bool) (text : Text) : ∀ next ∈ (text.dropWhile stops).head?, stops next = false := by
  induction text with
  | nil => rintro _ ⟨⟩
  | cons first others ih =>
    by_cases holds : stops first = true
    · rwa [dropWhile_cons_of_pos holds]
    · rw [dropWhile_cons_of_neg holds]
      rintro _ ⟨⟩
      exact Bool.eq_false_iff.mpr holds

/-- The digits before the point are scanned as they are read, unless a digit follows a leading zero. -/
theorem scanWhole_eq_ok : scanWhole text = .ok rest ↔
    (∃ whole, readWhole text = some (whole, rest)) ∧ ∀ next ∈ rest.head?, next.isDigit = false := by
  cases text with
  | nil => simp [scanWhole, expect, readWhole]
  | cons first others =>
    rw [scanWhole, expect, readWhole]
    by_cases zero : first = 0x30
    · rw [if_pos zero, if_pos zero]
      cases others with
      | nil => simp +contextual
      | cons next digits =>
        by_cases digit : next.isDigit = true
        · simp only [head?_cons, map_some, digit, getD_some, if_true, reduceCtorEq, false_iff, not_and]
          rintro ⟨_, read⟩ ends
          obtain ⟨_, rfl⟩ := Prod.mk.inj (some.inj read)
          exact absurd (ends next rfl) (by simp [digit])
        · simp only [head?_cons, map_some, getD_some, digit, Bool.false_eq_true, if_false, Except.ok.injEq]
          constructor
          · rintro rfl
            exact ⟨⟨_, rfl⟩, fun other head => some.inj head ▸ Bool.eq_false_iff.mpr digit⟩
          · rintro ⟨⟨_, read⟩, _⟩
            exact (Prod.mk.inj (some.inj read)).2
    · have leading := mem_nonzero_iff zero
      by_cases digit : first.isDigit = true
      · have ends := head_dropWhile CodePoint.isDigit (first :: others)
        rw [dropWhile_cons_of_pos digit] at ends
        simp [zero, leading, digit, readRun]
        rintro rfl
        simpa using ends
      · simp [zero, leading, digit, readRun]

/-- A number is an integer where it has neither a fraction nor an exponent. -/
theorem isInteger_iff {afterWhole afterFraction : Text} {fraction : Option Text} {exponent : Option (Bool × Text)}
    (fractionRead : readFraction afterWhole = some (fraction, afterFraction))
    (exponentRead : readExponent afterFraction = some (exponent, rest)) :
    isInteger afterWhole afterFraction = true ↔ fraction = none ∧ exponent = none := by
  have pointed : (expect point afterWhole).isNone = true ↔ fraction = none := by
    cases afterWhole with
    | nil =>
      cases fractionRead
      simp [expect]
    | cons first others =>
      rw [readFraction] at fractionRead
      rw [expect]
      split at fractionRead
      · rename_i start
        obtain ⟨digits, _, result⟩ := bind_eq_some_iff.mp fractionRead
        cases result
        simp [start]
      · rename_i start
        cases fractionRead
        simp [start]
  have marked : ((afterFraction.head?.map fun letter => letter = 0x65 || letter = 0x45).getD false) = false ↔ exponent = none := by
    cases afterFraction with
    | nil =>
      cases exponentRead
      simp
    | cons letter others =>
      rw [readExponent.eq_def] at exponentRead
      dsimp only at exponentRead
      split at exponentRead
      · rename_i start
        obtain ⟨digits, _, result⟩ := bind_eq_some_iff.mp exponentRead
        cases result
        rcases start with lower | upper
        · simp [lower]
        · simp [upper]
      · rename_i start
        cases exponentRead
        simpa [not_or] using start
  rw [isInteger, Bool.and_eq_true, pointed, Bool.not_eq_true', marked]

theorem scanNumber_sound {integer : Bool} (scanned : scanNumber text = .ok (rest, integer)) :
    ∃ literal, readNumber text = some (literal, rest) ∧ (integer = true ↔ literal.fraction = none ∧ literal.exponent = none) := by
  obtain ⟨afterWhole, wholeScan, scanned⟩ := bind_eq_ok.mp scanned
  obtain ⟨afterFraction, fractionScan, scanned⟩ := bind_eq_ok.mp scanned
  obtain ⟨after, exponentScan, result⟩ := bind_eq_ok.mp scanned
  cases result
  obtain ⟨⟨whole, wholeRead⟩, _⟩ := scanWhole_eq_ok.mp wholeScan
  obtain ⟨fraction, fractionRead⟩ := scanFraction_eq_ok.mp fractionScan
  obtain ⟨exponent, exponentRead⟩ := scanExponent_eq_ok.mp exponentScan
  exact ⟨⟨_, whole, fraction, exponent⟩, readNumber_parts.mpr ⟨rfl, afterWhole, afterFraction, wholeRead, fractionRead, exponentRead⟩,
    isInteger_iff fractionRead exponentRead⟩

section

variable (derived : Number literal text rest)
include derived

theorem scanNumber_complete (separated : Separated rest) : ∃ integer, scanNumber text = .ok (rest, integer) := by
  obtain ⟨_, afterWhole, afterFraction, wholeRead, fractionRead, exponentRead⟩ :=
    readNumber_parts.mp (derived.readNumber separated)
  have breaks : ∀ next ∈ afterWhole.head?, next.isDigit = false := by
    obtain ⟨formed, exponent, spelled, rfl⟩ := derived
    obtain ⟨point, digits, shape, digit⟩ := formed.head
    have split := (readWhole_eq_some wholeRead).2
    rw [shape, cons_append, unsigned_signed digit, ← cons_append, ← shape, append_cancel_left_eq] at split
    rw [← split]
    exact @head_fraction literal.fraction _ fun next head => (head_spelled spelled separated next head).1
  refine ⟨isInteger afterWhole afterFraction, ?_⟩
  rw [scanNumber, scanWhole_eq_ok.mpr ⟨⟨_, wholeRead⟩, breaks⟩, ok_bind_eq, scanFraction_eq_ok.mpr ⟨_, fractionRead⟩, ok_bind_eq,
    scanExponent_eq_ok.mpr ⟨_, exponentRead⟩]
  rfl

/-- The token of a number is the number alone. -/
theorem Number.locally : ∃ token, text = token ++ rest ∧ Number literal token [] ∧
    (literal.fraction = none ∧ literal.exponent = none →
      token = (if literal.negative then [minus] else []) ++ literal.whole) := by
  obtain ⟨formed, exponent, spelled, rfl⟩ := derived
  refine ⟨(if literal.negative then [minus] else []) ++ (literal.whole ++ (NumberLiteral.fractionText literal.fraction ++
    exponent)), ?_, ⟨formed, exponent, spelled, ?_⟩, ?_⟩
  · simp
  · simp only [append_nil]
  · rintro ⟨fraction, absent⟩
    rw [absent] at spelled
    cases spelled
    rw [fraction, NumberLiteral.fractionText, append_nil, append_nil]

/-- The preflight judges a number by its token. -/
theorem parseNumber_of_scan {integer : Bool} (scanned : scanNumber text = .ok (rest, integer))
    (kind : integer = true ↔ literal.fraction = none ∧ literal.exponent = none) :
    parseNumber source pointer text = .ok rest ↔ SafeNumber literal := by
  obtain ⟨token, rfl, alone, whole⟩ := Number.locally derived
  have taken : (token ++ rest).take ((token ++ rest).length - rest.length) = token := by
    rw [length_append, Nat.add_sub_cancel, take_left]
  rw [parseNumber, scanned, SafeNumber]
  simp only [taken]
  cases integer with
  | true =>
    have plain := kind.mp rfl
    rw [if_pos rfl, if_pos plain, whole plain, integerTokenIsUnsafe_eq derived.formed.whole]
    by_cases unsafe_ : maxSafeJsonInteger < readDigits literal.whole
    · simp
    · simp [unsafe_, not_lt.mp unsafe_]
  | false =>
    have other : ¬ (literal.fraction = none ∧ literal.exponent = none) := fun plain => by cases kind.mpr plain
    have value : floatOf token = literal.toFloat64 := by rw [floatOf, alone.readNumber separated_nil]
    rw [if_neg Bool.false_ne_true, if_neg other, value]
    cases literal.toFloat64 with
    | nan => simp [safeFloat]
    | infinity negative => simp [safeFloat]
    | finite number =>
      by_cases above : maxSafeJsonInteger * number.denominator < number.numerator
      · simp [safeFloat]
      · simp [safeFloat]

end

theorem parseNumber_sound (parsed : parseNumber source pointer text = .ok rest) :
    ∃ literal, Number literal text rest ∧ SafeNumber literal := by
  have scanned : ∃ integer, scanNumber text = .ok (rest, integer) := by
    rw [parseNumber] at parsed
    split at parsed
    · cases parsed
    · rename_i after integer scanned
      have same : after = rest := by
        dsimp only at parsed
        split at parsed
        · split at parsed <;> cases parsed
          rfl
        · split at parsed
          · split at parsed <;> cases parsed
            rfl
          · cases parsed
      exact ⟨integer, same ▸ scanned⟩
  obtain ⟨integer, scanned⟩ := scanned
  obtain ⟨literal, found, kind⟩ := scanNumber_sound scanned
  have derived := readNumber_eq_some found
  exact ⟨literal, derived, (parseNumber_of_scan derived scanned kind).mp parsed⟩

theorem parseNumber_complete (derived : Number literal text rest) (safe : SafeNumber literal) (separated : Separated rest) :
    parseNumber source pointer text = .ok rest := by
  obtain ⟨integer, scanned⟩ := scanNumber_complete derived separated
  obtain ⟨other, found, kind⟩ := scanNumber_sound scanned
  rw [derived.readNumber separated] at found
  cases found
  exact (parseNumber_of_scan derived scanned kind).mpr safe

end Numbers

section Scalars

variable {source pointer text rest : Text} {depth nodes counted : Nat}

theorem visit_eq_ok : visit pointer depth nodes = .ok counted ↔ depth ≤ maxDepth ∧ nodes + 1 ≤ maxNodes ∧ counted = nodes + 1 := by
  rw [visit, bind_unit_eq_ok, bind_unit_eq_ok, raiseIf_eq_ok, raiseIf_eq_ok, pure_eq_ok_iff, not_lt, not_lt, eq_comm]

theorem visitAfter_eq_ok {outcome : Except ParseStop Text} : visitAfter pointer depth nodes outcome = .ok (counted, rest) ↔
    outcome = .ok rest ∧ visit pointer depth nodes = .ok counted := by
  unfold visitAfter
  split
  · rw [bind_eq_ok]
    constructor
    · rintro ⟨visited, visit, result⟩
      cases result
      exact ⟨rfl, visit⟩
    · rintro ⟨same, visited⟩
      cases same
      exact ⟨counted, visited, rfl⟩
  · simp only [reduceCtorEq, false_and, iff_false]
    split
    · intro stopped
      obtain ⟨_, _, stopped⟩ := bind_eq_ok.mp stopped
      cases stopped
    · rintro ⟨⟩
  · simp

theorem parseName_eq_ok {keys : List Text} {key : Text} :
    parseName source pointer keys text = .ok (key, rest) ↔ Characters False key text rest ∧ key ∉ keys := by
  rw [parseName, bind_eq_ok]
  constructor
  · rintro ⟨⟨name, after⟩, string, scanned⟩
    obtain ⟨fresh, result⟩ := bind_unit_eq_ok.mp scanned
    cases result
    exact ⟨parseString_eq_ok.mp string, raiseIf_eq_ok.mp fresh⟩
  · rintro ⟨derived, fresh⟩
    exact ⟨(key, rest), parseString_eq_ok.mpr derived, bind_unit_eq_ok.mpr ⟨raiseIf_eq_ok.mpr fresh, rfl⟩⟩

/-- A number of the grammar is none of the tokens that are not finite. -/
theorem nonFiniteToken_number {literal : NumberLiteral} (derived : Number literal text rest) : nonFiniteToken text = false := by
  obtain ⟨formed, exponent, _, rfl⟩ := derived
  obtain ⟨first, digits, shape, digit⟩ := formed.head
  have tokens : ascii "-Infinity" = minus :: 0x49 :: ascii "nfinity" ∧ ascii "Infinity" = 0x49 :: ascii "nfinity" ∧
      ascii "NaN" = 0x4E :: ascii "aN" := by decide
  have apart : (0x49 : CodePoint) ≠ minus ∧ (0x4E : CodePoint) ≠ minus := by decide
  have letters : 0x49 ≠ first ∧ 0x4E ≠ first ∧ minus ≠ first := by
    refine ⟨?_, ?_, ?_⟩ <;> rintro rfl <;> exact absurd digit (by decide)
  rw [nonFiniteToken, shape, tokens.1, tokens.2.1, tokens.2.2]
  cases literal.negative <;> simp [letters, apart]

/-- What the preflight admits: paired surrogate escapes, safe numbers, and names that differ from those before them. -/
def admission : Admission Text where
  lone := False
  maxDepth := maxDepth
  maxNodes := maxNodes
  number := SafeNumber
  keep := id
  fresh := fun key keys => key ∉ keys

theorem parseScalar_sound (scanned : parseScalar source pointer depth nodes text = .ok (counted, rest)) :
    visit pointer depth nodes = .ok counted ∧ ∃ tree, Scalar False tree text rest ∧ admission.Admits tree := by
  cases text with
  | nil => cases scanned
  | cons character others =>
    rw [parseScalar] at scanned
    split at scanned
    · rename_i opening
      obtain ⟨string, visited⟩ := visitAfter_eq_ok.mp scanned
      obtain ⟨⟨value, after⟩, parsed, result⟩ := map_eq_ok.mp string
      cases result
      rw [opening]
      exact ⟨visited, .str value, Scalar.str (parseString_eq_ok.mp parsed), by rw [Admission.Admits]; trivial⟩
    · split at scanned
      · rename_i after word
        obtain ⟨visited, visit, result⟩ := bind_eq_ok.mp scanned
        cases result
        obtain ⟨tree, derived, word⟩ := @scanWord_eq_some False _ _ word
        refine ⟨visit, tree, derived, ?_⟩
        rcases word with rfl | rfl | rfl <;> rw [Admission.Admits] <;> trivial
      · split at scanned
        · cases scanned
        · split at scanned
          · obtain ⟨number, visited⟩ := visitAfter_eq_ok.mp scanned
            obtain ⟨literal, derived, safe⟩ := parseNumber_sound number
            exact ⟨visited, .number literal, Scalar.number derived, by rw [Admission.Admits]; exact safe⟩
          · cases scanned

theorem parseScalar_complete {tree : JsonSyntax} (derived : Scalar False tree text rest) (admits : admission.Admits tree)
    (separated : Separated rest) (visited : visit pointer depth nodes = .ok counted) :
    parseScalar source pointer depth nodes text = .ok (counted, rest) := by
  have word : IsWord tree → parseScalar source pointer depth nodes text = .ok (counted, rest) := by
    intro word
    have found := scanWord_of_scalar derived word
    obtain ⟨first, others, rfl, _⟩ := derived.opens
    have plain : first ≠ quote := by
      rintro rfl
      cases found
    rw [parseScalar, if_neg plain]
    simp only [found, visited]
    rfl
  cases derived with
  | null => exact word (.inl rfl)
  | yes => exact word (.inr (.inl rfl))
  | no => exact word (.inr (.inr rfl))
  | number number =>
    have parsed := @parseNumber_complete source pointer _ _ _ number admits separated
    have finite := nonFiniteToken_number number
    obtain ⟨first, others, rfl, start⟩ := number.head
    rw [parseScalar, if_neg (opens_of_number start).2.2.2]
    simp only [scanWord_number start, finite, if_pos start, parsed]
    exact visitAfter_eq_ok.mpr ⟨rfl, visited⟩
  | str characters =>
    rw [parseScalar, if_pos rfl, parseString_eq_ok.mpr characters]
    exact visitAfter_eq_ok.mpr ⟨rfl, visited⟩

/-- The preflight meets its admission. -/
theorem scanner_meets (schema : DocumentSchema) (source : Text) : (scanner schema source).Meets admission where
  calls := fun _ => rfl
  visits := fun _ => visit_eq_ok
  scalar_sound := fun _ scanned => by
    obtain ⟨visited, tree, derived, admits⟩ := parseScalar_sound scanned
    obtain ⟨shallow, few, counts⟩ := visit_eq_ok.mp visited
    exact ⟨tree, derived, admits, shallow, few, counts⟩
  scalar_complete := fun derived admits separated shallow few =>
    parseScalar_complete derived admits separated (visit_eq_ok.mpr ⟨shallow, few, rfl⟩)
  name_sound := fun scanned => by
    obtain ⟨derived, fresh⟩ := parseName_eq_ok.mp scanned
    exact ⟨_, derived, rfl, fresh⟩
  name_complete := fun derived fresh => parseName_eq_ok.mpr ⟨derived, fresh⟩

end Scalars

section Failures

variable {source pointer text : Text} {depth nodes : Nat}

/-- The preflight stops with a diagnostic. -/
def IsFailure (stop : ParseStop) : Prop :=
  ∃ diagnostic, stop = .failure diagnostic

theorem isFailure_failSyntax {remaining : Text} : IsFailure (failSyntax source remaining) :=
  ⟨_, rfl⟩

theorem visit_raises : Raises IsFailure (visit pointer depth nodes) :=
  .bind (.raiseIf fun _ => ⟨_, rfl⟩) fun _ _ => .bind (.raiseIf fun _ => ⟨_, rfl⟩) fun _ _ => .ok

theorem unicodeEscape_raises : Raises IsFailure (unicodeEscape source text) := by
  unfold unicodeEscape
  split
  · split
    · exact .error isFailure_failSyntax
    · exact .ok
  · exact .error isFailure_failSyntax

theorem scanEscape_raises : Raises IsFailure (scanEscape source pointer text) := by
  cases text with
  | nil => exact .error isFailure_failSyntax
  | cons escape after =>
    rw [scanEscape]
    split
    · split
      · exact .error isFailure_failSyntax
      · exact .ok
    · refine .bind unicodeEscape_raises fun unit _ => ?_
      dsimp only
      split
      · split
        · refine .bind unicodeEscape_raises fun low _ => ?_
          split
          · exact .ok
          · exact .error ⟨_, rfl⟩
        · exact .error ⟨_, rfl⟩
      · split
        · exact .error ⟨_, rfl⟩
        · exact .ok

theorem scanString_raises {fuel : Nat} : Raises IsFailure (scanString source pointer fuel text) := by
  induction fuel generalizing text with
  | zero => exact .error isFailure_failSyntax
  | succ fuel ih =>
    cases text with
    | nil => exact .error isFailure_failSyntax
    | cons character rest =>
      rw [scanString]
      split
      · exact .ok
      · split
        · exact .error isFailure_failSyntax
        · split
          · exact ih
          · exact .bind scanEscape_raises fun _ _ => ih

/-- The host's decoder takes every scanned string. -/
theorem parseString_raises : Raises IsFailure (parseString source pointer text) := by
  refine .bind scanString_raises fun rest scanned => ?_
  obtain ⟨value, derived⟩ := scanString_sound scanned
  have parsed := @parseString_eq_ok source pointer text rest value |>.mpr derived
  rw [parseString, scanned, ok_bind_eq] at parsed
  rw [parsed]
  exact .ok

theorem parseNumber_raises : Raises IsFailure (parseNumber source pointer text) := by
  rw [parseNumber]
  split
  · exact .error isFailure_failSyntax
  · dsimp only
    split
    · split
      · exact .error ⟨_, rfl⟩
      · exact .ok
    · split
      · split
        · exact .error ⟨_, rfl⟩
        · exact .ok
      · exact .error ⟨_, rfl⟩

theorem visitAfter_raises {outcome : Except ParseStop Text} (raises : Raises IsFailure outcome) :
    Raises IsFailure (visitAfter pointer depth nodes outcome) := by
  unfold visitAfter
  split
  · exact .bind visit_raises fun _ _ => .ok
  · split
    · exact .bind visit_raises fun _ _ => .error ⟨_, rfl⟩
    · exact .error ⟨_, rfl⟩
  · rename_i error
    obtain ⟨_, absurd⟩ := raises (.raised error) rfl
    cases absurd

theorem parseScalar_raises : Raises IsFailure (parseScalar source pointer depth nodes text) := by
  cases text with
  | nil => exact .error isFailure_failSyntax
  | cons character others =>
    rw [parseScalar]
    split
    · exact visitAfter_raises (Raises.map parseString_raises)
    · split
      · exact .bind visit_raises fun _ _ => .ok
      · split
        · exact .error ⟨_, rfl⟩
        · split
          · exact visitAfter_raises parseNumber_raises
          · exact .error isFailure_failSyntax

theorem parseName_raises {keys : List Text} : Raises IsFailure (parseName source pointer keys text) :=
  .bind parseString_raises fun _ _ => .bind (.raiseIf fun _ => ⟨_, rfl⟩) fun _ _ => .ok

/-- Every error of the preflight is a diagnostic. -/
theorem scanner_raisesOnly (schema : DocumentSchema) (source : Text) : (scanner schema source).RaisesOnly IsFailure where
  call := .ok
  visit := visit_raises
  scalar := parseScalar_raises
  name := parseName_raises
  refuse := fun _ => isFailure_failSyntax

/-- The preflight accepts a text, or names the failure it stopped at. -/
theorem run_cases (schema : DocumentSchema) (source : Text) :
    run schema source = .ok () ∨ ∃ diagnostic, run schema source = .error (.raised (.failure diagnostic)) := by
  cases outcome : run schema source with
  | ok passed => exact .inl rfl
  | error stop =>
    obtain ⟨_, rfl, diagnostic, rfl⟩ :=
      JsonScanner.scanDocument_raises (scanner_meets schema source) (scanner_raisesOnly schema source) stop outcome
    exact .inr ⟨diagnostic, rfl⟩

end Failures

end JsonPreflight

end CiCoordinator.ConfigControl

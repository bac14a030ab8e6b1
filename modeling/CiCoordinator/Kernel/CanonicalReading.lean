import CiCoordinator.Kernel.CanonicalInjectivity
import CiCoordinator.Kernel.HostJson
import Mathlib.Data.List.TakeDrop

/- The proof that the strict loader reads the text of a value back. -/

namespace CiCoordinator.Kernel

open Library Json Text List

/-- The tree of the text of a float. -/
def floatTree : Float64 → JsonSyntax
  | .finite number => .number (numberLiteral number)
  | _ => .null

mutual

/-- The tree of the text of a value. -/
def Json.tree : Json → JsonSyntax
  | .null => .null
  | .bool value => .bool value
  | .int value => .number (integerLiteral value)
  | .float value => floatTree value
  | .str value => .str value
  | .arr items => .arr (treeItems items)
  | .obj members => .obj (treeMembers members)

/-- The trees of the texts of items. -/
def Json.treeItems : List Json → List JsonSyntax
  | [] => []
  | item :: rest => item.tree :: treeItems rest

/-- The trees of the texts of members. -/
def Json.treeMembers : List (Text × Json) → List (Text × JsonSyntax)
  | [] => []
  | (key, value) :: rest => (key, value.tree) :: treeMembers rest

end

theorem admissible_arr_iff {items : List Json} : admissible (.arr items) = true ↔ ∀ item ∈ items, admissible item = true := by
  rw [admissible_arr, all_eq_true]

theorem admissible_obj_iff {members : List (Text × Json)} :
    admissible (.obj members) = true ↔ ∀ member ∈ members, (member.1.scalar && admissible member.2) = true := by
  rw [admissible_obj, all_eq_true]

section Scalars

open JsonSyntax

variable {rest : Text}

theorem skipSpace_of_shape {point : CodePoint} {shape : JsonShape} (known : pointShape point = some shape) :
    skipSpace (point :: rest) = point :: rest := by
  refine dropWhile_cons_of_neg fun space => ?_
  have spaces : point = 0x20 ∨ point = 0x09 ∨ point = 0x0A ∨ point = 0x0D := by
    simpa [isSpace, or_assoc] using space
  rcases spaces with rfl | rfl | rfl | rfl <;> revert known <;> cases shape <;> decide

/-- The text of a value has no space before it. -/
theorem skipSpace_render {value : Json} (passed : admissible value = true) : skipSpace (render value ++ rest) = render value ++ rest := by
  obtain ⟨point, others, text, shape⟩ := render_head (legible_of_admissible passed)
  rw [text, cons_append]
  exact skipSpace_of_shape shape

theorem readWord_foreign {word : Text} {tree : JsonSyntax} {point first : CodePoint} {others : Text} (other : first ≠ point) :
    readWord (first :: word) tree (point :: others) = none := by
  rw [readWord, if_neg]
  simp [other]

theorem readAtom_number {literal : NumberLiteral} (formed : literal.WellFormed) (separated : Separated rest) :
    readAtom (literal.text ++ rest) = some (.number literal, rest) := by
  obtain ⟨point, others, text, first⟩ := literal.text_head formed
  have number := readNumber_text formed separated
  have letters : point ≠ 0x6E ∧ point ≠ 0x74 ∧ point ≠ 0x66 := by
    rcases first with rfl | digit
    · decide
    · refine ⟨?_, ?_, ?_⟩ <;> rintro rfl <;> exact absurd digit (by decide)
  rw [text, cons_append] at number ⊢
  have words : ascii "null" = [0x6E, 0x75, 0x6C, 0x6C] ∧ ascii "true" = [0x74, 0x72, 0x75, 0x65] ∧
      ascii "false" = [0x66, 0x61, 0x6C, 0x73, 0x65] := by decide
  rw [readAtom, words.1, words.2.1, words.2.2, readWord_foreign letters.1.symm, readWord_foreign letters.2.1.symm,
    readWord_foreign letters.2.2.symm, number]
  rfl

end Scalars

section Trees

open JsonSyntax

variable {others : Text} {character : CodePoint}

theorem separated_items {items : List Json} {rest : Text} : Separated (renderItems items false ++ (ascii "]" ++ rest)) := by
  cases items with
  | nil => exact @separated_of_head 0x5D _ (by decide)
  | cons item items =>
    rw [renderItems]
    exact @separated_of_head 0x2C _ (by decide)

theorem separated_members {members : List (Text × Json)} {rest : Text} :
    Separated (renderMembers members false ++ (ascii "\x7d" ++ rest)) := by
  cases members with
  | nil => exact @separated_of_head 0x7D _ (by decide)
  | cons member members =>
    rw [renderMembers]
    exact @separated_of_head 0x2C _ (by decide)

theorem length_flatMap_escapePoint (value : Text) : value.length ≤ (value.flatMap escapePoint).length := by
  induction value with
  | nil => rfl
  | cons point rest ih =>
    have written : 1 ≤ (escapePoint point).length := by
      unfold escapePoint
      split_ifs <;> first | decide | simp [Sha256.hexadecimal]
    rw [flatMap_cons, length_cons, length_append]
    omega

theorem readValue_atom {point : CodePoint} {fuel : Nat} {shape : JsonShape} (known : pointShape point = some shape)
    (atom : shape ≠ .str ∧ shape ≠ .arr ∧ shape ≠ .obj) :
    readValue (fuel + 1) (point :: others) = readAtom (point :: others) := by
  have apart : point ≠ quote ∧ point ≠ openBracket ∧ point ≠ openBrace := by
    refine ⟨?_, ?_, ?_⟩ <;> rintro rfl
    · exact atom.1 (Option.some.inj (known.symm.trans (by decide)))
    · exact atom.2.1 (Option.some.inj (known.symm.trans (by decide)))
    · exact atom.2.2 (Option.some.inj (known.symm.trans (by decide)))
  rw [readValue, if_neg apart.1, if_neg apart.2.1, if_neg apart.2.2]

theorem exists_fuel {value : Json} {fuel : Nat} (passed : admissible value = true) (enough : 2 * (render value).length ≤ fuel + 1) :
    ∃ less, fuel = less + 1 := by
  obtain ⟨point, others, text, _⟩ := render_head (legible_of_admissible passed)
  rw [text, length_cons] at enough
  exact ⟨fuel - 1, by omega⟩

theorem expect_self : expect character (character :: others) = some others := by
  rw [expect, if_pos rfl]

theorem expect_other {point : CodePoint} (other : point ≠ character) : expect character (point :: others) = none := by
  rw [expect, if_neg other]

theorem expect_of_shape {point : CodePoint} {shape : JsonShape} (known : pointShape point = some shape)
    (foreign : pointShape character = none) : expect character (point :: others) = none := by
  refine expect_other ?_
  rintro rfl
  rw [foreign] at known
  cases known

theorem renderMembers_head (key : Text) (value : Json) (members : List (Text × Json)) (rest : Text) :
    ∃ others, renderMembers ((key, value) :: members) true ++ rest = quote :: others := by
  have opening : ascii "\"" = [quote] := by decide
  rw [renderMembers, if_pos rfl, nil_append, jsonString, opening]
  exact ⟨_, rfl⟩

mutual

/-- The text of a value is read as its tree. -/
theorem readValue_render : (value : Json) → {rest : Text} → {fuel : Nat} → admissible value = true → Separated rest →
    2 * (render value).length ≤ fuel + 1 → readValue fuel (render value ++ rest) = some (value.tree, rest)
  | .null, rest, fuel, passed, _, enough => by
    obtain ⟨fuel, rfl⟩ := exists_fuel passed enough
    have word : ascii "null" = [0x6E, 0x75, 0x6C, 0x6C] := by decide
    rw [render, word, cons_append, readValue_atom (by decide : pointShape 0x6E = some .null) (by decide), readAtom, readWord, word]
    simp [Json.tree]
  | .bool value, rest, fuel, passed, _, enough => by
    obtain ⟨fuel, rfl⟩ := exists_fuel passed enough
    have words : ascii "null" = [0x6E, 0x75, 0x6C, 0x6C] ∧ ascii "true" = [0x74, 0x72, 0x75, 0x65] ∧
        ascii "false" = [0x66, 0x61, 0x6C, 0x73, 0x65] := by decide
    cases value with
    | true =>
      rw [render, if_pos rfl, words.2.1, cons_append, readValue_atom (by decide : pointShape 0x74 = some .bool)
        (by decide), readAtom, readWord, readWord, words.1, words.2.1]
      simp [Json.tree]
    | false =>
      rw [render, if_neg Bool.false_ne_true, words.2.2, cons_append,
        readValue_atom (by decide : pointShape 0x66 = some .bool) (by decide), readAtom, readWord, readWord, readWord, words.1, words.2.1,
        words.2.2]
      simp [Json.tree]
  | .int value, rest, fuel, passed, separated, enough => by
    obtain ⟨fuel, rfl⟩ := exists_fuel passed enough
    have atom := @readAtom_number rest (integerLiteral value) (integerLiteral_wellFormed value) separated
    obtain ⟨point, others, text, shape⟩ := render_head (legible_of_admissible passed)
    rw [integerLiteral_text, ← render, text, cons_append] at atom
    rw [text, cons_append, readValue_atom shape (by rw [Json.shape]; decide), atom, Json.tree]
  | .float value, rest, fuel, passed, separated, enough => by
    obtain ⟨fuel, rfl⟩ := exists_fuel passed enough
    obtain ⟨point, others, text, shape⟩ := render_head (legible_of_admissible passed)
    rw [admissible_float] at passed
    cases value with
    | nan => cases passed
    | infinity negative => cases passed
    | finite number =>
      have atom := @readAtom_number rest (numberLiteral number) (numberLiteral_wellFormed number) separated
      rw [← renderFloat_literal, ← render, text, cons_append] at atom
      rw [text, cons_append, readValue_atom shape (by rw [Json.shape]; decide), atom, Json.tree, floatTree]
  | .str value, rest, fuel, passed, _, enough => by
    obtain ⟨fuel, rfl⟩ := exists_fuel passed enough
    have opening : ascii "\"" = [quote] := by decide
    have length : value.length ≤ (value.flatMap escapePoint).length := length_flatMap_escapePoint value
    rw [render, jsonString, opening, singleton_append, cons_append, cons_append, readValue, if_pos rfl, ← opening,
      readString_jsonString (by simp only [length_append]; omega), Json.tree]
    rfl
  | .arr items, rest, fuel, passed, _, enough => by
    obtain ⟨fuel, rfl⟩ := exists_fuel passed enough
    have inside := @readItems_render items
    have brackets : ascii "[" = [openBracket] ∧ ascii "]" = [closeBracket] := by decide
    rw [render, brackets.1, append_assoc, append_assoc, singleton_append, readValue, if_neg (by decide), if_pos rfl]
    cases items with
    | nil =>
      rw [renderItems, nil_append, brackets.2, Json.tree, treeItems]
      rfl
    | cons item items =>
      have admitted := forall_mem_cons.mp (admissible_arr_iff.mp passed)
      obtain ⟨point, others, text, shape⟩ := render_head (legible_of_admissible admitted.1)
      have start : renderItems (item :: items) true ++ (ascii "]" ++ rest) =
          point :: (others ++ renderItems items false ++ (ascii "]" ++ rest)) := by
        rw [renderItems, if_pos rfl, nil_append, text]
        rfl
      have read := @inside rest fuel (cons_ne_nil _ _) (admissible_arr_iff.mp passed) (by
        rw [render, length_append, length_append, brackets.1, brackets.2] at enough
        simp only [length_singleton] at enough
        omega)
      rw [start] at read ⊢
      rw [skipSpace_of_shape shape, expect_of_shape shape (by decide), read, Json.tree]
      rfl
  | .obj members, rest, fuel, passed, _, enough => by
    obtain ⟨fuel, rfl⟩ := exists_fuel passed enough
    have inside := @readMembers_render members
    have braces : ascii "\x7b" = [openBrace] ∧ ascii "\x7d" = [JsonSyntax.closeBrace] := by decide
    rw [render, braces.1, append_assoc, append_assoc, singleton_append, readValue,
      if_neg (by decide), if_neg (by decide), if_pos rfl]
    cases members with
    | nil =>
      rw [renderMembers, nil_append, braces.2, Json.tree, treeMembers]
      rfl
    | cons member members =>
      obtain ⟨key, value⟩ := member
      obtain ⟨others, start⟩ := renderMembers_head key value members (ascii "\x7d" ++ rest)
      have read := @inside rest fuel (cons_ne_nil _ _) (admissible_obj_iff.mp passed) (by
        rw [render, length_append, length_append, braces.1, braces.2] at enough
        simp only [length_singleton] at enough
        omega)
      rw [start] at read ⊢
      have plain : skipSpace (quote :: others) = quote :: others := skipSpace_of_shape (by decide : _ = some JsonShape.str)
      have more : expect JsonSyntax.closeBrace (quote :: others) = none := expect_other (by decide)
      rw [plain, more, read, Json.tree]
      rfl

theorem readItems_render : (items : List Json) → {rest : Text} → {fuel : Nat} → items ≠ [] →
    (∀ item ∈ items, admissible item = true) → 2 * (renderItems items true).length + 2 ≤ fuel →
    readItems fuel (renderItems items true ++ (ascii "]" ++ rest)) = some (treeItems items, rest)
  | [], _, _, empty, _, _ => absurd rfl empty
  | item :: items, rest, fuel, _, admitted, enough => by
    obtain ⟨passed, admitted⟩ := forall_mem_cons.mp admitted
    have later := @readItems_render items
    obtain ⟨fuel, rfl⟩ : ∃ less, fuel = less + 1 := ⟨fuel - 1, by omega⟩
    have first : renderItems (item :: items) true = render item ++ renderItems items false := by
      rw [renderItems, if_pos rfl, nil_append]
    rw [first, length_append] at enough
    have closing : ascii "]" = [closeBracket] := by decide
    rw [first, append_assoc, readItems, readValue_render item passed separated_items (by omega), treeItems]
    cases items with
    | nil =>
      rw [renderItems, nil_append, closing, treeItems]
      rfl
    | cons next others =>
      have comma : ascii "," = [JsonSyntax.comma] := by decide
      have following : renderItems (next :: others) false = JsonSyntax.comma :: renderItems (next :: others) true := by
        rw [renderItems, renderItems, comma]
        rfl
      rw [following, length_cons] at enough
      obtain ⟨point, remaining, text, shape⟩ := render_head (legible_of_admissible (admitted next mem_cons_self))
      have start : renderItems (next :: others) true ++ (ascii "]" ++ rest) =
          point :: (remaining ++ renderItems others false ++ (ascii "]" ++ rest)) := by
        rw [renderItems, if_pos rfl, nil_append, text]
        rfl
      have read := @later rest fuel (cons_ne_nil _ _) admitted (by omega)
      rw [following, cons_append]
      have plain : skipSpace (JsonSyntax.comma :: (renderItems (next :: others) true ++ (ascii "]" ++ rest))) =
          JsonSyntax.comma :: (renderItems (next :: others) true ++ (ascii "]" ++ rest)) := rfl
      rw [start] at read plain ⊢
      have more : ∀ text, expect closeBracket (JsonSyntax.comma :: text) = none := fun _ => expect_other (by decide)
      have onward : ∀ text, expect JsonSyntax.comma (JsonSyntax.comma :: text) = some text := fun _ => expect_self
      simp only [bind, Option.bind, plain, more, onward, skipSpace_of_shape shape, read]
      rfl

theorem readMembers_render : (members : List (Text × Json)) → {rest : Text} → {fuel : Nat} → members ≠ [] →
    (∀ member ∈ members, (member.1.scalar && admissible member.2) = true) → 2 * (renderMembers members true).length + 2 ≤ fuel →
    readMembers fuel (renderMembers members true ++ (ascii "\x7d" ++ rest)) = some (treeMembers members, rest)
  | [], _, _, empty, _, _ => absurd rfl empty
  | (key, value) :: members, rest, fuel, _, admitted, enough => by
    obtain ⟨passed, admitted⟩ := forall_mem_cons.mp admitted
    rw [Bool.and_eq_true] at passed
    have later := @readMembers_render members
    obtain ⟨fuel, rfl⟩ : ∃ less, fuel = less + 1 := ⟨fuel - 1, by omega⟩
    have marks : ascii "\"" = [quote] ∧ ascii ":" = [colon] ∧ ascii "\x7d" = [JsonSyntax.closeBrace] ∧ ascii "," = [JsonSyntax.comma] := by
      decide
    have first : renderMembers ((key, value) :: members) true ++ (ascii "\x7d" ++ rest) =
        quote :: (key.flatMap escapePoint ++ ascii "\"" ++
          (colon :: (render value ++ (renderMembers members false ++ (ascii "\x7d" ++ rest))))) := by
      rw [renderMembers, if_pos rfl, nil_append, jsonString, marks.2.1, marks.1]
      simp only [append_assoc, cons_append, nil_append]
    have length : (renderMembers ((key, value) :: members) true).length =
        (jsonString key).length + 1 + (render value).length + (renderMembers members false).length := by
      rw [renderMembers, if_pos rfl, nil_append, marks.2.1, length_append, length_append, length_append]
      rfl
    rw [length] at enough
    have name : ∀ others, readString ((key.flatMap escapePoint ++ ascii "\"" ++ others).length + 1)
        (key.flatMap escapePoint ++ ascii "\"" ++ others) = some (key, others) := by
      intro others
      have short := length_flatMap_escapePoint key
      exact readString_jsonString (by simp only [length_append]; omega)
    have separator : ∀ text, skipSpace (colon :: text) = colon :: text := fun _ => rfl
    have named : ∀ text, expect colon (colon :: text) = some text := fun _ => expect_self
    have opened : ∀ text, expect quote (quote :: text) = some text := fun _ => expect_self
    have read := @readValue_render value _ fuel passed.2 (@separated_members members rest) (by omega)
    rw [first, readMembers]
    simp only [bind, Option.bind, opened, name, separator, named, skipSpace_render passed.2, read, treeMembers]
    cases members with
    | nil =>
      rw [renderMembers, nil_append, marks.2.2.1, treeMembers]
      rfl
    | cons member others =>
      obtain ⟨next, other⟩ := member
      have following : renderMembers ((next, other) :: others) false =
          JsonSyntax.comma :: renderMembers ((next, other) :: others) true := by
        rw [renderMembers, renderMembers, marks.2.2.2]
        rfl
      rw [following, length_cons] at enough
      obtain ⟨remaining, start⟩ := renderMembers_head next other others (ascii "\x7d" ++ rest)
      have read := @later rest fuel (cons_ne_nil _ _) admitted (by omega)
      rw [following, cons_append]
      have spaced : ∀ text, skipSpace (JsonSyntax.comma :: text) = JsonSyntax.comma :: text := fun _ => rfl
      have more : ∀ text, expect JsonSyntax.closeBrace (JsonSyntax.comma :: text) = none := fun _ => expect_other (by decide)
      have onward : ∀ text, expect JsonSyntax.comma (JsonSyntax.comma :: text) = some text := fun _ => expect_self
      have plain : skipSpace (quote :: remaining) = quote :: remaining :=
        skipSpace_of_shape (by decide : _ = some JsonShape.str)
      rw [start] at read ⊢
      simp only [spaced, more, onward, plain, read]
      rfl

end

/-- The text of a value is a document. -/
theorem read_render {value : Json} (passed : admissible value = true) : JsonSyntax.read (render value) = some value.tree := by
  have plain := @skipSpace_render [] value passed
  have ends : Separated [] := fun point head => nomatch head
  have read := @readValue_render value [] (2 * (render value).length + 1) passed ends (by omega)
  rw [append_nil] at plain read
  rw [JsonSyntax.read, plain, read]
  rfl

end Trees

section Loading

theorem scalar_escapePoint {point : CodePoint} (scalar : point.isSurrogate = false) : Text.scalar (escapePoint point) = true := by
  unfold escapePoint
  split_ifs with _ _ _ _ _ _ _ control
  · decide
  · decide
  · decide
  · decide
  · decide
  · decide
  · decide
  · have lower := (@hexadecimal_spec 4 point.val [] rfl).2
    rw [scalar_append]
    refine ⟨scalar_ascii _, all_eq_true.mpr fun digit member => ?_⟩
    have hex := all_eq_true.mp lower digit member
    simp only [CodePoint.isLowerHex, Bool.or_eq_true, Bool.and_eq_true, decide_eq_true_eq] at hex
    simp only [CodePoint.isSurrogate, Bool.not_eq_true', Bool.and_eq_false_iff, decide_eq_false_iff_not]
    exact .inl (by omega)
  · simp [Text.scalar, scalar]

theorem scalar_jsonString {value : Text} (scalar : value.scalar = true) : (jsonString value).scalar = true := by
  rw [jsonString, scalar_append, scalar_append]
  refine ⟨⟨scalar_ascii _, all_eq_true.mpr fun point member => ?_⟩, scalar_ascii _⟩
  obtain ⟨origin, inside, written⟩ := mem_flatMap.mp member
  have plain : origin.isSurrogate = false := by simpa using all_eq_true.mp scalar origin inside
  exact all_eq_true.mp (scalar_escapePoint plain) point written

theorem scalar_separator (first : Bool) : Text.scalar (if first then [] else ascii ",") = true := by
  cases first <;> decide

mutual

/-- The text of a value that the writer does not refuse is scalar. -/
theorem scalar_render : (value : Json) → admissible value = true → (render value).scalar = true
  | .null, _ => by rw [render]; decide
  | .bool true, _ => by rw [render]; decide
  | .bool false, _ => by rw [render]; decide
  | .int value, _ => by rw [render]; exact scalar_decimalInt value
  | .float .nan, passed => by rw [admissible_float] at passed; cases passed
  | .float (.infinity _), passed => by rw [admissible_float] at passed; cases passed
  | .float (.finite number), passed => by
    rw [admissible_float] at passed
    rw [render, renderFloat_literal]
    exact (numberLiteral number).scalar_text (numberLiteral_wellFormed number)
  | .str value, passed => by
    rw [admissible_str] at passed
    rw [render]
    exact scalar_jsonString passed
  | .arr items, passed => by
    rw [render, scalar_append, scalar_append]
    exact ⟨⟨scalar_ascii _, scalar_renderItems items true (admissible_arr_iff.mp passed)⟩, scalar_ascii _⟩
  | .obj members, passed => by
    rw [render, scalar_append, scalar_append]
    exact ⟨⟨scalar_ascii _, scalar_renderMembers members true (admissible_obj_iff.mp passed)⟩, scalar_ascii _⟩

theorem scalar_renderItems : (items : List Json) → (first : Bool) → (∀ item ∈ items, admissible item = true) →
    (renderItems items first).scalar = true
  | [], _, _ => by rw [renderItems]; rfl
  | item :: rest, first, passed => by
    rw [forall_mem_cons] at passed
    rw [renderItems, scalar_append, scalar_append]
    exact ⟨⟨scalar_separator first, scalar_render item passed.1⟩, scalar_renderItems rest false passed.2⟩

theorem scalar_renderMembers : (members : List (Text × Json)) → (first : Bool) →
    (∀ member ∈ members, (member.1.scalar && admissible member.2) = true) → (renderMembers members first).scalar = true
  | [], _, _ => by rw [renderMembers]; rfl
  | (key, value) :: rest, first, passed => by
    rw [forall_mem_cons] at passed
    rw [Bool.and_eq_true] at passed
    rw [renderMembers, scalar_append, scalar_append, scalar_append, scalar_append]
    exact ⟨⟨⟨⟨scalar_separator first, scalar_jsonString passed.1.1⟩, scalar_ascii _⟩,
      scalar_render value passed.1.2⟩, scalar_renderMembers rest false passed.2⟩

end

mutual

/-- The value that is read from the text of a value: floats that are integers become integers. -/
def Json.loaded : Json → Json
  | .float value => loadedFloat value
  | .arr items => .arr (loadedItems items)
  | .obj members => .obj (loadedMembers members)
  | .null => .null
  | .bool value => .bool value
  | .int value => .int value
  | .str value => .str value

/-- The items that are read from the text of items. -/
def Json.loadedItems : List Json → List Json
  | [] => []
  | item :: rest => item.loaded :: loadedItems rest

/-- The members that are read from the text of members. -/
def Json.loadedMembers : List (Text × Json) → List (Text × Json)
  | [] => []
  | (key, value) :: rest => (key, value.loaded) :: loadedMembers rest

end

theorem Json.loadedItems_eq (items : List Json) : loadedItems items = items.map Json.loaded := by
  induction items with
  | nil => rw [loadedItems, map_nil]
  | cons item rest ih => rw [loadedItems, ih, map_cons]

variable (members : List (Text × Json))

theorem Json.loadedMembers_eq : loadedMembers members = members.map fun member => (member.1, member.2.loaded) := by
  induction members with
  | nil => rw [loadedMembers, map_nil]
  | cons member rest ih => rw [loadedMembers, ih, map_cons]

theorem Json.loadedMembers_keys : (loadedMembers members).map Prod.fst = members.map Prod.fst := by
  rw [loadedMembers_eq, map_map]
  rfl

/-- A value without floats is read back as it is. -/
theorem Json.Exact.loaded (value : Json) (exact : value.Exact) : value.loaded = value := by
  induction value with
  | float value => exact absurd exact (exact_float value)
  | arr items ih =>
    rw [exact_arr] at exact
    rw [Json.loaded, loadedItems_eq]
    exact congrArg Json.arr ((map_congr_left fun item member => ih item member (exact item member)).trans (map_id' _))
  | obj members ih =>
    rw [exact_obj] at exact
    have same : ∀ member ∈ members, (member.1, member.2.loaded) = member := fun member listed =>
      Prod.ext rfl (ih member listed (exact member listed))
    rw [Json.loaded, loadedMembers_eq]
    exact congrArg Json.obj ((map_congr_left same).trans (map_id' _))
  | _ => rw [Json.loaded]

mutual

/-- The tree of a value is loaded as the value, up to the kinds of its numbers. -/
theorem loadTree_tree : (value : Json) → admissible value = true → value.distinct → loadTree value.tree = some value.loaded
  | .null, _, _ => by rw [Json.tree, loadTree, Json.loaded]
  | .bool value, _, _ => by rw [Json.tree, loadTree, Json.loaded]
  | .int value, passed, _ => by
    rw [admissible_int, decide_eq_true_eq] at passed
    rw [Json.tree, loadTree, loadNumber_integerLiteral passed, Json.loaded]
  | .float .nan, passed, _ => by rw [admissible_float] at passed; cases passed
  | .float (.infinity _), passed, _ => by rw [admissible_float] at passed; cases passed
  | .float (.finite number), passed, _ => by
    rw [admissible_float] at passed
    rw [Json.tree, floatTree, loadTree, loadNumber_numberLiteral passed, Json.loaded]
  | .str value, passed, _ => by
    rw [admissible_str] at passed
    rw [Json.tree, loadTree, if_pos passed, Json.loaded]
  | .arr items, passed, distinct => by
    rw [Json.distinct] at distinct
    rw [Json.tree, loadTree, loadItems_tree items (admissible_arr_iff.mp passed) distinct, Json.loaded]
    rfl
  | .obj members, passed, distinct => by
    rw [Json.distinct] at distinct
    rw [Json.tree, loadTree, loadMembers_tree members (admissible_obj_iff.mp passed) distinct.1 distinct.2, Json.loaded]
    rfl

theorem loadItems_tree : (items : List Json) → (∀ item ∈ items, admissible item = true) → Json.distinctItems items →
    loadItems (treeItems items) = some (loadedItems items)
  | [], _, _ => by rw [treeItems, loadItems, loadedItems]
  | item :: rest, passed, distinct => by
    rw [forall_mem_cons] at passed
    rw [Json.distinctItems] at distinct
    rw [treeItems, loadItems, loadTree_tree item passed.1 distinct.1, loadItems_tree rest passed.2 distinct.2, loadedItems]

theorem loadMembers_tree : (members : List (Text × Json)) →
    (∀ member ∈ members, (member.1.scalar && admissible member.2) = true) → (members.map Prod.fst).Nodup →
    distinctMembers members → loadMembers (treeMembers members) = some (loadedMembers members)
  | [], _, _, _ => by rw [treeMembers, loadMembers, loadedMembers]
  | (key, value) :: rest, passed, names, distinct => by
    rw [forall_mem_cons] at passed
    rw [distinctMembers] at distinct
    rw [map_cons, nodup_cons] at names
    rw [Bool.and_eq_true] at passed
    rw [treeMembers, loadMembers, loadTree_tree value passed.1.2 distinct.1,
      loadMembers_tree rest passed.2 names.2 distinct.2, loadedMembers]
    refine if_pos ⟨passed.1.1, ?_⟩
    rw [loadedMembers_keys]
    exact names.1

end

/-- The strict loader reads the text of a value. -/
theorem loadStrictJson_loaded [Interpreter] {value : Json} {maxBytes : Nat} (passed : admissible value = true)
    (distinct : value.distinct) (fits : (render value).utf8.length ≤ maxBytes)
    (shallow : nesting value.tree ≤ Interpreter.jsonRecursionLimit) :
    loadStrictJson (render value).utf8 maxBytes = .ok value.loaded := by
  rw [loadStrictJson, raiseIf, if_neg (not_lt.mpr fits), ok_bind_eq, decodeUtf8_utf8 (scalar_render value passed),
    Option.bind_some, read_render passed]
  dsimp only
  rw [if_neg (not_lt.mpr shallow), loadTree_tree value passed distinct]

/-- The strict loader reads the canonical text of a value without floats back. -/
theorem loadStrictJson_render [Interpreter] {value : Json} {maxBytes : Nat} (exact : value.Exact)
    (passed : admissible value = true) (distinct : value.distinct) (fits : (render value).utf8.length ≤ maxBytes)
    (shallow : nesting value.tree ≤ Interpreter.jsonRecursionLimit) :
    loadStrictJson (render value).utf8 maxBytes = .ok value := by
  rw [loadStrictJson_loaded passed distinct fits shallow, exact.loaded]

end Loading

end CiCoordinator.Kernel

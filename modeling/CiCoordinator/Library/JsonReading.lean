import CiCoordinator.Library.JsonGrammar

/- The proof that the reader accepts the documents of the grammar, each as its tree. -/

namespace CiCoordinator.Library

namespace JsonGrammar

open JsonSyntax List Option

section Numbers

variable {rest : Text}
variable {exponent : Option (Bool × Text)}

theorem readRun_eq_some {text digits : Text} (read : readRun text = some (digits, rest)) :
    DigitRun digits ∧ text = digits ++ rest := by
  rw [readRun, span_eq_takeWhile_dropWhile] at read
  split at read
  · cases read
  · rename_i found after filled shape
    cases read
    obtain ⟨rfl, rfl⟩ := Prod.mk.inj shape
    refine ⟨⟨filled, fun point member => ?_⟩, takeWhile_append_dropWhile.symm⟩
    exact all_eq_true.mp all_takeWhile point member

theorem readWhole_eq_some {text whole : Text} (read : readWhole text = some (whole, rest)) :
    (whole = [0x30] ∨ (DigitRun whole ∧ whole.head? ≠ some 0x30)) ∧ text = whole ++ rest := by
  cases text with
  | nil => cases read
  | cons character others =>
    rw [readWhole] at read
    split at read
    · rename_i zero
      cases read
      exact ⟨.inl rfl, by rw [zero]; rfl⟩
    · rename_i nonzero
      obtain ⟨run, shape⟩ := readRun_eq_some read
      refine ⟨.inr ⟨run, fun leading => ?_⟩, shape⟩
      obtain ⟨point, digits, parts⟩ := exists_cons_of_ne_nil run.filled
      rw [parts] at shape leading
      exact nonzero ((List.cons.inj shape).1.trans (some.inj leading))

theorem readFraction_eq_some {text : Text} {fraction : Option Text} (read : readFraction text = some (fraction, rest)) :
    (∀ digits, fraction = some digits → DigitRun digits) ∧ text = NumberLiteral.fractionText fraction ++ rest := by
  have dot : ascii "." = [JsonSyntax.point] := by decide
  have noFraction : ∀ digits : Text, none = some digits → DigitRun digits := by
    rintro _ ⟨⟩
  cases text with
  | nil =>
    cases read
    exact ⟨noFraction, rfl⟩
  | cons character others =>
    rw [readFraction] at read
    split at read
    · rename_i pointed
      obtain ⟨⟨digits, after⟩, run, result⟩ := bind_eq_some_iff.mp read
      cases result
      obtain ⟨formed, shape⟩ := readRun_eq_some run
      refine ⟨fun _ found => some.inj found ▸ formed, ?_⟩
      rw [NumberLiteral.fractionText, dot, pointed, shape]
      rfl
    · cases read
      exact ⟨noFraction, rfl⟩

theorem readExponent_eq_some {text : Text} (read : readExponent text = some (exponent, rest)) :
    ∃ spelled, Exponent exponent spelled ∧ text = spelled ++ rest := by
  cases text with
  | nil =>
    cases read
    exact ⟨[], Exponent.absent, rfl⟩
  | cons letter others =>
    rw [readExponent.eq_def] at read
    dsimp only at read
    split at read
    · rename_i known
      obtain ⟨⟨digits, after⟩, run, result⟩ := bind_eq_some_iff.mp read
      cases result
      cases others with
      | nil => cases run
      | cons sign unsigned =>
        dsimp only at run ⊢
        by_cases below : sign = minus
        · simp only [if_pos below] at run ⊢
          obtain ⟨formed, shape⟩ := readRun_eq_some run
          rw [below, shape]
          exact ⟨_, Exponent.signed true known formed, rfl⟩
        · simp only [if_neg below] at run ⊢
          by_cases above : sign = plus
          · simp only [if_pos above] at run ⊢
            obtain ⟨formed, shape⟩ := readRun_eq_some run
            rw [above, shape]
            exact ⟨_, Exponent.signed false known formed, rfl⟩
          · simp only [if_neg above] at run ⊢
            obtain ⟨formed, shape⟩ := readRun_eq_some run
            rw [shape]
            exact ⟨_, Exponent.unsigned known formed, rfl⟩
    · cases read
      exact ⟨[], Exponent.absent, rfl⟩

/-- A number that is read is derived. -/
theorem readNumber_eq_some {text : Text} {literal : NumberLiteral} (read : readNumber text = some (literal, rest)) :
    Number literal text rest := by
  rw [readNumber.eq_def] at read
  split at read
  rename_i negative unsigned sign
  obtain ⟨⟨whole, afterWhole⟩, wholeRead, read⟩ := bind_eq_some_iff.mp read
  obtain ⟨⟨fraction, afterFraction⟩, fractionRead, read⟩ := bind_eq_some_iff.mp read
  obtain ⟨⟨exponent, after⟩, exponentRead, result⟩ := bind_eq_some_iff.mp read
  cases result
  obtain ⟨wholeFormed, rfl⟩ := readWhole_eq_some wholeRead
  obtain ⟨fractionFormed, rfl⟩ := readFraction_eq_some fractionRead
  obtain ⟨spelled, derived, rfl⟩ := readExponent_eq_some exponentRead
  have exponentFormed : ∀ negative digits, exponent = some (negative, digits) → DigitRun digits := by
    intro negative digits known
    cases derived <;> cases known <;> assumption
  refine ⟨⟨wholeFormed, fractionFormed, exponentFormed⟩, spelled, derived, ?_⟩
  cases text with
  | nil =>
    obtain ⟨rfl, shape⟩ := Prod.mk.inj sign
    exact shape
  | cons first others =>
    dsimp only at sign
    split at sign
    · rename_i below
      obtain ⟨rfl, shape⟩ := Prod.mk.inj sign
      rw [below, shape]
      rfl
    · obtain ⟨rfl, shape⟩ := Prod.mk.inj sign
      exact shape

theorem readExponent_spelled {spelled : Text} (derived : Exponent exponent spelled) (separated : Separated rest) :
    readExponent (spelled ++ rest) = some (exponent, rest) := by
  have breaks : ∀ point ∈ rest.head?, point.isDigit = false := fun point head => (separated point head).1
  cases derived with
  | absent => exact @readExponent_append rest none (by rintro _ _ ⟨⟩) separated
  | @signed letter digits negative known formed =>
    have read := readRun_append formed breaks
    have apart : plus ≠ minus := by decide
    cases negative with
    | true => simp only [if_true, cons_append, readExponent, known, read, bind, Option.bind, pure]
    | false =>
      simp only [Bool.false_eq_true, if_false, cons_append, readExponent, known, if_true, if_neg apart, read, bind,
        Option.bind, pure]
  | @unsigned letter digits known formed =>
    have read := readRun_append formed breaks
    obtain ⟨point, others, shape⟩ := exists_cons_of_ne_nil formed.filled
    have digit := formed.all point (shape ▸ mem_cons_self)
    have signs : point ≠ minus ∧ point ≠ plus := by
      constructor <;> rintro rfl <;> exact absurd digit (by decide)
    rw [shape, cons_append] at read ⊢
    simp only [cons_append, readExponent, known, if_true, if_neg signs.1, if_neg signs.2, read, bind, Option.bind, pure]

/-- What follows a spelled exponent does not continue the digits before it. -/
theorem head_spelled {spelled : Text} (derived : Exponent exponent spelled) (separated : Separated rest) :
    ∀ point ∈ (spelled ++ rest).head?, point.isDigit = false ∧ point ≠ JsonSyntax.point := by
  have letters : ∀ {letter : CodePoint}, letter = 0x65 ∨ letter = 0x45 → letter.isDigit = false ∧ letter ≠ JsonSyntax.point := by
    rintro _ (rfl | rfl) <;> decide
  cases derived with
  | absent => exact fun point head => ⟨(separated point head).1, (separated point head).2.1⟩
  | signed _ known _ =>
    rintro _ ⟨⟩
    exact letters known
  | unsigned known _ =>
    rintro _ ⟨⟩
    exact letters known

/-- A derived number is read. -/
theorem Number.readNumber {literal : NumberLiteral} {text : Text} (derived : Number literal text rest)
    (separated : Separated rest) : readNumber text = some (literal, rest) := by
  obtain ⟨formed, spelled, exponent, rfl⟩ := derived
  have exponentRead := readExponent_spelled exponent separated
  have after := head_spelled exponent separated
  have fractionRead := readFraction_append formed.fraction after
  have wholeRead := readWhole_append formed.whole (@head_fraction literal.fraction _ fun point head => (after point head).1)
  cases sign : literal.negative with
  | true =>
    simp only [if_true, singleton_append, JsonSyntax.readNumber, wholeRead, fractionRead, exponentRead, bind,
      Option.bind, pure, ← sign]
  | false =>
    obtain ⟨point, digits, shape, digit⟩ := formed.head
    have unsigned : point ≠ minus := by
      rintro rfl
      exact absurd digit (by decide)
    rw [if_neg Bool.false_ne_true, nil_append]
    rw [shape, cons_append] at wholeRead ⊢
    simp only [JsonSyntax.readNumber, if_neg unsigned, wholeRead, fractionRead, exponentRead, bind, Option.bind, pure,
      ← shape, ← sign]

end Numbers

section Strings

variable {character : CodePoint} {text rest : Text}

theorem lowEscape_eq_some {low : Nat} (found : lowEscape text = some (low, rest)) :
    ∃ e f g h, text = backslash :: 0x75 :: e :: f :: g :: h :: rest ∧ hexUnit e f g h = some low ∧ 0xDC00 ≤ low ∧ low ≤ 0xDFFF := by
  unfold lowEscape at found
  split at found
  · rename_i slash letter e f g h others
    obtain ⟨⟨rfl, rfl⟩, decoded⟩ := ite_none_right_eq_some.mp found
    split at decoded
    · rename_i unit known
      obtain ⟨range, result⟩ := ite_none_right_eq_some.mp decoded
      cases result
      exact ⟨e, f, g, h, rfl, known, range⟩
    · cases decoded
  · cases found

theorem lowEscape_pair {e f g h : CodePoint} {low : Nat} (known : hexUnit e f g h = some low)
    (range : 0xDC00 ≤ low ∧ low ≤ 0xDFFF) : lowEscape (backslash :: 0x75 :: e :: f :: g :: h :: rest) = some (low, rest) := by
  simp only [lowEscape, known, and_self, if_true, if_pos range]

/-- A derived character is one the reader takes as it is, or an escape that it decodes. -/
theorem Character.readEscape {lone : Prop} (derived : Character lone character text rest) :
    (text = character :: rest ∧ 0x20 ≤ character.val ∧ character ≠ quote ∧ character ≠ backslash) ∨
      ∃ escape, text = backslash :: escape ∧ readEscape escape = some (character, rest) := by
  have letter : shortEscape 0x75 = none := by decide
  cases derived with
  | plain above inside other => exact .inl ⟨rfl, above, inside, other⟩
  | short known => exact .inr ⟨_, rfl, by simp only [JsonSyntax.readEscape, known]⟩
  | unit known range =>
    refine .inr ⟨_, rfl, ?_⟩
    simp only [JsonSyntax.readEscape, letter, if_true, readUnit, known]
    exact if_neg (by omega)
  | pair known high second low =>
    refine .inr ⟨_, rfl, ?_⟩
    simp only [JsonSyntax.readEscape, letter, if_true, readUnit, known, if_pos high, lowEscape_pair second low]
  | @half a b c d unit rest _ known range absent =>
    refine .inr ⟨_, rfl, ?_⟩
    simp only [JsonSyntax.readEscape, letter, if_true, readUnit, known]
    by_cases high : 0xD800 ≤ unit ∧ unit ≤ 0xDBFF
    · simp only [if_pos high, absent high.2]
    · rw [if_neg high]

/-- A derived string is read. -/
theorem Characters.readString {lone : Prop} {value : Text} (derived : Characters lone value text rest) {fuel : Nat}
    (enough : text.length ≤ fuel) : readString fuel text = some (value, rest) := by
  induction derived generalizing fuel with
  | done =>
    obtain ⟨less, rfl⟩ : ∃ less, fuel = less + 1 := ⟨fuel - 1, by rw [length_cons] at enough; omega⟩
    rw [JsonSyntax.readString, if_pos rfl]
  | @more character value text between rest first _ ih =>
    have shorter := first.length_lt
    obtain ⟨less, rfl⟩ : ∃ less, fuel = less + 1 := ⟨fuel - 1, by omega⟩
    have later := @ih less (by omega)
    rcases first.readEscape with ⟨rfl, above, inside, other⟩ | ⟨escape, rfl, decoded⟩
    · rw [JsonSyntax.readString, if_neg inside, if_neg (not_lt.mpr above)]
      simp only [if_neg other, later, bind, Option.bind, pure]
    · have marks : backslash ≠ quote ∧ ¬ backslash.val < 0x20 := by decide
      rw [JsonSyntax.readString, if_neg marks.1, if_neg marks.2]
      simp only [if_true, decoded, later, bind, Option.bind, pure]

end Strings

section Scalars

variable {lone : Prop} {tree : JsonSyntax} {text rest : Text}

theorem readWord_append {word : Text} {named : JsonSyntax} : readWord word named (word ++ rest) = some (named, rest) := by
  rw [readWord, if_pos (List.isPrefixOf_iff_prefix.mpr (prefix_append word rest)), drop_left]

theorem readWord_foreign {word : Text} {named : JsonSyntax} {point first : CodePoint} {others : Text} (other : first ≠ point) :
    readWord (first :: word) named (point :: others) = none := by
  rw [readWord, if_neg]
  simp [other]

theorem readAtom_number {literal : NumberLiteral} (derived : Number literal text rest) (separated : Separated rest) :
    readAtom text = some (.number literal, rest) := by
  have number := derived.readNumber separated
  obtain ⟨point, others, rfl, first⟩ := derived.head
  have letters : 0x6E ≠ point ∧ 0x74 ≠ point ∧ 0x66 ≠ point := by
    rcases first with rfl | digit
    · decide
    · refine ⟨?_, ?_, ?_⟩ <;> rintro rfl <;> exact absurd digit (by decide)
  have words : ascii "null" = [0x6E, 0x75, 0x6C, 0x6C] ∧ ascii "true" = [0x74, 0x72, 0x75, 0x65] ∧
      ascii "false" = [0x66, 0x61, 0x6C, 0x73, 0x65] := by decide
  rw [readAtom, words.1, words.2.1, words.2.2, readWord_foreign letters.1, readWord_foreign letters.2.1,
    readWord_foreign letters.2.2, number]
  rfl

/-- A derived word, number or string is read. -/
theorem Scalar.readValue (derived : Scalar lone tree text rest) (separated : Separated rest) (fuel : Nat) :
    readValue (fuel + 1) text = some (tree, rest) := by
  have words : ascii "null" = [0x6E, 0x75, 0x6C, 0x6C] ∧ ascii "true" = [0x74, 0x72, 0x75, 0x65] ∧
      ascii "false" = [0x66, 0x61, 0x6C, 0x73, 0x65] := by decide
  have atom : ∀ {first : CodePoint} {others : Text}, first ≠ quote ∧ first ≠ openBracket ∧ first ≠ openBrace →
      JsonSyntax.readValue (fuel + 1) (first :: others) = readAtom (first :: others) := by
    intro first others apart
    rw [JsonSyntax.readValue, if_neg apart.1, if_neg apart.2.1, if_neg apart.2.2]
  cases derived with
  | null =>
    have read := @readWord_append rest (ascii "null") .null
    rw [words.1, cons_append] at read ⊢
    rw [atom (by decide), readAtom, words.1, read, some_or]
  | yes =>
    have read := @readWord_append rest (ascii "true") (.bool true)
    rw [words.2.1, cons_append] at read ⊢
    rw [atom (by decide), readAtom, words.1, words.2.1, readWord_foreign (by decide), read, none_or, some_or]
  | no =>
    have read := @readWord_append rest (ascii "false") (.bool false)
    rw [words.2.2, cons_append] at read ⊢
    rw [atom (by decide), readAtom, words.1, words.2.1, words.2.2, readWord_foreign (by decide), readWord_foreign (by decide),
      read, none_or, none_or, some_or]
  | number number =>
    have read := readAtom_number number separated
    obtain ⟨first, others, rfl, start⟩ := number.head
    have opens := opens_of_number start
    rw [atom ⟨opens.2.2.2, opens.2.1, opens.2.2.1⟩, read]
  | str characters =>
    have read := characters.readString (Nat.le_succ _)
    rw [JsonSyntax.readValue, if_pos rfl]
    simp only [read, bind, Option.bind, pure]

end Scalars

section Values

variable {lone : Prop}

mutual

/-- A derived value is read. -/
theorem Value.readValue {tree : JsonSyntax} {text rest : Text} : Value lone tree text rest → Separated rest → {fuel : Nat} →
    2 * text.length + 1 ≤ fuel → readValue fuel text = some (tree, rest)
  | .scalar derived, separated, fuel, enough => by
    obtain ⟨less, rfl⟩ : ∃ less, fuel = less + 1 := ⟨fuel - 1, by omega⟩
    exact derived.readValue separated less
  | .emptyArr space, _, fuel, enough => by
    obtain ⟨less, rfl⟩ : ∃ less, fuel = less + 1 := ⟨fuel - 1, by omega⟩
    rw [JsonSyntax.readValue, if_neg (by decide), if_pos rfl, space.expect_eq (by decide)]
  | @Value.arr _ items text inner rest space derived, _, fuel, enough => by
    obtain ⟨less, rfl⟩ : ∃ less, fuel = less + 1 := ⟨fuel - 1, by omega⟩
    have shorter := space.length_le
    rw [length_cons] at enough
    have inside := @Items.readItems items inner rest derived less (by omega)
    obtain ⟨first, others, rfl, opens⟩ := derived.opens
    rw [JsonSyntax.readValue, if_neg (by decide), if_pos rfl, space.expect_ne opens.1 opens.2.1,
      space.skipSpace_opens derived.opens, inside]
    rfl
  | .emptyObj space, _, fuel, enough => by
    obtain ⟨less, rfl⟩ : ∃ less, fuel = less + 1 := ⟨fuel - 1, by omega⟩
    rw [JsonSyntax.readValue, if_neg (by decide), if_neg (by decide), if_pos rfl, space.expect_eq (by decide)]
  | @Value.obj _ members text inner rest space derived, _, fuel, enough => by
    obtain ⟨less, rfl⟩ : ∃ less, fuel = less + 1 := ⟨fuel - 1, by omega⟩
    have shorter := space.length_le
    rw [length_cons] at enough
    have inside := @Members.readMembers members inner rest derived less (by omega)
    have plain := space.skipSpace_opens derived.opens
    obtain ⟨others, rfl⟩ := derived.head
    rw [JsonSyntax.readValue, if_neg (by decide), if_neg (by decide), if_pos rfl, space.expect_ne (by decide) (by decide),
      plain, inside]
    rfl

theorem Items.readItems {items : List JsonSyntax} {text rest : Text} : Items lone items text rest → {fuel : Nat} →
    2 * text.length + 2 ≤ fuel → readItems fuel text = some (items, rest)
  | .last item close, fuel, enough => by
    obtain ⟨less, rfl⟩ : ∃ less, fuel = less + 1 := ⟨fuel - 1, by omega⟩
    have first := item.readValue (close.separated (separated_mark (by decide))) (by omega : _ ≤ less)
    rw [JsonSyntax.readItems]
    simp only [first, bind, Option.bind, close.expect_eq (by decide), pure]
  | .more item separator space later, fuel, enough => by
    obtain ⟨less, rfl⟩ : ∃ less, fuel = less + 1 := ⟨fuel - 1, by omega⟩
    have first := item.readValue (separator.separated (separated_mark (by decide))) (by omega : _ ≤ less)
    have shorter := item.length_lt
    have comma := separator.length_le
    have skipped := space.length_le
    rw [length_cons] at comma
    have others := later.readItems (by omega : _ ≤ less)
    rw [JsonSyntax.readItems]
    simp only [first, bind, Option.bind, separator.expect_ne (by decide : isSpace JsonSyntax.comma = false)
      (by decide : JsonSyntax.comma ≠ closeBracket), separator.expect_eq (by decide : isSpace JsonSyntax.comma = false),
      space.skipSpace_opens later.opens, others, pure]

theorem Members.readMembers {members : List (Text × JsonSyntax)} {text rest : Text} : Members lone members text rest →
    {fuel : Nat} → 2 * text.length + 2 ≤ fuel → readMembers fuel text = some (members, rest)
  | .last (.mk name separator start value) close, fuel, enough => by
    obtain ⟨less, rfl⟩ : ∃ less, fuel = less + 1 := ⟨fuel - 1, by omega⟩
    have named := name.length_lt
    have colon := separator.length_le
    have skipped := start.length_le
    rw [length_cons] at colon enough
    have first := value.readValue (close.separated (separated_mark (by decide))) (by omega : _ ≤ less)
    rw [JsonSyntax.readMembers]
    simp only [expect_self, name.readString (Nat.le_succ _), separator.expect_eq (by decide : isSpace JsonSyntax.colon = false),
      start.skipSpace_opens value.opens, first, bind, Option.bind, close.expect_eq (by decide), pure]
  | .more (.mk name separator start value) next space later, fuel, enough => by
    obtain ⟨less, rfl⟩ : ∃ less, fuel = less + 1 := ⟨fuel - 1, by omega⟩
    have named := name.length_lt
    have colon := separator.length_le
    have skipped := start.length_le
    have shorter := value.length_lt
    have comma := next.length_le
    have spaces := space.length_le
    rw [length_cons] at colon comma enough
    have first := value.readValue (next.separated (separated_mark (by decide))) (by omega : _ ≤ less)
    have others := later.readMembers (by omega : _ ≤ less)
    rw [JsonSyntax.readMembers]
    simp only [expect_self, name.readString (Nat.le_succ _), separator.expect_eq (by decide : isSpace JsonSyntax.colon = false),
      start.skipSpace_opens value.opens, first, bind, Option.bind, next.expect_ne (by decide : isSpace JsonSyntax.comma = false)
      (by decide : JsonSyntax.comma ≠ closeBrace), next.expect_eq (by decide : isSpace JsonSyntax.comma = false),
      space.skipSpace_opens later.opens, others, pure]

end

/-- A derived document is read as its tree. -/
theorem Document.read_eq {text : Text} {tree : JsonSyntax} (derived : Document lone tree text) : read text = some tree := by
  obtain ⟨before, value, after⟩ := derived
  have shorter := before.length_le
  have first := value.readValue (after.separated separated_nil) (by omega : _ ≤ 2 * text.length + 1)
  have ends := after.skipSpace_eq (by rintro _ ⟨⟩)
  rw [JsonSyntax.read, before.skipSpace_opens value.opens, first]
  exact if_pos ends

/-- A document has one tree. -/
theorem Document.unique {text : Text} {left right : JsonSyntax} (first : Document lone left text)
    (second : Document lone right text) : left = right :=
  some.inj (first.read_eq.symm.trans second.read_eq)

end Values

end JsonGrammar

end CiCoordinator.Library

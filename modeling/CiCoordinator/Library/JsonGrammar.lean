import CiCoordinator.Library.NumberLiteral

/- The derivations of the RFC 8259 grammar: each stands between a text and what is left of it. -/

namespace CiCoordinator.Library

namespace JsonGrammar

open JsonSyntax List

/-- White space at the front of a text. -/
inductive Space : Text → Text → Prop
  | done {rest : Text} : Space rest rest
  | more {character : CodePoint} {text rest : Text} : isSpace character = true → Space text rest →
      Space (character :: text) rest

/-- The spelling of an optional exponent; a positive one may be written without its sign. -/
inductive Exponent : Option (Bool × Text) → Text → Prop
  | absent : Exponent none []
  | signed {letter : CodePoint} {digits : Text} (negative : Bool) : letter = 0x65 ∨ letter = 0x45 → DigitRun digits →
      Exponent (some (negative, digits)) (letter :: (if negative then minus else plus) :: digits)
  | unsigned {letter : CodePoint} {digits : Text} : letter = 0x65 ∨ letter = 0x45 → DigitRun digits →
      Exponent (some (false, digits)) (letter :: digits)

/-- A number literal at the front of a text. -/
structure Number (literal : NumberLiteral) (text rest : Text) : Prop where
  formed : literal.WellFormed
  spelled : ∃ exponent, Exponent literal.exponent exponent ∧ text = (if literal.negative then [minus] else []) ++
      (literal.whole ++ (NumberLiteral.fractionText literal.fraction ++ (exponent ++ rest)))

/-- One character of a string; `lone` says whether an escape may stand for one half of a surrogate pair. -/
inductive Character (lone : Prop) : CodePoint → Text → Text → Prop
  | plain {character : CodePoint} {rest : Text} : 0x20 ≤ character.val → character ≠ quote → character ≠ backslash →
      Character lone character (character :: rest) rest
  | short {letter character : CodePoint} {rest : Text} : shortEscape letter = some character →
      Character lone character (backslash :: letter :: rest) rest
  | unit {a b c d : CodePoint} {unit : Nat} {rest : Text} : hexUnit a b c d = some unit →
      ¬ (0xD800 ≤ unit ∧ unit ≤ 0xDFFF) →
      Character lone (unitPoint unit) (backslash :: 0x75 :: a :: b :: c :: d :: rest) rest
  | pair {a b c d e f g h : CodePoint} {high low : Nat} {rest : Text} : hexUnit a b c d = some high →
      0xD800 ≤ high ∧ high ≤ 0xDBFF → hexUnit e f g h = some low → 0xDC00 ≤ low ∧ low ≤ 0xDFFF →
      Character lone (pairPoint high low)
        (backslash :: 0x75 :: a :: b :: c :: d :: backslash :: 0x75 :: e :: f :: g :: h :: rest) rest
  | half {a b c d : CodePoint} {unit : Nat} {rest : Text} : lone → hexUnit a b c d = some unit →
      0xD800 ≤ unit ∧ unit ≤ 0xDFFF → (unit ≤ 0xDBFF → lowEscape rest = none) →
      Character lone (unitPoint unit) (backslash :: 0x75 :: a :: b :: c :: d :: rest) rest

/-- The characters of a string up to and with its closing quote. -/
inductive Characters (lone : Prop) : Text → Text → Text → Prop
  | done {rest : Text} : Characters lone [] (quote :: rest) rest
  | more {character : CodePoint} {value text between rest : Text} : Character lone character text between →
      Characters lone value between rest → Characters lone (character :: value) text rest

/-- A word, a number or a string. -/
inductive Scalar (lone : Prop) : JsonSyntax → Text → Text → Prop
  | null {rest : Text} : Scalar lone .null (ascii "null" ++ rest) rest
  | yes {rest : Text} : Scalar lone (.bool true) (ascii "true" ++ rest) rest
  | no {rest : Text} : Scalar lone (.bool false) (ascii "false" ++ rest) rest
  | number {literal : NumberLiteral} {text rest : Text} : Number literal text rest →
      Scalar lone (.number literal) text rest
  | str {value text rest : Text} : Characters lone value text rest → Scalar lone (.str value) (quote :: text) rest

mutual

/-- A value at the front of a text. -/
inductive Value (lone : Prop) : JsonSyntax → Text → Text → Prop
  | scalar {tree : JsonSyntax} {text rest : Text} : Scalar lone tree text rest → Value lone tree text rest
  | emptyArr {text rest : Text} : Space text (closeBracket :: rest) → Value lone (.arr []) (openBracket :: text) rest
  | arr {items : List JsonSyntax} {text inner rest : Text} : Space text inner → Items lone items inner rest →
      Value lone (.arr items) (openBracket :: text) rest
  | emptyObj {text rest : Text} : Space text (closeBrace :: rest) → Value lone (.obj []) (openBrace :: text) rest
  | obj {members : List (Text × JsonSyntax)} {text inner rest : Text} : Space text inner →
      Members lone members inner rest → Value lone (.obj members) (openBrace :: text) rest

/-- The items of an array up to and with its closing bracket. -/
inductive Items (lone : Prop) : List JsonSyntax → Text → Text → Prop
  | last {item : JsonSyntax} {text after rest : Text} : Value lone item text after →
      Space after (closeBracket :: rest) → Items lone [item] text rest
  | more {item : JsonSyntax} {items : List JsonSyntax} {text after next following rest : Text} :
      Value lone item text after → Space after (comma :: next) → Space next following →
      Items lone items following rest → Items lone (item :: items) text rest

/-- One member of an object. -/
inductive Member (lone : Prop) : Text → JsonSyntax → Text → Text → Prop
  | mk {key : Text} {value : JsonSyntax} {text named next start rest : Text} : Characters lone key text named →
      Space named (colon :: next) → Space next start → Value lone value start rest →
      Member lone key value (quote :: text) rest

/-- The members of an object up to and with its closing brace. -/
inductive Members (lone : Prop) : List (Text × JsonSyntax) → Text → Text → Prop
  | last {key : Text} {value : JsonSyntax} {text after rest : Text} : Member lone key value text after →
      Space after (closeBrace :: rest) → Members lone [(key, value)] text rest
  | more {key : Text} {value : JsonSyntax} {members : List (Text × JsonSyntax)} {text after next following rest : Text} :
      Member lone key value text after → Space after (comma :: next) → Space next following →
      Members lone members following rest → Members lone ((key, value) :: members) text rest

end

/-- A document is one value between white space. -/
inductive Document (lone : Prop) (tree : JsonSyntax) (text : Text) : Prop
  | mk {start after : Text} : Space text start → Value lone tree start after → Space after [] → Document lone tree text

section Space

variable {text rest : Text}

theorem isSpace_cases {character : CodePoint} (white : isSpace character = true) :
    character = 0x20 ∨ character = 0x09 ∨ character = 0x0A ∨ character = 0x0D := by
  simpa [isSpace, or_assoc] using white

theorem space_skipSpace (text : Text) : Space text (skipSpace text) := by
  induction text with
  | nil => exact Space.done
  | cons character others ih =>
    rw [skipSpace]
    by_cases white : isSpace character = true
    · rw [dropWhile_cons_of_pos white]
      exact Space.more white ih
    · rw [dropWhile_cons_of_neg white]
      exact Space.done

theorem Space.length_le (space : Space text rest) : rest.length ≤ text.length := by
  induction space with
  | done => exact le_rfl
  | more _ _ ih => exact ih.trans (Nat.le_succ _)

/-- Skipping white space ends where a derivation goes on with another character. -/
theorem Space.skipSpace_eq (space : Space text rest) (solid : ∀ character ∈ rest.head?, isSpace character = false) :
    skipSpace text = rest := by
  induction space with
  | @done rest =>
    cases rest with
    | nil => rfl
    | cons character others => exact dropWhile_cons_of_neg (by simp [solid character rfl])
  | more white _ ih =>
    rw [skipSpace, dropWhile_cons_of_pos white]
    exact ih solid

/-- What follows a value does not continue a number. -/
theorem Space.separated (space : Space text rest) (apart : Separated rest) : Separated text := by
  cases space with
  | done => exact apart
  | more white _ => rcases isSpace_cases white with rfl | rfl | rfl | rfl <;> exact separated_of_head (by decide)

end Space

section Shapes

variable {lone : Prop}

theorem Character.length_lt {character : CodePoint} {text rest : Text} (derived : Character lone character text rest) :
    rest.length < text.length := by
  cases derived <;> simp only [length_cons] <;> omega

theorem Characters.length_lt {value text rest : Text} (derived : Characters lone value text rest) :
    rest.length < text.length := by
  induction derived with
  | done => exact Nat.lt_succ_self _
  | more first _ ih => exact ih.trans first.length_lt

/-- A number starts with its sign or a digit. -/
theorem Number.head {literal : NumberLiteral} {text rest : Text} (derived : Number literal text rest) :
    ∃ first others, text = first :: others ∧ (first = minus ∨ first.isDigit = true) := by
  obtain ⟨formed, exponent, _, rfl⟩ := derived
  cases literal.negative with
  | true => exact ⟨minus, _, rfl, .inl rfl⟩
  | false =>
    obtain ⟨point, digits, shape, digit⟩ := formed.head
    rw [shape]
    exact ⟨point, _, rfl, .inr digit⟩

theorem Number.length_lt {literal : NumberLiteral} {text rest : Text} (derived : Number literal text rest) :
    rest.length < text.length := by
  obtain ⟨formed, exponent, _, rfl⟩ := derived
  obtain ⟨point, digits, shape, _⟩ := formed.head
  rw [shape]
  simp only [length_append, length_cons]
  omega

/-- The first character of a value: neither white space nor a closing mark. -/
def Opens (character : CodePoint) : Prop :=
  isSpace character = false ∧ character ≠ closeBracket ∧ character ≠ closeBrace

instance (character : CodePoint) : Decidable (Opens character) :=
  inferInstanceAs (Decidable (_ ∧ _))

theorem opens_of_number {character : CodePoint} (first : character = minus ∨ character.isDigit = true) :
    Opens character ∧ character ≠ openBracket ∧ character ≠ openBrace ∧ character ≠ quote := by
  rcases first with rfl | digit
  · decide
  · refine ⟨⟨?_, ?_, ?_⟩, ?_, ?_, ?_⟩
    · rw [Bool.eq_false_iff]
      intro white
      rcases isSpace_cases white with rfl | rfl | rfl | rfl <;> exact absurd digit (by decide)
    all_goals
      rintro rfl
      exact absurd digit (by decide)

/-- A word, a number or a string starts with a character that starts nothing else. -/
theorem Scalar.opens {tree : JsonSyntax} {text rest : Text} (derived : Scalar lone tree text rest) :
    ∃ first others, text = first :: others ∧ Opens first ∧ first ≠ openBracket ∧ first ≠ openBrace := by
  cases derived with
  | null => exact ⟨0x6E, ascii "ull" ++ rest, rfl, by decide, by decide, by decide⟩
  | yes => exact ⟨0x74, ascii "rue" ++ rest, rfl, by decide, by decide, by decide⟩
  | no => exact ⟨0x66, ascii "alse" ++ rest, rfl, by decide, by decide, by decide⟩
  | number derived =>
    obtain ⟨first, others, shape, start⟩ := derived.head
    have opens := opens_of_number start
    exact ⟨first, others, shape, opens.1, opens.2.1, opens.2.2.1⟩
  | str _ => exact ⟨quote, _, rfl, by decide, by decide, by decide⟩

theorem Scalar.length_lt {tree : JsonSyntax} {text rest : Text} (derived : Scalar lone tree text rest) :
    rest.length < text.length := by
  have words : 0 < (ascii "null").length ∧ 0 < (ascii "true").length ∧ 0 < (ascii "false").length := by decide
  cases derived with
  | null => rw [length_append]; omega
  | yes => rw [length_append]; omega
  | no => rw [length_append]; omega
  | number derived => exact derived.length_lt
  | str derived => exact derived.length_lt.trans (Nat.lt_succ_self _)

theorem Value.opens {tree : JsonSyntax} {text rest : Text} (derived : Value lone tree text rest) :
    ∃ first others, text = first :: others ∧ Opens first := by
  cases derived with
  | scalar derived =>
    obtain ⟨first, others, shape, opens, _⟩ := derived.opens
    exact ⟨first, others, shape, opens⟩
  | emptyArr _ => exact ⟨openBracket, _, rfl, by decide⟩
  | arr _ _ => exact ⟨openBracket, _, rfl, by decide⟩
  | emptyObj _ => exact ⟨openBrace, _, rfl, by decide⟩
  | obj _ _ => exact ⟨openBrace, _, rfl, by decide⟩

mutual

/-- A value takes up some of the text. -/
theorem Value.length_lt {tree : JsonSyntax} {text rest : Text} : Value lone tree text rest → rest.length < text.length
  | .scalar derived => derived.length_lt
  | .emptyArr space => Nat.lt_of_lt_of_le (Nat.lt_succ_self _) (space.length_le.trans (Nat.le_succ _))
  | .arr space items => Nat.lt_succ_of_lt (Nat.lt_of_lt_of_le items.length_lt space.length_le)
  | .emptyObj space => Nat.lt_of_lt_of_le (Nat.lt_succ_self _) (space.length_le.trans (Nat.le_succ _))
  | .obj space members => Nat.lt_succ_of_lt (Nat.lt_of_lt_of_le members.length_lt space.length_le)

theorem Items.length_lt {items : List JsonSyntax} {text rest : Text} : Items lone items text rest → rest.length < text.length
  | .last item close => by
    have first := item.length_lt
    have closing := close.length_le
    rw [length_cons] at closing
    omega
  | .more item separator space later => by
    have first := item.length_lt
    have comma := separator.length_le
    have skipped := space.length_le
    have others := later.length_lt
    rw [length_cons] at comma
    omega

theorem Member.length_lt {key : Text} {value : JsonSyntax} {text rest : Text} :
    Member lone key value text rest → rest.length < text.length
  | .mk name separator space value => by
    have named := name.length_lt
    have colon := separator.length_le
    have skipped := space.length_le
    have last := value.length_lt
    rw [length_cons] at colon ⊢
    omega

theorem Members.length_lt {members : List (Text × JsonSyntax)} {text rest : Text} :
    Members lone members text rest → rest.length < text.length
  | .last member close => by
    have first := member.length_lt
    have closing := close.length_le
    rw [length_cons] at closing
    omega
  | .more member separator space later => by
    have first := member.length_lt
    have comma := separator.length_le
    have skipped := space.length_le
    have others := later.length_lt
    rw [length_cons] at comma
    omega

end

theorem Items.opens {items : List JsonSyntax} {text rest : Text} (derived : Items lone items text rest) :
    ∃ first others, text = first :: others ∧ Opens first := by
  cases derived with
  | last item _ => exact item.opens
  | more item _ _ _ => exact item.opens

theorem Members.head {members : List (Text × JsonSyntax)} {text rest : Text} (derived : Members lone members text rest) :
    ∃ others, text = quote :: others := by
  cases derived with
  | last member _ => cases member; exact ⟨_, rfl⟩
  | more member _ _ _ => cases member; exact ⟨_, rfl⟩

theorem Members.opens {members : List (Text × JsonSyntax)} {text rest : Text} (derived : Members lone members text rest) :
    ∃ first others, text = first :: others ∧ Opens first := by
  obtain ⟨others, shape⟩ := derived.head
  exact ⟨quote, others, shape, by decide⟩

end Shapes

section Marks

variable {text start rest others : Text} {mark first : CodePoint}

theorem expect_self {character : CodePoint} {others : Text} : expect character (character :: others) = some others := by
  rw [expect, if_pos rfl]

theorem expect_other {point character : CodePoint} {others : Text} (other : point ≠ character) :
    expect character (point :: others) = none := by
  rw [expect, if_neg other]

theorem expect_eq_some (found : expect mark text = some rest) : text = mark :: rest := by
  cases text with
  | nil => cases found
  | cons character others =>
    obtain ⟨rfl, kept⟩ := Option.ite_none_right_eq_some.mp found
    rw [Option.some.inj kept]

/-- A mark that comes after white space is found. -/
theorem Space.expect_eq (space : Space text (mark :: rest)) (solid : isSpace mark = false) :
    expect mark (skipSpace text) = some rest := by
  rw [space.skipSpace_eq (fun _ head => Option.some.inj head ▸ solid), expect_self]

theorem Space.expect_ne (space : Space text (first :: others)) (solid : isSpace first = false) (other : first ≠ mark) :
    expect mark (skipSpace text) = none := by
  rw [space.skipSpace_eq (fun _ head => Option.some.inj head ▸ solid), expect_other other]

theorem Space.skipSpace_opens (space : Space text start) (opens : ∃ first others, start = first :: others ∧ Opens first) :
    skipSpace text = start := by
  obtain ⟨first, others, rfl, opens⟩ := opens
  exact space.skipSpace_eq fun _ head => Option.some.inj head ▸ opens.1

/-- A mark that is found comes after white space. -/
theorem space_of_expect (found : JsonSyntax.expect mark (skipSpace text) = some rest) : Space text (mark :: rest) :=
  expect_eq_some found ▸ space_skipSpace text

theorem separated_mark (closing : mark = comma ∨ mark = closeBracket ∨ mark = closeBrace) : Separated (mark :: rest) := by
  rcases closing with rfl | rfl | rfl <;> exact separated_of_head (by decide)

theorem separated_nil : Separated [] := by
  rintro _ ⟨⟩

end Marks

end JsonGrammar

end CiCoordinator.Library

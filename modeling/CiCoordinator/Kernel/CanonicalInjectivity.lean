import CiCoordinator.Kernel.NumberReading

/- The proof that the canonical bytes of a value without floats determine the value. -/

namespace CiCoordinator.Kernel

open Library List

mutual

/-- A value without floats. -/
def Json.Exact : Json → Prop
  | .float _ => False
  | .arr items => Json.ExactItems items
  | .obj members => Json.ExactMembers members
  | .null => True
  | .bool _ => True
  | .int _ => True
  | .str _ => True

/-- Items without floats. -/
def Json.ExactItems : List Json → Prop
  | [] => True
  | item :: rest => item.Exact ∧ Json.ExactItems rest

/-- Members without floats. -/
def Json.ExactMembers : List (Text × Json) → Prop
  | [] => True
  | (_, value) :: rest => value.Exact ∧ Json.ExactMembers rest

end

@[simp] theorem Json.exact_null : Json.null.Exact := trivial

@[simp] theorem Json.exact_bool (value : Bool) : (Json.bool value).Exact := trivial

@[simp] theorem Json.exact_int (value : Int) : (Json.int value).Exact := trivial

@[simp] theorem Json.exact_str (value : Text) : (Json.str value).Exact := trivial

@[simp] theorem Json.exact_float (value : Float64) : ¬ (Json.float value).Exact := not_false

@[simp] theorem Json.exact_arr {items : List Json} : (Json.arr items).Exact ↔ ∀ item ∈ items, item.Exact := by
  show Json.ExactItems items ↔ _
  induction items with
  | nil => exact iff_of_true trivial (forall_mem_nil _)
  | cons item rest ih =>
    show item.Exact ∧ Json.ExactItems rest ↔ _
    rw [ih, forall_mem_cons]

@[simp] theorem Json.exact_obj {members : List (Text × Json)} :
    (Json.obj members).Exact ↔ ∀ member ∈ members, member.2.Exact := by
  show Json.ExactMembers members ↔ _
  induction members with
  | nil => exact iff_of_true trivial (forall_mem_nil _)
  | cons member rest ih =>
    show member.2.Exact ∧ Json.ExactMembers rest ↔ _
    rw [ih, forall_mem_cons]

/-- The kinds of values that the first character of a text tells apart. -/
inductive JsonShape where
  | null
  | bool
  | number
  | str
  | arr
  | obj
  deriving DecidableEq

def Json.shape : Json → JsonShape
  | .null => .null
  | .bool _ => .bool
  | .int _ => .number
  | .float _ => .number
  | .str _ => .str
  | .arr _ => .arr
  | .obj _ => .obj

def pointShape (point : CodePoint) : Option JsonShape :=
  if point = 0x6E then some .null
  else if point = 0x74 ∨ point = 0x66 then some .bool
  else if point = 0x22 then some .str
  else if point = 0x5B then some .arr
  else if point = 0x7B then some .obj
  else if point = 0x2D ∨ point.isDigit = true then some .number
  else none

/-- A text that does not continue a number. -/
def Breaks (rest : Text) : Prop :=
  ∀ point ∈ rest.head?, point.isDigit = false

section Texts

variable {left right : Text}

theorem pointShape_digit {point : CodePoint} (digit : point.isDigit = true) : pointShape point = some .number := by
  have apart : ∀ other : CodePoint, other.isDigit = false → point ≠ other := by
    rintro other foreign rfl
    rw [digit] at foreign
    cases foreign
  unfold pointShape
  rw [if_neg (apart 0x6E (by decide)), if_neg (not_or.mpr ⟨apart 0x74 (by decide), apart 0x66 (by decide)⟩),
    if_neg (apart 0x22 (by decide)), if_neg (apart 0x5B (by decide)), if_neg (apart 0x7B (by decide)),
    if_pos (.inr digit)]

theorem Json.Exact.legible {value : Json} (exact : value.Exact) : ∀ number, value = .float number → safeFloat number = true := by
  rintro number rfl
  exact absurd exact (Json.exact_float number)

theorem legible_of_admissible {value : Json} (passed : admissible value = true) :
    ∀ number, value = .float number → safeFloat number = true := by
  rintro number rfl
  rwa [admissible_float] at passed

/-- The first character of a text tells the kind of its value. -/
theorem render_head {value : Json} (legible : ∀ number, value = .float number → safeFloat number = true) :
    ∃ point rest, render value = point :: rest ∧ pointShape point = some value.shape := by
  cases value with
  | null => exact ⟨0x6E, ascii "ull", by rw [render]; decide, by decide⟩
  | bool value =>
    cases value with
    | false => exact ⟨0x66, ascii "alse", by rw [render]; decide, by decide⟩
    | true => exact ⟨0x74, ascii "rue", by rw [render]; decide, by decide⟩
  | int value =>
    obtain ⟨point, rest, shape⟩ := exists_cons_of_ne_nil (decimal_ne_nil value.natAbs)
    have digit : point.isDigit = true := decimal_isDigit (by rw [shape]; exact mem_cons_self)
    rw [render, decimalInt]
    by_cases negative : value < 0
    · rw [if_pos negative]
      exact ⟨0x2D, decimal value.natAbs, rfl, by rw [Json.shape]; decide⟩
    · rw [if_neg negative]
      exact ⟨point, rest, shape, pointShape_digit digit⟩
  | float value =>
    have safe := legible value rfl
    cases value with
    | nan => cases safe
    | infinity negative => cases safe
    | finite number =>
      obtain ⟨point, rest, text, first⟩ := (numberLiteral number).text_head (numberLiteral_wellFormed number)
      rw [render, renderFloat_literal, Json.shape]
      refine ⟨point, rest, text, ?_⟩
      rcases first with rfl | digit
      · decide
      · exact pointShape_digit digit
  | str value => exact ⟨0x22, _, by rw [render]; rfl, by rw [Json.shape]; decide⟩
  | arr items => exact ⟨0x5B, _, by rw [render]; rfl, by rw [Json.shape]; decide⟩
  | obj members => exact ⟨0x7B, _, by rw [render]; rfl, by rw [Json.shape]; decide⟩

/-- Values with one text have one shape. -/
theorem shape_of_render {first second : Json} (firstExact : first.Exact) (secondExact : second.Exact)
    (equal : render first ++ left = render second ++ right) : first.shape = second.shape := by
  obtain ⟨firstPoint, firstRest, firstText, firstShape⟩ := render_head firstExact.legible
  obtain ⟨secondPoint, secondRest, secondText, secondShape⟩ := render_head secondExact.legible
  rw [firstText, secondText, cons_append, cons_append, List.cons.injEq] at equal
  rw [equal.1, secondShape] at firstShape
  exact (Option.some.inj firstShape).symm

theorem span_decimal {number : Nat} {rest : Text} (breaks : Breaks rest) :
    (decimal number ++ rest).takeWhile CodePoint.isDigit = decimal number ∧
      (decimal number ++ rest).dropWhile CodePoint.isDigit = rest := by
  have digits : ∀ point ∈ decimal number, point.isDigit = true := fun point member => decimal_isDigit member
  have stops : rest.takeWhile CodePoint.isDigit = [] ∧ rest.dropWhile CodePoint.isDigit = rest := by
    cases rest with
    | nil => exact ⟨rfl, rfl⟩
    | cons point rest =>
      have other := breaks point rfl
      exact ⟨takeWhile_cons_of_neg (by simp [other]), dropWhile_cons_of_neg (by simp [other])⟩
  rw [takeWhile_append_of_pos digits, dropWhile_append_of_pos digits, stops.1, stops.2, append_nil]
  exact ⟨rfl, rfl⟩

theorem decimal_cancel {first second : Nat} (leftBreaks : Breaks left) (rightBreaks : Breaks right)
    (equal : decimal first ++ left = decimal second ++ right) : first = second ∧ left = right := by
  obtain ⟨firstDigits, firstRest⟩ := @span_decimal first left leftBreaks
  obtain ⟨secondDigits, secondRest⟩ := @span_decimal second right rightBreaks
  rw [equal, secondDigits] at firstDigits
  rw [equal, secondRest] at firstRest
  exact ⟨by rw [← readDigits_decimal first, ← firstDigits, readDigits_decimal], firstRest.symm⟩

theorem decimal_ne_minus {number : Nat} {rest : Text} : decimal number ++ left ≠ 0x2D :: rest := by
  intro equal
  obtain ⟨point, digits, shape⟩ := exists_cons_of_ne_nil (decimal_ne_nil number)
  have digit : point.isDigit = true := decimal_isDigit (by rw [shape]; exact mem_cons_self)
  rw [shape, cons_append, List.cons.injEq] at equal
  rw [equal.1] at digit
  revert digit
  decide

theorem decimalInt_cancel {first second : Int} (leftBreaks : Breaks left) (rightBreaks : Breaks right)
    (equal : decimalInt first ++ left = decimalInt second ++ right) : first = second ∧ left = right := by
  have minus : ascii "-" = [0x2D] := by decide
  unfold decimalInt at equal
  rw [minus] at equal
  by_cases firstSign : first < 0 <;> by_cases secondSign : second < 0
  · rw [if_pos firstSign, if_pos secondSign, append_assoc, append_assoc, append_cancel_left_eq] at equal
    obtain ⟨magnitude, rest⟩ := decimal_cancel leftBreaks rightBreaks equal
    exact ⟨by omega, rest⟩
  · rw [if_pos firstSign, if_neg secondSign] at equal
    exact absurd equal.symm decimal_ne_minus
  · rw [if_neg firstSign, if_pos secondSign] at equal
    exact absurd equal decimal_ne_minus
  · rw [if_neg firstSign, if_neg secondSign] at equal
    obtain ⟨magnitude, rest⟩ := decimal_cancel leftBreaks rightBreaks equal
    exact ⟨by omega, rest⟩

end Texts

section Strings

open JsonSyntax

theorem hexDigit_nibblePoint (nibble : Nat) : hexDigit (Sha256.nibblePoint nibble) = some (nibble % 16) := by
  unfold Sha256.nibblePoint hexDigit
  split
  · rw [if_pos (by constructor <;> simp; omega)]
    simp
  · rw [if_neg (by simp; omega), if_pos (by constructor <;> simp <;> omega)]
    simp only [Option.some.injEq]
    omega

/-- A control character is read from its digits. -/
theorem readUnit_control {point : CodePoint} {after : Text} (control : point.val < 0x20) :
    readUnit (Sha256.hexadecimal 4 point.val [] ++ after) = some (point, after) := by
  have unit : hexUnit (Sha256.nibblePoint (point.val / 16 / 16 / 16)) (Sha256.nibblePoint (point.val / 16 / 16))
      (Sha256.nibblePoint (point.val / 16)) (Sha256.nibblePoint point.val) = some point.val := by
    simp only [hexUnit, hexDigit_nibblePoint, Option.some.injEq]
    omega
  have itself : unitPoint point.val = point := Fin.ext (Nat.mod_eq_of_lt (by omega))
  simp only [Sha256.hexadecimal, cons_append, nil_append, readUnit, unit]
  rw [if_neg (by omega), itself]

/-- A character is read from the text that stands for it. -/
theorem readString_escapePoint {point : CodePoint} {after : Text} {fuel : Nat} :
    readString (fuel + 1) (escapePoint point ++ after) =
      (readString fuel after).map fun parts => (point :: parts.1, parts.2) := by
  have short : ∀ letter : CodePoint, shortEscape letter = some point → readString (fuel + 1) (backslash :: letter :: after) =
        (readString fuel after).map fun parts => (point :: parts.1, parts.2) := by
    intro letter known
    rw [readString, if_neg (by decide), if_neg (by decide), if_pos rfl]
    simp only [readEscape, known, bind, Option.bind]
    cases readString fuel after <;> rfl
  unfold escapePoint
  split_ifs with quote slash newline returned tab feed back control
  · exact short 0x22 (by rw [quote]; decide)
  · exact short 0x5C (by rw [slash]; decide)
  · exact short 0x6E (by rw [newline]; decide)
  · exact short 0x72 (by rw [returned]; decide)
  · exact short 0x74 (by rw [tab]; decide)
  · exact short 0x66 (by rw [feed]; decide)
  · exact short 0x62 (by rw [back]; decide)
  · have letters : ascii "\\u" = [backslash, 0x75] := by decide
    rw [letters, append_assoc]
    rw [cons_append, cons_append, nil_append, readString, if_neg (by decide), if_neg (by decide), if_pos rfl]
    have long : shortEscape 0x75 = none := by decide
    simp only [readEscape, long, if_pos, readUnit_control control, bind, Option.bind]
    cases readString fuel after <;> rfl
  · have plain : point ≠ JsonSyntax.quote ∧ point ≠ backslash := ⟨quote, slash⟩
    rw [singleton_append, readString, if_neg plain.1, if_neg control, if_neg plain.2]
    simp only [bind, Option.bind]
    cases readString fuel after <;> rfl

theorem readString_jsonString {value rest : Text} {fuel : Nat} (enough : value.length < fuel) :
    readString fuel (value.flatMap escapePoint ++ ascii "\"" ++ rest) = some (value, rest) := by
  induction value generalizing fuel with
  | nil =>
    obtain ⟨fuel, rfl⟩ := Nat.exists_eq_succ_of_ne_zero (Nat.ne_of_gt (Nat.zero_lt_of_lt enough))
    have closing : ascii "\"" = [quote] := by decide
    rw [closing, flatMap_nil, nil_append, singleton_append, readString, if_pos rfl]
  | cons point value ih =>
    obtain ⟨fuel, rfl⟩ := Nat.exists_eq_succ_of_ne_zero (Nat.ne_of_gt (Nat.zero_lt_of_lt enough))
    rw [length_cons] at enough
    rw [flatMap_cons, append_assoc, append_assoc, Nat.succ_eq_add_one, readString_escapePoint, ← append_assoc, ih (by omega)]
    rfl

theorem jsonString_cancel {first second left right : Text} (equal : jsonString first ++ left = jsonString second ++ right) :
    first = second ∧ left = right := by
  unfold jsonString at equal
  simp only [append_assoc, append_cancel_left_eq] at equal
  simp only [← append_assoc] at equal
  have firstRead := @readString_jsonString first left (max first.length second.length + 1) (by omega)
  rw [equal, readString_jsonString (by omega)] at firstRead
  cases firstRead
  exact ⟨rfl, rfl⟩

end Strings

theorem breaks_of_head {point : CodePoint} {rest : Text} (other : point.isDigit = false) : Breaks (point :: rest) := by
  rintro _ ⟨⟩
  exact other

theorem breaks_items {items : List Json} {rest : Text} : Breaks (renderItems items false ++ (ascii "]" ++ rest)) := by
  cases items with
  | nil => exact @breaks_of_head 0x5D _ (by decide)
  | cons item items =>
    rw [renderItems]
    exact @breaks_of_head 0x2C _ (by decide)

theorem breaks_members {members : List (Text × Json)} {rest : Text} :
    Breaks (renderMembers members false ++ (ascii "\x7d" ++ rest)) := by
  cases members with
  | nil => exact @breaks_of_head 0x7D _ (by decide)
  | cons member members =>
    rw [renderMembers]
    exact @breaks_of_head 0x2C _ (by decide)

/-- The first item of an array is told apart from the end of the array. -/
theorem closing_ne_item {item : Json} {first : Bool} {left right : Text} (exact : item.Exact) :
    ascii "]" ++ left ≠ (if first then [] else ascii ",") ++ render item ++ right := by
  have closing : ascii "]" = [0x5D] := by decide
  have comma : ascii "," = [0x2C] := by decide
  rw [closing, comma]
  intro equal
  cases first with
  | false => simp at equal
  | true =>
    obtain ⟨point, rest, text, shape⟩ := render_head exact.legible
    rw [if_pos rfl, nil_append, text, cons_append, cons_append, List.cons.injEq] at equal
    rw [← equal.1] at shape
    have unknown : pointShape 0x5D = none := by decide
    rw [unknown] at shape
    cases shape

theorem closing_ne_member {key : Text} {first : Bool} {left right : Text} :
    ascii "\x7d" ++ left ≠ (if first then [] else ascii ",") ++ jsonString key ++ right := by
  have closing : ascii "\x7d" = [0x7D] := by decide
  have comma : ascii "," = [0x2C] := by decide
  have quote : ascii "\"" = [0x22] := by decide
  rw [closing, comma, jsonString, quote]
  intro equal
  cases first <;> simp at equal

mutual

/-- The text of a value determines the value and where it ends. -/
theorem render_cancel : (first second : Json) → {left right : Text} → first.Exact → second.Exact → Breaks left →
    Breaks right → render first ++ left = render second ++ right → first = second ∧ left = right
  | first, second, left, right, firstExact, secondExact, leftBreaks, rightBreaks, equal => by
    have shape := shape_of_render firstExact secondExact equal
    cases first with
    | null =>
      cases second <;> cases shape
      exact ⟨rfl, append_cancel_left equal⟩
    | bool value =>
      cases second <;> cases shape
      rename_i other
      rw [render, render] at equal
      have texts : ascii "true" = [0x74, 0x72, 0x75, 0x65] ∧ ascii "false" = [0x66, 0x61, 0x6C, 0x73, 0x65] := by decide
      rw [texts.1, texts.2] at equal
      cases value <;> cases other <;> simp at equal ⊢ <;> exact equal
    | int value =>
      cases second with
      | int other =>
        rw [render, render] at equal
        obtain ⟨rfl, rest⟩ := decimalInt_cancel leftBreaks rightBreaks equal
        exact ⟨rfl, rest⟩
      | float other => exact absurd secondExact (Json.exact_float other)
      | null => cases shape
      | bool other => cases shape
      | str other => cases shape
      | arr others => cases shape
      | obj others => cases shape
    | float value => exact absurd firstExact (Json.exact_float value)
    | str value =>
      cases second <;> cases shape
      rw [render, render] at equal
      obtain ⟨rfl, rest⟩ := jsonString_cancel equal
      exact ⟨rfl, rest⟩
    | arr items =>
      cases second <;> cases shape
      rename_i others
      rw [render, render, append_assoc, append_assoc, append_assoc, append_assoc, append_cancel_left_eq] at equal
      obtain ⟨rfl, rest⟩ := renderItems_cancel items others true (Json.exact_arr.mp firstExact)
        (Json.exact_arr.mp secondExact) equal
      exact ⟨rfl, rest⟩
    | obj members =>
      cases second <;> cases shape
      rename_i others
      rw [render, render, append_assoc, append_assoc, append_assoc, append_assoc, append_cancel_left_eq] at equal
      obtain ⟨rfl, rest⟩ := renderMembers_cancel members others true (Json.exact_obj.mp firstExact)
        (Json.exact_obj.mp secondExact) equal
      exact ⟨rfl, rest⟩

theorem renderItems_cancel : (first second : List Json) → (leading : Bool) → {left right : Text} →
    (∀ item ∈ first, item.Exact) → (∀ item ∈ second, item.Exact) →
    renderItems first leading ++ (ascii "]" ++ left) = renderItems second leading ++ (ascii "]" ++ right) →
    first = second ∧ left = right
  | [], [], _, _, _, _, _, equal => ⟨rfl, append_cancel_left (append_cancel_left equal)⟩
  | [], item :: rest, leading, _, _, _, secondExact, equal => by
    rw [renderItems, renderItems, nil_append, append_assoc] at equal
    exact absurd equal (closing_ne_item (secondExact item mem_cons_self))
  | item :: rest, [], leading, _, _, firstExact, _, equal => by
    rw [renderItems, renderItems, nil_append, append_assoc] at equal
    exact absurd equal.symm (closing_ne_item (firstExact item mem_cons_self))
  | item :: rest, other :: others, leading, left, right, firstExact, secondExact, equal => by
    rw [renderItems, renderItems, append_assoc, append_assoc, append_assoc, append_assoc, append_cancel_left_eq] at equal
    obtain ⟨rfl, following⟩ := render_cancel item other (firstExact item mem_cons_self)
      (secondExact other mem_cons_self) breaks_items breaks_items equal
    obtain ⟨rfl, remaining⟩ := renderItems_cancel rest others false (fun value member => firstExact value (mem_cons_of_mem _ member))
      (fun value member => secondExact value (mem_cons_of_mem _ member)) following
    exact ⟨rfl, remaining⟩

theorem renderMembers_cancel : (first second : List (Text × Json)) → (leading : Bool) → {left right : Text} →
    (∀ member ∈ first, member.2.Exact) → (∀ member ∈ second, member.2.Exact) →
    renderMembers first leading ++ (ascii "\x7d" ++ left) = renderMembers second leading ++ (ascii "\x7d" ++ right) →
    first = second ∧ left = right
  | [], [], _, _, _, _, _, equal => ⟨rfl, append_cancel_left (append_cancel_left equal)⟩
  | [], (key, value) :: rest, leading, _, _, _, secondExact, equal => by
    rw [renderMembers, renderMembers, nil_append, append_assoc, append_assoc, append_assoc] at equal
    exact absurd equal closing_ne_member
  | (key, value) :: rest, [], leading, _, _, firstExact, _, equal => by
    rw [renderMembers, renderMembers, nil_append, append_assoc, append_assoc, append_assoc] at equal
    exact absurd equal.symm closing_ne_member
  | (key, value) :: rest, (otherKey, other) :: others, leading, left, right, firstExact, secondExact, equal => by
    rw [renderMembers, renderMembers] at equal
    simp only [append_assoc, append_cancel_left_eq] at equal
    obtain ⟨rfl, named⟩ := jsonString_cancel equal
    rw [append_cancel_left_eq] at named
    obtain ⟨rfl, following⟩ := render_cancel value other (firstExact (key, value) mem_cons_self)
      (secondExact (key, other) mem_cons_self) breaks_members breaks_members named
    obtain ⟨rfl, remaining⟩ := renderMembers_cancel rest others false
      (fun value member => firstExact value (mem_cons_of_mem _ member))
      (fun value member => secondExact value (mem_cons_of_mem _ member)) following
    exact ⟨rfl, remaining⟩

end

theorem exact_sortMembers (value : Json) (exact : value.Exact) : (sortMembers value).Exact := by
  induction value with
  | arr items ih =>
    rw [Json.exact_arr] at exact
    rw [sortMembers, sortMembersItems_eq, Json.exact_arr, forall_mem_map]
    exact fun item member => ih item member (exact item member)
  | obj members ih =>
    rw [Json.exact_obj] at exact
    rw [sortMembers, sortMembersEntries_eq, Json.exact_obj]
    intro member sorted
    obtain ⟨entry, contained, rfl⟩ := mem_map.mp (mem_sortBy.mp sorted)
    exact ih entry contained (exact entry contained)
  | _ => rwa [sortMembers]

section Digests

variable {first second : Json}

/-- The bytes of a value with ordered members determine it. -/
theorem sortMembers_of_render (firstExact : first.Exact) (secondExact : second.Exact)
    (same : (render (sortMembers first)).utf8 = (render (sortMembers second)).utf8) : sortMembers first = sortMembers second := by
  have texts := Text.utf8_inj same
  have equal : render (sortMembers first) ++ [] = render (sortMembers second) ++ [] := by rw [texts]
  have ends : Breaks [] := fun point none => nomatch none
  exact (render_cancel _ _ (exact_sortMembers first firstExact) (exact_sortMembers second secondExact) ends ends equal).1

/-- Values with the same canonical bytes differ in the order of members only. -/
theorem sortMembers_of_canonicalJson {bytes : List Nat} (firstExact : first.Exact) (secondExact : second.Exact)
    (firstBytes : canonicalJson first none = .ok bytes) (secondBytes : canonicalJson second none = .ok bytes) :
    sortMembers first = sortMembers second := by
  have firstText := (canonicalJson_eq_ok.mp firstBytes).2
  have secondText := (canonicalJson_eq_ok.mp secondBytes).2
  exact sortMembers_of_render firstExact secondExact (firstText.symm.trans secondText)

/-- The digest tells the canonical bytes of two values apart. -/
def CollisionFree (first second : Json) : Prop :=
  ∀ firstBytes secondBytes, canonicalJson first none = .ok firstBytes → canonicalJson second none = .ok secondBytes →
    sha256Hex firstBytes = sha256Hex secondBytes → firstBytes = secondBytes

/-- Without collisions, values with one hash differ in the order of members only. -/
theorem sortMembers_of_hashObject {hash : Text} (free : CollisionFree first second) (firstExact : first.Exact)
    (secondExact : second.Exact) (firstHash : hashObject first = .ok hash) (secondHash : hashObject second = .ok hash) :
    sortMembers first = sortMembers second := by
  obtain ⟨firstBytes, firstEncoded, firstDigest⟩ := bind_eq_ok.mp firstHash
  obtain ⟨secondBytes, secondEncoded, secondDigest⟩ := bind_eq_ok.mp secondHash
  have digests := (Except.ok.inj firstDigest).trans (Except.ok.inj secondDigest).symm
  rw [← free firstBytes secondBytes firstEncoded secondEncoded digests] at secondEncoded
  exact sortMembers_of_canonicalJson firstExact secondExact firstEncoded secondEncoded

theorem eq_of_perm_of_keys {K V : Type} {first second : List (K × V)} (same : first.Perm second)
    (keys : first.map Prod.fst = second.map Prod.fst) (distinct : (first.map Prod.fst).Nodup) : first = second := by
  induction first generalizing second with
  | nil => exact (nil_perm.mp same).symm
  | cons entry rest ih =>
    cases second with
    | nil => cases keys
    | cons other others =>
      rw [map_cons, map_cons, List.cons.injEq] at keys
      rw [map_cons, nodup_cons, keys.2] at distinct
      have itself : entry = other := by
        rcases mem_cons.mp (same.mem_iff.mp mem_cons_self) with equal | later
        · exact equal
        · exact absurd (mem_map_of_mem later) distinct.1
      subst itself
      rw [ih (perm_cons entry |>.mp same) keys.2 (by rw [keys.2]; exact distinct.2)]

/-- Objects with the same names in the same order have the same values when sorting makes them equal. -/
theorem values_of_sortMembers {first second : List (Text × Json)} (equal : sortMembers (.obj first) = sortMembers (.obj second))
    (keys : first.map Prod.fst = second.map Prod.fst) (distinct : (first.map Prod.fst).Nodup) :
    first.map (fun member => sortMembers member.2) = second.map fun member => sortMembers member.2 := by
  rw [sortMembers, sortMembers, Json.obj.injEq, sortMembersEntries_eq, sortMembersEntries_eq] at equal
  have names : ∀ members : List (Text × Json),
      (members.map fun member => (member.1, sortMembers member.2)).map Prod.fst = members.map Prod.fst := by
    intro members
    rw [map_map]
    rfl
  have same := (sortBy_perm Prod.fst _).symm.trans ((List.Perm.of_eq equal).trans (sortBy_perm Prod.fst _))
  have entries := eq_of_perm_of_keys same (by rw [names, names, keys]) (by rw [names]; exact distinct)
  have values := congrArg (List.map Prod.snd) entries
  rwa [map_map, map_map] at values

end Digests

end CiCoordinator.Kernel

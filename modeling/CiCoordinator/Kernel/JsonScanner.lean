import CiCoordinator.Kernel.LimitedJson
import CiCoordinator.Library.JsonReading

/- The recursive descent over JSON text that the preflights share, and what it accepts. -/

namespace CiCoordinator.Kernel

open Library JsonSyntax List

/-- A scan stops at an error of its scanner, or when its steps run out. -/
inductive ScanStop (E : Type) where
  | raised (error : E)
  | unfinished
  deriving DecidableEq

/-- An outcome of the scanner inside a scan. -/
def raising {E A : Type} (outcome : Except E A) : Except (ScanStop E) A :=
  outcome.mapError .raised

/-- The two containers of a document. -/
inductive JsonContainer where
  | object
  | array
  deriving DecidableEq

/-- What a preflight does at the points of the descent: on the call for a value, at a container, at another value, at
a member's name after its opening quote, and where the syntax fails. -/
structure JsonScanner (Place Key E : Type) where
  call : Nat → Except E Unit
  visit : Place → Nat → Nat → Except E Nat
  scalar : Place → Nat → Nat → Text → Except E (Nat × Text)
  name : Place → List Key → Text → Except E (Key × Text)
  refuse : Text → E
  inside : JsonContainer → Place → Place
  item : Place → Nat → Place
  member : Place → Key → Place

namespace JsonScanner

variable {Place Key E : Type} (scanner : JsonScanner Place Key E)

/-- One expected mark. -/
def consume (mark : CodePoint) (text : Text) : Except (ScanStop E) Text :=
  match expect mark text with
  | some rest => .ok rest
  | none => .error (.raised (scanner.refuse text))

mutual

/-- A value at a depth, with the number of the values that were visited before it. -/
def scanValue : Nat → Nat → Place → Nat → Text → Except (ScanStop E) (Nat × Text)
  | 0, _, _, _, _ => .error .unfinished
  | fuel + 1, depth, place, nodes, text => do
    raising (scanner.call depth)
    match text with
    | [] => .error (.raised (scanner.refuse []))
    | first :: others =>
      if first = openBrace then do
        let visited ← raising (scanner.visit place depth nodes)
        match expect JsonSyntax.closeBrace (skipSpace others) with
        | some rest => return (visited, rest)
        | none => scanMembers fuel depth (scanner.inside .object place) [] visited (skipSpace others)
      else if first = openBracket then do
        let visited ← raising (scanner.visit place depth nodes)
        match expect closeBracket (skipSpace others) with
        | some rest => return (visited, rest)
        | none => scanItems fuel depth (scanner.inside .array place) 0 visited (skipSpace others)
      else raising (scanner.scalar place depth nodes (first :: others))

/-- The items of an array up to its closing bracket. -/
def scanItems : Nat → Nat → Place → Nat → Nat → Text → Except (ScanStop E) (Nat × Text)
  | 0, _, _, _, _, _ => .error .unfinished
  | fuel + 1, depth, place, index, nodes, text => do
    let (counted, after) ← scanValue fuel (depth + 1) (scanner.item place index) nodes text
    match expect closeBracket (skipSpace after) with
    | some rest => return (counted, rest)
    | none => do
      let next ← scanner.consume comma (skipSpace after)
      scanItems fuel depth place (index + 1) counted (skipSpace next)

/-- The members of an object up to its closing brace, with the names before them. -/
def scanMembers : Nat → Nat → Place → List Key → Nat → Text → Except (ScanStop E) (Nat × Text)
  | 0, _, _, _, _, _ => .error .unfinished
  | fuel + 1, depth, place, keys, nodes, text => do
    let unquoted ← scanner.consume quote text
    let (key, named) ← raising (scanner.name place keys unquoted)
    let value ← scanner.consume colon (skipSpace named)
    let (counted, after) ← scanValue fuel (depth + 1) (scanner.member place key) nodes (skipSpace value)
    match expect JsonSyntax.closeBrace (skipSpace after) with
    | some rest => return (counted, rest)
    | none => do
      let next ← scanner.consume comma (skipSpace after)
      scanMembers fuel depth place (key :: keys) counted (skipSpace next)

end

/-- A document is one value between white space. -/
def scanDocument (root : Place) (text : Text) : Except (ScanStop E) Unit := do
  let (_, rest) ← scanner.scanValue (2 * text.length + 1) 0 root 0 (skipSpace text)
  match skipSpace rest with
  | [] => return ()
  | remaining => .error (.raised (scanner.refuse remaining))

end JsonScanner

/-- What a preflight admits: how strings may be escaped, the bounds, the numbers, and the names of one object. -/
structure Admission (Key : Type) where
  lone : Prop
  maxDepth : Nat
  maxNodes : Nat
  number : NumberLiteral → Prop
  keep : Text → Key
  fresh : Key → List Key → Prop

namespace Admission

variable {Key : Type} (admission : Admission Key)

mutual

/-- Every number and every name of a value is admitted. -/
def Admits : JsonSyntax → Prop
  | .number literal => admission.number literal
  | .arr items => AdmitsItems items
  | .obj members => AdmitsMembers [] members
  | .null => True
  | .bool _ => True
  | .str _ => True

/-- Every number and every name of the items is admitted. -/
def AdmitsItems : List JsonSyntax → Prop
  | [] => True
  | item :: rest => Admits item ∧ AdmitsItems rest

/-- Every number and every name of the members is admitted, each name after the names before it. -/
def AdmitsMembers : List Key → List (Text × JsonSyntax) → Prop
  | _, [] => True
  | keys, (key, value) :: rest =>
    admission.fresh (admission.keep key) keys ∧ Admits value ∧ AdmitsMembers (admission.keep key :: keys) rest

end

/-- A value at a depth is admitted and brings the count of values within its bound. -/
structure Passes (depth nodes : Nat) (tree : JsonSyntax) (counted : Nat) : Prop where
  admits : admission.Admits tree
  shallow : depth + valueDepth tree ≤ admission.maxDepth
  counts : counted = nodes + valueCount tree
  few : counted ≤ admission.maxNodes

/-- The items of an array at a depth are admitted and bring the count of values within its bound. -/
structure PassesItems (depth nodes : Nat) (items : List JsonSyntax) (counted : Nat) : Prop where
  admits : admission.AdmitsItems items
  shallow : depth + depthItems items ≤ admission.maxDepth
  counts : counted = nodes + countItems items
  few : counted ≤ admission.maxNodes

/-- The members of an object at a depth are admitted and bring the count of values within its bound. -/
structure PassesMembers (depth : Nat) (keys : List Key) (nodes : Nat) (members : List (Text × JsonSyntax)) (counted : Nat) :
    Prop where
  admits : admission.AdmitsMembers keys members
  shallow : depth + depthMembers members ≤ admission.maxDepth
  counts : counted = nodes + countMembers members
  few : counted ≤ admission.maxNodes

end Admission

/-- A scanner whose steps admit what an admission says. -/
structure JsonScanner.Meets {Place Key E : Type} (scanner : JsonScanner Place Key E) (admission : Admission Key) : Prop where
  calls : ∀ {depth}, depth ≤ admission.maxDepth → scanner.call depth = .ok ()
  visits : ∀ {place depth nodes counted}, scanner.call depth = .ok () →
    (scanner.visit place depth nodes = .ok counted ↔
      depth ≤ admission.maxDepth ∧ nodes + 1 ≤ admission.maxNodes ∧ counted = nodes + 1)
  scalar_sound : ∀ {place depth nodes text counted rest}, scanner.call depth = .ok () →
    scanner.scalar place depth nodes text = .ok (counted, rest) →
      ∃ tree, JsonGrammar.Scalar admission.lone tree text rest ∧ admission.Admits tree ∧
        depth ≤ admission.maxDepth ∧ nodes + 1 ≤ admission.maxNodes ∧ counted = nodes + 1
  scalar_complete : ∀ {place depth nodes text rest tree}, JsonGrammar.Scalar admission.lone tree text rest →
    admission.Admits tree → Separated rest → depth ≤ admission.maxDepth → nodes + 1 ≤ admission.maxNodes →
      scanner.scalar place depth nodes text = .ok (nodes + 1, rest)
  name_sound : ∀ {place keys text kept rest}, scanner.name place keys text = .ok (kept, rest) →
    ∃ key, JsonGrammar.Characters admission.lone key text rest ∧ kept = admission.keep key ∧ admission.fresh kept keys
  name_complete : ∀ {place keys text key rest}, JsonGrammar.Characters admission.lone key text rest →
    admission.fresh (admission.keep key) keys → scanner.name place keys text = .ok (admission.keep key, rest)

@[simp] theorem raising_eq_ok {E A : Type} {outcome : Except E A} {result : A} :
    raising outcome = .ok result ↔ outcome = .ok result := by
  cases outcome <;> simp [raising, Except.mapError]

@[simp] theorem raising_ok {E A : Type} {result : A} : raising (.ok result : Except E A) = .ok result := rfl

namespace JsonScanner

open JsonGrammar

variable {Place Key E : Type} {scanner : JsonScanner Place Key E} {admission : Admission Key}

theorem consume_eq_ok {mark : CodePoint} {text rest : Text} (found : scanner.consume mark text = .ok rest) :
    expect mark text = some rest := by
  rw [consume] at found
  split at found
  · rename_i after known
    cases found
    exact known
  · cases found

theorem consume_of_expect {mark : CodePoint} {text rest : Text} (found : expect mark text = some rest) :
    scanner.consume mark text = .ok rest := by
  rw [consume, found]

/-- A scalar has no value below it. -/
theorem scalar_measures {lone : Prop} {tree : JsonSyntax} {text rest : Text} (derived : Scalar lone tree text rest) :
    valueDepth tree = 0 ∧ valueCount tree = 1 := by
  cases derived <;> simp [valueDepth, valueCount]

section Sound

mutual

/-- A value that is scanned is derived and passes. -/
theorem scanValue_sound (meets : scanner.Meets admission) : (fuel : Nat) → {depth : Nat} → {place : Place} → {nodes : Nat} → {text : Text} → {counted : Nat} →
    {rest : Text} → scanner.scanValue fuel depth place nodes text = .ok (counted, rest) →
    ∃ tree, Value admission.lone tree text rest ∧ admission.Passes depth nodes tree counted
  | 0, _, _, _, _, _, _, scanned => by rw [scanValue] at scanned; cases scanned
  | fuel + 1, depth, place, nodes, text, counted, rest, scanned => by
    have items := @scanItems_sound meets fuel
    have members := @scanMembers_sound meets fuel
    rw [scanValue.eq_def] at scanned
    dsimp only at scanned
    rw [bind_unit_eq_ok, raising_eq_ok] at scanned
    obtain ⟨called, scanned⟩ := scanned
    cases text with
    | nil => cases scanned
    | cons first others =>
      dsimp only at scanned
      split at scanned
      · rename_i opening
        rw [opening]
        obtain ⟨visited, visit, scanned⟩ := bind_eq_ok.mp scanned
        obtain ⟨shallow, few, rfl⟩ := (meets.visits called).mp (raising_eq_ok.mp visit)
        split at scanned
        · rename_i after closed
          cases scanned
          exact ⟨.obj [], Value.emptyObj (space_of_expect closed), by simp [Admission.Admits, Admission.AdmitsMembers],
            by simpa [valueDepth, depthMembers], by simp [valueCount, countMembers], few⟩
        · obtain ⟨values, derived, passes⟩ := members scanned
          refine ⟨.obj values, Value.obj (space_skipSpace others) derived, ?_, ?_, ?_, passes.few⟩
          · rw [Admission.Admits]
            exact passes.admits
          · rw [valueDepth]
            exact passes.shallow
          · rw [valueCount, passes.counts]
            omega
      · split at scanned
        · rename_i opening
          rw [opening]
          obtain ⟨visited, visit, scanned⟩ := bind_eq_ok.mp scanned
          obtain ⟨shallow, few, rfl⟩ := (meets.visits called).mp (raising_eq_ok.mp visit)
          split at scanned
          · rename_i after closed
            cases scanned
            exact ⟨.arr [], Value.emptyArr (space_of_expect closed), by simp [Admission.Admits, Admission.AdmitsItems],
              by simpa [valueDepth, depthItems], by simp [valueCount, countItems], few⟩
          · obtain ⟨values, derived, passes⟩ := items scanned
            refine ⟨.arr values, Value.arr (space_skipSpace others) derived, ?_, ?_, ?_, passes.few⟩
            · rw [Admission.Admits]
              exact passes.admits
            · rw [valueDepth]
              exact passes.shallow
            · rw [valueCount, passes.counts]
              omega
        · obtain ⟨tree, derived, admits, shallow, few, rfl⟩ := meets.scalar_sound called (raising_eq_ok.mp scanned)
          obtain ⟨flat, single⟩ := scalar_measures derived
          exact ⟨tree, Value.scalar derived, admits, by rwa [flat], by rw [single], few⟩

theorem scanItems_sound (meets : scanner.Meets admission) : (fuel : Nat) → {depth : Nat} → {place : Place} → {index nodes : Nat} → {text : Text} →
    {counted : Nat} → {rest : Text} → scanner.scanItems fuel depth place index nodes text = .ok (counted, rest) →
    ∃ items, Items admission.lone items text rest ∧ admission.PassesItems depth nodes items counted
  | 0, _, _, _, _, _, _, _, scanned => by rw [scanItems] at scanned; cases scanned
  | fuel + 1, depth, place, index, nodes, text, counted, rest, scanned => by
    have later := @scanItems_sound meets fuel
    rw [scanItems] at scanned
    obtain ⟨⟨reached, after⟩, first, scanned⟩ := bind_eq_ok.mp scanned
    obtain ⟨item, derived, passes⟩ := scanValue_sound meets fuel first
    have deep := passes.shallow
    dsimp only at scanned
    split at scanned
    · rename_i rest closed
      cases scanned
      refine ⟨[item], Items.last derived (space_of_expect closed), ?_, ?_, ?_, passes.few⟩
      · simpa only [Admission.AdmitsItems, and_true] using passes.admits
      · simp only [depthItems]
        omega
      · simp only [countItems, passes.counts]
        omega
    · obtain ⟨next, separator, scanned⟩ := bind_eq_ok.mp scanned
      obtain ⟨items, others, following⟩ := later scanned
      have deeper := following.shallow
      refine ⟨item :: items, Items.more derived (space_of_expect (consume_eq_ok separator)) (space_skipSpace next) others,
        ?_, ?_, ?_, following.few⟩
      · rw [Admission.AdmitsItems]
        exact ⟨passes.admits, following.admits⟩
      · rw [depthItems]
        omega
      · rw [countItems, following.counts, passes.counts]
        omega

theorem scanMembers_sound (meets : scanner.Meets admission) : (fuel : Nat) → {depth : Nat} → {place : Place} → {keys : List Key} → {nodes : Nat} →
    {text : Text} → {counted : Nat} → {rest : Text} →
    scanner.scanMembers fuel depth place keys nodes text = .ok (counted, rest) →
    ∃ members, Members admission.lone members text rest ∧ admission.PassesMembers depth keys nodes members counted
  | 0, _, _, _, _, _, _, _, scanned => by rw [scanMembers] at scanned; cases scanned
  | fuel + 1, depth, place, keys, nodes, text, counted, rest, scanned => by
    have later := @scanMembers_sound meets fuel
    rw [scanMembers] at scanned
    obtain ⟨unquoted, opening, scanned⟩ := bind_eq_ok.mp scanned
    obtain ⟨⟨kept, named⟩, name, scanned⟩ := bind_eq_ok.mp scanned
    obtain ⟨key, characters, rfl, fresh⟩ := meets.name_sound (raising_eq_ok.mp name)
    obtain ⟨next, separator, scanned⟩ := bind_eq_ok.mp scanned
    obtain ⟨⟨reached, after⟩, first, scanned⟩ := bind_eq_ok.mp scanned
    obtain ⟨value, derived, passes⟩ := scanValue_sound meets fuel first
    have member := Member.mk characters (space_of_expect (consume_eq_ok separator)) (space_skipSpace next) derived
    have deep := passes.shallow
    rw [expect_eq_some (consume_eq_ok opening)]
    dsimp only at scanned
    split at scanned
    · rename_i rest closed
      cases scanned
      refine ⟨[(key, value)], Members.last member (space_of_expect closed), ?_, ?_, ?_, passes.few⟩
      · simp only [Admission.AdmitsMembers, and_true]
        exact ⟨fresh, passes.admits⟩
      · simp only [depthMembers]
        omega
      · simp only [countMembers, passes.counts]
        omega
    · obtain ⟨following, comma, scanned⟩ := bind_eq_ok.mp scanned
      obtain ⟨members, others, rest⟩ := later scanned
      have deeper := rest.shallow
      refine ⟨(key, value) :: members, Members.more member (space_of_expect (consume_eq_ok comma))
        (space_skipSpace following) others, ?_, ?_, ?_, rest.few⟩
      · rw [Admission.AdmitsMembers]
        exact ⟨fresh, passes.admits, rest.admits⟩
      · rw [depthMembers]
        omega
      · rw [countMembers, rest.counts, passes.counts]
        omega

end

end Sound

section Complete

/-- A container within the bounds is entered. -/
theorem Meets.enters (meets : scanner.Meets admission) {depth nodes : Nat} (place : Place) (shallow : depth ≤ admission.maxDepth)
    (few : nodes + 1 ≤ admission.maxNodes) :
    scanner.call depth = .ok () ∧ scanner.visit place depth nodes = .ok (nodes + 1) :=
  ⟨meets.calls shallow, (meets.visits (meets.calls shallow)).mpr ⟨shallow, few, rfl⟩⟩

mutual

/-- A derived value that passes is scanned. -/
theorem scanValue_complete (meets : scanner.Meets admission) {tree : JsonSyntax} {text rest : Text} :
    Value admission.lone tree text rest → Separated rest → {depth : Nat} → {place : Place} → {nodes counted fuel : Nat} →
    admission.Passes depth nodes tree counted → 2 * text.length + 1 ≤ fuel →
    scanner.scanValue fuel depth place nodes text = .ok (counted, rest)
  | .scalar derived, separated, depth, place, nodes, counted, fuel, passes, enough => by
    obtain ⟨less, rfl⟩ : ∃ less, fuel = less + 1 := ⟨fuel - 1, by omega⟩
    obtain ⟨flat, single⟩ := scalar_measures derived
    obtain ⟨admits, shallow, rfl, few⟩ := passes
    rw [flat, Nat.add_zero] at shallow
    rw [single] at few ⊢
    have scanned := @Meets.scalar_complete _ _ _ _ _ meets place depth nodes _ _ _ derived admits separated shallow few
    obtain ⟨first, others, rfl, _, bracket, brace⟩ := derived.opens
    rw [scanValue.eq_def]
    simp only [meets.calls shallow, raising_ok, ok_bind_eq, if_neg bracket, if_neg brace, scanned]
  | .emptyArr space, _, depth, place, nodes, counted, fuel, passes, enough => by
    obtain ⟨less, rfl⟩ : ∃ less, fuel = less + 1 := ⟨fuel - 1, by omega⟩
    obtain ⟨_, shallow, rfl, few⟩ := passes
    simp only [valueDepth, depthItems, valueCount, countItems, Nat.add_zero, Nat.zero_add] at shallow few ⊢
    obtain ⟨called, visited⟩ := meets.enters place shallow few
    rw [scanValue.eq_def]
    simp only [called, raising_ok, ok_bind_eq, if_neg (by decide : ¬ openBracket = openBrace), if_true, visited,
      space.expect_eq (by decide)]
    rfl
  | @Value.arr _ items text inner rest space derived, _, depth, place, nodes, counted, fuel, passes, enough => by
    obtain ⟨less, rfl⟩ : ∃ less, fuel = less + 1 := ⟨fuel - 1, by omega⟩
    obtain ⟨admits, shallow, rfl, few⟩ := passes
    rw [Admission.Admits] at admits
    rw [valueDepth] at shallow
    rw [valueCount] at few ⊢
    have shorter := space.length_le
    rw [length_cons] at enough
    obtain ⟨called, visited⟩ := meets.enters place (by omega : depth ≤ _) (by omega : nodes + 1 ≤ _)
    have inside := @scanItems_complete meets items inner rest derived depth (scanner.inside .array place) 0 (nodes + 1) _ less
      ⟨admits, shallow, rfl, by omega⟩ (by omega)
    have plain := space.skipSpace_opens derived.opens
    obtain ⟨first, others, rfl, opens⟩ := derived.opens
    rw [scanValue.eq_def]
    simp only [called, raising_ok, ok_bind_eq, if_neg (by decide : ¬ openBracket = openBrace), if_true, visited,
      plain, expect_other opens.2.1, inside]
    rw [Nat.add_right_comm, Nat.add_assoc]
  | .emptyObj space, _, depth, place, nodes, counted, fuel, passes, enough => by
    obtain ⟨less, rfl⟩ : ∃ less, fuel = less + 1 := ⟨fuel - 1, by omega⟩
    obtain ⟨_, shallow, rfl, few⟩ := passes
    simp only [valueDepth, depthMembers, valueCount, countMembers, Nat.add_zero, Nat.zero_add] at shallow few ⊢
    obtain ⟨called, visited⟩ := meets.enters place shallow few
    rw [scanValue.eq_def]
    simp only [called, raising_ok, ok_bind_eq, if_true, visited, space.expect_eq (by decide)]
    rfl
  | @Value.obj _ members text inner rest space derived, _, depth, place, nodes, counted, fuel, passes, enough => by
    obtain ⟨less, rfl⟩ : ∃ less, fuel = less + 1 := ⟨fuel - 1, by omega⟩
    obtain ⟨admits, shallow, rfl, few⟩ := passes
    rw [Admission.Admits] at admits
    rw [valueDepth] at shallow
    rw [valueCount] at few ⊢
    have shorter := space.length_le
    rw [length_cons] at enough
    obtain ⟨called, visited⟩ := meets.enters place (by omega : depth ≤ _) (by omega : nodes + 1 ≤ _)
    have inside := @scanMembers_complete meets members inner rest derived depth (scanner.inside .object place) []
      (nodes + 1) _ less ⟨admits, shallow, rfl, by omega⟩ (by omega)
    have plain := space.skipSpace_opens derived.opens
    obtain ⟨first, others, rfl, opens⟩ := derived.opens
    rw [scanValue.eq_def]
    simp only [called, raising_ok, ok_bind_eq, if_true, visited, plain, expect_other opens.2.2, inside]
    rw [Nat.add_right_comm, Nat.add_assoc]

theorem scanItems_complete (meets : scanner.Meets admission) {items : List JsonSyntax} {text rest : Text} :
    Items admission.lone items text rest → {depth : Nat} → {place : Place} → {index nodes counted fuel : Nat} →
    admission.PassesItems depth nodes items counted → 2 * text.length + 2 ≤ fuel →
    scanner.scanItems fuel depth place index nodes text = .ok (counted, rest)
  | .last item close, depth, place, index, nodes, counted, fuel, passes, enough => by
    obtain ⟨less, rfl⟩ : ∃ less, fuel = less + 1 := ⟨fuel - 1, by omega⟩
    obtain ⟨admits, shallow, rfl, few⟩ := passes
    simp only [Admission.AdmitsItems, and_true] at admits
    simp only [depthItems] at shallow
    simp only [countItems, Nat.add_zero] at few ⊢
    have first := @scanValue_complete meets _ _ _ item (close.separated (separated_mark (by decide))) (depth + 1)
      (scanner.item place index) nodes _ less ⟨admits, by omega, rfl, few⟩ (by omega)
    rw [scanItems]
    simp only [first, ok_bind_eq, close.expect_eq (by decide)]
    rfl
  | @Items.more _ value values _ _ _ _ _ item separator space later, depth, place, index, nodes, counted, fuel, passes,
      enough => by
      obtain ⟨less, rfl⟩ : ∃ less, fuel = less + 1 := ⟨fuel - 1, by omega⟩
      obtain ⟨admits, shallow, rfl, few⟩ := passes
      rw [Admission.AdmitsItems] at admits
      rw [depthItems] at shallow
      rw [countItems] at few ⊢
      have shorter := item.length_lt
      have comma := separator.length_le
      have skipped := space.length_le
      rw [length_cons] at comma
      have first := @scanValue_complete meets _ _ _ item (separator.separated (separated_mark (by decide))) (depth + 1)
        (scanner.item place index) nodes _ less ⟨admits.1, by omega, rfl, by omega⟩ (by omega)
      have others := @scanItems_complete meets _ _ _ later depth place (index + 1) (nodes + valueCount value) _ less
        ⟨admits.2, by omega, rfl, by omega⟩ (by omega)
      rw [scanItems]
      simp only [first, ok_bind_eq, separator.expect_ne (by decide : isSpace JsonSyntax.comma = false)
        (by decide : JsonSyntax.comma ≠ closeBracket),
        consume_of_expect (separator.expect_eq (by decide : isSpace JsonSyntax.comma = false)),
        space.skipSpace_opens later.opens, others, Nat.add_assoc]

theorem scanMembers_complete (meets : scanner.Meets admission) {members : List (Text × JsonSyntax)} {text rest : Text} :
    Members admission.lone members text rest → {depth : Nat} → {place : Place} → {keys : List Key} →
    {nodes counted fuel : Nat} → admission.PassesMembers depth keys nodes members counted → 2 * text.length + 2 ≤ fuel →
    scanner.scanMembers fuel depth place keys nodes text = .ok (counted, rest)
  | .last (@Member.mk _ key value _ _ _ _ _ name separator start derived) close, depth, place, keys, nodes, counted, fuel,
      passes, enough => by
      obtain ⟨less, rfl⟩ : ∃ less, fuel = less + 1 := ⟨fuel - 1, by omega⟩
      obtain ⟨admits, shallow, rfl, few⟩ := passes
      simp only [Admission.AdmitsMembers, and_true] at admits
      simp only [depthMembers] at shallow
      simp only [countMembers, Nat.add_zero] at few ⊢
      have named := name.length_lt
      have colon := separator.length_le
      have skipped := start.length_le
      rw [length_cons] at colon enough
      have first := @scanValue_complete meets _ _ _ derived (close.separated (separated_mark (by decide))) (depth + 1)
        (scanner.member place (admission.keep key)) nodes _ less ⟨admits.2, by omega, rfl, few⟩ (by omega)
      rw [scanMembers]
      simp only [consume_of_expect expect_self, meets.name_complete name admits.1, raising_ok, ok_bind_eq,
        consume_of_expect (separator.expect_eq (by decide : isSpace JsonSyntax.colon = false)),
        start.skipSpace_opens derived.opens, first, close.expect_eq (by decide)]
      rfl
  | .more (@Member.mk _ key value _ _ _ _ _ name separator start derived) next space later, depth, place, keys, nodes, counted,
      fuel, passes, enough => by
      obtain ⟨less, rfl⟩ : ∃ less, fuel = less + 1 := ⟨fuel - 1, by omega⟩
      obtain ⟨admits, shallow, rfl, few⟩ := passes
      rw [Admission.AdmitsMembers] at admits
      rw [depthMembers] at shallow
      rw [countMembers] at few ⊢
      have named := name.length_lt
      have colon := separator.length_le
      have skipped := start.length_le
      have shorter := derived.length_lt
      have comma := next.length_le
      have spaces := space.length_le
      rw [length_cons] at colon comma enough
      have first := @scanValue_complete meets _ _ _ derived (next.separated (separated_mark (by decide))) (depth + 1)
        (scanner.member place (admission.keep key)) nodes _ less ⟨admits.2.1, by omega, rfl, by omega⟩ (by omega)
      have others := @scanMembers_complete meets _ _ _ later depth place (admission.keep key :: keys)
        (nodes + valueCount value) _ less ⟨admits.2.2, by omega, rfl, by omega⟩ (by omega)
      rw [scanMembers]
      simp only [consume_of_expect expect_self, meets.name_complete name admits.1, raising_ok, ok_bind_eq,
        consume_of_expect (separator.expect_eq (by decide : isSpace JsonSyntax.colon = false)),
        start.skipSpace_opens derived.opens, first, next.expect_ne (by decide : isSpace JsonSyntax.comma = false)
        (by decide : JsonSyntax.comma ≠ JsonSyntax.closeBrace),
        consume_of_expect (next.expect_eq (by decide : isSpace JsonSyntax.comma = false)),
        space.skipSpace_opens later.opens, others, Nat.add_assoc]

end

end Complete

section Finishes

/-- Every error of a scanner is an allowed one. -/
structure RaisesOnly (scanner : JsonScanner Place Key E) (allowed : E → Prop) : Prop where
  call : ∀ {depth}, Raises allowed (scanner.call depth)
  visit : ∀ {place depth nodes}, Raises allowed (scanner.visit place depth nodes)
  scalar : ∀ {place depth nodes text}, Raises allowed (scanner.scalar place depth nodes text)
  name : ∀ {place keys text}, Raises allowed (scanner.name place keys text)
  refuse : ∀ text, allowed (scanner.refuse text)

/-- A scan that stops was stopped by its scanner. -/
def Stopped (allowed : E → Prop) (stop : ScanStop E) : Prop :=
  ∃ error, stop = .raised error ∧ allowed error

variable {allowed : E → Prop}

theorem raises_raising {A : Type} {outcome : Except E A} (raises : Raises allowed outcome) :
    Raises (Stopped allowed) (raising outcome) := by
  intro stop failed
  cases outcome with
  | ok value => cases failed
  | error error =>
    cases failed
    exact ⟨error, rfl, raises error rfl⟩

theorem raises_consume (only : scanner.RaisesOnly allowed) {mark : CodePoint} {text : Text} :
    Raises (Stopped allowed) (scanner.consume mark text) := by
  rw [consume]
  split
  · exact .ok
  · exact .error ⟨_, rfl, only.refuse text⟩

mutual

/-- The steps of a scan suffice: it stops at an error of its scanner only. -/
theorem scanValue_raises (meets : scanner.Meets admission) (only : scanner.RaisesOnly allowed) : (fuel : Nat) →
    {depth : Nat} → {place : Place} → {nodes : Nat} → {text : Text} → 2 * text.length + 1 ≤ fuel →
    Raises (Stopped allowed) (scanner.scanValue fuel depth place nodes text)
  | 0, _, _, _, _, enough => absurd enough (by omega)
  | fuel + 1, depth, place, nodes, text, enough => by
    have items := @scanItems_raises meets only fuel
    have members := @scanMembers_raises meets only fuel
    rw [scanValue.eq_def]
    dsimp only
    refine .bind (raises_raising only.call) fun _ _ => ?_
    cases text with
    | nil => exact .error ⟨_, rfl, only.refuse []⟩
    | cons first others =>
      have spaces := (space_skipSpace others).length_le
      rw [length_cons] at enough
      dsimp only
      split
      · refine .bind (raises_raising only.visit) fun _ _ => ?_
        split
        · exact .ok
        · exact members (by omega)
      · split
        · refine .bind (raises_raising only.visit) fun _ _ => ?_
          split
          · exact .ok
          · exact items (by omega)
        · exact raises_raising only.scalar

theorem scanItems_raises (meets : scanner.Meets admission) (only : scanner.RaisesOnly allowed) : (fuel : Nat) →
    {depth : Nat} → {place : Place} → {index nodes : Nat} → {text : Text} → 2 * text.length + 2 ≤ fuel →
    Raises (Stopped allowed) (scanner.scanItems fuel depth place index nodes text)
  | 0, _, _, _, _, _, enough => absurd enough (by omega)
  | fuel + 1, depth, place, index, nodes, text, enough => by
    have later := @scanItems_raises meets only fuel
    rw [scanItems]
    refine .bind (scanValue_raises meets only fuel (by omega)) fun found first => ?_
    obtain ⟨counted, after⟩ := found
    obtain ⟨item, derived, _⟩ := scanValue_sound meets fuel first
    have shorter := derived.length_lt
    dsimp only
    split
    · exact .ok
    · refine .bind (raises_consume only) fun next separator => ?_
      have comma := (space_of_expect (consume_eq_ok separator)).length_le
      have spaces := (space_skipSpace next).length_le
      rw [length_cons] at comma
      exact later (by omega)

theorem scanMembers_raises (meets : scanner.Meets admission) (only : scanner.RaisesOnly allowed) : (fuel : Nat) →
    {depth : Nat} → {place : Place} → {keys : List Key} → {nodes : Nat} → {text : Text} → 2 * text.length + 2 ≤ fuel →
    Raises (Stopped allowed) (scanner.scanMembers fuel depth place keys nodes text)
  | 0, _, _, _, _, _, enough => absurd enough (by omega)
  | fuel + 1, depth, place, keys, nodes, text, enough => by
    have later := @scanMembers_raises meets only fuel
    rw [scanMembers]
    refine .bind (raises_consume only) fun unquoted opening => .bind (raises_raising only.name) fun found name => ?_
    obtain ⟨key, named⟩ := found
    refine .bind (raises_consume only) fun value separator => ?_
    obtain ⟨_, characters, _⟩ := meets.name_sound (raising_eq_ok.mp name)
    have quoted := congrArg List.length (expect_eq_some (consume_eq_ok opening))
    have inside := characters.length_lt
    have colon := (space_of_expect (consume_eq_ok separator)).length_le
    have spaces := (space_skipSpace value).length_le
    rw [length_cons] at quoted colon
    refine .bind (scanValue_raises meets only fuel (by omega)) fun found first => ?_
    obtain ⟨counted, after⟩ := found
    obtain ⟨_, derived, _⟩ := scanValue_sound meets fuel first
    have shorter := derived.length_lt
    dsimp only
    split
    · exact .ok
    · refine .bind (raises_consume only) fun next comma => ?_
      have marked := (space_of_expect (consume_eq_ok comma)).length_le
      have blanks := (space_skipSpace next).length_le
      rw [length_cons] at marked
      exact later (by omega)

end

/-- A scan of a document ends, or is stopped by its scanner. -/
theorem scanDocument_raises (meets : scanner.Meets admission) (only : scanner.RaisesOnly allowed) {root : Place} {text : Text} :
    Raises (Stopped allowed) (scanner.scanDocument root text) := by
  have shorter := (space_skipSpace text).length_le
  refine .bind (scanValue_raises meets only _ (by omega)) fun found _ => ?_
  obtain ⟨counted, rest⟩ := found
  dsimp only
  split
  · exact .ok
  · exact .error ⟨_, rfl, only.refuse _⟩

/-- A scan ends. -/
theorem scanDocument_finishes (meets : scanner.Meets admission) {root : Place} {text : Text} :
    scanner.scanDocument root text ≠ .error .unfinished := by
  intro stopped
  have any : scanner.RaisesOnly fun _ => True :=
    ⟨fun _ _ => trivial, fun _ _ => trivial, fun _ _ => trivial, fun _ _ => trivial, fun _ => trivial⟩
  obtain ⟨_, raised, _⟩ := scanDocument_raises meets any _ stopped
  cases raised

end Finishes

/-- A scan accepts exactly the documents of the grammar that pass. -/
theorem scanDocument_eq_ok (meets : scanner.Meets admission) {root : Place} {text : Text} :
    scanner.scanDocument root text = .ok () ↔
      ∃ tree, Document admission.lone tree text ∧ admission.Passes 0 0 tree (valueCount tree) := by
  rw [scanDocument]
  constructor
  · intro scanned
    obtain ⟨⟨counted, rest⟩, value, ends⟩ := bind_eq_ok.mp scanned
    obtain ⟨tree, derived, passes⟩ := scanValue_sound meets _ value
    have counts : counted = valueCount tree := by rw [passes.counts, Nat.zero_add]
    dsimp only at ends
    split at ends
    · rename_i done
      exact ⟨tree, Document.mk (space_skipSpace text) derived (done ▸ space_skipSpace rest), counts ▸ passes⟩
    · cases ends
  · rintro ⟨tree, ⟨before, derived, after⟩, passes⟩
    have shorter := before.length_le
    have first := @scanValue_complete _ _ _ _ _ meets _ _ _ derived (after.separated separated_nil) 0 root 0 _
      (2 * text.length + 1) passes (by omega)
    have ends := after.skipSpace_eq (by rintro _ ⟨⟩)
    simp only [before.skipSpace_opens derived.opens, first, ok_bind_eq, ends]
    rfl

end JsonScanner

end CiCoordinator.Kernel

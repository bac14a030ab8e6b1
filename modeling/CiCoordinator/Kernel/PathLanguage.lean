import CiCoordinator.Kernel.Errors
import CiCoordinator.Kernel.PathPatterns
import CiCoordinator.Library.PositionSets

/- The language of a path pattern and the proof that the matcher decides it. -/

namespace CiCoordinator.Kernel

open Library List

/-- The tokens of a pattern, where an unclosed brace raises. -/
def tokenizePattern : Nat → Text → Py (List PatternToken)
  | 0, _ => .ok []
  | _ + 1, [] => .ok []
  | fuel + 1, character :: rest =>
    if (ascii "**/").isPrefixOf (character :: rest) then
      (.recursiveDirectories :: ·) <$> tokenizePattern fuel (rest.drop 2)
    else if (ascii "**").isPrefixOf (character :: rest) then (.recursive :: ·) <$> tokenizePattern fuel (rest.drop 1)
    else if character = 0x2A then (.segment :: ·) <$> tokenizePattern fuel rest
    else if character = 0x3F then (.single :: ·) <$> tokenizePattern fuel rest
    else if character = 0x7B then
      match closeBrace rest with
      | none => .error (.valueError (ascii "path pattern contains an unclosed brace expansion"))
      | some (inside, after) => (.literal (inside.splitOn 0x2C) :: ·) <$> tokenizePattern fuel after
    else
      let (run, after) := rest.span fun point => point ≠ 0x2A && point ≠ 0x3F && point ≠ 0x7B
      (.literal [character :: run] :: ·) <$> tokenizePattern fuel after

/-- The match of a path, where the tokens of the pattern may raise. -/
def matchPathPattern (pattern path : Text) : Py Bool := do
  if validatePathPattern pattern ≠ none ∨ maxRepositoryPathCharacters < path.length ∨ !isSafeRelativePath path then
    return false
  let tokens ← tokenizePattern (pattern.length + 1) pattern
  return (advanceAll path tokens [0]).contains path.length

/-- The paths that a pattern denotes, read from left to right. -/
inductive PatternLanguage : Text → Text → Prop
  | empty : PatternLanguage [] []
  /-- An optional run that ends in a slash. -/
  | recursiveDirectories {rest run path : Text} :
      run = [] ∨ (∃ before, run = before ++ ascii "/") → PatternLanguage rest path →
        PatternLanguage (0x2A :: 0x2A :: 0x2F :: rest) (run ++ path)
  /-- Any run; two stars before a slash are the case above. -/
  | recursive {rest run path : Text} :
      rest.head? ≠ some 0x2F → PatternLanguage rest path → PatternLanguage (0x2A :: 0x2A :: rest) (run ++ path)
  /-- Any run without a slash; a star before a star belongs to the two cases above. -/
  | segment {rest run path : Text} :
      rest.head? ≠ some 0x2A → 0x2F ∉ run → PatternLanguage rest path → PatternLanguage (0x2A :: rest) (run ++ path)
  | single {rest path : Text} {character : CodePoint} :
      character ≠ 0x2F → PatternLanguage rest path → PatternLanguage (0x3F :: rest) (character :: path)
  /-- One of the alternatives between the braces. -/
  | group {inside rest alternative path : Text} :
      0x7D ∉ inside → alternative ∈ inside.splitOn 0x2C → PatternLanguage rest path →
        PatternLanguage (0x7B :: (inside ++ 0x7D :: rest)) (alternative ++ path)
  /-- Every other character stands for itself. -/
  | character {rest path : Text} {character : CodePoint} :
      character ≠ 0x2A → character ≠ 0x3F → character ≠ 0x7B → PatternLanguage rest path →
        PatternLanguage (character :: rest) (character :: path)

/-- The words of a token. -/
def PatternToken.language : PatternToken → Language CodePoint
  | .literal alternatives => {word | word ∈ alternatives}
  | .single => {word | ∃ character, character ≠ 0x2F ∧ word = [character]}
  | .segment => {word | 0x2F ∉ word}
  | .recursive => Set.univ
  | .recursiveDirectories => {word | word = [] ∨ ∃ before, word = before ++ ascii "/"}

section Tokens

variable {path : Text} {reachable : List Nat}

theorem advance_literal (alternatives : List Text) :
    Advances (PatternToken.literal alternatives).language path reachable (advance (.literal alternatives) path reachable) := by
  intro stop
  simp only [advance, mem_dedup, mem_flatMap, mem_map, mem_filter, Bool.and_eq_true,
    decide_eq_true_eq, List.isPrefixOf_iff_prefix, spans_iff]
  constructor
  · rintro ⟨start, member, word, ⟨listed, inside, starts⟩, rfl⟩
    exact ⟨start, member, inside, word, listed, starts, rfl⟩
  · rintro ⟨start, member, inside, word, listed, starts, rfl⟩
    exact ⟨start, member, word, ⟨listed, inside, starts⟩, rfl⟩

theorem advance_single (bounded : ∀ start ∈ reachable, start ≤ path.length) :
    Advances PatternToken.single.language path reachable (advance .single path reachable) := by
  intro stop
  simp only [advance, mem_map, mem_filter, spans_iff]
  constructor
  · rintro ⟨start, ⟨member, differs⟩, rfl⟩
    refine ⟨start, member, bounded start member, ?_⟩
    cases remaining : path.drop start with
    | nil => simp [remaining] at differs
    | cons character rest =>
      rw [remaining] at differs
      exact ⟨[character], ⟨character, by simpa using differs, rfl⟩, ⟨rest, rfl⟩, rfl⟩
  · rintro ⟨start, member, -, word, ⟨character, differs, rfl⟩, ⟨rest, split⟩, rfl⟩
    refine ⟨start, ⟨member, ?_⟩, rfl⟩
    rw [← split]
    simpa using differs

/-- A position lies behind the least reached one when it lies behind a reached one. -/
theorem minimum_le_iff (some : reachable ≠ []) {stop : Nat} :
    reachable.min?.getD 0 ≤ stop ↔ ∃ start ∈ reachable, start ≤ stop := by
  obtain ⟨minimum, found⟩ := Option.ne_none_iff_exists'.mp (mt min?_eq_none_iff.mp some)
  obtain ⟨member, least⟩ := min?_eq_some_iff.mp found
  rw [found]
  constructor
  · exact fun below => ⟨minimum, member, below⟩
  · rintro ⟨start, startMember, below⟩
    exact (least start startMember).trans below

theorem advance_recursive (some : reachable ≠ []) :
    Advances PatternToken.recursive.language path reachable (advance .recursive path reachable) := by
  intro stop
  simp only [advance, mem_filter, mem_range, decide_eq_true_eq, minimum_le_iff some]
  constructor
  · rintro ⟨inside, start, member, forward⟩
    exact ⟨start, member, forward, Nat.le_of_lt_succ inside, Set.mem_univ _⟩
  · rintro ⟨start, member, forward, inside, -⟩
    exact ⟨Nat.lt_succ_of_le inside, start, member, forward⟩

theorem advance_recursiveDirectories (some : reachable ≠ []) (bounded : ∀ start ∈ reachable, start ≤ path.length) :
    Advances PatternToken.recursiveDirectories.language path reachable (advance .recursiveDirectories path reachable) := by
  intro stop
  simp only [advance, mem_dedup, mem_append, mem_map, mem_filter, mem_range,
    Bool.and_eq_true, decide_eq_true_eq, minimum_le_iff some]
  constructor
  · rintro (member | ⟨index, ⟨inside, ⟨start, member, forward⟩, slash⟩, rfl⟩)
    · exact ⟨stop, member, spans_iff.mpr ⟨bounded stop member, [], .inl rfl, nil_prefix, rfl⟩⟩
    · refine ⟨start, member, forward.trans (Nat.le_succ _), inside, .inr ⟨(path.drop start).take (index - start), ?_⟩⟩
      have position : index - start < (path.drop start).length := by
        rw [length_drop]
        omega
      rw [show index + 1 - start = index - start + 1 by omega, take_succ_eq_append_getElem position]
      congr 1
      rw [getElem_drop]
      simp only [show start + (index - start) = index by omega]
      have equal : path[index] = 0x2F := by simpa [getElem?_eq_getElem inside] using slash
      rw [equal]
      rfl
  · rintro ⟨start, member, span⟩
    obtain ⟨inside, word, listed, ⟨rest, split⟩, rfl⟩ := spans_iff.mp span
    rcases listed with rfl | ⟨before, rfl⟩
    · exact .inl member
    · have remaining : path.drop (start + before.length) = ascii "/" ++ rest := by
        rw [← drop_drop, ← split, append_assoc, drop_left]
      have fits := congrArg List.length split
      simp only [length_append, length_drop, show (ascii "/").length = 1 from rfl] at fits
      refine .inr ⟨start + before.length, ⟨by omega, ⟨start, member, Nat.le_add_right _ _⟩, ?_⟩, ?_⟩
      · rw [remaining]
        rfl
      · rw [length_append, show (ascii "/").length = 1 from rfl, Nat.add_assoc]

/-- The active positions are those that a run without a slash joins to a reached one. -/
theorem mem_advanceSegment {stop : Nat} (rest : Text) (index : Nat) (active : Bool) :
    stop ∈ advanceSegment reachable rest index active ↔ index ≤ stop ∧ stop ≤ index + rest.length ∧
        ((active = true ∧ 0x2F ∉ rest.take (stop - index)) ∨
          ∃ start ∈ reachable, index ≤ start ∧ start ≤ stop ∧ 0x2F ∉ (rest.drop (start - index)).take (stop - start)) := by
  induction rest generalizing index active with
  | nil =>
    simp only [advanceSegment, length_nil, Nat.add_zero, take_nil, drop_nil, not_mem_nil, not_false_iff, and_true]
    by_cases here : (active || reachable.contains index) = true
    · rw [if_pos here, mem_singleton]
      simp only [Bool.or_eq_true, contains_eq_mem, decide_eq_true_eq] at here
      constructor
      · rintro rfl
        exact ⟨le_rfl, le_rfl, here.imp id fun member => ⟨stop, member, le_rfl, le_rfl⟩⟩
      · exact fun bounds => le_antisymm bounds.2.1 bounds.1
    · rw [if_neg here]
      simp only [Bool.or_eq_true, contains_eq_mem, decide_eq_true_eq] at here
      refine ⟨fun member => absurd member not_mem_nil, ?_⟩
      rintro ⟨forward, inside, on | ⟨start, member, behind, before⟩⟩
      · exact absurd (.inl on) here
      · obtain rfl : start = index := by omega
        exact absurd (.inr member) here
  | cons character rest ih =>
    simp only [advanceSegment, mem_append, ih]
    by_cases same : stop = index
    · subst same
      have later : ¬ stop + 1 ≤ stop := Nat.not_succ_le_self stop
      simp only [later, false_and, or_false, Nat.sub_self, take_zero, not_mem_nil, not_false_iff, and_true,
        le_refl, true_and, Nat.le_add_right]
      by_cases here : (active || reachable.contains stop) = true
      · simp only [here, if_true, mem_singleton, true_iff]
        simp only [Bool.or_eq_true, contains_eq_mem, decide_eq_true_eq] at here
        exact here.imp id fun member => ⟨stop, member, le_rfl, le_rfl, by simp⟩
      · simp only [here, Bool.false_eq_true, if_false, not_mem_nil, false_iff]
        simp only [Bool.or_eq_true, contains_eq_mem, decide_eq_true_eq] at here
        rintro (on | ⟨start, member, behind, before, -⟩)
        · exact here (.inl on)
        · exact here (.inr (le_antisymm before behind ▸ member))
    · have outside : stop ∉ if (active || reachable.contains index) = true then [index] else [] := by
        split
        · simpa using same
        · exact not_mem_nil
      simp only [outside, false_or, length_cons]
      constructor
      · rintro ⟨forward, inside, joined⟩
        obtain ⟨distance, rfl⟩ := Nat.exists_eq_add_of_le forward
        refine ⟨by omega, by omega, ?_⟩
        rcases joined with ⟨on, free⟩ | ⟨start, member, behind, before, free⟩
        · simp only [Bool.and_eq_true, Bool.or_eq_true, contains_eq_mem, decide_eq_true_eq] at on
          have extended : 0x2F ∉ (character :: rest).take (distance + 1) := by
            rw [Nat.add_sub_cancel_left] at free
            rw [take_succ_cons, mem_cons, not_or]
            exact ⟨Ne.symm on.2, free⟩
          rcases on.1 with on | member
          · exact .inl ⟨on, by rwa [show index + 1 + distance - index = distance + 1 by omega]⟩
          · refine .inr ⟨index, member, le_rfl, by omega, ?_⟩
            rwa [Nat.sub_self, drop_zero, show index + 1 + distance - index = distance + 1 by omega]
        · refine .inr ⟨start, member, by omega, before, ?_⟩
          rwa [show start - index = start - (index + 1) + 1 by omega, drop_succ_cons]
      · rintro ⟨forward, inside, joined⟩
        obtain ⟨distance, rfl⟩ := Nat.exists_eq_add_of_lt (lt_of_le_of_ne forward (Ne.symm same))
        have taken : index + distance + 1 - index = distance + 1 := by omega
        refine ⟨by omega, by omega, ?_⟩
        have continued (free : 0x2F ∉ (character :: rest).take (distance + 1)) :
            character ≠ 0x2F ∧ 0x2F ∉ rest.take (index + distance + 1 - (index + 1)) := by
          rw [take_succ_cons, mem_cons, not_or] at free
          rw [show index + distance + 1 - (index + 1) = distance by omega]
          exact ⟨Ne.symm free.1, free.2⟩
        rcases joined with ⟨on, free⟩ | ⟨start, member, behind, before, free⟩
        · rw [taken] at free
          obtain ⟨differs, free⟩ := continued free
          exact .inl ⟨by simp [on, differs], free⟩
        · by_cases first : start = index
          · subst first
            rw [Nat.sub_self, drop_zero, taken] at free
            obtain ⟨differs, free⟩ := continued free
            exact .inl ⟨by simp [member, differs], free⟩
          · refine .inr ⟨start, member, by omega, before, ?_⟩
            rwa [show start - index = start - (index + 1) + 1 by omega, drop_succ_cons] at free

theorem advance_segment : Advances PatternToken.segment.language path reachable (advance .segment path reachable) := by
  intro stop
  rw [advance, mem_advanceSegment]
  constructor
  · rintro ⟨-, inside, ⟨on, -⟩ | ⟨start, member, -, forward, free⟩⟩
    · cases on
    · rw [Nat.zero_add] at inside
      exact ⟨start, member, forward, inside, free⟩
  · rintro ⟨start, member, forward, inside, free⟩
    exact ⟨Nat.zero_le _, by omega, .inr ⟨start, member, Nat.zero_le _, forward, free⟩⟩

/-- A token advances a set of positions by its words. -/
theorem advance_language (token : PatternToken) (some : reachable ≠ []) (bounded : ∀ start ∈ reachable, start ≤ path.length) :
    Advances token.language path reachable (advance token path reachable) := by
  cases token with
  | literal alternatives => exact advance_literal alternatives
  | single => exact advance_single bounded
  | segment => exact advance_segment
  | recursive => exact advance_recursive some
  | recursiveDirectories => exact advance_recursiveDirectories some bounded

/-- All tokens together advance by the product of their words. -/
theorem advanceAll_language (tokens : List PatternToken) (some : reachable ≠ [])
    (bounded : ∀ start ∈ reachable, start ≤ path.length) :
    Advances (tokens.map PatternToken.language).prod path reachable (advanceAll path tokens reachable) := by
  induction tokens generalizing reachable with
  | nil => exact Advances.refl bounded
  | cons token rest ih =>
    have step := advance_language token some bounded
    rw [map_cons, prod_cons]
    by_cases stuck : advance token path reachable = []
    · rw [stuck] at step
      simp only [advanceAll, stuck, if_true]
      exact step.of_stuck
    · simp only [advanceAll, stuck, if_false]
      exact step.trans (ih stuck step.inside)

end Tokens

section Pattern

/-- The paths of a pattern as a language. -/
def patternWords (pattern : Text) : Language CodePoint :=
  {path | PatternLanguage pattern path}

theorem patternWords_nil : patternWords [] = 1 := by
  ext path
  rw [Language.mem_one]
  constructor
  · intro member
    cases member
    rfl
  · rintro rfl
    exact .empty

/-- The first closing brace divides a text in one way. -/
theorem closing_unique {inside other after rest : Text} (closed : 0x7D ∉ inside) (otherClosed : 0x7D ∉ other)
    (equal : inside ++ (0x7D : CodePoint) :: after = other ++ 0x7D :: rest) : inside = other ∧ after = rest := by
  induction inside generalizing other with
  | nil =>
    cases other with
    | nil => exact ⟨rfl, (List.cons.inj equal).2⟩
    | cons character others => exact absurd ((List.cons.inj equal).1 ▸ mem_cons_self) otherClosed
  | cons character insides ih =>
    cases other with
    | nil => exact absurd ((List.cons.inj equal).1 ▸ mem_cons_self) closed
    | cons point others =>
      obtain ⟨rfl, tails⟩ := List.cons.inj equal
      obtain ⟨rfl, rfl⟩ := ih (fun member => closed (mem_cons_of_mem _ member))
        (fun member => otherClosed (mem_cons_of_mem _ member)) tails
      exact ⟨rfl, rfl⟩

/-- The first token of a pattern, with the rest of the pattern. -/
inductive Reads : Text → PatternToken → Text → Prop
  | recursiveDirectories {rest : Text} : Reads (0x2A :: 0x2A :: 0x2F :: rest) .recursiveDirectories rest
  | recursive {rest : Text} : rest.head? ≠ some 0x2F → Reads (0x2A :: 0x2A :: rest) .recursive rest
  | segment {rest : Text} : rest.head? ≠ some 0x2A → Reads (0x2A :: rest) .segment rest
  | single {rest : Text} : Reads (0x3F :: rest) .single rest
  | group {inside rest : Text} : 0x7D ∉ inside → Reads (0x7B :: (inside ++ 0x7D :: rest)) (.literal (inside.splitOn 0x2C)) rest
  | character {rest : Text} {character : CodePoint} : character ≠ 0x2A → character ≠ 0x3F → character ≠ 0x7B →
      Reads (character :: rest) (.literal [[character]]) rest

theorem Reads.unique {pattern rest other : Text} {token found : PatternToken} (reads : Reads pattern token rest)
    (again : Reads pattern found other) : found = token ∧ other = rest := by
  generalize same : pattern = read at again
  cases reads with
  | recursiveDirectories =>
    cases again with
    | recursiveDirectories => simp_all
    | recursive differs =>
      obtain ⟨-, -, rfl⟩ := by simpa only [List.cons.injEq] using same
      exact absurd rfl differs
    | segment differs =>
      obtain ⟨-, rfl⟩ := by simpa only [List.cons.injEq] using same
      exact absurd rfl differs
    | _ => simp_all
  | recursive differs =>
    cases again with
    | segment differs =>
      obtain ⟨-, rfl⟩ := by simpa only [List.cons.injEq] using same
      exact absurd rfl differs
    | _ => simp_all
  | segment differs => cases again <;> simp_all
  | single => cases again <;> simp_all
  | group closed =>
    cases again with
    | group alsoClosed =>
      obtain ⟨rfl, rfl⟩ := closing_unique closed alsoClosed (List.cons.inj same).2
      exact ⟨rfl, rfl⟩
    | _ => simp_all
  | character star single brace => cases again <;> simp_all

/-- A path of a pattern begins with a word of its first token. -/
theorem PatternLanguage.reads {pattern path : Text} (member : PatternLanguage pattern path) (some : pattern ≠ []) :
    ∃ token rest, Reads pattern token rest ∧ ∃ word ∈ token.language, ∃ tail ∈ patternWords rest, word ++ tail = path := by
  cases member with
  | empty => exact absurd rfl some
  | recursiveDirectories ends tail => exact ⟨_, _, .recursiveDirectories, _, ends, _, tail, rfl⟩
  | recursive other tail => exact ⟨_, _, .recursive other, _, Set.mem_univ _, _, tail, rfl⟩
  | segment other free tail => exact ⟨_, _, .segment other, _, free, _, tail, rfl⟩
  | single differs tail => exact ⟨_, _, .single, _, ⟨_, differs, rfl⟩, _, tail, rfl⟩
  | group closed listed tail => exact ⟨_, _, .group closed, _, listed, _, tail, rfl⟩
  | character star single brace tail =>
    exact ⟨_, _, .character star single brace, _, mem_singleton_self _, _, tail, rfl⟩

/-- The first token and the rest of a pattern denote its paths. -/
theorem patternWords_reads {pattern rest : Text} {token : PatternToken} (reads : Reads pattern token rest) :
    patternWords pattern = token.language * patternWords rest := by
  ext path
  rw [Language.mem_mul]
  constructor
  · intro member
    have some : pattern ≠ [] := by
      rintro rfl
      cases reads
    obtain ⟨found, other, again, words⟩ := PatternLanguage.reads member some
    obtain ⟨rfl, rfl⟩ := reads.unique again
    exact words
  · rintro ⟨word, listed, tail, member, rfl⟩
    cases reads with
    | recursiveDirectories => exact .recursiveDirectories listed member
    | recursive other => exact .recursive other member
    | segment other => exact .segment other listed member
    | single =>
      obtain ⟨character, differs, rfl⟩ := listed
      exact .single differs member
    | group closed => exact .group closed listed member
    | character star single brace =>
      obtain rfl := mem_singleton.mp listed
      exact .character star single brace member

/-- A run of other characters is one literal. -/
theorem patternWords_run {character : CodePoint} {run after : Text}
    (plain : ∀ point ∈ character :: run, point ≠ 0x2A ∧ point ≠ 0x3F ∧ point ≠ 0x7B) :
    patternWords (character :: (run ++ after)) = (PatternToken.literal [character :: run]).language * patternWords after := by
  obtain ⟨star, single, brace⟩ := plain character mem_cons_self
  induction run generalizing character with
  | nil => exact patternWords_reads (.character star single brace)
  | cons next run ih =>
    have nextPlain := plain next (by simp)
    rw [patternWords_reads (.character star single brace), cons_append,
      ih (fun point member => plain point (mem_cons_of_mem _ member)) nextPlain.1 nextPlain.2.1 nextPlain.2.2,
      ← mul_assoc]
    congr 1
    ext word
    rw [Language.mem_mul]
    constructor
    · rintro ⟨first, firstListed, second, secondListed, rfl⟩
      obtain rfl := mem_singleton.mp firstListed
      obtain rfl := mem_singleton.mp secondListed
      exact mem_singleton_self _
    · intro listed
      obtain rfl := mem_singleton.mp listed
      exact ⟨_, mem_singleton_self _, _, mem_singleton_self _, rfl⟩

end Pattern

section Tokenization

theorem closeBrace_eq_some {text inside after : Text} (found : closeBrace text = some (inside, after)) :
    text = inside ++ 0x7D :: after ∧ 0x7D ∉ inside := by
  unfold closeBrace at found
  rw [span_eq_takeWhile_dropWhile] at found
  cases remaining : text.dropWhile (· ≠ 0x7D) with
  | nil =>
    simp only [remaining] at found
    cases found
  | cons brace rest =>
    simp only [remaining, Option.some.injEq, Prod.mk.injEq] at found
    obtain ⟨rfl, rfl⟩ := found
    have closing := head?_dropWhile_not (fun point : CodePoint => decide (point ≠ 0x7D)) text
    simp only [remaining, head?_cons, decide_eq_false_iff_not, ne_eq, not_not] at closing
    constructor
    · subst closing
      rw [← remaining, takeWhile_append_dropWhile]
    · intro member
      simpa using all_eq_true.mp all_takeWhile _ member

/-- The braces of a pattern are closed, as far as the check reads. -/
def Closed (pattern : Text) : Prop :=
  ∃ fuel, pattern.length < fuel ∧ braceReason fuel pattern = none

theorem Closed.tail {character : CodePoint} {rest : Text} (closed : Closed (character :: rest)) (other : character ≠ 0x7B) :
    Closed rest := by
  obtain ⟨fuel, enough, accepted⟩ := closed
  obtain ⟨fuel, rfl⟩ := Nat.exists_eq_succ_of_ne_zero (Nat.ne_zero_of_lt enough)
  refine ⟨fuel, Nat.lt_of_succ_lt_succ enough, ?_⟩
  unfold braceReason at accepted
  by_cases closing : character = 0x7D
  · simp [closing] at accepted
  · simpa only [closing, if_false, other, ne_eq, not_false_eq_true, if_true] using accepted

theorem Closed.group {rest : Text} (closed : Closed (0x7B :: rest)) :
    ∃ inside after, closeBrace rest = some (inside, after) ∧ Closed after := by
  obtain ⟨fuel, enough, accepted⟩ := closed
  obtain ⟨fuel, rfl⟩ := Nat.exists_eq_succ_of_ne_zero (Nat.ne_zero_of_lt enough)
  unfold braceReason at accepted
  cases found : closeBrace rest with
  | none => simp [found] at accepted
  | some parts =>
    obtain ⟨inside, after⟩ := parts
    have shorter := congrArg List.length (closeBrace_eq_some found).1
    rw [length_append, length_cons] at shorter
    rw [length_cons] at enough
    refine ⟨inside, after, rfl, fuel, by omega, ?_⟩
    simp only [found, show ¬ (0x7B : CodePoint) = 0x7D by decide, if_false, ne_eq, not_true_eq_false] at accepted
    split at accepted
    · cases accepted
    · exact accepted

theorem Closed.after_run {run after : Text} (closed : Closed (run ++ after)) (plain : ∀ point ∈ run, point ≠ 0x7B) :
    Closed after := by
  induction run with
  | nil => exact closed
  | cons character run ih =>
    exact ih (closed.tail (plain character mem_cons_self)) fun point member => plain point (mem_cons_of_mem _ member)

/-- The tokens of a closed pattern denote its paths. -/
theorem tokenize_words {fuel : Nat} {pattern : Text} (enough : pattern.length < fuel) (closed : Closed pattern) :
    tokenizePattern fuel pattern = .ok (tokenize fuel pattern) ∧
      ((tokenize fuel pattern).map PatternToken.language).prod = patternWords pattern := by
  induction fuel generalizing pattern with
  | zero => cases enough
  | succ fuel ih =>
    cases pattern with
    | nil => exact ⟨rfl, patternWords_nil.symm⟩
    | cons character rest =>
      rw [length_cons] at enough
      unfold tokenizePattern tokenize
      by_cases directories : (ascii "**/").isPrefixOf (character :: rest) = true
      · obtain ⟨after, same⟩ := List.isPrefixOf_iff_prefix.mp directories
        obtain ⟨rfl, rfl⟩ := List.cons.inj same
        change after.length + 2 + 1 < fuel + 1 at enough
        obtain ⟨read, words⟩ := ih (by omega : after.length < fuel)
          (((closed.tail (by decide)).tail (by decide)).tail (by decide))
        rw [if_pos directories, if_pos directories]
        change (_ <$> tokenizePattern fuel after = _) ∧ (List.map _ (_ :: tokenize fuel after)).prod = _
        rw [read, map_cons, prod_cons, words]
        exact ⟨rfl, (patternWords_reads .recursiveDirectories).symm⟩
      rw [if_neg directories, if_neg directories]
      by_cases stars : (ascii "**").isPrefixOf (character :: rest) = true
      · obtain ⟨after, same⟩ := List.isPrefixOf_iff_prefix.mp stars
        obtain ⟨rfl, rfl⟩ := List.cons.inj same
        change after.length + 1 + 1 < fuel + 1 at enough
        have other : after.head? ≠ some 0x2F := by
          intro slash
          obtain ⟨others, rfl⟩ := head?_eq_some_iff.mp slash
          exact directories (List.isPrefixOf_iff_prefix.mpr ⟨others, rfl⟩)
        obtain ⟨read, words⟩ := ih (by omega : after.length < fuel) ((closed.tail (by decide)).tail (by decide))
        rw [if_pos stars, if_pos stars]
        change (_ <$> tokenizePattern fuel after = _) ∧ (List.map _ (_ :: tokenize fuel after)).prod = _
        rw [read, map_cons, prod_cons, words]
        exact ⟨rfl, (patternWords_reads (.recursive other)).symm⟩
      rw [if_neg stars, if_neg stars]
      have shorter : rest.length < fuel := by omega
      by_cases star : character = 0x2A
      · subst star
        have other : rest.head? ≠ some 0x2A := by
          intro again
          obtain ⟨others, rfl⟩ := head?_eq_some_iff.mp again
          exact stars (List.isPrefixOf_iff_prefix.mpr ⟨others, rfl⟩)
        obtain ⟨read, words⟩ := ih shorter (closed.tail (by decide))
        rw [if_pos rfl, if_pos rfl, read, map_cons, prod_cons, words]
        exact ⟨rfl, (patternWords_reads (.segment other)).symm⟩
      rw [if_neg star, if_neg star]
      by_cases single : character = 0x3F
      · subst single
        obtain ⟨read, words⟩ := ih shorter (closed.tail (by decide))
        rw [if_pos rfl, if_pos rfl, read, map_cons, prod_cons, words]
        exact ⟨rfl, (patternWords_reads .single).symm⟩
      rw [if_neg single, if_neg single]
      by_cases brace : character = 0x7B
      · subst brace
        obtain ⟨inside, after, found, remains⟩ := closed.group
        obtain ⟨rfl, plain⟩ := closeBrace_eq_some found
        rw [length_append, length_cons] at shorter
        obtain ⟨read, words⟩ := ih (by omega : after.length < fuel) remains
        rw [if_pos rfl, if_pos rfl]
        simp only [found, read, map_cons, prod_cons, words]
        exact ⟨rfl, (patternWords_reads (.group plain)).symm⟩
      rw [if_neg brace, if_neg brace]
      rw [span_eq_takeWhile_dropWhile]
      set plain : CodePoint → Bool := fun point => point ≠ 0x2A && point ≠ 0x3F && point ≠ 0x7B with plainDef
      have divided : rest.takeWhile plain ++ rest.dropWhile plain = rest := takeWhile_append_dropWhile
      have run : ∀ point ∈ character :: rest.takeWhile plain, point ≠ 0x2A ∧ point ≠ 0x3F ∧ point ≠ 0x7B := by
        intro point member
        rcases mem_cons.mp member with rfl | taken
        · exact ⟨star, single, brace⟩
        · simpa [plainDef, and_assoc] using all_eq_true.mp all_takeWhile point taken
      have remains : Closed (rest.dropWhile plain) := by
        rw [← divided, ← cons_append] at closed
        exact closed.after_run fun point member => (run point member).2.2
      have fits : (rest.dropWhile plain).length < fuel := (dropWhile_suffix plain).length_le.trans_lt shorter
      obtain ⟨read, words⟩ := ih fits remains
      have literal : patternWords (character :: rest) =
          (PatternToken.literal [character :: rest.takeWhile plain]).language * patternWords (rest.dropWhile plain) := by
        rw [← patternWords_run run, divided]
      simp only [read, map_cons, prod_cons, words]
      exact ⟨rfl, literal.symm⟩

/-- An admitted pattern has closed braces. -/
theorem closed_of_admitted {pattern : Text} (admitted : validatePathPattern pattern = none) : Closed pattern := by
  refine ⟨pattern.length + 1, Nat.lt_succ_self _, ?_⟩
  unfold validatePathPattern at admitted
  split_ifs at admitted
  exact admitted

/-- A match never raises, because a pattern is only read once it is admitted. -/
theorem matchPathPattern_eq (pattern path : Text) : matchPathPattern pattern path = .ok (matchesPathPattern pattern path) := by
  unfold matchPathPattern matchesPathPattern
  split_ifs with rejected
  · rfl
  · simp only [not_or, ne_eq, not_not] at rejected
    rw [(tokenize_words (Nat.lt_succ_self _) (closed_of_admitted rejected.1)).1]
    rfl

end Tokenization

/-- An admitted pattern is read without an error, and a safe path within the bound matches it exactly when it belongs
to its language. -/
theorem matchPathPattern_iff_language {pattern : Text} (admitted : validatePathPattern pattern = none) :
    (∃ tokens, tokenizePattern (pattern.length + 1) pattern = .ok tokens) ∧
      ∀ path, isSafeRelativePath path = true → path.length ≤ maxRepositoryPathCharacters →
        ∃ matched, matchPathPattern pattern path = .ok matched ∧ (matched = true ↔ PatternLanguage pattern path) := by
  obtain ⟨read, words⟩ := tokenize_words (Nat.lt_succ_self _) (closed_of_admitted admitted)
  refine ⟨⟨_, read⟩, fun path safe short => ⟨_, matchPathPattern_eq pattern path, ?_⟩⟩
  have accepted : ¬ (validatePathPattern pattern ≠ none ∨ maxRepositoryPathCharacters < path.length ∨
      (!isSafeRelativePath path) = true) := by
    simp [admitted, safe, short]
  have advances : Advances (patternWords pattern) path [0] (advanceAll path (tokenize (pattern.length + 1) pattern) [0]) :=
    words ▸ advanceAll_language _ (by simp) (by simp)
  rw [matchesPathPattern, if_neg accepted, contains_iff_mem, advances path.length]
  constructor
  · rintro ⟨start, member, span⟩
    obtain rfl := mem_singleton.mp member
    exact spans_whole.mp span
  · exact fun member => ⟨0, mem_singleton_self 0, spans_whole.mpr member⟩

/-- A pattern with a directory wildcard, a group and a wildcard within a segment. -/
theorem matchPathPattern_iff_language_sources :
    validatePathPattern (ascii "src/**/\x7ba,bc\x7d?*.py") = none ∧
      PatternLanguage (ascii "src/**/\x7ba,bc\x7d?*.py") (ascii "src/x/bc10.py") := by
  have admitted : validatePathPattern (ascii "src/**/\x7ba,bc\x7d?*.py") = none := by decide
  obtain ⟨matched, computed, decides⟩ :=
    (matchPathPattern_iff_language admitted).2 (ascii "src/x/bc10.py") (by decide) (by decide)
  have accepted : matchPathPattern (ascii "src/**/\x7ba,bc\x7d?*.py") (ascii "src/x/bc10.py") = .ok true := by decide
  exact ⟨admitted, decides.mp (Except.ok.inj (computed.symm.trans accepted))⟩

end CiCoordinator.Kernel

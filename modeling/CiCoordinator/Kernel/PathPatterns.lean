import CiCoordinator.Library.Text
import Mathlib.Data.List.Dedup

/- The repository path checks and the path pattern matcher of the kernel. -/

namespace CiCoordinator.Kernel

open Library

/-- The longest admitted pattern. -/
def maxPathPatternCharacters : Nat :=
  512

/-- The longest path that patterns are matched against. -/
def maxRepositoryPathCharacters : Nat :=
  4096

/-- The characters that the host strips from the ends of a text. -/
def isWhitespace (point : CodePoint) : Bool :=
  let code := point.val
  9 ≤ code && code ≤ 13 || 28 ≤ code && code ≤ 32 || code = 0x85 || code = 0xA0 || code = 0x1680 ||
    0x2000 ≤ code && code ≤ 0x200A || code = 0x2028 || code = 0x2029 || code = 0x202F || code = 0x205F || code = 0x3000

/-- A relative path stays inside the repository and has no separator of another system. -/
def isSafeRelativePath (value : Text) : Bool :=
  value.scalar && value ≠ [] && 0 ∉ value && !(ascii "/").isPrefixOf value && !(ascii "./").isPrefixOf value &&
    0x5C ∉ value && ascii ".." ∉ value.splitOn 0x2F

/-- The text up to a closing brace and the text after it. -/
def closeBrace (text : Text) : Option (Text × Text) :=
  match text.span (· ≠ 0x7D) with
  | (_, []) => none
  | (inside, _ :: after) => some (inside, after)

/-- An alternative of a brace expansion holds no further operator. -/
def plainAlternative (alternative : Text) : Bool :=
  alternative ≠ [] && alternative.all fun point => point ≠ 0x2A && point ≠ 0x3F && point ≠ 0x7B && point ≠ 0x7D

/-- The first brace that is not a closed expansion of plain alternatives. -/
def braceReason : Nat → Text → Option Text
  | 0, _ => none
  | _ + 1, [] => none
  | fuel + 1, character :: rest =>
    if character = 0x7D then some (ascii "unmatched closing brace")
    else if character ≠ 0x7B then braceReason fuel rest
    else
      match closeBrace rest with
      | none => some (ascii "unclosed brace expansion")
      | some (inside, after) =>
        let alternatives := inside.splitOn 0x2C
        if alternatives.length < 2 ∨ alternatives.any (fun alternative => !plainAlternative alternative) then
          some (ascii "unsupported brace expansion")
        else braceReason fuel after

/-- The reason why a pattern is not admitted, if there is one. -/
def validatePathPattern (pattern : Text) : Option Text :=
  if maxPathPatternCharacters < pattern.length then some (ascii "path pattern exceeds admitted size")
  else if !isSafeRelativePath pattern then some (ascii "unsafe relative path pattern")
  else if pattern.all isWhitespace then some (ascii "empty path pattern")
  else if pattern.any (· ∈ ascii "[]!()+@") then some (ascii "unsupported glob operator")
  else braceReason (pattern.length + 1) pattern

/-- The tokens of a pattern. -/
inductive PatternToken where
  | literal (alternatives : List Text)
  | single
  | segment
  | recursive
  | recursiveDirectories
  deriving DecidableEq

/-- The tokens of an admitted pattern, from left to right. -/
def tokenize : Nat → Text → List PatternToken
  | 0, _ => []
  | _ + 1, [] => []
  | fuel + 1, character :: rest =>
    if (ascii "**/").isPrefixOf (character :: rest) then .recursiveDirectories :: tokenize fuel (rest.drop 2)
    else if (ascii "**").isPrefixOf (character :: rest) then .recursive :: tokenize fuel (rest.drop 1)
    else if character = 0x2A then .segment :: tokenize fuel rest
    else if character = 0x3F then .single :: tokenize fuel rest
    else if character = 0x7B then
      match closeBrace rest with
      | none => []
      | some (inside, after) => .literal (inside.splitOn 0x2C) :: tokenize fuel after
    else
      let (run, after) := rest.span fun point => point ≠ 0x2A && point ≠ 0x3F && point ≠ 0x7B
      .literal [character :: run] :: tokenize fuel after

/-- The positions that a segment wildcard reaches: every run without a slash from a reached position. -/
def advanceSegment (reachable : List Nat) : Text → Nat → Bool → List Nat
  | path, index, active =>
    let active := active || reachable.contains index
    let here := if active then [index] else []
    match path with
    | [] => here
    | character :: rest => here ++ advanceSegment reachable rest (index + 1) (active && character ≠ 0x2F)

/-- The positions reached after one token. -/
def advance (token : PatternToken) (path : Text) (reachable : List Nat) : List Nat :=
  match token with
  | .literal alternatives =>
    (reachable.flatMap fun start =>
      (alternatives.filter fun alternative => start ≤ path.length && alternative.isPrefixOf (path.drop start)).map
        fun alternative => start + alternative.length).dedup
  | .single =>
    (reachable.filter fun start => (path.drop start).head?.any (· ≠ 0x2F)).map (· + 1)
  | .recursive =>
    let minimum := reachable.min?.getD 0
    (List.range (path.length + 1)).filter fun index => minimum ≤ index
  | .recursiveDirectories =>
    let minimum := reachable.min?.getD 0
    (reachable ++ ((List.range path.length).filter fun index =>
      minimum ≤ index && (path.drop index).head?.any (· = 0x2F)).map (· + 1)).dedup
  | .segment => advanceSegment reachable path 0 false

/-- The positions reached after all tokens; an empty set stays empty. -/
def advanceAll (path : Text) : List PatternToken → List Nat → List Nat
  | [], reachable => reachable
  | token :: rest, reachable =>
    let next := advance token path reachable
    if next = [] then [] else advanceAll path rest next

/-- A path matches a pattern when the tokens can reach its end. -/
def matchesPathPattern (pattern path : Text) : Bool :=
  if validatePathPattern pattern ≠ none ∨ maxRepositoryPathCharacters < path.length ∨ !isSafeRelativePath path then false
  else (advanceAll path (tokenize (pattern.length + 1) pattern) [0]).contains path.length

end CiCoordinator.Kernel

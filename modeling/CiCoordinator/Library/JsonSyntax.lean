import CiCoordinator.Library.Float64

/- The RFC 8259 grammar: the syntax tree of a document and the reader that builds it. -/

namespace CiCoordinator.Library

/-- A number literal keeps its digits, because the two hosts convert them differently. -/
structure NumberLiteral where
  negative : Bool
  whole : Text
  fraction : Option Text
  exponent : Option (Bool × Text)
  deriving DecidableEq

namespace NumberLiteral

variable (literal : NumberLiteral)

/-- The digits of a literal as one number. -/
def digits : Nat :=
  readDigits (literal.whole ++ literal.fraction.getD [])

/-- The power of ten that scales the digits of a literal. -/
def power : Int :=
  let shift : Int := (literal.fraction.getD []).length
  match literal.exponent with
  | none => -shift
  | some (negative, text) => (if negative then -(readDigits text : Int) else readDigits text) - shift

/-- The binary64 number nearest to a literal. -/
def toFloat64 : Float64 :=
  Float64.roundDecimal literal.negative literal.digits literal.power

end NumberLiteral

/-- A syntax tree keeps object members in order, repeated names included. -/
inductive JsonSyntax where
  | null
  | bool (value : Bool)
  | number (literal : NumberLiteral)
  | str (value : Text)
  | arr (items : List JsonSyntax)
  | obj (members : List (Text × JsonSyntax))

namespace JsonSyntax

def quote : CodePoint := 0x22
def backslash : CodePoint := 0x5C
def comma : CodePoint := 0x2C
def colon : CodePoint := 0x3A
def openBracket : CodePoint := 0x5B
def closeBracket : CodePoint := 0x5D
def openBrace : CodePoint := 0x7B
def closeBrace : CodePoint := 0x7D
def minus : CodePoint := 0x2D
def plus : CodePoint := 0x2B
def point : CodePoint := 0x2E

variable (character : CodePoint)

/-- The four white-space characters of the grammar. -/
def isSpace : Bool :=
  character = 0x20 || character = 0x09 || character = 0x0A || character = 0x0D

variable (text : Text)

/-- The text after leading white space. -/
def skipSpace : Text :=
  text.dropWhile isSpace

/-- The value of a hexadecimal digit. -/
def hexDigit : Option Nat :=
  if 0x30 ≤ character.val ∧ character.val ≤ 0x39 then some (character.val - 0x30)
  else if 0x61 ≤ character.val ∧ character.val ≤ 0x66 then some (character.val - 0x61 + 10)
  else if 0x41 ≤ character.val ∧ character.val ≤ 0x46 then some (character.val - 0x41 + 10)
  else none

/-- The code unit of four hexadecimal digits. -/
def hexUnit (first second third fourth : CodePoint) : Option Nat :=
  match hexDigit first, hexDigit second, hexDigit third, hexDigit fourth with
  | some a, some b, some c, some d => some (a * 0x1000 + b * 0x100 + c * 0x10 + d)
  | _, _, _, _ => none

/-- The code point of a code unit. -/
def unitPoint (unit : Nat) : CodePoint :=
  ⟨unit % 0x10000, by omega⟩

/-- The code point of a surrogate pair. -/
def pairPoint (high low : Nat) : CodePoint :=
  ⟨0x10000 + (high - 0xD800) % 0x400 * 0x400 + (low - 0xDC00) % 0x400, by omega⟩

/-- The character of a two-character escape. -/
def shortEscape : Option CodePoint :=
  if character = quote then some quote
  else if character = backslash then some backslash
  else if character = 0x2F then some 0x2F
  else if character = 0x62 then some 0x08
  else if character = 0x66 then some 0x0C
  else if character = 0x6E then some 0x0A
  else if character = 0x72 then some 0x0D
  else if character = 0x74 then some 0x09
  else none

/-- A low surrogate escape at the front of a text. -/
def lowEscape : Text → Option (Nat × Text)
  | slash :: letter :: first :: second :: third :: fourth :: rest =>
    if slash = backslash ∧ letter = 0x75 then
      match hexUnit first second third fourth with
      | some unit => if 0xDC00 ≤ unit ∧ unit ≤ 0xDFFF then some (unit, rest) else none
      | none => none
    else none
  | _ => none

/-- A code unit escape after its letter; a high and a low surrogate form one character. -/
def readUnit : Text → Option (CodePoint × Text)
  | first :: second :: third :: fourth :: rest =>
    match hexUnit first second third fourth with
    | none => none
    | some unit =>
      if 0xD800 ≤ unit ∧ unit ≤ 0xDBFF then
        match lowEscape rest with
        | some (low, after) => some (pairPoint unit low, after)
        | none => some (unitPoint unit, rest)
      else some (unitPoint unit, rest)
  | _ => none

/-- An escape after its backslash. -/
def readEscape : Text → Option (CodePoint × Text)
  | [] => none
  | letter :: rest =>
    match shortEscape letter with
    | some character => some (character, rest)
    | none => if letter = 0x75 then readUnit rest else none

/-- The rest of a string after its opening quote. -/
def readString : Nat → Text → Option (Text × Text)
  | 0, _ => none
  | _ + 1, [] => none
  | fuel + 1, character :: rest =>
    if character = quote then some ([], rest)
    else if character.val < 0x20 then none
    else do
      let (decoded, after) ← if character = backslash then readEscape rest else some (character, rest)
      let (value, remaining) ← readString fuel after
      return (decoded :: value, remaining)

/-- A nonempty run of digits. -/
def readRun : Option (Text × Text) :=
  match text.span CodePoint.isDigit with
  | ([], _) => none
  | (digits, rest) => some (digits, rest)

/-- The whole part of a number has no leading zero. -/
def readWhole : Text → Option (Text × Text)
  | [] => none
  | character :: rest => if character = 0x30 then some ([0x30], rest) else readRun (character :: rest)

/-- The optional fraction of a number. -/
def readFraction : Option (Option Text × Text) :=
  match text with
  | [] => some (none, [])
  | character :: rest =>
    if character = point then do
      let (digits, after) ← readRun rest
      return (some digits, after)
    else some (none, character :: rest)

/-- The optional exponent of a number. -/
def readExponent : Option (Option (Bool × Text) × Text) :=
  match text with
  | [] => some (none, [])
  | character :: rest =>
    if character = 0x65 ∨ character = 0x45 then do
      let (negative, unsigned) := match rest with
        | sign :: after => if sign = minus then (true, after) else if sign = plus then (false, after) else (false, rest)
        | [] => (false, rest)
      let (digits, after) ← readRun unsigned
      return (some (negative, digits), after)
    else some (none, character :: rest)

/-- A number literal at the front of a text. -/
def readNumber : Option (NumberLiteral × Text) := do
  let (negative, unsigned) := match text with
    | sign :: rest => if sign = minus then (true, rest) else (false, text)
    | [] => (false, text)
  let (whole, afterWhole) ← readWhole unsigned
  let (fraction, afterFraction) ← readFraction afterWhole
  let (exponent, rest) ← readExponent afterFraction
  return (⟨negative, whole, fraction, exponent⟩, rest)

/-- A literal word at the front of a text. -/
def readWord (word : Text) (tree : JsonSyntax) (text : Text) : Option (JsonSyntax × Text) :=
  if word.isPrefixOf text then some (tree, text.drop word.length) else none

/-- A literal word or a number at the front of a text. -/
def readAtom : Option (JsonSyntax × Text) :=
  (readWord (ascii "null") .null text).or <| (readWord (ascii "true") (.bool true) text).or <|
      (readWord (ascii "false") (.bool false) text).or <|
        (readNumber text).map fun (literal, rest) => (.number literal, rest)

/-- One expected character at the front of a text. -/
def expect : Text → Option Text
  | [] => none
  | first :: rest => if first = character then some rest else none

mutual

/-- A value at the front of a text without leading white space. -/
def readValue : Nat → Text → Option (JsonSyntax × Text)
  | 0, _ => none
  | _ + 1, [] => none
  | fuel + 1, character :: rest =>
    if character = quote then do
      let (value, after) ← readString (rest.length + 1) rest
      return (.str value, after)
    else if character = openBracket then
      match expect closeBracket (skipSpace rest) with
      | some after => some (.arr [], after)
      | none => do
        let (items, after) ← readItems fuel (skipSpace rest)
        return (.arr items, after)
    else if character = openBrace then
      match expect closeBrace (skipSpace rest) with
      | some after => some (.obj [], after)
      | none => do
        let (members, after) ← readMembers fuel (skipSpace rest)
        return (.obj members, after)
    else readAtom (character :: rest)

/-- The items of an array up to its closing bracket. -/
def readItems : Nat → Text → Option (List JsonSyntax × Text)
  | 0, _ => none
  | fuel + 1, text => do
    let (item, afterItem) ← readValue fuel text
    match expect closeBracket (skipSpace afterItem) with
    | some after => return ([item], after)
    | none =>
      let afterComma ← expect comma (skipSpace afterItem)
      let (items, after) ← readItems fuel (skipSpace afterComma)
      return (item :: items, after)

/-- The members of an object up to its closing brace. -/
def readMembers : Nat → Text → Option (List (Text × JsonSyntax) × Text)
  | 0, _ => none
  | fuel + 1, text => do
    let afterQuote ← expect quote text
    let (name, afterName) ← readString (afterQuote.length + 1) afterQuote
    let afterColon ← expect colon (skipSpace afterName)
    let (value, afterValue) ← readValue fuel (skipSpace afterColon)
    match expect closeBrace (skipSpace afterValue) with
    | some after => return ([(name, value)], after)
    | none =>
      let afterComma ← expect comma (skipSpace afterValue)
      let (members, after) ← readMembers fuel (skipSpace afterComma)
      return ((name, value) :: members, after)

end

/-- A document is one value between white space. -/
def read : Option JsonSyntax :=
  match readValue (2 * text.length + 1) (skipSpace text) with
  | some (tree, rest) => if skipSpace rest = [] then some tree else none
  | none => none

end JsonSyntax

end CiCoordinator.Library

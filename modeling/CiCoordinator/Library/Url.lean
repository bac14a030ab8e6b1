import CiCoordinator.Library.Decimal

/- The parts of a URL that is printable ASCII. -/

namespace CiCoordinator.Library

/-- The text before the first occurrence of a character, and the text after it if it occurs. -/
def cut (separator : CodePoint) (text : Text) : Text × Option Text :=
  match text.dropWhile (· != separator) with
  | [] => (text, none)
  | _ :: rest => (text.takeWhile (· != separator), some rest)

/-- The text before the last occurrence of a character if it occurs, and the text after it. -/
def cutLast (separator : CodePoint) (text : Text) : Option Text × Text :=
  let (last, before) := cut separator text.reverse
  (before.map List.reverse, last.reverse)

namespace CodePoint

variable (point : CodePoint)

def isUpper : Bool :=
  decide (65 ≤ point.val ∧ point.val ≤ 90)

def isLower : Bool :=
  decide (97 ≤ point.val ∧ point.val ≤ 122)

def isLetter : Bool :=
  point.isUpper || point.isLower

/-- A hexadecimal digit of either case. -/
def isHex : Bool :=
  point.isDigit || decide (65 ≤ point.val ∧ point.val ≤ 70) || decide (97 ≤ point.val ∧ point.val ≤ 102)

def lower : CodePoint :=
  if point.isUpper = true then point + 32 else point

end CodePoint

/-- The lower case of a text of ASCII characters. -/
def Text.lower (text : Text) : Text :=
  text.map CodePoint.lower

def slash : CodePoint := 0x2F
def questionMark : CodePoint := 0x3F
def hash : CodePoint := 0x23
def atSign : CodePoint := 0x40
def colonSign : CodePoint := 0x3A
def openSquare : CodePoint := 0x5B
def closeSquare : CodePoint := 0x5D
def percentSign : CodePoint := 0x25
def fullStop : CodePoint := 0x2E

section Addresses

/-- A decimal part of an address has no leading zero and fits in a byte. -/
def isOctetText (part : Text) : Bool :=
  decide (1 ≤ part.length ∧ part.length ≤ 3) && part.all CodePoint.isDigit &&
    (decide (part.length = 1) || decide (part.head? ≠ some 0x30)) && decide (readDigits part ≤ 255)

variable (address : Text)

def isIPv4 : Bool :=
  let parts := address.splitOn fullStop
  decide (parts.length = 4) && parts.all isOctetText

/-- A hexadecimal part of an address has one to four digits. -/
def isGroupText (part : Text) : Bool :=
  decide (1 ≤ part.length ∧ part.length ≤ 4) && part.all CodePoint.isHex

/-- The groups of an address, where a last part in decimals counts as two of them. -/
def addressGroups (parts : List Text) : Option (List Text) :=
  match parts.getLast? with
  | none => none
  | some last =>
    if fullStop ∈ last then
      if isIPv4 last = true then some (parts.dropLast ++ [ascii "0", ascii "0"]) else none
    else some parts

/-- The groups on one side of an omission: none when the address begins or ends with it. -/
def isSide (groups : List Text) : Bool :=
  decide (groups = [[]]) || groups.all isGroupText

/-- An address has eight groups, or fewer with one omission of at least one group. -/
def isGroups (groups : List Text) : Bool :=
  let inner := groups.tail.dropLast
  match inner.idxOf? [] with
  | none => decide (groups.length = 8) && groups.all isGroupText
  | some index =>
    let high := groups.take (index + 1)
    let low := groups.drop (index + 2)
    let count := fun side : List Text => if side = [[]] then 0 else side.length
    decide (inner.count [] = 1) && isSide high && isSide low && decide (count high + count low ≤ 7)

def isIPv6 : Bool :=
  let (number, scope) := cut percentSign address
  let parts := number.splitOn colonSign
  (match scope with
    | none => true
    | some zone => decide (zone ≠ []) && decide (percentSign ∉ zone)) &&
    decide (slash ∉ address) && decide (3 ≤ parts.length) &&
    match addressGroups parts with
    | none => false
    | some groups => decide (groups.length ≤ 9) && isGroups groups

/-- The address of a later version names the version. -/
def isFutureAddress : Bool :=
  match address with
  | [] => false
  | letter :: rest =>
    match cut fullStop rest with
    | (_, none) => false
    | (version, some name) => decide (letter = 0x76 ∧ version ≠ [] ∧ name ≠ []) && version.all CodePoint.isHex

/-- What a host in brackets can be. -/
def isAddress (name : Text) : Bool :=
  isFutureAddress name || isIPv6 name

end Addresses

structure SplitUrl where
  scheme : Text
  netloc : Text
  path : Text
  query : Text
  fragment : Text
  deriving DecidableEq

/-- A scheme starts with a letter and ends with the first colon. -/
def splitScheme (url : Text) : Text × Text :=
  match cut colonSign url with
  | (_, none) => ([], url)
  | (scheme, some rest) =>
    let others := ascii "+-."
    match scheme with
    | [] => ([], url)
    | first :: _ =>
      if first.isLetter = true ∧ (scheme.all fun point => point.isLetter || point.isDigit || decide (point ∈ others)) = true
      then (scheme.lower, rest)
      else ([], url)

/-- An authority that is followed by a path, a query or a fragment. -/
def splitAuthority (url : Text) : Text × Text :=
  match url with
  | first :: second :: rest =>
    if first = slash ∧ second = slash then
      rest.span fun point => decide (point ≠ slash ∧ point ≠ questionMark ∧ point ≠ hash)
    else ([], url)
  | _ => ([], url)

/-- Brackets enclose the whole host, and only a port follows them. -/
def admitsBrackets (netloc : Text) : Bool :=
  if openSquare ∈ netloc ∨ closeSquare ∈ netloc then
    if openSquare ∈ netloc ∧ closeSquare ∈ netloc then
      let host := (cutLast atSign netloc).2
      match cut openSquare host with
      | (_, none) => isAddress (cut colonSign host).1
      | (before, some bracketed) =>
        let (name, after) := cut closeSquare bracketed
        let port := after.getD []
        decide (before = []) && (decide (port = []) || decide (port.head? = some colonSign)) && isAddress name
    else false
  else true

/-- The parts of a URL, unless the host is malformed. -/
def urlsplit (url : Text) : Option SplitUrl :=
  let (scheme, rest) := splitScheme url
  let (netloc, rest) := splitAuthority rest
  if admitsBrackets netloc = true then
    let (rest, fragment) := cut hash rest
    let (path, query) := cut questionMark rest
    some ⟨scheme, netloc, path, query.getD [], fragment.getD []⟩
  else none

namespace SplitUrl

variable (self : SplitUrl)

/-- The host and the port that an authority names after its user. -/
def hostinfo : Text × Option Text :=
  let host := (cutLast atSign self.netloc).2
  let (name, port) :=
    match cut openSquare host with
    | (_, some bracketed) =>
      let (name, after) := cut closeSquare bracketed
      (name, ((cut colonSign (after.getD [])).2).getD [])
    | (_, none) =>
      let (name, port) := cut colonSign host
      (name, port.getD [])
  (name, if port = [] then none else some port)

/-- The host in lower case, up to the zone of an address. -/
def hostname : Option Text :=
  match self.hostinfo.1 with
  | [] => none
  | name =>
    match cut percentSign name with
    | (name, none) => some name.lower
    | (name, some zone) => some (name.lower ++ percentSign :: zone)

/-- The port, unless it is not one; no port is a success. -/
def port : Option (Option Nat) :=
  match self.hostinfo.2 with
  | none => some none
  | some digits =>
    if digits.all CodePoint.isDigit = true ∧ readDigits digits ≤ 65535 then some (some (readDigits digits)) else none

/-- The user and the password that an authority names. -/
def userinfo : Option Text × Option Text :=
  match (cutLast atSign self.netloc).1 with
  | none => (none, none)
  | some user => (some (cut colonSign user).1, (cut colonSign user).2)

end SplitUrl

end CiCoordinator.Library

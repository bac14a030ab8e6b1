import CiCoordinator.Library.Sha256

/- The Base64 notation of bytes for URLs and the authentication of bytes by a key. -/

namespace CiCoordinator.Library

open List

namespace Base64

/-- The character of six bits. -/
def symbol (bits : Nat) : CodePoint :=
  if bits % 64 < 26 then ⟨65 + bits % 64, by omega⟩
  else if bits % 64 < 52 then ⟨71 + bits % 64, by omega⟩
  else if bits % 64 < 62 then ⟨bits % 64 - 4, by omega⟩
  else if bits % 64 = 62 then ⟨45, by omega⟩
  else ⟨95, by omega⟩

/-- The six bits that a character stands for; the signs of the standard notation are read too. -/
def value (point : CodePoint) : Option Nat :=
  if 65 ≤ point.val ∧ point.val ≤ 90 then some (point.val - 65)
  else if 97 ≤ point.val ∧ point.val ≤ 122 then some (point.val - 71)
  else if 48 ≤ point.val ∧ point.val ≤ 57 then some (point.val + 4)
  else if point.val = 45 ∨ point.val = 43 then some 62
  else if point.val = 95 ∨ point.val = 47 then some 63
  else none

/-- The character that fills up the last group. -/
def pad : CodePoint :=
  ⟨61, by omega⟩

/-- Three bytes are written as four characters. -/
def encode : List Nat → Text
  | [] => []
  | [first] => [symbol (first / 4), symbol (first % 4 * 16), pad, pad]
  | [first, second] =>
    [symbol (first / 4), symbol (first % 4 * 16 + second / 16), symbol (second % 16 * 4), pad]
  | first :: second :: third :: rest =>
    symbol (first / 4) :: symbol (first % 4 * 16 + second / 16) :: symbol (second % 16 * 4 + third / 64) ::
      symbol (third % 64) :: encode rest

/-- Four characters are read as three bytes, and the last group can be filled up. -/
def decode : Text → Option (List Nat)
  | [] => some []
  | first :: second :: third :: fourth :: rest =>
    match value first, value second with
    | some one, some two =>
      if rest = [] ∧ third = pad ∧ fourth = pad then some [one * 4 + two / 16]
      else
        match value third with
        | none => none
        | some three =>
          if rest = [] ∧ fourth = pad then some [one * 4 + two / 16, two % 16 * 16 + three / 4]
          else
            match value fourth with
            | none => none
            | some four =>
              (decode rest).map fun bytes =>
                (one * 4 + two / 16) :: (two % 16 * 16 + three / 4) :: (three % 4 * 64 + four) :: bytes
    | _, _ => none
  | _ => none

theorem value_symbol (bits : Nat) : value (symbol bits) = some (bits % 64) := by
  unfold symbol value
  split
  · rw [if_pos (by dsimp only; omega)]
    simp
  · split
    · rw [if_neg (by dsimp only; omega), if_pos (by dsimp only; omega)]
      dsimp only
      congr 1
      omega
    · split
      · rw [if_neg (by dsimp only; omega), if_neg (by dsimp only; omega), if_pos (by dsimp only; omega)]
        dsimp only
        congr 1
        omega
      · split
        · rename_i last
          rw [last]
          rfl
        · have last : bits % 64 = 63 := by omega
          rw [last]
          rfl

theorem symbol_ne_pad (bits : Nat) : symbol bits ≠ pad := by
  intro same
  have found := value_symbol bits
  rw [same] at found
  cases found

/-- What has been written is read back. -/
theorem decode_encode {bytes : List Nat} (octets : ∀ byte ∈ bytes, byte < 256) : decode (encode bytes) = some bytes := by
  fun_induction encode bytes with
  | case1 => rfl
  | case2 first =>
    have small := octets first (by simp)
    simp only [decode, value_symbol, and_self, if_true]
    congr 2
    omega
  | case3 first second =>
    have small := octets first (by simp)
    have smallSecond := octets second (by simp)
    simp only [decode, value_symbol, symbol_ne_pad, false_and, and_false, if_false, and_self, if_true]
    congr 2
    · omega
    · congr 1
      omega
  | case4 first second third rest ih =>
    have small := octets first (by simp)
    have smallSecond := octets second (by simp)
    have smallThird := octets third (by simp)
    have tail := ih fun byte member => octets byte (by simp [member])
    simp only [decode, value_symbol, symbol_ne_pad, and_false, if_false, tail, Option.map_some]
    congr 2
    · omega
    · congr 1
      · omega
      · congr 1
        omega

/-- The characters of the notation. -/
def IsSymbol (point : CodePoint) : Prop :=
  point = pad ∨ ∃ bits, point = symbol bits

theorem isSymbol_of_mem {bytes : List Nat} {point : CodePoint} (member : point ∈ encode bytes) : IsSymbol point := by
  fun_induction encode bytes with
  | case1 => cases member
  | case2 first =>
    simp only [mem_cons, not_mem_nil, or_false] at member
    rcases member with rfl | rfl | rfl | rfl
    · exact .inr ⟨_, rfl⟩
    · exact .inr ⟨_, rfl⟩
    · exact .inl rfl
    · exact .inl rfl
  | case3 first second =>
    simp only [mem_cons, not_mem_nil, or_false] at member
    rcases member with rfl | rfl | rfl | rfl
    · exact .inr ⟨_, rfl⟩
    · exact .inr ⟨_, rfl⟩
    · exact .inr ⟨_, rfl⟩
    · exact .inl rfl
  | case4 first second third rest ih =>
    simp only [mem_cons] at member
    rcases member with rfl | rfl | rfl | rfl | later
    · exact .inr ⟨_, rfl⟩
    · exact .inr ⟨_, rfl⟩
    · exact .inr ⟨_, rfl⟩
    · exact .inr ⟨_, rfl⟩
    · exact ih later

end Base64

variable (bytes : List Nat)

/-- The digest of bytes, as thirty-two bytes. -/
@[irreducible] def sha256 : List Nat :=
  (List.range 32).map fun index => Sha256.digest bytes / 256 ^ (31 - index) % 256

/-- The key of an authentication fills a block. -/
def hmacBlock (key : List Nat) : List Nat :=
  let short := if 64 < key.length then sha256 key else key
  short ++ List.replicate (64 - short.length) 0

variable (key message : List Nat)

/-- The bytes that are hashed last for an authentication of a message. -/
def hmacOuter : List Nat :=
  (hmacBlock key).map (Nat.xor 0x5c) ++ sha256 ((hmacBlock key).map (Nat.xor 0x36) ++ message)

def hmacSha256 : List Nat :=
  sha256 (hmacOuter key message)

def hmacSha256Hex : Text :=
  sha256Hex (hmacOuter key message)

theorem sha256_octets : ∀ byte ∈ sha256 bytes, byte < 256 := by
  intro byte member
  rw [sha256] at member
  obtain ⟨index, _, rfl⟩ := mem_map.mp member
  exact Nat.mod_lt _ (by decide)

theorem length_sha256 : (sha256 bytes).length = 32 := by
  rw [sha256, length_map, length_range]

end CiCoordinator.Library

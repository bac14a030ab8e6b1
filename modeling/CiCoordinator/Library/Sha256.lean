import Mathlib.Data.List.Basic
import CiCoordinator.Library.Text

/- SHA-256 over bytes and the hexadecimal notation of its digests. -/

namespace CiCoordinator.Library

namespace Sha256

/-- The fractional bits of the cube roots of the first sixty-four primes. -/
def roundConstants : List Nat :=
  [0x428a2f98, 0x71374491, 0xb5c0fbcf, 0xe9b5dba5, 0x3956c25b, 0x59f111f1, 0x923f82a4, 0xab1c5ed5,
    0xd807aa98, 0x12835b01, 0x243185be, 0x550c7dc3, 0x72be5d74, 0x80deb1fe, 0x9bdc06a7, 0xc19bf174,
    0xe49b69c1, 0xefbe4786, 0x0fc19dc6, 0x240ca1cc, 0x2de92c6f, 0x4a7484aa, 0x5cb0a9dc, 0x76f988da,
    0x983e5152, 0xa831c66d, 0xb00327c8, 0xbf597fc7, 0xc6e00bf3, 0xd5a79147, 0x06ca6351, 0x14292967,
    0x27b70a85, 0x2e1b2138, 0x4d2c6dfc, 0x53380d13, 0x650a7354, 0x766a0abb, 0x81c2c92e, 0x92722c85,
    0xa2bfe8a1, 0xa81a664b, 0xc24b8b70, 0xc76c51a3, 0xd192e819, 0xd6990624, 0xf40e3585, 0x106aa070,
    0x19a4c116, 0x1e376c08, 0x2748774c, 0x34b0bcb5, 0x391c0cb3, 0x4ed8aa4a, 0x5b9cca4f, 0x682e6ff3,
    0x748f82ee, 0x78a5636f, 0x84c87814, 0x8cc70208, 0x90befffa, 0xa4506ceb, 0xbef9a3f7, 0xc67178f2]

/-- The eight working words. -/
structure State where
  a : Nat
  b : Nat
  c : Nat
  d : Nat
  e : Nat
  f : Nat
  g : Nat
  h : Nat

/-- The fractional bits of the square roots of the first eight primes. -/
def initial : State :=
  ⟨0x6a09e667, 0xbb67ae85, 0x3c6ef372, 0xa54ff53a, 0x510e527f, 0x9b05688c, 0x1f83d9ab, 0x5be0cd19⟩

/-- Words are taken modulo two to the thirty-second. -/
def word (number : Nat) : Nat :=
  number % 0x100000000

/-- A word that repeats itself above its own bits, so that shifting it right rotates the word. -/
def doubled (number : Nat) : Nat :=
  number * 0x100000001

/-- Three rotations of a word, combined bit by bit. -/
def rotations (first second third number : Nat) : Nat :=
  let pair := doubled number
  word (Nat.xor (Nat.xor (Nat.shiftRight pair first) (Nat.shiftRight pair second)) (Nat.shiftRight pair third))

/-- Two rotations and a shift of a word, combined bit by bit. -/
def schedule (first second shift number : Nat) : Nat :=
  let pair := doubled number
  Nat.xor (word (Nat.xor (Nat.shiftRight pair first) (Nat.shiftRight pair second))) (Nat.shiftRight number shift)

/-- One round mixes a constant and a schedule word into the working words. -/
def round (state : State) (constant scheduled : Nat) : State :=
  let choice := Nat.xor state.g (Nat.land state.e (Nat.xor state.f state.g))
  let majority := Nat.lor (Nat.land state.a state.b) (Nat.land state.c (Nat.lor state.a state.b))
  let first := state.h + rotations 6 11 25 state.e + choice + constant + scheduled
  ⟨word (first + rotations 2 13 22 state.a + majority), state.a, state.b, state.c, word (state.d + first), state.e,
    state.f, state.g⟩

/-- A word of the window, counted from the newest one. -/
def windowWord (window index : Nat) : Nat :=
  word (Nat.shiftRight window (32 * index))

/-- The schedule slides a window of sixteen words, kept in one number with the oldest word on top. -/
def slide (window : Nat) : Nat :=
  let next := word (windowWord window 15 + schedule 7 18 3 (windowWord window 14) + windowWord window 6 +
    schedule 17 19 10 (windowWord window 1))
  (window * 0x100000000 + next) % 2 ^ 512

/-- The rounds of one block. -/
def rounds : List Nat → Nat → State → State
  | [], _, state => state
  | constant :: constants, window, state =>
    rounds constants (slide window) (round state constant (windowWord window 15))

/-- The working words after one block are added to those before it. -/
def compress (state : State) (window : Nat) : State :=
  let mixed := rounds roundConstants window state
  ⟨word (state.a + mixed.a), word (state.b + mixed.b), word (state.c + mixed.c), word (state.d + mixed.d),
    word (state.e + mixed.e), word (state.f + mixed.f), word (state.g + mixed.g), word (state.h + mixed.h)⟩

/-- Bytes read as one big-endian number. -/
def bigEndian (bytes : List Nat) : Nat :=
  bytes.foldl (fun number byte => number * 256 + byte) 0

/-- The padding marks the end of the message and states its length in bits. -/
def padding (length : Nat) : List Nat :=
  0x80 :: List.replicate ((119 - length % 64) % 64) 0 ++
    (List.range 8).map fun index => Nat.shiftRight (8 * length) (8 * (7 - index)) % 256

/-- The blocks of a padded message are compressed in order. -/
def blocks : Nat → Nat → State → State
  | 0, _, state => state
  | count + 1, message, state =>
    blocks count message (compress state (Nat.shiftRight message (512 * count) % 2 ^ 512))

/-- The digest of a byte sequence, as one number. -/
def digest (bytes : List Nat) : Nat :=
  let padded := bytes ++ padding bytes.length
  let state := blocks (padded.length / 64) (bigEndian padded) initial
  [state.b, state.c, state.d, state.e, state.f, state.g, state.h].foldl
    (fun number part => number * 0x100000000 + part) state.a

/-- A lowercase hexadecimal digit. -/
def nibblePoint (nibble : Nat) : CodePoint :=
  if nibble % 16 < 10 then ⟨48 + nibble % 16, by omega⟩ else ⟨87 + nibble % 16, by omega⟩

/-- A number in a fixed count of hexadecimal digits. -/
def hexadecimal : Nat → Nat → Text → Text
  | 0, _, written => written
  | count + 1, number, written => hexadecimal count (number / 16) (nibblePoint number :: written)

end Sha256

/-- A lowercase hexadecimal character. -/
def CodePoint.isLowerHex (point : CodePoint) : Bool :=
  48 ≤ point.val && point.val ≤ 57 || 97 ≤ point.val && point.val ≤ 102

/-- A lowercase digest has sixty-four hexadecimal characters. -/
def isSha256Hex (text : Text) : Bool :=
  text.length = 64 && text.all CodePoint.isLowerHex

theorem isSha256Hex_zeros : isSha256Hex (List.replicate 64 48) = true := by
  decide

variable (bytes : List Nat)

/-- The hexadecimal digest of a byte sequence. -/
@[irreducible] def sha256Hex : Text :=
  Sha256.hexadecimal 64 (Sha256.digest bytes) []

theorem isLowerHex_nibblePoint (nibble : Nat) : (Sha256.nibblePoint nibble).isLowerHex = true := by
  unfold Sha256.nibblePoint
  split
  · have bound : 48 ≤ 48 + nibble % 16 ∧ 48 + nibble % 16 ≤ 57 := by omega
    exact Bool.or_eq_true_iff.mpr (.inl (Bool.and_eq_true_iff.mpr ⟨decide_eq_true bound.1, decide_eq_true bound.2⟩))
  · have bound : 97 ≤ 87 + nibble % 16 ∧ 87 + nibble % 16 ≤ 102 := by omega
    exact Bool.or_eq_true_iff.mpr (.inr (Bool.and_eq_true_iff.mpr ⟨decide_eq_true bound.1, decide_eq_true bound.2⟩))

theorem hexadecimal_spec {count number : Nat} {written : Text} (lower : written.all CodePoint.isLowerHex = true) :
    (Sha256.hexadecimal count number written).length = count + written.length ∧
      (Sha256.hexadecimal count number written).all CodePoint.isLowerHex = true := by
  induction count generalizing number written with
  | zero => simpa [Sha256.hexadecimal] using lower
  | succ count ih =>
    have extended : (Sha256.nibblePoint number :: written).all CodePoint.isLowerHex = true := by
      simp [isLowerHex_nibblePoint, lower]
    have step := @ih (number / 16) _ extended
    rw [Sha256.hexadecimal]
    refine ⟨?_, step.2⟩
    rw [step.1, List.length_cons]
    omega

/-- Every digest has the digest format. -/
@[simp] theorem isSha256Hex_sha256Hex : isSha256Hex (sha256Hex bytes) = true := by
  unfold sha256Hex isSha256Hex
  have spec := @hexadecimal_spec 64 (Sha256.digest bytes) [] rfl
  simp [spec.1, spec.2]

theorem isSurrogate_of_isLowerHex {point : CodePoint} (lower : point.isLowerHex = true) : point.isSurrogate = false := by
  simp only [CodePoint.isLowerHex, Bool.or_eq_true, Bool.and_eq_true, decide_eq_true_eq] at lower
  simp only [CodePoint.isSurrogate, Bool.and_eq_false_iff, decide_eq_false_iff_not]
  exact .inl (by omega)

theorem scalar_of_isSha256Hex {text : Text} (digest : isSha256Hex text = true) : text.scalar = true := by
  simp only [isSha256Hex, Bool.and_eq_true, List.all_eq_true] at digest
  simp only [Text.scalar, List.all_eq_true, Bool.not_eq_eq_eq_not]
  exact fun point member => isSurrogate_of_isLowerHex (digest.2 point member)

@[simp] theorem scalar_sha256Hex : Text.scalar (sha256Hex bytes) = true :=
  scalar_of_isSha256Hex (isSha256Hex_sha256Hex bytes)

end CiCoordinator.Library

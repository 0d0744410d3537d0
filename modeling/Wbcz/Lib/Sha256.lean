import Mathlib.Data.List.Basic

/-!
# SHA-256

The digest of a byte string, with or without a key, as lower-case hexadecimal text. Words are
natural numbers below `2 ^ 32`.
-/

namespace Sha256

/-- The words modulo `2 ^ 32`. -/
def word (n : Nat) : Nat := n % 4294967296

/-- Rotation of a word to the right. -/
def rotr (k x : Nat) : Nat := (x >>> k) ||| word (x <<< (32 - k))

/-- The round constants. -/
def roundConstants : List Nat :=
  [0x428a2f98, 0x71374491, 0xb5c0fbcf, 0xe9b5dba5, 0x3956c25b, 0x59f111f1, 0x923f82a4,
    0xab1c5ed5, 0xd807aa98, 0x12835b01, 0x243185be, 0x550c7dc3, 0x72be5d74, 0x80deb1fe,
    0x9bdc06a7, 0xc19bf174, 0xe49b69c1, 0xefbe4786, 0x0fc19dc6, 0x240ca1cc, 0x2de92c6f,
    0x4a7484aa, 0x5cb0a9dc, 0x76f988da, 0x983e5152, 0xa831c66d, 0xb00327c8, 0xbf597fc7,
    0xc6e00bf3, 0xd5a79147, 0x06ca6351, 0x14292967, 0x27b70a85, 0x2e1b2138, 0x4d2c6dfc,
    0x53380d13, 0x650a7354, 0x766a0abb, 0x81c2c92e, 0x92722c85, 0xa2bfe8a1, 0xa81a664b,
    0xc24b8b70, 0xc76c51a3, 0xd192e819, 0xd6990624, 0xf40e3585, 0x106aa070, 0x19a4c116,
    0x1e376c08, 0x2748774c, 0x34b0bcb5, 0x391c0cb3, 0x4ed8aa4a, 0x5b9cca4f, 0x682e6ff3,
    0x748f82ee, 0x78a5636f, 0x84c87814, 0x8cc70208, 0x90befffa, 0xa4506ceb, 0xbef9a3f7,
    0xc67178f2]

/-- The working variables of the compression function. -/
structure State where
  a : Nat
  b : Nat
  c : Nat
  d : Nat
  e : Nat
  f : Nat
  g : Nat
  h : Nat
  deriving DecidableEq, Repr

/-- The state before the first block. -/
def initial : State :=
  ⟨0x6a09e667, 0xbb67ae85, 0x3c6ef372, 0xa54ff53a, 0x510e527f, 0x9b05688c, 0x1f83d9ab,
    0x5be0cd19⟩

/-- The word that follows sixteen words of the schedule. -/
def scheduleNext (w : List Nat) : Nat :=
  let w1 := w.getD 1 0
  let w14 := w.getD 14 0
  let s0 := (rotr 7 w1 ^^^ rotr 18 w1) ^^^ (w1 >>> 3)
  let s1 := (rotr 17 w14 ^^^ rotr 19 w14) ^^^ (w14 >>> 10)
  word (w.getD 0 0 + s0 + w.getD 9 0 + s1)

/-- One round with its constant and its word of the schedule. -/
def round (s : State) (k w : Nat) : State :=
  let s1 := (rotr 6 s.e ^^^ rotr 11 s.e) ^^^ rotr 25 s.e
  let ch := (s.e &&& s.f) ^^^ ((4294967295 - s.e) &&& s.g)
  let t1 := s.h + s1 + ch + k + w
  let s0 := (rotr 2 s.a ^^^ rotr 13 s.a) ^^^ rotr 22 s.a
  let maj := ((s.a &&& s.b) ^^^ (s.a &&& s.c)) ^^^ (s.b &&& s.c)
  ⟨word (t1 + s0 + maj), s.a, s.b, s.c, word (s.d + t1), s.e, s.f, s.g⟩

/-- The rounds of a block: the head of the window is the word of the round. -/
def rounds (s : State) (window : List Nat) : List Nat → State
  | [] => s
  | k :: ks => rounds (round s k (window.headD 0)) (window.tail ++ [scheduleNext window]) ks

/-- The state after a block of sixteen words. -/
def compress (s : State) (block : List Nat) : State :=
  let t := rounds s block roundConstants
  ⟨word (s.a + t.a), word (s.b + t.b), word (s.c + t.c), word (s.d + t.d), word (s.e + t.e),
    word (s.f + t.f), word (s.g + t.g), word (s.h + t.h)⟩

/-- Big-endian words of a byte string. -/
def words : List Nat → List Nat
  | a :: b :: c :: d :: rest => (((a * 256 + b) * 256 + c) * 256 + d) :: words rest
  | _ => []

/-- The padded message: a set bit, zeros, and the length in bits. -/
def pad (bytes : List Nat) : List Nat :=
  let zeros := (119 - bytes.length % 64) % 64
  let bits := bytes.length * 8
  bytes ++ 128 :: List.replicate zeros 0 ++
    (List.range 8).map fun i => bits >>> (8 * (7 - i)) % 256

/-- The state after the blocks of a message of `n` blocks. -/
def blocks (s : State) : Nat → List Nat → State
  | 0, _ => s
  | n + 1, w => blocks (compress s (w.take 16)) n (w.drop 16)

/-- A word as eight hexadecimal digits. -/
def hexWord (n : Nat) : List Char :=
  (List.range 8).map fun i => Nat.digitChar (n >>> (4 * (7 - i)) % 16)

/-- `hashlib.sha256(data).hexdigest()`. -/
def hexdigest (bytes : List UInt8) : String :=
  let w := words (pad (bytes.map UInt8.toNat))
  let s := blocks initial (w.length / 16) w
  String.ofList ([s.a, s.b, s.c, s.d, s.e, s.f, s.g, s.h].flatMap hexWord)

example : hexdigest [97, 98, 99] =
    "ba7816bf8f01cfea414140de5dae2223b00361a396177a9cb410ff61f20015ad" := by decide +kernel

theorem length_hexWord (n : Nat) : (hexWord n).length = 8 := by
  rw [hexWord, List.length_map, List.length_range]

theorem length_hexdigest (bytes : List UInt8) : (hexdigest bytes).toList.length = 64 := by
  simp [hexdigest, length_hexWord]

theorem mem_hexdigest {bytes : List UInt8} {c : Char} (h : c ∈ (hexdigest bytes).toList) :
    ∃ n < 16, c = Nat.digitChar n := by
  simp only [hexdigest, String.toList_ofList, List.mem_flatMap, hexWord, List.mem_map] at h
  obtain ⟨word, -, i, -, rfl⟩ := h
  exact ⟨_, Nat.mod_lt _ (by decide), rfl⟩

/-- The text of a digest has no NUL. -/
theorem nul_not_mem_hexdigest (bytes : List UInt8) :
    Char.ofNat 0 ∉ (hexdigest bytes).toList := by
  intro h
  obtain ⟨n, hn, hnul⟩ := mem_hexdigest h
  have hdigit : ∀ n < 16, Char.ofNat 0 ≠ Nat.digitChar n := by decide
  exact hdigit n hn hnul

/-- The four bytes of a word. -/
def wordBytes (n : Nat) : List UInt8 :=
  (List.range 4).map fun i => UInt8.ofNat (n >>> (8 * (3 - i)))

/-- `hashlib.sha256(data).digest()`. -/
def digest (bytes : List UInt8) : List UInt8 :=
  let w := words (pad (bytes.map UInt8.toNat))
  let s := blocks initial (w.length / 16) w
  [s.a, s.b, s.c, s.d, s.e, s.f, s.g, s.h].flatMap wordBytes

/-- The key of an HMAC as a block. -/
def hmacKey (key : List UInt8) : List UInt8 :=
  let short := if key.length > 64 then digest key else key
  short ++ List.replicate (64 - short.length) 0

/-- `hmac.new(key, message, hashlib.sha256).hexdigest()`. -/
def hmacHexdigest (key message : List UInt8) : String :=
  let block := hmacKey key
  hexdigest (block.map (· ^^^ 0x5c) ++ digest (block.map (· ^^^ 0x36) ++ message))

example : hmacHexdigest (List.replicate 20 11) [72, 105, 32, 84, 104, 101, 114, 101] =
    "b0344c61d8db38535ca8afceaf0bf12b881dc200c9833da726e9376c2e32cff7" := by decide +kernel

end Sha256

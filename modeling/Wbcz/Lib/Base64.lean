import Mathlib.Data.List.Basic
import Mathlib.Tactic.Linarith

/-!
# Base64

The standard alphabet with padding. Decoding is strict as in CPython's `binascii`:
every character counts, nothing but padding follows padding, and no text starts with
it. The bits that padding leaves over need not be zero, and superfluous padding after
a complete group is ignored, so several texts may decode to the same bytes; encoding
gives the canonical one.
-/

namespace Base64

/-- The character of a six-bit value. -/
def encodeChar (n : Nat) : Char :=
  if n < 26 then Char.ofNat (65 + n)
  else if n < 52 then Char.ofNat (71 + n)
  else if n < 62 then Char.ofNat (n - 4)
  else if n = 62 then '+'
  else '/'

/-- The six-bit value of a character of the alphabet. -/
def decodeChar (c : Char) : Option Nat :=
  if 65 ≤ c.toNat ∧ c.toNat ≤ 90 then some (c.toNat - 65)
  else if 97 ≤ c.toNat ∧ c.toNat ≤ 122 then some (c.toNat - 71)
  else if 48 ≤ c.toNat ∧ c.toNat ≤ 57 then some (c.toNat + 4)
  else if c = '+' then some 62
  else if c = '/' then some 63
  else none

theorem decodeChar_encodeChar {n : Nat} (h : n < 64) : decodeChar (encodeChar n) = some n := by
  have all : ∀ m : Fin 64, decodeChar (encodeChar m) = some m.val := by decide
  exact all ⟨n, h⟩

theorem encodeChar_ne_pad {n : Nat} (h : n < 64) : encodeChar n ≠ '=' := by
  have all : ∀ m : Fin 64, encodeChar m ≠ '=' := by decide
  exact all ⟨n, h⟩

/-- Encode bytes, three to a group of four characters. -/
def encode : List UInt8 → List Char
  | [] => []
  | [x] => [encodeChar (x.toNat / 4), encodeChar (x.toNat % 4 * 16), '=', '=']
  | [x, y] => [encodeChar (x.toNat / 4), encodeChar (x.toNat % 4 * 16 + y.toNat / 16),
      encodeChar (y.toNat % 16 * 4), '=']
  | x :: y :: z :: rest => encodeChar (x.toNat / 4) ::
      encodeChar (x.toNat % 4 * 16 + y.toNat / 16) ::
      encodeChar (y.toNat % 16 * 4 + z.toNat / 64) :: encodeChar (z.toNat % 64) :: encode rest

/-- The byte made of two six-bit values, split at `k` bits of the second. -/
def byte (hi lo : Nat) : UInt8 := UInt8.ofNat (hi + lo)

/-- Decode groups of four characters; only the last group may be padded. -/
def decodeGroups : List Char → Option (List UInt8)
  | [] => some []
  | a :: b :: c :: d :: rest =>
    if (a :: b :: c :: d :: rest).all (· = '=') then some []
    else if d = '=' ∧ rest = [] then
      if c = '=' then do
        let a ← decodeChar a
        let b ← decodeChar b
        some [byte (a * 4) (b / 16)]
      else do
        let a ← decodeChar a
        let b ← decodeChar b
        let c ← decodeChar c
        some [byte (a * 4) (b / 16), byte (b % 16 * 16) (c / 4)]
    else do
      let a ← decodeChar a
      let b ← decodeChar b
      let c ← decodeChar c
      let d ← decodeChar d
      let tail ← decodeGroups rest
      some (byte (a * 4) (b / 16) :: byte (b % 16 * 16) (c / 4) :: byte (c % 4 * 64) d :: tail)
  | short => if short.all (· = '=') then some [] else none

/-- Strict decoding. -/
def decode (text : List Char) : Option (List UInt8) :=
  if text.head? = some '=' then none else decodeGroups text

@[simp] theorem encode_eq_nil_iff {bs : List UInt8} : encode bs = [] ↔ bs = [] := by
  constructor
  · intro h
    match bs with
    | [] => rfl
    | [_] => simp [encode] at h
    | [_, _] => simp [encode] at h
    | _ :: _ :: _ :: _ => simp [encode] at h
  · rintro rfl
    rfl

private theorem byte_eq {hi lo : Nat} {x : UInt8} (h : hi + lo = x.toNat) : byte hi lo = x := by
  simp [byte, h]

private theorem decodeGroups_encode (bs : List UInt8) :
    decodeGroups (encode bs) = some bs := by
  induction bs using encode.induct with
  | case1 => rfl
  | case2 x =>
    have hx := x.toNat_lt
    have hdata := encodeChar_ne_pad (show x.toNat / 4 < 64 by omega)
    rw [encode, decodeGroups, if_neg (by simp [hdata]), decodeChar_encodeChar (by omega),
      decodeChar_encodeChar (by omega)]
    simp only [and_self, if_true, Option.bind_eq_bind, Option.bind_some]
    rw [byte_eq (x := x) (by omega)]
  | case3 x y =>
    have hx := x.toNat_lt
    have hy := y.toNat_lt
    have hdata := encodeChar_ne_pad (show x.toNat / 4 < 64 by omega)
    have hlast := encodeChar_ne_pad (show y.toNat % 16 * 4 < 64 by omega)
    rw [encode, decodeGroups, if_neg (by simp [hdata]), decodeChar_encodeChar (by omega),
      decodeChar_encodeChar (by omega), decodeChar_encodeChar (by omega)]
    simp only [and_self, if_true, if_neg hlast, Option.bind_eq_bind, Option.bind_some]
    rw [byte_eq (x := x) (by omega), byte_eq (x := y) (by omega)]
  | case4 x y z rest ih =>
    have hx := x.toNat_lt
    have hy := y.toNat_lt
    have hz := z.toNat_lt
    have hdata := encodeChar_ne_pad (show x.toNat / 4 < 64 by omega)
    have hlast := encodeChar_ne_pad (show z.toNat % 64 < 64 by omega)
    rw [encode, decodeGroups, if_neg (by simp [hdata]), if_neg fun h => hlast h.1,
      decodeChar_encodeChar (by omega), decodeChar_encodeChar (by omega),
      decodeChar_encodeChar (by omega), decodeChar_encodeChar (by omega), ih]
    simp only [Option.bind_eq_bind, Option.bind_some]
    rw [byte_eq (x := x) (by omega), byte_eq (x := y) (by omega), byte_eq (x := z) (by omega)]

/-- Decoded text consists of characters of the alphabet and of padding. -/
theorem mem_decodeGroups {text : List Char} {bs : List UInt8}
    (h : decodeGroups text = some bs) {x : Char} (hx : x ∈ text) :
    x = '=' ∨ (decodeChar x).isSome := by
  induction text using decodeGroups.induct generalizing bs with
  | case1 => cases hx
  | case2 a b c d rest hall =>
    exact .inl (by simpa using List.all_eq_true.mp hall x hx)
  | case3 a b d rest hlast hall =>
    obtain ⟨rfl, rfl⟩ := hlast
    rw [decodeGroups, if_neg hall] at h
    simp only [and_self, if_true, Option.bind_eq_bind, Option.bind_eq_some_iff] at h
    obtain ⟨va, ha, vb, hb, _⟩ := h
    simp only [List.mem_cons, List.not_mem_nil, or_false] at hx
    rcases hx with rfl | rfl | rfl | rfl
    · simp [ha]
    · simp [hb]
    · exact .inl rfl
    · exact .inl rfl
  | case4 a b c d rest hall hlast hc =>
    obtain ⟨rfl, rfl⟩ := hlast
    rw [decodeGroups, if_neg hall] at h
    simp only [and_self, if_true, if_neg hc, Option.bind_eq_bind, Option.bind_eq_some_iff] at h
    obtain ⟨va, ha, vb, hb, vc, hvc, _⟩ := h
    simp only [List.mem_cons, List.not_mem_nil, or_false] at hx
    rcases hx with rfl | rfl | rfl | rfl
    · simp [ha]
    · simp [hb]
    · simp [hvc]
    · exact .inl rfl
  | case5 a b c d rest hall hlast ih =>
    rw [decodeGroups, if_neg hall, if_neg hlast] at h
    simp only [Option.bind_eq_bind, Option.bind_eq_some_iff] at h
    obtain ⟨va, ha, vb, hb, vc, hvc, vd, hd, tail, htail, _⟩ := h
    simp only [List.mem_cons] at hx
    rcases hx with rfl | rfl | rfl | rfl | hrest
    · simp [ha]
    · simp [hb]
    · simp [hvc]
    · simp [hd]
    · exact ih htail hrest
  | case6 short _ _ hall =>
    exact .inl (by simpa using List.all_eq_true.mp hall x hx)
  | case7 short hnil hlong hall =>
    rw [decodeGroups] at h
    · simp [hall] at h
    · exact hnil
    · exact hlong

/-- A character outside the alphabet does not occur in decoded text. -/
theorem not_mem_of_decode {text : List Char} {bs : List UInt8} (h : decode text = some bs)
    {x : Char} (hx : decodeChar x = none) (hpad : x ≠ '=') : x ∉ text := by
  intro hmem
  rw [decode] at h
  split at h
  · cases h
  · rcases mem_decodeGroups h hmem with rfl | hsome
    · exact hpad rfl
    · simp [hx] at hsome

private theorem head?_encode (bs : List UInt8) : (encode bs).head? ≠ some '=' := by
  match bs with
  | [] => simp [encode]
  | [x] =>
    simpa [encode] using encodeChar_ne_pad (show x.toNat / 4 < 64 by have := x.toNat_lt; omega)
  | [x, _] =>
    simpa [encode] using encodeChar_ne_pad (show x.toNat / 4 < 64 by have := x.toNat_lt; omega)
  | x :: _ :: _ :: _ =>
    simpa [encode] using encodeChar_ne_pad (show x.toNat / 4 < 64 by have := x.toNat_lt; omega)

/-- Decoding undoes encoding. -/
theorem decode_encode (bs : List UInt8) : decode (encode bs) = some bs := by
  rw [decode, if_neg (head?_encode bs), decodeGroups_encode]

end Base64

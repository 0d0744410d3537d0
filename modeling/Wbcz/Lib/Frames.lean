import Mathlib.Data.List.Basic
import Mathlib.Data.Nat.Notation

/-!
# Frames

Bytes behind their lengths, and a stream read piece by piece.
-/

namespace Frames

variable {α : Type}

/-- Four bytes of a number, the highest first. -/
def word (n : ℕ) : List UInt8 := [24, 16, 8, 0].map fun k => UInt8.ofNat (n >>> k)

/-- The number that bytes make, the highest first. -/
def number (bs : List UInt8) : ℕ := bs.foldl (fun n b => 256 * n + b.toNat) 0

/-- Bytes behind their length. -/
def frame (bs : List UInt8) : List UInt8 := word bs.length ++ bs

@[simp] theorem length_word (n : ℕ) : (word n).length = 4 := rfl

theorem number_word {n : ℕ} (h : n < 4294967296) : number (word n) = n := by
  simp only [number, word, List.map_cons, List.map_nil, List.foldl_cons, List.foldl_nil,
    UInt8.toNat_ofNat', Nat.shiftRight_eq_div_pow]
  omega

theorem word_injective {m n : ℕ} (hm : m < 4294967296) (hn : n < 4294967296)
    (h : word m = word n) : m = n := by
  rw [← number_word hm, h, number_word hn]

/-- What `read(n)` gives of a stream until it gives nothing. -/
def pieces (n : ℕ) : ℕ → List α → List (List α)
  | 0, _ => []
  | fuel + 1, xs => if (xs.take n).isEmpty then [] else xs.take n :: pieces n fuel (xs.drop n)

theorem flatten_pieces {n : ℕ} (hn : 0 < n) {fuel : ℕ} {xs : List α} (h : xs.length ≤ fuel) :
    (pieces n fuel xs).flatten = xs := by
  induction fuel generalizing xs with
  | zero => exact (List.length_eq_zero_iff.mp (Nat.le_zero.mp h)).symm
  | succ fuel ih =>
    rw [pieces]
    split
    next hempty =>
      rcases List.take_eq_nil_iff.mp (List.isEmpty_iff.mp hempty) with hzero | hnil
      · omega
      · exact hnil.symm
    next =>
      -- a piece takes something away, so that the fuel lasts
      have hrest : (xs.drop n).length ≤ fuel := by
        rw [List.length_drop]
        omega
      rw [List.flatten_cons, ih hrest, List.take_append_drop]

end Frames

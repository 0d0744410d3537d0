import Mathlib.Data.List.Basic
import Mathlib.Data.List.Count
import Mathlib.Data.List.Induction

/-!
# Tables that are both appended to and updated in place

Rows with a key that need not be unique: one path appends a row whatever is there, another one
updates a row of the key and appends it only where there is none. The keys of the rows follow from
the writes alone.
-/

namespace Upserts

variable {κ : Type*} [DecidableEq κ]

/-- A write of one row. -/
inductive Write (κ : Type*) where
  | append (key : κ)
  | upsert (key : κ)
  deriving DecidableEq

namespace Write

/-- The key of the row written. -/
def key : Write κ → κ
  | append key => key
  | upsert key => key

/-- The keys of the rows after a write. -/
def apply (keys : List κ) : Write κ → List κ
  | append key => keys ++ [key]
  | upsert key => if key ∈ keys then keys else keys ++ [key]

theorem mem_apply {w : Write κ} {keys : List κ} {k : κ} :
    k ∈ w.apply keys ↔ k ∈ keys ∨ w.key = k := by
  cases w with
  | append key => simp [apply, Write.key, eq_comm]
  | upsert key =>
    simp only [apply, Write.key]
    by_cases hmem : key ∈ keys
    · rw [if_pos hmem]
      exact ⟨.inl, Or.rec id fun h => h ▸ hmem⟩
    · rw [if_neg hmem]
      simp [eq_comm]

theorem count_append (keys : List κ) (k : κ) :
    ((append k).apply keys).count k = keys.count k + 1 := by
  simp [apply]

/-- An update leaves at most one more row, and that only where there was none. -/
theorem count_apply_le_one {w : Write κ} {keys : List κ} {k : κ} (h : w ≠ append k) :
    (w.apply keys).count k ≤ 1 ↔ keys.count k ≤ 1 := by
  cases w with
  | append key =>
    have hne : key ≠ k := fun he => h (congrArg append he)
    simp [apply, hne]
  | upsert key =>
    simp only [apply]
    by_cases hmem : key ∈ keys
    · rw [if_pos hmem]
    · rw [if_neg hmem, List.count_append]
      by_cases hk : key = k
      · subst hk
        rw [List.count_eq_zero.mpr hmem, List.count_singleton_self]
        omega
      · rw [List.count_singleton, if_neg (by simpa using hk), Nat.add_zero]

end Write

/-- The keys of the rows after writes to an empty table. -/
def keysAfter (writes : List (Write κ)) : List κ := writes.foldl Write.apply []

theorem keysAfter_concat (writes : List (Write κ)) (w : Write κ) :
    keysAfter (writes ++ [w]) = w.apply (keysAfter writes) := by
  rw [keysAfter, List.foldl_append]
  rfl

theorem mem_keysAfter {writes : List (Write κ)} {k : κ} :
    k ∈ keysAfter writes ↔ ∃ w ∈ writes, w.key = k := by
  induction writes using List.reverseRecOn with
  | nil => simp [keysAfter]
  | append_singleton writes w ih =>
    rw [keysAfter_concat, Write.mem_apply, ih]
    simp only [List.mem_append, List.mem_singleton, or_and_right, exists_or, exists_eq_left]

/-- No row of a key is appended after another write to it. -/
def AppendedFirst (k : κ) (writes : List (Write κ)) : Prop :=
  writes.Pairwise fun earlier later => earlier.key = k → later ≠ .append k

instance (k : κ) (writes : List (Write κ)) : Decidable (AppendedFirst k writes) :=
  inferInstanceAs (Decidable (writes.Pairwise fun a b => a.key = k → b ≠ .append k))

theorem appendedFirst_concat {k : κ} {writes : List (Write κ)} {w : Write κ} :
    AppendedFirst k (writes ++ [w]) ↔
      AppendedFirst k writes ∧ (w = .append k → k ∉ keysAfter writes) := by
  rw [AppendedFirst, List.pairwise_append, AppendedFirst, mem_keysAfter]
  simp only [List.pairwise_singleton, List.mem_singleton, forall_eq, true_and, not_exists, not_and]
  refine and_congr_right fun _ => ⟨?_, ?_⟩
  · intro h hw earlier hmem hkey
    exact h earlier hmem hkey hw
  · intro h earlier hmem hkey hw
    exact h hw earlier hmem hkey

/-- A key has one row at most exactly when no row of it is appended after another write to it. -/
theorem count_keysAfter_le_one_iff {k : κ} {writes : List (Write κ)} :
    (keysAfter writes).count k ≤ 1 ↔ AppendedFirst k writes := by
  induction writes using List.reverseRecOn with
  | nil => simp [keysAfter, AppendedFirst]
  | append_singleton writes w ih =>
    rw [keysAfter_concat, appendedFirst_concat]
    by_cases hw : w = .append k
    · subst hw
      rw [Write.count_append]
      constructor
      · intro h
        have hzero : (keysAfter writes).count k = 0 := by omega
        exact ⟨ih.mp (by omega), fun _ => List.count_eq_zero.mp hzero⟩
      · rintro ⟨-, h⟩
        have hzero : (keysAfter writes).count k = 0 := List.count_eq_zero.mpr (h rfl)
        omega
    · rw [Write.count_apply_le_one hw, ih]
      exact ⟨fun h => ⟨h, fun hw' => absurd hw' hw⟩, And.left⟩

end Upserts

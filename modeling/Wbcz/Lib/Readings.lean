import Mathlib.Data.List.Basic
import Mathlib.Order.Lattice

/-!
# Readings of a clock

A list whose elements have been read off a clock that never goes back.
-/

namespace Readings

variable {α K : Type} [LinearOrder K] {reading : α → K} {l : List α}

/-- No reading is before an earlier one. -/
def InOrder (reading : α → K) (l : List α) : Prop := l.Pairwise fun a b => reading a ≤ reading b

/-- Some moment is not before any reading. -/
theorem InOrder.exists_le [Inhabited K] (h : InOrder reading l) :
    ∃ last, ∀ a ∈ l, reading a ≤ last := by
  rcases List.eq_nil_or_concat l with rfl | ⟨first, a, rfl⟩
  · exact ⟨default, fun _ ha => (List.not_mem_nil ha).elim⟩
  · rw [InOrder, List.concat_eq_append, List.pairwise_append] at h
    refine ⟨reading a, fun b hb => ?_⟩
    rw [List.concat_eq_append] at hb
    rcases List.mem_append.mp hb with hmem | hmem
    · exact h.2.2 b hmem a (List.mem_singleton_self a)
    · rw [List.mem_singleton.mp hmem]

theorem filter_append_filter_not {p : α → Bool}
    (h : l.Pairwise fun a b => p a = false → p b = false) :
    l.filter p ++ l.filter (fun a => !p a) = l := by
  induction l with
  | nil => rfl
  | cons a l ih =>
    obtain ⟨hhead, htail⟩ := List.pairwise_cons.mp h
    cases hp : p a with
    | true =>
      rw [List.filter_cons_of_pos hp, List.filter_cons_of_neg (by simp [hp]), List.cons_append,
        ih htail]
    | false =>
      -- from here on nothing passes
      have hnone : l.filter p = [] :=
        List.filter_eq_nil_iff.mpr fun b hb => by simp [hhead b hb hp]
      have hall : l.filter (fun b => !p b) = l :=
        List.filter_eq_self.mpr fun b hb => by simp [hhead b hb hp]
      rw [List.filter_cons_of_neg (by simp [hp]), List.filter_cons_of_pos (by simp [hp]), hnone,
        hall, List.nil_append]

/-- What is before an interval, in it and after it. -/
theorem split (h : InOrder reading l) {start finish : K} (hinterval : start ≤ finish) :
    l = l.filter (fun a => decide (reading a < start)) ++
      l.filter (fun a => decide (start ≤ reading a ∧ reading a ≤ finish)) ++
      l.filter (fun a => decide (finish < reading a)) := by
  have hbefore : l.filter (fun a => decide (reading a < start)) ++
      l.filter (fun a => !decide (reading a < start)) = l := by
    refine filter_append_filter_not (h.imp fun hle hp => ?_)
    simp only [decide_eq_false_iff_not, not_lt] at hp ⊢
    exact hp.trans hle
  have hrest : (l.filter fun a => !decide (reading a < start)).Pairwise fun a b =>
      decide (reading a ≤ finish) = false → decide (reading b ≤ finish) = false := by
    refine (h.filter _).imp fun hle hp => ?_
    simp only [decide_eq_false_iff_not, not_le] at hp ⊢
    exact hp.trans_le hle
  have hwithin := filter_append_filter_not hrest
  rw [List.filter_filter, List.filter_filter] at hwithin
  have hfirst : ∀ a, (decide (reading a ≤ finish) && !decide (reading a < start)) =
      decide (start ≤ reading a ∧ reading a ≤ finish) := by
    intro a
    simp only [Bool.and_comm, Bool.decide_and, ← decide_not, not_lt]
  have hlast : ∀ a, (!decide (reading a ≤ finish) && !decide (reading a < start)) =
      decide (finish < reading a) := by
    intro a
    rw [← decide_not, ← decide_not, ← Bool.decide_and, decide_eq_decide, not_le, not_lt]
    exact and_iff_left_of_imp fun hlt => hinterval.trans hlt.le
  rw [funext hfirst, funext hlast] at hwithin
  rw [List.append_assoc, hwithin, hbefore]

end Readings

import Mathlib.Algebra.Order.Group.Defs
import Mathlib.Algebra.Order.Group.Unbundled.Basic
import Mathlib.Data.List.Basic
import Mathlib.Tactic.Abel

/-!
# Sliding windows

A limiter that admits a request unless as many as its limit were admitted since a span of time
before. It is described by all readings that it admitted; an implementation need not keep those that
have slid out.
-/

namespace SlidingWindow

variable {K : Type} [AddCommGroup K] [LinearOrder K] {span now later last : K} {limit : ℕ}
  {admitted kept : List K}

/-- The readings that have not slid out of the window. -/
def recent (span now : K) (readings : List K) : List K :=
  readings.filter fun t => decide (now - span < t)

/-- How long a request has to wait for the first reading of a full window to slide out. -/
def delay (span : K) (limit : ℕ) (now : K) (kept : List K) : Option K :=
  if limit ≤ kept.length then some (span - (now - kept.head?.getD now)) else none

/-- Two moments with the property are less than the span apart. -/
def Narrow (span : K) (p : K → Prop) : Prop := ∀ a b, p a → p b → a - b < span

/-- The admitted readings are in order, and no window has more of them than the limit. -/
structure Kept (span : K) (limit : ℕ) (last : K) (admitted : List K) : Prop where
  order : admitted.Pairwise (· ≤ ·)
  past : ∀ t ∈ admitted, t ≤ last
  bound : ∀ p [DecidablePred p], Narrow span p →
    (admitted.filter fun t => decide (p t)).length ≤ limit

/-- A history that tells from now on what all readings tell. -/
def Same (span last : K) (kept admitted : List K) : Prop :=
  ∀ now, last ≤ now → recent span now kept = recent span now admitted

theorem mem_recent {t : K} : t ∈ recent span now admitted ↔ t ∈ admitted ∧ now - span < t := by
  rw [recent, List.mem_filter, decide_eq_true_eq]

theorem recent_append (more : List K) :
    recent span now (admitted ++ more) = recent span now admitted ++ recent span now more :=
  List.filter_append ..

theorem Same.refl : Same span last admitted admitted := fun _ _ => rfl

theorem Same.mono (h : Same span last kept admitted) (hle : last ≤ later) :
    Same span later kept admitted := fun now hnow => h now (hle.trans hnow)

/-- A new reading joins both histories. -/
theorem Same.snoc (h : Same span last kept admitted) (t : K) :
    Same span last (kept ++ [t]) (admitted ++ [t]) := by
  intro now hnow
  rw [recent_append, recent_append, h now hnow]

/-- A history in order loses the readings that have slid out at its front. -/
theorem dropWhile_eq_recent (h : kept.Pairwise (· ≤ ·)) :
    kept.dropWhile (fun t => decide (t ≤ now - span)) = recent span now kept := by
  induction kept with
  | nil => rfl
  | cons t kept ih =>
    obtain ⟨hfirst, hrest⟩ := List.pairwise_cons.mp h
    by_cases hout : t ≤ now - span
    · rw [List.dropWhile_cons_of_pos (by simp [hout]), ih hrest, recent, recent,
        List.filter_cons_of_neg (by simp [hout])]
    · -- nothing behind a reading of the window has slid out
      have hall : ∀ u ∈ t :: kept, decide (now - span < u) = true := by
        intro u hu
        rw [decide_eq_true_eq]
        rcases List.mem_cons.mp hu with rfl | hmem
        · exact not_le.mp hout
        · exact (not_le.mp hout).trans_le (hfirst u hmem)
      rw [List.dropWhile_cons_of_neg (by simp [hout]), recent, List.filter_eq_self.mpr hall]

theorem Kept.mono (h : Kept span limit last admitted) (hle : last ≤ later) :
    Kept span limit later admitted :=
  ⟨h.order, fun t ht => (h.past t ht).trans hle, h.bound⟩

theorem Kept.nil : Kept span limit last [] :=
  ⟨List.Pairwise.nil, fun _ ht => (List.not_mem_nil ht).elim, fun _ _ _ => Nat.zero_le _⟩

variable [IsOrderedAddMonoid K]

theorem recent_recent (hle : now ≤ later) :
    recent span later (recent span now admitted) = recent span later admitted := by
  rw [recent, recent, List.filter_filter]
  refine List.filter_congr fun t _ => ?_
  rw [← Bool.decide_and, decide_eq_decide]
  exact and_iff_left_of_imp fun hlt => (sub_le_sub_right hle span).trans_lt hlt

/-- What has slid out may be forgotten. -/
theorem Same.recent (h : Same span last kept admitted) (hle : last ≤ now) :
    Same span now (recent span now kept) admitted := by
  intro later hlater
  rw [recent_recent hlater]
  exact h later (hle.trans hlater)

/-- An admission keeps the limit of every window. -/
theorem Kept.snoc (h : Kept span limit now admitted)
    (hallow : delay span limit now (recent span now admitted) = none) :
    Kept span limit now (admitted ++ [now]) where
  order := by
    rw [List.pairwise_append]
    refine ⟨h.order, List.pairwise_singleton .., fun t ht u hu => ?_⟩
    rw [List.mem_singleton.mp hu]
    exact h.past t ht
  past t ht := by
    rcases List.mem_append.mp ht with hmem | hmem
    · exact h.past t hmem
    · exact (List.mem_singleton.mp hmem).le
  bound p _ hnarrow := by
    have hroom : (recent span now admitted).length < limit := by
      unfold delay at hallow
      split at hallow
      case isTrue => cases hallow
      case isFalse hless => exact not_le.mp hless
    rw [List.filter_append, List.length_append]
    by_cases hp : p now
    · -- the others of the window have not slid out
      have hsub : (admitted.filter fun t => decide (p t)).length ≤
          (recent span now admitted).length := by
        have himp : ∀ t, decide (p t) = true → decide (now - span < t) = true := by
          intro t ht
          rw [decide_eq_true_eq] at ht ⊢
          exact sub_lt_comm.mp (hnarrow now t hp ht)
        exact (List.monotone_filter_right admitted himp).length_le
      rw [List.filter_cons_of_pos (by simp [hp]), List.filter_nil, List.length_singleton]
      omega
    · rw [List.filter_cons_of_neg (by simp [hp]), List.filter_nil, List.length_nil]
      exact h.bound p hnarrow

/-- The window of a moment is full, and not more, when a request is denied. -/
theorem Kept.length_recent_le (h : Kept span limit now admitted) :
    (recent span now admitted).length ≤ limit := by
  have hnarrow : Narrow span fun t => now - span < t ∧ t ≤ now := by
    rintro a b ⟨-, ha⟩ ⟨hb, -⟩
    exact (sub_le_sub_right ha b).trans_lt (sub_lt_comm.mp hb)
  have hsame : recent span now admitted =
      admitted.filter fun t => decide (now - span < t ∧ t ≤ now) := by
    refine List.filter_congr fun t ht => ?_
    rw [decide_eq_decide]
    exact (and_iff_left (h.past t ht)).symm
  rw [hsame]
  exact h.bound _ hnarrow

/-- A denied request has to wait. -/
theorem delay_pos {d : K} (hlimit : 0 < limit)
    (hdenied : delay span limit now (recent span now admitted) = some d) : 0 < d := by
  unfold delay at hdenied
  split at hdenied
  case isFalse => cases hdenied
  case isTrue hfull =>
    cases hrecent : recent span now admitted with
    | nil =>
      rw [hrecent] at hfull
      exact absurd hlimit (not_lt.mpr hfull)
    | cons first rest =>
      have hfirst : first ∈ recent span now admitted := hrecent ▸ List.mem_cons_self
      rw [hrecent, List.head?_cons, Option.getD_some, Option.some.injEq] at hdenied
      rw [← hdenied]
      exact sub_pos.mpr (sub_lt_comm.mp (mem_recent.mp hfirst).2)

/-- The delay of a denial is exact: the request is admitted from then on, and not before. -/
theorem Kept.admits_iff {d : K} (h : Kept span limit now admitted) (hlimit : 0 < limit)
    (hdenied : delay span limit now (recent span now admitted) = some d) (hlater : now ≤ later) :
    delay span limit later (recent span later admitted) = none ↔ now + d ≤ later := by
  unfold delay at hdenied
  split at hdenied
  case isFalse => cases hdenied
  case isTrue hfull =>
    have hlength := le_antisymm h.length_recent_le hfull
    cases hrecent : recent span now admitted with
    | nil =>
      rw [hrecent] at hlength
      exact absurd hlength hlimit.ne
    | cons first rest =>
      rw [hrecent, List.length_cons] at hlength
      rw [hrecent, List.head?_cons, Option.getD_some, Option.some.injEq] at hdenied
      have hmoment : now + d = first + span := by rw [← hdenied]; abel
      have horder : (first :: rest).Pairwise (· ≤ ·) := hrecent ▸ h.order.filter _
      have hfirst : ∀ t ∈ first :: rest, first ≤ t := by
        intro t ht
        rcases List.mem_cons.mp ht with rfl | hmem
        · exact le_refl _
        · exact (List.pairwise_cons.mp horder).1 t hmem
      rw [hmoment, ← recent_recent hlater, hrecent, delay]
      by_cases hout : first + span ≤ later
      · -- the first reading slides out and makes room
        have hdrop : recent span later (first :: rest) = recent span later rest :=
          List.filter_cons_of_neg (by simpa using le_sub_iff_add_le.mpr hout)
        have hless : (recent span later rest).length ≤ rest.length := List.length_filter_le ..
        rw [hdrop, if_neg (by omega)]
        exact iff_of_true rfl hout
      · have hall : recent span later (first :: rest) = first :: rest := by
          refine List.filter_eq_self.mpr fun t ht => ?_
          rw [decide_eq_true_eq, sub_lt_iff_lt_add]
          exact (not_le.mp hout).trans_le (add_le_add_left (hfirst t ht) span)
        rw [hall, List.length_cons, if_pos hlength.ge]
        exact iff_of_false (by simp) hout

end SlidingWindow

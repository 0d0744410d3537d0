import Mathlib.Order.Lattice
import Mathlib.Data.Int.Order.Basic

/-!
# Intervals that tile an interval

A list of intervals, each from a first number to one that is not in it, tiles an interval when each
begins where the one before it ends.
-/

namespace Tiling

/-- The windows begin one where the other ends, from the start to the stop. -/
def Tiles (start stop : ℤ) : List (ℤ × ℤ) → Prop
  | [] => start = stop
  | window :: windows => window.1 = start ∧ window.1 < window.2 ∧ Tiles window.2 stop windows

/-- How many windows of a width cover a length. -/
def windowCount (width length : ℤ) : ℕ := ((length + width - 1) / width).toNat

variable {start stop t : ℤ} {window other : ℤ × ℤ} {windows : List (ℤ × ℤ)}

theorem Tiles.le (h : Tiles start stop windows) : start ≤ stop := by
  induction windows generalizing start with
  | nil => exact le_of_eq h
  | cons window windows ih =>
    obtain ⟨rfl, hlt, hrest⟩ := h
    exact hlt.le.trans (ih hrest)

/-- A window lies in the interval, and it is not empty. -/
theorem Tiles.mem (h : Tiles start stop windows) (hwindow : window ∈ windows) :
    start ≤ window.1 ∧ window.1 < window.2 ∧ window.2 ≤ stop := by
  induction windows generalizing start with
  | nil => cases hwindow
  | cons first windows ih =>
    obtain ⟨rfl, hlt, hrest⟩ := h
    rcases List.mem_cons.mp hwindow with rfl | hwindow
    · exact ⟨le_rfl, hlt, hrest.le⟩
    · obtain ⟨hstart, hbetween, hstop⟩ := ih hrest hwindow
      exact ⟨hlt.le.trans hstart, hbetween, hstop⟩

/-- A window more covers a width more. -/
theorem windowCount_add {width length : ℤ} (hwidth : 0 < width) (hlength : 0 < length) :
    windowCount width (length + width) = windowCount width length + 1 := by
  have hdiv : (length + width + width - 1) / width = (length + width - 1) / width + 1 := by
    rw [show length + width + width - 1 = length + width - 1 + 1 * width by omega,
      Int.add_mul_ediv_right _ _ hwidth.ne']
  have hnonneg : 0 ≤ (length + width - 1) / width :=
    Int.ediv_nonneg (by omega) hwidth.le
  rw [windowCount, windowCount, hdiv]
  omega

theorem windowCount_of_le {width length : ℤ} (hlength : 0 < length) (hle : length ≤ width) :
    windowCount width length = 1 := by
  have hdiv : (length + width - 1) / width = 1 := by
    rw [Int.ediv_eq_iff_of_pos (by omega)]
    omega
  rw [windowCount, hdiv]
  rfl

end Tiling

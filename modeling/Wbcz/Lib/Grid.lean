import Mathlib.Data.List.Basic

/-!
# Rows of cells

A grid is kept as one flat list, row after row, and what is read off a row is a list of runs: the
maximal stretches of its cells that have a property.
-/

namespace Grid

variable {α : Type*}

/-- A stretch of cells: the first of them, and the first that is not in it. -/
structure Run where
  start : ℕ
  stop : ℕ
  deriving DecidableEq, Repr

/-- The cell is in the run. -/
def Run.Has (run : Run) (t : ℕ) : Prop := run.start ≤ t ∧ t < run.stop

instance (run : Run) (t : ℕ) : Decidable (run.Has t) := inferInstanceAs (Decidable (_ ∧ _))

/-- The runs are the maximal stretches of the cells with the property, from left to right. -/
def Marks (p : ℕ → Prop) (start stop : ℕ) : List Run → Prop
  | [] => ∀ t, start ≤ t → t < stop → ¬ p t
  | run :: runs =>
    start ≤ run.start ∧ run.start < run.stop ∧ run.stop ≤ stop ∧
      (∀ t, start ≤ t → t < run.start → ¬ p t) ∧ (∀ t, run.Has t → p t) ∧
      (run.stop < stop → ¬ p run.stop) ∧ Marks p run.stop stop runs

variable {p : ℕ → Prop} {start stop t : ℕ} {run other : Run} {runs : List Run}

/-- A cell without the property belongs to no run. -/
theorem Marks.skip (h : Marks p (start + 1) stop runs) (hp : ¬ p start) :
    Marks p start stop runs := by
  have hskip : ∀ t last, (∀ t, start + 1 ≤ t → t < last → ¬ p t) →
      start ≤ t → t < last → ¬ p t := by
    intro t last hlast ht hlt
    rcases Nat.eq_or_lt_of_le ht with rfl | ht
    · exact hp
    · exact hlast t ht hlt
  cases runs with
  | nil => exact fun t => hskip t stop h
  | cons run runs =>
    obtain ⟨hstart, hlt, hstop, hbefore, hrest⟩ := h
    exact ⟨by omega, hlt, hstop, fun t => hskip t run.start hbefore, hrest⟩

/-- A run is not empty, and it stays within the stretch. -/
theorem Marks.mem (h : Marks p start stop runs) (hrun : run ∈ runs) :
    start ≤ run.start ∧ run.start < run.stop ∧ run.stop ≤ stop := by
  induction runs generalizing start with
  | nil => cases hrun
  | cons first runs ih =>
    obtain ⟨hstart, hlt, hstop, -, -, -, hrest⟩ := h
    rcases List.mem_cons.mp hrun with rfl | hrun
    · exact ⟨hstart, hlt, hstop⟩
    · obtain ⟨hfirst, hlt', hstop'⟩ := ih hrest hrun
      exact ⟨by omega, hlt', hstop'⟩

/-- The cells of the runs are the cells with the property. -/
theorem Marks.iff (h : Marks p start stop runs) (hstart : start ≤ t) (hstop : t < stop) :
    p t ↔ ∃ run ∈ runs, run.Has t := by
  induction runs generalizing start with
  | nil => simpa using h t hstart hstop
  | cons first runs ih =>
    obtain ⟨-, hfirst, -, hbefore, hin, -, hrest⟩ := h
    rw [List.exists_mem_cons_iff]
    -- before the first run, in it, or behind it
    rcases Nat.lt_or_ge t first.start with hlow | hlow
    · constructor
      · intro hp
        exact absurd hp (hbefore t hstart hlow)
      · rintro (⟨hge, -⟩ | ⟨run, hrun, hge, -⟩)
        · omega
        · have := (hrest.mem hrun).1
          omega
    rcases Nat.lt_or_ge t first.stop with hhigh | hhigh
    · exact iff_of_true (hin t ⟨hlow, hhigh⟩) (.inl ⟨hlow, hhigh⟩)
    · rw [ih hrest hhigh, or_iff_right fun hfirst : first.Has t => by
        have := hfirst.2
        omega]

/-- A run ends before the next one begins, with a cell between them. -/
theorem Marks.apart (h : Marks p start stop runs) :
    runs.Pairwise fun run other => run.stop < other.start := by
  induction runs generalizing start with
  | nil => exact List.Pairwise.nil
  | cons first runs ih =>
    obtain ⟨-, -, -, -, -, hend, hrest⟩ := h
    refine List.Pairwise.cons (fun other hother => ?_) (ih hrest)
    obtain ⟨hge, hlt, hstop⟩ := hrest.mem hother
    -- a run that began right there would have made the first one longer
    refine Nat.lt_of_le_of_ne hge fun heq => hend (by omega) ?_
    exact (hrest.iff (Nat.le_refl _) (by omega)).mpr ⟨other, hother, by omega, by omega⟩

/-- The cells of a row in the list of all rows. -/
theorem getElem?_flatten {rows : List (List α)} {n : ℕ} (h : ∀ row ∈ rows, row.length = n)
    {i j : ℕ} (hj : j < n) : rows.flatten[i * n + j]? = rows[i]?.bind fun row => row[j]? := by
  induction rows generalizing i with
  | nil => simp
  | cons row rows ih =>
    obtain ⟨hrow, hrows⟩ := List.forall_mem_cons.mp h
    rw [List.flatten_cons]
    cases i with
    | zero =>
      rw [Nat.zero_mul, Nat.zero_add, List.getElem?_append_left (by omega)]
      rfl
    | succ i =>
      have hindex : (i + 1) * n + j - row.length = i * n + j := by
        rw [hrow, Nat.succ_mul]
        omega
      rw [List.getElem?_append_right (by rw [hrow, Nat.succ_mul]; omega), hindex, ih hrows,
        List.getElem?_cons_succ]

theorem length_flatten {rows : List (List α)} {n : ℕ} (h : ∀ row ∈ rows, row.length = n) :
    rows.flatten.length = rows.length * n := by
  induction rows with
  | nil => simp
  | cons row rows ih =>
    obtain ⟨hrow, hrows⟩ := List.forall_mem_cons.mp h
    rw [List.flatten_cons, List.length_append, hrow, ih hrows, List.length_cons, Nat.succ_mul,
      Nat.add_comm]

end Grid

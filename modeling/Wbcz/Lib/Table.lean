import Mathlib.Data.List.Nodup
import Mathlib.Logic.Function.Basic

/-!
# Tables with a primary key

A `Table key` is a list of rows no two of which have the same key. The operations
are those of a database table: look a row up, insert a row whose key is new, and
rewrite the row of a key without changing its key.

## Main results

* `Table.find?_eq_some_iff` — lookup is membership together with the key
* `Table.mem_modify`, `Table.mem_insert` — the rows after an operation
* `Table.find?_modify_self`, `Table.find?_modify_ne`, `Table.find?_insert_self`, `Table.find?_put`
* `Table.Image.find?`, `Table.Image.insert`, `Table.Image.modify` — a table whose rows are
  rewritten rows of another one answers as that one does
-/

/-- Rows with pairwise different keys. -/
structure Table {κ ρ : Type*} (key : ρ → κ) where
  rows : List ρ
  nodup : (rows.map key).Nodup

namespace Table

variable {κ ρ : Type*} {key : ρ → κ} {t t' : Table key} {r r' : ρ} {k k' : κ}

@[ext] theorem ext (h : t.rows = t'.rows) : t = t' := by
  cases t
  cases t'
  cases h
  rfl

instance [DecidableEq ρ] : DecidableEq (Table key) := fun t t' =>
  decidable_of_iff (t.rows = t'.rows) ⟨ext, fun h => h ▸ rfl⟩

instance : Membership ρ (Table key) := ⟨fun t r => r ∈ t.rows⟩

instance [DecidableEq ρ] (r : ρ) (t : Table key) : Decidable (r ∈ t) :=
  inferInstanceAs (Decidable (r ∈ t.rows))

/-- The table without rows. -/
def empty : Table key := ⟨[], List.nodup_nil⟩

theorem mem_def : r ∈ t ↔ r ∈ t.rows := Iff.rfl

@[simp] theorem not_mem_empty : ¬ r ∈ (empty : Table key) := List.not_mem_nil

/-- Two rows of one key are one row. -/
theorem eq_of_key_eq (h : r ∈ t) (h' : r' ∈ t) (hk : key r = key r') : r = r' :=
  List.inj_on_of_nodup_map t.nodup h h' hk

/-- At most one row has a key. -/
theorem countP_le_one {p : ρ → Bool} (h : ∀ r ∈ t, p r = true → key r = k) :
    t.rows.countP p ≤ 1 := by
  classical
  have hcount : (t.rows.map key).count k ≤ 1 := List.nodup_iff_count_le_one.mp t.nodup k
  rw [List.count, List.countP_map] at hcount
  refine Nat.le_trans (List.countP_mono_left fun r hr hp => ?_) hcount
  simp only [Function.comp, h r hr hp, beq_self_eq_true]

section Find

variable [DecidableEq κ]

/-- The row of a key. -/
def find? (t : Table key) (k : κ) : Option ρ := t.rows.find? (fun r => key r = k)

theorem find?_eq_none_iff : t.find? k = none ↔ ∀ r ∈ t, key r ≠ k := by
  simp [find?, mem_def]

theorem mem_of_find? (h : t.find? k = some r) : r ∈ t := List.mem_of_find?_eq_some h

theorem key_of_find? (h : t.find? k = some r) : key r = k := by
  have hp := List.find?_some h
  simpa using hp

theorem find?_of_mem (h : r ∈ t) : t.find? (key r) = some r := by
  cases hfind : t.find? (key r) with
  | none => exact absurd rfl (find?_eq_none_iff.mp hfind r h)
  | some r' => rw [eq_of_key_eq (mem_of_find? hfind) h (key_of_find? hfind)]

theorem find?_eq_some_iff : t.find? k = some r ↔ r ∈ t ∧ key r = k := by
  constructor
  · intro h
    exact ⟨mem_of_find? h, key_of_find? h⟩
  · rintro ⟨hr, rfl⟩
    exact find?_of_mem hr

end Find

section Insert

variable [DecidableEq κ]

/-- Insert a row whose key is not yet present. -/
def insert (t : Table key) (r : ρ) : Option (Table key) :=
  if h : key r ∈ t.rows.map key then none
  else some ⟨t.rows ++ [r], by
    rw [List.map_append, List.nodup_append]
    refine ⟨t.nodup, by simp, ?_⟩
    rintro k hk k' hk' rfl
    simp only [List.map_cons, List.map_nil, List.mem_singleton] at hk'
    exact h (hk' ▸ hk)⟩

theorem insert_eq_some (h : t.insert r = some t') :
    t.find? (key r) = none ∧ t'.rows = t.rows ++ [r] := by
  unfold insert at h
  split at h
  · cases h
  · rename_i hnew
    cases h
    refine ⟨find?_eq_none_iff.mpr fun r' hr' hk => hnew ?_, rfl⟩
    exact List.mem_map.mpr ⟨r', hr', hk⟩

theorem insert_isSome (h : t.find? (key r) = none) : ∃ t', t.insert r = some t' := by
  unfold insert
  split
  · rename_i hmem
    obtain ⟨r', hr', hk⟩ := List.mem_map.mp hmem
    exact absurd hk (find?_eq_none_iff.mp h r' hr')
  · exact ⟨_, rfl⟩

theorem insert_eq_none (h : t.insert r = none) : ∃ r', t.find? (key r) = some r' := by
  cases hf : t.find? (key r) with
  | none =>
    obtain ⟨t', ht'⟩ := insert_isSome hf
    rw [h] at ht'
    cases ht'
  | some r' => exact ⟨r', rfl⟩

theorem mem_insert (h : t.insert r = some t') : r' ∈ t' ↔ r' ∈ t ∨ r' = r := by
  rw [mem_def, mem_def, (insert_eq_some h).2]
  simp

theorem find?_insert_self (h : t.insert r = some t') : t'.find? (key r) = some r :=
  find?_of_mem ((mem_insert h).mpr (Or.inr rfl))

theorem find?_insert_ne (h : t.insert r = some t') (hk : k ≠ key r) :
    t'.find? k = t.find? k := by
  simp only [find?, (insert_eq_some h).2, List.find?_append]
  have : ([r].find? fun r => key r = k) = none := by simp [Ne.symm hk]
  rw [this, Option.or_none]

theorem find?_insert_of_some (h : t.insert r = some t') (hf : t.find? k = some r') :
    t'.find? k = some r' := by
  rw [find?_insert_ne h, hf]
  rintro rfl
  rw [(insert_eq_some h).1] at hf
  cases hf

end Insert

section Modify

variable [DecidableEq κ] {f : ρ → ρ} {hf : ∀ r, key (f r) = key r}

/-- Rewrite the row of a key; the rewriting keeps every key. -/
def modify (t : Table key) (k : κ) (f : ρ → ρ) (hf : ∀ r, key (f r) = key r) : Table key where
  rows := t.rows.map fun r => if key r = k then f r else r
  nodup := by
    rw [List.map_map]
    have : (key ∘ fun r => if key r = k then f r else r) = key := by
      funext r
      simp only [Function.comp]
      split
      · exact hf r
      · rfl
    rw [this]
    exact t.nodup

theorem mem_modify :
    r' ∈ t.modify k f hf ↔ (r' ∈ t ∧ key r' ≠ k) ∨ ∃ r ∈ t, key r = k ∧ r' = f r := by
  simp only [mem_def, modify, List.mem_map]
  constructor
  · rintro ⟨r, hr, rfl⟩
    split
    · exact Or.inr ⟨r, hr, ‹_›, rfl⟩
    · exact Or.inl ⟨hr, ‹_›⟩
  · rintro (⟨hr, hk⟩ | ⟨r, hr, hk, rfl⟩)
    · exact ⟨r', hr, if_neg hk⟩
    · exact ⟨r, hr, if_pos hk⟩

/-- The rows after a rewriting are the images of the rows before. -/
theorem mem_modify_iff_exists :
    r' ∈ t.modify k f hf ↔ ∃ r ∈ t, (if key r = k then f r else r) = r' := by
  simp only [mem_def, modify, List.mem_map]

/-- The rows after rewriting the row that was found. -/
theorem mem_modify_of_find? (h : t.find? k = some r) :
    r' ∈ t.modify k f hf ↔ (r' ∈ t ∧ key r' ≠ k) ∨ r' = f r := by
  rw [mem_modify]
  refine or_congr_right ⟨?_, ?_⟩
  · rintro ⟨r₀, hr₀, hk, rfl⟩
    rw [eq_of_key_eq hr₀ (mem_of_find? h) (hk.trans (key_of_find? h).symm)]
  · rintro rfl
    exact ⟨r, mem_of_find? h, key_of_find? h, rfl⟩

theorem find?_modify_ne (h : k' ≠ k) : (t.modify k f hf).find? k' = t.find? k' := by
  cases hfind : t.find? k' with
  | none =>
    refine find?_eq_none_iff.mpr fun r hr => ?_
    rcases mem_modify.mp hr with ⟨hr, _⟩ | ⟨r, hr, hk, rfl⟩
    · exact find?_eq_none_iff.mp hfind r hr
    · rw [hf, hk]
      exact h.symm
  | some r =>
    obtain ⟨hr, rfl⟩ := find?_eq_some_iff.mp hfind
    exact find?_of_mem (mem_modify.mpr (Or.inl ⟨hr, h⟩))

theorem find?_modify_self : (t.modify k f hf).find? k = (t.find? k).map f := by
  cases hfind : t.find? k with
  | none =>
    refine find?_eq_none_iff.mpr fun r hr => ?_
    rcases mem_modify.mp hr with ⟨_, hk⟩ | ⟨r₀, hr₀, hk, rfl⟩
    · exact hk
    · exact absurd hk (find?_eq_none_iff.mp hfind r₀ hr₀)
  | some r =>
    obtain ⟨hr, hk⟩ := find?_eq_some_iff.mp hfind
    exact find?_eq_some_iff.mpr ⟨mem_modify.mpr (Or.inr ⟨r, hr, hk, rfl⟩), by rw [hf, hk]⟩

/-- Lookup after a rewriting, whatever the key. -/
theorem find?_modify : (t.modify k f hf).find? k' =
    if k' = k then (t.find? k).map f else t.find? k' := by
  split
  · rename_i h
    rw [h, find?_modify_self]
  · exact find?_modify_ne ‹_›

/-- Rewriting a row just inserted is inserting the rewritten row. -/
theorem insert_modify (f : ρ → ρ) (hf : ∀ r, key (f r) = key r) (h : t.insert r = some t') :
    t.insert (f r) = some (t'.modify (key r) f hf) := by
  obtain ⟨hnew, hrows⟩ := insert_eq_some h
  obtain ⟨t'', ht''⟩ := insert_isSome (t := t) (r := f r) (by rw [hf, hnew])
  rw [ht'']
  congr 1
  apply ext
  simp only [(insert_eq_some ht'').2, modify, hrows, List.map_append]
  have hold : ∀ r' ∈ t.rows, (if key r' = key r then f r' else r') = r' := fun r' hr' =>
    if_neg (find?_eq_none_iff.mp hnew r' hr')
  rw [List.map_congr_left hold]
  simp

end Modify

section Rewrite

variable {f : ρ → ρ} {hf : ∀ r, key (f r) = key r}

/-- Rewrite all rows; the rewriting keeps every key. -/
def rewrite (t : Table key) (f : ρ → ρ) (hf : ∀ r, key (f r) = key r) : Table key where
  rows := t.rows.map f
  nodup := by
    rw [List.map_map]
    have hkey : key ∘ f = key := funext hf
    rw [hkey]
    exact t.nodup

theorem mem_rewrite : r' ∈ t.rewrite f hf ↔ ∃ r ∈ t, f r = r' := by
  simp only [mem_def, rewrite, List.mem_map]

end Rewrite

section Put

variable [DecidableEq κ]

/-- Overwrite the row of a key with another row of that key. -/
def put (t : Table key) (r : ρ) : Table key where
  rows := t.rows.map fun r' => if key r' = key r then r else r'
  nodup := by
    rw [List.map_map]
    have hkey : (key ∘ fun r' => if key r' = key r then r else r') = key := by
      funext r'
      simp only [Function.comp]
      split
      · exact Eq.symm ‹_›
      · rfl
    rw [hkey]
    exact t.nodup

theorem mem_put_of_find? (h : t.find? (key r) = some r') {r'' : ρ} :
    r'' ∈ t.put r ↔ (r'' ∈ t ∧ key r'' ≠ key r) ∨ r'' = r := by
  simp only [mem_def, put, List.mem_map]
  constructor
  · rintro ⟨r₀, hr₀, rfl⟩
    split
    · exact Or.inr rfl
    · exact Or.inl ⟨hr₀, ‹_›⟩
  · rintro (⟨hr'', hk⟩ | rfl)
    · exact ⟨r'', hr'', if_neg hk⟩
    · exact ⟨r', mem_of_find? h, if_pos (key_of_find? h)⟩

theorem find?_put_self (h : t.find? (key r) = some r') : (t.put r).find? (key r) = some r :=
  find?_of_mem ((mem_put_of_find? h).mpr (Or.inr rfl))

theorem find?_put_ne (h : k ≠ key r) : (t.put r).find? k = t.find? k := by
  have hpred : ∀ r', decide (key (if key r' = key r then r else r') = k) = decide (key r' = k) := by
    intro r'
    split
    · rename_i hk
      rw [hk]
    · rfl
  have hput : ∀ rows : List ρ,
      (rows.map fun r' => if key r' = key r then r else r').find? (fun r' => key r' = k) =
        rows.find? fun r' => key r' = k := by
    intro rows
    induction rows with
    | nil => rfl
    | cons r' rows ih =>
      rw [List.map_cons, List.find?_cons, List.find?_cons, hpred, ih]
      split
      · rename_i hk
        rw [if_neg]
        simp only [decide_eq_true_eq] at hk
        exact hk ▸ h
      · rfl
  exact hput t.rows

/-- Overwriting a row by one that has the same column keeps the column of every row. -/
theorem map_put {α : Type*} {column : ρ → α} (h : t.find? (key r) = some r')
    (hcolumn : column r = column r') : (t.put r).rows.map column = t.rows.map column := by
  simp only [put, List.map_map]
  refine List.map_congr_left fun r'' hr'' => ?_
  simp only [Function.comp]
  split
  · rename_i hk
    have heq : r'' = r' := eq_of_key_eq hr'' (mem_of_find? h) (hk.trans (key_of_find? h).symm)
    rw [hcolumn, heq]
  · rfl

/-- The rows after overwriting the row of a key. -/
theorem find?_put (h : t.find? (key r) = some r') :
    (t.put r).find? k = if k = key r then some r else t.find? k := by
  split
  · rename_i hk
    rw [hk, find?_put_self h]
  · exact find?_put_ne ‹_›

end Put

section Image

variable {κ' ρ' : Type*} {key' : ρ' → κ'} {u : Table key'} {m : ρ → ρ'} {rename : κ → κ'}

/-- The rows of `u` are the rows of `t`, each rewritten by `m`. -/
def Image (m : ρ → ρ') (t : Table key) (u : Table key') : Prop := u.rows = t.rows.map m

variable [DecidableEq κ] [DecidableEq κ']

theorem Image.find? (h : Image m t u) (hkey : ∀ r, key' (m r) = rename (key r))
    (hrename : Function.Injective rename) (k : κ) :
    u.find? (rename k) = (t.find? k).map m := by
  have hpred : ((fun r' => decide (key' r' = rename k)) ∘ m) = fun r => decide (key r = k) := by
    funext r
    simp only [Function.comp, hkey, hrename.eq_iff]
  rw [Table.find?, h, List.find?_map, hpred]
  rfl

theorem Image.insert (h : Image m t u) (hkey : ∀ r, key' (m r) = rename (key r))
    (hrename : Function.Injective rename) (hinsert : t.insert r = some t') :
    ∃ u', u.insert (m r) = some u' ∧ Image m t' u' := by
  obtain ⟨hnew, hrows⟩ := insert_eq_some hinsert
  have hfree : u.find? (key' (m r)) = none := by
    rw [hkey, h.find? hkey hrename, hnew]
    rfl
  obtain ⟨u', hu'⟩ := insert_isSome hfree
  refine ⟨u', hu', ?_⟩
  rw [Image, (insert_eq_some hu').2, h, hrows, List.map_append]
  rfl

theorem Image.insert_eq_none (h : Image m t u) (hkey : ∀ r, key' (m r) = rename (key r))
    (hrename : Function.Injective rename) (hinsert : t.insert r = none) :
    u.insert (m r) = none := by
  obtain ⟨r', hr'⟩ := Table.insert_eq_none hinsert
  have htaken : u.find? (key' (m r)) = some (m r') := by
    rw [hkey, h.find? hkey hrename, hr']
    rfl
  cases hu : u.insert (m r) with
  | none => rfl
  | some u' =>
    rw [(insert_eq_some hu).1] at htaken
    cases htaken

theorem Image.modify (h : Image m t u) (hkey : ∀ r, key' (m r) = rename (key r))
    (hrename : Function.Injective rename) {k : κ} {f : ρ → ρ} {hf : ∀ r, key (f r) = key r}
    {g : ρ' → ρ'} {hg : ∀ r, key' (g r) = key' r} (hcomm : ∀ r, g (m r) = m (f r)) :
    Image m (t.modify k f hf) (u.modify (rename k) g hg) := by
  have hrows : u.rows = t.rows.map m := h
  simp only [Image, Table.modify, hrows, List.map_map]
  refine List.map_congr_left fun r _ => ?_
  simp only [Function.comp, hkey, hrename.eq_iff]
  split
  · exact hcomm r
  · rfl

end Image

end Table

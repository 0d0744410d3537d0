import Mathlib.Data.List.Sort
import Mathlib.Order.RelClasses

/-!
# Queries with `ORDER BY ... DESC`

A query that orders its rows by a column says nothing about rows that agree in it: the database
may return them in any order, another one each time. An order of this kind is a sorting function of
its own here, and what a query returns is known only up to the choice of one.
-/

/-- The ways to sort rows by a column, the greatest value first. -/
structure Descending {ρ : Type*} (at' : ρ → ℤ) where
  sort : List ρ → List ρ
  perm : ∀ rows, (sort rows).Perm rows
  sorted : ∀ rows, (sort rows).Pairwise fun a b => at' b ≤ at' a

namespace Descending

variable {ρ : Type*} {at' : ρ → ℤ} {rows : List ρ} {row other : ρ} {p : ρ → Bool}

/-- The first row of the query: `ORDER BY ... DESC LIMIT 1`. -/
def first (o : Descending at') (rows : List ρ) : Option ρ := (o.sort rows).head?

/-- The last row of the query that has a property. -/
def lastWhere (o : Descending at') (rows : List ρ) (p : ρ → Bool) : Option ρ :=
  ((o.sort rows).filter p).getLast?

theorem mem_of_first {o : Descending at'} (h : o.first rows = some row) : row ∈ rows :=
  (o.perm rows).mem_iff.mp (List.mem_of_head? h)

theorem first_isSome {o : Descending at'} (h : row ∈ rows) : (o.first rows).isSome = true := by
  rw [first, List.isSome_head?]
  intro hnil
  have hmem := (o.perm rows).mem_iff.mpr h
  rw [hnil] at hmem
  cases hmem

/-- The first row has the greatest value. -/
theorem first_max {o : Descending at'} (h : o.first rows = some row) (hother : other ∈ rows) :
    at' other ≤ at' row := by
  have hsorted := o.sorted rows
  have hmem := (o.perm rows).mem_iff.mpr hother
  unfold first at h
  cases hsort : o.sort rows with
  | nil =>
    rw [hsort] at hmem
    cases hmem
  | cons a rest =>
    rw [hsort] at h hmem hsorted
    cases h
    rcases List.mem_cons.mp hmem with rfl | hmem
    · exact le_rfl
    · exact List.rel_of_pairwise_cons hsorted hmem

theorem mem_of_lastWhere {o : Descending at'} (h : o.lastWhere rows p = some row) :
    row ∈ rows ∧ p row = true := by
  obtain ⟨hmem, hp⟩ := List.mem_filter.mp (List.mem_of_getLast? h)
  exact ⟨(o.perm rows).mem_iff.mp hmem, hp⟩

/-- The last row with a property has the least value of those that have it. -/
theorem lastWhere_min {o : Descending at'} (h : o.lastWhere rows p = some row)
    (hother : other ∈ rows) (hp : p other = true) : at' row ≤ at' other := by
  have hmem : other ∈ (o.sort rows).filter p :=
    List.mem_filter.mpr ⟨(o.perm rows).mem_iff.mpr hother, hp⟩
  have hsorted := (o.sorted rows).filter p
  obtain ⟨init, hinit⟩ := List.getLast?_eq_some_iff.mp h
  rw [hinit] at hmem hsorted
  rcases List.mem_append.mp hmem with hmem | hmem
  · exact (List.pairwise_append.mp hsorted).2.2 other hmem row (List.mem_singleton.mpr rfl)
  · rw [List.mem_singleton.mp hmem]

theorem lastWhere_isSome {o : Descending at'} (hother : other ∈ rows) (hp : p other = true) :
    (o.lastWhere rows p).isSome = true := by
  have hmem : other ∈ (o.sort rows).filter p :=
    List.mem_filter.mpr ⟨(o.perm rows).mem_iff.mpr hother, hp⟩
  rw [lastWhere, List.getLast?_isSome]
  exact List.ne_nil_of_mem hmem

/-- The order that leaves the rows that agree as they stand. -/
def stable (at' : ρ → ℤ) : Descending at' where
  sort := List.insertionSort fun a b => at' b ≤ at' a
  perm := List.perm_insertionSort _
  sorted rows := by
    have htotal : Std.Total fun a b => at' b ≤ at' a := ⟨fun a b => le_total (at' b) (at' a)⟩
    have htrans : IsTrans ρ fun a b => at' b ≤ at' a := ⟨fun _ _ _ hab hbc => hbc.trans hab⟩
    exact List.pairwise_insertionSort _ rows

section Preferring

variable [DecidableEq ρ]

/-- A row comes before another one: its value is greater, or it is the preferred one of those
that have the value. -/
def Before (at' : ρ → ℤ) (preferred a b : ρ) : Prop :=
  at' b < at' a ∨ (at' b = at' a ∧ (b = preferred → a = preferred))

instance (preferred : ρ) : DecidableRel (Before at' preferred) :=
  fun a b => inferInstanceAs
    (Decidable (at' b < at' a ∨ (at' b = at' a ∧ (b = preferred → a = preferred))))

instance (preferred : ρ) : Std.Total (Before at' preferred) where
  total a b := by
    unfold Before
    rcases lt_trichotomy (at' a) (at' b) with h | h | h
    · exact .inr (.inl h)
    · by_cases ha : a = preferred
      · exact .inl (.inr ⟨h.symm, fun _ => ha⟩)
      · exact .inr (.inr ⟨h, fun hb => absurd hb ha⟩)
    · exact .inl (.inl h)

instance (preferred : ρ) : IsTrans ρ (Before at' preferred) where
  trans a b c hab hbc := by
    unfold Before at *
    rcases hab with hab | ⟨hab, hab'⟩
    · rcases hbc with hbc | ⟨hbc, -⟩
      · exact .inl (hbc.trans hab)
      · exact .inl (hbc ▸ hab)
    · rcases hbc with hbc | ⟨hbc, hbc'⟩
      · exact .inl (hab ▸ hbc)
      · exact .inr ⟨hbc.trans hab, fun hc => hab' (hbc' hc)⟩

/-- The order that puts one row before those that agree with it. -/
def preferring (at' : ρ → ℤ) (preferred : ρ) : Descending at' where
  sort := List.insertionSort (Before at' preferred)
  perm := List.perm_insertionSort _
  sorted rows := by
    refine (List.pairwise_insertionSort (Before at' preferred) rows).imp ?_
    rintro a b (h | ⟨h, -⟩)
    · exact h.le
    · exact h.le

/-- Every greatest row is the first in some order. -/
theorem exists_first (hrow : row ∈ rows) (hmax : ∀ other ∈ rows, at' other ≤ at' row) :
    ∃ o : Descending at', o.first rows = some row := by
  refine ⟨preferring at' row, ?_⟩
  have hsome := @first_isSome _ _ _ _ (preferring at' row) hrow
  obtain ⟨head, hhead⟩ := Option.isSome_iff_exists.mp hsome
  have hsorted := List.pairwise_insertionSort (Before at' row) rows
  have hmem := (List.mem_insertionSort (Before at' row)).mpr hrow
  have hsort : (List.insertionSort (Before at' row) rows).head? = some head := hhead
  rw [hhead]
  cases hlist : List.insertionSort (Before at' row) rows with
  | nil =>
    rw [hlist] at hmem
    cases hmem
  | cons a rest =>
    rw [hlist] at hsort hmem hsorted
    cases hsort
    rcases List.mem_cons.mp hmem with rfl | hmem
    · rfl
    · rcases List.rel_of_pairwise_cons hsorted hmem with h | ⟨-, h⟩
      · exact absurd h (hmax head (mem_of_first hhead)).not_gt
      · rw [h rfl]

/-- The first row of the rows with a property is the last one read from a longer query, whatever
the orders of the two, exactly when there is one row with the property at most. -/
theorem first_eq_lastWhere_iff {withP : List ρ} (hmem : ∀ r, r ∈ withP ↔ r ∈ rows ∧ p r = true) :
    (∀ o o' : Descending at', o.first withP = o'.lastWhere rows p) ↔
      ∀ a ∈ withP, ∀ b ∈ withP, a = b := by
  constructor
  · intro h a ha b hb
    -- one choice of the last row is both a greatest and a least one, so the rows agree
    obtain ⟨last, hlast⟩ := Option.isSome_iff_exists.mp (@first_isSome _ _ _ _ (preferring at' a) ha)
    have hlast' := (h (preferring at' a) (preferring at' a)).symm.trans hlast
    have hmax : ∀ r ∈ withP, at' r = at' last := fun r hr =>
      le_antisymm (first_max hlast hr)
        (lastWhere_min hlast' ((hmem r).mp hr).1 ((hmem r).mp hr).2)
    have heq : ∀ r ∈ withP, r = last := by
      intro r hr
      obtain ⟨o, ho⟩ := exists_first hr fun r' hr' => ((hmax r' hr').trans (hmax r hr).symm).le
      exact Option.some.inj (ho.symm.trans ((h o (preferring at' a)).trans hlast'))
    exact (heq a ha).trans (heq b hb).symm
  · intro h o o'
    cases hfirst : o.first withP with
    | none =>
      have hnone : ∀ r, r ∉ withP := fun r hr => by
        have hsome := first_isSome (o := o) hr
        rw [hfirst] at hsome
        cases hsome
      cases hlast : o'.lastWhere rows p with
      | none => rfl
      | some r => exact absurd ((hmem r).mpr (mem_of_lastWhere hlast)) (hnone r)
    | some a =>
      have ha := mem_of_first hfirst
      obtain ⟨b, hb⟩ := Option.isSome_iff_exists.mp
        (lastWhere_isSome (o := o') ((hmem a).mp ha).1 ((hmem a).mp ha).2)
      rw [hb, h a ha b ((hmem b).mpr (mem_of_lastWhere hb))]

end Preferring

end Descending

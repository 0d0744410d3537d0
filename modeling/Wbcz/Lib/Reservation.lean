import Mathlib.Data.List.Nodup

/-!
# Reservations that are spent at most once

Agents share a store of keys. An agent may acquire a key that nobody has taken yet, and
from then on the key counts as taken for good; an agent that holds a key may spend it,
once. Whatever else happens, no key is spent twice: a key is taken before it is held, so
a second agent cannot acquire it, and spending gives it up.
-/

namespace Reservation

variable {σ ι κ : Type*}

/-- What a system shows of its reservations. -/
structure View (σ ι κ : Type*) where
  holds : σ → ι → κ → Prop
  taken : σ → κ → Prop
  spent : σ → List κ

namespace View

variable {v : View σ ι κ} {s s' : σ}

/-- A step leaves the reservations alone (or drops some), acquires a key that was not
taken, or spends a key that its agent holds. -/
inductive Moves (v : View σ ι κ) (s s' : σ) : Prop
  | quiet : (∀ t k, v.holds s' t k → v.holds s t k) → v.spent s' = v.spent s → Moves v s s'
  | acquire (t : ι) (k : κ) : ¬ v.taken s k → v.taken s' k →
      (∀ t' k', v.holds s' t' k' → v.holds s t' k' ∨ (t' = t ∧ k' = k)) →
      v.spent s' = v.spent s → Moves v s s'
  | spend (t : ι) (k : κ) : v.holds s t k →
      (∀ t' k', v.holds s' t' k' → v.holds s t' k' ∧ t' ≠ t) →
      v.spent s' = v.spent s ++ [k] → Moves v s s'

/-- A held key is taken and unspent, and has one holder; no key was spent twice. -/
structure Once (v : View σ ι κ) (s : σ) : Prop where
  holder : ∀ t k, v.holds s t k → v.taken s k ∧ k ∉ v.spent s
  unique : ∀ t t' k, v.holds s t k → v.holds s t' k → t = t'
  spent : ∀ k ∈ v.spent s, v.taken s k
  nodup : (v.spent s).Nodup

namespace Once

/-- A step that leaves the reservations alone keeps the invariant. -/
theorem quiet (h : v.Once s) (hmono : ∀ k, v.taken s k → v.taken s' k)
    (hholds : ∀ t k, v.holds s' t k → v.holds s t k) (hspent : v.spent s' = v.spent s) :
    v.Once s' where
  holder t k hk := by
    obtain ⟨htaken, hnew⟩ := h.holder t k (hholds t k hk)
    exact ⟨hmono k htaken, hspent ▸ hnew⟩
  unique t t' k hk hk' := h.unique t t' k (hholds t k hk) (hholds t' k hk')
  spent k hk := hmono k (h.spent k (hspent ▸ hk))
  nodup := hspent ▸ h.nodup

/-- Acquiring a key nobody has taken keeps the invariant. -/
theorem acquire (h : v.Once s) (hmono : ∀ k, v.taken s k → v.taken s' k) {t : ι} {k : κ}
    (hfree : ¬ v.taken s k) (htaken : v.taken s' k)
    (hholds : ∀ t' k', v.holds s' t' k' → v.holds s t' k' ∨ (t' = t ∧ k' = k))
    (hspent : v.spent s' = v.spent s) : v.Once s' where
  holder t' k' hk' := by
    rw [hspent]
    rcases hholds t' k' hk' with hold | ⟨_, rfl⟩
    · exact ⟨hmono k' (h.holder t' k' hold).1, (h.holder t' k' hold).2⟩
    · exact ⟨htaken, fun hmem => hfree (h.spent _ hmem)⟩
  unique t₁ t₂ k' h₁ h₂ := by
    -- who held the key before would have taken it
    have hnobody : ∀ t', ¬ v.holds s t' k := fun t' hold => hfree (h.holder t' k hold).1
    rcases hholds t₁ k' h₁ with old₁ | ⟨rfl, rfl⟩
    · rcases hholds t₂ k' h₂ with old₂ | ⟨rfl, rfl⟩
      · exact h.unique t₁ t₂ k' old₁ old₂
      · exact absurd old₁ (hnobody t₁)
    · rcases hholds t₂ k' h₂ with old₂ | ⟨rfl, _⟩
      · exact absurd old₂ (hnobody t₂)
      · rfl
  spent k' hk' := hmono k' (h.spent k' (hspent ▸ hk'))
  nodup := hspent ▸ h.nodup

/-- Spending a key that is held keeps the invariant. -/
theorem spend (h : v.Once s) (hmono : ∀ k, v.taken s k → v.taken s' k) {t : ι} {k : κ}
    (hheld : v.holds s t k) (hholds : ∀ t' k', v.holds s' t' k' → v.holds s t' k' ∧ t' ≠ t)
    (hspent : v.spent s' = v.spent s ++ [k]) : v.Once s' := by
  obtain ⟨htaken, hnew⟩ := h.holder t k hheld
  refine ⟨?_, ?_, ?_, ?_⟩
  · intro t' k' hk'
    obtain ⟨hold, hne⟩ := hholds t' k' hk'
    obtain ⟨htaken', hnew'⟩ := h.holder t' k' hold
    refine ⟨hmono k' htaken', ?_⟩
    rw [hspent, List.mem_append, List.mem_singleton]
    rintro (hmem | rfl)
    · exact hnew' hmem
    · exact hne (h.unique t' t _ hold hheld)
  · intro t₁ t₂ k' h₁ h₂
    exact h.unique t₁ t₂ k' (hholds t₁ k' h₁).1 (hholds t₂ k' h₂).1
  · intro k' hk'
    rw [hspent, List.mem_append, List.mem_singleton] at hk'
    rcases hk' with hmem | rfl
    · exact hmono k' (h.spent k' hmem)
    · exact hmono _ htaken
  · rw [hspent, List.nodup_append]
    refine ⟨h.nodup, List.nodup_singleton k, ?_⟩
    intro k₁ hk₁ k₂ hk₂ heq
    rw [List.mem_singleton.mp hk₂] at heq
    exact hnew (heq ▸ hk₁)

/-- Every step keeps the invariant. -/
theorem move (h : v.Once s) (hmono : ∀ k, v.taken s k → v.taken s' k) (hmove : v.Moves s s') :
    v.Once s' := by
  cases hmove with
  | quiet hholds hspent => exact h.quiet hmono hholds hspent
  | acquire t k hfree htaken hholds hspent => exact h.acquire hmono hfree htaken hholds hspent
  | spend t k hheld hholds hspent => exact h.spend hmono hheld hholds hspent

/-- Nothing held and nothing spent. -/
theorem initial (hholds : ∀ t k, ¬ v.holds s t k) (hspent : v.spent s = []) : v.Once s where
  holder t k hk := absurd hk (hholds t k)
  unique t _ k hk := absurd hk (hholds t k)
  spent k hk := by
    rw [hspent] at hk
    cases hk
  nodup := by
    rw [hspent]
    exact List.nodup_nil

end Once

end View

end Reservation

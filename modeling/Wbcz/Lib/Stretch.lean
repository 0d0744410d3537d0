import Mathlib.Data.List.Infix
import Mathlib.Data.List.DropRight
import Wbcz.Lib.Transition

/-!
# Stretches of a run between resets

Where some labels of a system start it over, what is of interest is how a run behaves between
two of them. A stretch of a list of labels is a piece of it in which nothing starts over.
-/

namespace Transition

variable {σ α : Type*} {resets : α → Bool} {as bs seg : List α} {a : α}

/-- A piece of a list of labels in which nothing starts over. -/
def Stretch (resets : α → Bool) (as seg : List α) : Prop :=
  seg <:+: as ∧ ∀ a ∈ seg, resets a = false

/-- The labels after the last that starts over. -/
def since (resets : α → Bool) (as : List α) : List α := as.rtakeWhile fun a => !resets a

theorem since_concat : since resets (as ++ [a]) = if resets a then [] else since resets as ++ [a] := by
  cases h : resets a with
  | true => simp [since, h]
  | false => simp [since, h]

/-- Labels without a reset at the end of a list are since its last reset. -/
theorem suffix_since (h : ∀ a ∈ seg, resets a = false) : seg <:+ since resets (as ++ seg) := by
  induction seg using List.reverseRecOn with
  | nil => exact List.nil_suffix
  | append_singleton seg a ih =>
    have hlast : resets a = false := h a (by simp)
    have hrest := ih fun b hb => h b (List.mem_append_left [a] hb)
    rw [← List.append_assoc, since_concat, hlast]
    exact (List.suffix_append_inj_of_length_eq rfl).mpr ⟨hrest, rfl⟩

/-- Every stretch is a suffix of what is since the last reset, where it ends. -/
theorem Stretch.exists_suffix (h : Stretch resets as seg) :
    ∃ pre post, as = pre ++ post ∧ seg <:+ since resets pre := by
  obtain ⟨⟨pre, post, rfl⟩, hseg⟩ := h
  exact ⟨pre ++ seg, post, rfl, suffix_since hseg⟩

section Runs

variable {step : σ → α → σ → Prop} {s s' : σ}

/-- A run of a system is one of every system that has its steps. -/
theorem Run.imp {step' : σ → α → σ → Prop} (run : Run step s as s')
    (h : ∀ s a s', step s a s' → step' s a s') : Run step' s as s' := by
  induction run with
  | nil => exact .nil
  | snoc _ hstep ih => exact ih.snoc (h _ _ _ hstep)

/-- A run passes through a state at each of its places. -/
theorem Run.split (run : Run step s (as ++ bs) s') : ∃ t, Run step s as t ∧ Run step t bs s' := by
  induction bs using List.reverseRecOn generalizing s' with
  | nil =>
    rw [List.append_nil] at run
    exact ⟨s', run, .nil⟩
  | append_singleton bs b ih =>
    rw [← List.append_assoc] at run
    generalize hlabels : as ++ bs ++ [b] = labels at run
    cases run with
    | nil => simp at hlabels
    | snoc hrun hstep =>
      obtain ⟨hinit, hlast⟩ := List.append_inj' hlabels rfl
      cases hinit
      cases hlast
      obtain ⟨t, hfirst, hsecond⟩ := ih hrun
      exact ⟨t, hfirst, hsecond.snoc hstep⟩

/-- What holds of the labels since the last reset along every run, and of the ends of what it
holds of, holds of every stretch. -/
theorem Run.stretches (run : Run step s as s') (inv : List α → σ → Prop) (law : List α → Prop)
    (start : inv [] s)
    (extend : ∀ cur a t t', inv cur t → step t a t' →
      inv (if resets a then [] else cur ++ [a]) t')
    (lawful : ∀ cur t, inv cur t → law cur)
    (ends : ∀ {cur seg}, seg <:+ cur → law cur → law seg) (hseg : Stretch resets as seg) :
    law seg := by
  obtain ⟨pre, post, rfl, hsuffix⟩ := hseg.exists_suffix
  obtain ⟨t, hrun, -⟩ := run.split
  have hinv : inv (since resets pre) t := by
    refine hrun.history (fun labels u => inv (since resets labels) u) start ?_
    intro labels a u u' hu hstep
    rw [since_concat]
    exact extend _ a u u' hu hstep
  exact ends hsuffix (lawful _ t hinv)

end Runs

end Transition

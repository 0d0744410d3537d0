import Mathlib.Data.List.Forall2
import Mathlib.Data.List.Induction
import Mathlib.Data.List.MinMax

/-!
# Lists linked by hashes

Records each of which carries the hash of the record before it. When a hash stands for one
record only, the hash a list ends with stands for the whole list.
-/

namespace HashChain

variable {α H : Type*} {prev hash : α → H} {start other : H} {l m : List α} {a : α}

/-- The hash a list ends with. -/
def last (hash : α → H) (start : H) : List α → H
  | [] => start
  | a :: rest => last hash (hash a) rest

/-- Each record carries the hash of the record before it. -/
def Linked (prev hash : α → H) (start : H) : List α → Prop
  | [] => True
  | a :: rest => prev a = start ∧ Linked prev hash (hash a) rest

@[simp] theorem last_concat : last hash start (l ++ [a]) = hash a := by
  induction l generalizing start with
  | nil => rfl
  | cons b l ih => exact ih

/-- A record may be appended when it carries the hash the list ends with. -/
theorem linked_concat : Linked prev hash start (l ++ [a]) ↔
    Linked prev hash start l ∧ prev a = last hash start l := by
  induction l generalizing start with
  | nil => simp [Linked, last]
  | cons b l ih =>
    have h := @ih (hash b)
    simp only [List.cons_append, Linked, last, h, and_assoc]

theorem last_append : last hash start (l ++ m) = last hash (last hash start l) m := by
  induction l generalizing start with
  | nil => rfl
  | cons b l ih => exact ih

/-- A linked list is linked before and after every cut. -/
theorem linked_append : Linked prev hash start (l ++ m) ↔
    Linked prev hash start l ∧ Linked prev hash (last hash start l) m := by
  induction l generalizing start with
  | nil => simp [Linked, last]
  | cons b l ih =>
    have h := @ih (hash b)
    simp only [List.cons_append, Linked, last, h, and_assoc]

/-- Lists of one length and one last hash agree record by record, when records of one hash
agree and carry one previous hash. -/
theorem forall₂_of_last_eq {R : α → α → Prop}
    (commits : ∀ a ∈ l, ∀ b ∈ m, hash a = hash b → prev a = prev b ∧ R a b)
    (hl : Linked prev hash start l) (hm : Linked prev hash other m)
    (hlength : l.length = m.length) (hlast : last hash start l = last hash other m) :
    List.Forall₂ R l m := by
  induction l using List.reverseRecOn generalizing m with
  | nil =>
    have hnil := List.length_eq_zero_iff.mp hlength.symm
    rw [hnil]
    exact .nil
  | append_singleton l a ih =>
    rcases List.eq_nil_or_concat m with rfl | ⟨m, b, rfl⟩
    · simp at hlength
    · rw [List.concat_eq_append] at *
      rw [last_concat, last_concat] at hlast
      rw [linked_concat] at hl hm
      -- equal hashes fix the previous hash, which is the last hash of what comes before
      obtain ⟨hprev, hab⟩ := commits a (by simp) b (by simp) hlast
      have hrest : List.Forall₂ R l m := by
        refine ih ?_ hl.1 hm.1 (by simpa using hlength) ?_
        · intro c hc d hd
          exact commits c (by simp [hc]) d (by simp [hd])
        · rw [← hl.2, ← hm.2, hprev]
      exact List.rel_append hrest (.cons hab .nil)

theorem last_eq_getD : last hash start l = (l.getLast?.map hash).getD start := by
  rcases List.eq_nil_or_concat l with rfl | ⟨l, a, rfl⟩
  · rfl
  · rw [List.concat_eq_append, last_concat, List.getLast?_concat]
    rfl

/-- The greatest record of an increasing list is its last. -/
theorem argmax_eq_getLast? {β : Type*} [LinearOrder β] {f : α → β}
    (h : l.Pairwise fun a b => f a < f b) : l.argmax f = l.getLast? := by
  induction l using List.reverseRecOn with
  | nil => rfl
  | append_singleton l a ih =>
    rw [List.pairwise_append] at h
    rw [List.argmax_concat, List.getLast?_concat, ih h.1]
    cases hlast : l.getLast? with
    | none => rfl
    | some b =>
      have hlt : f b < f a := h.2.2 b (List.mem_of_getLast? hlast) a (List.mem_singleton_self a)
      simp [hlt]

end HashChain

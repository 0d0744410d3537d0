import Wbcz.Lib.Interaction

/-!
# Executions of programs

A program whose calls are answered, one after another, by what is around it: what it returns, and
the state it leaves. The answer of a call need not be determined.
-/

namespace Program

variable {σ E : Type} {Answer : E → Type} {α β ε ι : Type}

/-- A program returns a value and leaves a state. -/
inductive Executes (handles : σ → (e : E) → Answer e → σ → Prop) :
    σ → Program E Answer α → α → σ → Prop
  | ret {s a} : Executes handles s (.ret a) a s
  | call {s s' s'' e next answer a} : handles s e answer s' →
      Executes handles s' (next answer) a s'' → Executes handles s (.call e next) a s''

variable {handles : σ → (e : E) → Answer e → σ → Prop} {s s' s'' : σ}

theorem executes_ret {a b : α} : Executes handles s (pure a : Program E Answer α) b s' ↔
    b = a ∧ s' = s := by
  constructor
  · intro h
    cases h
    exact ⟨rfl, rfl⟩
  · rintro ⟨rfl, rfl⟩
    exact .ret

theorem executes_perform {e : E} {answer : Answer e} :
    Executes handles s (perform e) answer s' ↔ handles s e answer s' := by
  constructor
  · intro h
    cases h with
    | call hcall hnext =>
      cases hnext
      exact hcall
  · exact fun h => .call h .ret

/-- One program after another. -/
theorem executes_bind {x : Program E Answer α} {f : α → Program E Answer β} {b : β} :
    Executes handles s (x >>= f) b s'' ↔
      ∃ a s', Executes handles s x a s' ∧ Executes handles s' (f a) b s'' := by
  constructor
  · induction x generalizing s with
    | ret a => exact fun h => ⟨a, s, .ret, h⟩
    | call e next ih =>
      intro h
      cases h with
      | call hcall hnext =>
        obtain ⟨a, s', hfirst, hrest⟩ := ih _ hnext
        exact ⟨a, s', .call hcall hfirst, hrest⟩
  · rintro ⟨a, s', hfirst, hrest⟩
    induction hfirst with
    | ret => exact hrest
    | call hcall _ ih => exact .call hcall (ih hrest)

/-- A program that may raise, after another one: where the first raises, so do both. -/
theorem executes_except {x : ExceptT ε (Program E Answer) α}
    {f : α → ExceptT ε (Program E Answer) β} {r : Except ε β}
    (h : Executes handles s (x >>= f).run r s'') :
    (∃ e, Executes handles s x.run (.error e) s'' ∧ r = .error e) ∨
      ∃ a s', Executes handles s x.run (.ok a) s' ∧ Executes handles s' (f a).run r s'' := by
  obtain ⟨first, s', hfirst, hrest⟩ := executes_bind.mp h
  cases first with
  | error e =>
    obtain ⟨rfl, rfl⟩ := executes_ret.mp hrest
    exact .inl ⟨e, hfirst, rfl⟩
  | ok a => exact .inr ⟨a, s', hfirst, hrest⟩

/-- A value that is computed, or an exception that is raised, without a call. -/
theorem executes_mk {r r' : Except ε α}
    (h : Executes handles s (ExceptT.mk (pure r) : ExceptT ε (Program E Answer) α).run r' s') :
    r' = r ∧ s' = s :=
  executes_ret.mp h

theorem map_id' (x : Program E Answer α) : id <$> x = x := by
  induction x with
  | ret a => rfl
  | call e next ih => exact congrArg (Program.call e) (funext ih)

theorem andThen_assoc {γ : Type} (x : Program E Answer α) (f : α → Program E Answer β)
    (g : β → Program E Answer γ) : x >>= f >>= g = x >>= fun a => f a >>= g := by
  induction x with
  | ret a => rfl
  | call e next ih => exact congrArg (Program.call e) (funext ih)

instance : LawfulMonad (Program E Answer) :=
  LawfulMonad.mk' _ map_id' (fun _ _ => rfl) andThen_assoc

/-- A program that may raise, after one that may not. -/
theorem executes_lift {x : Program E Answer α} {f : α → ExceptT ε (Program E Answer) β}
    {r : Except ε β} (h : Executes handles s (ExceptT.lift x >>= f).run r s'') :
    ∃ a s', Executes handles s x a s' ∧ Executes handles s' (f a).run r s'' := by
  rw [ExceptT.run_bind_lift] at h
  exact executes_bind.mp h

/-- What every call of a loop keeps the loop keeps, and its values are those of its calls. -/
theorem executes_mapM {I : σ → Prop} {Q : β → Prop} {f : ι → ExceptT ε (Program E Answer) β}
    {xs : List ι} {r : Except ε (List β)}
    (hstep : ∀ x ∈ xs, ∀ s r s', I s → Executes handles s (f x).run r s' →
      I s' ∧ ∀ y, r = .ok y → Q y)
    (hstart : I s) (h : Executes handles s (xs.mapM f).run r s') :
    I s' ∧ ∀ ys, r = .ok ys → ∀ y ∈ ys, Q y := by
  induction xs generalizing s s' r with
  | nil =>
    rw [List.mapM_nil] at h
    obtain ⟨rfl, rfl⟩ := executes_ret.mp h
    refine ⟨hstart, ?_⟩
    rintro ys ⟨⟩ y hy
    cases hy
  | cons x xs ih =>
    rw [List.mapM_cons] at h
    have hrest := fun y hy => hstep y (List.mem_cons_of_mem x hy)
    rcases executes_except h with ⟨e, hfirst, rfl⟩ | ⟨y, s₁, hfirst, h⟩
    · exact ⟨(hstep x List.mem_cons_self _ _ _ hstart hfirst).1, fun ys hys => nomatch hys⟩
    obtain ⟨hkept, hvalue⟩ := hstep x List.mem_cons_self _ _ _ hstart hfirst
    rcases executes_except h with ⟨e, hloop, rfl⟩ | ⟨ys, s₂, hloop, h⟩
    · exact ⟨(ih hrest hkept hloop).1, fun ys hys => nomatch hys⟩
    obtain ⟨hlast, hvalues⟩ := ih hrest hkept hloop
    obtain ⟨rfl, rfl⟩ := executes_ret.mp h
    refine ⟨hlast, ?_⟩
    rintro zs ⟨⟩ z hz
    rcases List.mem_cons.mp hz with rfl | hz
    · exact hvalue _ rfl
    · exact hvalues ys rfl z hz

/-! ## Answers by a function -/

/-- What a program returns and leaves when its calls are answered by a function. -/
def eval (answer : σ → (e : E) → Answer e × σ) : Program E Answer α → σ → α × σ
  | .ret a, s => (a, s)
  | .call e next, s => eval answer (next (answer s e).1) (answer s e).2

theorem executes_eval {answer : σ → (e : E) → Answer e × σ}
    (hanswer : ∀ s e, handles s e (answer s e).1 (answer s e).2) (x : Program E Answer α) (s : σ) :
    Executes handles s x (x.eval answer s).1 (x.eval answer s).2 := by
  induction x generalizing s with
  | ret a => exact .ret
  | call e next ih => exact .call (hanswer s e) (ih _ _)

end Program

import Mathlib.Algebra.GroupWithZero.Nat
import Mathlib.Data.List.Basic
import Wbcz.Lib.Transition

/-!
# Programs that call, and systems of programs

A program calls operations and goes on with their answers. A system runs any number of programs
over one shared state. Every call is a step of its own; programs are started and lost at any
moment, and the shared state may change between two steps.

Some answers grant a permit and some calls use one up. When every program uses only permits that
were granted to it, no system uses more permits than were granted.
-/

/-- A program that calls operations `E` and returns a value. -/
inductive Program (E : Type) (Answer : E → Type) (α : Type) : Type where
  | ret (a : α)
  | call (e : E) (next : Answer e → Program E Answer α)

/-- Which answers grant a permit, and which calls use one up. -/
structure Permits (E : Type) (Answer : E → Type) where
  grants : (e : E) → Answer e → Bool
  uses : E → Bool

/-- The permits after a call and its answer. -/
def Permits.after {E : Type} {Answer : E → Type} (permits : Permits E Answer) (n : ℕ) (e : E)
    (answer : Answer e) : ℕ :=
  n - (permits.uses e).toNat + (permits.grants e answer).toNat

namespace Program

variable {E : Type} {Answer : E → Type} {α β ε : Type}

/-- One program after another. -/
def andThen (x : Program E Answer α) (f : α → Program E Answer β) : Program E Answer β :=
  match x with
  | .ret a => f a
  | .call e next => .call e fun answer => (next answer).andThen f

instance : Monad (Program E Answer) := { pure := .ret, bind := andThen }

/-- A call whose answer is returned. -/
def perform (e : E) : Program E Answer (Answer e) := .call e .ret

/-! ## Permits -/

variable (permits : Permits E Answer)

/-- A program with `n` permits uses no other ones, and what it returns, with the permits it has
left, satisfies `Q`. -/
def Within : Program E Answer α → ℕ → (α → ℕ → Prop) → Prop
  | .ret a, n, Q => Q a n
  | .call e next, n, Q => (permits.uses e = true → 0 < n) ∧
    ∀ answer, (next answer).Within (permits.after n e answer) Q

variable {permits} {n : ℕ}

theorem within_ret {a : α} {Q : α → ℕ → Prop} (h : Q a n) :
    Within permits (pure a : Program E Answer α) n Q := h

theorem within_mono {x : Program E Answer α} {Q Q' : α → ℕ → Prop} (h : x.Within permits n Q)
    (hQ : ∀ a m, Q a m → Q' a m) : x.Within permits n Q' := by
  induction x generalizing n with
  | ret a => exact hQ a n h
  | call e next ih => exact ⟨h.1, fun answer => ih answer (h.2 answer)⟩

theorem within_bind {x : Program E Answer α} {f : α → Program E Answer β} {Q : β → ℕ → Prop}
    (h : x.Within permits n fun a m => (f a).Within permits m Q) :
    (x >>= f).Within permits n Q := by
  induction x generalizing n with
  | ret a => exact h
  | call e next ih => exact ⟨h.1, fun answer => ih answer (h.2 answer)⟩

/-- A call that grants and uses nothing. -/
theorem within_perform {e : E} {Q : Answer e → ℕ → Prop} (huses : permits.uses e = false)
    (hgrants : ∀ answer, permits.grants e answer = false) (h : ∀ answer, Q answer n) :
    (perform e).Within permits n Q := by
  refine ⟨fun hused => absurd hused (by simp [huses]), fun answer => ?_⟩
  rw [Permits.after, huses, hgrants]
  exact h answer

/-! ### Programs that raise -/

theorem within_except {x : ExceptT ε (Program E Answer) α}
    {f : α → ExceptT ε (Program E Answer) β} {Q : Except ε β → ℕ → Prop}
    (h : x.run.Within permits n fun r m =>
      (∀ e, r = .error e → Q (.error e) m) ∧ ∀ a, r = .ok a → (f a).run.Within permits m Q) :
    (x >>= f).run.Within permits n Q := by
  apply within_bind
  apply within_mono h
  rintro (e | a) m ⟨herror, hok⟩
  · exact herror e rfl
  · exact hok a rfl

theorem within_catch {x : ExceptT ε (Program E Answer) α}
    {handle : ε → ExceptT ε (Program E Answer) α} {Q : Except ε α → ℕ → Prop}
    (h : x.run.Within permits n fun r m =>
      (∀ a, r = .ok a → Q (.ok a) m) ∧ ∀ e, r = .error e → (handle e).run.Within permits m Q) :
    (tryCatch x handle).run.Within permits n Q := by
  apply within_bind
  apply within_mono h
  rintro (e | a) m ⟨hok, herror⟩
  · exact herror e rfl
  · exact hok a rfl

/-! ### Programs with no use of a permit -/

/-- The program leaves its permits as they were. -/
def Quiet (permits : Permits E Answer) (x : ExceptT ε (Program E Answer) α) : Prop :=
  ∀ n, x.run.Within permits n fun _ m => m = n

/-- The program has permits enough. -/
def Spends (permits : Permits E Answer) (n : ℕ) (x : ExceptT ε (Program E Answer) α) : Prop :=
  x.run.Within permits n fun _ _ => True

section Rules

variable {x : ExceptT ε (Program E Answer) α} {f : α → ExceptT ε (Program E Answer) β}
  {handle : ε → ExceptT ε (Program E Answer) α}

theorem quiet_mk (r : Except ε α) :
    Quiet permits (ExceptT.mk (pure r) : ExceptT ε (Program E Answer) α) :=
  fun _ => within_ret rfl

theorem Quiet.bind (hx : Quiet permits x) (hf : ∀ a, Quiet permits (f a)) :
    Quiet permits (x >>= f) := by
  intro n
  apply within_except
  apply within_mono (hx n)
  rintro r m rfl
  exact ⟨fun _ _ => rfl, fun a _ => hf a m⟩

theorem Quiet.spends (hx : Quiet permits x) : Spends permits n x :=
  within_mono (hx n) fun _ _ _ => trivial

/-- A program may begin with one that leaves its permits. -/
theorem Quiet.bind_spends (hx : Quiet permits x) (hf : ∀ a, Spends permits n (f a)) :
    Spends permits n (x >>= f) := by
  apply within_except
  apply within_mono (hx n)
  rintro r m rfl
  exact ⟨fun _ _ => trivial, fun a _ => hf a⟩

/-- A program may end with one that leaves its permits. -/
theorem Spends.bind (hx : Spends permits n x) (hf : ∀ a, Quiet permits (f a)) :
    Spends permits n (x >>= f) := by
  apply within_except
  apply within_mono hx
  intro r m _
  exact ⟨fun _ _ => trivial, fun a _ => (hf a).spends⟩

theorem Spends.catch (hx : Spends permits n x) (hhandle : ∀ e, Quiet permits (handle e)) :
    Spends permits n (tryCatch x handle) := by
  apply within_catch
  apply within_mono hx
  intro r m _
  exact ⟨fun _ _ => trivial, fun e _ => (hhandle e).spends⟩

end Rules

end Program

/-! ## Systems -/

/-- A shared state and the programs that are running. -/
structure Configuration (σ E : Type) (Answer : E → Type) (α : Type) where
  shared : σ
  programs : List (Program E Answer α)

/-- What happens in a step of a system. -/
inductive SystemLabel (E : Type) (Answer : E → Type) where
  | surroundings
  | started
  | lost
  | called (e : E) (answer : Answer e)

section Systems

variable {σ E : Type} {Answer : E → Type} {α : Type}

/-- One step: the shared state changes by itself, a program is started, a program is lost, or the
next call of a program is answered. -/
inductive SystemStep (surroundings : σ → σ → Prop)
    (answers : σ → (e : E) → Answer e → σ → Prop) (starts : Program E Answer α → Prop) :
    Configuration σ E Answer α → SystemLabel E Answer → Configuration σ E Answer α → Prop
  | surroundings {s s' programs} : surroundings s s' →
      SystemStep surroundings answers starts ⟨s, programs⟩ .surroundings ⟨s', programs⟩
  | started {s programs program} : starts program →
      SystemStep surroundings answers starts ⟨s, programs⟩ .started ⟨s, program :: programs⟩
  | lost {s before program after} :
      SystemStep surroundings answers starts ⟨s, before ++ program :: after⟩ .lost
        ⟨s, before ++ after⟩
  | called {s s' before after e answer next} : answers s e answer s' →
      SystemStep surroundings answers starts ⟨s, before ++ .call e next :: after⟩
        (.called e answer) ⟨s', before ++ next answer :: after⟩

/-- The step uses a permit. -/
def SystemLabel.uses (permits : Permits E Answer) : SystemLabel E Answer → Bool
  | .called e _ => permits.uses e
  | _ => false

/-- The step grants a permit. -/
def SystemLabel.grants (permits : Permits E Answer) : SystemLabel E Answer → Bool
  | .called e answer => permits.grants e answer
  | _ => false

variable {permits : Permits E Answer} {surroundings : σ → σ → Prop}
  {answers : σ → (e : E) → Answer e → σ → Prop} {starts : Program E Answer α → Prop}

/-- The running programs have permits among the granted ones that are left. -/
def Covered (permits : Permits E Answer) (labels : List (SystemLabel E Answer))
    (programs : List (Program E Answer α)) : Prop :=
  ∃ shares : List (ℕ × Program E Answer α), shares.map Prod.snd = programs ∧
    (∀ share ∈ shares, share.2.Within permits share.1 fun _ _ => True) ∧
    labels.countP (SystemLabel.uses permits) + (shares.map Prod.fst).sum ≤
      labels.countP (SystemLabel.grants permits)

theorem countP_snoc {ι : Type} (p : ι → Bool) (xs : List ι) (x : ι) :
    (xs ++ [x]).countP p = xs.countP p + (p x).toNat := by
  rw [List.countP_append, List.countP_singleton]
  cases p x <;> rfl

theorem Covered.snoc {labels : List (SystemLabel E Answer)}
    {programs : List (Program E Answer α)} {label : SystemLabel E Answer}
    (h : Covered permits labels programs) (huses : label.uses permits = false) :
    Covered permits (labels ++ [label]) programs := by
  obtain ⟨shares, hshares, hwithin, hle⟩ := h
  refine ⟨shares, hshares, hwithin, ?_⟩
  rw [countP_snoc, countP_snoc, huses, Bool.toNat_false]
  omega

/-- Every step leaves the programs covered. -/
theorem SystemStep.covered {c c' : Configuration σ E Answer α} {label : SystemLabel E Answer}
    {labels : List (SystemLabel E Answer)}
    (hstarts : ∀ program, starts program → program.Within permits 0 fun _ _ => True)
    (h : Covered permits labels c.programs)
    (step : SystemStep surroundings answers starts c label c') :
    Covered permits (labels ++ [label]) c'.programs := by
  cases step with
  | surroundings => exact h.snoc rfl
  | @started s programs program hprogram =>
    obtain ⟨shares, hshares, hwithin, hle⟩ := h
    refine Covered.snoc ⟨(0, program) :: shares, ?_, ?_, ?_⟩ rfl
    · rw [List.map_cons, hshares]
    · intro share hshare
      rcases List.mem_cons.mp hshare with rfl | hshare
      · exact hstarts program hprogram
      · exact hwithin share hshare
    · rw [List.map_cons, List.sum_cons]
      omega
  | @lost s before program after =>
    obtain ⟨shares, hshares, hwithin, hle⟩ := h
    obtain ⟨left, _, rfl, hleft, hrest⟩ := List.map_eq_append_iff.mp hshares
    obtain ⟨share, right, rfl, -, hright⟩ := List.map_eq_cons_iff.mp hrest
    refine Covered.snoc ⟨left ++ right, ?_, ?_, ?_⟩ rfl
    · rw [List.map_append, hleft, hright]
    · intro other hother
      rcases List.mem_append.mp hother with hother | hother
      · exact hwithin other (List.mem_append_left _ hother)
      · exact hwithin other (List.mem_append_right _ (List.mem_cons_of_mem _ hother))
    · rw [List.map_append, List.sum_append, List.map_cons, List.sum_cons] at hle
      rw [List.map_append, List.sum_append]
      omega
  | @called s s' before after e answer next hanswer =>
    obtain ⟨shares, hshares, hwithin, hle⟩ := h
    obtain ⟨left, _, rfl, hleft, hrest⟩ := List.map_eq_append_iff.mp hshares
    obtain ⟨⟨n, _⟩, right, rfl, rfl, hright⟩ := List.map_eq_cons_iff.mp hrest
    obtain ⟨huses, hnext⟩ := hwithin _ (List.mem_append_right _ List.mem_cons_self)
    refine ⟨left ++ (permits.after n e answer, next answer) :: right, ?_, ?_, ?_⟩
    · rw [List.map_append, List.map_cons, hleft, hright]
    · intro other hother
      rcases List.mem_append.mp hother with hother | hother
      · exact hwithin other (List.mem_append_left _ hother)
      · rcases List.mem_cons.mp hother with rfl | hother
        · exact hnext answer
        · exact hwithin other (List.mem_append_right _ (List.mem_cons_of_mem _ hother))
    · -- the call pays with a permit of its own, and keeps what its answer grants
      simp only [List.map_append, List.map_cons, List.sum_append, List.sum_cons] at hle
      simp only [List.map_append, List.map_cons, List.sum_append, List.sum_cons]
      rw [countP_snoc, countP_snoc]
      have hpaid : (permits.uses e).toNat ≤ n := by
        by_cases hused : permits.uses e = true
        · exact Nat.le_trans (Bool.toNat_le _) (huses hused)
        · rw [eq_false_of_ne_true hused]
          exact Nat.zero_le n
      have hleft : permits.after n e answer + (permits.uses e).toNat =
          n + (permits.grants e answer).toNat := by
        rw [Permits.after]
        omega
      have hlabel : ∀ label : SystemLabel E Answer, label = .called e answer →
          (label.uses permits).toNat = (permits.uses e).toNat ∧
          (label.grants permits).toNat = (permits.grants e answer).toNat := by
        rintro _ rfl
        exact ⟨rfl, rfl⟩
      obtain ⟨hu, hg⟩ := hlabel _ rfl
      omega

/-- A system whose programs use only what was granted to them uses no more than was granted. -/
theorem uses_le_grants {s : σ} {c : Configuration σ E Answer α}
    {labels : List (SystemLabel E Answer)}
    (hstarts : ∀ program, starts program → program.Within permits 0 fun _ _ => True)
    (run : Transition.Run (SystemStep surroundings answers starts) ⟨s, []⟩ labels c) :
    labels.countP (SystemLabel.uses permits) ≤ labels.countP (SystemLabel.grants permits) := by
  have hcovered : Covered permits labels c.programs :=
    run.history (fun labels c => Covered permits labels c.programs) ⟨[], rfl, by simp, Nat.le_refl 0⟩
      fun _ _ _ _ h step => step.covered hstarts h
  obtain ⟨shares, -, -, hle⟩ := hcovered
  omega

/-! ### A program that is answered by a function -/

/-- The calls of a program up to some number, with what they leave. -/
def Program.driven (answer : σ → (e : E) → Answer e × σ) :
    ℕ → σ → Program E Answer α → List (SystemLabel E Answer) × σ × Program E Answer α
  | 0, s, program => ([], s, program)
  | _ + 1, s, .ret a => ([], s, .ret a)
  | n + 1, s, .call e next =>
    let rest := driven answer n (answer s e).2 (next (answer s e).1)
    (.called e (answer s e).1 :: rest.1, rest.2)

/-- The calls of a program, one after another, are a run. -/
theorem Program.run_driven {answer : σ → (e : E) → Answer e × σ}
    (hanswer : ∀ s e, answers s e (answer s e).1 (answer s e).2) (n : ℕ) (s : σ)
    (program : Program E Answer α) (others : List (Program E Answer α)) :
    Transition.Run (SystemStep surroundings answers starts) ⟨s, program :: others⟩
      (program.driven answer n s).1
      ⟨(program.driven answer n s).2.1, (program.driven answer n s).2.2 :: others⟩ := by
  induction n generalizing s program with
  | zero => exact .nil
  | succ n ih =>
    cases program with
    | ret => exact .nil
    | call e next =>
      refine Transition.Run.append (.single ?_) (ih _ _)
      exact @SystemStep.called _ _ _ _ _ _ _ _ _ [] others _ _ _ (hanswer s e)

end Systems

import Mathlib.Data.List.Basic

/-!
# Runs of labelled transition systems and of fallible machines

Two shapes of system are used throughout. A *transition system* is a relation
`step : σ → α → σ → Prop`; its runs are recorded with the list of their labels,
so that an invariant may speak of what has already happened. A *fallible machine*
is a function `step : σ → α → Except ε σ` in which a rejected call leaves the
state as it was; every call list of a machine is a run of the relation of its
accepted calls.

## Main results

* `Run.history` — the induction rule for invariants over histories
* `Run.invariant` — the induction rule for invariants of states
* `Run.congr` — systems that agree wherever an invariant holds have the same runs
* `run_accepted` — a call list runs through its accepted calls
* `exec_lockstep` — two machines related call by call stay related
-/

namespace Transition

variable {σ τ α β ε ε' : Type*}

section Relation

variable {step : σ → α → σ → Prop}

/-- `Run step s as s'`: the labels `as`, in order, lead from `s` to `s'`. -/
inductive Run (step : σ → α → σ → Prop) (s : σ) : List α → σ → Prop
  | nil : Run step s [] s
  | snoc {as a s' s''} : Run step s as s' → step s' a s'' → Run step s (as ++ [a]) s''

/-- A property of the labels so far and the current state holds along every run when
it holds at the start and each step extends it. -/
theorem Run.history {s s' : σ} {as : List α} (run : Run step s as s')
    (inv : List α → σ → Prop) (start : inv [] s)
    (extend : ∀ as a s' s'', inv as s' → step s' a s'' → inv (as ++ [a]) s'') :
    inv as s' := by
  induction run with
  | nil => exact start
  | snoc _ hstep ih => exact extend _ _ _ _ ih hstep

/-- A property of states holds along every run when each step preserves it. -/
theorem Run.invariant {s s' : σ} {as : List α} (run : Run step s as s')
    (inv : σ → Prop) (start : inv s)
    (preserve : ∀ a s' s'', inv s' → step s' a s'' → inv s'') : inv s' :=
  run.history (fun _ => inv) start fun _ a s' s'' h hstep => preserve a s' s'' h hstep

/-- Two systems whose steps are the same wherever an invariant of both holds have the same
runs. -/
theorem Run.congr {step' : σ → α → σ → Prop} {s s' : σ} {as : List α} (inv : σ → Prop)
    (start : inv s) (same : ∀ s a s', inv s → (step s a s' ↔ step' s a s'))
    (preserve : ∀ s a s', inv s → step s a s' → inv s') :
    Run step s as s' ↔ Run step' s as s' := by
  constructor
  · intro run
    induction run with
    | nil => exact .nil
    | snoc hrun hstep ih =>
      have hinv := hrun.invariant inv start fun a s' s'' => preserve s' a s''
      exact ih.snoc ((same _ _ _ hinv).mp hstep)
  · intro run
    induction run with
    | nil => exact .nil
    | snoc _ hstep ih =>
      have hinv := ih.invariant inv start fun a s' s'' => preserve s' a s''
      exact ih.snoc ((same _ _ _ hinv).mpr hstep)

theorem Run.single {s s' : σ} {a : α} (h : step s a s') : Run step s [a] s' :=
  Run.snoc .nil h

theorem Run.append {s s' s'' : σ} {as bs : List α} (h : Run step s as s')
    (h' : Run step s' bs s'') : Run step s (as ++ bs) s'' := by
  induction h' with
  | nil => simpa using h
  | snoc _ hstep ih =>
    rw [← List.append_assoc]
    exact ih.snoc hstep

/-- A reflexive and transitive relation kept by every step relates the ends of a run. -/
theorem Run.monotone {s s' : σ} {as : List α} (run : Run step s as s')
    (rel : σ → σ → Prop) (refl : ∀ s, rel s s)
    (trans : ∀ s s' s'', rel s s' → rel s' s'' → rel s s'')
    (kept : ∀ s a s', step s a s' → rel s s') : rel s s' := by
  induction run with
  | nil => exact refl s
  | snoc _ hstep ih => exact trans _ _ _ ih (kept _ _ _ hstep)

end Relation

section Machine

variable {step : σ → α → Except ε σ}

/-- The state after one call: a rejected call changes nothing. -/
def call (step : σ → α → Except ε σ) (s : σ) (a : α) : σ :=
  match step s a with
  | .ok s' => s'
  | .error _ => s

/-- The state after a list of calls. -/
def exec (step : σ → α → Except ε σ) (s : σ) : List α → σ
  | [] => s
  | a :: as => exec step (call step s a) as

/-- The calls of a list that the machine accepts on its way, in order. -/
def accepted (step : σ → α → Except ε σ) (s : σ) : List α → List α
  | [] => []
  | a :: as =>
    match step s a with
    | .ok s' => a :: accepted step s' as
    | .error _ => accepted step s as

/-- The relation of accepted calls. -/
def Accepts (step : σ → α → Except ε σ) (s : σ) (a : α) (s' : σ) : Prop :=
  step s a = .ok s'

theorem call_of_ok {s s' : σ} {a : α} (h : step s a = .ok s') : call step s a = s' := by
  simp [call, h]

theorem call_of_error {s : σ} {a : α} {e : ε} (h : step s a = .error e) :
    call step s a = s := by
  simp [call, h]

theorem exec_append (s : σ) (as bs : List α) :
    exec step s (as ++ bs) = exec step (exec step s as) bs := by
  induction as generalizing s with
  | nil => rfl
  | cons a as ih => exact ih (call step s a)

/-- Every call list of a machine is a run through the calls it accepts. -/
theorem run_accepted (s : σ) (as : List α) :
    Run (Accepts step) s (accepted step s as) (exec step s as) := by
  induction as generalizing s with
  | nil => exact .nil
  | cons a as ih =>
    cases h : step s a with
    | ok s' =>
      simp only [accepted, exec, h, call_of_ok h]
      have first : Run (Accepts step) s [a] s' := Run.single h
      exact first.append (ih s')
    | error e =>
      simp only [accepted, exec, h, call_of_error h]
      exact ih s

theorem accepted_sublist (s : σ) (as : List α) : (accepted step s as).Sublist as := by
  induction as generalizing s with
  | nil => exact List.Sublist.refl _
  | cons a as ih =>
    unfold accepted
    cases step s a with
    | ok s' => exact (ih s').cons_cons a
    | error e => exact (ih s).cons a

/-- A call list none of whose calls is rejected is a run. -/
theorem run_of_length {s : σ} {as : List α} (h : (accepted step s as).length = as.length) :
    Run (Accepts step) s as (exec step s as) := by
  have run := @run_accepted _ _ _ step s as
  rwa [(accepted_sublist s as).eq_of_length h] at run

end Machine

section Lockstep

variable {step : σ → α → Except ε σ} {step' : τ → β → Except ε' τ}

/-- Two results of one call agree: both accept, in related states, or both reject. -/
inductive Agree (rel : σ → τ → Prop) : Except ε σ → Except ε' τ → Prop
  | ok {s t} : rel s t → Agree rel (.ok s) (.ok t)
  | error {e e'} : Agree rel (.error e) (.error e')

theorem Agree.call {rel : σ → τ → Prop} {s : σ} {t : τ} {a : α} {b : β}
    (h : Agree rel (step s a) (step' t b)) (hrel : rel s t) :
    rel (exec step s [a]) (exec step' t [b]) := by
  simp only [exec, Transition.call]
  generalize step s a = r, step' t b = r' at h
  cases h with
  | ok h => exact h
  | error => exact hrel

theorem Agree.isOk {rel : σ → τ → Prop} {r : Except ε σ} {r' : Except ε' τ}
    (h : Agree rel r r') : r.isOk = r'.isOk := by
  cases h with
  | ok => rfl
  | error => rfl

theorem Agree.exists_ok {rel : σ → τ → Prop} {s : σ} {r' : Except ε' τ}
    (h : Agree rel (.ok s : Except ε σ) r') : ∃ t, r' = .ok t ∧ rel s t := by
  cases h with
  | ok h => exact ⟨_, rfl, h⟩

theorem Agree.exists_error {rel : σ → τ → Prop} {e : ε} {r' : Except ε' τ}
    (h : Agree rel (.error e : Except ε σ) r') : ∃ e', r' = .error e' := by
  cases h with
  | error => exact ⟨_, rfl⟩

/-- The results of agreeing calls may be rewritten. -/
theorem Agree.map {σ' τ' : Type*} {rel : σ → τ → Prop} {rel' : σ' → τ' → Prop} {f : σ → σ'}
    {g : τ → τ'} {r : Except ε σ} {r' : Except ε' τ} (h : Agree rel r r')
    (hrel : ∀ s t, rel s t → rel' (f s) (g t)) : Agree rel' (r.map f) (r'.map g) := by
  cases h with
  | ok h => exact .ok (hrel _ _ h)
  | error => exact .error

/-- Two conditionals agree when their conditions do and each branch does under them. -/
theorem Agree.ite {rel : σ → τ → Prop} {c c' : Prop} [Decidable c] [Decidable c']
    {r₁ r₂ : Except ε σ} {r₁' r₂' : Except ε' τ} (hc : c ↔ c') (h₁ : c → Agree rel r₁ r₁')
    (h₂ : ¬ c → Agree rel r₂ r₂') :
    Agree rel (if c then r₁ else r₂) (if c' then r₁' else r₂') := by
  by_cases h : c
  · rw [if_pos h, if_pos (hc.mp h)]
    exact h₁ h
  · rw [if_neg h, if_neg (mt hc.mpr h)]
    exact h₂ h

/-- Two guards in turn agree with one guard that makes both checks. -/
theorem Agree.or_guard {rel : σ → τ → Prop} {c₁ c₂ : Prop} [Decidable c₁] [Decidable c₂]
    {e₁ e₂ : ε} {e : ε'} {r : Except ε σ} {r' : Except ε' τ}
    (h : ¬ c₁ → ¬ c₂ → Agree rel r r') :
    Agree rel (if c₁ then .error e₁ else if c₂ then .error e₂ else r)
      (if c₁ ∨ c₂ then .error e else r') := by
  by_cases h₁ : c₁
  · rw [if_pos h₁, if_pos (.inl h₁)]
    exact .error
  · rw [if_neg h₁]
    exact .ite (or_iff_right h₁).symm (fun _ => .error) fun h₂ => h h₁ h₂

/-- What holds of every accepted result of one side may be added to the relation. -/
theorem Agree.and {rel : σ → τ → Prop} {P : σ → Prop} {r : Except ε σ} {r' : Except ε' τ}
    (h : Agree rel r r') (hP : ∀ s, r = .ok s → P s) : Agree (fun s t => rel s t ∧ P s) r r' := by
  cases h with
  | ok h => exact .ok ⟨h, hP _ rfl⟩
  | error => exact .error

/-- The call `a` is allowed in the states that the calls before it lead to, on both sides. -/
def AllowedAlong (step : σ → α → Except ε σ) (step' : τ → β → Except ε' τ) (m : α → β)
    (allowed : σ → τ → α → Prop) (s : σ) (t : τ) (as : List α) : Prop :=
  ∀ k a, as[k]? = some a →
    allowed (exec step s (as.take k)) (exec step' t ((as.take k).map m)) a

/-- A relation that corresponding calls keep while they are allowed relates the states after
every prefix of a call list, and every call of the list is accepted or rejected by both. -/
theorem exec_lockstep {m : α → β} {allowed : σ → τ → α → Prop} (rel : σ → τ → Prop)
    {as : List α} (agree : ∀ s t a, a ∈ as → rel s t → allowed s t a →
      Agree rel (step s a) (step' t (m a)))
    {s : σ} {t : τ} (h : rel s t) (hallowed : AllowedAlong step step' m allowed s t as) (k : ℕ) :
    rel (exec step s (as.take k)) (exec step' t ((as.take k).map m)) := by
  induction k with
  | zero => simpa [exec] using h
  | succ k ih =>
    rw [List.take_add_one]
    cases ha : as[k]? with
    | none => simpa using ih
    | some a =>
      rw [Option.toList_some, List.map_append, exec_append, exec_append]
      have hagree := agree _ _ a (List.mem_of_getElem? ha) ih (hallowed k a ha)
      exact hagree.call ih

end Lockstep

end Transition

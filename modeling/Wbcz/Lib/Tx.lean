import Mathlib.Data.List.Basic

/-!
# Procedures over a state that may raise

A procedure of type `Tx ε σ α` reads and writes a state and gives a value or raises; what
it wrote before it raised stays written. Whether that is kept is for the caller to say:
a database session that rolls back discards it, one that commits keeps it.
-/

/-- A procedure that keeps what it wrote before it raised. -/
def Tx (ε σ α : Type) := σ → Except ε α × σ

namespace Tx

variable {ε σ α β : Type}

/-- Give a value. -/
def ret (a : α) : Tx ε σ α := fun s => (.ok a, s)

/-- Run one procedure after another. -/
def andThen (x : Tx ε σ α) (f : α → Tx ε σ β) : Tx ε σ β := fun s =>
  match x s with
  | (.ok a, s') => f a s'
  | (.error e, s') => (.error e, s')

instance : Monad (Tx ε σ) where
  pure := ret
  bind := andThen

/-- Raise an exception. -/
def raise (e : ε) : Tx ε σ α := fun s => (.error e, s)

/-- Read the state. -/
def get : Tx ε σ σ := fun s => (.ok s, s)

/-- Write the state. -/
def modify (f : σ → σ) : Tx ε σ Unit := fun s => (.ok (), f s)

/-- Raise or give a value, whatever the state. -/
def ofExcept (x : Except ε α) : Tx ε σ α := fun s => (x, s)

/-- A transaction: the state changes only when it succeeds. -/
def lift (f : σ → Except ε (α × σ)) : Tx ε σ α := fun s =>
  match f s with
  | .ok (a, s') => (.ok a, s')
  | .error e => (.error e, s)

/-- Run a procedure, and restore the state if it raised. -/
def rollback (x : Tx ε σ α) : Tx ε σ α := fun s =>
  match x s with
  | (.ok a, s') => (.ok a, s')
  | (.error e, _) => (.error e, s)

@[simp] theorem pure_apply (a : α) (s : σ) : (pure a : Tx ε σ α) s = (.ok a, s) := rfl

@[simp] theorem raise_apply (e : ε) (s : σ) : (raise e : Tx ε σ α) s = (.error e, s) := rfl

@[simp] theorem get_apply (s : σ) : (get : Tx ε σ σ) s = (.ok s, s) := rfl

@[simp] theorem modify_apply (f : σ → σ) (s : σ) :
    (modify f : Tx ε σ Unit) s = (.ok (), f s) := rfl

@[simp] theorem ofExcept_apply (x : Except ε α) (s : σ) :
    (ofExcept x : Tx ε σ α) s = (x, s) := rfl

theorem bind_apply (x : Tx ε σ α) (f : α → Tx ε σ β) (s : σ) :
    (x >>= f) s = match x s with
      | (.ok a, s') => f a s'
      | (.error e, s') => (.error e, s') := rfl

theorem bind_of_ok {x : Tx ε σ α} {f : α → Tx ε σ β} {s s' : σ} {a : α}
    (h : x s = (.ok a, s')) : (x >>= f) s = f a s' := by
  rw [bind_apply, h]

theorem bind_of_error {x : Tx ε σ α} {f : α → Tx ε σ β} {s s' : σ} {e : ε}
    (h : x s = (.error e, s')) : (x >>= f) s = (.error e, s') := by
  rw [bind_apply, h]

/-- A sequence succeeds when its parts do. -/
theorem bind_eq_ok {x : Tx ε σ α} {f : α → Tx ε σ β} {s s'' : σ} {b : β}
    (h : (x >>= f) s = (.ok b, s'')) : ∃ a s', x s = (.ok a, s') ∧ f a s' = (.ok b, s'') := by
  rw [bind_apply] at h
  split at h
  · exact ⟨_, _, ‹_›, h⟩
  · cases h

/-- A sequence that begins with a value goes on with it. -/
theorem read_eq_ok {x : Except ε α} {f : α → Tx ε σ β} {s s'' : σ} {b : β}
    (h : (ofExcept x >>= f) s = (.ok b, s'')) : ∃ a, x = .ok a ∧ f a s = (.ok b, s'') := by
  cases x with
  | error e => cases h
  | ok a => exact ⟨a, rfl, h⟩

/-- A sequence that begins with the state goes on with it. -/
theorem get_eq_ok {f : σ → Tx ε σ β} {s s'' : σ} {b : β}
    (h : (get >>= f) s = (.ok b, s'')) : f s s = (.ok b, s'') := h

theorem lift_eq_ok {f : σ → Except ε (α × σ)} {s s' : σ} {a : α} :
    lift f s = (.ok a, s') ↔ f s = .ok (a, s') := by
  unfold lift
  cases f s with
  | error e =>
    constructor
    · intro h
      cases h
    · intro h
      cases h
  | ok r =>
    constructor
    · intro h
      cases h
      rfl
    · intro h
      cases h
      rfl

/-- A procedure that did not raise. -/
theorem eq_of_isOk {x : Tx ε σ Unit} {s : σ} (h : (x s).1.isOk = true) :
    x s = (.ok (), (x s).2) := by
  rcases hrun : x s with ⟨⟨_⟩ | ⟨⟨⟩⟩, s'⟩
  · rw [hrun] at h
    cases h
  · rfl

theorem lift_of_ok {f : σ → Except ε (α × σ)} {s s' : σ} {a : α} (h : f s = .ok (a, s')) :
    lift f s = (.ok a, s') := by
  rw [lift, h]

theorem lift_of_error {f : σ → Except ε (α × σ)} {s : σ} {e : ε} (h : f s = .error e) :
    lift f s = (.error e, s) := by
  rw [lift, h]

/-- A procedure that was rolled back and raised left the state as it was. -/
theorem rollback_eq_error {x : Tx ε σ α} {s s' : σ} {e : ε}
    (h : x.rollback s = (.error e, s')) : s' = s := by
  unfold rollback at h
  split at h
  · cases h
  · cases h
    rfl

section Ends

/-- `Q` holds of the result of a procedure and of the state that it leaves. -/
def Ends (x : Tx ε σ α) (s : σ) (Q : Except ε α → σ → Prop) : Prop := Q (x s).1 (x s).2

variable {x : Tx ε σ α} {f : α → Tx ε σ β} {s : σ} {Q : Except ε β → σ → Prop}

theorem Ends.bind (hx : Ends x s fun r s' =>
      (∀ e, r = .error e → Q (.error e) s') ∧ ∀ a, r = .ok a → Ends (f a) s' Q) :
    Ends (x >>= f) s Q := by
  rcases hrun : x s with ⟨r, s'⟩
  rw [Ends, hrun] at hx
  obtain ⟨herror, hok⟩ := hx
  cases r with
  | error e =>
    rw [Ends, bind_of_error hrun]
    exact herror e rfl
  | ok a =>
    rw [Ends, bind_of_ok hrun]
    exact hok a rfl

theorem Ends.ret {a : β} (h : Q (.ok a) s) : Ends (pure a : Tx ε σ β) s Q := h

theorem Ends.raise {e : ε} (h : Q (.error e) s) : Ends (Tx.raise e : Tx ε σ β) s Q := h

theorem Ends.get {f : σ → Tx ε σ β} (h : Ends (f s) s Q) : Ends (Tx.get >>= f) s Q := h

theorem Ends.write {g : σ → σ} {f : Unit → Tx ε σ β} (h : Ends (f ()) (g s) Q) :
    Ends (Tx.modify g >>= f) s Q := h

/-- A value that is read is there, or the procedure ends without it. -/
theorem Ends.read {y : Except ε α} (hraise : ∀ e, y = .error e → Q (.error e) s)
    (h : ∀ a, y = .ok a → Ends (f a) s Q) : Ends (Tx.ofExcept y >>= f) s Q := by
  apply Ends.bind
  exact ⟨hraise, h⟩

/-- What a run of a procedure ended with. -/
theorem Ends.of_run {y : Tx ε σ β} {r : Except ε β} {s' : σ} (h : Ends y s Q)
    (hrun : y s = (r, s')) : Q r s' := by
  rw [Ends, hrun] at h
  exact h

theorem Ends.mono {Q' : Except ε β → σ → Prop} {y : Tx ε σ β} (h : Ends y s Q)
    (hQ : ∀ r s', Q r s' → Q' r s') : Ends y s Q' := hQ _ _ h

end Ends

section Yields

/-- A procedure gives what a computation gives and leaves its state, or raises what it raises. -/
def Yields (x : Tx ε σ α) (s : σ) : Except ε (α × σ) → Prop
  | .ok (a, s') => x s = (.ok a, s')
  | .error e => (x s).1 = .error e

variable {x : Tx ε σ α} {f : α → Tx ε σ β} {s : σ} {r : Except ε (α × σ)}

theorem yields_lift (g : σ → Except ε (α × σ)) (s : σ) : (lift g).Yields s (g s) := by
  cases h : g s with
  | error e => rw [Yields, lift_of_error h]
  | ok r => exact lift_of_ok h

theorem Yields.bind {g : α → σ → Except ε (β × σ)} (hx : x.Yields s r)
    (hf : ∀ a s', r = .ok (a, s') → (f a).Yields s' (g a s')) :
    (x >>= f).Yields s (r.bind fun p => g p.1 p.2) := by
  cases r with
  | error e =>
    rcases hrun : x s with ⟨r', s'⟩
    rw [Yields, hrun] at hx
    subst hx
    show ((x >>= f) s).1 = .error e
    rw [bind_of_error hrun]
  | ok p =>
    obtain ⟨a, s'⟩ := p
    have hrun : (x >>= f) s = f a s' := bind_of_ok hx
    have hrest := hf a s' rfl
    unfold Yields at hrest ⊢
    rw [Except.bind, hrun]
    exact hrest

/-- What is rolled back where it raises changes the state only when it succeeds. -/
theorem Yields.rollback {g : σ → Except ε (α × σ)} (h : x.Yields s (g s)) :
    x.rollback s = lift g s := by
  unfold Tx.rollback
  cases hg : g s with
  | error e =>
    rcases hrun : x s with ⟨r', s'⟩
    rw [hg, Yields, hrun] at h
    subst h
    rw [lift_of_error hg]
  | ok p =>
    obtain ⟨a, s'⟩ := p
    rw [hg] at h
    have hrun : x s = (.ok a, s') := h
    rw [hrun, lift_of_ok hg]

theorem Yields.congr {r' : Except ε (α × σ)} (h : x.Yields s r) (hr : r = r') : x.Yields s r' :=
  hr ▸ h

theorem Yields.get {f : σ → Tx ε σ α} (h : (f s).Yields s r) : (Tx.get >>= f).Yields s r := h

end Yields

end Tx

import Mathlib.Data.List.Basic

/-!
# Inversion of fallible computations

What is known of the parts of a computation in `Except` that gave a value.
-/

namespace Fallible

variable {ε α β : Type}

/-- A sequence gives a value when its parts do. -/
theorem bind_eq_ok {x : Except ε α} {f : α → Except ε β} {b : β} :
    (x >>= f) = .ok b ↔ ∃ a, x = .ok a ∧ f a = .ok b := by
  cases x with
  | error e =>
    constructor
    · intro h
      cases h
    · rintro ⟨a, h, -⟩
      cases h
  | ok a =>
    constructor
    · intro h
      exact ⟨a, rfl, h⟩
    · rintro ⟨c, h, hf⟩
      cases h
      exact hf

/-- A sequence raises what its first part raises, or its second. -/
theorem bind_eq_error {x : Except ε α} {f : α → Except ε β} {e : ε} :
    (x >>= f) = .error e ↔ x = .error e ∨ ∃ a, x = .ok a ∧ f a = .error e := by
  cases x with
  | error e' =>
    constructor
    · intro h
      cases h
      exact .inl rfl
    · rintro (h | ⟨_, h, -⟩)
      · cases h
        rfl
      · cases h
  | ok a =>
    constructor
    · intro h
      exact .inr ⟨a, rfl, h⟩
    · rintro (h | ⟨_, ha, h⟩)
      · cases h
      · cases ha
        exact h

theorem pure_eq_ok {a b : α} : (pure a : Except ε α) = .ok b ↔ b = a :=
  ⟨fun h => (Except.ok.inj h).symm, fun h => congrArg Except.ok h.symm⟩

theorem map_eq_ok {x : Except ε α} {f : α → β} {b : β} :
    x.map f = .ok b ↔ ∃ a, x = .ok a ∧ f a = b := by
  cases x with
  | error e => simp [Except.map]
  | ok a => simp [Except.map]

/-- A guarded computation gives a value when its guard lets it. -/
theorem guard_eq_ok {c : Prop} [Decidable c] {e : ε} {x : Except ε α} {a : α} :
    (if c then .error e else x) = .ok a ↔ ¬ c ∧ x = .ok a := by
  by_cases hc : c
  · simp [hc]
  · simp [hc]

/-- Raise unless the condition holds. -/
def ensure (c : Prop) [Decidable c] (e : ε) : Except ε Unit := if c then .ok () else .error e

theorem ensure_eq_ok {c : Prop} [Decidable c] {e : ε} {u : Unit} :
    ensure c e = .ok u ↔ c := by
  by_cases hc : c
  · simp [ensure, hc]
  · simp [ensure, hc]

/-- Raise unless there is a value. -/
def found (x : Option α) (e : ε) : Except ε α :=
  match x with
  | some a => .ok a
  | none => .error e

theorem found_eq_ok {x : Option α} {e : ε} {a : α} : found x e = .ok a ↔ x = some a := by
  cases x with
  | none => simp [found]
  | some b => simp [found]

theorem toOption_eq_some {x : Except ε α} {a : α} : x.toOption = some a ↔ x = .ok a := by
  cases x with
  | error e => simp [Except.toOption]
  | ok b => simp [Except.toOption]

/-- A computation of a pair, of which the second part is known. -/
theorem exists_of_map_snd {x : Except ε (α × β)} {b : β}
    (h : x.toOption.map Prod.snd = some b) : ∃ a, x = .ok (a, b) := by
  obtain ⟨⟨a, c⟩, hx, hc⟩ := Option.map_eq_some_iff.mp h
  cases hc
  exact ⟨a, toOption_eq_some.mp hx⟩

/-- What a computation has raised. -/
def raised (x : Except ε α) : Option ε :=
  match x with
  | .ok _ => none
  | .error e => some e

theorem raised_eq_some {x : Except ε α} {e : ε} : raised x = some e ↔ x = .error e := by
  cases x with
  | error e' => simp [raised]
  | ok a => simp [raised]

/-- The values of a list come from its elements. -/
theorem mapM_mem {f : α → Except ε β} {xs : List α} {ys : List β} (h : xs.mapM f = .ok ys) :
    ∀ y ∈ ys, ∃ x ∈ xs, f x = .ok y := by
  induction xs generalizing ys with
  | nil =>
    cases h
    exact fun _ hy => absurd hy List.not_mem_nil
  | cons x xs ih =>
    rw [List.mapM_cons] at h
    obtain ⟨y, hy, h⟩ := bind_eq_ok.mp h
    obtain ⟨rest, hrest, h⟩ := bind_eq_ok.mp h
    cases h
    intro z hz
    rcases List.mem_cons.mp hz with rfl | hz
    · exact ⟨x, List.mem_cons_self, hy⟩
    · obtain ⟨w, hw, heq⟩ := ih hrest z hz
      exact ⟨w, List.mem_cons_of_mem _ hw, heq⟩

/-- Every element of a list has a value. -/
theorem mapM_value {f : α → Except ε β} {xs : List α} {ys : List β} (h : xs.mapM f = .ok ys) :
    ∀ x ∈ xs, ∃ y ∈ ys, f x = .ok y := by
  induction xs generalizing ys with
  | nil => exact fun _ hx => absurd hx List.not_mem_nil
  | cons first xs ih =>
    rw [List.mapM_cons] at h
    obtain ⟨y, hy, h⟩ := bind_eq_ok.mp h
    obtain ⟨rest, hrest, h⟩ := bind_eq_ok.mp h
    cases h
    intro x hx
    rcases List.mem_cons.mp hx with rfl | hx
    · exact ⟨y, List.mem_cons_self, hy⟩
    · obtain ⟨z, hz, heq⟩ := ih hrest x hx
      exact ⟨z, List.mem_cons_of_mem _ hz, heq⟩

theorem mapM_length {f : α → Except ε β} {xs : List α} {ys : List β} (h : xs.mapM f = .ok ys) :
    ys.length = xs.length := by
  induction xs generalizing ys with
  | nil =>
    cases h
    rfl
  | cons x xs ih =>
    rw [List.mapM_cons] at h
    obtain ⟨y, -, h⟩ := bind_eq_ok.mp h
    obtain ⟨rest, hrest, h⟩ := bind_eq_ok.mp h
    cases h
    rw [List.length_cons, List.length_cons, ih hrest]

/-- The values stand where their elements stand. -/
theorem getElem?_mapM {f : α → Except ε β} {xs : List α} {ys : List β} (h : xs.mapM f = .ok ys)
    (i : ℕ) (y : β) : ys[i]? = some y ↔ ∃ x, xs[i]? = some x ∧ f x = .ok y := by
  induction xs generalizing ys i with
  | nil =>
    cases h
    simp
  | cons x xs ih =>
    rw [List.mapM_cons] at h
    obtain ⟨first, hfirst, h⟩ := bind_eq_ok.mp h
    obtain ⟨rest, hrest, h⟩ := bind_eq_ok.mp h
    cases h
    cases i with
    | zero => simp [hfirst]
    | succ i => simpa using ih hrest i

/-- Two computations that agree on a list have the same values. -/
theorem mapM_congr {f g : α → Except ε β} {xs : List α} (h : ∀ x ∈ xs, f x = g x) :
    xs.mapM f = xs.mapM g := by
  induction xs with
  | nil => rfl
  | cons x xs ih =>
    obtain ⟨hx, hxs⟩ := List.forall_mem_cons.mp h
    rw [List.mapM_cons, List.mapM_cons, hx, ih hxs]

/-- A list has values when its elements have. -/
theorem exists_mapM {f : α → Except ε β} {xs : List α} :
    (∃ ys, xs.mapM f = .ok ys) ↔ ∀ x ∈ xs, ∃ y, f x = .ok y := by
  induction xs with
  | nil => simp [pure, Except.pure]
  | cons x xs ih =>
    rw [List.forall_mem_cons, ← ih, List.mapM_cons]
    constructor
    · rintro ⟨ys, h⟩
      obtain ⟨y, hy, h⟩ := bind_eq_ok.mp h
      obtain ⟨rest, hrest, -⟩ := bind_eq_ok.mp h
      exact ⟨⟨y, hy⟩, rest, hrest⟩
    · rintro ⟨⟨y, hy⟩, rest, hrest⟩
      exact ⟨y :: rest, bind_eq_ok.mpr ⟨y, hy, bind_eq_ok.mpr ⟨rest, hrest, rfl⟩⟩⟩

/-- The values of a list, where they are known for each element that has one. -/
theorem mapM_map_eq_ok {f : α → Except ε β} {value : α → β} {valid : α → Prop}
    (hf : ∀ x y, f x = .ok y ↔ y = value x ∧ valid x) {xs : List α} {ys : List β} :
    xs.mapM f = .ok ys ↔ ys = xs.map value ∧ ∀ x ∈ xs, valid x := by
  induction xs generalizing ys with
  | nil =>
    constructor
    · intro h
      exact ⟨(Except.ok.inj h).symm, by simp⟩
    · rintro ⟨rfl, -⟩
      rfl
  | cons x xs ih =>
    rw [List.mapM_cons, List.forall_mem_cons]
    constructor
    · intro h
      obtain ⟨first, hfirst, htail⟩ := bind_eq_ok.mp h
      obtain ⟨rest, hrest, hlast⟩ := bind_eq_ok.mp htail
      obtain ⟨rfl, hx⟩ := (hf _ _).mp hfirst
      obtain ⟨rfl, hxs⟩ := ih.mp hrest
      exact ⟨(Except.ok.inj hlast).symm, hx, hxs⟩
    · rintro ⟨rfl, hx, hxs⟩
      refine bind_eq_ok.mpr ⟨_, (hf _ _).mpr ⟨rfl, hx⟩, ?_⟩
      exact bind_eq_ok.mpr ⟨_, ih.mpr ⟨rfl, hxs⟩, rfl⟩

/-- A check that gives a value back as it is gives a list back as it is. -/
theorem mapM_check_eq_ok {check : α → Except ε α} {valid : α → Prop}
    (hcheck : ∀ x y, check x = .ok y ↔ y = x ∧ valid x) {xs ys : List α} :
    xs.mapM check = .ok ys ↔ ys = xs ∧ ∀ x ∈ xs, valid x := by
  have hmap : xs.mapM check = .ok ys ↔ ys = xs.map id ∧ ∀ x ∈ xs, valid x := mapM_map_eq_ok hcheck
  rwa [List.map_id] at hmap

/-- A loop of checks passes when every element passes. -/
theorem forM_eq_ok {f : α → Except ε Unit} {xs : List α} :
    xs.forM f = .ok () ↔ ∀ x ∈ xs, f x = .ok () := by
  induction xs with
  | nil => simp [pure, Except.pure]
  | cons x xs ih =>
    change (f x >>= fun _ => xs.forM f) = _ ↔ _
    rw [bind_eq_ok, List.forall_mem_cons, ← ih]
    constructor
    · rintro ⟨⟨⟩, hx, hxs⟩
      exact ⟨hx, hxs⟩
    · rintro ⟨hx, hxs⟩
      exact ⟨(), hx, hxs⟩

end Fallible

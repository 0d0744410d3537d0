import Wbcz.Lib.Fallible
import Wbcz.Lib.JsonFields

/-!
# Contracts of objects

A contract makes an object of an object, field by field: each rule reads the fields that are given
and gives the value of one field, or leaves the field out. What a contract gives it gives again when
every rule reads its own value as that value.
-/

namespace Json

open Fallible (bind_eq_ok)

variable {ε : Type}

/-- A value is checked, and perhaps made into another one. -/
abbrev Check (ε : Type) := Json → Except ε Json

/-- What a check gives it gives again, and it is not `null`. -/
def Check.Stable (check : Check ε) : Prop :=
  ∀ v w, check v = .ok w → check w = .ok w ∧ w ≠ .null

/-- The values that a check accepts it gives as they are. -/
def Check.Tests (check : Check ε) (accepts : Json → Prop) : Prop :=
  ∀ v w, check v = .ok w ↔ w = v ∧ accepts v

/-- One check after another. -/
def Check.andThen (first second : Check ε) : Check ε := fun value => do
  let value ← first value
  second value

theorem Check.Tests.andThen {first second : Check ε} {p q : Json → Prop} (hfirst : first.Tests p)
    (hsecond : second.Tests q) : (first.andThen second).Tests fun v => p v ∧ q v := by
  intro v w
  constructor
  · intro h
    obtain ⟨u, hu, hw⟩ := bind_eq_ok.mp h
    obtain ⟨rfl, hp⟩ := (hfirst _ _).mp hu
    obtain ⟨rfl, hq⟩ := (hsecond _ _).mp hw
    exact ⟨rfl, hp, hq⟩
  · rintro ⟨rfl, hp, hq⟩
    exact bind_eq_ok.mpr ⟨w, (hfirst _ _).mpr ⟨rfl, hp⟩, (hsecond _ _).mpr ⟨rfl, hq⟩⟩

theorem Check.Tests.stable {check : Check ε} {accepts : Json → Prop} (h : check.Tests accepts)
    (hnull : ¬accepts .null) : check.Stable := by
  intro v w hw
  obtain ⟨rfl, haccepts⟩ := (h _ _).mp hw
  refine ⟨hw, ?_⟩
  rintro rfl
  exact hnull haccepts

/-- The rule of a field: its value, or none. -/
structure FieldRule (ε : Type) where
  key : String
  read : List (String × Json) → Except ε (Option Json)

namespace FieldRule

/-- The check of `root[key]` or of `root.get(key)`. -/
def required (key : String) (check : Check ε) : FieldRule ε where
  key
  read root := some <$> check ((lookup root key).getD .null)

/-- The check of `root.get(key, default)`. -/
def defaulted (key : String) (default : Json) (check : Check ε) : FieldRule ε where
  key
  read root := some <$> check ((lookup root key).getD default)

/-- A field with an error of its own where it is not given. -/
def demanded (key : String) (missing : ε) (check : Check ε) : FieldRule ε where
  key
  read root :=
    match lookup root key with
    | none => .error missing
    | some value => some <$> check value

/-- A field that is left out where it is not given, and where it is `None`. -/
def optional (key : String) (check : Check ε) : FieldRule ε where
  key
  read root :=
    match lookup root key with
    | none | some .null => .ok none
    | some value => some <$> check value

/-- A field that is left out where it is not given. -/
def present (key : String) (check : Check ε) : FieldRule ε where
  key
  read root :=
    match lookup root key with
    | none => .ok none
    | some value => some <$> check value

/-- A field that is `None` where it is not given. -/
def nullable (key : String) (check : Check ε) : FieldRule ε where
  key
  read root :=
    match lookup root key with
    | none | some .null => .ok (some .null)
    | some value => some <$> check value

/-- The field of a rule, where there is one. -/
def field (rule : FieldRule ε) (root : List (String × Json)) : Except ε (List (String × Json)) := do
  let value ← rule.read root
  pure (value.toList.map fun value => (rule.key, value))

/-- A rule that never leaves its field out. -/
def Always (rule : FieldRule ε) : Prop :=
  ∀ root value, rule.read root = .ok value → value.isSome = true

/-- A rule reads its own value as that value, among fields of these keys. -/
def StableIn (keys : List String) (rule : FieldRule ε) : Prop :=
  ∀ root value out, rule.read root = .ok value → lookup out rule.key = value →
    (∀ key ∉ keys, lookup out key = none) → rule.read out = .ok value

end FieldRule

/-- The fields that the rules give. -/
def normalize (rules : List (FieldRule ε)) (root : List (String × Json)) :
    Except ε (List (String × Json)) := do
  let fields ← rules.mapM fun rule => rule.field root
  pure fields.flatten

/-! ## Rules -/

section Rules

variable {check : Check ε} {key : String} {default : Json} {keys : List String}

theorem map_some_eq_ok {x : Except ε Json} {value : Option Json} :
    some <$> x = .ok value ↔ ∃ w, x = .ok w ∧ value = some w := by
  cases x with
  | error e => simp [Functor.map, Except.map]
  | ok w => simp [Functor.map, Except.map, eq_comm]

theorem map_some_ok (w : Json) : some <$> (Except.ok w : Except ε Json) = .ok (some w) := rfl

theorem FieldRule.required_stable (h : check.Stable) :
    (FieldRule.required key check).StableIn keys := by
  intro root value out hread hlookup _
  obtain ⟨w, hw, rfl⟩ := map_some_eq_ok.mp hread
  change lookup out key = some w at hlookup
  change some <$> check ((lookup out key).getD .null) = _
  rw [hlookup, Option.getD_some, (h _ _ hw).1, map_some_ok]

theorem FieldRule.defaulted_stable (h : check.Stable) :
    (FieldRule.defaulted key default check).StableIn keys := by
  intro root value out hread hlookup _
  obtain ⟨w, hw, rfl⟩ := map_some_eq_ok.mp hread
  change lookup out key = some w at hlookup
  change some <$> check ((lookup out key).getD default) = _
  rw [hlookup, Option.getD_some, (h _ _ hw).1, map_some_ok]

theorem FieldRule.required_always : (FieldRule.required key check).Always := by
  intro root value hread
  obtain ⟨w, -, rfl⟩ := map_some_eq_ok.mp hread
  rfl

theorem FieldRule.optional_read {root : List (String × Json)} {value : Option Json}
    (h : (FieldRule.optional key check).read root = .ok value) :
    value = none ∨ ∃ v w, check v = .ok w ∧ value = some w := by
  unfold FieldRule.optional at h
  dsimp only at h
  split at h
  · exact .inl (Except.ok.inj h).symm
  · exact .inl (Except.ok.inj h).symm
  · obtain ⟨w, hw, rfl⟩ := map_some_eq_ok.mp h
    exact .inr ⟨_, w, hw, rfl⟩

theorem FieldRule.optional_stable (h : check.Stable) :
    (FieldRule.optional key check).StableIn keys := by
  intro root value out hread hlookup _
  change lookup out key = value at hlookup
  unfold FieldRule.optional
  dsimp only
  rw [hlookup]
  rcases FieldRule.optional_read hread with rfl | ⟨v, w, hw, rfl⟩
  · rfl
  · obtain ⟨hsame, hnull⟩ := h _ _ hw
    cases w with
    | null => exact absurd rfl hnull
    | _ => simp only [hsame, map_some_ok]

theorem FieldRule.present_read {root : List (String × Json)} {value : Option Json}
    (h : (FieldRule.present key check).read root = .ok value) :
    value = none ∨ ∃ v w, check v = .ok w ∧ value = some w := by
  unfold FieldRule.present at h
  dsimp only at h
  split at h
  · exact .inl (Except.ok.inj h).symm
  · obtain ⟨w, hw, rfl⟩ := map_some_eq_ok.mp h
    exact .inr ⟨_, w, hw, rfl⟩

theorem FieldRule.present_stable (h : check.Stable) :
    (FieldRule.present key check).StableIn keys := by
  intro root value out hread hlookup _
  change lookup out key = value at hlookup
  unfold FieldRule.present
  dsimp only
  rw [hlookup]
  rcases FieldRule.present_read hread with rfl | ⟨v, w, hw, rfl⟩
  · rfl
  · simp only [(h _ _ hw).1, map_some_ok]

theorem FieldRule.nullable_read {root : List (String × Json)} {value : Option Json}
    (h : (FieldRule.nullable key check).read root = .ok value) :
    value = some .null ∨ ∃ v w, check v = .ok w ∧ value = some w := by
  unfold FieldRule.nullable at h
  dsimp only at h
  split at h
  · exact .inl (Except.ok.inj h).symm
  · exact .inl (Except.ok.inj h).symm
  · obtain ⟨w, hw, rfl⟩ := map_some_eq_ok.mp h
    exact .inr ⟨_, w, hw, rfl⟩

theorem FieldRule.nullable_stable (h : check.Stable) :
    (FieldRule.nullable key check).StableIn keys := by
  intro root value out hread hlookup _
  change lookup out key = value at hlookup
  unfold FieldRule.nullable
  dsimp only
  rw [hlookup]
  rcases FieldRule.nullable_read hread with rfl | ⟨v, w, hw, rfl⟩
  · rfl
  · obtain ⟨hsame, hnull⟩ := h _ _ hw
    cases w with
    | null => exact absurd rfl hnull
    | _ => simp only [hsame, map_some_ok]

/-! What a rule reads of a value that is given as it is. -/

variable {accepts : Json → Prop} {root : List (String × Json)} {value : Option Json}

theorem FieldRule.required_get (h : check.Tests accepts)
    (hread : (FieldRule.required key check).read root = .ok value) :
    ∃ v, value = some v ∧ (lookup root key).getD .null = v ∧ accepts v := by
  obtain ⟨w, hw, rfl⟩ := map_some_eq_ok.mp hread
  obtain ⟨rfl, haccepts⟩ := (h _ _).mp hw
  exact ⟨_, rfl, rfl, haccepts⟩

theorem FieldRule.defaulted_get (h : check.Tests accepts)
    (hread : (FieldRule.defaulted key default check).read root = .ok value) :
    ∃ v, value = some v ∧ (lookup root key).getD default = v ∧ accepts v := by
  obtain ⟨w, hw, rfl⟩ := map_some_eq_ok.mp hread
  obtain ⟨rfl, haccepts⟩ := (h _ _).mp hw
  exact ⟨_, rfl, rfl, haccepts⟩

end Rules

/-! ## Contracts -/

section Contracts

variable {rules : List (FieldRule ε)} {root out : List (String × Json)}

/-- What a rule has read stands under its key and under no other. -/
theorem lookup_field (key other : String) (value : Option Json) :
    lookup (value.toList.map fun value => (key, value)) other =
      if key = other then value else none := by
  cases value with
  | none => simp
  | some value => simp

/-- The fields of the first rule come before those of the others. -/
theorem normalize_cons {rule : FieldRule ε} (h : normalize (rule :: rules) root = .ok out) :
    ∃ value rest, rule.read root = .ok value ∧ normalize rules root = .ok rest ∧
      out = value.toList.map (fun value => (rule.key, value)) ++ rest := by
  obtain ⟨all, hall, hout⟩ := bind_eq_ok.mp h
  rw [List.mapM_cons] at hall
  obtain ⟨fields, hfields, hall⟩ := bind_eq_ok.mp hall
  obtain ⟨rest, hrest, hall⟩ := bind_eq_ok.mp hall
  obtain rfl := Except.ok.inj hall
  obtain rfl := Except.ok.inj hout
  obtain ⟨value, hread, hfields⟩ := bind_eq_ok.mp hfields
  obtain rfl := Except.ok.inj hfields
  exact ⟨value, rest.flatten, hread, bind_eq_ok.mpr ⟨rest, hrest, rfl⟩, rfl⟩

/-- Under the key of a rule stands what the rule has read, and no other field is there. -/
theorem normalize_lookup (hkeys : (rules.map FieldRule.key).Nodup)
    (h : normalize rules root = .ok out) :
    (∀ rule ∈ rules, ∃ value, rule.read root = .ok value ∧ lookup out rule.key = value) ∧
      ∀ key ∉ rules.map FieldRule.key, lookup out key = none := by
  induction rules generalizing out with
  | nil =>
    cases h
    simp
  | cons rule rules ih =>
    obtain ⟨hnotin, hkeys⟩ := List.nodup_cons.mp hkeys
    obtain ⟨value, rest, hread, hrest, rfl⟩ := normalize_cons h
    obtain ⟨hrules, hothers⟩ := ih hkeys hrest
    constructor
    · intro other hother
      rcases List.mem_cons.mp hother with rfl | hother
      · refine ⟨value, hread, ?_⟩
        rw [lookup_append_eq, lookup_field, if_pos rfl, hothers _ hnotin, Option.or_none]
      · obtain ⟨found, hfound, hvalue⟩ := hrules other hother
        have hne : rule.key ≠ other.key := fun heq =>
          hnotin (heq ▸ List.mem_map_of_mem hother)
        refine ⟨found, hfound, ?_⟩
        rw [lookup_append_eq, lookup_field, if_neg hne, Option.none_or, hvalue]
    · intro key hkey
      rw [List.map_cons, List.mem_cons, not_or] at hkey
      rw [lookup_append_eq, lookup_field, if_neg (Ne.symm hkey.1), hothers key hkey.2,
        Option.or_none]

/-- The keys are those of the rules. -/
theorem normalize_keys (hkeys : (rules.map FieldRule.key).Nodup)
    (h : normalize rules root = .ok out) : ∀ field ∈ out, field.1 ∈ rules.map FieldRule.key := by
  intro field hfield
  by_contra hnot
  exact lookup_eq_none.mp ((normalize_lookup hkeys h).2 _ hnot) field hfield rfl

/-- A contract with stable rules gives its own object again. -/
theorem normalize_stable (hkeys : (rules.map FieldRule.key).Nodup)
    (hstable : ∀ rule ∈ rules, rule.StableIn (rules.map FieldRule.key))
    (h : normalize rules root = .ok out) : normalize rules out = .ok out := by
  obtain ⟨hrules, hothers⟩ := normalize_lookup hkeys h
  have hsame : rules.mapM (fun rule => rule.field out) = rules.mapM fun rule => rule.field root := by
    refine Fallible.mapM_congr fun rule hrule => ?_
    obtain ⟨value, hread, hvalue⟩ := hrules rule hrule
    rw [FieldRule.field, FieldRule.field, hread,
      hstable rule hrule root value out hread hvalue hothers]
  rw [normalize, hsame]
  exact h

end Contracts

end Json

import Wbcz.Lib.Json

/-!
# Redaction of JSON values

A policy hides the values of some keys wherever they stand. Other keys it hides only in objects
that tell, by a text under one of their keys, that something secret follows, and in what such
objects contain. What is hidden is replaced by one text.

## Main results

* `Redaction.Policy.redact_eq_of_alike` — what is hidden has no influence on the result
* `Redaction.Policy.alike_redact` — a value differs from its redaction only where the policy hides
* `Redaction.Policy.redact_redact` — a redaction stays as it is
* `Redaction.Policy.redact_eq_iff` — the results are equal exactly when the values are alike
-/

namespace Redaction

/-- What is hidden. The keys that tell are hidden nowhere. -/
structure Policy where
  /-- the keys that are hidden wherever they stand -/
  secret : String → Bool
  /-- the keys that are hidden where something secret was told of -/
  associated : String → Bool
  /-- the keys whose texts tell of it -/
  telling : String → Bool
  /-- the texts that tell of it -/
  names : String → Bool
  placeholder : Json
  visible : ∀ key, telling key = true → secret key = false ∧ associated key = false

namespace Policy

variable (p : Policy)

/-- An object tells that something secret follows. -/
def tells (fields : List (String × Json)) : Bool :=
  fields.any fun field => p.telling field.1 && field.2.str?.any p.names

/-- The value of a key is hidden. -/
def hides (told : Bool) (key : String) : Bool := p.secret key || told && p.associated key

mutual

/-- Replace what is hidden. -/
def redact (told : Bool) : Json → Json
  | .arr items => .arr (redactItems told items)
  | .obj fields => .obj (redactFields (told || p.tells fields) fields)
  | value => value

def redactItems (told : Bool) : List Json → List Json
  | [] => []
  | item :: items => redact told item :: redactItems told items

def redactFields (told : Bool) : List (String × Json) → List (String × Json)
  | [] => []
  | (key, value) :: fields =>
    (key, if p.hides told key then p.placeholder else redact told value) ::
      redactFields told fields

end

mutual

/-- Two values differ only where the policy hides. -/
inductive Alike : Bool → Json → Json → Prop
  | same {told : Bool} (value : Json) : Alike told value value
  | arr {told : Bool} {items others : List Json} (h : AlikeItems told items others) :
    Alike told (.arr items) (.arr others)
  | obj {told : Bool} {fields others : List (String × Json)}
    (h : AlikeFields (told || p.tells fields) fields others) :
    Alike told (.obj fields) (.obj others)

inductive AlikeItems : Bool → List Json → List Json → Prop
  | nil {told : Bool} : AlikeItems told [] []
  | cons {told : Bool} {item other : Json} {items others : List Json} (h : Alike told item other)
    (hrest : AlikeItems told items others) : AlikeItems told (item :: items) (other :: others)

inductive AlikeFields : Bool → List (String × Json) → List (String × Json) → Prop
  | nil {told : Bool} : AlikeFields told [] []
  | hidden {told : Bool} {key : String} {value other : Json} {fields others : List (String × Json)}
    (h : p.hides told key = true) (hrest : AlikeFields told fields others) :
    AlikeFields told ((key, value) :: fields) ((key, other) :: others)
  | shown {told : Bool} {key : String} {value other : Json} {fields others : List (String × Json)}
    (h : Alike told value other) (hrest : AlikeFields told fields others) :
    AlikeFields told ((key, value) :: fields) ((key, other) :: others)

end

variable {p} {told : Bool} {value other : Json}

@[simp] theorem redact_arr (items : List Json) :
    p.redact told (.arr items) = .arr (p.redactItems told items) := by rw [redact]

@[simp] theorem redact_obj (fields : List (String × Json)) :
    p.redact told (.obj fields) = .obj (p.redactFields (told || p.tells fields) fields) := by
  rw [redact]

theorem hides_eq_false_of_telling {key : String} (h : p.telling key = true) :
    p.hides told key = false := by
  obtain ⟨hsecret, hassociated⟩ := p.visible key h
  simp [hides, hsecret, hassociated]

/-! ## What is hidden has no influence -/

theorem Alike.str?_eq (h : p.Alike told value other) : value.str? = other.str? := by
  cases h with
  | same => rfl
  | arr => rfl
  | obj => rfl

/-- Whether an object tells is seen where nothing is hidden. -/
theorem AlikeFields.tells_eq {told : Bool} {fields others : List (String × Json)}
    (h : p.AlikeFields told fields others) : p.tells fields = p.tells others := by
  match h with
  | .nil => rfl
  | .hidden hhides hrest =>
    rename_i key _ _ _ _
    have hsilent : p.telling key = false := by
      by_contra htelling
      rw [hides_eq_false_of_telling (by simpa using htelling)] at hhides
      cases hhides
    have ih := hrest.tells_eq
    simp only [tells, List.any_cons, hsilent, Bool.false_and, Bool.false_or] at ih ⊢
    exact ih
  | .shown hvalue hrest =>
    have ih := hrest.tells_eq
    simp only [tells, List.any_cons, hvalue.str?_eq] at ih ⊢
    rw [ih]

theorem AlikeItems.length_eq {told : Bool} {items others : List Json}
    (h : p.AlikeItems told items others) : items.length = others.length := by
  match h with
  | .nil => rfl
  | .cons _ hrest => rw [List.length_cons, List.length_cons, hrest.length_eq]

theorem AlikeFields.keys_eq {told : Bool} {fields others : List (String × Json)}
    (h : p.AlikeFields told fields others) : fields.map Prod.fst = others.map Prod.fst := by
  match h with
  | .nil => rfl
  | .hidden _ hrest => rw [List.map_cons, List.map_cons, hrest.keys_eq]
  | .shown _ hrest => rw [List.map_cons, List.map_cons, hrest.keys_eq]

theorem AlikeFields.length_eq {told : Bool} {fields others : List (String × Json)}
    (h : p.AlikeFields told fields others) : fields.length = others.length := by
  simpa using congrArg List.length h.keys_eq

mutual

theorem Alike.redact_eq {told : Bool} {value other : Json} :
    p.Alike told value other → p.redact told value = p.redact told other
  | .same _ => rfl
  | .arr h => by rw [redact_arr, redact_arr, h.redact_eq]
  | .obj h => by rw [redact_obj, redact_obj, ← h.tells_eq, h.redact_eq]

theorem AlikeItems.redact_eq {told : Bool} {items others : List Json} :
    p.AlikeItems told items others → p.redactItems told items = p.redactItems told others
  | .nil => rfl
  | .cons h hrest => by rw [redactItems, redactItems, h.redact_eq, hrest.redact_eq]

theorem AlikeFields.redact_eq {told : Bool} {fields others : List (String × Json)} :
    p.AlikeFields told fields others → p.redactFields told fields = p.redactFields told others
  | .nil => rfl
  | .hidden h hrest => by rw [redactFields, redactFields, if_pos h, if_pos h, hrest.redact_eq]
  | .shown h hrest => by rw [redactFields, redactFields, h.redact_eq, hrest.redact_eq]

end

/-- What is hidden has no influence on the result. -/
theorem redact_eq_of_alike (h : p.Alike told value other) :
    p.redact told value = p.redact told other := h.redact_eq

/-! ## What is not hidden stays -/

mutual

/-- A value differs from its redaction only where the policy hides. -/
theorem alike_redact (told : Bool) : ∀ value : Json, p.Alike told value (p.redact told value)
  | .arr items => by
    rw [redact_arr]
    exact .arr (alike_redactItems told items)
  | .obj fields => by
    rw [redact_obj]
    exact .obj (alike_redactFields (told || p.tells fields) fields)
  | .null | .bool _ | .int _ | .float _ | .str _ => by
    simp only [redact]
    exact .same _

theorem alike_redactItems (told : Bool) :
    ∀ items : List Json, p.AlikeItems told items (p.redactItems told items)
  | [] => .nil
  | item :: items => .cons (alike_redact told item) (alike_redactItems told items)

theorem alike_redactFields (told : Bool) :
    ∀ fields : List (String × Json), p.AlikeFields told fields (p.redactFields told fields)
  | [] => .nil
  | (key, value) :: fields => by
    rw [redactFields]
    by_cases h : p.hides told key = true
    · rw [if_pos h]
      exact .hidden h (alike_redactFields told fields)
    · rw [if_neg h]
      exact .shown (alike_redact told value) (alike_redactFields told fields)

end

/-- A redaction stays as it is. -/
theorem redact_redact (told : Bool) (value : Json) :
    p.redact told (p.redact told value) = p.redact told value :=
  (redact_eq_of_alike (alike_redact told value)).symm

/-- The keys of an object stay. -/
theorem keys_redactFields (told : Bool) (fields : List (String × Json)) :
    (p.redactFields told fields).map Prod.fst = fields.map Prod.fst := by
  induction fields with
  | nil => rfl
  | cons field fields ih =>
    obtain ⟨key, value⟩ := field
    rw [redactFields, List.map_cons, List.map_cons, ih]

/-! ## Alike values -/

mutual

theorem Alike.symm {told : Bool} {value other : Json} :
    p.Alike told value other → p.Alike told other value
  | .same value => .same value
  | .arr h => .arr h.symm
  | .obj h => by
    have hsymm := h.symm
    rw [h.tells_eq] at hsymm
    exact .obj hsymm

theorem AlikeItems.symm {told : Bool} {items others : List Json} :
    p.AlikeItems told items others → p.AlikeItems told others items
  | .nil => .nil
  | .cons h hrest => .cons h.symm hrest.symm

theorem AlikeFields.symm {told : Bool} {fields others : List (String × Json)} :
    p.AlikeFields told fields others → p.AlikeFields told others fields
  | .nil => .nil
  | .hidden h hrest => .hidden h hrest.symm
  | .shown h hrest => .shown h.symm hrest.symm

end

mutual

theorem Alike.trans {told : Bool} {value other third : Json} :
    p.Alike told value other → p.Alike told other third → p.Alike told value third
  | .same _, h => h
  | h, .same _ => h
  | .arr h, .arr h' => .arr (h.trans h')
  | .obj h, .obj h' => by
    rw [← h.tells_eq] at h'
    exact .obj (h.trans h')

theorem AlikeItems.trans {told : Bool} {items others thirds : List Json} :
    p.AlikeItems told items others → p.AlikeItems told others thirds →
      p.AlikeItems told items thirds
  | .nil, .nil => .nil
  | .cons h hrest, .cons h' hrest' => .cons (h.trans h') (hrest.trans hrest')

theorem AlikeFields.trans {told : Bool} {fields others thirds : List (String × Json)} :
    p.AlikeFields told fields others → p.AlikeFields told others thirds →
      p.AlikeFields told fields thirds
  | .nil, .nil => .nil
  | .hidden h hrest, .hidden _ hrest' => .hidden h (hrest.trans hrest')
  | .hidden h hrest, .shown _ hrest' => .hidden h (hrest.trans hrest')
  | .shown _ hrest, .hidden h' hrest' => .hidden h' (hrest.trans hrest')
  | .shown h hrest, .shown h' hrest' => .shown (h.trans h') (hrest.trans hrest')

end

/-- The results are equal exactly when the values are alike. -/
theorem redact_eq_iff :
    p.redact told value = p.redact told other ↔ p.Alike told value other := by
  constructor
  · intro h
    have hother := (alike_redact (p := p) told other).symm
    rw [← h] at hother
    exact (alike_redact told value).trans hother
  · exact redact_eq_of_alike

end Policy

end Redaction

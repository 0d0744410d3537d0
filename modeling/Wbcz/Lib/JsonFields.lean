import Wbcz.Lib.Json

/-!
# Fields of objects

What `set` and `merge` leave under a key. The order of the fields of an object says nothing, so two
lists of fields are one object when they have the same value under each key.
-/

namespace Json

variable {fields others more : List (String × Json)} {key : String} {value : Json}

@[simp] theorem lookup_nil (key : String) : lookup [] key = none := rfl

@[simp] theorem lookup_cons (field : String × Json) (fields : List (String × Json)) (key : String) :
    lookup (field :: fields) key = if field.1 = key then some field.2 else lookup fields key := by
  by_cases h : field.1 = key
  · simp [lookup, h]
  · simp [lookup, h]

theorem lookup_eq_none : lookup fields key = none ↔ ∀ field ∈ fields, field.1 ≠ key := by
  simp [lookup]

theorem lookup_append_of_none (h : lookup fields key = none) (more : List (String × Json)) :
    lookup (fields ++ more) key = lookup more key := by
  induction fields with
  | nil => rfl
  | cons field fields ih =>
    rw [lookup_cons] at h
    rw [List.cons_append, lookup_cons]
    split at h
    · cases h
    · rename_i hne
      rw [if_neg hne, ih h]

theorem lookup_append_of_some (h : lookup fields key = some value) (more : List (String × Json)) :
    lookup (fields ++ more) key = some value := by
  induction fields with
  | nil => cases h
  | cons field fields ih =>
    rw [lookup_cons] at h
    rw [List.cons_append, lookup_cons]
    split at h
    · rename_i heq
      rw [if_pos heq, h]
    · rename_i hne
      rw [if_neg hne, ih h]

/-- A field stands among the fields of one of two parts. -/
theorem lookup_append_eq (fields more : List (String × Json)) (key : String) :
    lookup (fields ++ more) key = (lookup fields key).or (lookup more key) := by
  cases h : lookup fields key with
  | none => rw [lookup_append_of_none h, Option.none_or]
  | some value => rw [lookup_append_of_some h, Option.some_or]

/-- A value that takes the place of another one under its key. -/
theorem lookup_replace (fields : List (String × Json)) (key other : String) (value : Json) :
    lookup (fields.map fun field => if field.1 = key then (key, value) else field) other =
      if other = key then (lookup fields key).map fun _ => value else lookup fields other := by
  induction fields with
  | nil => simp
  | cons field fields ih =>
    rw [List.map_cons, lookup_cons, ih, lookup_cons, lookup_cons]
    by_cases hfield : field.1 = key
    · by_cases hother : other = key
      · simp [hfield, hother]
      · simp [hfield, hother, Ne.symm hother]
    · by_cases hother : other = key
      · simp [hfield, hother]
      · simp [hfield, hother]

/-- A value stands under the key where it was set, and nothing else changes. -/
theorem lookup_set (fields : List (String × Json)) (key other : String) (value : Json) :
    lookup (set fields key value) other = if other = key then some value else lookup fields other := by
  unfold set
  cases hfound : lookup fields key with
  | some old =>
    rw [Option.isSome_some, if_pos rfl, lookup_replace, hfound]
    rfl
  | none =>
    rw [Option.isSome_none, if_neg Bool.false_ne_true]
    by_cases hother : other = key
    · rw [hother, lookup_append_of_none hfound, lookup_cons, if_pos rfl, if_pos rfl]
    · rw [if_neg hother]
      cases hold : lookup fields other with
      | some old => exact lookup_append_of_some hold _
      | none => rw [lookup_append_of_none hold, lookup_cons, if_neg (Ne.symm hother), lookup_nil]

/-- What is merged last stands under its key. -/
theorem lookup_merge (fields more : List (String × Json)) (key : String) :
    lookup (merge fields more) key = (lookup more.reverse key).or (lookup fields key) := by
  induction more generalizing fields with
  | nil => rfl
  | cons field more ih =>
    rw [merge, List.foldl_cons, ← merge, ih, List.reverse_cons, lookup_set]
    cases hfound : lookup more.reverse key with
    | some value => rw [lookup_append_of_some hfound, Option.some_or, Option.some_or]
    | none =>
      rw [lookup_append_of_none hfound, lookup_cons, lookup_nil, Option.none_or]
      by_cases h : field.1 = key
      · rw [if_pos h.symm, if_pos h, Option.some_or]
      · rw [if_neg (Ne.symm h), if_neg h, Option.none_or]

/-- Nothing changes under a key that is not merged. -/
theorem lookup_merge_of_none (h : lookup more key = none) (fields : List (String × Json)) :
    lookup (merge fields more) key = lookup fields key := by
  have hreverse : lookup more.reverse key = none := by
    rw [lookup_eq_none] at h ⊢
    exact fun field hfield => h field (List.mem_reverse.mp hfield)
  rw [lookup_merge, hreverse, Option.none_or]

/-- The same value under each key. -/
def SameFields (fields others : List (String × Json)) : Prop :=
  ∀ key, lookup fields key = lookup others key

theorem SameFields.merge (h : SameFields fields others) (more : List (String × Json)) :
    SameFields (merge fields more) (merge others more) := fun key => by
  rw [lookup_merge, lookup_merge, h key]

end Json

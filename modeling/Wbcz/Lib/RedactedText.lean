import Wbcz.Lib.CanonicalJson
import Wbcz.Lib.Redaction

/-!
# The canonical text of a redaction

The text of a redacted value tells nothing but the value up to the order of its fields and up to
what is hidden.
-/

namespace Redaction.Policy

open Json

variable {p : Policy}

theorem redactFields_eq_map (told : Bool) (fields : List (String × Json)) :
    p.redactFields told fields = fields.map fun field =>
      (field.1, if p.hides told field.1 then p.placeholder else p.redact told field.2) := by
  induction fields with
  | nil => rfl
  | cons field fields ih =>
    obtain ⟨key, value⟩ := field
    rw [redactFields, ih, List.map_cons]

theorem str?_ordered (value : Json) : (ordered value).str? = value.str? := by
  cases value <;> rfl

/-- An object tells the same in any order. -/
theorem tells_ordered (fields : List (String × Json)) :
    p.tells (orderFields (orderedFields fields)) = p.tells fields := by
  have hany : ∀ fields : List (String × Json), p.tells (orderedFields fields) = p.tells fields := by
    intro fields
    rw [orderedFields_eq_map, tells, tells, List.any_map]
    simp only [Function.comp_def, str?_ordered]
  rw [← hany fields, Bool.eq_iff_iff]
  simp only [tells, List.any_eq_true, mem_orderFields]

mutual

/-- Redaction does not look at the order of fields. -/
theorem ordered_redact (hplaceholder : ordered p.placeholder = p.placeholder) (told : Bool) :
    ∀ value : Json, ordered (p.redact told value) = p.redact told (ordered value)
  | .arr items => by
    rw [redact_arr, ordered, ordered, redact_arr, orderedItems_redact hplaceholder told items]
  | .obj fields => by
    rw [redact_obj, ordered, ordered, redact_obj, tells_ordered,
      orderedFields_redact hplaceholder _ fields, redactFields_eq_map, redactFields_eq_map]
    rw [orderFields_map fun key value =>
      if p.hides (told || p.tells fields) key then p.placeholder
      else p.redact (told || p.tells fields) value]
  | .null | .bool _ | .int _ | .float _ | .str _ => by
    simp only [redact, ordered]

theorem orderedItems_redact (hplaceholder : ordered p.placeholder = p.placeholder) (told : Bool) :
    ∀ items : List Json, orderedItems (p.redactItems told items) =
      p.redactItems told (orderedItems items)
  | [] => rfl
  | item :: items => by
    rw [redactItems, orderedItems, orderedItems, redactItems,
      ordered_redact hplaceholder told item, orderedItems_redact hplaceholder told items]

theorem orderedFields_redact (hplaceholder : ordered p.placeholder = p.placeholder) (told : Bool) :
    ∀ fields : List (String × Json), orderedFields (p.redactFields told fields) =
      p.redactFields told (orderedFields fields)
  | [] => rfl
  | (key, value) :: fields => by
    rw [redactFields, orderedFields, orderedFields, redactFields,
      orderedFields_redact hplaceholder told fields]
    split_ifs
    · rw [hplaceholder]
    · rw [ordered_redact hplaceholder told value]

end

mutual

theorem floatTexts_redact (hplaceholder : FloatTexts p.placeholder) (told : Bool) :
    ∀ value : Json, FloatTexts value → FloatTexts (p.redact told value)
  | .arr items, h => by
    rw [redact_arr]
    exact floatTextsItems_redact hplaceholder told items h
  | .obj fields, h => by
    rw [redact_obj]
    exact floatTextsFields_redact hplaceholder _ fields h
  | .null, h | .bool _, h | .int _, h | .float _, h | .str _, h => by
    simpa only [redact] using h

theorem floatTextsItems_redact (hplaceholder : FloatTexts p.placeholder) (told : Bool) :
    ∀ items : List Json, FloatTextsItems items → FloatTextsItems (p.redactItems told items)
  | [], h => h
  | item :: items, h =>
    ⟨floatTexts_redact hplaceholder told item h.1, floatTextsItems_redact hplaceholder told items h.2⟩

theorem floatTextsFields_redact (hplaceholder : FloatTexts p.placeholder) (told : Bool) :
    ∀ fields : List (String × Json), FloatTextsFields fields →
      FloatTextsFields (p.redactFields told fields)
  | [], h => h
  | (key, value) :: fields, h => by
    rw [redactFields]
    refine ⟨?_, floatTextsFields_redact hplaceholder told fields h.2⟩
    split_ifs
    · exact hplaceholder
    · exact floatTexts_redact hplaceholder told value h.1

end

/-- Two redactions are one in order exactly when the values are alike in order. -/
theorem ordered_redact_eq_iff (hplaceholder : ordered p.placeholder = p.placeholder) {told : Bool}
    {value other : Json} :
    ordered (p.redact told value) = ordered (p.redact told other) ↔
      p.Alike told (ordered value) (ordered other) := by
  rw [ordered_redact hplaceholder, ordered_redact hplaceholder, redact_eq_iff]

/-- Two redactions have one text exactly when the values are alike, up to the order of fields. -/
theorem canonical_redact_eq_iff (hordered : ordered p.placeholder = p.placeholder)
    (hfloats : FloatTexts p.placeholder) {told : Bool} {value other : Json}
    (hvalue : FloatTexts value) (hother : FloatTexts other) :
    canonical (p.redact told value) = canonical (p.redact told other) ↔
      p.Alike told (ordered value) (ordered other) := by
  rw [canonical_eq_iff (floatTexts_redact hfloats told value hvalue)
    (floatTexts_redact hfloats told other hother), ordered_redact_eq_iff hordered]

end Redaction.Policy

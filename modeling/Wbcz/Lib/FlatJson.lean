import Wbcz.Lib.Jcs

/-!
# Flat objects

Objects whose values are texts, truth values and `null`. Their canonical text determines their
fields in order.
-/

namespace Json

/-- A text, a truth value or `null`. -/
inductive IsScalar : Json → Prop where
  | null : IsScalar null
  | bool (b : Bool) : IsScalar (bool b)
  | str (s : String) : IsScalar (str s)

theorem isScalar_ofText? (text : Option String) : (ofText? text).IsScalar := by
  cases text with
  | none => exact .null
  | some s => exact .str s

/-- Insert a field before the first field whose key is greater. -/
def insertValue (field : String × Json) : List (String × Json) → List (String × Json)
  | [] => [field]
  | other :: rest =>
    if keyLe field.1.toList other.1.toList then field :: other :: rest
    else other :: insertValue field rest

/-- Fields in the order of their keys. -/
def orderFields (fields : List (String × Json)) : List (String × Json) :=
  fields.foldr insertValue []

variable {fields others : List (String × Json)} {value : Json}

/-- A key with the canonical text of its value. -/
def rendered (field : String × Json) : String × String := (field.1, canonical field.2)

theorem insertField_rendered (field : String × Json) (fields : List (String × Json)) :
    insertField (rendered field) (fields.map rendered) =
      (insertValue field fields).map rendered := by
  induction fields with
  | nil => rfl
  | cons other rest ih =>
    rw [insertValue, List.map_cons, insertField, ih]
    by_cases hle : keyLe field.1.toList other.1.toList = true
    · rw [if_pos hle]
      exact if_pos hle
    · rw [if_neg hle]
      exact if_neg hle

theorem sortFields_rendered (fields : List (String × Json)) :
    sortFields (canonicalFields fields) = (orderFields fields).map rendered := by
  induction fields with
  | nil => rfl
  | cons field fields ih =>
    rw [canonicalFields]
    change insertField (rendered field) (sortFields (canonicalFields fields)) = _
    rw [ih, insertField_rendered]
    rfl

theorem mem_insertValue {field other : String × Json} :
    other ∈ insertValue field fields ↔ other = field ∨ other ∈ fields := by
  induction fields with
  | nil => simp [insertValue]
  | cons first rest ih =>
    rw [insertValue]
    split
    · exact List.mem_cons
    · rw [List.mem_cons, ih, List.mem_cons]
      tauto

theorem mem_orderFields {field : String × Json} : field ∈ orderFields fields ↔ field ∈ fields := by
  induction fields with
  | nil => rfl
  | cons first rest ih =>
    rw [List.mem_cons, ← ih]
    exact mem_insertValue

/-- The two texts of a scalar are one. -/
theorem toList_canonical_scalar (h : value.IsScalar) :
    (canonical value).toList = Jcs.render value := by
  cases h with
  | null => rfl
  | bool b => cases b <;> rfl
  | str s => rw [canonical, quote, String.toList_ofList, Jcs.render]

/-- A rendered field. -/
def fieldText (field : String × Json) : String := quote field.1 ++ ":" ++ canonical field.2

theorem toList_fieldText {field : String × Json} (h : field.2.IsScalar) (rest : List Char) :
    (fieldText field).toList ++ rest = '"' :: (field.1.toList.flatMap escapeChar ++
      '"' :: ':' :: (Jcs.render field.2 ++ rest)) := by
  simp [fieldText, quote, toList_canonical_scalar h]

/-- The fields between commas. -/
theorem toList_intercalate (separator : List Char) (hscalar : ∀ field ∈ fields, field.2.IsScalar)
    (hne : fields ≠ []) :
    separator ++ ((",".intercalate (fields.map fieldText)).toList ++ ['\x7d']) =
      Jcs.renderFields separator fields := by
  induction fields generalizing separator with
  | nil => exact absurd rfl hne
  | cons field rest ih =>
    have hfield := hscalar field List.mem_cons_self
    cases rest with
    | nil =>
      rw [List.map_cons, List.map_nil, String.intercalate_singleton, toList_fieldText hfield]
      rfl
    | cons other rest =>
      have hrest := ih [','] (fun f hf => hscalar f (List.mem_cons_of_mem _ hf))
        (List.cons_ne_nil _ _)
      rw [List.map_cons, List.map_cons, String.intercalate_cons_cons, String.toList_append,
        String.toList_append, List.append_assoc, List.append_assoc, toList_fieldText hfield]
      rw [← List.map_cons (f := fieldText)]
      rw [Jcs.renderFields]
      exact congrArg (fun text => separator ++ '"' :: (field.1.toList.flatMap escapeChar ++
        '"' :: ':' :: (Jcs.render field.2 ++ text))) hrest

theorem toList_canonical_obj (hscalar : ∀ field ∈ fields, field.2.IsScalar) :
    (canonical (.obj fields)).toList = Jcs.render (.obj (orderFields fields)) := by
  have hordered : ∀ field ∈ orderFields fields, field.2.IsScalar := fun field hfield =>
    hscalar field (mem_orderFields.mp hfield)
  have hmap : (sortFields (canonicalFields fields)).map (fun field =>
      quote field.1 ++ ":" ++ field.2) = (orderFields fields).map fieldText := by
    rw [sortFields_rendered, List.map_map]
    rfl
  rw [canonical, hmap, Jcs.render]
  by_cases hne : orderFields fields = []
  · rw [hne]
    rfl
  · rw [String.toList_append, String.toList_append, List.append_assoc]
    exact congrArg ('\x7b' :: ·) (toList_intercalate [] hordered hne)

theorem check_scalar (h : value.IsScalar) : Jcs.check value = .ok () := by
  cases h <;> rfl

theorem check_obj (hscalar : ∀ field ∈ fields, field.2.IsScalar) :
    Jcs.check (.obj fields) = .ok () := by
  rw [Jcs.check]
  exact Jcs.checkFields_eq_ok.mpr fun field hfield => check_scalar (hscalar field hfield)

theorem textual_scalar (h : value.IsScalar) : Jcs.textual value = value := by
  cases h <;> rfl

theorem textualFields_scalar (hscalar : ∀ field ∈ fields, field.2.IsScalar) :
    Jcs.textualFields fields = fields := by
  rw [Jcs.textualFields_eq_map]
  refine List.map_congr_left (g := id) ?_ |>.trans (List.map_id _)
  intro field hfield
  exact Prod.ext rfl (textual_scalar (hscalar field hfield))

/-- One canonical text, one list of fields in order. -/
theorem canonical_obj_injective (hfields : ∀ field ∈ fields, field.2.IsScalar)
    (hothers : ∀ field ∈ others, field.2.IsScalar)
    (h : canonical (.obj fields) = canonical (.obj others)) :
    orderFields fields = orderFields others := by
  have hordered : ∀ field ∈ orderFields fields, field.2.IsScalar := fun field hfield =>
    hfields field (mem_orderFields.mp hfield)
  have hordered' : ∀ field ∈ orderFields others, field.2.IsScalar := fun field hfield =>
    hothers field (mem_orderFields.mp hfield)
  have htext := congrArg String.toList h
  rw [toList_canonical_obj hfields, toList_canonical_obj hothers] at htext
  have hvalue := Jcs.render_injective (check_obj hordered) (check_obj hordered')
    htext
  rw [Jcs.textual, Jcs.textual, textualFields_scalar hordered,
    textualFields_scalar hordered'] at hvalue
  exact Json.obj.inj hvalue

end Json

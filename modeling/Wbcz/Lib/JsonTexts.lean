import Wbcz.Lib.JsonFields

/-!
# The texts in a JSON value

The texts that stand under the keys of objects, at any depth, and how what holds of all of them
comes from the parts of a value.
-/

namespace Json

/-- The text that stands under a key itself. -/
def ownText (key : String) : Json → List (String × String)
  | str text => [(key, text)]
  | _ => []

mutual

/-- The keys of a value with the texts under them. -/
def texts : Json → List (String × String)
  | arr items => textsAll items
  | obj fields => fieldTexts fields
  | _ => []

def textsAll : List Json → List (String × String)
  | [] => []
  | item :: rest => texts item ++ textsAll rest

def fieldTexts : List (String × Json) → List (String × String)
  | [] => []
  | (key, value) :: rest => ownText key value ++ texts value ++ fieldTexts rest

end

theorem texts_str (text : String) : texts (str text) = [] := by
  simp [texts]

theorem ownText_arr (key : String) (items : List Json) : ownText key (arr items) = [] := rfl

theorem fieldTexts_append (fields more : List (String × Json)) :
    fieldTexts (fields ++ more) = fieldTexts fields ++ fieldTexts more := by
  induction fields with
  | nil => simp [fieldTexts]
  | cons field fields ih =>
    obtain ⟨key, value⟩ := field
    simp only [List.cons_append, fieldTexts, ih, List.append_assoc]

theorem texts_objects (wires : List (List (String × Json))) :
    texts (arr (wires.map obj)) = wires.flatMap fieldTexts := by
  rw [texts]
  induction wires with
  | nil => rfl
  | cons wire wires ih => rw [List.map_cons, textsAll, texts, ih, List.flatMap_cons]

theorem texts_strings (values : List String) : texts (arr (values.map str)) = [] := by
  rw [texts]
  induction values with
  | nil => rfl
  | cons value values ih => rw [List.map_cons, textsAll, texts_str, ih, List.append_nil]

/-- Fields that are appended have keys that were not there. -/
theorem merge_of_disjoint {fields more : List (String × Json)}
    (hnew : ∀ field ∈ more, ∀ other ∈ fields, other.1 ≠ field.1)
    (hnodup : (more.map Prod.fst).Nodup) : merge fields more = fields ++ more := by
  induction more generalizing fields with
  | nil => rw [merge, List.foldl_nil, List.append_nil]
  | cons field more ih =>
    obtain ⟨hfield, hmore⟩ := List.forall_mem_cons.mp hnew
    obtain ⟨hfresh, hnodup⟩ := List.nodup_cons.mp hnodup
    have hset : set fields field.1 field.2 = fields ++ [field] := by
      rw [set, lookup_eq_none.mpr hfield, Option.isSome_none, if_neg (by simp)]
    have hrest : merge (fields ++ [field]) more = fields ++ [field] ++ more := by
      refine ih (fun other hother first hfirst => ?_) hnodup
      rcases List.mem_append.mp hfirst with hmem | hmem
      · exact hmore other hother first hmem
      · rw [List.mem_singleton.mp hmem]
        intro heq
        exact hfresh (List.mem_map.mpr ⟨other, hother, heq.symm⟩)
    rw [merge, List.foldl_cons, hset]
    change merge (fields ++ [field]) more = _
    rw [hrest, List.append_assoc, List.singleton_append]

/-! ## What the texts tell -/

section Tells

variable {good : String → String → Prop} {plain : String → Prop} {key text other : String}
  {fields more : List (String × Json)} {given others : List String}

/-- The texts under the keys of an object are good exactly when the given texts are plain. -/
def Tells (good : String → String → Prop) (plain : String → Prop) (fields : List (String × Json))
    (given : List String) : Prop :=
  (∀ field ∈ fieldTexts fields, good field.1 field.2) ↔ ∀ text ∈ given, plain text

theorem Tells.nil : Tells good plain [] [] := by
  simp [Tells, fieldTexts]

theorem Tells.append (h : Tells good plain fields given) (hmore : Tells good plain more others) :
    Tells good plain (fields ++ more) (given ++ others) := by
  rw [Tells, fieldTexts_append, List.forall_mem_append, List.forall_mem_append]
  exact and_congr h hmore

/-- A text that is good when a given one is plain. -/
theorem Tells.cons_given (hkey : good key text ↔ plain other) (h : Tells good plain fields given) :
    Tells good plain ((key, str text) :: fields) (other :: given) := by
  rw [Tells, fieldTexts, texts_str, ownText, List.append_nil, List.singleton_append,
    List.forall_mem_cons, List.forall_mem_cons]
  exact and_congr hkey h

/-- A text that is good anyway. -/
theorem Tells.cons_free (hkey : good key text) (h : Tells good plain fields given) :
    Tells good plain ((key, str text) :: fields) given := by
  rw [Tells, fieldTexts, texts_str, ownText, List.append_nil, List.singleton_append,
    List.forall_mem_cons, and_iff_right hkey]
  exact h

/-- A value without texts. -/
theorem Tells.cons_silent {value : Json} (hown : ownText key value = []) (htexts : texts value = [])
    (h : Tells good plain fields given) : Tells good plain ((key, value) :: fields) given := by
  rw [Tells, fieldTexts, hown, htexts, List.append_nil, List.nil_append]
  exact h

/-- Objects in a list. -/
theorem Tells.cons_objects {α : Type} {items : List α} {wire : α → List (String × Json)}
    {spoken : α → List String} (hitems : ∀ item ∈ items, Tells good plain (wire item) (spoken item))
    (h : Tells good plain fields given) :
    Tells good plain ((key, arr ((items.map wire).map obj)) :: fields)
      (items.flatMap spoken ++ given) := by
  have hall : (∀ field ∈ items.flatMap fun item => fieldTexts (wire item), good field.1 field.2) ↔
      ∀ text ∈ items.flatMap spoken, plain text := by
    simp only [List.mem_flatMap, forall_exists_index, and_imp]
    constructor
    · intro hgood text item hitem htext
      exact (hitems item hitem).mp (fun field hfield => hgood field item hitem hfield) text htext
    · intro hplain field item hitem hfield
      exact (hitems item hitem).mpr (fun text htext => hplain text item hitem htext) field hfield
  rw [Tells, fieldTexts, texts_objects, List.flatMap_map, ownText_arr, List.nil_append,
    List.forall_mem_append, List.forall_mem_append]
  exact and_congr hall h

/-- Objects in a list, none of which has a given text. -/
theorem Tells.cons_objects_free {α : Type} {items : List α} {wire : α → List (String × Json)}
    (hitems : ∀ item ∈ items, Tells good plain (wire item) []) (h : Tells good plain fields given) :
    Tells good plain ((key, arr ((items.map wire).map obj)) :: fields) given := by
  have hgiven : items.flatMap (fun _ => ([] : List String)) ++ given = given := by simp
  rw [← hgiven]
  exact .cons_objects hitems h

end Tells

end Json

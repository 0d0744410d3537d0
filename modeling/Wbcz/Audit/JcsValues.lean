import Wbcz.Audit.Sanitizer
import Wbcz.Lib.Fallible
import Wbcz.Lib.JcsLaws

/-!
# Canonical texts of Python values

`jcs_dumps` of `wbcz_web/services/audit_history.py`, on the values of Python: a list and a tuple are
one array of JSON, a key may be no string, and a value may be of a type that has no text. A string
is one without surrogates, so `_reject_surrogates` lets it pass.
-/

namespace Wbcz.Audit

open Fallible (bind_eq_ok)

/-- A key of a mapping. -/
inductive PyKey where
  | str (s : String)
  | other (text : String)
  deriving DecidableEq, Repr

/-- A value of Python. -/
inductive PyValue where
  | none
  | bool (b : Bool)
  | int (i : ℤ)
  | float (text : String)
  | str (s : String)
  | list (items : List PyValue)
  | tuple (items : List PyValue)
  | mapping (fields : List (PyKey × PyValue))
  | other (typeName : String)

/-- `json.dumps(s, ensure_ascii=False)`. -/
def dumpsStr (s : String) : List Char := '"' :: (s.toList.flatMap Json.escapeChar ++ ['"'])

/-- The keys of a mapping, which have to be strings. -/
def jcsKeys {β : Type} (fields : List (PyKey × β)) : Except PyError (List (String × β)) :=
  fields.mapM fun field =>
    match field.1 with
    | .str key => .ok (key, field.2)
    | .other _ => .error (auditSanitizationError "JCS object keys must be strings")

/-- A field with its text. -/
def jcsField (item : String × Except PyError (List Char)) : Except PyError (List Char) := do
  let text ← item.2
  pure (dumpsStr item.1 ++ ':' :: text)

mutual

/-- `_jcs_value`. -/
def jcsValue : PyValue → Except PyError (List Char)
  | .none => .ok ['n', 'u', 'l', 'l']
  | .bool true => .ok ['t', 'r', 'u', 'e']
  | .bool false => .ok ['f', 'a', 'l', 's', 'e']
  | .str s => .ok (dumpsStr s)
  | .int i =>
    if i.natAbs > Jcs.safeIntegerMax.natAbs then
      .error (auditSanitizationError "unsafe JSON integer must be encoded as string")
    else .ok (Jcs.intText i)
  | .float text =>
    match Jcs.floatText text with
    | some text => .ok text
    | .none => .error (auditSanitizationError "NaN/Infinity are forbidden")
  | .list items => do
    let texts ← jcsItems items
    pure ('[' :: ([','].intercalate texts ++ [']']))
  | .tuple items => do
    let texts ← jcsItems items
    pure ('[' :: ([','].intercalate texts ++ [']']))
  | .mapping fields => do
    let items ← jcsKeys (jcsFields fields)
    let texts ← (items.insertionSort fun a b => Jcs.keyLe a.1 b.1 = true).mapM jcsField
    pure ('\x7b' :: ([','].intercalate texts ++ ['\x7d']))
  | .other _ => .error (auditSanitizationError "unsupported JCS value type")

/-- The texts of the items of a list, of which the first that has none is raised. -/
def jcsItems : List PyValue → Except PyError (List (List Char))
  | [] => pure []
  | item :: items => do
    let text ← jcsValue item
    let texts ← jcsItems items
    pure (text :: texts)

/-- The fields with what their values give; nothing is raised before the fields are in order. -/
def jcsFields : List (PyKey × PyValue) → List (PyKey × Except PyError (List Char))
  | [] => []
  | (key, value) :: fields => (key, jcsValue value) :: jcsFields fields

end

/-- `jcs_dumps`. -/
def jcsDumps (value : PyValue) : Except PyError String := (jcsValue value).map String.ofList

mutual

/-- The JSON value that a value of Python is. -/
def PyValue.json? : PyValue → Option Json
  | .none => some .null
  | .bool b => some (.bool b)
  | .int i => some (.int i)
  | .float text => some (.float text)
  | .str s => some (.str s)
  | .list items => (jsonItems? items).map .arr
  | .tuple items => (jsonItems? items).map .arr
  | .mapping fields => (jsonFields? fields).map .obj
  | .other _ => Option.none

def PyValue.jsonItems? : List PyValue → Option (List Json)
  | [] => some []
  | item :: items => do
    let item ← item.json?
    let items ← jsonItems? items
    pure (item :: items)

def PyValue.jsonFields? : List (PyKey × PyValue) → Option (List (String × Json))
  | [] => some []
  | (.str key, value) :: fields => do
    let value ← value.json?
    let fields ← jsonFields? fields
    pure ((key, value) :: fields)
  | (.other _, _) :: _ => Option.none

end

/-- The value is a JSON value without floats and unsafe integers; no object has a key twice. -/
structure PyValue.Stands (value : PyValue) (json : Json) : Prop where
  isJson : value.json? = some json
  distinct : Jcs.DistinctKeys json
  floatFree : Jcs.floatFree json = true
  safe : Jcs.SafeIntegers json

/-! ## The text of a JSON value -/

/-- The canonical text of a JSON value, or why it has none. -/
def canonicalText (json : Json) : Except PyError (List Char) := do
  (Jcs.check (Jcs.sorted json)).mapError auditSanitizationError
  pure (Jcs.render (Jcs.sorted json))

theorem renderItems_eq (items : List Json) :
    Jcs.renderItems [] items = [','].intercalate (items.map Jcs.render) ++ [']'] := by
  cases items with
  | nil => rfl
  | cons item items =>
    induction items generalizing item with
    | nil => simp [Jcs.renderItems, List.intercalate]
    | cons next items ih =>
      have hrest := ih next
      simp only [Jcs.renderItems, List.nil_append] at hrest
      simp only [Jcs.renderItems, List.nil_append, hrest]
      simp [List.intercalate]

/-- A field as it is written. -/
def fieldText (field : String × Json) : List Char := dumpsStr field.1 ++ ':' :: Jcs.render field.2

theorem renderFields_eq (fields : List (String × Json)) :
    Jcs.renderFields [] fields = [','].intercalate (fields.map fieldText) ++ ['\x7d'] := by
  cases fields with
  | nil => rfl
  | cons field fields =>
    induction fields generalizing field with
    | nil => simp [Jcs.renderFields, List.intercalate, fieldText, dumpsStr]
    | cons next fields ih =>
      have hrest := ih next
      simp only [Jcs.renderFields, List.nil_append] at hrest
      simp only [Jcs.renderFields, List.nil_append, List.cons_append, hrest]
      simp [List.intercalate, fieldText, dumpsStr]

theorem ok_bind {α β : Type} (a : α) (f : α → Except PyError β) : (.ok a >>= f) = f a := rfl

/-- A sequence of texts, or the reason of the first that there is not. -/
theorem canonicalText_cons {check rest : Except String Unit} {text : List Char}
    {texts : List (List Char)} :
    (do
      let first ← (do check.mapError auditSanitizationError; pure text : Except PyError _)
      let others ← (do rest.mapError auditSanitizationError; pure texts : Except PyError _)
      pure (first :: others)) =
    (do
      (do check; rest).mapError auditSanitizationError
      pure (text :: texts) : Except PyError (List (List Char))) := by
  cases check with
  | error e => rfl
  | ok u => cases rest <;> rfl

/-- The fields of an object in order, each with what its value gives. -/
theorem mapM_jcsField (fields : List (String × Json)) :
    (fields.map fun field => (field.1, canonicalText field.2)).mapM jcsField =
      (do
        (Jcs.checkFields (fields.map fun field => (field.1, Jcs.sorted field.2))).mapError
          auditSanitizationError
        pure ((fields.map fun field => (field.1, Jcs.sorted field.2)).map fieldText)) := by
  induction fields with
  | nil => rfl
  | cons field fields ih =>
    have hfield : jcsField (field.1, canonicalText field.2) =
        (do
          (Jcs.check (Jcs.sorted field.2)).mapError auditSanitizationError
          pure (fieldText (field.1, Jcs.sorted field.2))) := by
      rw [jcsField, canonicalText]
      cases Jcs.check (Jcs.sorted field.2) <;> rfl
    simp only [List.map_cons, List.mapM_cons, ih, hfield]
    exact canonicalText_cons

/-- The fields are put in order by their keys, whatever their values are. -/
theorem insertionSort_fields {β : Type} (f : Json → β) (fields : List (String × Json)) :
    (fields.map fun field => (field.1, f field.2)).insertionSort
        (fun a b => Jcs.keyLe a.1 b.1 = true) =
      (Jcs.sortFields fields).map fun field => (field.1, f field.2) := by
  symm
  apply List.map_insertionSort
  intro a _ b _
  exact Iff.rfl

mutual

/-- The text of a value of Python is the canonical text of the JSON value that it is. -/
theorem jcsValue_of_json : ∀ (value : PyValue) (json : Json), value.json? = some json →
    jcsValue value = canonicalText json
  | .none, _, h => by cases h; rfl
  | .bool true, _, h => by cases h; rfl
  | .bool false, _, h => by cases h; rfl
  | .str _, _, h => by cases h; rfl
  | .int i, _, h => by
    cases h
    rw [jcsValue, canonicalText, Jcs.sorted, Jcs.check]
    split <;> rfl
  | .float text, _, h => by
    cases h
    rw [jcsValue, canonicalText, Jcs.sorted, Jcs.check, Jcs.render]
    cases Jcs.floatText text <;> rfl
  | .list items, _, h => by
    obtain ⟨jsons, hitems, rfl⟩ := Option.map_eq_some_iff.mp h
    rw [jcsValue, jcsItems_of_json items jsons hitems, canonicalText, Jcs.sorted, Jcs.check,
      Jcs.render, renderItems_eq]
    cases Jcs.checkItems (Jcs.sortedItems jsons) <;> rfl
  | .tuple items, _, h => by
    obtain ⟨jsons, hitems, rfl⟩ := Option.map_eq_some_iff.mp h
    rw [jcsValue, jcsItems_of_json items jsons hitems, canonicalText, Jcs.sorted, Jcs.check,
      Jcs.render, renderItems_eq]
    cases Jcs.checkItems (Jcs.sortedItems jsons) <;> rfl
  | .mapping fields, _, h => by
    obtain ⟨jsons, hfields, rfl⟩ := Option.map_eq_some_iff.mp h
    have hsorted : Jcs.sortFields (Jcs.sortedFields jsons) =
        (Jcs.sortFields jsons).map fun field => (field.1, Jcs.sorted field.2) := by
      rw [Jcs.sortedFields_eq_map, ← insertionSort_fields]
      rfl
    rw [jcsValue, jcsKeys_of_json fields jsons hfields, ok_bind, insertionSort_fields, mapM_jcsField, canonicalText, Jcs.sorted, Jcs.check, Jcs.render,
      renderFields_eq, hsorted]
    cases Jcs.checkFields ((Jcs.sortFields jsons).map fun field => (field.1, Jcs.sorted field.2)) <;>
      rfl
  | .other _, _, h => by cases h

theorem jcsItems_of_json : ∀ (items : List PyValue) (jsons : List Json),
    PyValue.jsonItems? items = some jsons → jcsItems items =
      (do
        (Jcs.checkItems (Jcs.sortedItems jsons)).mapError auditSanitizationError
        pure ((Jcs.sortedItems jsons).map Jcs.render))
  | [], _, h => by cases h; rfl
  | item :: items, _, h => by
    simp only [PyValue.jsonItems?, Option.bind_eq_bind, Option.bind_eq_some_iff] at h
    obtain ⟨json, hitem, jsons, hitems, heq⟩ := h
    cases heq
    rw [jcsItems, jcsValue_of_json item json hitem, jcsItems_of_json items jsons hitems]
    exact canonicalText_cons

theorem jcsKeys_of_json : ∀ (fields : List (PyKey × PyValue)) (jsons : List (String × Json)),
    PyValue.jsonFields? fields = some jsons →
      jcsKeys (jcsFields fields) = .ok (jsons.map fun field => (field.1, canonicalText field.2))
  | [], _, h => by cases h; rfl
  | (.str key, value) :: fields, _, h => by
    simp only [PyValue.jsonFields?, Option.bind_eq_bind, Option.bind_eq_some_iff] at h
    obtain ⟨json, hvalue, jsons, hfields, heq⟩ := h
    cases heq
    have hrest := jcsKeys_of_json fields jsons hfields
    rw [jcsKeys] at hrest
    rw [jcsFields, jcsKeys, List.mapM_cons, hrest, jcsValue_of_json value json hvalue]
    rfl
  | (.other _, _) :: _, _, h => by cases h

end

/-- The text of a value of JSON without floats and unsafe integers. -/
theorem PyValue.Stands.dumps {value : PyValue} {json : Json} (h : value.Stands json) :
    jcsDumps value = .ok (String.ofList (Jcs.render (Jcs.sorted json))) := by
  rw [jcsDumps, jcsValue_of_json value json h.isJson, canonicalText,
    Jcs.check_sorted json h.floatFree h.safe]
  rfl

/-- For every two JSON values without floats, with integers that a double represents: `jcs_dumps`
gives one text exactly when the values are equal up to the order of keys, and the text is a JSON
text that reads as the value with its keys in order. -/
theorem jcs_dumps_canonical (value other : PyValue) (json json' : Json) (h : value.Stands json)
    (h' : other.Stands json') :
    (jcsDumps value = jcsDumps other ↔ Jcs.Same json json') ∧
      ∃ text read, jcsDumps value = .ok text ∧ JsonReader.read text = some read ∧
        Jcs.Same json read ∧ Jcs.KeysInOrder read := by
  have hfree : Jcs.floatFree (Jcs.sorted json) = true := (Jcs.floatFree_sorted json).trans h.floatFree
  have hfree' : Jcs.floatFree (Jcs.sorted json') = true :=
    (Jcs.floatFree_sorted json').trans h'.floatFree
  constructor
  · rw [← Jcs.sorted_eq_iff h.distinct, h.dumps, h'.dumps]
    constructor
    · intro htext
      -- both read as their sorted form
      have hread := Jcs.read_render hfree
      rw [Except.ok.inj htext, Jcs.read_render hfree'] at hread
      exact (Option.some.inj hread).symm
    · intro hsorted
      rw [hsorted]
  · exact ⟨_, _, h.dumps, Jcs.read_render hfree, Jcs.same_sorted json, Jcs.keysInOrder_sorted json⟩

/-- A tuple under a key beyond the basic plane, and a list under it in another order of keys. -/
theorem jcs_dumps_canonical_sample :
    (jcsDumps (.mapping [(.str "\ufb00", .bool true), (.str "😀", .tuple [.int 1, .none])]) =
        jcsDumps (.mapping [(.str "😀", .list [.int 1, .none]), (.str "\ufb00", .bool true)]) ↔
      Jcs.Same (.obj [("\ufb00", .bool true), ("😀", .arr [.int 1, .null])])
        (.obj [("😀", .arr [.int 1, .null]), ("\ufb00", .bool true)])) ∧
      ∃ text read,
        jcsDumps (.mapping [(.str "\ufb00", .bool true), (.str "😀", .tuple [.int 1, .none])]) =
          .ok text ∧
        JsonReader.read text = some read ∧
        Jcs.Same (.obj [("\ufb00", .bool true), ("😀", .arr [.int 1, .null])]) read ∧
        Jcs.KeysInOrder read :=
  jcs_dumps_canonical _ _ _ _ ⟨rfl, by simp [Jcs.DistinctKeys, Jcs.DistinctKeysFields,
      Jcs.DistinctKeysItems], rfl, by simp [Jcs.SafeIntegers, Jcs.SafeIntegersFields,
      Jcs.SafeIntegersItems, Jcs.safeIntegerMax]⟩
    ⟨rfl, by simp [Jcs.DistinctKeys, Jcs.DistinctKeysFields, Jcs.DistinctKeysItems], rfl,
      by simp [Jcs.SafeIntegers, Jcs.SafeIntegersFields, Jcs.SafeIntegersItems,
        Jcs.safeIntegerMax]⟩

example : jcsDumps (.mapping [(.str "\ufb00", .bool true), (.str "😀", .tuple [.int 1])]) =
    .ok "\x7b\"😀\":[1],\"\ufb00\":true\x7d" := by decide +kernel

end Wbcz.Audit

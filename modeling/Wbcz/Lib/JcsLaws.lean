import Mathlib.Data.List.Perm.Basic
import Wbcz.Lib.JsonReader

/-!
# Laws of canonical JSON texts

The canonical text of a value without floats is a JSON text, it reads as the value with its keys in
the order of their UTF-16 texts, and two values have one text exactly when they are equal up to the
order of their keys.
-/

namespace Jcs

/-! ## The order of keys -/

theorem unitsLe_total (us vs : List ℕ) : unitsLe us vs = true ∨ unitsLe vs us = true := by
  induction us generalizing vs with
  | nil => exact .inl rfl
  | cons u us ih =>
    cases vs with
    | nil => exact .inr rfl
    | cons v vs =>
      simp only [unitsLe, Bool.or_eq_true, Bool.and_eq_true, decide_eq_true_eq]
      rcases Nat.lt_trichotomy u v with hlt | rfl | hlt
      · exact .inl (.inl hlt)
      · exact (ih vs).imp (fun h => .inr ⟨rfl, h⟩) fun h => .inr ⟨rfl, h⟩
      · exact .inr (.inl hlt)

theorem unitsLe_trans {us vs ws : List ℕ} (h : unitsLe us vs = true) (h' : unitsLe vs ws = true) :
    unitsLe us ws = true := by
  induction us generalizing vs ws with
  | nil => rfl
  | cons u us ih =>
    cases vs with
    | nil => cases h
    | cons v vs =>
      cases ws with
      | nil => cases h'
      | cons w ws =>
        simp only [unitsLe, Bool.or_eq_true, Bool.and_eq_true, decide_eq_true_eq] at *
        rcases h with hlt | ⟨rfl, h⟩
        · rcases h' with hlt' | ⟨rfl, -⟩
          · exact .inl (hlt.trans hlt')
          · exact .inl hlt
        · exact h'.imp id fun ⟨heq, h'⟩ => ⟨heq, ih h h'⟩

theorem unitsLe_antisymm {us vs : List ℕ} (h : unitsLe us vs = true) (h' : unitsLe vs us = true) :
    us = vs := by
  induction us generalizing vs with
  | nil =>
    cases vs with
    | nil => rfl
    | cons v vs => cases h'
  | cons u us ih =>
    cases vs with
    | nil => cases h
    | cons v vs =>
      simp only [unitsLe, Bool.or_eq_true, Bool.and_eq_true, decide_eq_true_eq] at h h'
      have heq : u = v := by omega
      rw [heq, ih (by simpa [heq] using h) (by simpa [heq] using h')]

/-- A character is no surrogate. -/
theorem not_surrogate (c : Char) : c.toNat < 0xd800 ∨ 0xdfff < c.toNat ∧ c.toNat < 0x110000 :=
  c.valid

/-- The code units of a text tell its characters. -/
theorem utf16Units_injective {a b : List Char} (h : a.flatMap utf16Units = b.flatMap utf16Units) :
    a = b := by
  induction a generalizing b with
  | nil =>
    cases b with
    | nil => rfl
    | cons d b =>
      rw [List.flatMap_cons, List.flatMap_nil, utf16Units] at h
      split at h <;> cases h
  | cons c a ih =>
    cases b with
    | nil =>
      rw [List.flatMap_cons, List.flatMap_nil, utf16Units] at h
      split at h <;> cases h
    | cons d b =>
      have hc := not_surrogate c
      have hd := not_surrogate d
      rw [List.flatMap_cons, List.flatMap_cons, utf16Units, utf16Units] at h
      -- one unit or two: the first of two is a surrogate, and the only one is none
      split at h <;> split at h <;> simp only [List.cons_append, List.nil_append,
        List.cons.injEq] at h
      · rw [Char.toNat_inj.mp h.1, ih h.2]
      · omega
      · omega
      · have hcd : c.toNat = d.toNat := by omega
        rw [Char.toNat_inj.mp hcd, ih h.2.2]

theorem keyLe_total (a b : String) : keyLe a b = true ∨ keyLe b a = true := unitsLe_total _ _

theorem keyLe_trans {a b c : String} : keyLe a b = true → keyLe b c = true → keyLe a c = true :=
  unitsLe_trans

/-- Two keys of one rank are one key. -/
theorem keyLe_antisymm {a b : String} (h : keyLe a b = true) (h' : keyLe b a = true) : a = b :=
  String.toList_injective (utf16Units_injective (unitsLe_antisymm h h'))

/-- The order of fields. -/
def FieldLe (a b : String × Json) : Prop := keyLe a.1 b.1 = true

instance : DecidableRel FieldLe := fun a b => inferInstanceAs (Decidable (keyLe a.1 b.1 = true))

instance : Std.Total FieldLe := ⟨fun a b => keyLe_total a.1 b.1⟩

instance : IsTrans (String × Json) FieldLe := ⟨fun _ _ _ => keyLe_trans⟩

theorem pairwise_sortFields (fields : List (String × Json)) :
    (sortFields fields).Pairwise FieldLe :=
  List.pairwise_insertionSort FieldLe fields

/-- The sorted fields depend on the fields only, when their keys are distinct. -/
theorem sortFields_eq_of_perm {fields others : List (String × Json)} (h : fields.Perm others)
    (hkeys : (fields.map Prod.fst).Nodup) : sortFields fields = sortFields others := by
  have hperm : (sortFields fields).Perm (sortFields others) :=
    (sortFields_perm fields).trans (h.trans (sortFields_perm others).symm)
  refine hperm.eq_of_pairwise (fun a b ha hb hab hba => ?_)
    (pairwise_sortFields fields) (pairwise_sortFields others)
  have ha' := (sortFields_perm fields).mem_iff.mp ha
  have hb' := (h.trans (sortFields_perm others).symm).mem_iff.mpr hb
  exact List.inj_on_of_nodup_map hkeys ha' hb' (keyLe_antisymm hab hba)

/-! ## Equality up to the order of keys -/

mutual

/-- Equal up to the order of keys, at every level. -/
inductive Same : Json → Json → Prop
  | null : Same .null .null
  | bool (b : Bool) : Same (.bool b) (.bool b)
  | int (i : ℤ) : Same (.int i) (.int i)
  | float (text : String) : Same (.float text) (.float text)
  | str (s : String) : Same (.str s) (.str s)
  | arr {items others} : SameItems items others → Same (.arr items) (.arr others)
  | obj {fields others others'} : SameFields fields others' → others'.Perm others →
      Same (.obj fields) (.obj others)

inductive SameItems : List Json → List Json → Prop
  | nil : SameItems [] []
  | cons {item other items others} : Same item other → SameItems items others →
      SameItems (item :: items) (other :: others)

inductive SameFields : List (String × Json) → List (String × Json) → Prop
  | nil : SameFields [] []
  | cons {value other fields others} (key : String) : Same value other → SameFields fields others →
      SameFields ((key, value) :: fields) ((key, other) :: others)

end

mutual

/-- No object has a key twice. -/
def DistinctKeys : Json → Prop
  | .arr items => DistinctKeysItems items
  | .obj fields => (fields.map Prod.fst).Nodup ∧ DistinctKeysFields fields
  | .null | .bool _ | .int _ | .float _ | .str _ => True

def DistinctKeysItems : List Json → Prop
  | [] => True
  | item :: items => DistinctKeys item ∧ DistinctKeysItems items

def DistinctKeysFields : List (String × Json) → Prop
  | [] => True
  | (_, value) :: fields => DistinctKeys value ∧ DistinctKeysFields fields

end

/-- A list that is made of the images of another is the images of it in some order. -/
theorem exists_perm_of_map {α β : Type} {f : α → β} {ys : List β} {xs : List α}
    (h : ys.Perm (xs.map f)) : ∃ xs' : List α, ys = xs'.map f ∧ xs'.Perm xs := by
  have himages : List.Forall₂ (fun y x => y = f x) (xs.map f) xs := by
    induction xs generalizing ys with
    | nil => exact .nil
    | cons x xs ih => exact .cons rfl (ih (List.Perm.refl _))
  obtain ⟨xs', himages', hperm⟩ := List.perm_comp_forall₂ h himages
  refine ⟨xs', ?_, hperm⟩
  clear h hperm himages
  induction himages' with
  | nil => rfl
  | cons heq _ ih => rw [List.map_cons, heq, ih]

theorem map_fst_sortedFields (fields : List (String × Json)) :
    (sortedFields fields).map Prod.fst = fields.map Prod.fst := by
  rw [sortedFields_eq_map, List.map_map]
  rfl

mutual

/-- Values that are equal up to the order of keys have one sorted form. -/
theorem Same.sorted_eq : ∀ {v w : Json}, Same v w → DistinctKeys v → sorted v = sorted w
  | _, _, .null, _ => rfl
  | _, _, .bool _, _ => rfl
  | _, _, .int _, _ => rfl
  | _, _, .float _, _ => rfl
  | _, _, .str _, _ => rfl
  | _, _, .arr h, hv => congrArg Json.arr (h.sorted_eq hv)
  | .obj fields, .obj others, .obj h hperm, hv => by
    have hfields := h.sorted_eq hv.2
    have hperm' : (sortedFields fields).Perm (sortedFields others) := by
      rw [hfields, sortedFields_eq_map, sortedFields_eq_map]
      exact hperm.map _
    rw [sorted, sorted, sortFields_eq_of_perm hperm' (by rw [map_fst_sortedFields]; exact hv.1)]

theorem SameItems.sorted_eq : ∀ {items others : List Json}, SameItems items others →
    DistinctKeysItems items → sortedItems items = sortedItems others
  | _, _, .nil, _ => rfl
  | _, _, .cons h hitems, hv => by
    rw [sortedItems, sortedItems, h.sorted_eq hv.1, hitems.sorted_eq hv.2]

theorem SameFields.sorted_eq : ∀ {fields others : List (String × Json)}, SameFields fields others →
    DistinctKeysFields fields → sortedFields fields = sortedFields others
  | _, _, .nil, _ => rfl
  | _, _, .cons _ h hfields, hv => by
    rw [sortedFields, sortedFields, h.sorted_eq hv.1, hfields.sorted_eq hv.2]

end

mutual

/-- Values with one sorted form are equal up to the order of keys. -/
theorem same_of_sorted_eq : ∀ v w : Json, sorted v = sorted w → Same v w
  | .arr items, w, h => by
    cases w with
    | arr others => exact .arr (sameItems_of_sorted_eq items others (Json.arr.inj h))
    | _ => cases h
  | .obj fields, w, h => by
    cases w with
    | obj others =>
      have hperm : (sortedFields fields).Perm (sortedFields others) := by
        have hsort : sortFields (sortedFields fields) = sortFields (sortedFields others) :=
          Json.obj.inj h
        exact (sortFields_perm _).symm.trans (hsort ▸ sortFields_perm _)
      rw [sortedFields_eq_map others] at hperm
      -- the other fields, in the order of these
      obtain ⟨others', hothers, hperm'⟩ := exists_perm_of_map hperm
      rw [← sortedFields_eq_map] at hothers
      exact .obj (sameFields_of_sorted_eq fields others' hothers) hperm'
    | _ => cases h
  | .null, w, h => by cases w <;> first | exact .null | cases h
  | .bool _, w, h => by cases w <;> cases h; exact .bool _
  | .int _, w, h => by cases w <;> cases h; exact .int _
  | .float _, w, h => by cases w <;> cases h; exact .float _
  | .str _, w, h => by cases w <;> cases h; exact .str _

theorem sameItems_of_sorted_eq : ∀ items others : List Json,
    sortedItems items = sortedItems others → SameItems items others
  | [], others, h => by cases others <;> cases h; exact .nil
  | item :: items, others, h => by
    cases others with
    | nil => cases h
    | cons other others =>
      obtain ⟨hitem, hitems⟩ := List.cons.inj h
      exact .cons (same_of_sorted_eq item other hitem) (sameItems_of_sorted_eq items others hitems)

theorem sameFields_of_sorted_eq : ∀ fields others : List (String × Json),
    sortedFields fields = sortedFields others → SameFields fields others
  | [], others, h => by cases others <;> cases h; exact .nil
  | (key, value) :: fields, others, h => by
    cases others with
    | nil => cases h
    | cons other others =>
      obtain ⟨otherKey, otherValue⟩ := other
      obtain ⟨hfield, hfields⟩ := List.cons.inj h
      obtain ⟨rfl, hvalue⟩ := Prod.mk.inj hfield
      exact .cons key (same_of_sorted_eq value otherValue hvalue)
        (sameFields_of_sorted_eq fields others hfields)

end

mutual

/-- Putting the keys in order changes nothing else. -/
theorem same_sorted : ∀ v : Json, Same v (sorted v)
  | .arr items => .arr (sameItems_sorted items)
  | .obj fields => .obj (sameFields_sorted fields) (sortFields_perm _).symm
  | .null => .null
  | .bool b => .bool b
  | .int i => .int i
  | .float text => .float text
  | .str s => .str s

theorem sameItems_sorted : ∀ items : List Json, SameItems items (sortedItems items)
  | [] => .nil
  | item :: items => .cons (same_sorted item) (sameItems_sorted items)

theorem sameFields_sorted : ∀ fields : List (String × Json),
    SameFields fields (sortedFields fields)
  | [] => .nil
  | (key, value) :: fields => .cons key (same_sorted value) (sameFields_sorted fields)

end

theorem sorted_eq_iff {v w : Json} (hv : DistinctKeys v) : sorted v = sorted w ↔ Same v w :=
  ⟨same_of_sorted_eq v w, fun h => h.sorted_eq hv⟩

mutual

/-- The keys of every object are in order. -/
def KeysInOrder : Json → Prop
  | .arr items => KeysInOrderItems items
  | .obj fields => fields.Pairwise FieldLe ∧ KeysInOrderFields fields
  | .null | .bool _ | .int _ | .float _ | .str _ => True

def KeysInOrderItems : List Json → Prop
  | [] => True
  | item :: items => KeysInOrder item ∧ KeysInOrderItems items

def KeysInOrderFields : List (String × Json) → Prop
  | [] => True
  | (_, value) :: fields => KeysInOrder value ∧ KeysInOrderFields fields

end

theorem keysInOrderFields_iff (fields : List (String × Json)) :
    KeysInOrderFields fields ↔ ∀ field ∈ fields, KeysInOrder field.2 := by
  induction fields with
  | nil => simp [KeysInOrderFields]
  | cons field fields ih => rw [KeysInOrderFields, ih, List.forall_mem_cons]

mutual

theorem keysInOrder_sorted : ∀ v : Json, KeysInOrder (sorted v)
  | .arr items => keysInOrderItems_sorted items
  | .obj fields => by
    refine ⟨pairwise_sortFields _, (keysInOrderFields_iff _).mpr fun field hfield => ?_⟩
    have hmem := (sortFields_perm _).mem_iff.mp hfield
    exact (keysInOrderFields_iff _).mp (keysInOrderFields_sorted fields) field hmem
  | .null | .bool _ | .int _ | .float _ | .str _ => trivial

theorem keysInOrderItems_sorted : ∀ items : List Json, KeysInOrderItems (sortedItems items)
  | [] => trivial
  | item :: items => ⟨keysInOrder_sorted item, keysInOrderItems_sorted items⟩

theorem keysInOrderFields_sorted : ∀ fields : List (String × Json),
    KeysInOrderFields (sortedFields fields)
  | [] => trivial
  | (_, value) :: fields => ⟨keysInOrder_sorted value, keysInOrderFields_sorted fields⟩

end

/-! ## Values that have a text -/

mutual

/-- Every integer is one that a double represents. -/
def SafeIntegers : Json → Prop
  | .int i => i.natAbs ≤ safeIntegerMax.natAbs
  | .arr items => SafeIntegersItems items
  | .obj fields => SafeIntegersFields fields
  | .null | .bool _ | .float _ | .str _ => True

def SafeIntegersItems : List Json → Prop
  | [] => True
  | item :: items => SafeIntegers item ∧ SafeIntegersItems items

def SafeIntegersFields : List (String × Json) → Prop
  | [] => True
  | (_, value) :: fields => SafeIntegers value ∧ SafeIntegersFields fields

end

mutual

/-- A value without floats and unsafe integers has a text. -/
theorem check_sorted : ∀ v : Json, floatFree v = true → SafeIntegers v → check (sorted v) = .ok ()
  | .int i, _, hv => if_neg (not_lt.mpr hv)
  | .arr items, hfree, hv => checkItems_sorted items hfree hv
  | .obj fields, hfree, hv => check_sorted_obj.mpr (checkFields_sorted fields hfree hv)
  | .float _, hfree, _ => by cases hfree
  | .null, _, _ | .bool _, _, _ | .str _, _, _ => rfl

theorem checkItems_sorted : ∀ items : List Json, floatFreeItems items = true →
    SafeIntegersItems items → checkItems (sortedItems items) = .ok ()
  | [], _, _ => rfl
  | item :: items, hfree, hv => by
    rw [floatFreeItems, Bool.and_eq_true] at hfree
    rw [sortedItems, checkItems, check_sorted item hfree.1 hv.1]
    exact checkItems_sorted items hfree.2 hv.2

theorem checkFields_sorted : ∀ fields : List (String × Json), floatFreeFields fields = true →
    SafeIntegersFields fields → ∀ field ∈ fields, check (sorted field.2) = .ok ()
  | [], _, _ => by simp
  | (_, value) :: fields, hfree, hv => by
    rw [floatFreeFields, Bool.and_eq_true] at hfree
    exact List.forall_mem_cons.mpr
      ⟨check_sorted value hfree.1 hv.1, checkFields_sorted fields hfree.2 hv.2⟩

end

/-! ## Reading what was written -/

open JsonReader
open JsonText (skipBlanks)

/-- A character that is no blank. -/
def isToken (c : Char) : Bool := !(c = ' ' || c = '\t' || c = '\n' || c = '\r')

theorem skipBlanks_cons {c : Char} (hc : isToken c = true) (cs : List Char) :
    skipBlanks (c :: cs) = c :: cs := by
  rw [JsonText.skipBlanks, if_neg]
  simpa [isToken, and_assoc] using hc

/-- An integer begins with its sign or with a digit. -/
theorem intText_eq_cons (i : ℤ) :
    ∃ c cs, intText i = c :: cs ∧ (c = '-' ∨ JsonText.isDigit c = true) := by
  cases i with
  | ofNat n =>
    obtain ⟨c, cs, hcs⟩ := List.exists_cons_of_ne_nil (Nat.toDigits_ne_nil (n := n) (b := 10))
    exact ⟨c, cs, hcs, .inr (JsonReader.isDigit_toDigits (n := n) (hcs ▸ List.mem_cons_self))⟩
  | negSucc n => exact ⟨'-', _, rfl, .inl rfl⟩

theorem ne_of_isDigit {c d : Char} (h : c = '-' ∨ JsonText.isDigit c = true)
    (hd : (d = '-' || JsonText.isDigit d) = false) : c ≠ d := by
  rintro rfl
  rcases h with rfl | h
  · exact absurd hd (by decide)
  · simp [h] at hd

/-- A value begins with a character that closes nothing. -/
theorem render_head {v : Json} (hv : floatFree v = true) :
    ∃ c cs, render v = c :: cs ∧ isToken c = true ∧ c ≠ ']' := by
  cases v with
  | bool b => cases b <;> exact ⟨_, _, rfl, by decide, by decide⟩
  | int i =>
    obtain ⟨c, cs, hcs, hc⟩ := intText_eq_cons i
    refine ⟨c, cs, hcs, ?_, ne_of_isDigit hc (by decide)⟩
    have hblank : ∀ d ∈ [' ', '\t', '\n', '\r'], c ≠ d := by
      intro d hd
      refine ne_of_isDigit hc ?_
      simp only [List.mem_cons, List.not_mem_nil, or_false] at hd
      rcases hd with rfl | rfl | rfl | rfl <;> rfl
    simp at hblank
    simp [isToken, hblank]
  | float text => cases hv
  | _ => exact ⟨_, _, rfl, by decide, by decide⟩

theorem ends_items (items : List Json) (rest : List Char) :
    Ends (renderItems [','] items ++ rest) := by
  cases items <;> rintro c ⟨⟩ <;> simp

theorem ends_fields (fields : List (String × Json)) (rest : List Char) :
    Ends (renderFields [','] fields ++ rest) := by
  cases fields <;> rintro c ⟨⟩ <;> simp

theorem length_render_pos {v : Json} (hv : floatFree v = true) : 0 < (render v).length := by
  obtain ⟨c, cs, hcs, -⟩ := render_head hv
  rw [hcs, List.length_cons]
  exact Nat.succ_pos _

mutual

/-- What was written is read, and what follows it is left. -/
theorem readValue_render : ∀ (v : Json) (fuel : ℕ) (rest : List Char),
    2 * (render v).length ≤ fuel → floatFree v = true → Ends rest →
    readValue fuel (render v ++ rest) = some (v, rest)
  | v, 0, _, hfuel, hv, _ => by
    have := length_render_pos hv
    omega
  | .null, fuel + 1, rest, _, _, _ => by
    simp [render, readValue, JsonText.skipBlanks, JsonText.skipText]
  | .bool true, fuel + 1, rest, _, _, _ => by
    simp [render, readValue, JsonText.skipBlanks, JsonText.skipText]
  | .bool false, fuel + 1, rest, _, _, _ => by
    simp [render, readValue, JsonText.skipBlanks, JsonText.skipText]
  | .int i, fuel + 1, rest, _, hv, hrest => by
    obtain ⟨c, cs, hcs, hc⟩ := intText_eq_cons i
    obtain ⟨d, ds, hds, htoken, -⟩ := render_head hv
    have hhead : c = d := (List.cons.inj (hcs.symm.trans hds)).1
    have hnumber := readNumber_intText i hrest
    rw [hcs, List.cons_append] at hnumber
    -- neither a sign nor a digit begins another value
    rw [render, hcs, List.cons_append, readValue, skipBlanks_cons (hhead ▸ htoken)]
    simp only [ne_of_isDigit hc (d := '"') (by decide), ne_of_isDigit hc (d := '[') (by decide),
      ne_of_isDigit hc (d := '\x7b') (by decide), ne_of_isDigit hc (d := 'n') (by decide),
      ne_of_isDigit hc (d := 't') (by decide), ne_of_isDigit hc (d := 'f') (by decide), if_false,
      hnumber]
  | .float _, _, _, _, hv, _ => by cases hv
  | .str s, fuel + 1, rest, _, _, _ => by
    rw [render, List.cons_append, List.append_assoc, List.singleton_append, readValue,
      skipBlanks_cons (by decide)]
    simp only [if_true, readString_escaped, Option.map_some, String.ofList_toList]
  | .arr [], fuel + 1, rest, _, _, _ => by
    simp [render, renderItems, readValue, JsonText.skipBlanks]
  | .arr (item :: items), fuel + 1, rest, hfuel, hv, _ => by
    rw [floatFree, floatFreeItems, Bool.and_eq_true] at hv
    obtain ⟨c, cs, hcs, htoken, hclose⟩ := render_head hv.1
    have hitems := readItems_render item items fuel rest (by
      simp only [render, renderItems, List.length_cons, List.length_append, List.length_nil]
        at hfuel
      omega) hv.1 hv.2
    have hhead : (skipBlanks (render item ++ (renderItems [','] items ++ rest))).head? ≠
        some ']' := by
      rw [hcs, List.cons_append, skipBlanks_cons htoken]
      simpa using hclose
    rw [render, renderItems, List.nil_append, List.cons_append, List.append_assoc, readValue,
      skipBlanks_cons (by decide)]
    simp only [if_neg hhead, hitems, Option.map_some, show ('[' : Char) ≠ '"' by decide, if_true,
      if_false]
  | .obj [], fuel + 1, rest, _, _, _ => by
    simp [render, renderFields, readValue, JsonText.skipBlanks]
  | .obj ((key, value) :: fields), fuel + 1, rest, hfuel, hv, _ => by
    rw [floatFree, floatFreeFields, Bool.and_eq_true] at hv
    have hfields := readFields_render key value fields fuel rest (by
      simp only [render, renderFields, List.length_cons, List.length_append, List.length_nil]
        at hfuel
      omega) hv.1 hv.2
    rw [render, renderFields, List.nil_append, List.cons_append, List.cons_append,
      List.append_assoc, readValue, skipBlanks_cons (by decide)]
    simp only [List.cons_append, List.append_assoc, skipBlanks_cons (c := '"') (by decide), show ('\x7b' : Char) ≠ '"' by decide, show ('\x7b' : Char) ≠ '[' by decide,
      List.head?_cons, Option.some.injEq, show ('"' : Char) ≠ '\x7d' by decide, if_true, if_false,
      hfields, Option.map_some]

theorem readItems_render : ∀ (item : Json) (items : List Json) (fuel : ℕ) (rest : List Char),
    2 * ((render item).length + (renderItems [','] items).length) ≤ fuel →
    floatFree item = true → floatFreeItems items = true →
    readItems fuel (render item ++ (renderItems [','] items ++ rest)) = some (item :: items, rest)
  | item, _, 0, _, hfuel, hitem, _ => by
    have := length_render_pos hitem
    omega
  | item, [], fuel + 1, rest, hfuel, hitem, _ => by
    have hvalue := readValue_render item fuel (renderItems [','] [] ++ rest) (by
      simp only [renderItems, List.length_singleton] at hfuel
      omega) hitem (ends_items [] rest)
    rw [readItems, hvalue]
    simp [renderItems, JsonText.skipBlanks]
  | item, next :: items, fuel + 1, rest, hfuel, hitem, hitems => by
    rw [floatFreeItems, Bool.and_eq_true] at hitems
    simp only [renderItems, List.length_append, List.length_singleton] at hfuel
    have hvalue := readValue_render item fuel (renderItems [','] (next :: items) ++ rest)
      (by omega) hitem (ends_items (next :: items) rest)
    have hrest := readItems_render next items fuel rest (by omega) hitems.1 hitems.2
    rw [readItems, hvalue]
    simp only [renderItems, List.cons_append, List.nil_append, List.append_assoc, hrest,
      skipBlanks_cons (c := ',') (by decide), List.head?_cons, List.tail_cons, if_true,
      Option.map_some]

theorem readFields_render : ∀ (key : String) (value : Json) (fields : List (String × Json))
    (fuel : ℕ) (rest : List Char),
    2 * ((render value).length + (renderFields [','] fields).length + 1) ≤ fuel →
    floatFree value = true → floatFreeFields fields = true →
    readFields fuel ('"' :: (key.toList.flatMap Json.escapeChar ++
      '"' :: ':' :: (render value ++ (renderFields [','] fields ++ rest)))) =
      some ((key, value) :: fields, rest)
  | _, _, _, 0, _, hfuel, _, _ => by omega
  | key, value, [], fuel + 1, rest, hfuel, hvalue, _ => by
    have hread := readValue_render value fuel (renderFields [','] [] ++ rest) (by
      simp only [renderFields, List.length_singleton] at hfuel
      omega) hvalue (ends_fields [] rest)
    rw [readFields, skipBlanks_cons (by decide)]
    simp only [List.head?_cons, ne_eq, not_true_eq_false, if_false, List.tail_cons,
      readString_escaped, skipBlanks_cons (c := ':') (by decide), hread]
    simp [renderFields, JsonText.skipBlanks]
  | key, value, (next, other) :: fields, fuel + 1, rest, hfuel, hvalue, hfields => by
    rw [floatFreeFields, Bool.and_eq_true] at hfields
    simp only [renderFields, List.length_append, List.length_cons] at hfuel
    have hread := readValue_render value fuel (renderFields [','] ((next, other) :: fields) ++ rest)
      (by omega) hvalue (ends_fields _ rest)
    have hrest := readFields_render next other fields fuel rest (by omega) hfields.1 hfields.2
    rw [readFields, skipBlanks_cons (by decide)]
    simp only [List.head?_cons, ne_eq, not_true_eq_false, if_false, List.tail_cons,
      readString_escaped, skipBlanks_cons (c := ':') (by decide), hread]
    simp only [renderFields, List.append_assoc, List.nil_append, List.cons_append,
      skipBlanks_cons (c := ',') (by decide), List.head?_cons, List.tail_cons, if_true, hrest,
      Option.map_some, String.ofList_toList]

end

/-- The canonical text of a value is a JSON text, and it reads as the sorted value. -/
theorem read_render {v : Json} (hv : floatFree v = true) :
    JsonReader.read (String.ofList (render v)) = some v := by
  have hread := readValue_render v (2 * (render v).length + 2) [] (by omega) hv fun c hc => by
    cases hc
  rw [List.append_nil] at hread
  rw [JsonReader.read, String.toList_ofList, hread]
  rfl

end Jcs

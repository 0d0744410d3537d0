import Wbcz.Lib.FlatJson

/-!
# One canonical text, one value

The canonical text of a value determines the value up to the order of fields. Floats are kept as
texts, so those have to be texts of floats: a float that reads as a word or as an integer would be
taken for it.
-/

namespace Json

/-! ## The text of an ordered value -/

mutual

/-- The value with the fields of every object in the order of their keys. -/
def ordered : Json → Json
  | arr items => arr (orderedItems items)
  | obj fields => obj (orderFields (orderedFields fields))
  | null => null
  | bool b => bool b
  | int i => int i
  | float raw => float raw
  | str s => str s

def orderedItems : List Json → List Json
  | [] => []
  | item :: items => ordered item :: orderedItems items

def orderedFields : List (String × Json) → List (String × Json)
  | [] => []
  | (key, value) :: fields => (key, ordered value) :: orderedFields fields

end

mutual

/-- The text of a value, fields as they stand. -/
def text : Json → List Char
  | null => ['n', 'u', 'l', 'l']
  | bool true => ['t', 'r', 'u', 'e']
  | bool false => ['f', 'a', 'l', 's', 'e']
  | int i => Jcs.intText i
  | float raw => raw.toList
  | str s => '"' :: (s.toList.flatMap escapeChar ++ ['"'])
  | arr items => '[' :: textItems [] items
  | obj fields => '\x7b' :: textFields [] fields

/-- The items of an array, each after its separator, and the closing bracket. -/
def textItems (separator : List Char) : List Json → List Char
  | [] => [']']
  | item :: items => separator ++ (text item ++ textItems [','] items)

/-- The fields of an object, each after its separator, and the closing brace. -/
def textFields (separator : List Char) : List (String × Json) → List Char
  | [] => ['\x7d']
  | (key, value) :: fields =>
    separator ++ '"' :: (key.toList.flatMap escapeChar ++
      '"' :: ':' :: (text value ++ textFields [','] fields))

end

theorem toList_toString (i : ℤ) : (toString i).toList = Jcs.intText i := by
  cases i with
  | ofNat n => simp [toString, Int.repr, Jcs.intText]
  | negSucc n => simp [toString, Int.repr, Jcs.intText]

/-- Texts between separators, and what closes them. -/
def joined (close : Char) (separator : List Char) : List String → List Char
  | [] => [close]
  | text :: texts => separator ++ (text.toList ++ joined close [','] texts)

theorem toList_intercalate_append (close : Char) (texts : List String) :
    (",".intercalate texts).toList ++ [close] = joined close [] texts := by
  have hmore : ∀ (text : String) (texts : List String), (",".intercalate (text :: texts)).toList ++
      [close] = text.toList ++ joined close [','] texts := by
    intro text texts
    induction texts generalizing text with
    | nil => rw [String.intercalate_singleton, joined]
    | cons other texts ih =>
      rw [String.intercalate_cons_cons, String.toList_append, String.toList_append,
        List.append_assoc, List.append_assoc, ih, joined]
      rfl
  cases texts with
  | nil => rfl
  | cons text texts =>
    rw [hmore, joined]
    rfl

theorem orderedFields_eq_map (fields : List (String × Json)) :
    orderedFields fields = fields.map fun field => (field.1, ordered field.2) := by
  induction fields with
  | nil => rfl
  | cons field fields ih => rw [orderedFields, ih, List.map_cons]

/-- The order of fields is that of their keys. -/
theorem orderFields_map (f : String → Json → Json) (fields : List (String × Json)) :
    orderFields (fields.map fun field => (field.1, f field.1 field.2)) =
      (orderFields fields).map fun field => (field.1, f field.1 field.2) := by
  have hinsert : ∀ (field : String × Json) (fields : List (String × Json)),
      insertValue (field.1, f field.1 field.2)
          (fields.map fun field => (field.1, f field.1 field.2)) =
        (insertValue field fields).map fun field => (field.1, f field.1 field.2) := by
    intro field fields
    induction fields with
    | nil => rfl
    | cons other fields ih =>
      rw [List.map_cons, insertValue, insertValue]
      split
      · rfl
      · rw [ih, List.map_cons]
  induction fields with
  | nil => rfl
  | cons field fields ih =>
    rw [List.map_cons]
    change insertValue _ (orderFields _) = (insertValue field (orderFields fields)).map _
    rw [ih, hinsert]

theorem textItems_eq_joined (separator : List Char) {items : List Json} {texts : List String}
    (h : texts.map String.toList = items.map text) :
    textItems separator items = joined ']' separator texts := by
  induction items generalizing separator texts with
  | nil =>
    rw [List.map_eq_nil_iff.mp h]
    rfl
  | cons item items ih =>
    obtain ⟨head, tail, rfl, hhead, htail⟩ := List.map_eq_cons_iff.mp h
    rw [textItems, joined, ih [','] htail, hhead]

theorem textFields_eq_joined (separator : List Char) {fields : List (String × Json)}
    {texts : List String}
    (h : texts.map String.toList = fields.map fun field =>
      '"' :: (field.1.toList.flatMap escapeChar ++ '"' :: ':' :: text field.2)) :
    textFields separator fields = joined '\x7d' separator texts := by
  induction fields generalizing separator texts with
  | nil =>
    rw [List.map_eq_nil_iff.mp h]
    rfl
  | cons field fields ih =>
    obtain ⟨head, tail, rfl, hhead, htail⟩ := List.map_eq_cons_iff.mp h
    rw [textFields, joined, ih [','] htail, hhead]
    simp

theorem toList_fieldTexts {fields : List (String × Json)}
    (h : ∀ field ∈ fields, (canonical field.2).toList = text (ordered field.2)) :
    ((orderFields fields).map fieldText).map String.toList =
      ((orderFields fields).map fun field => (field.1, ordered field.2)).map fun field =>
        '"' :: (field.1.toList.flatMap escapeChar ++ '"' :: ':' :: text field.2) := by
  rw [List.map_map, List.map_map]
  refine List.map_congr_left fun field hfield => ?_
  simp [fieldText, quote, h field (mem_orderFields.mp hfield)]

mutual

/-- The canonical text is that of the ordered value. -/
theorem toList_canonical : ∀ value : Json, (canonical value).toList = text (ordered value)
  | null => rfl
  | bool true => rfl
  | bool false => rfl
  | int i => by rw [canonical, toList_toString, ordered, text]
  | float raw => rfl
  | str s => by rw [canonical, quote, String.toList_ofList, ordered, text]
  | arr items => by
    rw [canonical, String.toList_append, String.toList_append, List.append_assoc, ordered, text,
      textItems_eq_joined [] (toList_canonicalItems items)]
    exact congrArg ('[' :: ·) (toList_intercalate_append ']' _)
  | obj fields => by
    rw [canonical, String.toList_append, String.toList_append, List.append_assoc, ordered, text,
      orderedFields_eq_map, orderFields_map fun _ => ordered, sortFields_rendered, List.map_map]
    rw [textFields_eq_joined [] (toList_fieldTexts (toList_canonicalFields fields))]
    exact congrArg ('\x7b' :: ·) (toList_intercalate_append '\x7d' _)

theorem toList_canonicalItems : ∀ items : List Json,
    (canonicalItems items).map String.toList = (orderedItems items).map text
  | [] => rfl
  | item :: items => by
    rw [canonicalItems, orderedItems, List.map_cons, List.map_cons, toList_canonical item,
      toList_canonicalItems items]

theorem toList_canonicalFields : ∀ (fields : List (String × Json)), ∀ field ∈ fields,
    (canonical field.2).toList = text (ordered field.2)
  | (key, value) :: fields, field, h => by
    cases h with
    | head => exact toList_canonical value
    | tail _ h => exact toList_canonicalFields fields field h

end

/-! ## No text is the beginning of another -/

/-- A character of a word or a number, which ends before any other. -/
def isTokenChar (c : Char) : Bool := !([',', ']', '\x7d', '"', '[', '\x7b'].contains c)

/-- The text of a float: neither a word nor an integer. -/
def isFloatText (raw : String) : Bool :=
  raw.toList.all isTokenChar && raw.toList.any (fun c => !(c.isDigit || c = '-')) &&
    !(["null", "true", "false"].contains raw)

mutual

/-- The floats of a value are texts of floats. -/
def FloatTexts : Json → Prop
  | float raw => isFloatText raw = true
  | arr items => FloatTextsItems items
  | obj fields => FloatTextsFields fields
  | _ => True

def FloatTextsItems : List Json → Prop
  | [] => True
  | item :: items => FloatTexts item ∧ FloatTextsItems items

def FloatTextsFields : List (String × Json) → Prop
  | [] => True
  | (_, value) :: fields => FloatTexts value ∧ FloatTextsFields fields

end

/-- The text does not go on with a character of a token. -/
def EndsToken (cs : List Char) : Prop := ∀ c, cs.head? = some c → isTokenChar c = false

theorem endsToken_cons {c : Char} (cs : List Char) (hc : isTokenChar c = false) :
    EndsToken (c :: cs) := by
  rintro d hd
  rw [List.head?_cons, Option.some.injEq] at hd
  rwa [← hd]

/-- Tokens end where something else begins. -/
theorem token_append_inj {t t' rest rest' : List Char} (ht : t.all isTokenChar = true)
    (ht' : t'.all isTokenChar = true) (hrest : EndsToken rest) (hrest' : EndsToken rest')
    (h : t ++ rest = t' ++ rest') : t = t' ∧ rest = rest' := by
  have htake : ∀ {t rest : List Char}, t.all isTokenChar = true → EndsToken rest →
      (t ++ rest).takeWhile isTokenChar = t := by
    intro t rest ht hrest
    rw [List.takeWhile_append_of_pos (fun c hc => List.all_eq_true.mp ht c hc)]
    cases rest with
    | nil => simp
    | cons c rest => rw [List.takeWhile_cons_of_neg (by simp [hrest c rfl]), List.append_nil]
  have heq : t = t' := by rw [← htake ht hrest, h, htake ht' hrest']
  subst heq
  exact ⟨rfl, List.append_cancel_left h⟩

/-- The text of a word or of a number. -/
def token? : Json → Option (List Char)
  | null => some ['n', 'u', 'l', 'l']
  | bool true => some ['t', 'r', 'u', 'e']
  | bool false => some ['f', 'a', 'l', 's', 'e']
  | int i => some (Jcs.intText i)
  | float raw => some raw.toList
  | _ => none

theorem intText_digits {i : ℤ} {c : Char} (hc : c ∈ Jcs.intText i) :
    c.isDigit = true ∨ c = '-' := by
  have hdigits : ∀ n : ℕ, c ∈ Nat.toDigits 10 n → c.isDigit = true := fun n hmem =>
    Nat.isDigit_of_mem_toDigits (by decide) (by decide) hmem
  cases i with
  | ofNat n => exact .inl (hdigits n hc)
  | negSucc n =>
    cases List.mem_cons.mp hc with
    | inl h => exact .inr h
    | inr h => exact .inl (hdigits _ h)

theorem isTokenChar_of_digit {c : Char} (h : c.isDigit = true ∨ c = '-') :
    isTokenChar c = true := by
  cases h with
  | inl h =>
    have hall : [',', ']', '\x7d', '"', '[', '\x7b'].all (fun c => !c.isDigit) = true := by decide
    by_contra hnot
    simp only [isTokenChar, Bool.not_eq_true, Bool.not_eq_false', List.contains_iff_mem] at hnot
    have hdigit := List.all_eq_true.mp hall c hnot
    simp [h] at hdigit
  | inr h =>
    rw [h]
    decide

theorem token_all {value : Json} {t : List Char} (hvalue : FloatTexts value)
    (h : token? value = some t) : t ≠ [] ∧ t.all isTokenChar = true := by
  cases value with
  | null => cases h; decide
  | bool b => cases b <;> cases h <;> decide
  | int i =>
    cases h
    refine ⟨(Jcs.isNumber_intText i).1, List.all_eq_true.mpr fun c hc => ?_⟩
    exact isTokenChar_of_digit (intText_digits hc)
  | float raw =>
    cases h
    simp only [FloatTexts, isFloatText, Bool.and_eq_true] at hvalue
    refine ⟨?_, hvalue.1.1⟩
    rintro hnil
    rw [hnil] at hvalue
    cases hvalue.1.2
  | str s => cases h
  | arr items => cases h
  | obj fields => cases h

theorem text_of_token {value : Json} {t : List Char} (h : token? value = some t) :
    text value = t := by
  cases value with
  | bool b => cases b <;> cases h <;> rfl
  | str s => cases h
  | arr items => cases h
  | obj fields => cases h
  | _ => cases h; rfl

/-- A float is not taken for an integer or a word. -/
theorem float_token_ne {raw : String} {value : Json} (hraw : isFloatText raw = true)
    (h : token? value = some raw.toList) : value = .float raw := by
  simp only [isFloatText, Bool.and_eq_true, List.any_eq_true, Bool.not_eq_true'] at hraw
  obtain ⟨⟨-, c, hc, hother⟩, hword⟩ := hraw
  have hne : ∀ word : String, ["null", "true", "false"].contains word = true →
      raw.toList ≠ word.toList := by
    intro word hcontains heq
    rw [String.toList_inj.mp heq, hcontains] at hword
    cases hword
  cases value with
  | null => exact absurd (Option.some.inj h).symm (hne "null" (by decide))
  | bool b =>
    cases b with
    | true => exact absurd (Option.some.inj h).symm (hne "true" (by decide))
    | false => exact absurd (Option.some.inj h).symm (hne "false" (by decide))
  | int i =>
    rw [← Option.some.inj h] at hc
    cases intText_digits hc with
    | inl hdigit => simp [hdigit] at hother
    | inr hminus => simp [hminus] at hother
  | float other => rw [String.toList_inj.mp (Option.some.inj h)]
  | str s => cases h
  | arr items => cases h
  | obj fields => cases h

/-- One token, one value. -/
theorem token_injective {value other : Json} {t : List Char} (hvalue : FloatTexts value)
    (hother : FloatTexts other) (h : token? value = some t) (h' : token? other = some t) :
    value = other := by
  have hint : ∀ (i : ℤ) (c : Char) (cs : List Char), !(c.isDigit || c = '-') →
      Jcs.intText i ≠ c :: cs := by
    intro i c cs hc heq
    have hmem := intText_digits (heq ▸ List.mem_cons_self : c ∈ Jcs.intText i)
    cases hmem with
    | inl hdigit => simp [hdigit] at hc
    | inr hminus => simp [hminus] at hc
  rw [← h'] at h
  cases value with
  | float raw => exact (float_token_ne hvalue h.symm).symm
  | null =>
    cases other with
    | null => rfl
    | bool b => cases b <;> cases h
    | int i => exact absurd (Option.some.inj h).symm (hint i 'n' _ (by decide))
    | float raw => exact float_token_ne hother h
    | _ => cases h
  | bool b =>
    cases other with
    | null => cases b <;> cases h
    | bool b' => cases b <;> cases b' <;> first | rfl | cases h
    | int i =>
      cases b with
      | true => exact absurd (Option.some.inj h).symm (hint i 't' _ (by decide))
      | false => exact absurd (Option.some.inj h).symm (hint i 'f' _ (by decide))
    | float raw => exact float_token_ne hother h
    | _ => cases b <;> cases h
  | int i =>
    cases other with
    | null => exact absurd (Option.some.inj h) (hint i 'n' _ (by decide))
    | bool b =>
      cases b with
      | true => exact absurd (Option.some.inj h) (hint i 't' _ (by decide))
      | false => exact absurd (Option.some.inj h) (hint i 'f' _ (by decide))
    | int j => rw [Jcs.intText_injective (Option.some.inj h)]
    | float raw => exact float_token_ne hother h
    | _ => cases h
  | str s => cases h.trans h'
  | arr items => cases h.trans h'
  | obj fields => cases h.trans h'

/-! ## One text, one value -/

/-- What is no token begins with a mark of its own. -/
theorem text_head {value : Json} (h : token? value = none) :
    ∃ c cs, text value = c :: cs ∧ isTokenChar c = false := by
  cases value with
  | str s => exact ⟨_, _, rfl, by decide⟩
  | arr items => exact ⟨_, _, rfl, by decide⟩
  | obj fields => exact ⟨_, _, rfl, by decide⟩
  | bool b => cases b <;> cases h
  | _ => cases h

/-- A token is the beginning of no other text. -/
theorem token_text_injective {value other : Json} {t rest rest' : List Char}
    (hvalue : FloatTexts value) (hother : FloatTexts other) (ht : token? value = some t)
    (hrest : EndsToken rest) (hrest' : EndsToken rest')
    (h : text value ++ rest = text other ++ rest') : value = other ∧ rest = rest' := by
  rw [text_of_token ht] at h
  obtain ⟨hne, hall⟩ := token_all hvalue ht
  cases hother' : token? other with
  | some t' =>
    rw [text_of_token hother'] at h
    obtain ⟨rfl, hrests⟩ := token_append_inj hall (token_all hother hother').2 hrest hrest' h
    exact ⟨token_injective hvalue hother ht hother', hrests⟩
  | none =>
    obtain ⟨c, cs, hcs, hc⟩ := text_head hother'
    obtain ⟨d, ds, rfl⟩ := List.exists_cons_of_ne_nil hne
    rw [hcs] at h
    have hd := List.all_eq_true.mp hall d List.mem_cons_self
    rw [(List.cons.inj h).1, hc] at hd
    cases hd

theorem escaped_append_inj {s t rest rest' : List Char}
    (h : s.flatMap escapeChar ++ '"' :: rest = t.flatMap escapeChar ++ '"' :: rest') :
    s = t ∧ rest = rest' := by
  have hs := Jcs.parseString_escaped s rest
  rw [h, Jcs.parseString_escaped t rest'] at hs
  exact ⟨(Prod.mk.inj (Option.some.inj hs)).1.symm, (Prod.mk.inj (Option.some.inj hs)).2.symm⟩

/-- No value begins with a closing mark or a comma. -/
theorem text_ne {value : Json} (hvalue : FloatTexts value) :
    ∃ c cs, text value = c :: cs ∧ c ≠ ',' ∧ c ≠ ']' := by
  cases htoken : token? value with
  | some t =>
    obtain ⟨hne, hall⟩ := token_all hvalue htoken
    obtain ⟨c, cs, rfl⟩ := List.exists_cons_of_ne_nil hne
    have hc := List.all_eq_true.mp hall c List.mem_cons_self
    refine ⟨c, cs, text_of_token htoken, ?_, ?_⟩ <;> rintro rfl <;> cases hc
  | none =>
    cases value with
    | str s => exact ⟨_, _, rfl, by decide, by decide⟩
    | arr items => exact ⟨_, _, rfl, by decide, by decide⟩
    | obj fields => exact ⟨_, _, rfl, by decide, by decide⟩
    | bool b => cases b <;> cases htoken
    | _ => cases htoken

theorem endsToken_textItems (items : List Json) (rest : List Char) :
    EndsToken (textItems [','] items ++ rest) := by
  cases items with
  | nil => exact endsToken_cons _ (by decide)
  | cons item items => exact endsToken_cons _ (by decide)

theorem endsToken_textFields (fields : List (String × Json)) (rest : List Char) :
    EndsToken (textFields [','] fields ++ rest) := by
  cases fields with
  | nil => exact endsToken_cons _ (by decide)
  | cons field fields => exact endsToken_cons _ (by decide)

/-- The separators before the first item and before the others. -/
def IsSeparator (separator : List Char) : Prop := separator = [] ∨ separator = [',']

theorem textItems_cons_head {separator : List Char} {item : Json} (items : List Json)
    (hseparator : IsSeparator separator) (hitem : FloatTexts item) :
    ∃ c cs, textItems separator (item :: items) = c :: cs ∧ c ≠ ']' := by
  cases hseparator with
  | inl h =>
    obtain ⟨c, cs, hcs, -, hc⟩ := text_ne hitem
    exact ⟨c, _, by rw [textItems, h, hcs]; rfl, hc⟩
  | inr h => exact ⟨',', _, by rw [textItems, h]; rfl, by decide⟩

theorem textFields_cons_head {separator : List Char} (field : String × Json)
    (fields : List (String × Json)) (hseparator : IsSeparator separator) :
    ∃ c cs, textFields separator (field :: fields) = c :: cs ∧ c ≠ '\x7d' := by
  cases hseparator with
  | inl h => exact ⟨'"', _, by rw [textFields, h]; rfl, by decide⟩
  | inr h => exact ⟨',', _, by rw [textFields, h]; rfl, by decide⟩

mutual

/-- A text is the beginning of no other. -/
theorem text_append_inj : ∀ (value other : Json) {rest rest' : List Char}, FloatTexts value →
    FloatTexts other → EndsToken rest → EndsToken rest' →
    text value ++ rest = text other ++ rest' → value = other ∧ rest = rest'
  | str s, other, rest, rest', hvalue, hother, hrest, hrest', h => by
    cases htoken : token? other with
    | some t =>
      obtain ⟨heq, hrests⟩ := token_text_injective hother hvalue htoken hrest' hrest h.symm
      exact ⟨heq.symm, hrests.symm⟩
    | none =>
      cases other with
      | str s' =>
        rw [text, text, List.cons_append, List.cons_append, List.append_assoc,
          List.append_assoc] at h
        obtain ⟨hs, hrests⟩ := escaped_append_inj (List.cons.inj h).2
        exact ⟨by rw [String.toList_inj.mp hs], hrests⟩
      | arr items => cases (List.cons.inj h).1
      | obj fields => cases (List.cons.inj h).1
      | bool b => cases b <;> cases htoken
      | _ => cases htoken
  | arr items, other, rest, rest', hvalue, hother, hrest, hrest', h => by
    cases htoken : token? other with
    | some t =>
      obtain ⟨heq, hrests⟩ := token_text_injective hother hvalue htoken hrest' hrest h.symm
      exact ⟨heq.symm, hrests.symm⟩
    | none =>
      cases other with
      | arr others =>
        obtain ⟨heq, hrests⟩ :=
          textItems_append_inj items others [] (.inl rfl) hvalue hother (List.cons.inj h).2
        exact ⟨by rw [heq], hrests⟩
      | str s => cases (List.cons.inj h).1
      | obj fields => cases (List.cons.inj h).1
      | bool b => cases b <;> cases htoken
      | _ => cases htoken
  | obj fields, other, rest, rest', hvalue, hother, hrest, hrest', h => by
    cases htoken : token? other with
    | some t =>
      obtain ⟨heq, hrests⟩ := token_text_injective hother hvalue htoken hrest' hrest h.symm
      exact ⟨heq.symm, hrests.symm⟩
    | none =>
      cases other with
      | obj others =>
        obtain ⟨heq, hrests⟩ :=
          textFields_append_inj fields others [] (.inl rfl) hvalue hother (List.cons.inj h).2
        exact ⟨by rw [heq], hrests⟩
      | str s => cases (List.cons.inj h).1
      | arr items => cases (List.cons.inj h).1
      | bool b => cases b <;> cases htoken
      | _ => cases htoken
  | null, _, _, _, hvalue, hother, hrest, hrest', h
  | bool true, _, _, _, hvalue, hother, hrest, hrest', h
  | bool false, _, _, _, hvalue, hother, hrest, hrest', h
  | int _, _, _, _, hvalue, hother, hrest, hrest', h
  | float _, _, _, _, hvalue, hother, hrest, hrest', h =>
    token_text_injective hvalue hother rfl hrest hrest' h

theorem textItems_append_inj : ∀ (items others : List Json) (separator : List Char)
    {rest rest' : List Char}, IsSeparator separator → FloatTextsItems items →
    FloatTextsItems others →
    textItems separator items ++ rest = textItems separator others ++ rest' →
    items = others ∧ rest = rest'
  | [], [], separator, rest, rest', _, _, _, h => ⟨rfl, (List.cons.inj h).2⟩
  | [], other :: others, separator, rest, rest', hseparator, _, hothers, h => by
    obtain ⟨c, cs, hcs, hc⟩ := textItems_cons_head others hseparator hothers.1
    rw [hcs] at h
    exact absurd (List.cons.inj h).1.symm hc
  | item :: items, [], separator, rest, rest', hseparator, hitems, _, h => by
    obtain ⟨c, cs, hcs, hc⟩ := textItems_cons_head items hseparator hitems.1
    rw [hcs] at h
    exact absurd (List.cons.inj h).1 hc
  | item :: items, other :: others, separator, rest, rest', hseparator, hitems, hothers, h => by
    rw [textItems, textItems, List.append_assoc, List.append_assoc, List.append_assoc,
      List.append_assoc] at h
    obtain ⟨hitem, hrest⟩ := text_append_inj item other hitems.1 hothers.1
      (endsToken_textItems items rest) (endsToken_textItems others rest')
      (List.append_cancel_left h)
    obtain ⟨hrests, hends⟩ :=
      textItems_append_inj items others [','] (.inr rfl) hitems.2 hothers.2 hrest
    exact ⟨by rw [hitem, hrests], hends⟩

theorem textFields_append_inj : ∀ (fields others : List (String × Json)) (separator : List Char)
    {rest rest' : List Char}, IsSeparator separator → FloatTextsFields fields →
    FloatTextsFields others →
    textFields separator fields ++ rest = textFields separator others ++ rest' →
    fields = others ∧ rest = rest'
  | [], [], separator, rest, rest', _, _, _, h => ⟨rfl, (List.cons.inj h).2⟩
  | [], other :: others, separator, rest, rest', hseparator, _, _, h => by
    obtain ⟨c, cs, hcs, hc⟩ := textFields_cons_head other others hseparator
    rw [hcs] at h
    exact absurd (List.cons.inj h).1.symm hc
  | field :: fields, [], separator, rest, rest', hseparator, _, _, h => by
    obtain ⟨c, cs, hcs, hc⟩ := textFields_cons_head field fields hseparator
    rw [hcs] at h
    exact absurd (List.cons.inj h).1 hc
  | (key, value) :: fields, (key', value') :: others, separator, rest, rest', _, hfields,
      hothers, h => by
    simp only [textFields, List.append_assoc, List.cons_append] at h
    obtain ⟨hkey, hvalues⟩ := escaped_append_inj (List.cons.inj (List.append_cancel_left h)).2
    obtain ⟨hvalue, hrest⟩ := text_append_inj value value' hfields.1 hothers.1
      (endsToken_textFields fields rest) (endsToken_textFields others rest')
      (List.cons.inj hvalues).2
    obtain ⟨hrests, hends⟩ :=
      textFields_append_inj fields others [','] (.inr rfl) hfields.2 hothers.2 hrest
    exact ⟨by rw [String.toList_inj.mp hkey, hvalue, hrests], hends⟩

end

theorem text_injective {value other : Json} (hvalue : FloatTexts value)
    (hother : FloatTexts other) (h : text value = text other) : value = other := by
  have hends : EndsToken [] := fun c h => nomatch h
  exact (text_append_inj value other hvalue hother hends hends (by rw [h])).1

/-! ## Ordered values -/

theorem floatTextsFields_iff {fields : List (String × Json)} :
    FloatTextsFields fields ↔ ∀ field ∈ fields, FloatTexts field.2 := by
  induction fields with
  | nil => simp [FloatTextsFields]
  | cons field fields ih => simp [FloatTextsFields, ih]

theorem perm_orderFields (fields : List (String × Json)) : (orderFields fields).Perm fields := by
  have hinsert : ∀ (field : String × Json) (fields : List (String × Json)),
      (insertValue field fields).Perm (field :: fields) := by
    intro field fields
    induction fields with
    | nil => exact .refl _
    | cons other fields ih =>
      rw [insertValue]
      split
      · exact .refl _
      · exact (ih.cons other).trans (.swap field other fields)
  induction fields with
  | nil => exact .refl _
  | cons field fields ih => exact (hinsert field _).trans (ih.cons field)

/-- A key stands for the ordered value of what it stood for. -/
theorem get?_ordered {fields : List (String × Json)} (hkeys : (fields.map Prod.fst).Nodup)
    (key : String) :
    (ordered (obj fields)).get? key = ((obj fields).get? key).map ordered := by
  have hperm := perm_orderFields (orderedFields fields)
  rw [orderedFields_eq_map] at hperm
  have hordered : ((orderFields (orderedFields fields)).map Prod.fst).Nodup := by
    rw [orderedFields_eq_map]
    refine (hperm.map Prod.fst).nodup_iff.mpr ?_
    rw [List.map_map]
    exact hkeys
  ext value
  rw [ordered, get?, get?, Jcs.lookup_eq_some_iff hordered, orderedFields_eq_map, hperm.mem_iff]
  simp only [List.mem_map, Option.map_eq_some_iff, Jcs.lookup_eq_some_iff hkeys]
  constructor
  · rintro ⟨⟨k, v⟩, hmem, heq⟩
    cases heq
    exact ⟨v, hmem, rfl⟩
  · rintro ⟨v, hmem, rfl⟩
    exact ⟨(key, v), hmem, rfl⟩

mutual

theorem floatTexts_ordered : ∀ {value : Json}, FloatTexts value → FloatTexts (ordered value)
  | arr _, h => floatTextsItems_ordered h
  | obj fields, h => by
    rw [ordered, FloatTexts, floatTextsFields_iff]
    intro field hfield
    exact floatTextsFields_iff.mp (floatTextsFields_ordered h) field (mem_orderFields.mp hfield)
  | null, h | bool _, h | int _, h | float _, h | str _, h => h

theorem floatTextsItems_ordered : ∀ {items : List Json}, FloatTextsItems items →
    FloatTextsItems (orderedItems items)
  | [], h => h
  | _ :: _, h => ⟨floatTexts_ordered h.1, floatTextsItems_ordered h.2⟩

theorem floatTextsFields_ordered : ∀ {fields : List (String × Json)}, FloatTextsFields fields →
    FloatTextsFields (orderedFields fields)
  | [], h => h
  | _ :: _, h => ⟨floatTexts_ordered h.1, floatTextsFields_ordered h.2⟩

end

/-- One canonical text, one ordered value. -/
theorem canonical_eq_iff {value other : Json} (hvalue : FloatTexts value)
    (hother : FloatTexts other) :
    canonical value = canonical other ↔ ordered value = ordered other := by
  rw [← String.toList_inj, toList_canonical, toList_canonical]
  constructor
  · exact text_injective (floatTexts_ordered hvalue) (floatTexts_ordered hother)
  · exact congrArg text

end Json

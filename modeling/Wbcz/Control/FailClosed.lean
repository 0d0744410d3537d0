import Wbcz.Control.Attribution

/-!
# What an item has to state for a decision to write

An item of a `cises/info` response is read three times before a row is decided: into a
normalized copy, from the copy into a state, and from the state into a decision. Each reading
has defaults of its own. This module says what the item itself stated when the last of them
permits a write.

A status that is absent, no text or unknown permits nothing, and so do a special status that is
no text or unknown, and an owner that is absent, no text or another. A product group is missed
by nobody: where the item has none, the group that was asked for stands in.
-/

namespace Wbcz.Control

open CisInventory ControlEngine

/-! ### Texts of values -/

section Texts

variable {containerText : Json → String} {value : Json} {text upper : String} {c : Char}

/-- The text Python prints for a float. -/
def IsFloatText (text : String) : Prop :=
  text = "nan" ∨ text = "inf" ∨
    ∃ c, text.toList.head? = some c ∧ (c = '-' ∨ Text.isAsciiDigit c = true)

/-- The floats of an object have the texts that Python prints. -/
def FloatsPrinted (info : Fields) : Prop :=
  ∀ key text, field info key = .float text → IsFloatText text

/-- The characters that the text of a value which is no text may start with, words apart. -/
def startsValue (c : Char) : Bool :=
  c = '-' || c = '[' || c = '\x7b' || Text.isAsciiDigit c

/-- The texts of the values that are words. -/
def valueWords : List String := ["None", "True", "False", "nan", "inf"]

theorem head?_toString_nat (n : ℕ) :
    ∃ c, (toString n).toList.head? = some c ∧ startsValue c = true := by
  rw [Nat.toString_eq_ofList_toDigits, String.toList_ofList]
  obtain ⟨c, rest, hdigits⟩ := List.exists_cons_of_ne_nil (@Nat.toDigits_ne_nil n 10)
  refine ⟨c, by rw [hdigits]; rfl, ?_⟩
  have hmem : c ∈ Nat.toDigits 10 n := by
    rw [hdigits]
    exact List.mem_cons_self
  have hdigit : c.isDigit := Nat.isDigit_of_mem_toDigits (by decide) (by decide) hmem
  have hrange : 48 ≤ c.toNat ∧ c.toNat ≤ 57 := by
    simpa [Char.isDigit, Char.le_def, UInt32.le_iff_toNat_le] using hdigit
  simp [startsValue, Text.isAsciiDigit, hrange]

/-- A value that is no text prints as a word, or starts as no letter does. -/
theorem pyStr_of_not_str (hvalue : ∀ text, value ≠ .str text)
    (hfloat : ∀ text, value = .float text → IsFloatText text) :
    pyStr containerText value ∈ valueWords ∨
      ∃ c, (pyStr containerText value).toList.head? = some c ∧ startsValue c = true := by
  cases value with
  | null => exact .inl (by simp [pyStr, valueWords])
  | bool b => cases b <;> exact .inl (by simp [pyStr, valueWords])
  | int i =>
    right
    cases i with
    | ofNat n => exact head?_toString_nat n
    | negSucc n => exact ⟨'-', by simp [pyStr, toString, Int.repr, String.toList_append], rfl⟩
  | float text =>
    rcases hfloat text rfl with rfl | rfl | ⟨c, hhead, hc⟩
    · exact .inl (by simp [pyStr, valueWords])
    · exact .inl (by simp [pyStr, valueWords])
    · refine .inr ⟨c, hhead, ?_⟩
      rcases hc with rfl | hc
      · rfl
      · simp [startsValue, hc]
  | str text => exact absurd rfl (hvalue text)
  | arr items => exact .inr ⟨'[', by rw [pyStr, String.toList_append]; rfl, rfl⟩
  | obj fields => exact .inr ⟨'\x7b', by rw [pyStr, String.toList_append]; rfl, rfl⟩

/-- The characters that values start with have no other upper case. -/
theorem upperCharAscii?_of_startsValue (h : startsValue c = true) :
    Text.upperCharAscii? c = some [c] := by
  have hsmall : ¬ (97 ≤ c.toNat ∧ c.toNat ≤ 122) ∧ c.toNat < 128 := by
    simp only [startsValue, Text.isAsciiDigit, Bool.or_eq_true, Bool.and_eq_true,
      decide_eq_true_eq] at h
    rcases h with ((rfl | rfl) | rfl) | h
    · decide
    · decide
    · decide
    · omega
  simp only [Text.upperCharAscii?, if_neg hsmall.1, if_pos hsmall.2]

/-- The upper case of a text starts as the text does, where values do. -/
theorem head?_upperAscii (h : Text.upperAscii? text = some upper)
    (hhead : text.toList.head? = some c) (hc : startsValue c = true) :
    upper.toList.head? = some c := by
  obtain ⟨css, hcss, rfl⟩ := Option.map_eq_some_iff.mp h
  obtain ⟨rest, htext⟩ : ∃ rest, text.toList = c :: rest := by
    cases htext : text.toList with
    | nil => simp [htext] at hhead
    | cons c' rest =>
      rw [htext] at hhead
      obtain rfl := Option.some.inj hhead
      exact ⟨rest, rfl⟩
  rw [htext, List.mapM_cons, upperCharAscii?_of_startsValue hc] at hcss
  obtain ⟨cs, hcs, hcss⟩ := Option.bind_eq_some_iff.mp hcss
  cases hcs
  obtain ⟨uppers, -, huppers⟩ := Option.bind_eq_some_iff.mp hcss
  cases huppers
  simp

/-- A value whose text reads as a word of its own in upper case is a text. -/
theorem str_of_upperAscii (hfloat : ∀ text, value = .float text → IsFloatText text)
    (h : Text.upperAscii? (pyStr containerText value) = some upper)
    (hwords : ∀ word ∈ valueWords, Text.upperAscii? word ≠ some upper)
    (hletter : upper.toList.head?.any startsValue = false) :
    ∃ text, value = .str text ∧ Text.upperAscii? text = some upper := by
  by_cases hvalue : ∃ text, value = .str text
  · obtain ⟨text, rfl⟩ := hvalue
    exact ⟨text, rfl, h⟩
  · rcases pyStr_of_not_str (fun text heq => hvalue ⟨text, heq⟩) hfloat with hword | ⟨c, hhead, hc⟩
    · exact absurd h (hwords _ hword)
    · rw [head?_upperAscii h hhead hc, Option.any_some, hc] at hletter
      cases hletter

end Texts

/-! ### What the item states -/

/-- What an item stated of a code that may be withdrawn. -/
structure StatesIntroduced (ownInn : String) (info : Fields) : Prop where
  status : ∃ text, field info "status" = .str text ∧ Text.upperAscii? text = some "INTRODUCED"
  statusEx : field info "statusEx" = .null ∨ ∃ text, field info "statusEx" = .str text ∧
    (Text.upperAscii? text = some "" ∨ Text.upperAscii? text = some "EMPTY")
  owner : field info "ownerInn" = .str ownInn
  group : ∀ text, field info "productGroup" = .str text → text = "" ∨ isLp text
  reason : ∀ text, field info "withdrawReason" = .str text → text = ""

/-- What an item stated of a code that may be returned. -/
structure StatesRetired (ownInn : String) (info : Fields) : Prop where
  status : ∃ text, field info "status" = .str text ∧ Text.upperAscii? text = some "RETIRED"
  statusEx : field info "statusEx" = .null ∨ ∃ text, field info "statusEx" = .str text ∧
    (Text.upperAscii? text = some "" ∨ Text.upperAscii? text = some "EMPTY")
  owner : field info "ownerInn" = .str ownInn
  group : ∀ text, field info "productGroup" = .str text → text = "" ∨ isLp text
  reason : field info "withdrawReason" = .str "DISTANCE"

section Items

variable {containerText : Json → String} {requested : List String} {payload : Json}
  {info : Fields} {event : Event} {ownInn : String} {o : Outcome}

theorem str?_eq_some {value : Json} {text : String} (h : value.str? = some text) :
    value = .str text := by
  cases value <;> simp_all [Json.str?]

/-- The status of a code that may be written was stated as a text. -/
theorem status_of_statusOf (hfloats : FloatsPrinted info) {text upper : String}
    (h : statusOf containerText (field info "status") = text)
    (hcode : text = "IN_CIRCULATION" ∧ upper = "INTRODUCED" ∨
      text = "WITHDRAWN" ∧ upper = "RETIRED") :
    ∃ text, field info "status" = .str text ∧ Text.upperAscii? text = some upper := by
  have hupper : Text.upperAscii? (pyStr containerText (field info "status")) = some upper := by
    unfold statusOf at h
    split at h
    · rename_i hintroduced
      rcases hcode with ⟨rfl, rfl⟩ | ⟨rfl, rfl⟩
      · exact hintroduced
      · exact absurd h (by decide)
    · rename_i hretired
      rcases hcode with ⟨rfl, rfl⟩ | ⟨rfl, rfl⟩
      · exact absurd h (by decide)
      · exact hretired
    · rcases hcode with ⟨rfl, rfl⟩ | ⟨rfl, rfl⟩
      · exact absurd h unknown_ne.2.1
      · exact absurd h unknown_ne.2.2
  apply str_of_upperAscii (hfloats "status") hupper
  · rcases hcode with ⟨-, rfl⟩ | ⟨-, rfl⟩ <;> decide
  · rcases hcode with ⟨-, rfl⟩ | ⟨-, rfl⟩ <;> decide

/-- A blank special status was absent, or it was stated as a text. -/
theorem statusEx_of_blank (hfloats : FloatsPrinted info)
    (h : blankStatusEx containerText (field info "statusEx") = true) :
    field info "statusEx" = .null ∨ ∃ text, field info "statusEx" = .str text ∧
      (Text.upperAscii? text = some "" ∨ Text.upperAscii? text = some "EMPTY") := by
  by_cases hnull : field info "statusEx" = .null
  · exact .inl hnull
  · right
    have hupper : Text.upperAscii? (pyStr containerText (field info "statusEx")) = some "" ∨
        Text.upperAscii? (pyStr containerText (field info "statusEx")) = some "EMPTY" := by
      unfold blankStatusEx at h
      split at h
      · rename_i heq
        exact absurd heq hnull
      · simpa using h
    rcases hupper with hupper | hupper
    · obtain ⟨text, htext, h⟩ := str_of_upperAscii (hfloats "statusEx") hupper (by decide) (by decide)
      exact ⟨text, htext, .inl h⟩
    · obtain ⟨text, htext, h⟩ := str_of_upperAscii (hfloats "statusEx") hupper (by decide) (by decide)
      exact ⟨text, htext, .inr h⟩

/-- A product group that is stated is the one that was asked for. -/
theorem group_of_isLp (h : isLp (productGroupOf (field info "productGroup")) = true) :
    ∀ text, field info "productGroup" = .str text → text = "" ∨ isLp text := by
  intro text htext
  rw [htext, productGroupOf] at h
  simp only [Json.str?] at h
  split at h
  · rename_i hempty
    exact .inl hempty
  · exact .inr h

/-- What the information stated when its state permits a write. -/
theorem states_of_ready (hfloats : FloatsPrinted info)
    (h : decide event (batchState containerText info) ownInn = .ok o) :
    (o.decision = .readyToWithdraw → StatesIntroduced ownInn info) ∧
      (o.decision = .readyToReturn → StatesRetired ownInn info) := by
  rw [batchState_eq] at h
  constructor
  · intro hdecision
    have hready : o.decision.isReady = true := by rw [hdecision]; rfl
    obtain ⟨-, howner, hgroup, hblank, hcalls⟩ := decide_readState_iff.mp ⟨h, hready⟩
    rcases hcalls with ⟨hstatus, hreason, -⟩ | ⟨-, -, -, rfl⟩
    · refine ⟨status_of_statusOf hfloats hstatus (.inl ⟨rfl, rfl⟩), statusEx_of_blank hfloats hblank,
        str?_eq_some howner, group_of_isLp hgroup, fun text htext => ?_⟩
      rcases noReason_iff.mp hreason with hnone | hempty
      · rw [htext] at hnone
        cases hnone
      · rw [htext] at hempty
        exact Option.some.inj hempty
    · cases hdecision
  · intro hdecision
    have hready : o.decision.isReady = true := by rw [hdecision]; rfl
    obtain ⟨-, howner, hgroup, hblank, hcalls⟩ := decide_readState_iff.mp ⟨h, hready⟩
    rcases hcalls with ⟨-, -, -, -, -, rfl⟩ | ⟨hstatus, hreason, -⟩
    · cases hdecision
    · exact ⟨status_of_statusOf hfloats hstatus (.inr ⟨rfl, rfl⟩), statusEx_of_blank hfloats hblank,
        str?_eq_some howner, group_of_isLp hgroup, str?_eq_some hreason⟩

/-- A result of a chain at a position comes from the value there. -/
theorem exists_of_getElem?_mapM {α β : Type} {f : α → Except PyError β} {l : List α} {bs : List β}
    {b : β} {i : ℕ} (h : l.mapM f = .ok bs) (hb : bs[i]? = some b) :
    ∃ a, l[i]? = some a ∧ f a = .ok b := by
  induction l generalizing bs i with
  | nil =>
    cases h
    cases hb
  | cons a l ih =>
    obtain ⟨b', rest, hb', hrest, rfl⟩ := mapM_cons_eq_ok h
    cases i with
    | zero =>
      obtain rfl := Option.some.inj hb
      exact ⟨a, rfl, hb'⟩
    | succ i => exact ih hrest hb

/-- A normalized copy comes from the information of the item at its position. -/
theorem normalized_of_item {result item : Json} {normalized : Fields} {i : ℕ}
    (hparse : parseSuccessPayload containerText requested payload = .ok result)
    (hitem : (resultItems result)[i]? = some item)
    (hnormalized : item.get "normalized" = .obj normalized) :
    ∃ raw, (itemsOf payload)[i]? = some raw ∧ raw.get "cisInfo" = .obj (infoOf raw) ∧
      decisionStateFromCisInfo containerText normalized =
        batchState containerText (infoOf raw) := by
  obtain ⟨wires, hwires, rfl⟩ := parseSuccessPayload_eq_ok hparse
  have hitems : (wires.map resultItem)[i]? = some item := hitem
  rw [List.getElem?_map] at hitems
  obtain ⟨wire, hwire, rfl⟩ := Option.map_eq_some_iff.mp hitems
  obtain ⟨⟨cis, raw⟩, hpair, hwireInfo⟩ := exists_of_getElem?_mapM hwires hwire
  obtain ⟨-, hraw⟩ := List.getElem?_zip_eq_some.mp hpair
  refine ⟨raw, hraw, ?_⟩
  rw [(resultItem_fields wire).2.2.1] at hnormalized
  cases hcopy : normalizedInfo wire with
  | none =>
    rw [hcopy] at hnormalized
    cases hnormalized
  | some copy =>
    rw [hcopy] at hnormalized
    cases hnormalized
    obtain ⟨info, hinfo, -⟩ := Option.map_eq_some_iff.mp hcopy
    cases raw with
    | obj fields =>
      obtain rfl := Except.ok.inj hwireInfo
      have hobj : field fields "cisInfo" = .obj info := by
        cases hfield : field fields "cisInfo" with
        | obj inner =>
          simp only [hfield, dictOrNone] at hinfo
          rw [Option.some.inj hinfo]
        | _ => simp [hfield, dictOrNone] at hinfo
      have hget : (Json.obj fields).get "cisInfo" = .obj info := hobj
      have hinfoOf : infoOf (.obj fields) = info := by
        rw [infoOf, hget]
      rw [hinfoOf]
      exact ⟨hget, decisionState_normalized hinfo hcopy⟩
    | _ => cases hwireInfo

end Items

/-! ### Items of one code -/

/-- A response for one code in circulation, with further fields. -/
def introducedPayload (fields : Fields) : Json :=
  .arr [.obj [("cisInfo",
    .obj ([("status", .str "INTRODUCED"), ("ownerInn", .str "7700000000")] ++ fields))]]

/-- A response of one item whose information has no float. -/
theorem floatsPrinted_introduced {fields : Fields}
    (h : ∀ entry ∈ fields, ∀ text, entry.2 ≠ .float text) :
    ∀ raw ∈ itemsOf (introducedPayload fields), FloatsPrinted (infoOf raw) := by
  intro raw hraw key text hfield
  obtain rfl := List.mem_singleton.mp hraw
  have hnone : ∀ entry ∈ [("status", Json.str "INTRODUCED"), ("ownerInn", .str "7700000000")] ++
      fields, entry.2 ≠ .float text := by
    intro entry hentry
    rcases List.mem_append.mp hentry with hentry | hentry
    · simp only [List.mem_cons, List.not_mem_nil, or_false] at hentry
      rcases hentry with rfl | rfl <;> exact Json.noConfusion
    · exact h entry hentry text
  have hlookup : (Json.lookup ([("status", Json.str "INTRODUCED"), ("ownerInn", .str "7700000000")] ++
      fields) key).getD .null = .float text := hfield
  cases hfind : Json.lookup ([("status", Json.str "INTRODUCED"), ("ownerInn", .str "7700000000")] ++
      fields) key with
  | none =>
    rw [hfind] at hlookup
    cases hlookup
  | some value =>
    rw [hfind] at hlookup
    obtain ⟨entry, hentry, rfl⟩ := Option.map_eq_some_iff.mp hfind
    exact absurd hlookup (hnone entry (List.mem_of_find?_eq_some hentry))

/-- A raw item, introduced but for some fields, permits a write. -/
def PermitsWrite (fields : Fields) (raw : Json) : Prop :=
  ∃ result item normalized,
    parseSuccessPayload (fun _ => "") ["010460000000000001"] (introducedPayload fields) =
      .ok result ∧
    (resultItems result)[0]? = some item ∧ item.get "normalized" = .obj normalized ∧
    (itemsOf (introducedPayload fields))[0]? = some raw ∧
    decide (decisiveRow "010460000000000001" .sale).event
      (decisionStateFromCisInfo (fun _ => "") normalized) "7700000000" =
        .ok ⟨.readyToWithdraw, "SALE_IN_CIRCULATION", none⟩

end Wbcz.Control

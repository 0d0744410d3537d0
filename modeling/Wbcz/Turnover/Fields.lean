import Wbcz.Marketplace.Distance

/-!
# The fields of turnover documents

The checks of single fields in `turnover.py`, where the documents of a withdrawal need them as well
as the other ones.
-/

namespace Wbcz.Turnover

open Calendar
open Fallible (bind_eq_ok ensure ensure_eq_ok found found_eq_ok)
open Wbcz.Marketplace (contractError)
open Wbcz.Marketplace.Contract (Day boundedDay day nonempty nonemptyText shiftYear)

/-! ## Checks -/

/-- A text of digits, of one of these lengths. The source asks `\d` or `str.isdigit`. -/
def digitField (digit : Char → Bool) (lengths : List ℕ) (maxLen : ℕ) (label rule value : String) :
    Except PyError String := do
  let text ← nonempty label maxLen value
  ensure (text.toList.all digit = true ∧ text.length ∈ lengths) (contractError (label ++ rule))
  pure text

/-- `_inn`. -/
def inn (label value : String) : Except PyError String :=
  digitField Text.isDecimal [10, 12] 12 label " must be a 10 or 12 digit INN" value

/-- `_kpp`. -/
def kpp (value : String) : Except PyError String :=
  digitField Text.isDecimal [9] 9 "kpp" " must be 9 digits" value

/-- `_tnved`. -/
def tnved (label value : String) : Except PyError String :=
  digitField Text.isDecimal [10] 10 label " must be a 10 digit TN VED code" value

/-- `_country`. -/
def country (label value : String) : Except PyError String :=
  digitField Text.isDecimal [3] 3 label " must be a three digit country code" value

/-- The check of `customs_code`. -/
def customsCode (value : String) : Except PyError String :=
  digitField Text.isDigit [8] 8 "customs_code" " must be 8 digits" value

/-- The check of `decision_code`. -/
def decisionCode (value : String) : Except PyError String :=
  digitField Text.isDigit [2] 2 "decision_code" " must be a two digit classifier code" value

/-- The check of `sender_tax_number`. -/
def senderTaxNumber (value : String) : Except PyError String :=
  digitField Text.isDigit [8, 9, 12, 14] 14 "sender_tax_number"
    " must contain 8, 9, 12 or 14 digits" value

/-- Digits in three groups between slashes, the first of one of these lengths. -/
def matchesDeclaration (prefixes : List ℕ) (cs : List Char) : Bool :=
  match cs.splitOn '/' with
  | [office, day, number] =>
    [office, day, number].all (List.all · Text.isDecimal) && decide (office.length ∈ prefixes) &&
      decide (day.length = 6) && decide (number.length = 7)
  | _ => false

/-- `_declaration`. -/
def declaration (label : String) (flexiblePrefix : Bool) (value : String) :
    Except PyError String := do
  let text ← nonempty label 23 value
  ensure (matchesDeclaration (if flexiblePrefix then [2, 5, 8] else [8]) text.toList = true)
    (contractError (label ++ " has invalid customs declaration format"))
  pure text

/-- `_cis`. -/
def cis (label value : String) : Except PyError String := do
  let text ← nonempty label 74 value
  ensure (text.toList.all (fun c => !Text.isSpace c) = true ∧ 18 ≤ text.length ∧ text.length ≤ 74)
    (contractError (label ++ " must be 18..74 non-whitespace chars"))
  pure text

/-- `_fias`. -/
def fias (label value : String) : Except PyError String := do
  let text ← nonempty label 36 value
  let uuid ← found (Uuid.parse? text.toList) (contractError (label ++ " must be UUID"))
  pure (String.ofList (Uuid.text uuid))

/-- A `datetime`, or the text of one. -/
inductive Instant where
  | datetime (value : DateTime)
  | text (value : String)
  deriving DecidableEq

/-- The text of a moment down to its milliseconds. -/
def millisText (t : Moment) : List Char :=
  let seconds := t.time / 1000000
  t.date.isoFormat ++ ['T'] ++ twoDigits (seconds / 3600) ++ [':'] ++
    twoDigits (seconds / 60 % 60) ++ [':'] ++ twoDigits (seconds % 60) ++ ['.'] ++
    (sixDigits (t.time % 1000000)).take 3 ++ ['Z']

/-- The moment that `_utc_millis` writes. -/
def utcMoment (label : String) : Instant → Except PyError Moment
  | .text value => do
    let parsed ← found (strptime "%Y-%m-%dT%H:%M:%S.%fZ".toList value.toList)
      (contractError (label ++ " must be yyyy-MM-ddTHH:mm:ss.SSSZ"))
    pure parsed.clock
  | .datetime (.aware value) => found value.toUtc ⟨.other "OverflowError", "date value out of range"⟩
  | .datetime (.naive _) => .error (contractError (label ++ " must be timezone-aware datetime"))

/-- `_utc_millis`. -/
def utcMillis (label : String) (value : Instant) : Except PyError String := do
  let moment ← utcMoment label value
  pure (String.ofList (millisText moment))

/-- `_unique_cises`, with the label of every value. -/
def uniqueCises (values : List String) (label : String) : Except PyError (List String) := do
  ensure (values ≠ []) (contractError (label ++ " must be non-empty"))
  let result ← (values.zipIdx).mapM fun (value, index) =>
    cis (label ++ "[" ++ toString index ++ "]") value
  ensure result.Nodup (contractError (label ++ " must contain unique codes"))
  pure result

/-- The sibling checks of a withdrawal are these under their labels. -/
theorem withdrawal_checks : Wbcz.Marketplace.Contract.cis = cis "cis" ∧
    Wbcz.Marketplace.Contract.fias = fias "fias_id" :=
  ⟨rfl, rfl⟩

/-! ## What passes -/

/-- A trimmed text of at most so many characters. -/
def IsName (maxLen : ℕ) (value : String) : Prop :=
  Text.strip value = value ∧ 1 ≤ value.length ∧ value.length ≤ maxLen

instance (maxLen : ℕ) : DecidablePred (IsName maxLen) := fun _ =>
  inferInstanceAs (Decidable (_ ∧ _))

def IsDigits (digit : Char → Bool) (lengths : List ℕ) (maxLen : ℕ) (value : String) : Prop :=
  IsName maxLen value ∧ value.toList.all digit = true ∧ value.length ∈ lengths

instance (digit : Char → Bool) (lengths : List ℕ) (maxLen : ℕ) :
    DecidablePred (IsDigits digit lengths maxLen) := fun _ =>
  inferInstanceAs (Decidable (_ ∧ _))

abbrev IsInn : String → Prop := IsDigits Text.isDecimal [10, 12] 12

abbrev IsKpp : String → Prop := IsDigits Text.isDecimal [9] 9

abbrev IsTnved : String → Prop := IsDigits Text.isDecimal [10] 10

abbrev IsCountry : String → Prop := IsDigits Text.isDecimal [3] 3

abbrev IsCustomsCode : String → Prop := IsDigits Text.isDigit [8] 8

abbrev IsDecisionCode : String → Prop := IsDigits Text.isDigit [2] 2

abbrev IsSenderTaxNumber : String → Prop := IsDigits Text.isDigit [8, 9, 12, 14] 14

def IsDeclaration (prefixes : List ℕ) (value : String) : Prop :=
  IsName 23 value ∧ matchesDeclaration prefixes value.toList = true

def IsCis (value : String) : Prop :=
  (∀ c ∈ value.toList, Text.isSpace c = false) ∧ 18 ≤ value.length ∧ value.length ≤ 74

instance : DecidablePred IsCis := fun _ =>
  decidable_of_iff _ (and_congr_left' Wbcz.Marketplace.Contract.all_not_isSpace)

def IsFias (value : String) : Prop := IsName 36 value ∧ (Uuid.parse? value.toList).isSome = true

/-- A FIAS id as it is written. -/
def fiasText (value : String) : String :=
  String.ofList (Uuid.text ((Uuid.parse? value.toList).getD 0))

/-- The day that is meant. -/
def dayOf : Day → Option Date
  | .date value => some value.day
  | .text value => (dateFromisoformat value.toList).filter fun day =>
    String.ofList day.isoFormat = value

/-- A day as it is written. -/
def dayText : Day → String
  | .date value => String.ofList value.day.isoFormat
  | .text value => value

def IsDay (value : Day) : Prop := (dayOf value).isSome = true

/-- A day in a range. -/
def IsDayWithin (minDay maxDay : Date) (value : Day) : Prop :=
  ∃ day, dayOf value = some day ∧ minDay ≤ day ∧ day ≤ maxDay

/-- The moment that is meant. -/
def momentOf : Instant → Option Moment
  | .text value =>
    (strptime "%Y-%m-%dT%H:%M:%S.%fZ".toList value.toList).map DateTime.clock
  | .datetime (.aware value) => value.toUtc
  | .datetime (.naive _) => none

/-- A moment as it is written. -/
def instantText (value : Instant) : String :=
  ((momentOf value).map fun moment => String.ofList (millisText moment)).getD ""

def IsInstant (value : Instant) : Prop := (momentOf value).isSome = true

section Spec

variable {digit : Char → Bool} {lengths : List ℕ} {maxLen : ℕ} {label rule value text : String}

theorem nonempty_eq_ok :
    nonempty label maxLen value = .ok text ↔ text = value ∧ IsName maxLen value := by
  rw [Wbcz.Marketplace.Contract.nonempty_eq_ok]
  exact and_congr_left fun _ => eq_comm

theorem digitField_eq_ok : digitField digit lengths maxLen label rule value = .ok text ↔
    text = value ∧ IsDigits digit lengths maxLen value := by
  constructor
  · intro h
    obtain ⟨trimmed, hname, hrest⟩ := bind_eq_ok.mp h
    obtain ⟨⟨⟩, hdigits, hlast⟩ := bind_eq_ok.mp hrest
    obtain ⟨rfl, hvalid⟩ := nonempty_eq_ok.mp hname
    exact ⟨(Except.ok.inj hlast).symm, hvalid, ensure_eq_ok.mp hdigits⟩
  · rintro ⟨rfl, hvalid, hdigits⟩
    refine bind_eq_ok.mpr ⟨_, nonempty_eq_ok.mpr ⟨rfl, hvalid⟩, ?_⟩
    exact bind_eq_ok.mpr ⟨(), ensure_eq_ok.mpr hdigits, rfl⟩

theorem declaration_eq_ok {flexiblePrefix : Bool} :
    declaration label flexiblePrefix value = .ok text ↔ text = value ∧
      IsDeclaration (if flexiblePrefix then [2, 5, 8] else [8]) value := by
  constructor
  · intro h
    obtain ⟨trimmed, hname, hrest⟩ := bind_eq_ok.mp h
    obtain ⟨⟨⟩, hmatches, hlast⟩ := bind_eq_ok.mp hrest
    obtain ⟨rfl, hvalid⟩ := nonempty_eq_ok.mp hname
    exact ⟨(Except.ok.inj hlast).symm, hvalid, ensure_eq_ok.mp hmatches⟩
  · rintro ⟨rfl, hvalid, hmatches⟩
    refine bind_eq_ok.mpr ⟨_, nonempty_eq_ok.mpr ⟨rfl, hvalid⟩, ?_⟩
    exact bind_eq_ok.mpr ⟨(), ensure_eq_ok.mpr hmatches, rfl⟩

theorem cis_eq_ok : cis label value = .ok text ↔ text = value ∧ IsCis value := by
  constructor
  · intro h
    obtain ⟨trimmed, hname, hrest⟩ := bind_eq_ok.mp h
    obtain ⟨⟨⟩, hcode, hlast⟩ := bind_eq_ok.mp hrest
    obtain ⟨rfl, -⟩ := nonempty_eq_ok.mp hname
    obtain ⟨hspace, hlength⟩ := ensure_eq_ok.mp hcode
    exact ⟨(Except.ok.inj hlast).symm, Wbcz.Marketplace.Contract.all_not_isSpace.mp hspace, hlength⟩
  · rintro ⟨rfl, hspace, hlength⟩
    have hname : IsName 74 text :=
      ⟨Wbcz.Marketplace.Contract.strip_eq_self hspace, by omega, hlength.2⟩
    refine bind_eq_ok.mpr ⟨_, nonempty_eq_ok.mpr ⟨rfl, hname⟩, ?_⟩
    refine bind_eq_ok.mpr ⟨(), ensure_eq_ok.mpr ⟨?_, hlength⟩, rfl⟩
    exact Wbcz.Marketplace.Contract.all_not_isSpace.mpr hspace

theorem fias_eq_ok : fias label value = .ok text ↔ text = fiasText value ∧ IsFias value := by
  constructor
  · intro h
    obtain ⟨trimmed, hname, hrest⟩ := bind_eq_ok.mp h
    obtain ⟨uuid, huuid, hlast⟩ := bind_eq_ok.mp hrest
    obtain ⟨rfl, hvalid⟩ := nonempty_eq_ok.mp hname
    rw [found_eq_ok] at huuid
    rw [fiasText, IsFias, huuid]
    exact ⟨(Except.ok.inj hlast).symm, hvalid, rfl⟩
  · rintro ⟨rfl, hvalid, hparse⟩
    obtain ⟨uuid, huuid⟩ := Option.isSome_iff_exists.mp hparse
    refine bind_eq_ok.mpr ⟨_, nonempty_eq_ok.mpr ⟨rfl, hvalid⟩, ?_⟩
    refine bind_eq_ok.mpr ⟨uuid, found_eq_ok.mpr huuid, ?_⟩
    rw [fiasText, huuid]
    rfl

theorem day_eq_ok {value : Day} :
    day label value = .ok text ↔ text = dayText value ∧ IsDay value := by
  cases value with
  | date value =>
    refine ⟨fun h => ⟨(Except.ok.inj h).symm, rfl⟩, ?_⟩
    rintro ⟨rfl, -⟩
    rfl
  | text value =>
    constructor
    · intro h
      obtain ⟨parsed, hparsed, hrest⟩ := bind_eq_ok.mp h
      obtain ⟨⟨⟩, hcanonical, hlast⟩ := bind_eq_ok.mp hrest
      rw [found_eq_ok] at hparsed
      rw [ensure_eq_ok] at hcanonical
      refine ⟨(Except.ok.inj hlast).symm, ?_⟩
      simp [IsDay, dayOf, hparsed, hcanonical]
    · rintro ⟨rfl, hday⟩
      obtain ⟨parsed, hparsed⟩ := Option.isSome_iff_exists.mp hday
      rw [dayOf, Option.filter_eq_some_iff] at hparsed
      refine bind_eq_ok.mpr ⟨parsed, found_eq_ok.mpr hparsed.1, ?_⟩
      exact bind_eq_ok.mpr ⟨(), ensure_eq_ok.mpr (of_decide_eq_true hparsed.2), rfl⟩

/-- The text of a day is read as that day. -/
theorem dateFromisoformat_dayText {value : Day} {d : Date} (h : dayOf value = some d) :
    dateFromisoformat (dayText value).toList = some d := by
  cases value with
  | date value =>
    obtain rfl := Option.some.inj h
    rw [dayText, String.toList_ofList, dateFromisoformat_isoFormat]
  | text value =>
    rw [dayOf, Option.filter_eq_some_iff] at h
    exact h.1

theorem boundedDay_eq_ok {minDay maxDay : Date} {value : Day} :
    boundedDay label minDay maxDay value = .ok text ↔
      text = dayText value ∧ IsDayWithin minDay maxDay value := by
  constructor
  · intro h
    obtain ⟨written, hday, h⟩ := bind_eq_ok.mp h
    obtain ⟨parsed, hparsed, h⟩ := bind_eq_ok.mp h
    obtain ⟨⟨⟩, hlow, h⟩ := bind_eq_ok.mp h
    obtain ⟨⟨⟩, hhigh, hlast⟩ := bind_eq_ok.mp h
    obtain ⟨rfl, hvalid⟩ := day_eq_ok.mp hday
    obtain ⟨d, hd⟩ := Option.isSome_iff_exists.mp hvalid
    rw [found_eq_ok, dateFromisoformat_dayText hd] at hparsed
    obtain rfl := Option.some.inj hparsed
    exact ⟨(Except.ok.inj hlast).symm, d, hd, not_lt.mp (ensure_eq_ok.mp hlow),
      not_lt.mp (ensure_eq_ok.mp hhigh)⟩
  · rintro ⟨rfl, d, hd, hlow, hhigh⟩
    have hvalid : IsDay value := by simp [IsDay, hd]
    refine bind_eq_ok.mpr ⟨_, day_eq_ok.mpr ⟨rfl, hvalid⟩, ?_⟩
    refine bind_eq_ok.mpr ⟨d, found_eq_ok.mpr (dateFromisoformat_dayText hd), ?_⟩
    refine bind_eq_ok.mpr ⟨(), ensure_eq_ok.mpr (not_lt.mpr hlow), ?_⟩
    exact bind_eq_ok.mpr ⟨(), ensure_eq_ok.mpr (not_lt.mpr hhigh), rfl⟩

theorem utcMoment_eq_ok {value : Instant} {moment : Moment} :
    utcMoment label value = .ok moment ↔ momentOf value = some moment := by
  cases value with
  | text value =>
    rw [utcMoment, bind_eq_ok, momentOf, Option.map_eq_some_iff]
    refine exists_congr fun parsed => ?_
    rw [found_eq_ok]
    exact and_congr_right fun _ => ⟨Except.ok.inj, fun h => congrArg Except.ok h⟩
  | datetime value =>
    cases value with
    | naive clock => simp [utcMoment, momentOf]
    | aware value => exact found_eq_ok

theorem utcMillis_eq_ok {value : Instant} :
    utcMillis label value = .ok text ↔ text = instantText value ∧ IsInstant value := by
  rw [utcMillis, bind_eq_ok]
  constructor
  · rintro ⟨moment, hmoment, hlast⟩
    rw [utcMoment_eq_ok] at hmoment
    rw [instantText, IsInstant, hmoment]
    exact ⟨(Except.ok.inj hlast).symm, rfl⟩
  · rintro ⟨rfl, hvalid⟩
    obtain ⟨moment, hmoment⟩ := Option.isSome_iff_exists.mp hvalid
    refine ⟨moment, utcMoment_eq_ok.mpr hmoment, ?_⟩
    rw [instantText, hmoment]
    rfl

theorem inn_eq_ok : inn label value = .ok text ↔ text = value ∧ IsInn value := digitField_eq_ok

theorem kpp_eq_ok : kpp value = .ok text ↔ text = value ∧ IsKpp value := digitField_eq_ok

theorem tnved_eq_ok : tnved label value = .ok text ↔ text = value ∧ IsTnved value :=
  digitField_eq_ok

theorem country_eq_ok : country label value = .ok text ↔ text = value ∧ IsCountry value :=
  digitField_eq_ok

theorem customsCode_eq_ok : customsCode value = .ok text ↔ text = value ∧ IsCustomsCode value :=
  digitField_eq_ok

theorem decisionCode_eq_ok : decisionCode value = .ok text ↔ text = value ∧ IsDecisionCode value :=
  digitField_eq_ok

theorem senderTaxNumber_eq_ok :
    senderTaxNumber value = .ok text ↔ text = value ∧ IsSenderTaxNumber value :=
  digitField_eq_ok

theorem nonemptyText_eq_ok {value : Option String} :
    nonemptyText label maxLen value = .ok text ↔ value = some text ∧ IsName maxLen text := by
  rw [nonemptyText, bind_eq_ok]
  constructor
  · rintro ⟨given, hgiven, hname⟩
    obtain ⟨rfl, hvalid⟩ := nonempty_eq_ok.mp hname
    exact ⟨found_eq_ok.mp hgiven, hvalid⟩
  · rintro ⟨hgiven, hvalid⟩
    exact ⟨text, found_eq_ok.mpr hgiven, nonempty_eq_ok.mpr ⟨rfl, hvalid⟩⟩

theorem uniqueCises_eq_ok {values out : List String} : uniqueCises values label = .ok out ↔
    out = values ∧ values ≠ [] ∧ (∀ value ∈ values, IsCis value) ∧ values.Nodup := by
  have hmap : ∀ (values : List (String × ℕ)) (out : List String),
      (values.mapM fun item => cis (label ++ "[" ++ toString item.2 ++ "]") item.1) = .ok out ↔
        out = values.map Prod.fst ∧ ∀ item ∈ values, IsCis item.1 := by
    intro values out
    exact Fallible.mapM_map_eq_ok fun item result => cis_eq_ok
  have hvalues : values.zipIdx.map Prod.fst = values := List.zipIdx_map_fst 0 values
  have hmem : (∀ item ∈ values.zipIdx, IsCis item.1) ↔ ∀ value ∈ values, IsCis value := by
    rw [← hvalues, List.forall_mem_map, hvalues]
  constructor
  · intro h
    obtain ⟨⟨⟩, hne, h⟩ := bind_eq_ok.mp h
    obtain ⟨checked, hchecked, h⟩ := bind_eq_ok.mp h
    obtain ⟨⟨⟩, hnodup, hlast⟩ := bind_eq_ok.mp h
    obtain ⟨rfl, hvalid⟩ := (hmap _ _).mp hchecked
    rw [hvalues] at hnodup hlast
    exact ⟨(Except.ok.inj hlast).symm, ensure_eq_ok.mp hne, hmem.mp hvalid, ensure_eq_ok.mp hnodup⟩
  · rintro ⟨rfl, hne, hvalid, hnodup⟩
    refine bind_eq_ok.mpr ⟨(), ensure_eq_ok.mpr hne, ?_⟩
    refine bind_eq_ok.mpr ⟨_, (hmap _ _).mpr ⟨hvalues.symm, hmem.mpr hvalid⟩, ?_⟩
    exact bind_eq_ok.mpr ⟨(), ensure_eq_ok.mpr hnodup, rfl⟩

end Spec

end Wbcz.Turnover

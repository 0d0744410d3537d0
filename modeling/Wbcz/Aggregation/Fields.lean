import Mathlib.Data.List.Dedup
import Wbcz.Errors
import Wbcz.Ledgers.Reconciliation
import Wbcz.Lib.Fallible
import Wbcz.Lib.Text

/-!
# The fields of aggregation documents

The checks of single fields in `aggregation.py`: participants, codes and the identifiers of
aggregates.
-/

namespace Wbcz.Ledgers

/-- The stored text of a package type. -/
def PackageType.value : PackageType → String
  | .unit => "UNIT"
  | .group => "GROUP"
  | .bundle => "BUNDLE"
  | .set => "SET"
  | .box => "BOX"
  | .atk => "ATK"

def PackageType.all : List PackageType := [.unit, .group, .bundle, .set, .box, .atk]

end Wbcz.Ledgers

namespace Wbcz.Aggregation

open Fallible (bind_eq_ok ensure ensure_eq_ok)

def contractError (message : String) : PyError := ⟨.other "AggregationContractError", message⟩

def manualReview (message : String) : PyError := ⟨.other "AggregationManualReview", message⟩

def m6Pg : String := "lp"

/-- `_text`. -/
def text (value label : String) (maxLen : ℕ) : Except PyError String := do
  ensure (value ≠ "" ∧ Text.strip value = value ∧ value.length ≤ maxLen)
    (contractError (label ++ " must be a non-empty trimmed string"))
  pure value

/-- `_inn`. -/
def inn (value label : String) : Except PyError String := do
  let value ← text value label 12
  ensure (Text.isdigit value = true ∧ (value.length = 10 ∨ value.length = 12))
    (contractError (label ++ " must be 10 or 12 digits"))
  pure value

/-- `_code`. -/
def code (value label : String) : Except PyError String := do
  let value ← text value label 74
  ensure ((18 ≤ value.length ∧ value.length ≤ 74) ∧ value.toList.any Text.isSpace = false)
    (contractError (label ++ " must be 18..74 non-whitespace chars"))
  pure value

def aggregateIdentifierAllowedChars : List Char :=
  "ABCDEFGHIJKLMNOPQRSTUVWXYZabcdefghijklmnopqrstuvwxyz0123456789%&'\"()*+,-_./:;<=>?!".toList

/-- `validate_aggregate_identifier`. -/
def validateAggregateIdentifier (value label : String) : Except PyError String := do
  let value ← text value label 74
  ensure (18 ≤ value.length ∧ value.length ≤ 74) (contractError (label ++ " must be 18..74 chars"))
  ensure (value.toList.all (fun c => decide (c ∈ aggregateIdentifierAllowedChars)) = true)
    (contractError (label ++ " contains a character outside the official aggregate identifier set"))
  pure value

/-! ## What passes -/

/-- A trimmed text of at most so many characters. -/
abbrev IsText (value : String) (maxLen : ℕ) : Prop :=
  value ≠ "" ∧ Text.strip value = value ∧ value.length ≤ maxLen

/-- The number of a taxpayer. -/
def IsInn (value : String) : Prop :=
  IsText value 12 ∧ Text.isdigit value = true ∧ (value.length = 10 ∨ value.length = 12)

/-- A code. -/
def IsCode (value : String) : Prop :=
  IsText value 74 ∧ (18 ≤ value.length ∧ value.length ≤ 74) ∧
    value.toList.any Text.isSpace = false

/-- The identifier of an aggregate. -/
def IsAggregateIdentifier (value : String) : Prop :=
  IsText value 74 ∧ (18 ≤ value.length ∧ value.length ≤ 74) ∧
    ∀ c ∈ value.toList, c ∈ aggregateIdentifierAllowedChars

variable {value label result : String} {maxLen : ℕ}

theorem text_eq_ok : text value label maxLen = .ok result ↔
    result = value ∧ IsText value maxLen := by
  constructor
  · intro h
    obtain ⟨⟨⟩, hcheck, h⟩ := bind_eq_ok.mp h
    exact ⟨(Except.ok.inj h).symm, ensure_eq_ok.mp hcheck⟩
  · rintro ⟨rfl, hcheck⟩
    exact bind_eq_ok.mpr ⟨(), ensure_eq_ok.mpr hcheck, rfl⟩

theorem inn_eq_ok : inn value label = .ok result ↔ result = value ∧ IsInn value := by
  constructor
  · intro h
    obtain ⟨trimmed, htext, hrest⟩ := bind_eq_ok.mp h
    obtain ⟨⟨⟩, hcheck, hlast⟩ := bind_eq_ok.mp hrest
    obtain ⟨rfl, hvalid⟩ := text_eq_ok.mp htext
    exact ⟨(Except.ok.inj hlast).symm, hvalid, ensure_eq_ok.mp hcheck⟩
  · rintro ⟨rfl, htext, hcheck⟩
    exact bind_eq_ok.mpr ⟨_, text_eq_ok.mpr ⟨rfl, htext⟩,
      bind_eq_ok.mpr ⟨(), ensure_eq_ok.mpr hcheck, rfl⟩⟩

theorem code_eq_ok : code value label = .ok result ↔ result = value ∧ IsCode value := by
  constructor
  · intro h
    obtain ⟨trimmed, htext, hrest⟩ := bind_eq_ok.mp h
    obtain ⟨⟨⟩, hcheck, hlast⟩ := bind_eq_ok.mp hrest
    obtain ⟨rfl, hvalid⟩ := text_eq_ok.mp htext
    exact ⟨(Except.ok.inj hlast).symm, hvalid, ensure_eq_ok.mp hcheck⟩
  · rintro ⟨rfl, htext, hcheck⟩
    exact bind_eq_ok.mpr ⟨_, text_eq_ok.mpr ⟨rfl, htext⟩,
      bind_eq_ok.mpr ⟨(), ensure_eq_ok.mpr hcheck, rfl⟩⟩

theorem validateAggregateIdentifier_eq_ok : validateAggregateIdentifier value label = .ok result ↔
    result = value ∧ IsAggregateIdentifier value := by
  constructor
  · intro h
    obtain ⟨trimmed, htext, hrest⟩ := bind_eq_ok.mp h
    obtain ⟨⟨⟩, hlength, hrest⟩ := bind_eq_ok.mp hrest
    obtain ⟨⟨⟩, hchars, hlast⟩ := bind_eq_ok.mp hrest
    obtain ⟨rfl, hvalid⟩ := text_eq_ok.mp htext
    refine ⟨(Except.ok.inj hlast).symm, hvalid, ensure_eq_ok.mp hlength, fun c hc => ?_⟩
    exact of_decide_eq_true (List.all_eq_true.mp (ensure_eq_ok.mp hchars) c hc)
  · rintro ⟨rfl, htext, hlength, hchars⟩
    refine bind_eq_ok.mpr ⟨_, text_eq_ok.mpr ⟨rfl, htext⟩, ?_⟩
    refine bind_eq_ok.mpr ⟨(), ensure_eq_ok.mpr hlength, ?_⟩
    refine bind_eq_ok.mpr ⟨(), ensure_eq_ok.mpr ?_, rfl⟩
    exact List.all_eq_true.mpr fun c hc => decide_eq_true (hchars c hc)

/-- A list has one element, perhaps many times, when that element is all that it has. -/
theorem dedup_eq_singleton {α : Type} [DecidableEq α] {l : List α} {a : α} :
    l.dedup = [a] ↔ a ∈ l ∧ ∀ b ∈ l, b = a := by
  constructor
  · intro h
    have hmem : ∀ b, b ∈ l ↔ b = a := fun b => by
      rw [← List.mem_dedup, h, List.mem_singleton]
    exact ⟨(hmem a).mpr rfl, fun b hb => (hmem b).mp hb⟩
  · rintro ⟨ha, hall⟩
    have hreplicate : l = List.replicate l.length a := List.eq_replicate_of_mem hall
    have hlength : l.length ≠ 0 := List.length_pos_of_mem ha |>.ne'
    rw [hreplicate, List.replicate_dedup hlength]

end Wbcz.Aggregation

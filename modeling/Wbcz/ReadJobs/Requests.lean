import Wbcz.Lib.IntText
import Wbcz.Lib.Url
import Wbcz.ReadJobs.Checks

/-!
# Requests of read jobs

What the requests that are built from read payloads have in common: targets with a query, and the
texts of numbers and truth values in it.
-/

namespace Wbcz

/-- A path with a query, where there is one. -/
def withQuery (quoteVia : List Char → List Char) (path : String) (pairs : List Url.Pair) : String :=
  let encoded := Url.urlencode quoteVia pairs
  if encoded = [] then path else path ++ "?" ++ String.ofList encoded

/-- `str(i)`. -/
def intText (i : ℤ) : Except PyError String :=
  match IntText.str? i with
  | some text => .ok text
  | none => .error ⟨.valueError, ""⟩

/-- `int(text)`. -/
def readInt (text : String) : Except PyError ℤ :=
  match IntText.int? text with
  | some i => .ok i
  | none => .error ⟨.valueError, ""⟩

/-- An integer of a payload. -/
def intOf : Json → ℤ
  | .int i => i
  | _ => 0

/-- A text of a payload. -/
def strText (value : Json) : String := value.str?.getD ""

/-- A truth value in a query. -/
def boolText (value : Json) : String := if value.truthy then "true" else "false"

/-- The pair of a text that is given, under its name in the query. -/
def namedPair (normalized : Json) (key name : String) : List Url.Pair :=
  ((normalized.get key).str?.toList).map fun text => (name, text)

/-- An integer that can be written: it has at most 4300 digits. -/
def Writable (i : ℤ) : Prop := (Nat.toDigits 10 i.natAbs).length ≤ IntText.maxDigits

/-- The value is no integer that cannot be written. -/
def IsWritable (value : Json) : Prop := ∀ i, value = .int i → Writable i

theorem intText_eq_ok {i : ℤ} {text : String} :
    intText i = .ok text ↔ Writable i ∧ text = toString i := by
  unfold intText IntText.str? Writable
  by_cases h : (Nat.toDigits 10 i.natAbs).length ≤ IntText.maxDigits
  · rw [if_pos h]
    simp only [Except.ok.injEq, h, true_and]
    exact eq_comm
  · rw [if_neg h]
    simp only [h, false_and, reduceCtorEq]

theorem writable_of_lt {i : ℤ} (h : i.natAbs < 10 ^ 5) : Writable i := by
  have hlength := (Nat.length_toDigits_le_iff (by decide) (by decide)).mpr h
  exact hlength.trans (by decide)

theorem intText_of_lt {i : ℤ} (h : i.natAbs < 10 ^ 5) : intText i = .ok (toString i) :=
  intText_eq_ok.mpr ⟨writable_of_lt h, rfl⟩

section Targets

variable {quoteVia : List Char → List Char} {path : String} {pairs : List Url.Pair}

theorem withQuery_toList (hpairs : pairs ≠ []) : (withQuery quoteVia path pairs).toList =
    path.toList ++ '?' :: Url.urlencode quoteVia pairs := by
  have hencoded : Url.urlencode quoteVia pairs ≠ [] := Url.urlencode_ne_nil hpairs
  unfold withQuery
  simp [if_neg hencoded]

end Targets

end Wbcz

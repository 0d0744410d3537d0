import Mathlib.Data.List.Basic

/-!
# Instants and their RFC 3339 text

A time in UTC by its calendar fields, as `datetime` has them, and the text with microseconds
that stands for it. Two instants with one text are one instant.
-/

/-- A date and a time of day in UTC. -/
structure Instant where
  year : Nat
  month : Nat
  day : Nat
  hour : Nat
  minute : Nat
  second : Nat
  microsecond : Nat
  deriving DecidableEq, Repr

namespace Instant

/-- The date of an instant is before the date of another. -/
def dateBefore (a b : Instant) : Bool :=
  a.year < b.year ||
    (a.year = b.year && (a.month < b.month || (a.month = b.month && a.day < b.day)))

/-- A number with leading zeros. -/
def padded (width n : Nat) : List Char :=
  List.replicate (width - (Nat.toDigits 10 n).length) '0' ++ Nat.toDigits 10 n

/-- `value.strftime("%Y-%m-%dT%H:%M:%S.%fZ")`. -/
def rfc3339 (t : Instant) : String :=
  String.ofList (padded 4 t.year ++ '-' :: (padded 2 t.month ++ '-' :: (padded 2 t.day ++
    'T' :: (padded 2 t.hour ++ ':' :: (padded 2 t.minute ++ ':' :: (padded 2 t.second ++
      '.' :: (padded 6 t.microsecond ++ ['Z'])))))))

example : rfc3339 ⟨2024, 5, 6, 7, 8, 9, 120⟩ = "2024-05-06T07:08:09.000120Z" := by
  decide +kernel

theorem isDigit_of_mem_padded {width n : Nat} {c : Char} (h : c ∈ padded width n) :
    c.isDigit = true := by
  rcases List.mem_append.mp h with h | h
  · rw [(List.mem_replicate.mp h).2]
    rfl
  · exact Nat.isDigit_of_mem_toDigits (by decide) (by decide) h

theorem ofDigitChars_padded (width n : Nat) : Nat.ofDigitChars 10 (padded width n) 0 = n := by
  rw [padded, Nat.ofDigitChars_append, Nat.ofDigitChars_replicate_zero, Nat.mul_zero,
    Nat.ofDigitChars_ten_toDigits]

/-- A padded number ends where its separator stands. -/
theorem padded_append_inj {width m n : Nat} {c : Char} {rest others : List Char}
    (hc : c.isDigit = false) (h : padded width m ++ c :: rest = padded width n ++ c :: others) :
    m = n ∧ rest = others := by
  have hread : ∀ (k : Nat) (tail : List Char),
      (padded width k ++ c :: tail).takeWhile Char.isDigit = padded width k ∧
        (padded width k ++ c :: tail).dropWhile Char.isDigit = c :: tail := by
    intro k tail
    have hdigits : ∀ d ∈ padded width k, d.isDigit = true := fun d hd => isDigit_of_mem_padded hd
    rw [List.takeWhile_append_of_pos hdigits, List.dropWhile_append_of_pos hdigits]
    simp [hc]
  have htake : padded width m = padded width n := by
    rw [← (hread m rest).1, h, (hread n others).1]
  have hdrop : c :: rest = c :: others := by
    rw [← (hread m rest).2, h, (hread n others).2]
  refine ⟨?_, (List.cons.inj hdrop).2⟩
  rw [← ofDigitChars_padded width m, htake, ofDigitChars_padded]

/-- One text, one instant. -/
theorem rfc3339_injective {a b : Instant} (h : rfc3339 a = rfc3339 b) : a = b := by
  have htext := String.ofList_injective h
  obtain ⟨hyear, htext⟩ := padded_append_inj (by decide) htext
  obtain ⟨hmonth, htext⟩ := padded_append_inj (by decide) htext
  obtain ⟨hday, htext⟩ := padded_append_inj (by decide) htext
  obtain ⟨hhour, htext⟩ := padded_append_inj (by decide) htext
  obtain ⟨hminute, htext⟩ := padded_append_inj (by decide) htext
  obtain ⟨hsecond, htext⟩ := padded_append_inj (by decide) htext
  obtain ⟨hmicrosecond, -⟩ := padded_append_inj (by decide) htext
  cases a
  cases b
  simp_all

end Instant

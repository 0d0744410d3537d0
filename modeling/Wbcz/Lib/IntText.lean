import Wbcz.Lib.Text

/-!
# Integers in texts

`int` of a text and `str` of an integer. Both refuse more than 4300 digits.
-/

namespace IntText

/-- How many digits are read or written. -/
def maxDigits : ℕ := 4300

/-- `str(i)`, where it does not raise. -/
def str? (i : ℤ) : Option String :=
  if (Nat.toDigits 10 i.natAbs).length ≤ maxDigits then some (toString i) else none

/-- The white space that `int` strips, after that of other scripts was made a blank. -/
def isBlank (c : Char) : Bool := (9 ≤ c.toNat && c.toNat ≤ 13) || c = ' '

/-- Digits with single underscores between them. -/
def digits? (cs : List Char) : Option ℕ :=
  let groups := cs.splitOn '_'
  if (∀ group ∈ groups, group ≠ [] ∧ group.all Text.isAsciiDigit = true) ∧
      groups.flatten.length ≤ maxDigits then
    some (Nat.ofDigitChars 10 groups.flatten 0)
  else none

/-- The characters between blanks. -/
def stripBlanks (cs : List Char) : List Char :=
  ((cs.dropWhile isBlank).reverse.dropWhile isBlank).reverse

/-- `int(text)`, where it does not raise. -/
def int? (text : String) : Option ℤ := do
  let cs ← text.toList.mapM Text.asciiOf
  match stripBlanks cs with
  | '-' :: digits => (digits? digits).map fun n => -(n : ℤ)
  | '+' :: digits => (digits? digits).map fun n => (n : ℤ)
  | digits => (digits? digits).map fun n => (n : ℤ)

example : int? " +1_0 " = some 10 := by decide

/-! ## Digits of a number -/

theorem isAsciiDigit_of_mem {n : ℕ} {c : Char} (h : c ∈ Nat.toDigits 10 n) :
    Text.isAsciiDigit c = true := by
  have hdigit := Nat.isDigit_of_mem_toDigits (by decide) (by decide) h
  simp only [Char.isDigit, Bool.and_eq_true, decide_eq_true_eq, ge_iff_le] at hdigit
  have hlow : 48 ≤ c.toNat := hdigit.1
  have hhigh : c.toNat ≤ 57 := hdigit.2
  simp [Text.isAsciiDigit, hlow, hhigh]

end IntText

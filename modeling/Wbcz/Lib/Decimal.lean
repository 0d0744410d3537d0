import Mathlib.Algebra.Order.Field.Power
import Mathlib.Algebra.Order.Field.Rat
import Mathlib.Data.List.TakeWhile
import Mathlib.Tactic.Linarith
import Mathlib.Tactic.NormNum
import Mathlib.Tactic.Ring
import Wbcz.Lib.Text

/-!
# Decimal numbers

`Decimal` of Python with its default context: 28 digits, ties to the even digit, and exponents of
a first digit up to 999999. A result beyond these raises `Overflow`; one that is too close to zero
is rounded. The numbers that are read, and those that are compared, are not rounded.
-/

/-- A decimal number. -/
inductive Decimal where
  | finite (negative : Bool) (coefficient : ℕ) (exponent : ℤ)
  | infinity (negative : Bool)
  | nan
  deriving DecidableEq, Repr

namespace Decimal

/-- `is_finite`. -/
def isFinite : Decimal → Bool
  | finite .. => true
  | _ => false

/-! ## Rounding -/

/-- The number of the digits of a coefficient. -/
def digitCount (coefficient : ℕ) : ℕ := (Nat.toDigits 10 coefficient).length

/-- The exponent of the first digit. -/
def adjusted (coefficient : ℕ) (exponent : ℤ) : ℤ := exponent + digitCount coefficient - 1

/-- A coefficient without its last digits, to the nearest one, and to the even one of two. -/
def roundHalfEven (coefficient count : ℕ) : ℕ :=
  if digitCount coefficient < count then 0
  else
    let quotient := coefficient / 10 ^ count
    let twice := 2 * (coefficient % 10 ^ count)
    if 10 ^ count < twice ∨ twice = 10 ^ count ∧ quotient % 2 = 1 then quotient + 1 else quotient

/-- The digits of a result. -/
def precision : ℕ := 28

/-- The greatest exponent of a first digit. -/
def emax : ℤ := 999999

/-- The least exponent of a last digit. -/
def etiny : ℤ := -1000026

/-- The result of an operation; `none` where it raises `Overflow`. -/
def finalize (negative : Bool) (coefficient : ℕ) (exponent : ℤ) : Option Decimal :=
  if coefficient = 0 then some (finite negative 0 (max etiny (min exponent emax)))
  else
    let count := max (digitCount coefficient - precision) (etiny - exponent).toNat
    let rounded := roundHalfEven coefficient count
    -- rounding up may give one digit more
    let (rounded, exponent) :=
      if digitCount rounded ≤ precision then (rounded, exponent + count)
      else (rounded / 10, exponent + count + 1)
    if rounded ≠ 0 ∧ emax < adjusted rounded exponent then none
    else some (finite negative rounded exponent)

/-- `abs`. -/
def abs : Decimal → Option Decimal
  | finite _ coefficient exponent => finalize false coefficient exponent
  | infinity _ => some (infinity false)
  | nan => some nan

/-- The product with a natural number. -/
def mulNat (factor : ℕ) : Decimal → Option Decimal
  | finite negative coefficient exponent => finalize negative (coefficient * factor) exponent
  | other => some other

/-- A coefficient that is rounded, or filled up with zeros, to an exponent. -/
def rescaled (coefficient : ℕ) (exponent target : ℤ) : ℕ :=
  if coefficient = 0 then 0
  else if target ≤ exponent then coefficient * 10 ^ (exponent - target).toNat
  else roundHalfEven coefficient (target - exponent).toNat

/-- `quantize`; `none` where it raises `InvalidOperation`. -/
def quantize (target : ℤ) : Decimal → Option Decimal
  | finite negative coefficient exponent =>
    if coefficient ≠ 0 ∧ (precision : ℤ) < adjusted coefficient exponent - target + 1 then none
    else
      let rounded := rescaled coefficient exponent target
      if digitCount rounded ≤ precision then some (finite negative rounded target) else none
  | _ => none

/-- `to_integral_value` of a finite number. -/
def toIntegralValue : Decimal → Decimal
  | finite negative coefficient exponent =>
    if 0 ≤ exponent then finite negative coefficient exponent
    else finite negative (rescaled coefficient exponent 0) 0
  | other => other

/-- `int` of a finite number without a fraction. -/
def toInt : Decimal → ℤ
  | finite negative coefficient exponent =>
    let n : ℤ := coefficient * 10 ^ exponent.toNat
    if negative then -n else n
  | _ => 0

/-! ## Comparing -/

/-- A number that is finite in units of a power of ten that does not exceed its last digit. -/
def units (x : Decimal) (exponent : ℤ) : ℤ :=
  match x with
  | finite negative coefficient own =>
    let n : ℤ := coefficient * 10 ^ (own - exponent).toNat
    if negative then -n else n
  | _ => 0

/-- The exponent of the last digit. -/
def exponent : Decimal → ℤ
  | finite _ _ exponent => exponent
  | _ => 0

/-- `==` of finite numbers. -/
def same (x y : Decimal) : Bool :=
  let low := min x.exponent y.exponent
  x.units low = y.units low

/-- `<` of finite numbers. -/
def less (x y : Decimal) : Bool :=
  let low := min x.exponent y.exponent
  x.units low < y.units low

/-- The value of a finite number. -/
def value : Decimal → ℚ
  | finite negative coefficient exponent =>
    (if negative then -1 else 1) * (coefficient * (10 : ℚ) ^ exponent)
  | _ => 0

theorem value_eq_units (x : Decimal) {low : ℤ} (h : low ≤ x.exponent) :
    x.value = x.units low * (10 : ℚ) ^ low := by
  cases x with
  | finite negative coefficient own =>
    have hpow : (10 : ℚ) ^ own = (10 : ℚ) ^ (own - low).toNat * (10 : ℚ) ^ low := by
      have h : low ≤ own := h
      rw [← zpow_natCast, ← zpow_add₀ (by norm_num), Int.toNat_of_nonneg (by omega)]
      exact congrArg _ (by omega)
    cases negative with
    | false =>
      simp only [value, units, hpow, Bool.false_eq_true, if_false]
      push_cast
      ring
    | true =>
      simp only [value, units, hpow, if_true]
      push_cast
      ring
  | infinity negative => simp [value, units]
  | nan => simp [value, units]

theorem zpow_ten_pos (n : ℤ) : (0 : ℚ) < (10 : ℚ) ^ n := zpow_pos (by norm_num) n

/-- Numbers are compared by their value. -/
theorem same_iff (x y : Decimal) : x.same y = true ↔ x.value = y.value := by
  rw [same, decide_eq_true_iff, value_eq_units x (Int.min_le_left _ _),
    value_eq_units y (Int.min_le_right x.exponent _),
    mul_left_inj' (zpow_ten_pos _).ne', Int.cast_inj]

theorem less_iff (x y : Decimal) : x.less y = true ↔ x.value < y.value := by
  rw [less, decide_eq_true_iff, value_eq_units x (Int.min_le_left _ _),
    value_eq_units y (Int.min_le_right x.exponent _),
    mul_lt_mul_iff_left₀ (zpow_ten_pos _), Int.cast_lt]

/-! ## Rounding without loss -/

section Exact

variable {negative : Bool} {coefficient count : ℕ} {exponent target : ℤ}

theorem digitCount_pos (n : ℕ) : 0 < digitCount n := Nat.length_toDigits_pos

theorem digitCount_le_iff {n k : ℕ} (hk : 0 < k) : digitCount n ≤ k ↔ n < 10 ^ k :=
  Nat.length_toDigits_le_iff (by decide) hk

/-- A multiple of a power of ten has one digit more for each factor. -/
theorem digitCount_mul_pow {n : ℕ} (hn : n ≠ 0) (k : ℕ) :
    digitCount (n * 10 ^ k) = digitCount n + k := by
  have hpow : 0 < 10 ^ k := Nat.pow_pos (by decide)
  refine eq_of_forall_ge_iff fun m => ?_
  rcases Nat.eq_zero_or_pos m with rfl | hm
  · have h1 := digitCount_pos (n * 10 ^ k)
    have h2 := digitCount_pos n
    omega
  · rw [digitCount_le_iff hm]
    rcases Nat.lt_or_ge k m with hk | hk
    · obtain ⟨d, rfl⟩ : ∃ d, m = d + k := ⟨m - k, by omega⟩
      rw [Nat.pow_add, Nat.mul_lt_mul_right hpow, ← digitCount_le_iff (by omega)]
      omega
    · have hge : 10 ^ m ≤ n * 10 ^ k :=
        Nat.le_trans (Nat.pow_le_pow_right (by decide) hk)
          (Nat.le_mul_of_pos_left _ (Nat.pos_of_ne_zero hn))
      have := digitCount_pos n
      omega

/-- Zeros at the end are dropped without loss. -/
theorem roundHalfEven_mul_pow (n count : ℕ) : roundHalfEven (n * 10 ^ count) count = n := by
  have hpow : 0 < 10 ^ count := Nat.pow_pos (by decide)
  rw [roundHalfEven]
  by_cases hcount : digitCount (n * 10 ^ count) < count
  · rw [if_pos hcount]
    by_contra hn
    rw [digitCount_mul_pow (Ne.symm hn)] at hcount
    omega
  · rw [if_neg hcount, Nat.mul_mod_left, Nat.mul_div_cancel _ hpow]
    exact if_neg (by omega)

theorem value_mul_pow (negative : Bool) (n k : ℕ) (exponent : ℤ) :
    (finite negative (n * 10 ^ k) exponent).value = (finite negative n (exponent + k)).value := by
  rw [value, value, zpow_add₀ (by norm_num), zpow_natCast]
  push_cast
  ring

/-- A number that is a multiple of a power of ten, and has no more digits above it than a result
may have, is the result. -/
theorem finalize_exact (negative : Bool) (htarget : etiny ≤ target)
    (hemax : coefficient ≠ 0 → adjusted coefficient exponent ≤ emax)
    (hdigits : coefficient ≠ 0 → adjusted coefficient exponent - target + 1 ≤ precision)
    (hmultiple : target ≤ exponent ∨ 10 ^ (target - exponent).toNat ∣ coefficient) :
    ∃ n own, finalize negative coefficient exponent = some (finite negative n own) ∧
      (finite negative n own).value = (finite negative coefficient exponent).value := by
  by_cases hzero : coefficient = 0
  · subst hzero
    exact ⟨_, _, if_pos rfl, by simp [value]⟩
  have hemax := hemax hzero
  have hdigits := hdigits hzero
  unfold adjusted at hemax hdigits
  -- the digits that go are zeros
  let count := max (digitCount coefficient - precision) (etiny - exponent).toNat
  have hdvd : 10 ^ count ∣ coefficient := by
    rcases hmultiple with hle | hdvd
    · have hcount : count = 0 := by omega
      rw [hcount]
      exact one_dvd _
    · exact (Nat.pow_dvd_pow 10 (by omega)).trans hdvd
  obtain ⟨n, hn⟩ := hdvd
  rw [Nat.mul_comm] at hn
  have hnz : n ≠ 0 := by
    rintro rfl
    exact hzero (by rw [hn, Nat.zero_mul])
  have hcounts : digitCount coefficient = digitCount n + count := by
    rw [hn, digitCount_mul_pow hnz]
  have hround : roundHalfEven coefficient count = n := by
    rw [hn, roundHalfEven_mul_pow]
  have hfit : digitCount n ≤ precision := by omega
  refine ⟨n, exponent + count, ?_, ?_⟩
  · rw [finalize, if_neg hzero]
    simp only [show max (digitCount coefficient - precision) (etiny - exponent).toNat = count from
      rfl, hround, if_pos hfit]
    rw [if_neg]
    rintro ⟨-, hlarge⟩
    rw [adjusted] at hlarge
    omega
  · rw [hn, value_mul_pow]

/-- A multiple of a power of ten with so many digits above it stays exact when it is multiplied by
another power of ten. -/
theorem mulNat_pow (negative : Bool) (k : ℕ) (htarget : etiny ≤ target + k)
    (hemax : coefficient ≠ 0 → adjusted coefficient exponent + k ≤ emax)
    (hdigits : coefficient ≠ 0 → adjusted coefficient exponent - target + 1 ≤ precision)
    (hmultiple : target ≤ exponent ∨ 10 ^ (target - exponent).toNat ∣ coefficient) :
    ∃ n own, (finite negative coefficient exponent).mulNat (10 ^ k) = some (finite negative n own) ∧
      (finite negative n own).value = 10 ^ k * (finite negative coefficient exponent).value := by
  have hadjusted : coefficient ≠ 0 →
      adjusted (coefficient * 10 ^ k) exponent = adjusted coefficient exponent + k := by
    intro hzero
    rw [adjusted, adjusted, digitCount_mul_pow hzero]
    push_cast
    ring
  have hnonzero : coefficient * 10 ^ k ≠ 0 → coefficient ≠ 0 := by
    rintro h rfl
    exact h (Nat.zero_mul _)
  have hmultiple : target + k ≤ exponent ∨
      10 ^ (target + k - exponent).toNat ∣ coefficient * 10 ^ k := by
    rcases hmultiple with hle | hdvd
    · exact .inr ((Nat.pow_dvd_pow 10 (by omega)).trans (Nat.dvd_mul_left _ _))
    · refine .inr ((Nat.pow_dvd_pow 10 ?_).trans
        ((Nat.pow_add 10 _ k).dvd.trans (Nat.mul_dvd_mul_right hdvd _)))
      omega
  obtain ⟨n, own, hfinal, hvalue⟩ := finalize_exact negative htarget
    (fun h => by rw [hadjusted (hnonzero h)]; exact hemax (hnonzero h))
    (fun h => by rw [hadjusted (hnonzero h)]; have := hdigits (hnonzero h); omega) hmultiple
  refine ⟨n, own, hfinal, ?_⟩
  rw [hvalue, value, value]
  push_cast
  ring

/-- A number that is one of a greater exponent is a multiple. -/
theorem dvd_of_same_finite {n : ℕ} (hlt : exponent < target)
    (hsame : (finite negative coefficient exponent).same (finite negative n target) = true) :
    10 ^ (target - exponent).toNat ∣ coefficient := by
  have hlow : min exponent target = exponent := by omega
  have hunits := of_decide_eq_true hsame
  simp only [Decimal.exponent, units, hlow, Int.sub_self, Int.toNat_zero, pow_zero,
    mul_one] at hunits
  have hcoefficient : (coefficient : ℤ) = n * 10 ^ (target - exponent).toNat := by
    cases negative with
    | false => exact hunits
    | true => exact Int.neg_inj.mp hunits
  refine ⟨n, ?_⟩
  rw [Nat.mul_comm]
  exact_mod_cast hcoefficient

/-- What is not changed by rounding to an exponent is a multiple of that power of ten. -/
theorem of_same_quantize {x y : Decimal} (hquantize : x.quantize target = some y)
    (hsame : x.same y = true) :
    ∃ negative coefficient exponent n, x = finite negative coefficient exponent ∧
      y = finite negative n target ∧ digitCount n ≤ precision ∧
      (coefficient ≠ 0 → adjusted coefficient exponent - target + 1 ≤ precision) ∧
      (target ≤ exponent ∨ 10 ^ (target - exponent).toNat ∣ coefficient) := by
  cases x with
  | infinity _ => cases hquantize
  | nan => cases hquantize
  | finite negative coefficient exponent =>
    by_cases hlarge : coefficient ≠ 0 ∧
        (precision : ℤ) < adjusted coefficient exponent - target + 1
    · rw [quantize, if_pos hlarge] at hquantize
      cases hquantize
    by_cases hfit : digitCount (rescaled coefficient exponent target) ≤ precision
    · simp only [quantize, if_neg hlarge, if_pos hfit, Option.some.injEq] at hquantize
      subst hquantize
      refine ⟨negative, coefficient, exponent, _, rfl, rfl, hfit, ?_, ?_⟩
      · intro hzero
        by_contra hmore
        exact hlarge ⟨hzero, by omega⟩
      · rcases lt_or_ge exponent target with hlt | hge
        · exact .inr (dvd_of_same_finite hlt hsame)
        · exact .inl hge
    · simp only [quantize, if_neg hlarge, if_neg hfit] at hquantize
      cases hquantize

/-- A number whose value is a natural number is rounded to it. -/
theorem toIntegralValue_of_value {n m : ℕ}
    (h : (finite negative n exponent).value = (if negative then -1 else 1) * m) :
    (finite negative n exponent).same (finite negative n exponent).toIntegralValue = true ∧
      (finite negative n exponent).toIntegralValue.toInt =
        if negative then -(m : ℤ) else m := by
  have hsign : (if negative then (-1 : ℚ) else 1) ≠ 0 := by cases negative <;> norm_num
  have hvalue : (n : ℚ) * (10 : ℚ) ^ exponent = m := mul_left_cancel₀ hsign h
  rcases lt_or_ge exponent 0 with hneg | hnonneg
  · -- the fraction is zeros
    obtain ⟨k, hk⟩ : ∃ k : ℕ, exponent = -k := ⟨exponent.natAbs, by omega⟩
    subst hk
    have hn : n = m * 10 ^ k := by
      rw [zpow_neg, zpow_natCast, ← div_eq_mul_inv, div_eq_iff (by positivity)] at hvalue
      exact_mod_cast hvalue
    have hrescaled : rescaled n (-k) 0 = m := by
      rw [rescaled]
      split_ifs with hzero hle
      · rw [hn] at hzero
        exact (Nat.mul_eq_zero.mp hzero).elim Eq.symm fun h => absurd h (by positivity)
      · omega
      · rw [show (0 - -(k : ℤ)).toNat = k by omega, hn, roundHalfEven_mul_pow]
    rw [toIntegralValue, if_neg (by omega), hrescaled]
    refine ⟨(same_iff _ _).mpr (h.trans ?_), ?_⟩
    · simp [value]
    · simp [toInt]
  · obtain ⟨k, rfl⟩ := Int.eq_ofNat_of_zero_le hnonneg
    have hn : n * 10 ^ k = m := by
      rw [zpow_natCast] at hvalue
      exact_mod_cast hvalue
    rw [toIntegralValue, if_pos hnonneg]
    refine ⟨(same_iff _ _).mpr rfl, ?_⟩
    rw [toInt, Int.toNat_natCast, ← hn]
    push_cast
    rfl

/-- A number of the exponent stays as it is where a result has as many digits. -/
theorem quantize_self (hdigits : digitCount coefficient ≤ precision) :
    (finite negative coefficient target).quantize target =
      some (finite negative coefficient target) := by
  have hrescaled : rescaled coefficient target target = coefficient := by
    rw [rescaled, if_pos le_rfl, Int.sub_self, Int.toNat_zero, pow_zero, mul_one]
    split_ifs with hzero
    · exact hzero.symm
    · rfl
  have hlarge : ¬ (coefficient ≠ 0 ∧
      (precision : ℤ) < adjusted coefficient target - target + 1) := by
    rw [adjusted]
    omega
  simp only [quantize, if_neg hlarge, hrescaled, if_pos hdigits]

end Exact

/-! ## Reading -/

/-- `nan` or `snan` with digits behind it. -/
def isNan (cs : List Char) : Bool :=
  (['n', 'a', 'n'].isPrefixOf cs && (cs.drop 3).all Char.isDigit) ||
    (['s', 'n', 'a', 'n'].isPrefixOf cs && (cs.drop 4).all Char.isDigit)

/-- The exponent of a text behind its digits. -/
def readExponent : List Char → Option ℤ
  | [] => some 0
  | c :: cs =>
    if c = 'e' ∨ c = 'E' then
      let (negative, digits) := match cs with
        | '-' :: cs => (true, cs)
        | '+' :: cs => (false, cs)
        | cs => (false, cs)
      if ¬ digits.isEmpty ∧ digits.all Char.isDigit then
        let n : ℤ := Nat.ofDigitChars 10 digits 0
        some (if negative then -n else n)
      else none
    else none

/-- The numbers that are kept without rounding. -/
def isRepresentable (coefficient : ℕ) (exponent : ℤ) : Bool :=
  -1999999999999999997 ≤ exponent &&
    (if coefficient = 0 then exponent else adjusted coefficient exponent) ≤ 999999999999999999

/-- A number without its sign. -/
def readUnsigned (negative : Bool) (cs : List Char) : Option Decimal :=
  let lower := cs.map Char.toLower
  if lower = ['i', 'n', 'f'] ∨ lower = ['i', 'n', 'f', 'i', 'n', 'i', 't', 'y'] then
    some (infinity negative)
  else if isNan lower then some nan
  else do
    let whole := cs.takeWhile Char.isDigit
    let rest := cs.dropWhile Char.isDigit
    let (fraction, rest) := match rest with
      | '.' :: rest => (rest.takeWhile Char.isDigit, rest.dropWhile Char.isDigit)
      | rest => ([], rest)
    let digits := whole ++ fraction
    let written ← readExponent rest
    let coefficient := Nat.ofDigitChars 10 digits 0
    let exponent := written - fraction.length
    if ¬ digits.isEmpty ∧ isRepresentable coefficient exponent then
      some (finite negative coefficient exponent)
    else none

/-- A number after its sign. -/
def readSigned : List Char → Option Decimal
  | '-' :: cs => readUnsigned true cs
  | '+' :: cs => readUnsigned false cs
  | cs => readUnsigned false cs

/-- `Decimal(text)`; `none` where it raises `InvalidOperation`. -/
def read? (text : List Char) : Option Decimal := do
  let ascii ← ((Text.stripList text).filter fun c => c ≠ '_').mapM Text.asciiOf
  readSigned ascii

/-! ## The text of a number of hundredths -/

/-- `format(number, ".2f")` of a number of hundredths. -/
def formatHundredths (negative : Bool) (hundredths : ℕ) : List Char :=
  (if negative then ['-'] else []) ++ (Nat.toDigits 10 (hundredths / 100) ++
    ['.', Nat.digitChar (hundredths / 10 % 10), Nat.digitChar (hundredths % 10)])

section RoundTrip

/-- The characters of the text of a number. -/
def IsNumberChar (c : Char) : Prop := c.isDigit = true ∨ c = '.' ∨ c = '-'

variable {c : Char} {cs : List Char}

theorem toNat_of_isDigit (hc : c.isDigit = true) : 48 ≤ c.toNat ∧ c.toNat ≤ 57 :=
  Char.isDigit_iff_toNat.mp hc

theorem toNat_of_isNumberChar (hc : IsNumberChar c) : 45 ≤ c.toNat ∧ c.toNat ≤ 57 := by
  rcases hc with hc | rfl | rfl
  · have := toNat_of_isDigit hc
    omega
  · decide
  · decide

theorem asciiOf_of_isNumberChar (hc : IsNumberChar c) : Text.asciiOf c = some c := by
  have := toNat_of_isNumberChar hc
  rw [Text.asciiOf, if_pos (by omega)]

theorem isSpace_of_isNumberChar (hc : IsNumberChar c) : Text.isSpace c = false := by
  have := toNat_of_isNumberChar hc
  simp only [Text.isSpace, Bool.or_eq_false_iff, Bool.and_eq_false_iff, decide_eq_false_iff_not]
  omega

theorem ne_underscore_of_isNumberChar (hc : IsNumberChar c) : c ≠ '_' := by
  rintro rfl
  have := (toNat_of_isNumberChar hc).2
  exact absurd this (by decide)

theorem mapM_asciiOf (h : ∀ c ∈ cs, IsNumberChar c) : cs.mapM Text.asciiOf = some cs := by
  induction cs with
  | nil => rfl
  | cons c cs ih =>
    rw [List.mapM_cons, asciiOf_of_isNumberChar (h c List.mem_cons_self),
      ih fun d hd => h d (List.mem_cons_of_mem c hd)]
    rfl

/-- A text without white space and underscores is read as it is. -/
theorem read?_eq (h : ∀ c ∈ cs, IsNumberChar c) : read? cs = readSigned cs := by
  have hstrip : Text.stripList cs = cs := by
    refine Text.stripList_of_ends ?_ ?_
    · intro c hc
      exact isSpace_of_isNumberChar (h c (List.mem_of_mem_head? hc))
    · intro c hc
      exact isSpace_of_isNumberChar (h c (List.mem_of_mem_getLast? hc))
  have hfilter : cs.filter (fun c => c ≠ '_') = cs := by
    refine List.filter_eq_self.mpr fun c hc => ?_
    exact decide_eq_true (ne_underscore_of_isNumberChar (h c hc))
  rw [read?, hstrip, hfilter, mapM_asciiOf h]
  rfl

theorem isDigit_digitChar_mod (n : ℕ) : (Nat.digitChar (n % 10)).isDigit = true := by
  have h : ∀ k < 10, (Nat.digitChar k).isDigit = true := by decide
  exact h _ (Nat.mod_lt n (by decide))

theorem isDigit_toDigits (n : ℕ) : ∀ c ∈ Nat.toDigits 10 n, c.isDigit = true := fun _ hc =>
  Nat.isDigit_of_mem_toDigits (by decide) (by decide) hc

theorem isNumberChar_formatHundredths (negative : Bool) (hundredths : ℕ) :
    ∀ c ∈ formatHundredths negative hundredths, IsNumberChar c := by
  intro c hc
  simp only [formatHundredths, List.mem_append, List.mem_cons, List.not_mem_nil, or_false] at hc
  rcases hc with hc | hc | rfl | rfl | rfl
  · cases negative
    · cases hc
    · exact .inr (.inr (List.mem_singleton.mp hc))
  · exact .inl (isDigit_toDigits _ c hc)
  · exact .inr (.inl rfl)
  · exact .inl (isDigit_digitChar_mod _)
  · exact .inl (isDigit_digitChar_mod _)

theorem toLower_of_isDigit (hc : c.isDigit = true) : c.toLower = c := by
  have h := toNat_of_isDigit hc
  have hupper : ¬ (c.val ≥ 'A'.val ∧ c.val ≤ 'Z'.val) := by
    rintro ⟨hge, -⟩
    have hge : 65 ≤ c.toNat := UInt32.le_iff_toNat_le.mp hge
    omega
  exact dif_neg hupper

/-- A text that starts with a digit is no word. -/
theorem not_word_of_isDigit (hc : c.isDigit = true) (cs : List Char) :
    (¬ ((c :: cs).map Char.toLower = ['i', 'n', 'f'] ∨
      (c :: cs).map Char.toLower = ['i', 'n', 'f', 'i', 'n', 'i', 't', 'y'])) ∧
    isNan ((c :: cs).map Char.toLower) = false := by
  have hi : c ≠ 'i' := by rintro rfl; exact absurd hc (by decide)
  have hn : 'n' ≠ c := by rintro rfl; exact absurd hc (by decide)
  have hs : 's' ≠ c := by rintro rfl; exact absurd hc (by decide)
  rw [List.map_cons, toLower_of_isDigit hc]
  constructor
  · simp [hi]
  · simp [isNan, List.isPrefixOf, hn, hs]

/-- Digits, a point and digits. -/
theorem readUnsigned_digits {whole fraction : List Char} (negative : Bool) (hwhole : whole ≠ [])
    (hwholeDigits : ∀ c ∈ whole, c.isDigit = true)
    (hfractionDigits : ∀ c ∈ fraction, c.isDigit = true)
    (hrepresentable : isRepresentable (Nat.ofDigitChars 10 (whole ++ fraction) 0)
      (-fraction.length) = true) :
    readUnsigned negative (whole ++ '.' :: fraction) =
      some (finite negative (Nat.ofDigitChars 10 (whole ++ fraction) 0) (-fraction.length)) := by
  have htake : (whole ++ '.' :: fraction).takeWhile Char.isDigit = whole := by
    rw [List.takeWhile_append_of_pos hwholeDigits]
    exact List.append_nil _
  have hdrop : (whole ++ '.' :: fraction).dropWhile Char.isDigit = '.' :: fraction := by
    rw [List.dropWhile_append_of_pos hwholeDigits]
    rfl
  have htakeFraction : fraction.takeWhile Char.isDigit = fraction :=
    List.takeWhile_eq_self_iff.mpr hfractionDigits
  have hdropFraction : fraction.dropWhile Char.isDigit = [] :=
    List.dropWhile_eq_nil_iff.mpr hfractionDigits
  have hdigits : (whole ++ fraction).isEmpty = false := by
    cases whole with
    | nil => exact absurd rfl hwhole
    | cons c cs => rfl
  obtain ⟨c, cs, rfl⟩ := List.exists_cons_of_ne_nil hwhole
  obtain ⟨hword, hnan⟩ := not_word_of_isDigit (hwholeDigits c List.mem_cons_self)
    (cs ++ '.' :: fraction)
  rw [List.cons_append] at htake hdrop ⊢
  rw [readUnsigned, if_neg hword, if_neg (by rw [hnan]; exact Bool.false_ne_true)]
  simp only [htake, hdrop, htakeFraction, hdropFraction, readExponent, Option.bind_eq_bind,
    Option.bind_some, zero_sub, hdigits, hrepresentable]
  rfl

/-- The digits of the hundredths. -/
theorem ofDigitChars_hundredths (hundredths : ℕ) :
    Nat.ofDigitChars 10 (Nat.toDigits 10 (hundredths / 100) ++
      [Nat.digitChar (hundredths / 10 % 10), Nat.digitChar (hundredths % 10)]) 0 = hundredths := by
  rw [Nat.ofDigitChars_append, Nat.ofDigitChars_ten_toDigits,
    Nat.ofDigitChars_cons_digitChar_of_lt_ten (by omega),
    Nat.ofDigitChars_cons_digitChar_of_lt_ten (by omega), Nat.ofDigitChars_nil]
  omega

/-- The numbers of an operation's digits are kept. -/
theorem isRepresentable_hundredths {hundredths : ℕ} (hdigits : digitCount hundredths ≤ precision) :
    isRepresentable hundredths (-2) = true := by
  unfold precision at hdigits
  rw [isRepresentable, Bool.and_eq_true, decide_eq_true_iff, decide_eq_true_iff, adjusted]
  split_ifs <;> omega

/-- A number of hundredths is read from its text. -/
theorem read?_formatHundredths (negative : Bool) {hundredths : ℕ}
    (hdigits : digitCount hundredths ≤ precision) :
    read? (formatHundredths negative hundredths) = some (finite negative hundredths (-2)) := by
  rw [read?_eq (isNumberChar_formatHundredths negative hundredths)]
  have hread : readUnsigned negative (Nat.toDigits 10 (hundredths / 100) ++
      ['.', Nat.digitChar (hundredths / 10 % 10), Nat.digitChar (hundredths % 10)]) =
        some (finite negative hundredths (-2)) := by
    refine (readUnsigned_digits negative Nat.toDigits_ne_nil (isDigit_toDigits _) ?_ ?_).trans ?_
    · simp only [List.forall_mem_cons, isDigit_digitChar_mod, true_and]
      exact fun _ h => nomatch h
    · rw [ofDigitChars_hundredths]
      exact isRepresentable_hundredths hdigits
    · rw [ofDigitChars_hundredths]
      rfl
  cases negative with
  | true => exact hread
  | false =>
    -- the first character is a digit, and no sign
    obtain ⟨c, cs, hcs⟩ := List.exists_cons_of_ne_nil
      (Nat.toDigits_ne_nil (n := hundredths / 100) (b := 10))
    have hc : c.isDigit = true := isDigit_toDigits _ c (hcs ▸ List.mem_cons_self)
    have hc := toNat_of_isDigit hc
    rw [formatHundredths, if_neg Bool.false_ne_true, List.nil_append]
    rw [hcs, List.cons_append] at hread ⊢
    unfold readSigned
    split
    · rename_i heq
      cases heq
      exact absurd hc (by decide)
    · rename_i heq
      cases heq
      exact absurd hc (by decide)
    · exact hread

end RoundTrip

end Decimal

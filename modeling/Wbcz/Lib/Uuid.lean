import Mathlib.Data.List.Basic
import Mathlib.Tactic.Ring
import Wbcz.Lib.Text

/-!
# UUIDs

`UUID(text)` and `str(uuid)`. The text of a UUID may stand in braces, after `urn:` and `uuid:`, and
its hyphens do not count; what is left are 32 characters that `int` reads in base 16. The text that
a UUID has is in lower case, in groups between hyphens.
-/

namespace Uuid

/-! ## Hexadecimal digits -/

/-- The value of a hexadecimal digit. -/
def hexValue? (c : Char) : Option ℕ :=
  let n := c.toNat
  if 48 ≤ n ∧ n ≤ 57 then some (n - 48)
  else if 97 ≤ n ∧ n ≤ 102 then some (n - 87)
  else if 65 ≤ n ∧ n ≤ 70 then some (n - 55)
  else none

/-- A hexadecimal digit of ASCII, in either case. -/
def isHexDigit (c : Char) : Bool := (hexValue? c).isSome

/-- So many digits of a number, in lower case. -/
def hexText : ℕ → ℕ → List Char
  | 0, _ => []
  | k + 1, n => hexText k (n / 16) ++ [Nat.digitChar (n % 16)]

/-- Digits after the first one; an underscore may stand before any of them. -/
def hexDigits : ℕ → List Char → Option ℕ
  | value, [] => some value
  | value, '_' :: c :: cs => (hexValue? c).bind fun v => hexDigits (16 * value + v) cs
  | value, c :: cs => (hexValue? c).bind fun v => hexDigits (16 * value + v) cs

/-- Digits. -/
def hexNumber : List Char → Option ℕ
  | [] => none
  | c :: cs => (hexValue? c).bind fun v => hexDigits v cs

/-- The white space that the digits of a number may stand in. -/
def isBlank (c : Char) : Bool := (9 ≤ c.toNat && c.toNat ≤ 13) || c = ' '

/-- A number without the prefix of its base. -/
def dropPrefix : List Char → List Char
  | '0' :: x :: '_' :: cs => if x = 'x' ∨ x = 'X' then cs else '0' :: x :: '_' :: cs
  | '0' :: x :: cs => if x = 'x' ∨ x = 'X' then cs else '0' :: x :: cs
  | cs => cs

/-- A number without its sign; there is no minus left where it is read. -/
def dropSign : List Char → List Char
  | '+' :: cs => cs
  | cs => cs

/-- `int(text, 16)` of a text without a minus. -/
def int16? (cs : List Char) : Option ℕ := do
  let ascii ← cs.mapM Text.asciiOf
  let trimmed := ((ascii.dropWhile isBlank).reverse.dropWhile isBlank).reverse
  hexNumber (dropPrefix (dropSign trimmed))

/-! ## UUIDs -/

/-- A text without the occurrences of another one; some of its characters are passed over. -/
def removeAll (pattern : List Char) : ℕ → List Char → List Char
  | _, [] => []
  | n + 1, _ :: cs => removeAll pattern n cs
  | 0, c :: cs =>
    if pattern.isPrefixOf (c :: cs) then removeAll pattern (pattern.length - 1) cs
    else c :: removeAll pattern 0 cs

/-- A text without the braces around it. -/
def dropBraces (cs : List Char) : List Char :=
  let drop := List.dropWhile fun c => c = '\x7b' || c = '\x7d'
  (drop (drop cs).reverse).reverse

/-- `UUID(text).int`; `none` where it raises `ValueError`. -/
def parse? (cs : List Char) : Option ℕ :=
  let bare := removeAll "uuid:".toList 0 (removeAll "urn:".toList 0 cs)
  let hex := (dropBraces bare).filter fun c => c ≠ '-'
  if hex.length = 32 then int16? hex else none

/-- The lengths of the groups. -/
def groups : List ℕ := [8, 4, 4, 4]

/-- Characters in groups of these lengths, and one group of the rest. -/
def grouped : List ℕ → List Char → List Char
  | [], cs => cs
  | n :: rest, cs => cs.take n ++ '-' :: grouped rest (cs.drop n)

/-- `str(uuid)`. -/
def text (n : ℕ) : List Char := grouped groups (hexText 32 n)

/-- Hexadecimal digits in groups of these lengths and a last one, with hyphens between them. -/
def matchesGroups (last : ℕ) : List ℕ → List Char → Bool
  | [], cs => cs.length = last && cs.all isHexDigit
  | n :: rest, cs =>
    (cs.take n).length = n && (cs.take n).all isHexDigit && (cs.drop n).head? = some '-' &&
      matchesGroups last rest (cs.drop (n + 1))

/-! ## Lower case -/

/-- A text in lower case. -/
def lower (cs : List Char) : List Char := cs.map Char.toLower

theorem toLower_digitChar (n : ℕ) : (Nat.digitChar (n % 16)).toLower = Nat.digitChar (n % 16) := by
  have h : ∀ k < 16, (Nat.digitChar k).toLower = Nat.digitChar k := by decide
  exact h _ (Nat.mod_lt n (by decide))

theorem lower_hexText (k n : ℕ) : lower (hexText k n) = hexText k n := by
  induction k generalizing n with
  | zero => rfl
  | succ k ih =>
    rw [hexText, lower, List.map_append]
    exact congrArg₂ (· ++ ·) (ih (n / 16)) (congrArg ([·]) (toLower_digitChar n))

theorem lower_grouped (lengths : List ℕ) (cs : List Char) :
    lower (grouped lengths cs) = grouped lengths (lower cs) := by
  induction lengths generalizing cs with
  | nil => rfl
  | cons n rest ih =>
    have hrest := ih (cs.drop n)
    rw [lower] at hrest
    simp only [grouped, lower, List.map_append, List.map_cons, List.map_take, List.map_drop,
      hrest]
    rfl

/-- The text of a UUID is in lower case. -/
theorem lower_text (n : ℕ) : lower (text n) = text n := by
  rw [text, lower_grouped, lower_hexText]

/-! ## Reading a text in groups -/

variable {c : Char} {cs : List Char} {last : ℕ} {lengths : List ℕ}

/-- The value of a digit, and its text. -/
theorem hexValue?_spec (hc : isHexDigit c = true) :
    ∃ v < 16, hexValue? c = some v ∧ Nat.digitChar v = c.toLower := by
  have hall : ∀ k < 103, ∀ v, hexValue? (Char.ofNat k) = some v →
      v < 16 ∧ Nat.digitChar v = (Char.ofNat k).toLower := by
    intro k hk v hv
    have h : ∀ k < 103, ((hexValue? (Char.ofNat k)).all fun v =>
        decide (v < 16 ∧ Nat.digitChar v = (Char.ofNat k).toLower)) = true := by decide +kernel
    have hk := h k hk
    rw [hv] at hk
    simpa using hk
  obtain ⟨v, hv⟩ := Option.isSome_iff_exists.mp hc
  have hlt : c.toNat < 103 := by
    simp only [hexValue?] at hv
    split_ifs at hv <;> omega
  have hspec := hall c.toNat hlt v (by rw [Char.ofNat_toNat]; exact hv)
  rw [Char.ofNat_toNat] at hspec
  exact ⟨v, hspec.1, hv, hspec.2⟩

theorem hexDigits_cons (value : ℕ) (hc : c ≠ '_') :
    hexDigits value (c :: cs) = (hexValue? c).bind fun v => hexDigits (16 * value + v) cs := by
  cases cs <;> simp [hexDigits, hc]

theorem ne_of_isHexDigit {d : Char} (hc : isHexDigit c = true) (hd : isHexDigit d = false) :
    c ≠ d := by
  rintro rfl
  rw [hc] at hd
  cases hd

/-- The first digit of a number. -/
theorem hexText_succ (k n : ℕ) :
    hexText (k + 1) n = Nat.digitChar (n / 16 ^ k % 16) :: hexText k n := by
  induction k generalizing n with
  | zero => rw [hexText, hexText, Nat.pow_zero, Nat.div_one]; rfl
  | succ k ih =>
    rw [hexText, ih (n / 16), List.cons_append, Nat.div_div_eq_div_mul, ← Nat.pow_succ', hexText]

/-- Digits are read as the number whose text they are, but for their upper case. -/
theorem hexDigits_spec (hcs : ∀ c ∈ cs, isHexDigit c = true) :
    ∀ value, ∃ n, hexDigits value cs = some n ∧ n / 16 ^ cs.length = value ∧
      hexText cs.length n = lower cs := by
  induction cs with
  | nil => exact fun value => ⟨value, rfl, Nat.div_one value, rfl⟩
  | cons c cs ih =>
    intro value
    obtain ⟨v, hv, hvalue, hdigit⟩ := hexValue?_spec (hcs c List.mem_cons_self)
    obtain ⟨n, hn, hdiv, htext⟩ :=
      ih (fun d hd => hcs d (List.mem_cons_of_mem c hd)) (16 * value + v)
    refine ⟨n, ?_, ?_, ?_⟩
    · rw [hexDigits_cons value (ne_of_isHexDigit (hcs c List.mem_cons_self) (by decide)), hvalue]
      exact hn
    · rw [List.length_cons, Nat.pow_succ, ← Nat.div_div_eq_div_mul, hdiv]
      omega
    · rw [List.length_cons, hexText_succ, hdiv, htext, Nat.mul_add_mod, Nat.mod_eq_of_lt hv, hdigit]
      rfl

theorem hexNumber_eq (hne : cs ≠ []) (hcs : ∀ c ∈ cs, isHexDigit c = true) :
    hexNumber cs = hexDigits 0 cs := by
  obtain ⟨c, rest, rfl⟩ := List.exists_cons_of_ne_nil hne
  have hc := ne_of_isHexDigit (hcs c List.mem_cons_self) (by decide : isHexDigit '_' = false)
  rw [hexDigits_cons 0 hc, hexNumber]
  simp

theorem asciiOf_of_isHexDigit (hc : isHexDigit c = true) : Text.asciiOf c = some c := by
  have hlt : c.toNat < 128 := by
    obtain ⟨v, hv⟩ := Option.isSome_iff_exists.mp hc
    simp only [hexValue?] at hv
    split_ifs at hv <;> omega
  rw [Text.asciiOf, if_pos hlt]

theorem mapM_asciiOf (hcs : ∀ c ∈ cs, isHexDigit c = true) : cs.mapM Text.asciiOf = some cs := by
  induction cs with
  | nil => rfl
  | cons c cs ih =>
    rw [List.mapM_cons, asciiOf_of_isHexDigit (hcs c List.mem_cons_self),
      ih fun d hd => hcs d (List.mem_cons_of_mem c hd)]
    rfl

theorem isBlank_of_isHexDigit (hc : isHexDigit c = true) : isBlank c = false := by
  obtain ⟨v, hv⟩ := Option.isSome_iff_exists.mp hc
  have hspace : c ≠ ' ' := ne_of_isHexDigit hc (by decide)
  simp only [hexValue?] at hv
  simp only [isBlank, Bool.or_eq_false_iff, Bool.and_eq_false_iff, decide_eq_false_iff_not, hspace,
    not_false_eq_true, and_true]
  split_ifs at hv <;> omega

/-- Nothing is dropped of a text that starts and ends with other characters. -/
theorem dropBoth_eq {p : Char → Bool} (h : ∀ c ∈ cs, p c = false) :
    ((cs.dropWhile p).reverse.dropWhile p).reverse = cs := by
  have hdrop : ∀ ds : List Char, (∀ c ∈ ds, p c = false) → ds.dropWhile p = ds := by
    intro ds hds
    cases ds with
    | nil => rfl
    | cons c ds => rw [List.dropWhile_cons_of_neg (by rw [hds c List.mem_cons_self]; decide)]
  rw [hdrop cs h, hdrop cs.reverse fun c hc => h c (List.mem_reverse.mp hc), List.reverse_reverse]

theorem dropSign_eq (hcs : ∀ c ∈ cs, isHexDigit c = true) : dropSign cs = cs := by
  unfold dropSign
  split
  · exact absurd rfl (ne_of_isHexDigit (hcs '+' List.mem_cons_self) (by decide))
  · rfl

theorem dropPrefix_eq (hcs : ∀ c ∈ cs, isHexDigit c = true) : dropPrefix cs = cs := by
  have hx : ∀ x ∈ cs, ¬ (x = 'x' ∨ x = 'X') := by
    rintro x hx (rfl | rfl)
    · exact absurd (hcs _ hx) (by decide)
    · exact absurd (hcs _ hx) (by decide)
  unfold dropPrefix
  split
  · exact if_neg (hx _ (by simp))
  · exact if_neg (hx _ (by simp))
  · rfl

/-- Digits are read. -/
theorem int16?_spec (hne : cs ≠ []) (hcs : ∀ c ∈ cs, isHexDigit c = true) :
    ∃ n, int16? cs = some n ∧ hexText cs.length n = lower cs := by
  obtain ⟨n, hn, -, htext⟩ := hexDigits_spec hcs 0
  refine ⟨n, ?_, htext⟩
  rw [int16?, mapM_asciiOf hcs]
  change hexNumber (dropPrefix (dropSign ((cs.dropWhile isBlank).reverse.dropWhile
    isBlank).reverse)) = some n
  rw [dropBoth_eq fun c hc => isBlank_of_isHexDigit (hcs c hc), dropSign_eq hcs,
    dropPrefix_eq hcs, hexNumber_eq hne hcs, hn]

theorem removeAll_eq {pattern : List Char} {p : Char} (hp : p ∈ pattern) (hcs : p ∉ cs) :
    removeAll pattern 0 cs = cs := by
  induction cs with
  | nil => rfl
  | cons c cs ih =>
    have hprefix : ¬ pattern.isPrefixOf (c :: cs) = true := fun h =>
      hcs ((List.isPrefixOf_iff_prefix.mp h).subset hp)
    rw [removeAll, if_neg hprefix, ih fun h => hcs (List.mem_cons_of_mem c h)]

/-- The digits of a text in groups, and the text of these digits in groups. -/
theorem matchesGroups_spec (h : matchesGroups last lengths cs = true) :
    (∀ c ∈ cs, isHexDigit c = true ∨ c = '-') ∧
    (cs.filter fun c => c ≠ '-').length = lengths.sum + last ∧
    grouped lengths (cs.filter fun c => c ≠ '-') = cs := by
  have hkeep : ∀ ds : List Char, (∀ c ∈ ds, isHexDigit c = true) →
      ds.filter (fun c => c ≠ '-') = ds := fun ds hds =>
    List.filter_eq_self.mpr fun c hc => decide_eq_true (ne_of_isHexDigit (hds c hc) (by decide))
  induction lengths generalizing cs with
  | nil =>
    rw [matchesGroups, Bool.and_eq_true, decide_eq_true_iff, List.all_eq_true] at h
    rw [hkeep cs h.2]
    exact ⟨fun c hc => .inl (h.2 c hc), by simp [h.1], rfl⟩
  | cons n rest ih =>
    rw [matchesGroups, Bool.and_eq_true, Bool.and_eq_true, Bool.and_eq_true, decide_eq_true_iff,
      decide_eq_true_iff, List.all_eq_true] at h
    obtain ⟨⟨⟨hlength, hdigits⟩, hhyphen⟩, hrest⟩ := h
    obtain ⟨hchars, hcount, hgrouped⟩ := ih hrest
    -- the group, its hyphen, and the rest
    have hdrop : cs.drop n = '-' :: cs.drop (n + 1) := by
      obtain ⟨tail, htail⟩ := List.head?_eq_some_iff.mp hhyphen
      rw [← List.drop_drop, htail]
      rfl
    have hcs : cs = cs.take n ++ '-' :: cs.drop (n + 1) := by
      rw [← hdrop, List.take_append_drop]
    have hfilter : cs.filter (fun c => c ≠ '-') =
        cs.take n ++ (cs.drop (n + 1)).filter fun c => c ≠ '-' := by
      conv_lhs => rw [hcs]
      rw [List.filter_append, hkeep _ hdigits]
      simp
    refine ⟨?_, ?_, ?_⟩
    · intro c hc
      rw [hcs, List.mem_append, List.mem_cons] at hc
      rcases hc with hc | rfl | hc
      · exact .inl (hdigits c hc)
      · exact .inr rfl
      · exact hchars c hc
    · rw [hfilter, List.length_append, hlength, hcount, List.sum_cons]
      omega
    · rw [hfilter, grouped, List.take_left' hlength, List.drop_left' hlength, hgrouped, ← hcs]

theorem length_of_matchesGroups (h : matchesGroups last lengths cs = true) :
    cs.length = lengths.sum + lengths.length + last := by
  induction lengths generalizing cs with
  | nil =>
    simp only [matchesGroups, Bool.and_eq_true, decide_eq_true_eq] at h
    simpa using h.1
  | cons n rest ih =>
    simp only [matchesGroups, Bool.and_eq_true, decide_eq_true_eq] at h
    obtain ⟨⟨⟨htake, -⟩, hhead⟩, hrest⟩ := h
    have hdrop : cs.drop n ≠ [] := fun hnil => by rw [hnil] at hhead; cases hhead
    have hlt : n < cs.length := by
      by_contra hle
      exact hdrop (List.drop_eq_nil_of_le (by omega))
    have hlength := ih hrest
    rw [List.length_drop] at hlength
    simp only [List.sum_cons, List.length_cons]
    omega

/-- A text in groups is that of its UUID, but for its upper case. -/
theorem parse?_groups (h : matchesGroups 12 groups cs = true) :
    ∃ n, parse? cs = some n ∧ text n = lower cs := by
  obtain ⟨hchars, hlength, hgrouped⟩ := matchesGroups_spec h
  have hdigits : ∀ c ∈ cs.filter (fun c => c ≠ '-'), isHexDigit c = true := by
    intro c hc
    obtain ⟨hmem, hne⟩ := List.mem_filter.mp hc
    exact (hchars c hmem).resolve_right (of_decide_eq_true hne)
  have hcolon : ':' ∉ cs := by
    intro hmem
    rcases hchars ':' hmem with h | h
    · exact absurd h (by decide)
    · exact absurd h (by decide)
  have hbraces : ∀ c ∈ cs, (decide (c = '\x7b') || decide (c = '\x7d')) = false := by
    intro c hc
    rcases hchars c hc with h | rfl
    · simp [ne_of_isHexDigit h (by decide : isHexDigit '\x7b' = false),
        ne_of_isHexDigit h (by decide : isHexDigit '\x7d' = false)]
    · decide
  have hlength : (cs.filter fun c => c ≠ '-').length = 32 := hlength
  have hne : cs.filter (fun c => c ≠ '-') ≠ [] := by
    intro hnil
    rw [hnil] at hlength
    cases hlength
  obtain ⟨n, hn, htext⟩ := int16?_spec hne hdigits
  refine ⟨n, ?_, ?_⟩
  · have hurn : removeAll "urn:".toList 0 cs = cs := removeAll_eq (by decide) hcolon
    have huuid : removeAll "uuid:".toList 0 cs = cs := removeAll_eq (by decide) hcolon
    have hbare : dropBraces cs = cs := dropBoth_eq hbraces
    rw [parse?, hurn, huuid, hbare]
    exact (if_pos hlength).trans hn
  · rw [hlength] at htext
    rw [text, htext, ← lower_grouped, hgrouped]

end Uuid

import Mathlib.Data.List.TakeWhile
import Wbcz.Lib.Text

/-!
# Texts in URLs

`urllib.parse`: `quote`, `quote_plus` and `urlencode`, and `unquote`, `parse_qs` and `urlsplit`, which
read what they have written. A dictionary of `parse_qs` is kept as the list of its pairs.
-/

namespace Url

/-! ## Quoting -/

/-- The characters that `quote` leaves as they are. -/
def isUnreserved (c : Char) : Bool :=
  (97 ≤ c.toNat && c.toNat ≤ 122) || (65 ≤ c.toNat && c.toNat ≤ 90) || Text.isAsciiDigit c ||
    c = '_' || c = '.' || c = '-' || c = '~'

/-- A hexadecimal digit in upper case. -/
def hexDigit (n : ℕ) : Char := if n < 10 then Char.ofNat (48 + n) else Char.ofNat (55 + n)

/-- An octet as `quote` writes it. -/
def quoteByte (b : UInt8) : List Char :=
  if b < 128 ∧ isUnreserved (Char.ofNat b.toNat) then [Char.ofNat b.toNat]
  else ['%', hexDigit (b.toNat / 16), hexDigit (b.toNat % 16)]

/-- An octet as `quote_plus` writes it. -/
def quotePlusByte (b : UInt8) : List Char := if b = 32 then ['+'] else quoteByte b

/-- `quote(text, safe="")`. -/
def quote (text : List Char) : List Char := (Text.encode text).flatMap quoteByte

/-- `quote_plus(text)`. -/
def quotePlus (text : List Char) : List Char := (Text.encode text).flatMap quotePlusByte

/-- A pair of a query. -/
abbrev Pair := String × String

/-- A pair as `urlencode` writes it. -/
def pairText (quoteVia : List Char → List Char) (pair : Pair) : List Char :=
  quoteVia pair.1.toList ++ '=' :: quoteVia pair.2.toList

/-- `urlencode(pairs, quote_via=quoteVia)`. -/
def urlencode (quoteVia : List Char → List Char) (pairs : List Pair) : List Char :=
  ['&'].intercalate (pairs.map (pairText quoteVia))

/-! ## Unquoting -/

/-- The value of a hexadecimal digit. -/
def hexValue? (c : Char) : Option ℕ :=
  if Text.isAsciiDigit c then some (c.toNat - 48)
  else if 65 ≤ c.toNat ∧ c.toNat ≤ 70 then some (c.toNat - 55)
  else if 97 ≤ c.toNat ∧ c.toNat ≤ 102 then some (c.toNat - 87)
  else none

/-- The octet that two hexadecimal digits make. -/
def octet? (high low : Char) : Option UInt8 := do
  let m ← hexValue? high
  let n ← hexValue? low
  pure (UInt8.ofNat (16 * m + n))

/-- `unquote_to_bytes`: an escape stands for an octet, and everything else for itself. -/
def unquoteBytes : List Char → List UInt8
  | '%' :: high :: low :: rest =>
    match octet? high low with
    | some b => b :: unquoteBytes rest
    | none => 37 :: unquoteBytes (high :: low :: rest)
  | c :: rest => String.utf8EncodeChar c ++ unquoteBytes rest
  | [] => []

/-- How many octets of an ill-formed sequence one replacement character stands for. -/
def illFormed : List UInt8 → ℕ
  | first :: second :: rest =>
    let continues (low high b : UInt8) : Bool := low ≤ b && b ≤ high
    if first = 0xe0 ∧ continues 0xa0 0xbf second ∨ first = 0xed ∧ continues 0x80 0x9f second ∨
        (0xe1 ≤ first ∧ first ≤ 0xef ∧ first ≠ 0xed) ∧ continues 0x80 0xbf second then 2
    else if first = 0xf0 ∧ continues 0x90 0xbf second ∨ first = 0xf4 ∧ continues 0x80 0x8f second ∨
        (0xf1 ≤ first ∧ first ≤ 0xf3) ∧ continues 0x80 0xbf second then
      if rest.head?.any (continues 0x80 0xbf) then 3 else 2
    else 1
  | _ => 1

/-- The characters of octets that are not UTF-8. -/
def replaced : ℕ → List UInt8 → List Char
  | 0, _ => []
  | _ + 1, [] => []
  | fuel + 1, b :: bs =>
    match ByteArray.utf8DecodeChar? ⟨(b :: bs).toArray⟩ 0 with
    | some c => c :: replaced fuel ((b :: bs).drop c.utf8Size)
    | none => Char.ofNat 0xfffd :: replaced fuel ((b :: bs).drop (illFormed (b :: bs)))

/-- `bytes.decode("utf-8", errors="replace")`. -/
def decode (bs : List UInt8) : List Char :=
  match ByteArray.utf8Decode? ⟨bs.toArray⟩ with
  | some cs => cs.toList
  | none => replaced bs.length bs

/-- `unquote(text)`. -/
def unquote (text : List Char) : List Char := decode (unquoteBytes text)

/-- `unquote(text.replace("+", " "))`. -/
def unquotePlus (text : List Char) : List Char :=
  unquote (text.map fun c => if c = '+' then ' ' else c)

/-- `parse_qsl(query, keep_blank_values=True)`. -/
def parseQsl (query : List Char) : List Pair :=
  ((query.splitOn '&').filter fun part => decide (part ≠ [])).map fun part =>
    (String.ofList (unquotePlus (part.takeWhile fun c => decide (c ≠ '='))),
      String.ofList (unquotePlus (part.dropWhile fun c => decide (c ≠ '=')).tail))

/-- The list that a dictionary of `parse_qs` has under a name, empty where it has none. -/
def valuesOf (pairs : List Pair) (name : String) : List String :=
  (pairs.filter fun pair => decide (pair.1 = name)).map Prod.snd

/-- The names of a dictionary of `parse_qs` are among these. -/
def namesWithin (pairs : List Pair) (names : List String) : Bool :=
  pairs.all fun pair => decide (pair.1 ∈ names)

/-! ## Splitting -/

/-- The parts of a URL. -/
structure SplitResult where
  scheme : List Char
  netloc : List Char
  path : List Char
  query : List Char
  fragment : List Char
  deriving DecidableEq

/-- A character of a scheme. -/
def isSchemeChar (c : Char) : Bool :=
  (97 ≤ c.toNat && c.toNat ≤ 122) || (65 ≤ c.toNat && c.toNat ≤ 90) || Text.isAsciiDigit c ||
    c = '+' || c = '-' || c = '.'

/-- What stands before the first of some characters, and the rest with that character. -/
def splitBefore (chars : List Char) (text : List Char) : List Char × List Char :=
  text.span fun c => decide (c ∉ chars)

/-- The scheme of a URL, and the rest. -/
def splitScheme (url : List Char) : List Char × List Char :=
  let (scheme, rest) := splitBefore [':'] url
  if rest ≠ [] ∧ scheme.head?.any (fun c => c.isAlpha) = true ∧ scheme.all isSchemeChar = true then
    (scheme.map Char.toLower, rest.tail)
  else ([], url)

/-- `urlsplit(url)`; the host is not looked at. -/
def urlsplit (url : List Char) : SplitResult :=
  let url := (url.dropWhile fun c => decide (c.toNat ≤ 32)).filter fun c =>
    decide (c ∉ ['\t', '\r', '\n'])
  let (scheme, rest) := splitScheme url
  let (netloc, rest) :=
    if rest.take 2 = ['/', '/'] then splitBefore ['/', '?', '#'] (rest.drop 2) else ([], rest)
  let (rest, fragment) := splitBefore ['#'] rest
  let (path, query) := splitBefore ['?'] rest
  ⟨scheme, netloc, path, query.tail, fragment.tail⟩

/-! ## What quoting writes -/

theorem hexDigit_lt {n : ℕ} (h : n < 16) : isUnreserved (hexDigit n) = true := by
  revert n
  decide

theorem hexValue?_hexDigit {n : ℕ} (h : n < 16) : hexValue? (hexDigit n) = some n := by
  revert n
  decide

/-- A character of a quoted text. -/
def isQuoted (c : Char) : Bool := isUnreserved c || c = '%'

theorem isQuoted_quoteByte {b : UInt8} {c : Char} (h : c ∈ quoteByte b) : isQuoted c = true := by
  have hhigh : b.toNat / 16 < 16 := by
    have := b.toNat_lt
    omega
  have hlow : b.toNat % 16 < 16 := Nat.mod_lt _ (by decide)
  unfold quoteByte at h
  split at h
  · rename_i hb
    rw [List.mem_singleton.mp h, isQuoted, hb.2, Bool.true_or]
  · simp only [List.mem_cons, List.not_mem_nil, or_false] at h
    rcases h with rfl | rfl | rfl
    · rfl
    · rw [isQuoted, hexDigit_lt hhigh, Bool.true_or]
    · rw [isQuoted, hexDigit_lt hlow, Bool.true_or]

theorem isQuoted_quote {text : List Char} {c : Char} (h : c ∈ quote text) : isQuoted c = true := by
  obtain ⟨b, -, hb⟩ := List.mem_flatMap.mp h
  exact isQuoted_quoteByte hb

theorem quoteByte_ne_nil (b : UInt8) : quoteByte b ≠ [] := by
  unfold quoteByte
  split <;> simp

theorem encode_ne_nil {text : List Char} (h : text ≠ []) : Text.encode text ≠ [] := by
  cases text with
  | nil => exact absurd rfl h
  | cons c cs =>
    intro heq
    have hlength := congrArg List.length heq
    rw [Text.encode, List.flatMap_cons, List.length_append, String.length_utf8EncodeChar] at hlength
    have := c.utf8Size_pos
    simp at hlength
    omega

theorem quote_ne_nil {text : List Char} (h : text ≠ []) : quote text ≠ [] := by
  rw [quote, Ne, List.flatMap_eq_nil_iff]
  intro hall
  obtain ⟨b, hb⟩ := List.exists_mem_of_ne_nil _ (encode_ne_nil h)
  exact quoteByte_ne_nil b (hall b hb)

/-! ## What unquoting reads -/

theorem utf8EncodeChar_octet {b : UInt8} (h : b < 128) :
    String.utf8EncodeChar (Char.ofNat b.toNat) = [b] := by
  have hb : b.toNat < 128 := h
  have hvalid : b.toNat.isValidChar := .inl (by omega)
  have hval : (Char.ofNat b.toNat).val.toNat = b.toNat := by
    rw [Char.ofNat, dif_pos hvalid]
    rfl
  have hsize : (Char.ofNat b.toNat).utf8Size = 1 := by
    rw [Char.utf8Size_eq_one_iff, UInt32.le_iff_toNat_le, hval]
    have h127 : (127 : UInt32).toNat = 127 := rfl
    omega
  rw [String.utf8EncodeChar_eq_singleton hsize]
  congr 1
  apply UInt8.toNat_inj.mp
  rw [UInt32.toNat_toUInt8, hval]
  omega

/-- An octet that was quoted is read as that octet. -/
theorem unquoteBytes_quoteByte (b : UInt8) (rest : List Char) :
    unquoteBytes (quoteByte b ++ rest) = b :: unquoteBytes rest := by
  unfold quoteByte
  split
  · rename_i hb
    have hne : Char.ofNat b.toNat ≠ '%' := fun heq => by
      have hpercent := hb.2
      rw [heq] at hpercent
      exact absurd hpercent (by decide)
    rw [List.singleton_append, unquoteBytes, utf8EncodeChar_octet hb.1]
    · rfl
    · intro _ _ _ heq
      exact absurd heq hne
  · have hlt := b.toNat_lt
    have hhigh := hexValue?_hexDigit (show b.toNat / 16 < 16 by omega)
    have hlow := hexValue?_hexDigit (show b.toNat % 16 < 16 by omega)
    have hoctet : octet? (hexDigit (b.toNat / 16)) (hexDigit (b.toNat % 16)) = some b := by
      rw [octet?, hhigh, hlow]
      change some (UInt8.ofNat (16 * (b.toNat / 16) + b.toNat % 16)) = some b
      rw [Nat.div_add_mod, UInt8.ofNat_toNat]
    simp only [List.cons_append, List.nil_append, unquoteBytes, hoctet]

theorem unquoteBytes_quoted (bs : List UInt8) (rest : List Char) :
    unquoteBytes (bs.flatMap quoteByte ++ rest) = bs ++ unquoteBytes rest := by
  induction bs with
  | nil => rfl
  | cons b bs ih =>
    rw [List.flatMap_cons, List.append_assoc, unquoteBytes_quoteByte, ih, List.cons_append]

theorem decode_encode (text : List Char) : decode (Text.encode text) = text := by
  have hbytes : (⟨(Text.encode text).toArray⟩ : ByteArray) = text.utf8Encode := by
    apply ByteArray.ext
    simp [List.utf8Encode, Text.encode]
  rw [decode, hbytes, List.utf8Decode?_utf8Encode]

theorem unquote_quote (text : List Char) : unquote (quote text) = text := by
  have hbytes := unquoteBytes_quoted (Text.encode text) []
  rw [List.append_nil] at hbytes
  rw [unquote, quote, hbytes, unquoteBytes, List.append_nil, decode_encode]

/-- No quoted character is a plus sign. -/
theorem ne_plus_of_isQuoted {c : Char} (h : isQuoted c = true) : c ≠ '+' := by
  rintro rfl
  exact absurd h (by decide)

theorem unquotePlus_quote (text : List Char) : unquotePlus (quote text) = text := by
  have hsame : ((quote text).map fun c => if c = '+' then ' ' else c) = quote text := by
    refine (List.map_congr_left fun c hc => ?_).trans (List.map_id _)
    exact if_neg (ne_plus_of_isQuoted (isQuoted_quote hc))
  rw [unquotePlus, hsame, unquote_quote]

/-! ## Queries -/

/-- A way of quoting that leaves no separator, and that is read again. -/
structure Quoting (quoteVia : List Char → List Char) : Prop where
  mem : ∀ {text c}, c ∈ quoteVia text → isQuoted c = true ∨ c = '+'
  read : ∀ text, unquotePlus (quoteVia text) = text

theorem quoting_quote : Quoting quote := ⟨fun h => .inl (isQuoted_quote h), unquotePlus_quote⟩

variable {quoteVia : List Char → List Char} {pairs : List Pair}

theorem Quoting.ne (h : Quoting quoteVia) {text : List Char} {c : Char} (hc : c ∈ quoteVia text) :
    c ≠ '=' ∧ c ≠ '&' := by
  constructor
  · rintro rfl
    exact absurd (h.mem hc) (by decide)
  · rintro rfl
    exact absurd (h.mem hc) (by decide)

/-- The parts of a pair stand before and behind the first equality sign. -/
theorem Quoting.parts (h : Quoting quoteVia) (pair : Pair) :
    (pairText quoteVia pair).takeWhile (fun c => decide (c ≠ '=')) = quoteVia pair.1.toList ∧
      ((pairText quoteVia pair).dropWhile fun c => decide (c ≠ '=')) =
        '=' :: quoteVia pair.2.toList := by
  have hname : ∀ c ∈ quoteVia pair.1.toList, decide (c ≠ '=') = true := fun c hc => by
    simpa using (h.ne hc).1
  rw [pairText]
  constructor
  · rw [List.takeWhile_append_of_pos hname]
    simp
  · rw [List.dropWhile_append_of_pos hname]
    simp

/-- The pairs of a query are read as they were written. -/
theorem parseQsl_urlencode (h : Quoting quoteVia) (pairs : List Pair) :
    parseQsl (urlencode quoteVia pairs) = pairs := by
  by_cases hnil : pairs = []
  · rw [hnil]
    rfl
  have hand : ∀ text ∈ pairs.map (pairText quoteVia), '&' ∉ text := by
    intro text htext
    obtain ⟨pair, -, rfl⟩ := List.mem_map.mp htext
    rw [pairText, List.mem_append, List.mem_cons]
    rintro (hc | heq | hc)
    · exact (h.ne hc).2 rfl
    · exact absurd heq (by decide)
    · exact (h.ne hc).2 rfl
  have hparts : (pairs.map (pairText quoteVia)).filter (fun part => decide (part ≠ [])) =
      pairs.map (pairText quoteVia) := by
    rw [List.filter_eq_self]
    intro text htext
    obtain ⟨pair, -, rfl⟩ := List.mem_map.mp htext
    simp [pairText]
  rw [parseQsl, urlencode, List.splitOn_intercalate '&' hand (by simpa using hnil), hparts,
    List.map_map]
  apply List.map_id''
  intro pair
  obtain ⟨hname, hvalue⟩ := h.parts pair
  rw [Function.comp_apply, hname, hvalue, List.tail_cons, h.read, h.read, String.ofList_toList,
    String.ofList_toList]

@[simp] theorem valuesOf_nil (name : String) : valuesOf [] name = [] := rfl

theorem valuesOf_append (pairs more : List Pair) (name : String) :
    valuesOf (pairs ++ more) name = valuesOf pairs name ++ valuesOf more name := by
  rw [valuesOf, List.filter_append, List.map_append]
  rfl

theorem valuesOf_cons (pair : Pair) (pairs : List Pair) (name : String) :
    valuesOf (pair :: pairs) name =
      if pair.1 = name then pair.2 :: valuesOf pairs name else valuesOf pairs name := by
  unfold valuesOf
  by_cases h : pair.1 = name
  · simp [h]
  · simp [h]

/-- The values of pairs with one name. -/
theorem valuesOf_map (name other : String) (values : List String) :
    valuesOf (values.map fun value => (name, value)) other =
      if name = other then values else [] := by
  induction values with
  | nil => simp
  | cons value values ih =>
    rw [List.map_cons, valuesOf_cons, ih]
    by_cases h : name = other
    · simp [h]
    · simp [h]

/-! ## Targets -/

/-- A character that a path leaves to the path. -/
def isPathChar (c : Char) : Bool := 32 < c.toNat && c ≠ '?' && c ≠ '#'

/-- A character that a query leaves to the query. -/
def isQueryChar (c : Char) : Bool := 32 < c.toNat && c ≠ '#'

/-- What begins with a slash has no scheme. -/
theorem splitScheme_slash (rest : List Char) : splitScheme ('/' :: rest) = ([], '/' :: rest) := by
  rw [splitScheme, splitBefore, List.span_eq_takeWhile_dropWhile]
  simp

section Queries

variable {quoteVia : List Char → List Char}

/-- What quoting writes does not end a path. -/
theorem isPathChar_of_isQuoted {c : Char} (h : isQuoted c = true) : isPathChar c = true := by
  have hmark : c ≠ '?' := by
    rintro rfl
    exact absurd h (by decide)
  have hhash : c ≠ '#' := by
    rintro rfl
    exact absurd h (by decide)
  have hlow : 32 < c.toNat := by
    simp only [isQuoted, isUnreserved, Text.isAsciiDigit, Bool.or_eq_true, Bool.and_eq_true,
      decide_eq_true_eq] at h
    rcases h with ((((((h | h) | h) | rfl) | rfl) | rfl) | rfl) | rfl
    · omega
    · omega
    · omega
    all_goals decide
  simp [isPathChar, hlow, hmark, hhash]

theorem isQueryChar_of_isPathChar {c : Char} (h : isPathChar c = true) : isQueryChar c = true := by
  simp only [isPathChar, Bool.and_eq_true, decide_eq_true_eq] at h
  simp [isQueryChar, h.1.1, h.2]

/-- Texts that are joined are made of their characters and of the one between them. -/
theorem mem_intercalate {texts : List (List Char)} {mark c : Char}
    (h : c ∈ [mark].intercalate texts) : c = mark ∨ ∃ text ∈ texts, c ∈ text := by
  induction texts with
  | nil => cases h
  | cons text texts ih =>
    cases texts with
    | nil => exact .inr ⟨text, List.mem_cons_self, by simpa [List.intercalate] using h⟩
    | cons next texts =>
      have hcons : [mark].intercalate (text :: next :: texts) =
          text ++ mark :: [mark].intercalate (next :: texts) := by
        simp [List.intercalate]
      rw [hcons, List.mem_append, List.mem_cons] at h
      rcases h with h | rfl | h
      · exact .inr ⟨text, List.mem_cons_self, h⟩
      · exact .inl rfl
      · exact (ih h).imp id fun ⟨other, hother, hc⟩ => ⟨other, List.mem_cons_of_mem _ hother, hc⟩

theorem isQueryChar_urlencode (hquoting : Quoting quoteVia) {pairs : List Pair} {c : Char}
    (h : c ∈ urlencode quoteVia pairs) : isQueryChar c = true := by
  have hquoted : ∀ {text : List Char}, c ∈ quoteVia text → isQueryChar c = true := by
    intro text hc
    rcases hquoting.mem hc with hc | rfl
    · exact isQueryChar_of_isPathChar (isPathChar_of_isQuoted hc)
    · decide
  rcases mem_intercalate h with rfl | ⟨text, htext, hc⟩
  · decide
  · obtain ⟨pair, -, rfl⟩ := List.mem_map.mp htext
    rw [pairText, List.mem_append, List.mem_cons] at hc
    rcases hc with hc | rfl | hc
    · exact hquoted hc
    · decide
    · exact hquoted hc

theorem urlencode_ne_nil {pairs : List Pair} (h : pairs ≠ []) : urlencode quoteVia pairs ≠ [] := by
  cases pairs with
  | nil => exact absurd rfl h
  | cons pair pairs =>
    cases pairs with
    | nil => simp [urlencode, pairText]
    | cons next pairs => simp [urlencode, List.intercalate, pairText]

/-- Every pair stands in the query. -/
theorem pairText_infix_urlencode {pairs : List Pair} {pair : Pair} (h : pair ∈ pairs) :
    pairText quoteVia pair <:+: urlencode quoteVia pairs := by
  induction pairs with
  | nil => cases h
  | cons first pairs ih =>
    cases pairs with
    | nil =>
      obtain rfl := List.mem_singleton.mp h
      simp [urlencode]
    | cons next pairs =>
      have hcons : urlencode quoteVia (first :: next :: pairs) =
          pairText quoteVia first ++ '&' :: urlencode quoteVia (next :: pairs) := by
        simp [urlencode, List.intercalate]
      rw [hcons]
      rcases List.mem_cons.mp h with rfl | h
      · exact (List.prefix_append _ _).isInfix
      · exact (ih h).trans ((List.suffix_cons _ _).trans (List.suffix_append _ _)).isInfix

end Queries

theorem lt_of_isUnreserved {c : Char} (h : isUnreserved c = true) : c.toNat < 128 := by
  simp only [isUnreserved, Text.isAsciiDigit, Bool.or_eq_true, Bool.and_eq_true,
    decide_eq_true_eq] at h
  rcases h with (((((h | h) | h) | rfl) | rfl) | rfl) | rfl
  · omega
  · omega
  · omega
  all_goals decide

/-- An ASCII character is quoted as its octet. -/
theorem quote_ascii {c : Char} (h : c.toNat < 128) :
    quote [c] = if isUnreserved c then [c]
      else ['%', hexDigit (c.toNat / 16), hexDigit (c.toNat % 16)] := by
  have hnat : (UInt8.ofNat c.toNat).toNat = c.toNat := by
    rw [UInt8.toNat_ofNat']
    omega
  have hchar : Char.ofNat (UInt8.ofNat c.toNat).toNat = c := by rw [hnat, Char.ofNat_toNat]
  have hsmall : UInt8.ofNat c.toNat < 128 := by
    rw [UInt8.lt_iff_toNat_lt, hnat]
    exact h
  have hencode : Text.encode [c] = [UInt8.ofNat c.toNat] := by
    have hoctet := utf8EncodeChar_octet hsmall
    rw [hchar] at hoctet
    simp [Text.encode, hoctet]
  rw [quote, hencode, List.flatMap_singleton, quoteByte, hchar, hnat]
  simp only [hsmall, true_and]

/-- A text that needs no quoting. -/
theorem quote_eq_self {text : List Char} (h : ∀ c ∈ text, isUnreserved c = true) :
    quote text = text := by
  induction text with
  | nil => rfl
  | cons c text ih =>
    obtain ⟨hc, htext⟩ := List.forall_mem_cons.mp h
    have hsame : quote (c :: text) = quote [c] ++ quote text := by
      simp [quote, Text.encode]
    rw [hsame, ih htext, quote_ascii (lt_of_isUnreserved hc), if_pos hc]
    rfl

/-- An ASCII character that is quoted leaves a percent sign. -/
theorem percent_mem_quote {text : List Char} {c : Char} (hmem : c ∈ text) (hascii : c.toNat < 128)
    (hquoted : isUnreserved c = false) : '%' ∈ quote text := by
  induction text with
  | nil => cases hmem
  | cons first text ih =>
    have hsame : quote (first :: text) = quote [first] ++ quote text := by
      simp [quote, Text.encode]
    rw [hsame, List.mem_append]
    rcases List.mem_cons.mp hmem with rfl | hmem
    · rw [quote_ascii hascii, if_neg (by simp [hquoted])]
      exact .inl List.mem_cons_self
    · exact .inr (ih hmem)

end Url

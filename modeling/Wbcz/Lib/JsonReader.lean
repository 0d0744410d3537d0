import Mathlib.Tactic.IntervalCases
import Wbcz.Lib.IntText
import Wbcz.Lib.Jcs
import Wbcz.Lib.JsonText
import Wbcz.Lib.Url

/-!
# Reading JSON texts

A reader of the grammar of JSON, and of nothing beyond it: blanks between the tokens, strings with
all their escapes, numbers without superfluous zeros. A string that pairs no two surrogates has no
characters, and is not read. The fields of an object are given as they stand.
-/

namespace JsonReader

open JsonText (skipBlanks skipText)

/-! ## Strings -/

/-- A character of a string, or a code unit that was written as one. -/
inductive Piece where
  | char (c : Char)
  | unit (n : ℕ)
  deriving DecidableEq, Repr

/-- The character that an escape of one letter stands for. -/
def unescape? (c : Char) : Option Char :=
  if c = '"' ∨ c = '\\' ∨ c = '/' then some c
  else if c = 'b' then some (Char.ofNat 8)
  else if c = 'f' then some (Char.ofNat 12)
  else if c = 'n' then some '\n'
  else if c = 'r' then some '\r'
  else if c = 't' then some '\t'
  else none

/-- The code unit of four hexadecimal digits. -/
def unit? (a b c d : Char) : Option ℕ := do
  let a ← Url.hexValue? a
  let b ← Url.hexValue? b
  let c ← Url.hexValue? c
  let d ← Url.hexValue? d
  pure (((a * 16 + b) * 16 + c) * 16 + d)

/-- The pieces of a string up to its closing quotation mark. -/
def readPieces : List Char → Option (List Piece × List Char)
  | [] => none
  | '\\' :: 'u' :: a :: b :: c :: d :: rest => do
    let n ← unit? a b c d
    let (pieces, rest) ← readPieces rest
    pure (.unit n :: pieces, rest)
  | '\\' :: letter :: rest => do
    let c ← unescape? letter
    let (pieces, rest) ← readPieces rest
    pure (.char c :: pieces, rest)
  | c :: rest =>
    if c = '"' then some ([], rest)
    else if c.toNat < 32 ∨ c = '\\' then none
    else do
      let (pieces, rest) ← readPieces rest
      pure (.char c :: pieces, rest)

/-- The characters of the pieces; a code unit beyond the basic plane comes with its other half. -/
def joinPieces : List Piece → Option (List Char)
  | [] => some []
  | .char c :: pieces => (joinPieces pieces).map (c :: ·)
  | .unit n :: pieces =>
    if n < 0xd800 ∨ 0xdfff < n then (joinPieces pieces).map (Char.ofNat n :: ·)
    else
      match pieces with
      | .unit m :: pieces =>
        if n < 0xdc00 ∧ 0xdc00 ≤ m ∧ m ≤ 0xdfff then
          (joinPieces pieces).map
            (Char.ofNat (0x10000 + (n - 0xd800) * 0x400 + (m - 0xdc00)) :: ·)
        else none
      | _ => none

/-- The characters of a string after its opening quotation mark, and what follows it. -/
def readString (cs : List Char) : Option (List Char × List Char) := do
  let (pieces, rest) ← readPieces cs
  let text ← joinPieces pieces
  pure (text, rest)

example : readString "\\ud83d\\ude00\\/\" x".toList = some (['😀', '/'], " x".toList) := by
  decide +kernel

/-! ## Values -/

/-- A number: an integer, or a float with its text. -/
def readNumber (cs : List Char) : Option (Json × List Char) :=
  let negative := cs.head? = some '-'
  let digits := if negative then cs.tail else cs
  (JsonText.skipIntegral digits).map fun rest =>
    let stop := JsonText.skipExponent (JsonText.skipFraction rest)
    if stop.length = rest.length then
      let n := Nat.ofDigitChars 10 (digits.take (digits.length - rest.length)) 0
      (.int (if negative then -(n : ℤ) else n), rest)
    else (.float (String.ofList (cs.take (cs.length - stop.length))), stop)

mutual

/-- A value, nested at most as deep as the fuel, and what follows it. -/
def readValue : ℕ → List Char → Option (Json × List Char)
  | 0, _ => none
  | fuel + 1, cs =>
    match skipBlanks cs with
    | [] => none
    | c :: cs =>
      if c = '"' then (readString cs).map fun r => (.str (String.ofList r.1), r.2)
      else if c = '[' then
        if (skipBlanks cs).head? = some ']' then some (.arr [], (skipBlanks cs).tail)
        else (readItems fuel cs).map fun r => (.arr r.1, r.2)
      else if c = '\x7b' then
        if (skipBlanks cs).head? = some '\x7d' then some (.obj [], (skipBlanks cs).tail)
        else (readFields fuel cs).map fun r => (.obj r.1, r.2)
      else if c = 'n' then (skipText ['u', 'l', 'l'] cs).map fun rest => (.null, rest)
      else if c = 't' then (skipText ['r', 'u', 'e'] cs).map fun rest => (.bool true, rest)
      else if c = 'f' then (skipText ['a', 'l', 's', 'e'] cs).map fun rest => (.bool false, rest)
      else readNumber (c :: cs)

/-- The items of an array up to its closing bracket. -/
def readItems : ℕ → List Char → Option (List Json × List Char)
  | 0, _ => none
  | fuel + 1, cs =>
    match readValue fuel cs with
    | none => none
    | some (item, rest) =>
      let rest := skipBlanks rest
      if rest.head? = some ',' then (readItems fuel rest.tail).map fun r => (item :: r.1, r.2)
      else if rest.head? = some ']' then some ([item], rest.tail)
      else none

/-- The fields of an object up to its closing brace. -/
def readFields : ℕ → List Char → Option (List (String × Json) × List Char)
  | 0, _ => none
  | fuel + 1, cs =>
    let cs := skipBlanks cs
    if cs.head? ≠ some '"' then none
    else
      match readString cs.tail with
      | none => none
      | some (key, rest) =>
        let rest := skipBlanks rest
        if rest.head? ≠ some ':' then none
        else
          match readValue fuel rest.tail with
          | none => none
          | some (value, rest) =>
            let rest := skipBlanks rest
            if rest.head? = some ',' then
              (readFields fuel rest.tail).map fun r => ((String.ofList key, value) :: r.1, r.2)
            else if rest.head? = some '\x7d' then some ([(String.ofList key, value)], rest.tail)
            else none

end

/-- The value of a JSON text, where it is one. -/
def read (text : String) : Option Json :=
  match readValue (2 * text.toList.length + 2) text.toList with
  | some (value, rest) => if skipBlanks rest = [] then some value else none
  | none => none

example : (read "[1, -20 ,\"a\", \x7b\"k\" : 1.5e3\x7d]").isSome = true := by decide +kernel
example : (read "[01]").isNone = true ∧ (read "[1,]").isNone = true := by decide +kernel

/-! ## Reading strings -/

/-- The piece that a character was escaped to. -/
def pieceOf (c : Char) : Piece :=
  if c = '"' ∨ c = '\\' ∨ c = '\n' ∨ c = '\r' ∨ c = '\t' ∨ c.toNat = 8 ∨ c.toNat = 12 then .char c
  else if c.toNat < 32 then .unit c.toNat
  else .char c

theorem joinPieces_pieceOf (c : Char) (pieces : List Piece) :
    joinPieces (pieceOf c :: pieces) = (joinPieces pieces).map (c :: ·) := by
  unfold pieceOf
  split
  · rw [joinPieces]
  split
  · -- a control character is no surrogate
    rename_i hlow
    rw [joinPieces.eq_def]
    simp only [if_pos (show c.toNat < 0xd800 ∨ 0xdfff < c.toNat by omega), Char.ofNat_toNat]
  · rw [joinPieces]

theorem unit?_control (n : Fin 32) :
    unit? '0' '0' (Json.hexDigit (n.val / 16)) (Json.hexDigit (n.val % 16)) = some n.val := by
  revert n
  decide

theorem readPieces_escapeChar (c : Char) (rest : List Char) :
    readPieces (Json.escapeChar c ++ rest) =
      (readPieces rest).map fun r => (pieceOf c :: r.1, r.2) := by
  by_cases hquote : c = '"'
  · subst c; simp [Json.escapeChar, readPieces, unescape?, pieceOf, Option.map_eq_bind]
  by_cases hslash : c = '\\'
  · subst c; simp [Json.escapeChar, readPieces, unescape?, pieceOf, Option.map_eq_bind]
  by_cases hn : c = '\n'
  · subst c; simp [Json.escapeChar, readPieces, unescape?, pieceOf, Option.map_eq_bind]
  by_cases hr : c = '\r'
  · subst c; simp [Json.escapeChar, readPieces, unescape?, pieceOf, Option.map_eq_bind]
  by_cases ht : c = '\t'
  · subst c; simp [Json.escapeChar, readPieces, unescape?, pieceOf, Option.map_eq_bind]
  by_cases hb : c.toNat = 8
  · have hc : c = Char.ofNat 8 := by rw [← hb, Char.ofNat_toNat]
    subst c; simp [Json.escapeChar, readPieces, unescape?, pieceOf, Option.map_eq_bind]
  by_cases hf : c.toNat = 12
  · have hc : c = Char.ofNat 12 := by rw [← hf, Char.ofNat_toNat]
    subst c; simp [Json.escapeChar, readPieces, unescape?, pieceOf, Option.map_eq_bind]
  by_cases hlow : c.toNat < 32
  · have hunit := unit?_control ⟨c.toNat, hlow⟩
    simp [Json.escapeChar, hquote, hslash, hn, hr, ht, hb, hf, hlow, readPieces, hunit, pieceOf,
      Option.map_eq_bind]
  · simp [Json.escapeChar, hquote, hslash, hn, hr, ht, hb, hf, hlow, readPieces, pieceOf,
      Option.map_eq_bind]

/-- A string that was escaped is read as it was. -/
theorem readString_escaped (s rest : List Char) :
    readString (s.flatMap Json.escapeChar ++ '"' :: rest) = some (s, rest) := by
  have hpieces : readPieces (s.flatMap Json.escapeChar ++ '"' :: rest) =
      some (s.map pieceOf, rest) := by
    induction s with
    | nil => simp [readPieces]
    | cons c s ih => rw [List.flatMap_cons, List.append_assoc, readPieces_escapeChar, ih]; rfl
  have hjoin : joinPieces (s.map pieceOf) = some s := by
    clear hpieces
    induction s with
    | nil => rfl
    | cons c s ih => rw [List.map_cons, joinPieces_pieceOf, ih]; rfl
  rw [readString, hpieces]
  simp [hjoin]

/-! ## Reading integers -/

/-- What may follow a value. -/
def Ends (rest : List Char) : Prop := ∀ c, rest.head? = some c → c = ',' ∨ c = ']' ∨ c = '\x7d'

theorem toDigits_head {n : ℕ} (hn : n ≠ 0) : (Nat.toDigits 10 n).head? ≠ some '0' := by
  induction n using Nat.strong_induction_on with
  | _ n ih =>
    rcases Nat.lt_or_ge n 10 with hlt | hge
    · rw [Nat.toDigits_of_lt_base hlt]
      intro h
      interval_cases n <;> simp_all [Nat.digitChar]
    · rw [Nat.toDigits_of_base_le (by decide) hge]
      intro h
      refine ih (n / 10) (by omega) (by omega) ?_
      rwa [List.head?_append_of_ne_nil _ Nat.toDigits_ne_nil] at h

theorem isDigit_toDigits {n : ℕ} {c : Char} (h : c ∈ Nat.toDigits 10 n) :
    JsonText.isDigit c = true :=
  IntText.isAsciiDigit_of_mem h

theorem Ends.not_digit {rest : List Char} (h : Ends rest) {c : Char} (hc : rest.head? = some c) :
    JsonText.isDigit c = false := by
  rcases h c hc with rfl | rfl | rfl <;> decide

/-- The digits of a number are skipped up to where it ends. -/
theorem skipIntegral_toDigits (n : ℕ) {rest : List Char} (hrest : Ends rest) :
    JsonText.skipIntegral (Nat.toDigits 10 n ++ rest) = some rest := by
  rcases Nat.eq_zero_or_pos n with rfl | hpos
  · simp [JsonText.skipIntegral]
  have hdrop : (Nat.toDigits 10 n ++ rest).dropWhile JsonText.isDigit = rest := by
    rw [List.dropWhile_append_of_pos fun c hc => isDigit_toDigits hc]
    cases rest with
    | nil => rfl
    | cons c rest => rw [List.dropWhile_cons_of_neg (by simp [hrest.not_digit rfl])]
  have hhead := toDigits_head hpos.ne'
  obtain ⟨c, cs, hcs⟩ := List.exists_cons_of_ne_nil (Nat.toDigits_ne_nil (n := n) (b := 10))
  have hc : JsonText.isDigit c = true := isDigit_toDigits (hcs ▸ List.mem_cons_self)
  rw [hcs, List.cons_append] at hdrop ⊢
  rw [hcs] at hhead
  rw [JsonText.skipIntegral, if_neg (by simpa using hhead), JsonText.skipDigits, hdrop, if_pos]
  simpa using hc

/-- Nothing but the integer is read of a number. -/
theorem Ends.skip {rest : List Char} (h : Ends rest) :
    JsonText.skipExponent (JsonText.skipFraction rest) = rest := by
  have hfraction : JsonText.skipFraction rest = rest := by
    rw [JsonText.skipFraction, if_neg]
    intro hdot
    rcases h '.' hdot with h | h | h <;> exact absurd h (by decide)
  rw [hfraction]
  unfold JsonText.skipExponent
  split
  · rename_i e sign rest
    rw [if_neg]
    rintro (rfl | rfl) <;> rcases h _ rfl with h | h | h <;> exact absurd h (by decide)
  · rfl

/-- An integer is read as it was written. -/
theorem readNumber_intText (i : ℤ) {rest : List Char} (hrest : Ends rest) :
    readNumber (Jcs.intText i ++ rest) = some (.int i, rest) := by
  -- the digits, whatever stands before them
  have htake : ∀ n : ℕ, (Nat.toDigits 10 n ++ rest).take
      ((Nat.toDigits 10 n ++ rest).length - rest.length) = Nat.toDigits 10 n := by
    intro n
    rw [List.length_append, Nat.add_sub_cancel, List.take_left]
  cases i with
  | ofNat n =>
    have hsign : (Nat.toDigits 10 n ++ rest).head? ≠ some '-' := by
      obtain ⟨c, cs, hcs⟩ := List.exists_cons_of_ne_nil (Nat.toDigits_ne_nil (n := n) (b := 10))
      have hc : JsonText.isDigit c = true := isDigit_toDigits (hcs ▸ List.mem_cons_self)
      rw [hcs]
      rintro h
      cases h
      exact absurd hc (by decide)
    simp only [readNumber, Jcs.intText, hsign, if_false, skipIntegral_toDigits n hrest,
      Option.map_some, hrest.skip, if_true, htake, Nat.ofDigitChars_ten_toDigits]
    rfl
  | negSucc n =>
    simp only [readNumber, Jcs.intText, List.cons_append, List.head?_cons, List.tail_cons, if_true,
      skipIntegral_toDigits _ hrest, Option.map_some, hrest.skip, htake,
      Nat.ofDigitChars_ten_toDigits]
    rfl

end JsonReader

import Mathlib.Data.List.Sort
import Wbcz.Lib.Json
import Wbcz.Lib.Text

/-!
# Canonical JSON texts

The JSON canonicalization scheme: the fields of every object in the order of their UTF-16
texts, no blanks, strings escaped as `json.dumps(value, ensure_ascii=False)` does, and only
integers that a double represents. What is written can be read back, so two values with one
canonical text are the same value up to the order of fields and the text of a number.

## Main results

* `Jcs.parseValue_render` — the round trip
* `Jcs.bytes_injective` — one canonical text, one value in canonical form
* `Jcs.sorted_eq_of_canonicalForm` — for values without floats, up to the order of fields
* `Jcs.get?_canonicalForm` — the canonical form keeps what a key stands for
-/

namespace Jcs

/-- The UTF-16 code units of a character. -/
def utf16Units (c : Char) : List Nat :=
  if c.toNat < 0x10000 then [c.toNat]
  else [0xD800 + (c.toNat - 0x10000) / 0x400, 0xDC00 + (c.toNat - 0x10000) % 0x400]

/-- Lexicographic comparison of code units. -/
def unitsLe : List Nat → List Nat → Bool
  | [], _ => true
  | _ :: _, [] => false
  | u :: us, v :: vs => u < v || (u = v && unitsLe us vs)

/-- A key does not come after another: `key.encode("utf-16-be")` compared. -/
def keyLe (a b : String) : Bool :=
  unitsLe (a.toList.flatMap utf16Units) (b.toList.flatMap utf16Units)

/-- Fields in the order of their keys; equal keys keep their order. -/
def sortFields (fields : List (String × Json)) : List (String × Json) :=
  fields.insertionSort fun a b => keyLe a.1 b.1 = true

mutual

/-- The value with the fields of every object in order. -/
def sorted : Json → Json
  | .arr items => .arr (sortedItems items)
  | .obj fields => .obj (sortFields (sortedFields fields))
  | .null => .null
  | .bool b => .bool b
  | .int i => .int i
  | .float text => .float text
  | .str s => .str s

def sortedItems : List Json → List Json
  | [] => []
  | item :: rest => sorted item :: sortedItems rest

def sortedFields : List (String × Json) → List (String × Json)
  | [] => []
  | (key, value) :: rest => (key, sorted value) :: sortedFields rest

end

/-- A decimal with its exponent written out, where the exponent is not negative. -/
def shiftLeft (whole fraction : List Char) (n : Nat) : List Char :=
  whole ++ fraction ++ List.replicate (n - fraction.length) '0'

/-- A character of a number. -/
def isNumberChar (c : Char) : Bool := c.isDigit || c ∈ ['-', '+', '.', 'e']

/-- The text of a finite float from the text Python prints for it. -/
def finiteText (raw : String) : List Char :=
  let cs := raw.toList
  if raw = "0.0" ∨ raw = "-0.0" then ['0']
  else if 'e' ∈ cs then
    let mantissa := cs.takeWhile (· ≠ 'e')
    let exponent := (cs.dropWhile (· ≠ 'e')).tail
    let n := Nat.ofDigitChars 10 (exponent.filter Char.isDigit) 0
    let sign := mantissa.takeWhile (· = '-')
    let whole := (mantissa.dropWhile (· = '-')).takeWhile (· ≠ '.')
    let fraction := (mantissa.dropWhile (· ≠ '.')).tail
    if exponent.head? = some '-' then
      -- from a millionth on, the decimal is written out
      if n ≤ 6 then sign ++ ['0', '.'] ++ List.replicate (n - 1) '0' ++ whole ++ fraction
      else mantissa ++ ['e', '-'] ++ Nat.toDigits 10 n
    else if n ≤ 20 then sign ++ shiftLeft whole fraction n
    else mantissa ++ ['e', '+'] ++ Nat.toDigits 10 n
  else if cs.drop (cs.length - 2) = ['.', '0'] then cs.take (cs.length - 2)
  else cs

/-- The text of a float; nothing where Python prints no number for it. -/
def floatText (raw : String) : Option (List Char) :=
  if finiteText raw ≠ [] ∧ (finiteText raw).all isNumberChar then some (finiteText raw)
  else none

example : floatText "1.5e-05" = some "0.000015".toList := by decide +kernel
example : floatText "-2e+22" = some "-2e+22".toList := by decide +kernel
example : floatText "nan" = none := by decide +kernel

/-- The text of an integer. -/
def intText : Int → List Char
  | .ofNat n => Nat.toDigits 10 n
  | .negSucc n => '-' :: Nat.toDigits 10 (n + 1)

/-- The largest integer every reader of JSON keeps. -/
def safeIntegerMax : Int := 9007199254740991

mutual

/-- Why a value has no canonical text, if it has none. -/
def check : Json → Except String Unit
  | .int i =>
    if i.natAbs > safeIntegerMax.natAbs then
      .error "unsafe JSON integer must be encoded as string"
    else .ok ()
  | .float text => if (floatText text).isNone then .error "NaN/Infinity are forbidden" else .ok ()
  | .arr items => checkItems items
  | .obj fields => checkFields fields
  | .null => .ok ()
  | .bool _ => .ok ()
  | .str _ => .ok ()

def checkItems : List Json → Except String Unit
  | [] => .ok ()
  | item :: rest => do
    check item
    checkItems rest

def checkFields : List (String × Json) → Except String Unit
  | [] => .ok ()
  | (_, value) :: rest => do
    check value
    checkFields rest

end

mutual

/-- The text of a value, fields as they stand. -/
def render : Json → List Char
  | .null => ['n', 'u', 'l', 'l']
  | .bool true => ['t', 'r', 'u', 'e']
  | .bool false => ['f', 'a', 'l', 's', 'e']
  | .int i => intText i
  | .float text => (floatText text).getD []
  | .str s => '"' :: (s.toList.flatMap Json.escapeChar ++ ['"'])
  | .arr items => '[' :: renderItems [] items
  | .obj fields => '\x7b' :: renderFields [] fields

/-- The items of an array, each after its separator, and the closing bracket. -/
def renderItems (separator : List Char) : List Json → List Char
  | [] => [']']
  | item :: rest => separator ++ (render item ++ renderItems [','] rest)

/-- The fields of an object, each after its separator, and the closing brace. -/
def renderFields (separator : List Char) : List (String × Json) → List Char
  | [] => ['\x7d']
  | (key, value) :: rest =>
    separator ++ '"' :: (key.toList.flatMap Json.escapeChar ++
      '"' :: ':' :: (render value ++ renderFields [','] rest))

end

/-- `jcs_dumps`. -/
def dumps (value : Json) : Except String String :=
  match check (sorted value) with
  | .ok () => .ok (String.ofList (render (sorted value)))
  | .error e => .error e

/-- `jcs_bytes`: the text of `dumps` in UTF-8. -/
def bytes (value : Json) : Except String (List UInt8) :=
  match check (sorted value) with
  | .ok () => .ok (Text.encode (render (sorted value)))
  | .error e => .error e

theorem bytes_eq_dumps (value : Json) : bytes value = (dumps value).map Text.utf8 := by
  unfold bytes dumps
  cases check (sorted value) with
  | error e => rfl
  | ok u => exact congrArg Except.ok (Text.utf8_ofList _).symm

example : dumps (.obj [("b", .arr [.int (-12), .null]), ("a", .str "x\n")]) =
    .ok "\x7b\"a\":\"x\\n\",\"b\":[-12,null]\x7d" := by decide +kernel

/-! ## Reading back -/

/-- The character an escape of one letter stands for. -/
def unescapeLetter (c : Char) : Char :=
  if c = 'n' then '\n' else if c = 'r' then '\r' else if c = 't' then '\t'
  else if c = 'b' then Char.ofNat 8 else if c = 'f' then Char.ofNat 12 else c

/-- The value of a lower-case hexadecimal digit. -/
def hexValue (c : Char) : Nat := if c.toNat < 58 then c.toNat - 48 else c.toNat - 87

/-- The characters of a string up to its closing quotation mark. -/
def parseString : List Char → Option (List Char × List Char)
  | [] => none
  | '\\' :: 'u' :: '0' :: '0' :: a :: b :: rest =>
    (parseString rest).map fun r => (Char.ofNat (16 * hexValue a + hexValue b) :: r.1, r.2)
  | '\\' :: c :: rest => (parseString rest).map fun r => (unescapeLetter c :: r.1, r.2)
  | c :: rest =>
    if c = '"' then some ([], rest)
    else (parseString rest).map fun r => (c :: r.1, r.2)

/-- Skip the separator before an item. -/
def skipComma (cs : List Char) : List Char := if cs.head? = some ',' then cs.tail else cs

mutual

/-- A value nested at most as deep as the fuel; a number is given as its text. -/
def parseValue : Nat → List Char → Option (Json × List Char)
  | 0, _ => none
  | _ + 1, [] => none
  | fuel + 1, c :: cs =>
    if c = 'n' then some (.null, cs.drop 3)
    else if c = 't' then some (.bool true, cs.drop 3)
    else if c = 'f' then some (.bool false, cs.drop 4)
    else if c = '"' then (parseString cs).map fun r => (.str (String.ofList r.1), r.2)
    else if c = '[' then (parseItems fuel cs).map fun r => (.arr r.1, r.2)
    else if c = '\x7b' then (parseFields fuel cs).map fun r => (.obj r.1, r.2)
    else
      some (.float (String.ofList ((c :: cs).takeWhile isNumberChar)),
        (c :: cs).dropWhile isNumberChar)

def parseItems : Nat → List Char → Option (List Json × List Char)
  | 0, _ => none
  | fuel + 1, cs =>
    if cs.head? = some ']' then some ([], cs.tail)
    else
      match parseValue fuel (skipComma cs) with
      | none => none
      | some (item, rest) => (parseItems fuel rest).map fun r => (item :: r.1, r.2)

def parseFields : Nat → List Char → Option (List (String × Json) × List Char)
  | 0, _ => none
  | fuel + 1, cs =>
    if cs.head? = some '\x7d' then some ([], cs.tail)
    else
      match parseString (skipComma cs).tail with
      | none => none
      | some (key, rest) =>
        match parseValue fuel rest.tail with
        | none => none
        | some (value, rest) =>
          (parseFields fuel rest).map fun r => ((String.ofList key, value) :: r.1, r.2)

end

theorem parseString_escapeChar (c : Char) (rest : List Char) :
    parseString (Json.escapeChar c ++ rest) =
      (parseString rest).map fun r => (c :: r.1, r.2) := by
  by_cases hquote : c = '"'
  · subst c; simp [Json.escapeChar, parseString, unescapeLetter]
  by_cases hslash : c = '\\'
  · subst c; simp [Json.escapeChar, parseString, unescapeLetter]
  by_cases hn : c = '\n'
  · subst c; simp [Json.escapeChar, parseString, unescapeLetter]
  by_cases hr : c = '\r'
  · subst c; simp [Json.escapeChar, parseString, unescapeLetter]
  by_cases ht : c = '\t'
  · subst c; simp [Json.escapeChar, parseString, unescapeLetter]
  by_cases hb : c.toNat = 8
  · have hc : c = Char.ofNat 8 := by rw [← hb, Char.ofNat_toNat]
    subst c; simp [Json.escapeChar, parseString, unescapeLetter]
  by_cases hf : c.toNat = 12
  · have hc : c = Char.ofNat 12 := by rw [← hf, Char.ofNat_toNat]
    subst c; simp [Json.escapeChar, parseString, unescapeLetter]
  by_cases hlow : c.toNat < 32
  · have hhex : 16 * hexValue (Json.hexDigit (c.toNat / 16)) +
        hexValue (Json.hexDigit (c.toNat % 16)) = c.toNat :=
      (by decide : ∀ n : Fin 32, 16 * hexValue (Json.hexDigit (n.val / 16)) +
        hexValue (Json.hexDigit (n.val % 16)) = n.val) ⟨c.toNat, hlow⟩
    simp [Json.escapeChar, hquote, hslash, hn, hr, ht, hb, hf, hlow, parseString, hhex,
      Char.ofNat_toNat]
  · simp [Json.escapeChar, hquote, hslash, hn, hr, ht, hb, hf, hlow, parseString]

/-- A string is read back up to its closing quotation mark. -/
theorem parseString_escaped (s rest : List Char) :
    parseString (s.flatMap Json.escapeChar ++ '"' :: rest) = some (s, rest) := by
  induction s with
  | nil => simp [parseString]
  | cons c s ih =>
    rw [List.flatMap_cons, List.append_assoc, parseString_escapeChar, ih]
    rfl

mutual

/-- The value with every number replaced by its text. -/
def textual : Json → Json
  | .int i => .float (String.ofList (intText i))
  | .float text => .float (String.ofList ((floatText text).getD []))
  | .arr items => .arr (textualItems items)
  | .obj fields => .obj (textualFields fields)
  | .null => .null
  | .bool b => .bool b
  | .str s => .str s

def textualItems : List Json → List Json
  | [] => []
  | item :: rest => textual item :: textualItems rest

def textualFields : List (String × Json) → List (String × Json)
  | [] => []
  | (key, value) :: rest => (key, textual value) :: textualFields rest

end

/-- The text of a number. -/
def IsNumber (cs : List Char) : Prop := cs ≠ [] ∧ ∀ c ∈ cs, isNumberChar c = true

theorem isNumber_toDigits (n : Nat) : IsNumber (Nat.toDigits 10 n) := by
  refine ⟨Nat.toDigits_ne_nil, fun c hc => ?_⟩
  have hdigit := Nat.isDigit_of_mem_toDigits (b := 10) (by decide) (by decide) hc
  simp [isNumberChar, hdigit]

theorem isNumber_intText (i : Int) : IsNumber (intText i) := by
  cases i with
  | ofNat n => exact isNumber_toDigits n
  | negSucc n =>
    refine ⟨List.cons_ne_nil _ _, fun c hc => ?_⟩
    rcases List.mem_cons.mp hc with rfl | hc
    · decide
    · exact (isNumber_toDigits (n + 1)).2 c hc

theorem isNumber_floatText {raw : String} (h : (floatText raw).isNone = false) :
    IsNumber ((floatText raw).getD []) := by
  by_cases hok : finiteText raw ≠ [] ∧ (finiteText raw).all isNumberChar
  · have htext : floatText raw = some (finiteText raw) := if_pos hok
    rw [htext]
    exact ⟨hok.1, List.all_eq_true.mp hok.2⟩
  · have htext : floatText raw = none := if_neg hok
    rw [htext] at h
    cases h

theorem check_items {item : Json} {rest : List Json} (h : checkItems (item :: rest) = .ok ()) :
    check item = .ok () ∧ checkItems rest = .ok () := by
  rw [checkItems] at h
  cases hitem : check item with
  | error e =>
    rw [hitem] at h
    cases h
  | ok u =>
    rw [hitem] at h
    exact ⟨rfl, h⟩

theorem check_fields {key : String} {value : Json} {rest : List (String × Json)}
    (h : checkFields ((key, value) :: rest) = .ok ()) :
    check value = .ok () ∧ checkFields rest = .ok () := by
  rw [checkFields] at h
  cases hvalue : check value with
  | error e =>
    rw [hvalue] at h
    cases h
  | ok u =>
    rw [hvalue] at h
    exact ⟨rfl, h⟩

theorem check_float {text : String} (h : check (.float text) = .ok ()) :
    (floatText text).isNone = false := by
  cases hnone : (floatText text).isNone with
  | false => rfl
  | true =>
    rw [check, hnone] at h
    cases h

/-- No value starts with a separator or a closing bracket. -/
theorem render_eq_cons {v : Json} (hv : check v = .ok ()) :
    ∃ c cs, render v = c :: cs ∧ c ≠ ',' ∧ c ≠ ']' := by
  have hnumber : ∀ {text : List Char}, IsNumber text →
      ∃ c cs, text = c :: cs ∧ c ≠ ',' ∧ c ≠ ']' := by
    intro text htext
    obtain ⟨c, cs, rfl⟩ := List.exists_cons_of_ne_nil htext.1
    have hc := htext.2 c List.mem_cons_self
    refine ⟨c, cs, rfl, ?_, ?_⟩ <;> rintro rfl <;> cases hc
  cases v with
  | null => exact ⟨_, _, rfl, by decide, by decide⟩
  | bool b => cases b <;> exact ⟨_, _, rfl, by decide, by decide⟩
  | int i => exact hnumber (isNumber_intText i)
  | float text => exact hnumber (isNumber_floatText (check_float hv))
  | str s => exact ⟨_, _, rfl, by decide, by decide⟩
  | arr items => exact ⟨_, _, rfl, by decide, by decide⟩
  | obj fields => exact ⟨_, _, rfl, by decide, by decide⟩

/-- The text does not go on with a character of a number. -/
def EndsNumber (cs : List Char) : Prop := ∀ c, cs.head? = some c → isNumberChar c = false

theorem endsNumber_cons {c : Char} (rest : List Char) (hc : isNumberChar c = false) :
    EndsNumber (c :: rest) := by
  intro d hd
  cases hd
  exact hc

theorem endsNumber_items (items : List Json) (rest : List Char) :
    EndsNumber (renderItems [','] items ++ rest) := by
  cases items <;> exact endsNumber_cons _ (by decide)

theorem endsNumber_fields (fields : List (String × Json)) (rest : List Char) :
    EndsNumber (renderFields [','] fields ++ rest) := by
  cases fields <;> exact endsNumber_cons _ (by decide)

/-- A number is read back as its text. -/
theorem parseValue_number {text rest : List Char} (fuel : Nat) (htext : IsNumber text)
    (hrest : EndsNumber rest) :
    parseValue (fuel + 1) (text ++ rest) = some (.float (String.ofList text), rest) := by
  have hstop : rest.takeWhile isNumberChar = [] ∧ rest.dropWhile isNumberChar = rest := by
    cases rest with
    | nil => simp
    | cons c rest => simp [hrest c rfl]
  have htake : (text ++ rest).takeWhile isNumberChar = text := by
    rw [List.takeWhile_append_of_pos htext.2, hstop.1, List.append_nil]
  have hdrop : (text ++ rest).dropWhile isNumberChar = rest := by
    rw [List.dropWhile_append_of_pos htext.2, hstop.2]
  obtain ⟨c, cs, rfl⟩ := List.exists_cons_of_ne_nil htext.1
  have hne : ∀ d : Char, isNumberChar d = false → c ≠ d := by
    rintro d hd rfl
    rw [htext.2 c List.mem_cons_self] at hd
    cases hd
  rw [List.cons_append] at htake hdrop ⊢
  rw [parseValue, if_neg (hne 'n' (by decide)), if_neg (hne 't' (by decide)),
    if_neg (hne 'f' (by decide)), if_neg (hne '"' (by decide)), if_neg (hne '[' (by decide)),
    if_neg (hne '\x7b' (by decide)), htake, hdrop]

mutual

/-- What `render` wrote is read back, with what follows it untouched. -/
theorem parseValue_render : ∀ (v : Json) (fuel : Nat) (rest : List Char), sizeOf v ≤ fuel →
    check v = .ok () → EndsNumber rest →
    parseValue fuel (render v ++ rest) = some (textual v, rest)
  | v, 0, rest, hfuel, _, _ => by cases v <;> simp at hfuel
  | .null, fuel + 1, rest, _, _, _ => by simp [render, parseValue, textual]
  | .bool true, fuel + 1, rest, _, _, _ => by simp [render, parseValue, textual]
  | .bool false, fuel + 1, rest, _, _, _ => by simp [render, parseValue, textual]
  | .int i, fuel + 1, rest, _, _, hrest =>
    parseValue_number fuel (isNumber_intText i) hrest
  | .float text, fuel + 1, rest, _, hv, hrest =>
    parseValue_number fuel (isNumber_floatText (check_float hv)) hrest
  | .str s, fuel + 1, rest, _, _, _ => by
    simp [render, parseValue, parseString_escaped, textual]
  | .arr items, fuel + 1, rest, hfuel, hv, _ => by
    have hitems := parseItems_render items fuel [] rest (.inl rfl)
      (by simp only [Json.arr.sizeOf_spec] at hfuel; omega) hv
    simp [render, parseValue, hitems, textual]
  | .obj fields, fuel + 1, rest, hfuel, hv, _ => by
    have hfields := parseFields_render fields fuel [] rest (.inl rfl)
      (by simp only [Json.obj.sizeOf_spec] at hfuel; omega) hv
    simp [render, parseValue, hfields, textual]

theorem parseItems_render : ∀ (items : List Json) (fuel : Nat) (separator rest : List Char),
    separator = [] ∨ separator = [','] → sizeOf items ≤ fuel → checkItems items = .ok () →
    parseItems fuel (renderItems separator items ++ rest) = some (textualItems items, rest)
  | items, 0, _, _, _, hfuel, _ => by cases items <;> simp at hfuel
  | [], fuel + 1, _, rest, _, _, _ => by simp [renderItems, parseItems, textualItems]
  | item :: items, fuel + 1, separator, rest, hsep, hfuel, hv => by
    simp only [List.cons.sizeOf_spec] at hfuel
    obtain ⟨hitem, hitems⟩ := check_items hv
    obtain ⟨c, cs, hhead, hcomma, hclose⟩ := render_eq_cons hitem
    have hvalue := parseValue_render item fuel (renderItems [','] items ++ rest) (by omega)
      hitem (endsNumber_items items rest)
    have hrest := parseItems_render items fuel [','] rest (.inr rfl) (by omega) hitems
    have hskip : skipComma (separator ++ (render item ++ (renderItems [','] items ++ rest))) =
        render item ++ (renderItems [','] items ++ rest) := by
      rcases hsep with rfl | rfl <;> simp [skipComma, hhead, hcomma]
    have hnotClosed : (separator ++ (render item ++ (renderItems [','] items ++ rest))).head? ≠
        some ']' := by
      rcases hsep with rfl | rfl <;> simp [hhead, hclose]
    simp only [renderItems, List.append_assoc, parseItems, if_neg hnotClosed, hskip, hvalue,
      hrest, Option.map_some, textualItems]

theorem parseFields_render : ∀ (fields : List (String × Json)) (fuel : Nat)
    (separator rest : List Char), separator = [] ∨ separator = [','] → sizeOf fields ≤ fuel →
    checkFields fields = .ok () →
    parseFields fuel (renderFields separator fields ++ rest) = some (textualFields fields, rest)
  | fields, 0, _, _, _, hfuel, _ => by cases fields <;> simp at hfuel
  | [], fuel + 1, _, rest, _, _, _ => by simp [renderFields, parseFields, textualFields]
  | (key, value) :: fields, fuel + 1, separator, rest, hsep, hfuel, hv => by
    simp only [List.cons.sizeOf_spec, Prod.mk.sizeOf_spec] at hfuel
    obtain ⟨hitem, hitems⟩ := check_fields hv
    have hvalue := parseValue_render value fuel (renderFields [','] fields ++ rest) (by omega)
      hitem (endsNumber_fields fields rest)
    have hrest := parseFields_render fields fuel [','] rest (.inr rfl) (by omega) hitems
    let text := key.toList.flatMap Json.escapeChar ++
      '"' :: ':' :: (render value ++ (renderFields [','] fields ++ rest))
    have hskip : skipComma (separator ++ '"' :: text) = '"' :: text := by
      rcases hsep with rfl | rfl <;> simp [skipComma]
    have hnotClosed : (separator ++ '"' :: text).head? ≠ some '\x7d' := by
      rcases hsep with rfl | rfl <;> simp
    have htext : renderFields separator ((key, value) :: fields) ++ rest =
        separator ++ '"' :: text := by
      simp [renderFields, text]
    rw [htext, parseFields, if_neg hnotClosed, hskip, List.tail_cons]
    simp only [text, parseString_escaped, List.tail_cons, hvalue, hrest, Option.map_some,
      String.ofList_toList, textualFields]

end

/-- Two values with one text are one value, numbers taken as texts. -/
theorem render_injective {v w : Json} (hv : check v = .ok ()) (hw : check w = .ok ())
    (h : render v = render w) : textual v = textual w := by
  have hend : EndsNumber [] := by
    intro c hc
    cases hc
  have hreadV := parseValue_render v (sizeOf v + sizeOf w) [] (by omega) hv hend
  have hreadW := parseValue_render w (sizeOf v + sizeOf w) [] (by omega) hw hend
  rw [h, hreadW] at hreadV
  exact (Prod.mk.inj (Option.some.inj hreadV)).1.symm

/-! ## The canonical form of a value -/

/-- Fields in order and numbers as texts: what the canonical text determines. -/
def canonicalForm (value : Json) : Json := textual (sorted value)

@[simp] theorem canonicalForm_str (s : String) : canonicalForm (.str s) = .str s := rfl

@[simp] theorem canonicalForm_null : canonicalForm .null = .null := rfl

theorem bytes_eq_ok {v : Json} {bs : List UInt8} (h : bytes v = .ok bs) :
    check (sorted v) = .ok () ∧ bs = Text.utf8 (String.ofList (render (sorted v))) := by
  rw [bytes_eq_dumps, dumps] at h
  cases hcheck : check (sorted v) with
  | error e =>
    rw [hcheck] at h
    cases h
  | ok u =>
    rw [hcheck] at h
    cases h
    exact ⟨rfl, rfl⟩

theorem bytes_of_check {v : Json} (h : check (sorted v) = .ok ()) :
    bytes v = .ok (Text.utf8 (String.ofList (render (sorted v)))) := by
  rw [bytes_eq_dumps, dumps, h]
  rfl

/-- One canonical text, one value in canonical form. -/
theorem bytes_injective {v w : Json} {bs : List UInt8} (hv : bytes v = .ok bs)
    (hw : bytes w = .ok bs) : canonicalForm v = canonicalForm w := by
  obtain ⟨hcheckV, htextV⟩ := bytes_eq_ok hv
  obtain ⟨hcheckW, htextW⟩ := bytes_eq_ok hw
  have htext := Text.utf8_injective (htextV.symm.trans htextW)
  exact render_injective hcheckV hcheckW (String.ofList_injective htext)

/-- Values equal up to the order of fields have one canonical text. -/
theorem bytes_congr {v w : Json} (h : sorted v = sorted w) : bytes v = bytes w := by
  rw [bytes, bytes, h]

theorem sortFields_perm (fields : List (String × Json)) : (sortFields fields).Perm fields :=
  List.perm_insertionSort _ _

theorem sortedFields_eq_map (fields : List (String × Json)) :
    sortedFields fields = fields.map fun field => (field.1, sorted field.2) := by
  induction fields with
  | nil => rfl
  | cons field rest ih => simp [sortedFields, ih]

theorem checkFields_eq_ok {fields : List (String × Json)} :
    checkFields fields = .ok () ↔ ∀ field ∈ fields, check field.2 = .ok () := by
  induction fields with
  | nil => simp [checkFields]
  | cons field rest ih =>
    obtain ⟨key, value⟩ := field
    constructor
    · intro h
      obtain ⟨hvalue, hrest⟩ := check_fields h
      exact List.forall_mem_cons.mpr ⟨hvalue, ih.mp hrest⟩
    · intro h
      obtain ⟨hvalue, hrest⟩ := List.forall_mem_cons.mp h
      rw [checkFields, hvalue]
      exact ih.mpr hrest

/-- An object has a canonical text when its values have. -/
theorem check_sorted_obj {fields : List (String × Json)} :
    check (sorted (.obj fields)) = .ok () ↔
      ∀ field ∈ fields, check (sorted field.2) = .ok () := by
  have hperm := sortFields_perm (sortedFields fields)
  rw [sorted, check, checkFields_eq_ok, sortedFields_eq_map]
  rw [sortedFields_eq_map] at hperm
  simp only [hperm.mem_iff, List.mem_map, forall_exists_index, and_imp,
    forall_apply_eq_imp_iff₂]

mutual

/-- The order of fields does not make a value unwritable. -/
theorem checked_sorted : ∀ v : Json, check v = .ok () → check (sorted v) = .ok ()
  | .arr items, h => checkedItems_sorted items h
  | .obj fields, h => check_sorted_obj.mpr (checkedFields_sorted fields (checkFields_eq_ok.mp h))
  | .int _, h | .float _, h | .null, h | .bool _, h | .str _, h => h

theorem checkedItems_sorted : ∀ items : List Json, checkItems items = .ok () →
    checkItems (sortedItems items) = .ok ()
  | [], _ => rfl
  | item :: items, h => by
    obtain ⟨hitem, hitems⟩ := check_items h
    rw [sortedItems, checkItems, checked_sorted item hitem]
    exact checkedItems_sorted items hitems

theorem checkedFields_sorted : ∀ fields : List (String × Json),
    (∀ field ∈ fields, check field.2 = .ok ()) → ∀ field ∈ fields, check (sorted field.2) = .ok ()
  | [], _ => by simp
  | (_, value) :: fields, h => by
    obtain ⟨hvalue, hfields⟩ := List.forall_mem_cons.mp h
    exact List.forall_mem_cons.mpr
      ⟨checked_sorted value hvalue, checkedFields_sorted fields hfields⟩

end

theorem textualFields_eq_map (fields : List (String × Json)) :
    textualFields fields = fields.map fun field => (field.1, textual field.2) := by
  induction fields with
  | nil => rfl
  | cons field rest ih => simp [textualFields, ih]

/-- Under distinct keys a lookup finds exactly the fields there are. -/
theorem lookup_eq_some_iff {fields : List (String × Json)} {key : String} {value : Json}
    (hkeys : (fields.map Prod.fst).Nodup) :
    Json.lookup fields key = some value ↔ (key, value) ∈ fields := by
  induction fields with
  | nil => simp [Json.lookup]
  | cons field rest ih =>
    obtain ⟨other, otherValue⟩ := field
    simp only [List.map_cons, List.nodup_cons] at hkeys
    by_cases hother : other = key
    · subst other
      have hnot : (key, value) ∉ rest := fun hmem => hkeys.1 (List.mem_map_of_mem hmem)
      simp [Json.lookup, hnot, eq_comm]
    · have hrest := ih hkeys.2
      simp only [Json.lookup] at hrest ⊢
      rw [List.find?_cons_of_neg (by simpa using hother), hrest]
      simp [Ne.symm hother]

/-- The canonical form keeps what a key stands for. -/
theorem get?_canonicalForm {fields : List (String × Json)} (hkeys : (fields.map Prod.fst).Nodup)
    (key : String) :
    (canonicalForm (.obj fields)).get? key = (Json.lookup fields key).map canonicalForm := by
  have hperm := (sortFields_perm (sortedFields fields)).map
    fun field => (field.1, textual field.2)
  rw [sortedFields_eq_map, List.map_map] at hperm
  have hformKeys : ((textualFields (sortFields (sortedFields fields))).map Prod.fst).Nodup := by
    rw [textualFields_eq_map, sortedFields_eq_map]
    refine ((hperm.map Prod.fst).nodup_iff).mpr ?_
    rw [List.map_map]
    exact hkeys
  refine Option.ext fun value => ?_
  rw [canonicalForm, sorted, textual, Json.get?, lookup_eq_some_iff hformKeys,
    textualFields_eq_map, sortedFields_eq_map, hperm.mem_iff]
  simp only [List.mem_map, Option.map_eq_some_iff, lookup_eq_some_iff hkeys]
  constructor
  · rintro ⟨⟨k, v⟩, hmem, heq⟩
    cases heq
    exact ⟨v, hmem, rfl⟩
  · rintro ⟨v, hmem, rfl⟩
    exact ⟨(key, v), hmem, rfl⟩

/-- Objects of one canonical form agree on every key. -/
theorem lookup_of_canonicalForm_eq {fields others : List (String × Json)}
    (hfields : (fields.map Prod.fst).Nodup) (hothers : (others.map Prod.fst).Nodup)
    (h : canonicalForm (.obj fields) = canonicalForm (.obj others)) (key : String) :
    (Json.lookup fields key).map canonicalForm = (Json.lookup others key).map canonicalForm := by
  rw [← get?_canonicalForm hfields, ← get?_canonicalForm hothers, h]

/-- Objects of one canonical form have values of one canonical form under a key. -/
theorem canonicalForm_field {fields others : List (String × Json)} {key : String}
    {value other : Json} (hfields : (fields.map Prod.fst).Nodup)
    (hothers : (others.map Prod.fst).Nodup)
    (h : canonicalForm (.obj fields) = canonicalForm (.obj others))
    (hvalue : Json.lookup fields key = some value) (hother : Json.lookup others key = some other) :
    canonicalForm value = canonicalForm other := by
  have hlookup := lookup_of_canonicalForm_eq hfields hothers h key
  rw [hvalue, hother] at hlookup
  exact Option.some.inj hlookup

theorem ofText?_injective {a b : Option String}
    (h : canonicalForm (.ofText? a) = canonicalForm (.ofText? b)) : a = b := by
  cases a with
  | none => cases b <;> simp_all [Json.ofText?]
  | some s => cases b <;> simp_all [Json.ofText?]

/-! ## Lists of texts -/

theorem sortedItems_texts (texts : List String) :
    sortedItems (texts.map Json.str) = texts.map Json.str := by
  induction texts with
  | nil => rfl
  | cons text rest ih => simp [sortedItems, sorted, ih]

theorem canonicalForm_texts (texts : List String) :
    canonicalForm (.arr (texts.map Json.str)) = .arr (texts.map Json.str) := by
  have htextual : textualItems (texts.map Json.str) = texts.map Json.str := by
    induction texts with
    | nil => rfl
    | cons text rest ih => simp [textualItems, textual, ih]
  rw [canonicalForm, sorted, sortedItems_texts, textual, htextual]

/-- Only a list of texts is put in order as one. -/
theorem eq_of_sorted_texts {value : Json} {texts : List String}
    (h : sorted value = .arr (texts.map Json.str)) : value = .arr (texts.map Json.str) := by
  cases value with
  | arr items =>
    have hitems : sortedItems items = texts.map Json.str := Json.arr.inj h
    clear h
    induction items generalizing texts with
    | nil =>
      cases texts with
      | nil => rfl
      | cons text rest => cases hitems
    | cons item items ih =>
      cases texts with
      | nil => cases hitems
      | cons text rest =>
        obtain ⟨hitem, hrest⟩ := List.cons.inj hitems
        have hsame : item = .str text := by cases item <;> cases hitem; rfl
        rw [hsame, Json.arr.inj (ih hrest)]
        rfl
  | _ => cases h

/-! ## Values without floats -/

mutual

/-- No float occurs in the value. -/
def floatFree : Json → Bool
  | .float _ => false
  | .arr items => floatFreeItems items
  | .obj fields => floatFreeFields fields
  | .null => true
  | .bool _ => true
  | .int _ => true
  | .str _ => true

def floatFreeItems : List Json → Bool
  | [] => true
  | item :: rest => floatFree item && floatFreeItems rest

def floatFreeFields : List (String × Json) → Bool
  | [] => true
  | (_, value) :: rest => floatFree value && floatFreeFields rest

end

theorem floatFreeFields_eq_all (fields : List (String × Json)) :
    floatFreeFields fields = fields.all fun field => floatFree field.2 := by
  induction fields with
  | nil => rfl
  | cons field rest ih => simp [floatFreeFields, ih]

theorem floatFreeFields_sortFields (fields : List (String × Json)) :
    floatFreeFields (sortFields fields) = floatFreeFields fields := by
  rw [floatFreeFields_eq_all, floatFreeFields_eq_all]
  exact (sortFields_perm fields).all_eq

mutual

theorem floatFree_sorted : ∀ v : Json, floatFree (sorted v) = floatFree v
  | .arr items => by rw [sorted, floatFree, floatFree, floatFreeItems_sorted items]
  | .obj fields => by
    rw [sorted, floatFree, floatFree, floatFreeFields_sortFields, floatFreeFields_sorted fields]
  | .null => rfl
  | .bool _ => rfl
  | .int _ => rfl
  | .float _ => rfl
  | .str _ => rfl

theorem floatFreeItems_sorted : ∀ items : List Json,
    floatFreeItems (sortedItems items) = floatFreeItems items
  | [] => rfl
  | item :: rest => by
    rw [sortedItems, floatFreeItems, floatFreeItems, floatFree_sorted item,
      floatFreeItems_sorted rest]

theorem floatFreeFields_sorted : ∀ fields : List (String × Json),
    floatFreeFields (sortedFields fields) = floatFreeFields fields
  | [] => rfl
  | (key, value) :: rest => by
    rw [sortedFields, floatFreeFields, floatFreeFields, floatFree_sorted value,
      floatFreeFields_sorted rest]

end

theorem toDigits_injective {m n : Nat} (h : Nat.toDigits 10 m = Nat.toDigits 10 n) : m = n := by
  rw [← Nat.ofDigitChars_ten_toDigits (n := m), h, Nat.ofDigitChars_ten_toDigits]

theorem intText_injective {i j : Int} (h : intText i = intText j) : i = j := by
  have hsign : ∀ m n : Nat, Nat.toDigits 10 m ≠ '-' :: Nat.toDigits 10 n := by
    intro m n heq
    have hmem : '-' ∈ Nat.toDigits 10 m := by
      rw [heq]
      exact List.mem_cons_self
    cases Nat.isDigit_of_mem_toDigits (b := 10) (by decide) (by decide) hmem
  cases i with
  | ofNat m =>
    cases j with
    | ofNat n => rw [toDigits_injective h]
    | negSucc n => exact absurd h (hsign m (n + 1))
  | negSucc m =>
    cases j with
    | ofNat n => exact absurd h.symm (hsign n (m + 1))
    | negSucc n => rw [Nat.succ.inj (toDigits_injective (List.cons.inj h).2)]

mutual

theorem textual_injective : ∀ v w : Json, floatFree v = true → floatFree w = true →
    textual v = textual w → v = w
  | .null, w, _, _, h => by
    cases w <;> first | rfl | cases h
  | .bool b, w, _, _, h => by
    cases w with
    | bool c => exact h
    | _ => cases h
  | .str s, w, _, _, h => by
    cases w with
    | str t => exact h
    | _ => cases h
  | .int i, w, _, hw, h => by
    cases w with
    | int j => rw [intText_injective (String.ofList_injective (Json.float.inj h))]
    | float => cases hw
    | _ => cases h
  | .float _, _, hv, _, _ => by cases hv
  | .arr items, w, hv, hw, h => by
    cases w with
    | arr others => rw [textualItems_injective items others hv hw (Json.arr.inj h)]
    | _ => cases h
  | .obj fields, w, hv, hw, h => by
    cases w with
    | obj others => rw [textualFields_injective fields others hv hw (Json.obj.inj h)]
    | _ => cases h

theorem textualItems_injective : ∀ items others : List Json, floatFreeItems items = true →
    floatFreeItems others = true → textualItems items = textualItems others → items = others
  | [], others, _, _, h => by cases others <;> cases h; rfl
  | item :: items, others, hv, hw, h => by
    cases others with
    | nil => cases h
    | cons other others =>
      simp only [floatFreeItems, Bool.and_eq_true] at hv hw
      obtain ⟨hitem, hitems⟩ := List.cons.inj h
      rw [textual_injective item other hv.1 hw.1 hitem,
        textualItems_injective items others hv.2 hw.2 hitems]

theorem textualFields_injective : ∀ fields others : List (String × Json),
    floatFreeFields fields = true → floatFreeFields others = true →
    textualFields fields = textualFields others → fields = others
  | [], others, _, _, h => by cases others <;> cases h; rfl
  | (key, value) :: fields, others, hv, hw, h => by
    cases others with
    | nil => cases h
    | cons other others =>
      obtain ⟨otherKey, otherValue⟩ := other
      simp only [floatFreeFields, Bool.and_eq_true] at hv hw
      obtain ⟨hfield, hfields⟩ := List.cons.inj h
      obtain ⟨hkey, hvalue⟩ := Prod.mk.inj hfield
      rw [hkey, textual_injective value otherValue hv.1 hw.1 hvalue,
        textualFields_injective fields others hv.2 hw.2 hfields]

end

/-- Without floats, one canonical form means equal up to the order of fields. -/
theorem sorted_eq_of_canonicalForm {v w : Json} (hv : floatFree v = true)
    (hw : floatFree w = true) (h : canonicalForm v = canonicalForm w) : sorted v = sorted w :=
  textual_injective _ _ ((floatFree_sorted v).trans hv) ((floatFree_sorted w).trans hw) h

end Jcs

import Wbcz.Audit.Sanitizer

/-!
# What may enter a log

`sanitize_operational_data` of `wbcz_web/services/production_hardening.py` stands before the logs,
the health reports and the metadata of reviews. It knows secrets by the words of their keys, and
words are between underscores. `AuditSanitizer` finds its markers anywhere in a key.

The characters that `\w` matches are those of the Unicode version of the interpreter, a parameter.
-/

namespace Wbcz.ProductionHardening

/-- A value that is logged. The keys of a mapping are their `str`; a tuple or a set is a sequence.
Of any other object only the name of its type is seen. -/
inductive OperationalValue where
  | none
  | bool (b : Bool)
  | int (i : ℤ)
  | float (text : String)
  | str (text : String)
  | mapping (fields : List (String × OperationalValue))
  | sequence (items : List OperationalValue)
  | other (typeName : String)

/-! ## Sensitive keys -/

/-- The words of `_SENSITIVE_KEY_RE`. -/
def sensitiveWords : List String :=
  ["cis", "kiz", "sgtin", "km", "password", "passwd", "session", "csrf", "invite", "token",
    "secret", "api_key", "authorization", "bearer", "credential", "pin", "private_key",
    "database_url", "db_url", "encryption_key", "artifact_key", "audit_key", "master_key",
    "signature"]

/-- The ASCII letter that a character matches where case is ignored. -/
def foldCase (c : Char) : Char :=
  let n := c.toNat
  if 65 ≤ n ∧ n ≤ 90 then Char.ofNat (n + 32)
  else if n = 0x130 ∨ n = 0x131 then 'i'
  else if n = 0x17f then 's'
  else if n = 0x212a then 'k'
  else c

/-- What follows a word at the beginning of the text. -/
def dropFolded (word : String) (cs : List Char) : Option (List Char) :=
  if (cs.take word.length).map foldCase = word.toList then some (cs.drop word.length) else none

/-- `(?:$|_)`: the end may stand before a last line feed. -/
def endsWord : List Char → Bool
  | [] | ['\n'] | '_' :: _ => true
  | _ => false

def startsWithWord (cs : List Char) : Bool :=
  sensitiveWords.any fun word => (dropFolded word cs).any endsWord

/-- A word follows an underscore. -/
def wordAfterUnderscore : List Char → Bool
  | [] => false
  | '_' :: rest => startsWithWord rest || wordAfterUnderscore rest
  | _ :: rest => wordAfterUnderscore rest

/-- `_SENSITIVE_KEY_RE.search`. -/
def sensitiveKey (key : String) : Bool :=
  startsWithWord key.toList || wordAfterUnderscore key.toList

example : sensitiveKey "wb_Token" = true ∧ sensitiveKey "accessToken" = false := by decide

/-! ## Texts -/

/-- `re.sub`: what a match is replaced by, after the character before it and with the length of
what is matched. -/
def subAll (matchLength? : Option Char → List Char → Option ℕ) (replacement : String) :
    Option Char → ℕ → List Char → List Char
  | _, _, [] => []
  | _, skip + 1, c :: cs => subAll matchLength? replacement (some c) skip cs
  | before, 0, c :: cs =>
    match matchLength? before (c :: cs) with
    | some length =>
      replacement.toList ++ subAll matchLength? replacement (some c) (length - 1) cs
    | none => c :: subAll matchLength? replacement (some c) 0 cs

/-- `(?:\+[^:]+)?`, before a colon. -/
def dropDriver : List Char → Option (List Char)
  | '+' :: cs => if (cs.takeWhile (· ≠ ':')).isEmpty then none else some (cs.dropWhile (· ≠ ':'))
  | cs => some cs

/-- `_DB_URL_RE`. -/
def dbUrlLength? (_ : Option Char) (cs : List Char) : Option ℕ := do
  let scheme ← dropFolded "postgres" cs
  let scheme := (dropFolded "ql" scheme).getD scheme
  let rest ← dropFolded "://" (← dropDriver scheme)
  let location := rest.takeWhile (!Text.isSpace ·)
  if location.isEmpty then none else some (cs.length - rest.length + location.length)

/-- A character of a bearer token. -/
def isTokenChar (c : Char) : Bool :=
  let n := (foldCase c).toNat
  (97 ≤ n && n ≤ 122) || (48 ≤ n && n ≤ 57) || ['.', '_', '~', '+', '/', '-'].contains c

/-- `_BEARER_RE`. -/
def bearerLength? (isWord : Char → Bool) (before : Option Char) (cs : List Char) : Option ℕ := do
  let rest ← if before.any isWord then none else dropFolded "bearer" cs
  let token := rest.dropWhile Text.isSpace
  let length := (token.takeWhile isTokenChar).length
  if token.length < rest.length ∧ 8 ≤ length then some (cs.length - token.length + length)
  else none

/-- What becomes of a text. -/
def sanitizeText (isWord : Char → Bool) (text : String) : String :=
  let url := subAll dbUrlLength? "<REDACTED_DB_URL>" none 0 text.toList
  let bearer := String.ofList
    (subAll (bearerLength? isWord) "Bearer <REDACTED>" none 0 url)
  if Text.contains "-----BEGIN" bearer && Text.contains "PRIVATE KEY" bearer then
    "<REDACTED_PRIVATE_KEY>"
  else Text.take 2000 bearer

/-! ## Values -/

section Sanitizer

variable (isWord : Char → Bool)

mutual

/-- `sanitize_operational_data`. -/
def sanitizeOperationalData (sensitive : Bool) : OperationalValue → Json
  | .mapping fields => .obj (sanitizeMapping sensitive fields)
  | .sequence items => .arr (sanitizeSequence sensitive items)
  | .none => if sensitive then .str "<REDACTED>" else .null
  | .bool b => if sensitive then .str "<REDACTED>" else .bool b
  | .int i => if sensitive then .str "<REDACTED>" else .int i
  | .float text => if sensitive then .str "<REDACTED>" else .float text
  | .str text => .str (if sensitive then "<REDACTED>" else sanitizeText isWord text)
  | .other typeName => .str (if sensitive then "<REDACTED>" else "<" ++ typeName ++ ">")

def sanitizeMapping (sensitive : Bool) :
    List (String × OperationalValue) → List (String × Json)
  | [] => []
  | (key, item) :: fields =>
    -- within a sensitive key nothing is looked into
    (key, if sensitive || sensitiveKey key then .str "<REDACTED>"
      else sanitizeOperationalData false item) :: sanitizeMapping sensitive fields

def sanitizeSequence (sensitive : Bool) : List OperationalValue → List Json
  | [] => []
  | item :: items =>
    sanitizeOperationalData sensitive item :: sanitizeSequence sensitive items

end

end Sanitizer

/-! ## Values but for one key -/

/-- A value but for what stands under one key of it. -/
inductive Context where
  | here (before : List (String × OperationalValue)) (key : String)
    (after : List (String × OperationalValue))
  | field (before : List (String × OperationalValue)) (key : String) (inner : Context)
    (after : List (String × OperationalValue))
  | item (before : List OperationalValue) (inner : Context) (after : List OperationalValue)

namespace Context

/-- The value with what stands there. -/
def fill (value : OperationalValue) : Context → OperationalValue
  | here before key after => .mapping (before ++ (key, value) :: after)
  | field before key inner after => .mapping (before ++ (key, inner.fill value) :: after)
  | item before inner after => .sequence (before ++ inner.fill value :: after)

/-- The key. -/
def key : Context → String
  | here _ key _ => key
  | field _ _ inner _ => inner.key
  | item _ inner _ => inner.key

/-- The keys of the mappings on the way to it, and the key itself. -/
def keys : Context → List String
  | here _ key _ => [key]
  | field _ key inner _ => key :: inner.keys
  | item _ inner _ => inner.keys

end Context

section Laws

variable {isWord : Char → Bool}

theorem sanitizeMapping_append (sensitive : Bool)
    (before after : List (String × OperationalValue)) :
    sanitizeMapping isWord sensitive (before ++ after) =
      sanitizeMapping isWord sensitive before ++ sanitizeMapping isWord sensitive after := by
  induction before with
  | nil => rfl
  | cons field before ih =>
    obtain ⟨key, item⟩ := field
    rw [List.cons_append, sanitizeMapping, sanitizeMapping, ih, List.cons_append]

theorem sanitizeSequence_append (sensitive : Bool) (before after : List OperationalValue) :
    sanitizeSequence isWord sensitive (before ++ after) =
      sanitizeSequence isWord sensitive before ++ sanitizeSequence isWord sensitive after := by
  induction before with
  | nil => rfl
  | cons item before ih =>
    rw [List.cons_append, sanitizeSequence, sanitizeSequence, ih, List.cons_append]

/-- Of the fields around a value the result says nothing about the value. -/
theorem sanitize_mapping_eq_iff {before after : List (String × OperationalValue)} {key : String}
    {value other : OperationalValue} :
    sanitizeOperationalData isWord false (.mapping (before ++ (key, value) :: after)) =
        sanitizeOperationalData isWord false (.mapping (before ++ (key, other) :: after)) ↔
      sensitiveKey key = true ∨
        sanitizeOperationalData isWord false value =
          sanitizeOperationalData isWord false other := by
  rw [sanitizeOperationalData, sanitizeOperationalData, Json.obj.injEq, sanitizeMapping_append,
    sanitizeMapping_append, List.append_cancel_left_eq, sanitizeMapping, sanitizeMapping,
    List.cons.injEq, and_iff_left rfl, Prod.mk.injEq, and_iff_right rfl, Bool.false_or]
  by_cases h : sensitiveKey key = true
  · simp [h]
  · simp [h]

theorem sanitize_sequence_eq_iff {before after : List OperationalValue}
    {value other : OperationalValue} :
    sanitizeOperationalData isWord false (.sequence (before ++ value :: after)) =
        sanitizeOperationalData isWord false (.sequence (before ++ other :: after)) ↔
      sanitizeOperationalData isWord false value =
        sanitizeOperationalData isWord false other := by
  rw [sanitizeOperationalData, sanitizeOperationalData, Json.arr.injEq, sanitizeSequence_append,
    sanitizeSequence_append, List.append_cancel_left_eq, sanitizeSequence, sanitizeSequence,
    List.cons.injEq, and_iff_left rfl]

/-- Two values in one context come out the same where a key on the way to them is sensitive, and
where they come out the same by themselves. -/
theorem sanitize_fill_eq_iff (context : Context) (value other : OperationalValue) :
    sanitizeOperationalData isWord false (context.fill value) =
        sanitizeOperationalData isWord false (context.fill other) ↔
      (∃ key ∈ context.keys, sensitiveKey key = true) ∨
        sanitizeOperationalData isWord false value =
          sanitizeOperationalData isWord false other := by
  induction context with
  | here before key after =>
    rw [Context.fill, Context.fill, sanitize_mapping_eq_iff]
    simp [Context.keys]
  | field before key inner after ih =>
    rw [Context.fill, Context.fill, sanitize_mapping_eq_iff, ih]
    simp [Context.keys, or_assoc]
  | item before inner after ih =>
    rw [Context.fill, Context.fill, sanitize_sequence_eq_iff, ih, Context.keys]

end Laws

/-- What stands under a key has no influence on what is logged exactly when the key, or a key of a
mapping around it, is sensitive. -/
theorem operational_data_independent_iff (isWord : Char → Bool) (context : Context) :
    (∀ value other : OperationalValue,
      sanitizeOperationalData isWord false (context.fill value) =
        sanitizeOperationalData isWord false (context.fill other)) ↔
      ∃ key ∈ context.keys, sensitiveKey key = true := by
  constructor
  · intro h
    refine ((sanitize_fill_eq_iff context .none (.bool true)).mp (h _ _)).resolve_right ?_
    -- `None` and `True` are logged as they are
    simp [sanitizeOperationalData]
  · intro h value other
    exact (sanitize_fill_eq_iff context value other).mpr (.inl h)

/-- Keys of secrets and of marking codes to the audit, and no words to this sanitizer: what stands
under them is logged. -/
theorem operational_data_leaks :
    Audit.secretKey "accessToken" = true ∧ Audit.secretKey "X-Api-Key" = true ∧
      Audit.markingKey "cises" = true ∧
      sanitizeOperationalData Char.isAlphanum false
          (.mapping [("headers", .mapping [("accessToken", .str "a"), ("X-Api-Key", .str "b")]),
            ("cises", .sequence [.str "c"])]) =
        .obj [("headers", .obj [("accessToken", .str "a"), ("X-Api-Key", .str "b")]),
          ("cises", .arr [.str "c"])] ∧
      sanitizeOperationalData Char.isAlphanum false
          (.mapping [("headers", .mapping [("accessToken", .str "x"), ("X-Api-Key", .str "y")]),
            ("cises", .sequence [.str "z"])]) =
        .obj [("headers", .obj [("accessToken", .str "x"), ("X-Api-Key", .str "y")]),
          ("cises", .arr [.str "z"])] := by
  exact ⟨by decide +kernel, by decide +kernel, by decide +kernel, rfl, rfl⟩

end Wbcz.ProductionHardening

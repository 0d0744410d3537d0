import Mathlib.Data.Int.Notation
import Wbcz.Lib.IntText
import Wbcz.Lib.Jcs
import Wbcz.Errors

/-!
# What may enter an audit row

The boundary of `wbcz_web/services/audit_history.py` against secrets and marking codes:
`AuditPseudonymizer`, `AuditSanitizer` and the checks of identifiers and digests. A text is a
list of Unicode scalar values, so the refusals of lone surrogates have nothing to refuse.
-/

namespace Wbcz.Audit

def auditError (message : String) : PyError := ⟨.auditError, message⟩

def auditRegistryError (message : String) : PyError := ⟨.other "AuditRegistryError", message⟩

def auditSanitizationError (message : String) : PyError :=
  ⟨.other "AuditSanitizationError", message⟩

def auditIntegrityError (message : String) : PyError := ⟨.other "AuditIntegrityError", message⟩

def auditEventKeyConflict : PyError := ⟨.other "AuditEventKeyConflict", "AUDIT_EVENT_KEY_CONFLICT"⟩

/-- The digests of `hashlib` and `hmac`, as hexadecimal texts. -/
structure Digests where
  sha256 : List UInt8 → String
  hmacSha256 : List UInt8 → List UInt8 → String

/-- `jcs_bytes`. -/
def jcsBytes (value : Json) : Except PyError (List UInt8) :=
  (Jcs.bytes value).mapError auditSanitizationError

/-! ## Pseudonyms -/

/-- `AuditPseudonymizer`: its constructor refuses a key under 32 bytes. -/
structure AuditPseudonymizer where
  key : Option (List UInt8)
  keyId : String
  key_size : ∀ k, key = some k → 32 ≤ k.length

namespace AuditPseudonymizer

/-- `_hmac`. -/
def hmac (p : AuditPseudonymizer) (digests : Digests) (purpose value : String) :
    Except PyError String :=
  match p.key with
  | none => .error (auditError "audit pseudonym key is required for sensitive pseudonymization")
  | some key =>
    .ok ("hmac-sha256:" ++ p.keyId ++ ":" ++
      digests.hmacSha256 key (Text.utf8 (purpose ++ ":" ++ value)))

def marking (p : AuditPseudonymizer) (digests : Digests) (organisationId exactValue : String) :
    Except PyError String :=
  p.hmac digests "marking:v1" (organisationId ++ ":" ++ exactValue)

def machinePrincipal (p : AuditPseudonymizer) (digests : Digests) (rawPrincipal : String) :
    Except PyError String :=
  p.hmac digests "machine-principal:v1" rawPrincipal

end AuditPseudonymizer

/-! ## Metadata -/

def maxSanitizerDepth : Nat := 8
def maxMetadataKeys : Nat := 100
def maxArrayElements : Nat := 100
def maxStringChars : Nat := 4096
def maxMetadataBytes : Nat := 32 * 1024

/-- `_SECRET_MARKERS`. -/
def secretMarkers : List String :=
  ["password", "passwd", "token", "authorization", "cookie", "session_token", "csrf",
    "invite_token", "secret", "api_key", "api-key", "private_key", "pin", "bearer"]

/-- `_MARKING_MARKERS`. -/
def markingMarkers : List String :=
  ["kiz", "cis", "cises", "sgtin", "km", "marking_code", "marking_identifier", "marking"]

def lowered (key : String) : String := Text.replaceChar '-' '_' (Text.caseFoldAscii key)

/-- `_secret_key`. -/
def secretKey (key : String) : Bool :=
  secretMarkers.any fun marker => Text.contains (Text.replaceChar '-' '_' marker) (lowered key)

/-- `_marking_key`. -/
def markingKey (key : String) : Bool :=
  markingMarkers.any fun marker => Text.contains marker (lowered key)

def redactedMarking : Json := .str "[REDACTED_MARKING]"

section Sanitizer

variable (p : AuditPseudonymizer) (digests : Digests) (organisationId : Option String)

/-- A marking code in a list of them. -/
def sanitizeMarkingItem (organisation : String) : Json → Except PyError Json
  | .str exact => (p.marking digests organisation exact).map Json.str
  | _ => .ok redactedMarking

/-- A value under a key that names marking codes. -/
def sanitizeMarking (item : Json) : Except PyError Json :=
  match organisationId with
  | none => .ok redactedMarking
  | some organisation =>
    match item with
    | .str exact => (p.marking digests organisation exact).map Json.str
    | .arr items =>
      if items.length > maxArrayElements then
        .error (auditSanitizationError "marking array exceeds limit")
      else (items.mapM (sanitizeMarkingItem p digests organisation)).map Json.arr
    | _ => .ok redactedMarking

def checkDepth (depth : Nat) : Except PyError Unit :=
  if depth > maxSanitizerDepth then
    .error (auditSanitizationError "audit metadata depth exceeds limit")
  else .ok ()

mutual

/-- `AuditSanitizer.sanitize`. -/
def sanitize (depth : Nat) : Json → Except PyError Json
  | .null => do
    checkDepth depth
    .ok .null
  | .bool b => do
    checkDepth depth
    .ok (.bool b)
  | .int i => do
    checkDepth depth
    if i.natAbs > Jcs.safeIntegerMax.natAbs then
      match IntText.str? i with
      | some text => .ok (.str text)
      | none => .error ⟨.valueError, ""⟩
    else .ok (.int i)
  | .float text => do
    checkDepth depth
    if (Jcs.floatText text).isNone then
      .error (auditSanitizationError "NaN/Infinity are forbidden")
    else .ok (.float text)
  | .str s => do
    checkDepth depth
    if s.length > maxStringChars then
      .error (auditSanitizationError "audit metadata string exceeds limit")
    else .ok (.str s)
  | .arr items => do
    checkDepth depth
    if items.length > maxArrayElements then
      .error (auditSanitizationError "audit metadata array exceeds limit")
    else (sanitizeItems depth items).map Json.arr
  | .obj fields => do
    checkDepth depth
    if fields.length > maxMetadataKeys then
      .error (auditSanitizationError "audit metadata object exceeds key limit")
    else (sanitizeFields depth fields).map Json.obj

def sanitizeItems (depth : Nat) : List Json → Except PyError (List Json)
  | [] => .ok []
  | item :: rest => do
    let item ← sanitize (depth + 1) item
    let rest ← sanitizeItems depth rest
    .ok (item :: rest)

def sanitizeFields (depth : Nat) : List (String × Json) → Except PyError (List (String × Json))
  | [] => .ok []
  | (key, item) :: rest => do
    let item ←
      if key.length > 128 then .error (auditSanitizationError "audit metadata key exceeds limit")
      else if secretKey key then .ok (.str "[REDACTED]")
      else if markingKey key then sanitizeMarking p digests organisationId item
      else sanitize (depth + 1) item
    let rest ← sanitizeFields depth rest
    .ok ((key, item) :: rest)

end

/-- `AuditSanitizer.metadata`. -/
def sanitizeMetadata (metadata : List (String × Json)) :
    Except PyError (List (String × Json)) := do
  let sanitized ← sanitize p digests organisationId 0 (.obj metadata)
  match sanitized with
  | .obj fields =>
    let canonical ← jcsBytes sanitized
    if canonical.length > maxMetadataBytes then
      .error (auditSanitizationError "audit metadata exceeds 32 KiB canonical limit")
    else .ok fields
  | _ => .error (auditSanitizationError "metadata must be an object")

end Sanitizer

/-! ## Identifiers and digests -/

/-- `_safe_id`. -/
def safeId (value : Option String) (maxLength : Nat) : Except PyError (Option String) :=
  match value with
  | none => .ok none
  | some text =>
    if text = "" ∨ text.length > maxLength ∨ text.toList.any (fun c => c.toNat < 32) then
      .error (auditError "unsafe audit identifier")
    else .ok (some text)

/-- The lower case of a hexadecimal digit. -/
def lowerHex? (c : Char) : Option Char :=
  let n := c.toNat
  if (48 ≤ n ∧ n ≤ 57) ∨ (97 ≤ n ∧ n ≤ 102) then some c
  else if 65 ≤ n ∧ n ≤ 70 then some (Char.ofNat (n + 32))
  else none

/-- `_safe_hash`. -/
def safeHash (value : Option String) : Except PyError (Option String) :=
  match value with
  | none => .ok none
  | some text =>
    match text.toList.mapM lowerHex? with
    | some digits =>
      if digits.length = 64 then .ok (some (String.ofList digits))
      else .error (auditError "expected lowercase sha256")
    | none => .error (auditError "expected lowercase sha256")

/-- `hex.replace('urn:', '')`. -/
def dropUrn : List Char → List Char
  | 'u' :: 'r' :: 'n' :: ':' :: rest => dropUrn rest
  | c :: rest => c :: dropUrn rest
  | [] => []

/-- `hex.replace('uuid:', '')`. -/
def dropUuid : List Char → List Char
  | 'u' :: 'u' :: 'i' :: 'd' :: ':' :: rest => dropUuid rest
  | c :: rest => c :: dropUuid rest
  | [] => []

/-- The thirty-two digits in groups of 8, 4, 4, 4 and 12. -/
def uuidText (digits : List Char) : String :=
  String.ofList (digits.take 8 ++ '-' :: ((digits.drop 8).take 4 ++ '-' :: ((digits.drop 12).take 4
    ++ '-' :: ((digits.drop 16).take 4 ++ '-' :: digits.drop 20))))

/-- `canonical_uuid`: `UUID(value)` takes thirty-two hexadecimal digits, with hyphens, braces
and the URN prefix as it pleases. -/
def canonicalUuid (value : String) : Except PyError String :=
  let isBrace := fun c : Char => c = '\x7b' || c = '\x7d'
  let bare := dropUuid (dropUrn value.toList)
  let stripped := ((bare.dropWhile isBrace).reverse.dropWhile isBrace).reverse
  match (stripped.filter (· ≠ '-')).mapM lowerHex? with
  | some digits =>
    if digits.length = 32 then .ok (uuidText digits)
    else .error ⟨.valueError, "badly formed hexadecimal UUID string"⟩
  | none => .error ⟨.valueError, "badly formed hexadecimal UUID string"⟩

/-- A fresh `str(uuid4())`. -/
structure Uuid4 where
  text : String
  canonical : canonicalUuid text = .ok text

example : canonicalUuid "\x7b00112233-4455-6677-8899-AABBCCDDEEFF\x7d" =
    .ok "00112233-4455-6677-8899-aabbccddeeff" := by decide +kernel

end Wbcz.Audit

import Wbcz.Lib.Redaction
import Wbcz.Lib.Text

/-!
# Evidence from Wildberries without secrets

`sanitize_wb_evidence` of `wb_fbs.py`: tokens and marking codes are replaced wherever their keys
stand, and the values beside a text that names them.
-/

namespace Wbcz.Marketplace

def sensitiveKeys : List String :=
  ["authorization", "token", "apitoken", "clienttoken", "rawtoken", "secret", "sgtin", "cis", "kiz",
    "marking", "markingcode", "signature", "pin", "privatekey", "fullmarking"]

def sensitiveDiscriminatorFields : List String := ["key", "type", "name", "field", "kind"]

def sensitiveAssociatedFields : List String :=
  ["value", "values", "data", "code", "codes", "sgtin", "sgtins", "cis", "cises", "kiz", "kizes",
    "marking", "markingcode", "markings", "items"]

/-- The text begins with this. -/
def startsWith (start text : String) : Bool := start.toList.isPrefixOf text.toList

/-- The text ends with this. -/
def endsWith (ending text : String) : Bool := ending.toList.isSuffixOf text.toList

/-- `_sensitive_key`. -/
def sensitiveKey (key : String) : Bool :=
  let compact := Text.compact key
  sensitiveKeys.contains compact || startsWith "sgtin" compact || startsWith "kiz" compact ||
    startsWith "marking" compact || startsWith "cis" compact || endsWith "token" compact ||
    endsWith "secret" compact

theorem visible_of_compact {key : String}
    (h : sensitiveDiscriminatorFields.contains (Text.compact key) = true) :
    sensitiveKey key = false ∧ sensitiveAssociatedFields.contains (Text.compact key) = false := by
  unfold sensitiveKey
  generalize Text.compact key = compact at h ⊢
  have hcases : compact = "key" ∨ compact = "type" ∨ compact = "name" ∨ compact = "field" ∨
      compact = "kind" := by simpa [sensitiveDiscriminatorFields] using h
  rcases hcases with rfl | rfl | rfl | rfl | rfl <;> decide

/-- What `sanitize_wb_evidence` hides. -/
def wbPolicy : Redaction.Policy where
  secret := sensitiveKey
  associated key := sensitiveAssociatedFields.contains (Text.compact key)
  telling key := sensitiveDiscriminatorFields.contains (Text.compact key)
  names := sensitiveKey
  placeholder := .str "REDACTED"
  visible _ h := visible_of_compact h

/-- `sanitize_wb_evidence`. -/
def sanitizeWbEvidence (value : Json) : Json := wbPolicy.redact false value

/-- `redact_mapping`. -/
def redactMapping (row : List (String × Json)) : List (String × Json) :=
  wbPolicy.redactFields (wbPolicy.tells row) row

theorem sanitizeWbEvidence_obj (row : List (String × Json)) :
    sanitizeWbEvidence (.obj row) = .obj (redactMapping row) := by
  rw [sanitizeWbEvidence, Redaction.Policy.redact_obj, Bool.false_or, redactMapping]

/-- Values that differ only where secrets stand give one result, which stays as it is, and which
differs from the value only where secrets stand. -/
theorem sanitizeWbEvidence_spec :
    (∀ value other, wbPolicy.Alike false value other →
      sanitizeWbEvidence value = sanitizeWbEvidence other) ∧
    (∀ value, sanitizeWbEvidence (sanitizeWbEvidence value) = sanitizeWbEvidence value) ∧
    ∀ value, wbPolicy.Alike false value (sanitizeWbEvidence value) := by
  refine ⟨?_, ?_, ?_⟩
  · intro value other h
    exact Redaction.Policy.redact_eq_of_alike h
  · intro value
    exact Redaction.Policy.redact_redact false value
  · intro value
    exact Redaction.Policy.alike_redact false value

example : (sanitizeWbEvidence (.obj [("kind", .str "KIZ"), ("items", .arr [.str "0104"]),
    ("price", .int 5)])).canonical =
    "\x7b\"items\":\"REDACTED\",\"kind\":\"KIZ\",\"price\":5\x7d" := by decide +kernel

end Wbcz.Marketplace

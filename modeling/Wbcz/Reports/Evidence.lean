import Wbcz.Lib.Redaction
import Wbcz.Lib.Text

/-!
# Evidence from remote reports without secrets

`sanitize_report_evidence` of `m11_reports.py`, through which everything goes that the server
stores of a remote report.
-/

namespace Wbcz.Reports

/-- `direct`. -/
def directKeys : List String :=
  ["cis", "cises", "kiz", "kizes", "sgtin", "sgtins", "mark", "marks", "marking", "markingcode",
    "apikey", "authorization", "bearer", "token", "machinetoken", "pin", "privatekey", "signature"]

/-- `associated`. -/
def associatedKeys : List String := ["value", "values", "data", "codes", "code"]

/-- `discriminators`. -/
def discriminatorKeys : List String := ["key", "type", "kind", "name", "field"]

/-- The starts of the keys that are hidden. -/
def secretStarts : List String := ["cis", "kiz", "sgtin", "marking", "apikey", "token"]

/-- The compact text is that of a secret itself. -/
def directKey (text : String) : Bool := directKeys.contains (Text.compact text)

/-- The key of a secret. -/
def secretKey (key : String) : Bool :=
  directKey key || secretStarts.any fun start => start.toList.isPrefixOf (Text.compact key).toList

theorem visible_of_discriminator {key : String}
    (h : discriminatorKeys.contains (Text.compact key) = true) :
    secretKey key = false ∧ associatedKeys.contains (Text.compact key) = false := by
  unfold secretKey directKey
  generalize Text.compact key = compact at h ⊢
  have hcases : compact = "key" ∨ compact = "type" ∨ compact = "kind" ∨ compact = "name" ∨
      compact = "field" := by simpa [discriminatorKeys] using h
  rcases hcases with rfl | rfl | rfl | rfl | rfl <;> decide

/-- What `sanitize_report_evidence` hides. -/
def reportPolicy : Redaction.Policy where
  secret := secretKey
  associated key := associatedKeys.contains (Text.compact key)
  telling key := discriminatorKeys.contains (Text.compact key)
  names := directKey
  placeholder := .str "REDACTED"
  visible _ h := visible_of_discriminator h

/-- `sanitize_report_evidence`. -/
def sanitizeReportEvidence (value : Json) : Json := reportPolicy.redact false value

/-- Payloads that differ only where secrets stand give one result, and it stays as it is. -/
theorem sanitizeReportEvidence_spec :
    (∀ value other, reportPolicy.Alike false value other →
      sanitizeReportEvidence value = sanitizeReportEvidence other) ∧
    ∀ value, sanitizeReportEvidence (sanitizeReportEvidence value) =
      sanitizeReportEvidence value := by
  constructor
  · intro value other h
    exact Redaction.Policy.redact_eq_of_alike h
  · intro value
    exact Redaction.Policy.redact_redact false value

end Wbcz.Reports

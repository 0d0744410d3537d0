import Mathlib.Data.Int.Notation
import Wbcz.Errors
import Wbcz.Lib.Fallible
import Wbcz.Lib.Json
import Wbcz.Lib.Table
import Wbcz.Lib.Text
import Wbcz.Lib.Tx
import Wbcz.Web.WriteStore

/-!
# The rows of printing

The tables that the delivery of full codes to a printing agent and the physical printing of
labels read and write, and what a request brings along. Moments are microseconds.

The cryptography, the vault and the layout checks are parameters of the platform. The audit
history is seen through its answer: it takes an event, or it raises.
-/

namespace Wbcz.Printing

open Wbcz.Web (TenantContext)

/-! ## States -/

/-- The states of a printing key. -/
inductive KeyState where
  | active
  | retiring
  | revoked
  deriving DecidableEq, Repr

/-- The states of an intent to register a key. -/
inductive IntentState where
  | pending
  | used
  | expired
  | revoked
  deriving DecidableEq, Repr

/-- What an intent is for. -/
inductive IntentPurpose where
  | firstRegistration
  | rotate
  | replaceLost
  deriving DecidableEq, Repr

/-- The states of a reservation. -/
inductive ReservationState where
  | available
  | issued
  | acknowledged
  | expired
  | revoked
  | blocked
  deriving DecidableEq, Repr

/-- The states of an execution. -/
inductive ExecutionState where
  | requested
  | authorized
  | payloadAvailable
  | payloadIssued
  | payloadDelivered
  | renderedVerified
  | spoolSubmitting
  | spoolJobCreated
  | spoolerAccepted
  | failedPreSpool
  | blocked
  | unknownAfterSpool
  | cancelledPreSpool
  deriving DecidableEq, Repr

namespace ExecutionState

/-- `_NONTERMINAL_EXECUTION`. -/
def nonterminal : List ExecutionState :=
  [requested, authorized, payloadAvailable, payloadIssued, payloadDelivered, renderedVerified,
    spoolSubmitting, spoolJobCreated]

/-- `_PRE_SPOOL_ISSUABLE`. -/
def preSpoolIssuable : List ExecutionState := [payloadAvailable, payloadIssued]

end ExecutionState

/-- What a print job is for. -/
inductive PrintMode where
  | initialPrint
  | reprintOriginalTemplate
  | printUsingCurrentTemplate
  deriving DecidableEq, Repr

/-- The states of a print job. -/
inductive JobState where
  | pending
  | readyForAgent
  | completed
  | failed
  | blocked
  deriving DecidableEq, Repr

/-- The states of an item of a print job. -/
inductive ItemState where
  | pending
  | rendered
  | completed
  | failed
  | blocked
  deriving DecidableEq, Repr

/-- The states of a binding of an agent. -/
inductive BindingState where
  | pending
  | active
  | disabled
  | archived
  deriving DecidableEq, Repr

/-! ## Rows -/

/-- A row of `agent_bindings`. -/
structure AgentBinding where
  id : String
  organisationId : String
  participantId : String
  state : BindingState := .active
  isPrimary : Bool := true
  /-- `protocol_compatibility_state == "COMPATIBLE"` -/
  compatible : Bool := true
  lastSeenAt : Option ℤ
  supportedCapabilities : List String
  agentVersion : Option String
  deriving DecidableEq, Repr

/-- A row of `agent_binding_encryption_keys`. -/
structure EncryptionKey where
  id : String
  organisationId : String
  participantId : String
  agentBindingId : String
  publicKey : List UInt8
  publicKeyFingerprint : String
  keyVersion : ℕ
  state : KeyState := .active
  registeredAt : ℤ
  retiringAt : Option ℤ := none
  revokedAt : Option ℤ := none
  deriving DecidableEq, Repr

/-- A row of `print_encryption_key_intents`. -/
structure KeyIntent where
  id : String
  organisationId : String
  participantId : String
  agentBindingId : String
  tokenHash : String
  purpose : IntentPurpose
  state : IntentState := .pending
  expectedActiveKeyId : Option String
  expiresAt : ℤ
  usedAt : Option ℤ := none
  createdByUserId : ℤ
  correlationId : Option String
  deriving DecidableEq, Repr

/-- A row of `print_jobs`. -/
structure PrintJob where
  id : String
  organisationId : String
  participantId : String
  templateVersionId : String
  mode : PrintMode
  state : JobState
  itemCount : ℕ
  printerProfileId : Option String
  deriving DecidableEq, Repr

/-- A row of `print_job_items`. -/
structure PrintJobItem where
  id : String
  printJobId : String
  organisationId : String
  participantId : String
  storedFullKmItemId : String
  ordinal : ℕ
  payloadHash : String
  state : ItemState
  errorCode : Option String
  deriving DecidableEq, Repr

/-- A row of `stored_full_km_items`. -/
structure StoredFullKmItem where
  id : String
  organisationId : String
  participantId : String
  vaultEntryId : ℤ
  fullKmSha256 : String
  /-- `provenance_state == "PROVEN"` -/
  proven : Bool := true
  deriving DecidableEq, Repr

/-- A row of `print_templates`. -/
structure PrintTemplate where
  id : String
  organisationId : String
  participantId : Option String
  /-- `state == "ACTIVE"` -/
  active : Bool := true
  deriving DecidableEq, Repr

/-- A row of `print_template_versions`. -/
structure TemplateVersion where
  id : String
  templateId : String
  organisationId : String
  participantId : Option String
  layoutJson : Json
  labelWidthMm : ℚ
  labelHeightMm : ℚ
  layoutSha256 : String

/-- A row of `printer_profiles`. -/
structure PrinterProfile where
  id : String
  organisationId : String
  participantId : String
  agentBindingId : String
  agentPrinterId : String
  localPrinterFingerprint : String
  /-- `state == "ACTIVE"` -/
  active : Bool := true
  dpiX : ℤ
  dpiY : ℤ
  mediaWidthMm : ℚ
  mediaHeightMm : ℚ
  physicalWidthPx : ℤ
  physicalHeightPx : ℤ
  printableWidthPx : ℤ
  printableHeightPx : ℤ
  offsetXPx : ℤ
  offsetYPx : ℤ

/-- A row of `suz_km_vault`, by the sizes that are looked at. -/
structure SuzKmVault where
  id : ℤ
  ciphertextBytes : ℕ
  nonceBytes : ℕ
  authTagBytes : ℕ
  deriving DecidableEq, Repr

/-- A row of `print_executions`. -/
structure PrintExecution where
  id : String
  organisationId : String
  participantId : String
  printJobId : String
  printJobItemId : String
  storedFullKmItemId : String
  templateVersionId : String
  agentBindingId : String
  attemptNumber : ℕ
  state : ExecutionState
  payloadSha256 : String
  layoutSha256 : String
  agentVersion : String
  rendererVersion : Option String := none
  printerProfileId : Option String
  printerProfileFingerprint : Option String
  windowsSpoolJobId : Option ℤ := none
  lastWindowsStatus : Option String := none
  renderedAt : Option ℤ := none
  spoolSubmittingAt : Option ℤ := none
  spoolJobCreatedAt : Option ℤ := none
  spoolerAcceptedAt : Option ℤ := none
  authorizedAt : Option ℤ
  payloadDeliveredAt : Option ℤ := none
  terminalAt : Option ℤ := none
  safeErrorCode : Option String := none
  correlationId : Option String
  deriving DecidableEq, Repr

/-- A row of `print_payload_delivery_reservations`. -/
structure DeliveryReservation where
  id : String
  organisationId : String
  participantId : String
  printExecutionId : String
  printJobId : String
  printJobItemId : String
  storedFullKmItemId : String
  agentBindingId : String
  agentEncryptionKeyId : String
  payloadSha256 : String
  state : ReservationState
  issueCount : ℕ := 0
  maxIssueCount : ℕ
  authorizedAt : ℤ
  expiresAt : ℤ
  firstIssuedAt : Option ℤ := none
  lastIssuedAt : Option ℤ := none
  acknowledgedAt : Option ℤ := none
  revokedAt : Option ℤ := none
  lastContextSha256 : Option String := none
  safeErrorCode : Option String := none
  deriving DecidableEq, Repr

/-- A reservation that may still be issued or acknowledged. -/
def DeliveryReservation.Live (reservation : DeliveryReservation) : Prop :=
  reservation.state = .available ∨ reservation.state = .issued

instance (reservation : DeliveryReservation) : Decidable reservation.Live :=
  inferInstanceAs (Decidable (_ ∨ _))

/-- A row of `print_events`, by what tells events of one job apart. -/
structure PrintEvent where
  id : String
  printJobId : String
  eventType : String
  outcome : String
  deriving DecidableEq, Repr

abbrev AgentBinding.key (row : AgentBinding) : String := row.id
abbrev EncryptionKey.key (row : EncryptionKey) : String := row.id
abbrev KeyIntent.key (row : KeyIntent) : String := row.id
abbrev PrintJob.key (row : PrintJob) : String := row.id
abbrev PrintJobItem.key (row : PrintJobItem) : String := row.id
abbrev StoredFullKmItem.key (row : StoredFullKmItem) : String := row.id
abbrev PrintTemplate.key (row : PrintTemplate) : String := row.id
abbrev TemplateVersion.key (row : TemplateVersion) : String := row.id
abbrev PrinterProfile.key (row : PrinterProfile) : String := row.id
abbrev SuzKmVault.key (row : SuzKmVault) : ℤ := row.id
abbrev PrintExecution.key (row : PrintExecution) : String := row.id
abbrev DeliveryReservation.key (row : DeliveryReservation) : String := row.id
abbrev PrintEvent.key (row : PrintEvent) : String := row.id

/-- The tables of printing. -/
structure PrintingState where
  bindings : Table AgentBinding.key
  keys : Table EncryptionKey.key
  intents : Table KeyIntent.key
  jobs : Table PrintJob.key
  items : Table PrintJobItem.key
  stored : Table StoredFullKmItem.key
  templates : Table PrintTemplate.key
  versions : Table TemplateVersion.key
  profiles : Table PrinterProfile.key
  vaults : Table SuzKmVault.key
  executions : Table PrintExecution.key
  reservations : Table DeliveryReservation.key
  events : Table PrintEvent.key

/-- A database before its first row. -/
def PrintingState.initial : PrintingState :=
  ⟨.empty, .empty, .empty, .empty, .empty, .empty, .empty, .empty, .empty, .empty, .empty, .empty,
    .empty⟩

/-! ## Requests -/

/-- The settings of printing. -/
structure PrintingConfig where
  printingEnabled : Bool := true
  printExecutionEnabled : Bool := true
  /-- `environment == "production"` -/
  production : Bool := false
  agentHealthStaleSeconds : ℤ := 300
  printKeyIntentTtlSeconds : ℤ := 600
  printDeliveryReservationTtlSeconds : ℤ := 600
  printDeliveryMaxIssuance : ℕ := 3
  maxPrintDeliveryVaultEntryBytes : ℕ := 1048576

/-- What the recipient of an envelope authenticates. -/
structure DeliveryContext where
  deliveryReservationId : String
  printExecutionId : String
  printJobId : String
  printJobItemId : String
  storedFullKmItemId : String
  organisationId : String
  participantId : String
  agentBindingId : String
  payloadSha256 : String
  templateVersionId : String
  layoutSha256 : String
  recipientKeyVersion : ℕ
  expiresAt : ℤ
  deriving DecidableEq, Repr

/-- What runs below the services, along a whole run. -/
structure Platform where
  config : PrintingConfig
  sha256 : List UInt8 → String
  /-- `public_key_fingerprint`, which checks the key -/
  publicKeyFingerprint : List UInt8 → Except PyError String
  /-- `LocalPrintingService._decrypt_and_verify` -/
  decryptAndVerify : StoredFullKmItem → Except PyError (List UInt8)
  /-- `context_sha256` -/
  contextSha256 : DeliveryContext → Except PyError String
  /-- the HPKE suite: a public key, a plaintext and a context -/
  encrypt : List UInt8 → List UInt8 → DeliveryContext → Except PyError (List UInt8)
  /-- the hash of `canonical_layout_sha256` -/
  canonicalLayoutSha256 : Json → ℚ → ℚ → Except PyError String
  /-- the result of `evaluate_template_compatibility` -/
  evaluateTemplateCompatibility : PrinterProfile → TemplateVersion → Except PyError String

/-- An event for the audit history. -/
structure PrintingAudit where
  eventType : String
  subjectId : String
  eventKey : String
  deriving DecidableEq, Repr

/-- What a request brings along: its tenant, its clock, its random draws, and the answers of the
audit history. -/
structure Session where
  scope : TenantContext
  now : ℤ
  uuid : ℕ → String
  token : String := ""
  correlationId : Option String := none
  audit : PrintingAudit → Except PyError Unit

/-- A procedure of a service. -/
abbrev PrintingTx := Tx PyError PrintingState

/-- `_audit`. -/
def Session.record (session : Session) (eventType subjectId eventKey : String) :
    PrintingTx Unit :=
  .ofExcept (session.audit ⟨eventType, subjectId, Text.take 256 eventKey⟩)

/-- The tenant of a request owns a row with these columns. -/
def Session.owns (session : Session) (organisationId participantId : String) : Bool :=
  organisationId = session.scope.organisationId && participantId = session.scope.participantId

/-- An insertion that meets a row with the same key. -/
def integrityError : PyError := ⟨.integrityError, ""⟩

end Wbcz.Printing

import Wbcz.Printing.Rows

/-!
# Keys and the delivery of full codes

`SensitivePrintingDeliveryService`: the public keys that agents register, the authorisation of a
delivery, the envelopes that are issued for it and their acknowledgement. What a check of the
source reads is gathered in one function of the tables; what a method writes stands in the
method, in the order of the source.
-/

namespace Wbcz.Printing

open Fallible (ensure found)

/-- `SensitiveDeliveryRejected`. -/
def rejected (code : String) : PyError :=
  ⟨.other "SensitiveDeliveryRejected", Text.take 96 code⟩

section Checks

variable (platform : Platform) (session : Session) (s : PrintingState)

/-- `_require_delivery_gate`. -/
def requireDeliveryGate : Except PyError Unit := do
  ensure (platform.config.printingEnabled = true) (rejected "PRINTING_DISABLED")
  ensure (platform.config.printExecutionEnabled = true) (rejected "PRINT_EXECUTION_DISABLED")
  ensure (platform.config.production = false) (rejected "PRODUCTION_PRINT_EXECUTION_BLOCKED")

/-- `_binding`. -/
def bindingOf (bindingId : String) : Except PyError AgentBinding :=
  found ((s.bindings.find? bindingId).filter fun row =>
    session.owns row.organisationId row.participantId) (rejected "AGENT_BINDING_NOT_FOUND")

/-- The agent of a binding was seen lately. -/
def fresh (binding : AgentBinding) : Bool :=
  binding.lastSeenAt.any fun seen =>
    session.now - seen ≤ platform.config.agentHealthStaleSeconds * 1000000

/-- `REQUIRED_CAPABILITIES`. -/
def requiredCapabilities : List String :=
  ["PRINTING_SENSITIVE_DELIVERY_V1", "HPKE_X25519_AES128GCM_V1"]

/-- `_validate_binding`. -/
def validateBinding (binding : AgentBinding) : Except PyError Unit := do
  ensure (binding.state = .active ∧ binding.compatible = true)
    (rejected "AGENT_BINDING_NOT_ACTIVE")
  ensure (fresh platform session binding = true) (rejected "AGENT_BINDING_NOT_FRESH")
  ensure (∀ capability ∈ requiredCapabilities, capability ∈ binding.supportedCapabilities)
    (rejected "AGENT_PRINTING_V2_CAPABILITY_REQUIRED")
  ensure (binding.agentVersion.any fun version => version ≠ "")
    (rejected "AGENT_VERSION_REQUIRED")

/-- The binding of a request, once it is validated. -/
def validBinding (bindingId : String) : Except PyError AgentBinding := do
  let binding ← bindingOf session s bindingId
  validateBinding platform session binding
  .ok binding

/-- `_active_key`. -/
def activeKey (bindingId : String) : Option EncryptionKey :=
  s.keys.rows.find? fun key =>
    key.agentBindingId = bindingId && session.owns key.organisationId key.participantId &&
      key.state = .active

end Checks

/-! ## Keys -/

section Keys

variable (platform : Platform) (session : Session)

/-- `_intent_hash`. -/
def intentHash (raw : String) : String :=
  if raw.length < 43 then platform.sha256 (Text.utf8 "invalid-print-key-intent")
  else platform.sha256 (Text.utf8 ("sellari-print-key-intent:v1:" ++ raw))

/-- What an intent asks of the key that is active. -/
def checkIntentBase (purpose : IntentPurpose) (active : Option EncryptionKey) :
    Except PyError Unit :=
  match purpose with
  | .firstRegistration =>
    ensure (active = none) (rejected "PRINT_ENCRYPTION_KEY_ALREADY_REGISTERED")
  | .rotate | .replaceLost =>
    ensure (active ≠ none) (rejected "ACTIVE_PRINT_ENCRYPTION_KEY_REQUIRED")

/-- An intent goes into its table: its id and its token are new. -/
def insertIntent (intent : KeyIntent) : PrintingTx Unit := do
  let s ← .get
  Tx.ofExcept (ensure (∀ row ∈ s.intents.rows, row.tokenHash ≠ intent.tokenHash) integrityError)
  let intents ← Tx.ofExcept (found (s.intents.insert intent) integrityError)
  Tx.modify fun s => { s with intents := intents }

/-- `create_key_intent`. -/
def createKeyIntent (bindingId : String) (purpose : IntentPurpose) (userId : ℤ) :
    PrintingTx String := do
  let s ← .get
  let binding ← Tx.ofExcept (validBinding platform session s bindingId)
  let active := activeKey session s binding.id
  Tx.ofExcept (checkIntentBase purpose active)
  insertIntent {
    id := session.uuid 0
    organisationId := session.scope.organisationId
    participantId := session.scope.participantId
    agentBindingId := binding.id
    tokenHash := intentHash platform session.token
    purpose
    expectedActiveKeyId := active.map EncryptionKey.id
    expiresAt := session.now + platform.config.printKeyIntentTtlSeconds * 1000000
    createdByUserId := userId
    correlationId := session.correlationId }
  pure session.token

/-- An execution that is stopped. -/
def blockedExecution (code : String) (now : ℤ) (execution : PrintExecution) : PrintExecution :=
  { execution with state := .blocked, safeErrorCode := some code, terminalAt := some now }

/-- A reservation that is withdrawn. -/
def revokedReservation (code : String) (now : ℤ) (reservation : DeliveryReservation) :
    DeliveryReservation :=
  { reservation with state := .revoked, revokedAt := some now, safeErrorCode := some code }

/-- A live reservation of one of some keys. -/
def DeliveryReservation.LiveFor (keyIds : List String) (reservation : DeliveryReservation) :
    Prop :=
  reservation.agentEncryptionKeyId ∈ keyIds ∧ reservation.Live

instance (keyIds : List String) (reservation : DeliveryReservation) :
    Decidable (reservation.LiveFor keyIds) :=
  inferInstanceAs (Decidable (_ ∧ _))

/-- A reservation after those of some keys were withdrawn. -/
def withdrawnReservation (keyIds : List String) (code : String) (now : ℤ)
    (reservation : DeliveryReservation) : DeliveryReservation :=
  if reservation.LiveFor keyIds then revokedReservation code now reservation else reservation

theorem key_withdrawnReservation (keyIds : List String) (code : String) (now : ℤ)
    (row : DeliveryReservation) : (withdrawnReservation keyIds code now row).key = row.key := by
  unfold withdrawnReservation
  split <;> rfl

/-- An execution after the live reservations of some keys were withdrawn. -/
def withdrawnExecution (reservations : List DeliveryReservation) (keyIds : List String)
    (stoppable : List ExecutionState) (code : String) (now : ℤ) (execution : PrintExecution) :
    PrintExecution :=
  if (∃ reservation ∈ reservations, reservation.LiveFor keyIds ∧
      reservation.printExecutionId = execution.id) ∧ execution.state ∈ stoppable
    then blockedExecution code now execution else execution

theorem key_withdrawnExecution (reservations : List DeliveryReservation) (keyIds : List String)
    (stoppable : List ExecutionState) (code : String) (now : ℤ) (row : PrintExecution) :
    (withdrawnExecution reservations keyIds stoppable code now row).key = row.key := by
  unfold withdrawnExecution
  split <;> rfl

/-- The live reservations of some keys are withdrawn, and their executions stopped where they
are in one of some states. -/
def PrintingState.withdraw (s : PrintingState) (keyIds : List String)
    (stoppable : List ExecutionState) (code : String) (now : ℤ) : PrintingState :=
  { s with
    reservations := s.reservations.rewrite (withdrawnReservation keyIds code now)
      (key_withdrawnReservation _ _ _)
    executions := s.executions.rewrite
      (withdrawnExecution s.reservations.rows keyIds stoppable code now)
      (key_withdrawnExecution _ _ _ _ _) }

/-- `_revoke_key_reservations`. -/
def PrintingState.revokeKeyReservations (s : PrintingState) (keyId code : String) (now : ℤ) :
    PrintingState :=
  s.withdraw [keyId] ExecutionState.nonterminal code now

/-- A key that is given up. -/
def revokedKey (now : ℤ) (key : EncryptionKey) : EncryptionKey :=
  { key with state := .revoked, revokedAt := some now }

/-- A key that another one follows. -/
def retiringKey (now : ℤ) (key : EncryptionKey) : EncryptionKey :=
  { key with state := .retiring, retiringAt := some now }

theorem key_revokedKey (now : ℤ) (key : EncryptionKey) :
    (revokedKey now key).key = key.key := rfl

theorem key_retiringKey (now : ℤ) (key : EncryptionKey) :
    (retiringKey now key).key = key.key := rfl

/-- A key is given up. -/
def PrintingState.revokeKey (s : PrintingState) (keyId : String) (now : ℤ) : PrintingState :=
  { s with keys := s.keys.modify keyId (revokedKey now) (key_revokedKey now) }

/-- A key is followed by another one. -/
def PrintingState.retireKey (s : PrintingState) (keyId : String) (now : ℤ) : PrintingState :=
  { s with keys := s.keys.modify keyId (retiringKey now) (key_retiringKey now) }

/-- The digits of a number. -/
def digits (n : ℕ) : String := String.ofList (Nat.toDigits 10 n)

/-- The keys of a list are given up one after another. -/
def revokeRetired (bindingId : String) : List EncryptionKey → PrintingTx Unit
  | [] => pure ()
  | key :: keys => do
    Tx.modify fun s =>
      (s.revokeKey key.id session.now).revokeKeyReservations key.id "PRINT_RECIPIENT_KEY_RETIRED"
        session.now
    session.record "PRINT_AGENT_KEY_REVOKED" bindingId
      ("print-key:" ++ bindingId ++ ":" ++ digits key.keyVersion ++ ":retired")
    revokeRetired bindingId keys

/-- The keys that have been retiring for longer than a reservation lives. -/
def expiredRetiringKeys (s : PrintingState) (bindingId : String) : List EncryptionKey :=
  s.keys.rows.filter fun key =>
    key.agentBindingId = bindingId && session.owns key.organisationId key.participantId &&
      key.state = .retiring && key.retiringAt.any fun at' =>
        at' ≤ session.now - platform.config.printDeliveryReservationTtlSeconds * 1000000

/-- `revoke_expired_retiring_keys`. -/
def revokeExpiredRetiringKeys (bindingId : String) : PrintingTx Unit := do
  let s ← .get
  revokeRetired session bindingId (expiredRetiringKeys platform session s bindingId)

/-- The intent of a token. -/
def intentOf (s : PrintingState) (binding : AgentBinding) (intentToken : String) :
    Except PyError KeyIntent := do
  let intent ← found (s.intents.rows.find? fun row =>
    row.tokenHash = intentHash platform intentToken) (rejected "INVALID_PRINT_KEY_INTENT")
  ensure (session.owns intent.organisationId intent.participantId = true ∧
    intent.agentBindingId = binding.id) (rejected "PRINT_KEY_INTENT_BINDING_MISMATCH")
  ensure (intent.state = .pending) (rejected "PRINT_KEY_INTENT_ALREADY_USED")
  .ok intent

/-- The key that is active is the one the intent was made for. -/
def checkRegistrationBase (intent : KeyIntent) (active : Option EncryptionKey) :
    Except PyError Unit :=
  match intent.purpose with
  | .firstRegistration =>
    ensure (active = none ∧ intent.expectedActiveKeyId = none)
      (rejected "PRINT_KEY_FIRST_REGISTRATION_CONFLICT")
  | .rotate | .replaceLost =>
    ensure (active ≠ none ∧ active.map EncryptionKey.id = intent.expectedActiveKeyId)
      (rejected "PRINT_KEY_ROTATION_BASE_CHANGED")

/-- An intent with a new state. -/
def intentMoved (state : IntentState) (usedAt : Option ℤ) (intent : KeyIntent) : KeyIntent :=
  { intent with state, usedAt }

theorem key_intentMoved (state : IntentState) (usedAt : Option ℤ) (intent : KeyIntent) :
    (intentMoved state usedAt intent).key = intent.key := rfl

/-- An intent takes a new state. -/
def PrintingState.moveIntent (s : PrintingState) (intentId : String) (state : IntentState)
    (usedAt : Option ℤ) : PrintingState :=
  { s with
    intents := s.intents.modify intentId (intentMoved state usedAt) (key_intentMoved _ _) }

/-- An intent that came too late expires. -/
def expireIntent (intent : KeyIntent) : PrintingTx Unit := do
  if intent.expiresAt ≤ session.now then
    Tx.modify fun s => s.moveIntent intent.id .expired intent.usedAt
    Tx.raise (rejected "PRINT_KEY_INTENT_EXPIRED")
  else pure ()

/-- What becomes of the key that was active. -/
def PrintingState.replaceActive (s : PrintingState) (purpose : IntentPurpose)
    (active : Option EncryptionKey) (now : ℤ) : PrintingState :=
  match active with
  | none => s
  | some key =>
    if purpose = .replaceLost then
      (s.revokeKey key.id now).revokeKeyReservations key.id "PRINT_RECIPIENT_KEY_LOST" now
    else s.retireKey key.id now

/-- The highest version of the keys of a binding. -/
def highestVersion (s : PrintingState) (bindingId : String) : ℕ :=
  ((s.keys.rows.filter fun key => key.agentBindingId = bindingId).map
    EncryptionKey.keyVersion).foldr max 0

/-- What the table of keys has unique, apart from the id. -/
def keyConflicts (s : PrintingState) (key : EncryptionKey) : Bool :=
  s.keys.rows.any fun row =>
    row.publicKeyFingerprint = key.publicKeyFingerprint ||
      (row.agentBindingId = key.agentBindingId && row.keyVersion = key.keyVersion) ||
      (row.agentBindingId = key.agentBindingId && row.state = .active && key.state = .active)

/-- A key goes into its table. -/
def insertKey (key : EncryptionKey) : PrintingTx Unit := do
  let s ← .get
  Tx.ofExcept (ensure (keyConflicts s key = false) integrityError)
  let keys ← Tx.ofExcept (found (s.keys.insert key) integrityError)
  Tx.modify fun s => { s with keys := keys }

/-- The trail of a registration. -/
def recordRegistration (binding : AgentBinding) (purpose : IntentPurpose)
    (active : Option EncryptionKey) (keyVersion : ℕ) : PrintingTx Unit := do
  let eventType := if purpose = .firstRegistration then "PRINT_AGENT_KEY_REGISTERED"
    else "PRINT_AGENT_KEY_ROTATED"
  session.record eventType binding.id
    ("print-key:" ++ binding.id ++ ":" ++ digits keyVersion ++ ":" ++ eventType)
  match active with
  | some old =>
    if purpose = .replaceLost then
      session.record "PRINT_AGENT_KEY_REVOKED" binding.id
        ("print-key:" ++ binding.id ++ ":" ++ digits old.keyVersion ++ ":revoked")
    else pure ()
  | none => pure ()

/-- The row of a registered key. -/
def registeredKey (s : PrintingState) (binding : AgentBinding) (publicKey : List UInt8)
    (fingerprint : String) : EncryptionKey where
  id := session.uuid 0
  organisationId := session.scope.organisationId
  participantId := session.scope.participantId
  agentBindingId := binding.id
  publicKey
  publicKeyFingerprint := fingerprint
  keyVersion := highestVersion s binding.id + 1
  registeredAt := session.now

/-- `public_key_fingerprint`, with its failure as a rejection. -/
def fingerprintOf (publicKey : List UInt8) : Except PyError String :=
  match platform.publicKeyFingerprint publicKey with
  | .ok fingerprint => .ok fingerprint
  | .error _ => .error (rejected "INVALID_PRINT_ENCRYPTION_PUBLIC_KEY")

/-- `register_public_key`. -/
def registerPublicKey (bindingId intentToken : String) (publicKey : List UInt8) :
    PrintingTx EncryptionKey := do
  let s ← .get
  let binding ← Tx.ofExcept (validBinding platform session s bindingId)
  let fingerprint ← Tx.ofExcept (fingerprintOf platform publicKey)
  let intent ← Tx.ofExcept (intentOf platform session s binding intentToken)
  expireIntent session intent
  let active := activeKey session s binding.id
  Tx.ofExcept (checkRegistrationBase intent active)
  Tx.modify fun s => s.replaceActive intent.purpose active session.now
  let s ← .get
  let row := registeredKey session s binding publicKey fingerprint
  insertKey row
  Tx.modify fun s => s.moveIntent intent.id .used (some session.now)
  recordRegistration session binding intent.purpose active row.keyVersion
  pure row

end Keys

/-! ## Deliveries -/

section Deliveries

variable (platform : Platform) (session : Session)

/-- `_enforce_vault_size`. -/
def enforceVaultSize (s : PrintingState) (stored : StoredFullKmItem) : Except PyError Unit := do
  let vault ← found (s.vaults.find? stored.vaultEntryId) (rejected "VAULT_LINKAGE_BROKEN")
  ensure (vault.ciphertextBytes + vault.nonceBytes + vault.authTagBytes ≤
    platform.config.maxPrintDeliveryVaultEntryBytes)
    (rejected "VAULT_ENTRY_TOO_LARGE_FOR_SAFE_PRINT_DELIVERY")

/-- `_decrypt_and_verify`, with the failures of an item as a rejection. -/
def openVault (stored : StoredFullKmItem) : Except PyError (List UInt8) :=
  match platform.decryptAndVerify stored with
  | .ok plaintext => .ok plaintext
  | .error e =>
    if e.cls = .runtimeError ∨ e.cls = .other "PrintingIntegrityError" then
      .error (rejected "FULL_KM_VAULT_INTEGRITY_FAILED")
    else .error e

/-- A job of the tenant. -/
def jobOf (s : PrintingState) (jobId : String) : Option PrintJob :=
  (s.jobs.find? jobId).filter fun row => session.owns row.organisationId row.participantId

/-- An item of a job of the tenant. -/
def itemOf (s : PrintingState) (itemId jobId : String) : Option PrintJobItem :=
  (s.items.find? itemId).filter fun row =>
    row.printJobId = jobId && session.owns row.organisationId row.participantId

/-- A stored code of the tenant. -/
def storedOf (s : PrintingState) (storedId : String) : Option StoredFullKmItem :=
  (s.stored.find? storedId).filter fun row => session.owns row.organisationId row.participantId

/-- A version of a template of the organisation. -/
def versionOf (s : PrintingState) (versionId : String) : Option TemplateVersion :=
  (s.versions.find? versionId).filter fun row =>
    row.organisationId = session.scope.organisationId

/-- A printer profile of the tenant. -/
def profileOf (s : PrintingState) (profileId : String) : Option PrinterProfile :=
  (s.profiles.find? profileId).filter fun row => session.owns row.organisationId row.participantId

/-- A version that another participant owns is refused. -/
def checkVersionOwner (version : TemplateVersion) : Except PyError Unit :=
  ensure (version.participantId.all fun owner => owner = session.scope.participantId)
    (rejected "TEMPLATE_PARTICIPANT_MISMATCH")

/-- `PrinterProfileService.compatibility`. -/
def compatibility (s : PrintingState) (profileId versionId : String) : Except PyError String := do
  let profile ← found (profileOf session s profileId) ⟨.keyError, profileId⟩
  let version ← found ((versionOf session s versionId).filter fun version =>
    version.participantId.all fun owner => owner = session.scope.participantId)
    ⟨.keyError, versionId⟩
  platform.evaluateTemplateCompatibility profile version

/-- The profile fits the version. -/
def checkCompatible (s : PrintingState) (profileId versionId : String)
    (reject : String → PyError) : Except PyError Unit := do
  let result ← compatibility platform session s profileId versionId
  ensure (result = "COMPATIBLE") (reject result)

/-- `PHYSICAL_CAPABILITY`. -/
def physicalCapability : String := "PRINTING_PHYSICAL_V1"

/-- The profile of a job, if it is one of the printers of the agents. -/
def jobProfile (s : PrintingState) (job : PrintJob) : Option PrinterProfile :=
  job.printerProfileId.bind fun profileId =>
    if profileId = "" then none else profileOf session s profileId

/-- The printer that a delivery is authorised for. -/
def physicalProfile (s : PrintingState) (job : PrintJob) (binding : AgentBinding)
    (version : TemplateVersion) : Except PyError (Option PrinterProfile) :=
  match jobProfile session s job with
  | none => .ok none
  | some profile => do
    ensure (physicalCapability ∈ binding.supportedCapabilities)
      (rejected "PRINTING_PHYSICAL_V1_REQUIRED")
    ensure (profile.active = true ∧ profile.agentBindingId = binding.id)
      (rejected "PRINTER_PROFILE_NOT_ACTIVE_FOR_BINDING")
    checkCompatible platform session s profile.id version.id rejected
    .ok (some profile)

/-- The layout of a version still has the hash that was recorded. -/
def checkLayout (version : TemplateVersion) (e : PyError) : Except PyError Unit := do
  let layoutHash ← platform.canonicalLayoutSha256 version.layoutJson version.labelWidthMm
    version.labelHeightMm
  ensure (layoutHash = version.layoutSha256) e

/-- What a delivery is authorised for. -/
structure Authorization where
  job : PrintJob
  item : PrintJobItem
  binding : AgentBinding

/-- The binding that is asked for, or the primary one of the tenant. -/
def targetBinding (s : PrintingState) : Option String → Except PyError AgentBinding
  | some bindingId => bindingOf session s bindingId
  | none =>
    found (s.bindings.rows.find? fun row =>
        session.owns row.organisationId row.participantId && row.state = .active &&
          row.isPrimary)
      (rejected "PRIMARY_AGENT_BINDING_REQUIRED")

/-- The item that is asked for, and the binding that is to print it. -/
def authorizationTarget (s : PrintingState) (jobId itemId : String)
    (bindingId : Option String) : Except PyError Authorization := do
  requireDeliveryGate platform
  let item ← found (itemOf session s itemId jobId) (rejected "PRINT_JOB_ITEM_NOT_FOUND")
  let job ← found (jobOf session s jobId) (rejected "PRINT_JOB_ITEM_NOT_FOUND")
  ensure (job.state = .readyForAgent ∧ item.state = .pending)
    (rejected "PRINT_JOB_ITEM_NOT_AUTHORIZABLE")
  let binding ← targetBinding session s (bindingId.filter fun id => id ≠ "")
  validateBinding platform session binding
  .ok ⟨job, item, binding⟩

/-- The graph of rows that an execution is made from. -/
structure AuthorizationGraph where
  key : EncryptionKey
  stored : StoredFullKmItem
  version : TemplateVersion
  profile : Option PrinterProfile

/-- No execution of the item is under way, and none has crossed the spool boundary. -/
def checkNoExecution (s : PrintingState) (itemId : String) : Except PyError Unit := do
  ensure (∀ row ∈ s.executions.rows, row.printJobItemId = itemId →
    row.state ∉ ExecutionState.nonterminal) (rejected "PRINT_EXECUTION_ALREADY_ACTIVE")
  ensure (∀ row ∈ s.executions.rows, row.printJobItemId = itemId →
    row.spoolSubmittingAt = none ∧ row.state ≠ .spoolerAccepted ∧ row.state ≠ .unknownAfterSpool)
    (rejected "EXPLICIT_REPRINT_REQUIRED_AFTER_SPOOL_BOUNDARY")

/-- The checks of `authorize_delivery` once the key of the binding is known. -/
def authorizationGraph (s : PrintingState) (target : Authorization) :
    Except PyError AuthorizationGraph := do
  let key ← found (activeKey session s target.binding.id)
    (rejected "ACTIVE_PRINT_ENCRYPTION_KEY_REQUIRED")
  let stored ← found (storedOf session s target.item.storedFullKmItemId)
    (rejected "PRINT_AUTHORIZATION_GRAPH_INVALID")
  let version ← found (versionOf session s target.job.templateVersionId)
    (rejected "PRINT_AUTHORIZATION_GRAPH_INVALID")
  checkVersionOwner session version
  ensure (stored.proven = true ∧ target.item.payloadHash = stored.fullKmSha256)
    (rejected "PRINT_PAYLOAD_NOT_PROVEN")
  let profile ← physicalProfile platform session s target.job target.binding version
  checkLayout platform version (rejected "TEMPLATE_LAYOUT_INTEGRITY_FAILED")
  checkNoExecution s target.item.id
  enforceVaultSize platform s stored
  let plaintext ← openVault platform stored
  ensure (platform.sha256 plaintext = target.item.payloadHash)
    (rejected "PRINT_PAYLOAD_HASH_BINDING_MISMATCH")
  .ok ⟨key, stored, version, profile⟩

/-- The number of the next attempt of an item. -/
def nextAttempt (s : PrintingState) (itemId : String) : ℕ :=
  ((s.executions.rows.filter fun row => row.printJobItemId = itemId).map
    PrintExecution.attemptNumber).foldr max 0 + 1

/-- The row of a new execution. -/
def newExecution (s : PrintingState) (target : Authorization) (graph : AuthorizationGraph) :
    PrintExecution where
  id := session.uuid 0
  organisationId := session.scope.organisationId
  participantId := session.scope.participantId
  printJobId := target.job.id
  printJobItemId := target.item.id
  storedFullKmItemId := graph.stored.id
  templateVersionId := graph.version.id
  agentBindingId := target.binding.id
  attemptNumber := nextAttempt s target.item.id
  state := .payloadAvailable
  payloadSha256 := target.item.payloadHash
  layoutSha256 := graph.version.layoutSha256
  agentVersion := target.binding.agentVersion.getD "unknown"
  printerProfileId := graph.profile.map PrinterProfile.id
  printerProfileFingerprint := graph.profile.map PrinterProfile.localPrinterFingerprint
  authorizedAt := some session.now
  correlationId := session.correlationId

/-- The row of its reservation. -/
def newReservation (target : Authorization) (graph : AuthorizationGraph) :
    DeliveryReservation where
  id := session.uuid 1
  organisationId := session.scope.organisationId
  participantId := session.scope.participantId
  printExecutionId := session.uuid 0
  printJobId := target.job.id
  printJobItemId := target.item.id
  storedFullKmItemId := graph.stored.id
  agentBindingId := target.binding.id
  agentEncryptionKeyId := graph.key.id
  payloadSha256 := target.item.payloadHash
  state := .available
  maxIssueCount := platform.config.printDeliveryMaxIssuance
  authorizedAt := session.now
  expiresAt := session.now + platform.config.printDeliveryReservationTtlSeconds * 1000000

/-- An execution and its reservation go into their tables. -/
def insertDelivery (execution : PrintExecution) (reservation : DeliveryReservation) :
    PrintingTx Unit := do
  let s ← .get
  let executions ← Tx.ofExcept (found (s.executions.insert execution) integrityError)
  let reservations ← Tx.ofExcept (found (s.reservations.insert reservation) integrityError)
  Tx.modify fun s => { s with executions := executions, reservations := reservations }

/-- `authorize_delivery`. -/
def authorizeDelivery (jobId itemId : String) (bindingId : Option String) :
    PrintingTx (PrintExecution × DeliveryReservation) := do
  let s ← .get
  let target ← Tx.ofExcept (authorizationTarget platform session s jobId itemId bindingId)
  revokeExpiredRetiringKeys platform session target.binding.id
  let s ← .get
  let graph ← Tx.ofExcept (authorizationGraph platform session s target)
  let execution := newExecution session s target graph
  let reservation := newReservation platform session target graph
  insertDelivery execution reservation
  session.record "PRINT_PAYLOAD_AUTHORIZED" target.job.id
    ("print-payload:" ++ execution.id ++ ":authorized")
  pure (execution, reservation)

/-- `_validate_execution_graph`. -/
def validateExecutionGraph (s : PrintingState) (execution : PrintExecution) :
    Except PyError (PrintJobItem × StoredFullKmItem) := do
  let job ← found (jobOf session s execution.printJobId) (rejected "PRINT_EXECUTION_GRAPH_INVALID")
  let item ← found (itemOf session s execution.printJobItemId execution.printJobId)
    (rejected "PRINT_EXECUTION_GRAPH_INVALID")
  let stored ← found (storedOf session s execution.storedFullKmItemId)
    (rejected "PRINT_EXECUTION_GRAPH_INVALID")
  let version ← found (versionOf session s execution.templateVersionId)
    (rejected "PRINT_EXECUTION_GRAPH_INVALID")
  ensure (item.storedFullKmItemId = stored.id ∧ job.templateVersionId = version.id)
    (rejected "PRINT_EXECUTION_GRAPH_CONFLICT")
  checkVersionOwner session version
  ensure (item.payloadHash = stored.fullKmSha256 ∧ execution.payloadSha256 = item.payloadHash)
    (rejected "PRINT_PAYLOAD_HASH_BINDING_MISMATCH")
  checkLayout platform version (rejected "PRINT_LAYOUT_HASH_BINDING_MISMATCH")
  ensure (execution.layoutSha256 = version.layoutSha256)
    (rejected "PRINT_LAYOUT_HASH_BINDING_MISMATCH")
  ensure (stored.proven = true) (rejected "FULL_KM_PROVENANCE_NOT_PROVEN")
  .ok (item, stored)

/-- A reservation of the tenant. -/
def reservationOf (s : PrintingState) (reservationId : String) : Option DeliveryReservation :=
  (s.reservations.find? reservationId).filter fun row =>
    session.owns row.organisationId row.participantId

/-- A reservation with a new state and the reason of it. -/
def closedReservation (state : ReservationState) (code : String)
    (reservation : DeliveryReservation) : DeliveryReservation :=
  { reservation with state, safeErrorCode := some code }

theorem key_closedReservation (state : ReservationState) (code : String)
    (row : DeliveryReservation) : (closedReservation state code row).key = row.key := rfl

/-- A reservation is closed. -/
def PrintingState.closeReservation (s : PrintingState) (reservationId : String)
    (state : ReservationState) (code : String) : PrintingState :=
  { s with
    reservations := s.reservations.modify reservationId (closedReservation state code)
      (key_closedReservation _ _) }

/-- The reservation is neither too old nor issued too often. -/
def closeSpent (reservation : DeliveryReservation) : PrintingTx Unit := do
  if reservation.expiresAt ≤ session.now then
    Tx.modify fun s => s.closeReservation reservation.id .expired "DELIVERY_RESERVATION_EXPIRED"
    Tx.raise (rejected "DELIVERY_RESERVATION_EXPIRED")
  else if reservation.maxIssueCount ≤ reservation.issueCount then
    Tx.modify fun s =>
      s.closeReservation reservation.id .blocked "DELIVERY_ISSUE_LIMIT_REACHED"
    Tx.raise (rejected "DELIVERY_ISSUE_LIMIT_REACHED")
  else pure ()

/-- The reservation that `issue` is asked for. -/
def issuable (s : PrintingState) (reservationId machineBindingId : String) :
    Except PyError DeliveryReservation := do
  requireDeliveryGate platform
  let reservation ← found (reservationOf session s reservationId)
    (rejected "DELIVERY_RESERVATION_NOT_FOUND")
  ensure (reservation.agentBindingId = machineBindingId)
    (rejected "DELIVERY_AGENT_BINDING_MISMATCH")
  ensure reservation.Live (rejected "DELIVERY_RESERVATION_NOT_ISSUABLE")
  .ok reservation

/-- The key of a reservation may still be used. -/
def recipientKey (s : PrintingState) (reservation : DeliveryReservation)
    (binding : AgentBinding) : Except PyError EncryptionKey := do
  let key ← found ((s.keys.find? reservation.agentEncryptionKeyId).filter fun row =>
      row.agentBindingId = binding.id && session.owns row.organisationId row.participantId)
    (rejected "DELIVERY_RECIPIENT_KEY_UNAVAILABLE")
  ensure (key.state = .active ∨ key.state = .retiring)
    (rejected "DELIVERY_RECIPIENT_KEY_UNAVAILABLE")
  ensure (key.state = .retiring →
    key.retiringAt.any fun at' => reservation.authorizedAt ≤ at')
    (rejected "DELIVERY_RECIPIENT_KEY_ROTATION_CONFLICT")
  .ok key

/-- An envelope for the agent. -/
structure Envelope where
  deliveryReservationId : String
  printExecutionId : String
  printJobItemId : String
  recipientKeyVersion : ℕ
  ciphertext : List UInt8
  payloadSha256 : String
  contextSha256 : String
  expiresAt : ℤ
  context : DeliveryContext
  deriving DecidableEq, Repr

/-- `_delivery_context`. -/
def deliveryContext (reservation : DeliveryReservation) (execution : PrintExecution)
    (key : EncryptionKey) : DeliveryContext where
  deliveryReservationId := reservation.id
  printExecutionId := execution.id
  printJobId := execution.printJobId
  printJobItemId := execution.printJobItemId
  storedFullKmItemId := execution.storedFullKmItemId
  organisationId := execution.organisationId
  participantId := execution.participantId
  agentBindingId := execution.agentBindingId
  payloadSha256 := execution.payloadSha256
  templateVersionId := execution.templateVersionId
  layoutSha256 := execution.layoutSha256
  recipientKeyVersion := key.keyVersion
  expiresAt := reservation.expiresAt

/-- `seal_full_km`, with the fields that `issue` adds. -/
def sealFullKm (key : EncryptionKey) (plaintext : List UInt8) (context : DeliveryContext) :
    Except PyError Envelope := do
  let contextSha256 ← platform.contextSha256 context
  let ciphertext ← platform.encrypt key.publicKey plaintext context
  .ok {
    deliveryReservationId := context.deliveryReservationId
    printExecutionId := context.printExecutionId
    printJobItemId := context.printJobItemId
    recipientKeyVersion := context.recipientKeyVersion
    ciphertext
    payloadSha256 := context.payloadSha256
    contextSha256
    expiresAt := context.expiresAt
    context }

/-- The execution of a reservation. -/
def executionOf (s : PrintingState) (executionId : String) : Option PrintExecution :=
  (s.executions.find? executionId).filter fun row =>
    session.owns row.organisationId row.participantId

/-- What `issue` puts into an envelope, and the envelope. -/
def sealedDelivery (s : PrintingState) (reservation : DeliveryReservation)
    (machineBindingId : String) : Except PyError (PrintExecution × EncryptionKey × Envelope) := do
  let execution ← found ((executionOf session s reservation.printExecutionId).filter fun row =>
    row.agentBindingId = machineBindingId) (rejected "PRINT_EXECUTION_BINDING_MISMATCH")
  ensure (execution.state ∈ ExecutionState.preSpoolIssuable)
    (rejected "PRINT_EXECUTION_NOT_PRE_SPOOL")
  let binding ← validBinding platform session s machineBindingId
  let key ← recipientKey session s reservation binding
  let (item, stored) ← validateExecutionGraph platform session s execution
  ensure (reservation.printJobItemId = item.id ∧ reservation.storedFullKmItemId = stored.id)
    (rejected "DELIVERY_RESERVATION_GRAPH_CONFLICT")
  ensure (reservation.payloadSha256 = execution.payloadSha256)
    (rejected "DELIVERY_PAYLOAD_HASH_CONFLICT")
  enforceVaultSize platform s stored
  let plaintext ← openVault platform stored
  ensure (platform.sha256 plaintext = reservation.payloadSha256)
    (rejected "FULL_KM_ITEM_HASH_MISMATCH")
  let envelope ← sealFullKm platform key plaintext (deliveryContext reservation execution key)
  .ok (execution, key, envelope)

/-- A reservation that was issued once more. -/
def issuedReservation (contextSha256 : String) (now : ℤ) (reservation : DeliveryReservation) :
    DeliveryReservation :=
  { reservation with
    issueCount := reservation.issueCount + 1
    state := .issued
    firstIssuedAt := reservation.firstIssuedAt <|> some now
    lastIssuedAt := some now
    lastContextSha256 := some contextSha256 }

theorem key_issuedReservation (contextSha256 : String) (now : ℤ) (row : DeliveryReservation) :
    (issuedReservation contextSha256 now row).key = row.key := rfl

/-- An execution with a new state. -/
def movedExecution (state : ExecutionState) (execution : PrintExecution) : PrintExecution :=
  { execution with state }

theorem key_movedExecution (state : ExecutionState) (row : PrintExecution) :
    (movedExecution state row).key = row.key := rfl

/-- A reservation is issued. -/
def PrintingState.issueReservation (s : PrintingState) (reservation : DeliveryReservation)
    (executionId contextSha256 : String) (now : ℤ) : PrintingState :=
  { s with
    reservations := s.reservations.modify reservation.id (issuedReservation contextSha256 now)
      (key_issuedReservation _ _)
    executions := s.executions.modify executionId (movedExecution .payloadIssued)
      (key_movedExecution _) }

/-- `issue`. -/
def issue (reservationId machineBindingId : String) : PrintingTx Envelope := do
  let s ← .get
  let reservation ← Tx.ofExcept (issuable platform session s reservationId machineBindingId)
  closeSpent session reservation
  let (execution, _, envelope) ←
    Tx.ofExcept (sealedDelivery platform session s reservation machineBindingId)
  Tx.modify fun s =>
    s.issueReservation reservation execution.id envelope.contextSha256 session.now
  session.record "PRINT_PAYLOAD_ISSUED" execution.printJobId
    ("print-payload:" ++ reservation.id ++ ":issued:" ++ digits (reservation.issueCount + 1))
  pure envelope

/-- The reservation that an acknowledgement names. -/
def acknowledgeable (s : PrintingState) (reservationId machineBindingId : String) :
    Except PyError DeliveryReservation := do
  requireDeliveryGate platform
  found ((reservationOf session s reservationId).filter fun row =>
    row.agentBindingId = machineBindingId) (rejected "DELIVERY_RESERVATION_NOT_FOUND")

/-- The execution of a reservation that waits for its acknowledgement. -/
def awaitedExecution (s : PrintingState) (reservation : DeliveryReservation)
    (machineBindingId : String) : Except PyError PrintExecution := do
  ensure (reservation.state = .issued) (rejected "DELIVERY_ACK_NOT_ALLOWED")
  found ((s.executions.find? reservation.printExecutionId).filter fun row =>
    row.agentBindingId = machineBindingId) (rejected "PRINT_EXECUTION_BINDING_MISMATCH")

/-- An execution that failed before it reached the spooler. -/
def failedExecution (code : String) (now : ℤ) (execution : PrintExecution) : PrintExecution :=
  { execution with
    state := .failedPreSpool
    safeErrorCode := some code
    terminalAt := some now }

theorem key_failedExecution (code : String) (now : ℤ) (row : PrintExecution) :
    (failedExecution code now row).key = row.key := rfl

/-- A delivery that was not received as it was sent. -/
def PrintingState.refuseDelivery (s : PrintingState) (reservation : DeliveryReservation)
    (executionId : String) (now : ℤ) : PrintingState :=
  { s.closeReservation reservation.id .blocked "DELIVERY_ACK_INTEGRITY_MISMATCH" with
    executions := s.executions.modify executionId
      (failedExecution "DELIVERY_ACK_INTEGRITY_MISMATCH" now) (key_failedExecution _ _) }

/-- A reservation that was received. -/
def acknowledgedReservation (now : ℤ) (reservation : DeliveryReservation) :
    DeliveryReservation :=
  { reservation with state := .acknowledged, acknowledgedAt := some now }

theorem key_acknowledgedReservation (now : ℤ) (row : DeliveryReservation) :
    (acknowledgedReservation now row).key = row.key := rfl

/-- An execution whose code was received. -/
def deliveredExecution (now : ℤ) (execution : PrintExecution) : PrintExecution :=
  { execution with state := .payloadDelivered, payloadDeliveredAt := some now }

theorem key_deliveredExecution (now : ℤ) (row : PrintExecution) :
    (deliveredExecution now row).key = row.key := rfl

/-- A delivery is received. -/
def PrintingState.deliver (s : PrintingState) (reservation : DeliveryReservation)
    (executionId : String) (now : ℤ) : PrintingState :=
  { s with
    reservations := s.reservations.modify reservation.id (acknowledgedReservation now)
      (key_acknowledgedReservation _)
    executions := s.executions.modify executionId (deliveredExecution now)
      (key_deliveredExecution _) }

/-- The agent names the hashes of what it was sent. -/
def checkReceived (reservation : DeliveryReservation) (executionId payloadSha256 : String)
    (contextSha256 : Option String) : PrintingTx Unit := do
  if payloadSha256 ≠ reservation.payloadSha256 ∨
      contextSha256 ≠ reservation.lastContextSha256 then
    Tx.modify fun s => s.refuseDelivery reservation executionId session.now
    Tx.raise (rejected "DELIVERY_ACK_INTEGRITY_MISMATCH")
  else pure ()

/-- The first acknowledgement of a reservation. -/
def acknowledgeIssued (reservation : DeliveryReservation)
    (machineBindingId payloadSha256 contextSha256 : String) : PrintingTx Unit := do
  let s ← .get
  let execution ← Tx.ofExcept (awaitedExecution s reservation machineBindingId)
  checkReceived session reservation execution.id payloadSha256 (some contextSha256)
  Tx.modify fun s => s.deliver reservation execution.id session.now
  session.record "PRINT_PAYLOAD_DELIVERED" execution.printJobId
    ("print-payload:" ++ reservation.id ++ ":delivered")

/-- `acknowledge`. -/
def acknowledge (reservationId machineBindingId payloadSha256 contextSha256 : String) :
    PrintingTx Unit := do
  let s ← .get
  let reservation ← Tx.ofExcept
    (acknowledgeable platform session s reservationId machineBindingId)
  if reservation.state = .acknowledged then
    Tx.ofExcept (ensure (reservation.payloadSha256 = payloadSha256 ∧
      reservation.lastContextSha256 = some contextSha256) (rejected "DELIVERY_ACK_REPLAY_CONFLICT"))
  else
    acknowledgeIssued session reservation machineBindingId payloadSha256 contextSha256

end Deliveries

end Wbcz.Printing

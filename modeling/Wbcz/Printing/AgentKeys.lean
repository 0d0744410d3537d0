import Wbcz.Printing.KeyLifecycle

/-!
# The key of the printing agent

The agent keeps one private key in one file, with the version under which the server knows its
public half. It opens an envelope when the version is the one in the file. The Windows data
protection gives back what it protected, so the file is seen with the raw key in it.

The agent and the server make one system: the agent generates keys, registers them, and binds
them to the version that the server answered; the server does whatever else it does in between.
-/

namespace Wbcz.Printing

open Fallible (ensure found)

/-! ## The key file -/

/-- A raw X25519 private key. -/
abbrev PrivateKey := { raw : List UInt8 // raw.length = 32 }

/-- The file of `AgentPrintKeyStore`. -/
structure PrintKeyFile where
  privateKey : PrivateKey
  serverKeyVersion : Option ℕ
  deriving DecidableEq, Repr

/-- `generate`: the file is written anew. -/
def PrintKeyFile.generate (privateKey : PrivateKey) : PrintKeyFile := ⟨privateKey, none⟩

/-- `bind_server_version`. -/
def PrintKeyFile.bindServerVersion (file : PrintKeyFile) (keyVersion : ℕ) :
    Except PyError PrintKeyFile := do
  ensure (1 ≤ keyVersion) ⟨.valueError, "invalid server key version"⟩
  .ok { file with serverKeyVersion := some keyVersion }

/-- What the agent takes from the library of HPKE. -/
structure AgentPlatform where
  publicOf : PrivateKey → List UInt8
  openFullKm : PrivateKey → List UInt8 → DeliveryContext → Except PyError (List UInt8)

/-! ## The replay store -/

/-- The states of a row of the replay store. -/
inductive SensitiveReplayState where
  | openedVerified
  | acknowledged
  | failed
  deriving DecidableEq, Repr

/-- A row of `print_sensitive_replay`. -/
structure SensitiveReplay where
  executionId : String
  printJobItemId : String
  reservationId : String
  payloadSha256 : String
  contextSha256 : String
  state : SensitiveReplayState
  keyVersion : ℕ
  safeErrorCode : Option String := none
  deriving DecidableEq, Repr

namespace SensitiveReplay

/-- The primary key of a row. -/
abbrev key (row : SensitiveReplay) : String := row.executionId

/-- What a row is compared by. -/
def fingerprint (row : SensitiveReplay) : String × String × String × ℕ :=
  (row.reservationId, row.payloadSha256, row.contextSha256, row.keyVersion)

/-- A row that is recorded once more. -/
def moved (state : SensitiveReplayState) (safeErrorCode : Option String) (row : SensitiveReplay) :
    SensitiveReplay :=
  { row with state, safeErrorCode }

theorem key_moved (state : SensitiveReplayState) (safeErrorCode : Option String)
    (row : SensitiveReplay) : (row.moved state safeErrorCode).key = row.key := rfl

end SensitiveReplay

abbrev ReplayTx := Tx PyError (Table SensitiveReplay.key)

/-- `AgentSensitiveReplayStore.record`. -/
def recordReplay (row : SensitiveReplay) : ReplayTx Unit := do
  let rows ← .get
  match rows.find? row.executionId with
  | some existing =>
    Tx.ofExcept (ensure (existing.fingerprint = row.fingerprint)
      ⟨.valueError, "sensitive delivery replay conflict"⟩)
    Tx.modify fun rows => rows.modify row.executionId
      (SensitiveReplay.moved row.state row.safeErrorCode) (SensitiveReplay.key_moved _ _)
  | none =>
    let rows ← Tx.ofExcept (found (rows.insert row) integrityError)
    Tx.modify fun _ => rows

/-! ## An envelope is opened -/

/-- A `SensitiveEnvelopeError`. -/
def envelopeError (message : String) : PyError := ⟨.other "SensitiveEnvelopeError", message⟩

/-- The row of an envelope. -/
def Envelope.replay (envelope : Envelope) (state : SensitiveReplayState) : SensitiveReplay where
  executionId := envelope.printExecutionId
  printJobItemId := envelope.printJobItemId
  reservationId := envelope.deliveryReservationId
  payloadSha256 := envelope.payloadSha256
  contextSha256 := envelope.contextSha256
  state
  keyVersion := envelope.recipientKeyVersion

section Opening

variable (platform : Platform) (agent : AgentPlatform) (file : Option PrintKeyFile)
  (envelope : Envelope)

/-- The code in an envelope, if the file has its key. -/
def openedPayload : Except PyError (List UInt8) := do
  let contextSha256 ← platform.contextSha256 envelope.context
  ensure (contextSha256 = envelope.contextSha256)
    (envelopeError "delivery context SHA-256 mismatch")
  let file ← found file ⟨.other "FileNotFoundError", ""⟩
  ensure (file.serverKeyVersion = some envelope.recipientKeyVersion)
    (envelopeError "recipient key version mismatch")
  let plaintext ← agent.openFullKm file.privateKey envelope.ciphertext envelope.context
  ensure (platform.sha256 plaintext = envelope.payloadSha256)
    (envelopeError "payload SHA-256 mismatch")
  .ok plaintext

theorem openedPayload_eq_ok {plaintext : List UInt8} :
    openedPayload platform agent file envelope = .ok plaintext ↔
      platform.contextSha256 envelope.context = .ok envelope.contextSha256 ∧
        ∃ keyFile, file = some keyFile ∧
          keyFile.serverKeyVersion = some envelope.recipientKeyVersion ∧
          agent.openFullKm keyFile.privateKey envelope.ciphertext envelope.context =
            .ok plaintext ∧
          platform.sha256 plaintext = envelope.payloadSha256 := by
  simp only [openedPayload, Fallible.bind_eq_ok, Fallible.ensure_eq_ok, Fallible.found_eq_ok]
  constructor
  · rintro ⟨_, hcontext, _, rfl, keyFile, hfile, _, hversion, opened, hopened, _, hpayload, ⟨rfl⟩⟩
    exact ⟨hcontext, keyFile, hfile, hversion, hopened, hpayload⟩
  · rintro ⟨hcontext, keyFile, hfile, hversion, hopened, hpayload⟩
    exact ⟨_, hcontext, (), rfl, keyFile, hfile, (), hversion, plaintext, hopened, (), hpayload,
      rfl⟩

/-- `open_verify_ack_then_consume`: what is consumed, where the server confirms the delivery. -/
def openVerifyAckThenConsume (acknowledged : Bool) : ReplayTx (List UInt8) := do
  let plaintext ← Tx.ofExcept (openedPayload platform agent file envelope)
  recordReplay (envelope.replay .openedVerified)
  Tx.ofExcept (ensure (acknowledged = true)
    (envelopeError "server did not acknowledge exact sensitive delivery"))
  recordReplay (envelope.replay .acknowledged)
  pure plaintext

end Opening

/-! ## The agent and the server -/

/-- The agent of a binding and the server: the key file, the version that the server answered for
the key in the file, what the agent recorded, and the envelopes it was sent. -/
structure KeyExchange where
  server : PrintingState
  file : Option PrintKeyFile
  answered : Option ℕ
  replays : Table SensitiveReplay.key
  envelopes : List Envelope

/-- An agent without a key, and a server without rows. -/
def KeyExchange.initial : KeyExchange := ⟨.initial, none, none, .empty, []⟩

/-- What happens in a step. -/
inductive KeyLabel where
  | server (label : PrintingLabel)
  | generate (privateKey : PrivateKey)
  | register (session : Session) (intentToken : String)
  | unanswered (session : Session) (intentToken : String)
  | bind (keyVersion : ℕ)
  | issue (session : Session) (reservationId : String)
  | deliver (envelope : Envelope) (acknowledged : Bool)

/-- A registration of a key for the binding. -/
def PrintingLabel.registers (bindingId : String) : PrintingLabel → Bool
  | .call _ (.registerPublicKey id _ _) _ => id = bindingId
  | _ => false

/-- One step. The keys of the binding are registered by its agent, from its file; everything else
at the server is in nobody's hands. -/
inductive KeyStep (platform : Platform) (agent : AgentPlatform) (bindingId : String) :
    KeyExchange → KeyLabel → KeyExchange → Prop
  | server {x label s'} : PrintingStep platform x.server label s' →
      label.registers bindingId = false →
      KeyStep platform agent bindingId x (.server label) { x with server := s' }
  | generate {x privateKey} : KeyStep platform agent bindingId x (.generate privateKey)
      { x with file := some (.generate privateKey), answered := none }
  | register {x session intentToken file key s'} : x.file = some file →
      registerPublicKey platform session bindingId intentToken (agent.publicOf file.privateKey)
        x.server = (.ok key, s') →
      KeyStep platform agent bindingId x (.register session intentToken)
        { x with server := s', answered := some key.keyVersion }
  -- the server did what it did, and the answer was lost or was a refusal
  | unanswered {x session intentToken accepted file s'} : x.file = some file →
      PrintingStep platform x.server (.call session
        (.registerPublicKey bindingId intentToken (agent.publicOf file.privateKey)) accepted) s' →
      KeyStep platform agent bindingId x (.unanswered session intentToken) { x with server := s' }
  | bind {x file file' keyVersion} : x.file = some file → x.answered = some keyVersion →
      file.bindServerVersion keyVersion = .ok file' →
      KeyStep platform agent bindingId x (.bind keyVersion) { x with file := some file' }
  | issue {x session reservationId envelope s'} :
      Printing.issue platform session reservationId bindingId x.server = (.ok envelope, s') →
      KeyStep platform agent bindingId x (.issue session reservationId)
        { x with server := s', envelopes := x.envelopes ++ [envelope] }
  | deliver {x envelope acknowledged} : envelope ∈ x.envelopes →
      KeyStep platform agent bindingId x (.deliver envelope acknowledged)
        { x with
          replays := (openVerifyAckThenConsume platform agent x.file envelope acknowledged
            x.replays).2 }

end Wbcz.Printing

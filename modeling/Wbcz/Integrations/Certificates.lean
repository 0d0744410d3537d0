import Wbcz.Control.Checks
import Wbcz.Errors
import Wbcz.Lib.DateText
import Wbcz.Lib.Fallible
import Wbcz.Lib.OrderBy
import Wbcz.Lib.Table
import Wbcz.Lib.Transition

/-!
# The certificates that an agent reports

`apply_agent_health_result`, `record_certificate_inventory`, `select_certificate` and
`certificate_status` of `wbcz_web/services/integration_settings.py`, for one binding of the active
tenant, with the parts of the connections and of the health checks that they read. Another binding
has observations of its own.

Every observation of a certificate is a row. A health result always adds one; an inventory updates
the newest row of the thumbprint where there is one. Times are microseconds. The queries take the
rows of a binding newest first, in an order that each call brings with it. The summary that a
health check keeps of its result and the audit of a selection are left out: none of the four
functions reads them.
-/

namespace Wbcz.Certificates

open Control (textOrEmpty)
open CisInventory (pyStr)
open Fallible (ensure found)

/-! ## Texts and dates -/

/-- The characters of the upper case of a character that can be hexadecimal digits. -/
def upperHexChar (c : Char) : List Char :=
  if c.toNat = 0x1e9a then ['A'] else (Text.upperCharAscii? c).getD []

/-- A character that is not of the class `[^0-9A-F]`. -/
def isHexChar (c : Char) : Bool := Text.isAsciiDigit c || 65 ≤ c.toNat && c.toNat ≤ 70

/-- `re.sub(r"[^0-9A-F]", "", text.upper())`. -/
def hexText (text : String) : String :=
  String.ofList ((text.toList.flatMap upperHexChar).filter isHexChar)

/-- `text or None`. -/
def orNone (text : String) : Option String := if text = "" then none else some text

/-- A character agrees with one of the pattern, the case aside. -/
def agrees (pattern c : Char) : Bool :=
  c = pattern ||
    (pattern.isUpper || pattern = 'И' || pattern = 'Н') && c.toNat = pattern.toNat + 32 ||
    -- the `I` of Turkish, with and without a dot
    pattern = 'I' && (c.toNat = 0x130 || c.toNat = 0x131)

/-- What follows a label of the pattern. -/
def afterLabel : List Char → List Char → Option (List Char)
  | [], cs => some cs
  | _ :: _, [] => none
  | p :: label, c :: cs => if agrees p c then afterLabel label cs else none

/-- The pattern for an INN in the subject of a certificate. Its alternative of twelve digits is
never tried, as ten of them match before. -/
def innAt (cs : List Char) : Option String := do
  let rest ← ["OID.1.2.643.100.4", "INN", "ИНН"].findSome? fun label => afterLabel label.toList cs
  match rest.dropWhile Text.isSpace with
  | [] => none
  | c :: rest =>
    let digits := (rest.dropWhile Text.isSpace).take 10
    if (c = '=' ∨ c = ':') ∧ digits.length = 10 ∧ digits.all Text.isDecimal then
      some (String.ofList digits)
    else none

/-- `re.search` of the pattern. -/
def innIn (subject : String) : Option String := subject.toList.tails.findSome? innAt

/-- The days up to a date. -/
def dayNumber (date : Calendar.Date) : ℕ :=
  Calendar.daysBeforeYear date.year +
    ((List.range' 1 (date.month - 1)).map (Calendar.daysInMonth date.year)).sum + date.day

/-- A moment of UTC in microseconds. -/
def micros (t : Calendar.Moment) : ℤ := dayNumber t.date * Calendar.dayMicros + t.time

/-- `_parse_dt`. -/
def parseDt (value : Json) : Except PyError (Option ℤ) :=
  match value with
  | .str text =>
    if text = "" then .ok none
    else
      let text := text.toList.flatMap fun c => if c = 'Z' then "+00:00".toList else [c]
      match Calendar.fromisoformat text with
      | none => .ok none
      | some (.naive clock) => .ok (some (micros clock))
      | some (.aware moment) =>
        match moment.toUtc with
        | none => .error ⟨.other "OverflowError", "date value out of range"⟩
        | some clock => .ok (some (micros clock))
  | _ => .ok none

/-! ## Rows -/

/-- `readiness_state`. -/
inductive Readiness where
  | ready
  | notReady
  deriving DecidableEq, Repr

/-- `match_state`. -/
inductive MatchState where
  | matching
  | mismatch
  | unknown
  deriving DecidableEq, Repr

/-- `expiry_state`. -/
inductive ExpiryState where
  | expired
  | expiringCritical
  | expiringSoon
  | valid
  | unknown
  deriving DecidableEq, Repr

/-- `certificate_selection_state`. -/
inductive SelectionState where
  | none
  | pendingLocalApply
  | ready
  | mismatch
  deriving DecidableEq, Repr

/-- `AgentCertificateObservationRecord`. -/
structure Observation where
  id : String
  thumbprint : String
  subject : Option String
  issuer : Option String
  certificateInn : Option String
  validFrom : Option ℤ
  validTo : Option ℤ
  algorithm : Option String
  hasPrivateKey : Bool
  cryptoProvider : Option String
  compatibility : String
  serial : Option String
  observedAt : ℤ
  readinessState : Readiness
  matchState : MatchState
  expiryState : ExpiryState
  reasonCode : Option String
  deriving DecidableEq, Repr

/-- The columns of `TrueApiConnectionRecord` about certificates. -/
structure Connection where
  id : String
  archived : Bool
  desiredCertificateRef : Option String
  certificateSelectionState : SelectionState
  observedCertificateObservationId : Option String
  deriving DecidableEq, Repr

/-- A check that waits for a result of the binding, or has had one. -/
structure HealthCheck where
  id : String
  connectionId : String
  completedAt : Option ℤ
  deriving DecidableEq, Repr

/-- The keys of `capabilities_sanitized`. -/
structure Capabilities where
  trueApiAuth : Option Bool := none
  readProbe : Option String := none
  cryptoproAvailable : Option Bool := none
  certificateCandidateCount : Option ℕ := none
  certificateEligibleCount : Option ℕ := none
  certificateDiscovery : Option Bool := none
  certificateDiscoveryObservedAt : Option ℤ := none
  certificateCurrentThumbprints : List String := []
  certificateEligibleThumbprints : List String := []
  deriving DecidableEq, Repr

/-- What the participant and the settings of the server say. -/
structure Platform where
  participantInn : String
  criticalDays : ℕ := 7
  soonDays : ℕ := 30
  /-- What `str` writes after the first bracket of a container. -/
  containerText : Json → String

/-- The binding with its observations, and the connections of its participant. -/
structure World where
  active : Bool
  isPrimary : Bool
  capabilities : Capabilities
  observations : Table Observation.id
  connections : Table Connection.id
  checks : Table HealthCheck.id

/-- The binding is the primary one of the active tenant. -/
def World.online (w : World) : Bool := w.active && w.isPrimary

/-- The connection that is not archived; an index lets there be one. -/
def World.connection? (w : World) : Option Connection := w.connections.rows.find? (!·.archived)

/-- `desired_certificate_ref` where it is true in a condition. -/
def Connection.desired (conn : Connection) : Option String :=
  conn.desiredCertificateRef.filter (· ≠ "")

/-! ## A reported certificate -/

/-- `certificate_expiry_status`. -/
def certificateExpiryStatus (validTo : Option ℤ) (now : ℤ) (criticalDays soonDays : ℕ) :
    ExpiryState :=
  match validTo with
  | none => .unknown
  | some validTo =>
    if validTo - now ≤ 0 then .expired
    else if validTo - now ≤ criticalDays * Calendar.dayMicros then .expiringCritical
    else if validTo - now ≤ soonDays * Calendar.dayMicros then .expiringSoon
    else .valid

/-- What a reported certificate says, at the time it is reported. -/
structure Reading where
  certificateInn : Option String
  validFrom : Option ℤ
  validTo : Option ℤ
  expiry : ExpiryState
  matchState : MatchState
  hasPrivateKey : Bool
  compatible : Bool
  notYetValid : Bool

/-- The reading of a reported certificate; the clock is read for its end and for its start. -/
def readCertificate (p : Platform) (raw : Json) (subject : String) (cryptopro : Bool)
    (expiryNow validNow : ℤ) : Except PyError Reading := do
  let validFrom ← parseDt (raw.get "valid_from")
  let validTo ← parseDt (raw.get "valid_to")
  let given := orNone (textOrEmpty p.containerText (raw.get "certificate_inn"))
  let certInn := match given with
    | some inn => some inn
    | none => innIn subject
  return {
    certificateInn := certInn
    validFrom
    validTo
    expiry := certificateExpiryStatus validTo expiryNow p.criticalDays p.soonDays
    matchState :=
      if certInn = some p.participantInn then .matching
      else if certInn.isSome then .mismatch
      else .unknown
    hasPrivateKey := (raw.get "has_private_key").truthy
    compatible :=
      cryptopro && textOrEmpty p.containerText (raw.get "compatibility") = "GOST_CRYPTOPRO"
    notYetValid := validFrom.any (validNow < ·) }

namespace Reading

variable (r : Reading)

/-- The conditions for `READY` that both reports ask for. -/
def usable : Bool :=
  r.hasPrivateKey && r.compatible && !r.notYetValid &&
    (r.expiry = .valid || r.expiry = .expiringSoon || r.expiry = .expiringCritical) &&
    r.matchState = .matching

/-- The first reason against a certificate; the last of them is that of the report. -/
def reason (last : Option String) : Option String :=
  if r.matchState = .mismatch then some "CERTIFICATE_PARTICIPANT_MISMATCH"
  else if !r.hasPrivateKey then some "CERTIFICATE_NO_PRIVATE_KEY"
  else if !r.compatible then some "CRYPTO_PROVIDER_UNAVAILABLE"
  else if r.notYetValid then some "CERTIFICATE_NOT_YET_VALID"
  else if r.expiry = .expired then some "CERTIFICATE_EXPIRED"
  else last

/-- The columns that a report writes. -/
def observation (p : Platform) (raw : Json) (id thumbprint subject algorithm : String)
    (ready : Bool) (reason : Option String) (now : ℤ) : Observation where
  id
  thumbprint
  subject := orNone subject
  issuer := orNone (Text.take 2000 (textOrEmpty p.containerText (raw.get "issuer")))
  certificateInn := r.certificateInn.filter fun inn =>
    Text.isdigit inn && (inn.length = 10 || inn.length = 12)
  validFrom := r.validFrom
  validTo := r.validTo
  algorithm := orNone (Text.take 128 algorithm)
  hasPrivateKey := r.hasPrivateKey
  cryptoProvider := orNone (Text.take 160 (textOrEmpty p.containerText (raw.get "crypto_provider")))
  compatibility := if r.compatible then "GOST_CRYPTOPRO" else "UNSUPPORTED"
  serial := orNone (Text.take 160 (textOrEmpty p.containerText (raw.get "serial")))
  observedAt := now
  readinessState := if ready then .ready else .notReady
  matchState := r.matchState
  expiryState := r.expiry
  reasonCode := reason

end Reading

/-! ## Health results -/

/-- A result of a health check, with the id that is drawn for its observation and the times at
which the clock is read. -/
structure HealthResult where
  readResult : Json
  id : String
  expiryNow : ℤ
  validNow : ℤ
  now : ℤ
  completedAt : ℤ

namespace HealthResult

variable (p : Platform) (result : HealthResult)

/-- `payload.get("certificate")` where it is an object, and no fields otherwise. -/
def certificate : Json := .obj (Control.objectField result.readResult "certificate")

/-- The result brings a certificate. -/
def bringsCertificate : Bool := (result.certificate.get "thumbprint").truthy

/-- The thumbprint of the certificate, of whatever length. -/
def thumbprint : String :=
  Text.take 160 (hexText (pyStr p.containerText (result.certificate.get "thumbprint")))

/-- `components.get("TRUE_API_AUTH", {}).get("status") == "READY"`. -/
def authReady : Bool :=
  let component := Control.objectField (.obj (Control.objectField result.readResult "components"))
    "TRUE_API_AUTH"
  let status := (Json.obj component).get "status"
  status.truthy && Text.take 32 (pyStr p.containerText status) = "READY"

/-- The row that the certificate makes, for a connection that desires one or none. -/
def observation (conn : Connection) : Except PyError Observation := do
  let raw := result.certificate
  let subject := textOrEmpty p.containerText (raw.get "subject")
  let r ← readCertificate p raw subject true result.expiryNow result.validNow
  let selectionMatch := conn.desired.all (· = result.thumbprint p)
  return r.observation p raw result.id (result.thumbprint p) (Text.take 2000 subject)
    (textOrEmpty p.containerText (raw.get "algorithm")) (r.usable && selectionMatch)
    (r.reason (if selectionMatch then none else some "CERTIFICATE_NOT_FOUND")) result.now

end HealthResult

/-- The connection after a health result with a certificate. -/
def Connection.observe (conn : Connection) (cert : Observation) : Connection :=
  { conn with
    observedCertificateObservationId := some cert.id
    certificateSelectionState :=
      match conn.desired with
      | some desired =>
        if desired = cert.thumbprint ∧ cert.readinessState = .ready then .ready else .mismatch
      | none =>
        if cert.readinessState = .ready then .ready else conn.certificateSelectionState }

/-- The rows and the connection after the certificate of a result, where it brings one. -/
def HealthResult.record (p : Platform) (result : HealthResult)
    (observations : Table Observation.id) (conn : Connection) :
    Except PyError (Table Observation.id × Connection) :=
  if result.bringsCertificate then do
    let cert ← result.observation p conn
    let observations ← found (observations.insert cert) ⟨.integrityError, ""⟩
    return (observations, conn.observe cert)
  else return (observations, conn)

/-- The open check that a result names. -/
def World.openCheck (w : World) (checkId : Json) : Option HealthCheck :=
  (checkId.str?.bind w.checks.find?).filter (·.completedAt.isNone)

/-- `apply_agent_health_result`. -/
def applyAgentHealthResult (p : Platform) (w : World) (result : HealthResult) :
    Except PyError World := do
  ensure ((result.readResult.get "type").str? = some "M14_INTEGRATION_HEALTH")
    ⟨.valueError, "not an M14 health result"⟩
  let check ← found (w.openCheck (result.readResult.get "check_id"))
    ⟨.other "IntegrationNotFound", "integration health check not found"⟩
  let conn ← found (w.connections.find? check.connectionId)
    ⟨.other "IntegrationNotFound", "integration not found"⟩
  let (observations, conn) ← result.record p w.observations conn
  return { w with
    observations
    connections := w.connections.put conn
    -- the thumbprints of the last inventory go with the other capabilities
    capabilities := { trueApiAuth := some (result.authReady p), readProbe := some "NOT_TESTED" }
    checks := w.checks.put { check with completedAt := some result.completedAt } }

/-! ## Inventories -/

/-- A candidate of an inventory, with the id that is drawn where it needs a row and the time at
which its end is checked. -/
structure Candidate where
  raw : Json
  id : String
  expiryNow : ℤ

namespace Candidate

variable (p : Platform) (c : Candidate)

/-- The thumbprint of the candidate. -/
def thumbprint : String :=
  Text.take 160 (hexText (textOrEmpty p.containerText (c.raw.get "thumbprint")))

/-- A shorter thumbprint is passed over. -/
def counts : Bool := 32 ≤ (c.thumbprint p).length

/-- The row that the candidate makes, under the id of the row it is stored in. -/
def observation (cryptopro : Bool) (now : ℤ) : Except PyError (String → Observation) := do
  let subject := Text.take 2000 (textOrEmpty p.containerText (c.raw.get "subject"))
  let r ← readCertificate p c.raw subject cryptopro c.expiryNow now
  let key := c.raw.get "public_key_oid"
  let algorithm :=
    if key.truthy then pyStr p.containerText key
    else textOrEmpty p.containerText (c.raw.get "signature_oid")
  let last :=
    if r.matchState = .unknown then some "CERTIFICATE_PARTICIPANT_MISMATCH" else none
  return fun id =>
    r.observation p c.raw id (c.thumbprint p) subject algorithm r.usable (r.reason last) now

end Candidate

/-- An inventory, with the time it is recorded at. -/
structure InventoryReport where
  candidates : List Candidate
  selectedThumbprint : Option String
  cryptoproAvailable : Bool
  now : ℤ

/-- The newest row of a thumbprint. -/
def newest (o : Descending Observation.observedAt) (observations : Table Observation.id)
    (thumbprint : String) : Option Observation :=
  o.first (observations.rows.filter (·.thumbprint = thumbprint))

/-- One candidate goes into the rows; the ids of the rows observed so far are kept. -/
def recordCandidate (p : Platform) (o : Descending Observation.observedAt) (cryptopro : Bool)
    (now : ℤ) (state : Table Observation.id × List String) (c : Candidate) :
    Except PyError (Table Observation.id × List String) :=
  if c.counts p then do
    let fill ← c.observation p cryptopro now
    match newest o state.1 (c.thumbprint p) with
    | none =>
      let observations ← found (state.1.insert (fill c.id)) ⟨.integrityError, ""⟩
      pure (observations, state.2 ++ [c.id])
    | some row => pure (state.1.put (fill row.id), state.2 ++ [row.id])
  else .ok state

/-- The connection after an inventory, and whether a certificate was selected for it. -/
def Connection.afterInventory (conn : Connection) (observed : List Observation)
    (selected : Option String) : Connection × Bool :=
  let byThumb thumbprint := (observed.filter (·.thumbprint = thumbprint)).getLast?
  let kept :=
    if conn.desired.any fun desired => !(byThumb desired).any (·.readinessState = .ready) then
      { conn with
        desiredCertificateRef := none
        certificateSelectionState := .none
        observedCertificateObservationId := none }
    else conn
  let auto :=
    match kept.desired, observed.filter (·.readinessState = .ready) with
    | none, [row] => some row
    | _, _ => none
  let chosen :=
    match auto with
    | some row =>
      { kept with
        desiredCertificateRef := some row.thumbprint
        certificateSelectionState := .pendingLocalApply }
    | none => kept
  let applied :=
    match chosen.desired, selected with
    | none, _ => chosen
    | some _, none =>
      { chosen with
        certificateSelectionState := .pendingLocalApply
        observedCertificateObservationId := none }
    | some desired, some selected =>
      match (byThumb desired).filter (·.readinessState = .ready) with
      | some row =>
        if selected = desired then
          { chosen with
            certificateSelectionState := .ready
            observedCertificateObservationId := some row.id }
        else
          { chosen with
            certificateSelectionState := .mismatch
            observedCertificateObservationId := none }
      | none =>
        { chosen with
          certificateSelectionState := .mismatch
          observedCertificateObservationId := none }
  (applied, auto.isSome)

/-- What an agent is answered to its inventory. -/
structure InventoryReply where
  cryptoproAvailable : Bool
  candidates : List Observation
  selectedThumbprint : Option String
  desiredCertificateThumbprint : Option String
  selectionState : SelectionState
  autoSelected : Bool

/-- `record_certificate_inventory`. -/
def recordCertificateInventory (p : Platform) (w : World) (o : Descending Observation.observedAt)
    (report : InventoryReport) : Except PyError (World × InventoryReply) := do
  ensure w.active ⟨.other "IntegrationNotFound", "agent binding not found"⟩
  ensure (report.candidates.length ≤ 64)
    ⟨.valueError, "certificate candidate limit exceeded"⟩
  let (observations, ids) ← report.candidates.foldlM
    (recordCandidate p o report.cryptoproAvailable report.now) (w.observations, [])
  -- one row may stand for several candidates: what is counted are the rows at the end
  let observed := ids.filterMap observations.find?
  let eligible := observed.filter (·.readinessState = .ready)
  let selected := (report.selectedThumbprint.filter (· ≠ "")).map fun thumbprint =>
    Text.take 160 (hexText thumbprint)
  let after := w.connection?.map fun conn =>
    conn.afterInventory observed (selected.filter (· ≠ ""))
  let connections :=
    match after with
    | some (conn, _) => w.connections.put conn
    | none => w.connections
  return ({ w with
    observations
    connections
    capabilities := { w.capabilities with
      cryptoproAvailable := some report.cryptoproAvailable
      certificateCandidateCount := some observed.length
      certificateEligibleCount := some eligible.length
      certificateDiscovery := some true
      certificateDiscoveryObservedAt := some report.now
      certificateCurrentThumbprints := observed.map (·.thumbprint)
      certificateEligibleThumbprints := eligible.map (·.thumbprint) } },
    { cryptoproAvailable := report.cryptoproAvailable
      candidates := observed
      selectedThumbprint := selected
      desiredCertificateThumbprint := after.bind (·.1.desiredCertificateRef)
      selectionState := (after.map (·.1.certificateSelectionState)).getD .none
      autoSelected := (after.map (·.2)).getD false })

/-! ## Selection -/

/-- `select_certificate`. -/
def selectCertificate (w : World) (o : Descending Observation.observedAt)
    (connectionId thumbprint : String) : Except PyError World := do
  let conn ← found (w.connections.find? connectionId)
    ⟨.other "IntegrationNotFound", "integration not found"⟩
  let normalized := hexText thumbprint
  ensure (32 ≤ normalized.length ∧ normalized.length ≤ 160)
    ⟨.valueError, "certificate thumbprint is invalid"⟩
  ensure w.online ⟨.valueError, "active Windows agent is required"⟩
  ensure (normalized ∈ w.capabilities.certificateCurrentThumbprints)
    ⟨.valueError, "certificate is not a current ready participant-matching candidate"⟩
  ensure ((newest o w.observations normalized).any (·.readinessState = .ready))
    ⟨.valueError, "certificate is not a current ready participant-matching candidate"⟩
  return { w with
    connections := w.connections.put { conn with
      desiredCertificateRef := some normalized
      certificateSelectionState := .pendingLocalApply } }

/-! ## The status -/

/-- `status` of `certificate_status`. -/
inductive StatusCode where
  | notReady
  | activeReady
  | selectedPendingApply
  | selectionRequired
  | discoveredReady
  deriving DecidableEq, Repr

/-- What `certificate_status` answers. -/
structure CertificateStatus where
  status : StatusCode
  reasonCode : Option String
  observation : Option Observation
  candidates : List Observation
  eligibleCount : ℕ
  selectionState : SelectionState
  desiredCertificateThumbprint : Option String
  cryptoproAvailable : Bool
  discoveryObservedAt : Option ℤ
  deriving DecidableEq, Repr

/-- The rows of the current thumbprints: `by_thumb` keeps the last row of a thumbprint. -/
def World.currentRows (w : World) (o : Descending Observation.observedAt) : List Observation :=
  let current := w.capabilities.certificateCurrentThumbprints
  let rows := w.observations.rows.filter fun row => row.thumbprint ∈ current
  current.filterMap fun thumbprint => o.lastWhere rows (·.thumbprint = thumbprint)

/-- The status and the reason for the rows of the current thumbprints. -/
def classify (current eligible : List Observation) (desired : Option String)
    (desiredCurrent selected : Option Observation) (selectionState : SelectionState) :
    StatusCode × Option String :=
  if current = [] then (.notReady, some "CERTIFICATE_NOT_FOUND")
  else if eligible = [] then
    (.notReady, some ((current.findSome? (·.reasonCode)).getD "CERTIFICATE_NOT_FOUND"))
  else if desired.isSome then
    match selected with
    | none =>
      (.notReady, some ((desiredCurrent.bind (·.reasonCode)).getD "CERTIFICATE_NOT_FOUND"))
    | some _ =>
      match selectionState with
      | .ready => (.activeReady, none)
      | .pendingLocalApply => (.selectedPendingApply, none)
      | _ => (.notReady, some "CERTIFICATE_NOT_FOUND")
  else if 1 < eligible.length then
    (.selectionRequired, some "CERTIFICATE_SELECTION_REQUIRED")
  else (.discoveredReady, none)

/-- The rows that are ready. -/
def eligibleRows (current : List Observation) : List Observation :=
  current.filter (·.readinessState = .ready)

/-- The row of the desired certificate. -/
def desiredRow (current : List Observation) (desired : Option String) : Option Observation :=
  desired.bind fun desired => current.find? (·.thumbprint = desired)

/-- The row of the desired certificate where it is ready, and the only ready one where no
certificate is desired. -/
def selectedRow (current : List Observation) (desired : Option String) : Option Observation :=
  match (desiredRow current desired).filter (·.readinessState = .ready) with
  | some row => some row
  | none =>
    if desired = none ∧ (eligibleRows current).length = 1 then (eligibleRows current).head?
    else none

/-- `certificate_status` of a primary binding, from the rows of the current thumbprints. -/
def World.statusOf (w : World) (current : List Observation) : CertificateStatus :=
  let eligible := eligibleRows current
  let conn := w.connection?
  let desired := conn.bind (·.desired)
  let desiredCurrent := desiredRow current desired
  let selected := selectedRow current desired
  let selectionState := (conn.map (·.certificateSelectionState)).getD .none
  let (status, reasonCode) :=
    classify current eligible desired desiredCurrent selected selectionState
  { status
    reasonCode
    observation := selected.or desiredCurrent
    candidates := current
    eligibleCount := eligible.length
    selectionState
    desiredCertificateThumbprint := conn.bind (·.desiredCertificateRef)
    cryptoproAvailable := w.capabilities.cryptoproAvailable.getD false
    discoveryObservedAt := w.capabilities.certificateDiscoveryObservedAt }

/-- The answer without a primary binding. -/
def agentOffline : CertificateStatus where
  status := .notReady
  reasonCode := some "AGENT_OFFLINE"
  observation := none
  candidates := []
  eligibleCount := 0
  selectionState := .none
  desiredCertificateThumbprint := none
  cryptoproAvailable := false
  discoveryObservedAt := none

/-- `certificate_status`. -/
def certificateStatus (w : World) (o : Descending Observation.observedAt) : CertificateStatus :=
  if w.online then w.statusOf (w.currentRows o) else agentOffline

/-! ## Runs -/

/-- What other transactions change: the state of the binding, the connections and the checks. -/
structure Settings where
  active : Bool
  isPrimary : Bool
  connections : Table Connection.id
  checks : Table HealthCheck.id

/-- A call, with the order its queries get. -/
inductive Call where
  | health (result : HealthResult)
  | inventory (order : Descending Observation.observedAt) (report : InventoryReport)
  | select (order : Descending Observation.observedAt) (connectionId thumbprint : String)
  | settings (settings : Settings)

/-- One call. -/
def step (p : Platform) (w : World) : Call → Except PyError World
  | .health result => applyAgentHealthResult p w result
  | .inventory order report => (recordCertificateInventory p w order report).map Prod.fst
  | .select order connectionId thumbprint => selectCertificate w order connectionId thumbprint
  | .settings settings => .ok { w with
      active := settings.active
      isPrimary := settings.isPrimary
      connections := settings.connections
      checks := settings.checks }

/-- A binding as it is enrolled. -/
def World.enrolled (settings : Settings) : World where
  active := settings.active
  isPrimary := settings.isPrimary
  capabilities := {}
  observations := .empty
  connections := settings.connections
  checks := settings.checks

end Wbcz.Certificates

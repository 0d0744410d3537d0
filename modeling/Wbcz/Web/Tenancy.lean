import Wbcz.Control.Checks
import Wbcz.WindowsAgent.Broker
import Wbcz.Web.WriteStore

/-!
# Tenants, agents and their credentials

Who a request of an agent works for: the tenant scope of a database session (`tenant.py`),
the bindings of agents to participants (`agent_bindings.py`) and the authorization of a
machine token (`AgentOrchestrationBroker._authorize_agent`). None of it changes while a
result is delivered, but for the time stamps of a binding, which are left out.
-/

namespace Wbcz.Web

open Control

/-- The states of a binding. -/
inductive BindingState where
  | pending
  | active
  | disabled
  | archived
  deriving DecidableEq, Repr

/-- A row of `agent_bindings`. -/
structure AgentBindingRecord where
  id : String
  organisationId : String
  participantId : String
  credentialHash : String
  state : BindingState
  isPrimary : Bool
  /-- `protocol_compatibility_state == "COMPATIBLE"` -/
  compatible : Bool
  supportedJobTypes : List String
  deriving DecidableEq, Repr

/-- A row of `participants`. -/
structure ParticipantRecord where
  id : String
  organisationId : String
  inn : String
  isActive : Bool
  /-- `verification_state == "VERIFIED"` -/
  verified : Bool
  deriving DecidableEq, Repr

/-- The settings of the agent boundary, within the bounds that `WebConfig` checks. -/
structure WebConfig where
  agentMachineToken : Option String
  agentLegacyBootstrapEnabled : Bool
  ownInn : String
  agentPollInitialSeconds : ℕ
  agentPollMaxSeconds : ℕ
  agentPollMaxAttempts : ℕ
  one_le_agentPollMaxAttempts : 1 ≤ agentPollMaxAttempts
  agentPollMaxAttempts_le : agentPollMaxAttempts ≤ 1000

/-- An imported row with the tenant it belongs to. -/
structure TenantEvent extends EventRecord where
  organisationId : Option String
  participantId : Option String

/-- A row of `imports` with the event ids of its rows, in order. -/
structure ImportRecord where
  id : String
  organisationId : Option String
  participantId : Option String
  eventIds : List String

/-- A row of `control_runs`. -/
structure ControlRun where
  id : String
  importId : String

/-- The tables that the delivery of a result reads only. -/
structure Directory where
  config : WebConfig
  /-- `db.get(BootstrapRecord, 1) is not None` -/
  bootstrapped : Bool
  bindings : List AgentBindingRecord
  /-- the ids of the active organisations -/
  activeOrganisations : List String
  participants : List ParticipantRecord
  events : List TenantEvent
  imports : List ImportRecord
  runs : List ControlRun

/-- Who a machine token belongs to. -/
structure AgentPrincipal where
  bindingId : Option String
  organisationId : Option String
  participantId : Option String
  participantInn : String
  deriving DecidableEq, Repr

/-- `credential_hash`. -/
def credentialHash (sha256 : List UInt8 → String) (raw : String) : Except PyError String :=
  if raw.length < 43 then .error ⟨.agentAuthError, "invalid agent credentials"⟩
  else .ok (sha256 (Text.utf8 ("m14-agent-credential:v1:" ++ raw)))

namespace Directory

variable (sha256 : List UInt8 → String) (dir : Directory)

/-- An active and verified participant. -/
def usable (participant : ParticipantRecord) : Bool := participant.isActive && participant.verified

/-- `bind_tenant_scope` without a user. -/
def bindTenantScope (organisationId participantId : String) : Except PyError TenantContext :=
  if organisationId = "" ∨ participantId = "" then
    .error ⟨.permissionError, "tenant-owned object has no tenant scope"⟩
  else
    match dir.participants.find? fun participant =>
        participant.id = participantId && participant.organisationId = organisationId &&
          usable participant with
    | none => .error ⟨.permissionError, "tenant scope is inactive or invalid"⟩
    | some participant =>
      if organisationId ∉ dir.activeOrganisations then
        .error ⟨.permissionError, "tenant scope is inactive or invalid"⟩
      else .ok ⟨none, organisationId, participantId, participant.inn⟩

/-- `AgentBindingService.authenticate`: the agent of a binding, with its tenant. -/
def authenticate (token : String) : Except PyError (AgentPrincipal × TenantContext) := do
  let digest ← credentialHash sha256 token
  match dir.bindings.find? fun binding =>
      binding.credentialHash = digest && binding.state = .active && binding.compatible with
  | none => .error ⟨.agentAuthError, "invalid agent credentials"⟩
  | some binding =>
    if ¬ dir.participants.any fun participant =>
        participant.id = binding.participantId &&
          participant.organisationId = binding.organisationId && usable participant then
      .error ⟨.agentAuthError, "invalid agent credentials"⟩
    else do
      let scope ← dir.bindTenantScope binding.organisationId binding.participantId
      .ok (⟨some binding.id, some binding.organisationId, some binding.participantId,
        scope.participantInn⟩, scope)

/-- The tenant owns a row with these columns, or there is no tenant to ask for. -/
def sees (scope : Option TenantContext) (organisationId participantId : Option String) : Bool :=
  match scope with
  | some tenant =>
    organisationId = some tenant.organisationId && participantId = some tenant.participantId
  | none => true

/-- `db.get(ControlRun, run_id)`. -/
def run (runId : String) : Option ControlRun := dir.runs.find? fun run => run.id = runId

end Directory

end Wbcz.Web

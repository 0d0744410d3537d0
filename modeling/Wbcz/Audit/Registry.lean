import Mathlib.Data.List.Basic

/-!
# The registry of audit events

The vocabulary of `wbcz_web/services/audit_history.py`: the enumerations of the audit rows
and the table of the event types that may be appended, with the category and the action each
stands for and who may append it about what. The columns `criticality` and `audit_required`
of the table, which nothing reads, are left out.
-/

namespace Wbcz.Audit

/-- `AuditCategory`. -/
inductive AuditCategory where
  | security
  | authorization
  | tenantAdmin
  | integration
  | imported
  | control
  | cisRead
  | referenceRead
  | document
  | turnover
  | aggregation
  | edo
  | suz
  | wb
  | ozon
  | report
  | agent
  | printing
  | system
  deriving DecidableEq, Repr

/-- The text of the column. -/
def AuditCategory.value : AuditCategory → String
  | .security => "SECURITY"
  | .authorization => "AUTHORIZATION"
  | .tenantAdmin => "TENANT_ADMIN"
  | .integration => "INTEGRATION"
  | .imported => "IMPORT"
  | .control => "CONTROL"
  | .cisRead => "CIS_READ"
  | .referenceRead => "REFERENCE_READ"
  | .document => "DOCUMENT"
  | .turnover => "TURNOVER"
  | .aggregation => "AGGREGATION"
  | .edo => "EDO"
  | .suz => "SUZ"
  | .wb => "WB"
  | .ozon => "OZON"
  | .report => "REPORT"
  | .agent => "AGENT"
  | .printing => "PRINTING"
  | .system => "SYSTEM"

/-- `ActorKind`. -/
inductive ActorKind where
  | user
  | system
  | worker
  | windowsAgent
  | cliAdmin
  | bootstrap
  | remoteSystem
  deriving DecidableEq, Repr

/-- The text of the column. -/
def ActorKind.value : ActorKind → String
  | .user => "USER"
  | .system => "SYSTEM"
  | .worker => "WORKER"
  | .windowsAgent => "WINDOWS_AGENT"
  | .cliAdmin => "CLI_ADMIN"
  | .bootstrap => "BOOTSTRAP"
  | .remoteSystem => "REMOTE_SYSTEM"

/-- `SubjectType`. -/
inductive SubjectType where
  | user
  | session
  | membership
  | invitation
  | organisation
  | participant
  | imported
  | event
  | controlRun
  | agentJob
  | writeOperation
  | documentOperation
  | turnoverOperation
  | aggregationOperation
  | edoObject
  | suzConnection
  | suzOrder
  | wbConnection
  | wbObject
  | ozonConnection
  | ozonObject
  | reportJob
  | reportArtifact
  | integrationConnection
  | markingIdentifier
  | printTemplate
  | printJob
  | printEvent
  | auditChain
  | auditCheckpoint
  deriving DecidableEq, Repr

/-- The text of the column. -/
def SubjectType.value : SubjectType → String
  | .user => "USER"
  | .session => "SESSION"
  | .membership => "MEMBERSHIP"
  | .invitation => "INVITATION"
  | .organisation => "ORGANISATION"
  | .participant => "PARTICIPANT"
  | .imported => "IMPORT"
  | .event => "EVENT"
  | .controlRun => "CONTROL_RUN"
  | .agentJob => "AGENT_JOB"
  | .writeOperation => "WRITE_OPERATION"
  | .documentOperation => "DOCUMENT_OPERATION"
  | .turnoverOperation => "TURNOVER_OPERATION"
  | .aggregationOperation => "AGGREGATION_OPERATION"
  | .edoObject => "EDO_OBJECT"
  | .suzConnection => "SUZ_CONNECTION"
  | .suzOrder => "SUZ_ORDER"
  | .wbConnection => "WB_CONNECTION"
  | .wbObject => "WB_OBJECT"
  | .ozonConnection => "OZON_CONNECTION"
  | .ozonObject => "OZON_OBJECT"
  | .reportJob => "REPORT_JOB"
  | .reportArtifact => "REPORT_ARTIFACT"
  | .integrationConnection => "INTEGRATION_CONNECTION"
  | .markingIdentifier => "MARKING_IDENTIFIER"
  | .printTemplate => "PRINT_TEMPLATE"
  | .printJob => "PRINT_JOB"
  | .printEvent => "PRINT_EVENT"
  | .auditChain => "AUDIT_CHAIN"
  | .auditCheckpoint => "AUDIT_CHECKPOINT"

/-- `AuditOutcome`. -/
inductive AuditOutcome where
  | success
  | denied
  | failed
  | pending
  | conflict
  | cancelled
  | ambiguous
  deriving DecidableEq, Repr

/-- The text of the column. -/
def AuditOutcome.value : AuditOutcome → String
  | .success => "SUCCESS"
  | .denied => "DENIED"
  | .failed => "FAILED"
  | .pending => "PENDING"
  | .conflict => "CONFLICT"
  | .cancelled => "CANCELLED"
  | .ambiguous => "AMBIGUOUS"

/-- `AuthorizationDecision`. -/
inductive AuthorizationDecision where
  | allow
  | deny
  | notApplicable
  deriving DecidableEq, Repr

/-- The text of the column. -/
def AuthorizationDecision.value : AuthorizationDecision → String
  | .allow => "ALLOW"
  | .deny => "DENY"
  | .notApplicable => "NOT_APPLICABLE"

/-- `TenantRequirement`. -/
inductive TenantRequirement where
  | system
  | organisation
  | participant
  | systemOrOrganisation
  deriving DecidableEq, Repr

/-- `RegisteredAuditEvent`. -/
structure RegisteredAuditEvent where
  eventType : String
  category : AuditCategory
  action : String
  allowedActorKinds : List ActorKind
  allowedSubjectTypes : List SubjectType
  tenantRequirement : TenantRequirement
  permissionSnapshotRequired : Bool
  allowedMetadataKeys : List String
  requiredMetadataKeys : List String
  deriving DecidableEq

/-- `_COMMON_METADATA`. -/
def commonMetadata : List String :=
  ["reason", "count", "role", "old_role", "new_role", "identity_bound", "organisation_id",
    "participant_id", "legacy_sessions_revoked", "sensitivity_class", "report_job_id",
    "artifact_id", "report_type", "format", "schema_version", "row_count", "byte_size",
    "artifact_sha256", "request_fingerprint_sha256", "state", "from_state", "to_state",
    "operation_kind", "document_type", "document_sha256", "request_sha256",
    "idempotency_fingerprint", "precondition_evidence_sha256", "postcondition_evidence_sha256",
    "remote_document_id", "http_status", "remote_status", "remote_code", "body_sha256",
    "ambiguity", "manual_review_reason", "reconciliation_state", "job_type", "purpose",
    "delivery_count", "payload_sha256", "result_sha256", "machine_principal_hmac",
    "checkpoint_id", "checkpoint_hash", "through_sequence", "checked_from", "checked_to",
    "template_id", "template_version_id", "layout_sha256", "stored_km_item_id",
    "printer_profile_fingerprint", "original_print_event_id", "print_mode", "error_code",
    "checked_count", "verification_status", "first_invalid_sequence", "failure_reason",
    "semantics", "manifest", "cutoff", "source", "error_code", "error_class", "redacted_message",
    "retry_classification", "evidence_sha256", "changed_fields", "credential_present",
    "credential_changed", "safe_config_fingerprint", "client_ip_hmac", "user_agent_hmac",
    "filter_summary", "limit", "returned_count", "query_kind", "remote_result_part_id",
    "publication_key_present", "artifact_role", "origin", "attempt_count", "blind_retry",
    "lease_recovered", "result_outcome", "action", "child_set_hash", "relation_delta",
    "request_id", "document_id_present", "member_user_id", "controlled_recovery",
    "participant_verification_state", "integration_type", "connection_type", "connection_id",
    "configuration_status", "runtime_status", "contract_status", "feature_gate_status",
    "check_kind", "overall_status", "component_statuses", "capability_names", "reused",
    "binding_id", "installation_id", "protocol_version", "agent_version", "credential_version",
    "is_primary", "certificate_thumbprint", "certificate_state", "selection_state",
    "expiry_state", "match_state", "provider_capabilities", "rotation_state", "old_version",
    "new_version", "enabled", "blocker_code", "key_fingerprint", "key_version",
    "old_key_version", "print_execution_id", "delivery_reservation_id", "print_job_item_id",
    "context_sha256", "issue_count", "discovery_request_id", "printer_profile_id",
    "capability_hash", "capability_revision", "dpi_x", "dpi_y", "media_width_mm",
    "media_height_mm", "printer_count", "safe_reason_code", "windows_spool_job_id",
    "safe_status", "renderer_version", "decoder_version"]

/-- `_ev`; no event registers a metadata key it requires. -/
def ev (eventType : String) (category : AuditCategory) (action : String)
    (actors : List ActorKind) (subjects : List SubjectType) (tenant : TenantRequirement)
    (snapshot : Bool) (metadata : List String) : RegisteredAuditEvent where
  eventType := eventType
  category := category
  action := action
  allowedActorKinds := actors
  allowedSubjectTypes := subjects
  tenantRequirement := tenant
  permissionSnapshotRequired := snapshot
  allowedMetadataKeys := commonMetadata ++ metadata
  requiredMetadataKeys := []

/-- `_EVENT_DEFINITIONS`. -/
def eventDefinitions : List RegisteredAuditEvent :=
  [ev "AUDIT_CHAIN_GENESIS" .system "CHAIN_GENESIS" [.system] [.auditChain]
      .systemOrOrganisation false [],
    ev "LEGACY_HISTORY_IMPORTED" .system "LEGACY_HISTORY_IMPORTED" [.system] [.auditChain]
      .systemOrOrganisation false ["manifest", "semantics", "cutoff"],
    ev "CHECKPOINT_CREATED" .system "CHECKPOINT_CREATED" [.system] [.auditCheckpoint]
      .systemOrOrganisation false ["checkpoint_id", "checkpoint_hash", "through_sequence"],
    ev "CHAIN_VERIFICATION_FAILED" .system "CHAIN_VERIFICATION_FAILED" [.system, .cliAdmin]
      [.auditChain] .system false ["first_invalid_sequence", "failure_reason",
      "verification_status"],
    ev "AUDIT_QUERY_EXECUTED" .authorization "AUDIT_QUERY" [.user] [.auditChain] .organisation
      true ["filter_summary", "limit", "returned_count", "query_kind"],
    ev "AUTHORIZATION_DENIED" .authorization "ACCESS_DENIED" [.user] [.auditChain]
      .systemOrOrganisation true ["reason", "query_kind"],
    ev "LOGIN_SUCCESS" .security "LOGIN" [.user] [.session] .system false [],
    ev "LOGIN_FAILED" .security "LOGIN" [.system, .user] [.user, .session] .system false [],
    ev "LOGIN_THROTTLED" .security "LOGIN_THROTTLE" [.system, .user] [.user, .session] .system
      false [],
    ev "LOGOUT" .security "LOGOUT" [.user] [.session] .system false [],
    ev "LOGOUT_ALL" .security "LOGOUT_ALL" [.user, .cliAdmin] [.user] .system false [],
    ev "SESSION_REVOKED" .security "SESSION_REVOKED" [.user, .cliAdmin, .system] [.session,
      .user] .system false [],
    ev "PASSWORD_CHANGED" .security "PASSWORD_CHANGED" [.user, .cliAdmin] [.user] .system false
      [],
    ev "PASSWORD_AUTHENTICATOR_UNLOCKED" .security "PASSWORD_AUTHENTICATOR_UNLOCKED" [.cliAdmin,
      .user] [.user] .system false [],
    ev "USER_DISABLED" .security "USER_DISABLED" [.cliAdmin] [.user] .system false [],
    ev "SCOPE_CHANGED" .tenantAdmin "SCOPE_CHANGED" [.user] [.organisation] .organisation true
      [],
    ev "MEMBERSHIP_ADDED" .tenantAdmin "MEMBERSHIP_ADDED" [.user, .bootstrap, .cliAdmin]
      [.membership] .organisation true [],
    ev "MEMBERSHIP_REMOVED" .tenantAdmin "MEMBERSHIP_REMOVED" [.user, .cliAdmin] [.membership]
      .organisation true [],
    ev "ROLE_CHANGED" .tenantAdmin "ROLE_CHANGED" [.user, .cliAdmin] [.membership] .organisation
      true [],
    ev "INVITATION_CREATED" .tenantAdmin "INVITATION_CREATED" [.user] [.invitation]
      .organisation true [],
    ev "INVITATION_ACCEPTED" .tenantAdmin "INVITATION_ACCEPTED" [.user] [.invitation,
      .membership] .organisation true [],
    ev "INVITATION_REVOKED" .tenantAdmin "INVITATION_REVOKED" [.user] [.invitation]
      .organisation true [],
    ev "BOOTSTRAP_COMPLETED" .tenantAdmin "BOOTSTRAP_COMPLETED" [.bootstrap] [.organisation]
      .organisation true [],
    ev "TURNOVER_INTENT_CREATED" .turnover "INTENT_CREATED" [.user, .worker]
      [.turnoverOperation, .writeOperation] .participant true [],
    ev "TURNOVER_REMOTE_RESULT" .turnover "REMOTE_RESULT" [.worker, .windowsAgent,
      .remoteSystem] [.turnoverOperation, .writeOperation] .participant false [],
    ev "TURNOVER_RECONCILED" .turnover "RECONCILED" [.worker, .user] [.turnoverOperation,
      .writeOperation] .participant false [],
    ev "AGGREGATION_INTENT_CREATED" .aggregation "INTENT_CREATED" [.user, .worker]
      [.aggregationOperation] .participant true [],
    ev "AGGREGATION_REMOTE_RESULT" .aggregation "REMOTE_RESULT" [.worker, .windowsAgent,
      .remoteSystem] [.aggregationOperation] .participant false [],
    ev "AGGREGATION_RECONCILED" .aggregation "RECONCILED" [.worker, .user]
      [.aggregationOperation] .participant false [],
    ev "REPORT_REQUESTED" .report "REQUESTED" [.user, .worker] [.reportJob] .participant true [],
    ev "REPORT_GENERATION_STARTED" .report "GENERATION_STARTED" [.worker] [.reportJob]
      .participant false [],
    ev "REPORT_GENERATION_COMPLETED" .report "GENERATION_COMPLETED" [.worker] [.reportJob]
      .participant false [],
    ev "REPORT_GENERATION_FAILED" .report "GENERATION_FAILED" [.worker] [.reportJob]
      .participant false [],
    ev "REPORT_ARTIFACT_FINALIZED" .report "ARTIFACT_FINALIZED" [.worker, .windowsAgent]
      [.reportArtifact] .participant false [],
    ev "REPORT_DOWNLOAD_AUTHORIZED" .report "DOWNLOAD_AUTHORIZED" [.user] [.reportArtifact]
      .participant true [],
    ev "REPORT_DOWNLOAD_DENIED" .report "DOWNLOAD_DENIED" [.user, .system] [.reportArtifact,
      .organisation] .organisation true [],
    ev "REPORT_DOWNLOAD_COMPLETED" .report "DOWNLOAD_COMPLETED" [.user] [.reportArtifact]
      .participant true [],
    ev "REPORT_DOWNLOAD_FAILED" .report "DOWNLOAD_FAILED" [.user, .system] [.reportArtifact]
      .organisation true [],
    ev "REPORT_ARTIFACT_INTEGRITY_FAILED" .report "ARTIFACT_INTEGRITY_FAILED" [.user, .worker,
      .system] [.reportArtifact, .organisation] .organisation true [],
    ev "REPORT_ARTIFACT_DELETED" .report "ARTIFACT_DELETED" [.worker, .user] [.reportArtifact]
      .participant false [],
    ev "REPORT_ARTIFACT_EXPIRED" .report "ARTIFACT_EXPIRED" [.worker, .system] [.reportArtifact]
      .participant false [],
    ev "AGENT_JOB_CREATED" .agent "JOB_CREATED" [.user, .worker, .system] [.agentJob]
      .systemOrOrganisation false [],
    ev "AGENT_JOB_CLAIMED" .agent "JOB_CLAIMED" [.windowsAgent, .worker] [.agentJob]
      .systemOrOrganisation false [],
    ev "AGENT_JOB_COMPLETED" .agent "JOB_COMPLETED" [.windowsAgent, .worker] [.agentJob]
      .systemOrOrganisation false [],
    ev "AGENT_JOB_FAILED" .agent "JOB_FAILED" [.windowsAgent, .worker] [.agentJob]
      .systemOrOrganisation false [],
    ev "AGENT_RESULT_AMBIGUOUS" .agent "RESULT_AMBIGUOUS" [.windowsAgent, .worker] [.agentJob]
      .systemOrOrganisation false [],
    ev "AGENT_REPLAY_CONVERGED" .agent "REPLAY_CONVERGED" [.windowsAgent, .worker] [.agentJob]
      .systemOrOrganisation false [],
    ev "AGENT_ARTIFACT_UPLOADED" .agent "ARTIFACT_UPLOADED" [.windowsAgent] [.agentJob,
      .reportArtifact] .participant false [],
    ev "AGENT_DOCUMENT_SUBMITTED" .agent "DOCUMENT_SUBMITTED" [.windowsAgent] [.agentJob,
      .writeOperation] .participant false [],
    ev "CONNECTION_CREATED" .integration "CONNECTION_CREATED" [.user, .cliAdmin]
      [.integrationConnection, .wbConnection, .ozonConnection, .suzConnection] .participant true
      ["integration_type", "connection_type", "connection_id", "enabled"],
    ev "CONNECTION_UPDATED" .integration "CONNECTION_UPDATED" [.user, .cliAdmin]
      [.integrationConnection, .wbConnection, .ozonConnection, .suzConnection] .participant true
      ["integration_type", "connection_type", "connection_id", "changed_fields"],
    ev "CONNECTION_ENABLED" .integration "CONNECTION_ENABLED" [.user, .cliAdmin]
      [.integrationConnection, .wbConnection, .ozonConnection, .suzConnection] .participant true
      ["integration_type", "connection_type", "connection_id"],
    ev "CONNECTION_DISABLED" .integration "CONNECTION_DISABLED" [.user, .cliAdmin]
      [.integrationConnection, .wbConnection, .ozonConnection, .suzConnection] .participant true
      ["integration_type", "connection_type", "connection_id"],
    ev "CONNECTION_ARCHIVED" .integration "CONNECTION_ARCHIVED" [.user, .cliAdmin]
      [.integrationConnection, .wbConnection, .ozonConnection, .suzConnection] .participant true
      ["integration_type", "connection_type", "connection_id"],
    ev "SECRET_SET" .integration "SECRET_SET" [.user, .cliAdmin] [.wbConnection,
      .ozonConnection] .participant true ["integration_type", "connection_id", "new_version",
      "rotation_state"],
    ev "SECRET_ROTATED" .integration "SECRET_ROTATED" [.user, .cliAdmin] [.wbConnection,
      .ozonConnection] .participant true ["integration_type", "connection_id", "old_version",
      "new_version", "rotation_state"],
    ev "SECRET_REVOKED" .integration "SECRET_REVOKED" [.user, .cliAdmin] [.wbConnection,
      .ozonConnection] .participant true ["integration_type", "connection_id", "old_version"],
    ev "CONNECTION_CHECK_STARTED" .integration "CONNECTION_CHECK_STARTED" [.user, .worker]
      [.integrationConnection, .wbConnection, .ozonConnection, .suzConnection] .participant true
      ["integration_type", "connection_id", "check_kind", "reused"],
    ev "CONNECTION_CHECK_COMPLETED" .integration "CONNECTION_CHECK_COMPLETED" [.user, .worker,
      .windowsAgent] [.integrationConnection, .wbConnection, .ozonConnection, .suzConnection]
      .participant false ["integration_type", "connection_id", "check_kind", "overall_status",
      "component_statuses", "capability_names", "evidence_sha256"],
    ev "CONNECTION_CHECK_FAILED" .integration "CONNECTION_CHECK_FAILED" [.user, .worker,
      .windowsAgent] [.integrationConnection, .wbConnection, .ozonConnection, .suzConnection]
      .participant false ["integration_type", "connection_id", "check_kind", "error_code",
      "redacted_message"],
    ev "CERTIFICATE_SELECTION_CHANGED" .integration "CERTIFICATE_SELECTION_CHANGED" [.user,
      .cliAdmin, .windowsAgent] [.integrationConnection] .participant true ["connection_id",
      "certificate_thumbprint", "selection_state"],
    ev "AGENT_BINDING_CREATED" .integration "AGENT_BINDING_CREATED" [.user, .cliAdmin]
      [.integrationConnection, .participant] .participant true ["binding_id", "installation_id",
      "protocol_version", "credential_version", "is_primary"],
    ev "AGENT_BINDING_CHANGED" .integration "AGENT_BINDING_CHANGED" [.user, .cliAdmin,
      .windowsAgent] [.integrationConnection, .participant] .participant true ["binding_id",
      "changed_fields", "credential_version", "is_primary", "state"],
    ev "AGENT_BINDING_DISABLED" .integration "AGENT_BINDING_DISABLED" [.user, .cliAdmin]
      [.integrationConnection, .participant] .participant true ["binding_id", "state"],
    ev "PRINT_TEMPLATE_CREATED" .printing "PRINT_TEMPLATE_CREATED" [.user] [.printTemplate]
      .participant true ["template_id", "template_version_id", "layout_sha256"],
    ev "PRINT_TEMPLATE_VERSION_CREATED" .printing "PRINT_TEMPLATE_VERSION_CREATED" [.user]
      [.printTemplate] .participant true ["template_id", "template_version_id", "layout_sha256"],
    ev "PRINT_TEMPLATE_ARCHIVED" .printing "PRINT_TEMPLATE_ARCHIVED" [.user] [.printTemplate]
      .participant true ["template_id", "template_version_id"],
    ev "PRINT_JOB_REQUESTED" .printing "PRINT_JOB_REQUESTED" [.user] [.printJob] .participant
      true ["template_version_id", "count", "printer_profile_fingerprint", "print_mode",
      "payload_sha256"],
    ev "PRINT_JOB_COMPLETED" .printing "PRINT_JOB_COMPLETED" [.windowsAgent, .worker]
      [.printJob] .participant false ["template_version_id", "count",
      "printer_profile_fingerprint", "print_mode", "payload_sha256"],
    ev "PRINT_JOB_FAILED" .printing "PRINT_JOB_FAILED" [.windowsAgent, .worker, .system]
      [.printJob] .participant false ["template_version_id", "count",
      "printer_profile_fingerprint", "print_mode", "payload_sha256", "error_code"],
    ev "REPRINT_REQUESTED" .printing "REPRINT_REQUESTED" [.user] [.printJob] .participant true
      ["template_version_id", "count", "printer_profile_fingerprint", "original_print_event_id",
      "print_mode", "payload_sha256"],
    ev "REPRINT_COMPLETED" .printing "REPRINT_COMPLETED" [.windowsAgent, .worker] [.printJob]
      .participant false ["template_version_id", "count", "printer_profile_fingerprint",
      "original_print_event_id", "print_mode", "payload_sha256"],
    ev "REPRINT_FAILED" .printing "REPRINT_FAILED" [.windowsAgent, .worker, .system] [.printJob]
      .participant false ["template_version_id", "count", "printer_profile_fingerprint",
      "original_print_event_id", "print_mode", "payload_sha256", "error_code"],
    ev "PRINT_AGENT_KEY_REGISTERED" .printing "AGENT_KEY_REGISTERED" [.windowsAgent]
      [.integrationConnection] .participant false ["binding_id", "key_fingerprint",
      "key_version", "rotation_state"],
    ev "PRINT_AGENT_KEY_ROTATED" .printing "AGENT_KEY_ROTATED" [.windowsAgent]
      [.integrationConnection] .participant false ["binding_id", "key_fingerprint",
      "key_version", "old_key_version", "rotation_state"],
    ev "PRINT_AGENT_KEY_REVOKED" .printing "AGENT_KEY_REVOKED" [.windowsAgent, .user, .system]
      [.integrationConnection] .participant false ["binding_id", "key_fingerprint",
      "key_version", "error_code"],
    ev "PRINT_PAYLOAD_AUTHORIZED" .printing "PAYLOAD_AUTHORIZED" [.user] [.printJob]
      .participant true ["print_execution_id", "delivery_reservation_id", "print_job_item_id",
      "stored_km_item_id", "binding_id", "key_fingerprint", "key_version", "payload_sha256",
      "layout_sha256", "attempt_count"],
    ev "PRINT_PAYLOAD_ISSUED" .printing "PAYLOAD_ISSUED" [.windowsAgent] [.printJob]
      .participant false ["print_execution_id", "delivery_reservation_id", "print_job_item_id",
      "binding_id", "key_fingerprint", "key_version", "payload_sha256", "context_sha256",
      "issue_count"],
    ev "PRINT_PAYLOAD_DELIVERED" .printing "PAYLOAD_DELIVERED" [.windowsAgent] [.printJob]
      .participant false ["print_execution_id", "delivery_reservation_id", "print_job_item_id",
      "binding_id", "payload_sha256", "context_sha256", "issue_count"],
    ev "PRINTER_DISCOVERY_REQUESTED" .printing "PRINTER_DISCOVERY_REQUESTED" [.user]
      [.integrationConnection] .participant true ["binding_id", "state", "discovery_request_id"],
    ev "PRINTER_DISCOVERY_COMPLETED" .printing "PRINTER_DISCOVERY_COMPLETED" [.windowsAgent]
      [.integrationConnection] .participant false ["binding_id", "state",
      "discovery_request_id", "printer_count", "safe_reason_code"],
    ev "PRINTER_PROFILE_CREATED" .printing "PRINTER_PROFILE_CREATED" [.user]
      [.integrationConnection] .participant true ["printer_profile_id", "binding_id", "state",
      "capability_hash", "dpi_x", "dpi_y", "media_width_mm", "media_height_mm",
      "capability_revision"],
    ev "PRINTER_PROFILE_UPDATED" .printing "PRINTER_PROFILE_UPDATED" [.user]
      [.integrationConnection] .participant true ["printer_profile_id", "binding_id", "state",
      "capability_hash", "dpi_x", "dpi_y", "media_width_mm", "media_height_mm",
      "capability_revision"],
    ev "PRINTER_PROFILE_DISABLED" .printing "PRINTER_PROFILE_DISABLED" [.user]
      [.integrationConnection] .participant true ["printer_profile_id", "binding_id", "state",
      "capability_revision"],
    ev "PRINTER_PROFILE_STALE" .printing "PRINTER_PROFILE_STALE" [.windowsAgent, .system]
      [.integrationConnection] .participant false ["printer_profile_id", "binding_id", "state",
      "capability_hash", "safe_reason_code"],
    ev "PRINT_RENDER_VERIFIED" .printing "RENDER_VERIFIED" [.windowsAgent] [.printJob]
      .participant false ["print_execution_id", "print_job_item_id", "binding_id",
      "printer_profile_id", "printer_profile_fingerprint", "payload_sha256", "layout_sha256",
      "renderer_version", "decoder_version", "attempt_count"],
    ev "PRINT_SPOOL_SUBMITTED" .printing "SPOOL_SUBMITTED" [.windowsAgent] [.printJob]
      .participant false ["print_execution_id", "print_job_item_id", "binding_id",
      "printer_profile_id", "printer_profile_fingerprint", "payload_sha256", "layout_sha256",
      "attempt_count", "safe_status"],
    ev "PRINT_SPOOL_ACCEPTED" .printing "SPOOL_ACCEPTED" [.windowsAgent] [.printJob]
      .participant false ["print_execution_id", "print_job_item_id", "binding_id",
      "printer_profile_id", "printer_profile_fingerprint", "payload_sha256", "layout_sha256",
      "windows_spool_job_id", "safe_status", "attempt_count"],
    ev "PRINT_EXECUTION_FAILED" .printing "EXECUTION_FAILED" [.windowsAgent] [.printJob]
      .participant false ["print_execution_id", "print_job_item_id", "binding_id",
      "printer_profile_id", "printer_profile_fingerprint", "payload_sha256", "layout_sha256",
      "windows_spool_job_id", "safe_status", "error_code", "attempt_count"],
    ev "PRINT_EXECUTION_UNKNOWN" .printing "EXECUTION_UNKNOWN" [.windowsAgent] [.printJob]
      .participant false ["print_execution_id", "print_job_item_id", "binding_id",
      "printer_profile_id", "printer_profile_fingerprint", "payload_sha256", "layout_sha256",
      "windows_spool_job_id", "safe_status", "error_code", "attempt_count"]]

/-- `AUDIT_EVENT_REGISTRY.get(event_type)`. -/
@[irreducible] def auditEventRegistry (eventType : String) : Option RegisteredAuditEvent :=
  eventDefinitions.find? fun definition => definition.eventType = eventType

theorem eventType_of_registered {eventType : String} {definition : RegisteredAuditEvent}
    (h : auditEventRegistry eventType = some definition) : definition.eventType = eventType := by
  rw [auditEventRegistry] at h
  simpa using List.find?_some h

end Wbcz.Audit

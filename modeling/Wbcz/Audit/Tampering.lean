import Wbcz.Audit.Chain

/-!
# What a verification says about tampered rows

The rows of a chain may be edited, deleted, inserted, reordered or cut off in the database
while the head of the chain stays as it is. When the verifier still calls the chain valid, the
rows agree with the events that were appended, but for what the hash of a row does not cover:
the category and the action, which it takes from the registry, the spelling of the identifier
of an event and of the columns of type `JSON`, and, when the verification starts in the middle,
the end of the chain.
-/

namespace Wbcz.Audit

/-- Two rows agree in every field of the canonical payload; columns of type `JSON` agree up to
the order of fields. -/
structure SamePayload (event row : AuditEventRecord) : Prop where
  chainId : row.chainId = event.chainId
  sequence : row.sequence = event.sequence
  eventId : row.eventId = event.eventId
  occurredAt : row.occurredAt = event.occurredAt
  category : row.category = event.category
  eventType : row.eventType = event.eventType
  action : row.action = event.action
  outcome : row.outcome = event.outcome
  authorizationDecision : row.authorizationDecision = event.authorizationDecision
  tenant : row.tenant = event.tenant
  actorKind : row.actorKind = event.actorKind
  actorUserId : row.actorUserId = event.actorUserId
  actorMembershipId : row.actorMembershipId = event.actorMembershipId
  actorRoleSnapshot : row.actorRoleSnapshot = event.actorRoleSnapshot
  permissions : Jcs.sorted row.permissionSnapshotJson = Jcs.sorted event.permissionSnapshotJson
  subjectType : row.subjectType = event.subjectType
  subjectId : row.subjectId = event.subjectId
  secondarySubjectType : row.secondarySubjectType = event.secondarySubjectType
  secondarySubjectId : row.secondarySubjectId = event.secondarySubjectId
  trace : row.trace = event.trace
  beforeSha256 : row.beforeSha256 = event.beforeSha256
  afterSha256 : row.afterSha256 = event.afterSha256
  evidence : Jcs.sorted row.evidenceHashesJson = Jcs.sorted event.evidenceHashesJson
  metadata : Jcs.sorted row.metadataSanitizedJson = Jcs.sorted event.metadataSanitizedJson
  previousEventHash : row.previousEventHash = event.previousEventHash
  auditFormatVersion : row.auditFormatVersion = event.auditFormatVersion

/-- From a sequence on, every event is stored, and what is stored for it agrees with it. -/
def Agree (chain stored : AuditChain) (fromSequence : Nat) : Prop :=
  ∀ event ∈ chain.events, fromSequence ≤ event.sequence →
    (∃ row ∈ stored.rows, row.sequence = event.sequence) ∧
      ∀ row ∈ stored.rows, row.sequence = event.sequence → SamePayload event row

/-- The end of the chain is in sight: the verification is a full one, or starts behind the
head, or the row the head names is there. -/
def Anchored (stored : AuditChain) (fromSequence : Nat) : Prop :=
  fromSequence = 1 ∨ stored.head.headSequence < fromSequence ∨
    ∃ row ∈ stored.rows, row.sequence = stored.head.headSequence ∧
      row.eventHash = stored.head.headHash

/-- What the hash of a row does not cover is as the service writes it. -/
def Untouched (stored : AuditChain) (fromSequence : Nat) : Prop :=
  ∀ row ∈ stored.rows, fromSequence ≤ row.sequence → row.sequence ≤ stored.head.headSequence →
    Faithful row

/-- The metadata holds no float. -/
def FloatFree (row : AuditEventRecord) : Prop :=
  Jcs.floatFree row.metadataSanitizedJson = true

/-- The digest tells the payloads of appended events from other payloads of stored rows. -/
def CollisionFree (digests : Digests) (events rows : List AuditEventRecord) : Prop :=
  ∀ event ∈ events, ∀ row ∈ rows, ∀ payload payload' bytes bytes',
    rowPayload event = .ok payload → jcsBytes payload = .ok bytes →
    rowPayload row = .ok payload' → jcsBytes payload' = .ok bytes' →
    digests.sha256 bytes = digests.sha256 bytes' → bytes = bytes'

/-! ## What a payload says -/

section Payload

variable {digests : Digests} {event row : AuditEventRecord}

theorem payloadKeys_nodup (s : SemanticPayload) (chainId eventId previous : String)
    (sequence : Nat) (at' : Instant) :
    ((s.payloadFields chainId sequence eventId at' previous).map Prod.fst).Nodup := by
  simp [SemanticPayload.payloadFields, SemanticPayload.contentFields]

/-- The payload of a faithful row is made of its columns. -/
theorem Faithful.rowPayload_eq (hrow : Faithful row)
    (hcanonical : canonicalUuid row.chainId = .ok row.chainId) :
    ∃ definition evidence metadata, auditEventRegistry row.eventType = some definition ∧
      row.category = definition.category.value ∧ row.action = definition.action ∧
      row.evidenceHashesJson = .arr evidence ∧ row.metadataSanitizedJson = .obj metadata ∧
      rowPayload row = .ok (.obj
        ((rowColumns row definition row.permissionSnapshotJson evidence metadata).payloadFields
          row.chainId row.sequence row.eventId row.occurredAt row.previousEventHash)) := by
  obtain ⟨definition, hdefinition, hcategory, haction⟩ := hrow.registered
  obtain ⟨texts, hevidence⟩ := hrow.evidence
  obtain ⟨metadata, hmetadata⟩ := hrow.metadata
  refine ⟨definition, _, metadata, hdefinition, hcategory, haction, hevidence, hmetadata, ?_⟩
  rw [rowPayload, hrow.rowSemantic_eq hdefinition hevidence hmetadata, Fallible.bind_eq_ok]
  refine ⟨_, rfl, ?_⟩
  rw [canonicalPayload, hcanonical, hrow.eventId]
  rfl

/-- Objects of one canonical form that hold traces hold one trace. -/
theorem trace_eq_of_fields {s t : SemanticPayload} {fields others : List (String × Json)}
    (hkeys : (fields.map Prod.fst).Nodup) (hotherKeys : (others.map Prod.fst).Nodup)
    (h : Jcs.canonicalForm (.obj fields) = Jcs.canonicalForm (.obj others))
    (hs : Json.lookup fields "trace" = some (.obj s.traceFields))
    (ht : Json.lookup others "trace" = some (.obj t.traceFields)) : s.trace = t.trace := by
  have htrace := Jcs.canonicalForm_field hkeys hotherKeys h hs ht
  have field : ∀ (key : String) {value other : Option String},
      Json.lookup s.traceFields key = some (.ofText? value) →
      Json.lookup t.traceFields key = some (.ofText? other) → value = other :=
    fun _ _ _ hvalue hother => Jcs.ofText?_injective
      (Jcs.canonicalForm_field (by simp [SemanticPayload.traceFields])
        (by simp [SemanticPayload.traceFields]) htrace hvalue hother)
  rw [TraceContext.mk.injEq]
  exact ⟨field "request_id" rfl rfl, field "correlation_id" rfl rfl, field "causation_id" rfl rfl,
    field "operation_id" rfl rfl, field "agent_job_id" rfl rfl, field "event_key" rfl rfl⟩

/-- Payloads of one canonical form have the same fields; those of type `JSON` have one
canonical form. -/
theorem payload_injective {s t : SemanticPayload} {chainId chainId' eventId eventId' : String}
    {sequence sequence' : Nat} {at' at'' : Instant} {previous previous' : String}
    (h : Jcs.canonicalForm (.obj (s.payloadFields chainId sequence eventId at' previous)) =
      Jcs.canonicalForm (.obj (t.payloadFields chainId' sequence' eventId' at'' previous'))) :
    (sequence = sequence' ∧ eventId = eventId' ∧ at' = at'' ∧ previous = previous') ∧
      { s with
        permissionSnapshot := t.permissionSnapshot
        evidenceHashes := t.evidenceHashes
        metadata := t.metadata } = t ∧
      Jcs.canonicalForm s.permissionSnapshot = Jcs.canonicalForm t.permissionSnapshot ∧
      Jcs.canonicalForm (.arr s.evidenceHashes) = Jcs.canonicalForm (.arr t.evidenceHashes) ∧
      Jcs.canonicalForm (.obj s.metadata) = Jcs.canonicalForm (.obj t.metadata) := by
  have field : ∀ {key : String} {value other : Json},
      Json.lookup (s.payloadFields chainId sequence eventId at' previous) key = some value →
      Json.lookup (t.payloadFields chainId' sequence' eventId' at'' previous') key = some other →
      Jcs.canonicalForm value = Jcs.canonicalForm other :=
    fun hvalue hother => Jcs.canonicalForm_field (payloadKeys_nodup ..) (payloadKeys_nodup ..) h
      hvalue hother
  have nested : ∀ {fields others : List (String × Json)} (key : String),
      Json.lookup (s.payloadFields chainId sequence eventId at' previous) key =
        some (.obj fields) →
      Json.lookup (t.payloadFields chainId' sequence' eventId' at'' previous') key =
        some (.obj others) →
      (fields.map Prod.fst).Nodup → (others.map Prod.fst).Nodup →
      ∀ (inner : String) {value other : Json}, Json.lookup fields inner = some value →
        Json.lookup others inner = some other → Jcs.canonicalForm value = Jcs.canonicalForm other :=
    fun _ hfields hothers hkeys hotherKeys _ _ _ hvalue hother =>
      Jcs.canonicalForm_field hkeys hotherKeys (field hfields hothers) hvalue hother
  have inTenant := @nested s.tenantFields t.tenantFields "tenant" rfl rfl
    (by simp [SemanticPayload.tenantFields]) (by simp [SemanticPayload.tenantFields])
  have inActor := @nested s.actorFields t.actorFields "actor" rfl rfl
    (by simp [SemanticPayload.actorFields]) (by simp [SemanticPayload.actorFields])
  have inSubject := @nested s.subjectFields t.subjectFields "subject" rfl rfl
    (by simp [SemanticPayload.subjectFields]) (by simp [SemanticPayload.subjectFields])
  have inSecondary := @nested s.secondarySubjectFields t.secondarySubjectFields
    "secondary_subject" rfl rfl (by simp [SemanticPayload.secondarySubjectFields])
    (by simp [SemanticPayload.secondarySubjectFields])
  have text : ∀ {a b : String}, Jcs.canonicalForm (.str a) = Jcs.canonicalForm (.str b) → a = b :=
    fun h => Json.str.inj h
  have hsequence : sequence = sequence' :=
    Jcs.toDigits_injective (String.ofList_injective (text (@field "sequence" _ _ rfl rfl)))
  have heventId := text (@field "event_id" _ _ rfl rfl)
  have hat := Instant.rfc3339_injective (text (@field "occurred_at" _ _ rfl rfl))
  have hprevious := text (@field "previous_event_hash" _ _ rfl rfl)
  have hcategory := text (@field "category" _ _ rfl rfl)
  have htype := text (@field "event_type" _ _ rfl rfl)
  have haction := text (@field "action" _ _ rfl rfl)
  have houtcome := text (@field "outcome" _ _ rfl rfl)
  have hdecision := text (@field "authorization_decision" _ _ rfl rfl)
  have hbefore := Jcs.ofText?_injective (@field "before_sha256" _ _ rfl rfl)
  have hafter := Jcs.ofText?_injective (@field "after_sha256" _ _ rfl rfl)
  have htenant : s.tenant = t.tenant := by
    have horganisation := Jcs.ofText?_injective (inTenant "organisation_id" rfl rfl)
    have hparticipant := Jcs.ofText?_injective (inTenant "participant_id" rfl rfl)
    rw [AuditTenantScope.mk.injEq]
    exact ⟨horganisation, hparticipant⟩
  have htrace : s.trace = t.trace :=
    trace_eq_of_fields (payloadKeys_nodup ..) (payloadKeys_nodup ..) h rfl rfl
  have hkind := text (inActor "kind" rfl rfl)
  have huser : s.actorUserId = t.actorUserId := by
    have hmap := Jcs.ofText?_injective (inActor "user_id" rfl rfl)
    refine Option.map_injective ?_ hmap
    exact fun i j hij => Jcs.intText_injective (String.ofList_injective hij)
  have hmembership := Jcs.ofText?_injective (inActor "membership_id" rfl rfl)
  have hrole := Jcs.ofText?_injective (inActor "role" rfl rfl)
  have hpermissions := inActor "permissions" rfl rfl
  have hsubjectType := text (inSubject "type" rfl rfl)
  have hsubjectId := text (inSubject "id" rfl rfl)
  have hsecondaryType := Jcs.ofText?_injective (inSecondary "type" rfl rfl)
  have hsecondaryId := Jcs.ofText?_injective (inSecondary "id" rfl rfl)
  refine ⟨⟨hsequence, heventId, hat, hprevious⟩, ?_, hpermissions,
    @field "evidence_hashes" _ _ rfl rfl, @field "metadata" _ _ rfl rfl⟩
  rw [SemanticPayload.mk.injEq]
  exact ⟨hcategory, htype, haction, houtcome, hdecision, htenant, hkind, huser, hmembership, hrole,
    rfl, hsubjectType, hsubjectId, hsecondaryType, hsecondaryId, htrace, hbefore, hafter, rfl, rfl⟩

/-- A permission snapshot as the service writes it is read off its canonical form. -/
theorem permissions_eq {value other : Json}
    (hvalue : value = .null ∨ ∃ texts : List String, value = .arr (texts.map Json.str))
    (hother : other = .null ∨ ∃ texts : List String, other = .arr (texts.map Json.str))
    (h : Jcs.canonicalForm value = Jcs.canonicalForm other) : value = other := by
  rcases hvalue with rfl | ⟨texts, rfl⟩
  · rcases hother with rfl | ⟨texts, rfl⟩
    · rfl
    · rw [Jcs.canonicalForm_texts] at h
      cases h
  · rcases hother with rfl | ⟨others, rfl⟩
    · rw [Jcs.canonicalForm_texts] at h
      cases h
    · rwa [Jcs.canonicalForm_texts, Jcs.canonicalForm_texts] at h

/-- Faithful rows whose payloads have one canonical form agree. -/
theorem samePayload_of_canonicalForm {chainId : String} {payload payload' : Json}
    (hevent : Faithful event) (hrow : Faithful row)
    (hcanonical : canonicalUuid chainId = .ok chainId) (heventChain : event.chainId = chainId)
    (hrowChain : row.chainId = chainId) (heventFree : FloatFree event) (hrowFree : FloatFree row)
    (heventFormat : event.auditFormatVersion = auditFormatVersion)
    (hrowFormat : row.auditFormatVersion = auditFormatVersion)
    (hpayload : rowPayload event = .ok payload) (hpayload' : rowPayload row = .ok payload')
    (h : Jcs.canonicalForm payload = Jcs.canonicalForm payload') : SamePayload event row := by
  obtain ⟨definition, evidence, metadata, hdefinition, hcategory, haction, hevidence, hmetadata,
    heq⟩ := hevent.rowPayload_eq (heventChain ▸ hcanonical)
  obtain ⟨definition', evidence', metadata', hdefinition', hcategory', haction', hevidence',
    hmetadata', heq'⟩ := hrow.rowPayload_eq (hrowChain ▸ hcanonical)
  rw [heq, Except.ok.injEq] at hpayload
  rw [heq', Except.ok.injEq] at hpayload'
  subst hpayload hpayload'
  obtain ⟨⟨hsequence, heventId, hoccurred, hprevious⟩, hsame, hpermissions, hlist, hobject⟩ :=
    payload_injective h
  simp only [rowColumns, SemanticPayload.mk.injEq, and_true, true_and] at hsame
  obtain ⟨-, htype, -, houtcome, hdecision, htenant, hkind, huser, hmembership, hrole, hsubjectType,
    hsubjectId, hsecondaryType, hsecondaryId, htrace, hbefore, hafter⟩ := hsame
  have htypes : event.eventType = row.eventType :=
    (eventType_of_registered hdefinition).symm.trans
      (htype.trans (eventType_of_registered hdefinition'))
  obtain rfl : definition = definition' := by
    rw [htypes, hdefinition'] at hdefinition
    exact (Option.some.inj hdefinition).symm
  have hpermissionsEq := permissions_eq hevent.permissions hrow.permissions hpermissions
  have hevidenceEq : event.evidenceHashesJson = row.evidenceHashesJson := by
    obtain ⟨texts, htexts⟩ := hevent.evidence
    obtain ⟨texts', htexts'⟩ := hrow.evidence
    have heq : Jcs.canonicalForm event.evidenceHashesJson =
        Jcs.canonicalForm row.evidenceHashesJson := by
      rw [hevidence, hevidence']
      exact hlist
    rwa [htexts, htexts', Jcs.canonicalForm_texts, Jcs.canonicalForm_texts, ← htexts,
      ← htexts'] at heq
  have hmetadataEq : Jcs.sorted event.metadataSanitizedJson =
      Jcs.sorted row.metadataSanitizedJson := by
    refine Jcs.sorted_eq_of_canonicalForm heventFree hrowFree ?_
    rw [hmetadata, hmetadata']
    exact hobject
  exact {
    chainId := hrowChain.trans heventChain.symm
    sequence := hsequence.symm
    eventId := heventId.symm
    occurredAt := hoccurred.symm
    category := hcategory'.trans hcategory.symm
    eventType := htypes.symm
    action := haction'.trans haction.symm
    outcome := houtcome.symm
    authorizationDecision := hdecision.symm
    tenant := htenant.symm
    actorKind := hkind.symm
    actorUserId := huser.symm
    actorMembershipId := hmembership.symm
    actorRoleSnapshot := hrole.symm
    permissions := congrArg _ hpermissionsEq.symm
    subjectType := hsubjectType.symm
    subjectId := hsubjectId.symm
    secondarySubjectType := hsecondaryType.symm
    secondarySubjectId := hsecondaryId.symm
    trace := htrace.symm
    beforeSha256 := hbefore.symm
    afterSha256 := hafter.symm
    evidence := congrArg _ hevidenceEq.symm
    metadata := hmetadataEq.symm
    previousEventHash := hprevious.symm
    auditFormatVersion := hrowFormat.trans heventFormat.symm }

/-- The order of fields in the metadata does not change a payload put in order. -/
theorem sorted_payload_congr (s : SemanticPayload) (chainId eventId previous : String)
    (sequence : Nat) (at' : Instant) {metadata : List (String × Json)}
    (h : Jcs.sorted (.obj metadata) = Jcs.sorted (.obj s.metadata)) :
    Jcs.sorted (.obj (({ s with metadata := metadata } : SemanticPayload).payloadFields chainId
      sequence eventId at' previous)) =
      Jcs.sorted (.obj (s.payloadFields chainId sequence eventId at' previous)) := by
  have hfields : Jcs.sortedFields
      (({ s with metadata := metadata } : SemanticPayload).payloadFields chainId sequence eventId
        at' previous) =
      Jcs.sortedFields (s.payloadFields chainId sequence eventId at' previous) := by
    rw [Jcs.sortedFields_eq_map, Jcs.sortedFields_eq_map]
    simp only [SemanticPayload.payloadFields, SemanticPayload.contentFields, List.map_cons,
      List.map_append, h]
    rfl
  rw [Jcs.sorted, Jcs.sorted, hfields]

/-- A row that agrees with a faithful event is faithful. -/
theorem SamePayload.faithful (h : SamePayload event row) (hevent : Faithful event) :
    Faithful row where
  registered := by
    rw [h.eventType, h.category, h.action]
    exact hevent.registered
  eventId := by
    rw [h.eventId]
    exact hevent.eventId
  permissions := by
    rcases hevent.permissions with hnull | ⟨texts, htexts⟩
    · have hsorted := h.permissions
      rw [hnull] at hsorted
      refine .inl ?_
      cases hvalue : row.permissionSnapshotJson <;> rw [hvalue] at hsorted <;>
        first | rfl | cases hsorted
    · have hsorted := h.permissions
      rw [htexts, Jcs.sorted, Jcs.sortedItems_texts] at hsorted
      exact .inr ⟨texts, Jcs.eq_of_sorted_texts hsorted⟩
  evidence := by
    obtain ⟨texts, htexts⟩ := hevent.evidence
    have hsorted := h.evidence
    rw [htexts, Jcs.sorted, Jcs.sortedItems_texts] at hsorted
    exact ⟨texts, Jcs.eq_of_sorted_texts hsorted⟩
  metadata := by
    obtain ⟨fields, hfields⟩ := hevent.metadata
    have hsorted := h.metadata
    rw [hfields] at hsorted
    cases hvalue : row.metadataSanitizedJson with
    | obj others => exact ⟨others, rfl⟩
    | _ =>
      rw [hvalue] at hsorted
      cases hsorted

/-- A row that agrees with an event has the hash of the event, when the verifier accepts
both. -/
theorem SamePayload.eventHash (h : SamePayload event row) (hevent : Faithful event)
    (hcanonical : canonicalUuid event.chainId = .ok event.chainId)
    (hverifies : Verifies digests event) (hverifies' : Verifies digests row) :
    row.eventHash = event.eventHash := by
  have hrow := h.faithful hevent
  have hcanonical' : canonicalUuid row.chainId = .ok row.chainId := by
    rw [h.chainId]
    exact hcanonical
  obtain ⟨definition, evidence, metadata, hdefinition, -, -, hevidence, hmetadata, heq⟩ :=
    hevent.rowPayload_eq hcanonical
  obtain ⟨definition', evidence', metadata', hdefinition', -, -, hevidence', hmetadata', heq'⟩ :=
    hrow.rowPayload_eq hcanonical'
  obtain rfl : definition' = definition := by
    rw [h.eventType, hdefinition] at hdefinition'
    exact (Option.some.inj hdefinition').symm
  have hpermissions : row.permissionSnapshotJson = event.permissionSnapshotJson :=
    permissions_eq hrow.permissions hevent.permissions (congrArg Jcs.textual h.permissions)
  have hlist : evidence' = evidence := by
    obtain ⟨texts, htexts⟩ := hevent.evidence
    have hsorted := h.evidence
    rw [htexts, Jcs.sorted, Jcs.sortedItems_texts] at hsorted
    have hsame := Jcs.eq_of_sorted_texts hsorted
    rw [hevidence', ← htexts, hevidence] at hsame
    exact Json.arr.inj hsame
  have hobject : Jcs.sorted (.obj metadata') = Jcs.sorted (.obj metadata) := by
    rw [← hmetadata, ← hmetadata']
    exact h.metadata
  have hcolumns : rowColumns row definition' row.permissionSnapshotJson evidence' metadata' =
      { rowColumns event definition' event.permissionSnapshotJson evidence metadata with
        metadata := metadata' } := by
    simp only [rowColumns, h.outcome, h.authorizationDecision, h.tenant, h.actorKind,
      h.actorUserId, h.actorMembershipId, h.actorRoleSnapshot, hpermissions, h.subjectType,
      h.subjectId, h.secondarySubjectType, h.secondarySubjectId, h.trace, h.beforeSha256,
      h.afterSha256, hlist]
  obtain ⟨payload, hpayload, hhash⟩ := hverifies.hash
  obtain ⟨payload', hpayload', hhash'⟩ := hverifies'.hash
  rw [heq, Except.ok.injEq] at hpayload
  rw [heq', Except.ok.injEq, hcolumns, h.chainId, h.sequence, h.eventId, h.occurredAt,
    h.previousEventHash] at hpayload'
  subst hpayload hpayload'
  have hbytes := sorted_payload_congr
    (rowColumns event definition' event.permissionSnapshotJson evidence metadata) event.chainId
    event.eventId event.previousEventHash event.sequence event.occurredAt hobject
  rw [payloadHash, jcsBytes, Jcs.bytes_congr hbytes] at hhash'
  exact (Except.ok.inj (hhash.symm.trans hhash')).symm

end Payload

/-! ## Agreement -/

section Agreement

variable {digests : Digests} {chain stored : AuditChain} {fromSequence : Nat}
  {event row : AuditEventRecord}

theorem mem_rowsFrom : row ∈ stored.rowsFrom fromSequence ↔
    row ∈ stored.rows ∧ fromSequence ≤ row.sequence := by
  rw [AuditChain.rowsFrom, List.mem_insertionSort, List.mem_filter, decide_eq_true_iff]

/-- Every sequence up to the head has its event. -/
theorem Sound.exists_event (hc : Sound digests chain) {sequence : Nat} (hone : 1 ≤ sequence)
    (hhead : sequence ≤ chain.head.headSequence) :
    ∃ event ∈ chain.events, event.sequence = sequence := by
  rw [hc.headSequence] at hhead
  have hmem : sequence ∈ chain.events.map AuditEventRecord.sequence := by
    rw [hc.sequences, List.mem_range'_1]
    omega
  exact List.mem_map.mp hmem

/-- The events from a sequence on are the chain without its beginning. -/
theorem Sound.mem_drop (hc : Sound digests chain) (hevent : event ∈ chain.events)
    (hfrom : fromSequence ≤ event.sequence) : event ∈ chain.events.drop (fromSequence - 1) := by
  obtain ⟨i, hi, rfl⟩ := List.mem_iff_getElem.mp hevent
  have hsequence : chain.events[i].sequence = 1 + i := by
    have hget : (chain.events.map AuditEventRecord.sequence)[i]? = some (1 + i) := by
      rw [hc.sequences, List.getElem?_range' hi, Nat.one_mul]
    rw [List.getElem?_map, List.getElem?_eq_getElem hi] at hget
    exact Option.some.inj hget
  rw [List.mem_iff_getElem]
  refine ⟨i - (fromSequence - 1), ?_, ?_⟩
  · rw [List.length_drop]
    omega
  · rw [List.getElem_drop]
    congr 1
    omega

/-- Rows in sequence of one sequence are one row. -/
theorem eq_of_sequences {rows : List AuditEventRecord} {other : AuditEventRecord}
    (hsequences : rows.map AuditEventRecord.sequence = List.range' fromSequence rows.length)
    (hrow : row ∈ rows) (hother : other ∈ rows) (h : row.sequence = other.sequence) :
    row = other := by
  have hnodup : (rows.map AuditEventRecord.sequence).Nodup := by
    rw [hsequences]
    exact List.nodup_range'
  exact List.inj_on_of_nodup_map hnodup hrow hother h

/-- An event and a faithful row with its hash agree. -/
theorem samePayload_of_eventHash (hc : Sound digests chain) (hhead : stored.head = chain.head)
    (hfree : ∀ event ∈ chain.events, FloatFree event)
    (hrowsFree : ∀ row ∈ stored.rows, FloatFree row)
    (hcollision : CollisionFree digests chain.events stored.rows) (hevent : event ∈ chain.events)
    (hrow : row ∈ stored.rows) (hfaithful : Faithful row) (hverifies : Verifies digests row)
    (h : event.eventHash = row.eventHash) : SamePayload event row := by
  obtain ⟨payload, hpayload, hhash⟩ := (hc.verifies event hevent).hash
  obtain ⟨payload', hpayload', hhash'⟩ := hverifies.hash
  obtain ⟨bytes, hbytes, hdigest⟩ := Fallible.map_eq_ok.mp hhash
  obtain ⟨bytes', hbytes', hdigest'⟩ := Fallible.map_eq_ok.mp hhash'
  have hsame := hcollision event hevent row hrow payload payload' bytes bytes' hpayload hbytes
    hpayload' hbytes' (by rw [hdigest, hdigest', h])
  have hrowChain : row.chainId = chain.head.chainId := by
    rw [← hhead]
    exact of_decide_eq_true (List.mem_filter.mp hrow).2
  subst hsame
  exact samePayload_of_canonicalForm (hc.faithful event hevent) hfaithful hc.canonical
    (hc.ownRows event hevent) hrowChain (hfree event hevent) (hrowsFree row hrow)
    (hc.verifies event hevent).format hverifies.format hpayload hpayload'
    (Jcs.bytes_injective (jcsBytes_eq_ok.mp hbytes) (jcsBytes_eq_ok.mp hbytes'))

/-- The event the head names has the hash of the head. -/
theorem Sound.eventHash_of_head (hc : Sound digests chain) (hevent : event ∈ chain.events)
    (hsequence : event.sequence = chain.head.headSequence) :
    event.eventHash = chain.head.headHash := by
  cases hlast : chain.events.getLast? with
  | none =>
    rw [List.getLast?_eq_none_iff.mp hlast] at hevent
    cases hevent
  | some last =>
    obtain ⟨hlastSequence, hlastHash⟩ := hc.getLast hlast
    rw [hc.eq_of_sequence hevent (List.mem_of_getLast? hlast)
      (hsequence.trans hlastSequence.symm), hlastHash]

/-- Under the head of an opened chain a verification reads what is stored. -/
theorem verifyChain_stored {organisationId : Option String} {p : AuditPseudonymizer}
    {directory : Directory} {draws : Draws} {expectedPreviousHash : Option String}
    {result : VerificationResult} {after : AuditChain} (hc : Opened digests chain)
    (hhead : stored.head = chain.head)
    (h : verifyChain digests p directory draws organisationId organisationId.isNone fromSequence
      expectedPreviousHash (some stored) = .ok (result, after)) :
    1 ≤ fromSequence ∧
      verifyStored digests fromSequence expectedPreviousHash stored = .ok result := by
  have hresolve : resolveChain digests p directory draws ⟨organisationId, none⟩ (some stored) =
      .ok stored := by
    show (if _ then _ else _) = _
    rw [hhead, if_neg (not_not.mpr hc.sound.format), if_neg hc.headSequence_ne_zero]
  simp only [verifyChain, Fallible.guard_eq_ok, Fallible.bind_eq_ok] at h
  obtain ⟨-, found, hfound, hone, found', hfound', heq⟩ := h
  rw [hresolve] at hfound
  cases hfound
  cases heq
  exact ⟨by omega, hfound'⟩

theorem exists_of_forall₂ {α β : Type} {R : α → β → Prop} {l : List α} {m : List β} {a : α}
    (h : List.Forall₂ R l m) (ha : a ∈ l) : ∃ b ∈ m, R a b := by
  induction h with
  | nil => cases ha
  | cons hab _ ih =>
    rcases List.mem_cons.mp ha with rfl | ha
    · exact ⟨_, List.mem_cons_self, hab⟩
    · obtain ⟨b, hb, hR⟩ := ih ha
      exact ⟨b, List.mem_cons_of_mem _ hb, hR⟩

/-- The row the head names is among the rows, when the end of the chain is in sight. -/
theorem exists_headRow (hc : Opened digests chain) (hhead : stored.head = chain.head)
    (hanchored : Anchored stored fromSequence) (hfrom : fromSequence ≤ chain.head.headSequence)
    (hmismatch : headMismatch stored.head (stored.rowsFrom fromSequence).getLast? = false)
    (htail : tailMismatch stored.head fromSequence (stored.rowsFrom fromSequence).getLast? =
      false) :
    ∃ row ∈ stored.rowsFrom fromSequence, row.sequence = chain.head.headSequence ∧
      row.eventHash = chain.head.headHash := by
  rw [hhead] at hmismatch htail
  rcases hanchored with rfl | hlt | ⟨row, hrow, hsequence, hhash⟩
  · -- a full verification has reached the head
    have hlast : (stored.rowsFrom 1).getLast?.map AuditEventRecord.sequence =
        some chain.head.headSequence := by
      simpa [tailMismatch, hc.headSequence_ne_zero] using htail
    obtain ⟨row, hrow, hsequence⟩ := Option.map_eq_some_iff.mp hlast
    refine ⟨row, List.mem_of_getLast? hrow, hsequence, ?_⟩
    simpa [headMismatch, hrow, hsequence] using hmismatch
  · rw [hhead] at hlt
    omega
  · rw [hhead] at hsequence hhash
    refine ⟨row, mem_rowsFrom.mpr ⟨hrow, ?_⟩, hsequence, hhash⟩
    rw [hsequence]
    exact hfrom

/-- Rows that are linked up to the row the head names agree with the events. -/
theorem forall₂_samePayload {previous : String} (hc : Sound digests chain)
    (hhead : stored.head = chain.head) (hfree : ∀ event ∈ chain.events, FloatFree event)
    (hrowsFree : ∀ row ∈ stored.rows, FloatFree row)
    (hcollision : CollisionFree digests chain.events stored.rows)
    (huntouched : Untouched stored fromSequence) (hone : 1 ≤ fromSequence)
    (hsequences : (stored.rowsFrom fromSequence).map AuditEventRecord.sequence =
      List.range' fromSequence (stored.rowsFrom fromSequence).length)
    (hlinked : HashChain.Linked AuditEventRecord.previousEventHash AuditEventRecord.eventHash
      previous (stored.rowsFrom fromSequence))
    (hverifies : ∀ row ∈ stored.rowsFrom fromSequence, Verifies digests row)
    (hrow : row ∈ stored.rowsFrom fromSequence)
    (hsequence : row.sequence = chain.head.headSequence)
    (hhash : row.eventHash = chain.head.headHash) :
    List.Forall₂ SamePayload (chain.events.drop (fromSequence - 1))
      ((stored.rowsFrom fromSequence).take (chain.head.headSequence - fromSequence + 1)) := by
  generalize hrows : stored.rowsFrom fromSequence = rows at *
  have hrange : chain.head.headSequence ∈ List.range' fromSequence rows.length := by
    rw [← hsequences, ← hsequence]
    exact List.mem_map_of_mem hrow
  rw [List.mem_range'_1] at hrange
  have hindex : chain.head.headSequence - fromSequence < rows.length := by omega
  -- the row the head names is the last of those that are compared
  have htake : rows.take (chain.head.headSequence - fromSequence + 1) =
      rows.take (chain.head.headSequence - fromSequence) ++ [row] := by
    have hget : rows[chain.head.headSequence - fromSequence] = row := by
      refine eq_of_sequences hsequences (List.getElem_mem hindex) hrow ?_
      have hat : (rows.map AuditEventRecord.sequence)[chain.head.headSequence - fromSequence]? =
          some (fromSequence + (chain.head.headSequence - fromSequence)) := by
        rw [hsequences, List.getElem?_range' hindex, Nat.one_mul]
      rw [List.getElem?_map, List.getElem?_eq_getElem hindex] at hat
      rw [Option.some.inj hat, hsequence]
      omega
    rw [List.take_succ_eq_append_getElem hindex, hget]
  have hlinkedTake : HashChain.Linked AuditEventRecord.previousEventHash
      AuditEventRecord.eventHash previous
      (rows.take (chain.head.headSequence - fromSequence + 1)) := by
    rw [← List.take_append_drop (chain.head.headSequence - fromSequence + 1) rows,
      HashChain.linked_append] at hlinked
    exact hlinked.1
  have hlinkedDrop := hc.linked
  rw [← List.take_append_drop (fromSequence - 1) chain.events, HashChain.linked_append]
    at hlinkedDrop
  have hlastDrop := hc.headHash
  rw [← List.take_append_drop (fromSequence - 1) chain.events, HashChain.last_append] at hlastDrop
  refine HashChain.forall₂_of_last_eq ?_ hlinkedDrop.2 hlinkedTake ?_ ?_
  · intro event hevent other hother hsame
    have hotherRow : other ∈ rows := List.mem_of_mem_take hother
    have hotherBound : other.sequence ≤ stored.head.headSequence := by
      rw [hhead]
      obtain ⟨i, hi, rfl⟩ := List.mem_take_iff_getElem.mp hother
      have hat : (rows.map AuditEventRecord.sequence)[i]? = some (fromSequence + i) := by
        rw [hsequences, List.getElem?_range' (by omega), Nat.one_mul]
      rw [List.getElem?_map, List.getElem?_eq_getElem (by omega)] at hat
      rw [Option.some.inj hat]
      omega
    rw [← hrows, mem_rowsFrom] at hotherRow
    have hagree := samePayload_of_eventHash hc hhead hfree hrowsFree hcollision
      (List.mem_of_mem_drop hevent) hotherRow.1
      (huntouched other hotherRow.1 hotherRow.2 hotherBound)
      (hverifies other (List.mem_of_mem_take hother)) hsame
    exact ⟨hagree.previousEventHash.symm, hagree⟩
  · rw [List.length_drop, List.length_take, ← hc.headSequence]
    omega
  · rw [← hlastDrop, htake, HashChain.last_concat, hhash]

/-- A chain that the verifier calls valid, whatever was done to its rows, agrees with what was
appended from the verified sequence on exactly when the end of the chain was in sight and what
the hash of a row does not cover was not touched. -/
theorem valid_iff_agree {organisationId : Option String} {actions : List AuditAction}
    {p : AuditPseudonymizer} {directory : Directory} {draws : Draws}
    {expectedPreviousHash : Option String} {result : VerificationResult} {after : AuditChain}
    (run : Transition.Run (AuditStep digests organisationId) none actions (some chain))
    (hhead : stored.head = chain.head)
    (hfree : (∀ event ∈ chain.events, FloatFree event) ∧ ∀ row ∈ stored.rows, FloatFree row)
    (hcollision : CollisionFree digests chain.events stored.rows)
    (hverify : verifyChain digests p directory draws organisationId organisationId.isNone
      fromSequence expectedPreviousHash (some stored) = .ok (result, after))
    (hvalid : result.status = "VALID") :
    Agree chain stored fromSequence ↔
      Anchored stored fromSequence ∧ Untouched stored fromSequence := by
  obtain ⟨hc, -⟩ := run_opened run
  obtain ⟨hone, hstored⟩ := verifyChain_stored hc hhead hverify
  obtain ⟨previous, -, hsequences, hlinked, hverifies, hmismatch, htail, -⟩ :=
    verifyStored_valid_iff.mp ⟨result, hstored, hvalid⟩
  constructor
  · intro hagree
    refine ⟨?_, ?_⟩
    · by_cases hfrom : fromSequence ≤ stored.head.headSequence
      · rw [hhead] at hfrom
        obtain ⟨event, hevent, hsequence⟩ := hc.sound.exists_event
          (Nat.one_le_iff_ne_zero.mpr hc.headSequence_ne_zero) le_rfl
        obtain ⟨⟨row, hrow, hrowSequence⟩, hsame⟩ := hagree event hevent (hsequence ▸ hfrom)
        have hrowFrom : row ∈ stored.rowsFrom fromSequence :=
          mem_rowsFrom.mpr ⟨hrow, by rw [hrowSequence, hsequence]; exact hfrom⟩
        have hhash := (hsame row hrow hrowSequence).eventHash (hc.sound.faithful event hevent)
          (by rw [hc.sound.ownRows event hevent]; exact hc.sound.canonical)
          (hc.sound.verifies event hevent) (hverifies row hrowFrom)
        refine .inr (.inr ⟨row, hrow, ?_, ?_⟩)
        · rw [hhead, hrowSequence, hsequence]
        · rw [hhead, hhash]
          exact hc.sound.eventHash_of_head hevent hsequence
      · exact .inr (.inl (by omega))
    · intro row hrow hfrom hbound
      rw [hhead] at hbound
      obtain ⟨event, hevent, hsequence⟩ := hc.sound.exists_event (hone.trans hfrom) hbound
      have hsame := (hagree event hevent (hsequence ▸ hfrom)).2 row hrow hsequence.symm
      exact hsame.faithful (hc.sound.faithful event hevent)
  · rintro ⟨hanchored, huntouched⟩ event hevent hfrom
    have hbound := (hc.sound.sequence_mem hevent).2
    rw [← hc.sound.headSequence] at hbound
    obtain ⟨row, hrow, hsequence, hhash⟩ :=
      exists_headRow hc hhead hanchored (hfrom.trans hbound) hmismatch htail
    have hall := forall₂_samePayload hc.sound hhead hfree.1 hfree.2 hcollision huntouched hone
      hsequences hlinked hverifies hrow hsequence hhash
    obtain ⟨found, hfound, hsame⟩ := exists_of_forall₂ hall (hc.sound.mem_drop hevent hfrom)
    have hfoundRow := List.mem_of_mem_take hfound
    refine ⟨⟨found, (mem_rowsFrom.mp hfoundRow).1, hsame.sequence⟩, ?_⟩
    intro other hother hotherSequence
    have hotherRow : other ∈ stored.rowsFrom fromSequence :=
      mem_rowsFrom.mpr ⟨hother, by rw [hotherSequence]; exact hfrom⟩
    rw [eq_of_sequences hsequences hotherRow hfoundRow (hotherSequence.trans hsame.sequence.symm)]
    exact hsame

end Agreement

/-! ## What the verifier does not read -/

section Reclassified

variable {digests : Digests} {chain : AuditChain} {category action : AuditEventRecord → String}

/-- The row with another category and action. -/
def AuditEventRecord.reclassify (category action : AuditEventRecord → String)
    (row : AuditEventRecord) : AuditEventRecord :=
  { row with category := category row, action := action row }

/-- A chain with the categories and actions of its rows edited. -/
def AuditChain.reclassify (category action : AuditEventRecord → String) (chain : AuditChain) :
    AuditChain :=
  { chain with events := chain.events.map (AuditEventRecord.reclassify category action) }

theorem rows_reclassify : (chain.reclassify category action).rows =
    chain.rows.map (AuditEventRecord.reclassify category action) :=
  List.filter_map

theorem rowsFrom_reclassify (fromSequence : Nat) :
    (chain.reclassify category action).rowsFrom fromSequence =
      (chain.rowsFrom fromSequence).map (AuditEventRecord.reclassify category action) := by
  rw [AuditChain.rowsFrom, rows_reclassify, List.filter_map]
  exact (List.map_insertionSort (fun a b => a.sequence ≤ b.sequence)
    (fun a b => a.sequence ≤ b.sequence) (AuditEventRecord.reclassify category action) _
    fun _ _ _ _ => Iff.rfl).symm

theorem verifyRows_reclassify {head : AuditChainHeadRecord} {fromSequence : Nat}
    {previous : String} {expected checked : Nat} {rows : List AuditEventRecord} :
    verifyRows digests head fromSequence previous expected checked
        (rows.map (AuditEventRecord.reclassify category action)) =
      verifyRows digests head fromSequence previous expected checked rows := by
  induction rows generalizing previous expected checked with
  | nil => rfl
  | cons row rest ih =>
    simp only [List.map_cons, verifyRows, ih]
    rfl

/-- The hash of an event is found under its sequence whatever its category. -/
theorem eventHash_find?_reclassify {rows : List AuditEventRecord} {sequence : Nat} :
    ((rows.map (AuditEventRecord.reclassify category action)).find? fun row =>
        row.sequence = sequence).map AuditEventRecord.eventHash =
      (rows.find? fun row => row.sequence = sequence).map AuditEventRecord.eventHash := by
  rw [List.find?_map, Option.map_map]
  rfl

theorem checkpointStatus_reclassify {rows : List AuditEventRecord} {previous : String}
    {checkpoints : List AuditCheckpointRecord} :
    checkpointStatus digests (rows.map (AuditEventRecord.reclassify category action)) previous
        checkpoints =
      checkpointStatus digests rows previous checkpoints := by
  induction checkpoints generalizing previous with
  | nil => rfl
  | cons checkpoint rest ih => simp only [checkpointStatus, eventHash_find?_reclassify, ih]

/-- The verification of a chain does not depend on the categories and actions of its rows. -/
theorem verifyStored_reclassify {fromSequence : Nat} {expectedPreviousHash : Option String} :
    verifyStored digests fromSequence expectedPreviousHash (chain.reclassify category action) =
      verifyStored digests fromSequence expectedPreviousHash chain := by
  have hprior : priorHash fromSequence expectedPreviousHash (chain.reclassify category action) =
      priorHash fromSequence expectedPreviousHash chain := by
    rw [priorHash, priorHash, rows_reclassify, eventHash_find?_reclassify]
  have hlast : ((chain.rowsFrom fromSequence).map
      (AuditEventRecord.reclassify category action)).getLast? =
      (chain.rowsFrom fromSequence).getLast?.map (AuditEventRecord.reclassify category action) :=
    List.getLast?_map
  have hends : ∀ checked,
      verifyEnds digests fromSequence ((chain.rowsFrom fromSequence).map
        (AuditEventRecord.reclassify category action)) checked
        (chain.reclassify category action) =
      verifyEnds digests fromSequence (chain.rowsFrom fromSequence) checked chain := by
    intro checked
    have hcheckpoints : verifyCheckpoints digests (chain.reclassify category action) =
        verifyCheckpoints digests chain := by
      rw [verifyCheckpoints, rows_reclassify, checkpointStatus_reclassify]
      rfl
    simp only [verifyEnds, hlast, hcheckpoints]
    cases (chain.rowsFrom fromSequence).getLast? <;> rfl
  rw [verifyStored, verifyStored, hprior, rowsFrom_reclassify]
  simp only [verifyRows_reclassify, hends]
  rfl

end Reclassified

/-! ## A chain by example -/

section Sample

/-- A chain that was opened and holds its genesis. -/
theorem sampleGenesis : ∃ (chain : AuditChain) (row : AuditEventRecord),
    Transition.Run (AuditStep sampleDigests (some "org")) none
      [.resolve samplePseudonymizer sampleDirectory sampleDraws] (some chain) ∧
    chain.events = [row] ∧ row.sequence = 1 ∧ row.category = "SYSTEM" ∧ FloatFree row := by
  have hcolumns : ((resolveChain sampleDigests samplePseudonymizer sampleDirectory sampleDraws
      ⟨some "org", none⟩ none).toOption).map (fun chain => chain.events.map fun row =>
        (row.sequence, row.category, Jcs.floatFree row.metadataSanitizedJson)) =
      some [(1, "SYSTEM", true)] := by
    decide +kernel
  obtain ⟨chain, hchain, hrows⟩ := Option.map_eq_some_iff.mp hcolumns
  obtain ⟨row, hevents, hrow⟩ := List.map_eq_singleton_iff.mp hrows
  obtain ⟨hsequence, hcategory, hfree⟩ : row.sequence = 1 ∧ row.category = "SYSTEM" ∧
      Jcs.floatFree row.metadataSanitizedJson = true := by
    simpa using hrow
  refine ⟨chain, row, .single (.resolve ?_), hevents, hsequence, hcategory, hfree⟩
  cases hr : resolveChain sampleDigests samplePseudonymizer sampleDirectory sampleDraws
      ⟨some "org", none⟩ none with
  | error e =>
    rw [hr] at hchain
    cases hchain
  | ok found =>
    rw [hr] at hchain
    exact congrArg _ (Option.some.inj hchain)

/-- Payloads of one event are told apart by any digest. -/
theorem collisionFree_single {digests : Digests} {event row : AuditEventRecord}
    (h : rowPayload row = rowPayload event) : CollisionFree digests [event] [row] := by
  intro event' hevent row' hrow payload payload' bytes bytes' hpayload hbytes hpayload' hbytes' _
  rw [List.mem_singleton.mp hevent] at hpayload
  rw [List.mem_singleton.mp hrow, h, hpayload] at hpayload'
  cases hpayload'
  rw [hbytes] at hbytes'
  exact Except.ok.inj hbytes'

theorem verifyChain_of_opened {digests : Digests} {chain stored : AuditChain}
    {result : VerificationResult} (hc : Opened digests chain) (hhead : stored.head = chain.head)
    (h : verifyStored digests 1 none stored = .ok result) :
    verifyChain digests samplePseudonymizer sampleDirectory sampleDraws (some "org") false 1 none
      (some stored) = .ok (result, stored) := by
  have hresolve : resolveChain digests samplePseudonymizer sampleDirectory sampleDraws
      ⟨some "org", none⟩ (some stored) = .ok stored := by
    show (if _ then _ else _) = _
    rw [hhead, if_neg (not_not.mpr hc.sound.format), if_neg hc.headSequence_ne_zero]
  rw [verifyChain, if_neg (by decide)]
  exact Fallible.bind_eq_ok.mpr ⟨stored, hresolve, Fallible.bind_eq_ok.mpr ⟨result, h, rfl⟩⟩

theorem valid_iff_agree_genesis : ∃ (chain : AuditChain) (result : VerificationResult),
    verifyChain sampleDigests samplePseudonymizer sampleDirectory sampleDraws (some "org") false 1
      none (some chain) = .ok (result, chain) ∧ result.status = "VALID" ∧
    (Agree chain chain 1 ↔ Anchored chain 1 ∧ Untouched chain 1) := by
  obtain ⟨chain, row, run, hevents, -, -, hfree⟩ := sampleGenesis
  obtain ⟨hopened, -⟩ := run_opened run
  obtain ⟨result, hresult, hvalid⟩ := verifyStored_of_sound hopened.sound none
  have hverify := verifyChain_of_opened hopened rfl hresult
  have hrows : chain.rows = [row] := hopened.sound.rows_eq.trans hevents
  have hfloats : (∀ event ∈ chain.events, FloatFree event) ∧
      ∀ row ∈ chain.rows, FloatFree row := by
    rw [hrows, hevents]
    simpa using hfree
  refine ⟨chain, result, hverify, hvalid,
    valid_iff_agree run rfl hfloats ?_ hverify hvalid⟩
  rw [hrows, hevents]
  exact collisionFree_single rfl

/-- A genesis that was moved to another category is still called valid. -/
theorem reclassified_genesis_valid :
    ∃ (chain stored : AuditChain) (result : VerificationResult),
      Transition.Run (AuditStep sampleDigests (some "org")) none
        [.resolve samplePseudonymizer sampleDirectory sampleDraws] (some chain) ∧
      stored.head = chain.head ∧
      ((∀ event ∈ chain.events, FloatFree event) ∧ ∀ row ∈ stored.rows, FloatFree row) ∧
      CollisionFree sampleDigests chain.events stored.rows ∧
      verifyChain sampleDigests samplePseudonymizer sampleDirectory sampleDraws (some "org") false
        1 none (some stored) = .ok (result, stored) ∧ result.status = "VALID" ∧
      ¬ Agree chain stored 1 := by
  obtain ⟨chain, row, run, hevents, hsequence, hcategory, hfree⟩ := sampleGenesis
  obtain ⟨hopened, -⟩ := run_opened run
  obtain ⟨result, hresult, hvalid⟩ := verifyStored_of_sound hopened.sound none
  let edited : AuditEventRecord → AuditEventRecord :=
    AuditEventRecord.reclassify (fun _ => "SECURITY") AuditEventRecord.action
  have hrows : (chain.reclassify (fun _ => "SECURITY") AuditEventRecord.action).rows =
      [edited row] := by
    rw [rows_reclassify, hopened.sound.rows_eq, hevents]
    rfl
  refine ⟨chain, chain.reclassify (fun _ => "SECURITY") AuditEventRecord.action, result, run, rfl,
    ?_, ?_, verifyChain_of_opened hopened rfl ?_, hvalid, ?_⟩
  · rw [hrows, hevents]
    exact ⟨by simpa using hfree, fun other hother => List.mem_singleton.mp hother ▸ hfree⟩
  · rw [hrows, hevents]
    exact collisionFree_single rfl
  · rw [verifyStored_reclassify, hresult]
  · intro hagree
    have hrow : row ∈ chain.events := by simp [hevents]
    have hedited := (hagree row hrow hsequence.ge).2 (edited row) (by simp [hrows]) rfl
    exact absurd (hedited.category.trans hcategory) (by decide : "SECURITY" ≠ "SYSTEM")

end Sample

end Wbcz.Audit

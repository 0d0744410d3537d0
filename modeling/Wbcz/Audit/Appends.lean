import Mathlib.Algebra.BigOperators.Group.List.Basic
import Mathlib.Algebra.GroupWithZero.Nat
import Wbcz.Audit.Chain
import Wbcz.Audit.SanitizerLaws
import Wbcz.Lib.Sha256

/-!
# Appends that are taken as they come

An append of a worker or of the service itself is prepared without a change but for the
pseudonym of its machine when its metadata are texts and numbers under plain keys, its hashes
are digests and its identifiers are safe.
-/

namespace Wbcz.Audit

open Fallible (bind_eq_ok)

section Plain

variable {p : AuditPseudonymizer} {digests : Digests} {organisationId : Option String}

/-! ## Metadata -/

/-- A key that names neither a secret nor marking codes. -/
def plainKey (key : String) : Bool := key.length ≤ 128 && !secretKey key && !markingKey key

/-- A text, or a number that every reader of JSON keeps. -/
def plainValue : Json → Bool
  | .str _ => true
  | .int i => i.natAbs ≤ Jcs.safeIntegerMax.natAbs
  | _ => false

/-- A bound on the characters of such a value. -/
def plainSize : Json → ℕ
  | .str text => 6 + 6 * text.length
  | .int i => 6 + (Jcs.intText i).length
  | _ => 6

/-- A bound on the bytes of metadata with plain values. -/
def plainBytes (metadata : List (String × Json)) : ℕ :=
  4 * (2 + ((metadata.map Prod.fst).map fun key => 6 * key.length).sum +
    ((metadata.map Prod.snd).map plainSize).sum)

theorem length_escaped (text : List Char) :
    (text.flatMap Json.escapeChar).length ≤ 6 * text.length := by
  induction text with
  | nil => rfl
  | cons c text ih =>
    have hc : (Json.escapeChar c).length ≤ 6 := by
      unfold Json.escapeChar
      split_ifs <;> simp
    rw [List.flatMap_cons, List.length_append, List.length_cons]
    omega

theorem length_encode (text : List Char) : (Text.encode text).length ≤ 4 * text.length := by
  induction text with
  | nil => rfl
  | cons c text ih =>
    have hc := c.utf8Size_le_four
    rw [Text.encode, List.flatMap_cons, List.length_append, String.length_utf8EncodeChar,
      List.length_cons]
    rw [Text.encode] at ih
    omega

theorem sorted_plain {value : Json} (h : plainValue value = true) :
    Jcs.sorted value = value ∧ Jcs.check value = .ok () := by
  cases value with
  | str text => exact ⟨by rw [Jcs.sorted], by rw [Jcs.check]⟩
  | int i =>
    exact ⟨by rw [Jcs.sorted], by rw [Jcs.check, if_neg (not_lt.mpr (of_decide_eq_true h))]⟩
  | _ => cases h

theorem length_renderFields {fields : List (String × Json)} {separator : List Char}
    (hseparator : separator.length ≤ 1)
    (hplain : ∀ field ∈ fields, plainValue field.2 = true) :
    (Jcs.renderFields separator fields).length ≤
      1 + (fields.map fun field => 6 * field.1.length + plainSize field.2).sum := by
  induction fields generalizing separator with
  | nil => simp [Jcs.renderFields]
  | cons field fields ih =>
    obtain ⟨key, value⟩ := field
    obtain ⟨hfield, hplain⟩ := List.forall_mem_cons.mp hplain
    have hrest := @ih [','] (by simp) hplain
    have hkey := length_escaped key.toList
    have hvalue : (Jcs.render value).length + 4 ≤ plainSize value := by
      cases value with
      | str text =>
        have htext := length_escaped text.toList
        simp only [Jcs.render, plainSize, List.length_cons, List.length_append, List.length_nil,
          String.length_toList] at htext ⊢
        omega
      | int i =>
        simp only [Jcs.render, plainSize]
        omega
      | _ => cases hfield
    simp only [Jcs.renderFields, List.length_append, List.length_cons, List.map_cons,
      List.sum_cons, String.length_toList] at hkey ⊢
    omega

/-- The canonical text of plain fields is as large as the fields let it be. -/
theorem jcsBytes_plain {fields : List (String × Json)}
    (hplain : ∀ field ∈ fields, plainValue field.2 = true) :
    ∃ bytes, jcsBytes (.obj fields) = .ok bytes ∧ bytes.length ≤ plainBytes fields := by
  have hsame : Jcs.sortedFields fields = fields := by
    rw [Jcs.sortedFields_eq_map]
    refine (List.map_congr_left fun field hfield => ?_).trans (List.map_id fields)
    rw [(sorted_plain (hplain field hfield)).1]
    rfl
  have hperm := Jcs.sortFields_perm fields
  have hcheck : Jcs.check (Jcs.sorted (.obj fields)) = .ok () := by
    refine Jcs.check_sorted_obj.mpr fun field hfield => ?_
    obtain ⟨hsorted, hcheck⟩ := sorted_plain (hplain field hfield)
    rw [hsorted, hcheck]
  have hrest := @length_renderFields _ [] (Nat.zero_le 1)
    fun field hfield => hplain field (hperm.mem_iff.mp hfield)
  refine ⟨_, jcsBytes_eq_ok.mpr (Jcs.bytes_of_check hcheck), ?_⟩
  rw [Text.utf8_ofList]
  refine (length_encode _).trans (Nat.mul_le_mul_left 4 ?_)
  rw [Jcs.sorted, hsame, Jcs.render, List.length_cons]
  rw [(hperm.map _).sum_nat, List.sum_map_add] at hrest
  simp only [List.map_map, Function.comp_def]
  omega

theorem sanitizeFields_plain {depth : ℕ} {fields : List (String × Json)}
    (hdepth : depth < maxSanitizerDepth)
    (hplain : ∀ field ∈ fields, plainKey field.1 = true ∧ plainValue field.2 = true)
    (hsize : ∀ field ∈ fields, plainSize field.2 ≤ maxStringChars) :
    sanitizeFields p digests organisationId depth fields = .ok fields := by
  induction fields with
  | nil => rw [sanitizeFields]
  | cons field fields ih =>
    obtain ⟨⟨hkey, hvalue⟩, hplain⟩ := List.forall_mem_cons.mp hplain
    obtain ⟨hlength, hsize⟩ := List.forall_mem_cons.mp hsize
    simp only [plainKey, Bool.and_eq_true, decide_eq_true_eq, Bool.not_eq_true'] at hkey
    obtain ⟨⟨hshort, hsecret⟩, hmarking⟩ := hkey
    refine sanitizeFields_cons_eq_ok.mpr ⟨field.2, fields, ?_, ih hplain hsize, rfl⟩
    rw [sanitizeField, if_neg (not_lt.mpr hshort), if_neg (by simp [hsecret]),
      if_neg (by simp [hmarking])]
    cases hfield : field.2 with
    | str text =>
      rw [hfield, plainSize] at hlength
      rw [sanitize, if_neg (by omega)]
      exact checkDepth_bind.mpr ⟨hdepth, rfl⟩
    | int i =>
      rw [hfield] at hvalue
      rw [sanitize, if_neg (not_lt.mpr (of_decide_eq_true hvalue))]
      exact checkDepth_bind.mpr ⟨hdepth, rfl⟩
    | _ =>
      rw [hfield] at hvalue
      cases hvalue

/-- Metadata under plain keys are kept as they are when they are not too large. -/
theorem sanitizeMetadata_plain {metadata : List (String × Json)}
    (hcount : metadata.length ≤ maxMetadataKeys)
    (hkeys : (metadata.map Prod.fst).all plainKey = true)
    (hvalues : (metadata.map Prod.snd).all plainValue = true)
    (hsize : ∀ value ∈ metadata.map Prod.snd, plainSize value ≤ maxStringChars)
    (hbytes : plainBytes metadata ≤ maxMetadataBytes) :
    sanitizeMetadata p digests organisationId metadata = .ok metadata := by
  have hkeys := List.forall_mem_map.mp (List.all_eq_true.mp hkeys)
  have hvalues := List.forall_mem_map.mp (List.all_eq_true.mp hvalues)
  have hsanitized : sanitize p digests organisationId 0 (.obj metadata) = .ok (.obj metadata) := by
    rw [sanitize, if_neg (not_lt.mpr hcount), sanitizeFields_plain (by decide)
      (fun field hfield => ⟨hkeys field hfield, hvalues field hfield⟩)
      (List.forall_mem_map.mp hsize)]
    exact checkDepth_bind.mpr ⟨by decide, rfl⟩
  obtain ⟨canonical, hcanonical, hlength⟩ := jcsBytes_plain hvalues
  refine bind_eq_ok.mpr ⟨_, hsanitized, bind_eq_ok.mpr ⟨canonical, hcanonical, ?_⟩⟩
  exact if_neg (not_lt.mpr (hlength.trans hbytes))

/-! ## Hashes and subjects -/

/-- Whether a payload has a hash does not depend on the order of its fields. -/
theorem payloadHash_eq (digests : Digests) (payload : Json) : payloadHash digests payload =
    if (Jcs.check payload).isOk then
      .ok (digests.sha256 (Text.utf8 (String.ofList (Jcs.render (Jcs.sorted payload)))))
    else (jcsBytes payload).map digests.sha256 := by
  split
  · rename_i h
    have hcheck : Jcs.check payload = .ok () := by
      cases hchecked : Jcs.check payload with
      | ok _ => rfl
      | error e =>
        rw [hchecked] at h
        cases h
    rw [payloadHash, jcsBytes_eq_ok.mpr (Jcs.bytes_of_check (Jcs.checked_sorted _ hcheck))]
    rfl
  · rfl

theorem mapM_lowerHex_digits {digits : List Char}
    (h : ∀ c ∈ digits, ∃ n < 16, c = Nat.digitChar n) :
    digits.mapM lowerHex? = some digits := by
  induction digits with
  | nil => rfl
  | cons c digits ih =>
    obtain ⟨⟨n, hn, rfl⟩, hdigits⟩ := List.forall_mem_cons.mp h
    have hdigit : ∀ n < 16, lowerHex? (Nat.digitChar n) = some (Nat.digitChar n) := by decide
    simp [List.mapM_cons, hdigit n hn, ih hdigits]

/-- A digest is taken as it is. -/
theorem safeHash_hexdigest (bytes : List UInt8) :
    safeHash (some (Sha256.hexdigest bytes)) = .ok (some (Sha256.hexdigest bytes)) := by
  rw [safeHash, mapM_lowerHex_digits fun c hc => Sha256.mem_hexdigest hc]
  simp only [Sha256.length_hexdigest, if_true, String.ofList_toList]

/-- A subject that is no marking code is taken as it is when its id is safe. -/
theorem subjectOf_plain {subject : SubjectRef} {tenant : AuditTenantScope}
    (hid : safeId (some subject.id) 256 = .ok (some subject.id))
    (htype : subject.type ≠ .markingIdentifier) (hplain : subject.plaintextMarking = false) :
    subjectOf p digests subject tenant = .ok subject := by
  rw [subjectOf, hid]
  obtain ⟨type, id, plaintext⟩ := subject
  cases hplain
  exact if_neg htype

/-! ## The call -/

/-- A worker leaves the pseudonym of its machine in the metadata. -/
theorem actorSnapshot_worker {directory : Directory} {definition : RegisteredAuditEvent}
    {tenant : AuditTenantScope} {metadata : List (String × Json)} {principal pseudonym : String}
    (hallowed : ActorKind.worker ∈ definition.allowedActorKinds) (hprincipal : principal ≠ "")
    (hpseudonym : p.machinePrincipal digests principal = .ok pseudonym)
    (hnew : (Json.lookup metadata "machine_principal_hmac").isSome = false) :
    actorSnapshot p digests directory definition
        { kind := .worker, machinePrincipal := some principal } tenant metadata =
      .ok ({}, metadata ++ [("machine_principal_hmac", .str pseudonym)]) := by
  rw [actorSnapshot, if_neg (not_not.mpr hallowed)]
  simp only [bind, Except.bind, truthy, Option.getD_some, hprincipal, ne_eq, not_false_eq_true,
    decide_true, if_true, hpseudonym, Json.set, hnew, Bool.false_eq_true, if_false]

/-- The arguments an append is prepared to where nothing of it is rewritten. -/
def AppendCall.arguments (call : AppendCall) (definition : RegisteredAuditEvent)
    (snapshot : ActorSnapshot) (metadata : List (String × Json)) (now : Instant) :
    InsertArguments where
  definition := definition
  actor := call.actor
  tenant := call.tenant
  subject := call.subject
  secondarySubject := call.secondarySubject
  outcome := call.outcome
  authorizationDecision := call.authorizationDecision
  trace := call.trace
  metadata := metadata
  evidenceHashes := call.evidenceHashes.filterMap id
  beforeSha256 := call.beforeSha256
  afterSha256 := call.afterSha256
  occurredAt := call.occurredAt.getD now
  allowCheckpoint := call.allowCheckpoint
  actorSnapshot := some snapshot

theorem prepareAppend_eq_arguments {directory : Directory} {now : Instant} {call : AppendCall}
    {definition : RegisteredAuditEvent} {snapshot : ActorSnapshot}
    {metadata : List (String × Json)}
    (hdefinition : auditEventRegistry call.eventType = some definition)
    (htenant : validateTenant directory definition call.tenant = .ok ())
    (hallowed : call.subject.type ∈ definition.allowedSubjectTypes)
    (hschema : metadataSchema definition call.metadata = .ok ())
    (hsnapshot : actorSnapshot p digests directory definition call.actor call.tenant
      call.metadata = .ok (snapshot, metadata))
    (hmetadata : sanitizeMetadata p digests call.tenant.organisationId metadata = .ok metadata)
    (hsubject : subjectOf p digests call.subject call.tenant = .ok call.subject)
    (hsecondary : subjectOf? p digests call.secondarySubject call.tenant =
      .ok call.secondarySubject)
    (hevidence : call.evidenceHashes.mapM safeHash = .ok call.evidenceHashes)
    (htrace : normalizedTrace call.trace = .ok call.trace) :
    prepareAppend digests p directory now call =
      .ok (call.arguments definition snapshot metadata now) := by
  simp only [prepareAppend, hdefinition, htenant, hschema, hsnapshot, hmetadata, hsubject,
    hsecondary, hevidence, htrace, hallowed, not_true_eq_false, if_false, bind, Except.bind,
    AppendCall.arguments]

end Plain

end Wbcz.Audit

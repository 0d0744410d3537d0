import Wbcz.Errors
import Wbcz.Lib.Base64
import Wbcz.Lib.Fallible
import Wbcz.Lib.Json
import Wbcz.Lib.JsonText
import Wbcz.Lib.Text

/-!
# Agent jobs and their results

The messages of `windows_agent.py` between the server and the agent: `AgentJob` with its
validation, and `AgentResult`. The payload contracts of the read and report families are
an argument: for a job type and a payload, the text of the error the contract raises, or
nothing where the payload is accepted and already canonical.
-/

namespace Wbcz

/-- The families of job types that are validated and executed alike. -/
inductive JobFamily where
  | write
  | cisCheck
  | pollDocument
  | m1
  | m2
  | m4
  | m7
  | health
  | m11
  deriving DecidableEq, Repr

/-- The types of jobs an agent is sent. -/
inductive AgentJobType where
  | cisCheck
  | lkReceipt
  | lpReturn
  | lpIntroduceGoods
  | lkIndiCommissioning
  | lpGoodsImport
  | crossborder
  | lpIntroduceOst
  | lkContractCommissioning
  | lpFtsIntroduce
  | lkRemark
  | writeOff
  | lkReceiptCancel
  | aggregationDocument
  | setsAggregation
  | reaggregationDocument
  | disaggregationDocument
  | atkAggregation
  | atkTransformation
  | atkDisaggregation
  | pollDocument
  | cisInfo
  | cisSearch
  | cisHistory
  | cisAggregatedList
  | cisAggregationHistory
  | productInfo
  | cisToProduct
  | participants
  | modsList
  | tnVedSearch
  | productGtinList
  | rdList
  | documentList
  | documentInfo
  | documentCises
  | edoParticipant
  | edoOutgoingList
  | edoIncomingList
  | edoOutgoingContent
  | edoIncomingContent
  | edoOutgoingPrint
  | edoIncomingPrint
  | edoOutgoingLegalZip
  | edoIncomingLegalZip
  | edoOutgoingUnsignedEvents
  | edoIncomingUnsignedEvents
  | edoEventContent
  | edoOutgoingReceipt
  | edoIncomingReceipt
  | edoOutgoingMchd
  | edoIncomingMchd
  | edoGisProcessing
  | reportCreate
  | reportTaskGet
  | reportTaskList
  | reportResults
  | reportDownload
  | reportQuotaType
  | reportQuotaId
  | integrationHealth
  deriving DecidableEq, Repr

namespace AgentJobType

/-- The stored text of a job type. -/
def value : AgentJobType → String
  | cisCheck => "CIS_CHECK"
  | lkReceipt => "LK_RECEIPT"
  | lpReturn => "LP_RETURN"
  | lpIntroduceGoods => "LP_INTRODUCE_GOODS"
  | lkIndiCommissioning => "LK_INDI_COMMISSIONING"
  | lpGoodsImport => "LP_GOODS_IMPORT"
  | crossborder => "CROSSBORDER"
  | lpIntroduceOst => "LP_INTRODUCE_OST"
  | lkContractCommissioning => "LK_CONTRACT_COMMISSIONING"
  | lpFtsIntroduce => "LP_FTS_INTRODUCE"
  | lkRemark => "LK_REMARK"
  | writeOff => "WRITE_OFF"
  | lkReceiptCancel => "LK_RECEIPT_CANCEL"
  | aggregationDocument => "AGGREGATION_DOCUMENT"
  | setsAggregation => "SETS_AGGREGATION"
  | reaggregationDocument => "REAGGREGATION_DOCUMENT"
  | disaggregationDocument => "DISAGGREGATION_DOCUMENT"
  | atkAggregation => "ATK_AGGREGATION"
  | atkTransformation => "ATK_TRANSFORMATION"
  | atkDisaggregation => "ATK_DISAGGREGATION"
  | pollDocument => "POLL_DOCUMENT"
  | cisInfo => "CIS_INFO"
  | cisSearch => "CIS_SEARCH"
  | cisHistory => "CIS_HISTORY"
  | cisAggregatedList => "CIS_AGGREGATED_LIST"
  | cisAggregationHistory => "CIS_AGGREGATION_HISTORY"
  | productInfo => "PRODUCT_INFO"
  | cisToProduct => "CIS_TO_PRODUCT"
  | participants => "PARTICIPANTS"
  | modsList => "MODS_LIST"
  | tnVedSearch => "TN_VED_SEARCH"
  | productGtinList => "PRODUCT_GTIN_LIST"
  | rdList => "RD_LIST"
  | documentList => "DOCUMENT_LIST"
  | documentInfo => "DOCUMENT_INFO"
  | documentCises => "DOCUMENT_CISES"
  | edoParticipant => "EDO_PARTICIPANT"
  | edoOutgoingList => "EDO_OUTGOING_LIST"
  | edoIncomingList => "EDO_INCOMING_LIST"
  | edoOutgoingContent => "EDO_OUTGOING_CONTENT"
  | edoIncomingContent => "EDO_INCOMING_CONTENT"
  | edoOutgoingPrint => "EDO_OUTGOING_PRINT"
  | edoIncomingPrint => "EDO_INCOMING_PRINT"
  | edoOutgoingLegalZip => "EDO_OUTGOING_LEGAL_ZIP"
  | edoIncomingLegalZip => "EDO_INCOMING_LEGAL_ZIP"
  | edoOutgoingUnsignedEvents => "EDO_OUTGOING_UNSIGNED_EVENTS"
  | edoIncomingUnsignedEvents => "EDO_INCOMING_UNSIGNED_EVENTS"
  | edoEventContent => "EDO_EVENT_CONTENT"
  | edoOutgoingReceipt => "EDO_OUTGOING_RECEIPT"
  | edoIncomingReceipt => "EDO_INCOMING_RECEIPT"
  | edoOutgoingMchd => "EDO_OUTGOING_MCHD"
  | edoIncomingMchd => "EDO_INCOMING_MCHD"
  | edoGisProcessing => "EDO_GIS_PROCESSING"
  | reportCreate => "REPORT_CREATE"
  | reportTaskGet => "REPORT_TASK_GET"
  | reportTaskList => "REPORT_TASK_LIST"
  | reportResults => "REPORT_RESULTS"
  | reportDownload => "REPORT_DOWNLOAD"
  | reportQuotaType => "REPORT_QUOTA_TYPE"
  | reportQuotaId => "REPORT_QUOTA_ID"
  | integrationHealth => "INTEGRATION_HEALTH"

/-- Every job type. -/
def all : List AgentJobType :=
  [cisCheck, lkReceipt, lpReturn, lpIntroduceGoods, lkIndiCommissioning, lpGoodsImport,
    crossborder, lpIntroduceOst, lkContractCommissioning, lpFtsIntroduce, lkRemark, writeOff,
    lkReceiptCancel, aggregationDocument, setsAggregation, reaggregationDocument,
    disaggregationDocument, atkAggregation, atkTransformation, atkDisaggregation, pollDocument,
    cisInfo, cisSearch, cisHistory, cisAggregatedList, cisAggregationHistory, productInfo,
    cisToProduct, participants, modsList, tnVedSearch, productGtinList, rdList, documentList,
    documentInfo, documentCises, edoParticipant, edoOutgoingList, edoIncomingList,
    edoOutgoingContent, edoIncomingContent, edoOutgoingPrint, edoIncomingPrint,
    edoOutgoingLegalZip, edoIncomingLegalZip, edoOutgoingUnsignedEvents,
    edoIncomingUnsignedEvents, edoEventContent, edoOutgoingReceipt, edoIncomingReceipt,
    edoOutgoingMchd, edoIncomingMchd, edoGisProcessing, reportCreate, reportTaskGet,
    reportTaskList, reportResults, reportDownload, reportQuotaType, reportQuotaId,
    integrationHealth]

/-- `AgentJobType(text)`. -/
def ofValue? (text : String) : Option AgentJobType := all.find? fun type => type.value = text

theorem mem_all (type : AgentJobType) : type ∈ all := by
  have hat : all[type.ctorIdx]? = some type := by cases type <;> rfl
  exact List.mem_of_getElem? hat

theorem ofValue?_value (type : AgentJobType) : ofValue? type.value = some type := by
  have hall : ∀ type ∈ all, ofValue? type.value = some type := by decide +kernel
  exact hall type (mem_all type)

/-- The family of a job type. -/
def family : AgentJobType → JobFamily
  | cisCheck => .cisCheck
  | lkReceipt | lpReturn | lpIntroduceGoods | lkIndiCommissioning | lpGoodsImport | crossborder
  | lpIntroduceOst | lkContractCommissioning | lpFtsIntroduce | lkRemark | writeOff
  | lkReceiptCancel | aggregationDocument | setsAggregation | reaggregationDocument
  | disaggregationDocument | atkAggregation | atkTransformation | atkDisaggregation => .write
  | pollDocument => .pollDocument
  | cisInfo | cisSearch | cisHistory | cisAggregatedList | cisAggregationHistory | productInfo
  | cisToProduct => .m1
  | participants | modsList | tnVedSearch | productGtinList | rdList => .m2
  | documentList | documentInfo | documentCises => .m4
  | edoParticipant | edoOutgoingList | edoIncomingList | edoOutgoingContent | edoIncomingContent
  | edoOutgoingPrint | edoIncomingPrint | edoOutgoingLegalZip | edoIncomingLegalZip
  | edoOutgoingUnsignedEvents | edoIncomingUnsignedEvents | edoEventContent | edoOutgoingReceipt
  | edoIncomingReceipt | edoOutgoingMchd | edoIncomingMchd | edoGisProcessing => .m7
  | reportCreate | reportTaskGet | reportTaskList | reportResults | reportDownload
  | reportQuotaType | reportQuotaId => .m11
  | integrationHealth => .health

/-- The job type of the document of a write operation: `AgentJobType(document_type)`. -/
def ofDocumentType? (documentType : String) : Option AgentJobType :=
  if documentType = "LK_RECEIPT" then some lkReceipt
  else if documentType = "LP_RETURN" then some lpReturn
  else none

end AgentJobType

/-- A job for the agent. -/
structure AgentJob where
  jobId : String
  jobType : AgentJobType
  operationId : String
  pg : String
  expectedInn : String
  documentType : Option String := none
  documentSha256 : Option String := none
  productDocumentBase64 : Option String := none
  cises : List String := []
  documentId : Option String := none
  readPayload : Option Json := none

/-- A result of the agent. -/
structure AgentResult where
  jobId : String
  operationId : String
  outcome : String
  documentSha256 : Option String := none
  signatureBase64 : Option String := none
  certificateThumbprint : Option String := none
  certificateSubject : Option String := none
  certificateInn : Option String := none
  certificateValidFrom : Option String := none
  certificateValidTo : Option String := none
  httpStatus : Option Int := none
  createCategory : Option String := none
  documentId : Option String := none
  remoteStatus : Option String := none
  bodySha256 : Option String := none
  cises : List Json := []
  errorCode : Option String := none
  errorMessage : Option String := none
  contentType : Option String := none
  readResult : Json := .null
  createResponse : Json := .null

/-- The fields of a certificate that a signature comes with. -/
structure CertificateMetadata where
  certificateThumbprint : Option String := none
  certificateSubject : Option String := none
  certificateInn : Option String := none
  certificateValidFrom : Option String := none
  certificateValidTo : Option String := none
  deriving DecidableEq, Repr

def p0Pg : String := "lp"

/-- An optional text that Python finds false. -/
def emptyText : Option String → Bool
  | some text => text = ""
  | none => true

/-- The text matches `[A-Za-z0-9._:-]{1,max}`. -/
def isToken (max : Nat) (text : String) : Bool :=
  1 ≤ text.length && text.length ≤ max && text.toList.all fun c =>
    (65 ≤ c.toNat && c.toNat ≤ 90) || (97 ≤ c.toNat && c.toNat ≤ 122) || Text.isAsciiDigit c ||
      c = '.' || c = '_' || c = ':' || c = '-'

def cisesInfoMaxCodes : Nat := 1000

/-- `normalize_cis`: the code without surrounding blanks, of 18 to 74 characters. -/
def normalizeCis (value : String) : Except PyError String :=
  let normalized := Text.strip value
  if 18 ≤ normalized.length ∧ normalized.length ≤ 74 then .ok normalized
  else .error ⟨.valueError, "CIS length must be 18..74 characters"⟩

theorem normalizeCis_eq_ok {value code : String} : normalizeCis value = .ok code ↔
    code = Text.strip value ∧ 18 ≤ code.length ∧ code.length ≤ 74 := by
  unfold normalizeCis
  dsimp only
  split
  · rename_i h
    constructor
    · intro heq
      cases heq
      exact ⟨rfl, h⟩
    · rintro ⟨rfl, -⟩
      rfl
  · rename_i h
    constructor
    · intro heq
      cases heq
    · rintro ⟨rfl, hlength⟩
      exact absurd hlength h

/-- A code that was normalized is normalized. -/
theorem normalizeCis_stable {value code : String} (h : normalizeCis value = .ok code) :
    normalizeCis code = .ok code := by
  obtain ⟨rfl, hlength⟩ := normalizeCis_eq_ok.mp h
  exact normalizeCis_eq_ok.mpr ⟨(Text.strip_strip value).symm, hlength⟩

/-- `normalize_cises`: one to a thousand normalized codes. -/
def normalizeCises (values : List String) : Except PyError (List String) :=
  match values.mapM normalizeCis with
  | .error e => .error e
  | .ok normalized =>
    if 1 ≤ normalized.length ∧ normalized.length ≤ cisesInfoMaxCodes then .ok normalized
    else .error ⟨.valueError, "cises/info batch must contain 1..1000 cises"⟩

/-- Codes that were normalized are normalized. -/
theorem normalizeCises_stable {values codes : List String} (h : normalizeCises values = .ok codes) :
    normalizeCises codes = .ok codes := by
  unfold normalizeCises at h
  split at h
  · cases h
  · rename_i normalized hmap
    split at h
    · rename_i hlength
      cases h
      have hsame : codes.mapM normalizeCis = .ok codes := by
        clear hlength
        induction values generalizing codes with
        | nil =>
          cases hmap
          rfl
        | cons value values ih =>
          rw [List.mapM_cons] at hmap
          obtain ⟨code, hcode, hmap⟩ := Fallible.bind_eq_ok.mp hmap
          obtain ⟨rest, hrest, hmap⟩ := Fallible.bind_eq_ok.mp hmap
          cases hmap
          rw [List.mapM_cons]
          exact Fallible.bind_eq_ok.mpr ⟨code, normalizeCis_stable hcode,
            Fallible.bind_eq_ok.mpr ⟨rest, ih hrest, rfl⟩⟩
      rw [normalizeCises, hsame]
      exact if_pos hlength
    · cases h

/-- The payload contracts of the read and report families. -/
abbrev PayloadContracts := AgentJobType → Json → Option String

namespace AgentJob

variable (sha256 : List UInt8 → String) (contracts : PayloadContracts) (job : AgentJob)

/-- Some of the fields of a write, poll or read of codes is set. -/
def hasP0Fields : Bool :=
  truthyField job.documentType || truthyField job.documentSha256 ||
    truthyField job.productDocumentBase64 || !job.cises.isEmpty || truthyField job.documentId
where
  truthyField : Option String → Bool := fun field => !emptyText field

def refuse (message : String) : Except PyError Unit := .error ⟨.agentSecurityError, message⟩

/-- The part of `validate` for documents to be written. -/
def validateWrite : Except PyError Unit :=
  if job.documentType ≠ some job.jobType.value then refuse "job/document type mismatch"
  else if emptyText job.documentSha256 || emptyText job.productDocumentBase64 then
    refuse "write job misses immutable document fields"
  else
    match Base64.decode (job.productDocumentBase64.getD "").toList with
    | none => refuse "product_document is invalid Base64"
    | some raw =>
      if some (sha256 raw) ≠ job.documentSha256 then refuse "document_sha256 mismatch"
      else if ¬ JsonText.loadsBytes raw then refuse "document bytes are not UTF-8 JSON"
      else if !job.cises.isEmpty || !emptyText job.documentId || job.readPayload.isSome then
        refuse "write job contains unrelated fields"
      else .ok ()

/-- The part of `validate` for a check of codes. -/
def validateCisCheck : Except PyError Unit :=
  match normalizeCises job.cises with
  | .error e => refuse e.message
  | .ok normalized =>
    if normalized ≠ job.cises then refuse "CIS_CHECK cises must already be normalized"
    else if !emptyText job.documentType || !emptyText job.documentSha256 ||
        !emptyText job.productDocumentBase64 || !emptyText job.documentId ||
        job.readPayload.isSome then
      refuse "CIS_CHECK contains write/poll/read fields"
    else .ok ()

/-- The part of `validate` for a poll. -/
def validatePoll : Except PyError Unit :=
  if ¬ isToken 256 (job.documentId.getD "") then refuse "invalid document_id"
  else if !emptyText job.documentType || !emptyText job.documentSha256 ||
      !emptyText job.productDocumentBase64 || !job.cises.isEmpty || job.readPayload.isSome then
    refuse "POLL_DOCUMENT contains unrelated fields"
  else .ok ()

/-- The part of `validate` shared by the families with a typed payload. -/
def validatePayload (missing unrelated : String) : Except PyError Unit :=
  match job.readPayload with
  | none => refuse missing
  | some payload =>
    if job.hasP0Fields then refuse unrelated
    else
      match contracts job.jobType payload with
      | some message => refuse message
      | none => .ok ()

/-- The part of `validate` for a health check. -/
def validateHealth : Except PyError Unit :=
  match job.readPayload with
  | some (.obj fields) =>
    let payload := Json.obj fields
    if fields.any fun field => field.1 ∉ ["check_id", "check_kind", "read_probe"] then
      refuse "M14 health job contains unsupported fields"
    else if ((payload.get "check_id").str?.map (isToken 128)).getD false = false then
      refuse "M14 health check_id is invalid"
    else if (payload.get "check_kind").str? ≠ some "TRUE_API" then
      refuse "M14 health check_kind is unsupported"
    else if ((payload.get? "read_probe").getD (.str "NOT_TESTED")).str? ≠ some "NOT_TESTED" then
      refuse "M14 optional read probe is not enabled"
    else if job.hasP0Fields then refuse "M14 health job contains write/business fields"
    else .ok ()
  | _ => refuse "M14 health job misses typed read_payload"

/-- The part of `validate` for a report. -/
def validateReport : Except PyError Unit :=
  match job.validatePayload contracts "M11 report job misses typed read_payload"
      "M11 report job contains unrelated P0/write fields" with
  | .error e => .error e
  | .ok () =>
    if job.jobType = .reportCreate ∧
        (((job.readPayload.getD .null).get "filters").get "participant_inn").str? ≠
          some job.expectedInn then
      refuse "M11 report participant does not match expected_inn"
    else .ok ()

def validate : Except PyError Unit :=
  if job.jobId = "" ∨ job.operationId = "" then refuse "job_id and operation_id are required"
  else if job.pg ≠ p0Pg then refuse "P0 agent allows only pg=lp"
  else if job.expectedInn = "" then refuse "expected_inn is required"
  else
    match job.jobType.family with
    | .write => job.validateWrite sha256
    | .cisCheck => job.validateCisCheck
    | .pollDocument => job.validatePoll
    | .m1 => job.validatePayload contracts "M1 read job misses read_payload"
        "M1 read job contains P0/write fields"
    | .m2 => job.validatePayload contracts "M2 read job misses read_payload"
        "M2 read job contains P0/write fields"
    | .m4 => job.validatePayload contracts "M4 document read job misses read_payload"
        "M4 document read job contains P0/write fields"
    | .m7 => job.validatePayload contracts "M7 EDO read job misses read_payload"
        "M7 EDO read job contains P0/write fields"
    | .health => job.validateHealth
    | .m11 => job.validateReport contracts

/-- `asdict(job)` with the text of the job type. -/
def toJson : Json :=
  .obj [("job_id", .str job.jobId), ("job_type", .str job.jobType.value),
    ("operation_id", .str job.operationId), ("pg", .str job.pg),
    ("expected_inn", .str job.expectedInn), ("document_type", .ofText? job.documentType),
    ("document_sha256", .ofText? job.documentSha256),
    ("product_document_base64", .ofText? job.productDocumentBase64),
    ("cises", .arr (job.cises.map .str)), ("document_id", .ofText? job.documentId),
    ("read_payload", job.readPayload.getD .null)]

end AgentJob

/-- `safe_dict()`. -/
def AgentResult.safeDict (result : AgentResult) : Json :=
  .obj [("job_id", .str result.jobId), ("operation_id", .str result.operationId),
    ("outcome", .str result.outcome), ("document_sha256", .ofText? result.documentSha256),
    ("signature_base64", .ofText? result.signatureBase64),
    ("certificate_thumbprint", .ofText? result.certificateThumbprint),
    ("certificate_subject", .ofText? result.certificateSubject),
    ("certificate_inn", .ofText? result.certificateInn),
    ("certificate_valid_from", .ofText? result.certificateValidFrom),
    ("certificate_valid_to", .ofText? result.certificateValidTo),
    ("http_status", .ofInt? result.httpStatus),
    ("create_category", .ofText? result.createCategory),
    ("document_id", .ofText? result.documentId), ("remote_status", .ofText? result.remoteStatus),
    ("body_sha256", .ofText? result.bodySha256), ("cises", .arr result.cises),
    ("error_code", .ofText? result.errorCode), ("error_message", .ofText? result.errorMessage),
    ("content_type", .ofText? result.contentType), ("read_result", result.readResult),
    ("create_response", result.createResponse)]

/-- The digest under which a result is recorded. -/
def AgentResult.digest (sha256 : List UInt8 → String) (result : AgentResult) : String :=
  sha256 (Text.utf8 (Json.canonical result.safeDict))

end Wbcz

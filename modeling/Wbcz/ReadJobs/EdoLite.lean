import Wbcz.Lib.PathSegments
import Wbcz.ReadJobs.Requests

/-!
# Reading documents of EDO Lite

The read jobs of `edo_lite.py`: the contracts of their payloads, the requests that are built from
them, and the check of a target before it is sent.

A payload is a mapping here. For a host that is no host `urlsplit` raises where the model refuses the
target as it does with every other host.
-/

namespace Wbcz.EdoLite

open Fallible (bind_eq_ok ensure)
open Json (Check FieldRule)
open PathSegments (Part parts segments)

def contractError (message : String) : PyError := ⟨.other "EdoLiteContractError", message⟩

def m7ProductGroupWireValue : ℤ := 1

def knownEdoRawStatuses : List ℤ :=
  [0, 1, 2, 3, 4, 5, 7, 8, 11, 12, 13, 14, 15, 16, 17, 18, 19, 41, 42, 43, 44, 61, 62, 63, 64, 65, 66]

/-! ## Contracts -/

/-- A text without a null character, of a length within the bounds. -/
def isOpaque : Json → Bool
  | .str text => !text.toList.contains (Char.ofNat 0) && text.length ≤ 2048
  | _ => false

/-- `opaque_remote_id`. -/
def opaqueRemoteId (label : String) : Check PyError :=
  (checkThat isText (contractError (label ++ " must be a non-empty opaque string"))).andThen
    (checkThat isOpaque (contractError (label ++ " is outside supported opaque-string bounds")))

/-- `_inn`. -/
def inn (label : String) : Check PyError :=
  checkThat isInn (contractError (label ++ " must be 10 or 12 digits"))

/-- `_string`. -/
def string (label : String) (maxLen : ℕ) : Check PyError :=
  checkThat (fun v => isText v && (strText v).length ≤ maxLen)
    (contractError (label ++ " must be a non-empty string"))

/-- An integer within bounds. -/
def integer (within : ℤ → Bool) (message : String) : Check PyError :=
  checkThat (isInt within) (contractError message)

def edoListContract : ObjectContract where
  error := contractError
  label := "read_payload"
  before root := ensureKnown contractError root
    ["limit", "offset", "created_from", "created_to", "partner_inn", "partner_id", "status", "type",
      "folder", "asc", "product_group"] "EDO list has unknown fields"
  rules := [.defaulted "limit" (.int 10) (integer (1 ≤ ·) "limit must be a positive integer"),
    .defaulted "offset" (.int 0) (integer (0 ≤ ·) "offset must be a non-negative integer"),
    .optional "created_from"
      (integer (0 ≤ ·) "created_from must be a non-negative integer timestamp"),
    .optional "created_to" (integer (0 ≤ ·) "created_to must be a non-negative integer timestamp"),
    .optional "partner_id" (string "partner_id" 512),
    .optional "partner_inn" (inn "partner_inn"),
    .optional "status" (integer (· ∈ knownEdoRawStatuses)
      "status must be a documented numeric EDO status code"),
    .optional "type" (integer (0 ≤ ·) "type must be a non-negative integer official document code"),
    .optional "folder" (integer (fun i => 0 ≤ i && i ≤ 8) "folder must be an integer in range 0..8"),
    .defaulted "asc" (.bool false) (checkThat isBool (contractError "asc must be boolean")),
    .optional "product_group" (integer (· = m7ProductGroupWireValue)
      "M7 foundation requires numeric product_group=1 for lp")]

/-- A payload of exactly these fields. -/
def exactContract (message : String) (rules : List (FieldRule PyError)) : ObjectContract where
  error := contractError
  label := "read_payload"
  before root := ensure (hasExactly root (rules.map FieldRule.key) = true) (contractError message)
  rules := rules

def participantContract : ObjectContract :=
  exactContract "EDO_PARTICIPANT requires only inn" [.required "inn" (inn "inn")]

def documentRule : FieldRule PyError := .required "document_id" (opaqueRemoteId "document_id")

/-- The content, the print, the archive or the powers of attorney of a document. -/
def documentContract (type : AgentJobType) : ObjectContract :=
  exactContract (type.value ++ " requires only document_id") [documentRule]

def unsignedEventsContract (type : AgentJobType) : ObjectContract :=
  exactContract (type.value ++ " takes no caller-selected fields") []

def eventContentContract : ObjectContract :=
  exactContract "EDO_EVENT_CONTENT requires document_id and event_id"
    [documentRule, .required "event_id" (opaqueRemoteId "event_id")]

def receiptContract (type : AgentJobType) : ObjectContract :=
  exactContract (type.value ++ " requires document_id and receipt_type")
    [documentRule, .required "receipt_type" (string "receipt_type" 128)]

def gisProcessingContract : ObjectContract :=
  exactContract "EDO_GIS_PROCESSING requires only file_id"
    [.required "file_id" (opaqueRemoteId "file_id")]

/-- `validate_edo_read_payload`. -/
def validateEdoReadPayload (type : AgentJobType) : Check PyError :=
  match type with
  | .edoParticipant => participantContract.check
  | .edoOutgoingList | .edoIncomingList => edoListContract.check
  | .edoOutgoingContent | .edoIncomingContent | .edoOutgoingPrint | .edoIncomingPrint
  | .edoOutgoingLegalZip | .edoIncomingLegalZip | .edoOutgoingMchd | .edoIncomingMchd =>
    (documentContract type).check
  | .edoOutgoingUnsignedEvents | .edoIncomingUnsignedEvents => (unsignedEventsContract type).check
  | .edoEventContent => eventContentContract.check
  | .edoOutgoingReceipt | .edoIncomingReceipt => (receiptContract type).check
  | .edoGisProcessing => gisProcessingContract.check
  | _ => fun _ => .error (contractError "unsupported M7 EDO read job type")

/-! ## Requests -/

structure EdoReadSpec where
  jobType : AgentJobType
  method : String
  target : String
  auditEndpoint : String

/-- `_path_id`. -/
def pathId (value : Json) (label : String) : Except PyError String := do
  let id ← opaqueRemoteId label value
  pure (String.ofList (Url.quote (strText id).toList))

/-- `_query`. -/
def query (path : String) (pairs : List Url.Pair) : String := withQuery Url.quotePlus path pairs

/-- The direction of the documents, which the name of the job tells. -/
def direction (type : AgentJobType) : String :=
  if Text.contains "OUTGOING" type.value then "outgoing" else "incoming"

def listPath (type : AgentJobType) : String :=
  "/api/v3/true-api/elk/" ++ direction type ++ "-documents"

def gisProcessingPath : String := "/documents/edo/tpr/ud"

/-- `str(value)` of a text or an integer. -/
def valueText : Json → Except PyError String
  | .int i => intText i
  | value => .ok (strText value)

/-- The pair of a field that the payload has. -/
def givenPair (canonical : Json) (key : String) : Except PyError (List Url.Pair) :=
  match canonical.get? key with
  | none => .ok []
  | some value => do
    let text ← valueText value
    pure [(key, text)]

/-- The fields of a list that may be left out, in the order of the query. -/
def listNames : List String :=
  ["created_from", "created_to", "partner_inn", "partner_id", "status", "type", "folder",
    "product_group"]

/-- The request of a payload that the contract has given. -/
def edoSpecOf (type : AgentJobType) (canonical : Json) : Except PyError EdoReadSpec := do
  let documents := direction type ++ "-documents"
  match type with
  | .edoParticipant =>
    .ok ⟨type, "GET", "/api/v4/true-api/edo/inn/" ++ strText (canonical.get "inn"),
      "/api/v4/true-api/edo/inn/\x7binn\x7d"⟩
  | .edoOutgoingList | .edoIncomingList =>
    let limit ← intText (intOf (canonical.get "limit"))
    let offset ← intText (intOf (canonical.get "offset"))
    let named ← listNames.mapM (givenPair canonical)
    let pairs := [("limit", limit), ("offset", offset), ("sortBy", "created_at"),
      ("asc", boolText (canonical.get "asc"))] ++ named.flatten
    .ok ⟨type, "GET", query (listPath type) pairs, listPath type⟩
  | .edoOutgoingContent | .edoIncomingContent =>
    let did ← pathId (canonical.get "document_id") "document_id"
    .ok ⟨type, "GET", "/elk/" ++ documents ++ "/" ++ did ++ "/content",
      "/elk/" ++ documents ++ "/\x7bdocumentId\x7d/content"⟩
  | .edoOutgoingPrint | .edoIncomingPrint =>
    let did ← pathId (canonical.get "document_id") "document_id"
    .ok ⟨type, "GET", "/api/v3/true-api/edo/" ++ documents ++ "/" ++ did ++ "/print",
      "/api/v3/true-api/edo/" ++ documents ++ "/\x7bdoc_id\x7d/print"⟩
  | .edoOutgoingLegalZip | .edoIncomingLegalZip =>
    let did ← pathId (canonical.get "document_id") "document_id"
    .ok ⟨type, "GET", "/elk/" ++ documents ++ "/" ++ did, "/elk/" ++ documents ++ "/\x7bdocumentId\x7d"⟩
  | .edoOutgoingUnsignedEvents | .edoIncomingUnsignedEvents =>
    let path := "/api/v3/true-api/edo/" ++ documents ++ "/unsigned-events"
    .ok ⟨type, "GET", path, path⟩
  | .edoEventContent =>
    let did ← pathId (canonical.get "document_id") "document_id"
    let eid ← pathId (canonical.get "event_id") "event_id"
    .ok ⟨type, "GET",
      "/api/v3/true-api/edo/incoming-documents/" ++ did ++ "/events/" ++ eid ++ "/content",
      "/api/v3/true-api/edo/incoming-documents/\x7bdoc_id\x7d/events/\x7bevent_id\x7d/content"⟩
  | .edoOutgoingReceipt | .edoIncomingReceipt =>
    let did ← pathId (canonical.get "document_id") "document_id"
    let receipt ← pathId (canonical.get "receipt_type") "receipt_type"
    .ok ⟨type, "GET", "/api/v3/true-api/edo/" ++ documents ++ "/" ++ did ++ "/events/" ++ receipt,
      "/api/v3/true-api/edo/" ++ documents ++ "/\x7bdoc_id\x7d/events/\x7breceiptType\x7d"⟩
  | .edoOutgoingMchd | .edoIncomingMchd =>
    let did ← pathId (canonical.get "document_id") "document_id"
    .ok ⟨type, "GET", "/api/v3/true-api/edo/" ++ documents ++ "/" ++ did ++ "/mchd-list",
      "/api/v3/true-api/edo/" ++ documents ++ "/\x7bdoc_id\x7d/mchd-list"⟩
  | .edoGisProcessing =>
    .ok ⟨type, "GET", query gisProcessingPath [("fileId", strText (canonical.get "file_id"))],
      "/documents/edo/tpr/ud?fileId=\x7bIdFile\x7d"⟩
  | _ => .error (contractError "unsupported M7 EDO read job type")

/-- `build_edo_read_spec`. -/
def buildEdoReadSpec (type : AgentJobType) (payload : List (String × Json)) :
    Except PyError EdoReadSpec := do
  let canonical ← validateEdoReadPayload type (.obj payload)
  ensure (sameJson canonical (.obj payload) = true)
    (contractError "M7 read payload must already be canonical")
  edoSpecOf type canonical

/-! ## The check of a target -/

/-- The text matches `0|[1-9]\d*`. -/
def isUintText (text : String) : Bool :=
  match text.toList with
  | [] => false
  | first :: rest => (first = '0' && rest = []) ||
      (Text.isAsciiDigit first && first ≠ '0' && rest.all Text.isDecimal)

/-- `one_uint`: none where the name is not there, and -1 where its text is no number. -/
def oneUint (query : List Url.Pair) (name : String) : Except PyError (Option ℤ) :=
  match Url.valuesOf query name with
  | [] => .ok none
  | raw :: _ => if isUintText raw then some <$> readInt raw else .ok (some (-1))

/-- The text matches `\d\x7b10\x7d|\d\x7b12\x7d`. -/
def isDigits (text : List Char) : Bool :=
  text.all Text.isDecimal && (text.length = 10 || text.length = 12)

/-- What is asked of the query of a list. -/
def isAllowedListQuery (query : List Url.Pair) : Except PyError Bool := do
  if Url.namesWithin query ["limit", "offset", "sortBy", "asc", "created_from", "created_to",
      "partner_inn", "partner_id", "status", "type", "folder", "product_group"] = false then
    return false
  if query.any fun pair => (Url.valuesOf query pair.1).length ≠ 1 then return false
  let limit ← oneUint query "limit"
  let offset ← oneUint query "offset"
  if limit.all (· < 1) || offset.all (· < 0) then return false
  if (← oneUint query "created_from").any (· < 0) then return false
  if (← oneUint query "created_to").any (· < 0) then return false
  if (Url.valuesOf query "partner_inn").head?.any fun text => !isDigits text.toList then return false
  if (Url.valuesOf query "partner_id").head?.any (· = "") then return false
  if (← oneUint query "status").any (· ∉ knownEdoRawStatuses) then return false
  if (← oneUint query "type").any (· < 0) then return false
  if (← oneUint query "folder").any fun i => !(0 ≤ i && i ≤ 8) then return false
  if (← oneUint query "product_group").any (· ≠ m7ProductGroupWireValue) then return false
  return Url.valuesOf query "sortBy" = ["created_at"] &&
    (Url.valuesOf query "asc" = ["true"] || Url.valuesOf query "asc" = ["false"])

/-- `exact_patterns`. -/
def exactPattern : AgentJobType → Option String
  | .edoOutgoingContent => some "/elk/outgoing-documents/\x7bencoded\x7d/content"
  | .edoIncomingContent => some "/elk/incoming-documents/\x7bencoded\x7d/content"
  | .edoOutgoingPrint => some "/api/v3/true-api/edo/outgoing-documents/\x7bencoded\x7d/print"
  | .edoIncomingPrint => some "/api/v3/true-api/edo/incoming-documents/\x7bencoded\x7d/print"
  | .edoOutgoingLegalZip => some "/elk/outgoing-documents/\x7bencoded\x7d"
  | .edoIncomingLegalZip => some "/elk/incoming-documents/\x7bencoded\x7d"
  | .edoOutgoingUnsignedEvents => some "/api/v3/true-api/edo/outgoing-documents/unsigned-events"
  | .edoIncomingUnsignedEvents => some "/api/v3/true-api/edo/incoming-documents/unsigned-events"
  | .edoEventContent => some
    "/api/v3/true-api/edo/incoming-documents/\x7bencoded\x7d/events/\x7bencoded\x7d/content"
  | .edoOutgoingReceipt => some
    "/api/v3/true-api/edo/outgoing-documents/\x7bencoded\x7d/events/\x7bencoded\x7d"
  | .edoIncomingReceipt => some
    "/api/v3/true-api/edo/incoming-documents/\x7bencoded\x7d/events/\x7bencoded\x7d"
  | .edoOutgoingMchd => some "/api/v3/true-api/edo/outgoing-documents/\x7bencoded\x7d/mchd-list"
  | .edoIncomingMchd => some "/api/v3/true-api/edo/incoming-documents/\x7bencoded\x7d/mchd-list"
  | _ => none

/-- `re.fullmatch(pattern, path)`, where what is encoded matches `[^/?#]+`: a path has no question
mark and no number sign. -/
def fullmatch (pattern : String) (path : List Char) : Bool :=
  path.head? = some '/' && decide (List.Forall₂ Part.Accepts (parts pattern) (segments path))

/-- The path of a participant: ten or twelve digits after a fixed text. -/
def isParticipantPath (path : List Char) : Bool :=
  let start := "/api/v4/true-api/edo/inn/".toList
  start.isPrefixOf path && isDigits (path.drop start.length)

/-- What is asked of the text of a target. -/
def isWireText (target : String) : Bool :=
  !Text.contains "://" target && !target.toList.contains '\r' && !target.toList.contains '\n' &&
    target.toList.head? = some '/'

/-- What is asked of the path and the query of a target. -/
def isAllowedPath (type : AgentJobType) (path : List Char) (query : List Url.Pair) :
    Except PyError Bool :=
  match type with
  | .edoParticipant => .ok (isParticipantPath path && query = [])
  | .edoOutgoingList | .edoIncomingList =>
    if path = (listPath type).toList then isAllowedListQuery query else .ok false
  | .edoGisProcessing => .ok (path = gisProcessingPath.toList &&
      Url.namesWithin query ["fileId"] && (Url.valuesOf query "fileId").length = 1 &&
      (Url.valuesOf query "fileId").all (· ≠ ""))
  | _ => .ok ((exactPattern type).any (fullmatch · path) && query = [])

/-- `is_allowed_edo_read_target`. -/
def isAllowedEdoReadTarget (spec : EdoReadSpec) : Except PyError Bool :=
  if spec.jobType.family ≠ .m7 ∨ spec.method ≠ "GET" ∨ isWireText spec.target = false then .ok false
  else
    let parsed := Url.urlsplit spec.target.toList
    if parsed.scheme ≠ [] ∨ parsed.netloc ≠ [] ∨ parsed.fragment ≠ [] then .ok false
    else isAllowedPath spec.jobType parsed.path (Url.parseQsl parsed.query)

/-! ## Identifiers -/

theorem opaqueRemoteId_tests (label : String) :
    (opaqueRemoteId label).Tests fun v => isText v = true ∧ isOpaque v = true :=
  (checkThat_tests _ _).andThen (checkThat_tests _ _)

/-- An identifier in a path is a quoted text that is not empty. -/
theorem pathId_eq_ok {value : Json} {label id : String} (h : pathId value label = .ok id) :
    isText value = true ∧ id.toList = Url.quote (strText value).toList := by
  obtain ⟨checked, hchecked, hid⟩ := bind_eq_ok.mp h
  obtain ⟨rfl, htext, -⟩ := (opaqueRemoteId_tests label _ _).mp hchecked
  obtain rfl := Except.ok.inj hid
  exact ⟨htext, String.toList_ofList⟩

end Wbcz.EdoLite

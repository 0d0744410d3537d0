import Wbcz.Lib.DateText
import Wbcz.ReadJobs.Requests

/-!
# Reading documents

The read jobs of `document_lifecycle.py`: the contracts of their payloads, the requests that are
built from them, and the check of a request before it is sent.
-/

namespace Wbcz.DocumentLifecycle

open Fallible (bind_eq_ok ensure)
open Json (Check FieldRule)

def contractError (message : String) : PyError := ⟨.other "DocumentLifecycleContractError", message⟩

def m4ProductGroup : String := "lp"

def documentListPath : String := "/api/v4/true-api/doc/list"

def documentCisesPath : String := "/api/v3/true-api/doc/cises"

/-! ## Contracts -/

/-- The text matches `[A-Za-z0-9._:-]\x7b1,256\x7d`. -/
def isDocumentId : Json → Bool
  | .str text => isToken 256 text
  | _ => false

/-- `_document_id`. -/
def documentId (label : String) : Check PyError :=
  (expectText contractError label).andThen
    (checkThat isDocumentId (contractError (label ++ " contains unsupported characters")))

/-- `text.replace("Z", "+00:00")`. -/
def withOffset (text : List Char) : List Char :=
  text.flatMap fun c => if c = 'Z' then "+00:00".toList else [c]

/-- `_timestamp`. -/
def timestamp (label : String) : Check PyError := fun value => do
  let text ← expectText contractError label value
  match Calendar.fromisoformat (withOffset (text.str?.getD "").toList) with
  | none => .error (contractError (label ++ " must be ISO-8601"))
  | some (.naive _) => .error (contractError (label ++ " must include timezone"))
  | some (.aware _) => .ok text

/-- `_inn`. -/
def inn (label : String) : Check PyError :=
  (expectText contractError label).andThen
    (checkThat isInn (contractError (label ++ " must contain 10 or 12 digits")))

/-- The codes of types: one of them, or a list. -/
def documentTypeCode : Check PyError := fun value => do
  let values := match value with
    | .arr items => items
    | _ => [value]
  ensure (values ≠ []) (contractError "document_type_code cannot be empty")
  let types ← checkItems (expectText contractError) "document_type_code" values
  pure (.arr types)

/-- The identifier of a list, under its name or under the local one. -/
def didRule : FieldRule PyError where
  key := "did"
  read root :=
    match Json.lookup root "document_id" with
    | none | some .null => (FieldRule.optional "did" (expectText contractError "did")).read root
    | some value => do
      ensure (((Json.lookup root "did").getD .null).isNull = true)
        (contractError "document_id is a local alias for did; provide only one")
      some <$> documentId "document_id" value

def documentListContract : ObjectContract where
  error := contractError
  label := "read_payload"
  before root := ensureKnown contractError root
    ["document_id", "did", "number", "document_type_code", "document_status_code",
      "document_format", "date_from", "date_to", "limit", "order", "ordered_column_value",
      "page_dir", "sender_inn", "receiver_inn"] "DOCUMENT_LIST has unknown fields"
  rules := [didRule,
    .optional "number" (expectText contractError "number"),
    .optional "document_type_code" documentTypeCode,
    .optional "document_status_code" (expectText contractError "document_status_code"),
    .optional "document_format" (expectUpper contractError "document_format"
      ["MANUAL", "UPD", "XML", "CSV"] "document_format must be MANUAL, UPD, XML or CSV"),
    .optional "date_from" (timestamp "date_from"),
    .optional "date_to" (timestamp "date_to"),
    .defaulted "limit" (.int 50) (checkThat (isInt fun i => 1 ≤ i && i ≤ 1000)
      (contractError "limit must be 1..1000")),
    .defaulted "order" (.str "DESC") (expectUpper contractError "order" ["ASC", "DESC"]
      "order must be ASC or DESC"),
    .optional "ordered_column_value" (expectText contractError "ordered_column_value"),
    .optional "page_dir" (expectUpper contractError "page_dir" ["PREV", "NEXT"]
      "page_dir must be PREV or NEXT"),
    .optional "sender_inn" (inn "sender_inn"),
    .optional "receiver_inn" (inn "receiver_inn")]
  after out := ensure (¬(hasKey out "sender_inn" = true ∧ hasKey out "receiver_inn" = true))
    (contractError "sender_inn and receiver_inn cannot be supplied together")

def documentInfoContract : ObjectContract where
  error := contractError
  label := "read_payload"
  before root := ensureKnown contractError root ["document_id", "body", "content"]
    "DOCUMENT_INFO has unknown fields"
  rules := [.required "document_id" (documentId "document_id"),
    .defaulted "body" (.bool false)
      (checkThat isBool (contractError "body/content must be boolean")),
    .defaulted "content" (.bool false)
      (checkThat isBool (contractError "body/content must be boolean"))]

/-- The product group, of which there is one. -/
def productGroup : Check PyError :=
  (expectText contractError "product_group").andThen (checkThat (isOneOf [m4ProductGroup])
    (contractError "M4 direct-document CIS reads are scoped to productGroup=lp"))

def documentCisesContract : ObjectContract where
  error := contractError
  label := "read_payload"
  before root := ensureKnown contractError root ["document_id", "product_group"]
    "DOCUMENT_CISES has unknown fields"
  rules := [.required "document_id" (documentId "document_id"),
    .defaulted "product_group" (.str m4ProductGroup) productGroup]

/-- `validate_m4_job_payload`. -/
def validateM4JobPayload (type : AgentJobType) : Check PyError :=
  match type with
  | .documentList => documentListContract.check
  | .documentInfo => documentInfoContract.check
  | .documentCises => documentCisesContract.check
  | _ => fun _ => .error (contractError "unsupported M4 read job type")

/-! ## Requests -/

structure DocumentReadSpec where
  jobType : AgentJobType
  method : String
  target : String
  auditEndpoint : String

/-- `_query`. -/
def query (path : String) (pairs : List Url.Pair) : String := withQuery Url.quote path pairs

/-- The request of a payload that the contract has given. -/
def documentSpecOf (type : AgentJobType) (normalized : Json) : Except PyError DocumentReadSpec := do
  let text (key : String) : String := strText (normalized.get key)
  match type with
  | .documentList =>
    let limit ← intText (intOf (normalized.get "limit"))
    let pairs := [("pg", m4ProductGroup)] ++ namedPair normalized "date_from" "dateFrom" ++
      namedPair normalized "date_to" "dateTo" ++ namedPair normalized "did" "did" ++
      namedPair normalized "document_format" "documentFormat" ++
      namedPair normalized "document_status_code" "documentStatus" ++
      ((itemsOf (normalized.get "document_type_code")).filterMap Json.str?).map
        (fun code => ("documentType", code)) ++
      [("limit", limit), ("order", text "order")] ++ namedPair normalized "number" "number" ++
      namedPair normalized "ordered_column_value" "orderedColumnValue" ++
      namedPair normalized "page_dir" "pageDir" ++
      namedPair normalized "sender_inn" "senderInn" ++
      namedPair normalized "receiver_inn" "receiverInn"
    .ok ⟨type, "GET", query documentListPath pairs, "/doc/list"⟩
  | .documentInfo =>
    let pairs := [("body", boolText (normalized.get "body")),
      ("content", boolText (normalized.get "content"))]
    let path := "/api/v4/true-api/doc/" ++ String.ofList (Url.quote (text "document_id").toList) ++
      "/info"
    .ok ⟨type, "GET", query path pairs, "/doc/\x7bdocId\x7d/info"⟩
  | .documentCises =>
    let pairs := [("documentId", text "document_id"), ("productGroup", text "product_group")]
    .ok ⟨type, "GET", query documentCisesPath pairs, "/doc/cises"⟩
  | _ => .error ⟨.other "AssertionError", type.value⟩

/-- `build_document_read_spec`. -/
def buildDocumentReadSpec (type : AgentJobType) (payload : Json) :
    Except PyError DocumentReadSpec := do
  let normalized ← validateM4JobPayload type payload
  documentSpecOf type normalized

/-- What comes after the identifier in the target of an information:
`/info` and perhaps a query, which has no line break. -/
def isInfoRest (rest : List Char) : Bool :=
  "/info".toList.isPrefixOf rest &&
    match rest.drop "/info".length with
    | [] => true
    | c :: query => c = '?' && !query.contains '\n'

/-- `_DOCUMENT_INFO_RE.fullmatch(target)`: no identifier has a slash. -/
def matchesDocumentInfo (target : List Char) : Bool :=
  let start := "/api/v4/true-api/doc/".toList
  start.isPrefixOf target &&
    let (id, rest) := (target.drop start.length).span fun c => decide (c ≠ '/')
    isToken 256 (String.ofList id) && isInfoRest rest

/-- `is_allowed_document_target`. -/
def isAllowedDocumentTarget (spec : DocumentReadSpec) : Bool :=
  if spec.jobType.family ≠ .m4 ∨ spec.method ≠ "GET" then false
  else
    match spec.jobType with
    | .documentList => (documentListPath ++ "?").toList.isPrefixOf spec.target.toList &&
        Text.contains "pg=lp" spec.target
    | .documentInfo => matchesDocumentInfo spec.target.toList
    | .documentCises => (documentCisesPath ++ "?").toList.isPrefixOf spec.target.toList &&
        Text.contains "productGroup=lp" spec.target
    | _ => false

/-! ## Stable contracts -/

theorem documentId_tests (label : String) :
    (documentId label).Tests fun v => isText v = true ∧ isDocumentId v = true :=
  (expectText_tests _ _).andThen (checkThat_tests _ _)

theorem inn_tests (label : String) :
    (inn label).Tests fun v => isText v = true ∧ isInn v = true :=
  (expectText_tests _ _).andThen (checkThat_tests _ _)

theorem timestamp_stable (label : String) : (timestamp label).Stable := by
  intro v w h
  obtain ⟨text, htext, hread⟩ := bind_eq_ok.mp h
  obtain ⟨haccepts, rfl⟩ := checkThat_eq_ok.mp htext
  obtain ⟨chars, rfl, -⟩ := isText_eq_true.mp haccepts
  split at hread
  · cases hread
  · cases hread
  · obtain rfl := Except.ok.inj hread
    exact ⟨h, by simp⟩

theorem documentTypeCode_stable : documentTypeCode.Stable := by
  intro v w h
  obtain ⟨⟨⟩, hempty, h⟩ := bind_eq_ok.mp h
  obtain ⟨types, htypes, h⟩ := bind_eq_ok.mp h
  obtain rfl := Except.ok.inj h
  obtain ⟨rfl, -⟩ := (checkItems_eq_ok fun label => expectText_tests _ label).mp htypes
  exact ⟨bind_eq_ok.mpr ⟨(), hempty, bind_eq_ok.mpr ⟨_, htypes, rfl⟩⟩, by simp⟩

/-- The local name is gone after the first time. -/
theorem didRule_stable {keys : List String} (hkeys : "document_id" ∉ keys) :
    didRule.StableIn keys := by
  intro root value out hread hlookup hothers
  change Json.lookup out "did" = value at hlookup
  have hvalue : value = none ∨ ∃ v, value = some v ∧ isText v = true := by
    unfold didRule at hread
    dsimp only at hread
    split at hread
    · rcases FieldRule.optional_read hread with rfl | ⟨v, w, hw, rfl⟩
      · exact .inl rfl
      · obtain ⟨htext, rfl⟩ := checkThat_eq_ok.mp hw
        exact .inr ⟨_, rfl, htext⟩
    · rcases FieldRule.optional_read hread with rfl | ⟨v, w, hw, rfl⟩
      · exact .inl rfl
      · obtain ⟨htext, rfl⟩ := checkThat_eq_ok.mp hw
        exact .inr ⟨_, rfl, htext⟩
    · obtain ⟨⟨⟩, -, hread⟩ := bind_eq_ok.mp hread
      obtain ⟨w, hw, rfl⟩ := Json.map_some_eq_ok.mp hread
      obtain ⟨rfl, htext, -⟩ := (documentId_tests _ _ _).mp hw
      exact .inr ⟨_, rfl, htext⟩
  unfold didRule FieldRule.optional
  dsimp only
  rw [hothers _ hkeys, hlookup]
  rcases hvalue with rfl | ⟨v, rfl, htext⟩
  · rfl
  · obtain ⟨text, rfl, hne⟩ := isText_eq_true.mp htext
    have hsame : expectText contractError "did" (.str text) = .ok (.str text) :=
      checkThat_eq_ok.mpr ⟨htext, rfl⟩
    simp only [hsame, Json.map_some_ok]

theorem documentListContract_stable : documentListContract.check.Stable := by
  have hkeys : (documentListContract.rules.map FieldRule.key).Nodup := by decide
  have hinn : ∀ label, (inn label).Stable := fun label => (inn_tests label).stable fun h => by
    cases h.1
  refine ObjectContract.check_stable hkeys ?_ fun root out _ hout =>
    ensureKnown_normalize hkeys (by decide) hout
  simp only [documentListContract, List.forall_mem_cons]
  exact ⟨didRule_stable (by decide), FieldRule.optional_stable (checkThat_stable rfl),
    FieldRule.optional_stable documentTypeCode_stable,
    FieldRule.optional_stable (checkThat_stable rfl),
    FieldRule.optional_stable (expectUpper_stable (by decide)),
    FieldRule.optional_stable (timestamp_stable _), FieldRule.optional_stable (timestamp_stable _),
    FieldRule.defaulted_stable (checkThat_stable rfl),
    FieldRule.defaulted_stable (expectUpper_stable (by decide)),
    FieldRule.optional_stable (checkThat_stable rfl),
    FieldRule.optional_stable (expectUpper_stable (by decide)),
    FieldRule.optional_stable (hinn _), FieldRule.optional_stable (hinn _), by simp⟩

theorem documentInfoContract_stable : documentInfoContract.check.Stable := by
  have hkeys : (documentInfoContract.rules.map FieldRule.key).Nodup := by decide
  refine ObjectContract.check_stable hkeys ?_ fun root out _ hout =>
    ensureKnown_normalize hkeys (fun _ hkey => hkey) hout
  simp only [documentInfoContract, List.forall_mem_cons]
  exact ⟨FieldRule.required_stable ((documentId_tests _).stable fun h => by cases h.1),
    FieldRule.defaulted_stable (checkThat_stable rfl),
    FieldRule.defaulted_stable (checkThat_stable rfl), by simp⟩

theorem productGroup_tests :
    productGroup.Tests fun v => isText v = true ∧ isOneOf [m4ProductGroup] v = true :=
  (expectText_tests _ _).andThen (checkThat_tests _ _)

theorem documentCisesContract_stable : documentCisesContract.check.Stable := by
  have hkeys : (documentCisesContract.rules.map FieldRule.key).Nodup := by decide
  refine ObjectContract.check_stable hkeys ?_ fun root out _ hout =>
    ensureKnown_normalize hkeys (fun _ hkey => hkey) hout
  simp only [documentCisesContract, List.forall_mem_cons]
  exact ⟨FieldRule.required_stable ((documentId_tests _).stable fun h => by cases h.1),
    FieldRule.defaulted_stable (productGroup_tests.stable fun h => by cases h.1), by simp⟩

/-- What the contract gives it gives again. -/
theorem validateM4JobPayload_stable (type : AgentJobType) : (validateM4JobPayload type).Stable := by
  cases type with
  | documentList => exact documentListContract_stable
  | documentInfo => exact documentInfoContract_stable
  | documentCises => exact documentCisesContract_stable
  | _ =>
    intro v w h
    cases h

/-! ## Requests -/

section Requests

variable {payload normalized : Json}

theorem buildDocumentReadSpec_eq {type : AgentJobType}
    (h : validateM4JobPayload type payload = .ok normalized) :
    buildDocumentReadSpec type normalized = documentSpecOf type normalized := by
  rw [buildDocumentReadSpec, (validateM4JobPayload_stable type _ _ h).1]
  rfl

/-- A target begins with its path and the mark of a query. -/
theorem isPrefixOf_query {path : String} {pairs : List Url.Pair} (hpairs : pairs ≠ []) :
    (path ++ "?").toList.isPrefixOf (query path pairs).toList = true := by
  rw [query, withQuery_toList hpairs, List.isPrefixOf_iff_prefix, String.toList_append]
  exact ⟨Url.urlencode Url.quote pairs, by simp⟩

/-- A pair that is not changed by quoting stands in the target. -/
theorem contains_query {path text : String} {pairs : List Url.Pair} {pair : Url.Pair}
    (hpair : pair ∈ pairs) (htext : Url.pairText Url.quote pair = text.toList) :
    Text.contains text (query path pairs) = true := by
  rw [query, Text.contains, withQuery_toList (List.ne_nil_of_mem hpair), decide_eq_true_iff, ← htext]
  refine (Url.pairText_infix_urlencode hpair).trans ?_
  exact ((List.suffix_cons _ _).trans (List.suffix_append _ _)).isInfix

/-- The limit of a list has at most four digits. -/
theorem documentList_limit (h : documentListContract.check payload = .ok normalized) :
    ∃ limit, intText (intOf (normalized.get "limit")) = .ok limit := by
  obtain ⟨root, out, rfl, -, hout, -, rfl⟩ := ObjectContract.check_eq_ok.mp h
  have hkeys : (documentListContract.rules.map FieldRule.key).Nodup := by decide
  obtain ⟨value, hread, hvalue⟩ := (Json.normalize_lookup hkeys hout).1
    (.defaulted "limit" (.int 50) (checkThat (isInt fun i => 1 ≤ i && i ≤ 1000)
      (contractError "limit must be 1..1000"))) (by simp [documentListContract])
  obtain ⟨v, rfl, -, haccepts⟩ := FieldRule.defaulted_get (checkThat_tests _ _) hread
  obtain ⟨i, rfl, hrange⟩ := isInt_eq_true.mp haccepts
  simp only [Bool.and_eq_true, decide_eq_true_eq] at hrange
  have hget : (Json.obj out).get "limit" = .int i := by
    change (Json.lookup out "limit").getD .null = _
    rw [show Json.lookup out "limit" = some (.int i) from hvalue]
    rfl
  have hsmall : i.natAbs < 10 ^ 5 := by omega
  rw [hget]
  exact ⟨toString i, intText_of_lt hsmall⟩

theorem documentList_admitted (h : documentListContract.check payload = .ok normalized) :
    ∃ spec, documentSpecOf .documentList normalized = .ok spec ∧
      isAllowedDocumentTarget spec = true := by
  obtain ⟨limit, hlimit⟩ := documentList_limit h
  refine ⟨_, bind_eq_ok.mpr ⟨limit, hlimit, rfl⟩, ?_⟩
  unfold isAllowedDocumentTarget
  rw [if_neg (by simp [AgentJobType.family])]
  dsimp only
  have hpair : Url.pairText Url.quote ("pg", m4ProductGroup) = "pg=lp".toList := by decide
  rw [Bool.and_eq_true]
  exact ⟨isPrefixOf_query (by simp), contains_query (by simp) hpair⟩

/-- The identifier of a document is kept. -/
theorem documentId_kept {rules : List (FieldRule PyError)} {root out : List (String × Json)}
    (hkeys : (rules.map FieldRule.key).Nodup) (hout : Json.normalize rules root = .ok out)
    (hrule : FieldRule.required "document_id" (documentId "document_id") ∈ rules) :
    ∃ text, Json.lookup out "document_id" = some (.str text) ∧
      (Json.lookup root "document_id").getD .null = .str text ∧ isToken 256 text = true := by
  obtain ⟨value, hread, hvalue⟩ := (Json.normalize_lookup hkeys hout).1 _ hrule
  obtain ⟨v, rfl, hgiven, htext, hid⟩ := FieldRule.required_get (documentId_tests _) hread
  obtain ⟨text, rfl, -⟩ := isText_eq_true.mp htext
  exact ⟨text, hvalue, hgiven, hid⟩

theorem documentCises_admitted (h : documentCisesContract.check payload = .ok normalized) :
    ∃ spec, documentSpecOf .documentCises normalized = .ok spec ∧
      isAllowedDocumentTarget spec = true := by
  obtain ⟨root, out, rfl, -, hout, -, rfl⟩ := ObjectContract.check_eq_ok.mp h
  have hkeys : (documentCisesContract.rules.map FieldRule.key).Nodup := by decide
  obtain ⟨value, hread, hvalue⟩ := (Json.normalize_lookup hkeys hout).1
    (.defaulted "product_group" (.str m4ProductGroup) productGroup) (by simp [documentCisesContract])
  obtain ⟨v, rfl, -, -, hgroup⟩ := FieldRule.defaulted_get productGroup_tests hread
  obtain ⟨text, htext, rfl⟩ := isOneOf_eq_true.mp hgroup
  obtain rfl := List.mem_singleton.mp htext
  refine ⟨_, rfl, ?_⟩
  unfold isAllowedDocumentTarget
  rw [if_neg (by simp [AgentJobType.family])]
  dsimp only
  have hpair : Url.pairText Url.quote ("productGroup", m4ProductGroup) =
      "productGroup=lp".toList := by decide
  rw [Bool.and_eq_true]
  refine ⟨isPrefixOf_query (by simp), contains_query ?_ hpair⟩
  have hget : (Json.obj out).get "product_group" = .str m4ProductGroup := by
    change (Json.lookup out "product_group").getD .null = _
    rw [show Json.lookup out "product_group" = some (.str m4ProductGroup) from hvalue]
    rfl
  rw [hget]
  simp [strText, Json.str?, m4ProductGroup]

/-! ### Informations -/

/-- A token without a colon is left as it is by quoting. -/
theorem quote_token {text : String} (h : isToken 256 text = true) (hcolon : ':' ∉ text.toList) :
    Url.quote text.toList = text.toList := by
  refine Url.quote_eq_self fun c hc => ?_
  simp only [isToken, Bool.and_eq_true, List.all_eq_true] at h
  have hchar := h.2 c hc
  have hne : c ≠ ':' := fun heq => hcolon (heq ▸ hc)
  simp only [Bool.or_eq_true, Bool.and_eq_true, decide_eq_true_eq, hne, or_false] at hchar
  simp only [Url.isUnreserved, Bool.or_eq_true, Bool.and_eq_true, decide_eq_true_eq]
  tauto

/-- A colon is quoted, with a percent sign, which no token has. -/
theorem isToken_quote_iff {text : String} (h : isToken 256 text = true) :
    isToken 256 (String.ofList (Url.quote text.toList)) = true ↔ ':' ∉ text.toList := by
  constructor
  · intro hquoted hcolon
    have hpercent : '%' ∈ Url.quote text.toList :=
      Url.percent_mem_quote hcolon (by decide) (by decide)
    simp only [isToken, Bool.and_eq_true, List.all_eq_true, String.toList_ofList] at hquoted
    exact absurd (hquoted.2 _ hpercent) (by decide)
  · intro hcolon
    rw [quote_token h hcolon, String.ofList_toList]
    exact h

/-- What follows the identifier in the request of an information. -/
theorem isInfoRest_query (body content : Json) : isInfoRest ("/info".toList ++ '?' ::
    Url.urlencode Url.quote [("body", boolText body), ("content", boolText content)]) = true := by
  have hbool : ∀ value : Json, boolText value = "true" ∨ boolText value = "false" := by
    intro value
    unfold boolText
    split
    · exact .inl rfl
    · exact .inr rfl
  rcases hbool body with hbody | hbody <;> rcases hbool content with hcontent | hcontent <;>
    rw [hbody, hcontent] <;> decide

theorem matchesDocumentInfo_iff {text : String} (h : isToken 256 text = true) (body content : Json) :
    matchesDocumentInfo (query
        ("/api/v4/true-api/doc/" ++ String.ofList (Url.quote text.toList) ++ "/info")
        [("body", boolText body), ("content", boolText content)]).toList = true ↔
      ':' ∉ text.toList := by
  have hslash : ∀ c ∈ Url.quote text.toList, decide (c ≠ '/') = true := by
    intro c hc
    have hquoted := Url.isQuoted_quote hc
    refine decide_eq_true ?_
    rintro rfl
    exact absurd hquoted (by decide)
  have htarget : (query
      ("/api/v4/true-api/doc/" ++ String.ofList (Url.quote text.toList) ++ "/info")
      [("body", boolText body), ("content", boolText content)]).toList =
      "/api/v4/true-api/doc/".toList ++ (Url.quote text.toList ++ ("/info".toList ++ '?' ::
        Url.urlencode Url.quote [("body", boolText body), ("content", boolText content)])) := by
    rw [query, withQuery_toList (by simp)]
    simp only [String.toList_append, String.toList_ofList, List.append_assoc]
  have hspan : (Url.quote text.toList ++ ("/info".toList ++ '?' ::
        Url.urlencode Url.quote [("body", boolText body), ("content", boolText content)])).span
      (fun c => decide (c ≠ '/')) = (Url.quote text.toList, "/info".toList ++ '?' ::
        Url.urlencode Url.quote [("body", boolText body), ("content", boolText content)]) := by
    rw [List.span_eq_takeWhile_dropWhile, List.takeWhile_append_of_pos hslash,
      List.dropWhile_append_of_pos hslash]
    simp
  rw [matchesDocumentInfo, htarget]
  simp only [List.drop_left', hspan, isInfoRest_query, Bool.and_true]
  rw [Bool.and_eq_true, isToken_quote_iff h]
  simp

theorem documentInfo_admitted_iff (h : documentInfoContract.check payload = .ok normalized) :
    (∃ spec, documentSpecOf .documentInfo normalized = .ok spec ∧
      isAllowedDocumentTarget spec = true) ↔ ':' ∉ (strText (payload.get "document_id")).toList := by
  obtain ⟨root, out, rfl, -, hout, -, rfl⟩ := ObjectContract.check_eq_ok.mp h
  have hkeys : (documentInfoContract.rules.map FieldRule.key).Nodup := by decide
  obtain ⟨text, hkept, hgiven, htoken⟩ := documentId_kept hkeys hout List.mem_cons_self
  have hpayload : (Json.obj root).get "document_id" = .str text := hgiven
  have hnormalized : (Json.obj out).get "document_id" = .str text := by
    change (Json.lookup out "document_id").getD .null = _
    rw [hkept, Option.getD_some]
  rw [hpayload]
  refine Iff.trans ?_ (matchesDocumentInfo_iff htoken ((Json.obj out).get "body")
    ((Json.obj out).get "content"))
  unfold documentSpecOf
  dsimp only
  rw [hnormalized]
  constructor
  · rintro ⟨spec, hspec, hallowed⟩
    obtain rfl := Except.ok.inj hspec
    unfold isAllowedDocumentTarget at hallowed
    rwa [if_neg (by simp [AgentJobType.family])] at hallowed
  · intro hmatches
    refine ⟨_, rfl, ?_⟩
    unfold isAllowedDocumentTarget
    rwa [if_neg (by simp [AgentJobType.family])]

/-- Which payloads of the contract have a request that is let through. -/
def Admissible (type : AgentJobType) (payload : Json) : Prop :=
  type = .documentInfo → ':' ∉ (strText (payload.get "document_id")).toList

theorem document_admitted_iff {type : AgentJobType}
    (h : validateM4JobPayload type payload = .ok normalized) :
    (∃ spec, buildDocumentReadSpec type normalized = .ok spec ∧
      isAllowedDocumentTarget spec = true) ↔ Admissible type payload := by
  rw [buildDocumentReadSpec_eq h]
  cases type with
  | documentList => exact iff_of_true (documentList_admitted h) nofun
  | documentInfo => exact (documentInfo_admitted_iff h).trans ⟨fun h _ => h, fun h => h rfl⟩
  | documentCises => exact iff_of_true (documentCises_admitted h) nofun
  | _ => cases h

theorem document_admitted_iff_sample : ∃ normalized,
    validateM4JobPayload .documentInfo (.obj [("document_id", .str "a:b")]) = .ok normalized ∧
    ((∃ spec, buildDocumentReadSpec .documentInfo normalized = .ok spec ∧
        isAllowedDocumentTarget spec = true) ↔
      Admissible .documentInfo (.obj [("document_id", .str "a:b")])) := by
  have hsome : (validateM4JobPayload .documentInfo
      (.obj [("document_id", .str "a:b")])).toOption.isSome = true := by decide +kernel
  obtain ⟨normalized, hnormalized⟩ := Option.isSome_iff_exists.mp hsome
  have h := Fallible.toOption_eq_some.mp hnormalized
  exact ⟨normalized, h, document_admitted_iff h⟩

end Requests

end Wbcz.DocumentLifecycle

import Wbcz.ReadJobs.Requests
import Wbcz.Reports.RateLimiter

/-!
# Requests for reports

The agent jobs of `m11_reports.py`: the contracts of their payloads, and the requests to the
dispenser that are built from them. A tuple of a payload is any value that Python goes through: an
array, the characters of a text, the keys of an object.
-/

namespace Wbcz.ReportPayloads

open Fallible (bind_eq_ok ensure)
open Json (Check FieldRule)
open Reports.RateLimiter (DispenserCapabilityName)

def contractError (message : String) : PyError := ⟨.other "ReportContractError", message⟩

def lpProductGroupCode : String := "1"

def filteredCisLpPackageTypes : List String := ["UNIT", "SET", "BUNDLE", "BOX", "ATK"]

def filteredCisLpStatuses : List String :=
  ["EMITTED", "APPLIED", "INTRODUCED", "WRITTEN_OFF", "RETIRED", "DISAGGREGATION"]

/-! ## Filters -/

mutual

/-- `repr` of a value, where it does not raise. -/
def reprValue : Json → Except PyError String
  | .null => .ok "None"
  | .bool true => .ok "True"
  | .bool false => .ok "False"
  | .int i => intText i
  | .float text => .ok text
  | .str text => .ok (reprText text)
  | .arr items => do
    let texts ← reprItems items
    pure ("[" ++ ", ".intercalate texts ++ "]")
  | .obj fields => do
    let texts ← reprFields fields
    pure ("\x7b" ++ ", ".intercalate texts ++ "\x7d")

def reprItems : List Json → Except PyError (List String)
  | [] => .ok []
  | item :: items => do
    let text ← reprValue item
    let texts ← reprItems items
    pure (text :: texts)

def reprFields : List (String × Json) → Except PyError (List String)
  | [] => .ok []
  | (key, value) :: fields => do
    let text ← reprValue value
    let texts ← reprFields fields
    pure ((reprText key ++ ": " ++ text) :: texts)

end

/-- `str(value or "")`. -/
def participantText : Check PyError := fun value =>
  if value.truthy = false then .ok (.str "")
  else
    match value with
    | .str _ => .ok value
    | _ => .str <$> reprValue value

/-- `tuple(value or ())`. -/
def tupleItems (value : Json) : Except PyError (List Json) :=
  if value.truthy = false then .ok []
  else
    match value with
    | .arr items => .ok items
    | .str text => .ok (text.toList.map fun c => .str (String.singleton c))
    | .obj fields => .ok (fields.map fun field => .str field.1)
    | _ => .error ⟨.typeError, ""⟩

/-- A tuple, as the list that is made of it. -/
def tupleList : Check PyError := fun value => .arr <$> tupleItems value

/-- A text, and `None` in place of another value. -/
def textOrNone (key : String) : FieldRule PyError where
  key
  read root :=
    match Json.lookup root key with
    | some (.str text) => .ok (some (.str text))
    | _ => .ok (some .null)

/-- The text matches `\d\x7b10\x7d|\d\x7b12\x7d`. -/
def isParticipantInn (text : String) : Bool :=
  text.toList.all Text.isDecimal && (text.length = 10 || text.length = 12)

/-- `FilteredCisFilters.validate`. -/
def validateFilters (filters : List (String × Json)) : Except PyError Unit := do
  let given (key : String) : Json := (Json.lookup filters key).getD .null
  ensure (isParticipantInn (strText (given "participant_inn")) = true)
    (contractError "participant_inn must be 10 or 12 digits")
  ensure (itemsOf (given "package_type") ≠ []) (contractError "packageType is required")
  ensure ((itemsOf (given "package_type")).all (isOneOf filteredCisLpPackageTypes) = true)
    (contractError "packageType is not request-safe for LP")
  ensure (isOneOf filteredCisLpStatuses (given "status") = true)
    (contractError "status is not allowed for LP FILTERED_CIS_REPORT")
  ensure ((itemsOf (given "include_gtin")).length ≤ 1000) (contractError "includeGtin max 1000")
  ensure ((itemsOf (given "include_gtin")).all (fun gtin => isText gtin && Text.isdigit (strText gtin)) =
      true) (contractError "includeGtin values must be digit strings")

def filtersContract : ObjectContract where
  error _ := contractError "FILTERED_CIS_REPORT filters required"
  label := ""
  before filters := ensure
    (unknownKeys filters ["participant_inn", "package_type", "status", "include_gtin"] = [])
    (contractError "raw/arbitrary recipe params denied")
  rules := [.required "participant_inn" participantText,
    .required "package_type" tupleList,
    textOrNone "status",
    .required "include_gtin" tupleList]
  after := validateFilters

/-! ## Contracts -/

/-- `_opaque_id`. -/
def opaqueId (label : String) : Check PyError :=
  checkThat (fun v => (v.str?.any (isToken 256))) (contractError ("invalid " ++ label))

/-- `_product_group_code`. -/
def productGroupCode : Check PyError := fun value =>
  if isInt (fun i => i = 1) value || isOneOf [lpProductGroupCode] value then
    .ok (.str lpProductGroupCode)
  else .error (contractError "FILTERED_CIS_REPORT is fixed to LP productGroupCode=1")

/-- The field that every payload has. -/
def localReportJobId : FieldRule PyError :=
  .required "local_report_job_id" (checkThat (fun v => v.str?.any (isToken 64))
    (contractError "local_report_job_id invalid"))

/-- The fields of these rules are looked at. -/
def checkFirst (rules : List (FieldRule PyError)) (root : List (String × Json)) :
    Except PyError Unit :=
  rules.forM fun rule => do
    let _ ← rule.read root
    pure ()

/-- A payload: the common field is looked at first, then the keys, then some of the fields. -/
def reportContract (allowed : List String) (unsupported : String) (first : List (FieldRule PyError))
    (last : List (String × Json) → Except PyError Unit) (rules : List (FieldRule PyError)) :
    ObjectContract where
  error _ := contractError "report payload must be object"
  label := ""
  before root := do
    checkFirst [localReportJobId] root
    ensure (unknownKeys root ("local_report_job_id" :: allowed) = []) (contractError unsupported)
    checkFirst first root
    last root
  rules := localReportJobId :: rules

def recipeRule : FieldRule PyError :=
  .required "recipe" (checkThat (isOneOf ["FILTERED_CIS_REPORT"])
    (contractError "unsupported or disabled recipe"))

def filtersRule : FieldRule PyError := .required "filters" filtersContract.check

def createContract : ObjectContract :=
  reportContract ["recipe", "product_group_code", "filters"]
    "REPORT_CREATE contains unsupported fields" [recipeRule, filtersRule] (fun _ => .ok ())
    [recipeRule, .required "product_group_code" productGroupCode, filtersRule]

/-- The product group, which may be left open. -/
def productGroupRule : FieldRule PyError := .nullable "product_group_code" productGroupCode

def taskGetContract : ObjectContract :=
  reportContract ["task_id", "product_group_code"] "REPORT_TASK_GET contains unsupported fields" []
    (fun _ => .ok ()) [.required "task_id" (opaqueId "task_id"), productGroupRule]

/-- The page and the size of a list. -/
def pageRules : List (FieldRule PyError) :=
  [.required "page" (checkThat (isInt fun i => 0 ≤ i) (contractError "page/size invalid")),
    .required "size" (checkThat (isInt fun i => 0 < i) (contractError "page/size invalid")),
    productGroupRule]

/-- The list of tasks is not asked for by their identifiers. -/
def noTaskIds (root : List (String × Json)) : Except PyError Unit :=
  ensure (((Json.lookup root "task_ids").getD .null).truthy = false)
    (contractError "task_ids unsupported for task list")

def taskListContract : ObjectContract :=
  reportContract ["page", "size", "product_group_code", "task_ids"]
    "REPORT_TASK_LIST contains unsupported fields" pageRules noTaskIds pageRules

def resultsContract : ObjectContract :=
  reportContract ["page", "size", "product_group_code", "task_ids"]
    "REPORT_RESULTS contains unsupported fields" [] (fun _ => .ok ())
    (pageRules ++ [.required "task_ids"
      (tupleList.andThen (eachItem (fun _ => opaqueId "task_id") "task_ids"))])

/-- The text matches `upl_[A-Fa-f0-9]\x7b32\x7d`. -/
def isUploadId (text : String) : Bool :=
  "upl_".toList.isPrefixOf text.toList && text.length = 36 && (text.toList.drop 4).all fun c =>
    (65 ≤ c.toNat && c.toNat ≤ 70) || (97 ≤ c.toNat && c.toNat ≤ 102) || Text.isAsciiDigit c

/-- The fields of a download that are looked at before the others. -/
def downloadRules : List (FieldRule PyError) :=
  [.required "artifact_upload_id" (checkThat (fun v => v.str?.any isUploadId)
      (contractError "artifact_upload_id invalid")),
    .nullable "expected_archive_size" (checkThat (isInt fun i => 0 ≤ i)
      (contractError "expected_archive_size invalid")),
    .nullable "download_format" (checkThat (isOneOf ["XLSX"])
      (contractError "download_format unsupported"))]

def downloadContract : ObjectContract :=
  reportContract ["result_id", "result_part_id", "product_group_code", "artifact_upload_id",
      "expected_archive_size", "download_format"]
    "REPORT_DOWNLOAD contains unsupported fields" downloadRules (fun _ => .ok ())
    ([.required "result_id" (opaqueId "result_id"),
      .nullable "result_part_id" (opaqueId "result_part_id"), productGroupRule] ++ downloadRules)

def quotaTypeContract : ObjectContract :=
  reportContract ["task_type_short_name", "product_group_code"]
    "REPORT_QUOTA_TYPE contains unsupported fields" [] (fun _ => .ok ())
    [.required "task_type_short_name" (checkThat (isOneOf ["FILTERED_CIS_REPORT"])
      (contractError "unsupported task type quota")), productGroupRule]

def quotaIdContract : ObjectContract :=
  reportContract ["report_id", "product_group_code"] "REPORT_QUOTA_ID contains unsupported fields" []
    (fun _ => .ok ()) [.required "report_id" (opaqueId "report_id"), productGroupRule]

/-- `validate_report_agent_payload`. -/
def validateReportAgentPayload (type : AgentJobType) : Check PyError :=
  match type with
  | .reportCreate => createContract.check
  | .reportTaskGet => taskGetContract.check
  | .reportTaskList => taskListContract.check
  | .reportResults => resultsContract.check
  | .reportDownload => downloadContract.check
  | .reportQuotaType => quotaTypeContract.check
  | .reportQuotaId => quotaIdContract.check
  | _ => fun _ => .error (contractError "unknown report agent job type")

/-! ## Requests -/

structure DispenserRequestSpec where
  capability : DispenserCapabilityName
  method : String
  target : String
  jsonBody : Json
  auditEndpoint : String
  rateFamily : String

/-- The path of a capability, with a name in braces for what differs. -/
def pathTemplate : DispenserCapabilityName → String
  | .createExport | .listTasks => "/api/v3/true-api/dispenser/tasks"
  | .getTask => "/api/v3/true-api/dispenser/tasks/\x7btaskId\x7d"
  | .listResults => "/api/v3/true-api/dispenser/results"
  | .downloadResult => "/api/v3/true-api/dispenser/results/\x7bresultId\x7d/file"
  | .quotaByTaskType => "/api/v3/true-api/dispenser/tasktypes/available_count"
  | .quotaByReport =>
    "/api/v3/true-api/dispenser/tasktypes/reports/\x7breport_id\x7d/available_count"
  | .remoteResultDelete => "/api/v3/true-api/dispenser/results/\x7bresultId\x7d"

def method : DispenserCapabilityName → String
  | .createExport => "POST"
  | .remoteResultDelete => "DELETE"
  | _ => "GET"

/-- `text.replace(old, new)` from the left, of a text of at most so many characters. -/
def replaced (old new : List Char) : ℕ → List Char → List Char
  | 0, text => text
  | _ + 1, [] => []
  | fuel + 1, c :: cs =>
    if old.isPrefixOf (c :: cs) then new ++ replaced old new fuel ((c :: cs).drop old.length)
    else c :: replaced old new fuel cs

/-- The path of a capability, with a value in place of the name. -/
def filledPath (capability : DispenserCapabilityName) (name value : String) : String :=
  let template := (pathTemplate capability).toList
  String.ofList (replaced ("\x7b" ++ name ++ "\x7d").toList value.toList template.length template)

/-- `build_filtered_cis_create_body`. -/
def buildFilteredCisCreateBody (productGroupCode : Json) (filters : List (String × Json)) :
    Except PyError Json := do
  let _ ← ReportPayloads.productGroupCode productGroupCode
  validateFilters filters
  let given (key : String) : Json := (Json.lookup filters key).getD .null
  let gtins := itemsOf (given "include_gtin")
  let params := Json.obj ([("participantInn", given "participant_inn"),
    ("packageType", given "package_type"), ("status", given "status")] ++
      if gtins = [] then [] else [("includeGtin", .arr gtins)])
  pure (.obj [("format", .str "CSV"), ("name", .str "FILTERED_CIS_REPORT"),
    ("periodicity", .str "SINGLE"), ("productGroupCode", .str lpProductGroupCode),
    ("params", .str params.canonical)])

/-- The fields of an object. -/
def fieldsOf : Json → List (String × Json)
  | .obj fields => fields
  | _ => []

/-- A request with a query. -/
def specOf (capability : DispenserCapabilityName) (path : String) (pairs : List Url.Pair) (body : Json)
    (auditEndpoint : String) : DispenserRequestSpec :=
  ⟨capability, method capability, withQuery Url.quotePlus path pairs, body, auditEndpoint,
    capability.capability.rateFamily⟩

/-- The request of a payload that the contract has given. -/
def dispenserSpecOf (type : AgentJobType) (p : Json) : Except PyError DispenserRequestSpec := do
  let text (key : String) : String := strText (p.get key)
  let pg := namedPair p "product_group_code" "pg"
  match type with
  | .reportCreate =>
    let body ← buildFilteredCisCreateBody (p.get "product_group_code") (fieldsOf (p.get "filters"))
    pure (specOf .createExport (pathTemplate .createExport) [] body "/dispenser/tasks")
  | .reportTaskGet =>
    pure (specOf .getTask (filledPath .getTask "taskId" (text "task_id")) pg .null
      "/dispenser/tasks/\x7btaskId\x7d")
  | .reportTaskList =>
    let page ← intText (intOf (p.get "page"))
    let size ← intText (intOf (p.get "size"))
    pure (specOf .listTasks (pathTemplate .listTasks) ([("page", page), ("size", size)] ++ pg) .null
      "/dispenser/tasks")
  | .reportResults =>
    let page ← intText (intOf (p.get "page"))
    let size ← intText (intOf (p.get "size"))
    let ids := (itemsOf (p.get "task_ids")).map fun id => ("task_ids", strText id)
    pure (specOf .listResults (pathTemplate .listResults)
      ([("page", page), ("size", size)] ++ pg ++ ids) .null "/dispenser/results")
  | .reportDownload =>
    pure (specOf .downloadResult (filledPath .downloadResult "resultId" (text "result_id"))
      (pg ++ namedPair p "download_format" "downloadFormat" ++
        namedPair p "result_part_id" "resultFilePartId") .null
      "/dispenser/results/\x7bresultId\x7d/file")
  | .reportQuotaType =>
    pure (specOf .quotaByTaskType (pathTemplate .quotaByTaskType)
      ([("taskTypeShortName", text "task_type_short_name")] ++ pg) .null
      "/dispenser/tasktypes/available_count")
  | .reportQuotaId =>
    pure (specOf .quotaByReport (filledPath .quotaByReport "report_id" (text "report_id")) pg .null
      "/dispenser/tasktypes/reports/\x7breport_id\x7d/available_count")
  | _ => .error (contractError "job type has no executable dispenser spec")

/-- `build_dispenser_spec`. -/
def buildDispenserSpec (type : AgentJobType) (payload : Json) :
    Except PyError DispenserRequestSpec := do
  let p ← validateReportAgentPayload type payload
  dispenserSpecOf type p

/-! ## Stable contracts -/

theorem participantText_stable : participantText.Stable := by
  intro v w h
  have hsame : ∀ text : String, participantText (.str text) = .ok (.str text) := by
    intro text
    by_cases htext : text = ""
    · subst htext
      rfl
    · have htruthy : (Json.str text).truthy = true := decide_eq_true htext
      simp [participantText, htruthy]
  have htext : ∃ text, w = .str text := by
    unfold participantText at h
    split at h
    · exact ⟨"", (Except.ok.inj h).symm⟩
    · split at h
      · exact ⟨_, (Except.ok.inj h).symm⟩
      · obtain ⟨text, -, rfl⟩ := Fallible.map_eq_ok.mp h
        exact ⟨text, rfl⟩
  obtain ⟨text, rfl⟩ := htext
  exact ⟨hsame text, by simp⟩

theorem tupleList_arr (items : List Json) : tupleList (.arr items) = .ok (.arr items) := by
  cases items <;> rfl

theorem tupleList_stable : tupleList.Stable := by
  intro v w h
  obtain ⟨items, -, rfl⟩ := Fallible.map_eq_ok.mp h
  exact ⟨tupleList_arr items, by simp⟩

theorem textOrNone_stable {key : String} {keys : List String} : (textOrNone key).StableIn keys := by
  intro root value out hread hlookup _
  change Json.lookup out key = value at hlookup
  unfold textOrNone at hread ⊢
  dsimp only at hread ⊢
  rw [hlookup]
  split at hread
  · obtain rfl := Except.ok.inj hread
    rfl
  · obtain rfl := Except.ok.inj hread
    rfl

theorem filtersContract_stable : filtersContract.check.Stable := by
  have hkeys : (filtersContract.rules.map FieldRule.key).Nodup := by decide
  refine ObjectContract.check_stable hkeys ?_ fun root out _ hout => ?_
  · simp only [filtersContract, List.forall_mem_cons]
    exact ⟨FieldRule.required_stable participantText_stable,
      FieldRule.required_stable tupleList_stable, textOrNone_stable,
      FieldRule.required_stable tupleList_stable, by simp⟩
  · exact Fallible.ensure_eq_ok.mpr (unknownKeys_eq_nil.mpr (Json.normalize_keys hkeys hout))

theorem productGroupCode_stable : productGroupCode.Stable := by
  intro v w h
  unfold productGroupCode at h
  split at h
  · obtain rfl := Except.ok.inj h
    exact ⟨rfl, by simp⟩
  · cases h

theorem opaqueId_tests (label : String) :
    (opaqueId label).Tests fun v => v.str?.any (isToken 256) = true := checkThat_tests _ _

theorem opaqueId_stable (label : String) : (opaqueId label).Stable := checkThat_stable rfl

/-- The items of a tuple that are checked are those of an array. -/
theorem taskIds_stable :
    (tupleList.andThen (eachItem (fun _ => opaqueId "task_id") "task_ids")).Stable := by
  intro v w h
  obtain ⟨tuple, htuple, h⟩ := bind_eq_ok.mp h
  obtain ⟨items, -, rfl⟩ := Fallible.map_eq_ok.mp htuple
  obtain ⟨rfl, -⟩ := (eachItem_tests (fun _ => opaqueId_tests "task_id") _ _ _).mp h
  exact ⟨bind_eq_ok.mpr ⟨_, tupleList_arr items, h⟩, by simp⟩

/-- Fields that are looked at first are read of the object that is made. -/
theorem checkFirst_normalize {rules first : List (FieldRule PyError)} {root out : List (String × Json)}
    (hkeys : (rules.map FieldRule.key).Nodup)
    (hstable : ∀ rule ∈ rules, rule.StableIn (rules.map FieldRule.key))
    (hfirst : ∀ rule ∈ first, rule ∈ rules) (hout : Json.normalize rules root = .ok out) :
    checkFirst first out = .ok () := by
  refine Fallible.forM_eq_ok.mpr fun rule hrule => ?_
  obtain ⟨hrules, hothers⟩ := Json.normalize_lookup hkeys hout
  obtain ⟨value, hread, hvalue⟩ := hrules rule (hfirst rule hrule)
  have hsame := hstable rule (hfirst rule hrule) root value out hread hvalue hothers
  exact bind_eq_ok.mpr ⟨value, hsame, rfl⟩

theorem localReportJobId_stable {keys : List String} : localReportJobId.StableIn keys :=
  FieldRule.required_stable (checkThat_stable rfl)

theorem recipeRule_stable {keys : List String} : recipeRule.StableIn keys :=
  FieldRule.required_stable (checkThat_stable rfl)

theorem filtersRule_stable {keys : List String} : filtersRule.StableIn keys :=
  FieldRule.required_stable filtersContract_stable

theorem productGroupRule_stable {keys : List String} : productGroupRule.StableIn keys :=
  FieldRule.nullable_stable productGroupCode_stable

theorem pageRules_stable {keys : List String} : ∀ rule ∈ pageRules, rule.StableIn keys := by
  simp only [pageRules, List.forall_mem_cons]
  exact ⟨FieldRule.required_stable (checkThat_stable rfl),
    FieldRule.required_stable (checkThat_stable rfl), productGroupRule_stable, by simp⟩

theorem downloadRules_stable {keys : List String} : ∀ rule ∈ downloadRules, rule.StableIn keys := by
  simp only [downloadRules, List.forall_mem_cons]
  exact ⟨FieldRule.required_stable (checkThat_stable rfl),
    FieldRule.nullable_stable (checkThat_stable rfl),
    FieldRule.nullable_stable (checkThat_stable rfl), by simp⟩

/-- A payload with stable rules, of which some are looked at first. -/
theorem reportContract_stable {allowed : List String} {unsupported : String}
    {first rules : List (FieldRule PyError)} {last : List (String × Json) → Except PyError Unit}
    (hkeys : ((localReportJobId :: rules).map FieldRule.key).Nodup)
    (hallowed : ∀ key ∈ rules.map FieldRule.key, key ∈ allowed)
    (hstable : ∀ rule ∈ rules,
      rule.StableIn ((localReportJobId :: rules).map FieldRule.key))
    (hfirst : ∀ rule ∈ first, rule ∈ rules)
    (hlast : ∀ root out, last root = .ok () →
      Json.normalize (localReportJobId :: rules) root = .ok out → last out = .ok ()) :
    (reportContract allowed unsupported first last rules).check.Stable := by
  have hall : ∀ rule ∈ localReportJobId :: rules,
      rule.StableIn ((localReportJobId :: rules).map FieldRule.key) :=
    List.forall_mem_cons.mpr ⟨localReportJobId_stable, hstable⟩
  refine ObjectContract.check_stable hkeys hall fun root out hbefore hout => ?_
  obtain ⟨⟨⟩, -, hbefore⟩ := bind_eq_ok.mp hbefore
  obtain ⟨⟨⟩, -, hbefore⟩ := bind_eq_ok.mp hbefore
  obtain ⟨⟨⟩, -, hbefore⟩ := bind_eq_ok.mp hbefore
  refine bind_eq_ok.mpr ⟨(), ?_, bind_eq_ok.mpr ⟨(), ?_, bind_eq_ok.mpr ⟨(), ?_, ?_⟩⟩⟩
  · exact checkFirst_normalize hkeys hall
      (List.forall_mem_singleton.mpr List.mem_cons_self) hout
  · refine Fallible.ensure_eq_ok.mpr (unknownKeys_eq_nil.mpr fun field hfield => ?_)
    rcases List.mem_cons.mp (Json.normalize_keys hkeys hout field hfield) with hkey | hkey
    · rw [hkey]
      exact List.mem_cons_self
    · exact List.mem_cons_of_mem _ (hallowed _ hkey)
  · exact checkFirst_normalize hkeys hall
      (fun rule hrule => List.mem_cons_of_mem _ (hfirst rule hrule)) hout
  · exact hlast root out hbefore hout

theorem createContract_stable : createContract.check.Stable := by
  refine reportContract_stable (by decide) (by decide) ?_ ?_ fun _ _ _ _ => rfl
  · simp only [List.forall_mem_cons]
    exact ⟨recipeRule_stable, FieldRule.required_stable productGroupCode_stable, filtersRule_stable,
      by simp⟩
  · simp

theorem taskGetContract_stable : taskGetContract.check.Stable := by
  refine reportContract_stable (by decide) (by decide) ?_ (by simp) fun _ _ _ _ => rfl
  simp only [List.forall_mem_cons]
  exact ⟨FieldRule.required_stable (opaqueId_stable _), productGroupRule_stable, by simp⟩

/-- The identifiers of tasks are not in the object that is made. -/
theorem taskListContract_stable : taskListContract.check.Stable := by
  have hkeys : ((localReportJobId :: pageRules).map FieldRule.key).Nodup := by decide
  refine reportContract_stable hkeys (by decide) pageRules_stable (fun _ hrule => hrule)
    fun root out _ hout => ?_
  have hnone := (Json.normalize_lookup hkeys hout).2 "task_ids" (by decide)
  refine Fallible.ensure_eq_ok.mpr ?_
  rw [hnone]
  rfl

theorem resultsContract_stable : resultsContract.check.Stable := by
  refine reportContract_stable (by decide) (by decide) ?_ (by simp) fun _ _ _ _ => rfl
  refine List.forall_mem_append.mpr ⟨pageRules_stable, List.forall_mem_singleton.mpr ?_⟩
  exact FieldRule.required_stable taskIds_stable

theorem downloadContract_stable : downloadContract.check.Stable := by
  refine reportContract_stable (by decide) (by decide) ?_
    (fun _ hrule => List.mem_append_right _ hrule) fun _ _ _ _ => rfl
  refine List.forall_mem_append.mpr ⟨?_, downloadRules_stable⟩
  simp only [List.forall_mem_cons]
  exact ⟨FieldRule.required_stable (opaqueId_stable _),
    FieldRule.nullable_stable (opaqueId_stable _), productGroupRule_stable, by simp⟩

theorem quotaTypeContract_stable : quotaTypeContract.check.Stable := by
  refine reportContract_stable (by decide) (by decide) ?_ (by simp) fun _ _ _ _ => rfl
  simp only [List.forall_mem_cons]
  exact ⟨FieldRule.required_stable (checkThat_stable rfl), productGroupRule_stable, by simp⟩

theorem quotaIdContract_stable : quotaIdContract.check.Stable := by
  refine reportContract_stable (by decide) (by decide) ?_ (by simp) fun _ _ _ _ => rfl
  simp only [List.forall_mem_cons]
  exact ⟨FieldRule.required_stable (opaqueId_stable _), productGroupRule_stable, by simp⟩

/-- What the contract gives it gives again. -/
theorem validateReportAgentPayload_stable (type : AgentJobType) :
    (validateReportAgentPayload type).Stable := by
  cases type with
  | reportCreate => exact createContract_stable
  | reportTaskGet => exact taskGetContract_stable
  | reportTaskList => exact taskListContract_stable
  | reportResults => exact resultsContract_stable
  | reportDownload => exact downloadContract_stable
  | reportQuotaType => exact quotaTypeContract_stable
  | reportQuotaId => exact quotaIdContract_stable
  | _ =>
    intro v w h
    cases h

/-! ## Requests -/

section Requests

variable {payload normalized : Json}

theorem buildDispenserSpec_eq {type : AgentJobType}
    (h : validateReportAgentPayload type payload = .ok normalized) :
    buildDispenserSpec type normalized = dispenserSpecOf type normalized := by
  rw [buildDispenserSpec, (validateReportAgentPayload_stable type _ _ h).1]
  rfl

/-- The body of a task is built of filters that passed. -/
theorem createBody_of_filters {filters : List (String × Json)}
    (h : validateFilters filters = .ok ()) :
    ∃ body, buildFilteredCisCreateBody (.str lpProductGroupCode) filters = .ok body :=
  ⟨_, bind_eq_ok.mpr ⟨_, rfl, bind_eq_ok.mpr ⟨(), h, rfl⟩⟩⟩

theorem create_built (h : createContract.check payload = .ok normalized) :
    ∃ spec, dispenserSpecOf .reportCreate normalized = .ok spec := by
  have hkeys : (createContract.rules.map FieldRule.key).Nodup := by decide
  obtain ⟨root, out, rfl, -, hout, -, rfl⟩ := ObjectContract.check_eq_ok.mp h
  obtain ⟨hrules, -⟩ := Json.normalize_lookup hkeys hout
  obtain ⟨_, hgroup, hgroupValue⟩ := hrules (.required "product_group_code" productGroupCode)
    (by simp [createContract, reportContract])
  obtain ⟨group, hcode, rfl⟩ := Json.map_some_eq_ok.mp hgroup
  obtain ⟨_, hread, hfilters⟩ := hrules filtersRule (by simp [createContract, reportContract])
  obtain ⟨filters, hchecked, rfl⟩ := Json.map_some_eq_ok.mp hread
  obtain ⟨given, made, -, -, -, hvalid, rfl⟩ := ObjectContract.check_eq_ok.mp hchecked
  have hgroupText : group = .str lpProductGroupCode := by
    unfold productGroupCode at hcode
    split at hcode
    · exact (Except.ok.inj hcode).symm
    · cases hcode
  obtain ⟨body, hbody⟩ := createBody_of_filters hvalid
  refine ⟨_, bind_eq_ok.mpr ⟨body, ?_, rfl⟩⟩
  change buildFilteredCisCreateBody ((Json.lookup out "product_group_code").getD .null)
    (fieldsOf ((Json.lookup out "filters").getD .null)) = _
  rw [show Json.lookup out "product_group_code" = some group from hgroupValue,
    show Json.lookup out "filters" = some (.obj made) from hfilters, hgroupText]
  exact hbody

/-- The page and the size are integers, and kept. -/
theorem page_kept {contract : ObjectContract} (hkeys : (contract.rules.map FieldRule.key).Nodup)
    (hpages : ∀ rule ∈ pageRules, rule ∈ contract.rules)
    (h : contract.check payload = .ok normalized) :
    ∃ page size : ℤ, normalized.get "page" = .int page ∧ payload.get "page" = .int page ∧
      normalized.get "size" = .int size ∧ payload.get "size" = .int size := by
  obtain ⟨hpage, hpageInt⟩ := ObjectContract.required_get hkeys h
    (hpages _ List.mem_cons_self) (checkThat_tests _ _)
  obtain ⟨hsize, hsizeInt⟩ := ObjectContract.required_get hkeys h
    (hpages _ (List.mem_cons_of_mem _ List.mem_cons_self)) (checkThat_tests _ _)
  obtain ⟨page, hpageValue, -⟩ := isInt_eq_true.mp hpageInt
  obtain ⟨size, hsizeValue, -⟩ := isInt_eq_true.mp hsizeInt
  exact ⟨page, size, hpage.trans hpageValue, hpageValue, hsize.trans hsizeValue, hsizeValue⟩

/-- Two numbers can be written when each can. -/
theorem pages_written_iff {α : Type} {page size : ℤ} {make : String → String → α} :
    (∃ spec, (do
      let page ← intText page
      let size ← intText size
      pure (make page size) : Except PyError α) = .ok spec) ↔ Writable page ∧ Writable size := by
  constructor
  · rintro ⟨spec, hspec⟩
    obtain ⟨text, hpage, hspec⟩ := bind_eq_ok.mp hspec
    obtain ⟨other, hsize, -⟩ := bind_eq_ok.mp hspec
    exact ⟨(intText_eq_ok.mp hpage).1, (intText_eq_ok.mp hsize).1⟩
  · rintro ⟨hpage, hsize⟩
    exact ⟨_, bind_eq_ok.mpr ⟨_, intText_eq_ok.mpr ⟨hpage, rfl⟩,
      bind_eq_ok.mpr ⟨_, intText_eq_ok.mpr ⟨hsize, rfl⟩, rfl⟩⟩⟩

/-- Which payloads of the contract have a request. -/
def Admissible (type : AgentJobType) (payload : Json) : Prop :=
  type = .reportTaskList ∨ type = .reportResults →
    IsWritable (payload.get "page") ∧ IsWritable (payload.get "size")

theorem writable_iff_isWritable {i : ℤ} : IsWritable (.int i) ↔ Writable i :=
  ⟨fun h => h i rfl, fun h _ heq => Json.int.inj heq ▸ h⟩

theorem dispenserSpec_iff {type : AgentJobType}
    (h : validateReportAgentPayload type payload = .ok normalized) :
    (∃ spec, buildDispenserSpec type normalized = .ok spec) ↔ Admissible type payload := by
  rw [buildDispenserSpec_eq h]
  cases type with
  | reportCreate => exact iff_of_true (create_built h) (by rintro (h | h) <;> cases h)
  | reportTaskList =>
    have hpages : ∀ rule ∈ pageRules, rule ∈ taskListContract.rules := fun _ hrule =>
      List.mem_cons_of_mem _ hrule
    obtain ⟨page, size, hpage, hgivenPage, hsize, hgivenSize⟩ := page_kept (by decide) hpages h
    rw [Admissible, hgivenPage, hgivenSize, writable_iff_isWritable, writable_iff_isWritable]
    unfold dispenserSpecOf
    rw [hpage, hsize]
    exact pages_written_iff.trans ⟨fun h _ => h, fun h => h (.inl rfl)⟩
  | reportResults =>
    have hpages : ∀ rule ∈ pageRules, rule ∈ resultsContract.rules := fun _ hrule =>
      List.mem_cons_of_mem _ (List.mem_append_left _ hrule)
    obtain ⟨page, size, hpage, hgivenPage, hsize, hgivenSize⟩ := page_kept (by decide) hpages h
    rw [Admissible, hgivenPage, hgivenSize, writable_iff_isWritable, writable_iff_isWritable]
    unfold dispenserSpecOf
    rw [hpage, hsize]
    exact pages_written_iff.trans ⟨fun h _ => h, fun h => h (.inr rfl)⟩
  | reportTaskGet | reportDownload | reportQuotaType | reportQuotaId =>
    exact iff_of_true ⟨_, rfl⟩ (by rintro (h | h) <;> cases h)
  | _ => cases h

def samplePage : Json :=
  .obj [("local_report_job_id", .str "rpt_1"), ("page", .int 0), ("size", .int 20)]

theorem dispenserSpec_iff_sample : ∃ normalized,
    validateReportAgentPayload .reportTaskList samplePage = .ok normalized ∧
    ((∃ spec, buildDispenserSpec .reportTaskList normalized = .ok spec) ↔
      Admissible .reportTaskList samplePage) := by
  have hsome : (validateReportAgentPayload .reportTaskList samplePage).toOption.isSome = true := by
    decide +kernel
  obtain ⟨normalized, hnormalized⟩ := Option.isSome_iff_exists.mp hsome
  have h := Fallible.toOption_eq_some.mp hnormalized
  exact ⟨normalized, h, dispenserSpec_iff h⟩

end Requests

end Wbcz.ReportPayloads

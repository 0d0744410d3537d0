import Wbcz.Lib.Url
import Wbcz.ReadJobs.Checks

/-!
# The inventory of codes

The read jobs of `cis_inventory.py`: the contracts of their payloads, the requests that are built
from them, and the check of a request before it is sent.
-/

namespace Wbcz.CisInventory

open Fallible (bind_eq_ok ensure ensure_eq_ok mapM_mem)
open Json (Check FieldRule)

def contractError (message : String) : PyError := ⟨.cisInventoryContractError, message⟩

def m1ProductGroup : String := "lp"

def payloadMaxBatch : ℕ := 1000

def searchDefaultPerPage : ℤ := 100

def searchMaxPerPage : ℤ := 1000

def cisInfoTarget : String := "/api/v3/true-api/cises/info?pg=lp"

def cisSearchTarget : String := "/api/v4/true-api/cises/search"

def cisHistoryPrefix : String := "/api/v3/true-api/cises/history?cis="

def aggregatedListTarget : String := "/api/v3/true-api/cises/aggregated/list?pg=lp"

def aggregationHistoryTarget : String := "/api/v3/true-api/cises/history/list"

def productInfoTarget : String := "/api/v4/true-api/product/info"

def searchStringArrayFields : List String :=
  ["gtins", "producerInns", "generalPackageTypes", "turnoverTypes", "emissionTypes",
    "productGroups", "eliminationReasons", "serviceProviderTypes", "orderIds"]

def searchBoolFields : List String := ["isAggregated", "haveChildren", "serviceProviderIdPresented"]

def searchPeriodFields : List String :=
  ["emissionDatePeriod", "applicationDatePeriod", "productionDatePeriod", "introducedDatePeriod"]

def searchFilterFields : List String :=
  ["emissionDatePeriod", "applicationDatePeriod", "productionDatePeriod", "introducedDatePeriod",
    "gtins", "producerInns", "generalPackageTypes", "turnoverTypes", "states", "tnVed", "tnVed10",
    "emissionTypes", "isAggregated", "productGroups", "eliminationReasons", "prVetDoc",
    "haveChildren", "serviceProviderIdPresented", "serviceProviderTypes", "orderIds",
    "partyNumber", "mods", "manufacturerInns", "importerInns"]

/-! ## Contracts -/

/-- `_expect_string`. -/
def expectString (label : String) : Check PyError := fun value =>
  match value with
  | .str text =>
    if text = "" then .error (contractError (label ++ " must not be empty")) else .ok value
  | _ => .error (contractError (label ++ " must be a string"))

/-- `_expect_string_array`. -/
def expectStringArray (label : String) (maxItems : Option ℕ) : Check PyError := fun value =>
  match value with
  | .arr items => do
    ensure (∀ n, maxItems = some n → items.length ≤ n)
      (contractError (label ++ " exceeds max " ++ toString (maxItems.getD 0)))
    let items ← checkItems expectString label items
    pure (.arr items)
  | _ => .error (contractError (label ++ " must be an array"))

/-- `_validate_period`. -/
def validatePeriod (label : String) : Check PyError := fun value => do
  let period ← expectObject contractError value label
  ensure (period ≠ []) (contractError (label ++ " must not be empty"))
  ensureKnown contractError period ["from", "to"] (label ++ " has unknown fields")
  let period ← checkFields (fun key => expectString (label ++ "." ++ key)) period
  pure (.obj period)

/-- An item of `_validate_states`. -/
def stateContract (label : String) : ObjectContract where
  error := contractError
  label := label
  before state := ensureKnown contractError state ["status", "statusExt", "isStatusExtNull"]
    (label ++ " has unknown fields")
  rules := [.present "status" (expectString (label ++ ".status")),
    .present "statusExt" (expectString (label ++ ".statusExt")),
    .present "isStatusExtNull"
      (checkThat isBool (contractError (label ++ ".isStatusExtNull must be boolean")))]

/-- `_validate_states`. -/
def validateStates : Check PyError := fun value =>
  match value with
  | .arr items => do
    let items ← checkItems (fun label => (stateContract label).check) "filter.states" items
    pure (.arr items)
  | _ => .error (contractError "filter.states must be an array")

/-- An item of `_validate_mods`. -/
def modContract (label : String) : ObjectContract where
  error := contractError
  label := label
  before mod := ensureKnown contractError mod ["kpp", "fiasId"] (label ++ " has unknown fields")
  rules := [.present "kpp" (expectString (label ++ ".kpp")),
    .present "fiasId" (expectString (label ++ ".fiasId"))]

/-- `_validate_mods`. -/
def validateMods : Check PyError := fun value =>
  match value with
  | .arr items => do
    ensure (items.length ≤ 50) (contractError "filter.mods exceeds max 50")
    let items ← checkItems (fun label => (modContract label).check) "filter.mods" items
    pure (.arr items)
  | _ => .error (contractError "filter.mods must be an array")

/-- A field of the filter. -/
def filterField (key : String) : Check PyError :=
  let label := "filter." ++ key
  if key ∈ searchStringArrayFields then expectStringArray label none
  else if key ∈ searchBoolFields then checkThat isBool (contractError (label ++ " must be boolean"))
  else if key ∈ searchPeriodFields then validatePeriod label
  else if key = "states" then validateStates
  else if key = "mods" then validateMods
  else if key ∈ ["manufacturerInns", "importerInns", "partyNumber", "tnVed", "tnVed10", "prVetDoc"]
  then expectString label
  else fun _ => .error ⟨.other "AssertionError", key⟩

/-- The filter of a search. -/
def validateFilter : Check PyError := fun value => do
  let filters ← expectObject contractError value "filter"
  ensureKnown contractError filters searchFilterFields "unknown search filters"
  ensure (isLpOnly ((Json.lookup filters "productGroups").getD .null) = true)
    (contractError "filter.productGroups must be exactly [\"lp\"]")
  let filters ← checkFields filterField filters
  pure (.obj filters)

/-- The pagination of a search. The keys come in the order of the checks. -/
def paginationContract : ObjectContract where
  error := contractError
  label := "pagination"
  before pagination := do
    ensureKnown contractError pagination ["perPage", "lastEmissionDate", "sgtin", "direction"]
      "unknown pagination fields"
    ensure (hasKey pagination "lastEmissionDate" = true ∧ hasKey pagination "sgtin" = true)
      (contractError "pagination requires lastEmissionDate and sgtin")
  rules := [.defaulted "perPage" (.int searchDefaultPerPage)
      (checkThat (isInt fun i => 1 ≤ i && i ≤ searchMaxPerPage)
        (contractError "pagination.perPage must be 1..1000")),
    .defaulted "direction" (.int 0)
      (checkThat (isInt fun i => i = 0 || i = 1)
        (contractError "pagination.direction must be 0 or 1")),
    .required "lastEmissionDate" (expectString "pagination.lastEmissionDate"),
    .required "sgtin" (expectString "pagination.sgtin")]

/-- `validate_search_request`. -/
def searchContract : ObjectContract where
  error := contractError
  label := "search request"
  before root := do
    ensureKnown contractError root ["filter", "pagination"] "unknown search request fields"
    ensure (hasKey root "filter" = true) (contractError "filter is required")
  rules := [.required "filter" validateFilter, .optional "pagination" paginationContract.check]

def validateSearchRequest : Check PyError := searchContract.check

/-- The texts of an array. -/
def textItems : Json → List String
  | .arr items => items.filterMap Json.str?
  | _ => []

/-- The codes of a payload. -/
def payloadCises : Check PyError := fun value => do
  let items ← expectStringArray "cises" (some payloadMaxBatch) value
  let normalized ← normalizeCises (textItems items)
  pure (.arr (normalized.map .str))

/-- The code of a payload. -/
def payloadCis : Check PyError := fun value => do
  let text ← expectString "cis" value
  let normalized ← normalizeCis (text.str?.getD "")
  pure (.str normalized)

/-- The GTINs of a payload. -/
def payloadGtins : Check PyError := fun value => do
  let gtins ← expectStringArray "gtins" (some payloadMaxBatch) value
  ensure (1 ≤ (textItems gtins).length ∧ (textItems gtins).length ≤ payloadMaxBatch)
    (contractError "product/info gtins must contain 1..1000 values")
  pure gtins

/-- A payload with one field. -/
def onlyContract (type : AgentJobType) (key : String) (check : Check PyError) : ObjectContract where
  error := contractError
  label := "read_payload"
  before root := ensure (hasExactly root [key] = true)
    (contractError (type.value ++ " payload must contain only " ++ key))
  rules := [.required key check]

/-- The payload of `product/info`. -/
def productInfoContract : ObjectContract where
  error := contractError
  label := "read_payload"
  before root := ensure (unknownKeys root ["gtins", "rdInfo"] = [] ∧ hasKey root "gtins" = true)
    (contractError "PRODUCT_INFO payload allows only gtins and rdInfo")
  rules := [.required "gtins" payloadGtins,
    .defaulted "rdInfo" (.bool false) (checkThat isBool (contractError "rdInfo must be boolean"))]

/-- `validate_m1_job_payload`. -/
def validateM1JobPayload (type : AgentJobType) : Check PyError :=
  match type with
  | .cisInfo | .cisAggregatedList | .cisToProduct => (onlyContract type "cises" payloadCises).check
  | .cisHistory | .cisAggregationHistory => (onlyContract type "cis" payloadCis).check
  | .productInfo => productInfoContract.check
  | .cisSearch => (onlyContract type "request" validateSearchRequest).check
  | _ => fun _ => .error (contractError "unsupported M1 read job type")

/-! ## Requests -/

structure TrueApiReadSpec where
  jobType : AgentJobType
  method : String
  target : String
  body : Json
  auditEndpoint : String
  cisCount : ℕ

/-- The request of a payload that the contract has given. -/
def readSpecOf (type : AgentJobType) (normalized : Json) : Except PyError TrueApiReadSpec :=
  let cises := normalized.get "cises"
  let count := (textItems cises).length
  match type with
  | .cisInfo => .ok ⟨type, "POST", cisInfoTarget, cises, "/cises/info?pg=lp", count⟩
  | .cisSearch => .ok ⟨type, "POST", cisSearchTarget, normalized.get "request", "/cises/search", 0⟩
  | .cisHistory =>
    let cis := ((normalized.get "cis").str?.getD "").toList
    .ok ⟨type, "POST", cisHistoryPrefix ++ String.ofList (Url.quote cis), .null,
      "/cises/history?cis=\x7bCIS\x7d", 1⟩
  | .cisAggregatedList =>
    .ok ⟨type, "POST", aggregatedListTarget, cises, "/cises/aggregated/list?pg=lp", count⟩
  | .cisAggregationHistory =>
    .ok ⟨type, "POST", aggregationHistoryTarget, .obj [("cis", normalized.get "cis")],
      "/cises/history/list", 1⟩
  | .productInfo => .ok ⟨type, "POST", productInfoTarget, normalized, "/product/info", 0⟩
  | _ => .error (contractError "CIS_TO_PRODUCT is a composite job and has no single request spec")

/-- `build_read_spec`. -/
def buildReadSpec (type : AgentJobType) (payload : Json) : Except PyError TrueApiReadSpec := do
  let normalized ← validateM1JobPayload type payload
  readSpecOf type normalized

/-- `is_allowed_read_target`. -/
def isAllowedReadTarget (spec : TrueApiReadSpec) : Bool :=
  if spec.method ≠ "POST" then false
  else if spec.target ∈ [cisInfoTarget, cisSearchTarget, aggregatedListTarget,
      aggregationHistoryTarget, productInfoTarget] then true
  else if spec.jobType = .cisHistory ∧
      cisHistoryPrefix.toList.isPrefixOf spec.target.toList = true then
    let encoded := spec.target.toList.drop cisHistoryPrefix.length
    decide (encoded ≠ [] ∧ '&' ∉ encoded ∧ '#' ∉ encoded)
  else false

/-! ## Stable contracts -/

theorem expectString_eq_ok {label : String} {v w : Json} :
    expectString label v = .ok w ↔ w = v ∧ ∃ text, v = .str text ∧ text ≠ "" := by
  unfold expectString
  split
  · rename_i text
    split
    · rename_i hempty
      simp [hempty]
    · rename_i hempty
      simp [hempty, eq_comm]
  · rename_i hnot
    constructor
    · intro h
      cases h
    · rintro ⟨-, text, rfl, -⟩
      exact absurd rfl (hnot text)

theorem expectString_stable (label : String) : (expectString label).Stable := by
  intro v w h
  obtain ⟨rfl, text, rfl, hempty⟩ := expectString_eq_ok.mp h
  exact ⟨h, by simp⟩

theorem checkItems_expectString {label : String} {items out : List Json}
    (h : checkItems expectString label items = .ok out) : out = items := by
  unfold checkItems at h
  generalize 0 = start at h
  induction items generalizing out start with
  | nil =>
    cases h
    rfl
  | cons item items ih =>
    rw [List.zipIdx_cons, List.mapM_cons] at h
    obtain ⟨first, hfirst, h⟩ := bind_eq_ok.mp h
    obtain ⟨rest, hrest, h⟩ := bind_eq_ok.mp h
    obtain rfl := Except.ok.inj h
    rw [(expectString_eq_ok.mp hfirst).1, ih _ hrest]

theorem expectStringArray_eq_ok {label : String} {maxItems : Option ℕ} {v w : Json} :
    expectStringArray label maxItems v = .ok w ↔ w = v ∧ ∃ items, v = .arr items ∧
      (∀ n, maxItems = some n → items.length ≤ n) ∧
      checkItems expectString label items = .ok items := by
  unfold expectStringArray
  split
  · rename_i items
    constructor
    · intro h
      obtain ⟨⟨⟩, hlength, hrest⟩ := bind_eq_ok.mp h
      obtain ⟨out, hout, hlast⟩ := bind_eq_ok.mp hrest
      have hsame := checkItems_expectString hout
      rw [hsame] at hout hlast
      exact ⟨(Except.ok.inj hlast).symm, items, rfl, ensure_eq_ok.mp hlength, hout⟩
    · rintro ⟨rfl, items', heq, hlength, hitems⟩
      cases heq
      exact bind_eq_ok.mpr ⟨(), ensure_eq_ok.mpr hlength,
        bind_eq_ok.mpr ⟨items, hitems, rfl⟩⟩
  · rename_i hnot
    constructor
    · intro h
      cases h
    · rintro ⟨-, items, rfl, -⟩
      exact absurd rfl (hnot items)

theorem expectStringArray_stable (label : String) (maxItems : Option ℕ) :
    (expectStringArray label maxItems).Stable := by
  intro v w h
  obtain ⟨rfl, items, rfl, -⟩ := expectStringArray_eq_ok.mp h
  exact ⟨h, by simp⟩

theorem validatePeriod_stable (label : String) : (validatePeriod label).Stable := by
  intro v w h
  unfold validatePeriod at h
  obtain ⟨period, hperiod, h⟩ := bind_eq_ok.mp h
  obtain ⟨⟨⟩, hempty, h⟩ := bind_eq_ok.mp h
  obtain ⟨⟨⟩, hknown, h⟩ := bind_eq_ok.mp h
  obtain ⟨out, hout, h⟩ := bind_eq_ok.mp h
  obtain rfl := Except.ok.inj h
  have hkeys := checkFields_keys hout
  refine ⟨?_, by simp⟩
  refine bind_eq_ok.mpr ⟨out, rfl, bind_eq_ok.mpr ⟨(), ?_, bind_eq_ok.mpr ⟨(), ?_, ?_⟩⟩⟩
  · rw [ensure_eq_ok] at hempty ⊢
    intro hnil
    rw [hnil] at hkeys
    exact hempty (List.map_eq_nil_iff.mp hkeys.symm)
  · exact ensureKnown_of_keys hkeys hknown
  · exact bind_eq_ok.mpr ⟨out, checkFields_stable (fun key => expectString_stable _) hout, rfl⟩

theorem stateContract_stable (label : String) : (stateContract label).check.Stable := by
  have hkeys : ((stateContract label).rules.map FieldRule.key).Nodup := by
    change ["status", "statusExt", "isStatusExtNull"].Nodup
    decide
  refine ObjectContract.check_stable hkeys ?_ fun root out _ hout =>
    ensureKnown_normalize hkeys (fun _ hkey => hkey) hout
  simp only [stateContract, List.forall_mem_cons]
  exact ⟨FieldRule.present_stable (expectString_stable _),
    FieldRule.present_stable (expectString_stable _),
    FieldRule.present_stable (checkThat_stable rfl), by simp⟩

theorem modContract_stable (label : String) : (modContract label).check.Stable := by
  have hkeys : ((modContract label).rules.map FieldRule.key).Nodup := by
    change ["kpp", "fiasId"].Nodup
    decide
  refine ObjectContract.check_stable hkeys ?_ fun root out _ hout =>
    ensureKnown_normalize hkeys (fun _ hkey => hkey) hout
  simp only [modContract, List.forall_mem_cons]
  exact ⟨FieldRule.present_stable (expectString_stable _),
    FieldRule.present_stable (expectString_stable _), by simp⟩

theorem validateStates_stable : validateStates.Stable := by
  intro v w h
  unfold validateStates at h
  split at h
  · obtain ⟨out, hout, h⟩ := bind_eq_ok.mp h
    obtain rfl := Except.ok.inj h
    exact ⟨bind_eq_ok.mpr ⟨out, checkItems_stable stateContract_stable hout, rfl⟩, by simp⟩
  · cases h

theorem validateMods_stable : validateMods.Stable := by
  intro v w h
  unfold validateMods at h
  split at h
  · obtain ⟨⟨⟩, hlength, h⟩ := bind_eq_ok.mp h
    obtain ⟨out, hout, h⟩ := bind_eq_ok.mp h
    obtain rfl := Except.ok.inj h
    refine ⟨bind_eq_ok.mpr ⟨(), ?_, bind_eq_ok.mpr ⟨out, ?_, rfl⟩⟩, by simp⟩
    · rw [ensure_eq_ok] at hlength ⊢
      rw [checkItems_length hout]
      exact hlength
    · exact checkItems_stable modContract_stable hout
  · cases h

theorem filterField_stable (key : String) : (filterField key).Stable := by
  unfold filterField
  dsimp only
  split_ifs
  · exact expectStringArray_stable _ _
  · exact checkThat_stable rfl
  · exact validatePeriod_stable _
  · exact validateStates_stable
  · exact validateMods_stable
  · exact expectString_stable _
  · intro v w h
    cases h

theorem validateFilter_stable : validateFilter.Stable := by
  intro v w h
  unfold validateFilter at h
  obtain ⟨filters, hfilters, h⟩ := bind_eq_ok.mp h
  obtain ⟨⟨⟩, hknown, h⟩ := bind_eq_ok.mp h
  obtain ⟨⟨⟩, hgroups, h⟩ := bind_eq_ok.mp h
  obtain ⟨out, hout, h⟩ := bind_eq_ok.mp h
  obtain rfl := Except.ok.inj h
  refine ⟨?_, by simp⟩
  refine bind_eq_ok.mpr ⟨out, rfl, bind_eq_ok.mpr ⟨(), ?_, bind_eq_ok.mpr ⟨(), ?_, ?_⟩⟩⟩
  · exact ensureKnown_of_keys (checkFields_keys hout) hknown
  · -- the product groups are checked as an array of texts, which stays as it is
    rw [ensure_eq_ok] at hgroups ⊢
    cases hlookup : Json.lookup filters "productGroups" with
    | none =>
      rw [hlookup] at hgroups
      cases hgroups
    | some groups =>
      rw [hlookup] at hgroups
      obtain ⟨value, hvalue, hsame⟩ := lookup_checkFields hout hlookup
      rw [hsame, Option.getD_some, (expectStringArray_eq_ok.mp hvalue).1]
      exact hgroups
  · exact bind_eq_ok.mpr ⟨out, checkFields_stable filterField_stable hout, rfl⟩

theorem paginationContract_stable : paginationContract.check.Stable := by
  have hkeys : (paginationContract.rules.map FieldRule.key).Nodup := by decide
  refine ObjectContract.check_stable hkeys ?_ fun root out _ hout => ?_
  · simp only [paginationContract, List.forall_mem_cons]
    exact ⟨FieldRule.defaulted_stable (checkThat_stable rfl),
      FieldRule.defaulted_stable (checkThat_stable rfl),
      FieldRule.required_stable (expectString_stable _),
      FieldRule.required_stable (expectString_stable _), by simp⟩
  · refine bind_eq_ok.mpr ⟨(), ensureKnown_normalize hkeys (by decide) hout, ?_⟩
    refine ensure_eq_ok.mpr ⟨?_, ?_⟩
    · exact hasKey_normalize hkeys hout
        (List.mem_cons_of_mem _ (List.mem_cons_of_mem _ List.mem_cons_self))
        FieldRule.required_always
    · exact hasKey_normalize hkeys hout
        (List.mem_cons_of_mem _ (List.mem_cons_of_mem _ (List.mem_cons_of_mem _
          List.mem_cons_self)))
        FieldRule.required_always

theorem validateSearchRequest_stable : validateSearchRequest.Stable := by
  have hkeys : (searchContract.rules.map FieldRule.key).Nodup := by decide
  refine ObjectContract.check_stable hkeys ?_ fun root out _ hout => ?_
  · simp only [searchContract, List.forall_mem_cons]
    exact ⟨FieldRule.required_stable validateFilter_stable,
      FieldRule.optional_stable paginationContract_stable, by simp⟩
  · refine bind_eq_ok.mpr ⟨(), ensureKnown_normalize hkeys (by decide) hout, ?_⟩
    exact ensure_eq_ok.mpr
      (hasKey_normalize hkeys hout List.mem_cons_self FieldRule.required_always)

theorem textItems_texts (texts : List String) : textItems (.arr (texts.map .str)) = texts := by
  rw [textItems, List.filterMap_map]
  exact List.filterMap_some

/-- Texts that are not empty pass as they are. -/
theorem checkItems_texts {label : String} {texts : List String} (h : ∀ text ∈ texts, text ≠ "") :
    checkItems expectString label (texts.map .str) = .ok (texts.map .str) := by
  unfold checkItems
  generalize 0 = start
  induction texts generalizing start with
  | nil => rfl
  | cons text texts ih =>
    obtain ⟨htext, htexts⟩ := List.forall_mem_cons.mp h
    rw [List.map_cons, List.zipIdx_cons, List.mapM_cons]
    exact bind_eq_ok.mpr ⟨.str text, expectString_eq_ok.mpr ⟨rfl, text, rfl, htext⟩,
      bind_eq_ok.mpr ⟨_, ih htexts _, rfl⟩⟩

theorem ne_empty_of_normalizeCis {value code : String} (h : normalizeCis value = .ok code) :
    code ≠ "" := by
  rintro rfl
  obtain ⟨-, hlength, -⟩ := normalizeCis_eq_ok.mp h
  exact absurd hlength (by decide)

/-- Normalized codes are an array of texts, at most a thousand of them. -/
theorem expectStringArray_codes {codes : List String} (h : normalizeCises codes = .ok codes) :
    expectStringArray "cises" (some payloadMaxBatch) (.arr (codes.map .str)) =
      .ok (.arr (codes.map .str)) := by
  unfold normalizeCises at h
  split at h
  · cases h
  · rename_i normalized hmap
    split at h
    · rename_i hlength
      cases h
      refine expectStringArray_eq_ok.mpr ⟨rfl, _, rfl, ?_, checkItems_texts ?_⟩
      · rintro n ⟨⟩
        rw [List.length_map]
        exact hlength.2
      · intro code hcode
        obtain ⟨value, -, hvalue⟩ := mapM_mem hmap code hcode
        exact ne_empty_of_normalizeCis hvalue
    · cases h

theorem payloadCises_stable : payloadCises.Stable := by
  intro v w h
  obtain ⟨items, -, hrest⟩ := bind_eq_ok.mp h
  obtain ⟨codes, hcodes, hlast⟩ := bind_eq_ok.mp hrest
  obtain rfl := Except.ok.inj hlast
  have hsame := normalizeCises_stable hcodes
  refine ⟨bind_eq_ok.mpr ⟨_, expectStringArray_codes hsame, ?_⟩, by simp⟩
  rw [textItems_texts]
  exact bind_eq_ok.mpr ⟨codes, hsame, rfl⟩

theorem payloadCis_stable : payloadCis.Stable := by
  intro v w h
  obtain ⟨text, -, hrest⟩ := bind_eq_ok.mp h
  obtain ⟨code, hcode, hlast⟩ := bind_eq_ok.mp hrest
  obtain rfl := Except.ok.inj hlast
  have hnonempty := ne_empty_of_normalizeCis hcode
  refine ⟨bind_eq_ok.mpr ⟨.str code, ?_, ?_⟩, by simp⟩
  · exact expectString_eq_ok.mpr ⟨rfl, code, rfl, hnonempty⟩
  · exact bind_eq_ok.mpr ⟨code, normalizeCis_stable hcode, rfl⟩

theorem payloadGtins_stable : payloadGtins.Stable := by
  intro v w h
  obtain ⟨gtins, hgtins, hrest⟩ := bind_eq_ok.mp h
  obtain ⟨⟨⟩, hlength, hlast⟩ := bind_eq_ok.mp hrest
  obtain rfl := Except.ok.inj hlast
  obtain ⟨hsame, hnull⟩ := expectStringArray_stable _ _ _ _ hgtins
  exact ⟨bind_eq_ok.mpr ⟨gtins, hsame, bind_eq_ok.mpr ⟨(), hlength, rfl⟩⟩, hnull⟩

theorem onlyContract_stable (type : AgentJobType) (key : String) {check : Check PyError}
    (h : check.Stable) : (onlyContract type key check).check.Stable := by
  have hkeys : ((onlyContract type key check).rules.map FieldRule.key).Nodup := by
    simp [onlyContract]
  refine ObjectContract.check_stable hkeys ?_ fun root out _ hout => ?_
  · simp only [onlyContract, List.forall_mem_cons]
    exact ⟨FieldRule.required_stable h, by simp⟩
  · refine ensure_eq_ok.mpr (hasExactly_normalize hkeys ?_ hout)
    simp only [onlyContract, List.forall_mem_cons]
    exact ⟨FieldRule.required_always, by simp⟩

theorem productInfoContract_stable : productInfoContract.check.Stable := by
  have hkeys : (productInfoContract.rules.map FieldRule.key).Nodup := by decide
  refine ObjectContract.check_stable hkeys ?_ fun root out _ hout => ?_
  · simp only [productInfoContract, List.forall_mem_cons]
    exact ⟨FieldRule.required_stable payloadGtins_stable,
      FieldRule.defaulted_stable (checkThat_stable rfl), by simp⟩
  · refine ensure_eq_ok.mpr ⟨?_, ?_⟩
    · exact unknownKeys_eq_nil.mpr (Json.normalize_keys hkeys hout)
    · exact hasKey_normalize hkeys hout List.mem_cons_self FieldRule.required_always

/-- What the contract gives it gives again. -/
theorem validateM1JobPayload_stable (type : AgentJobType) : (validateM1JobPayload type).Stable := by
  cases type with
  | cisInfo | cisAggregatedList | cisToProduct => exact onlyContract_stable _ _ payloadCises_stable
  | cisHistory | cisAggregationHistory => exact onlyContract_stable _ _ payloadCis_stable
  | productInfo => exact productInfoContract_stable
  | cisSearch => exact onlyContract_stable _ _ validateSearchRequest_stable
  | _ =>
    intro v w h
    cases h

/-! ## Requests -/

/-- The code of a history is a text that is not empty. -/
theorem history_cis {type : AgentJobType} {payload normalized : Json}
    (h : (onlyContract type "cis" payloadCis).check payload = .ok normalized) :
    ∃ code, normalized.get "cis" = .str code ∧ code ≠ "" := by
  obtain ⟨root, out, -, -, hout, -, rfl⟩ := ObjectContract.check_eq_ok.mp h
  have hkeys : ((onlyContract type "cis" payloadCis).rules.map FieldRule.key).Nodup := by
    simp [onlyContract]
  obtain ⟨value, hread, hvalue⟩ := (Json.normalize_lookup hkeys hout).1 _ List.mem_cons_self
  obtain ⟨w, hw, rfl⟩ := Json.map_some_eq_ok.mp hread
  obtain ⟨text, -, hrest⟩ := bind_eq_ok.mp hw
  obtain ⟨code, hcode, hlast⟩ := bind_eq_ok.mp hrest
  obtain rfl := Except.ok.inj hlast
  refine ⟨code, ?_, ne_empty_of_normalizeCis hcode⟩
  change (Json.lookup out "cis").getD .null = _
  rw [show Json.lookup out "cis" = some (.str code) from hvalue, Option.getD_some]

/-- The target of a history is let through. -/
theorem history_allowed {code : String} (hcode : code ≠ "") :
    isAllowedReadTarget ⟨.cisHistory, "POST",
      cisHistoryPrefix ++ String.ofList (Url.quote code.toList), .null,
      "/cises/history?cis=\x7bCIS\x7d", 1⟩ = true := by
  have htarget : (cisHistoryPrefix ++ String.ofList (Url.quote code.toList)).toList =
      cisHistoryPrefix.toList ++ Url.quote code.toList := by
    rw [String.toList_append, String.toList_ofList]
  have hnonempty : Url.quote code.toList ≠ [] :=
    Url.quote_ne_nil fun hnil => hcode (String.toList_eq_nil_iff.mp hnil)
  have hchars : ∀ c ∈ Url.quote code.toList, c ≠ '&' ∧ c ≠ '#' := by
    intro c hc
    have hquoted := Url.isQuoted_quote hc
    constructor
    · rintro rfl
      exact absurd hquoted (by decide)
    · rintro rfl
      exact absurd hquoted (by decide)
  unfold isAllowedReadTarget
  simp only [ne_eq, not_true_eq_false, if_false, htarget]
  split
  · rfl
  · rw [if_pos ⟨trivial, by simp⟩, ← String.length_toList, List.drop_left]
    exact decide_eq_true ⟨hnonempty, fun hc => (hchars _ hc).1 rfl, fun hc => (hchars _ hc).2 rfl⟩

/-- A request that is built from a payload of the contract is let through. Two products are asked
for by two requests. -/
theorem buildReadSpec_allowed {type : AgentJobType} {payload normalized : Json}
    (htype : type ≠ .cisToProduct) (h : validateM1JobPayload type payload = .ok normalized) :
    ∃ spec, buildReadSpec type normalized = .ok spec ∧ isAllowedReadTarget spec = true := by
  have hbuild : buildReadSpec type normalized = readSpecOf type normalized := by
    rw [buildReadSpec, (validateM1JobPayload_stable type _ _ h).1]
    rfl
  rw [hbuild]
  cases type with
  | cisInfo | cisSearch | cisAggregatedList | cisAggregationHistory | productInfo =>
    exact ⟨_, rfl, rfl⟩
  | cisHistory =>
    obtain ⟨code, hcis, hcode⟩ := history_cis h
    refine ⟨_, rfl, ?_⟩
    rw [hcis]
    exact history_allowed hcode
  | cisToProduct => exact absurd rfl htype
  | _ => cases h

theorem buildReadSpec_allowed_sample : ∃ normalized spec,
    validateM1JobPayload .cisHistory (.obj [("cis", .str " 010460043993125621A& ")]) =
      .ok normalized ∧
    buildReadSpec .cisHistory normalized = .ok spec ∧ isAllowedReadTarget spec = true := by
  have hsome : (validateM1JobPayload .cisHistory
      (.obj [("cis", .str " 010460043993125621A& ")])).toOption.isSome = true := by decide +kernel
  obtain ⟨normalized, hnormalized⟩ := Option.isSome_iff_exists.mp hsome
  have h := Fallible.toOption_eq_some.mp hnormalized
  obtain ⟨spec, hspec⟩ := buildReadSpec_allowed (by decide) h
  exact ⟨normalized, spec, h, hspec⟩

end Wbcz.CisInventory

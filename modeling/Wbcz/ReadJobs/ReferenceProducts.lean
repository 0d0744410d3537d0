import Wbcz.ReadJobs.CisInventory
import Wbcz.ReadJobs.Requests

/-!
# Reference data and products

The read jobs of `reference_products.py`: the contracts of their payloads, the requests that are
built from them, and the check of a request before it is sent. The check reads the payload back from
the request, and builds the request once more.
-/

namespace Wbcz.ReferenceProducts

open Fallible (bind_eq_ok ensure)
open Json (Check FieldRule)
open CisInventory (TrueApiReadSpec textItems)

def contractClass : ErrorClass := .other "ReferenceProductsContractError"

def contractError (message : String) : PyError := ⟨contractClass, message⟩

def m2ProductGroup : String := "lp"

def participantsPath : String := "/api/v3/true-api/participants"

def modsListPath : String := "/api/v3/true-api/mods/list"

def tnVedSearchPath : String := "/api/v4/true-api/tn-ved/search"

def productGtinPath : String := "/api/v4/true-api/product/gtin"

def rdListPath : String := "/api/v4/true-api/rd/list"

def rdTypesWithRequiredDateFrom : List String := ["CONFORMITY_CERTIFICATE", "CONFORMITY_DECLARATION"]

def rdTypesWithOptionalDateFrom : List String := ["STATE_REGISTRATION_CERTIFICATE"]

def knownRdTypes : List String := rdTypesWithRequiredDateFrom ++ rdTypesWithOptionalDateFrom

/-! ## Contracts -/

/-- `_expect_strings`. -/
def expectStrings (label : String) (minItems : ℕ) (maxItems : Option ℕ) : Check PyError :=
  fun value =>
    match value with
    | .arr items => do
      ensure (minItems ≤ items.length)
        (contractError (label ++ " must contain at least " ++ toString minItems ++ " values"))
      ensure (∀ n, maxItems = some n → items.length ≤ n)
        (contractError (label ++ " exceeds max " ++ toString (maxItems.getD 0)))
      let items ← checkItems (expectText contractError) label items
      pure (.arr items)
    | _ => .error (contractError (label ++ " must be an array"))

/-- `_expect_nonnegative_int`. -/
def expectNonnegativeInt (label : String) : Check PyError :=
  checkThat (isInt fun i => 0 ≤ i) (contractError (label ++ " must be a non-negative integer"))

/-- `_expect_limited_int`. -/
def expectLimitedInt (label : String) (minimum maximum : ℤ) : Check PyError :=
  checkThat (isInt fun i => minimum ≤ i && i ≤ maximum)
    (contractError (label ++ " must be " ++ toString minimum ++ ".." ++ toString maximum))

/-- `_validate_inn`. -/
def validateInn (label : String) : Check PyError :=
  (expectText contractError label).andThen
    (checkThat isInn (contractError (label ++ " must contain 10 or 12 digits")))

/-- The text matches `\d\x7b4,10\x7d`. -/
def isTnved : Json → Bool
  | .str text => text.toList.all Text.isDecimal && 4 ≤ text.length && text.length ≤ 10
  | _ => false

/-- `_validate_tnved`. -/
def validateTnved (label : String) : Check PyError :=
  (expectText contractError label).andThen
    (checkThat isTnved (contractError (label ++ " must contain 4..10 digits")))

/-- The text matches `\d\x7b4\x7d-\d\x7b2\x7d-\d\x7b2\x7d`. -/
def isDateText : Json → Bool
  | .str text =>
    match text.toList with
    | [y₁, y₂, y₃, y₄, '-', m₁, m₂, '-', d₁, d₂] =>
      [y₁, y₂, y₃, y₄, m₁, m₂, d₁, d₂].all Text.isDecimal
    | _ => false
  | _ => false

/-- `_validate_date`. -/
def validateDate (label : String) : Check PyError :=
  (expectText contractError label).andThen
    (checkThat isDateText (contractError (label ++ " must use yyyy-MM-dd")))

/-- Numbers of taxpayers. -/
def validateInns (maxItems : ℕ) : Check PyError :=
  (expectStrings "inns" 1 (some maxItems)).andThen (eachItem validateInn "inns")

def participantsContract : ObjectContract where
  error := contractError
  label := "read_payload"
  before root := ensure (hasExactly root ["inns"] = true)
    (contractError "PARTICIPANTS payload must contain only inns")
  rules := [.required "inns" (validateInns 100)]

def modsListContract : ObjectContract where
  error := contractError
  label := "read_payload"
  before root := ensureKnown contractError root
    ["productGroups", "kpp", "fiasId", "inns", "limit", "page"] "MODS_LIST has unknown fields"
  rules := [.defaulted "productGroups" (.arr [.str m2ProductGroup])
      ((expectStrings "productGroups" 1 none).andThen
        (checkThat isLpOnly (contractError "productGroups must be exactly [\"lp\"] for M2"))),
    .optional "kpp" (expectText contractError "kpp"),
    .optional "fiasId" (expectText contractError "fiasId"),
    .optional "inns" (validateInns 10),
    .defaulted "limit" (.int 100) (expectLimitedInt "limit" 1 1000),
    .defaulted "page" (.int 0) (expectNonnegativeInt "page")]

def tnVedSearchContract : ObjectContract where
  error := contractError
  label := "read_payload"
  before root := do
    ensureKnown contractError root ["pg", "tnveds", "page", "limit", "sort", "direction"]
      "TN_VED_SEARCH has unknown fields"
    ensure (hasKey root "pg" = true ∨ hasKey root "tnveds" = true)
      (contractError "TN_VED_SEARCH requires pg or tnveds")
  rules := [.present "pg" (expectText contractError "pg"),
    .present "tnveds" ((expectStrings "tnveds" 1 none).andThen (eachItem validateTnved "tnveds")),
    .present "page" (expectNonnegativeInt "page"),
    .present "limit" (expectLimitedInt "limit" 1 1000),
    .present "sort" ((expectText contractError "sort").andThen
      (checkThat (isOneOf ["tnved"]) (contractError "sort must be tnved"))),
    .present "direction" (expectUpper contractError "direction" ["ASC", "DESC"]
      "direction must be ASC or DESC")]

def productGtinListContract : ObjectContract where
  error := contractError
  label := "read_payload"
  before root := ensureKnown contractError root ["pg", "includeSubaccount", "limit", "page"]
    "PRODUCT_GTIN_LIST has unknown fields"
  rules := [.defaulted "pg" (.str m2ProductGroup)
      (checkThat (isOneOf [m2ProductGroup]) (contractError "product/gtin pg is forced to lp")),
    .defaulted "includeSubaccount" (.bool false)
      (checkThat isBool (contractError "includeSubaccount must be boolean")),
    .defaulted "limit" (.int 10) (expectLimitedInt "limit" 1 10000),
    .defaulted "page" (.int 0) (expectNonnegativeInt "page")]

/-- A document of a list, of a type that was read before. -/
def documentContract (type : Json) (label : String) : ObjectContract where
  error := contractError
  label := label
  before item := ensureKnown contractError item ["type", "number", "dateFrom"]
    (label ++ " has unknown fields")
  rules := [.required "type" ((expectText contractError (label ++ ".type")).andThen
      (checkThat (isOneOf knownRdTypes)
        (contractError (label ++ ".type is not in accepted v726.0 M2 set")))),
    .required "number" (expectText contractError (label ++ ".number")),
    if isOneOf rdTypesWithRequiredDateFrom type then
      .demanded "dateFrom"
        (contractError (label ++ ".dateFrom is required for " ++ type.str?.getD ""))
        (validateDate (label ++ ".dateFrom"))
    else .optional "dateFrom" (validateDate (label ++ ".dateFrom"))]

/-- A document of a list. -/
def validateDocument (label : String) : Check PyError := fun value =>
  (documentContract (value.get "type") label).check value

/-- The documents of a list. -/
def validateDocuments : Check PyError := fun value =>
  match value with
  | .arr items => do
    ensure (1 ≤ items.length ∧ items.length ≤ 25)
      (contractError "documents must contain 1..25 items")
    let items ← checkItems validateDocument "documents" items
    pure (.arr items)
  | _ => .error (contractError "documents must contain 1..25 items")

def rdListContract : ObjectContract where
  error := contractError
  label := "read_payload"
  before root := ensure (hasExactly root ["documents"] = true)
    (contractError "RD_LIST payload must contain only documents")
  rules := [.required "documents" validateDocuments]

/-- `validate_m2_job_payload`. -/
def validateM2JobPayload (type : AgentJobType) : Check PyError :=
  match type with
  | .participants => participantsContract.check
  | .modsList => modsListContract.check
  | .tnVedSearch => tnVedSearchContract.check
  | .productGtinList => productGtinListContract.check
  | .rdList => rdListContract.check
  | _ => fun _ => .error (contractError "unsupported M2 read job type")

/-! ## Requests -/

/-- `_query_target`. -/
def queryTarget (path : String) (pairs : List Url.Pair) : String := withQuery Url.quote path pairs

/-- The request of a payload that the contract has given. -/
def referenceSpecOf (type : AgentJobType) (normalized : Json) : Except PyError TrueApiReadSpec := do
  match type with
  | .participants =>
    let pairs := (textItems (normalized.get "inns")).map fun inn => ("inns", inn)
    .ok ⟨type, "GET", queryTarget participantsPath pairs, .null, "/participants", 0⟩
  | .modsList =>
    let limit ← intText (intOf (normalized.get "limit"))
    let page ← intText (intOf (normalized.get "page"))
    let pairs := [("productGroups", m2ProductGroup)] ++ namedPair normalized "kpp" "kpp" ++
      namedPair normalized "fiasId" "fiasId" ++
      ((textItems (normalized.get "inns")).map fun inn => ("inns", inn)) ++
      [("limit", limit), ("page", page)]
    .ok ⟨type, "GET", queryTarget modsListPath pairs, .null, "/mods/list", 0⟩
  | .tnVedSearch => .ok ⟨type, "POST", tnVedSearchPath, normalized, "/tn-ved/search", 0⟩
  | .productGtinList =>
    let limit ← intText (intOf (normalized.get "limit"))
    let page ← intText (intOf (normalized.get "page"))
    let pairs := [("pg", m2ProductGroup),
      ("includeSubaccount", boolText (normalized.get "includeSubaccount")), ("limit", limit),
      ("page", page)]
    .ok ⟨type, "GET", queryTarget productGtinPath pairs, .null, "/product/gtin", 0⟩
  | .rdList => .ok ⟨type, "POST", rdListPath, normalized, "/rd/list", 0⟩
  | _ => .error ⟨.other "AssertionError", type.value⟩

/-- `build_reference_read_spec`. -/
def buildReferenceReadSpec (type : AgentJobType) (payload : Json) :
    Except PyError TrueApiReadSpec := do
  let normalized ← validateM2JobPayload type payload
  referenceSpecOf type normalized

/-- `text.lower() == "true"`. -/
def isTrueText (text : String) : Bool := decide (text.toList.map Char.toLower = "true".toList)

/-- An optional field of a query that is read back. -/
def readField (query : List Url.Pair) (key : String)
    (read : List String → Except PyError Json) : Except PyError (List (String × Json)) :=
  match Url.valuesOf query key with
  | [] => .ok []
  | values => do
    let value ← read values
    pure [(key, value)]

/-- The first of the texts. -/
def readFirst (values : List String) : Except PyError Json := .ok (.str (values.headD ""))

/-- All of the texts. -/
def readAll (values : List String) : Except PyError Json := .ok (.arr (values.map .str))

/-- The first of the texts, as an integer. -/
def readFirstInt (values : List String) : Except PyError Json := .int <$> readInt (values.headD "")

/-- `_payload_from_spec`. -/
def payloadFromSpec (spec : TrueApiReadSpec) : Except PyError Json := do
  let split := Url.urlsplit spec.target.toList
  let query := Url.parseQsl split.query
  match spec.jobType with
  | .tnVedSearch | .rdList =>
    ensure (spec.body.isObj = true) (contractError "POST spec body must be an object")
    pure spec.body
  | .participants =>
    ensure (split.path = participantsPath.toList ∧ Url.namesWithin query ["inns"] = true ∧
      Url.valuesOf query "inns" ≠ []) (contractError "invalid participants target")
    pure (.obj [("inns", .arr ((Url.valuesOf query "inns").map .str))])
  | .modsList =>
    ensure (split.path = modsListPath.toList) (contractError "invalid mods target")
    ensure (Url.namesWithin query ["productGroups", "kpp", "fiasId", "inns", "limit", "page"] = true)
      (contractError "invalid mods query")
    let kpp ← readField query "kpp" readFirst
    let fiasId ← readField query "fiasId" readFirst
    let inns ← readField query "inns" readAll
    let limit ← readField query "limit" readFirstInt
    let page ← readField query "page" readFirstInt
    pure (.obj (("productGroups", .arr ((Url.valuesOf query "productGroups").map .str)) ::
      kpp ++ fiasId ++ inns ++ limit ++ page))
  | .productGtinList =>
    ensure (split.path = productGtinPath.toList) (contractError "invalid product/gtin target")
    ensure (Url.namesWithin query ["pg", "includeSubaccount", "limit", "page"] = true)
      (contractError "invalid product/gtin query")
    let limit ← readInt ((Url.valuesOf query "limit").headD "10")
    let page ← readInt ((Url.valuesOf query "page").headD "0")
    let includeText := (Url.valuesOf query "includeSubaccount").headD "false"
    pure (.obj [("pg", .str ((Url.valuesOf query "pg").headD m2ProductGroup)),
      ("includeSubaccount", .bool (isTrueText includeText)), ("limit", .int limit),
      ("page", .int page)])
  | _ => .error (contractError "unsupported spec")

/-- `is_allowed_reference_target`. -/
def isAllowedReferenceTarget (spec : TrueApiReadSpec) : Except PyError Bool :=
  if spec.jobType.family ≠ .m2 then .ok false
  else
    let rebuilt := payloadFromSpec spec >>= buildReferenceReadSpec spec.jobType
    match rebuilt with
    | .ok rebuilt => .ok (decide (rebuilt.method = spec.method) &&
        decide (rebuilt.target = spec.target) && sameJson rebuilt.body spec.body)
    | .error e => if e.cls = contractClass then .ok false else .error e

end Wbcz.ReferenceProducts

import Wbcz.Control.Engine
import Wbcz.Lib.Json
import Wbcz.WindowsAgent.Job

/-!
# Two readings of a `cises/info` response

The agent reads the response of `cises/info` in two ways. For a batch it goes by position and
sends each item with a normalized copy (`parse_success_payload` of `cis_inventory.py`); for a
single code it reads the item at once into a state (`TrueApiCisesInfoAdapter.normalize`). Both
end in `decision_state_from_cis_info`.

`str` of a container is a bracket and a text that nothing depends on; that text is a parameter.
-/

namespace Wbcz.CisInventory

/-- The fields of an object. -/
abbrev Fields := List (String × Json)

/-- `str(value)`; `containerText` gives what follows the first bracket of a container. -/
def pyStr (containerText : Json → String) : Json → String
  | .null => "None"
  | .bool true => "True"
  | .bool false => "False"
  | .int i => toString i
  | .float text => text
  | .str s => s
  | .arr items => "[" ++ containerText (.arr items)
  | .obj fields => "\x7b" ++ containerText (.obj fields)

/-- `value.get(key)`. -/
def field (info : Fields) (key : String) : Json := (Json.lookup info key).getD .null

/-- `value.get(key, value.get(other))`. -/
def fieldOr (info : Fields) (key other : String) : Json :=
  (Json.lookup info key).getD (field info other)

/-- The status of a code as the control engine knows it. -/
def statusOf (containerText : Json → String) (rawStatus : Json) : String :=
  match Text.upperAscii? (pyStr containerText rawStatus) with
  | some "INTRODUCED" => "IN_CIRCULATION"
  | some "RETIRED" => "WITHDRAWN"
  | _ => "UNKNOWN:" ++ pyStr containerText rawStatus

/-- A special status that says nothing: absent, empty or `EMPTY`. -/
def blankStatusEx (containerText : Json → String) (raw : Json) : Bool :=
  match raw with
  | .null => true
  | _ => Text.upperAscii? (pyStr containerText raw) = some "" ||
      Text.upperAscii? (pyStr containerText raw) = some "EMPTY"

/-- The special status of a code. -/
def statusExOf (containerText : Json → String) (raw : Json) : Option String :=
  if blankStatusEx containerText raw then none else some ("UNKNOWN:" ++ pyStr containerText raw)

/-- The product group of a code, `lp` where the response gives none. -/
def productGroupOf (raw : Json) : String :=
  match raw.str? with
  | some group => if group = "" then "lp" else group
  | none => "lp"

/-- `decision_state_from_cis_info`. -/
def decisionStateFromCisInfo (containerText : Json → String) (info : Fields) : KiState where
  status := statusOf containerText (field info "status")
  statusEx := statusExOf containerText (fieldOr info "statusEx" "status_ex")
  withdrawReason := (fieldOr info "withdrawReason" "withdraw_reason").str?
  ownerInn := (fieldOr info "ownerInn" "owner_inn").str?
  productGroup := some (productGroupOf (fieldOr info "productGroup" "product_group"))

/-! ### The batch -/

/-- `TrueApiCisInfoWire`. -/
structure TrueApiCisInfoWire where
  requestedCis : String
  cisInfo : Option Fields
  errorCode : Option String
  errorMessage : Option String
  raw : Fields

/-- The text of a value that is not `None`. -/
def textOf (containerText : Json → String) : Json → Option String
  | .null => none
  | value => some (pyStr containerText value)

/-- `_dict_or_none`. -/
def dictOrNone : Json → Option Fields
  | .obj fields => some fields
  | _ => none

/-- `_wire_info`. -/
def wireInfo (containerText : Json → String) (requestedCis : String) (item : Json) :
    Except PyError TrueApiCisInfoWire :=
  match item with
  | .obj raw =>
    .ok ⟨requestedCis, dictOrNone (field raw "cisInfo"),
      textOf containerText (field raw "errorCode"),
      textOf containerText (field raw "errorMessage"), raw⟩
  | _ => .error ⟨.cisInventoryContractError, "cises/info result item must be an object"⟩

/-- `asdict` of `_normalized_info(wire)`. -/
def normalizedInfo (wire : TrueApiCisInfoWire) : Option Fields :=
  wire.cisInfo.map fun info =>
    [("requested_cis", .str wire.requestedCis), ("cis", field info "cis"),
      ("gtin", field info "gtin"), ("product_name", field info "productName"),
      ("product_group", field info "productGroup"), ("owner_inn", field info "ownerInn"),
      ("owner_name", field info "ownerName"), ("status", field info "status"),
      ("status_ex", field info "statusEx"), ("withdraw_reason", field info "withdrawReason"),
      ("withdraw_reason_other", field info "withdrawReasonOther"),
      ("parent", field info "parent"), ("child", field info "child"), ("raw", .obj info)]

/-- An optional object, `None` where it is absent. -/
def ofFields? : Option Fields → Json
  | some fields => .obj fields
  | none => .null

/-- The item of the result that stands for an item of the response. -/
def resultItem (wire : TrueApiCisInfoWire) : Json :=
  .obj [("wire", .obj [("requested_cis", .str wire.requestedCis),
      ("cis_info", ofFields? wire.cisInfo), ("error_code", .ofText? wire.errorCode),
      ("error_message", .ofText? wire.errorMessage), ("raw", .obj wire.raw)]),
    ("normalized", ofFields? (normalizedInfo wire)),
    ("item_error",
      if wire.errorCode.isSome ∨ wire.errorMessage.isSome then
        .obj [("code", .ofText? wire.errorCode), ("message", .ofText? wire.errorMessage)]
      else .null)]

def maxBatch : Nat := 1000

/-- The part of `validate_m1_job_payload` for `CIS_INFO`: the codes to ask for. -/
def validateCises (requested : List String) : Except PyError (List String) :=
  if requested.length > maxBatch then
    .error ⟨.cisInventoryContractError, "cises exceeds max 1000"⟩
  else
    match requested.findIdx? fun cis => cis = "" with
    | some index =>
      .error ⟨.cisInventoryContractError, "cises[" ++ toString index ++ "] must not be empty"⟩
    | none => normalizeCises requested

/-- `parse_success_payload("CIS_INFO", {"cises": requested}, payload)`. -/
def parseSuccessPayload (containerText : Json → String) (requested : List String)
    (payload : Json) : Except PyError Json := do
  let requested ← validateCises requested
  match payload with
  | .arr items =>
    if items.length ≠ requested.length then
      .error ⟨.cisInventoryContractError, "cises/info response item count mismatch"⟩
    else
      let wires ← (requested.zip items).mapM fun pair => wireInfo containerText pair.1 pair.2
      .ok (.obj [("type", .str "CIS_INFO"), ("items", .arr (wires.map resultItem)),
        ("partial_item_errors_supported", .bool true)])
  | _ => .error ⟨.cisInventoryContractError, "cises/info response must be an array"⟩

/-! ### The single code -/

/-- `info.get("requestedCis") or info.get("cis")`. -/
def echoed (info : Fields) : Json :=
  if (field info "requestedCis").truthy then field info "requestedCis" else field info "cis"

/-- `TrueApiCisesInfoAdapter.normalize`. -/
def TrueApiCisesInfoAdapter.normalize (containerText : Json → String) (requestedCis : String)
    (item : Json) :
    Except PyError KiState :=
  match item with
  | .obj raw =>
    if (field raw "errorCode").truthy || (field raw "errorMessage").truthy then
      .error ⟨.other "TrueApiError", "cises/info returned an error for the requested KI"⟩
    else
      match (Json.lookup raw "cisInfo").getD (.obj raw) with
      | .obj info =>
        match (echoed info).str? with
        | some echo =>
          if echo ≠ requestedCis then
            .error ⟨.other "TrueApiProtocolError", "cises/info returned a mismatched KI"⟩
          else .ok (decisionStateFromCisInfo containerText info)
        | none => .ok (decisionStateFromCisInfo containerText info)
      | _ => .error ⟨.other "TrueApiProtocolError", "cises/info item misses cisInfo"⟩
  | _ => .error ⟨.other "TrueApiProtocolError", "cises/info item is not an object"⟩

end Wbcz.CisInventory

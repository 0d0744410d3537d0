import Wbcz.Turnover.Withdrawals

/-!
# The return of goods

`LpReturnDocument` of `turnover.py`. What was paid, the primary document and the permit may stand at
the document or at its products; which of them may, and where, depends on the type of the return.
-/

namespace Wbcz.Turnover

open Fallible (bind_eq_ok ensure ensure_eq_ok mapM_map_eq_ok pure_eq_ok)
open Wbcz.Marketplace (contractError PrimaryDocument)

/-- `TurnoverManualReview`. -/
def manualReview (message : String) : PyError := ⟨.other "TurnoverManualReview", message⟩

/-- A value that is given for `paid`. -/
inductive Paid where
  | bool (paid : Bool)
  | other
  deriving DecidableEq, Repr

/-- `ReturnProduct`. -/
structure ReturnProduct where
  ki : String
  paid : Option Paid := none
  primaryDocument : Option PrimaryDocument := none
  permit : Option PermitDocument := none
  deriving DecidableEq

/-- `LpReturnDocument`. -/
structure LpReturnDocument where
  tradeParticipantInn : String
  productsList : List ReturnProduct
  paid : Option Paid := none
  primaryDocument : Option PrimaryDocument := none
  permit : Option PermitDocument := none
  stateContractId : Option String := none
  returnType : String := "REMOTE_SALE_RETURN"
  deriving DecidableEq

/-- `paid` on the wire. -/
def paidField (label : String) : Option Paid → Except PyError Wire
  | none => pure []
  | some (.bool paid) => pure [("paid", .bool paid)]
  | some .other => .error (contractError (label ++ " must be boolean"))

def paidWire : Option Paid → Wire
  | some (.bool paid) => [("paid", .bool paid)]
  | _ => []

theorem paidField_eq_ok {label : String} {value : Option Paid} {fields : Wire} :
    paidField label value = .ok fields ↔ fields = paidWire value ∧ value ≠ some .other := by
  cases value with
  | none => simp [paidField, paidWire, pure_eq_ok]
  | some paid => cases paid <;> simp [paidField, paidWire, pure_eq_ok]

namespace ReturnProduct

def toWire (allowed : List String) (product : ReturnProduct) : Except PyError Wire := do
  let ki ← cis "ki" product.ki
  let paid ← paidField "products_list[].paid" product.paid
  let primary ← partWire (toReturnWire allowed) product.primaryDocument
  let permit ← partWire PermitDocument.toWire product.permit
  pure ([("ki", .str ki)] ++ paid ++ primary ++ permit)

/-- The fields of a product pass. -/
structure Scalars (allowed : List String) (product : ReturnProduct) : Prop where
  ki : IsCis product.ki
  paid : product.paid ≠ some .other
  primary : ∀ document ∈ product.primaryDocument, PrimaryValid allowed document
  permit : ∀ permit ∈ product.permit, permit.Valid

def wire (product : ReturnProduct) : Wire :=
  [("ki", .str product.ki)] ++ paidWire product.paid ++
    (product.primaryDocument.map returnWire).getD [] ++
    (product.permit.map PermitDocument.wire).getD []

theorem toWire_eq_ok {allowed : List String} {product : ReturnProduct} {wire : Wire} :
    product.toWire allowed = .ok wire ↔ wire = product.wire ∧ product.Scalars allowed := by
  rw [and_comm]
  simp only [toWire, bind_eq_ok, cis_eq_ok, paidField_eq_ok,
    partWire_eq_ok fun _ _ => toReturnWire_eq_ok, partWire_eq_ok fun _ _ => PermitDocument.toWire_eq_ok,
    pure_eq_ok, and_assoc, exists_eq_left, ReturnProduct.wire]
  constructor
  · rintro ⟨hki, hpaid, hprimary, hpermit, hwire⟩
    exact ⟨⟨hki, hpaid, hprimary, hpermit⟩, hwire⟩
  · rintro ⟨⟨hki, hpaid, hprimary, hpermit⟩, hwire⟩
    exact ⟨hki, hpaid, hprimary, hpermit, hwire⟩

end ReturnProduct

namespace LpReturnDocument

/-! ## The checks -/

/-- `UNSUPPORTED_LP_RETURN_TYPES`. -/
def unsupportedTypes : List String := ["VENDING_RETURN"]

/-- `KNOWN_LP_RETURN_TYPES`. -/
def knownTypes : List String :=
  ["REMOTE_SALE_RETURN", "RETAIL_RETURN", "OWN_USE_RETURN", "STATE_CONTRACT_RETURN",
    "NOT_FOR_SALE_RETURN"]

/-- `_RETURN_PRIMARY_TYPES_BY_RETURN_TYPE`. -/
def allowedPrimaryTypes (returnType : String) : List String :=
  if returnType = "REMOTE_SALE_RETURN" ∨ returnType = "RETAIL_RETURN" then returnPrimaryTypes
  else if returnType = "NOT_FOR_SALE_RETURN" then ["OTHER"]
  else []

variable (document : LpReturnDocument)

/-- The return is of a type that has no documents. -/
abbrev Bare : Prop :=
  document.returnType = "OWN_USE_RETURN" ∨ document.returnType = "STATE_CONTRACT_RETURN"

/-- Nothing is said about payment. -/
abbrev NoPaid : Prop := document.paid = none ∧ ∀ item ∈ document.productsList, item.paid = none

/-- There is no primary document. -/
abbrev NoPrimary : Prop :=
  document.primaryDocument = none ∧ ∀ item ∈ document.productsList, item.primaryDocument = none

/-- There is no permit. -/
abbrev NoPermit : Prop :=
  document.permit = none ∧ ∀ item ∈ document.productsList, item.permit = none

/-- What was paid for a product. -/
def effectivePaid (item : ReturnProduct) : Option Paid := item.paid.or document.paid

/-- The primary document of a product. -/
def effectivePrimary (item : ReturnProduct) : Option PrimaryDocument :=
  item.primaryDocument.or document.primaryDocument

def checkType : Except PyError Unit := do
  ensure (document.returnType ∉ unsupportedTypes) (manualReview "RETURN_TYPE_NOT_APPLICABLE_TO_LP")
  ensure (document.returnType ∈ knownTypes) (manualReview "RETURN_TYPE_MATRIX_NOT_CONFIRMED_FOR_LP")

def checkPaid : Except PyError Unit := do
  ensure (document.returnType = "REMOTE_SALE_RETURN" → document.paid ≠ some .other)
    (contractError "paid must be boolean")
  ensure (document.returnType ≠ "REMOTE_SALE_RETURN" → document.NoPaid)
    (contractError "paid must be absent unless return_type=REMOTE_SALE_RETURN")

/-- `_validated_state_contract_id`. -/
def validatedStateContractId (value : String) : Except PyError String := do
  let text ← digitField Text.isDecimal [25] 25 "state_contract_id" " must contain exactly 25 digits"
    value
  ensure (text.toList[12]? ∈ [some '1', some '2', some '3'])
    (contractError "state_contract_id 13th character must be 1, 2, or 3")
  pure text

/-- The contract of a return to the state, where the return is one. -/
def stateContract : Except PyError Wire := do
  ensure (document.returnType = "STATE_CONTRACT_RETURN" → document.stateContractId ≠ none)
    (manualReview "STATE_CONTRACT_ID_REQUIRED")
  ensure (document.returnType ≠ "STATE_CONTRACT_RETURN" → document.stateContractId = none)
    (contractError "state_contract_id must be absent unless return_type=STATE_CONTRACT_RETURN")
  optionally "state_contract_id" validatedStateContractId document.stateContractId

def checkLevels : Except PyError Unit := do
  ensure (document.Bare → document.NoPrimary)
    (contractError ("primary document must be absent for " ++ document.returnType))
  ensure (document.Bare → document.NoPermit)
    (contractError ("certificate data must be absent for " ++ document.returnType))
  ensure (document.permit = none ∨ ∀ item ∈ document.productsList, item.permit = none)
    (contractError "certificate data must be root-level or item-level, not both")

/-- What a product has together with what the document has for it. -/
def checkEffective (item : ReturnProduct) : Except PyError Unit := do
  ensure (item.paid ≠ some .other) (contractError "products_list[].paid must be boolean")
  ensure (document.returnType = "REMOTE_SALE_RETURN" → document.effectivePaid item ≠ none)
    (manualReview "LP_RETURN_PAID_REQUIRED")
  ensure (document.returnType = "REMOTE_SALE_RETURN" →
      document.effectivePaid item = some (.bool true) → document.effectivePrimary item ≠ none)
    (manualReview "LP_RETURN_PRIMARY_DOCUMENT_REQUIRED")
  ensure (document.returnType = "REMOTE_SALE_RETURN" →
      document.effectivePaid item = some (.bool false) → document.effectivePrimary item = none)
    (contractError
      "primary document must be absent when REMOTE_SALE_RETURN effective paid=false")
  ensure (document.returnType = "RETAIL_RETURN" ∨ document.returnType = "NOT_FOR_SALE_RETURN" →
      document.effectivePrimary item ≠ none)
    (manualReview "LP_RETURN_PRIMARY_DOCUMENT_REQUIRED")

/-- One round of the loop over the products. -/
def itemWire (item : ReturnProduct) : Except PyError Wire := do
  document.checkEffective item
  item.toWire (allowedPrimaryTypes document.returnType)

/-- What was paid for all of a remote sale. -/
def rootPaid : Wire :=
  if document.returnType = "REMOTE_SALE_RETURN" then paidWire document.paid else []

/-- `to_wire`. -/
def toWire : Except PyError Wire := do
  document.checkType
  ensure (document.productsList ≠ []) (contractError "products_list must be non-empty")
  document.checkPaid
  let contract ← document.stateContract
  document.checkLevels
  let primary ← partWire (toReturnWire (allowedPrimaryTypes document.returnType))
    document.primaryDocument
  let wires ← document.productsList.mapM document.itemWire
  ensure (textsUnder "ki" wires).Nodup (contractError "products_list[].ki must be unique")
  let participant ← inn "trade_participant_inn" document.tradeParticipantInn
  let permit ← partWire PermitDocument.toWire document.permit
  pure ([("trade_participant_inn", .str participant), ("return_type", .str document.returnType),
    ("products_list", objects wires)] ++ document.rootPaid ++ primary ++ permit ++ contract)

/-- The identifier of a contract of the state. -/
def IsStateContractId (value : String) : Prop :=
  IsDigits Text.isDecimal [25] 25 value ∧ value.toList[12]? ∈ [some '1', some '2', some '3']

/-! ## What the checks come to -/

/-- Every field passes by itself. -/
structure Scalars : Prop where
  known : document.returnType ∈ knownTypes
  nonempty : document.productsList ≠ []
  inn : IsInn document.tradeParticipantInn
  items : ∀ item ∈ document.productsList, item.Scalars (allowedPrimaryTypes document.returnType)
  paid : document.paid ≠ some .other
  primary : ∀ primary ∈ document.primaryDocument,
    PrimaryValid (allowedPrimaryTypes document.returnType) primary
  permit : ∀ permit ∈ document.permit, permit.Valid
  contract : ∀ id ∈ document.stateContractId, IsStateContractId id

/-- The matrix of a return. -/
structure Rules : Prop where
  unique : (document.productsList.map ReturnProduct.ki).Nodup
  remote : document.returnType = "REMOTE_SALE_RETURN" → ∀ item ∈ document.productsList,
    ∃ paid, document.effectivePaid item = some (.bool paid) ∧
      (document.effectivePrimary item).isSome = paid
  sold : document.returnType = "RETAIL_RETURN" ∨ document.returnType = "NOT_FOR_SALE_RETURN" →
    document.NoPaid ∧ ∀ item ∈ document.productsList, (document.effectivePrimary item).isSome = true
  bare : document.Bare → document.NoPrimary ∧ document.NoPermit
  permit : document.permit = none ∨ ∀ item ∈ document.productsList, item.permit = none
  contract : document.stateContractId.isSome = true ↔
    document.returnType = "STATE_CONTRACT_RETURN"

/-- An accepted return on the wire. -/
def wire : Wire :=
  [("trade_participant_inn", .str document.tradeParticipantInn),
    ("return_type", .str document.returnType),
    ("products_list", objects (document.productsList.map ReturnProduct.wire))] ++
    document.rootPaid ++ (document.primaryDocument.map returnWire).getD [] ++
    (document.permit.map PermitDocument.wire).getD [] ++
    optionalField "state_contract_id" id document.stateContractId

variable {document : LpReturnDocument} {fields : Wire} {done : Unit}

theorem validatedStateContractId_eq_ok {value text : String} :
    validatedStateContractId value = .ok text ↔
      text = value ∧ IsDigits Text.isDecimal [25] 25 value ∧
        value.toList[12]? ∈ [some '1', some '2', some '3'] := by
  rw [and_comm]
  simp only [validatedStateContractId, bind_eq_ok, digitField_eq_ok, ensure_eq_ok, pure_eq_ok,
    and_assoc, exists_eq_left, exists_const]

theorem stateContract_eq_ok : document.stateContract = .ok fields ↔
    fields = optionalField "state_contract_id" id document.stateContractId ∧
      (document.returnType = "STATE_CONTRACT_RETURN" → document.stateContractId ≠ none) ∧
      (document.returnType ≠ "STATE_CONTRACT_RETURN" → document.stateContractId = none) ∧
      ∀ id ∈ document.stateContractId, IsStateContractId id := by
  simp only [stateContract, bind_eq_ok, ensure_eq_ok,
    optionally_eq_ok fun _ _ => validatedStateContractId_eq_ok, exists_const]
  constructor
  · rintro ⟨hgiven, hnone, hfields, hvalid⟩
    exact ⟨hfields, hgiven, hnone, hvalid⟩
  · rintro ⟨hfields, hgiven, hnone, hvalid⟩
    exact ⟨hgiven, hnone, hfields, hvalid⟩

/-- What is asked of a document before its products are looked at. -/
structure Admitted (document : LpReturnDocument) : Prop where
  known : document.returnType ∈ knownTypes
  nonempty : document.productsList ≠ []
  remotePaid : document.returnType = "REMOTE_SALE_RETURN" → document.paid ≠ some .other
  noPaid : document.returnType ≠ "REMOTE_SALE_RETURN" → document.NoPaid
  contractGiven : document.returnType = "STATE_CONTRACT_RETURN" → document.stateContractId ≠ none
  noContract : document.returnType ≠ "STATE_CONTRACT_RETURN" → document.stateContractId = none
  contract : ∀ id ∈ document.stateContractId, IsStateContractId id
  noPrimary : document.Bare → document.NoPrimary
  noPermit : document.Bare → document.NoPermit
  permits : document.permit = none ∨ ∀ item ∈ document.productsList, item.permit = none
  primary : ∀ primary ∈ document.primaryDocument,
    PrimaryValid (allowedPrimaryTypes document.returnType) primary

/-- What is asked of a product with what the document has for it. -/
structure Effective (document : LpReturnDocument) (item : ReturnProduct) : Prop where
  paid : item.paid ≠ some .other
  given : document.returnType = "REMOTE_SALE_RETURN" → document.effectivePaid item ≠ none
  bought : document.returnType = "REMOTE_SALE_RETURN" →
    document.effectivePaid item = some (.bool true) → document.effectivePrimary item ≠ none
  unpaid : document.returnType = "REMOTE_SALE_RETURN" →
    document.effectivePaid item = some (.bool false) → document.effectivePrimary item = none
  sold : document.returnType = "RETAIL_RETURN" ∨ document.returnType = "NOT_FOR_SALE_RETURN" →
    document.effectivePrimary item ≠ none

theorem checkEffective_eq_ok {item : ReturnProduct} :
    document.checkEffective item = .ok done ↔ document.Effective item := by
  simp only [checkEffective, bind_eq_ok, ensure_eq_ok, exists_const]
  exact ⟨fun ⟨hpaid, hgiven, hbought, hunpaid, hsold⟩ => ⟨hpaid, hgiven, hbought, hunpaid, hsold⟩,
    fun ⟨hpaid, hgiven, hbought, hunpaid, hsold⟩ => ⟨hpaid, hgiven, hbought, hunpaid, hsold⟩⟩

theorem itemWire_eq_ok {item : ReturnProduct} {wire : Wire} :
    document.itemWire item = .ok wire ↔ wire = item.wire ∧ document.Effective item ∧
      item.Scalars (allowedPrimaryTypes document.returnType) := by
  simp only [itemWire, bind_eq_ok, checkEffective_eq_ok, ReturnProduct.toWire_eq_ok, exists_const]
  exact and_left_comm

theorem textsUnder_ki (products : List ReturnProduct) :
    textsUnder "ki" (products.map ReturnProduct.wire) = (products.map ReturnProduct.ki).map some := by
  rw [textsUnder, List.map_map, List.map_map]
  rfl

/-- The checks that are made of a return. -/
theorem toWire_eq_ok_checks {wire : Wire} : document.toWire = .ok wire ↔ wire = document.wire ∧
    document.Admitted ∧ (∀ item ∈ document.productsList, document.Effective item ∧
      item.Scalars (allowedPrimaryTypes document.returnType)) ∧
    (document.productsList.map ReturnProduct.ki).Nodup ∧ IsInn document.tradeParticipantInn ∧
    ∀ permit ∈ document.permit, permit.Valid := by
  have hitems : ∀ wires, document.productsList.mapM document.itemWire = .ok wires ↔ _ :=
    fun wires => mapM_map_eq_ok fun _ _ => itemWire_eq_ok
  have hunsupported : document.returnType ∈ knownTypes → document.returnType ∉ unsupportedTypes := by
    intro hknown hmem
    rw [unsupportedTypes, List.mem_singleton] at hmem
    rw [hmem] at hknown
    exact absurd hknown (by decide)
  rw [and_comm]
  simp only [toWire, checkType, checkPaid, checkLevels, bind_eq_ok, ensure_eq_ok,
    stateContract_eq_ok, partWire_eq_ok fun _ _ => toReturnWire_eq_ok, hitems, textsUnder_ki,
    List.nodup_map_iff (Option.some_injective _), inn_eq_ok,
    partWire_eq_ok fun _ _ => PermitDocument.toWire_eq_ok, pure_eq_ok, and_assoc, exists_eq_left,
    exists_const, LpReturnDocument.wire]
  constructor
  · rintro ⟨-, hknown, hne, hremote, hnoPaid, hgiven, hnone, hcontract, hnoPrimary, hnoPermit,
      hpermits, hprimary, hrest⟩
    exact ⟨⟨hknown, hne, hremote, hnoPaid, hgiven, hnone, hcontract, hnoPrimary, hnoPermit,
      hpermits, hprimary⟩, hrest⟩
  · rintro ⟨⟨hknown, hne, hremote, hnoPaid, hgiven, hnone, hcontract, hnoPrimary, hnoPermit,
      hpermits, hprimary⟩, hrest⟩
    exact ⟨hunsupported hknown, hknown, hne, hremote, hnoPaid, hgiven, hnone, hcontract,
      hnoPrimary, hnoPermit, hpermits, hprimary, hrest⟩

theorem effectivePaid_cases {item : ReturnProduct} (hitem : item.paid ≠ some .other)
    (hroot : document.paid ≠ some .other) :
    document.effectivePaid item = none ∨
      ∃ paid, document.effectivePaid item = some (.bool paid) := by
  have hbool : ∀ given : Option Paid, given ≠ some .other →
      given = none ∨ ∃ paid, given = some (.bool paid) := by
    rintro (_ | _ | _) hgiven
    · exact .inl rfl
    · exact .inr ⟨_, rfl⟩
    · exact absurd rfl hgiven
  refine hbool _ ?_
  unfold effectivePaid
  cases hpaid : item.paid with
  | none => exact hroot
  | some paid =>
    rw [hpaid] at hitem
    exact hitem

/-- A type that is known is that of a remote sale, of another sale, or of a return without
documents. -/
theorem returnType_cases (h : document.returnType ∈ knownTypes)
    (hremote : document.returnType ≠ "REMOTE_SALE_RETURN") :
    (document.returnType = "RETAIL_RETURN" ∨ document.returnType = "NOT_FOR_SALE_RETURN") ∨
      document.Bare := by
  simp only [knownTypes, List.mem_cons, List.not_mem_nil, or_false] at h
  unfold Bare
  tauto

theorem rules_of_checks (h : document.Admitted)
    (hitems : ∀ item ∈ document.productsList, document.Effective item)
    (hunique : (document.productsList.map ReturnProduct.ki).Nodup) : document.Rules where
  unique := hunique
  remote htype item hitem := by
    obtain ⟨hpaid, hgiven, hbought, hunpaid, -⟩ := hitems item hitem
    rcases effectivePaid_cases hpaid (h.remotePaid htype) with hnone | ⟨paid, hsome⟩
    · exact absurd hnone (hgiven htype)
    · refine ⟨paid, hsome, ?_⟩
      cases paid with
      | true => exact Option.isSome_iff_ne_none.mpr (hbought htype hsome)
      | false => rw [hunpaid htype hsome]; rfl
  sold htype := by
    have hremote : document.returnType ≠ "REMOTE_SALE_RETURN" := by
      rcases htype with htype | htype <;> rw [htype] <;> decide
    exact ⟨h.noPaid hremote, fun item hitem =>
      Option.isSome_iff_ne_none.mpr ((hitems item hitem).sold htype)⟩
  bare hbare := ⟨h.noPrimary hbare, h.noPermit hbare⟩
  permit := h.permits
  contract := by
    constructor
    · intro hsome
      by_contra htype
      rw [h.noContract htype] at hsome
      cases hsome
    · exact fun htype => Option.isSome_iff_ne_none.mpr (h.contractGiven htype)

/-- A return passes when its fields do, the matrix holds, and nothing is said about payment where the
return has no documents. -/
def Valid (document : LpReturnDocument) : Prop :=
  document.Scalars ∧ document.Rules ∧ (document.Bare → document.NoPaid)

theorem toWire_eq_ok {wire : Wire} :
    document.toWire = .ok wire ↔ wire = document.wire ∧ document.Valid := by
  rw [toWire_eq_ok_checks]
  refine and_congr_right fun _ => ⟨?_, ?_⟩
  · rintro ⟨hadmitted, hitems, hunique, hinn, hpermit⟩
    have hbare : document.Bare → document.returnType ≠ "REMOTE_SALE_RETURN" := by
      rintro (htype | htype) <;> rw [htype] <;> decide
    refine ⟨⟨hadmitted.known, hadmitted.nonempty, hinn, fun item hitem => (hitems item hitem).2, ?_,
      hadmitted.primary, hpermit, hadmitted.contract⟩,
      rules_of_checks hadmitted (fun item hitem => (hitems item hitem).1) hunique,
      fun h => hadmitted.noPaid (hbare h)⟩
    by_cases hremote : document.returnType = "REMOTE_SALE_RETURN"
    · exact hadmitted.remotePaid hremote
    · rw [(hadmitted.noPaid hremote).1]
      simp
  · rintro ⟨hscalars, hrules, hbarePaid⟩
    have hcontract := hrules.contract
    refine ⟨⟨hscalars.known, hscalars.nonempty, fun _ => hscalars.paid, fun hremote => ?_,
      fun htype => ?_, fun htype => ?_, hscalars.contract, fun hbare => (hrules.bare hbare).1,
      fun hbare => (hrules.bare hbare).2, hrules.permit, hscalars.primary⟩, fun item hitem => ?_,
      hrules.unique, hscalars.inn, hscalars.permit⟩
    · rcases returnType_cases hscalars.known hremote with hsold | hbare
      · exact (hrules.sold hsold).1
      · exact hbarePaid hbare
    · exact Option.isSome_iff_ne_none.mp (hcontract.mpr htype)
    · by_contra hgiven
      exact htype (hcontract.mp (Option.isSome_iff_ne_none.mpr hgiven))
    · have hitemScalars := hscalars.items item hitem
      refine ⟨⟨hitemScalars.paid, fun htype => ?_, fun htype hpaid => ?_, fun htype hpaid => ?_,
        fun htype => Option.isSome_iff_ne_none.mp ((hrules.sold htype).2 item hitem)⟩, hitemScalars⟩
      all_goals obtain ⟨paid, hsome, hprimary⟩ := hrules.remote htype item hitem
      · simp [hsome]
      · obtain rfl : paid = true := by simpa [hsome] using hpaid
        exact Option.isSome_iff_ne_none.mp hprimary
      · obtain rfl : paid = false := by simpa [hsome] using hpaid
        exact Option.not_isSome_iff_eq_none.mp (by simp [hprimary])

/-- A return is accepted exactly when every field passes, the matrix holds, and nothing is said
about payment where the return has no documents; then it has exactly these fields. -/
theorem accepted_iff (document : LpReturnDocument) (wire : Wire) :
    document.toWire = .ok wire ↔
      (document.Scalars ∧ document.Rules ∧ (document.Bare → document.NoPaid)) ∧
        wire = document.wire :=
  toWire_eq_ok.trans and_comm

/-- A return for own use that says that it was paid. -/
def paidOwnUse : LpReturnDocument where
  tradeParticipantInn := "7701234567"
  productsList := [⟨"010123456789012321UNIT-1", none, none, none⟩]
  paid := some (.bool true)
  returnType := "OWN_USE_RETURN"

/-- The fields pass and the matrix holds, and the return is refused. -/
theorem paidOwnUse_refused :
    paidOwnUse.Scalars ∧ paidOwnUse.Rules ∧ ¬ ∃ wire, paidOwnUse.toWire = .ok wire := by
  refine ⟨⟨by decide, by decide, by decide +kernel, ?_, by simp [paidOwnUse],
    by simp [paidOwnUse], by simp [paidOwnUse], by simp [paidOwnUse]⟩,
    ⟨by decide, fun h => absurd h (by decide), fun h => absurd h (by decide), fun _ => by decide,
      .inl rfl, by simp [paidOwnUse]⟩, ?_⟩
  · intro item hitem
    rw [List.mem_singleton.mp hitem]
    exact ⟨by decide +kernel, by decide, by simp, by simp⟩
  · have hrefused : paidOwnUse.toWire = .error (contractError
        "paid must be absent unless return_type=REMOTE_SALE_RETURN") := rfl
    rintro ⟨wire, hwire⟩
    rw [hrefused] at hwire
    cases hwire

end LpReturnDocument

end Wbcz.Turnover

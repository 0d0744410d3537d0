import Wbcz.Lib.IntText
import Wbcz.Turnover.Fields

/-!
# The documents of turnover

The documents of `turnover.py` that put codes into circulation, mark them anew, write them off or
take a withdrawal back, and what their `to_wire` gives. A document is made on a day, which is a
parameter. What `update` adds to a dictionary has keys of its own, and so it is appended.
-/

namespace Wbcz.Turnover

open Calendar
open Fallible (bind_eq_ok ensure ensure_eq_ok found found_eq_ok mapM_map_eq_ok pure_eq_ok)
open Wbcz.Marketplace (contractError PrimaryDocument)
open Wbcz.Marketplace.Contract (Day boundedDay day nonempty nonemptyText shiftYear)

/-- The fields of an object. -/
abbrev Wire := List (String × Json)

/-- A field that is only there when it has a value. -/
def optionally {α : Type} (key : String) (check : α → Except PyError String) :
    Option α → Except PyError Wire
  | none => pure []
  | some value => do
    let text ← check value
    pure [(key, .str text)]

def optionalField {α : Type} (key : String) (text : α → String) (value : Option α) : Wire :=
  (value.map fun given => (key, .str (text given))).toList

theorem optionally_eq_ok {α : Type} {key : String} {check : α → Except PyError String}
    {text : α → String} {valid : α → Prop}
    (hcheck : ∀ given out, check given = .ok out ↔ out = text given ∧ valid given)
    {value : Option α} {fields : Wire} :
    optionally key check value = .ok fields ↔
      fields = optionalField key text value ∧ ∀ given ∈ value, valid given := by
  cases value with
  | none => simp [optionally, optionalField, pure_eq_ok]
  | some given =>
    simp only [optionally, bind_eq_ok, hcheck, pure_eq_ok, and_assoc, exists_eq_left,
      Option.mem_def, Option.some.injEq, forall_eq']
    exact and_comm

/-! ## Permits and primary documents -/

/-- `PermitDocument`. -/
structure PermitDocument where
  certificateType : String
  certificateNumber : String
  certificateDate : Day
  deriving DecidableEq

namespace PermitDocument

def toWire (document : PermitDocument) : Except PyError Wire := do
  let certificateType ← nonempty "certificate_type" 64 document.certificateType
  let certificateNumber ← nonempty "certificate_number" 255 document.certificateNumber
  let certificateDate ← day "certificate_date" document.certificateDate
  pure [("certificate_type", .str certificateType), ("certificate_number", .str certificateNumber),
    ("certificate_date", .str certificateDate)]

def Valid (document : PermitDocument) : Prop :=
  IsName 64 document.certificateType ∧ IsName 255 document.certificateNumber ∧
    IsDay document.certificateDate

def wire (document : PermitDocument) : Wire :=
  [("certificate_type", .str document.certificateType),
    ("certificate_number", .str document.certificateNumber),
    ("certificate_date", .str (dayText document.certificateDate))]

theorem toWire_eq_ok {document : PermitDocument} {wire : Wire} :
    document.toWire = .ok wire ↔ wire = document.wire ∧ document.Valid := by
  rw [and_comm]
  simp only [toWire, bind_eq_ok, nonempty_eq_ok, day_eq_ok, pure_eq_ok, and_assoc, exists_eq_left,
    Valid, PermitDocument.wire]

end PermitDocument

/-- The permits of a product, where it has any. -/
def permitData (permits : List PermitDocument) : Except PyError Wire :=
  if permits = [] then pure []
  else do
    let wires ← permits.mapM PermitDocument.toWire
    pure [("certificate_document_data", .arr (wires.map .obj))]

def permitFields (permits : List PermitDocument) : Wire :=
  if permits = [] then []
  else [("certificate_document_data", .arr (permits.map fun permit => .obj permit.wire))]

theorem permitData_eq_ok {permits : List PermitDocument} {fields : Wire} :
    permitData permits = .ok fields ↔
      fields = permitFields permits ∧ ∀ permit ∈ permits, permit.Valid := by
  unfold permitData permitFields
  by_cases hnone : permits = []
  · simp [hnone, pure_eq_ok]
  · have hwires : ∀ wires, permits.mapM PermitDocument.toWire = .ok wires ↔ _ := fun wires =>
      mapM_map_eq_ok fun _ _ => PermitDocument.toWire_eq_ok
    rw [if_neg hnone, if_neg hnone, and_comm]
    simp only [bind_eq_ok, hwires, pure_eq_ok, and_assoc, exists_eq_left, List.map_map]
    rfl

/-- The type of a primary document in upper case. -/
def primaryKind (document : PrimaryDocument) : String :=
  (Text.upperAscii? document.documentType).getD ""

/-- What `_common` asks for. -/
def PrimaryValid (allowed : List String) (document : PrimaryDocument) : Prop :=
  IsName 32 document.documentType ∧ primaryKind document ∈ allowed ∧
    IsName 255 document.number ∧ IsDay document.documentDate ∧
    if primaryKind document = "OTHER" then
      ∃ custom, document.customName = some custom ∧ IsName 255 custom
    else document.customName.getD "" = ""

/-- What `_common` gives. -/
def primaryWire (kindLabel numberLabel dateLabel : String) (document : PrimaryDocument) : Wire :=
  let fields : Wire := [(kindLabel, .str (primaryKind document)), (numberLabel, .str document.number),
    (dateLabel, .str (dayText document.documentDate))]
  if primaryKind document = "OTHER" then
    Json.set fields "primary_document_custom_name" (.str (document.customName.getD ""))
  else fields

theorem common_eq_ok {kindLabel numberLabel dateLabel : String} {allowed : List String}
    {document : PrimaryDocument} {fields : Wire} :
    document.common kindLabel numberLabel dateLabel allowed = .ok fields ↔
      fields = primaryWire kindLabel numberLabel dateLabel document ∧
        PrimaryValid allowed document := by
  rw [and_comm]
  unfold PrimaryDocument.common PrimaryValid primaryWire
  simp only [bind_eq_ok, nonempty_eq_ok, day_eq_ok, ensure_eq_ok, and_assoc, exists_eq_left,
    exists_const]
  by_cases hother : primaryKind document = "OTHER"
  · have hkind : (Text.upperAscii? document.documentType).getD "" = "OTHER" := hother
    simp only [hkind, hother, if_true, bind_eq_ok, nonemptyText_eq_ok, pure_eq_ok]
    refine and_congr_right fun _ => and_congr_right fun _ => and_congr_right fun _ =>
      and_congr_right fun _ => ?_
    constructor
    · rintro ⟨custom, ⟨hcustom, hname⟩, rfl⟩
      exact ⟨⟨custom, hcustom, hname⟩, by rw [hcustom]; rfl⟩
    · rintro ⟨⟨custom, hcustom, hname⟩, rfl⟩
      exact ⟨custom, ⟨hcustom, hname⟩, by rw [hcustom]; rfl⟩
  · have hkind : ¬ (Text.upperAscii? document.documentType).getD "" = "OTHER" := hother
    simp only [hkind, hother, if_false, bind_eq_ok, ensure_eq_ok, pure_eq_ok, exists_const]
    rfl

/-- `_RETURN_PRIMARY_TYPES`. -/
def returnPrimaryTypes : List String := ["RECEIPT", "SALES_RECEIPT", "OTHER"]

/-- `to_return_wire`. -/
def toReturnWire (allowed : List String) (document : PrimaryDocument) : Except PyError Wire :=
  document.common "primary_document_type" "primary_document_number" "primary_document_date" allowed

def returnWire (document : PrimaryDocument) : Wire :=
  primaryWire "primary_document_type" "primary_document_number" "primary_document_date" document

theorem toReturnWire_eq_ok {allowed : List String} {document : PrimaryDocument} {fields : Wire} :
    toReturnWire allowed document = .ok fields ↔
      fields = returnWire document ∧ PrimaryValid allowed document :=
  common_eq_ok

/-- `to_remark_wire`. -/
def toRemarkWire (cause : String) (document : PrimaryDocument) : Except PyError Wire := do
  ensure (cause = "RETAIL_RETURN" ∨ cause = "REMOTE_SALE_RETURN")
    (contractError "primary document is unsupported for this M5 remarking cause")
  toReturnWire returnPrimaryTypes document

theorem toRemarkWire_eq_ok {cause : String} {document : PrimaryDocument} {fields : Wire} :
    toRemarkWire cause document = .ok fields ↔ fields = returnWire document ∧
      (cause = "RETAIL_RETURN" ∨ cause = "REMOTE_SALE_RETURN") ∧
        PrimaryValid returnPrimaryTypes document := by
  simp only [toRemarkWire, bind_eq_ok, ensure_eq_ok, toReturnWire_eq_ok, exists_const]
  exact and_left_comm

/-! ## Products with a TN VED code -/

/-- The products that have a code, a TN VED code and permits. The key of the code differs. -/
structure TnvedProduct where
  code : String
  tnvedCode : String
  permitDocuments : List PermitDocument := []
  deriving DecidableEq

namespace TnvedProduct

def toWire (codeKey : String) (product : TnvedProduct) : Except PyError Wire := do
  let code ← cis codeKey product.code
  let tnvedCode ← tnved "tnved_code" product.tnvedCode
  let permits ← permitData product.permitDocuments
  pure ([(codeKey, .str code), ("tnved_code", .str tnvedCode)] ++ permits)

def Valid (product : TnvedProduct) : Prop :=
  IsCis product.code ∧ IsTnved product.tnvedCode ∧ ∀ permit ∈ product.permitDocuments, permit.Valid

def wire (codeKey : String) (product : TnvedProduct) : Wire :=
  [(codeKey, .str product.code), ("tnved_code", .str product.tnvedCode)] ++
    permitFields product.permitDocuments

theorem toWire_eq_ok {codeKey : String} {product : TnvedProduct} {wire : Wire} :
    product.toWire codeKey = .ok wire ↔ wire = product.wire codeKey ∧ product.Valid := by
  rw [and_comm]
  simp only [toWire, bind_eq_ok, cis_eq_ok, tnved_eq_ok, permitData_eq_ok, pure_eq_ok, and_assoc,
    exists_eq_left, Valid, TnvedProduct.wire]

theorem mapM_toWire_eq_ok {codeKey : String} {products : List TnvedProduct} {wires : List Wire} :
    products.mapM (toWire codeKey) = .ok wires ↔
      wires = products.map (TnvedProduct.wire codeKey) ∧ ∀ product ∈ products, product.Valid :=
  mapM_map_eq_ok fun _ _ => toWire_eq_ok

end TnvedProduct

/-- `IntroduceProduct`. -/
abbrev IntroduceProduct := TnvedProduct

def IntroduceProduct.toWire : IntroduceProduct → Except PyError Wire := TnvedProduct.toWire "uit_code"

/-- `ImportProduct`. -/
abbrev ImportProduct := TnvedProduct

def ImportProduct.toWire : ImportProduct → Except PyError Wire := TnvedProduct.toWire "uit_code"

/-- `CrossborderProduct`. -/
abbrev CrossborderProduct := TnvedProduct

def CrossborderProduct.toWire : CrossborderProduct → Except PyError Wire := TnvedProduct.toWire "ki"

/-- `ContractProduct`. -/
abbrev ContractProduct := TnvedProduct

def ContractProduct.toWire : ContractProduct → Except PyError Wire := TnvedProduct.toWire "uit"

/-- Objects in a list. -/
def objects (wires : List Wire) : Json := .arr (wires.map .obj)

/-! ## Introduction -/

/-- `LpIntroduceGoodsDocument`. -/
structure LpIntroduceGoodsDocument where
  participantInn : String
  producerInn : String
  ownerInn : String
  products : List IntroduceProduct
  productionDate : Option Day := none
  productionType : String := "OWN_PRODUCTION"
  deriving DecidableEq

namespace LpIntroduceGoodsDocument

def toWire (document : LpIntroduceGoodsDocument) : Except PyError Wire := do
  ensure (document.productionType = "OWN_PRODUCTION")
    (contractError "LP_INTRODUCE_GOODS production_type must be OWN_PRODUCTION")
  ensure (document.products ≠ []) (contractError "products must be non-empty")
  let participantInn ← inn "participant_inn" document.participantInn
  let producerInn ← inn "producer_inn" document.producerInn
  let ownerInn ← inn "owner_inn" document.ownerInn
  let products ← document.products.mapM IntroduceProduct.toWire
  let productionDate ← optionally "production_date" (day "production_date") document.productionDate
  pure ([("participant_inn", .str participantInn), ("producer_inn", .str producerInn),
    ("owner_inn", .str ownerInn), ("production_type", .str "OWN_PRODUCTION"),
    ("products", objects products)] ++ productionDate)

def Valid (document : LpIntroduceGoodsDocument) : Prop :=
  document.productionType = "OWN_PRODUCTION" ∧ document.products ≠ [] ∧
    IsInn document.participantInn ∧ IsInn document.producerInn ∧ IsInn document.ownerInn ∧
    (∀ product ∈ document.products, product.Valid) ∧ ∀ day ∈ document.productionDate, IsDay day

def wire (document : LpIntroduceGoodsDocument) : Wire :=
  [("participant_inn", .str document.participantInn), ("producer_inn", .str document.producerInn),
    ("owner_inn", .str document.ownerInn), ("production_type", .str "OWN_PRODUCTION"),
    ("products", objects (document.products.map (TnvedProduct.wire "uit_code")))] ++
    optionalField "production_date" dayText document.productionDate

theorem toWire_eq_ok {document : LpIntroduceGoodsDocument} {wire : Wire} :
    document.toWire = .ok wire ↔ wire = document.wire ∧ document.Valid := by
  rw [and_comm]
  simp only [toWire, IntroduceProduct.toWire, bind_eq_ok, ensure_eq_ok, inn_eq_ok,
    TnvedProduct.mapM_toWire_eq_ok, optionally_eq_ok fun _ _ => day_eq_ok, pure_eq_ok, and_assoc,
    exists_eq_left, exists_const, Valid, LpIntroduceGoodsDocument.wire]

end LpIntroduceGoodsDocument

/-- `IndividualProduct`. -/
inductive IndividualProduct where
  | mk (uit uitu : Option String) (productReceivingDate : Option Instant)
    (productName : Option String) (children : List IndividualProduct)

/-- The code of a product under one of its two keys. -/
def individualCode (uit uitu : Option String) : Except PyError Wire :=
  match uit, uitu with
  | some uit, none => do
    let code ← cis "uit" uit
    pure [("uit", .str code)]
  | none, some uitu => do
    let code ← cis "uitu" uitu
    pure [("uitu", .str code)]
  | _, _ => .error (contractError "individual product requires exactly one of uit/uitu")

def individualCodeField (uit uitu : Option String) : Wire :=
  match uit with
  | some uit => [("uit", .str uit)]
  | none => [("uitu", .str (uitu.getD ""))]

def IsIndividualCode (uit uitu : Option String) : Prop :=
  match uit, uitu with
  | some uit, none => IsCis uit
  | none, some uitu => IsCis uitu
  | _, _ => False

theorem individualCode_eq_ok {uit uitu : Option String} {fields : Wire} :
    individualCode uit uitu = .ok fields ↔
      fields = individualCodeField uit uitu ∧ IsIndividualCode uit uitu := by
  rw [and_comm]
  cases uit with
  | none =>
    cases uitu with
    | none => simp [individualCode, IsIndividualCode]
    | some uitu =>
      simp only [individualCode, bind_eq_ok, cis_eq_ok, pure_eq_ok, and_assoc, exists_eq_left,
        IsIndividualCode, individualCodeField, Option.getD_some]
  | some uit =>
    cases uitu with
    | none =>
      simp only [individualCode, bind_eq_ok, cis_eq_ok, pure_eq_ok, and_assoc, exists_eq_left,
        IsIndividualCode, individualCodeField]
    | some uitu => simp [individualCode, IsIndividualCode]

/-- Children in a list, where there are any. -/
def childField (wires : List Wire) : Wire := if wires = [] then [] else [("children", objects wires)]

namespace IndividualProduct

mutual

def toWire : IndividualProduct → Except PyError Wire
  | mk uit uitu productReceivingDate productName children => do
    let code ← individualCode uit uitu
    let received ← optionally "product_receiving_date" (utcMillis "product_receiving_date")
      productReceivingDate
    let name ← optionally "productName" (nonempty "productName" 255) productName
    let wires ← toWireAll children
    pure (code ++ received ++ name ++ childField wires)

def toWireAll : List IndividualProduct → Except PyError (List Wire)
  | [] => pure []
  | product :: rest => do
    let first ← toWire product
    let others ← toWireAll rest
    pure (first :: others)

end

mutual

def Valid : IndividualProduct → Prop
  | mk uit uitu productReceivingDate productName children =>
    IsIndividualCode uit uitu ∧ (∀ given ∈ productReceivingDate, IsInstant given) ∧
      (∀ given ∈ productName, IsName 255 given) ∧ ValidAll children

def ValidAll : List IndividualProduct → Prop
  | [] => True
  | product :: rest => product.Valid ∧ ValidAll rest

end

mutual

def wire : IndividualProduct → Wire
  | mk uit uitu productReceivingDate productName children =>
    individualCodeField uit uitu ++
      optionalField "product_receiving_date" instantText productReceivingDate ++
      optionalField "productName" id productName ++ childField (wireAll children)

def wireAll : List IndividualProduct → List Wire
  | [] => []
  | product :: rest => product.wire :: wireAll rest

end

mutual

theorem toWire_eq_ok {wire : Wire} : ∀ product : IndividualProduct,
    product.toWire = .ok wire ↔ product.Valid ∧ wire = product.wire
  | mk uit uitu productReceivingDate productName children => by
    simp only [toWire, Valid, IndividualProduct.wire, bind_eq_ok, individualCode_eq_ok,
      optionally_eq_ok fun _ _ => utcMillis_eq_ok, optionally_eq_ok fun _ _ => nonempty_eq_ok,
      toWireAll_eq_ok children, pure_eq_ok, and_assoc, exists_eq_left]
    rfl

theorem toWireAll_eq_ok : ∀ (products : List IndividualProduct) {wires : List Wire},
    toWireAll products = .ok wires ↔ wires = wireAll products ∧ ValidAll products
  | [], wires => by
    simp [toWireAll, wireAll, ValidAll, pure_eq_ok]
  | product :: rest, wires => by
    rw [and_comm]
    simp only [toWireAll, ValidAll, wireAll, bind_eq_ok, toWire_eq_ok product,
      toWireAll_eq_ok rest, pure_eq_ok, and_assoc, exists_eq_left, exists_and_left]

end

end IndividualProduct

/-- `LkIndiCommissioningDocument`. -/
structure LkIndiCommissioningDocument where
  participantInn : String
  productsList : List IndividualProduct
  productReceivingDate : Option Instant := none

namespace LkIndiCommissioningDocument

def toWire (document : LkIndiCommissioningDocument) : Except PyError Wire := do
  ensure (document.productsList.isEmpty = false) (contractError "products_list must be non-empty")
  let participantInn ← inn "participant_inn" document.participantInn
  let products ← IndividualProduct.toWireAll document.productsList
  let received ← optionally "product_receiving_date" (utcMillis "product_receiving_date")
    document.productReceivingDate
  pure ([("participant_inn", .str participantInn), ("products_list", objects products)] ++ received)

def Valid (document : LkIndiCommissioningDocument) : Prop :=
  document.productsList.isEmpty = false ∧ IsInn document.participantInn ∧
    IndividualProduct.ValidAll document.productsList ∧
    ∀ given ∈ document.productReceivingDate, IsInstant given

def wire (document : LkIndiCommissioningDocument) : Wire :=
  [("participant_inn", .str document.participantInn),
    ("products_list", objects (IndividualProduct.wireAll document.productsList))] ++
    optionalField "product_receiving_date" instantText document.productReceivingDate

theorem toWire_eq_ok {document : LkIndiCommissioningDocument} {wire : Wire} :
    document.toWire = .ok wire ↔ wire = document.wire ∧ document.Valid := by
  rw [and_comm]
  simp only [toWire, bind_eq_ok, ensure_eq_ok, inn_eq_ok, IndividualProduct.toWireAll_eq_ok,
    optionally_eq_ok fun _ _ => utcMillis_eq_ok, pure_eq_ok, and_assoc, exists_eq_left, exists_const,
    Valid, LkIndiCommissioningDocument.wire]

end LkIndiCommissioningDocument

/-- `LpGoodsImportDocument`. The decision code is the text that `str` gives of it. -/
structure LpGoodsImportDocument where
  participantInn : String
  declarationDate : Day
  declarationNumber : String
  customsCode : String
  decisionCode : String
  products : List ImportProduct
  deriving DecidableEq

namespace LpGoodsImportDocument

def toWire (document : LpGoodsImportDocument) : Except PyError Wire := do
  ensure (document.products ≠ []) (contractError "products must be non-empty")
  let customs ← Turnover.customsCode document.customsCode
  let decision ← Turnover.decisionCode document.decisionCode
  let participantInn ← inn "participant_inn" document.participantInn
  let declarationDate ← day "declaration_date" document.declarationDate
  let declarationNumber ← declaration "declaration_number" false document.declarationNumber
  -- `int` refuses digits that no number is written with
  let code ← found (IntText.int? decision) ⟨.valueError, "invalid literal for int() with base 10"⟩
  let products ← document.products.mapM ImportProduct.toWire
  pure [("participant_inn", .str participantInn), ("declaration_date", .str declarationDate),
    ("declaration_number", .str declarationNumber), ("customs_code", .str customs),
    ("decision_code", .int code), ("products", objects products)]

def Valid (document : LpGoodsImportDocument) : Prop :=
  document.products ≠ [] ∧ IsCustomsCode document.customsCode ∧
    IsDecisionCode document.decisionCode ∧ IsInn document.participantInn ∧
    IsDay document.declarationDate ∧ IsDeclaration [8] document.declarationNumber ∧
    (IntText.int? document.decisionCode).isSome = true ∧ ∀ product ∈ document.products, product.Valid

def wire (document : LpGoodsImportDocument) : Wire :=
  [("participant_inn", .str document.participantInn),
    ("declaration_date", .str (dayText document.declarationDate)),
    ("declaration_number", .str document.declarationNumber),
    ("customs_code", .str document.customsCode),
    ("decision_code", .int ((IntText.int? document.decisionCode).getD 0)),
    ("products", objects (document.products.map (TnvedProduct.wire "uit_code")))]

theorem intCode_eq_ok {text : String} {error : PyError} {code : ℤ} :
    found (IntText.int? text) error = .ok code ↔
      code = (IntText.int? text).getD 0 ∧ (IntText.int? text).isSome = true := by
  rw [found_eq_ok]
  cases IntText.int? text with
  | none => simp
  | some value => simp [eq_comm]

theorem toWire_eq_ok {document : LpGoodsImportDocument} {wire : Wire} :
    document.toWire = .ok wire ↔ wire = document.wire ∧ document.Valid := by
  rw [and_comm]
  simp only [toWire, ImportProduct.toWire, bind_eq_ok, ensure_eq_ok, customsCode_eq_ok,
    decisionCode_eq_ok, inn_eq_ok, day_eq_ok, declaration_eq_ok, intCode_eq_ok,
    TnvedProduct.mapM_toWire_eq_ok, pure_eq_ok, and_assoc, exists_eq_left, exists_const, Valid,
    LpGoodsImportDocument.wire, Bool.false_eq_true, if_false]

end LpGoodsImportDocument

/-- `CrossborderDocument`. -/
structure CrossborderDocument where
  tradeParticipantInn : String
  senderTaxNumber : String
  exporterName : String
  countryOksm : String
  importDate : Day
  primaryDocumentNumber : String
  primaryDocumentDate : Day
  productsList : List CrossborderProduct
  deriving DecidableEq

namespace CrossborderDocument

def countries : List String := ["051", "112", "398", "417"]

def toWire (document : CrossborderDocument) : Except PyError Wire := do
  ensure (document.productsList ≠ []) (contractError "products_list must be non-empty")
  let sender ← Turnover.senderTaxNumber document.senderTaxNumber
  let countryOksm ← country "country_oksm" document.countryOksm
  ensure (countryOksm ∈ countries)
    (contractError "country_oksm is not a supported EAEU source country")
  let tradeParticipantInn ← inn "trade_participant_inn" document.tradeParticipantInn
  let exporterName ← nonempty "exporter_name" 255 document.exporterName
  let importDate ← day "import_date" document.importDate
  let number ← nonempty "primary_document_number" 255 document.primaryDocumentNumber
  let date ← day "primary_document_date" document.primaryDocumentDate
  let products ← document.productsList.mapM CrossborderProduct.toWire
  pure [("trade_participant_inn", .str tradeParticipantInn), ("sender_tax_number", .str sender),
    ("exporter_name", .str exporterName), ("country_oksm", .str countryOksm),
    ("import_date", .str importDate), ("primary_document_number", .str number),
    ("primary_document_date", .str date), ("products_list", objects products)]

def Valid (document : CrossborderDocument) : Prop :=
  document.productsList ≠ [] ∧ IsSenderTaxNumber document.senderTaxNumber ∧
    IsCountry document.countryOksm ∧ document.countryOksm ∈ countries ∧
    IsInn document.tradeParticipantInn ∧ IsName 255 document.exporterName ∧
    IsDay document.importDate ∧ IsName 255 document.primaryDocumentNumber ∧
    IsDay document.primaryDocumentDate ∧ ∀ product ∈ document.productsList, product.Valid

def wire (document : CrossborderDocument) : Wire :=
  [("trade_participant_inn", .str document.tradeParticipantInn),
    ("sender_tax_number", .str document.senderTaxNumber),
    ("exporter_name", .str document.exporterName), ("country_oksm", .str document.countryOksm),
    ("import_date", .str (dayText document.importDate)),
    ("primary_document_number", .str document.primaryDocumentNumber),
    ("primary_document_date", .str (dayText document.primaryDocumentDate)),
    ("products_list", objects (document.productsList.map (TnvedProduct.wire "ki")))]

theorem toWire_eq_ok {document : CrossborderDocument} {wire : Wire} :
    document.toWire = .ok wire ↔ wire = document.wire ∧ document.Valid := by
  rw [and_comm]
  simp only [toWire, CrossborderProduct.toWire, bind_eq_ok, ensure_eq_ok, senderTaxNumber_eq_ok,
    country_eq_ok, inn_eq_ok, nonempty_eq_ok, day_eq_ok, TnvedProduct.mapM_toWire_eq_ok, pure_eq_ok,
    and_assoc, exists_eq_left, exists_const, Valid, CrossborderDocument.wire]

end CrossborderDocument

/-- `RemainsProduct`. -/
structure RemainsProduct where
  ki : String
  country : String
  declarationNumber : String
  declarationDate : Day
  permitDocuments : List PermitDocument := []
  deriving DecidableEq

namespace RemainsProduct

def toWire (product : RemainsProduct) : Except PyError Wire := do
  let ki ← cis "ki" product.ki
  let origin ← Turnover.country "country" product.country
  let declarationNumber ← declaration "declaration_number" true product.declarationNumber
  let declarationDate ← day "declaration_date" product.declarationDate
  let permits ← permitData product.permitDocuments
  pure ([("ki", .str ki), ("country", .str origin),
    ("declaration_number", .str declarationNumber),
    ("declaration_date", .str declarationDate)] ++ permits)

def Valid (product : RemainsProduct) : Prop :=
  IsCis product.ki ∧ IsCountry product.country ∧
    IsDeclaration [2, 5, 8] product.declarationNumber ∧ IsDay product.declarationDate ∧
    ∀ permit ∈ product.permitDocuments, permit.Valid

def wire (product : RemainsProduct) : Wire :=
  [("ki", .str product.ki), ("country", .str product.country),
    ("declaration_number", .str product.declarationNumber),
    ("declaration_date", .str (dayText product.declarationDate))] ++
    permitFields product.permitDocuments

theorem toWire_eq_ok {product : RemainsProduct} {wire : Wire} :
    product.toWire = .ok wire ↔ wire = product.wire ∧ product.Valid := by
  rw [and_comm]
  simp only [toWire, bind_eq_ok, cis_eq_ok, country_eq_ok, declaration_eq_ok, day_eq_ok,
    permitData_eq_ok, pure_eq_ok, and_assoc, exists_eq_left, Valid, RemainsProduct.wire, if_true]

theorem mapM_toWire_eq_ok {products : List RemainsProduct} {wires : List Wire} :
    products.mapM toWire = .ok wires ↔
      wires = products.map RemainsProduct.wire ∧ ∀ product ∈ products, product.Valid :=
  mapM_map_eq_ok fun _ _ => toWire_eq_ok

end RemainsProduct

/-- The texts under a key of objects. -/
def textsUnder (key : String) (wires : List Wire) : List (Option String) :=
  wires.map fun wire => (Json.lookup wire key).bind Json.str?

/-- `LpIntroduceOstDocument`. -/
structure LpIntroduceOstDocument where
  tradeParticipantInn : String
  productsList : List RemainsProduct
  deriving DecidableEq

namespace LpIntroduceOstDocument

def toWire (document : LpIntroduceOstDocument) : Except PyError Wire := do
  ensure (document.productsList ≠ []) (contractError "products_list must be non-empty")
  let wires ← document.productsList.mapM RemainsProduct.toWire
  ensure (textsUnder "ki" wires).Nodup (contractError "products_list[].ki must be unique")
  let tradeParticipantInn ← inn "trade_participant_inn" document.tradeParticipantInn
  pure [("trade_participant_inn", .str tradeParticipantInn), ("products_list", objects wires)]

def Valid (document : LpIntroduceOstDocument) : Prop :=
  document.productsList ≠ [] ∧ (∀ product ∈ document.productsList, product.Valid) ∧
    (document.productsList.map RemainsProduct.ki).Nodup ∧ IsInn document.tradeParticipantInn

def wire (document : LpIntroduceOstDocument) : Wire :=
  [("trade_participant_inn", .str document.tradeParticipantInn),
    ("products_list", objects (document.productsList.map RemainsProduct.wire))]

theorem textsUnder_ki (products : List RemainsProduct) :
    textsUnder "ki" (products.map RemainsProduct.wire) = (products.map RemainsProduct.ki).map some := by
  rw [textsUnder, List.map_map, List.map_map]
  rfl

theorem toWire_eq_ok {document : LpIntroduceOstDocument} {wire : Wire} :
    document.toWire = .ok wire ↔ wire = document.wire ∧ document.Valid := by
  rw [and_comm]
  simp only [toWire, bind_eq_ok, ensure_eq_ok, inn_eq_ok, RemainsProduct.mapM_toWire_eq_ok,
    textsUnder_ki, List.nodup_map_iff (Option.some_injective _), pure_eq_ok, and_assoc,
    exists_eq_left, exists_const, Valid, LpIntroduceOstDocument.wire]

end LpIntroduceOstDocument

/-- `LkContractCommissioningDocument`. -/
structure LkContractCommissioningDocument where
  producerInn : String
  ownerInn : String
  productsList : List ContractProduct
  productionDate : Option Day := none
  deriving DecidableEq

namespace LkContractCommissioningDocument

def toWire (document : LkContractCommissioningDocument) : Except PyError Wire := do
  ensure (document.productsList ≠ []) (contractError "products_list must be non-empty")
  let producerInn ← inn "producer_inn" document.producerInn
  let ownerInn ← inn "owner_inn" document.ownerInn
  let products ← document.productsList.mapM ContractProduct.toWire
  let productionDate ← optionally "production_date" (day "production_date") document.productionDate
  pure ([("producer_inn", .str producerInn), ("owner_inn", .str ownerInn),
    ("production_order", .str "CONTRACT_PRODUCTION"), ("products_list", objects products)] ++
    productionDate)

def Valid (document : LkContractCommissioningDocument) : Prop :=
  document.productsList ≠ [] ∧ IsInn document.producerInn ∧ IsInn document.ownerInn ∧
    (∀ product ∈ document.productsList, product.Valid) ∧
    ∀ day ∈ document.productionDate, IsDay day

def wire (document : LkContractCommissioningDocument) : Wire :=
  [("producer_inn", .str document.producerInn), ("owner_inn", .str document.ownerInn),
    ("production_order", .str "CONTRACT_PRODUCTION"),
    ("products_list", objects (document.productsList.map (TnvedProduct.wire "uit")))] ++
    optionalField "production_date" dayText document.productionDate

theorem toWire_eq_ok {document : LkContractCommissioningDocument} {wire : Wire} :
    document.toWire = .ok wire ↔ wire = document.wire ∧ document.Valid := by
  rw [and_comm]
  simp only [toWire, ContractProduct.toWire, bind_eq_ok, ensure_eq_ok, inn_eq_ok,
    TnvedProduct.mapM_toWire_eq_ok, optionally_eq_ok fun _ _ => day_eq_ok, pure_eq_ok, and_assoc,
    exists_eq_left, exists_const, Valid, LkContractCommissioningDocument.wire]

end LkContractCommissioningDocument

/-- `FtsProduct`. -/
structure FtsProduct where
  cis : String
  color : String
  productSize : String
  deriving DecidableEq

namespace FtsProduct

def toWire (product : FtsProduct) : Except PyError Wire := do
  let code ← Turnover.cis "cis" product.cis
  let color ← nonempty "color" 1024 product.color
  let productSize ← nonempty "productSize" 1024 product.productSize
  pure [("cis", .str code), ("color", .str color), ("productSize", .str productSize)]

def Valid (product : FtsProduct) : Prop :=
  IsCis product.cis ∧ IsName 1024 product.color ∧ IsName 1024 product.productSize

def wire (product : FtsProduct) : Wire :=
  [("cis", .str product.cis), ("color", .str product.color),
    ("productSize", .str product.productSize)]

theorem toWire_eq_ok {product : FtsProduct} {wire : Wire} :
    product.toWire = .ok wire ↔ wire = product.wire ∧ product.Valid := by
  rw [and_comm]
  simp only [toWire, bind_eq_ok, cis_eq_ok, nonempty_eq_ok, pure_eq_ok, and_assoc, exists_eq_left,
    Valid, FtsProduct.wire]

theorem mapM_toWire_eq_ok {products : List FtsProduct} {wires : List Wire} :
    products.mapM toWire = .ok wires ↔
      wires = products.map FtsProduct.wire ∧ ∀ product ∈ products, product.Valid :=
  mapM_map_eq_ok fun _ _ => toWire_eq_ok

end FtsProduct

/-- `LpFtsIntroduceDocument`. -/
structure LpFtsIntroduceDocument where
  tradeParticipantInn : String
  declarationNumber : String
  declarationDate : Day
  productsList : List FtsProduct
  deriving DecidableEq

namespace LpFtsIntroduceDocument

def toWire (document : LpFtsIntroduceDocument) : Except PyError Wire := do
  ensure (document.productsList ≠ []) (contractError "products_list must be non-empty")
  let tradeParticipantInn ← inn "trade_participant_inn" document.tradeParticipantInn
  let declarationNumber ← declaration "declaration_number" false document.declarationNumber
  let declarationDate ← day "declaration_date" document.declarationDate
  let products ← document.productsList.mapM FtsProduct.toWire
  pure [("trade_participant_inn", .str tradeParticipantInn),
    ("declaration_number", .str declarationNumber), ("declaration_date", .str declarationDate),
    ("products_list", objects products)]

def Valid (document : LpFtsIntroduceDocument) : Prop :=
  document.productsList ≠ [] ∧ IsInn document.tradeParticipantInn ∧
    IsDeclaration [8] document.declarationNumber ∧ IsDay document.declarationDate ∧
    ∀ product ∈ document.productsList, product.Valid

def wire (document : LpFtsIntroduceDocument) : Wire :=
  [("trade_participant_inn", .str document.tradeParticipantInn),
    ("declaration_number", .str document.declarationNumber),
    ("declaration_date", .str (dayText document.declarationDate)),
    ("products_list", objects (document.productsList.map FtsProduct.wire))]

theorem toWire_eq_ok {document : LpFtsIntroduceDocument} {wire : Wire} :
    document.toWire = .ok wire ↔ wire = document.wire ∧ document.Valid := by
  rw [and_comm]
  simp only [toWire, bind_eq_ok, ensure_eq_ok, inn_eq_ok, declaration_eq_ok, day_eq_ok,
    FtsProduct.mapM_toWire_eq_ok, pure_eq_ok, and_assoc, exists_eq_left, exists_const, Valid,
    LpFtsIntroduceDocument.wire, Bool.false_eq_true, if_false]

end LpFtsIntroduceDocument

end Wbcz.Turnover

import Wbcz.Turnover.Documents

/-!
# The documents of withdrawals, remarking and write-off

The documents of `turnover.py` that take codes out of circulation, mark them anew or take a
withdrawal back. The document of a distance withdrawal is the one that the assembler's was compared
with.
-/

namespace Wbcz.Turnover

open Calendar
open Fallible (bind_eq_ok ensure ensure_eq_ok found found_eq_ok mapM_map_eq_ok pure_eq_ok)
open Wbcz.Marketplace (contractError LkReceiptDistanceDocument ModLocation PrimaryDocument
  WithdrawalProduct)
open Wbcz.Marketplace.Contract (Day boundedDay day nonempty nonemptyText shiftYear)

/-- The fields of a part that may be missing. -/
def partWire {α : Type} (toWire : α → Except PyError Wire) : Option α → Except PyError Wire
  | none => pure []
  | some part => toWire part

theorem partWire_eq_ok {α : Type} {toWire : α → Except PyError Wire} {wire : α → Wire}
    {valid : α → Prop}
    (hpart : ∀ part fields, toWire part = .ok fields ↔ fields = wire part ∧ valid part)
    {value : Option α} {fields : Wire} :
    partWire toWire value = .ok fields ↔
      fields = (value.map wire).getD [] ∧ ∀ part ∈ value, valid part := by
  cases value with
  | none => simp [partWire, pure_eq_ok]
  | some part => simp [partWire, hpart]

/-- The first day that is still accepted. -/
def earliestDay (today : Date) : Except PyError Date :=
  found (shiftYear today (-5)) ⟨.valueError, "year 0 is out of range"⟩

/-- A day of the five years up to the last one that is accepted. -/
def IsRecent (today latest : Date) (value : Day) : Prop :=
  ∃ earliest, shiftYear today (-5) = some earliest ∧ IsDayWithin earliest latest value

/-- A day of the last five years. -/
def recentDay (label : String) (today : Date) (value : Day) : Except PyError String := do
  let earliest ← earliestDay today
  boundedDay label earliest today value

theorem recentDay_eq_ok {today : Date} {label : String} {value : Day} {text : String} :
    recentDay label today value = .ok text ↔ text = dayText value ∧ IsRecent today today value := by
  simp only [recentDay, earliestDay, bind_eq_ok, found_eq_ok, boundedDay_eq_ok, IsRecent]
  constructor
  · rintro ⟨earliest, hearliest, htext, hday⟩
    exact ⟨htext, earliest, hearliest, hday⟩
  · rintro ⟨htext, earliest, hearliest, hday⟩
    exact ⟨earliest, hearliest, htext, hday⟩

/-! ## Remarking -/

/-- `RemarkProduct`. -/
structure RemarkProduct where
  newUin : String
  lastUin : Option String := none
  tnved10 : Option String := none
  primaryDocument : Option PrimaryDocument := none
  permitDocuments : List PermitDocument := []
  deriving DecidableEq

namespace RemarkProduct

def toWire (cause : String) (product : RemarkProduct) : Except PyError Wire := do
  let newUin ← cis "new_uin" product.newUin
  let lastUin ← optionally "last_uin" (cis "last_uin") product.lastUin
  let tnved10 ← optionally "tnved_10" (tnved "tnved_10") product.tnved10
  ensure (product.tnved10 = none → product.lastUin ≠ none)
    (contractError "tnved_10 is required when last_uin is absent")
  ensure (cause = "DESCRIPTION_ERRORS" → product.lastUin ≠ none)
    (contractError "DESCRIPTION_ERRORS requires last_uin")
  let primary ← partWire (toRemarkWire cause) product.primaryDocument
  let permits ← permitData product.permitDocuments
  pure ([("new_uin", .str newUin)] ++ lastUin ++ tnved10 ++ primary ++ permits)

def Valid (cause : String) (product : RemarkProduct) : Prop :=
  IsCis product.newUin ∧ (∀ given ∈ product.lastUin, IsCis given) ∧
    (∀ given ∈ product.tnved10, IsTnved given) ∧
    (product.tnved10 = none → product.lastUin ≠ none) ∧
    (cause = "DESCRIPTION_ERRORS" → product.lastUin ≠ none) ∧
    (∀ document ∈ product.primaryDocument, (cause = "RETAIL_RETURN" ∨ cause = "REMOTE_SALE_RETURN") ∧
      PrimaryValid returnPrimaryTypes document) ∧
    ∀ permit ∈ product.permitDocuments, permit.Valid

def wire (product : RemarkProduct) : Wire :=
  [("new_uin", .str product.newUin)] ++ optionalField "last_uin" id product.lastUin ++
    optionalField "tnved_10" id product.tnved10 ++
    (product.primaryDocument.map returnWire).getD [] ++ permitFields product.permitDocuments

theorem toWire_eq_ok {cause : String} {product : RemarkProduct} {wire : Wire} :
    product.toWire cause = .ok wire ↔ wire = product.wire ∧ product.Valid cause := by
  rw [and_comm]
  simp only [toWire, bind_eq_ok, cis_eq_ok, optionally_eq_ok fun _ _ => cis_eq_ok,
    optionally_eq_ok fun _ _ => tnved_eq_ok, ensure_eq_ok,
    partWire_eq_ok fun _ _ => toRemarkWire_eq_ok, permitData_eq_ok, pure_eq_ok, and_assoc,
    exists_eq_left, exists_const, Valid, RemarkProduct.wire]
  rfl

theorem mapM_toWire_eq_ok {cause : String} {products : List RemarkProduct} {wires : List Wire} :
    products.mapM (toWire cause) = .ok wires ↔
      wires = products.map RemarkProduct.wire ∧ ∀ product ∈ products, product.Valid cause :=
  mapM_map_eq_ok fun _ _ => toWire_eq_ok

end RemarkProduct

/-- `LkRemarkDocument`. -/
structure LkRemarkDocument where
  participantInn : String
  remarkingDate : Day
  remarkingCause : String
  products : List RemarkProduct
  deriving DecidableEq

namespace LkRemarkDocument

def toWire (today : Date) (document : LkRemarkDocument) : Except PyError Wire := do
  let cause ← nonempty "remarking_cause" 64 document.remarkingCause
  ensure (document.products ≠ []) (contractError "products must be non-empty")
  let participantInn ← inn "participant_inn" document.participantInn
  let remarkingDate ← recentDay "remarking_date" today document.remarkingDate
  let products ← document.products.mapM (RemarkProduct.toWire cause)
  pure [("participant_inn", .str participantInn), ("remarking_date", .str remarkingDate),
    ("remarking_cause", .str cause), ("products", objects products)]

def Valid (today : Date) (document : LkRemarkDocument) : Prop :=
  IsName 64 document.remarkingCause ∧ document.products ≠ [] ∧ IsInn document.participantInn ∧
    IsRecent today today document.remarkingDate ∧
    ∀ product ∈ document.products, product.Valid document.remarkingCause

def wire (document : LkRemarkDocument) : Wire :=
  [("participant_inn", .str document.participantInn),
    ("remarking_date", .str (dayText document.remarkingDate)),
    ("remarking_cause", .str document.remarkingCause),
    ("products", objects (document.products.map RemarkProduct.wire))]

theorem toWire_eq_ok {today : Date} {document : LkRemarkDocument} {wire : Wire} :
    document.toWire today = .ok wire ↔ wire = document.wire ∧ document.Valid today := by
  rw [and_comm]
  simp only [toWire, bind_eq_ok, nonempty_eq_ok, ensure_eq_ok, inn_eq_ok, recentDay_eq_ok,
    RemarkProduct.mapM_toWire_eq_ok, pure_eq_ok, and_assoc, exists_eq_left, exists_const, Valid,
    LkRemarkDocument.wire]

end LkRemarkDocument

/-! ## Write-off -/

/-- `WriteOffDocument`; `with_child` is whatever is given for it. -/
structure WriteOffDocument where
  participantId : String
  dropoutReason : String
  sourceDocType : String
  sourceDocNum : String
  sourceDocDate : Day
  sntins : List String
  sourceDocName : Option String := none
  destinationCountryCode : Option String := none
  buyerId : Option String := none
  fiasId : Option String := none
  kpp : Option String := none
  withChild : Json := .null

namespace WriteOffDocument

/-- `_WRITE_OFF_SOURCE_TYPES`. -/
def sourceTypes : List String := ["DESTRUCTION_ACT", "CUSTOMS_DECLARATION", "OTHER"]

/-- The reasons of an export. -/
def exportReasons : List String := ["EAS_TRADE", "BEYOND_EEC_EXPORT"]

/-- The source types that a reason admits. -/
def admitSource (reason sourceType : String) : Except PyError Unit := do
  ensure (sourceType ∈ sourceTypes) (contractError "unsupported sourceDocType")
  ensure (reason ∈ exportReasons → sourceType = "CUSTOMS_DECLARATION" ∨ sourceType = "OTHER")
    (contractError "export write-off sourceDocType must be CUSTOMS_DECLARATION or OTHER")
  ensure (reason ∉ exportReasons → sourceType ≠ "CUSTOMS_DECLARATION")
    (contractError "CUSTOMS_DECLARATION is only accepted for export write-off reasons")
  ensure (sourceType = "DESTRUCTION_ACT" → reason = "DESTRUCTION")
    (contractError "DESTRUCTION_ACT requires dropoutReason=DESTRUCTION")

def AdmitsSource (reason sourceType : String) : Prop :=
  sourceType ∈ sourceTypes ∧
    (reason ∈ exportReasons → sourceType = "CUSTOMS_DECLARATION" ∨ sourceType = "OTHER") ∧
    (reason ∉ exportReasons → sourceType ≠ "CUSTOMS_DECLARATION") ∧
    (sourceType = "DESTRUCTION_ACT" → reason = "DESTRUCTION")

theorem admitSource_eq_ok {reason sourceType : String} {done : Unit} :
    admitSource reason sourceType = .ok done ↔ AdmitsSource reason sourceType := by
  simp only [admitSource, bind_eq_ok, ensure_eq_ok, exists_const, AdmitsSource]

/-- `sourceDocName`, for other documents only. -/
def sourceName (sourceType : String) (name : Option String) : Except PyError Wire :=
  if sourceType = "OTHER" then do
    let text ← nonemptyText "sourceDocName" 255 name
    pure [("sourceDocName", .str text)]
  else do
    ensure (name.getD "" = "")
      (contractError "sourceDocName must be absent unless sourceDocType=OTHER")
    pure []

def sourceNameField (sourceType : String) (name : Option String) : Wire :=
  if sourceType = "OTHER" then [("sourceDocName", .str (name.getD ""))] else []

def IsSourceName (sourceType : String) (name : Option String) : Prop :=
  if sourceType = "OTHER" then ∃ text, name = some text ∧ IsName 255 text else name.getD "" = ""

theorem sourceName_eq_ok {sourceType : String} {name : Option String} {fields : Wire} :
    sourceName sourceType name = .ok fields ↔
      fields = sourceNameField sourceType name ∧ IsSourceName sourceType name := by
  unfold sourceName sourceNameField IsSourceName
  by_cases hother : sourceType = "OTHER"
  · simp only [if_pos hother, bind_eq_ok, nonemptyText_eq_ok, pure_eq_ok]
    constructor
    · rintro ⟨text, ⟨rfl, hname⟩, rfl⟩
      exact ⟨rfl, text, rfl, hname⟩
    · rintro ⟨rfl, text, rfl, hname⟩
      exact ⟨text, ⟨rfl, hname⟩, rfl⟩
  · simp only [if_neg hother, bind_eq_ok, ensure_eq_ok, pure_eq_ok, exists_const]
    exact and_comm

/-- Where an export goes, for the trade in the union only. -/
def destination (reason : String) (countryCode buyerId : Option String) : Except PyError Wire :=
  if reason = "EAS_TRADE" then
    match countryCode, buyerId with
    | some countryCode, some buyerId => do
      let destination ← country "destinationCountryCode" countryCode
      let buyer ← nonempty "buyerId" 64 buyerId
      pure [("destinationCountryCode", .str destination), ("buyerId", .str buyer)]
    | _, _ => .error (contractError "EAS_TRADE requires destinationCountryCode and buyerId")
  else do
    ensure (countryCode = none ∧ buyerId = none)
      (contractError "destinationCountryCode/buyerId are only accepted for EAS_TRADE")
    pure []

def destinationFields (reason : String) (countryCode buyerId : Option String) : Wire :=
  if reason = "EAS_TRADE" then
    [("destinationCountryCode", .str (countryCode.getD "")), ("buyerId", .str (buyerId.getD ""))]
  else []

def IsDestination (reason : String) (countryCode buyerId : Option String) : Prop :=
  if reason = "EAS_TRADE" then
    ∃ code buyer, countryCode = some code ∧ buyerId = some buyer ∧ IsCountry code ∧ IsName 64 buyer
  else countryCode = none ∧ buyerId = none

theorem destination_eq_ok {reason : String} {countryCode buyerId : Option String} {fields : Wire} :
    destination reason countryCode buyerId = .ok fields ↔
      fields = destinationFields reason countryCode buyerId ∧
        IsDestination reason countryCode buyerId := by
  unfold destination destinationFields IsDestination
  by_cases htrade : reason = "EAS_TRADE"
  · simp only [if_pos htrade]
    cases countryCode with
    | none => simp
    | some code =>
      cases buyerId with
      | none => simp
      | some buyer =>
        simp only [bind_eq_ok, country_eq_ok, nonempty_eq_ok, pure_eq_ok, and_assoc, exists_eq_left,
          Option.getD_some, Option.some.injEq]
        constructor
        · rintro ⟨hcode, hbuyer, hfields⟩
          exact ⟨hfields, code, buyer, rfl, rfl, hcode, hbuyer⟩
        · rintro ⟨hfields, _, _, rfl, rfl, hcode, hbuyer⟩
          exact ⟨hcode, hbuyer, hfields⟩
  · simp only [if_neg htrade, bind_eq_ok, ensure_eq_ok, pure_eq_ok, exists_const]
    exact and_comm

/-- `withChild`, where it is given. -/
def withChildField : Json → Except PyError Wire
  | .null => pure []
  | .bool value => pure [("withChild", .bool value)]
  | _ => .error (contractError "withChild must be boolean")

def withChildWire : Json → Wire
  | .bool value => [("withChild", .bool value)]
  | _ => []

def IsWithChild (value : Json) : Prop := value = .null ∨ ∃ flag, value = .bool flag

theorem withChildField_eq_ok {value : Json} {fields : Wire} :
    withChildField value = .ok fields ↔ fields = withChildWire value ∧ IsWithChild value := by
  cases value <;> simp [withChildField, withChildWire, IsWithChild, pure_eq_ok]

/-- The last day that is accepted. -/
def latestDay (today : Date) : Except PyError Date :=
  found (today.later 30) ⟨.other "OverflowError", "date value out of range"⟩

/-- A day from the first one that is accepted to the last one. -/
def sourceDay (today : Date) (value : Day) : Except PyError String := do
  let earliest ← earliestDay today
  let latest ← latestDay today
  boundedDay "sourceDocDate" earliest latest value

def IsSourceDay (today : Date) (value : Day) : Prop :=
  ∃ latest, today.later 30 = some latest ∧ IsRecent today latest value

theorem sourceDay_eq_ok {today : Date} {value : Day} {text : String} :
    sourceDay today value = .ok text ↔ text = dayText value ∧ IsSourceDay today value := by
  simp only [sourceDay, earliestDay, latestDay, bind_eq_ok, found_eq_ok, boundedDay_eq_ok,
    IsSourceDay, IsRecent]
  constructor
  · rintro ⟨earliest, hearliest, latest, hlatest, htext, hday⟩
    exact ⟨htext, latest, hlatest, earliest, hearliest, hday⟩
  · rintro ⟨htext, latest, hlatest, earliest, hearliest, hday⟩
    exact ⟨earliest, hearliest, latest, hlatest, htext, hday⟩

def sourceType (document : WriteOffDocument) : String :=
  (Text.upperAscii? document.sourceDocType).getD ""

def toWire (today : Date) (document : WriteOffDocument) : Except PyError Wire := do
  let codes ← uniqueCises document.sntins "sntins"
  let reason ← nonempty "dropoutReason" 64 document.dropoutReason
  let givenType ← nonempty "sourceDocType" 64 document.sourceDocType
  let sourceType := (Text.upperAscii? givenType).getD ""
  admitSource reason sourceType
  let participantId ← inn "participantId" document.participantId
  let sourceDocNum ← nonempty "sourceDocNum" 255 document.sourceDocNum
  let sourceDocDate ← sourceDay today document.sourceDocDate
  let sourceDocName ← sourceName sourceType document.sourceDocName
  let exported ← destination reason document.destinationCountryCode document.buyerId
  let fiasId ← optionally "fiasId" (fias "fiasId") document.fiasId
  let kpp ← optionally "kpp" Turnover.kpp document.kpp
  let withChild ← withChildField document.withChild
  pure ([("participantId", .str participantId), ("dropoutReason", .str reason),
    ("sourceDocType", .str sourceType), ("sourceDocNum", .str sourceDocNum),
    ("sourceDocDate", .str sourceDocDate), ("sntins", .arr (codes.map .str))] ++ sourceDocName ++
    exported ++ fiasId ++ kpp ++ withChild)

def Valid (today : Date) (document : WriteOffDocument) : Prop :=
  (document.sntins ≠ [] ∧ (∀ code ∈ document.sntins, IsCis code) ∧ document.sntins.Nodup) ∧
    IsName 64 document.dropoutReason ∧ IsName 64 document.sourceDocType ∧
    AdmitsSource document.dropoutReason document.sourceType ∧ IsInn document.participantId ∧
    IsName 255 document.sourceDocNum ∧
    IsSourceDay today document.sourceDocDate ∧
    IsSourceName document.sourceType document.sourceDocName ∧
    IsDestination document.dropoutReason document.destinationCountryCode document.buyerId ∧
    (∀ given ∈ document.fiasId, IsFias given) ∧ (∀ given ∈ document.kpp, IsKpp given) ∧
    IsWithChild document.withChild

def wire (document : WriteOffDocument) : Wire :=
  [("participantId", .str document.participantId), ("dropoutReason", .str document.dropoutReason),
    ("sourceDocType", .str document.sourceType), ("sourceDocNum", .str document.sourceDocNum),
    ("sourceDocDate", .str (dayText document.sourceDocDate)),
    ("sntins", .arr (document.sntins.map .str))] ++
    sourceNameField document.sourceType document.sourceDocName ++
    destinationFields document.dropoutReason document.destinationCountryCode document.buyerId ++
    optionalField "fiasId" fiasText document.fiasId ++ optionalField "kpp" id document.kpp ++
    withChildWire document.withChild

theorem toWire_eq_ok {today : Date} {document : WriteOffDocument} {wire : Wire} :
    document.toWire today = .ok wire ↔ wire = document.wire ∧ document.Valid today := by
  rw [and_comm]
  simp only [toWire, bind_eq_ok, uniqueCises_eq_ok, nonempty_eq_ok, admitSource_eq_ok, inn_eq_ok,
    sourceDay_eq_ok, sourceName_eq_ok, destination_eq_ok, optionally_eq_ok fun _ _ => fias_eq_ok,
    optionally_eq_ok fun _ _ => kpp_eq_ok, withChildField_eq_ok, pure_eq_ok, and_assoc,
    exists_eq_left, exists_const, Valid, sourceType, WriteOffDocument.wire]
  rfl

end WriteOffDocument

/-! ## A distance withdrawal -/

namespace Distance

/-- The part of a withdrawal that a primary document makes. -/
def primaryFields (document : PrimaryDocument) : Wire :=
  primaryWire "document_type" "document_number" "document_date" document

def ProductValid (product : WithdrawalProduct) : Prop :=
  (0 ≤ product.productCost ∧ product.productCost ≤ 99999999999999999) ∧ IsCis product.cis

def productWire (product : WithdrawalProduct) : Wire :=
  [("cis", .str product.cis), ("product_cost", .int product.productCost)]

def LocationValid (location : ModLocation) : Prop :=
  IsFias location.fiasId ∧
    if location.legalEntity then ∃ kpp, location.kpp = some kpp ∧ IsKpp kpp else location.kpp = none

def locationWire (location : ModLocation) : Wire :=
  let fields : Wire := [("fias_id", .str (fiasText location.fiasId))]
  if location.legalEntity then Json.set fields "kpp" (.str (location.kpp.getD "")) else fields

def Valid (today : Date) (document : LkReceiptDistanceDocument) : Prop :=
  document.products ≠ [] ∧ (∀ product ∈ document.products, ProductValid product) ∧
    (document.products.map WithdrawalProduct.cis).Nodup ∧ IsInn document.inn ∧
    IsRecent today today document.actionDate ∧ LocationValid document.mod ∧
    ∀ primary ∈ document.primaryDocument,
      PrimaryValid Wbcz.Marketplace.distancePrimaryTypes primary

def wire (document : LkReceiptDistanceDocument) : Wire :=
  Json.merge ([("inn", .str document.inn), ("action", .str "DISTANCE"),
    ("action_date", .str (dayText document.actionDate))] ++ locationWire document.mod ++
      [("products", objects (document.products.map productWire))])
    ((document.primaryDocument.map primaryFields).getD [])

theorem productToWire_eq_ok {product : WithdrawalProduct} {wire : Wire} :
    product.toWire = .ok wire ↔ wire = productWire product ∧ ProductValid product := by
  have hcis : Wbcz.Marketplace.Contract.cis product.cis = .ok product.cis ↔ IsCis product.cis := by
    rw [withdrawal_checks.1, cis_eq_ok]
    exact and_iff_right rfl
  rw [WithdrawalProduct.toWire_eq_ok, hcis, ← and_assoc, and_comm]
  rfl

theorem contractInn_eq_ok {value text : String} :
    Wbcz.Marketplace.Contract.inn value = .ok text ↔ text = value ∧ IsInn value := by
  simp only [Wbcz.Marketplace.Contract.inn, bind_eq_ok, nonempty_eq_ok, ensure_eq_ok, and_assoc,
    exists_eq_left, exists_const]
  constructor
  · rintro ⟨hname, hdigits, hlength, hlast⟩
    exact ⟨pure_eq_ok.mp hlast, hname, hdigits, by simpa using hlength⟩
  · rintro ⟨htext, hname, hdigits, hlength⟩
    exact ⟨hname, hdigits, by simpa using hlength, pure_eq_ok.mpr htext⟩

theorem contractKpp_eq_ok {value text : String} :
    Wbcz.Marketplace.Contract.kpp value = .ok text ↔ text = value ∧ IsKpp value := by
  simp only [Wbcz.Marketplace.Contract.kpp, bind_eq_ok, nonempty_eq_ok, ensure_eq_ok, and_assoc,
    exists_eq_left, exists_const]
  constructor
  · rintro ⟨hname, hdigits, hlength, hlast⟩
    exact ⟨pure_eq_ok.mp hlast, hname, hdigits, by simpa using hlength⟩
  · rintro ⟨htext, hname, hdigits, hlength⟩
    exact ⟨hname, hdigits, by simpa using hlength, pure_eq_ok.mpr htext⟩

theorem locationToWire_eq_ok {location : ModLocation} {fields : Wire} :
    location.toWithdrawalWire = .ok fields ↔
      fields = locationWire location ∧ LocationValid location := by
  unfold ModLocation.toWithdrawalWire locationWire LocationValid
  rw [withdrawal_checks.2]
  simp only [bind_eq_ok, fias_eq_ok, and_assoc, exists_eq_left]
  cases location.legalEntity with
  | true =>
    simp only [if_true, bind_eq_ok, found_eq_ok, contractKpp_eq_ok, pure_eq_ok, and_assoc,
      exists_eq_left]
    constructor
    · rintro ⟨hfias, kpp, hgiven, hkpp, rfl⟩
      exact ⟨by rw [hgiven]; rfl, hfias, kpp, hgiven, hkpp⟩
    · rintro ⟨rfl, hfias, kpp, hgiven, hkpp⟩
      exact ⟨hfias, kpp, hgiven, hkpp, by rw [hgiven]; rfl⟩
  | false =>
    simp only [Bool.false_eq_true, if_false, bind_eq_ok, ensure_eq_ok, pure_eq_ok, exists_const]
    constructor
    · rintro ⟨hfias, hkpp, hfields⟩
      exact ⟨hfields, hfias, hkpp⟩
    · rintro ⟨hfields, hfias, hkpp⟩
      exact ⟨hfias, hkpp, hfields⟩

theorem primary_eq_ok {document : Option PrimaryDocument} {fields : Wire} :
    Wbcz.Marketplace.primaryWire document = .ok fields ↔
      fields = (document.map primaryFields).getD [] ∧
        ∀ primary ∈ document, PrimaryValid Wbcz.Marketplace.distancePrimaryTypes primary := by
  cases document with
  | none => simp [Wbcz.Marketplace.primaryWire, eq_comm]
  | some primary =>
    simp only [Wbcz.Marketplace.primaryWire, Option.map_some, Option.getD_some, Option.mem_def,
      Option.some.injEq, forall_eq']
    exact common_eq_ok

theorem toWire_eq_ok {today : Date} {document : LkReceiptDistanceDocument} {wire : Wire} :
    document.toWire today = .ok wire ↔ wire = Distance.wire document ∧ Valid today document := by
  have hproducts : ∀ wires, document.products.mapM WithdrawalProduct.toWire = .ok wires ↔ _ :=
    fun wires => mapM_map_eq_ok fun _ _ => productToWire_eq_ok
  have hcodes : (document.products.map productWire).map
      (fun wire => (Json.lookup wire "cis").bind Json.str?) =
        (document.products.map WithdrawalProduct.cis).map some := by
    rw [List.map_map, List.map_map]
    rfl
  have hday : ∀ (rest : String → Prop), (∃ earliest, shiftYear today (-5) = some earliest ∧
      ∃ text, boundedDay "action_date" earliest today document.actionDate = .ok text ∧ rest text) ↔
        IsRecent today today document.actionDate ∧ rest (dayText document.actionDate) := by
    intro rest
    simp only [boundedDay_eq_ok, and_assoc, exists_eq_left, IsRecent]
    constructor
    · rintro ⟨earliest, hearliest, hday, hrest⟩
      exact ⟨⟨earliest, hearliest, hday⟩, hrest⟩
    · rintro ⟨⟨earliest, hearliest, hday⟩, hrest⟩
      exact ⟨earliest, hearliest, hday, hrest⟩
  rw [and_comm]
  simp only [LkReceiptDistanceDocument.toWire, bind_eq_ok, ensure_eq_ok, hproducts, hcodes,
    List.nodup_map_iff (Option.some_injective _), contractInn_eq_ok, found_eq_ok, hday,
    locationToWire_eq_ok, primary_eq_ok, pure_eq_ok, and_assoc, exists_eq_left, exists_const, Valid,
    Distance.wire, objects]

end Distance

/-! ## Taking a withdrawal back -/

/-- `LkReceiptCancelDocument`. -/
structure LkReceiptCancelDocument where
  inn : String
  lkReceiptId : String
  deriving DecidableEq

namespace LkReceiptCancelDocument

def toWire (document : LkReceiptCancelDocument) : Except PyError Wire := do
  let participant ← Turnover.inn "inn" document.inn
  let receipt ← nonempty "lk_receipt_id" 512 document.lkReceiptId
  pure [("inn", .str participant), ("lk_receipt_id", .str receipt)]

def Valid (document : LkReceiptCancelDocument) : Prop :=
  IsInn document.inn ∧ IsName 512 document.lkReceiptId

def wire (document : LkReceiptCancelDocument) : Wire :=
  [("inn", .str document.inn), ("lk_receipt_id", .str document.lkReceiptId)]

theorem toWire_eq_ok {document : LkReceiptCancelDocument} {wire : Wire} :
    document.toWire = .ok wire ↔ wire = document.wire ∧ document.Valid := by
  rw [and_comm]
  simp only [toWire, bind_eq_ok, inn_eq_ok, nonempty_eq_ok, pure_eq_ok, and_assoc, exists_eq_left,
    Valid, LkReceiptCancelDocument.wire]

end LkReceiptCancelDocument

end Wbcz.Turnover

import Wbcz.Lib.JsonFields
import Wbcz.Lib.Uuid
import Wbcz.Marketplace.Row
import Wbcz.WritePipeline.Store

/-!
# Documents of events

`OfficialP0DocumentAssembler` of `document_assembler.py`: the withdrawal of a sale and the return
of one, from an event and the configuration of an organisation. The date of a withdrawal is that of
the event in UTC, in which an event is stored.
-/

namespace Wbcz.Marketplace

open Calendar
open Fallible (ensure found bind_eq_ok ensure_eq_ok found_eq_ok)

/-- `DocumentAssemblyManualReview`. -/
def manualReview (reason : String) : PyError := ⟨.other "DocumentAssemblyManualReview", reason⟩

/-! ## Organisations -/

inductive OrganisationType where
  | legalEntity
  | individualEntrepreneur
  deriving DecidableEq, Repr

/-- `validate_owner_inn`. -/
def isOwnerInn (value : String) : Bool :=
  value.toList.all Text.isAsciiDigit && (value.length = 10 || value.length = 12)

/-- `_FIAS_RE`. -/
def isFiasId (value : String) : Bool := Uuid.matchesGroups 12 Uuid.groups value.toList

/-- `_KPP_RE`. -/
def isKpp (value : String) : Bool := value.length = 9 && value.toList.all Text.isAsciiDigit

/-- `P0OrganisationConfig`, as its checks let it through. -/
structure P0OrganisationConfig where
  participantInn : String
  organisationType : OrganisationType
  fiasId : String
  kpp : Option String
  remoteSaleReturnPaid : Option Bool
  inn_valid : isOwnerInn participantInn = true
  fiasId_valid : isFiasId fiasId = true
  kpp_valid : match organisationType with
    | .legalEntity => kpp.any isKpp = true
    | .individualEntrepreneur => kpp = none

/-! ## Primary documents -/

/-- A `date` or a `datetime`. -/
inductive DocumentDate where
  | date (day : Date)
  | datetime (moment : DateTime)
  deriving DecidableEq

def DocumentDate.day : DocumentDate → Date
  | date day => day
  | datetime moment => moment.clock.date

/-- `ReturnPrimaryDocument`. -/
structure ReturnPrimaryDocument where
  documentType : String
  number : String
  documentDate : DocumentDate
  customName : Option String
  deriving DecidableEq

/-- `_ALLOWED_PRIMARY_TYPES`. -/
def allowedPrimaryTypes : List String := ["RECEIPT", "SALES_RECEIPT", "OTHER"]

/-- A text of up to 255 characters. -/
def isName (value : String) : Bool := 1 ≤ value.length && value.length ≤ 255

/-- The fields of a primary document under these keys; the reasons of a refusal start alike. -/
def primaryFields (typeKey numberKey dateKey reason : String) (document : ReturnPrimaryDocument) :
    Except PyError (List (String × Json)) := do
  let documentType := (Text.upperAscii? (Text.strip document.documentType)).getD ""
  ensure (documentType ∈ allowedPrimaryTypes) (manualReview (reason ++ "_TYPE_INVALID"))
  let number := Text.strip document.number
  ensure (isName number = true) (manualReview (reason ++ "_NUMBER_INVALID"))
  let fields : List (String × Json) :=
    [(typeKey, .str documentType), (numberKey, .str number),
      (dateKey, .str (String.ofList document.documentDate.day.isoFormat))]
  if documentType = "OTHER" then
    let custom := Text.strip (document.customName.getD "")
    ensure (isName custom = true) (manualReview (reason ++ "_CUSTOM_NAME_REQUIRED"))
    pure (Json.set fields "primary_document_custom_name" (.str custom))
  else
    ensure (document.customName.getD "" = "") (manualReview (reason ++ "_CUSTOM_NAME_FORBIDDEN"))
    pure fields

/-- `fields`. -/
def ReturnPrimaryDocument.fields (document : ReturnPrimaryDocument) :
    Except PyError (List (String × Json)) :=
  primaryFields "primary_document_type" "primary_document_number" "primary_document_date"
    "RETURN_PRIMARY_DOCUMENT" document

/-- `withdrawal_fields`. -/
def ReturnPrimaryDocument.withdrawalFields (document : ReturnPrimaryDocument) :
    Except PyError (List (String × Json)) :=
  primaryFields "document_type" "document_number" "document_date" "WITHDRAW_PRIMARY_DOCUMENT"
    document

/-! ## The values of an event -/

/-- `rubles_to_kopecks`. -/
def rublesToKopecks (value : Decimal) : Except PyError ℤ := do
  ensure (value.isFinite = true) (manualReview "PRODUCT_COST_INVALID")
  ensure (¬ value.less (.finite false 0 0) = true) (manualReview "PRODUCT_COST_NEGATIVE")
  let kopecks ← found (value.mulNat 100) decimalOverflow
  let integral := kopecks.toIntegralValue
  ensure (kopecks.same integral = true) (manualReview "PRODUCT_COST_SUBKOPECK")
  let result := integral.toInt
  ensure ((toString result).length ≤ 17) (manualReview "PRODUCT_COST_TOO_LARGE")
  pure result

/-- `_event_date`. -/
def eventDate (event : Event) : Except PyError String :=
  match event.occurredAt with
  | none => .error (manualReview "WB_EVENT_DATE_REQUIRED")
  | some moment => .ok (String.ofList moment.clock.date.isoFormat)

/-- `_normalized_event_cis`. -/
def normalizedEventCis (event : Event) : Except PyError String := do
  let value := Text.strip event.kiz
  ensure (¬ (value ≠ event.kiz ∨ ¬ (18 ≤ value.length ∧ value.length ≤ 74)))
    (manualReview "WB_CIS_INVALID")
  pure value

/-! ## The assembler -/

/-- `OfficialP0DocumentAssembler`. -/
structure Assembler where
  organisation : Option P0OrganisationConfig
  primaryDocumentProvider : Option (Event → Option ReturnPrimaryDocument)
  withdrawalPrimaryDocumentProvider : Option (Event → Option ReturnPrimaryDocument)

namespace Assembler

variable (assembler : Assembler)

/-- `_organisation`. -/
def organisationOf : Except PyError P0OrganisationConfig :=
  found assembler.organisation (manualReview "ORGANISATION_CONFIG_MISSING")

/-- The fields that a provider adds. -/
def providedFields (provider : Option (Event → Option ReturnPrimaryDocument)) (event : Event) :
    Except PyError (List (String × Json)) :=
  match provider.bind fun provider => provider event with
  | none => .ok []
  | some document => document.withdrawalFields

/-- The fields of a withdrawal, but for those of its primary document. -/
def distanceFields (organisation : P0OrganisationConfig) (actionDate cis : String)
    (productCost : ℤ) : List (String × Json) :=
  let fields : List (String × Json) :=
    [("inn", .str organisation.participantInn), ("action", .str "DISTANCE"),
      ("action_date", .str actionDate), ("fias_id", .str organisation.fiasId),
      ("products", .arr [.obj [("cis", .str cis), ("product_cost", .int productCost)]])]
  match organisation.organisationType with
  | .legalEntity => Json.set fields "kpp" (.ofText? organisation.kpp)
  | .individualEntrepreneur => fields

/-- The value of `_lk_receipt_distance`. -/
def lkReceiptDistance (event : Event) : Except PyError (List (String × Json)) := do
  let organisation ← assembler.organisationOf
  ensure (event.currency = "RUB") (manualReview "LK_RECEIPT_UNSUPPORTED_CURRENCY")
  let actionDate ← eventDate event
  let cis ← normalizedEventCis event
  let productCost ← rublesToKopecks event.amount
  let primary ← providedFields assembler.withdrawalPrimaryDocumentProvider event
  pure (Json.merge (distanceFields organisation actionDate cis productCost) primary)

/-- The value of `_lp_return_remote_sale`. -/
def lpReturnRemoteSale (event : Event) : Except PyError (List (String × Json)) := do
  let organisation ← assembler.organisationOf
  let paid ← found organisation.remoteSaleReturnPaid
    (manualReview "REMOTE_SALE_RETURN_PAID_REQUIRED")
  let cis ← normalizedEventCis event
  let fields : List (String × Json) :=
    [("trade_participant_inn", .str organisation.participantInn),
      ("return_type", .str "REMOTE_SALE_RETURN"), ("paid", .bool paid),
      ("products_list", .arr [.obj [("ki", .str cis)]])]
  if paid then
    let document ← found (assembler.primaryDocumentProvider.bind fun provider => provider event)
      (manualReview "RETURN_PRIMARY_DOCUMENT_REQUIRED")
    let primary ← document.fields
    pure (Json.merge fields primary)
  else pure fields

/-- `ExactDocumentBuilder.from_json_value`. -/
def exactDocument (fields : List (String × Json)) : ExactDocument :=
  let payload := Text.utf8 (Json.canonical (.obj fields))
  ⟨payload, Sha256.hexdigest payload, String.ofList (Base64.encode payload)⟩

/-- `build_exact`. -/
def buildExact (event : Event) (decision : Decision) : Except PyError ExactDocument :=
  match decision with
  | .readyToWithdraw => do
    ensure (event.operation = .sale) (manualReview "WITHDRAW_DECISION_EVENT_MISMATCH")
    let fields ← assembler.lkReceiptDistance event
    pure (exactDocument fields)
  | .readyToReturn => do
    ensure (event.operation = .return) (manualReview "RETURN_DECISION_EVENT_MISMATCH")
    let fields ← assembler.lpReturnRemoteSale event
    pure (exactDocument fields)
  | _ => .error (manualReview "CONTROL_DECISION_NOT_WRITABLE")

end Assembler

/-! ## Kopecks -/

theorem value_hundredth : (10 : ℚ) ^ hundredth = 1 / 100 := by norm_num [hundredth]

/-- An amount that has passed the checks is one of hundredths, in any representation. -/
theorem amount_hundredths (event : Event) :
    ∃ negative coefficient exponent n, event.amount = .finite negative coefficient exponent ∧
      event.amount.value = (Decimal.finite negative n hundredth).value ∧
      n ≤ 99999999999999900 ∧
      (coefficient ≠ 0 →
        Decimal.adjusted coefficient exponent - hundredth + 1 ≤ Decimal.precision) ∧
      (hundredth ≤ exponent ∨ 10 ^ (hundredth - exponent).toNat ∣ coefficient) := by
  obtain ⟨_, _, h⟩ := bind_eq_ok.mp event.amount_valid
  obtain ⟨magnitude, habs, h⟩ := bind_eq_ok.mp h
  obtain ⟨_, hlimit, h⟩ := bind_eq_ok.mp h
  obtain ⟨rounded, hrounded, h⟩ := bind_eq_ok.mp h
  have hsame := ensure_eq_ok.mp h
  obtain ⟨negative, coefficient, exponent, n, heq, rfl, -, hdigits, hmultiple⟩ :=
    Decimal.of_same_quantize (found_eq_ok.mp hrounded) hsame
  have hvalue := (Decimal.same_iff _ _).mp hsame
  refine ⟨negative, coefficient, exponent, n, heq, hvalue, ?_, hdigits, hmultiple⟩
  -- the magnitude is exact, and it is that of the hundredths
  obtain ⟨m, own, hexact, hmagnitude⟩ := Decimal.finalize_exact false
    (by decide : Decimal.etiny ≤ hundredth)
    (fun hzero => by
      have := hdigits hzero
      unfold Decimal.precision hundredth at this
      unfold Decimal.emax
      omega) hdigits hmultiple
  have habs := found_eq_ok.mp habs
  rw [heq, Decimal.abs, hexact, Option.some.injEq] at habs
  have hlimit := mt (Decimal.less_iff _ _).mpr (ensure_eq_ok.mp hlimit)
  rw [← habs, hmagnitude, not_lt] at hlimit
  rw [heq] at hvalue
  have hunsigned : (coefficient : ℚ) * 10 ^ exponent = n * 10 ^ hundredth := by
    have hsign : (if negative then (-1 : ℚ) else 1) ≠ 0 := by cases negative <;> norm_num
    exact mul_left_cancel₀ hsign hvalue
  simp only [Decimal.value, Bool.false_eq_true, if_false, one_mul, hunsigned, amountLimit,
    value_hundredth, zpow_zero, mul_one] at hlimit
  have hle : (n : ℚ) ≤ (99999999999999900 : ℕ) := by
    push_cast at hlimit ⊢
    linarith
  exact_mod_cast hle

theorem length_toString_natCast (n : ℕ) :
    (toString (n : ℤ)).length = Decimal.digitCount n := by
  change (String.ofList (Nat.toDigits 10 n)).length = _
  rw [String.length_ofList]
  rfl

/-- The kopecks of an amount that is not negative are a hundred times its value, and within the
official range. -/
theorem rublesToKopecks_of_event (event : Event) (h : 0 ≤ event.amount.value) :
    ∃ kopecks : ℕ, rublesToKopecks event.amount = .ok kopecks ∧
      (kopecks : ℚ) = 100 * event.amount.value ∧ kopecks ≤ 99999999999999999 := by
  obtain ⟨negative, coefficient, exponent, n, heq, hvalue, hlimit, hdigits, hmultiple⟩ :=
    amount_hundredths event
  obtain ⟨k, own, hmul, hproduct⟩ := Decimal.mulNat_pow negative 2
    (by decide : Decimal.etiny ≤ hundredth + (2 : ℕ))
    (fun hzero => by
      have := hdigits hzero
      unfold Decimal.precision hundredth at this
      unfold Decimal.emax
      push_cast
      omega) hdigits hmultiple
  have hhundred : (Decimal.finite negative k own).value =
      (if negative then -1 else 1) * (n : ℚ) := by
    rw [hproduct, ← heq, hvalue, Decimal.value, value_hundredth]
    ring
  obtain ⟨hintegral, htoInt⟩ := Decimal.toIntegralValue_of_value hhundred
  -- zero may have a sign
  have hsigned : (if negative then -(n : ℤ) else n) = n := by
    cases negative with
    | false => rfl
    | true =>
      have hnonpos : (n : ℚ) ≤ 0 := by
        rw [hvalue, Decimal.value, value_hundredth, if_pos rfl] at h
        linarith
      have hzero : n = 0 := by exact_mod_cast le_antisymm hnonpos (Nat.cast_nonneg n)
      subst hzero
      rfl
  have hnonneg : ¬ event.amount.less (.finite false 0 0) = true := by
    rw [Decimal.less_iff, not_lt]
    simpa [Decimal.value] using h
  refine ⟨n, ?_, ?_, by omega⟩
  · have hlength : (toString (n : ℤ)).length ≤ 17 := by
      rw [length_toString_natCast]
      exact (Decimal.digitCount_le_iff (by decide)).mpr (by omega)
    have hfinite : event.amount.isFinite = true := by rw [heq]; rfl
    refine bind_eq_ok.mpr ⟨(), ensure_eq_ok.mpr hfinite, ?_⟩
    refine bind_eq_ok.mpr ⟨(), ensure_eq_ok.mpr hnonneg, ?_⟩
    refine bind_eq_ok.mpr ⟨_, found_eq_ok.mpr (heq ▸ hmul), ?_⟩
    refine bind_eq_ok.mpr ⟨(), ensure_eq_ok.mpr hintegral, ?_⟩
    rw [htoInt, hsigned]
    exact bind_eq_ok.mpr ⟨(), ensure_eq_ok.mpr hlength, rfl⟩
  · have hcast : ((if negative then -(n : ℤ) else n : ℤ) : ℚ) = (n : ℤ) := by rw [hsigned]
    rw [← heq] at hproduct
    have hsum : (100 : ℚ) * event.amount.value = (if negative then -1 else 1) * (n : ℚ) := by
      rw [← hhundred, hproduct]
      norm_num
    rw [hsum]
    cases negative with
    | false => simp
    | true => simpa using hcast.symm

/-- The kopecks of an event are within the official range. -/
theorem rublesToKopecks_range {event : Event} {kopecks : ℤ}
    (h : rublesToKopecks event.amount = .ok kopecks) :
    0 ≤ kopecks ∧ kopecks ≤ 99999999999999999 := by
  obtain ⟨_, _, hrest⟩ := bind_eq_ok.mp h
  obtain ⟨_, hnegative, -⟩ := bind_eq_ok.mp hrest
  have hnonneg := mt (Decimal.less_iff _ _).mpr (ensure_eq_ok.mp hnegative)
  rw [not_lt] at hnonneg
  obtain ⟨n, hn, -, hlimit⟩ := rublesToKopecks_of_event event (by
    simpa [Decimal.value] using hnonneg)
  cases hn.symm.trans h
  omega

/-! ## What is built -/

/-- The fields of a primary document stand under the keys that were given. -/
theorem lookup_primaryFields {typeKey numberKey dateKey reason key : String}
    {document : ReturnPrimaryDocument} {fields : List (String × Json)}
    (h : primaryFields typeKey numberKey dateKey reason document = .ok fields)
    (hkey : key ∉ [typeKey, numberKey, dateKey, "primary_document_custom_name"]) :
    Json.lookup fields key = none := by
  simp only [List.mem_cons, List.not_mem_nil, or_false, not_or] at hkey
  obtain ⟨htype, hnumber, hdate, hcustom⟩ := hkey
  obtain ⟨_, _, h⟩ := bind_eq_ok.mp h
  obtain ⟨_, _, h⟩ := bind_eq_ok.mp h
  split at h
  · obtain ⟨_, _, h⟩ := bind_eq_ok.mp h
    cases h
    simp [Json.lookup_set, Ne.symm htype, Ne.symm hnumber, Ne.symm hdate, hcustom]
  · obtain ⟨_, _, h⟩ := bind_eq_ok.mp h
    cases h
    simp [Ne.symm htype, Ne.symm hnumber, Ne.symm hdate]

namespace Assembler

variable {assembler : Assembler} {event : Event} {payload : List (String × Json)}

/-- The parts of a withdrawal. -/
theorem lkReceiptDistance_eq_ok (h : assembler.lkReceiptDistance event = .ok payload) :
    ∃ organisation actionDate cis productCost primary,
      assembler.organisation = some organisation ∧ event.currency = "RUB" ∧
      eventDate event = .ok actionDate ∧ normalizedEventCis event = .ok cis ∧
      rublesToKopecks event.amount = .ok productCost ∧
      providedFields assembler.withdrawalPrimaryDocumentProvider event = .ok primary ∧
      payload = Json.merge (distanceFields organisation actionDate cis productCost) primary := by
  obtain ⟨organisation, horganisation, h⟩ := bind_eq_ok.mp h
  obtain ⟨_, hcurrency, h⟩ := bind_eq_ok.mp h
  obtain ⟨actionDate, hdate, h⟩ := bind_eq_ok.mp h
  obtain ⟨cis, hcis, h⟩ := bind_eq_ok.mp h
  obtain ⟨productCost, hcost, h⟩ := bind_eq_ok.mp h
  obtain ⟨primary, hprimary, h⟩ := bind_eq_ok.mp h
  cases h
  exact ⟨organisation, actionDate, cis, productCost, primary,
    found_eq_ok.mp horganisation, ensure_eq_ok.mp hcurrency, hdate, hcis, hcost,
    hprimary, rfl⟩

/-- A provider adds nothing but the fields of a primary document. -/
theorem lookup_providedFields {provider : Option (Event → Option ReturnPrimaryDocument)}
    {primary : List (String × Json)} {key : String}
    (h : providedFields provider event = .ok primary)
    (hkey : key ∉
      ["document_type", "document_number", "document_date", "primary_document_custom_name"]) :
    Json.lookup primary key = none := by
  unfold providedFields at h
  split at h
  · cases h
    rfl
  · exact lookup_primaryFields h hkey

theorem lookup_distanceFields (organisation : P0OrganisationConfig) (actionDate cis : String)
    (productCost : ℤ) {key : String} (hkey : key ≠ "kpp") :
    Json.lookup (distanceFields organisation actionDate cis productCost) key =
      Json.lookup [("inn", .str organisation.participantInn), ("action", .str "DISTANCE"),
        ("action_date", .str actionDate), ("fias_id", .str organisation.fiasId),
        ("products", .arr [.obj [("cis", .str cis), ("product_cost", .int productCost)]])] key := by
  unfold distanceFields
  cases organisation.organisationType with
  | legalEntity => simp only [Json.lookup_set, if_neg hkey]
  | individualEntrepreneur => rfl

/-- The date of a withdrawal is that of the event on its clock. -/
theorem lookup_action_date (h : assembler.lkReceiptDistance event = .ok payload) :
    ∃ moment, event.occurredAt = some moment ∧ Json.lookup payload "action_date" =
      some (.str (String.ofList moment.clock.date.isoFormat)) := by
  obtain ⟨organisation, actionDate, cis, productCost, primary, -, -, hdate, -, -, hprimary, rfl⟩ :=
    lkReceiptDistance_eq_ok h
  unfold eventDate at hdate
  split at hdate
  · cases hdate
  · rename_i moment hmoment
    cases hdate
    refine ⟨moment, hmoment, ?_⟩
    rw [Json.lookup_merge_of_none (lookup_providedFields hprimary (by decide)),
      lookup_distanceFields _ _ _ _ (by decide)]
    rfl

end Assembler

/-! ## The date of a withdrawal -/

section ActionDate

variable {assembler : Assembler} {repr : String → String} {values : Values} {event loaded : Event}
  {payload : List (String × Json)}

/-- A clock that is three hours ahead of UTC shows the date of UTC from three o'clock on. -/
theorem date_eq_iff_of_shift {utc clock : Moment} (h : utc.shift wbOffset = some clock) :
    utc.date = clock.date ↔ wbOffset ≤ clock.time := by
  have hback := Moment.shift_shift (by decide) h
  have htime := clock.time_lt
  rw [Moment.date_eq_of_shift_iff hback, Moment.days]
  unfold wbOffset dayMicros at *
  omega

theorem isoFormat_inj {d e : Date} :
    some (Json.str (String.ofList d.isoFormat)) = some (.str (String.ofList e.isoFormat)) ↔
      d = e := by
  rw [Option.some.injEq, Json.str.injEq]
  exact ⟨fun h => Date.isoFormat_injective (String.ofList_injective h), fun h => by rw [h]⟩

/-- The date of the withdrawal of a row, whose event was stored and loaded, is the date that the
clock of the marketplace shows at the moment of the row if and only if that clock shows three
o'clock or later. That is the date written in the row, where the row has no time zone. -/
theorem action_date_iff (h : parseRow repr values = .ok event)
    (hloaded : (event.toDict >>= Event.fromDict) = .ok loaded)
    (hpayload : assembler.lkReceiptDistance loaded = .ok payload) :
    ∃ written, writtenDate (values .date) = some written ∧
      ((∃ clock, (inZone written).toZone wbOffset = some clock ∧
        Json.lookup payload "action_date" =
          some (.str (String.ofList clock.date.isoFormat))) ↔
        ∃ clock, (inZone written).toZone wbOffset = some clock ∧ wbOffset ≤ clock.time) ∧
      ∀ clock, written = .naive clock →
        (inZone written).toZone wbOffset = some clock ∧
        (Json.lookup payload "action_date" =
          some (.str (String.ofList clock.date.isoFormat)) ↔ wbOffset ≤ clock.time) := by
  rw [(parseRow_normal h).fromDict_toDict] at hloaded
  cases hloaded
  obtain ⟨moment, hmoment, hdate⟩ := Assembler.lookup_action_date hpayload
  rcases dateOf_eq_ok (parseRow_date h) with ⟨-, hnone⟩ | ⟨written, utc, -, hwritten, hutc, hsome⟩
  · rw [hmoment] at hnone
    cases hnone
  rw [hmoment, Option.some.injEq] at hsome
  subst hsome
  -- a document has the date of UTC
  have hzone : (inZone written).toZone wbOffset = utc.shift wbOffset := by
    rw [Zoned.toZone, hutc, Option.bind_some]
  refine ⟨written, hwritten, ?_, ?_⟩
  · rw [hzone]
    refine exists_congr fun clock => and_congr_right fun hclock => ?_
    rw [hdate, isoFormat_inj]
    exact date_eq_iff_of_shift hclock
  · rintro clock rfl
    have hclock : utc.shift wbOffset = some clock := by
      have hback : utc.shift (-(-wbOffset)) = some clock :=
        Moment.shift_shift (by decide) hutc
      rwa [neg_neg] at hback
    rw [hzone, hdate, isoFormat_inj]
    exact ⟨hclock, date_eq_iff_of_shift hclock⟩

end ActionDate

/-! ### A sale by day and one by night -/

/-- A legal entity. -/
def sampleOrganisation : P0OrganisationConfig where
  participantInn := "7700000000"
  organisationType := .legalEntity
  fiasId := "12345678-1234-1234-1234-1234567890ab"
  kpp := some "770001001"
  remoteSaleReturnPaid := none
  inn_valid := by decide
  fiasId_valid := by decide
  kpp_valid := by decide

/-- An assembler without primary documents. -/
def sampleAssembler : Assembler := ⟨some sampleOrganisation, none, none⟩

/-- The withdrawal of the sample on a date. -/
def samplePayload (actionDate : String) : List (String × Json) :=
  Assembler.distanceFields sampleOrganisation actionDate "0104600000000001215a%B" 123450

/-- The day before, one minute to midnight in UTC. -/
def nightMoment : Moment := ⟨⟨2024, 1, 31, by decide⟩, 86340000000, by decide⟩

/-- The sale of one minute to three. -/
def nightEvent : Event := { sampleEvent with occurredAt := some (Zoned.utc nightMoment) }

theorem samplePayload_eq : sampleAssembler.lkReceiptDistance sampleEvent =
    .ok (samplePayload "2024-02-01") := by rfl

theorem nightPayload_eq : sampleAssembler.lkReceiptDistance nightEvent =
    .ok (samplePayload "2024-01-31") := by rfl

/-- A sale at ten in the morning. -/
theorem action_date_iff_morning :
    ∃ written, writtenDate (.str "01.02.2024 10:00") = some written ∧
      ((∃ clock, (inZone written).toZone wbOffset = some clock ∧
        Json.lookup (samplePayload "2024-02-01") "action_date" =
          some (.str (String.ofList clock.date.isoFormat))) ↔
        ∃ clock, (inZone written).toZone wbOffset = some clock ∧ wbOffset ≤ clock.time) ∧
      ∀ clock, written = .naive clock →
        (inZone written).toZone wbOffset = some clock ∧
        (Json.lookup (samplePayload "2024-02-01") "action_date" =
          some (.str (String.ofList clock.date.isoFormat)) ↔ wbOffset ≤ clock.time) := by
  have hrow : parseRow (fun text => text)
      (sampleRow (.str "01.02.2024 10:00") (.str "1 234,50")) = .ok sampleEvent := by rfl
  exact action_date_iff hrow (parseRow_normal hrow).fromDict_toDict samplePayload_eq

/-- A sale before three o'clock has the date of the day before. -/
theorem action_date_of_the_day_before :
    ¬ ∀ (assembler : Assembler) (repr : String → String) (values : Values) (event loaded : Event)
      (payload : List (String × Json)), parseRow repr values = .ok event →
      (event.toDict >>= Event.fromDict) = .ok loaded →
      assembler.lkReceiptDistance loaded = .ok payload →
      ∃ written clock, writtenDate (values .date) = some written ∧
        (inZone written).toZone wbOffset = some clock ∧
        Json.lookup payload "action_date" =
          some (.str (String.ofList clock.date.isoFormat)) := by
  intro hclaim
  have hrow : parseRow (fun text => text)
      (sampleRow (.str "01.02.2024 02:59") (.str "1 234,50")) = .ok nightEvent := by rfl
  obtain ⟨written, clock, hwritten, hclock, hdate⟩ := hclaim sampleAssembler _ _ nightEvent
    nightEvent _ hrow (parseRow_normal hrow).fromDict_toDict nightPayload_eq
  have hnight : writtenDate (.str "01.02.2024 02:59") =
      some (.naive ⟨⟨2024, 2, 1, by decide⟩, 10740000000, by decide⟩) := by rfl
  cases hnight.symm.trans hwritten
  have hzone : (inZone (.naive ⟨⟨2024, 2, 1, by decide⟩, 10740000000, by decide⟩)).toZone wbOffset =
      some ⟨⟨2024, 2, 1, by decide⟩, 10740000000, by decide⟩ := by decide +kernel
  cases hzone.symm.trans hclock
  have hbefore : Json.lookup (samplePayload "2024-01-31") "action_date" =
      some (.str (String.ofList nightMoment.date.isoFormat)) := by rfl
  have hsame := isoFormat_inj.mp (hbefore.symm.trans hdate)
  exact absurd hsame (by decide)

end Wbcz.Marketplace

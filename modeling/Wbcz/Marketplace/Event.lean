import Wbcz.Errors
import Wbcz.Lib.DateText
import Wbcz.Lib.Decimal
import Wbcz.Lib.Fallible
import Wbcz.Lib.FlatJson
import Wbcz.Lib.Sha256
import Wbcz.Models

/-!
# Marketplace events

`Event` of `models.py` with all of its fields: what the constructor checks, the dictionary that is
stored, and the id, which is the digest of the canonical text of the dictionary.
-/

namespace Wbcz

open Calendar
open Fallible (ensure found)

/-- The text of an operation in the files of the marketplace. -/
def Operation.value : Operation → String
  | .sale => "Продажа"
  | .«return» => "Возврат"

/-- `Operation(text)`. -/
def Operation.ofValue? (text : String) : Option Operation :=
  [.sale, .return].find? fun operation => operation.value = text

theorem Operation.ofValue?_value (operation : Operation) :
    Operation.ofValue? operation.value = some operation := by
  cases operation <;> decide

namespace Marketplace

/-! ## Errors of the libraries -/

/-- A signal of the decimal context; it is an `ArithmeticError`. -/
def decimalOverflow : PyError := ⟨.other "Overflow", "[<class 'decimal.Overflow'>]"⟩

def invalidOperation : PyError := ⟨.other "InvalidOperation", ""⟩

/-- A date out of the range of `datetime`. -/
def overflowError : PyError := ⟨.other "OverflowError", ""⟩

/-! ## Events -/

/-- The greatest amount. -/
def amountLimit : Decimal := .finite false 999999999999999 0

/-- The exponent of a hundredth. -/
def hundredth : ℤ := -2

/-- The checks of an amount. -/
def checkAmount (amount : Decimal) : Except PyError Unit := do
  ensure (amount.isFinite = true) ⟨.valueError, "Стоимость должна быть конечным числом"⟩
  let magnitude ← found amount.abs decimalOverflow
  ensure (¬ amountLimit.less magnitude = true) ⟨.valueError, "Слишком большая стоимость"⟩
  let rounded ← found (amount.quantize hundredth) invalidOperation
  ensure (amount.same rounded = true)
    ⟨.valueError, "Стоимость должна содержать не более двух знаков"⟩

/-- An event that has passed the checks. -/
structure Event where
  kiz : String
  taskNumber : String
  sticker : String
  operation : Operation
  occurredAt : Option Zoned
  receiptNumber : Option String
  fiscalDriveNumber : Option String
  amount : Decimal
  currency : String
  legalEntitySale : Option Bool
  named : kiz ≠ "" ∧ taskNumber ≠ "" ∧ sticker ≠ ""
  amount_valid : checkAmount amount = .ok ()

/-- The arguments of the constructor. -/
structure EventFields where
  kiz : String
  taskNumber : String
  sticker : String
  operation : Operation
  occurredAt : Option DateTime
  receiptNumber : Option String
  fiscalDriveNumber : Option String
  amount : Decimal
  currency : String
  legalEntitySale : Option Bool

/-- A moment that has a time zone, or none at all. -/
def zoned? : Option DateTime → Option (Option Zoned)
  | none => some none
  | some (.aware moment) => some (some moment)
  | some (.naive _) => none

/-- `__post_init__`. -/
def EventFields.toEvent (fields : EventFields) : Except PyError Event :=
  if named : fields.kiz ≠ "" ∧ fields.taskNumber ≠ "" ∧ fields.sticker ≠ "" then
    match zoned? fields.occurredAt with
    | none => .error ⟨.valueError, "Дата события должна содержать часовой пояс"⟩
    | some occurredAt =>
      match amount_valid : checkAmount fields.amount with
      | .error e => .error e
      | .ok () => .ok {
          kiz := fields.kiz
          taskNumber := fields.taskNumber
          sticker := fields.sticker
          operation := fields.operation
          occurredAt
          receiptNumber := fields.receiptNumber
          fiscalDriveNumber := fields.fiscalDriveNumber
          amount := fields.amount
          currency := fields.currency
          legalEntitySale := fields.legalEntitySale
          named
          amount_valid }
  else .error ⟨.valueError, "КИЗ, № задания и стикер обязательны"⟩

/-- The arguments of which an event was made. -/
def Event.fields (event : Event) : EventFields where
  kiz := event.kiz
  taskNumber := event.taskNumber
  sticker := event.sticker
  operation := event.operation
  occurredAt := event.occurredAt.map .aware
  receiptNumber := event.receiptNumber
  fiscalDriveNumber := event.fiscalDriveNumber
  amount := event.amount
  currency := event.currency
  legalEntitySale := event.legalEntitySale

theorem zoned?_eq_some {moment : Option DateTime} {zoned : Option Zoned} :
    zoned? moment = some zoned ↔ moment = zoned.map .aware := by
  constructor
  · intro h
    unfold zoned? at h
    split at h <;> cases h <;> rfl
  · rintro rfl
    cases zoned <;> rfl

/-- The checks let an event through that is made of the same arguments, and no other one. -/
theorem EventFields.toEvent_eq_ok {fields : EventFields} {event : Event} :
    fields.toEvent = .ok event ↔ fields = event.fields := by
  constructor
  · intro h
    unfold EventFields.toEvent at h
    split at h
    · split at h
      · cases h
      · rename_i occurredAt hoccurred
        split at h
        · cases h
        · cases h
          have hoccurred := zoned?_eq_some.mp hoccurred
          cases fields
          simp only [Event.fields]
          simp only at hoccurred
          rw [hoccurred]
    · cases h
  · rintro rfl
    have hoccurred : zoned? event.fields.occurredAt = some event.occurredAt :=
      zoned?_eq_some.mpr rfl
    refine (dif_pos event.named).trans ?_
    rw [hoccurred]
    simp only
    split
    · rename_i e herror
      have hvalid := event.amount_valid
      rw [show checkAmount event.amount = .error e from herror] at hvalid
      cases hvalid
    · rfl

/-! ## The dictionary -/

/-- What `to_dict` gives, and what is stored. -/
structure EventDict where
  kiz : String
  taskNumber : String
  sticker : String
  operation : String
  occurredAt : Option String
  receiptNumber : Option String
  fiscalDriveNumber : Option String
  amount : String
  currency : String
  legalEntitySale : Option Bool
  deriving DecidableEq

/-- `astimezone(timezone.utc).isoformat(timespec="microseconds")`. -/
def utcText (moment : Zoned) : Except PyError String := do
  let utc ← found moment.toUtc overflowError
  pure (String.ofList utc.isoFormat)

/-- `format(amount, ".2f")` of a number of hundredths. -/
def amountText : Decimal → String
  | .finite negative hundredths _ => String.ofList (Decimal.formatHundredths negative hundredths)
  | _ => ""

/-- A value that may be absent is computed where it is there. -/
def optionally {α β : Type} (f : α → Except PyError β) : Option α → Except PyError (Option β)
  | none => .ok none
  | some a => (f a).map some

/-- `to_dict`. -/
def Event.toDict (event : Event) : Except PyError EventDict := do
  let occurredAt ← optionally utcText event.occurredAt
  let rounded ← found (event.amount.quantize hundredth) invalidOperation
  pure {
    kiz := event.kiz
    taskNumber := event.taskNumber
    sticker := event.sticker
    operation := event.operation.value
    occurredAt
    receiptNumber := event.receiptNumber
    fiscalDriveNumber := event.fiscalDriveNumber
    amount := amountText rounded
    currency := event.currency
    legalEntitySale := event.legalEntitySale }

/-- `from_dict`. -/
def Event.fromDict (value : EventDict) : Except PyError Event := do
  let operation ← found (Operation.ofValue? value.operation) ⟨.valueError, ""⟩
  let occurredAt ← optionally
    (fun text => found (fromisoformat text.toList) ⟨.valueError, ""⟩) value.occurredAt
  let amount ← found (Decimal.read? value.amount.toList) invalidOperation
  EventFields.toEvent {
    kiz := value.kiz
    taskNumber := value.taskNumber
    sticker := value.sticker
    operation
    occurredAt
    receiptNumber := value.receiptNumber
    fiscalDriveNumber := value.fiscalDriveNumber
    amount
    currency := value.currency
    legalEntitySale := value.legalEntitySale }

/-! ## Ids -/

/-- A truth value that may be absent. -/
def ofBool? : Option Bool → Json
  | some b => .bool b
  | none => .null

namespace EventDict

/-- The dictionary as a value of JSON. -/
def fields (value : EventDict) : List (String × Json) :=
  [("kiz", .str value.kiz), ("task_number", .str value.taskNumber),
    ("sticker", .str value.sticker), ("operation", .str value.operation),
    ("occurred_at", .ofText? value.occurredAt), ("receipt_number", .ofText? value.receiptNumber),
    ("fiscal_drive_number", .ofText? value.fiscalDriveNumber), ("amount", .str value.amount),
    ("currency", .str value.currency), ("legal_entity_sale", ofBool? value.legalEntitySale)]

/-- The text of which the id is the digest. -/
def payload (value : EventDict) : String :=
  "wb-event:v1:" ++ Json.canonical (.obj value.fields)

def digest (value : EventDict) : String := Sha256.hexdigest (Text.utf8 value.payload)

end EventDict

/-- `event_id`. -/
def Event.eventId (event : Event) : Except PyError String := event.toDict.map EventDict.digest

theorem isScalar_ofBool? (value : Option Bool) : (ofBool? value).IsScalar := by
  cases value with
  | none => exact .null
  | some b => exact .bool b

theorem ofBool?_injective {a b : Option Bool} (h : ofBool? a = ofBool? b) : a = b := by
  cases a <;> cases b <;> simp_all [ofBool?]

theorem EventDict.fields_scalar (value : EventDict) : ∀ field ∈ value.fields, field.2.IsScalar := by
  simp only [EventDict.fields, List.forall_mem_cons]
  exact ⟨.str _, .str _, .str _, .str _, Json.isScalar_ofText? _, Json.isScalar_ofText? _,
    Json.isScalar_ofText? _, .str _, .str _, isScalar_ofBool? _, fun _ h => nomatch h⟩

/-- The fields in the order of their keys. -/
theorem EventDict.orderFields_fields (value : EventDict) : Json.orderFields value.fields =
    [("amount", .str value.amount), ("currency", .str value.currency),
      ("fiscal_drive_number", .ofText? value.fiscalDriveNumber), ("kiz", .str value.kiz),
      ("legal_entity_sale", ofBool? value.legalEntitySale),
      ("occurred_at", .ofText? value.occurredAt), ("operation", .str value.operation),
      ("receipt_number", .ofText? value.receiptNumber), ("sticker", .str value.sticker),
      ("task_number", .str value.taskNumber)] := by
  simp [EventDict.fields, Json.orderFields, Json.insertValue, Json.keyLe]

/-- One payload, one dictionary. -/
theorem EventDict.payload_injective {value other : EventDict} (h : value.payload = other.payload) :
    value = other := by
  have hcanonical : Json.canonical (.obj value.fields) = Json.canonical (.obj other.fields) := by
    have htext := congrArg String.toList h
    rw [payload, payload, String.toList_append, String.toList_append] at htext
    exact String.toList_inj.mp (List.append_cancel_left htext)
  have hordered := Json.canonical_obj_injective value.fields_scalar other.fields_scalar hcanonical
  simp only [orderFields_fields, List.cons.injEq, Prod.mk.injEq, Json.str.injEq, true_and,
    and_true] at hordered
  obtain ⟨hamount, hcurrency, hfiscal, hkiz, hlegal, hoccurred, hoperation, hreceipt, hsticker,
    htask⟩ := hordered
  have hfiscal := Jcs.ofText?_injective (congrArg Jcs.canonicalForm hfiscal)
  have hlegal := ofBool?_injective hlegal
  have hoccurred := Jcs.ofText?_injective (congrArg Jcs.canonicalForm hoccurred)
  have hreceipt := Jcs.ofText?_injective (congrArg Jcs.canonicalForm hreceipt)
  cases value
  cases other
  simp_all

/-! ## Normal events -/

/-- An amount in hundredths, where zero has no sign. -/
def IsHundredths (amount : Decimal) : Prop :=
  ∃ negative hundredths, amount = .finite negative hundredths hundredth ∧
    (hundredths = 0 → negative = false) ∧ Decimal.digitCount hundredths ≤ Decimal.precision

/-- An amount in hundredths has a magnitude. -/
theorem IsHundredths.abs {amount : Decimal} (h : IsHundredths amount) :
    ∃ magnitude, amount.abs = some magnitude := by
  obtain ⟨negative, hundredths, rfl, -, hdigits⟩ := h
  have hadjusted : Decimal.adjusted hundredths hundredth - hundredth + 1 ≤ Decimal.precision := by
    rw [Decimal.adjusted]
    omega
  obtain ⟨_, _, habs, -⟩ := Decimal.finalize_exact false
    (by decide : Decimal.etiny ≤ hundredth)
    (fun _ => by unfold Decimal.precision hundredth at *; unfold Decimal.emax; omega)
    (fun _ => hadjusted) (.inl le_rfl)
  exact ⟨_, habs⟩

/-- The amount is one of hundredths, and the moment is in UTC. -/
structure Event.Normal (event : Event) : Prop where
  amount : IsHundredths event.amount
  moment : ∃ moment : Option Moment, event.occurredAt = moment.map Zoned.utc

/-- Hundredths of one value are one number. -/
theorem IsHundredths.eq_of_value {a b : Decimal} (ha : IsHundredths a) (hb : IsHundredths b)
    (h : a.value = b.value) : a = b := by
  obtain ⟨negative, m, rfl, hm, -⟩ := ha
  obtain ⟨negative', n, rfl, hn, -⟩ := hb
  have hsame := (Decimal.same_iff _ _).mpr h
  have hunits := of_decide_eq_true hsame
  simp only [Decimal.exponent, Decimal.units, min_self, Int.sub_self, Int.toNat_zero, pow_zero,
    mul_one] at hunits
  cases negative <;> cases negative' <;>
    simp only [Bool.false_eq_true, if_false, if_true, reduceCtorEq, imp_false] at hunits hm hn
  · rw [Int.ofNat_inj.mp hunits]
  · omega
  · omega
  · rw [Int.ofNat_inj.mp (Int.neg_inj.mp hunits)]

/-- An amount of hundredths stays as it is, and is read back from its text. -/
theorem IsHundredths.quantize {amount : Decimal} (h : IsHundredths amount) :
    amount.quantize hundredth = some amount ∧
      Decimal.read? (amountText amount).toList = some amount := by
  obtain ⟨negative, hundredths, rfl, -, hdigits⟩ := h
  refine ⟨Decimal.quantize_self hdigits, ?_⟩
  rw [amountText, String.toList_ofList]
  exact Decimal.read?_formatHundredths negative hdigits

/-- The text of a moment in UTC. -/
def momentText (moment : Moment) : String := String.ofList moment.isoFormat

namespace Event.Normal

variable {event other : Event}

/-- The dictionary of a normal event. -/
def dict (event : Event) (moment : Option Moment) : EventDict where
  kiz := event.kiz
  taskNumber := event.taskNumber
  sticker := event.sticker
  operation := event.operation.value
  occurredAt := moment.map momentText
  receiptNumber := event.receiptNumber
  fiscalDriveNumber := event.fiscalDriveNumber
  amount := amountText event.amount
  currency := event.currency
  legalEntitySale := event.legalEntitySale

theorem toDict_eq (h : event.Normal) {moment : Option Moment}
    (hmoment : event.occurredAt = moment.map Zoned.utc) :
    event.toDict = .ok (dict event moment) := by
  have hoccurred : optionally utcText event.occurredAt = .ok (moment.map momentText) := by
    rw [hmoment]
    cases moment with
    | none => rfl
    | some moment =>
      simp only [Option.map_some, optionally, utcText, Zoned.toUtc_utc]
      rfl
  rw [Event.toDict, hoccurred, h.amount.quantize.1]
  rfl

/-- A normal event is read back from its dictionary. -/
theorem fromDict_toDict (h : event.Normal) :
    (event.toDict >>= Event.fromDict) = .ok event := by
  obtain ⟨moment, hmoment⟩ := h.moment
  have hoccurred : optionally (fun text : String =>
      found (fromisoformat text.toList) ⟨.valueError, ""⟩) (moment.map momentText) =
        .ok (event.occurredAt.map .aware) := by
    rw [hmoment]
    cases moment with
    | none => rfl
    | some moment =>
      simp only [Option.map_some, optionally, momentText, String.toList_ofList,
        fromisoformat_isoFormat]
      rfl
  rw [h.toDict_eq hmoment]
  refine Fallible.bind_eq_ok.mpr ⟨_, rfl, ?_⟩
  rw [Event.fromDict]
  simp only [dict, Operation.ofValue?_value, hoccurred, h.amount.quantize.2]
  exact EventFields.toEvent_eq_ok.mpr rfl

end Event.Normal

/-- Two events have the same KIZ, task, sticker, operation, moment, receipt, fiscal drive, amount,
currency and mark of a legal entity: the moments as instants, the amounts by their value. -/
structure Event.Agrees (event other : Event) : Prop where
  kiz : event.kiz = other.kiz
  taskNumber : event.taskNumber = other.taskNumber
  sticker : event.sticker = other.sticker
  operation : event.operation = other.operation
  instant : event.occurredAt.map Zoned.toUtc = other.occurredAt.map Zoned.toUtc
  receiptNumber : event.receiptNumber = other.receiptNumber
  fiscalDriveNumber : event.fiscalDriveNumber = other.fiscalDriveNumber
  amount : event.amount.value = other.amount.value
  currency : event.currency = other.currency
  legalEntitySale : event.legalEntitySale = other.legalEntitySale

theorem momentText_injective {t u : Moment} (h : momentText t = momentText u) : t = u :=
  Moment.isoFormat_injective (String.ofList_injective h)

theorem Operation.value_injective {a b : Operation} (h : a.value = b.value) : a = b := by
  have h := congrArg Operation.ofValue? h
  rw [Operation.ofValue?_value, Operation.ofValue?_value] at h
  exact Option.some.inj h

theorem amountText_injective {a b : Decimal} (ha : IsHundredths a) (hb : IsHundredths b)
    (htext : amountText a = amountText b) : a = b := by
  have hread := ha.quantize.2
  rw [htext, hb.quantize.2] at hread
  exact (Option.some.inj hread).symm

/-- Normal events have one dictionary if and only if they agree. -/
theorem Event.Normal.toDict_eq_iff {event other : Event} (h : event.Normal)
    (hother : other.Normal) : event.toDict = other.toDict ↔ event.Agrees other := by
  obtain ⟨moment, hmoment⟩ := h.moment
  obtain ⟨moment', hmoment'⟩ := hother.moment
  have hinstant : event.occurredAt.map Zoned.toUtc = other.occurredAt.map Zoned.toUtc ↔
      moment = moment' := by
    rw [hmoment, hmoment']
    cases moment <;> cases moment' <;> simp
  rw [h.toDict_eq hmoment, hother.toDict_eq hmoment', Except.ok.injEq]
  constructor
  · intro hdict
    simp only [dict, EventDict.mk.injEq] at hdict
    obtain ⟨hkiz, htask, hsticker, hoperation, hoccurred, hreceipt, hfiscal, hamount, hcurrency,
      hlegal⟩ := hdict
    have hmoments : moment = moment' :=
      Option.map_injective (fun _ _ => momentText_injective) hoccurred
    exact ⟨hkiz, htask, hsticker, Operation.value_injective hoperation, hinstant.mpr hmoments,
      hreceipt, hfiscal, by rw [amountText_injective h.amount hother.amount hamount], hcurrency,
      hlegal⟩
  · intro hagrees
    have hamount := h.amount.eq_of_value hother.amount hagrees.amount
    have hmoments := hinstant.mp hagrees.instant
    simp only [dict, hagrees.kiz, hagrees.taskNumber, hagrees.sticker, hagrees.operation,
      hmoments, hagrees.receiptNumber, hagrees.fiscalDriveNumber, hamount, hagrees.currency,
      hagrees.legalEntitySale]

end Marketplace

end Wbcz

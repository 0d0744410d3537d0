import Wbcz.Marketplace.Event

/-!
# Rows of the marketplace's file

`_parse_row` of `wb_parser.py`, from the values of the cells of a row to an event, with the
conversions of the columns. The values are those that `openpyxl` gives; a float comes with its
shortest text. `repr` of a text stands only in a message and is a parameter.
-/

namespace Wbcz.Marketplace

open Calendar
open Fallible (ensure found bind_eq_ok ensure_eq_ok found_eq_ok)

/-! ## Cells -/

/-- A float, by its shortest text. -/
structure PyFloat where
  repr : String
  deriving DecidableEq

/-- The value of a cell; `other` stands for a time of day or a duration, by its text. -/
inductive Cell where
  | none
  | str (text : String)
  | int (value : ℤ)
  | float (value : PyFloat)
  | bool (value : Bool)
  | datetime (value : DateTime)
  | date (value : Date)
  | other (text : String)
  deriving DecidableEq

/-- The columns that are required. -/
inductive Column where
  | taskNumber
  | sticker
  | kiz
  | receiptNumber
  | amount
  | currency
  | fiscalDriveNumber
  | date
  | operation
  | legalEntitySale
  deriving DecidableEq, Repr

namespace Column

/-- `HEADERS`. -/
def name : Column → String
  | taskNumber => "№ задания"
  | sticker => "Стикер"
  | kiz => "КИЗ"
  | receiptNumber => "Номер чека"
  | amount => "Стоимость"
  | currency => "Валюта"
  | fiscalDriveNumber => "Номер фискального накопителя"
  | date => "Дата"
  | operation => "Тип операции"
  | legalEntitySale => "Признак продажи юрлицу"

/-- The columns in the order of `HEADERS`. -/
def all : List Column :=
  [taskNumber, sticker, kiz, receiptNumber, amount, currency, fiscalDriveNumber, date, operation,
    legalEntitySale]

theorem mem_all (column : Column) : column ∈ all := by
  cases column <;> decide

end Column

/-- The values of a row by their column. -/
abbrev Values := Column → Cell

/-- A rejected row. -/
def rowValidationError (column : Column) (message : String) : PyError :=
  ⟨.other "RowValidationError", column.name ++ ": " ++ message⟩

/-- The white space that `_text` strips: not the separators of a marking code. -/
def textBlanks : List Char := [' ', '\t', '\r', '\n']

/-- `_text`. -/
def textOf (value : String) : String := Text.stripChars textBlanks value

/-- `_blank`. -/
def isBlank : Cell → Bool
  | .none => true
  | .str text => textOf text = ""
  | _ => false

/-! ## Numbers as text -/

/-- The integer that a float is, where it is below `10 ** 16`. -/
def PyFloat.integer? (value : PyFloat) : Option ℤ :=
  let (negative, digits) := match value.repr.toList with
    | '-' :: cs => (true, cs)
    | cs => (false, cs)
  let whole := digits.takeWhile Char.isDigit
  if digits.dropWhile Char.isDigit = ['.', '0'] ∧ whole ≠ [] then
    let n : ℤ := Nat.ofDigitChars 10 whole 0
    some (if negative then -n else n)
  else none

/-- `str` of an integer: those of more than 4300 digits are refused. -/
def intText (value : ℤ) : Except PyError String :=
  if 4300 < (Nat.toDigits 10 value.natAbs).length then .error ⟨.valueError, ""⟩
  else .ok (toString value)

/-- The text of an offset. -/
def offsetText (offset : ℤ) : List Char :=
  let micros := offset.natAbs
  (if offset < 0 then '-' else '+') :: (twoDigits (micros / 3600000000) ++
    ':' :: twoDigits (micros / 60000000 % 60)) ++
    (if micros % 60000000 = 0 then []
    else ':' :: twoDigits (micros / 1000000 % 60) ++
      if micros % 1000000 = 0 then [] else '.' :: sixDigits (micros % 1000000))

/-- `str` of a moment: `isoformat(" ")`. -/
def dateTimeText (value : DateTime) : String :=
  let clock := value.clock
  String.ofList (clock.date.isoFormat ++ ' ' :: (twoDigits (clock.time / 3600000000) ++
    ':' :: (twoDigits (clock.time / 60000000 % 60) ++ ':' ::
      (twoDigits (clock.time / 1000000 % 60) ++
        if clock.time % 1000000 = 0 then [] else '.' :: sixDigits (clock.time % 1000000)))) ++
    match value with
    | .naive _ => []
    | .aware moment => offsetText moment.offset)

/-- `str(value)`. -/
def Cell.text : Cell → Except PyError String
  | .none => .ok "None"
  | .str text => .ok text
  | .int value => intText value
  | .float value => .ok value.repr
  | .bool value => .ok (if value then "True" else "False")
  | .datetime value => .ok (dateTimeText value)
  | .date value => .ok (String.ofList value.isoFormat)
  | .other text => .ok text

/-! ## Columns -/

/-- The integers that Excel keeps. -/
def isReliable (value : ℤ) : Bool := 0 ≤ value && value < 1000000000000000

def unreliable (column : Column) : PyError :=
  rowValidationError column
    "нужен текст либо целое число менее 16 цифр; проверьте потерю точности Excel"

/-- `_identifier` of a value that is not blank. -/
def presentIdentifier (column : Column) (textOnly : Bool) : Cell → Except PyError String
  | .str text => .ok (textOf text)
  | cell =>
    if textOnly then
      .error (rowValidationError column
        "нужен текстовый Excel-формат; числовой код небезопасен")
    else
      match cell with
      | .int value => if isReliable value then .ok (toString value) else .error (unreliable column)
      | .float value =>
        match value.integer? with
        | some n => if isReliable n then .ok (toString n) else .error (unreliable column)
        | none => .error (unreliable column)
      | _ => .error (unreliable column)

/-- `_identifier` of a required column. -/
def identifier (column : Column) (textOnly : Bool) (cell : Cell) : Except PyError String :=
  if isBlank cell then .error (rowValidationError column "значение обязательно")
  else presentIdentifier column textOnly cell

/-- `_identifier(value, field, required=False)`. -/
def optionalIdentifier (column : Column) (cell : Cell) : Except PyError (Option String) :=
  if isBlank cell then .ok none else (presentIdentifier column false cell).map some

/-- The text of an amount as a number is read from it. -/
def amountDigits (text : String) : List Char :=
  ((text.toList.filter fun c => c.toNat ≠ 0xa0 ∧ c ≠ ' ').map fun c => if c = ',' then '.' else c)

/-- `_amount`. -/
def amount (cell : Cell) : Except PyError Decimal := do
  ensure (¬ (isBlank cell ∨ ∃ value, cell = .bool value))
    (rowValidationError .amount "требуется число")
  let text ← cell.text
  let unreadable := rowValidationError .amount "не удалось прочитать число"
  let result ← found (Decimal.read? (amountDigits text)) unreadable
  ensure (result.isFinite = true) (rowValidationError .amount "некорректное значение")
  let magnitude ← found result.abs decimalOverflow
  ensure (¬ amountLimit.less magnitude = true)
    (rowValidationError .amount "некорректное значение")
  let rounded ← found (result.quantize hundredth) unreadable
  ensure (result.same rounded = true)
    (rowValidationError .amount "более двух знаков после запятой")
  if rounded.same (.finite false 0 0) then found rounded.abs decimalOverflow else pure rounded

/-- `_currency`. -/
def currency : Cell → Except PyError String
  | .str text => do
    let upper := Text.upperRussian (textOf text)
    let normalized := if upper ∈ ["RUR", "РУБ", "РУБ.", "₽"] then "RUB" else upper
    ensure (normalized.length = 3 ∧ normalized.toList.all (fun c => 'A' ≤ c && c ≤ 'Z') = true)
      (rowValidationError .currency "ожидается трёхбуквенный код, например RUB")
    pure normalized
  | _ => .error (rowValidationError .currency "требуется текстовый код")

/-- The formats of a date that is not in the format of ISO. -/
def dateFormats : List String :=
  ["%H:%M:%S %d.%m.%Y", "%d.%m.%Y %H:%M:%S", "%d.%m.%Y %H:%M", "%d.%m.%Y"]

/-- The date of a cell as it is written. -/
def writtenDate : Cell → Option DateTime
  | .datetime value => some value
  | .date value => some (.naive value.midnight)
  | .str text =>
    let cs := (textOf text).toList
    (fromisoformat cs).or (dateFormats.findSome? fun format => strptime format.toList cs)
  | _ => none

/-- `WB_TIMEZONE`: three hours ahead of UTC. -/
def wbOffset : ℤ := 10800000000

/-- A moment without a time zone is one of the marketplace. -/
def inZone : DateTime → Zoned
  | .naive clock => ⟨clock, wbOffset, by decide⟩
  | .aware moment => moment

/-- `_date`. -/
def dateOf (cell : Cell) : Except PyError (Option Zoned) :=
  if isBlank cell then .ok none
  else do
    let written ← found (writtenDate cell) (rowValidationError .date
      ("ожидается пустое значение, Excel-дата, ISO-дата, " ++
        "ЧЧ:ММ:СС ДД.ММ.ГГГГ или ДД.ММ.ГГГГ [ЧЧ:ММ:СС]"))
    let utc ← found (inZone written).toUtc overflowError
    pure (some (Zoned.utc utc))

/-- `_legal`. -/
def legal (cell : Cell) : Except PyError (Option Bool) :=
  let number (value : Option ℤ) : Option Bool :=
    if value = some 0 then some false else if value = some 1 then some true else none
  let read : Option Bool := match cell with
    | .bool value => some value
    | .int value => number (some value)
    | .float value => number value.integer?
    | .str text =>
      let folded := Text.caseFoldRussian (textOf text)
      if folded ∈ ["да", "true", "1"] then some true
      else if folded ∈ ["нет", "false", "0"] then some false
      else none
    | _ => none
  if isBlank cell then .ok none
  else match read with
    | some value => .ok (some value)
    | none => .error (rowValidationError .legalEntitySale "ожидается да/нет или 1/0")

/-- The operation of a row. -/
def operationOf (repr : String → String) : Cell → Except PyError Operation
  | .str text =>
    let folded := Text.caseFoldRussian (textOf text)
    if folded = "продажа" then .ok .sale
    else if folded = "возврат" then .ok .return
    else .error (rowValidationError .operation ("неизвестное значение " ++ repr text))
  | _ => .error (rowValidationError .operation "ожидается Продажа или Возврат")

/-! ## The row -/

section Parse

variable (repr : String → String)

/-- The part of `_parse_row` before the amount. -/
structure Head where
  operation : Operation
  kiz : String
  taskNumber : String
  sticker : String
  occurredAt : Option Zoned
  receiptNumber : Option String
  fiscalDriveNumber : Option String

/-- What `_parse_row` reads before the amount. -/
def parseHead (values : Values) : Except PyError Head := do
  let operation ← operationOf repr (values .operation)
  let kiz ← identifier .kiz true (values .kiz)
  let taskNumber ← identifier .taskNumber false (values .taskNumber)
  let sticker ← identifier .sticker false (values .sticker)
  let occurredAt ← dateOf (values .date)
  let receiptNumber ← optionalIdentifier .receiptNumber (values .receiptNumber)
  let fiscalDriveNumber ← optionalIdentifier .fiscalDriveNumber (values .fiscalDriveNumber)
  pure { operation, kiz, taskNumber, sticker, occurredAt, receiptNumber, fiscalDriveNumber }

/-- `_parse_row`. -/
def parseRow (values : Values) : Except PyError Event := do
  let head ← parseHead repr values
  let amount ← amount (values .amount)
  let currency ← currency (values .currency)
  let legalEntitySale ← legal (values .legalEntitySale)
  EventFields.toEvent {
    kiz := head.kiz
    taskNumber := head.taskNumber
    sticker := head.sticker
    operation := head.operation
    occurredAt := head.occurredAt.map .aware
    receiptNumber := head.receiptNumber
    fiscalDriveNumber := head.fiscalDriveNumber
    amount
    currency
    legalEntitySale }

end Parse

/-! ## What is read -/

/-- An amount is one of hundredths, and zero has no sign. -/
theorem amount_isHundredths {cell : Cell} {x : Decimal} (h : amount cell = .ok x) :
    IsHundredths x := by
  obtain ⟨_, _, h⟩ := bind_eq_ok.mp h
  obtain ⟨text, _, h⟩ := bind_eq_ok.mp h
  obtain ⟨result, _, h⟩ := bind_eq_ok.mp h
  obtain ⟨_, _, h⟩ := bind_eq_ok.mp h
  obtain ⟨magnitude, _, h⟩ := bind_eq_ok.mp h
  obtain ⟨_, _, h⟩ := bind_eq_ok.mp h
  obtain ⟨rounded, hrounded, h⟩ := bind_eq_ok.mp h
  obtain ⟨_, hsame, h⟩ := bind_eq_ok.mp h
  obtain ⟨negative, _, _, n, -, rfl, hdigits, -⟩ := Decimal.of_same_quantize
    (found_eq_ok.mp hrounded) (ensure_eq_ok.mp hsame)
  by_cases hzero : n = 0
  · -- the sign of zero goes
    subst hzero
    have hsame : (Decimal.finite negative 0 hundredth).same (.finite false 0 0) = true := by
      cases negative <;> decide
    rw [if_pos hsame] at h
    exact ⟨false, 0, (Option.some.inj (found_eq_ok.mp h)).symm, fun _ => rfl, hdigits⟩
  · have hnonzero : ¬ (Decimal.finite negative n hundredth).same (.finite false 0 0) = true := by
      rw [Decimal.same_iff]
      cases negative <;> simp [Decimal.value, hzero, hundredth]
    rw [if_neg hnonzero] at h
    cases h
    exact ⟨negative, n, rfl, fun h => absurd h hzero, hdigits⟩

/-- A moment is in UTC. -/
theorem dateOf_eq_ok {cell : Cell} {moment : Option Zoned} (h : dateOf cell = .ok moment) :
    (isBlank cell = true ∧ moment = none) ∨
      ∃ written utc, isBlank cell = false ∧ writtenDate cell = some written ∧
        (inZone written).toUtc = some utc ∧ moment = some (Zoned.utc utc) := by
  unfold dateOf at h
  cases hblank : isBlank cell with
  | true =>
    rw [hblank, if_pos rfl] at h
    exact .inl ⟨rfl, (Except.ok.inj h).symm⟩
  | false =>
    rw [hblank, if_neg Bool.false_ne_true] at h
    obtain ⟨written, hwritten, h⟩ := bind_eq_ok.mp h
    obtain ⟨utc, hutc, h⟩ := bind_eq_ok.mp h
    exact .inr ⟨written, utc, rfl, found_eq_ok.mp hwritten,
      found_eq_ok.mp hutc, (Except.ok.inj h).symm⟩

section Parse

variable {repr : String → String} {values values' : Values} {event event' : Event}

/-- The columns of a row that gives an event. -/
theorem parseRow_eq_ok (h : parseRow repr values = .ok event) :
    ∃ head, parseHead repr values = .ok head ∧ amount (values .amount) = .ok event.amount ∧
      event.occurredAt = head.occurredAt := by
  obtain ⟨head, hhead, h⟩ := bind_eq_ok.mp h
  obtain ⟨x, hamount, h⟩ := bind_eq_ok.mp h
  obtain ⟨_, _, h⟩ := bind_eq_ok.mp h
  obtain ⟨_, _, h⟩ := bind_eq_ok.mp h
  have hfields := EventFields.toEvent_eq_ok.mp h
  have hx : x = event.amount := congrArg EventFields.amount hfields
  have hoccurred := congrArg EventFields.occurredAt hfields
  refine ⟨head, hhead, hx ▸ hamount, ?_⟩
  have hinjective : Function.Injective DateTime.aware := fun _ _ h => DateTime.aware.inj h
  exact (Option.map_injective hinjective hoccurred).symm

theorem parseHead_date {head : Head} (h : parseHead repr values = .ok head) :
    dateOf (values .date) = .ok head.occurredAt := by
  obtain ⟨_, _, h⟩ := bind_eq_ok.mp h
  obtain ⟨_, _, h⟩ := bind_eq_ok.mp h
  obtain ⟨_, _, h⟩ := bind_eq_ok.mp h
  obtain ⟨_, _, h⟩ := bind_eq_ok.mp h
  obtain ⟨occurredAt, hdate, h⟩ := bind_eq_ok.mp h
  obtain ⟨_, _, h⟩ := bind_eq_ok.mp h
  obtain ⟨_, _, h⟩ := bind_eq_ok.mp h
  cases h
  exact hdate

theorem parseRow_date (h : parseRow repr values = .ok event) :
    dateOf (values .date) = .ok event.occurredAt := by
  obtain ⟨head, hhead, -, hoccurred⟩ := parseRow_eq_ok h
  rw [hoccurred]
  exact parseHead_date hhead

/-- The event of a row is normal. -/
theorem parseRow_normal (h : parseRow repr values = .ok event) : event.Normal := by
  obtain ⟨_, _, hamount, -⟩ := parseRow_eq_ok h
  refine ⟨amount_isHundredths hamount, ?_⟩
  rcases dateOf_eq_ok (parseRow_date h) with ⟨-, hnone⟩ | ⟨_, utc, -, -, -, hsome⟩
  · exact ⟨none, hnone⟩
  · exact ⟨some utc, hsome⟩

/-- The digest tells the payloads of two events apart. -/
def NoCollision (event event' : Event) : Prop :=
  ∀ dict dict', event.toDict = .ok dict → event'.toDict = .ok dict' →
    dict.digest = dict'.digest → dict.payload = dict'.payload

/-- The events of two rows have ids; these are one id if and only if the events agree, as long as
the digests of their payloads do not collide; and an event that is stored and loaded keeps its
id. -/
theorem event_identity (h : parseRow repr values = .ok event)
    (h' : parseRow repr values' = .ok event') (hcollision : NoCollision event event') :
    (∃ id, event.eventId = .ok id ∧
      (event.toDict >>= Event.fromDict >>= Event.eventId) = .ok id) ∧
    (event.eventId = event'.eventId ↔ event.Agrees event') := by
  have hnormal := parseRow_normal h
  have hnormal' := parseRow_normal h'
  obtain ⟨moment, hmoment⟩ := hnormal.moment
  obtain ⟨moment', hmoment'⟩ := hnormal'.moment
  have hdict := hnormal.toDict_eq hmoment
  have hdict' := hnormal'.toDict_eq hmoment'
  have hid : ∀ {event : Event} {dict : EventDict}, event.toDict = .ok dict →
      event.eventId = .ok dict.digest := fun hdict => by rw [Event.eventId, hdict]; rfl
  refine ⟨⟨_, hid hdict, ?_⟩, ?_⟩
  · rw [hnormal.fromDict_toDict]
    exact hid hdict
  · rw [← hnormal.toDict_eq_iff hnormal', hid hdict, hid hdict', hdict, hdict', Except.ok.injEq,
      Except.ok.injEq]
    constructor
    · intro hdigest
      exact EventDict.payload_injective (hcollision _ _ hdict hdict' hdigest)
    · intro hsame
      rw [hsame]

end Parse

/-! ### One event in two spellings -/

/-- A row of a sale. -/
def sampleRow (date amount : Cell) : Values
  | .taskNumber => .int 101
  | .sticker => .str " 5501 "
  | .kiz => .str "0104600000000001215a%B"
  | .receiptNumber => .str "77"
  | .amount => amount
  | .currency => .str "руб."
  | .fiscalDriveNumber => .none
  | .date => date
  | .operation => .str "Продажа"
  | .legalEntitySale => .str "НЕТ"

/-- Seven o'clock in UTC. -/
def sampleMoment : Moment := ⟨⟨2024, 2, 1, by decide⟩, 25200000000, by decide⟩

/-- The event of the row. -/
def sampleEvent : Event where
  kiz := "0104600000000001215a%B"
  taskNumber := "101"
  sticker := "5501"
  operation := .sale
  occurredAt := some (Zoned.utc sampleMoment)
  receiptNumber := some "77"
  fiscalDriveNumber := none
  amount := .finite false 123450 hundredth
  currency := "RUB"
  legalEntitySale := some false
  named := by decide
  amount_valid := by decide +kernel

/-- A text and a float, a date of the marketplace and one of ISO. -/
theorem event_identity_two_spellings :
    parseRow (fun text => text) (sampleRow (.str "01.02.2024 10:00") (.str "1 234,50")) =
      .ok sampleEvent ∧
    parseRow (fun text => text) (sampleRow (.str "2024-02-01T07:00:00Z") (.float ⟨"1234.5"⟩)) =
      .ok sampleEvent ∧
    ((∃ id, sampleEvent.eventId = .ok id ∧
      (sampleEvent.toDict >>= Event.fromDict >>= Event.eventId) = .ok id) ∧
    (sampleEvent.eventId = sampleEvent.eventId ↔ sampleEvent.Agrees sampleEvent)) := by
  have htext : parseRow (fun text => text)
      (sampleRow (.str "01.02.2024 10:00") (.str "1 234,50")) = .ok sampleEvent := by rfl
  have hfloat : parseRow (fun text => text)
      (sampleRow (.str "2024-02-01T07:00:00Z") (.float ⟨"1234.5"⟩)) = .ok sampleEvent := by rfl
  refine ⟨htext, hfloat, event_identity htext hfloat ?_⟩
  intro dict dict' hdict hdict' _
  rw [hdict, Except.ok.injEq] at hdict'
  rw [hdict']

end Wbcz.Marketplace

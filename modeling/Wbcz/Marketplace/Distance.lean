import Wbcz.Marketplace.Receipt

/-!
# The same withdrawal under the turnover contract

`LkReceiptDistanceDocument` of `turnover.py` with the checks of its fields, and what it has in
common with the withdrawal that the assembler builds. The day on which a document is made is a
parameter.
-/

namespace Wbcz.Marketplace

open Calendar
open Fallible (ensure found bind_eq_ok ensure_eq_ok found_eq_ok mapM_mem)

/-- `TurnoverContractError`. -/
def contractError (message : String) : PyError := ⟨.other "TurnoverContractError", message⟩

/-! ## Fields -/

namespace Contract

/-- A decimal digit of any script. -/
def isDecimal (c : Char) : Bool := (Text.decimalValue? c).isSome

/-- `_nonempty` of a text. -/
def nonempty (label : String) (maxLen : ℕ) (value : String) : Except PyError String := do
  let text := Text.strip value
  ensure (text = value ∧ 1 ≤ text.length ∧ text.length ≤ maxLen) (contractError
    (label ++ " must be 1.." ++ toString maxLen ++ " chars without outer whitespace"))
  pure text

/-- `_nonempty` of a text that may be absent. -/
def nonemptyText (label : String) (maxLen : ℕ) (value : Option String) : Except PyError String := do
  let text ← found value (contractError (label ++ " must be a string"))
  nonempty label maxLen text

/-- `_inn`. -/
def inn (value : String) : Except PyError String := do
  let text ← nonempty "inn" 12 value
  ensure (text.toList.all isDecimal = true ∧ (text.length = 10 ∨ text.length = 12))
    (contractError "inn must be a 10 or 12 digit INN")
  pure text

/-- `_kpp`. -/
def kpp (value : String) : Except PyError String := do
  let text ← nonempty "kpp" 9 value
  ensure (text.toList.all isDecimal = true ∧ text.length = 9)
    (contractError "kpp must be 9 digits")
  pure text

/-- `_fias`. -/
def fias (value : String) : Except PyError String := do
  let text ← nonempty "fias_id" 36 value
  let uuid ← found (Uuid.parse? text.toList) (contractError "fias_id must be UUID")
  pure (String.ofList (Uuid.text uuid))

/-- `_cis`. -/
def cis (value : String) : Except PyError String := do
  let text ← nonempty "cis" 74 value
  ensure (text.toList.all (fun c => !Text.isSpace c) = true ∧ 18 ≤ text.length ∧ text.length ≤ 74)
    (contractError "cis must be 18..74 non-whitespace chars")
  pure text

/-- A date, or the text of one. -/
inductive Day where
  | date (day : DocumentDate)
  | text (value : String)
  deriving DecidableEq

/-- `_day`. -/
def day (label : String) : Day → Except PyError String
  | .date value => .ok (String.ofList value.day.isoFormat)
  | .text value => do
    let parsed ← found (dateFromisoformat value.toList)
      (contractError (label ++ " must be yyyy-MM-dd"))
    ensure (String.ofList parsed.isoFormat = value)
      (contractError (label ++ " must be canonical yyyy-MM-dd"))
    pure value

/-- `_shift_year`; `none` where it raises `ValueError`. -/
def shiftYear (value : Date) (years : ℤ) : Option Date :=
  let year := (value.year + years).toNat
  (Date.ofFields? year value.month value.day).or (Date.ofFields? year value.month 28)

/-- `_bounded_day`. -/
def boundedDay (label : String) (minDay maxDay : Date) (value : Day) : Except PyError String := do
  let text ← day label value
  let parsed ← found (dateFromisoformat text.toList) ⟨.valueError, "Invalid isoformat string"⟩
  ensure (¬ parsed < minDay) (contractError (label ++ " is earlier than the official range"))
  ensure (¬ maxDay < parsed) (contractError (label ++ " is later than the official range"))
  pure text

end Contract

/-! ## Documents -/

/-- `PrimaryDocument`. -/
structure PrimaryDocument where
  documentType : String
  number : String
  documentDate : Contract.Day
  customName : Option String
  deriving DecidableEq

/-- `_WITHDRAW_DISTANCE_PRIMARY_TYPES`. -/
def distancePrimaryTypes : List String :=
  ["RECEIPT", "SALES_RECEIPT", "OTHER", "CONSIGNMENT_NOTE", "UTD"]

/-- `_common`. -/
def PrimaryDocument.common (kindLabel numberLabel dateLabel : String) (allowed : List String)
    (document : PrimaryDocument) : Except PyError (List (String × Json)) := do
  let text ← Contract.nonempty kindLabel 32 document.documentType
  let kind := (Text.upperAscii? text).getD ""
  ensure (kind ∈ allowed) (contractError ("unsupported " ++ kindLabel))
  let number ← Contract.nonempty numberLabel 255 document.number
  let date ← Contract.day dateLabel document.documentDate
  let fields : List (String × Json) :=
    [(kindLabel, .str kind), (numberLabel, .str number), (dateLabel, .str date)]
  if kind = "OTHER" then
    let custom ← Contract.nonemptyText "primary_document_custom_name" 255 document.customName
    pure (Json.set fields "primary_document_custom_name" (.str custom))
  else
    ensure (document.customName.getD "" = "")
      (contractError "primary_document_custom_name must be absent unless type=OTHER")
    pure fields

/-- `to_withdrawal_wire`. -/
def PrimaryDocument.toWithdrawalWire (document : PrimaryDocument) :
    Except PyError (List (String × Json)) :=
  document.common "document_type" "document_number" "document_date" distancePrimaryTypes

/-- `ModLocation`. -/
structure ModLocation where
  fiasId : String
  legalEntity : Bool
  kpp : Option String
  deriving DecidableEq

/-- `to_withdrawal_wire`. -/
def ModLocation.toWithdrawalWire (location : ModLocation) :
    Except PyError (List (String × Json)) := do
  let fias ← Contract.fias location.fiasId
  let fields : List (String × Json) := [("fias_id", .str fias)]
  if location.legalEntity then
    let kpp ← found location.kpp (contractError "legal entity MOD requires kpp")
    let kpp ← Contract.kpp kpp
    pure (Json.set fields "kpp" (.str kpp))
  else
    ensure (location.kpp = none)
      (contractError "individual entrepreneur MOD must not contain kpp")
    pure fields

/-- `WithdrawalProduct`. -/
structure WithdrawalProduct where
  cis : String
  productCost : ℤ
  deriving DecidableEq

/-- `to_wire`. -/
def WithdrawalProduct.toWire (product : WithdrawalProduct) :
    Except PyError (List (String × Json)) := do
  ensure (¬ (product.productCost < 0 ∨ 99999999999999999 < product.productCost)) (contractError
    "product_cost must be integer kopecks in official 0..99999999999999999 range")
  let cis ← Contract.cis product.cis
  pure [("cis", .str cis), ("product_cost", .int product.productCost)]

/-- `LkReceiptDistanceDocument`. -/
structure LkReceiptDistanceDocument where
  inn : String
  actionDate : Contract.Day
  products : List WithdrawalProduct
  mod : ModLocation
  primaryDocument : Option PrimaryDocument
  deriving DecidableEq

/-- The fields of a primary document, where there is one. -/
def primaryWire : Option PrimaryDocument → Except PyError (List (String × Json))
  | none => .ok []
  | some document => document.toWithdrawalWire

/-- `to_wire` on a day. -/
def LkReceiptDistanceDocument.toWire (today : Date) (document : LkReceiptDistanceDocument) :
    Except PyError (List (String × Json)) := do
  ensure (document.products ≠ []) (contractError "products must be non-empty")
  let wires ← document.products.mapM WithdrawalProduct.toWire
  ensure (wires.map fun wire => (Json.lookup wire "cis").bind Json.str?).Nodup
    (contractError "products[].cis must be unique")
  let inn ← Contract.inn document.inn
  let earliest ← found (Contract.shiftYear today (-5)) ⟨.valueError, "year 0 is out of range"⟩
  let actionDate ← Contract.boundedDay "action_date" earliest today document.actionDate
  let location ← document.mod.toWithdrawalWire
  let fields : List (String × Json) :=
    [("inn", .str inn), ("action", .str "DISTANCE"), ("action_date", .str actionDate)] ++
      location ++ [("products", .arr (wires.map .obj))]
  let primary ← primaryWire document.primaryDocument
  pure (Json.merge fields primary)

/-! ## What the contract asks for -/

namespace Contract

variable {label value text : String} {maxLen : ℕ}

theorem nonempty_eq_ok : nonempty label maxLen value = .ok text ↔
    value = text ∧ Text.strip value = value ∧ 1 ≤ value.length ∧ value.length ≤ maxLen := by
  unfold nonempty
  constructor
  · intro h
    obtain ⟨_, hcheck, h⟩ := bind_eq_ok.mp h
    obtain ⟨hstrip, hlength⟩ := ensure_eq_ok.mp hcheck
    rw [hstrip] at hlength h
    exact ⟨Except.ok.inj h, hstrip, hlength⟩
  · rintro ⟨rfl, hstrip, hlength⟩
    refine bind_eq_ok.mpr ⟨(), ensure_eq_ok.mpr ?_, ?_⟩
    · rw [hstrip]
      exact ⟨rfl, hlength⟩
    · rw [hstrip]
      rfl

theorem nonemptyText_some : nonemptyText label maxLen (some value) = nonempty label maxLen value :=
  rfl

/-- No character of the text is white space. -/
theorem all_not_isSpace : value.toList.all (fun c => !Text.isSpace c) = true ↔
    ∀ c ∈ value.toList, Text.isSpace c = false := by
  simp only [List.all_eq_true, Bool.not_eq_true']

/-- A text without white space is its own. -/
theorem strip_eq_self (h : ∀ c ∈ value.toList, Text.isSpace c = false) :
    Text.strip value = value := by
  rw [Text.strip, Text.stripList_of_ends, String.ofList_toList]
  · exact fun c hc => h c (List.mem_of_mem_head? hc)
  · exact fun c hc => h c (List.mem_of_mem_getLast? hc)

theorem isDecimal_of_isAsciiDigit {c : Char} (hc : Text.isAsciiDigit c = true) :
    isDecimal c = true ∧ Text.isSpace c = false := by
  have hrange : 48 ≤ c.toNat ∧ c.toNat ≤ 57 := by simpa [Text.isAsciiDigit] using hc
  have hall : ∀ k < 58, 48 ≤ k →
      isDecimal (Char.ofNat k) = true ∧ Text.isSpace (Char.ofNat k) = false := by decide +kernel
  have hchar := hall c.toNat (by omega) hrange.1
  rwa [Char.ofNat_toNat] at hchar

/-- Digits of ASCII are digits, and no white space. -/
theorem digits_spec (h : value.toList.all Text.isAsciiDigit = true) :
    value.toList.all isDecimal = true ∧ Text.strip value = value := by
  rw [List.all_eq_true] at h
  refine ⟨List.all_eq_true.mpr fun c hc => (isDecimal_of_isAsciiDigit (h c hc)).1,
    strip_eq_self fun c hc => (isDecimal_of_isAsciiDigit (h c hc)).2⟩

theorem inn_of_isOwnerInn (h : isOwnerInn value = true) : inn value = .ok value := by
  simp only [isOwnerInn, Bool.and_eq_true, Bool.or_eq_true, decide_eq_true_eq] at h
  obtain ⟨hdigits, hlength⟩ := h
  obtain ⟨hdecimal, hstrip⟩ := digits_spec hdigits
  refine bind_eq_ok.mpr ⟨value, nonempty_eq_ok.mpr ⟨rfl, hstrip, ?_⟩, ?_⟩
  · omega
  · exact bind_eq_ok.mpr ⟨(), ensure_eq_ok.mpr ⟨hdecimal, hlength⟩, rfl⟩

theorem kpp_of_isKpp (h : isKpp value = true) : kpp value = .ok value := by
  simp only [isKpp, Bool.and_eq_true, decide_eq_true_eq] at h
  obtain ⟨hlength, hdigits⟩ := h
  obtain ⟨hdecimal, hstrip⟩ := digits_spec hdigits
  refine bind_eq_ok.mpr ⟨value, nonempty_eq_ok.mpr ⟨rfl, hstrip, ?_⟩, ?_⟩
  · omega
  · exact bind_eq_ok.mpr ⟨(), ensure_eq_ok.mpr ⟨hdecimal, hlength⟩, rfl⟩

theorem isSpace_of_isHexDigit {c : Char} (hc : Uuid.isHexDigit c = true ∨ c = '-') :
    Text.isSpace c = false := by
  rcases hc with hc | rfl
  · have hlt : c.toNat < 103 := by
      obtain ⟨v, hv⟩ := Option.isSome_iff_exists.mp hc
      simp only [Uuid.hexValue?] at hv
      split_ifs at hv <;> omega
    have hall : ∀ k < 103, Uuid.isHexDigit (Char.ofNat k) = true →
        Text.isSpace (Char.ofNat k) = false := by decide +kernel
    have hchar := hall c.toNat hlt
    rw [Char.ofNat_toNat] at hchar
    exact hchar hc
  · decide

/-- A FIAS id in groups comes back in lower case. -/
theorem fias_of_isFiasId (h : isFiasId value = true) :
    fias value = .ok (String.ofList (Uuid.lower value.toList)) := by
  obtain ⟨uuid, hparse, htext⟩ := Uuid.parse?_groups h
  have hlength := Uuid.length_of_matchesGroups h
  have hlength : value.length = 36 := by rw [← String.length_toList, hlength]; rfl
  refine bind_eq_ok.mpr ⟨value, nonempty_eq_ok.mpr ⟨rfl, ?_, ?_⟩, ?_⟩
  · exact strip_eq_self fun c hc =>
      isSpace_of_isHexDigit ((Uuid.matchesGroups_spec h).1 c hc)
  · omega
  · refine bind_eq_ok.mpr ⟨uuid, found_eq_ok.mpr hparse, ?_⟩
    rw [htext]
    rfl

/-- What `_fias` gives is in lower case. -/
theorem lower_of_fias (h : fias value = .ok text) : Uuid.lower text.toList = text.toList := by
  obtain ⟨_, _, h⟩ := bind_eq_ok.mp h
  obtain ⟨uuid, _, h⟩ := bind_eq_ok.mp h
  rw [← Except.ok.inj h, String.toList_ofList, Uuid.lower_text]

theorem cis_eq_ok : cis value = .ok text ↔
    value = text ∧ (∀ c ∈ value.toList, Text.isSpace c = false) ∧ 18 ≤ value.length ∧
      value.length ≤ 74 := by
  constructor
  · intro h
    obtain ⟨kept, hkept, h⟩ := bind_eq_ok.mp h
    obtain ⟨rfl, -⟩ := nonempty_eq_ok.mp hkept
    obtain ⟨_, hcheck, h⟩ := bind_eq_ok.mp h
    obtain ⟨hspace, hlength⟩ := ensure_eq_ok.mp hcheck
    exact ⟨Except.ok.inj h, all_not_isSpace.mp hspace, hlength⟩
  · rintro ⟨rfl, hspace, hlength⟩
    refine bind_eq_ok.mpr
      ⟨value, nonempty_eq_ok.mpr ⟨rfl, strip_eq_self hspace, by omega, by omega⟩, ?_⟩
    exact bind_eq_ok.mpr
      ⟨(), ensure_eq_ok.mpr ⟨all_not_isSpace.mpr hspace, hlength⟩, rfl⟩

/-- A date within the bounds. -/
theorem boundedDay_date {minDay maxDay : Date} {date : DocumentDate} (hlow : minDay ≤ date.day)
    (hhigh : date.day ≤ maxDay) :
    boundedDay label minDay maxDay (.date date) = .ok (String.ofList date.day.isoFormat) := by
  refine bind_eq_ok.mpr ⟨_, rfl, ?_⟩
  refine bind_eq_ok.mpr ⟨date.day, found_eq_ok.mpr ?_, ?_⟩
  · rw [String.toList_ofList, dateFromisoformat_isoFormat]
  · refine bind_eq_ok.mpr ⟨(), ensure_eq_ok.mpr (not_lt.mpr hlow), ?_⟩
    exact bind_eq_ok.mpr ⟨(), ensure_eq_ok.mpr (not_lt.mpr hhigh), rfl⟩

end Contract

/-! ## Primary documents -/

/-- The primary document of the contract with the values of one of the assembler. -/
def ReturnPrimaryDocument.toPrimaryDocument (document : ReturnPrimaryDocument) :
    PrimaryDocument :=
  let documentType := (Text.upperAscii? (Text.strip document.documentType)).getD ""
  { documentType
    number := Text.strip document.number
    documentDate := .date document.documentDate
    customName :=
      if documentType = "OTHER" then some (Text.strip (document.customName.getD "")) else none }

/-- The types of the assembler are types of the contract, as they are written. -/
theorem allowedPrimaryTypes_spec {kind : String} (h : kind ∈ allowedPrimaryTypes) (label : String) :
    Contract.nonempty label 32 kind = .ok kind ∧ (Text.upperAscii? kind).getD "" = kind ∧
      kind ∈ distancePrimaryTypes := by
  rw [Contract.nonempty_eq_ok]
  simp only [allowedPrimaryTypes, List.mem_cons, List.not_mem_nil, or_false] at h
  rcases h with rfl | rfl | rfl <;> decide +kernel

theorem nonempty_of_isName {value : String} (h : isName (Text.strip value) = true)
    (label : String) :
    Contract.nonempty label 255 (Text.strip value) = .ok (Text.strip value) := by
  simp only [isName, Bool.and_eq_true, decide_eq_true_eq] at h
  exact Contract.nonempty_eq_ok.mpr ⟨rfl, Text.strip_strip value, h⟩

/-- The fields of a document of the contract. -/
theorem toWithdrawalWire_eq {kind number : String} {date : DocumentDate}
    {customName : Option String} {fields : List (String × Json)}
    (hkind : kind ∈ allowedPrimaryTypes)
    (hnumber : Contract.nonempty "document_number" 255 number = .ok number)
    (hfields : (if kind = "OTHER" then do
        let custom ← Contract.nonemptyText "primary_document_custom_name" 255 customName
        pure (Json.set [("document_type", .str kind), ("document_number", .str number),
          ("document_date", .str (String.ofList date.day.isoFormat))]
          "primary_document_custom_name" (.str custom))
      else do
        ensure (customName.getD "" = "")
          (contractError "primary_document_custom_name must be absent unless type=OTHER")
        pure [("document_type", .str kind), ("document_number", .str number),
          ("document_date", .str (String.ofList date.day.isoFormat))]) = .ok fields) :
    PrimaryDocument.toWithdrawalWire ⟨kind, number, .date date, customName⟩ = .ok fields := by
  obtain ⟨htext, hupper, hallowed⟩ := allowedPrimaryTypes_spec hkind "document_type"
  refine bind_eq_ok.mpr ⟨kind, htext, ?_⟩
  simp only [hupper]
  refine bind_eq_ok.mpr ⟨(), ensure_eq_ok.mpr hallowed, ?_⟩
  refine bind_eq_ok.mpr ⟨number, hnumber, ?_⟩
  exact bind_eq_ok.mpr ⟨_, rfl, hfields⟩

/-- One primary document has the same fields on both sides. -/
theorem toPrimaryDocument_wire {document : ReturnPrimaryDocument} {fields : List (String × Json)}
    (h : document.withdrawalFields = .ok fields) :
    document.toPrimaryDocument.toWithdrawalWire = .ok fields := by
  unfold ReturnPrimaryDocument.withdrawalFields primaryFields at h
  unfold ReturnPrimaryDocument.toPrimaryDocument
  generalize (Text.upperAscii? (Text.strip document.documentType)).getD "" = kind at h ⊢
  dsimp only at h
  obtain ⟨_, htype, h⟩ := bind_eq_ok.mp h
  obtain ⟨_, hname, h⟩ := bind_eq_ok.mp h
  have hname : isName (Text.strip document.number) = true := ensure_eq_ok.mp hname
  have hnumber := nonempty_of_isName hname "document_number"
  refine toWithdrawalWire_eq (ensure_eq_ok.mp htype) hnumber ?_
  split at h
  · -- another document has a name of its own
    rename_i hother
    obtain ⟨_, hcustom, h⟩ := bind_eq_ok.mp h
    have hcustom : isName (Text.strip (document.customName.getD "")) = true :=
      ensure_eq_ok.mp hcustom
    rw [if_pos hother, if_pos hother]
    refine bind_eq_ok.mpr ⟨Text.strip (document.customName.getD ""), ?_, h⟩
    rw [Contract.nonemptyText_some]
    exact nonempty_of_isName hcustom "primary_document_custom_name"
  · rename_i hother
    obtain ⟨_, _, h⟩ := bind_eq_ok.mp h
    rw [if_neg hother, if_neg hother]
    exact bind_eq_ok.mpr ⟨(), ensure_eq_ok.mpr rfl, h⟩

theorem lookup_primaryWire {document : Option PrimaryDocument} {fields : List (String × Json)}
    {key : String} (h : primaryWire document = .ok fields)
    (hkey : key ∉
      ["document_type", "document_number", "document_date", "primary_document_custom_name"]) :
    Json.lookup fields key = none := by
  simp only [List.mem_cons, List.not_mem_nil, or_false, not_or] at hkey
  obtain ⟨htype, hnumber, hdate, hcustom⟩ := hkey
  cases document with
  | none =>
    cases h
    rfl
  | some document =>
    obtain ⟨_, _, h⟩ := bind_eq_ok.mp h
    obtain ⟨_, _, h⟩ := bind_eq_ok.mp h
    obtain ⟨_, _, h⟩ := bind_eq_ok.mp h
    obtain ⟨_, _, h⟩ := bind_eq_ok.mp h
    split at h
    · obtain ⟨_, _, h⟩ := bind_eq_ok.mp h
      cases h
      simp [Json.lookup_set, Ne.symm htype, Ne.symm hnumber, Ne.symm hdate, hcustom]
    · obtain ⟨_, _, h⟩ := bind_eq_ok.mp h
      cases h
      simp [Ne.symm htype, Ne.symm hnumber, Ne.symm hdate]

/-! ## What a document of the contract says -/

theorem WithdrawalProduct.toWire_eq_ok {product : WithdrawalProduct}
    {wire : List (String × Json)} : product.toWire = .ok wire ↔
      (0 ≤ product.productCost ∧ product.productCost ≤ 99999999999999999) ∧
      Contract.cis product.cis = .ok product.cis ∧
      wire = [("cis", .str product.cis), ("product_cost", .int product.productCost)] := by
  constructor
  · intro h
    obtain ⟨_, hcost, h⟩ := bind_eq_ok.mp h
    obtain ⟨cis, hcis, h⟩ := bind_eq_ok.mp h
    have hcost := ensure_eq_ok.mp hcost
    obtain ⟨rfl, -⟩ := Contract.cis_eq_ok.mp hcis
    exact ⟨by omega, hcis, (Except.ok.inj h).symm⟩
  · rintro ⟨hcost, hcis, rfl⟩
    refine bind_eq_ok.mpr ⟨(), ensure_eq_ok.mpr (by omega), ?_⟩
    exact bind_eq_ok.mpr ⟨_, hcis, rfl⟩

/-- The FIAS id of a location is one that `_fias` gives. -/
theorem ModLocation.lookup_toWithdrawalWire {location : ModLocation}
    {fields : List (String × Json)} (h : location.toWithdrawalWire = .ok fields) :
    (∃ fias, Contract.fias location.fiasId = .ok fias ∧
      Json.lookup fields "fias_id" = some (.str fias)) ∧ Json.lookup fields "products" = none := by
  obtain ⟨fias, hfias, h⟩ := bind_eq_ok.mp h
  refine ⟨⟨fias, hfias, ?_⟩, ?_⟩ <;> split at h
  all_goals
    obtain ⟨_, _, h⟩ := bind_eq_ok.mp h
  · obtain ⟨_, _, h⟩ := bind_eq_ok.mp h
    cases h
    rfl
  · cases h
    rfl
  · obtain ⟨_, _, h⟩ := bind_eq_ok.mp h
    cases h
    rfl
  · cases h
    rfl

/-- The FIAS id and the products of a document. -/
theorem LkReceiptDistanceDocument.lookup_toWire {document : LkReceiptDistanceDocument} {today : Date}
    {wire : List (String × Json)} (h : document.toWire today = .ok wire) :
    (∃ fias, Contract.fias document.mod.fiasId = .ok fias ∧
      Json.lookup wire "fias_id" = some (.str fias)) ∧
    ∃ wires, document.products.mapM WithdrawalProduct.toWire = .ok wires ∧
      Json.lookup wire "products" = some (.arr (wires.map .obj)) := by
  obtain ⟨_, _, h⟩ := bind_eq_ok.mp h
  obtain ⟨wires, hwires, h⟩ := bind_eq_ok.mp h
  obtain ⟨_, _, h⟩ := bind_eq_ok.mp h
  obtain ⟨inn, _, h⟩ := bind_eq_ok.mp h
  obtain ⟨_, _, h⟩ := bind_eq_ok.mp h
  obtain ⟨actionDate, _, h⟩ := bind_eq_ok.mp h
  obtain ⟨location, hlocation, h⟩ := bind_eq_ok.mp h
  obtain ⟨primary, hprimary, h⟩ := bind_eq_ok.mp h
  obtain ⟨⟨fias, hfias, hlookup⟩, hproducts⟩ := ModLocation.lookup_toWithdrawalWire hlocation
  cases h
  refine ⟨⟨fias, hfias, ?_⟩, wires, hwires, ?_⟩
  · rw [Json.lookup_merge_of_none (lookup_primaryWire hprimary (by decide))]
    refine Json.lookup_append_of_some ?_ _
    rw [Json.lookup_append_of_none (by rfl), hlookup]
  · rw [Json.lookup_merge_of_none (lookup_primaryWire hprimary (by decide)),
      Json.lookup_append_of_none]
    · rfl
    · rw [Json.lookup_append_of_none (by rfl), hproducts]

/-! ## The document of an event -/

section Distance

variable {assembler : Assembler} {event : Event} {payload : List (String × Json)}
  {organisation : P0OrganisationConfig} {moment : Zoned} {kopecks : ℤ} {today earliest : Date}

/-- The document of the contract that corresponds to an event: the organisation, the date, the KIZ
and its cost, the location of the organisation, and the primary document of the provider. -/
def distanceDocument (assembler : Assembler) (organisation : P0OrganisationConfig) (event : Event)
    (moment : Zoned) (kopecks : ℤ) : LkReceiptDistanceDocument where
  inn := organisation.participantInn
  actionDate := .date (.datetime (.aware moment))
  products := [⟨event.kiz, kopecks⟩]
  mod := ⟨organisation.fiasId, organisation.organisationType = .legalEntity, organisation.kpp⟩
  primaryDocument :=
    (assembler.withdrawalPrimaryDocumentProvider.bind fun provider => provider event).map
      ReturnPrimaryDocument.toPrimaryDocument

/-- What the contract asks for and the assembler does not: a FIAS id without upper case, and a KIZ
without white space. -/
structure Contractual (organisation : P0OrganisationConfig) (event : Event) : Prop where
  fias : Uuid.lower organisation.fiasId.toList = organisation.fiasId.toList
  kiz : ∀ c ∈ event.kiz.toList, Text.isSpace c = false

theorem normalizedEventCis_eq_ok {cis : String} (h : normalizedEventCis event = .ok cis) :
    cis = event.kiz ∧ 18 ≤ cis.length ∧ cis.length ≤ 74 := by
  obtain ⟨_, hcheck, h⟩ := bind_eq_ok.mp h
  have hcheck := ensure_eq_ok.mp hcheck
  rw [not_or, not_not, not_not] at hcheck
  obtain ⟨hstrip, hlength⟩ := hcheck
  rw [← Except.ok.inj h]
  exact ⟨hstrip, hlength⟩

/-- The primary document of the contract has the fields that the provider adds. -/
theorem primaryWire_of_provided {primary : List (String × Json)}
    (h : Assembler.providedFields assembler.withdrawalPrimaryDocumentProvider event =
      .ok primary) :
    primaryWire (distanceDocument assembler organisation event moment kopecks).primaryDocument =
      .ok primary := by
  unfold Assembler.providedFields at h
  unfold distanceDocument
  split at h
  · rename_i hnone
    cases h
    rw [hnone]
    rfl
  · rename_i document hsome
    rw [hsome, Option.map_some]
    exact toPrimaryDocument_wire h

/-- The location of an organisation whose FIAS id has no upper case. -/
theorem location_of_organisation
    (hfias : Uuid.lower organisation.fiasId.toList = organisation.fiasId.toList) :
    (distanceDocument assembler organisation event moment kopecks).mod.toWithdrawalWire =
      .ok (("fias_id", .str organisation.fiasId) ::
        match organisation.organisationType with
        | .legalEntity => [("kpp", .ofText? organisation.kpp)]
        | .individualEntrepreneur => []) := by
  have hfias : Contract.fias organisation.fiasId = .ok organisation.fiasId := by
    rw [Contract.fias_of_isFiasId organisation.fiasId_valid, hfias, String.ofList_toList]
  have hkpp := organisation.kpp_valid
  refine bind_eq_ok.mpr ⟨_, hfias, ?_⟩
  unfold distanceDocument
  cases htype : organisation.organisationType with
  | legalEntity =>
    rw [htype] at hkpp
    simp only at hkpp
    cases hsome : organisation.kpp with
    | none =>
      rw [hsome] at hkpp
      cases hkpp
    | some kpp =>
      rw [hsome, Option.any_some] at hkpp
      refine bind_eq_ok.mpr ⟨kpp, rfl, ?_⟩
      exact bind_eq_ok.mpr ⟨kpp, Contract.kpp_of_isKpp hkpp, rfl⟩
  | individualEntrepreneur =>
    rw [htype] at hkpp
    simp only at hkpp
    exact bind_eq_ok.mpr ⟨(), ensure_eq_ok.mpr hkpp, rfl⟩

/-- The fields of both builders are the same but for their order. -/
theorem sameFields_distance (actionDate cis : String) :
    Json.SameFields ([("inn", .str organisation.participantInn), ("action", .str "DISTANCE"),
        ("action_date", .str actionDate)] ++ ("fias_id", .str organisation.fiasId) ::
        (match organisation.organisationType with
        | .legalEntity => [("kpp", .ofText? organisation.kpp)]
        | .individualEntrepreneur => []) ++
        [("products", .arr [.obj [("cis", .str cis), ("product_cost", .int kopecks)]])])
      (Assembler.distanceFields organisation actionDate cis kopecks) := by
  intro key
  unfold Assembler.distanceFields
  cases organisation.organisationType with
  | individualEntrepreneur => rfl
  | legalEntity =>
    rw [Json.lookup_set]
    by_cases hkpp : key = "kpp"
    · subst hkpp
      simp
    · simp [hkpp, Ne.symm hkpp]

/-- The withdrawal of an event with a contractual KIZ and location is the wire of its document. -/
theorem Contractual.toWire_eq (h : assembler.lkReceiptDistance event = .ok payload)
    (horganisation : assembler.organisation = some organisation)
    (hmoment : event.occurredAt = some moment)
    (hkopecks : rublesToKopecks event.amount = .ok kopecks)
    (hearliest : Contract.shiftYear today (-5) = some earliest)
    (hlow : earliest ≤ moment.clock.date) (hhigh : moment.clock.date ≤ today)
    (hcontract : Contractual organisation event) :
    ∃ wire, (distanceDocument assembler organisation event moment kopecks).toWire today =
      .ok wire ∧ Json.SameFields wire payload := by
  obtain ⟨_, actionDate, cis, productCost, primary, hown, -, hdate, hcis, hcost, hprimary, rfl⟩ :=
    Assembler.lkReceiptDistance_eq_ok h
  cases horganisation.symm.trans hown
  cases hkopecks.symm.trans hcost
  obtain ⟨rfl, hlength⟩ := normalizedEventCis_eq_ok hcis
  rw [eventDate, hmoment] at hdate
  cases hdate
  have hrange := rublesToKopecks_range hkopecks
  have hproduct : WithdrawalProduct.toWire ⟨event.kiz, kopecks⟩ =
      .ok [("cis", .str event.kiz), ("product_cost", .int kopecks)] :=
    WithdrawalProduct.toWire_eq_ok.mpr
      ⟨hrange, Contract.cis_eq_ok.mpr ⟨rfl, hcontract.kiz, hlength⟩, rfl⟩
  refine ⟨_, ?_, (sameFields_distance _ _).merge primary⟩
  refine bind_eq_ok.mpr ⟨(), ensure_eq_ok.mpr (by
    rw [distanceDocument]
    exact List.cons_ne_nil _ _), ?_⟩
  refine bind_eq_ok.mpr
    ⟨[[("cis", .str event.kiz), ("product_cost", .int kopecks)]], ?_, ?_⟩
  · rw [distanceDocument, List.mapM_cons, hproduct]
    rfl
  refine bind_eq_ok.mpr ⟨(), ensure_eq_ok.mpr (List.nodup_singleton _), ?_⟩
  refine bind_eq_ok.mpr ⟨_, Contract.inn_of_isOwnerInn organisation.inn_valid, ?_⟩
  refine bind_eq_ok.mpr ⟨earliest, found_eq_ok.mpr hearliest, ?_⟩
  refine bind_eq_ok.mpr ⟨_, Contract.boundedDay_date hlow hhigh, ?_⟩
  refine bind_eq_ok.mpr ⟨_, location_of_organisation hcontract.fias, ?_⟩
  exact bind_eq_ok.mpr ⟨primary, primaryWire_of_provided hprimary, rfl⟩

/-- A document of the contract that has the fields of a withdrawal makes it contractual. -/
theorem Contractual.of_toWire (h : assembler.lkReceiptDistance event = .ok payload)
    (horganisation : assembler.organisation = some organisation)
    {document : LkReceiptDistanceDocument} {wire : List (String × Json)}
    (hwire : document.toWire today = .ok wire) (hsame : Json.SameFields wire payload) :
    Contractual organisation event := by
  obtain ⟨_, actionDate, cis, productCost, primary, hown, -, -, hcis, -, hprimary, rfl⟩ :=
    Assembler.lkReceiptDistance_eq_ok h
  cases horganisation.symm.trans hown
  obtain ⟨rfl, -⟩ := normalizedEventCis_eq_ok hcis
  obtain ⟨⟨fias, hfias, hlookup⟩, wires, hwires, hproducts⟩ := document.lookup_toWire hwire
  constructor
  · have hpayload := hsame "fias_id"
    rw [hlookup, Json.lookup_merge_of_none (Assembler.lookup_providedFields hprimary (by decide)),
      Assembler.lookup_distanceFields _ _ _ _ (by decide)] at hpayload
    cases hpayload
    exact Contract.lower_of_fias hfias
  · have hpayload := hsame "products"
    rw [hproducts, Json.lookup_merge_of_none (Assembler.lookup_providedFields hprimary (by decide)),
      Assembler.lookup_distanceFields _ _ _ _ (by decide)] at hpayload
    have hobjects : wires.map Json.obj =
        [.obj [("cis", .str event.kiz), ("product_cost", .int productCost)]] :=
      Json.arr.inj (Option.some.inj hpayload)
    have hmem : [("cis", .str event.kiz), ("product_cost", .int productCost)] ∈ wires := by
      have hobject := List.mem_map.mp (hobjects ▸ List.mem_singleton_self _)
      obtain ⟨found, hfound, heq⟩ := hobject
      rwa [← Json.obj.inj heq]
    obtain ⟨product, -, hproduct⟩ := mapM_mem hwires _ hmem
    obtain ⟨-, hcis, heq⟩ := WithdrawalProduct.toWire_eq_ok.mp hproduct
    simp only [List.cons.injEq, Prod.mk.injEq, Json.str.injEq, true_and] at heq
    rw [heq.1]
    exact (Contract.cis_eq_ok.mp hcis).2.1

/-- On a day within five years of its date, the withdrawal of an event is the wire of a document of
the contract, and that of its own document, if and only if the FIAS id has no upper case and the
KIZ no white space; and the kopecks of every amount that is not negative are a hundred times its
value. -/
theorem distance_iff (h : assembler.lkReceiptDistance event = .ok payload)
    (hmoment : event.occurredAt = some moment)
    (hearliest : Contract.shiftYear today (-5) = some earliest)
    (hlow : earliest ≤ moment.clock.date) (hhigh : moment.clock.date ≤ today) :
    ∃ organisation kopecks, assembler.organisation = some organisation ∧
      rublesToKopecks event.amount = .ok kopecks ∧
      ((∃ document wire, LkReceiptDistanceDocument.toWire today document = .ok wire ∧
        Json.SameFields wire payload) ↔ Contractual organisation event) ∧
      ((∃ wire, (distanceDocument assembler organisation event moment kopecks).toWire today =
        .ok wire ∧ Json.SameFields wire payload) ↔ Contractual organisation event) ∧
      ∀ other : Event, 0 ≤ other.amount.value → ∃ kopecks : ℕ,
        rublesToKopecks other.amount = .ok kopecks ∧
        (kopecks : ℚ) = 100 * other.amount.value ∧ kopecks ≤ 99999999999999999 := by
  obtain ⟨organisation, _, _, kopecks, _, horganisation, -, -, -, hkopecks, -, -⟩ :=
    Assembler.lkReceiptDistance_eq_ok h
  have hown : Contractual organisation event →
      ∃ wire, (distanceDocument assembler organisation event moment kopecks).toWire today =
        .ok wire ∧ Json.SameFields wire payload :=
    Contractual.toWire_eq h horganisation hmoment hkopecks hearliest hlow hhigh
  refine ⟨organisation, kopecks, horganisation, hkopecks, ⟨?_, ?_⟩, ⟨?_, hown⟩,
    rublesToKopecks_of_event⟩
  · rintro ⟨document, wire, hwire, hsame⟩
    exact Contractual.of_toWire h horganisation hwire hsame
  · intro hcontract
    obtain ⟨wire, hwire, hsame⟩ := hown hcontract
    exact ⟨_, wire, hwire, hsame⟩
  · rintro ⟨wire, hwire, hsame⟩
    exact Contractual.of_toWire h horganisation hwire hsame

end Distance

/-! ### A FIAS id in either case -/

/-- The first of May. -/
def sampleToday : Date := ⟨2024, 5, 1, by decide⟩

/-- The organisation of the sample with its FIAS id in upper case. -/
def upperOrganisation : P0OrganisationConfig :=
  { sampleOrganisation with
    fiasId := "12345678-1234-1234-1234-1234567890AB"
    fiasId_valid := by decide }

def upperAssembler : Assembler := ⟨some upperOrganisation, none, none⟩

theorem upperPayload_eq : upperAssembler.lkReceiptDistance sampleEvent = .ok
    (Assembler.distanceFields upperOrganisation "2024-02-01" "0104600000000001215a%B" 123450) := by
  rfl

theorem distance_iff_sample :
    ∃ organisation kopecks, sampleAssembler.organisation = some organisation ∧
      rublesToKopecks sampleEvent.amount = .ok kopecks ∧
      ((∃ document wire, LkReceiptDistanceDocument.toWire sampleToday document = .ok wire ∧
        Json.SameFields wire (samplePayload "2024-02-01")) ↔
          Contractual organisation sampleEvent) ∧
      ((∃ wire, (distanceDocument sampleAssembler organisation sampleEvent
        (Zoned.utc sampleMoment) kopecks).toWire sampleToday = .ok wire ∧
          Json.SameFields wire (samplePayload "2024-02-01")) ↔
            Contractual organisation sampleEvent) ∧
      ∀ other : Event, 0 ≤ other.amount.value → ∃ kopecks : ℕ,
        rublesToKopecks other.amount = .ok kopecks ∧
        (kopecks : ℚ) = 100 * other.amount.value ∧ kopecks ≤ 99999999999999999 :=
  distance_iff samplePayload_eq rfl
    (show Contract.shiftYear sampleToday (-5) = some ⟨2019, 5, 1, by decide⟩ by rfl)
    (by decide) (by decide)

/-- The FIAS id in upper case is in no document of the contract. -/
theorem upper_case_in_no_document :
    ¬ ∀ (assembler : Assembler) (event : Event) (payload : List (String × Json)) (moment : Zoned)
      (today earliest : Date), assembler.lkReceiptDistance event = .ok payload →
      event.occurredAt = some moment → Contract.shiftYear today (-5) = some earliest →
      earliest ≤ moment.clock.date → moment.clock.date ≤ today →
      ∃ document wire, LkReceiptDistanceDocument.toWire today document = .ok wire ∧
        Json.SameFields wire payload := by
  intro hclaim
  obtain ⟨document, wire, hwire, hsame⟩ := hclaim upperAssembler sampleEvent _
    (Zoned.utc sampleMoment) sampleToday ⟨2019, 5, 1, by decide⟩ upperPayload_eq rfl rfl
    (by decide) (by decide)
  have hcontract := Contractual.of_toWire upperPayload_eq rfl hwire hsame
  exact absurd hcontract.fias (by decide +kernel)

end Wbcz.Marketplace

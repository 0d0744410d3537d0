import Wbcz.Aggregation.Documents
import Wbcz.Lib.JsonTexts
import Wbcz.Turnover.TypedDocument

/-!
# Digits on the wire

The fields of turnover and aggregation documents that consist of digits. Their checks accept the
digits of every script, and write them as they are given.
-/

namespace Wbcz.Turnover

open Calendar
open Fallible (bind_eq_ok pure_eq_ok)
open Wbcz.Marketplace (LkReceiptDistanceDocument ModLocation PrimaryDocument WithdrawalProduct)
open Wbcz.Marketplace.Contract (Day)

/-! ## Fields of digits -/

/-- The fields of documents that consist of digits, with the characters between their groups. -/
def digitKeys : List (String × List Char) :=
  [("inn", []), ("participant_inn", []), ("producer_inn", []), ("owner_inn", []),
    ("trade_participant_inn", []), ("participantId", []), ("kpp", []), ("tnved_code", []),
    ("tnved_10", []), ("customs_code", []), ("sender_tax_number", []), ("country_oksm", []),
    ("country", []), ("destinationCountryCode", []), ("state_contract_id", []),
    ("declaration_number", ['/']), ("declaration_date", ['-']), ("import_date", ['-']),
    ("production_date", ['-']), ("certificate_date", ['-']), ("primary_document_date", ['-']),
    ("document_date", ['-']), ("action_date", ['-']), ("remarking_date", ['-']),
    ("sourceDocDate", ['-']), ("product_receiving_date", ['-', 'T', ':', '.', 'Z'])]

/-- A field of digits has those of ASCII only. -/
def AsciiField (key text : String) : Prop :=
  ∀ separators, digitKeys.lookup key = some separators →
    ∀ c ∈ text.toList, Text.isAsciiDigit c = true ∨ c ∈ separators

/-- Every field of digits has those of ASCII only. -/
def OnlyAsciiDigits (wire : Json) : Prop := ∀ field ∈ wire.texts, AsciiField field.1 field.2

def IsAscii (text : String) : Prop := ∀ c ∈ text.toList, c.toNat < 128

/-- The fields of digits are of ASCII exactly when the texts that are given for them are. -/
abbrev Tells : Wire → List String → Prop := Json.Tells AsciiField IsAscii

section Fields

variable {key text : String} {separators : List Char}

/-- The digits of ASCII are those digits that are ASCII. -/
theorem isAsciiDigit_iff {c : Char} (h : Text.isDigit c = true) :
    Text.isAsciiDigit c = true ↔ c.toNat < 128 := by
  have hall : ∀ k < 128, Text.isDigit (Char.ofNat k) = true →
      Text.isAsciiDigit (Char.ofNat k) = true := by decide +kernel
  constructor
  · intro hascii
    simp only [Text.isAsciiDigit, Bool.and_eq_true, decide_eq_true_eq] at hascii
    omega
  · intro hlt
    have hchar := hall c.toNat hlt
    rw [Char.ofNat_toNat] at hchar
    exact hchar h

theorem isDigit_of_isDecimal {c : Char} (h : Text.isDecimal c = true) : Text.isDigit c = true := by
  simp [Text.isDigit, h]

theorem asciiField_iff (hkey : digitKeys.lookup key = some separators)
    (hseparators : ∀ c ∈ separators, c.toNat < 128 ∧ Text.isDigit c = false)
    (hform : ∀ c ∈ text.toList, Text.isDigit c = true ∨ c ∈ separators) :
    AsciiField key text ↔ IsAscii text := by
  constructor
  · intro h c hc
    rcases h separators hkey c hc with hascii | hmem
    · simp only [Text.isAsciiDigit, Bool.and_eq_true, decide_eq_true_eq] at hascii
      omega
    · exact (hseparators c hmem).1
  · intro h given hgiven c hc
    obtain rfl := Option.some.inj (hkey.symm.trans hgiven)
    rcases hform c hc with hdigit | hmem
    · exact .inl ((isAsciiDigit_iff hdigit).mpr (h c hc))
    · exact .inr hmem

/-- A field that does not consist of digits. -/
theorem asciiField_other (hkey : digitKeys.lookup key = none) : AsciiField key text := by
  intro separators hgiven
  rw [hkey] at hgiven
  cases hgiven

theorem asciiField_digits (hkey : digitKeys.lookup key = some [])
    (h : text.toList.all Text.isDigit = true) : AsciiField key text ↔ IsAscii text :=
  asciiField_iff hkey (by simp) fun c hc => .inl (List.all_eq_true.mp h c hc)

theorem all_isDigit (h : text.toList.all Text.isDecimal = true) :
    text.toList.all Text.isDigit = true := by
  rw [List.all_eq_true] at h ⊢
  exact fun c hc => isDigit_of_isDecimal (h c hc)

theorem asciiField_decimal {lengths : List ℕ} {maxLen : ℕ} (hkey : digitKeys.lookup key = some [])
    (h : IsDigits Text.isDecimal lengths maxLen text) : AsciiField key text ↔ IsAscii text :=
  asciiField_digits hkey (all_isDigit h.2.1)

theorem asciiField_isDigit {lengths : List ℕ} {maxLen : ℕ} (hkey : digitKeys.lookup key = some [])
    (h : IsDigits Text.isDigit lengths maxLen text) : AsciiField key text ↔ IsAscii text :=
  asciiField_digits hkey h.2.1

theorem mem_of_matchesDeclaration {prefixes : List ℕ} {cs : List Char} {c : Char}
    (h : matchesDeclaration prefixes cs = true) (hc : c ∈ cs) :
    Text.isDecimal c = true ∨ c = '/' := by
  unfold matchesDeclaration at h
  split at h
  case h_1 office day number hsplit =>
    simp only [List.all_cons, List.all_nil, Bool.and_true, Bool.and_eq_true] at h
    obtain ⟨⟨⟨⟨hoffice, hday, hnumber⟩, -⟩, -⟩, -⟩ := h
    have hjoin : ['/'].intercalate (cs.splitOn '/') = cs := List.intercalate_splitOn '/'
    rw [← hjoin, hsplit] at hc
    simp only [List.intercalate, List.intersperse_cons_cons, List.intersperse_singleton,
      List.flatten_cons, List.flatten_nil, List.append_nil, List.mem_append,
      List.mem_singleton] at hc
    rcases hc with hc | hc | hc | hc | hc
    · exact .inl (List.all_eq_true.mp hoffice c hc)
    · exact .inr hc
    · exact .inl (List.all_eq_true.mp hday c hc)
    · exact .inr hc
    · exact .inl (List.all_eq_true.mp hnumber c hc)
  case h_2 => cases h

theorem asciiField_declaration {prefixes : List ℕ}
    (hkey : digitKeys.lookup key = some ['/']) (h : IsDeclaration prefixes text) :
    AsciiField key text ↔ IsAscii text := by
  have hslash : '/'.toNat < 128 ∧ Text.isDigit '/' = false := by decide
  refine asciiField_iff hkey (List.forall_mem_singleton.mpr hslash) fun c hc => ?_
  rcases mem_of_matchesDeclaration h.2 hc with hdigit | hslash
  · exact .inl (isDigit_of_isDecimal hdigit)
  · exact .inr (List.mem_singleton.mpr hslash)

theorem isAsciiDigit_digitChar (n : ℕ) : Text.isAsciiDigit (digitChar n) = true := by
  have hdigit := isDigit_digitChar n
  rw [Char.isDigit_iff_toNat] at hdigit
  simp only [Text.isAsciiDigit, Bool.and_eq_true, decide_eq_true_eq]
  exact hdigit

theorem mem_isoFormat {d : Date} {c : Char} (h : c ∈ d.isoFormat) :
    Text.isAsciiDigit c = true ∨ c = '-' := by
  simp only [Date.isoFormat, fourDigits, twoDigits, List.mem_append, List.mem_cons,
    List.not_mem_nil, or_false] at h
  have hdigit := fun n => isAsciiDigit_digitChar n
  grind

/-- A day is written in digits of ASCII. -/
theorem asciiField_day {value : Day} (hkey : digitKeys.lookup key = some ['-']) (h : IsDay value) :
    AsciiField key (dayText value) := by
  intro given hgiven c hc
  obtain rfl := Option.some.inj (hkey.symm.trans hgiven)
  obtain ⟨d, hd⟩ := Option.isSome_iff_exists.mp h
  have htext : (dayText value).toList = d.isoFormat := by
    cases value with
    | date value =>
      obtain rfl := Option.some.inj hd
      rw [dayText, String.toList_ofList]
    | text value =>
      rw [dayOf, Option.filter_eq_some_iff] at hd
      rw [dayText, ← of_decide_eq_true hd.2, String.toList_ofList]
  rw [htext] at hc
  simpa using mem_isoFormat hc

/-- A moment is written in digits of ASCII. -/
theorem asciiField_instant {value : Instant}
    (hkey : digitKeys.lookup key = some ['-', 'T', ':', '.', 'Z']) (h : IsInstant value) :
    AsciiField key (instantText value) := by
  intro given hgiven c hc
  obtain rfl := Option.some.inj (hkey.symm.trans hgiven)
  obtain ⟨moment, hmoment⟩ := Option.isSome_iff_exists.mp h
  rw [instantText, hmoment, Option.map_some, Option.getD_some, String.toList_ofList] at hc
  have hdate : c ∈ moment.date.isoFormat → Text.isAsciiDigit c = true ∨ c = '-' := mem_isoFormat
  have hdigit := fun n => isAsciiDigit_digitChar n
  have htake : c ∈ (sixDigits (moment.time % 1000000)).take 3 →
      Text.isAsciiDigit c = true := by
    intro hmem
    have hsix := List.mem_of_mem_take hmem
    simp only [sixDigits, fourDigits, twoDigits, List.mem_append, List.mem_cons,
      List.not_mem_nil, or_false] at hsix
    grind
  simp only [millisText, twoDigits, List.mem_append, List.mem_cons, List.not_mem_nil,
    or_false] at hc
  simp only [List.mem_cons, List.not_mem_nil, or_false]
  grind

end Fields

/-! ## Parts of documents -/

open Json.Tells (append cons_free cons_given cons_objects cons_objects_free cons_silent nil)

theorem PermitDocument.tells {permit : PermitDocument} (h : permit.Valid) : Tells permit.wire [] :=
  cons_free (asciiField_other rfl) <| cons_free (asciiField_other rfl) <|
    cons_free (asciiField_day rfl h.2.2) nil

theorem permitFields_tells {permits : List PermitDocument}
    (h : ∀ permit ∈ permits, permit.Valid) : Tells (permitFields permits) [] := by
  unfold permitFields
  split
  · exact nil
  · have hwires : (permits.map fun permit => Json.obj permit.wire) =
        (permits.map PermitDocument.wire).map .obj := by
      rw [List.map_map]
      rfl
    rw [hwires]
    exact cons_objects_free (fun permit hpermit => PermitDocument.tells (h permit hpermit)) nil

/-- A field that may be missing. -/
theorem optionalField_tells {α : Type} {key : String} {text : α → String} {value : Option α}
    (h : ∀ given ∈ value, AsciiField key (text given)) :
    Tells (optionalField key text value) [] := by
  cases value with
  | none => exact nil
  | some given => exact cons_free (h given rfl) nil

/-- A field that may be missing, and is written as it is given. -/
theorem optionalField_tells_given {key : String} {value : Option String}
    (h : ∀ given ∈ value, AsciiField key given ↔ IsAscii given) :
    Tells (optionalField key id value) value.toList := by
  cases value with
  | none => exact nil
  | some given => exact cons_given (h given rfl) nil

/-- The fields of a primary document, one after another. -/
theorem primaryWire_eq {kindLabel numberLabel dateLabel : String} {document : PrimaryDocument}
    (hlabels : ∀ label ∈ [kindLabel, numberLabel, dateLabel],
      label ≠ "primary_document_custom_name") :
    primaryWire kindLabel numberLabel dateLabel document =
      [(kindLabel, .str (primaryKind document)), (numberLabel, .str document.number),
        (dateLabel, .str (dayText document.documentDate))] ++
      if primaryKind document = "OTHER" then
        [("primary_document_custom_name", .str (document.customName.getD ""))] else [] := by
  simp only [List.forall_mem_cons] at hlabels
  obtain ⟨hkind, hnumber, hdate, -⟩ := hlabels
  unfold primaryWire
  split
  · simp [Json.set, hkind, hnumber, hdate]
  · rw [List.append_nil]

theorem primaryWire_tells {kindLabel numberLabel dateLabel : String} {allowed : List String}
    {document : PrimaryDocument} (h : PrimaryValid allowed document)
    (hlabels : ∀ label ∈ [kindLabel, numberLabel, dateLabel],
      label ≠ "primary_document_custom_name")
    (hkind : digitKeys.lookup kindLabel = none) (hnumber : digitKeys.lookup numberLabel = none)
    (hdate : digitKeys.lookup dateLabel = some ['-']) :
    Tells (primaryWire kindLabel numberLabel dateLabel document) [] := by
  have hname : Tells (if primaryKind document = "OTHER" then
      [("primary_document_custom_name", .str (document.customName.getD ""))] else []) [] := by
    split
    · exact cons_free (asciiField_other rfl) nil
    · exact nil
  rw [primaryWire_eq hlabels]
  exact cons_free (asciiField_other hkind) <| cons_free (asciiField_other hnumber) <|
    cons_free (asciiField_day hdate h.2.2.2.1) hname

theorem returnWire_tells {allowed : List String} {document : PrimaryDocument}
    (h : PrimaryValid allowed document) : Tells (returnWire document) [] :=
  primaryWire_tells h (by simp) rfl rfl rfl

/-- A part that may be missing, without given texts. -/
theorem part_tells {α : Type} {wire : α → Wire} {value : Option α}
    (h : ∀ part ∈ value, Tells (wire part) []) : Tells ((value.map wire).getD []) [] := by
  cases value with
  | none => exact nil
  | some part => exact h part rfl

theorem TnvedProduct.tells {codeKey : String} {product : TnvedProduct} (h : product.Valid)
    (hkey : digitKeys.lookup codeKey = none) : Tells (product.wire codeKey) [product.tnvedCode] :=
  cons_free (asciiField_other hkey) <| cons_given (asciiField_decimal rfl h.2.1) <|
    permitFields_tells h.2.2

/-- The products of a document in their list. -/
theorem products_tells {listKey codeKey : String} {products : List TnvedProduct}
    {fields : Wire} {given : List String} (hproducts : ∀ product ∈ products, product.Valid)
    (hkey : digitKeys.lookup codeKey = none) (h : Tells fields given) :
    Tells ((listKey, objects (products.map (TnvedProduct.wire codeKey))) :: fields)
      (products.map TnvedProduct.tnvedCode ++ given) := by
  have hcodes : products.map TnvedProduct.tnvedCode =
      products.flatMap fun product => [product.tnvedCode] := List.map_eq_flatMap
  rw [hcodes]
  exact cons_objects
    (fun product hproduct => TnvedProduct.tells (hproducts product hproduct) hkey) h

/-! ## Documents of turnover -/

theorem LpIntroduceGoodsDocument.tells {document : LpIntroduceGoodsDocument} (h : document.Valid) :
    Tells document.wire ([document.participantInn, document.producerInn, document.ownerInn] ++
      document.products.map TnvedProduct.tnvedCode) := by
  obtain ⟨-, -, hparticipant, hproducer, howner, hproducts, hdate⟩ := h
  have hday : Tells (optionalField "production_date" dayText document.productionDate) [] :=
    optionalField_tells fun given hgiven => asciiField_day rfl (hdate given hgiven)
  rw [← List.append_nil (document.products.map TnvedProduct.tnvedCode)]
  exact cons_given (asciiField_decimal rfl hparticipant) <|
    cons_given (asciiField_decimal rfl hproducer) <| cons_given (asciiField_decimal rfl howner) <|
    cons_free (asciiField_other rfl) <| products_tells hproducts rfl hday

theorem IsDayWithin.isDay {minDay maxDay : Date} {value : Day}
    (h : IsDayWithin minDay maxDay value) : IsDay value := by
  obtain ⟨day, hday, -⟩ := h
  rw [IsDay, hday]
  rfl

theorem individualCode_tells (uit uitu : Option String) :
    Tells (individualCodeField uit uitu) [] := by
  cases uit with
  | none => exact cons_free (asciiField_other rfl) nil
  | some uit => exact cons_free (asciiField_other rfl) nil

/-- Objects in a list that have nothing given. -/
theorem objects_tells {key : String} {wires : List Wire} (h : ∀ wire ∈ wires, Tells wire []) :
    Tells [(key, objects wires)] [] := by
  have hrest : Tells [(key, objects (wires.map id))] [] := cons_objects_free h nil
  rwa [List.map_id] at hrest

namespace IndividualProduct

mutual

theorem tells : ∀ product : IndividualProduct, product.Valid → Tells product.wire []
  | mk uit uitu productReceivingDate productName children => by
    rintro ⟨-, hreceived, -, hchildren⟩
    have hcode := individualCode_tells uit uitu
    have hinstant : Tells
        (optionalField "product_receiving_date" instantText productReceivingDate) [] :=
      optionalField_tells fun given hgiven => asciiField_instant rfl (hreceived given hgiven)
    have hname : Tells (optionalField "productName" id productName) [] :=
      optionalField_tells fun _ _ => asciiField_other rfl
    have hchild : Tells (childField (wireAll children)) [] := by
      unfold childField
      split
      · exact nil
      · exact objects_tells (tellsAll children hchildren)
    exact append (append (append hcode hinstant) hname) hchild

theorem tellsAll : ∀ products : List IndividualProduct, ValidAll products →
    ∀ wire ∈ wireAll products, Tells wire []
  | [], _ => by simp [wireAll]
  | product :: rest, h => by
    rw [wireAll, List.forall_mem_cons]
    exact ⟨tells product h.1, tellsAll rest h.2⟩

end

end IndividualProduct

theorem LkIndiCommissioningDocument.tells {document : LkIndiCommissioningDocument}
    (h : document.Valid) : Tells document.wire [document.participantInn] := by
  obtain ⟨-, hparticipant, hproducts, hreceived⟩ := h
  have hinstant : Tells
      (optionalField "product_receiving_date" instantText document.productReceivingDate) [] :=
    optionalField_tells fun given hgiven => asciiField_instant rfl (hreceived given hgiven)
  exact cons_given (asciiField_decimal rfl hparticipant) <|
    append (objects_tells (IndividualProduct.tellsAll _ hproducts)) hinstant

theorem LpGoodsImportDocument.tells {document : LpGoodsImportDocument} (h : document.Valid) :
    Tells document.wire
      ([document.participantInn, document.declarationNumber, document.customsCode] ++
        document.products.map TnvedProduct.tnvedCode) := by
  obtain ⟨-, hcustoms, -, hparticipant, hdate, hnumber, -, hproducts⟩ := h
  rw [← List.append_nil (document.products.map TnvedProduct.tnvedCode)]
  exact cons_given (asciiField_decimal rfl hparticipant) <| cons_free (asciiField_day rfl hdate) <|
    cons_given (asciiField_declaration rfl hnumber) <|
    cons_given (asciiField_isDigit rfl hcustoms) <| cons_silent rfl (by simp [Json.texts]) <|
    products_tells hproducts rfl nil

theorem CrossborderDocument.tells {document : CrossborderDocument} (h : document.Valid) :
    Tells document.wire
      ([document.tradeParticipantInn, document.senderTaxNumber, document.countryOksm] ++
        document.productsList.map TnvedProduct.tnvedCode) := by
  obtain ⟨-, hsender, hcountry, -, hparticipant, -, himport, -, hprimary, hproducts⟩ := h
  rw [← List.append_nil (document.productsList.map TnvedProduct.tnvedCode)]
  exact cons_given (asciiField_decimal rfl hparticipant) <|
    cons_given (asciiField_isDigit rfl hsender) <| cons_free (asciiField_other rfl) <|
    cons_given (asciiField_decimal rfl hcountry) <| cons_free (asciiField_day rfl himport) <|
    cons_free (asciiField_other rfl) <| cons_free (asciiField_day rfl hprimary) <|
    products_tells hproducts rfl nil

theorem RemainsProduct.tells {product : RemainsProduct} (h : product.Valid) :
    Tells product.wire [product.country, product.declarationNumber] := by
  obtain ⟨-, hcountry, hnumber, hdate, hpermits⟩ := h
  exact cons_free (asciiField_other rfl) <| cons_given (asciiField_decimal rfl hcountry) <|
    cons_given (asciiField_declaration rfl hnumber) <| cons_free (asciiField_day rfl hdate) <|
    permitFields_tells hpermits

theorem LpIntroduceOstDocument.tells {document : LpIntroduceOstDocument} (h : document.Valid) :
    Tells document.wire (document.tradeParticipantInn ::
      document.productsList.flatMap fun product =>
        [product.country, product.declarationNumber]) := by
  obtain ⟨-, hproducts, -, hparticipant⟩ := h
  have hlist : Tells [("products_list", objects (document.productsList.map RemainsProduct.wire))]
      ((document.productsList.flatMap fun product =>
        [product.country, product.declarationNumber]) ++ []) :=
    cons_objects (fun product hproduct => RemainsProduct.tells (hproducts product hproduct)) nil
  rw [List.append_nil] at hlist
  exact cons_given (asciiField_decimal rfl hparticipant) hlist

theorem LkContractCommissioningDocument.tells {document : LkContractCommissioningDocument}
    (h : document.Valid) : Tells document.wire
      ([document.producerInn, document.ownerInn] ++
        document.productsList.map TnvedProduct.tnvedCode) := by
  obtain ⟨-, hproducer, howner, hproducts, hdate⟩ := h
  have hday : Tells (optionalField "production_date" dayText document.productionDate) [] :=
    optionalField_tells fun given hgiven => asciiField_day rfl (hdate given hgiven)
  rw [← List.append_nil (document.productsList.map TnvedProduct.tnvedCode)]
  exact cons_given (asciiField_decimal rfl hproducer) <|
    cons_given (asciiField_decimal rfl howner) <| cons_free (asciiField_other rfl) <|
    products_tells hproducts rfl hday

theorem FtsProduct.tells (product : FtsProduct) : Tells product.wire [] :=
  cons_free (asciiField_other rfl) <| cons_free (asciiField_other rfl) <|
    cons_free (asciiField_other rfl) nil

theorem LpFtsIntroduceDocument.tells {document : LpFtsIntroduceDocument} (h : document.Valid) :
    Tells document.wire [document.tradeParticipantInn, document.declarationNumber] := by
  obtain ⟨-, hparticipant, hnumber, hdate, -⟩ := h
  exact cons_given (asciiField_decimal rfl hparticipant) <|
    cons_given (asciiField_declaration rfl hnumber) <| cons_free (asciiField_day rfl hdate) <|
    cons_objects_free (fun product _ => product.tells) nil

theorem RemarkProduct.tells {cause : String} {product : RemarkProduct} (h : product.Valid cause) :
    Tells product.wire product.tnved10.toList := by
  obtain ⟨-, -, htnved, -, -, hprimary, hpermits⟩ := h
  have hlast : Tells (optionalField "last_uin" id product.lastUin) [] :=
    optionalField_tells fun _ _ => asciiField_other rfl
  have hcode : Tells (optionalField "tnved_10" id product.tnved10) product.tnved10.toList :=
    optionalField_tells_given fun given hgiven => asciiField_decimal rfl (htnved given hgiven)
  have hdocument := part_tells fun document hgiven =>
    returnWire_tells (hprimary document hgiven).2
  have hnew : Tells [("new_uin", .str product.newUin)] [] := cons_free (asciiField_other rfl) nil
  have hall := append (append (append (append hnew hlast) hcode) hdocument)
    (permitFields_tells hpermits)
  rwa [List.nil_append, List.nil_append, List.append_nil, List.append_nil] at hall

theorem LkRemarkDocument.tells {today : Date} {document : LkRemarkDocument}
    (h : document.Valid today) : Tells document.wire
      (document.participantInn ::
        document.products.flatMap fun product => product.tnved10.toList) := by
  obtain ⟨-, -, hparticipant, ⟨_, _, hdate⟩, hproducts⟩ := h
  have hday := IsDayWithin.isDay hdate
  have hlist : Tells [("products", objects (document.products.map RemarkProduct.wire))]
      ((document.products.flatMap fun product => product.tnved10.toList) ++ []) :=
    cons_objects (fun product hproduct => RemarkProduct.tells (hproducts product hproduct)) nil
  rw [List.append_nil] at hlist
  exact cons_given (asciiField_decimal rfl hparticipant) <| cons_free (asciiField_day rfl hday) <|
    cons_free (asciiField_other rfl) hlist

theorem WriteOffDocument.tells {today : Date} {document : WriteOffDocument}
    (h : document.Valid today) : Tells document.wire
      (document.participantId ::
        ((if document.dropoutReason = "EAS_TRADE" then document.destinationCountryCode.toList
          else []) ++ document.kpp.toList)) := by
  obtain ⟨-, -, -, -, hparticipant, -, ⟨_, _, _, _, hdate⟩, -, hdestination, -, hkpp, hchild⟩ := h
  have hday := IsDayWithin.isDay hdate
  have hname : Tells (sourceNameField document.sourceType document.sourceDocName) [] := by
    unfold sourceNameField
    split
    · exact cons_free (asciiField_other rfl) nil
    · exact nil
  have hexport : Tells
      (destinationFields document.dropoutReason document.destinationCountryCode document.buyerId)
      (if document.dropoutReason = "EAS_TRADE" then document.destinationCountryCode.toList
        else []) := by
    unfold destinationFields
    unfold IsDestination at hdestination
    split
    case isTrue htrade =>
      rw [if_pos htrade] at hdestination
      obtain ⟨code, buyer, hcode, -, hcountry, -⟩ := hdestination
      rw [hcode]
      exact cons_given (asciiField_decimal rfl hcountry) <| cons_free (asciiField_other rfl) nil
    case isFalse => exact nil
  have hfias : Tells (optionalField "fiasId" fiasText document.fiasId) [] :=
    optionalField_tells fun _ _ => asciiField_other rfl
  have hkpp : Tells (optionalField "kpp" id document.kpp) document.kpp.toList :=
    optionalField_tells_given fun given hgiven => asciiField_decimal rfl (hkpp given hgiven)
  have hwith : Tells (withChildWire document.withChild) [] := by
    rcases hchild with hnone | ⟨flag, hflag⟩
    · rw [hnone]
      exact nil
    · rw [hflag]
      exact cons_silent rfl (by simp [Json.texts]) nil
  have hhead : Tells [("participantId", .str document.participantId),
      ("dropoutReason", .str document.dropoutReason), ("sourceDocType", .str document.sourceType),
      ("sourceDocNum", .str document.sourceDocNum),
      ("sourceDocDate", .str (dayText document.sourceDocDate)),
      ("sntins", .arr (document.sntins.map .str))] [document.participantId] :=
    cons_given (asciiField_decimal rfl hparticipant) <| cons_free (asciiField_other rfl) <|
    cons_free (asciiField_other rfl) <| cons_free (asciiField_other rfl) <|
    cons_free (asciiField_day rfl hday) <| cons_silent rfl (Json.texts_strings document.sntins) nil
  have hall := append (append (append (append (append hhead hname) hexport) hfias) hkpp) hwith
  rw [List.append_nil, List.append_nil, List.append_nil] at hall
  exact hall

theorem LpReturnDocument.tells {document : LpReturnDocument} (h : document.Valid) :
    Tells document.wire (document.tradeParticipantInn :: document.stateContractId.toList) := by
  obtain ⟨⟨-, -, hparticipant, hitems, -, hprimary, hpermit, hcontract⟩, -, -⟩ := h
  have hpaidWire : ∀ paid : Option Paid, Tells (paidWire paid) [] := by
    rintro (_ | _ | _)
    · exact nil
    · exact cons_silent rfl (by simp [Json.texts]) nil
    · exact nil
  have hproduct : ∀ item ∈ document.productsList, Tells item.wire [] := by
    intro item hitem
    obtain ⟨-, -, hprimary, hpermit⟩ := hitems item hitem
    have hki : Tells [("ki", .str item.ki)] [] := cons_free (asciiField_other rfl) nil
    exact append (append (append hki (hpaidWire item.paid))
      (part_tells fun primary hgiven => returnWire_tells (hprimary primary hgiven)))
      (part_tells fun permit hgiven => PermitDocument.tells (hpermit permit hgiven))
  have hpaid : Tells document.rootPaid [] := by
    unfold LpReturnDocument.rootPaid
    split
    · exact hpaidWire document.paid
    · exact nil
  have hid : Tells (optionalField "state_contract_id" id document.stateContractId)
      document.stateContractId.toList :=
    optionalField_tells_given fun id hid => asciiField_decimal rfl (hcontract id hid).1
  have hhead : Tells [("trade_participant_inn", .str document.tradeParticipantInn),
      ("return_type", .str document.returnType),
      ("products_list", objects (document.productsList.map ReturnProduct.wire))]
      [document.tradeParticipantInn] :=
    cons_given (asciiField_decimal rfl hparticipant) <| cons_free (asciiField_other rfl) <|
    cons_objects_free hproduct nil
  have hall := append (append (append (append hhead hpaid)
    (part_tells fun primary hgiven => returnWire_tells (hprimary primary hgiven)))
    (part_tells fun permit hgiven => PermitDocument.tells (hpermit permit hgiven))) hid
  rw [List.append_nil, List.append_nil, List.append_nil] at hall
  exact hall

theorem LkReceiptCancelDocument.tells {document : LkReceiptCancelDocument} (h : document.Valid) :
    Tells document.wire [document.inn] :=
  cons_given (asciiField_decimal rfl h.1) <| cons_free (asciiField_other rfl) nil

/-! ## A distance withdrawal -/

namespace Distance

theorem locationWire_tells {location : ModLocation} (h : LocationValid location) :
    Tells (locationWire location) (if location.legalEntity then location.kpp.toList else []) := by
  obtain ⟨-, hkpp⟩ := h
  unfold locationWire
  cases hlegal : location.legalEntity with
  | false =>
    simp only [Bool.false_eq_true, if_false]
    exact cons_free (asciiField_other rfl) nil
  | true =>
    rw [hlegal, if_pos rfl] at hkpp
    obtain ⟨kpp, hgiven, hvalid⟩ := hkpp
    simp only [if_true, hgiven]
    exact cons_free (asciiField_other rfl) <| cons_given (asciiField_decimal rfl hvalid) nil

theorem mem_locationWire {location : ModLocation} {field : String × Json}
    (h : field ∈ locationWire location) : field.1 = "fias_id" ∨ field.1 = "kpp" := by
  unfold locationWire at h
  split at h <;> simp [Json.set] at h <;> grind

/-- The names of the fields of a primary document. -/
theorem map_fst_primaryFields (document : PrimaryDocument) :
    (primaryFields document).map Prod.fst = ["document_type", "document_number", "document_date"] ++
      if primaryKind document = "OTHER" then ["primary_document_custom_name"] else [] := by
  rw [primaryFields, primaryWire_eq (by simp)]
  split <;> rfl

/-- The fields of a withdrawal, one after another. -/
theorem wire_eq (document : LkReceiptDistanceDocument) : Distance.wire document =
    ([("inn", .str document.inn), ("action", .str "DISTANCE"),
      ("action_date", .str (dayText document.actionDate))] ++ locationWire document.mod ++
      [("products", objects (document.products.map productWire))]) ++
      (document.primaryDocument.map primaryFields).getD [] := by
  cases hprimary : document.primaryDocument with
  | none => simp [Distance.wire, hprimary, Json.merge]
  | some primary =>
    have hnames := map_fst_primaryFields primary
    have hnodup : ((primaryFields primary).map Prod.fst).Nodup := by
      rw [hnames]
      split <;> decide
    rw [Distance.wire, hprimary]
    refine Json.merge_of_disjoint (fun field hfield other hother heq => ?_) hnodup
    have hapart : ∀ name ∈ ["inn", "action", "action_date", "fias_id", "kpp", "products"],
        name ∉ ["document_type", "document_number", "document_date"] ++
          ["primary_document_custom_name"] := by decide
    have hfirst : field.1 ∈ (primaryFields primary).map Prod.fst := List.mem_map_of_mem hfield
    have hsecond : other.1 ∈ ["inn", "action", "action_date", "fias_id", "kpp", "products"] := by
      simp only [List.mem_append, List.mem_cons, List.not_mem_nil, or_false] at hother
      have hlocation := @mem_locationWire document.mod other
      grind
    rw [hnames, ← heq, List.mem_append] at hfirst
    refine hapart other.1 hsecond (List.mem_append.mpr (hfirst.imp_right fun hname => ?_))
    by_cases hcustom : primaryKind primary = "OTHER"
    · rwa [if_pos hcustom] at hname
    · rw [if_neg hcustom] at hname
      cases hname

theorem productWire_tells (product : WithdrawalProduct) : Tells (productWire product) [] :=
  cons_free (asciiField_other rfl) <| cons_silent rfl (by simp [Json.texts]) nil

theorem primaryFields_tells {allowed : List String} {document : PrimaryDocument}
    (h : PrimaryValid allowed document) : Tells (primaryFields document) [] :=
  primaryWire_tells h (by simp) rfl rfl rfl

theorem tells {today : Date} {document : LkReceiptDistanceDocument} (h : Valid today document) :
    Tells (Distance.wire document) (document.inn ::
      if document.mod.legalEntity then document.mod.kpp.toList else []) := by
  obtain ⟨-, -, -, hinn, ⟨_, _, hdate⟩, hlocation, hprimary⟩ := h
  have hday := IsDayWithin.isDay hdate
  have hhead : Tells [("inn", .str document.inn), ("action", .str "DISTANCE"),
      ("action_date", .str (dayText document.actionDate))] [document.inn] :=
    cons_given (asciiField_decimal rfl hinn) <| cons_free (asciiField_other rfl) <|
    cons_free (asciiField_day rfl hday) nil
  have hproducts : Tells [("products", objects (document.products.map productWire))] [] :=
    cons_objects_free (fun product _ => productWire_tells product) nil
  have hall := append (append (append hhead (locationWire_tells hlocation)) hproducts)
    (part_tells fun primary hgiven => primaryFields_tells (hprimary primary hgiven))
  rw [List.append_nil, List.append_nil] at hall
  rw [wire_eq]
  exact hall

end Distance

namespace TypedDocument

/-- The texts that are given for fields of digits and are written as they are. -/
def digitTexts : TypedDocument → List String
  | lpIntroduceGoods document =>
    [document.participantInn, document.producerInn, document.ownerInn] ++
      document.products.map TnvedProduct.tnvedCode
  | lkIndiCommissioning document => [document.participantInn]
  | lpGoodsImport document =>
    [document.participantInn, document.declarationNumber, document.customsCode] ++
      document.products.map TnvedProduct.tnvedCode
  | crossborder document =>
    [document.tradeParticipantInn, document.senderTaxNumber, document.countryOksm] ++
      document.productsList.map TnvedProduct.tnvedCode
  | lpIntroduceOst document =>
    document.tradeParticipantInn :: document.productsList.flatMap fun product =>
      [product.country, product.declarationNumber]
  | lkContractCommissioning document =>
    [document.producerInn, document.ownerInn] ++ document.productsList.map TnvedProduct.tnvedCode
  | lpFtsIntroduce document => [document.tradeParticipantInn, document.declarationNumber]
  | lkReceiptDistance document =>
    document.inn :: if document.mod.legalEntity then document.mod.kpp.toList else []
  | lpReturn document => document.tradeParticipantInn :: document.stateContractId.toList
  | lkRemark document =>
    document.participantInn :: document.products.flatMap fun product => product.tnved10.toList
  | writeOff document =>
    document.participantId ::
      ((if document.dropoutReason = "EAS_TRADE" then document.destinationCountryCode.toList
        else []) ++ document.kpp.toList)
  | lkReceiptCancel document => [document.inn]

theorem tells {today : Date} {document : TypedDocument} (h : document.Valid today) :
    Tells document.wire document.digitTexts := by
  cases document with
  | lpIntroduceGoods document => exact LpIntroduceGoodsDocument.tells h
  | lkIndiCommissioning document => exact LkIndiCommissioningDocument.tells h
  | lpGoodsImport document => exact LpGoodsImportDocument.tells h
  | crossborder document => exact CrossborderDocument.tells h
  | lpIntroduceOst document => exact LpIntroduceOstDocument.tells h
  | lkContractCommissioning document => exact LkContractCommissioningDocument.tells h
  | lpFtsIntroduce document => exact LpFtsIntroduceDocument.tells h
  | lkReceiptDistance document => exact Distance.tells h
  | lpReturn document => exact LpReturnDocument.tells h
  | lkRemark document => exact LkRemarkDocument.tells h
  | writeOff document => exact WriteOffDocument.tells h
  | lkReceiptCancel document => exact LkReceiptCancelDocument.tells h

end TypedDocument

/-! ## Documents of aggregation -/

/-- The participant of a document. -/
def participant : Aggregation.Document → String
  | .aggregation document => document.participantId
  | .sets document => document.participantId
  | .reaggregation document => document.participantInn
  | .disaggregation document => document.participantInn
  | .atkAggregation document => document.tradeParticipantInn
  | .atkTransformation document => document.tradeParticipantInn
  | .atkDisaggregation document => document.tradeParticipantInn

theorem asciiField_inn {key text : String} (hkey : digitKeys.lookup key = some [])
    (h : Aggregation.IsInn text) : AsciiField key text ↔ IsAscii text := by
  have hdigits := h.2.1
  rw [Text.isdigit, Bool.and_eq_true] at hdigits
  exact asciiField_digits hkey hdigits.2

/-- Codes of a document, each in an object of its own. -/
theorem codes_tells {listKey key : String} (hkey : digitKeys.lookup key = none)
    (values : List String) :
    Tells [(listKey, .arr (values.map fun value => .obj [(key, .str value)]))] [] := by
  have hrest : Tells [(listKey, .arr ((values.map fun value => [(key, Json.str value)]).map .obj))]
      [] := cons_objects_free (fun value _ => cons_free (asciiField_other hkey) nil) nil
  rwa [List.map_map] at hrest

theorem units_tells (units : List Aggregation.AggregationUnit) :
    Tells [("aggregationUnits", .arr (units.map fun unit => unit.wire.json))] [] := by
  have hunit : ∀ unit ∈ units, Tells [("unitSerialNumber", .str unit.wire.unitSerialNumber),
      ("unitSerialNumberType", .str unit.wire.unitSerialNumberType),
      ("aggregationType", .str "AGGREGATION"), ("sntins", .arr (unit.wire.sntins.map .str))] [] :=
    fun unit _ => cons_free (asciiField_other rfl) <| cons_free (asciiField_other rfl) <|
      cons_free (asciiField_other rfl) <| cons_silent rfl (Json.texts_strings _) nil
  have hrest : Tells [("aggregationUnits", objects (units.map _))] [] := cons_objects_free hunit nil
  rw [objects, List.map_map] at hrest
  exact hrest

theorem setUnits_tells (units : List Aggregation.SetAggregationUnit) :
    Tells [("aggregationUnits", .arr (units.map Aggregation.SetAggregationUnit.wire))] [] := by
  have hunit : ∀ unit ∈ units, Tells [("unitSerialNumber", .str unit.unitSerialNumber),
      ("sntins", .arr (unit.sntins.map .str))] [] :=
    fun unit _ => cons_free (asciiField_other rfl) <| cons_silent rfl (Json.texts_strings _) nil
  have hrest : Tells [("aggregationUnits", objects (units.map _))] [] := cons_objects_free hunit nil
  rw [objects, List.map_map] at hrest
  exact hrest

theorem items_tells (items : List Aggregation.ReaggregationItem) :
    Tells [("uit_uitu_list", .arr (items.map fun item => .obj [(item.wire.1, .str item.wire.2)]))]
      [] := by
  have hitem : ∀ item ∈ items, Tells [(item.wire.1, .str item.wire.2)] [] := by
    intro item _
    refine cons_free (asciiField_other ?_) nil
    cases hcode : item.uitUitu with
    | none => rw [Aggregation.ReaggregationItem.wire, hcode]; rfl
    | some uitUitu => rw [Aggregation.ReaggregationItem.wire, hcode]; rfl
  have hrest : Tells [("uit_uitu_list", objects (items.map _))] [] := cons_objects_free hitem nil
  rw [objects, List.map_map] at hrest
  exact hrest

/-- A document of aggregation has no digits but those of its participant. -/
theorem aggregation_tells {document : Aggregation.Document} (h : document.Valid) :
    ∃ wire, document.wire = .obj wire ∧ Tells wire [participant document] := by
  cases document with
  | aggregation document =>
    exact ⟨_, rfl, cons_given (asciiField_inn rfl h.participant) (units_tells _)⟩
  | sets document =>
    exact ⟨_, rfl, cons_given (asciiField_inn rfl h.participant) (setUnits_tells _)⟩
  | reaggregation document =>
    exact ⟨_, rfl, cons_given (asciiField_inn rfl h.participant) <|
      cons_free (asciiField_other rfl) <| cons_free (asciiField_other rfl) (items_tells _)⟩
  | disaggregation document =>
    exact ⟨_, rfl, cons_given (asciiField_inn rfl h.participant) (codes_tells rfl _)⟩
  | atkAggregation document =>
    exact ⟨_, rfl, cons_given (asciiField_inn rfl h.participant) (codes_tells rfl _)⟩
  | atkTransformation document =>
    exact ⟨_, rfl, cons_given (asciiField_inn rfl h.participant) <|
      cons_free (asciiField_other rfl) <| cons_free (asciiField_other rfl) (codes_tells rfl _)⟩
  | atkDisaggregation document =>
    exact ⟨_, rfl, cons_given (asciiField_inn rfl h.participant) (codes_tells rfl _)⟩

/-! ## Any document -/

/-- A document of turnover or of aggregation. -/
inductive OutgoingDocument where
  | turnover (document : TypedDocument)
  | aggregation (document : Aggregation.Document)

namespace OutgoingDocument

/-- `to_wire` on a day. -/
def toWire (today : Date) : OutgoingDocument → Except PyError Json
  | turnover document => do
    let fields ← document.toWire today
    pure (.obj fields)
  | aggregation document => document.toWire

/-- The fields of a document pass. -/
def Valid (today : Date) : OutgoingDocument → Prop
  | turnover document => document.Valid today
  | aggregation document => document.Valid

/-- A document on the wire. -/
def wire : OutgoingDocument → Json
  | turnover document => .obj document.wire
  | aggregation document => document.wire

/-- The texts that are given for fields of digits and are written as they are. -/
def digitTexts : OutgoingDocument → List String
  | turnover document => document.digitTexts
  | aggregation document => [participant document]

variable {today : Date} {document : OutgoingDocument}

theorem toWire_eq_ok {wire : Json} :
    document.toWire today = .ok wire ↔ wire = document.wire ∧ document.Valid today := by
  cases document with
  | turnover document =>
    simp only [toWire, bind_eq_ok, TypedDocument.toWire_eq_ok, pure_eq_ok]
    constructor
    · rintro ⟨fields, ⟨rfl, hvalid⟩, rfl⟩
      exact ⟨rfl, hvalid⟩
    · rintro ⟨rfl, hvalid⟩
      exact ⟨_, ⟨rfl, hvalid⟩, rfl⟩
  | aggregation document => exact Aggregation.Document.toWire_eq_ok

/-- The digits of a document that passes are those of its texts. -/
theorem wire_onlyAsciiDigits (h : document.Valid today) :
    OnlyAsciiDigits document.wire ↔ ∀ text ∈ document.digitTexts, IsAscii text := by
  cases document with
  | turnover document =>
    rw [OnlyAsciiDigits, wire, Json.texts]
    exact TypedDocument.tells h
  | aggregation document =>
    obtain ⟨fields, hwire, htells⟩ := aggregation_tells h
    rw [OnlyAsciiDigits, wire, hwire, Json.texts]
    exact htells

/-- An accepted document has only digits of ASCII on the wire, unless its fields pass and digits of
another script were given. -/
theorem onlyAsciiDigits_iff : (∀ wire, document.toWire today = .ok wire → OnlyAsciiDigits wire) ↔
    (document.Valid today → ∀ text ∈ document.digitTexts, IsAscii text) := by
  simp only [toWire_eq_ok, and_imp, forall_eq]
  exact forall_congr' wire_onlyAsciiDigits

/-- A withdrawal taken back by a participant whose number is written in Arabic-Indic digits. -/
def arabicParticipant : OutgoingDocument :=
  turnover (.lkReceiptCancel ⟨"٧٧٠١٢٣٤٥٦٧", "RECEIPT-1"⟩)

/-- The digits of that participant are accepted and written. -/
theorem arabicParticipant_written :
    ∃ wire, arabicParticipant.toWire ⟨2026, 7, 1, by decide⟩ = .ok wire ∧
      ¬ OnlyAsciiDigits wire := by
  refine ⟨.obj [("inn", .str "٧٧٠١٢٣٤٥٦٧"), ("lk_receipt_id", .str "RECEIPT-1")], ?_, ?_⟩
  · have hvalid : IsInn "٧٧٠١٢٣٤٥٦٧" ∧ IsName 512 "RECEIPT-1" := by decide +kernel
    exact toWire_eq_ok.mpr ⟨rfl, hvalid⟩
  · intro h
    have hfield := h ("inn", "٧٧٠١٢٣٤٥٦٧") (by decide +kernel) [] rfl '٧' (by decide +kernel)
    revert hfield
    decide +kernel

end OutgoingDocument

end Wbcz.Turnover

import Wbcz.Control.CisInventory
import Wbcz.Lib.DateText
import Wbcz.Lib.RedactedText
import Wbcz.Lib.Sha256
import Wbcz.Marketplace.Evidence

/-!
# The fingerprints of rows from Wildberries

The rows of the workbook, of the order feed and of the returns in `wb_fbs.py`. Each becomes
evidence whose fingerprint is taken from the redacted row, and evidence of one assembly order is
compared by fingerprints. A value that is none of JSON is its `str`, as it is in the fingerprint.
-/

namespace Wbcz.Marketplace

open CisInventory (field fieldOr pyStr)

/-! ## Rows -/

/-- A row: its keys are distinct, and its floats are floats. -/
structure WbRow where
  fields : List (String × Json)
  keys : (fields.map Prod.fst).Nodup
  floats : Json.FloatTexts (.obj fields)

/-- The row as a value. -/
def WbRow.value (row : WbRow) : Json := .obj row.fields

/-- `stable_hash`. -/
def stableHash (value : Json) : String := Sha256.hexdigest (Text.utf8 value.canonical)

/-- The fingerprint of a row. -/
def sourceFingerprint (row : WbRow) : String := stableHash (.obj (redactMapping row.fields))

def optionalInt : Json → Option ℤ
  | .int i => some i
  | _ => none

def optionalStr : Json → Option String
  | .str text => some text
  | _ => none

def optionalBool : Json → Option Bool
  | .bool b => some b
  | _ => none

/-! ## Workbook -/

inductive WbEvidenceSource where
  | wbApi
  | wbXlsx
  deriving DecidableEq, Repr

structure P0XlsxEvidence where
  source : WbEvidenceSource
  fingerprint : String
  assemblyOrderId : Option ℤ
  markingFingerprint : Option String
  normalized : List (String × Json)

/-- The keys that `adapt_p0_xlsx_row` leaves out. -/
def droppedKeys : List String := ["kiz", "cis", "sgtin"]

def adaptP0XlsxRow (containerText : Json → String) (row : WbRow) : P0XlsxEvidence :=
  let marking := fieldOr row.fields "kiz" "cis"
  { source := .wbXlsx
    fingerprint := sourceFingerprint row
    assemblyOrderId := optionalInt (field row.fields "assembly_order_id")
    markingFingerprint :=
      if marking.truthy then some (Sha256.hexdigest (Text.utf8 (pyStr containerText marking)))
      else none
    normalized := row.fields.filter fun entry => !(droppedKeys.contains entry.1) }

/-! ## Order feed -/

structure RawWbValue where
  raw : String
  known : Bool
  deriving DecidableEq, Repr

/-- A value of which some are known. -/
def parseRaw (containerText : Json → String) (known : List String) (value : Json) : RawWbValue :=
  let raw := if value.isNull then "" else pyStr containerText value
  ⟨raw, known.contains raw⟩

def parseOrderFeedStatus (containerText : Json → String) (value : Json) : RawWbValue :=
  parseRaw containerText ["cancel"] value

def parseOrderFeedCancelType (containerText : Json → String) (value : Json) : RawWbValue :=
  parseRaw containerText ["app"] value

structure NormalizedOrderFeedRow where
  nmId : Option ℤ
  chrtId : Option ℤ
  srid : Option String
  createdAtRaw : Option String
  updatedAtRaw : Option String
  status : RawWbValue
  cancelType : RawWbValue
  warehouseName : Option String
  warehouseRegion : Option String
  isMp : Option Bool
  destinationCity : Option String
  destinationDistrict : Option String
  sellerPriceRaw : Json
  isB2b : Option Bool
  sourceFingerprint : String
  rawSanitized : List (String × Json)

def normalizeOrderFeedRow (containerText : Json → String) (row : WbRow) :
    NormalizedOrderFeedRow where
  nmId := optionalInt (field row.fields "nmId")
  chrtId := optionalInt (field row.fields "chrtId")
  srid := optionalStr (field row.fields "srid")
  createdAtRaw := optionalStr (field row.fields "createdAt")
  updatedAtRaw := optionalStr (field row.fields "updatedAt")
  status := parseOrderFeedStatus containerText (field row.fields "status")
  cancelType := parseOrderFeedCancelType containerText (field row.fields "cancelType")
  warehouseName := optionalStr (field row.fields "warehouseName")
  warehouseRegion := optionalStr (field row.fields "warehouseRegion")
  isMp := optionalBool (field row.fields "isMp")
  destinationCity := optionalStr (field row.fields "destinationCity")
  destinationDistrict := optionalStr (field row.fields "destinationDistrict")
  sellerPriceRaw := field row.fields "sellerPrice"
  isB2b := optionalBool (field row.fields "isB2b")
  sourceFingerprint := sourceFingerprint row
  rawSanitized := redactMapping row.fields

/-! ## Returns -/

inductive TimestampSemantics where
  | offsetExplicit
  | timezoneUnknown
  deriving DecidableEq, Repr

structure ParsedTimestamp where
  raw : Option String
  parsed : Option Calendar.DateTime
  semantics : TimestampSemantics

/-- `re.search(r"(Z|[+-]\d\d:\d\d)$", raw)`, from the end of the text. -/
def endsWithOffset (text : List Char) : Bool :=
  let ends : List Char → Bool
    | 'Z' :: _ => true
    | a :: b :: ':' :: c :: d :: sign :: _ =>
      [a, b, c, d].all Text.isDecimal && (sign = '+' || sign = '-')
    | _ => false
  match text.reverse with
  | '\n' :: rest => ends rest
  | rest => ends rest

def parseGoodsReturnTimestamp (raw : Option String) : ParsedTimestamp :=
  match raw with
  | none => ⟨raw, none, .timezoneUnknown⟩
  | some text =>
    if !(endsWithOffset text.toList) then ⟨raw, none, .timezoneUnknown⟩
    else
      let candidate :=
        if text.toList.getLast? = some 'Z' then text.toList.dropLast ++ "+00:00".toList
        else text.toList
      match Calendar.fromisoformat candidate with
      | some (.aware moment) => ⟨raw, some (.aware moment), .offsetExplicit⟩
      | _ => ⟨raw, none, .timezoneUnknown⟩

structure GoodsReturnEvidence where
  orderIdRaw : Option String
  srid : Option String
  barcode : Option String
  nmId : Option ℤ
  stickerId : Option String
  shkId : Option String
  readyToReturn : ParsedTimestamp
  completed : ParsedTimestamp
  rawReturnStatus : Option String
  rawReturnType : Option String
  sourceFingerprint : String
  rawSanitized : List (String × Json)

def normalizeGoodsReturnRow (containerText : Json → String) (row : WbRow) :
    GoodsReturnEvidence where
  orderIdRaw :=
    let value := field row.fields "orderId"
    if value.isNull then none else some (pyStr containerText value)
  srid := optionalStr (field row.fields "srid")
  barcode := optionalStr (field row.fields "barcode")
  nmId := optionalInt (field row.fields "nmId")
  stickerId := optionalStr (fieldOr row.fields "stickerId" "sticker")
  shkId := optionalStr (fieldOr row.fields "shkId" "shk")
  readyToReturn :=
    parseGoodsReturnTimestamp (optionalStr (field row.fields "readyToReturnDt"))
  completed := parseGoodsReturnTimestamp (optionalStr (field row.fields "completedDt"))
  rawReturnStatus := optionalStr (fieldOr row.fields "status" "returnStatus")
  rawReturnType := optionalStr (fieldOr row.fields "type" "returnType")
  sourceFingerprint := sourceFingerprint row
  rawSanitized := redactMapping row.fields

/-! ## Comparison -/

structure AssemblyOrderEvidence where
  connectionId : ℤ
  assemblyOrderId : ℤ
  sourceFamily : String
  fingerprint : String

inductive AssemblyEvidenceMergeState where
  | new
  | duplicate
  | evidenceConflict
  deriving DecidableEq, Repr

def compareAssemblyEvidence (existing incoming : AssemblyOrderEvidence) :
    AssemblyEvidenceMergeState :=
  if (existing.connectionId, existing.assemblyOrderId) ≠
      (incoming.connectionId, incoming.assemblyOrderId) then .new
  else if existing.fingerprint = incoming.fingerprint then .duplicate
  else .evidenceConflict

theorem compareAssemblyEvidence_eq_duplicate_iff {existing incoming : AssemblyOrderEvidence} :
    compareAssemblyEvidence existing incoming = .duplicate ↔
      existing.connectionId = incoming.connectionId ∧
        existing.assemblyOrderId = incoming.assemblyOrderId ∧
        existing.fingerprint = incoming.fingerprint := by
  unfold compareAssemblyEvidence
  split_ifs with hids hfingerprint
  · simp only [false_iff, not_and]
    intro hconnection horder
    exact absurd (Prod.ext hconnection horder) hids
  · have hsame := Prod.mk.inj (not_not.mp hids)
    simp [hsame.1, hsame.2, hfingerprint]
  · simp [hfingerprint]

/-- Where the row comes from. -/
inductive WbRowKind where
  | xlsx
  | orderFeed
  | goodsReturn
  deriving DecidableEq, Repr

/-- The fingerprint of the evidence that a row becomes. -/
def fingerprintOf (containerText : Json → String) (row : WbRow) : WbRowKind → String
  | .xlsx => (adaptP0XlsxRow containerText row).fingerprint
  | .orderFeed => (normalizeOrderFeedRow containerText row).sourceFingerprint
  | .goodsReturn => (normalizeGoodsReturnRow containerText row).sourceFingerprint

theorem fingerprintOf_eq (containerText : Json → String) (row : WbRow) (kind : WbRowKind) :
    fingerprintOf containerText row kind = sourceFingerprint row := by
  cases kind <;> rfl

/-! ## Fingerprints -/

/-- Two rows are the same evidence: the order of their fields does not matter. -/
def SameEvidence (row other : WbRow) : Prop := row.value.ordered = other.value.ordered

/-- Two rows differ only under keys, or beside texts, that tell of secrets. -/
def DifferInSecrets (row other : WbRow) : Prop :=
  wbPolicy.Alike false row.value.ordered other.value.ordered

/-- Two texts of redacted rows are no collision of SHA-256. -/
def CollisionFree (row other : WbRow) : Prop :=
  sourceFingerprint row = sourceFingerprint other →
    (Json.obj (redactMapping row.fields)).canonical =
      (Json.obj (redactMapping other.fields)).canonical

/-- One redacted text, rows that differ only in secrets. -/
theorem canonical_redactMapping_eq_iff {row other : WbRow} :
    (Json.obj (redactMapping row.fields)).canonical =
        (Json.obj (redactMapping other.fields)).canonical ↔ DifferInSecrets row other := by
  rw [← sanitizeWbEvidence_obj, ← sanitizeWbEvidence_obj]
  exact Redaction.Policy.canonical_redact_eq_iff (p := wbPolicy) rfl trivial row.floats other.floats

/-- One fingerprint, rows that differ only in secrets. -/
theorem sourceFingerprint_eq_iff {row other : WbRow} (hfree : CollisionFree row other) :
    sourceFingerprint row = sourceFingerprint other ↔ DifferInSecrets row other := by
  rw [← canonical_redactMapping_eq_iff]
  refine ⟨hfree, fun h => ?_⟩
  rw [sourceFingerprint, sourceFingerprint, stableHash, stableHash, h]

/-! ## Marking codes in a normalized row -/

/-- A key of marking codes, in any spelling. -/
def spellsMarking (key : String) : Bool :=
  let compact := Text.compact key
  compact = "fullmarking" || ["sgtin", "kiz", "marking", "cis"].any fun start =>
    startsWith start compact

mutual

/-- No key of marking codes stands anywhere in the value. -/
def markingFree : Json → Bool
  | .arr items => markingFreeItems items
  | .obj fields => markingFreeFields fields
  | _ => true

def markingFreeItems : List Json → Bool
  | [] => true
  | item :: items => markingFree item && markingFreeItems items

def markingFreeFields : List (String × Json) → Bool
  | [] => true
  | (key, value) :: fields =>
    !(spellsMarking key) && markingFree value && markingFreeFields fields

end

/-- Marking codes stand under the keys that are left out, and nowhere else. -/
def OnlyDroppedMarkings (row : WbRow) : Prop :=
  ∀ entry ∈ row.fields, entry.1 ∈ droppedKeys ∨
    spellsMarking entry.1 = false ∧ markingFree entry.2 = true

theorem markingFreeFields_iff {fields : List (String × Json)} :
    markingFreeFields fields = true ↔
      ∀ entry ∈ fields, spellsMarking entry.1 = false ∧ markingFree entry.2 = true := by
  induction fields with
  | nil => simp [markingFreeFields]
  | cons entry fields ih =>
    obtain ⟨key, value⟩ := entry
    simp [markingFreeFields, ih]

theorem normalized_markingFree_iff {containerText : Json → String} {row : WbRow} :
    markingFreeFields (adaptP0XlsxRow containerText row).normalized = true ↔
      OnlyDroppedMarkings row := by
  rw [markingFreeFields_iff]
  simp only [adaptP0XlsxRow, List.mem_filter, Bool.not_eq_true', List.contains_eq_mem,
    decide_eq_false_iff_not, and_imp, OnlyDroppedMarkings]
  exact forall₂_congr fun entry _ => (or_iff_not_imp_left).symm

/-! ## What fingerprints distinguish -/

/-- Rows that are different evidence have different fingerprints and are no duplicates, and the
normalized row of a workbook has no marking code, exactly when the rows differ in more than secrets,
if at all, and the marking codes stand under the keys that are left out. -/
theorem source_fingerprints_distinguish_iff (containerText : Json → String)
    (kind kind' : WbRowKind) (row other : WbRow) (connectionId orderId : ℤ)
    (family family' : String) (hfree : CollisionFree row other) :
    ((¬SameEvidence row other →
        fingerprintOf containerText row kind ≠ fingerprintOf containerText other kind') ∧
      (compareAssemblyEvidence
          ⟨connectionId, orderId, family, fingerprintOf containerText row kind⟩
          ⟨connectionId, orderId, family', fingerprintOf containerText other kind'⟩ = .duplicate →
        SameEvidence row other) ∧
      markingFreeFields (adaptP0XlsxRow containerText row).normalized = true) ↔
    (SameEvidence row other ∨ ¬DifferInSecrets row other) ∧ OnlyDroppedMarkings row := by
  rw [compareAssemblyEvidence_eq_duplicate_iff, normalized_markingFree_iff, fingerprintOf_eq,
    fingerprintOf_eq, Ne, sourceFingerprint_eq_iff hfree]
  simp only [true_and]
  rw [not_imp_not, ← and_assoc, and_self_iff, imp_iff_or_not]

/-- A row of a workbook with a marking code under the key. -/
def givenRow (key text : String) (h : key ≠ "assembly_order_id") : WbRow where
  fields := [("assembly_order_id", .int 7), (key, .str text)]
  keys := by simp [h.symm]
  floats := ⟨trivial, trivial, trivial⟩

theorem givenRow_ordered (text : String) (h : "kiz" ≠ "assembly_order_id") :
    (givenRow "kiz" text h).value.ordered =
      .obj [("assembly_order_id", .int 7), ("kiz", .str text)] := by
  have hle : Json.keyLe "assembly_order_id".toList "kiz".toList = true := by decide
  simp only [WbRow.value, givenRow, Json.ordered, Json.orderedFields, Json.orderFields,
    List.foldr, Json.insertValue, hle, if_true]

theorem givenRow_sameEvidence_iff {text other : String} (h : "kiz" ≠ "assembly_order_id") :
    SameEvidence (givenRow "kiz" text h) (givenRow "kiz" other h) ↔ text = other := by
  rw [SameEvidence, givenRow_ordered, givenRow_ordered]
  simp

theorem givenRow_differInSecrets (text other : String) (h : "kiz" ≠ "assembly_order_id") :
    DifferInSecrets (givenRow "kiz" text h) (givenRow "kiz" other h) := by
  have hkiz : ∀ told, wbPolicy.hides told "kiz" = true := by
    intro told
    have hsensitive : sensitiveKey "kiz" = true := by decide +kernel
    simp [Redaction.Policy.hides, wbPolicy, hsensitive]
  rw [DifferInSecrets, givenRow_ordered, givenRow_ordered]
  exact .obj (.shown (.same _) (.hidden (hkiz _) .nil))

theorem givenRow_collisionFree (text other : String) (h : "kiz" ≠ "assembly_order_id") :
    CollisionFree (givenRow "kiz" text h) (givenRow "kiz" other h) := fun _ =>
  canonical_redactMapping_eq_iff.mpr (givenRow_differInSecrets text other h)

/-- The marking code of an order changes and its evidence is a duplicate; a key in capitals is not
left out. -/
theorem source_fingerprints_kiz :
    ¬SameEvidence (givenRow "kiz" "0104A" (by decide)) (givenRow "kiz" "0104B" (by decide)) ∧
      compareAssemblyEvidence
          ⟨1, 7, "WB_XLSX",
            fingerprintOf (fun _ => "") (givenRow "kiz" "0104A" (by decide)) .xlsx⟩
          ⟨1, 7, "WB_XLSX",
            fingerprintOf (fun _ => "") (givenRow "kiz" "0104B" (by decide)) .xlsx⟩ =
        .duplicate ∧
      (adaptP0XlsxRow (fun _ => "") (givenRow "kiz" "0104A" (by decide))).markingFingerprint ≠
        (adaptP0XlsxRow (fun _ => "") (givenRow "kiz" "0104B" (by decide))).markingFingerprint ∧
      (adaptP0XlsxRow (fun _ => "") (givenRow "KIZ" "0104A" (by decide))).normalized =
        [("assembly_order_id", .int 7), ("KIZ", .str "0104A")] := by
  refine ⟨?_, ?_, by decide +kernel, rfl⟩
  · rw [givenRow_sameEvidence_iff]
    decide
  · rw [compareAssemblyEvidence_eq_duplicate_iff, fingerprintOf_eq, fingerprintOf_eq,
      sourceFingerprint_eq_iff (givenRow_collisionFree _ _ _)]
    exact ⟨rfl, rfl, givenRow_differInSecrets _ _ _⟩

theorem source_fingerprints_distinguish_kiz :
    ¬((¬SameEvidence (givenRow "kiz" "A" (by decide)) (givenRow "kiz" "B" (by decide)) →
        fingerprintOf (fun _ => "") (givenRow "kiz" "A" (by decide)) .xlsx ≠
          fingerprintOf (fun _ => "") (givenRow "kiz" "B" (by decide)) .orderFeed) ∧
      (compareAssemblyEvidence
          ⟨1, 7, "", fingerprintOf (fun _ => "") (givenRow "kiz" "A" (by decide)) .xlsx⟩
          ⟨1, 7, "", fingerprintOf (fun _ => "") (givenRow "kiz" "B" (by decide)) .orderFeed⟩ =
        .duplicate → SameEvidence (givenRow "kiz" "A" (by decide))
          (givenRow "kiz" "B" (by decide))) ∧
      markingFreeFields (adaptP0XlsxRow (fun _ => "")
        (givenRow "kiz" "A" (by decide))).normalized = true) := by
  rw [source_fingerprints_distinguish_iff (fun _ => "") .xlsx .orderFeed
    (givenRow "kiz" "A" (by decide)) (givenRow "kiz" "B" (by decide)) 1 7 "" ""
    (givenRow_collisionFree _ _ _)]
  rintro ⟨hsame | hdiffer, -⟩
  · rw [givenRow_sameEvidence_iff] at hsame
    exact absurd hsame (by decide)
  · exact hdiffer (givenRow_differInSecrets _ _ _)

end Wbcz.Marketplace

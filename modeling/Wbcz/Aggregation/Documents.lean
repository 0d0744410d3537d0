import Wbcz.Aggregation.Fields

/-!
# The documents of aggregation

The seven documents of `aggregation.py` and what their `to_wire` gives.
-/

namespace Wbcz.Aggregation

open Fallible (bind_eq_ok ensure ensure_eq_ok mapM_check_eq_ok)

/-- A list of checked texts that may not be empty and may not repeat any. -/
def distinct (check : String → Except PyError String) (values : List String) (list item : String) :
    Except PyError (List String) := do
  ensure (values ≠ []) (contractError (list ++ " must be non-empty"))
  let out ← values.mapM check
  ensure out.Nodup (contractError (item ++ " must be unique"))
  pure out

/-- `_unique_codes`. -/
def uniqueCodes (values : List String) (label : String) : Except PyError (List String) :=
  distinct (fun value => code value label) values label label

/-- The `sntins` of a unit. -/
def unitChildren (sntins : List String) : Except PyError (List String) :=
  distinct (fun value => code value "sntins[]") sntins "sntins" "sntins"

/-! ## Aggregation -/

inductive UnitSerialNumberType where
  | box
  | group
  | productSet
  deriving DecidableEq, Repr

def UnitSerialNumberType.value : UnitSerialNumberType → String
  | .box => "BOX"
  | .group => "GROUP"
  | .productSet => "PRODUCT_SET"

/-- `AggregationUnit`. -/
structure AggregationUnit where
  unitSerialNumber : String
  unitSerialNumberType : UnitSerialNumberType
  sntins : List String
  partNumber : Option String := none

/-- What a unit is on the wire. -/
structure AggregationUnitWire where
  unitSerialNumber : String
  unitSerialNumberType : String
  sntins : List String

def AggregationUnitWire.json (wire : AggregationUnitWire) : Json :=
  .obj [("unitSerialNumber", .str wire.unitSerialNumber),
    ("unitSerialNumberType", .str wire.unitSerialNumberType),
    ("aggregationType", .str "AGGREGATION"), ("sntins", .arr (wire.sntins.map .str))]

def AggregationUnit.toWire (unit : AggregationUnit) : Except PyError AggregationUnitWire := do
  let parent ← validateAggregateIdentifier unit.unitSerialNumber "unitSerialNumber"
  let children ← unitChildren unit.sntins
  ensure (unit.partNumber = none) (manualReview "PART_NUMBER_NOT_ENABLED_FOR_LP")
  pure ⟨parent, unit.unitSerialNumberType.value, children⟩

/-- `AggregationDocument`. -/
structure AggregationDocument where
  participantId : String
  aggregationUnits : List AggregationUnit

def AggregationDocument.toWire (document : AggregationDocument) : Except PyError Json := do
  ensure (document.aggregationUnits ≠ []) (contractError "aggregationUnits must be non-empty")
  let wires ← document.aggregationUnits.mapM AggregationUnit.toWire
  let lengths := (wires.map fun wire => wire.unitSerialNumber.length).dedup
  let types := (wires.map AggregationUnitWire.unitSerialNumberType).dedup
  ensure (lengths.length = 1 ∧ types.length = 1)
    (contractError "parents in one document must share code length and package type")
  ensure (wires.flatMap AggregationUnitWire.sntins).Nodup
    (contractError "a direct child may occur only once in an aggregation document")
  let participant ← inn document.participantId "participantId"
  pure (.obj [("participantId", .str participant),
    ("aggregationUnits", .arr (wires.map AggregationUnitWire.json))])

/-! ## Sets -/

/-- `SetAggregationUnit`. -/
structure SetAggregationUnit where
  unitSerialNumber : String
  sntins : List String

def SetAggregationUnit.toWire (unit : SetAggregationUnit) : Except PyError Json := do
  let children ← unitChildren unit.sntins
  let parent ← validateAggregateIdentifier unit.unitSerialNumber "unitSerialNumber"
  pure (.obj [("unitSerialNumber", .str parent), ("sntins", .arr (children.map .str))])

/-- `SetsAggregationDocument`. -/
structure SetsAggregationDocument where
  participantId : String
  aggregationUnits : List SetAggregationUnit

def SetsAggregationDocument.toWire (document : SetsAggregationDocument) : Except PyError Json := do
  ensure (document.aggregationUnits ≠ []) (contractError "aggregationUnits must be non-empty")
  let participant ← inn document.participantId "participantId"
  let wires ← document.aggregationUnits.mapM SetAggregationUnit.toWire
  pure (.obj [("participantId", .str participant), ("aggregationUnits", .arr wires)])

/-! ## Reaggregation and disaggregation -/

/-- `ReaggregationItem`. -/
structure ReaggregationItem where
  uitUitu : Option String := none
  kitu : Option String := none

/-- The key of an item on the wire, and its code. -/
def ReaggregationItem.toWire (item : ReaggregationItem) : Except PyError (String × String) :=
  match item.uitUitu, item.kitu with
  | some uitUitu, none => do
    let value ← code uitUitu "uit_uitu"
    pure ("uit_uitu", value)
  | none, some kitu => do
    let value ← validateAggregateIdentifier kitu "kitu"
    pure ("kitu", value)
  | _, _ =>
    .error (contractError "reaggregation item requires exactly one of uit_uitu or kitu")

/-- `ReaggregationDocument`. -/
structure ReaggregationDocument where
  participantInn : String
  reaggregationType : String
  uitu : String
  uitUituList : List ReaggregationItem

def ReaggregationDocument.toWire (document : ReaggregationDocument) : Except PyError Json := do
  let kind ← text document.reaggregationType "reaggregation_type" 16
  ensure (kind = "ADDING" ∨ kind = "REMOVING")
    (contractError "reaggregation_type must be ADDING or REMOVING")
  ensure (document.uitUituList ≠ []) (contractError "uit_uitu_list must be non-empty")
  let items ← document.uitUituList.mapM ReaggregationItem.toWire
  ensure (items.map Prod.snd).Nodup (contractError "uit_uitu_list must be unique")
  let participant ← inn document.participantInn "participant_inn"
  let uitu ← validateAggregateIdentifier document.uitu "uitu"
  pure (.obj [("participant_inn", .str participant), ("reaggregation_type", .str kind),
    ("uitu", .str uitu), ("uit_uitu_list", .arr (items.map fun item => .obj [(item.1, .str item.2)]))])

/-- `DisaggregationDocument`. -/
structure DisaggregationDocument where
  participantInn : String
  productsList : List String

def DisaggregationDocument.toWire (document : DisaggregationDocument) : Except PyError Json := do
  let codes ← distinct (fun value => validateAggregateIdentifier value "products_list[].uitu")
    document.productsList "products_list" "products_list[].uitu"
  let participant ← inn document.participantInn "participant_inn"
  pure (.obj [("participant_inn", .str participant),
    ("products_list", .arr (codes.map fun value => .obj [("uitu", .str value)]))])

/-! ## ATK -/

/-- `AtkAggregationDocument`. -/
structure AtkAggregationDocument where
  tradeParticipantInn : String
  productsList : List String

def AtkAggregationDocument.toWire (document : AtkAggregationDocument) : Except PyError Json := do
  let codes ← uniqueCodes document.productsList "products_list[].ki"
  let participant ← inn document.tradeParticipantInn "trade_participant_inn"
  pure (.obj [("trade_participant_inn", .str participant),
    ("products_list", .arr (codes.map fun value => .obj [("ki", .str value)]))])

/-- `AtkTransformationDocument`. -/
structure AtkTransformationDocument where
  tradeParticipantInn : String
  atk : String
  transformationType : String
  productsList : List String

def AtkTransformationDocument.toWire (document : AtkTransformationDocument) :
    Except PyError Json := do
  let kind ← text document.transformationType "transformation_type" 16
  ensure (kind = "ADDING" ∨ kind = "REMOVING")
    (contractError "transformation_type must be ADDING or REMOVING")
  let codes ← uniqueCodes document.productsList "products_list[].ki"
  let participant ← inn document.tradeParticipantInn "trade_participant_inn"
  let atk ← code document.atk "atk"
  pure (.obj [("trade_participant_inn", .str participant), ("atk", .str atk),
    ("transformation_type", .str kind),
    ("products_list", .arr (codes.map fun value => .obj [("ki", .str value)]))])

/-- `AtkDisaggregationDocument`. -/
structure AtkDisaggregationDocument where
  tradeParticipantInn : String
  productsList : List String

def AtkDisaggregationDocument.toWire (document : AtkDisaggregationDocument) :
    Except PyError Json := do
  let codes ← uniqueCodes document.productsList "products_list[].atk"
  let participant ← inn document.tradeParticipantInn "trade_participant_inn"
  pure (.obj [("trade_participant_inn", .str participant),
    ("products_list", .arr (codes.map fun value => .obj [("atk", .str value)]))])

/-! ## The documents together -/

/-- A document of any type. -/
inductive Document where
  | aggregation (document : AggregationDocument)
  | sets (document : SetsAggregationDocument)
  | reaggregation (document : ReaggregationDocument)
  | disaggregation (document : DisaggregationDocument)
  | atkAggregation (document : AtkAggregationDocument)
  | atkTransformation (document : AtkTransformationDocument)
  | atkDisaggregation (document : AtkDisaggregationDocument)

def Document.toWire : Document → Except PyError Json
  | .aggregation document => document.toWire
  | .sets document => document.toWire
  | .reaggregation document => document.toWire
  | .disaggregation document => document.toWire
  | .atkAggregation document => document.toWire
  | .atkTransformation document => document.toWire
  | .atkDisaggregation document => document.toWire

/-! ## What passes, and what is on the wire -/

/-- Codes of one list, each of them once. -/
def IsCodes (values : List String) : Prop :=
  values ≠ [] ∧ (∀ value ∈ values, IsCode value) ∧ values.Nodup

theorem distinct_eq_ok {check : String → Except PyError String} {valid : String → Prop}
    (hcheck : ∀ value result, check value = .ok result ↔ result = value ∧ valid value)
    {values out : List String} {list item : String} :
    distinct check values list item = .ok out ↔
      out = values ∧ values ≠ [] ∧ (∀ value ∈ values, valid value) ∧ values.Nodup := by
  constructor
  · intro h
    obtain ⟨⟨⟩, hne, h⟩ := bind_eq_ok.mp h
    obtain ⟨checked, hchecked, h⟩ := bind_eq_ok.mp h
    obtain ⟨⟨⟩, hnodup, hlast⟩ := bind_eq_ok.mp h
    obtain ⟨rfl, hvalid⟩ := (mapM_check_eq_ok hcheck).mp hchecked
    exact ⟨(Except.ok.inj hlast).symm, ensure_eq_ok.mp hne, hvalid, ensure_eq_ok.mp hnodup⟩
  · rintro ⟨rfl, hne, hvalid, hnodup⟩
    refine bind_eq_ok.mpr ⟨(), ensure_eq_ok.mpr hne, ?_⟩
    refine bind_eq_ok.mpr ⟨_, (mapM_check_eq_ok hcheck).mpr ⟨rfl, hvalid⟩, ?_⟩
    exact bind_eq_ok.mpr ⟨(), ensure_eq_ok.mpr hnodup, rfl⟩

theorem uniqueCodes_eq_ok {values out : List String} {label : String} :
    uniqueCodes values label = .ok out ↔ out = values ∧ IsCodes values :=
  distinct_eq_ok fun _ _ => code_eq_ok

theorem unitChildren_eq_ok {values out : List String} :
    unitChildren values = .ok out ↔ out = values ∧ IsCodes values :=
  distinct_eq_ok fun _ _ => code_eq_ok

def AggregationUnit.wire (unit : AggregationUnit) : AggregationUnitWire :=
  ⟨unit.unitSerialNumber, unit.unitSerialNumberType.value, unit.sntins⟩

structure AggregationUnit.Valid (unit : AggregationUnit) : Prop where
  serial : IsAggregateIdentifier unit.unitSerialNumber
  children : IsCodes unit.sntins
  part : unit.partNumber = none

theorem AggregationUnit.toWire_eq_ok {unit : AggregationUnit} {wire : AggregationUnitWire} :
    unit.toWire = .ok wire ↔ wire = unit.wire ∧ unit.Valid := by
  constructor
  · intro h
    obtain ⟨parent, hparent, h⟩ := bind_eq_ok.mp h
    obtain ⟨children, hchildren, h⟩ := bind_eq_ok.mp h
    obtain ⟨⟨⟩, hpart, h⟩ := bind_eq_ok.mp h
    obtain ⟨rfl, hserial⟩ := validateAggregateIdentifier_eq_ok.mp hparent
    obtain ⟨rfl, hcodes⟩ := unitChildren_eq_ok.mp hchildren
    exact ⟨(Except.ok.inj h).symm, hserial, hcodes, ensure_eq_ok.mp hpart⟩
  · rintro ⟨rfl, hserial, hcodes, hpart⟩
    refine bind_eq_ok.mpr ⟨_, validateAggregateIdentifier_eq_ok.mpr ⟨rfl, hserial⟩, ?_⟩
    refine bind_eq_ok.mpr ⟨_, unitChildren_eq_ok.mpr ⟨rfl, hcodes⟩, ?_⟩
    exact bind_eq_ok.mpr ⟨(), ensure_eq_ok.mpr hpart, rfl⟩

theorem AggregationUnit.mapM_toWire_eq_ok {units : List AggregationUnit} {wires : List AggregationUnitWire} :
    units.mapM AggregationUnit.toWire = .ok wires ↔
      wires = units.map AggregationUnit.wire ∧ ∀ unit ∈ units, unit.Valid :=
  Fallible.mapM_map_eq_ok fun _ _ => AggregationUnit.toWire_eq_ok

structure AggregationDocument.Valid (document : AggregationDocument) : Prop where
  nonempty : document.aggregationUnits ≠ []
  units : ∀ unit ∈ document.aggregationUnits, unit.Valid
  lengths : (document.aggregationUnits.map fun unit =>
    unit.unitSerialNumber.length).dedup.length = 1
  types : (document.aggregationUnits.map fun unit =>
    unit.unitSerialNumberType.value).dedup.length = 1
  children : (document.aggregationUnits.flatMap AggregationUnit.sntins).Nodup
  participant : IsInn document.participantId

def AggregationDocument.wire (document : AggregationDocument) : Json :=
  .obj [("participantId", .str document.participantId),
    ("aggregationUnits", .arr (document.aggregationUnits.map fun unit => unit.wire.json))]

theorem AggregationDocument.toWire_eq_ok {document : AggregationDocument} {wire : Json} :
    document.toWire = .ok wire ↔ wire = document.wire ∧ document.Valid := by
  have hmaps : ∀ {β : Type} (field : AggregationUnitWire → β),
      (document.aggregationUnits.map AggregationUnit.wire).map field =
        document.aggregationUnits.map fun unit => field unit.wire := by
    intro β field
    rw [List.map_map]
    rfl
  constructor
  · intro h
    obtain ⟨⟨⟩, hne, h⟩ := bind_eq_ok.mp h
    obtain ⟨wires, hwires, h⟩ := bind_eq_ok.mp h
    obtain ⟨⟨⟩, hsame, h⟩ := bind_eq_ok.mp h
    obtain ⟨⟨⟩, hchildren, h⟩ := bind_eq_ok.mp h
    obtain ⟨participant, hinn, h⟩ := bind_eq_ok.mp h
    obtain ⟨rfl, hunits⟩ := AggregationUnit.mapM_toWire_eq_ok.mp hwires
    obtain ⟨rfl, hvalid⟩ := inn_eq_ok.mp hinn
    rw [ensure_eq_ok, hmaps, hmaps] at hsame
    rw [ensure_eq_ok, List.flatMap_map] at hchildren
    rw [hmaps] at h
    exact ⟨(Except.ok.inj h).symm, ensure_eq_ok.mp hne, hunits, hsame.1, hsame.2, hchildren, hvalid⟩
  · rintro ⟨rfl, hne, hunits, hlengths, htypes, hchildren, hvalid⟩
    refine bind_eq_ok.mpr ⟨(), ensure_eq_ok.mpr hne, ?_⟩
    refine bind_eq_ok.mpr ⟨_, AggregationUnit.mapM_toWire_eq_ok.mpr ⟨rfl, hunits⟩, ?_⟩
    refine bind_eq_ok.mpr ⟨(), ?_, bind_eq_ok.mpr ⟨(), ?_, ?_⟩⟩
    · rw [ensure_eq_ok, hmaps, hmaps]
      exact ⟨hlengths, htypes⟩
    · rw [ensure_eq_ok, List.flatMap_map]
      exact hchildren
    · rw [hmaps]
      exact bind_eq_ok.mpr ⟨_, inn_eq_ok.mpr ⟨rfl, hvalid⟩, rfl⟩

structure SetAggregationUnit.Valid (unit : SetAggregationUnit) : Prop where
  children : IsCodes unit.sntins
  serial : IsAggregateIdentifier unit.unitSerialNumber

def SetAggregationUnit.wire (unit : SetAggregationUnit) : Json :=
  .obj [("unitSerialNumber", .str unit.unitSerialNumber), ("sntins", .arr (unit.sntins.map .str))]

theorem SetAggregationUnit.toWire_eq_ok {unit : SetAggregationUnit} {wire : Json} :
    unit.toWire = .ok wire ↔ wire = unit.wire ∧ unit.Valid := by
  constructor
  · intro h
    obtain ⟨children, hchildren, h⟩ := bind_eq_ok.mp h
    obtain ⟨parent, hparent, h⟩ := bind_eq_ok.mp h
    obtain ⟨rfl, hcodes⟩ := unitChildren_eq_ok.mp hchildren
    obtain ⟨rfl, hserial⟩ := validateAggregateIdentifier_eq_ok.mp hparent
    exact ⟨(Except.ok.inj h).symm, hcodes, hserial⟩
  · rintro ⟨rfl, hcodes, hserial⟩
    refine bind_eq_ok.mpr ⟨_, unitChildren_eq_ok.mpr ⟨rfl, hcodes⟩, ?_⟩
    exact bind_eq_ok.mpr ⟨_, validateAggregateIdentifier_eq_ok.mpr ⟨rfl, hserial⟩, rfl⟩

theorem SetAggregationUnit.mapM_toWire_eq_ok {units : List SetAggregationUnit} {wires : List Json} :
    units.mapM SetAggregationUnit.toWire = .ok wires ↔
      wires = units.map SetAggregationUnit.wire ∧ ∀ unit ∈ units, unit.Valid :=
  Fallible.mapM_map_eq_ok fun _ _ => SetAggregationUnit.toWire_eq_ok

structure SetsAggregationDocument.Valid (document : SetsAggregationDocument) : Prop where
  nonempty : document.aggregationUnits ≠ []
  participant : IsInn document.participantId
  units : ∀ unit ∈ document.aggregationUnits, unit.Valid

def SetsAggregationDocument.wire (document : SetsAggregationDocument) : Json :=
  .obj [("participantId", .str document.participantId),
    ("aggregationUnits", .arr (document.aggregationUnits.map SetAggregationUnit.wire))]

theorem SetsAggregationDocument.toWire_eq_ok {document : SetsAggregationDocument} {wire : Json} :
    document.toWire = .ok wire ↔ wire = document.wire ∧ document.Valid := by
  constructor
  · intro h
    obtain ⟨⟨⟩, hne, h⟩ := bind_eq_ok.mp h
    obtain ⟨participant, hinn, h⟩ := bind_eq_ok.mp h
    obtain ⟨wires, hwires, h⟩ := bind_eq_ok.mp h
    obtain ⟨rfl, hvalid⟩ := inn_eq_ok.mp hinn
    obtain ⟨rfl, heach⟩ := SetAggregationUnit.mapM_toWire_eq_ok.mp hwires
    exact ⟨(Except.ok.inj h).symm, ensure_eq_ok.mp hne, hvalid, heach⟩
  · rintro ⟨rfl, hne, hvalid, heach⟩
    refine bind_eq_ok.mpr ⟨(), ensure_eq_ok.mpr hne, ?_⟩
    refine bind_eq_ok.mpr ⟨_, inn_eq_ok.mpr ⟨rfl, hvalid⟩, ?_⟩
    exact bind_eq_ok.mpr ⟨_, SetAggregationUnit.mapM_toWire_eq_ok.mpr ⟨rfl, heach⟩, rfl⟩

/-- The item has one of its two codes, and that is one. -/
def ReaggregationItem.Valid (item : ReaggregationItem) : Prop :=
  match item.uitUitu, item.kitu with
  | some uitUitu, none => IsCode uitUitu
  | none, some kitu => IsAggregateIdentifier kitu
  | _, _ => False

/-- The code of an item under its key. -/
def ReaggregationItem.wire (item : ReaggregationItem) : String × String :=
  match item.uitUitu with
  | some uitUitu => ("uit_uitu", uitUitu)
  | none => ("kitu", item.kitu.getD "")

theorem ReaggregationItem.toWire_eq_ok {item : ReaggregationItem} {wire : String × String} :
    item.toWire = .ok wire ↔ wire = item.wire ∧ item.Valid := by
  obtain ⟨uitUitu, kitu⟩ := item
  cases uitUitu with
  | none =>
    cases kitu with
    | none => simp [toWire, Valid]
    | some kitu =>
      simp only [toWire, Valid, ReaggregationItem.wire, Option.getD_some]
      constructor
      · intro h
        obtain ⟨value, hvalue, hlast⟩ := bind_eq_ok.mp h
        obtain ⟨rfl, hvalid⟩ := validateAggregateIdentifier_eq_ok.mp hvalue
        exact ⟨(Except.ok.inj hlast).symm, hvalid⟩
      · rintro ⟨rfl, hvalid⟩
        exact bind_eq_ok.mpr ⟨_, validateAggregateIdentifier_eq_ok.mpr ⟨rfl, hvalid⟩, rfl⟩
  | some uitUitu =>
    cases kitu with
    | none =>
      simp only [toWire, Valid, ReaggregationItem.wire]
      constructor
      · intro h
        obtain ⟨value, hvalue, hlast⟩ := bind_eq_ok.mp h
        obtain ⟨rfl, hvalid⟩ := code_eq_ok.mp hvalue
        exact ⟨(Except.ok.inj hlast).symm, hvalid⟩
      · rintro ⟨rfl, hvalid⟩
        exact bind_eq_ok.mpr ⟨_, code_eq_ok.mpr ⟨rfl, hvalid⟩, rfl⟩
    | some kitu => simp [toWire, Valid]

theorem ReaggregationItem.mapM_toWire_eq_ok {items : List ReaggregationItem} {wires : List (String × String)} :
    items.mapM ReaggregationItem.toWire = .ok wires ↔
      wires = items.map ReaggregationItem.wire ∧ ∀ item ∈ items, item.Valid :=
  Fallible.mapM_map_eq_ok fun _ _ => ReaggregationItem.toWire_eq_ok

/-- `ADDING` or `REMOVING`. -/
def IsChange (kind : String) : Prop := IsText kind 16 ∧ (kind = "ADDING" ∨ kind = "REMOVING")

structure ReaggregationDocument.Valid (document : ReaggregationDocument) : Prop where
  kind : IsChange document.reaggregationType
  nonempty : document.uitUituList ≠ []
  items : ∀ item ∈ document.uitUituList, item.Valid
  unique : (document.uitUituList.map fun item => item.wire.2).Nodup
  participant : IsInn document.participantInn
  uitu : IsAggregateIdentifier document.uitu

def ReaggregationDocument.wire (document : ReaggregationDocument) : Json :=
  .obj [("participant_inn", .str document.participantInn),
    ("reaggregation_type", .str document.reaggregationType), ("uitu", .str document.uitu),
    ("uit_uitu_list", .arr (document.uitUituList.map fun item =>
      .obj [(item.wire.1, .str item.wire.2)]))]

theorem ReaggregationDocument.toWire_eq_ok {document : ReaggregationDocument} {wire : Json} :
    document.toWire = .ok wire ↔ wire = document.wire ∧ document.Valid := by
  constructor
  · intro h
    obtain ⟨kind, hkind, h⟩ := bind_eq_ok.mp h
    obtain ⟨⟨⟩, hchange, h⟩ := bind_eq_ok.mp h
    obtain ⟨⟨⟩, hne, h⟩ := bind_eq_ok.mp h
    obtain ⟨wires, hwires, h⟩ := bind_eq_ok.mp h
    obtain ⟨⟨⟩, hunique, h⟩ := bind_eq_ok.mp h
    obtain ⟨participant, hinn, h⟩ := bind_eq_ok.mp h
    obtain ⟨uitu, huitu, hlast⟩ := bind_eq_ok.mp h
    obtain ⟨rfl, htext⟩ := text_eq_ok.mp hkind
    obtain ⟨rfl, heach⟩ := ReaggregationItem.mapM_toWire_eq_ok.mp hwires
    obtain ⟨rfl, hvalid⟩ := inn_eq_ok.mp hinn
    obtain ⟨rfl, hparent⟩ := validateAggregateIdentifier_eq_ok.mp huitu
    rw [ensure_eq_ok, List.map_map] at hunique
    rw [List.map_map] at hlast
    exact ⟨(Except.ok.inj hlast).symm, ⟨htext, ensure_eq_ok.mp hchange⟩, ensure_eq_ok.mp hne, heach,
      hunique, hvalid, hparent⟩
  · rintro ⟨rfl, ⟨htext, hchange⟩, hne, heach, hunique, hvalid, hparent⟩
    refine bind_eq_ok.mpr ⟨_, text_eq_ok.mpr ⟨rfl, htext⟩, ?_⟩
    refine bind_eq_ok.mpr ⟨(), ensure_eq_ok.mpr hchange, ?_⟩
    refine bind_eq_ok.mpr ⟨(), ensure_eq_ok.mpr hne, ?_⟩
    refine bind_eq_ok.mpr ⟨_, ReaggregationItem.mapM_toWire_eq_ok.mpr ⟨rfl, heach⟩, ?_⟩
    refine bind_eq_ok.mpr ⟨(), ?_, ?_⟩
    · rw [ensure_eq_ok, List.map_map]
      exact hunique
    · rw [List.map_map]
      refine bind_eq_ok.mpr ⟨_, inn_eq_ok.mpr ⟨rfl, hvalid⟩, ?_⟩
      exact bind_eq_ok.mpr ⟨_, validateAggregateIdentifier_eq_ok.mpr ⟨rfl, hparent⟩, rfl⟩

structure DisaggregationDocument.Valid (document : DisaggregationDocument) : Prop where
  nonempty : document.productsList ≠ []
  products : ∀ value ∈ document.productsList, IsAggregateIdentifier value
  unique : document.productsList.Nodup
  participant : IsInn document.participantInn

def DisaggregationDocument.wire (document : DisaggregationDocument) : Json :=
  .obj [("participant_inn", .str document.participantInn),
    ("products_list", .arr (document.productsList.map fun value => .obj [("uitu", .str value)]))]

theorem DisaggregationDocument.toWire_eq_ok {document : DisaggregationDocument} {wire : Json} :
    document.toWire = .ok wire ↔ wire = document.wire ∧ document.Valid := by
  constructor
  · intro h
    obtain ⟨codes, hcodes, h⟩ := bind_eq_ok.mp h
    obtain ⟨participant, hinn, h⟩ := bind_eq_ok.mp h
    obtain ⟨rfl, hne, hvalid, hnodup⟩ :=
      (distinct_eq_ok fun _ _ => validateAggregateIdentifier_eq_ok).mp hcodes
    obtain ⟨rfl, hparticipant⟩ := inn_eq_ok.mp hinn
    exact ⟨(Except.ok.inj h).symm, hne, hvalid, hnodup, hparticipant⟩
  · rintro ⟨rfl, hne, hvalid, hnodup, hparticipant⟩
    refine bind_eq_ok.mpr ⟨_, (distinct_eq_ok fun _ _ =>
      validateAggregateIdentifier_eq_ok).mpr ⟨rfl, hne, hvalid, hnodup⟩, ?_⟩
    exact bind_eq_ok.mpr ⟨_, inn_eq_ok.mpr ⟨rfl, hparticipant⟩, rfl⟩

structure AtkAggregationDocument.Valid (document : AtkAggregationDocument) : Prop where
  products : IsCodes document.productsList
  participant : IsInn document.tradeParticipantInn

def AtkAggregationDocument.wire (document : AtkAggregationDocument) : Json :=
  .obj [("trade_participant_inn", .str document.tradeParticipantInn),
    ("products_list", .arr (document.productsList.map fun value => .obj [("ki", .str value)]))]

theorem AtkAggregationDocument.toWire_eq_ok {document : AtkAggregationDocument} {wire : Json} :
    document.toWire = .ok wire ↔ wire = document.wire ∧ document.Valid := by
  constructor
  · intro h
    obtain ⟨codes, hcodes, h⟩ := bind_eq_ok.mp h
    obtain ⟨participant, hinn, h⟩ := bind_eq_ok.mp h
    obtain ⟨rfl, hproducts⟩ := uniqueCodes_eq_ok.mp hcodes
    obtain ⟨rfl, hparticipant⟩ := inn_eq_ok.mp hinn
    exact ⟨(Except.ok.inj h).symm, hproducts, hparticipant⟩
  · rintro ⟨rfl, hproducts, hparticipant⟩
    refine bind_eq_ok.mpr ⟨_, uniqueCodes_eq_ok.mpr ⟨rfl, hproducts⟩, ?_⟩
    exact bind_eq_ok.mpr ⟨_, inn_eq_ok.mpr ⟨rfl, hparticipant⟩, rfl⟩

structure AtkTransformationDocument.Valid (document : AtkTransformationDocument) : Prop where
  kind : IsChange document.transformationType
  products : IsCodes document.productsList
  participant : IsInn document.tradeParticipantInn
  atk : IsCode document.atk

def AtkTransformationDocument.wire (document : AtkTransformationDocument) : Json :=
  .obj [("trade_participant_inn", .str document.tradeParticipantInn), ("atk", .str document.atk),
    ("transformation_type", .str document.transformationType),
    ("products_list", .arr (document.productsList.map fun value => .obj [("ki", .str value)]))]

theorem AtkTransformationDocument.toWire_eq_ok {document : AtkTransformationDocument}
    {wire : Json} : document.toWire = .ok wire ↔ wire = document.wire ∧ document.Valid := by
  constructor
  · intro h
    obtain ⟨kind, hkind, h⟩ := bind_eq_ok.mp h
    obtain ⟨⟨⟩, hchange, h⟩ := bind_eq_ok.mp h
    obtain ⟨codes, hcodes, h⟩ := bind_eq_ok.mp h
    obtain ⟨participant, hinn, h⟩ := bind_eq_ok.mp h
    obtain ⟨atk, hatk, hlast⟩ := bind_eq_ok.mp h
    obtain ⟨rfl, htext⟩ := text_eq_ok.mp hkind
    obtain ⟨rfl, hproducts⟩ := uniqueCodes_eq_ok.mp hcodes
    obtain ⟨rfl, hparticipant⟩ := inn_eq_ok.mp hinn
    obtain ⟨rfl, hvalid⟩ := code_eq_ok.mp hatk
    exact ⟨(Except.ok.inj hlast).symm, ⟨htext, ensure_eq_ok.mp hchange⟩, hproducts, hparticipant,
      hvalid⟩
  · rintro ⟨rfl, ⟨htext, hchange⟩, hproducts, hparticipant, hvalid⟩
    refine bind_eq_ok.mpr ⟨_, text_eq_ok.mpr ⟨rfl, htext⟩, ?_⟩
    refine bind_eq_ok.mpr ⟨(), ensure_eq_ok.mpr hchange, ?_⟩
    refine bind_eq_ok.mpr ⟨_, uniqueCodes_eq_ok.mpr ⟨rfl, hproducts⟩, ?_⟩
    refine bind_eq_ok.mpr ⟨_, inn_eq_ok.mpr ⟨rfl, hparticipant⟩, ?_⟩
    exact bind_eq_ok.mpr ⟨_, code_eq_ok.mpr ⟨rfl, hvalid⟩, rfl⟩

structure AtkDisaggregationDocument.Valid (document : AtkDisaggregationDocument) : Prop where
  products : IsCodes document.productsList
  participant : IsInn document.tradeParticipantInn

def AtkDisaggregationDocument.wire (document : AtkDisaggregationDocument) : Json :=
  .obj [("trade_participant_inn", .str document.tradeParticipantInn),
    ("products_list", .arr (document.productsList.map fun value => .obj [("atk", .str value)]))]

theorem AtkDisaggregationDocument.toWire_eq_ok {document : AtkDisaggregationDocument}
    {wire : Json} : document.toWire = .ok wire ↔ wire = document.wire ∧ document.Valid := by
  constructor
  · intro h
    obtain ⟨codes, hcodes, h⟩ := bind_eq_ok.mp h
    obtain ⟨participant, hinn, h⟩ := bind_eq_ok.mp h
    obtain ⟨rfl, hproducts⟩ := uniqueCodes_eq_ok.mp hcodes
    obtain ⟨rfl, hparticipant⟩ := inn_eq_ok.mp hinn
    exact ⟨(Except.ok.inj h).symm, hproducts, hparticipant⟩
  · rintro ⟨rfl, hproducts, hparticipant⟩
    refine bind_eq_ok.mpr ⟨_, uniqueCodes_eq_ok.mpr ⟨rfl, hproducts⟩, ?_⟩
    exact bind_eq_ok.mpr ⟨_, inn_eq_ok.mpr ⟨rfl, hparticipant⟩, rfl⟩

namespace Document

variable {document : Document}

/-- The fields of a document pass. -/
def Valid : Document → Prop
  | aggregation document => document.Valid
  | sets document => document.Valid
  | reaggregation document => document.Valid
  | disaggregation document => document.Valid
  | atkAggregation document => document.Valid
  | atkTransformation document => document.Valid
  | atkDisaggregation document => document.Valid

/-- A document on the wire. -/
def wire : Document → Json
  | aggregation document => document.wire
  | sets document => document.wire
  | reaggregation document => document.wire
  | disaggregation document => document.wire
  | atkAggregation document => document.wire
  | atkTransformation document => document.wire
  | atkDisaggregation document => document.wire

/-- A document passes when its fields do, and has them on the wire as they are. -/
theorem toWire_eq_ok {wire : Json} :
    document.toWire = .ok wire ↔ wire = document.wire ∧ document.Valid := by
  cases document with
  | aggregation document => exact document.toWire_eq_ok
  | sets document => exact document.toWire_eq_ok
  | reaggregation document => exact document.toWire_eq_ok
  | disaggregation document => exact document.toWire_eq_ok
  | atkAggregation document => exact document.toWire_eq_ok
  | atkTransformation document => exact document.toWire_eq_ok
  | atkDisaggregation document => exact document.toWire_eq_ok

theorem exists_toWire : (∃ wire, document.toWire = .ok wire) ↔ document.Valid := by
  constructor
  · rintro ⟨wire, h⟩
    exact (toWire_eq_ok.mp h).2
  · exact fun h => ⟨_, toWire_eq_ok.mpr ⟨rfl, h⟩⟩

/-! ## Codes that stand once -/

/-- The parents that a document names, each with the children it names for it. A new ATK has no
identifier yet. -/
def packages : Document → List (Option String × List String)
  | aggregation document =>
    document.aggregationUnits.map fun unit => (some unit.unitSerialNumber, unit.sntins)
  | sets document =>
    document.aggregationUnits.map fun unit => (some unit.unitSerialNumber, unit.sntins)
  | reaggregation document =>
    [(some document.uitu, document.uitUituList.map fun item => item.wire.2)]
  | disaggregation document => document.productsList.map fun value => (some value, [])
  | atkAggregation document => [(none, document.productsList)]
  | atkTransformation document => [(some document.atk, document.productsList)]
  | atkDisaggregation document => document.productsList.map fun value => (some value, [])

/-- No code is a child twice or a parent twice, and none is in itself. -/
structure Unique (document : Document) : Prop where
  children : (document.packages.flatMap Prod.snd).Nodup
  parents : (document.packages.filterMap Prod.fst).Nodup
  apart : ∀ package ∈ document.packages, ∀ parent, package.1 = some parent → parent ∉ package.2

/-- What the type of a document leaves unchecked. -/
def Apart : Document → Prop
  | aggregation document =>
    (document.aggregationUnits.map AggregationUnit.unitSerialNumber).Nodup ∧
      ∀ unit ∈ document.aggregationUnits, unit.unitSerialNumber ∉ unit.sntins
  | sets document =>
    (document.aggregationUnits.map SetAggregationUnit.unitSerialNumber).Nodup ∧
      (∀ unit ∈ document.aggregationUnits, unit.unitSerialNumber ∉ unit.sntins) ∧
      document.aggregationUnits.Pairwise fun unit other => unit.sntins.Disjoint other.sntins
  | reaggregation document => ∀ item ∈ document.uitUituList, item.wire.2 ≠ document.uitu
  | disaggregation _ => True
  | atkAggregation _ => True
  | atkTransformation document => document.atk ∉ document.productsList
  | atkDisaggregation _ => True

/-- One parent with its children. -/
theorem unique_single_iff {parent : Option String} {children : List String}
    (hpackages : document.packages = [(parent, children)]) :
    document.Unique ↔ children.Nodup ∧ ∀ p, parent = some p → p ∉ children := by
  constructor
  · rintro ⟨hchildren, -, hapart⟩
    rw [hpackages] at hchildren hapart
    exact ⟨by simpa using hchildren, hapart _ (List.mem_singleton_self _)⟩
  · rintro ⟨hchildren, hapart⟩
    refine ⟨by simpa [hpackages] using hchildren, ?_, by simpa [hpackages] using hapart⟩
    rw [hpackages]
    cases parent <;> simp

/-- Many parents with their children. -/
theorem unique_units_iff {α : Type} {units : List α} {serial : α → String}
    {sntins : α → List String}
    (hpackages : document.packages = units.map fun unit => (some (serial unit), sntins unit)) :
    document.Unique ↔ (units.flatMap sntins).Nodup ∧ (units.map serial).Nodup ∧
      ∀ unit ∈ units, serial unit ∉ sntins unit := by
  have hchildren : document.packages.flatMap Prod.snd = units.flatMap sntins := by
    rw [hpackages, List.flatMap_map]
  have hparents : document.packages.filterMap Prod.fst = units.map serial := by
    rw [hpackages, List.filterMap_map, ← List.filterMap_eq_map]
    rfl
  constructor
  · rintro ⟨hc, hp, hapart⟩
    rw [hchildren] at hc
    rw [hparents] at hp
    refine ⟨hc, hp, fun unit hunit => ?_⟩
    have hmem : (some (serial unit), sntins unit) ∈ document.packages := by
      rw [hpackages]
      exact List.mem_map_of_mem hunit
    exact hapart _ hmem _ rfl
  · rintro ⟨hc, hp, hapart⟩
    refine ⟨hchildren ▸ hc, hparents ▸ hp, ?_⟩
    rw [hpackages]
    rintro package hpackage parent hparent
    obtain ⟨unit, hunit, rfl⟩ := List.mem_map.mp hpackage
    obtain rfl := Option.some.inj hparent
    exact hapart unit hunit

/-- Parents that are taken apart, without children. -/
theorem unique_of_parents {values : List String} (hnodup : values.Nodup)
    (hpackages : document.packages = values.map fun value => (some value, [])) :
    document.Unique := by
  have hunits : document.packages = values.map fun value => (some (id value), []) := hpackages
  refine (unique_units_iff hunits).mpr ⟨?_, ?_, by simp⟩
  · have hnone : values.flatMap (fun _ => ([] : List String)) = [] := by
      simp [List.flatMap_eq_nil_iff]
    rw [hnone]
    exact List.nodup_nil
  · rwa [List.map_id]

/-- A document that passes is unique when what its type leaves unchecked is. -/
theorem Valid.unique_iff_apart (h : document.Valid) : document.Unique ↔ document.Apart := by
  cases document with
  | aggregation document =>
    rw [unique_units_iff rfl]
    exact and_iff_right h.children
  | sets document =>
    have hunits : ∀ unit ∈ document.aggregationUnits, unit.sntins.Nodup := fun unit hunit =>
      (h.units unit hunit).children.2.2
    rw [unique_units_iff rfl, List.nodup_flatMap, and_iff_right hunits]
    exact ⟨fun ⟨hpairs, hserials, hapart⟩ => ⟨hserials, hapart, hpairs⟩,
      fun ⟨hserials, hapart, hpairs⟩ => ⟨hpairs, hserials, hapart⟩⟩
  | reaggregation document =>
    rw [unique_single_iff rfl, and_iff_right h.unique]
    simp [Apart]
  | disaggregation document => exact iff_of_true (unique_of_parents h.unique rfl) trivial
  | atkAggregation document =>
    refine iff_of_true ((unique_single_iff rfl).mpr ⟨h.products.2.2, ?_⟩) trivial
    simp
  | atkTransformation document =>
    rw [unique_single_iff rfl, and_iff_right h.products.2.2]
    simp [Apart]
  | atkDisaggregation document =>
    exact iff_of_true (unique_of_parents h.products.2.2 rfl) trivial

/-- An accepted document has every code once and none in itself, unless its fields pass and it goes
wrong where its type does not look. -/
theorem unique_iff (document : Document) :
    ((∃ wire, document.toWire = .ok wire) → document.Unique) ↔
      (document.Valid → document.Apart) := by
  rw [exists_toWire]
  exact forall_congr' fun hvalid => hvalid.unique_iff_apart

/-- Two sets that are said to hold the same unit. -/
def sharedUnit : Document :=
  sets ⟨"7701234567", [⟨"010123456789012321SET-01", ["010123456789012321UNIT-1"]⟩,
    ⟨"010123456789012321SET-02", ["010123456789012321UNIT-1"]⟩]⟩

/-- The two sets are accepted with their unit. -/
theorem sharedUnit_accepted :
    (∃ wire, sharedUnit.toWire = .ok wire) ∧ ¬ sharedUnit.Unique := by
  refine ⟨⟨_, rfl⟩, fun hunique => ?_⟩
  have hchildren := hunique.children
  revert hchildren
  decide +kernel

end Document

end Wbcz.Aggregation

import Wbcz.Aggregation.Fields

/-!
# The preconditions of a box

`validate_lp_relation` and `validate_box_preconditions` of `aggregation.py`: which children may be
packed into a new transport package, of one product group or of several.
-/

namespace Wbcz.Aggregation

open Fallible (bind_eq_ok ensure ensure_eq_ok forM_eq_ok)
open Wbcz.Ledgers (PackageType)

/-- `LP_PARENT_CHILDREN`. -/
def lpParentChildren : PackageType → List PackageType
  | .set => [.unit, .bundle]
  | .box => [.unit, .bundle, .set, .box]
  | .atk => [.unit, .bundle, .set, .box]
  | _ => []

/-- `validate_lp_relation`. -/
def validateLpRelation (parent child : PackageType) (childPg : String) (mixedPg : Bool) :
    Except PyError Unit := do
  ensure (child = .bundle → childPg = m6Pg) (contractError "BUNDLE/KIK is supported only for lp")
  ensure (parent ≠ .group) (manualReview "GROUP_PARENT_NOT_EXPOSED_FOR_LP")
  ensure (parent = .set → child ∈ lpParentChildren .set)
    (contractError "SET permits only UNIT or BUNDLE direct children for lp")
  ensure (parent = .box → child = .group → mixedPg = true ∧ childPg ≠ m6Pg)
    (contractError "GROUP child requires legitimate non-lp mixed-PG KITU")
  ensure (parent = .box → child ≠ .group → child ∈ lpParentChildren .box)
    (contractError "incompatible BOX child")
  ensure (parent = .atk → child = .group → childPg ≠ m6Pg)
    (contractError "lp GROUP must not be fabricated")
  ensure (parent = .atk → child ≠ .group → child ∈ lpParentChildren .atk)
    (contractError "incompatible ATK child")

/-- What was read of a code, as far as a box asks for it. -/
structure CisAggregationSnapshot where
  cis : String
  packageType : Option PackageType
  productGroup : Option String
  statusRaw : Option String
  statusExRaw : Option String
  ownerInn : Option String
  emissionType : Option String
  parent : Option String

/-- `not text` of a text that may be absent. -/
def absent (value : Option String) : Bool := value.getD "" = ""

/-- `child.product_group or M6_PG`. -/
def CisAggregationSnapshot.effectivePg (item : CisAggregationSnapshot) : String :=
  if absent item.productGroup then m6Pg else item.productGroup.getD ""

/-- The arguments of `validate_box_preconditions`. -/
structure BoxCall where
  parent : Option CisAggregationSnapshot
  children : List CisAggregationSnapshot
  participantInn : String
  leadingPg : String := m6Pg
  mixedPg : Bool := false
  runtimeFormedStatusValues : List String := []

/-- The special statuses that the children of a box may have. -/
def supportedStatusEx : List (Option String) := [none, some "", some "WAIT_TRANSFER_TO_OWNER"]

/-- The children of a box of several groups, each by itself. -/
def validateMixedStatus (runtimeFormedStatusValues : List String) (child : CisAggregationSnapshot) :
    Except PyError Unit := do
  ensure (child.statusRaw = some "INTRODUCED" ∨
      (runtimeFormedStatusValues.map some).contains child.statusRaw = true)
    (manualReview "MULTIPRODUCT_KITU_CHILD_STATUS_NOT_CONFIRMED")
  ensure (child.statusExRaw ∈ supportedStatusEx)
    (manualReview "MULTIPRODUCT_KITU_CHILD_STATUS_EX_NOT_SUPPORTED")

/-- The children of a box of one group have one status, which is what is given back. -/
def validateSingleStatus (children : List CisAggregationSnapshot) :
    Except PyError (Option String) :=
  match (children.map CisAggregationSnapshot.statusRaw).dedup with
  | [status] => do
    ensure (status = some "APPLIED" ∨ status = some "INTRODUCED")
      (manualReview "KITU_CHILD_STATUS_NOT_SUPPORTED")
    ensure (∀ child ∈ children, child.statusExRaw ∈ supportedStatusEx)
      (manualReview "KITU_CHILD_STATUS_EX_NOT_SUPPORTED")
    pure status
  | _ => .error (manualReview "KITU_CHILD_STATUSES_MUST_MATCH")

/-- One round of the loop over the children. -/
def validateBoxChild (owner : String) (mixedPg : Bool) (child : CisAggregationSnapshot) :
    Except PyError Unit := do
  ensure (child.ownerInn = some owner) (manualReview "LEGACY_NON_OWNER_FLOW_NOT_ENABLED")
  ensure (absent child.parent = true) (manualReview "CHILD_ALREADY_AGGREGATED")
  match child.packageType with
  | none => .error (manualReview "UNKNOWN_RAW_PACKAGE_TYPE")
  | some packageType =>
    ensure (mixedPg = true → absent child.productGroup = false)
      (manualReview "KITU_CHILD_PRODUCT_GROUP_REQUIRED")
    validateLpRelation .box packageType child.effectivePg mixedPg

/-- The statuses of the children. That of a box of one group is given back; the source binds it
there only, and only reads it there. -/
def validateStatuses (call : BoxCall) : Except PyError (Option String) :=
  if call.mixedPg then
    (call.children.forM (validateMixedStatus call.runtimeFormedStatusValues)).map fun _ => none
  else validateSingleStatus call.children

/-- The loop over the children, and what is checked of all of them after it. -/
def validateChildren (call : BoxCall) (owner : String) (status : Option String) :
    Except PyError Unit := do
  call.children.forM (validateBoxChild owner call.mixedPg)
  ensure (call.mixedPg = false → status = some "APPLIED" →
      (call.children.map CisAggregationSnapshot.emissionType).dedup.length = 1)
    (manualReview "KITU_APPLIED_EMISSION_MISMATCH")
  ensure (call.mixedPg = true → ∃ child ∈ call.children, child.productGroup = some call.leadingPg)
    (manualReview "KITU_LEADING_PG_CHILD_REQUIRED")

/-- `validate_box_preconditions`. -/
def validateBoxPreconditions (call : BoxCall) : Except PyError Unit := do
  let owner ← inn call.participantInn "participant_inn"
  ensure (call.parent.isNone) (manualReview "KITU_PARENT_IDENTIFIER_ALREADY_PRESENT_IN_CRPT")
  ensure (call.children ≠ []) (contractError "KITU children required")
  let status ← validateStatuses call
  validateChildren call owner status

variable {parent child : PackageType} {childPg owner : String} {mixedPg : Bool}
  {item : CisAggregationSnapshot} {call : BoxCall}

/-- What a box admits is a child of its table, or a foreign group in a box of several groups. -/
theorem validateLpRelation_box_eq_ok : validateLpRelation .box child childPg mixedPg = .ok () ↔
    (child ∈ lpParentChildren .box ∧ (child = .bundle → childPg = m6Pg)) ∨
      (child = .group ∧ mixedPg = true ∧ childPg ≠ m6Pg) := by
  simp only [validateLpRelation, bind_eq_ok, ensure_eq_ok]
  cases child <;> simp [lpParentChildren]

/-- All children of a call agree on what is read of them. -/
theorem dedup_map_eq_singleton {α : Type} [DecidableEq α] {children : List CisAggregationSnapshot}
    (hne : children ≠ []) {field : CisAggregationSnapshot → α} {value : α} :
    (children.map field).dedup = [value] ↔ ∀ child ∈ children, field child = value := by
  rw [dedup_eq_singleton, List.forall_mem_map]
  refine ⟨And.right, fun h => ⟨?_, h⟩⟩
  obtain ⟨child, hchild⟩ := List.exists_mem_of_ne_nil _ hne
  exact List.mem_map.mpr ⟨child, hchild, h child hchild⟩

/-! ## What is admitted -/

/-- What a box asks of one child. -/
structure CisAggregationSnapshot.Admitted (item : CisAggregationSnapshot) (owner : String)
    (mixedPg : Bool) : Prop where
  owner : item.ownerInn = some owner
  free : absent item.parent = true
  explicit : mixedPg = true → absent item.productGroup = false
  relation : ∃ type, item.packageType = some type ∧
    ((type ∈ lpParentChildren .box ∧ (type = .bundle → item.effectivePg = m6Pg)) ∨
      (type = .group ∧ mixedPg = true ∧ item.effectivePg ≠ m6Pg))

/-- The status and the emission of the children of a box of one group. -/
def BoxCall.OneStatus (call : BoxCall) : Prop :=
  ∃ status, (status = some "APPLIED" ∨ status = some "INTRODUCED") ∧
    (∀ child ∈ call.children, child.statusRaw = status) ∧
    (status = some "APPLIED" →
      ∃ emission, ∀ child ∈ call.children, child.emissionType = emission)

/-- What a box asks of its children, of one group or of several. -/
structure BoxCall.Admitted (call : BoxCall) : Prop where
  participant : IsInn call.participantInn
  fresh : call.parent = none
  nonempty : call.children ≠ []
  statusEx : ∀ child ∈ call.children, child.statusExRaw ∈ supportedStatusEx
  oneStatus : call.mixedPg = false → call.OneStatus
  formed : call.mixedPg = true → ∀ child ∈ call.children, child.statusRaw = some "INTRODUCED" ∨
    child.statusRaw ∈ call.runtimeFormedStatusValues.map some
  child : ∀ child ∈ call.children, child.Admitted call.participantInn call.mixedPg
  leading : call.mixedPg = true → ∃ child ∈ call.children, child.productGroup = some call.leadingPg

theorem validateBoxChild_eq_ok :
    validateBoxChild owner mixedPg item = .ok () ↔ item.Admitted owner mixedPg := by
  constructor
  · intro h
    obtain ⟨⟨⟩, howner, h⟩ := bind_eq_ok.mp h
    obtain ⟨⟨⟩, hfree, h⟩ := bind_eq_ok.mp h
    rw [ensure_eq_ok] at howner hfree
    cases htype : item.packageType with
    | none => simp [htype] at h
    | some type =>
      rw [htype] at h
      obtain ⟨⟨⟩, hexplicit, hrelation⟩ := bind_eq_ok.mp h
      exact ⟨howner, hfree, ensure_eq_ok.mp hexplicit, type, htype,
        validateLpRelation_box_eq_ok.mp hrelation⟩
  · rintro ⟨howner, hfree, hexplicit, type, htype, hrelation⟩
    refine bind_eq_ok.mpr ⟨(), ensure_eq_ok.mpr howner, ?_⟩
    refine bind_eq_ok.mpr ⟨(), ensure_eq_ok.mpr hfree, ?_⟩
    rw [htype]
    exact bind_eq_ok.mpr ⟨(), ensure_eq_ok.mpr hexplicit, validateLpRelation_box_eq_ok.mpr hrelation⟩

theorem validateSingleStatus_eq_ok {children : List CisAggregationSnapshot} (hne : children ≠ [])
    {status : Option String} : validateSingleStatus children = .ok status ↔
      (status = some "APPLIED" ∨ status = some "INTRODUCED") ∧
        (∀ child ∈ children, child.statusRaw = status) ∧
        ∀ child ∈ children, child.statusExRaw ∈ supportedStatusEx := by
  rw [← dedup_map_eq_singleton hne]
  unfold validateSingleStatus
  constructor
  · intro h
    split at h
    case h_1 read hread =>
      obtain ⟨⟨⟩, hsupported, hrest⟩ := bind_eq_ok.mp h
      obtain ⟨⟨⟩, hstatusEx, hlast⟩ := bind_eq_ok.mp hrest
      obtain rfl := Except.ok.inj hlast
      exact ⟨ensure_eq_ok.mp hsupported, hread, ensure_eq_ok.mp hstatusEx⟩
    case h_2 => cases h
  · rintro ⟨hsupported, hread, hstatusEx⟩
    rw [hread]
    refine bind_eq_ok.mpr ⟨(), ensure_eq_ok.mpr hsupported, ?_⟩
    exact bind_eq_ok.mpr ⟨(), ensure_eq_ok.mpr hstatusEx, rfl⟩

theorem validateMixedStatus_eq_ok {formed : List String} :
    validateMixedStatus formed item = .ok () ↔
      (item.statusRaw = some "INTRODUCED" ∨ item.statusRaw ∈ formed.map some) ∧
        item.statusExRaw ∈ supportedStatusEx := by
  rw [validateMixedStatus, bind_eq_ok]
  constructor
  · rintro ⟨⟨⟩, hstatus, hstatusEx⟩
    exact ⟨(ensure_eq_ok.mp hstatus).imp id List.contains_iff_mem.mp, ensure_eq_ok.mp hstatusEx⟩
  · rintro ⟨hstatus, hstatusEx⟩
    refine ⟨(), ensure_eq_ok.mpr ?_, ensure_eq_ok.mpr hstatusEx⟩
    exact hstatus.imp id List.contains_iff_mem.mpr

theorem validateChildren_eq_ok {status : Option String} :
    validateChildren call owner status = .ok () ↔
      (∀ child ∈ call.children, child.Admitted owner call.mixedPg) ∧
        (call.mixedPg = false → status = some "APPLIED" →
          (call.children.map CisAggregationSnapshot.emissionType).dedup.length = 1) ∧
        (call.mixedPg = true →
          ∃ child ∈ call.children, child.productGroup = some call.leadingPg) := by
  constructor
  · intro h
    obtain ⟨⟨⟩, hchildren, hrest⟩ := bind_eq_ok.mp h
    obtain ⟨⟨⟩, hemission, hleading⟩ := bind_eq_ok.mp hrest
    refine ⟨fun child hchild => ?_, ensure_eq_ok.mp hemission, ensure_eq_ok.mp hleading⟩
    exact validateBoxChild_eq_ok.mp (forM_eq_ok.mp hchildren child hchild)
  · rintro ⟨hchildren, hemission, hleading⟩
    have hloop : call.children.forM (validateBoxChild owner call.mixedPg) = .ok () :=
      forM_eq_ok.mpr fun child hchild => validateBoxChild_eq_ok.mpr (hchildren child hchild)
    refine bind_eq_ok.mpr ⟨(), hloop, ?_⟩
    exact bind_eq_ok.mpr ⟨(), ensure_eq_ok.mpr hemission, ensure_eq_ok.mpr hleading⟩

/-- All children were emitted in one way. -/
theorem emission_iff (hne : call.children ≠ []) :
    (call.children.map CisAggregationSnapshot.emissionType).dedup.length = 1 ↔
      ∃ emission, ∀ child ∈ call.children, child.emissionType = emission := by
  rw [List.length_eq_one_iff]
  exact exists_congr fun emission => dedup_map_eq_singleton hne

/-- The preconditions pass when the children are admitted. -/
theorem validateBoxPreconditions_eq_ok :
    validateBoxPreconditions call = .ok () ↔ call.Admitted := by
  constructor
  · intro h
    obtain ⟨owner, hinn, h⟩ := bind_eq_ok.mp h
    obtain ⟨⟨⟩, hfresh, h⟩ := bind_eq_ok.mp h
    obtain ⟨⟨⟩, hne, h⟩ := bind_eq_ok.mp h
    obtain ⟨status, hstatus, h⟩ := bind_eq_ok.mp h
    obtain ⟨hchildren, hemission, hleading⟩ := validateChildren_eq_ok.mp h
    obtain ⟨rfl, hvalid⟩ := inn_eq_ok.mp hinn
    rw [ensure_eq_ok] at hfresh hne
    rw [Option.isNone_iff_eq_none] at hfresh
    unfold validateStatuses at hstatus
    by_cases hmixed : call.mixedPg = true
    · rw [if_pos hmixed] at hstatus
      obtain ⟨⟨⟩, hloop, -⟩ := Fallible.map_eq_ok.mp hstatus
      have heach : ∀ child ∈ call.children, _ := fun child hchild =>
        validateMixedStatus_eq_ok.mp (forM_eq_ok.mp hloop child hchild)
      exact ⟨hvalid, hfresh, hne, fun child hchild => (heach child hchild).2,
        fun hsingle => absurd hmixed (by simp [hsingle]),
        fun _ child hchild => (heach child hchild).1, hchildren, hleading⟩
    · rw [if_neg hmixed] at hstatus
      rw [Bool.not_eq_true] at hmixed
      obtain ⟨hsupported, hread, hstatusEx⟩ := (validateSingleStatus_eq_ok hne).mp hstatus
      exact ⟨hvalid, hfresh, hne, hstatusEx,
        fun _ => ⟨status, hsupported, hread,
          fun happlied => (emission_iff hne).mp (hemission hmixed happlied)⟩,
        fun htrue => absurd htrue (by simp [hmixed]), hchildren, hleading⟩
  · intro h
    have hparent : call.parent.isNone = true := by simp [h.fresh]
    refine bind_eq_ok.mpr ⟨_, inn_eq_ok.mpr ⟨rfl, h.participant⟩, ?_⟩
    refine bind_eq_ok.mpr ⟨(), ensure_eq_ok.mpr hparent, ?_⟩
    refine bind_eq_ok.mpr ⟨(), ensure_eq_ok.mpr h.nonempty, ?_⟩
    by_cases hmixed : call.mixedPg = true
    · refine bind_eq_ok.mpr ⟨none, ?_, validateChildren_eq_ok.mpr ⟨h.child, ?_, h.leading⟩⟩
      · rw [validateStatuses, if_pos hmixed]
        refine Fallible.map_eq_ok.mpr ⟨(), forM_eq_ok.mpr fun child hchild => ?_, rfl⟩
        exact validateMixedStatus_eq_ok.mpr ⟨h.formed hmixed child hchild, h.statusEx child hchild⟩
      · exact fun _ hnone => absurd hnone (by simp)
    · have hsingle := Bool.not_eq_true _ ▸ hmixed
      obtain ⟨status, hsupported, hread, hemission⟩ := h.oneStatus hsingle
      refine bind_eq_ok.mpr ⟨status, ?_, validateChildren_eq_ok.mpr ⟨h.child, ?_, h.leading⟩⟩
      · rw [validateStatuses, if_neg hmixed]
        exact (validateSingleStatus_eq_ok h.nonempty).mpr ⟨hsupported, hread, h.statusEx⟩
      · exact fun _ happlied => (emission_iff h.nonempty).mpr (hemission happlied)

/-! ## What a box is to take -/

/-- A box of one group takes children of that group with a relation of the table; one of several
groups takes children with a group of their own, one of which is the leading one. -/
structure BoxCall.Lawful (call : BoxCall) : Prop where
  single : call.mixedPg = false → ∀ child ∈ call.children,
    child.productGroup = some call.leadingPg ∧
      ∃ type, child.packageType = some type ∧ type ∈ lpParentChildren .box
  mixed : call.mixedPg = true → (∀ child ∈ call.children, absent child.productGroup = false) ∧
    ∃ child ∈ call.children, child.productGroup = some call.leadingPg

/-- A child of a box of one group stands in the table. -/
theorem CisAggregationSnapshot.Admitted.relation_single (h : item.Admitted owner false) :
    ∃ type, item.packageType = some type ∧ type ∈ lpParentChildren .box := by
  obtain ⟨type, htype, ⟨hmem, -⟩ | ⟨-, hmixed, -⟩⟩ := h.relation
  · exact ⟨type, htype, hmem⟩
  · cases hmixed

/-- What passes is lawful, unless a box of one group is admitted with a child of another group, or
with one whose group was not read. -/
theorem validateBoxPreconditions_lawful_iff (call : BoxCall) :
    (validateBoxPreconditions call = .ok () → call.Lawful) ↔
      (call.mixedPg = false → call.Admitted →
        ∀ child ∈ call.children, child.productGroup = some call.leadingPg) := by
  rw [validateBoxPreconditions_eq_ok]
  constructor
  · intro hlawful hsingle hadmitted child hchild
    exact ((hlawful hadmitted).single hsingle child hchild).1
  · intro hgroups hadmitted
    refine ⟨fun hsingle child hchild => ⟨hgroups hsingle hadmitted child hchild, ?_⟩,
      fun hmixed => ⟨fun child hchild => ?_, hadmitted.leading hmixed⟩⟩
    · have hitem := hadmitted.child child hchild
      rw [hsingle] at hitem
      exact hitem.relation_single
    · exact (hadmitted.child child hchild).explicit hmixed

/-- A box of clothes with one unit of milk. -/
def foreignBox : BoxCall where
  parent := none
  children := [⟨"010123456789012321UNIT-1", some .unit, some "milk", some "INTRODUCED", none,
    some "7701234567", none, none⟩]
  participantInn := "7701234567"

/-- The box of one group is accepted with the unit of another one. -/
theorem foreignBox_accepted :
    validateBoxPreconditions foreignBox = .ok () ∧ foreignBox.mixedPg = false ∧
      ¬ foreignBox.Lawful := by
  refine ⟨by decide +kernel, rfl, fun hlawful => ?_⟩
  have hgroup := (hlawful.single rfl _ List.mem_cons_self).1
  exact absurd hgroup (by decide)

end Wbcz.Aggregation

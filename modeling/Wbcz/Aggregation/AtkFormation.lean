import Wbcz.Aggregation.Fields

/-!
# Reconciling the formation of an ATK

`AggregationReconciliationService.reconcile_atk_formation` of `aggregation.py`. The identifier of an
ATK is not known when its document is submitted: it is discovered in what is read of the children
afterwards.
-/

namespace Wbcz.Aggregation

open Wbcz.Ledgers (AggregationReconciliationResult PackageType ReconciliationState)

/-- The mappings that `reconcile_atk_formation` reads. -/
structure AtkReadback where
  childParents : List (String × Option String)
  parentPackageTypes : List (String × Option String)
  parentChildren : List (String × List String)

namespace AtkReadback

variable (readback : AtkReadback)

/-- `child_parents.get(child)`. -/
def parentOf (child : String) : Option String := (readback.childParents.lookup child).join

/-- `parent_package_types.get(parent)`. -/
def packageTypeOf (parent : String) : Option String :=
  (readback.parentPackageTypes.lookup parent).join

/-- `parent_children.get(parent, ())`. -/
def childrenOf (parent : String) : List String := (readback.parentChildren.lookup parent).getD []

end AtkReadback

/-- Two lists have the same elements: `set(a) == set(b)`. -/
abbrev SameSet (a b : List String) : Prop := a ⊆ b ∧ b ⊆ a

/-- `reconcile_atk_formation`. -/
def reconcileAtkFormation (documentStatusRaw : Option String) (submittedChildren : List String)
    (readback : AtkReadback) : AggregationReconciliationResult :=
  if documentStatusRaw ≠ some "CHECKED_OK" then ⟨.pending, "DOCUMENT_NOT_CONFIRMED_SUCCESS", none⟩
  else
    -- a child without a parent adds nothing to the set
    match (submittedChildren.filterMap readback.parentOf).dedup with
    | [parent] =>
      if readback.packageTypeOf parent ≠ some PackageType.atk.value then
        ⟨.manualReview, "DISCOVERED_PARENT_NOT_ATK", none⟩
      else if ¬ SameSet (readback.childrenOf parent) submittedChildren then
        ⟨.manualReview, "ATK_RELATION_MISMATCH", some parent⟩
      else ⟨.reconciled, "ATK_PARENT_DISCOVERED_AND_RELATION_CONFIRMED", some parent⟩
    | _ => ⟨.manualReview, "ATK_PARENT_DISCOVERY_AMBIGUOUS", none⟩

/-- The parents that were read are this one, which is an ATK of exactly the submitted children. -/
structure AtkReadback.Consistent (readback : AtkReadback) (submittedChildren : List String)
    (parent : String) : Prop where
  read : ∃ child ∈ submittedChildren, readback.parentOf child = some parent
  only : ∀ child ∈ submittedChildren, ∀ other, readback.parentOf child = some other → other = parent
  atk : readback.packageTypeOf parent = some PackageType.atk.value
  children : SameSet (readback.childrenOf parent) submittedChildren

/-- Every submitted child is read in this parent, an ATK of exactly the submitted children. -/
structure AtkReadback.Confirms (readback : AtkReadback) (submittedChildren : List String)
    (parent : String) : Prop where
  read : ∀ child ∈ submittedChildren, readback.parentOf child = some parent
  atk : readback.packageTypeOf parent = some PackageType.atk.value
  children : SameSet (readback.childrenOf parent) submittedChildren

variable {documentStatusRaw : Option String} {submittedChildren : List String}
  {readback : AtkReadback} {parent : String}

theorem discovered_iff : (submittedChildren.filterMap readback.parentOf).dedup = [parent] ↔
    (∃ child ∈ submittedChildren, readback.parentOf child = some parent) ∧
      ∀ child ∈ submittedChildren, ∀ other,
        readback.parentOf child = some other → other = parent := by
  rw [dedup_eq_singleton, List.mem_filterMap]
  refine and_congr_right fun _ => ⟨fun h child hchild other hother => ?_, fun h other hother => ?_⟩
  · exact h other (List.mem_filterMap.mpr ⟨child, hchild, hother⟩)
  · obtain ⟨child, hchild, hread⟩ := List.mem_filterMap.mp hother
    exact h child hchild other hread

/-- A formation counts as reconciled when what was read is consistent with one ATK. -/
theorem reconcileAtkFormation_reconciled_iff :
    let result := reconcileAtkFormation documentStatusRaw submittedChildren readback
    result.state = .reconciled ∧ result.discoveredParentCis = some parent ↔
      documentStatusRaw = some "CHECKED_OK" ∧ readback.Consistent submittedChildren parent := by
  dsimp only
  constructor
  · rintro ⟨hstate, hparent⟩
    unfold reconcileAtkFormation at hstate hparent
    by_cases hstatus : documentStatusRaw = some "CHECKED_OK"
    · rw [if_neg (not_not.mpr hstatus)] at hstate hparent
      split at hstate
      case h_1 found hfound =>
        rw [hfound] at hparent
        dsimp only at hparent
        by_cases hatk : readback.packageTypeOf found = some PackageType.atk.value
        · rw [if_neg (not_not.mpr hatk)] at hstate hparent
          by_cases hchildren : SameSet (readback.childrenOf found) submittedChildren
          · rw [if_neg (not_not.mpr hchildren)] at hparent
            obtain rfl := Option.some.inj hparent
            obtain ⟨hread, honly⟩ := discovered_iff.mp hfound
            exact ⟨hstatus, hread, honly, hatk, hchildren⟩
          · rw [if_pos hchildren] at hstate
            cases hstate
        · rw [if_pos hatk] at hstate
          cases hstate
      case h_2 => cases hstate
    · rw [if_pos hstatus] at hstate
      cases hstate
  · rintro ⟨rfl, hread, honly, hatk, hchildren⟩
    have hfound := discovered_iff.mpr ⟨hread, honly⟩
    simp [reconcileAtkFormation, hfound, hatk, hchildren]

/-- A reconciled formation names the parent that was discovered. -/
theorem exists_discovered
    (h : (reconcileAtkFormation documentStatusRaw submittedChildren readback).state =
      .reconciled) :
    ∃ parent, (reconcileAtkFormation documentStatusRaw submittedChildren
      readback).discoveredParentCis = some parent := by
  revert h
  unfold reconcileAtkFormation
  split
  · simp
  · split
    · split
      · simp
      · split <;> simp
    · simp

/-- What is consistent with an ATK confirms it when every child was read in some parent. -/
theorem AtkReadback.Consistent.confirms_iff (h : readback.Consistent submittedChildren parent) :
    readback.Confirms submittedChildren parent ↔
      ∀ child ∈ submittedChildren, readback.parentOf child ≠ none := by
  constructor
  · intro hconfirms child hchild
    simp [hconfirms.read child hchild]
  · intro hsome
    refine ⟨fun child hchild => ?_, h.atk, h.children⟩
    obtain ⟨other, hother⟩ := Option.ne_none_iff_exists'.mp (hsome child hchild)
    rw [hother, h.only child hchild other hother]

/-- A reconciled formation is confirmed by its readback, unless the readback is consistent with one
ATK and leaves a submitted child without a parent. -/
theorem reconcileAtkFormation_sound_iff (documentStatusRaw : Option String)
    (submittedChildren : List String) (readback : AtkReadback) :
    let result := reconcileAtkFormation documentStatusRaw submittedChildren readback
    (result.state = .reconciled →
        ∃ parent, result.discoveredParentCis = some parent ∧
          readback.Confirms submittedChildren parent) ↔
      ∀ parent, documentStatusRaw = some "CHECKED_OK" →
        readback.Consistent submittedChildren parent →
          ∀ child ∈ submittedChildren, readback.parentOf child ≠ none := by
  dsimp only
  constructor
  · intro hsound parent hstatus hconsistent
    obtain ⟨hstate, hparent⟩ := reconcileAtkFormation_reconciled_iff.mpr ⟨hstatus, hconsistent⟩
    obtain ⟨found, hfound, hconfirms⟩ := hsound hstate
    obtain rfl := Option.some.inj (hparent.symm.trans hfound)
    exact hconsistent.confirms_iff.mp hconfirms
  · intro hread hstate
    obtain ⟨parent, hparent⟩ := exists_discovered hstate
    obtain ⟨hstatus, hconsistent⟩ :=
      reconcileAtkFormation_reconciled_iff.mp ⟨hstate, hparent⟩
    exact ⟨parent, hparent, hconsistent.confirms_iff.mpr (hread parent hstatus hconsistent)⟩

/-- Two children of an ATK, of which only the first was read itself. -/
def halfRead : AtkReadback where
  childParents := [("010123456789012321UNIT-1", some "010123456789012321ATK-01"),
    ("010123456789012321UNIT-2", none)]
  parentPackageTypes := [("010123456789012321ATK-01", some "ATK")]
  parentChildren := [("010123456789012321ATK-01",
    ["010123456789012321UNIT-1", "010123456789012321UNIT-2"])]

/-- The formation is reconciled, and the second child has no parent. -/
theorem halfRead_reconciled :
    let submitted := ["010123456789012321UNIT-1", "010123456789012321UNIT-2"]
    (reconcileAtkFormation (some "CHECKED_OK") submitted halfRead).state = .reconciled ∧
      ¬ ∃ parent, halfRead.Confirms submitted parent := by
  refine ⟨by decide +kernel, ?_⟩
  rintro ⟨parent, hconfirms⟩
  have hread := hconfirms.read "010123456789012321UNIT-2" (by simp)
  have hnone : halfRead.parentOf "010123456789012321UNIT-2" = none := by decide +kernel
  rw [hnone] at hread
  cases hread

end Wbcz.Aggregation

import Wbcz.Aggregation.Fields
import Wbcz.Lib.Unfolding

/-!
# The tree of an aggregate

`build_aggregate_tree` of `aggregation.py` walks from a code down to the codes that are packed in
it, as deep as a limit allows, and says whether the tree that it has built is complete. It keeps the
codes on its way, so that it does not go around in a circle, and the edges it has seen, so that it
takes none of them twice.
-/

namespace Wbcz.Aggregation

open Fallible (bind_eq_ok)
open Unfolding (Tree IsUnfolding Reached)
open Wbcz.Ledgers (PackageType)

/-- `AggregateTreeNode`: its key is the code, and its value the package type as it was read. -/
abbrev AggregateTreeNode := Tree String (Option String)

/-- `AggregateTreeResult`. -/
structure AggregateTreeResult where
  root : AggregateTreeNode
  complete : Bool
  truncated : Bool
  warnings : List String

/-- What the caller reads codes with. -/
structure AggregateReader where
  directChildren : String → List String
  packageTypeOf : String → Option String

/-- The package type is one of those that are known. -/
def isKnownType (packageRaw : Option String) : Bool :=
  PackageType.all.any fun type => packageRaw = some type.value

/-- What the calls of `walk` share. -/
structure WalkState where
  visiting : List String := []
  seenEdges : List (String × String) := []
  warnings : List String := []
  truncated : Bool := false
  incomplete : Bool := false

/-- A warning after which the tree is not complete. -/
def WalkState.warn (s : WalkState) (warning : String) : WalkState :=
  { s with warnings := s.warnings ++ [warning], incomplete := true }

/-- Edges that were seen. -/
def WalkState.see (s : WalkState) (edges : List (String × String)) : WalkState :=
  { s with seenEdges := s.seenEdges ++ edges }

/-- The loop over the children of a code. -/
def walkChildren (visit : String → WalkState → AggregateTreeNode × WalkState) (cis : String) :
    List String → WalkState → List AggregateTreeNode × WalkState
  | [], s => ([], s)
  | child :: rest, s =>
    if s.seenEdges.contains (cis, child) then
      walkChildren visit cis rest (s.warn "DUPLICATE_EDGE_DROPPED")
    else
      let node := visit child (s.see [(cis, child)])
      let nodes := walkChildren visit cis rest node.2
      (node.1 :: nodes.1, nodes.2)

/-- The package type of a code is looked at before anything else. -/
def WalkState.checkType (s : WalkState) (packageRaw : Option String) : WalkState :=
  if isKnownType packageRaw then s
  else s.warn ("UNKNOWN_RAW_PACKAGE_TYPE:" ++ packageRaw.getD "None")

/-- `walk`. The number is that of the levels that the limit leaves: it is zero where
`depth > safety_max_depth`. -/
def walk (reader : AggregateReader) : ℕ → String → WalkState → AggregateTreeNode × WalkState
  | 0, cis, s =>
    let packageRaw := reader.packageTypeOf cis
    let s := (s.checkType packageRaw).warn "INTERNAL_SAFETY_LIMIT"
    (.node cis packageRaw [], { s with truncated := true })
  | levels + 1, cis, s =>
    let packageRaw := reader.packageTypeOf cis
    let s := s.checkType packageRaw
    if cis ∈ s.visiting then (.node cis packageRaw [], s.warn "CYCLE_DETECTED")
    else
      let nodes := walkChildren (walk reader levels) cis (reader.directChildren cis)
        { s with visiting := cis :: s.visiting }
      (.node cis packageRaw nodes.1, { nodes.2 with visiting := nodes.2.visiting.erase cis })

/-- `build_aggregate_tree`. -/
def buildAggregateTree (reader : AggregateReader) (rootCis : String) (safetyMaxDepth : ℤ) :
    Except PyError AggregateTreeResult := do
  let root ← code rootCis "root_cis"
  let walked := walk reader (safetyMaxDepth + 1).toNat root {}
  pure ⟨walked.1, !walked.2.incomplete && !walked.2.truncated, walked.2.truncated,
    walked.2.warnings⟩

variable {reader : AggregateReader} {levels : ℕ} {cis : String} {s s' : WalkState}
  {t : AggregateTreeNode} {trees : List AggregateTreeNode}

@[simp] theorem seenEdges_see (s : WalkState) (edges : List (String × String)) :
    (s.see edges).seenEdges = s.seenEdges ++ edges := rfl

theorem see_see (s : WalkState) (edges more : List (String × String)) :
    (s.see edges).see more = s.see (edges ++ more) := by
  simp [WalkState.see]

@[simp] theorem incomplete_warn (s : WalkState) (warning : String) :
    (s.warn warning).incomplete = true := rfl

theorem checkType_known {packageRaw : Option String} (h : isKnownType packageRaw = true) :
    s.checkType packageRaw = s := by
  rw [WalkState.checkType, if_pos h]

/-- A package type that is let through leaves the state as it was. -/
theorem checkType_complete {packageRaw : Option String}
    (h : (s.checkType packageRaw).incomplete = false) :
    isKnownType packageRaw = true ∧ s.checkType packageRaw = s := by
  by_cases hknown : isKnownType packageRaw = true
  · exact ⟨hknown, checkType_known hknown⟩
  · rw [WalkState.checkType, if_neg hknown] at h
    cases h

/-! ## A walk that is not incomplete -/

/-- The unfolding of what a reader reads. -/
abbrev AggregateReader.Unfolds (reader : AggregateReader) : AggregateTreeNode → Prop :=
  IsUnfolding reader.directChildren reader.packageTypeOf

/-- What a walk has done that is not incomplete at its end. -/
structure Walked (reader : AggregateReader) (levels : ℕ) (cis : String) (s : WalkState)
    (t : AggregateTreeNode) (s' : WalkState) : Prop where
  before : s.incomplete = false
  visiting : s'.visiting = s.visiting
  key : t.key = cis
  unfolds : reader.Unfolds t
  height : t.height < levels
  known : ∀ k ∈ t.keys, isKnownType (reader.packageTypeOf k) = true
  seenEdges : s'.seenEdges = s.seenEdges ++ t.edges
  nodup : s.seenEdges.Nodup → s'.seenEdges.Nodup

/-- What a loop over children has done that is not incomplete at its end. -/
structure WalkedAll (reader : AggregateReader) (levels : ℕ) (cis : String) (children : List String)
    (s : WalkState) (trees : List AggregateTreeNode) (s' : WalkState) : Prop where
  before : s.incomplete = false
  visiting : s'.visiting = s.visiting
  keys : trees.map Tree.key = children
  unfolds : ∀ t ∈ trees, reader.Unfolds t
  height : ∀ t ∈ trees, t.height < levels
  known : ∀ t ∈ trees, ∀ k ∈ t.keys, isKnownType (reader.packageTypeOf k) = true
  seenEdges : s'.seenEdges = s.seenEdges ++ Tree.edgesAll cis trees
  nodup : s.seenEdges.Nodup → s'.seenEdges.Nodup

theorem walkedAll_children {visit : String → WalkState → AggregateTreeNode × WalkState}
    (hvisit : ∀ child s, (visit child s).2.incomplete = false →
      Walked reader levels child s (visit child s).1 (visit child s).2)
    {children : List String} (h : (walkChildren visit cis children s).2.incomplete = false) :
    WalkedAll reader levels cis children s (walkChildren visit cis children s).1
      (walkChildren visit cis children s).2 := by
  induction children generalizing s with
  | nil =>
    rw [walkChildren] at h ⊢
    exact ⟨h, rfl, rfl, by simp, by simp, by simp, by simp [Tree.edgesAll], id⟩
  | cons child rest ih =>
    rw [walkChildren] at h ⊢
    by_cases hedge : s.seenEdges.contains (cis, child) = true
    · rw [if_pos hedge] at h
      exact absurd (ih h).before (by simp)
    · rw [if_neg hedge] at h ⊢
      have hrest := ih h
      have hfirst := hvisit child _ hrest.before
      refine ⟨hfirst.before, hrest.visiting.trans hfirst.visiting, ?_, ?_, ?_, ?_, ?_, ?_⟩
      · rw [List.map_cons, hfirst.key, hrest.keys]
      · exact List.forall_mem_cons.mpr ⟨hfirst.unfolds, hrest.unfolds⟩
      · exact List.forall_mem_cons.mpr ⟨hfirst.height, hrest.height⟩
      · exact List.forall_mem_cons.mpr ⟨hfirst.known, hrest.known⟩
      · rw [hrest.seenEdges, hfirst.seenEdges, Tree.edgesAll, hfirst.key]
        simp
      · intro hnodup
        refine hrest.nodup (hfirst.nodup ?_)
        rw [List.contains_iff_mem] at hedge
        exact List.nodup_append.mpr ⟨hnodup, List.nodup_singleton _, by
          rintro e he f hf rfl
          exact hedge (List.mem_singleton.mp hf ▸ he)⟩

/-- A walk that is not incomplete has unfolded the relation, and has taken no edge twice. -/
theorem walked (h : (walk reader levels cis s).2.incomplete = false) :
    Walked reader levels cis s (walk reader levels cis s).1 (walk reader levels cis s).2 := by
  induction levels generalizing cis s with
  | zero => cases h
  | succ levels ih =>
    rw [walk] at h ⊢
    dsimp only at h ⊢
    by_cases hcycle : cis ∈ (s.checkType (reader.packageTypeOf cis)).visiting
    · rw [if_pos hcycle] at h
      cases h
    · rw [if_neg hcycle] at h ⊢
      have hall := walkedAll_children (fun _ _ hcomplete => ih hcomplete) h
      obtain ⟨hknown, hsame⟩ := checkType_complete hall.before
      rw [hsame] at hall ⊢
      refine ⟨hall.before, ?_, rfl, .node hall.keys hall.unfolds, ?_, ?_, hall.seenEdges,
        hall.nodup⟩
      · change List.erase _ _ = _
        rw [hall.visiting]
        exact List.erase_cons_head _ _
      · rw [Unfolding.Tree.height, Nat.lt_succ_iff, Tree.heightAll_le]
        exact hall.height
      · intro k hk
        rw [Tree.keys, List.mem_cons] at hk
        rcases hk with rfl | hk
        · exact hknown
        · obtain ⟨t, ht, hk⟩ := Tree.mem_keysAll.mp hk
          exact hall.known t ht k hk

/-! ## An unfolding that is walked -/

theorem walkChildren_of_trees {visit : String → WalkState → AggregateTreeNode × WalkState}
    {visiting : List String}
    (hvisit : ∀ t ∈ trees, ∀ s : WalkState, (s.seenEdges ++ t.edges).Nodup →
      s.visiting = visiting → visit t.key s = (t, s.see t.edges))
    (hnodup : (s.seenEdges ++ Tree.edgesAll cis trees).Nodup) (hvisiting : s.visiting = visiting) :
    walkChildren visit cis (trees.map Tree.key) s =
      (trees, s.see (Tree.edgesAll cis trees)) := by
  induction trees generalizing s with
  | nil => simp [walkChildren, Tree.edgesAll, WalkState.see]
  | cons t trees ih =>
    obtain ⟨ht, htrees⟩ := List.forall_mem_cons.mp hvisit
    have hsplit : Tree.edgesAll cis (t :: trees) =
        [(cis, t.key)] ++ t.edges ++ Tree.edgesAll cis trees := by
      simp [Tree.edgesAll]
    rw [hsplit, ← List.append_assoc, ← List.append_assoc] at hnodup
    have hfirst := hnodup.of_append_left
    have hedge : ¬s.seenEdges.contains (cis, t.key) = true := by
      rw [List.contains_iff_mem]
      intro hmem
      have hpair := List.nodup_append.mp hfirst.of_append_left
      exact hpair.2.2 _ hmem _ List.mem_cons_self rfl
    rw [List.map_cons, walkChildren, if_neg hedge]
    dsimp only
    have hrest := ih (s := s.see ([(cis, t.key)] ++ t.edges)) htrees
      (by rwa [seenEdges_see, ← List.append_assoc]) hvisiting
    rw [ht (s.see _) hfirst hvisiting, see_see, hrest, see_see, hsplit]

/-- An unfolding that repeats no edge is what the walk builds. -/
theorem walk_of_unfolding (h : reader.Unfolds t) (hheight : t.height < levels)
    (hknown : ∀ k ∈ t.keys, isKnownType (reader.packageTypeOf k) = true)
    (hnodup : (s.seenEdges ++ t.edges).Nodup) (hvisiting : ∀ k ∈ t.keys, k ∉ s.visiting) :
    walk reader levels t.key s = (t, s.see t.edges) := by
  induction h generalizing levels s with
  | @node cis trees hkeys htrees ih =>
    have hwhole : reader.Unfolds (.node cis (reader.packageTypeOf cis) trees) := .node hkeys htrees
    obtain ⟨levels, rfl⟩ := Nat.exists_eq_succ_of_ne_zero (Nat.ne_zero_of_lt hheight)
    rw [Unfolding.Tree.height, Nat.lt_succ_iff, Tree.heightAll_le] at hheight
    rw [Tree.keys, List.forall_mem_cons] at hknown hvisiting
    have hchildren : ∀ t ∈ trees, ∀ u : WalkState, (u.seenEdges ++ t.edges).Nodup →
        u.visiting = cis :: s.visiting →
        walk reader levels t.key u = (t, u.see t.edges) := by
      intro t ht u hu hvisited
      have hmem : ∀ k ∈ t.keys, k ∈ Tree.keysAll trees := fun k hk =>
        Tree.mem_keysAll.mpr ⟨t, ht, hk⟩
      refine ih t ht (hheight t ht) (fun k hk => hknown.2 k (hmem k hk)) hu fun k hk => ?_
      rw [hvisited, List.mem_cons, not_or]
      refine ⟨?_, hvisiting.2 k (hmem k hk)⟩
      -- a code below itself would be reached from itself
      rintro rfl
      obtain ⟨n, hn⟩ := (htrees t ht).mem_keys.mp hk
      have hchild : t.key ∈ reader.directChildren k := hkeys ▸ List.mem_map_of_mem ht
      exact hwhole.not_reached_self (Tree.key_mem_keys _) (hn.head hchild)
    rw [Tree.key, walk]
    dsimp only
    have hall : walkChildren (walk reader levels) cis (trees.map Tree.key)
        { s with visiting := cis :: s.visiting } =
        (trees, WalkState.see { s with visiting := cis :: s.visiting } (Tree.edgesAll cis trees)) :=
      walkChildren_of_trees hchildren hnodup rfl
    rw [checkType_known hknown.1, if_neg hvisiting.1, ← hkeys, hall]
    simp [Tree.edges, WalkState.see]

/-! ## Complete trees -/

/-- No way down from a code is longer than the limit, every code on it has a known type and lists no
child twice, and a code that is not empty is packed in one of them at most. -/
structure AggregateReader.Clean (reader : AggregateReader) (rootCis : String) (limit : ℤ) : Prop where
  depth : ∀ n c, Reached reader.directChildren rootCis n c → (n : ℤ) ≤ limit
  known : ∀ n c, Reached reader.directChildren rootCis n c →
    isKnownType (reader.packageTypeOf c) = true
  nodup : ∀ n c, Reached reader.directChildren rootCis n c → (reader.directChildren c).Nodup
  parent : ∀ m n a b c, Reached reader.directChildren rootCis m a →
    Reached reader.directChildren rootCis n b → c ∈ reader.directChildren a →
    c ∈ reader.directChildren b → reader.directChildren c ≠ [] → a = b

/-- A code that is empty is packed in two codes. -/
def AggregateReader.SharedLeaf (reader : AggregateReader) (rootCis : String) : Prop :=
  ∃ m n a b c, Reached reader.directChildren rootCis m a ∧
    Reached reader.directChildren rootCis n b ∧ a ≠ b ∧ c ∈ reader.directChildren a ∧
    c ∈ reader.directChildren b ∧ reader.directChildren c = []

/-- What a complete tree is to be: the unfolding of the relation, with every code once and of a
known type, and no deeper than the limit. -/
structure Faithful (reader : AggregateReader) (rootCis : String) (limit : ℤ)
    (root : AggregateTreeNode) : Prop where
  key : root.key = rootCis
  unfolds : reader.Unfolds root
  nodup : root.keys.Nodup
  known : ∀ c ∈ root.keys, isKnownType (reader.packageTypeOf c) = true
  depth : (root.height : ℤ) ≤ limit

section Complete

variable {rootCis : String} {limit : ℤ} {result : AggregateTreeResult}

/-- The unfolding of a clean relation repeats no edge, and is not too deep. -/
theorem exists_tree_iff : reader.Clean rootCis limit ↔ ∃ t : AggregateTreeNode, t.key = rootCis ∧
    reader.Unfolds t ∧ t.height < (limit + 1).toNat ∧
    (∀ k ∈ t.keys, isKnownType (reader.packageTypeOf k) = true) ∧ t.edges.Nodup := by
  constructor
  · intro h
    have hlimit : 0 ≤ limit := h.depth 0 rootCis .root
    have hexists : ∃ t : AggregateTreeNode, t.key = rootCis ∧ t.height ≤ limit.toNat ∧
        reader.Unfolds t :=
      Unfolding.exists_unfolding fun n c hreached => by
        have := h.depth n c hreached
        omega
    obtain ⟨t, rfl, hheight, ht⟩ := hexists
    refine ⟨t, rfl, ht, by omega, fun k hk => ?_, ?_⟩
    · obtain ⟨n, hn⟩ := ht.mem_keys.mp hk
      exact h.known n k hn
    · refine ht.nodup_edges_iff.mpr ⟨fun a ha => ?_, fun a ha b hb c hac hbc hinner => ?_⟩
      · obtain ⟨n, hn⟩ := ht.mem_keys.mp ha
        exact h.nodup n a hn
      · obtain ⟨m, hm⟩ := ht.mem_keys.mp ha
        obtain ⟨n, hn⟩ := ht.mem_keys.mp hb
        exact h.parent m n a b c hm hn hac hbc hinner
  · rintro ⟨t, rfl, ht, hheight, hknown, hedges⟩
    obtain ⟨hnodup, hunique⟩ := ht.nodup_edges_iff.mp hedges
    refine ⟨fun n c hreached => ?_, fun n c hreached => ?_, fun n c hreached => ?_, ?_⟩
    · have := ht.le_height hreached
      omega
    · exact hknown c (ht.mem_keys.mpr ⟨n, hreached⟩)
    · exact hnodup c (ht.mem_keys.mpr ⟨n, hreached⟩)
    · intro m n a b c ha hb hac hbc hinner
      exact hunique a (ht.mem_keys.mpr ⟨m, ha⟩) b (ht.mem_keys.mpr ⟨n, hb⟩) c hac hbc hinner

/-- A tree is never truncated without being incomplete. -/
theorem truncated_incomplete (h : s.truncated = true → s.incomplete = true) :
    (walk reader levels cis s).2.truncated = true → (walk reader levels cis s).2.incomplete = true := by
  have htype : ∀ (s : WalkState) packageRaw, (s.truncated = true → s.incomplete = true) →
      (s.checkType packageRaw).truncated = true → (s.checkType packageRaw).incomplete = true := by
    intro s packageRaw h
    unfold WalkState.checkType
    split
    · exact h
    · exact fun _ => rfl
  induction levels generalizing cis s with
  | zero => exact fun _ => rfl
  | succ levels ih =>
    have hall : ∀ (children : List String) (s : WalkState),
        (s.truncated = true → s.incomplete = true) →
        (walkChildren (walk reader levels) cis children s).2.truncated = true →
        (walkChildren (walk reader levels) cis children s).2.incomplete = true := by
      intro children
      induction children with
      | nil => exact fun s h => h
      | cons child rest ihrest =>
        intro s h
        rw [walkChildren]
        split
        · exact ihrest _ fun _ => rfl
        · exact ihrest _ (ih (s := s.see [(cis, child)]) h)
    rw [walk]
    dsimp only
    split
    · exact fun _ => rfl
    · exact hall _ { s.checkType (reader.packageTypeOf cis) with
        visiting := cis :: (s.checkType (reader.packageTypeOf cis)).visiting } (htype s _ h)

theorem buildAggregateTree_eq_ok (h : buildAggregateTree reader rootCis limit = .ok result) :
    result.root = (walk reader (limit + 1).toNat rootCis {}).1 ∧
      (result.complete = true ↔ (walk reader (limit + 1).toNat rootCis {}).2.incomplete = false) := by
  obtain ⟨root, hroot, hresult⟩ := bind_eq_ok.mp h
  obtain ⟨rfl, -⟩ := code_eq_ok.mp hroot
  obtain rfl := Except.ok.inj hresult
  refine ⟨rfl, ?_⟩
  have htruncated : (walk reader (limit + 1).toNat root {}).2.truncated = true →
      (walk reader (limit + 1).toNat root {}).2.incomplete = true :=
    truncated_incomplete (by simp)
  dsimp only
  rw [Bool.and_eq_true, Bool.not_eq_true', Bool.not_eq_true']
  constructor
  · exact And.left
  · intro hincomplete
    refine ⟨hincomplete, ?_⟩
    by_contra htrue
    rw [htruncated (by simpa using htrue)] at hincomplete
    cases hincomplete

/-- A tree is complete when the relation is clean, and then it is the unfolding. -/
theorem complete_iff (h : buildAggregateTree reader rootCis limit = .ok result) :
    (result.complete = true ↔ reader.Clean rootCis limit) ∧
      (result.complete = true → result.root.key = rootCis ∧ reader.Unfolds result.root ∧
        result.root.height < (limit + 1).toNat ∧
        (∀ k ∈ result.root.keys, isKnownType (reader.packageTypeOf k) = true) ∧
        result.root.edges.Nodup) := by
  obtain ⟨hroot, hcomplete⟩ := buildAggregateTree_eq_ok h
  have hfacts : result.complete = true → result.root.key = rootCis ∧ reader.Unfolds result.root ∧
      result.root.height < (limit + 1).toNat ∧
      (∀ k ∈ result.root.keys, isKnownType (reader.packageTypeOf k) = true) ∧
      result.root.edges.Nodup := by
    intro htrue
    have hwalked := walked (hcomplete.mp htrue)
    rw [← hroot] at hwalked
    refine ⟨hwalked.key, hwalked.unfolds, hwalked.height, hwalked.known, ?_⟩
    have hnodup := hwalked.nodup List.nodup_nil
    rwa [hwalked.seenEdges, List.nil_append] at hnodup
  refine ⟨⟨fun htrue => exists_tree_iff.mpr ⟨result.root, hfacts htrue⟩, fun hclean => ?_⟩, hfacts⟩
  obtain ⟨t, rfl, ht, hheight, hknown, hedges⟩ := exists_tree_iff.mp hclean
  rw [hcomplete, walk_of_unfolding ht hheight hknown (by simpa using hedges) (by simp)]
  rfl

/-- A box with two boxes, and one unit that is said to be in both of them. -/
def twiceBoxed : AggregateReader where
  directChildren cis :=
    if cis = "010123456789012321PARENT1" then ["010123456789012321BOX-A", "010123456789012321BOX-B"]
    else if cis = "010123456789012321BOX-A" ∨ cis = "010123456789012321BOX-B" then
      ["010123456789012321UNIT-1"]
    else []
  packageTypeOf cis := some (if cis = "010123456789012321UNIT-1" then "UNIT" else "BOX")

end Complete

end Wbcz.Aggregation

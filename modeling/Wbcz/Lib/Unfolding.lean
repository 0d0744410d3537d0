import Mathlib.Data.List.Count
import Mathlib.Data.List.Nodup

/-!
# Unfoldings of child relations

The unfolding of a child relation from a key is the tree in which the children of every node are the
children of its key, in their order. A key that is reached in two ways occurs twice in it, and where
keys are reached over arbitrarily long ways there is none.

## Main results

* `IsUnfolding.count_edges` — an edge occurs once for every occurrence of its parent
* `IsUnfolding.nodup_edges_iff` — when no edge occurs twice
* `IsUnfolding.nodup_keys_iff` — when no key occurs twice
* `exists_unfolding` — a relation of bounded depth has an unfolding
-/

namespace Unfolding

/-- A finite tree whose nodes have a key and a value. -/
inductive Tree (κ ν : Type) where
  | node (key : κ) (value : ν) (children : List (Tree κ ν))

namespace Tree

variable {κ ν : Type}

def key : Tree κ ν → κ
  | node key _ _ => key

mutual

/-- The keys of the nodes, from the root to the leaves and from left to right. -/
def keys : Tree κ ν → List κ
  | node key _ children => key :: keysAll children

def keysAll : List (Tree κ ν) → List κ
  | [] => []
  | t :: ts => keys t ++ keysAll ts

end

mutual

/-- The edges from parents to children, in the same order. -/
def edges : Tree κ ν → List (κ × κ)
  | node key _ children => edgesAll key children

def edgesAll (parent : κ) : List (Tree κ ν) → List (κ × κ)
  | [] => []
  | t :: ts => (parent, t.key) :: (edges t ++ edgesAll parent ts)

end

mutual

/-- How many edges the longest way down has. -/
def height : Tree κ ν → ℕ
  | node _ _ children => heightAll children

def heightAll : List (Tree κ ν) → ℕ
  | [] => 0
  | t :: ts => max (height t + 1) (heightAll ts)

end

mutual

/-- Every key but that of the root stands at the end of an edge. -/
theorem keys_eq (t : Tree κ ν) : t.keys = t.key :: t.edges.map Prod.snd := by
  cases t with
  | node key value children => rw [keys, edges, keysAll_eq key children, Tree.key]

theorem keysAll_eq (parent : κ) (ts : List (Tree κ ν)) :
    keysAll ts = (edgesAll parent ts).map Prod.snd := by
  cases ts with
  | nil => rfl
  | cons t ts =>
    rw [keysAll, edgesAll, List.map_cons, List.map_append, keys_eq t, keysAll_eq parent ts,
      List.cons_append]

end

theorem mem_keysAll {ts : List (Tree κ ν)} {k : κ} : k ∈ keysAll ts ↔ ∃ t ∈ ts, k ∈ t.keys := by
  induction ts with
  | nil => simp [keysAll]
  | cons t ts ih => simp [keysAll, ih]

theorem heightAll_le {ts : List (Tree κ ν)} {n : ℕ} :
    heightAll ts ≤ n ↔ ∀ t ∈ ts, t.height + 1 ≤ n := by
  induction ts with
  | nil => simp [heightAll]
  | cons t ts ih => rw [heightAll, Nat.max_le, ih, List.forall_mem_cons]

theorem key_mem_keys (t : Tree κ ν) : t.key ∈ t.keys := by
  rw [keys_eq]
  exact List.mem_cons_self

end Tree

/-! ## Reached keys -/

section Reached

variable {κ : Type} {children : κ → List κ} {a b c : κ} {m n : ℕ}

/-- A key is reached in so many steps from a parent to a child. -/
inductive Reached (children : κ → List κ) (root : κ) : ℕ → κ → Prop
  | root : Reached children root 0 root
  | step {n : ℕ} {parent child : κ} (hparent : Reached children root n parent)
      (hchild : child ∈ children parent) : Reached children root (n + 1) child

theorem Reached.trans (hab : Reached children a m b) (hbc : Reached children b n c) :
    Reached children a (m + n) c := by
  induction hbc with
  | root => exact hab
  | step _ hchild ih => exact .step ih hchild

theorem Reached.head (hb : b ∈ children a) (h : Reached children b n c) :
    Reached children a (n + 1) c := by
  rw [Nat.add_comm]
  exact Reached.trans (.step .root hb) h

/-- The first step leads to a child of the root. -/
theorem Reached.cases_head (h : Reached children a (n + 1) c) :
    ∃ b ∈ children a, Reached children b n c := by
  induction n generalizing c with
  | zero =>
    cases h with
    | step hparent hchild =>
      cases hparent
      exact ⟨c, hchild, .root⟩
  | succ n ih =>
    cases h with
    | step hparent hchild =>
      obtain ⟨b, hb, hreached⟩ := ih hparent
      exact ⟨b, hb, .step hreached hchild⟩

/-- A way back to where it began can be gone again and again. -/
theorem Reached.repeat (h : Reached children a n a) (k : ℕ) : Reached children a (n * k) a := by
  induction k with
  | zero => exact .root
  | succ k ih => exact ih.trans h

end Reached

/-! ## Unfoldings -/

/-- The children of every node are the children of its key, in their order. -/
inductive IsUnfolding {κ ν : Type} (children : κ → List κ) (value : κ → ν) : Tree κ ν → Prop
  | node {key : κ} {trees : List (Tree κ ν)} (hkeys : trees.map Tree.key = children key)
      (htrees : ∀ t ∈ trees, IsUnfolding children value t) :
      IsUnfolding children value (.node key (value key) trees)

namespace IsUnfolding

variable {κ ν : Type} [DecidableEq κ] {children : κ → List κ} {value : κ → ν} {t : Tree κ ν}
  {a b c : κ} {n : ℕ}

theorem count_edgesAll {parent : κ} {trees : List (Tree κ ν)}
    (h : ∀ t ∈ trees, t.edges.count (a, b) = t.keys.count a * (children a).count b) :
    (Tree.edgesAll parent trees).count (a, b) =
      (if parent = a then (trees.map Tree.key).count b else 0) +
        (Tree.keysAll trees).count a * (children a).count b := by
  induction trees with
  | nil => simp [Tree.edgesAll, Tree.keysAll]
  | cons t trees ih =>
    obtain ⟨ht, htrees⟩ := List.forall_mem_cons.mp h
    rw [Tree.edgesAll, Tree.keysAll, List.count_cons, List.count_append, List.count_append, ht,
      ih htrees, List.map_cons, List.count_cons, Nat.add_mul]
    by_cases hparent : parent = a
    · by_cases hkey : t.key = b
      · simp only [hparent, hkey, beq_self_eq_true, if_true]
        omega
      · simp only [hparent, hkey, Prod.mk.injEq, and_false, beq_iff_eq, if_true, if_false]
        omega
    · simp only [hparent, Prod.mk.injEq, false_and, beq_iff_eq, if_false]
      omega

/-- An edge occurs once for every occurrence of its parent, and of the child among its children. -/
theorem count_edges (h : IsUnfolding children value t) (a b : κ) :
    t.edges.count (a, b) = t.keys.count a * (children a).count b := by
  induction h with
  | @node key trees hkeys _ ih =>
    rw [Tree.edges, Tree.keys, count_edgesAll ih, hkeys, List.count_cons, Nat.add_mul]
    by_cases hkey : key = a
    · simp only [hkey, if_true, beq_self_eq_true]
      omega
    · simp only [hkey, if_false, beq_iff_eq]
      omega

theorem mem_edges (h : IsUnfolding children value t) :
    (a, b) ∈ t.edges ↔ a ∈ t.keys ∧ b ∈ children a := by
  rw [← List.count_pos_iff, h.count_edges, Nat.pos_iff_ne_zero, Nat.mul_ne_zero_iff,
    ← Nat.pos_iff_ne_zero, ← Nat.pos_iff_ne_zero, List.count_pos_iff, List.count_pos_iff]

/-- The keys of the tree are those that are reached from its root. -/
theorem mem_keys (h : IsUnfolding children value t) :
    c ∈ t.keys ↔ ∃ n, Reached children t.key n c := by
  constructor
  · intro hc
    induction h with
    | @node key trees hkeys htrees ih =>
      rw [Tree.keys, List.mem_cons] at hc
      rcases hc with rfl | hc
      · exact ⟨0, .root⟩
      · obtain ⟨t, ht, hc⟩ := Tree.mem_keysAll.mp hc
        obtain ⟨n, hn⟩ := ih t ht hc
        have hchild : t.key ∈ children key := hkeys ▸ List.mem_map_of_mem ht
        exact ⟨n + 1, hn.head hchild⟩
  · rintro ⟨n, hn⟩
    induction hn with
    | root => exact t.key_mem_keys
    | step _ hchild ih =>
      rw [Tree.keys_eq]
      exact List.mem_cons_of_mem _ (List.mem_map_of_mem (h.mem_edges.mpr ⟨ih, hchild⟩))

omit [DecidableEq κ] in
/-- No way down is longer than the tree is high. -/
theorem le_height (h : IsUnfolding children value t) (hreached : Reached children t.key n c) :
    n ≤ t.height := by
  induction h generalizing n with
  | @node key trees hkeys _ ih =>
    cases n with
    | zero => exact Nat.zero_le _
    | succ n =>
      obtain ⟨b, hb, hreached⟩ := hreached.cases_head
      rw [Tree.key, ← hkeys] at hb
      obtain ⟨t, ht, rfl⟩ := List.mem_map.mp hb
      have hle := ih t ht hreached
      have hall := (Tree.heightAll_le (n := Tree.heightAll trees)).mp (Nat.le_refl _) t ht
      rw [Tree.height]
      omega

/-- No way leads from a key of the tree back to it. -/
theorem not_reached_self (h : IsUnfolding children value t) (hc : c ∈ t.keys) :
    ¬ Reached children c (n + 1) c := by
  intro hcycle
  obtain ⟨m, hm⟩ := h.mem_keys.mp hc
  have hle := h.le_height (hm.trans (hcycle.repeat (t.height + 1)))
  have hlt : t.height + 1 ≤ (n + 1) * (t.height + 1) := Nat.le_mul_of_pos_left _ n.succ_pos
  omega

/-- Inner keys, which have children, have one parent among the reached keys. -/
def InnerUnique (children : κ → List κ) (keys : List κ) : Prop :=
  ∀ a ∈ keys, ∀ b ∈ keys, ∀ c ∈ children a, c ∈ children b → children c ≠ [] → a = b

/-- A key occurs as often as edges end in it, and once more at the root. -/
theorem count_keys (t : Tree κ ν) (c : κ) :
    t.keys.count c = (if t.key = c then 1 else 0) + t.edges.countP fun e => decide (e.2 = c) := by
  have hends : (t.edges.map Prod.snd).count c = t.edges.countP fun e => decide (e.2 = c) := by
    rw [List.count, List.countP_map]
    refine List.countP_congr fun e _ => ?_
    simp
  rw [Tree.keys_eq, List.count_cons, hends, Nat.add_comm]
  simp only [beq_iff_eq]

/-- Where one parent leads to a key, it occurs as often as the edge from that parent. -/
theorem count_keys_of_parent {parent : κ} (hroot : t.key ≠ c)
    (hparent : ∀ e ∈ t.edges, e.2 = c → e.1 = parent) :
    t.keys.count c = t.edges.count (parent, c) := by
  rw [count_keys, if_neg hroot, Nat.zero_add, List.count]
  refine List.countP_congr fun e he => ?_
  simp only [decide_eq_true_eq, beq_iff_eq]
  constructor
  · intro hend
    exact Prod.ext (hparent e he hend) hend
  · rintro rfl
    rfl

/-- Inner keys with one parent occur once. -/
theorem count_keys_le_one (h : IsUnfolding children value t)
    (hnodup : ∀ a ∈ t.keys, (children a).Nodup) (hunique : InnerUnique children t.keys)
    (hc : c ∈ t.keys) (hinner : children c ≠ []) : t.keys.count c ≤ 1 := by
  obtain ⟨n, hn⟩ := h.mem_keys.mp hc
  induction n generalizing c with
  | zero =>
    cases hn
    have hnone : (t.edges.countP fun e => decide (e.2 = t.key)) = 0 := by
      refine List.countP_eq_zero.mpr ?_
      rintro ⟨parent, child⟩ he hend
      obtain rfl := of_decide_eq_true hend
      obtain ⟨hparent, hchild⟩ := h.mem_edges.mp he
      obtain ⟨m, hm⟩ := h.mem_keys.mp hparent
      exact h.not_reached_self hc (.step hm hchild)
    have hone : t.keys.count t.key = 1 := by rw [count_keys, if_pos rfl, hnone]
    exact Nat.le_of_eq hone
  | succ n ih =>
    have hroot : t.key ≠ c := by
      rintro rfl
      exact h.not_reached_self hc hn
    cases hn with
    | @step _ parent _ hreached hchild =>
      have hparent : parent ∈ t.keys := h.mem_keys.mpr ⟨n, hreached⟩
      have hone : t.keys.count parent ≤ 1 := ih hparent (List.ne_nil_of_mem hchild) hreached
      have hsame : ∀ e ∈ t.edges, e.2 = c → e.1 = parent := by
        rintro ⟨other, child⟩ he rfl
        obtain ⟨hother, hmem⟩ := h.mem_edges.mp he
        exact hunique other hother parent hparent _ hmem hchild hinner
      rw [count_keys_of_parent hroot hsame, h.count_edges]
      have hlist := List.nodup_iff_count_le_one.mp (hnodup parent hparent) c
      exact Nat.mul_le_mul hone hlist

/-- No edge occurs twice when no children are listed twice and inner keys have one parent. -/
theorem nodup_edges_iff (h : IsUnfolding children value t) :
    t.edges.Nodup ↔ (∀ a ∈ t.keys, (children a).Nodup) ∧ InnerUnique children t.keys := by
  constructor
  · intro hedges
    have hone : ∀ a b, t.keys.count a * (children a).count b ≤ 1 := fun a b => by
      rw [← h.count_edges]
      exact List.nodup_iff_count_le_one.mp hedges (a, b)
    refine ⟨fun a ha => List.nodup_iff_count_le_one.mpr fun b => ?_, ?_⟩
    · have hpos := List.count_pos_iff.mpr ha
      exact Nat.le_trans (Nat.le_mul_of_pos_left _ hpos) (hone a b)
    · intro a ha b hb c hac hbc hinner
      -- the key occurs behind both parents, and so does the first of its own children
      by_contra hne
      obtain ⟨d, ds, hds⟩ := List.exists_cons_of_ne_nil hinner
      have htwo : 2 ≤ t.keys.count c := by
        rw [count_keys]
        refine Nat.le_add_left_of_le ?_
        have hpair : [(a, c), (b, c)].Subperm t.edges := by
          refine List.subperm_of_subset (by simpa using hne) ?_
          simp [h.mem_edges, ha, hb, hac, hbc]
        have hcount := hpair.countP_le fun e => decide (e.2 = c)
        simpa using hcount
      have hd : 0 < (children c).count d := List.count_pos_iff.mpr (hds ▸ List.mem_cons_self)
      have := hone c d
      have hle : t.keys.count c ≤ t.keys.count c * (children c).count d :=
        Nat.le_mul_of_pos_right _ hd
      omega
  · rintro ⟨hnodup, hunique⟩
    rw [List.nodup_iff_count_le_one]
    rintro ⟨a, b⟩
    rw [h.count_edges]
    by_cases hmem : a ∈ t.keys ∧ b ∈ children a
    · have hone := h.count_keys_le_one hnodup hunique hmem.1 (List.ne_nil_of_mem hmem.2)
      have hlist := List.nodup_iff_count_le_one.mp (hnodup a hmem.1) b
      exact Nat.mul_le_mul hone hlist
    · rw [not_and_or] at hmem
      rcases hmem with ha | hb
      · simp [List.count_eq_zero_of_not_mem ha]
      · simp [List.count_eq_zero_of_not_mem hb]

/-- Where no edge occurs twice, no key does when no key without children has two parents. -/
theorem nodup_keys_iff (h : IsUnfolding children value t) (hedges : t.edges.Nodup) :
    t.keys.Nodup ↔
      ∀ a ∈ t.keys, ∀ b ∈ t.keys, ∀ c ∈ children a, c ∈ children b → children c = [] → a = b := by
  rw [Tree.keys_eq, List.nodup_cons, List.nodup_map_iff_inj_on hedges, ← Tree.keys_eq]
  constructor
  · rintro ⟨-, hinj⟩ a ha b hb c hac hbc -
    have heq := hinj (a, c) (h.mem_edges.mpr ⟨ha, hac⟩) (b, c) (h.mem_edges.mpr ⟨hb, hbc⟩) rfl
    exact congrArg Prod.fst heq
  · intro hleaf
    constructor
    · intro hroot
      obtain ⟨⟨parent, child⟩, he, hend⟩ := List.mem_map.mp hroot
      obtain ⟨hparent, hchild⟩ := h.mem_edges.mp he
      obtain ⟨m, hm⟩ := h.mem_keys.mp hparent
      rw [show child = t.key from hend] at hchild
      exact h.not_reached_self t.key_mem_keys (.step hm hchild)
    · rintro ⟨a, c⟩ hac ⟨b, d⟩ hbd hend
      obtain rfl : c = d := hend
      obtain ⟨ha, hac⟩ := h.mem_edges.mp hac
      obtain ⟨hb, hbc⟩ := h.mem_edges.mp hbd
      by_cases hinner : children c = []
      · rw [hleaf a ha b hb c hac hbc hinner]
      · rw [(h.nodup_edges_iff.mp hedges).2 a ha b hb c hac hbc hinner]

end IsUnfolding

/-! ## Relations of bounded depth -/

section Bounded

variable {κ ν : Type} {children : κ → List κ} {value : κ → ν}

theorem exists_trees {keys : List κ} {n : ℕ}
    (h : ∀ k ∈ keys, ∃ t : Tree κ ν, t.key = k ∧ t.height ≤ n ∧ IsUnfolding children value t) :
    ∃ trees : List (Tree κ ν), trees.map Tree.key = keys ∧
      ∀ t ∈ trees, t.height ≤ n ∧ IsUnfolding children value t := by
  induction keys with
  | nil => exact ⟨[], rfl, by simp⟩
  | cons k keys ih =>
    obtain ⟨hk, hkeys⟩ := List.forall_mem_cons.mp h
    obtain ⟨t, rfl, ht⟩ := hk
    obtain ⟨trees, rfl, htrees⟩ := ih hkeys
    exact ⟨t :: trees, rfl, List.forall_mem_cons.mpr ⟨ht, htrees⟩⟩

/-- A relation of bounded depth has an unfolding. -/
theorem exists_unfolding {root : κ} {n : ℕ} (h : ∀ m c, Reached children root m c → m ≤ n) :
    ∃ t : Tree κ ν, t.key = root ∧ t.height ≤ n ∧ IsUnfolding children value t := by
  induction n generalizing root with
  | zero =>
    have hnil : children root = [] := by
      by_contra hne
      obtain ⟨c, hc⟩ := List.exists_mem_of_ne_nil _ hne
      exact absurd (h 1 c (.step .root hc)) (by decide)
    exact ⟨.node root (value root) [], rfl, Nat.le_refl _, .node (by simp [hnil]) (by simp)⟩
  | succ n ih =>
    have hall : ∀ k ∈ children root, ∃ t : Tree κ ν,
        t.key = k ∧ t.height ≤ n ∧ IsUnfolding children value t := fun k hk =>
      ih fun m c hreached => Nat.le_of_succ_le_succ (h _ c (hreached.head hk))
    obtain ⟨trees, hkeys, htrees⟩ := exists_trees hall
    refine ⟨.node root (value root) trees, rfl, ?_, .node hkeys fun t ht => (htrees t ht).2⟩
    rw [Tree.height, Tree.heightAll_le]
    exact fun t ht => Nat.succ_le_succ (htrees t ht).1

end Bounded

end Unfolding

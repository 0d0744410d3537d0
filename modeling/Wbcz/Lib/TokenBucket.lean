import Mathlib.Algebra.Order.Field.Basic
import Mathlib.Data.List.Basic
import Mathlib.Tactic.Linarith
import Mathlib.Tactic.Ring

/-!
# Token buckets

A bucket that is refilled at a steady rate up to its burst. Requests take tokens from it when there
are enough; charges take them anyway, and may leave it in debt.
-/

/-- The tokens of a bucket, as they were at a moment. -/
@[ext]
structure TokenBucket (K : Type) where
  tokens : K
  updatedAt : K

namespace TokenBucket

variable {K : Type} [Field K] [LinearOrder K]

/-- How a bucket is refilled. -/
structure Flow (K : Type) where
  burst : K
  rate : K

/-- The tokens at a moment. A bucket that was never asked is full. -/
def level (flow : Flow K) : Option (TokenBucket K) → K → K
  | none, _ => flow.burst
  | some bucket, now =>
    min flow.burst (bucket.tokens + max 0 (now - bucket.updatedAt) * flow.rate)

/-- A request that takes tokens when there are enough, or a charge that takes them anyway. -/
inductive Move (K : Type) where
  | take (now weight : K)
  | charge (now weight : K)

def Move.now : Move K → K
  | take now _ => now
  | charge now _ => now

def Move.weight : Move K → K
  | take _ weight => weight
  | charge _ weight => weight

/-- The bucket after a move. -/
def step (flow : Flow K) (bucket : Option (TokenBucket K)) : Move K → Option (TokenBucket K)
  | .take now weight =>
    if weight ≤ level flow bucket now then some ⟨level flow bucket now - weight, now⟩
    else some ⟨level flow bucket now, now⟩
  | .charge now weight => some ⟨level flow bucket now - weight, now⟩

def run (flow : Flow K) (bucket : Option (TokenBucket K)) (moves : List (Move K)) :
    Option (TokenBucket K) :=
  moves.foldl (step flow) bucket

/-- An admitted request, or a charge. -/
inductive Spending (K : Type) where
  | admitted (weight : K)
  | charged (weight : K)
  deriving DecidableEq, Repr

/-- What a move spends. -/
def spending (flow : Flow K) (bucket : Option (TokenBucket K)) : Move K → Option (Spending K)
  | .take now weight => if weight ≤ level flow bucket now then some (.admitted weight) else none
  | .charge _ weight => some (.charged weight)

/-- The weight of what a move spends. -/
def cost : Option (Spending K) → K
  | none => 0
  | some (.admitted weight) => weight
  | some (.charged weight) => weight

/-- What moves spend, one after another. -/
def spendings (flow : Flow K) : Option (TokenBucket K) → List (Move K) → List (Spending K)
  | _, [] => []
  | bucket, move :: rest =>
    (spending flow bucket move).toList ++ spendings flow (step flow bucket move) rest

/-- The weight that was admitted. -/
def admitted : List (Spending K) → K
  | [] => 0
  | .admitted weight :: rest => weight + admitted rest
  | .charged _ :: rest => admitted rest

/-- There is an admission. -/
def hasAdmission : List (Spending K) → Bool
  | [] => false
  | .admitted _ :: _ => true
  | .charged _ :: rest => hasAdmission rest

/-- The weight of the charges before the last admission. -/
def charged : List (Spending K) → K
  | [] => 0
  | .admitted _ :: rest => charged rest
  | .charged weight :: rest => (if hasAdmission rest then weight else 0) + charged rest

section Level

variable {flow : Flow K} {bucket : Option (TokenBucket K)} {now later : K}

theorem level_le_burst : level flow bucket now ≤ flow.burst := by
  cases bucket with
  | none => exact le_refl _
  | some bucket => exact min_le_left _ _

/-- A bucket that was never asked, or one that was asked before. -/
def AskedBy (bucket : Option (TokenBucket K)) (now : K) : Prop :=
  ∀ asked ∈ bucket, asked.updatedAt ≤ now

/-- A bucket at the moment it was asked. -/
theorem level_self {tokens : K} (h : tokens ≤ flow.burst) :
    level flow (some ⟨tokens, now⟩) now = tokens := by
  simp [level, h]

variable [IsStrictOrderedRing K]

/-- Tokens come at the rate, at most. -/
theorem level_le (hrate : 0 ≤ flow.rate) (hasked : AskedBy bucket now) (hlater : now ≤ later) :
    level flow bucket later ≤ level flow bucket now + (later - now) * flow.rate := by
  have hgain : 0 ≤ (later - now) * flow.rate := mul_nonneg (sub_nonneg.mpr hlater) hrate
  cases bucket with
  | none => exact le_add_of_nonneg_right hgain
  | some asked =>
    have hnow : asked.updatedAt ≤ now := hasked asked rfl
    simp only [level, max_eq_right (sub_nonneg.mpr hnow),
      max_eq_right (sub_nonneg.mpr (hnow.trans hlater))]
    have hsplit : asked.tokens + (later - asked.updatedAt) * flow.rate =
        asked.tokens + (now - asked.updatedAt) * flow.rate + (later - now) * flow.rate := by ring
    rw [hsplit, ← min_add_add_right]
    exact min_le_min_right _ (le_add_of_nonneg_right hgain)

/-- What was missing has come after as long as it takes, and not before. -/
theorem le_level_iff {tokens weight : K} (hrate : 0 < flow.rate) (hmissing : tokens < weight)
    (hburst : weight ≤ flow.burst) :
    weight ≤ level flow (some ⟨tokens, now⟩) later ↔
      now + (weight - tokens) / flow.rate ≤ later := by
  have hwait : 0 < (weight - tokens) / flow.rate := div_pos (sub_pos.mpr hmissing) hrate
  rw [level, le_min_iff, and_iff_right hburst, ← sub_le_iff_le_add', ← div_le_iff₀ hrate,
    le_max_iff, or_iff_right (not_le.mpr hwait), le_sub_iff_add_le']

end Level

section Run

variable {flow : Flow K} {bucket : Option (TokenBucket K)} {move : Move K}
  {moves : List (Move K)} {start finish : K}

theorem step_askedBy : AskedBy (step flow bucket move) move.now := by
  intro asked hasked
  cases move with
  | take now weight =>
    simp only [step] at hasked
    split at hasked <;> obtain rfl := Option.some.inj hasked <;> exact le_refl _
  | charge now weight =>
    obtain rfl := Option.some.inj hasked
    exact le_refl _

theorem run_askedBy {now : K} (hasked : AskedBy bucket now)
    (hmoves : ∀ move ∈ moves, move.now ≤ now) : AskedBy (run flow bucket moves) now := by
  induction moves generalizing bucket with
  | nil => exact hasked
  | cons move moves ih =>
    obtain ⟨hmove, hrest⟩ := List.forall_mem_cons.mp hmoves
    exact ih (fun asked hmem => (step_askedBy asked hmem).trans hmove) hrest

theorem le_level_of_admitted {weight : K}
    (h : spending flow bucket move = some (.admitted weight)) :
    weight ≤ level flow bucket move.now := by
  cases move with
  | take now asked =>
    simp only [spending] at h
    split at h
    case isTrue henough =>
      obtain rfl := Spending.admitted.inj (Option.some.inj h)
      exact henough
    case isFalse => cases h
  | charge now asked => cases h

omit [LinearOrder K] in
/-- Without an admission nothing counts. -/
theorem admitted_add_charged_eq_zero {spent : List (Spending K)} (h : hasAdmission spent = false) :
    admitted spent + charged spent = 0 := by
  induction spent with
  | nil => simp [admitted, charged]
  | cons first rest ih =>
    cases first with
    | admitted weight => cases h
    | charged weight =>
      have hrest : hasAdmission rest = false := h
      simp only [admitted, charged, hrest, Bool.false_eq_true, if_false, zero_add]
      exact ih hrest

variable [IsStrictOrderedRing K]

/-- What a move spends is gone right after it. -/
theorem level_step (hweight : 0 ≤ move.weight) :
    level flow (step flow bucket move) move.now =
      level flow bucket move.now - cost (spending flow bucket move) := by
  have hle : level flow bucket move.now ≤ flow.burst := level_le_burst
  have hless : level flow bucket move.now - move.weight ≤ flow.burst := by linarith
  cases move with
  | take now weight =>
    simp only [step, spending, Move.now]
    split
    · exact level_self hless
    · exact (level_self hle).trans (sub_zero _).symm
  | charge now weight => exact level_self hless

/-- Moves in the order of their moments, from one moment to another. -/
def Within (start finish : K) (moves : List (Move K)) : Prop :=
  moves.Pairwise (fun move later => move.now ≤ later.now) ∧
    ∀ move ∈ moves, start ≤ move.now ∧ move.now ≤ finish

/-- Up to its last admission, an interval spends no more than there was at its start and what came
since. -/
theorem admitted_add_charged_le_level (hrate : 0 ≤ flow.rate)
    (hweights : ∀ move ∈ moves, 0 ≤ move.weight) (hasked : AskedBy bucket start)
    (hwithin : Within start finish moves)
    (hsome : hasAdmission (spendings flow bucket moves) = true) :
    admitted (spendings flow bucket moves) + charged (spendings flow bucket moves) ≤
      level flow bucket start + (finish - start) * flow.rate := by
  induction moves generalizing bucket start with
  | nil => cases hsome
  | cons move rest ih =>
    obtain ⟨hsorted, hmoments⟩ := hwithin
    rw [List.pairwise_cons] at hsorted
    obtain ⟨hstart, hfinish⟩ := hmoments move List.mem_cons_self
    have hweight := hweights move List.mem_cons_self
    have hbefore := level_le hrate hasked hstart
    have hafter : level flow (step flow bucket move) move.now =
        level flow bucket move.now - cost (spending flow bucket move) := level_step hweight
    have hgain : 0 ≤ (finish - move.now) * flow.rate :=
      mul_nonneg (sub_nonneg.mpr hfinish) hrate
    have hsplit : (finish - start) * flow.rate =
        (move.now - start) * flow.rate + (finish - move.now) * flow.rate := by ring
    have hrest : hasAdmission (spendings flow (step flow bucket move) rest) = true →
        admitted (spendings flow (step flow bucket move) rest) +
            charged (spendings flow (step flow bucket move) rest) ≤
          level flow (step flow bucket move) move.now + (finish - move.now) * flow.rate :=
      ih (fun other hother => hweights other (List.mem_cons_of_mem _ hother)) step_askedBy
        ⟨hsorted.2, fun other hother =>
          ⟨hsorted.1 other hother, (hmoments other (List.mem_cons_of_mem _ hother)).2⟩⟩
    rw [spendings] at hsome ⊢
    cases hspent : spending flow bucket move with
    | none =>
      rw [hspent] at hsome hafter
      have hle := hrest hsome
      simp only [cost, Option.toList_none, List.nil_append] at hafter ⊢
      linarith
    | some spent =>
      cases spent with
      | admitted weight =>
        have henough := le_level_of_admitted hspent
        rw [hspent] at hafter
        simp only [cost, Option.toList_some, List.singleton_append, admitted, charged] at hafter ⊢
        by_cases hmore : hasAdmission (spendings flow (step flow bucket move) rest) = true
        · have hle := hrest hmore
          linarith
        · have hzero := admitted_add_charged_eq_zero (Bool.eq_false_iff.mpr hmore)
          linarith
      | charged weight =>
        rw [hspent] at hsome hafter
        have hmore : hasAdmission (spendings flow (step flow bucket move) rest) = true := hsome
        have hle := hrest hmore
        simp only [cost, Option.toList_some, List.singleton_append, admitted, charged, hmore,
          if_true] at hafter ⊢
        linarith

/-- What an interval admits, with the charges before the last admission, is at most what the burst
and the rate allow without the debt of its start. -/
theorem admitted_add_charged_le (hburst : 0 ≤ flow.burst) (hrate : 0 ≤ flow.rate)
    (hweights : ∀ move ∈ moves, 0 ≤ move.weight) (hasked : AskedBy bucket start)
    (hwithin : Within start finish moves)
    (hsome : hasAdmission (spendings flow bucket moves) = true) :
    admitted (spendings flow bucket moves) + charged (spendings flow bucket moves) ≤
      flow.burst + (finish - start) * flow.rate - max 0 (- level flow bucket start) := by
  have hle := admitted_add_charged_le_level hrate hweights hasked hwithin hsome
  have hlevel : level flow bucket start ≤ flow.burst := level_le_burst
  rcases max_cases 0 (- level flow bucket start) with ⟨hdebt, -⟩ | ⟨hdebt, -⟩ <;>
    rw [hdebt] <;> linarith

end Run

end TokenBucket

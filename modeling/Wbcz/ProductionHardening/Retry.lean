import Mathlib.Algebra.Order.Field.Rat
import Mathlib.Order.WithBot
import Mathlib.Tactic.NormNum
import Wbcz.Lib.Text
import Wbcz.Reports.Retry

/-!
# Delays before a retry

`retry_decision` of `wbcz_web/services/production_hardening.py` with all that it is given: the
header `Retry-After`, the clock, the deadline of the operation and the source of random numbers.
Times are microseconds, seconds are exact numbers, and an infinite delay is `⊤`. How Python reads a
number and a date of a mail is a parameter.
-/

namespace Wbcz.ProductionHardening

open Reports (RetryClassification retryPolicy)

/-- A `float`. -/
inductive PyFloat where
  | nan
  | inf (negative : Bool)
  | finite (q : ℚ)
  deriving DecidableEq

/-- `max(0.0, x)`. -/
def PyFloat.orZero : PyFloat → WithTop ℚ
  | nan => 0
  | inf true => 0
  | inf false => ⊤
  | finite q => ↑(max 0 q)

/-- What Python reads of the text of a header. -/
structure HeaderReader where
  /-- `float(raw)`, where it does not raise `ValueError` -/
  float : String → Option PyFloat
  /-- `parsedate_to_datetime(raw)`, where it does not raise, as a time in UTC -/
  date : String → Option ℤ

/-- `timedelta.total_seconds`. -/
def totalSeconds (microseconds : ℤ) : ℚ := microseconds / 1000000

/-- `base_seconds` of a rule. The base of 0.1 is the nearest number that a `float` can be. -/
def baseSeconds : RetryClassification → ℚ
  | .rateLimited | .remote429 | .remote5xx | .networkTimeoutPreSend | .agentOffline => 2
  | .storageTransient => 1
  | .databaseTransient => 3602879701896397 / 36028797018963968
  | .deterministicFailure | .authFailure | .permissionFailure | .validationFailure
  | .contractBlocked | .ambiguousAfterSend | .agentProtocolError | .unknownRemoteError => 0

/-- `cap_seconds` of a rule. -/
def capSeconds : RetryClassification → ℚ
  | .rateLimited | .remote429 | .remote5xx | .networkTimeoutPreSend | .agentOffline => 120
  | .storageTransient => 30
  | .databaseTransient => 2
  | .deterministicFailure | .authFailure | .permissionFailure | .validationFailure
  | .contractBlocked | .ambiguousAfterSend | .agentProtocolError | .unknownRemoteError => 0

structure RetryDecision where
  retry : Bool
  delaySeconds : WithTop ℚ
  consumesSemanticAttempt : Bool
  classification : RetryClassification
  terminalReason : Option String := none

/-- A failure, with what `retry_decision` is given of it. The clock is read where `now` is left
out. -/
structure Failure where
  classification : RetryClassification
  retryAfter : Option String
  now : Option ℤ
  operationDeadline : Option ℤ
  rng : ℚ → ℚ → PyFloat
  clock : ℤ
  headerClock : ℤ

section Decisions

variable (reader : HeaderReader)

/-- `parse_retry_after`. -/
def parseRetryAfter (value : Option String) (now : ℤ) : Option (WithTop ℚ) :=
  match value with
  | none => none
  | some value =>
    let raw := Text.strip value
    if raw = "" then none
    else
      match reader.float raw with
      | some seconds => some seconds.orZero
      | none => (reader.date raw).map fun time => ↑(max 0 (totalSeconds (time - now)))

/-- `full_jitter_delay`. -/
def fullJitterDelay (classification : RetryClassification) (attempt : ℕ) (rng : ℚ → ℚ → PyFloat) :
    WithTop ℚ :=
  if capSeconds classification ≤ 0 ∨ baseSeconds classification ≤ 0 then 0
  else (rng 0 (min (capSeconds classification) (baseSeconds classification * 2 ^ attempt))).orZero

/-- The time of the decision. -/
def Failure.current (failure : Failure) : ℤ := failure.now.getD failure.clock

/-- What `parse_retry_after` reads of the header of a failure. -/
def Failure.parsed (failure : Failure) : Option (WithTop ℚ) :=
  parseRetryAfter reader failure.retryAfter (failure.now.getD failure.headerClock)

/-- The delay before the deadline is looked at: that of the header, or a random one. -/
def Failure.wanted (failure : Failure) (semanticRetryCount : ℕ) : WithTop ℚ :=
  (failure.parsed reader).getD
    (fullJitterDelay failure.classification semanticRetryCount failure.rng)

/-- `retry_decision`. -/
def retryDecision (failure : Failure) (semanticRetryCount : ℕ) : RetryDecision :=
  let classification := failure.classification
  let rule := retryPolicy classification
  if rule.automatic = false then
    ⟨false, 0, rule.consumesSemanticAttempt, classification, some classification.value⟩
  else if rule.consumesSemanticAttempt ∧ rule.maxSemanticAttempts ≤ semanticRetryCount then
    ⟨false, 0, true, classification, some "SEMANTIC_RETRY_LIMIT"⟩
  else
    let delay := failure.wanted reader semanticRetryCount
    match failure.operationDeadline with
    | none => ⟨true, delay, rule.consumesSemanticAttempt, classification, none⟩
    | some deadline =>
      let remaining := max 0 (totalSeconds (deadline - failure.current))
      if remaining ≤ 0 then
        ⟨false, 0, rule.consumesSemanticAttempt, classification, some "OPERATION_MAX_AGE"⟩
      else
        ⟨true, min delay ↑remaining, rule.consumesSemanticAttempt, classification, none⟩

/-- `_handle_failure` and `schedule_retry` count the attempts that retries consume. -/
def RetryDecision.counted (decision : RetryDecision) (semanticRetryCount : ℕ) : ℕ :=
  semanticRetryCount + if decision.retry && decision.consumesSemanticAttempt then 1 else 0

/-- The decisions along a sequence of failures. -/
def retries : ℕ → List Failure → List RetryDecision
  | _, [] => []
  | semanticRetryCount, failure :: failures =>
    let decision := retryDecision reader failure semanticRetryCount
    decision :: retries (decision.counted semanticRetryCount) failures

/-- How many of the decisions grant a retry of a class. -/
def grants (classification : RetryClassification) (decisions : List RetryDecision) : ℕ :=
  decisions.countP fun decision => decision.retry && decision.classification = classification

end Decisions

section Granted

variable {reader : HeaderReader} {failure : Failure} {count : ℕ}

@[simp] theorem retryDecision_classification :
    (retryDecision reader failure count).classification = failure.classification := by
  unfold retryDecision
  dsimp only
  split_ifs
  · rfl
  · rfl
  · split
    · rfl
    · split_ifs <;> rfl

theorem retryDecision_consumes :
    (retryDecision reader failure count).consumesSemanticAttempt =
      (retryPolicy failure.classification).consumesSemanticAttempt := by
  unfold retryDecision
  dsimp only
  split_ifs with _ hlimit
  · rfl
  · exact hlimit.1.symm
  · split
    · rfl
    · split_ifs <;> rfl

/-- What is known when a retry is granted: attempts are left, and the delay is the one wanted, or
what is left until the deadline. -/
theorem retryDecision_spec (h : (retryDecision reader failure count).retry = true) :
    ((retryPolicy failure.classification).consumesSemanticAttempt = true →
      count < (retryPolicy failure.classification).maxSemanticAttempts) ∧
    match failure.operationDeadline with
    | none => (retryDecision reader failure count).delaySeconds = failure.wanted reader count
    | some deadline =>
      0 < totalSeconds (deadline - failure.current) ∧
        (retryDecision reader failure count).delaySeconds =
          min (failure.wanted reader count) ↑(totalSeconds (deadline - failure.current)) := by
  unfold retryDecision at h ⊢
  dsimp only at h ⊢
  split_ifs at h ⊢ with hautomatic hlimit
  have hleft : (retryPolicy failure.classification).consumesSemanticAttempt = true →
      count < (retryPolicy failure.classification).maxSemanticAttempts := by
    intro hconsumes
    by_contra hmany
    exact hlimit ⟨hconsumes, not_lt.mp hmany⟩
  refine ⟨hleft, ?_⟩
  cases hdeadline : failure.operationDeadline with
  | none => rfl
  | some deadline =>
    simp only [hdeadline] at h ⊢
    split_ifs at h ⊢ with hremaining
    have hpos : 0 < totalSeconds (deadline - failure.current) := by
      by_contra hle
      rw [max_eq_left (not_lt.mp hle)] at hremaining
      exact hremaining le_rfl
    rw [max_eq_right hpos.le]
    exact ⟨hpos, rfl⟩

/-- A retry of a class that consumes attempts is granted while attempts are left, and then one less
is left. -/
theorem counted_of_grant (h : (retryDecision reader failure count).retry = true)
    (hconsumes : (retryPolicy failure.classification).consumesSemanticAttempt = true) :
    count < (retryPolicy failure.classification).maxSemanticAttempts ∧
      (retryDecision reader failure count).counted count = count + 1 := by
  refine ⟨(retryDecision_spec h).1 hconsumes, ?_⟩
  rw [RetryDecision.counted, h, retryDecision_consumes, hconsumes]
  rfl

theorem le_counted (decision : RetryDecision) (count : ℕ) : count ≤ decision.counted count :=
  Nat.le_add_right _ _

/-- No more retries are granted to a class than attempts are left to it. -/
theorem grants_le (reader : HeaderReader) {classification : RetryClassification}
    (hconsumes : (retryPolicy classification).consumesSemanticAttempt = true) (count : ℕ)
    (failures : List Failure) :
    grants classification (retries reader count failures) ≤
      (retryPolicy classification).maxSemanticAttempts - count := by
  induction failures generalizing count with
  | nil => exact Nat.zero_le _
  | cons failure failures ih =>
    have hrest := ih ((retryDecision reader failure count).counted count)
    have hcount := le_counted (retryDecision reader failure count) count
    rw [retries, grants, List.countP_cons, ← grants, retryDecision_classification]
    by_cases hgrant : (retryDecision reader failure count).retry = true ∧
        failure.classification = classification
    · -- the retry uses an attempt up
      obtain ⟨hretry, rfl⟩ := hgrant
      obtain ⟨hlt, hcounted⟩ := counted_of_grant hretry hconsumes
      rw [hretry, decide_eq_true rfl]
      rw [hcounted] at hrest ⊢
      simp only [Bool.and_self, if_true]
      omega
    · have hfalse : ((retryDecision reader failure count).retry &&
          decide (failure.classification = classification)) = false := by
        rw [Bool.eq_false_iff]
        intro h
        rw [Bool.and_eq_true, decide_eq_true_eq] at h
        exact hgrant h
      rw [hfalse]
      simp only [Bool.false_eq_true, if_false]
      omega

/-- A delay that begins at the decision is over by a deadline. -/
def EndsBy (current : ℤ) (delay : WithTop ℚ) (deadline : ℤ) : Prop :=
  ↑(totalSeconds current) + delay ≤ ↑(totalSeconds deadline)

theorem endsBy_iff {current deadline : ℤ} {delay : WithTop ℚ} :
    EndsBy current delay deadline ↔ delay ≤ ↑(totalSeconds (deadline - current)) := by
  have hsub : totalSeconds (deadline - current) = totalSeconds deadline - totalSeconds current := by
    rw [totalSeconds, Int.cast_sub, sub_div]
    rfl
  cases delay with
  | top => simp [EndsBy]
  | coe delay =>
    rw [EndsBy, hsub, ← WithTop.coe_add, WithTop.coe_le_coe, WithTop.coe_le_coe, le_sub_iff_add_le']

/-- A reader of headers that are a number of seconds. -/
def digitsReader : HeaderReader where
  float raw :=
    if raw.toList.all Text.isAsciiDigit then
      some (.finite (raw.toList.foldl (fun n c => 10 * n + (c.toNat - 48)) 0 : ℕ))
    else none
  date _ := none

/-- The server asks for 120 seconds, and 30 are left. -/
def lateRetryAfter : Failure where
  classification := .remote429
  retryAfter := some "120"
  now := some 0
  operationDeadline := some 30000000
  rng _ _ := .finite 0
  clock := 0
  headerClock := 0

end Granted

end Wbcz.ProductionHardening

import Mathlib.Algebra.Order.Field.Rat
import Mathlib.Logic.Function.Basic
import Wbcz.Errors
import Wbcz.Lib.Fallible
import Wbcz.Lib.Readings
import Wbcz.Lib.Text
import Wbcz.Lib.TokenBucket

/-!
# The limiter of marketplace requests

`StatefulWbRateLimiter` of `wb_fbs.py`: a token bucket for every scope, token type, environment and
secret reference. A response of class 4xx of the marketplace is charged after the request was
admitted. Clock readings and tokens are rational numbers.
-/

namespace Wbcz.Marketplace.RateLimiter

open Function (update update_of_ne update_self)
open Fallible (bind_eq_ok ensure ensure_eq_ok)

def contractError (message : String) : PyError := ⟨.other "WbContractError", message⟩

inductive WbTokenType where
  | personal
  | test
  | service
  | base
  | baseWithSecret
  deriving DecidableEq, Repr

def WbTokenType.value : WbTokenType → String
  | .personal => "PERSONAL"
  | .test => "TEST"
  | .service => "SERVICE"
  | .base => "BASE"
  | .baseWithSecret => "BASE_WITH_SECRET"

inductive WbEnvironment where
  | production
  | sandbox
  deriving DecidableEq, Repr

def WbEnvironment.value : WbEnvironment → String
  | .production => "PRODUCTION"
  | .sandbox => "SANDBOX"

/-- `RateRule`. -/
structure RateRule where
  periodSeconds : ℕ
  limit : ℕ
  burst : ℕ
  deriving DecidableEq, Repr

/-- `RATE_RULES`. -/
def rateRules : String → WbTokenType → Option RateRule
  | "MARKETPLACE_FBS", .personal | "MARKETPLACE_FBS", .service | "MARKETPLACE_FBS", .base
  | "MARKETPLACE_FBS", .baseWithSecret => some ⟨60, 300, 20⟩
  | "ORDER_FEED", .base => some ⟨10800, 1, 1⟩
  | "ORDER_FEED", .personal | "ORDER_FEED", .service | "ORDER_FEED", .baseWithSecret =>
    some ⟨60, 1, 1⟩
  | "SUPPLIER_SALES", .base => some ⟨7200, 1, 1⟩
  | "SUPPLIER_SALES", .personal | "SUPPLIER_SALES", .service
  | "SUPPLIER_SALES", .baseWithSecret => some ⟨60, 1, 1⟩
  | "GOODS_RETURN", .base => some ⟨3600, 2, 1⟩
  | "GOODS_RETURN", .personal | "GOODS_RETURN", .service | "GOODS_RETURN", .baseWithSecret =>
    some ⟨60, 1, 10⟩
  | "SELLER_INFO", _ => some ⟨60, 1, 10⟩
  | _, _ => none

/-- What a request is limited by. -/
structure RateScope where
  family : String
  tokenType : WbTokenType
  environment : WbEnvironment
  tokenSecretRef : String
  deriving DecidableEq, Repr

/-- `rule`. -/
def rule (scope : RateScope) : Except PyError RateRule :=
  if scope.environment = .sandbox ∧ scope.family = "MARKETPLACE_FBS" then pure ⟨1, 1, 1⟩
  else Fallible.found (rateRules scope.family scope.tokenType)
    (contractError "accepted rate rule unavailable")

/-- `response_weight`. -/
def responseWeight (family : String) (statusCode : ℤ) (environment : WbEnvironment) : ℤ :=
  if environment = .production ∧ family = "MARKETPLACE_FBS" ∧ 400 ≤ statusCode ∧ statusCode ≤ 499
  then 10 else 1

/-- `_scope_key`. -/
def scopeKey (family : String) (environment : WbEnvironment) : String :=
  if environment = .sandbox ∧ family = "MARKETPLACE_FBS" then
    "SANDBOX_MARKETPLACE_GLOBAL_METHOD_FAMILY"
  else family

/-- `_opaque`. -/
def opaqueText (value field : String) : Except PyError String := do
  ensure (value ≠ "" ∧ Text.strip value ≠ "")
    (contractError (field ++ " must be a non-empty opaque string"))
  pure value

/-- A key of `_buckets`. -/
structure BucketKey where
  scope : String
  tokenType : String
  environment : String
  tokenSecretRef : String
  deriving DecidableEq, Repr

/-- `_bucket_key`. -/
def bucketKey (scope : RateScope) : Except PyError BucketKey := do
  let tokenSecretRef ← opaqueText scope.tokenSecretRef "token_secret_ref"
  pure ⟨scopeKey scope.family scope.environment, scope.tokenType.value, scope.environment.value,
    tokenSecretRef⟩

/-- The rule of a request and its bucket. -/
def bucketOf (scope : RateScope) : Except PyError (RateRule × BucketKey) := do
  let rule ← RateLimiter.rule scope
  let key ← bucketKey scope
  pure (rule, key)

/-- `RateLimitDecision`. -/
structure RateLimitDecision where
  allowed : Bool
  retryAfterSeconds : ℚ
  deriving DecidableEq

/-- `_buckets`. -/
abbrev Buckets := BucketKey → Option (TokenBucket ℚ)

def RateRule.refillPerSecond (rule : RateRule) : ℚ := rule.limit / rule.periodSeconds

/-- The tokens of a bucket after it was made, where it was missing, and refilled. -/
def refilled (rule : RateRule) (bucket : Option (TokenBucket ℚ)) (now : ℚ) : ℚ :=
  let bucket := bucket.getD ⟨rule.burst, now⟩
  let elapsed := max 0 (now - bucket.updatedAt)
  min (rule.burst : ℚ) (bucket.tokens + elapsed * rule.refillPerSecond)

/-- `consume`. -/
def consume (buckets : Buckets) (scope : RateScope) (now : ℚ) (weight : ℤ) :
    Except PyError (RateLimitDecision × Buckets) := do
  ensure (0 < weight) (contractError "rate-limit weight must be positive")
  let (rule, key) ← bucketOf scope
  let tokens := refilled rule (buckets key) now
  if weight ≤ tokens then
    pure (⟨true, 0⟩, update buckets key (some ⟨tokens - weight, now⟩))
  else
    pure (⟨false, (weight - tokens) / rule.refillPerSecond⟩,
      update buckets key (some ⟨tokens, now⟩))

/-- `charge_response`. -/
def chargeResponse (buckets : Buckets) (scope : RateScope) (now : ℚ) (statusCode : ℤ) :
    Except PyError (RateLimitDecision × Buckets) := do
  let extraWeight := responseWeight scope.family statusCode scope.environment - 1
  if extraWeight ≤ 0 then pure (⟨true, 0⟩, buckets)
  else do
    let (rule, key) ← bucketOf scope
    let tokens := refilled rule (buckets key) now - extraWeight
    let charged := update buckets key (some ⟨tokens, now⟩)
    if 0 ≤ tokens then pure (⟨true, 0⟩, charged)
    else pure (⟨false, - tokens / rule.refillPerSecond⟩, charged)

/-! ## Runs -/

/-- A call of one of the two operations. -/
inductive Request where
  | consume (scope : RateScope) (now : ℚ) (weight : ℤ)
  | charge (scope : RateScope) (now : ℚ) (statusCode : ℤ)

namespace Request

/-- The clock reading of a request. -/
def now : Request → ℚ
  | consume _ now _ => now
  | charge _ now _ => now

def answer (buckets : Buckets) : Request → Except PyError (RateLimitDecision × Buckets)
  | consume scope now weight => RateLimiter.consume buckets scope now weight
  | charge scope now statusCode => chargeResponse buckets scope now statusCode

/-- What is returned, or raised. -/
def outcome (buckets : Buckets) (request : Request) : Except PyError RateLimitDecision :=
  (request.answer buckets).map Prod.fst

/-- A request that raises changes no bucket. -/
def next (buckets : Buckets) (request : Request) : Buckets :=
  match request.answer buckets with
  | .ok (_, after) => after
  | .error _ => buckets

end Request

/-- `__init__`. -/
def init : Buckets := fun _ => none

/-- The buckets after requests. -/
def after (buckets : Buckets) (requests : List Request) : Buckets :=
  requests.foldl Request.next buckets

/-- Requests with their outcomes. -/
def trace : Buckets → List Request → List (Request × Except PyError RateLimitDecision)
  | _, [] => []
  | buckets, request :: rest =>
    (request, request.outcome buckets) :: trace (request.next buckets) rest

/-! ## Requests as moves of buckets -/

open TokenBucket (Move Spending level)

/-- A rule as the flow of its buckets. -/
def RateRule.flow (rule : RateRule) : TokenBucket.Flow ℚ := ⟨rule.burst, rule.refillPerSecond⟩

/-- The bucket of a request that has one. -/
def keyOf (scope : RateScope) : Option BucketKey := (bucketOf scope).toOption.map Prod.snd

/-- What a 4xx response is charged beyond its request. -/
def extraWeight (scope : RateScope) (statusCode : ℤ) : ℤ :=
  responseWeight scope.family statusCode scope.environment - 1

/-- What a request does to a bucket. -/
def Request.move (key : BucketKey) : Request → Option (Move ℚ)
  | consume scope now weight =>
    if 0 < weight ∧ keyOf scope = some key then some (.take now weight) else none
  | charge scope now statusCode =>
    if 0 < extraWeight scope statusCode ∧ keyOf scope = some key then
      some (.charge now (extraWeight scope statusCode))
    else none

/-- What a request with its outcome spends of a bucket. -/
def spending (key : BucketKey) : Request × Except PyError RateLimitDecision → Option (Spending ℚ)
  | (.consume scope _ weight, .ok ⟨true, _⟩) =>
    if keyOf scope = some key then some (.admitted weight) else none
  | (.charge scope _ statusCode, .ok _) =>
    if 0 < extraWeight scope statusCode ∧ keyOf scope = some key then
      some (.charged (extraWeight scope statusCode))
    else none
  | _ => none

section Step

variable {scope other : RateScope} {rule given : RateRule} {key : BucketKey}
  {buckets : Buckets} {now : ℚ} {weight statusCode : ℤ}

theorem bucketOf_eq_ok : bucketOf scope = .ok (rule, key) ↔
    RateLimiter.rule scope = .ok rule ∧ bucketKey scope = .ok key := by
  simp only [bucketOf, bind_eq_ok, Fallible.pure_eq_ok, Prod.mk.injEq]
  constructor
  · rintro ⟨_, hrule, _, hkey, rfl, rfl⟩
    exact ⟨hrule, hkey⟩
  · rintro ⟨hrule, hkey⟩
    exact ⟨rule, hrule, key, hkey, rfl, rfl⟩

theorem WbTokenType.value_injective : Function.Injective WbTokenType.value := by
  intro a b h
  cases a <;> cases b <;> first | rfl | (exact absurd h (by decide))

theorem WbEnvironment.value_injective : Function.Injective WbEnvironment.value := by
  intro a b h
  cases a <;> cases b <;> first | rfl | (exact absurd h (by decide))

theorem bucketKey_eq_ok : bucketKey scope = .ok key ↔
    key = ⟨scopeKey scope.family scope.environment, scope.tokenType.value, scope.environment.value,
      scope.tokenSecretRef⟩ ∧ scope.tokenSecretRef ≠ "" ∧ Text.strip scope.tokenSecretRef ≠ "" := by
  rw [and_comm]
  simp only [bucketKey, opaqueText, bind_eq_ok, ensure_eq_ok, Fallible.pure_eq_ok, exists_const,
    and_assoc, exists_and_left, exists_eq_left]

/-- No rule is found for the name of the shared sandbox scope. -/
theorem rateRules_sandbox (tokenType : WbTokenType) :
    rateRules "SANDBOX_MARKETPLACE_GLOBAL_METHOD_FAMILY" tokenType = none := by
  cases tokenType <;> rfl

/-- A scope of a shared sandbox bucket is one of the marketplace. -/
theorem family_of_scopeKey {tokenType : WbTokenType} {secretRef family : String}
    (hrule : RateLimiter.rule ⟨family, tokenType, .sandbox, secretRef⟩ = .ok rule)
    (hkey : scopeKey family .sandbox = "SANDBOX_MARKETPLACE_GLOBAL_METHOD_FAMILY") :
    family = "MARKETPLACE_FBS" := by
  by_contra hother
  have hfamily : family = "SANDBOX_MARKETPLACE_GLOBAL_METHOD_FAMILY" := by
    rwa [scopeKey, if_neg (by simp [hother])] at hkey
  rw [RateLimiter.rule, if_neg (by simp [hother]), Fallible.found_eq_ok, hfamily] at hrule
  simp [rateRules_sandbox] at hrule

/-- All requests of one bucket have one rule. -/
theorem rule_unique (h : bucketOf scope = .ok (rule, key))
    (hother : bucketOf other = .ok (given, key)) : given = rule := by
  obtain ⟨hrule, hkey⟩ := bucketOf_eq_ok.mp h
  obtain ⟨hgiven, hsame⟩ := bucketOf_eq_ok.mp hother
  obtain ⟨family, tokenType, environment, secretRef⟩ := scope
  obtain ⟨family', tokenType', environment', secretRef'⟩ := other
  rw [bucketKey_eq_ok] at hkey hsame
  obtain ⟨hscope, htype, henvironment, -⟩ := BucketKey.mk.inj (hkey.1.symm.trans hsame.1)
  obtain rfl := WbTokenType.value_injective htype
  obtain rfl := WbEnvironment.value_injective henvironment
  have hfamily : family = family' := by
    cases environment with
    | production => simpa [scopeKey] using hscope
    | sandbox =>
      by_cases hmarket : family = "MARKETPLACE_FBS"
      · rw [hmarket] at hscope ⊢
        exact (family_of_scopeKey hgiven (hscope.symm.trans rfl)).symm
      · by_cases hmarket' : family' = "MARKETPLACE_FBS"
        · rw [hmarket'] at hscope ⊢
          exact family_of_scopeKey hrule (hscope.trans rfl)
        · simpa [scopeKey, hmarket, hmarket'] using hscope
  subst hfamily
  have hsame : RateLimiter.rule ⟨family, tokenType, environment, secretRef⟩ =
      RateLimiter.rule ⟨family, tokenType, environment, secretRef'⟩ := rfl
  rw [hrule, hgiven] at hsame
  exact (Except.ok.inj hsame).symm

theorem refilled_eq_level (bucket : Option (TokenBucket ℚ)) :
    refilled rule bucket now = level rule.flow bucket now := by
  cases bucket with
  | none => simp [refilled, level, RateRule.flow]
  | some bucket => rfl

theorem keyOf_eq (h : bucketOf scope = .ok (rule, key)) : keyOf scope = some key := by
  rw [keyOf, h]
  rfl

theorem exists_of_keyOf (h : keyOf scope = some key) :
    ∃ rule, bucketOf scope = .ok (rule, key) := by
  unfold keyOf at h
  cases hbucket : bucketOf scope with
  | error e => simp [hbucket, Except.toOption] at h
  | ok found =>
    obtain ⟨rule, given⟩ := found
    rw [hbucket] at h
    obtain rfl := Option.some.inj h
    exact ⟨rule, rfl⟩

/-- A request for tokens: admitted when there are enough, and told how long to wait otherwise. -/
theorem consume_eq (buckets : Buckets) (now : ℚ) (hweight : 0 < weight)
    (h : bucketOf scope = .ok (rule, key)) :
    consume buckets scope now weight = .ok
      (if weight ≤ level rule.flow (buckets key) now then
        (⟨true, 0⟩, update buckets key
          (some ⟨level rule.flow (buckets key) now - weight, now⟩))
      else
        (⟨false, (weight - level rule.flow (buckets key) now) / rule.refillPerSecond⟩,
          update buckets key (some ⟨level rule.flow (buckets key) now, now⟩))) := by
  rw [consume, ensure, if_pos hweight, h]
  change (if _ then _ else _) = _
  rw [refilled_eq_level]
  split <;> rfl

/-- A charge takes the tokens anyway. -/
theorem chargeResponse_eq (buckets : Buckets) (now : ℚ)
    (hextra : 0 < extraWeight scope statusCode) (h : bucketOf scope = .ok (rule, key)) :
    ∃ decision,
      chargeResponse buckets scope now statusCode = .ok (decision, update buckets key
        (some ⟨level rule.flow (buckets key) now - extraWeight scope statusCode, now⟩)) := by
  have hsome : ¬ responseWeight scope.family statusCode scope.environment - 1 ≤ 0 :=
    not_le.mpr hextra
  have htokens : refilled rule (buckets key) now = level rule.flow (buckets key) now :=
    refilled_eq_level _
  by_cases hpaid : 0 ≤ level rule.flow (buckets key) now - (extraWeight scope statusCode : ℚ)
  · refine ⟨⟨true, 0⟩, ?_⟩
    rw [chargeResponse, if_neg hsome, h]
    rw [← htokens] at hpaid ⊢
    exact if_pos hpaid
  · refine ⟨⟨false, - (level rule.flow (buckets key) now - (extraWeight scope statusCode : ℚ)) /
      rule.refillPerSecond⟩, ?_⟩
    rw [chargeResponse, if_neg hsome, h]
    rw [← htokens] at hpaid ⊢
    exact if_neg hpaid

/-- Requests that are no move of any bucket. -/
theorem consume_error (buckets : Buckets) (now : ℚ)
    (h : ¬ (0 < weight ∧ (keyOf scope).isSome = true)) :
    ∃ e, consume buckets scope now weight = .error e := by
  unfold consume
  by_cases hweight : 0 < weight
  · cases hbucket : bucketOf scope with
    | error e => exact ⟨e, by rw [ensure, if_pos hweight]; rfl⟩
    | ok found => exact absurd ⟨hweight, by simp [keyOf, hbucket, Except.toOption]⟩ h
  · exact ⟨_, by rw [ensure, if_neg hweight]; rfl⟩

/-- What a request for tokens does to a bucket, and spends of it. -/
theorem consume_bucket (h : bucketOf scope = .ok (rule, key)) :
    (Request.consume other now weight).next buckets key =
        ((Request.consume other now weight).move key).elim (buckets key)
          (TokenBucket.step rule.flow (buckets key)) ∧
      spending key (.consume other now weight, (Request.consume other now weight).outcome buckets) =
        ((Request.consume other now weight).move key).bind
          (TokenBucket.spending rule.flow (buckets key)) := by
  by_cases hsome : 0 < weight ∧ (keyOf other).isSome = true
  · obtain ⟨hweight, hkey⟩ := hsome
    obtain ⟨given, hkey⟩ := Option.isSome_iff_exists.mp hkey
    obtain ⟨found, hfound⟩ := exists_of_keyOf hkey
    have hanswer := consume_eq buckets now hweight hfound
    by_cases hsame : given = key
    · -- a move of this very bucket
      subst hsame
      obtain rfl := rule_unique h hfound
      have hmove : (Request.consume other now weight).move given = some (.take now weight) :=
        if_pos ⟨hweight, hkey⟩
      rw [hmove, Request.next, Request.outcome, Request.answer, hanswer, Option.elim_some,
        Option.bind_some, TokenBucket.step, TokenBucket.spending]
      by_cases henough : (weight : ℚ) ≤ level found.flow (buckets given) now
      · rw [if_pos henough, if_pos henough, if_pos henough]
        exact ⟨update_self .., if_pos hkey⟩
      · rw [if_neg henough, if_neg henough, if_neg henough]
        exact ⟨update_self .., rfl⟩
    · -- another bucket is asked
      have hother : ¬ keyOf other = some key := by
        rw [hkey, Option.some.injEq]
        exact hsame
      have hmove : (Request.consume other now weight).move key = none :=
        if_neg fun hmoved => hother hmoved.2
      rw [hmove, Request.next, Request.outcome, Request.answer, hanswer]
      by_cases henough : (weight : ℚ) ≤ level found.flow (buckets given) now
      · rw [if_pos henough]
        exact ⟨update_of_ne (Ne.symm hsame) .., if_neg hother⟩
      · rw [if_neg henough]
        exact ⟨update_of_ne (Ne.symm hsame) .., rfl⟩
  · obtain ⟨e, he⟩ := consume_error buckets now hsome
    have hmove : (Request.consume other now weight).move key = none := by
      refine if_neg fun hmoved => hsome ⟨hmoved.1, ?_⟩
      rw [hmoved.2]
      rfl
    rw [hmove, Request.next, Request.outcome, Request.answer, he]
    exact ⟨rfl, rfl⟩

/-- What a charge does to a bucket, and spends of it. -/
theorem charge_bucket (h : bucketOf scope = .ok (rule, key)) :
    (Request.charge other now statusCode).next buckets key =
        ((Request.charge other now statusCode).move key).elim (buckets key)
          (TokenBucket.step rule.flow (buckets key)) ∧
      spending key
          (.charge other now statusCode, (Request.charge other now statusCode).outcome buckets) =
        ((Request.charge other now statusCode).move key).bind
          (TokenBucket.spending rule.flow (buckets key)) := by
  by_cases hextra : 0 < extraWeight other statusCode
  · cases hfound : bucketOf other with
    | error e =>
      have hnone : keyOf other = none := by rw [keyOf, hfound]; rfl
      have hmove : (Request.charge other now statusCode).move key = none :=
        if_neg fun hmoved => by simp [hnone] at hmoved
      have hsome : ¬ responseWeight other.family statusCode other.environment - 1 ≤ 0 :=
        not_le.mpr hextra
      have hanswer : chargeResponse buckets other now statusCode = .error e := by
        rw [chargeResponse, if_neg hsome, hfound]
        rfl
      rw [hmove, Request.next, Request.outcome, Request.answer, hanswer]
      exact ⟨rfl, rfl⟩
    | ok found =>
      obtain ⟨given, asked⟩ := found
      have hkey := keyOf_eq hfound
      obtain ⟨decision, hanswer⟩ := chargeResponse_eq buckets now hextra hfound
      by_cases hsame : asked = key
      · subst hsame
        obtain rfl := rule_unique h hfound
        have hmove : (Request.charge other now statusCode).move asked =
            some (.charge now (extraWeight other statusCode)) := if_pos ⟨hextra, hkey⟩
        rw [hmove, Request.next, Request.outcome, Request.answer, hanswer]
        exact ⟨update_self .., if_pos ⟨hextra, hkey⟩⟩
      · have hother : ¬ (0 < extraWeight other statusCode ∧ keyOf other = some key) := by
          rw [hkey, Option.some.injEq]
          exact fun hmoved => hsame hmoved.2
        have hmove : (Request.charge other now statusCode).move key = none := if_neg hother
        rw [hmove, Request.next, Request.outcome, Request.answer, hanswer]
        exact ⟨update_of_ne (Ne.symm hsame) .., if_neg hother⟩
  · -- a response that is charged nothing
    have hnone : responseWeight other.family statusCode other.environment - 1 ≤ 0 :=
      not_lt.mp hextra
    have hanswer : chargeResponse buckets other now statusCode = .ok (⟨true, 0⟩, buckets) :=
      if_pos hnone
    have hmove : (Request.charge other now statusCode).move key = none :=
      if_neg fun hmoved => hextra hmoved.1
    rw [hmove, Request.next, Request.outcome, Request.answer, hanswer]
    exact ⟨rfl, if_neg fun hmoved => hextra hmoved.1⟩

/-- Every request is a move of its bucket, and of no other. -/
theorem step_eq_bucketStep (h : bucketOf scope = .ok (rule, key)) (buckets : Buckets)
    (request : Request) :
    request.next buckets key =
        (request.move key).elim (buckets key) (TokenBucket.step rule.flow (buckets key)) ∧
      spending key (request, request.outcome buckets) =
        (request.move key).bind (TokenBucket.spending rule.flow (buckets key)) := by
  cases request with
  | consume other now weight => exact consume_bucket h
  | charge other now statusCode => exact charge_bucket h

/-- The requests of a run are the moves of a bucket. -/
theorem trace_eq_spendings (h : bucketOf scope = .ok (rule, key)) (buckets : Buckets)
    (requests : List Request) :
    after buckets requests key =
        TokenBucket.run rule.flow (buckets key) (requests.filterMap (Request.move key)) ∧
      (trace buckets requests).filterMap (spending key) =
        TokenBucket.spendings rule.flow (buckets key) (requests.filterMap (Request.move key)) := by
  induction requests generalizing buckets with
  | nil => exact ⟨rfl, rfl⟩
  | cons request requests ih =>
    obtain ⟨hnext, hspent⟩ := step_eq_bucketStep h buckets request
    obtain ⟨hafter, htrace⟩ := @ih (request.next buckets)
    rw [hnext] at hafter htrace
    cases hmove : request.move key with
    | none =>
      rw [hmove] at hafter htrace hspent
      rw [List.filterMap_cons_none hmove, trace, List.filterMap_cons_none hspent]
      exact ⟨hafter, htrace⟩
    | some move =>
      rw [hmove, Option.elim_some] at hafter htrace
      rw [hmove, Option.bind_some] at hspent
      rw [List.filterMap_cons_some hmove, trace, TokenBucket.spendings, ← htrace]
      refine ⟨hafter, ?_⟩
      rw [List.filterMap_cons, hspent]
      cases TokenBucket.spending rule.flow (buckets key) move <;> rfl

end Step

/-! ## Intervals of a run -/

/-- The requests before a moment. -/
def before (start : ℚ) (requests : List Request) : List Request :=
  requests.filter fun request => decide (request.now < start)

/-- The requests of an interval. -/
def within (start finish : ℚ) (requests : List Request) : List Request :=
  requests.filter fun request => decide (start ≤ request.now ∧ request.now ≤ finish)

/-- What the requests of an interval spent of a bucket. -/
def spentWithin (key : BucketKey) (start finish : ℚ) (requests : List Request) :
    List (Spending ℚ) :=
  ((trace init requests).filter fun entry =>
    decide (start ≤ entry.1.now ∧ entry.1.now ≤ finish)).filterMap (spending key)

/-- The tokens that a bucket still owes at a moment, for charges before it. -/
def debtAt (rule : RateRule) (key : BucketKey) (start : ℚ) (requests : List Request) : ℚ :=
  max 0 (- level rule.flow
    (after init (before start requests) key) start)

section Intervals

variable {scope : RateScope} {rule : RateRule} {key : BucketKey} {buckets : Buckets}
  {requests : List Request} {start finish : ℚ}

theorem trace_append (first more : List Request) :
    trace buckets (first ++ more) = trace buckets first ++ trace (after buckets first) more := by
  induction first generalizing buckets with
  | nil => rfl
  | cons request first ih =>
    rw [List.cons_append, trace, ih]
    rfl

theorem mem_of_mem_trace {entry : Request × Except PyError RateLimitDecision}
    (h : entry ∈ trace buckets requests) : entry.1 ∈ requests := by
  induction requests generalizing buckets with
  | nil => cases h
  | cons request requests ih =>
    rcases List.mem_cons.mp h with rfl | hmem
    · exact List.mem_cons_self
    · exact List.mem_cons_of_mem _ (ih hmem)

theorem filter_trace_of_all {p : Request → Bool} (h : ∀ request ∈ requests, p request = true) :
    (trace buckets requests).filter (fun entry => p entry.1) = trace buckets requests :=
  List.filter_eq_self.mpr fun entry hentry => h entry.1 (mem_of_mem_trace hentry)

theorem filter_trace_of_none {p : Request → Bool} (h : ∀ request ∈ requests, p request = false) :
    (trace buckets requests).filter (fun entry => p entry.1) = [] :=
  List.filter_eq_nil_iff.mpr fun entry hentry => by simp [h entry.1 (mem_of_mem_trace hentry)]

/-- What an interval spends is what its requests spend, one after another. -/
theorem spentWithin_eq (h : bucketOf scope = .ok (rule, key))
    (horder : Readings.InOrder Request.now requests) (hinterval : start ≤ finish) :
    spentWithin key start finish requests =
      TokenBucket.spendings rule.flow (after init (before start requests) key)
        ((within start finish requests).filterMap (Request.move key)) := by
  have htrace : trace init requests = trace init (before start requests ++
      within start finish requests ++
        requests.filter fun request => decide (finish < request.now)) :=
    congrArg (trace init) (Readings.split horder hinterval)
  have hbefore : ∀ request ∈ before start requests,
      decide (start ≤ request.now ∧ request.now ≤ finish) = false := by
    intro request hrequest
    simp only [before, List.mem_filter, decide_eq_true_eq] at hrequest
    simp [hrequest.2]
  have hwithin : ∀ request ∈ within start finish requests,
      decide (start ≤ request.now ∧ request.now ≤ finish) = true := fun request hrequest =>
    (List.mem_filter.mp hrequest).2
  have hbeyond : ∀ request ∈ requests.filter fun request => decide (finish < request.now),
      decide (start ≤ request.now ∧ request.now ≤ finish) = false := by
    intro request hrequest
    simp only [List.mem_filter, decide_eq_true_eq] at hrequest
    simp [hrequest.2]
  rw [spentWithin, htrace, trace_append, trace_append, List.filter_append, List.filter_append,
    filter_trace_of_none hbefore, filter_trace_of_all hwithin, filter_trace_of_none hbeyond,
    List.nil_append, List.append_nil]
  exact (trace_eq_spendings h _ _).2

theorem move_now {request : Request} {move : Move ℚ} (h : request.move key = some move) :
    move.now = request.now := by
  cases request with
  | consume scope now weight =>
    obtain ⟨-, hmove⟩ := Option.ite_none_right_eq_some.mp h
    rw [← Option.some.inj hmove]
    rfl
  | charge scope now statusCode =>
    obtain ⟨-, hmove⟩ := Option.ite_none_right_eq_some.mp h
    rw [← Option.some.inj hmove]
    rfl

theorem move_weight {request : Request} {move : Move ℚ} (h : request.move key = some move) :
    0 ≤ move.weight := by
  cases request with
  | consume scope now weight =>
    obtain ⟨⟨hweight, -⟩, hmove⟩ := Option.ite_none_right_eq_some.mp h
    rw [← Option.some.inj hmove]
    exact Int.cast_nonneg hweight.le
  | charge scope now statusCode =>
    obtain ⟨⟨hweight, -⟩, hmove⟩ := Option.ite_none_right_eq_some.mp h
    rw [← Option.some.inj hmove]
    exact Int.cast_nonneg hweight.le

/-- The moves of an interval. -/
theorem within_moves (horder : Readings.InOrder Request.now requests) :
    TokenBucket.Within start finish
      ((within start finish requests).filterMap (Request.move key)) := by
  constructor
  · rw [List.pairwise_filterMap]
    refine (List.Pairwise.filter _ horder).imp fun hle move hmove later hlater => ?_
    rw [move_now hmove, move_now hlater]
    exact hle
  · intro move hmove
    obtain ⟨request, hrequest, hmove⟩ := List.mem_filterMap.mp hmove
    rw [move_now hmove]
    exact of_decide_eq_true (List.mem_filter.mp hrequest).2

/-- A bucket was not asked after the requests before a moment. -/
theorem askedBy_before (h : bucketOf scope = .ok (rule, key)) :
    TokenBucket.AskedBy (after init (before start requests) key) start := by
  rw [(trace_eq_spendings h init (before start requests)).1]
  refine TokenBucket.run_askedBy (fun asked hasked => nomatch hasked) fun move hmove => ?_
  obtain ⟨request, hrequest, hmove⟩ := List.mem_filterMap.mp hmove
  rw [move_now hmove]
  exact (of_decide_eq_true (List.mem_filter.mp hrequest).2).le

end Intervals

/-! ## What every run keeps -/

/-- A request for tokens that is denied in a state says when it will be admitted: from then on, and
not before, when nothing else is asked. -/
def ExactDelay (buckets : Buckets) (scope : RateScope) (now : ℚ) (weight : ℤ) (delay : ℚ) : Prop :=
  ∀ later, (Request.consume scope later weight).outcome
      ((Request.consume scope now weight).next buckets) = .ok ⟨true, 0⟩ ↔ now + delay ≤ later

/-- A run keeps the rate of a bucket. -/
structure KeepsRate (rule : RateRule) (key : BucketKey) (requests : List Request) : Prop where
  /-- What an interval admits, where it admits anything, with the charges before the last of it. -/
  interval : ∀ start finish, start ≤ finish →
    TokenBucket.hasAdmission (spentWithin key start finish requests) = true →
    TokenBucket.admitted (spentWithin key start finish requests) +
        TokenBucket.charged (spentWithin key start finish requests) ≤
      rule.burst + (finish - start) * (rule.limit / rule.periodSeconds) -
        debtAt rule key start requests
  /-- A denied request for no more than the burst is told the exact delay. -/
  delay : ∀ earlier rest scope now (weight : ℤ) delay, bucketOf scope = .ok (rule, key) →
    requests = earlier ++ .consume scope now weight :: rest → weight ≤ rule.burst →
    (Request.consume scope now weight).outcome (after init earlier) = .ok ⟨false, delay⟩ →
    ExactDelay (after init earlier) scope now weight delay

section KeepsRate

variable {scope : RateScope} {rule : RateRule} {key : BucketKey} {buckets : Buckets}
  {requests : List Request} {now : ℚ} {weight : ℤ} {delay : ℚ}

theorem rateRules_pos {family : String} {tokenType : WbTokenType}
    (h : rateRules family tokenType = some rule) : 0 < rule.limit ∧ 0 < rule.periodSeconds := by
  unfold rateRules at h
  split at h <;> first | (obtain rfl := Option.some.inj h; decide) | cases h

/-- Every rule has a rate. -/
theorem refillPerSecond_pos (h : RateLimiter.rule scope = .ok rule) : 0 < rule.refillPerSecond := by
  have hpos : 0 < rule.limit ∧ 0 < rule.periodSeconds := by
    unfold RateLimiter.rule at h
    split at h
    · obtain rfl := Fallible.pure_eq_ok.mp h
      decide
    · exact rateRules_pos (Fallible.found_eq_ok.mp h)
  exact div_pos (Nat.cast_pos.mpr hpos.1) (Nat.cast_pos.mpr hpos.2)

/-- What a request for tokens returns. -/
theorem consume_outcome (hweight : 0 < weight) (h : bucketOf scope = .ok (rule, key)) :
    (Request.consume scope now weight).outcome buckets = .ok
      (if weight ≤ level rule.flow (buckets key) now then ⟨true, 0⟩
      else ⟨false, (weight - level rule.flow (buckets key) now) / rule.refillPerSecond⟩) := by
  rw [Request.outcome, Request.answer, consume_eq buckets now hweight h]
  split <;> rfl

/-- A denied request leaves the bucket as it has been refilled. -/
theorem consume_denied (hweight : 0 < weight) (h : bucketOf scope = .ok (rule, key))
    (hmissing : ¬ weight ≤ level rule.flow (buckets key) now) :
    (Request.consume scope now weight).next buckets key =
      some ⟨level rule.flow (buckets key) now, now⟩ := by
  rw [Request.next, Request.answer, consume_eq buckets now hweight h, if_neg hmissing]
  exact update_self ..

theorem weight_pos_of_outcome {decision : RateLimitDecision}
    (h : (Request.consume scope now weight).outcome buckets = .ok decision) : 0 < weight := by
  by_contra hweight
  have hnone : ¬ (0 < weight ∧ (keyOf scope).isSome = true) := fun hsome => hweight hsome.1
  obtain ⟨e, he⟩ := consume_error buckets now hnone
  rw [Request.outcome, Request.answer, he] at h
  cases h

/-- The delay of a denial is exact, for no more than the burst. -/
theorem exactDelay (h : bucketOf scope = .ok (rule, key)) (hburst : weight ≤ rule.burst)
    (hdenied : (Request.consume scope now weight).outcome buckets = .ok ⟨false, delay⟩) :
    ExactDelay buckets scope now weight delay := by
  intro later
  have hweight := weight_pos_of_outcome hdenied
  rw [consume_outcome hweight h] at hdenied
  by_cases henough : (weight : ℚ) ≤ level rule.flow (buckets key) now
  · rw [if_pos henough] at hdenied
    simp at hdenied
  · rw [if_neg henough] at hdenied
    have hdelay := (RateLimitDecision.mk.inj (Except.ok.inj hdenied)).2
    have hrate := refillPerSecond_pos (bucketOf_eq_ok.mp h).1
    have hfull : (weight : ℚ) ≤ rule.flow.burst := by
      change (weight : ℚ) ≤ (rule.burst : ℚ)
      exact_mod_cast hburst
    have hexact : (weight : ℚ) ≤
        level rule.flow (some ⟨level rule.flow (buckets key) now, now⟩) later ↔
          now + (weight - level rule.flow (buckets key) now) / rule.flow.rate ≤ later :=
      TokenBucket.le_level_iff hrate (not_le.mp henough) hfull
    rw [consume_outcome hweight h, consume_denied hweight h henough, ← hdelay]
    change _ ↔ now + (weight - level rule.flow (buckets key) now) / rule.flow.rate ≤ later
    rw [← hexact]
    by_cases hcame : (weight : ℚ) ≤
        level rule.flow (some ⟨level rule.flow (buckets key) now, now⟩) later
    · simp [hcame]
    · simp [hcame]

/-- Every run keeps the rate of every bucket. -/
theorem keepsRate (horder : Readings.InOrder Request.now requests)
    (h : bucketOf scope = .ok (rule, key)) : KeepsRate rule key requests where
  interval start finish hinterval hsome := by
    rw [spentWithin_eq h horder hinterval] at hsome ⊢
    have hrate := refillPerSecond_pos (bucketOf_eq_ok.mp h).1
    refine TokenBucket.admitted_add_charged_le (Nat.cast_nonneg _) hrate.le ?_
      (askedBy_before h) (within_moves horder) hsome
    intro move hmove
    obtain ⟨request, -, hmove⟩ := List.mem_filterMap.mp hmove
    exact move_weight hmove
  delay := by
    intro earlier rest other now weight delay hother _ hburst hdenied
    exact exactDelay hother hburst hdenied

end KeepsRate

/-- A token of the marketplace. -/
def personalScope : RateScope := ⟨"MARKETPLACE_FBS", .personal, .production, "secret://a"⟩

def personalKey : BucketKey := ⟨"MARKETPLACE_FBS", "PERSONAL", "PRODUCTION", "secret://a"⟩

/-- Five requests at once, all of which fail. -/
def fiveFailures : List Request :=
  List.replicate 5 (.consume personalScope 0 1) ++ List.replicate 5 (.charge personalScope 0 400)

theorem fiveFailures_inOrder : Readings.InOrder Request.now fiveFailures := by
  unfold Readings.InOrder fiveFailures
  decide +kernel

/-- The five failures keep the rate. -/
theorem fiveFailures_keepsRate : KeepsRate ⟨60, 300, 20⟩ personalKey fiveFailures := by
  have hbucket : bucketOf personalScope = .ok (⟨60, 300, 20⟩, personalKey) :=
    bucketOf_eq_ok.mpr ⟨rfl, bucketKey_eq_ok.mpr ⟨rfl, by decide +kernel⟩⟩
  exact keepsRate fiveFailures_inOrder hbucket

/-- A debt may be more than the burst, and then an interval that admits nothing is above the bound;
and more than the burst never comes, whatever the delay that is told. -/
theorem bound_and_delay_fail :
    (∃ start finish, start ≤ finish ∧
      ¬ TokenBucket.admitted (spentWithin personalKey start finish fiveFailures) ≤
        20 + (finish - start) * (300 / 60) - debtAt ⟨60, 300, 20⟩ personalKey start fiveFailures) ∧
    ∃ delay, (Request.consume personalScope 0 21).outcome init = .ok ⟨false, delay⟩ ∧
      ¬ ExactDelay init personalScope 0 21 delay := by
  refine ⟨⟨1, 1, le_refl _, by decide +kernel⟩, 1 / 5, by decide +kernel, fun hexact => ?_⟩
  have hadmitted := (hexact (1 / 5)).mpr (by norm_num)
  revert hadmitted
  decide +kernel

end Wbcz.Marketplace.RateLimiter

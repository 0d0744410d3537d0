import Mathlib.Algebra.Group.Nat.Defs
import Wbcz.Audit.Keys
import Wbcz.Lib.KeyedLog
import Wbcz.Lib.Stretch

/-!
# Login requests for one account

`AuthService.login` of `wbcz_web/services/auth.py` under its route, for the requests that name
one account. A request reads the clock, takes the lock of the row that counts the failures of the
account, and keeps it until its transaction ends; between these points other requests go on.

The route commits when the service returns or raises `AuthenticationError`. Every other exception
rolls the transaction back, and with it the failure it has counted. The audit of a login event
raises one: it stores the event under a key made of the id of the request, which the client may
set, and refuses another trace under that key. Times are microseconds; sessions are left out, as
no check of a password depends on them.
-/

namespace Wbcz.Login

open Fallible (ensure)

/-! ## Configuration -/

/-- The settings of `WebConfig` that logins read. -/
structure WebConfig where
  loginThrottleWindowSeconds : ℕ := 15 * 60
  loginThrottleMaxFailures : ℕ := 10
  loginAccountFreeFailures : ℕ := 5
  loginAccountInitialDelaySeconds : ℕ := 30
  loginAccountDelayCapSeconds : ℕ := 15 * 60
  loginAccountLockFailures : ℕ := 100

/-- The checks of `validate_for_startup` on these settings, in order. -/
def WebConfig.validateForStartup (config : WebConfig) : Except PyError Unit := do
  ensure (60 ≤ config.loginThrottleWindowSeconds ∧
      config.loginThrottleWindowSeconds ≤ 24 * 60 * 60)
    ⟨.valueError, "WBCZ_LOGIN_THROTTLE_WINDOW_SECONDS is out of range"⟩
  ensure (3 ≤ config.loginThrottleMaxFailures ∧ config.loginThrottleMaxFailures ≤ 100)
    ⟨.valueError, "WBCZ_LOGIN_THROTTLE_MAX_FAILURES is out of range"⟩
  ensure (config.loginAccountFreeFailures = 5)
    ⟨.valueError, "WBCZ_LOGIN_ACCOUNT_FREE_FAILURES must remain 5 for M12"⟩
  ensure (1 ≤ config.loginAccountInitialDelaySeconds ∧
      config.loginAccountInitialDelaySeconds ≤ 60)
    ⟨.valueError, "WBCZ_LOGIN_ACCOUNT_INITIAL_DELAY_SECONDS is out of range"⟩
  ensure (config.loginAccountInitialDelaySeconds ≤ config.loginAccountDelayCapSeconds ∧
      config.loginAccountDelayCapSeconds ≤ 15 * 60)
    ⟨.valueError, "WBCZ_LOGIN_ACCOUNT_DELAY_CAP_SECONDS is out of range"⟩
  ensure (config.loginAccountLockFailures = 100)
    ⟨.valueError, "WBCZ_LOGIN_ACCOUNT_LOCK_FAILURES must remain 100 for M12"⟩

/-- The settings, and what is computed outside of the service. -/
structure Platform where
  config : WebConfig
  /-- `_digest`. -/
  digest : String → String
  casefold : String → String
  /-- `_HASHER.verify`, with what it raises read as a mismatch. -/
  hasherVerify : String → String → Bool
  /-- `_m13_available`. -/
  auditAvailable : Bool

/-! ## Rows -/

structure User where
  id : ℕ
  passwordHash : String
  isActive : Bool := true
  accountState : String := "ACTIVE"

/-- `LoginThrottleStateRecord`. -/
structure ThrottleState where
  consecutiveFailures : ℕ := 0
  blockedUntil : Option ℤ := none
  passwordLocked : Bool := false
  lastFailureAt : Option ℤ := none
  lastSuccessAt : Option ℤ := none
  deriving DecidableEq

/-- `LoginAttemptRecord`. -/
structure LoginAttempt where
  usernameHash : String
  remoteHash : String
  successful : Bool
  attemptedAt : ℤ

/-- What a login request brings: the credentials, the address it is seen to come from, its
headers, and the id it is given where it sets none. -/
structure LoginRequest where
  username : String
  password : String
  remoteAddress : Option String
  xRequestId : Option String
  xCorrelationId : Option String
  drawnId : String

/-- A character of `_ID_RE`. -/
def isIdChar (c : Char) : Bool := c.isAlphanum || c ∈ ['.', '_', ':', '-']

/-- `validated_external_id`. -/
def validatedExternalId (value : Option String) : Option String :=
  (value.map Text.strip).filter fun id =>
    1 ≤ id.length && id.length ≤ 128 && id.toList.all isIdChar

namespace LoginRequest

variable (req : LoginRequest)

/-- `request.state.request_id`. -/
def requestId : String := (validatedExternalId req.xRequestId).getD req.drawnId

/-- `request.state.correlation_id`. -/
def correlationId : String := (validatedExternalId req.xCorrelationId).getD req.requestId

end LoginRequest

/-- What the audit compares of two login events of users under one key. -/
structure LoginEvent where
  eventType : String
  userId : ℕ
  requestId : String
  correlationId : String
  deriving DecidableEq

/-- The `event_key` of a login event. -/
def LoginEvent.key (event : LoginEvent) : String :=
  Text.take 256 s!"request:{event.requestId}:{event.eventType}:{event.userId}"

/-- The event that a request leaves in the audit of an account. -/
def loginEvent (eventType : String) (user : User) (req : LoginRequest) : LoginEvent :=
  ⟨eventType, user.id, req.requestId, req.correlationId⟩

/-! ## The account -/

/-- `timedelta(seconds=n)`. -/
def seconds (n : ℕ) : ℤ := n * 1000000

/-- `_source_throttled`. -/
def sourceThrottled (p : Platform) (attempts : List LoginAttempt) (remote : Option String)
    (now : ℤ) : Bool :=
  match remote with
  | none | some "" => false
  | some remote =>
    p.config.loginThrottleMaxFailures ≤ attempts.countP fun attempt =>
      now - seconds p.config.loginThrottleWindowSeconds ≤ attempt.attemptedAt &&
        !attempt.successful && attempt.remoteHash = p.digest remote

/-- `_attempt`. -/
def attempt (p : Platform) (req : LoginRequest) (successful : Bool) (now : ℤ) : LoginAttempt :=
  ⟨p.digest (p.casefold (Text.strip req.username)), p.digest (req.remoteAddress.getD ""),
    successful, now⟩

/-- `_delay_seconds`. -/
def delaySeconds (config : WebConfig) (failures : ℕ) : ℕ :=
  if failures ≤ config.loginAccountFreeFailures then 0
  else
    min (config.loginAccountInitialDelaySeconds *
        2 ^ min (failures - config.loginAccountFreeFailures - 1) 16)
      config.loginAccountDelayCapSeconds

/-- `_account_is_blocked`. -/
def accountIsBlocked (row : ThrottleState) (now : ℤ) : Bool :=
  row.passwordLocked || row.blockedUntil.any fun deadline => now < deadline

/-- `_record_account_failure`. -/
def recordAccountFailure (config : WebConfig) (row : ThrottleState) (now : ℤ) : ThrottleState :=
  let failures := row.consecutiveFailures + 1
  if config.loginAccountLockFailures ≤ failures then
    { row with
      consecutiveFailures := failures
      lastFailureAt := some now
      passwordLocked := true
      blockedUntil := none }
  else
    let delay := delaySeconds config failures
    { row with
      consecutiveFailures := failures
      lastFailureAt := some now
      blockedUntil := if delay ≠ 0 then some (now + seconds delay) else none }

/-- `_reset_account_progression`. -/
def resetAccountProgression (row : ThrottleState) (now : ℤ) : ThrottleState :=
  { row with
    consecutiveFailures := 0
    blockedUntil := none
    passwordLocked := false
    lastSuccessAt := some now }

/-- What `reset_password_authenticator_lock` does to the row. -/
def resetPasswordAuthenticatorLock (row : ThrottleState) : ThrottleState :=
  { row with consecutiveFailures := 0, blockedUntil := none, passwordLocked := false }

/-- `verify_password`. -/
def verifyPassword (p : Platform) (storedHash password : String) : Bool :=
  password.length ≤ 4096 && p.hasherVerify storedHash password

/-- `AuditRepository.append` of a login event: a known event converges, and under its key another
is refused. -/
def auditAppend (p : Platform) (trail : Table LoginEvent.key) (event : LoginEvent) :
    Except PyError (Table LoginEvent.key) :=
  if p.auditAvailable then trail.record Audit.auditEventKeyConflict event else .ok trail

/-! ## The end of a login -/

/-- What a login came to: it was turned away before a password was verified, or the password was
wrong and the failure recorded, or it was right, of an account that is not active or is. -/
inductive Verdict where
  | blocked
  | wrong (recorded : ThrottleState)
  | inactive
  | right
  deriving DecidableEq

/-- What the transaction of a login writes. -/
structure Writes where
  row : ThrottleState
  attempt : LoginAttempt
  trail : Table LoginEvent.key

/-- A login with the row of its account: what it came to, and what it writes unless it raises what
the route does not commit for. `session` is what opening a session came to. -/
def concludeLogin (p : Platform) (user : User) (req : LoginRequest) (row : ThrottleState)
    (now clock : ℤ) (trail : Table LoginEvent.key) (session : Except PyError Unit) :
    Verdict × Except PyError Writes :=
  if accountIsBlocked row now then
    (.blocked, do
      let trail ← auditAppend p trail (loginEvent "LOGIN_THROTTLED" user req)
      .ok ⟨row, attempt p req false clock, trail⟩)
  else if ¬ verifyPassword p user.passwordHash req.password then
    let recorded := recordAccountFailure p.config row now
    (.wrong recorded, do
      let trail ← auditAppend p trail (loginEvent "LOGIN_FAILED" user req)
      .ok ⟨recorded, attempt p req false clock, trail⟩)
  else if ¬ (user.isActive ∧ user.accountState = "ACTIVE") then
    (.inactive, do
      let trail ← auditAppend p trail (loginEvent "LOGIN_FAILED" user req)
      .ok ⟨row, attempt p req false clock, trail⟩)
  else
    (.right, do
      session
      .ok ⟨resetAccountProgression row now, attempt p req true clock, trail⟩)

/-! ## Requests -/

/-- How far a request has got: its source is not throttled; it has read the clock; it has found no
row; it has the row, and the lock of it; it is over. -/
inductive Phase where
  | idle
  | arrived (req : LoginRequest) (user : User)
  | entered (req : LoginRequest) (user : User) (now : ℤ)
  | absent (req : LoginRequest) (user : User) (now : ℤ)
  | holding (req : LoginRequest) (user : User) (now : ℤ) (row : ThrottleState)
  | closed

/-- The clock reading of a request. -/
def Phase.now? : Phase → Option ℤ
  | .entered _ _ now | .absent _ _ now | .holding _ _ now _ => some now
  | .idle | .arrived _ _ | .closed => none

/-- The committed rows of an account, and the requests for it. -/
structure LoginState where
  clock : ℤ
  user : User
  row : Option ThrottleState
  /-- The request that has the lock of the row, or has inserted a row and not committed it. -/
  holder : Option ℕ
  requests : ℕ → Phase
  attempts : List LoginAttempt
  trail : Table LoginEvent.key

/-- An account that nobody has logged in to. -/
def LoginState.initial (user : User) (clock : ℤ) : LoginState where
  clock := clock
  user := user
  row := none
  holder := none
  requests _ := .idle
  attempts := []
  trail := .empty

/-- The next phase of a request. -/
def LoginState.advance (s : LoginState) (i : ℕ) (phase : Phase) : LoginState :=
  { s with requests := Function.update s.requests i phase }

/-- What happens next: a request goes on, or another writer of the account does its work. -/
inductive Action where
  | tick (clock : ℤ)
  | arrive (i : ℕ) (req : LoginRequest)
  | enter (i : ℕ)
  | read (i : ℕ)
  | insert (i : ℕ)
  | finish (i : ℕ) (session : Except PyError Unit)
  | unlock
  | changePassword (passwordHash : String)
  | editUser (user : User)
  | cleanup (old : Bool)

/-- What is seen of a login that had the row: its clock reading, the clock at its end, what it
came to and whether it was committed. -/
structure Report where
  now : ℤ
  clock : ℤ
  verdict : Verdict
  committed : Bool
  deriving DecidableEq

/-- The transaction of a login that has the row ends. -/
def LoginState.settle (s : LoginState) (i : ℕ) (writes : Except PyError Writes) : LoginState :=
  let s' := { s with holder := none }.advance i .closed
  match writes with
  | .ok w => { s' with row := some w.row, attempts := s.attempts ++ [w.attempt], trail := w.trail }
  | .error _ => s'

/-- One step of the requests and of the other writers. -/
def step (p : Platform) (s : LoginState) : Action → Option (LoginState × Option Report)
  | .tick clock => if s.clock ≤ clock then some ({ s with clock }, none) else none
  | .arrive i req =>
    match s.requests i with
    | .idle =>
      if sourceThrottled p s.attempts req.remoteAddress s.clock then
        let event := loginEvent "LOGIN_THROTTLED" s.user req
        let trail := ((auditAppend p s.trail event).toOption).getD s.trail
        some ({ s with trail }.advance i .closed, none)
      else some (s.advance i (.arrived req s.user), none)
    | _ => none
  | .enter i =>
    match s.requests i with
    | .arrived req user => some (s.advance i (.entered req user s.clock), none)
    | _ => none
  | .read i =>
    match s.requests i, s.row, s.holder with
    -- a row that another request has inserted is not seen before it is committed
    | .entered req user now, none, _ => some (s.advance i (.absent req user now), none)
    | .entered req user now, some row, none =>
      some ({ s with holder := some i }.advance i (.holding req user now row), none)
    | _, _, _ => none
  | .insert i =>
    match s.requests i, s.row, s.holder with
    -- the primary key is taken, and the request ends in `IntegrityError`
    | .absent _ _ _, some _, _ => some (s.advance i .closed, none)
    | .absent req user now, none, none =>
      some ({ s with holder := some i }.advance i (.holding req user now {}), none)
    | _, _, _ => none
  | .finish i session =>
    match s.requests i with
    | .holding req user now row =>
      let concluded := concludeLogin p user req row now s.clock s.trail session
      some (s.settle i concluded.2, some ⟨now, s.clock, concluded.1, concluded.2.isOk⟩)
    | _ => none
  | .unlock =>
    if s.holder.isNone then
      some ({ s with row := some (resetPasswordAuthenticatorLock (s.row.getD {})) }, none)
    else none
  | .changePassword passwordHash =>
    if s.holder.isNone then
      some ({ s with
        user := { s.user with passwordHash }
        row := some (resetAccountProgression (s.row.getD {}) s.clock) }, none)
    else none
  | .editUser user => some ({ s with user }, none)
  | .cleanup old =>
    -- `old`: the row was last written more than seven days ago
    if old && s.holder.isSome then none
    else
      some ({ s with
        attempts := s.attempts.filter fun a => s.clock - seconds (7 * 24 * 60 * 60) ≤ a.attemptedAt
        row := s.row.filter fun row =>
          !(old && !row.passwordLocked && row.consecutiveFailures = 0) }, none)

/-- An action, and what is seen of it. -/
structure Event where
  action : Action
  report : Option Report

/-- The steps, as a relation over what is seen. -/
def Step (p : Platform) (s : LoginState) (event : Event) (s' : LoginState) : Prop :=
  step p s event.action = some (s', event.report)

/-! ## What the end of a login does -/

section Conclude

variable {p : Platform} {user : User} {req : LoginRequest} {row : ThrottleState} {now clock : ℤ}
  {trail : Table LoginEvent.key} {session : Except PyError Unit}

/-- An account that is blocked is left as it is, and no password is verified. -/
theorem concludeLogin_blocked (h : accountIsBlocked row now = true) :
    (concludeLogin p user req row now clock trail session).1 = .blocked ∧
      ∀ w, (concludeLogin p user req row now clock trail session).2 = .ok w → w.row = row := by
  rw [concludeLogin, if_pos h]
  refine ⟨rfl, ?_⟩
  intro w hw
  obtain ⟨_, -, hw⟩ := Fallible.bind_eq_ok.mp hw
  cases hw
  rfl

/-- A wrong password is recorded, where the transaction is committed. -/
theorem concludeLogin_wrong (h : accountIsBlocked row now = false)
    (hwrong : verifyPassword p user.passwordHash req.password = false) :
    concludeLogin p user req row now clock trail session =
      (.wrong (recordAccountFailure p.config row now),
        (auditAppend p trail (loginEvent "LOGIN_FAILED" user req)).map fun trail =>
          ⟨recordAccountFailure p.config row now, attempt p req false clock, trail⟩) := by
  rw [concludeLogin, if_neg (by simp [h]), if_pos (by simp [hwrong])]
  cases auditAppend p trail (loginEvent "LOGIN_FAILED" user req) with
  | ok _ => rfl
  | error _ => rfl

/-- A right password leaves the row as it is, or starts it over where the login succeeds. -/
theorem concludeLogin_verified (h : accountIsBlocked row now = false)
    (hright : verifyPassword p user.passwordHash req.password = true) :
    ((concludeLogin p user req row now clock trail session).1 = .inactive ∧
      ∀ w, (concludeLogin p user req row now clock trail session).2 = .ok w → w.row = row) ∨
    ((concludeLogin p user req row now clock trail session).1 = .right ∧
      ∀ w, (concludeLogin p user req row now clock trail session).2 = .ok w →
        w.row = resetAccountProgression row now) := by
  rw [concludeLogin, if_neg (by simp [h]), if_neg (by simp [hright])]
  split
  · refine .inl ⟨rfl, ?_⟩
    intro w hw
    obtain ⟨_, -, hw⟩ := Fallible.bind_eq_ok.mp hw
    cases hw
    rfl
  · refine .inr ⟨rfl, ?_⟩
    intro w hw
    obtain ⟨_, -, hw⟩ := Fallible.bind_eq_ok.mp hw
    cases hw
    rfl

end Conclude

/-! ## Requests that go through -/

section Steps

variable {p : Platform} {s : LoginState} {i : ℕ} {req : LoginRequest} {user : User} {now : ℤ}

theorem LoginState.advance_self {phase : Phase} : (s.advance i phase).requests i = phase :=
  Function.update_self ..

theorem LoginState.advance_ne {phase : Phase} {j : ℕ} (h : j ≠ i) :
    (s.advance i phase).requests j = s.requests j :=
  Function.update_of_ne h ..

theorem LoginState.advance_advance {phase phase' : Phase} :
    (s.advance i phase).advance i phase' = s.advance i phase' := by
  rw [LoginState.advance, LoginState.advance, LoginState.advance, Function.update_idem]

theorem step_arrive (hidle : s.requests i = .idle)
    (hallowed : sourceThrottled p s.attempts req.remoteAddress s.clock = false) :
    step p s (.arrive i req) = some (s.advance i (.arrived req s.user), none) := by
  simp only [step, hidle, hallowed, Bool.false_eq_true, if_false]

theorem step_enter (harrived : s.requests i = .arrived req user) :
    step p s (.enter i) = some (s.advance i (.entered req user s.clock), none) := by
  simp only [step, harrived]

theorem step_read {row : ThrottleState} (hentered : s.requests i = .entered req user now)
    (hrow : s.row = some row) (hfree : s.holder = none) :
    step p s (.read i) =
      some ({ s with holder := some i }.advance i (.holding req user now row), none) := by
  simp only [step, hentered, hrow, hfree]

theorem step_read_none (hentered : s.requests i = .entered req user now) (hrow : s.row = none) :
    step p s (.read i) = some (s.advance i (.absent req user now), none) := by
  simp only [step, hentered, hrow]

theorem step_insert (habsent : s.requests i = .absent req user now) (hrow : s.row = none)
    (hfree : s.holder = none) :
    step p s (.insert i) =
      some ({ s with holder := some i }.advance i (.holding req user now {}), none) := by
  simp only [step, habsent, hrow, hfree]

/-- A wrong password of a request that has the row. -/
theorem step_finish_wrong {row : ThrottleState} {session : Except PyError Unit}
    (hholding : s.requests i = .holding req user now row)
    (hopen : accountIsBlocked row now = false)
    (hwrong : verifyPassword p user.passwordHash req.password = false) :
    step p s (.finish i session) =
      some (s.settle i ((auditAppend p s.trail (loginEvent "LOGIN_FAILED" user req)).map
          fun trail => ⟨recordAccountFailure p.config row now, attempt p req false s.clock, trail⟩),
        some ⟨now, s.clock, .wrong (recordAccountFailure p.config row now),
          (auditAppend p s.trail (loginEvent "LOGIN_FAILED" user req)).isOk⟩) := by
  simp only [step, hholding, concludeLogin_wrong hopen hwrong]
  cases auditAppend p s.trail (loginEvent "LOGIN_FAILED" user req) with
  | ok _ => rfl
  | error _ => rfl

end Steps

/-! ## The audit -/

/-- Where the audit is there, an event is taken when it is the one under its key. -/
theorem auditAppend_of_accepts {p : Platform} {trail : Table LoginEvent.key} {event : LoginEvent}
    (h : p.auditAvailable = true → trail.Accepts event) :
    ∃ trail', auditAppend p trail event = .ok trail' := by
  rw [auditAppend]
  split
  · rename_i havailable
    exact Table.record_of_accepts (h havailable)
  · exact ⟨trail, rfl⟩

end Wbcz.Login

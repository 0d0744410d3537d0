import Wbcz.Security.Login

/-!
# How often a password can be tried

Between two successful logins or unlocks of an account the failures are counted, and what a
request may still try follows from the count. The count is right as long as every failure is
committed, which the audit prevents where a client sets an id that a failure of the account has
already been stored under, with another correlation id: then the password is verified, and
nothing is counted.
-/

namespace Wbcz.Login

open Function (update update_of_ne update_self)
open Transition (Run Stretch)

/-! ## What is seen of a login -/

namespace Report

/-- The row that a failure was to be recorded with. -/
def failure? (r : Report) : Option ThrottleState :=
  match r.verdict with
  | .wrong recorded => some recorded
  | _ => none

/-- A password was verified. -/
def verifies (r : Report) : Bool := r.verdict ≠ .blocked

/-- The delay that a failure imposes, where it does not lock the account. -/
def delay? (r : Report) : Option ℤ :=
  match r.failure? with
  | some recorded =>
    if recorded.passwordLocked then none else some (recorded.blockedUntil.getD r.now - r.now)
  | none => none

/-- The login succeeded. -/
def succeeds (r : Report) : Bool := r.verdict = .right && r.committed

end Report

/-- The logins of the account start anew: one of them succeeded, or the account was unlocked. -/
def Event.resets (event : Event) : Bool :=
  match event.action with
  | .unlock | .changePassword _ => true
  | _ => event.report.any Report.succeeds

/-- What the logins between two resets keep to. -/
structure Limited (config : WebConfig) (reports : List Report) : Prop where
  bounded : (reports.filterMap Report.failure?).length ≤ config.loginAccountLockFailures
  spaced : reports.Pairwise fun r r' => r'.verifies = true → ∀ recorded ∈ r.failure?,
    recorded.passwordLocked = false ∧ ∀ deadline ∈ recorded.blockedUntil, deadline ≤ r'.now
  timely : ∀ r ∈ reports, r.now ≤ r.clock
  slower : (reports.filterMap Report.delay?).Pairwise (· ≤ ·)
  capped : ∀ delay ∈ reports.filterMap Report.delay?,
    delay ≤ seconds config.loginAccountDelayCapSeconds

/-- The audit takes the failure that a login is about to record, which it does unless a failure
of the account is stored under the id of the request with another correlation id. -/
def Recordable (p : Platform) (s : LoginState) : Action → Prop
  | .finish i _ => ∀ req user now row, s.requests i = .holding req user now row →
    accountIsBlocked row now = false → verifyPassword p user.passwordHash req.password = false →
      p.auditAvailable = true → s.trail.Accepts (loginEvent "LOGIN_FAILED" user req)
  | _ => True

/-! ## Delays -/

theorem seconds_mono {m n : ℕ} (h : m ≤ n) : seconds m ≤ seconds n := by
  unfold seconds
  omega

theorem delaySeconds_le_cap (config : WebConfig) (n : ℕ) :
    delaySeconds config n ≤ config.loginAccountDelayCapSeconds := by
  unfold delaySeconds
  split
  · exact Nat.zero_le _
  · exact Nat.min_le_right _ _

/-- More failures impose no shorter delay. -/
theorem delaySeconds_mono (config : WebConfig) {m n : ℕ} (h : m ≤ n) :
    delaySeconds config m ≤ delaySeconds config n := by
  unfold delaySeconds
  by_cases hm : m ≤ config.loginAccountFreeFailures
  · rw [if_pos hm]
    exact Nat.zero_le _
  · rw [if_neg hm, if_neg (by omega)]
    refine min_le_min_right _ (Nat.mul_le_mul_left _ ?_)
    exact Nat.pow_le_pow_right (by decide) (min_le_min_right 16 (by omega))

/-- The configuration as it is after the checks at startup, so far as the limits need it. -/
structure Checked (config : WebConfig) : Prop where
  locks : 1 ≤ config.loginAccountLockFailures
  delays : 1 ≤ config.loginAccountInitialDelaySeconds
  caps : 1 ≤ config.loginAccountDelayCapSeconds

theorem checked_of_validateForStartup {config : WebConfig}
    (h : config.validateForStartup = .ok ()) : Checked config := by
  simp only [WebConfig.validateForStartup, Fallible.bind_eq_ok, Fallible.ensure_eq_ok] at h
  obtain ⟨_, -, _, -, _, -, _, hinitial, _, hcap, hlock⟩ := h
  exact ⟨by omega, hinitial.1, by omega⟩

theorem delaySeconds_pos {config : WebConfig} (hc : Checked config) {n : ℕ}
    (h : config.loginAccountFreeFailures < n) : 1 ≤ delaySeconds config n := by
  rw [delaySeconds, if_neg (by omega)]
  have hproduct : 1 ≤ config.loginAccountInitialDelaySeconds *
      2 ^ min (n - config.loginAccountFreeFailures - 1) 16 :=
    Nat.mul_pos hc.delays (Nat.pow_pos (by decide))
  exact le_min hproduct hc.caps

theorem delaySeconds_free {config : WebConfig} {n : ℕ}
    (h : n ≤ config.loginAccountFreeFailures) : delaySeconds config n = 0 :=
  if_pos h

/-! ## The row as a tally -/

/-- The row is the sum of the logins since it was reset: it has counted their failures, it is
locked when there are too many, and it lets nobody in whom an earlier failure keeps out. -/
structure Tally (config : WebConfig) (reports : List Report) (row : ThrottleState) : Prop where
  limited : Limited config reports
  count : (reports.filterMap Report.failure?).length = row.consecutiveFailures
  locked : row.passwordLocked = decide (config.loginAccountLockFailures ≤ row.consecutiveFailures)
  keepsOut : ∀ r ∈ reports, ∀ recorded ∈ r.failure?, ∀ now, accountIsBlocked row now = false →
    recorded.passwordLocked = false ∧ ∀ deadline ∈ recorded.blockedUntil, deadline ≤ now
  paid : ∀ r ∈ reports, ∀ recorded ∈ r.failure?, recorded.blockedUntil.isSome = true →
    config.loginAccountFreeFailures < row.consecutiveFailures
  delays : ∀ delay ∈ reports.filterMap Report.delay?,
    delay ≤ seconds (delaySeconds config row.consecutiveFailures)

section Tally

variable {config : WebConfig} {reports : List Report} {row row' : ThrottleState} {r : Report}
  {now clock : ℤ} {committed : Bool}

theorem Limited.sublist {reports' : List Report} (hsub : reports'.Sublist reports)
    (h : Limited config reports) : Limited config reports' where
  bounded := (hsub.filterMap _).length_le.trans h.bounded
  spaced := h.spaced.sublist hsub
  timely r hr := h.timely r (hsub.subset hr)
  slower := h.slower.sublist (hsub.filterMap _)
  capped delay hdelay := h.capped delay ((hsub.filterMap _).subset hdelay)

/-- A row without failures is the sum of no logins. -/
theorem Tally.nil (hc : Checked config) (hcount : row.consecutiveFailures = 0)
    (hlocked : row.passwordLocked = false) : Tally config [] row where
  limited := ⟨Nat.zero_le _, .nil, by simp, .nil, by simp⟩
  count := hcount.symm
  locked := by
    have := hc.locks
    rw [hlocked, hcount, decide_eq_false (by omega)]
  keepsOut := by simp
  paid := by simp
  delays := by simp

/-- Two rows without failures are the sum of the same logins. -/
theorem Tally.idle (hc : Checked config) (h : Tally config reports row)
    (hcount : row.consecutiveFailures = 0) (hcount' : row'.consecutiveFailures = 0)
    (hlocked' : row'.passwordLocked = false) : Tally config reports row' := by
  have hnone : reports.filterMap Report.failure? = [] := by
    rw [← List.length_eq_zero_iff, h.count, hcount]
  have hno : ∀ r ∈ reports, ∀ recorded, recorded ∉ r.failure? := by
    intro r hr recorded hrecorded
    rw [List.filterMap_eq_nil_iff] at hnone
    rw [hnone r hr] at hrecorded
    cases hrecorded
  constructor
  · exact h.limited
  · rw [h.count, hcount, hcount']
  · have := hc.locks
    rw [hlocked', hcount', decide_eq_false (by omega)]
  · intro r hr recorded hrecorded
    exact absurd hrecorded (hno r hr recorded)
  · intro r hr recorded hrecorded
    exact absurd hrecorded (hno r hr recorded)
  · rw [hcount', ← hcount]
    exact h.delays

theorem Report.delay?_of_none (h : r.failure? = none) : r.delay? = none := by
  rw [Report.delay?, h]

/-- A login that is no failure leaves the sum as it is. -/
theorem Tally.snoc (h : Tally config reports row) (hfailure : r.failure? = none)
    (htimely : r.now ≤ r.clock)
    (hverifies : r.verifies = true → accountIsBlocked row r.now = false) :
    Tally config (reports ++ [r]) row := by
  have hdelay := Report.delay?_of_none hfailure
  have hfailures : (reports ++ [r]).filterMap Report.failure? =
      reports.filterMap Report.failure? := by simp [hfailure]
  have hdelays : (reports ++ [r]).filterMap Report.delay? = reports.filterMap Report.delay? := by
    simp [hdelay]
  refine ⟨⟨?_, ?_, ?_, ?_, ?_⟩, ?_, h.locked, ?_, ?_, ?_⟩
  · rw [hfailures]
    exact h.limited.bounded
  · refine List.pairwise_append.mpr ⟨h.limited.spaced, List.pairwise_singleton _ _, ?_⟩
    intro earlier hearlier last hlast hlastVerifies recorded hrecorded
    obtain rfl := List.mem_singleton.mp hlast
    exact h.keepsOut earlier hearlier recorded hrecorded _ (hverifies hlastVerifies)
  · intro other hother
    rcases List.mem_append.mp hother with hother | hother
    · exact h.limited.timely other hother
    · obtain rfl := List.mem_singleton.mp hother
      exact htimely
  · rw [hdelays]
    exact h.limited.slower
  · rw [hdelays]
    exact h.limited.capped
  · rw [hfailures]
    exact h.count
  · intro other hother recorded hrecorded
    rcases List.mem_append.mp hother with hother | hother
    · exact h.keepsOut other hother recorded hrecorded
    · obtain rfl := List.mem_singleton.mp hother
      rw [hfailure] at hrecorded
      cases hrecorded
  · intro other hother recorded hrecorded
    rcases List.mem_append.mp hother with hother | hother
    · exact h.paid other hother recorded hrecorded
    · obtain rfl := List.mem_singleton.mp hother
      rw [hfailure] at hrecorded
      cases hrecorded
  · rw [hdelays]
    exact h.delays

/-! ### Failures -/

@[simp] theorem recordAccountFailure_count : (recordAccountFailure config row now).consecutiveFailures =
    row.consecutiveFailures + 1 := by
  by_cases h : config.loginAccountLockFailures ≤ row.consecutiveFailures + 1
  · rw [recordAccountFailure, if_pos h]
  · rw [recordAccountFailure, if_neg h]

/-- A failure that does not lock the account blocks it for the delay of its count. -/
theorem recordAccountFailure_open
    (h : row.consecutiveFailures + 1 < config.loginAccountLockFailures) :
    (recordAccountFailure config row now).passwordLocked = row.passwordLocked ∧
      (recordAccountFailure config row now).blockedUntil =
        if delaySeconds config (row.consecutiveFailures + 1) ≠ 0 then
          some (now + seconds (delaySeconds config (row.consecutiveFailures + 1)))
        else none := by
  rw [recordAccountFailure, if_neg (by omega)]
  exact ⟨rfl, rfl⟩

theorem recordAccountFailure_closed
    (h : config.loginAccountLockFailures ≤ row.consecutiveFailures + 1) :
    (recordAccountFailure config row now).passwordLocked = true ∧
      (recordAccountFailure config row now).blockedUntil = none := by
  rw [recordAccountFailure, if_pos h]
  exact ⟨rfl, rfl⟩

theorem accountIsBlocked_eq_false : accountIsBlocked row now = false ↔
    row.passwordLocked = false ∧ ∀ deadline ∈ row.blockedUntil, deadline ≤ now := by
  cases h : row.blockedUntil with
  | none => simp [accountIsBlocked, h]
  | some deadline => simp [accountIsBlocked, h]

/-- The delay of a failure is that of its count. -/
theorem delay_recordAccountFailure {delay : ℤ}
    (h : delay ∈ Report.delay? ⟨now, clock, .wrong (recordAccountFailure config row now), committed⟩) :
    delay = seconds (delaySeconds config (row.consecutiveFailures + 1)) := by
  simp only [Report.delay?, Report.failure?] at h
  by_cases hlock : config.loginAccountLockFailures ≤ row.consecutiveFailures + 1
  · rw [(recordAccountFailure_closed hlock).1] at h
    cases h
  · obtain ⟨hlocked, hdeadline⟩ := @recordAccountFailure_open config row now (by omega)
    split at h
    · cases h
    · cases h
      rw [hdeadline]
      split
      · rw [Option.getD_some]
        omega
      · rename_i hzero
        simp [not_not.mp hzero, seconds]

/-- A failure of a login that the row let in. -/
theorem Tally.wrong (hc : Checked config) (h : Tally config reports row)
    (hopen : accountIsBlocked row now = false) (htimely : now ≤ clock) :
    Tally config
      (reports ++ [⟨now, clock, .wrong (recordAccountFailure config row now), committed⟩])
      (recordAccountFailure config row now) := by
  set recorded := recordAccountFailure config row now with hrecorded
  set r : Report := ⟨now, clock, .wrong recorded, committed⟩ with hr
  have hfailure : r.failure? = some recorded := rfl
  obtain ⟨hunlocked, hdeadline⟩ := accountIsBlocked_eq_false.mp hopen
  have hbelow : row.consecutiveFailures < config.loginAccountLockFailures := by
    rw [h.locked, decide_eq_false_iff_not] at hunlocked
    omega
  have hcount : recorded.consecutiveFailures = row.consecutiveFailures + 1 :=
    recordAccountFailure_count
  have hmono : delaySeconds config row.consecutiveFailures ≤
      delaySeconds config recorded.consecutiveFailures := by
    rw [hcount]
    exact delaySeconds_mono config (by omega)
  -- whoever the new row lets in comes after every earlier deadline
  have hkeepsOut : ∀ later, accountIsBlocked recorded later = false → recorded.passwordLocked = false ∧
      ∀ deadline ∈ recorded.blockedUntil, deadline ≤ later := by
    intro later hlater
    exact accountIsBlocked_eq_false.mp hlater
  have hlocked : recorded.passwordLocked =
      decide (config.loginAccountLockFailures ≤ recorded.consecutiveFailures) := by
    rw [hcount]
    by_cases hlock : config.loginAccountLockFailures ≤ row.consecutiveFailures + 1
    · rw [hrecorded, (recordAccountFailure_closed hlock).1, decide_eq_true hlock]
    · rw [hrecorded, (recordAccountFailure_open (by omega)).1, hunlocked, decide_eq_false hlock]
  have hbounded : ((reports ++ [r]).filterMap Report.failure?).length =
      recorded.consecutiveFailures := by
    rw [hcount, List.filterMap_append, List.length_append, h.count]
    rfl
  have hlast : ∀ delay ∈ r.delay?,
      delay = seconds (delaySeconds config recorded.consecutiveFailures) := by
    intro delay hdelay
    rw [hcount]
    exact delay_recordAccountFailure hdelay
  have hdelays : ∀ delay ∈ (reports ++ [r]).filterMap Report.delay?,
      delay ≤ seconds (delaySeconds config recorded.consecutiveFailures) := by
    intro delay hdelay
    rw [List.filterMap_append, List.mem_append] at hdelay
    rcases hdelay with hdelay | hdelay
    · exact (h.delays delay hdelay).trans (seconds_mono hmono)
    · obtain ⟨other, hother, hdelay⟩ := List.mem_filterMap.mp hdelay
      obtain rfl := List.mem_singleton.mp hother
      exact (hlast delay hdelay).le
  refine ⟨⟨?_, ?_, ?_, ?_, ?_⟩, hbounded, hlocked, ?_, ?_, hdelays⟩
  · rw [hbounded, hcount]
    omega
  · refine List.pairwise_append.mpr ⟨h.limited.spaced, List.pairwise_singleton _ _, ?_⟩
    intro earlier hearlier last hlast _ other hother
    obtain rfl := List.mem_singleton.mp hlast
    exact h.keepsOut earlier hearlier other hother now hopen
  · intro other hother
    rcases List.mem_append.mp hother with hother | hother
    · exact h.limited.timely other hother
    · obtain rfl := List.mem_singleton.mp hother
      exact htimely
  · rw [List.filterMap_append]
    refine List.pairwise_append.mpr ⟨h.limited.slower, ?_, ?_⟩
    · cases hdelay : r.delay? with
      | none => simp [hdelay]
      | some _ => simp [hdelay]
    · intro delay hdelay delay' hdelay'
      obtain ⟨other, hother, hdelay'⟩ := List.mem_filterMap.mp hdelay'
      obtain rfl := List.mem_singleton.mp hother
      rw [hlast delay' hdelay']
      exact (h.delays delay hdelay).trans (seconds_mono hmono)
  · intro delay hdelay
    exact (hdelays delay hdelay).trans (seconds_mono (delaySeconds_le_cap config _))
  · intro earlier hearlier other hother later hlater
    obtain ⟨hopen', hdeadline'⟩ := hkeepsOut later hlater
    rcases List.mem_append.mp hearlier with hearlier | hearlier
    · obtain ⟨hotherOpen, hotherDeadline⟩ := h.keepsOut earlier hearlier other hother now hopen
      refine ⟨hotherOpen, ?_⟩
      intro deadline hmem
      -- an earlier deadline means that the new failure imposes a delay of its own
      have hpaid := h.paid earlier hearlier other hother (by rw [hmem]; rfl)
      have hpos := delaySeconds_pos hc (n := row.consecutiveFailures + 1) (by omega)
      have hlock : ¬ config.loginAccountLockFailures ≤ row.consecutiveFailures + 1 := by
        rw [hlocked, decide_eq_false_iff_not, hcount] at hopen'
        exact hopen'
      have hnew := (@recordAccountFailure_open config row now (by omega)).2
      rw [if_pos (by omega)] at hnew
      have hafter := hdeadline' _ hnew
      have hsoon := hotherDeadline deadline hmem
      have hnonneg : (0 : ℤ) ≤ seconds (delaySeconds config (row.consecutiveFailures + 1)) := by
        unfold seconds
        omega
      omega
    · obtain rfl := List.mem_singleton.mp hearlier
      cases hfailure.symm.trans hother
      exact ⟨hopen', hdeadline'⟩
  · intro earlier hearlier other hother hsome
    rw [hcount]
    rcases List.mem_append.mp hearlier with hearlier | hearlier
    · have hpaid := h.paid earlier hearlier other hother hsome
      omega
    · obtain rfl := List.mem_singleton.mp hearlier
      cases hfailure.symm.trans hother
      by_contra hfree
      by_cases hlock : config.loginAccountLockFailures ≤ row.consecutiveFailures + 1
      · rw [hrecorded, (recordAccountFailure_closed hlock).2] at hsome
        cases hsome
      · rw [hrecorded, (recordAccountFailure_open (by omega)).2,
          delaySeconds_free (by omega)] at hsome
        cases hsome

end Tally

/-! ## Runs -/

/-- The steps in which every failure is recordable. -/
def RecordableStep (p : Platform) (s : LoginState) (event : Event) (s' : LoginState) : Prop :=
  Step p s event s' ∧ Recordable p s event.action

/-- The row is the sum of the logins since the last reset, and a request that has the lock has the
row as it is committed. -/
structure Inv (config : WebConfig) (cur : List Event) (s : LoginState) : Prop where
  tally : Tally config (cur.filterMap Event.report) (s.row.getD {})
  holding : ∀ i req user now row, s.requests i = .holding req user now row →
    s.holder = some i ∧ row = s.row.getD {}
  past : ∀ i, ∀ now ∈ (s.requests i).now?, now ≤ s.clock

section Steps

variable {p : Platform} {cur : List Event} {s s' : LoginState} {event : Event} {i : ℕ}
  {action : Action} {report : Option Report}

/-- What is not a login and resets nothing leaves the logins as they are. -/
theorem filterMap_report_silent {action : Action} :
    (cur ++ [(⟨action, none⟩ : Event)]).filterMap Event.report = cur.filterMap Event.report := by
  simp

/-- A request goes on without the lock. -/
theorem Inv.advance {config : WebConfig} {phase : Phase} (h : Inv config cur s)
    (hphase : ∀ req user now row, phase ≠ .holding req user now row)
    (hpast : ∀ now ∈ phase.now?, now ≤ s.clock) : Inv config cur (s.advance i phase) := by
  refine ⟨h.tally, ?_, ?_⟩
  · intro j req user now row hj
    by_cases hji : j = i
    · rw [hji, LoginState.advance_self] at hj
      exact absurd hj (hphase req user now row)
    · rw [LoginState.advance_ne hji] at hj
      exact h.holding j req user now row hj
  · intro j now hnow
    by_cases hji : j = i
    · rw [hji, LoginState.advance_self] at hnow
      exact hpast now hnow
    · rw [LoginState.advance_ne hji] at hnow
      exact h.past j now hnow

/-- The logins do not depend on the audit. -/
theorem Inv.withTrail {config : WebConfig} {trail : Table LoginEvent.key} (h : Inv config cur s) :
    Inv config cur { s with trail } := ⟨h.tally, h.holding, h.past⟩

/-- A request takes the lock that nobody has. -/
theorem Inv.lock {config : WebConfig} {req : LoginRequest} {user : User} {now : ℤ}
    (h : Inv config cur s) (hfree : s.holder = none) (hpast : now ≤ s.clock) :
    Inv config cur ({ s with holder := some i }.advance i
      (.holding req user now (s.row.getD {}))) := by
  refine ⟨h.tally, ?_, ?_⟩
  · intro j req' user' now' row' hj
    by_cases hji : j = i
    · rw [hji, LoginState.advance_self] at hj
      cases hj
      exact ⟨by rw [hji]; rfl, rfl⟩
    · rw [LoginState.advance_ne hji] at hj
      have hheld := (h.holding j req' user' now' row' hj).1
      rw [hfree] at hheld
      cases hheld
  · intro j now' hnow
    by_cases hji : j = i
    · rw [hji, LoginState.advance_self] at hnow
      cases hnow
      exact hpast
    · rw [LoginState.advance_ne hji] at hnow
      exact h.past j now' hnow

/-- Another writer changes the row while nobody has the lock. -/
theorem Inv.write {config : WebConfig} {cur' : List Event} (h : Inv config cur s)
    (hfree : s.holder = none) (hrequests : s'.requests = s.requests) (hclock : s'.clock = s.clock)
    (htally : Tally config (cur'.filterMap Event.report) (s'.row.getD {})) :
    Inv config cur' s' := by
  refine ⟨htally, ?_, ?_⟩
  · intro j req user now row hj
    rw [hrequests] at hj
    have hheld := (h.holding j req user now row hj).1
    rw [hfree] at hheld
    cases hheld
  · intro j now hnow
    rw [hrequests] at hnow
    rw [hclock]
    exact h.past j now hnow

/-- The request that has the lock ends: the row is then the one it has written, or as it was. -/
theorem Inv.settle {config : WebConfig} {cur' : List Event} {req : LoginRequest} {user : User}
    {now : ℤ} {row : ThrottleState} {writes : Except PyError Writes} (h : Inv config cur s)
    (hholding : s.requests i = .holding req user now row)
    (htally : Tally config (cur'.filterMap Event.report) ((s.settle i writes).row.getD {})) :
    Inv config cur' (s.settle i writes) := by
  have hheld := (h.holding i req user now row hholding).1
  have hrequests : (s.settle i writes).requests = update s.requests i .closed := by
    unfold LoginState.settle
    split <;> rfl
  have hclock : (s.settle i writes).clock = s.clock := by
    unfold LoginState.settle
    split <;> rfl
  refine ⟨htally, ?_, ?_⟩
  · intro j req' user' now' row' hj
    rw [hrequests] at hj
    by_cases hji : j = i
    · rw [hji, update_self] at hj
      cases hj
    · -- only one request has the lock
      rw [update_of_ne hji] at hj
      have hother := (h.holding j req' user' now' row' hj).1
      rw [hheld] at hother
      exact absurd (Option.some.inj hother).symm hji
  · intro j now' hnow
    rw [hrequests] at hnow
    rw [hclock]
    by_cases hji : j = i
    · rw [hji, update_self] at hnow
      cases hnow
    · rw [update_of_ne hji] at hnow
      exact h.past j now' hnow

theorem settle_row_ok {w : Writes} : (s.settle i (.ok w)).row = some w.row := rfl

theorem settle_row_error {e : PyError} : (s.settle i (.error e)).row = s.row := rfl

/-- What is left of the logins by the one that ends. -/
def Event.after (event : Event) (cur : List Event) : List Event :=
  if event.resets then [] else cur ++ [event]

/-- The end of a login whose failure is recordable. -/
theorem Inv.finish {session : Except PyError Unit} (hc : Checked p.config) (h : Inv p.config cur s)
    (hrecordable : Recordable p s (.finish i session))
    (hstep : step p s (.finish i session) = some (s', report)) :
    Inv p.config (Event.after ⟨.finish i session, report⟩ cur) s' := by
  simp only [step] at hstep
  split at hstep
  case h_2 => cases hstep
  case h_1 req user now row hholding =>
    obtain ⟨rfl, rfl⟩ := Prod.mk.inj (Option.some.inj hstep)
    obtain ⟨hheld, hrow⟩ := h.holding i req user now row hholding
    have hnow : now ≤ s.clock := h.past i now (by rw [hholding]; rfl)
    have htally := h.tally
    rw [← hrow] at htally
    refine h.settle hholding ?_
    set concluded := concludeLogin p user req row now s.clock s.trail session with hconcluded
    -- the row that is committed in the end, when a login leaves it as it was
    have hkept : (∀ w, concluded.2 = .ok w → w.row = row) →
        (s.settle i concluded.2).row.getD {} = row := by
      intro hw
      cases hwrites : concluded.2 with
      | ok w => rw [settle_row_ok, Option.getD_some, hw w hwrites]
      | error e => rw [settle_row_error, hrow]
    cases hblocked : accountIsBlocked row now with
    | true =>
      obtain ⟨hverdict, hw⟩ :=
        @concludeLogin_blocked p user req row now s.clock s.trail session hblocked
      have hresets : (⟨.finish i session,
          some ⟨now, s.clock, concluded.1, concluded.2.isOk⟩⟩ : Event).resets = false := by
        simp [Event.resets, Report.succeeds, hconcluded, hverdict]
      rw [hkept hw, Event.after, if_neg (by simp [hresets]), List.filterMap_append]
      refine htally.snoc ?_ hnow ?_
      · simp [Report.failure?, hconcluded, hverdict]
      · simp [Report.verifies, hconcluded, hverdict]
    | false =>
      cases hpassword : verifyPassword p user.passwordHash req.password with
      | false =>
        -- the failure is recordable, so it is committed
        have hwrong := @concludeLogin_wrong p user req row now s.clock s.trail session
          hblocked hpassword
        obtain ⟨trail, htrail⟩ := auditAppend_of_accepts
          (hrecordable req user now row hholding hblocked hpassword)
        rw [htrail] at hwrong
        have hresets : (⟨.finish i session,
            some ⟨now, s.clock, concluded.1, concluded.2.isOk⟩⟩ : Event).resets = false := by
          simp [Event.resets, Report.succeeds, hconcluded, hwrong]
        rw [Event.after, if_neg (by simp [hresets]), List.filterMap_append, hconcluded, hwrong]
        exact htally.wrong hc hblocked hnow
      | true =>
        rcases @concludeLogin_verified p user req row now s.clock s.trail session hblocked
          hpassword with ⟨hverdict, hw⟩ | ⟨hverdict, hw⟩
        · have hresets : (⟨.finish i session,
              some ⟨now, s.clock, concluded.1, concluded.2.isOk⟩⟩ : Event).resets = false := by
            simp [Event.resets, Report.succeeds, hconcluded, hverdict]
          rw [hkept hw, Event.after, if_neg (by simp [hresets]), List.filterMap_append]
          refine htally.snoc ?_ hnow fun _ => hblocked
          simp [Report.failure?, hconcluded, hverdict]
        · cases hwrites : concluded.2 with
          | ok w =>
            -- the login succeeds, and the account starts anew
            have hresets : (⟨.finish i session,
                some ⟨now, s.clock, concluded.1, concluded.2.isOk⟩⟩ : Event).resets = true := by
              have hright : concluded.1 = .right := hverdict
              have hcommitted : concluded.2.isOk = true := by rw [hwrites]; rfl
              simp [Event.resets, Report.succeeds, hright, hcommitted]
            rw [hwrites] at hresets
            rw [Event.after, if_pos hresets, settle_row_ok, Option.getD_some, hw w hwrites]
            exact Tally.nil hc rfl rfl
          | error e =>
            have hresets : (⟨.finish i session,
                some ⟨now, s.clock, concluded.1, concluded.2.isOk⟩⟩ : Event).resets = false := by
              have hrolledBack : concluded.2.isOk = false := by rw [hwrites]; rfl
              simp [Event.resets, Report.succeeds, hrolledBack]
            rw [hwrites] at hresets
            rw [Event.after, if_neg (by simp [hresets]), settle_row_error, ← hrow,
              List.filterMap_append]
            refine htally.snoc ?_ hnow fun _ => hblocked
            simp [Report.failure?, hconcluded, hverdict]

/-- What is neither a login nor a reset. -/
theorem Inv.silent {config : WebConfig} (h : Inv config cur s')
    (hresets : (⟨action, none⟩ : Event).resets = false) :
    Inv config (Event.after ⟨action, none⟩ cur) s' := by
  rw [Event.after, if_neg (by simp [hresets])]
  refine ⟨?_, h.holding, h.past⟩
  rw [filterMap_report_silent]
  exact h.tally

/-- A request reads the row, or finds that there is none. -/
theorem Inv.read {config : WebConfig} (h : Inv config cur s)
    (hstep : step p s (.read i) = some (s', report)) : report = none ∧ Inv config cur s' := by
  simp only [step] at hstep
  split at hstep
  · rename_i req user now hphase _
    cases hstep
    refine ⟨rfl, h.advance (by simp) ?_⟩
    intro now' hnow
    cases hnow
    exact h.past i now (by rw [hphase]; rfl)
  · rename_i req user now row hphase hrow hfree
    cases hstep
    refine ⟨rfl, ?_⟩
    have hlock := @Inv.lock cur s i config req user now h hfree
      (h.past i now (by rw [hphase]; rfl))
    rw [hrow, Option.getD_some, ← hrow] at hlock
    exact hlock
  · cases hstep

/-- A request inserts the row that it has not found. -/
theorem Inv.insert {config : WebConfig} (h : Inv config cur s)
    (hstep : step p s (.insert i) = some (s', report)) : report = none ∧ Inv config cur s' := by
  simp only [step] at hstep
  split at hstep
  · cases hstep
    exact ⟨rfl, h.advance (by simp) (by simp [Phase.now?])⟩
  · rename_i req user now hphase hrow hfree
    cases hstep
    refine ⟨rfl, ?_⟩
    have hlock := @Inv.lock cur s i config req user now h hfree
      (h.past i now (by rw [hphase]; rfl))
    rw [hrow, Option.getD_none, ← hrow] at hlock
    exact hlock
  · cases hstep

/-- A request arrives, or is turned away for its source. -/
theorem Inv.arrive {config : WebConfig} {req : LoginRequest} (h : Inv config cur s)
    (hstep : step p s (.arrive i req) = some (s', report)) : report = none ∧ Inv config cur s' := by
  simp only [step] at hstep
  split at hstep
  · split at hstep
    · cases hstep
      refine ⟨rfl, ?_⟩
      exact Inv.withTrail (h.advance (by simp) (by simp [Phase.now?]))
    · cases hstep
      exact ⟨rfl, h.advance (by simp) (by simp [Phase.now?])⟩
  · cases hstep

/-- A request reads the clock. -/
theorem Inv.enter {config : WebConfig} (h : Inv config cur s)
    (hstep : step p s (.enter i) = some (s', report)) : report = none ∧ Inv config cur s' := by
  simp only [step] at hstep
  split at hstep
  · cases hstep
    refine ⟨rfl, h.advance (by simp) ?_⟩
    intro now hnow
    cases hnow
    exact le_rfl
  · cases hstep

/-- The rows that are deleted have counted nothing. -/
theorem Inv.cleanup {old : Bool} (hc : Checked p.config) (h : Inv p.config cur s)
    (hstep : step p s (.cleanup old) = some (s', report)) :
    report = none ∧ Inv p.config cur s' := by
  simp only [step] at hstep
  split at hstep
  · cases hstep
  · rename_i hfree
    cases hstep
    refine ⟨rfl, ?_⟩
    cases hrow : s.row with
    | none =>
      rw [← hrow, hrow, Option.filter_none]
      exact ⟨hrow ▸ h.tally, hrow ▸ h.holding, h.past⟩
    | some row =>
      have htally := h.tally
      rw [hrow, Option.getD_some] at htally
      by_cases hstale : old = true ∧ row.passwordLocked = false ∧ row.consecutiveFailures = 0
      · -- the row is deleted, and nobody has its lock
        obtain ⟨rfl, hunlocked, hcount⟩ := hstale
        have hholder : s.holder = none := by simpa using hfree
        rw [Option.filter_some, if_neg (by simp [hunlocked, hcount])]
        exact h.write hholder rfl rfl (htally.idle hc hcount rfl rfl)
      · have hkept : (!(old && !row.passwordLocked && row.consecutiveFailures = 0)) = true := by
          rw [Bool.not_eq_true', Bool.eq_false_iff]
          intro hdeleted
          simp only [Bool.and_eq_true, Bool.not_eq_true', decide_eq_true_eq] at hdeleted
          exact hstale ⟨hdeleted.1.1, hdeleted.1.2, hdeleted.2⟩
        rw [Option.filter_some, if_pos hkept]
        exact ⟨htally, hrow ▸ h.holding, h.past⟩

/-- Every step keeps the row the sum of the logins since the last reset. -/
theorem Inv.step (hc : Checked p.config) (h : Inv p.config cur s)
    (hstep : RecordableStep p s event s') : Inv p.config (event.after cur) s' := by
  obtain ⟨action, report⟩ := event
  obtain ⟨hstep, hrecordable⟩ := hstep
  cases action with
  | tick clock =>
    simp only [Step, Login.step] at hstep
    split at hstep
    · rename_i hle
      cases hstep
      exact Inv.silent ⟨h.tally, h.holding, fun i now hnow => (h.past i now hnow).trans hle⟩ rfl
    · cases hstep
  | arrive i req =>
    obtain ⟨rfl, h⟩ := h.arrive hstep
    exact h.silent rfl
  | enter i =>
    obtain ⟨rfl, h⟩ := h.enter hstep
    exact h.silent rfl
  | read i =>
    obtain ⟨rfl, h⟩ := h.read hstep
    exact h.silent rfl
  | insert i =>
    obtain ⟨rfl, h⟩ := h.insert hstep
    exact h.silent rfl
  | finish i session => exact h.finish hc hrecordable hstep
  | unlock =>
    simp only [Step, Login.step] at hstep
    split at hstep
    · rename_i hfree
      cases hstep
      exact h.write (Option.isNone_iff_eq_none.mp hfree) rfl rfl (Tally.nil hc rfl rfl)
    · cases hstep
  | changePassword passwordHash =>
    simp only [Step, Login.step] at hstep
    split at hstep
    · rename_i hfree
      cases hstep
      exact h.write (Option.isNone_iff_eq_none.mp hfree) rfl rfl (Tally.nil hc rfl rfl)
    · cases hstep
  | editUser user =>
    cases hstep
    exact Inv.silent ⟨h.tally, h.holding, h.past⟩ rfl
  | cleanup old =>
    obtain ⟨rfl, h⟩ := h.cleanup hc hstep
    exact h.silent rfl

end Steps

/-- A password is verified only when the account is not locked and the time it is blocked until
is over, as the request has read the clock and still when it verifies. -/
theorem Inv.admits {config : WebConfig} {p : Platform} {cur : List Event} {s s' : LoginState}
    {i : ℕ} {session : Except PyError Unit} {r : Report} (h : Inv config cur s)
    (hstep : Login.step p s (.finish i session) = some (s', some r)) (hverifies : r.verifies = true) :
    accountIsBlocked (s.row.getD {}) r.now = false ∧ r.now ≤ r.clock := by
  simp only [Login.step] at hstep
  split at hstep
  case h_2 => cases hstep
  case h_1 req user now row hholding =>
    obtain ⟨-, hr⟩ := Prod.mk.inj (Option.some.inj hstep)
    obtain rfl := Option.some.inj hr
    rw [← (h.holding i req user now row hholding).2]
    refine ⟨?_, h.past i now (by rw [hholding]; rfl)⟩
    by_contra hblocked
    have hverdict := (@concludeLogin_blocked p user req row now s.clock s.trail session
      (Bool.eq_true_of_not_eq_false hblocked)).1
    simp [Report.verifies, hverdict] at hverifies

/-- In every interleaving of the requests for an account whose failures are all recordable, the
logins between two successes or unlocks keep to the limits, and a password is verified only when
the row lets it. -/
theorem logins_limited {p : Platform} {user : User} {clock : ℤ} {events : List Event}
    {s : LoginState} (hconfig : p.config.validateForStartup = .ok ())
    (run : Run (RecordableStep p) (.initial user clock) events s) :
    (∀ stretch, Stretch Event.resets events stretch →
      Limited p.config (stretch.filterMap Event.report)) ∧
    ∀ i session s' r, step p s (.finish i session) = some (s', some r) → r.verifies = true →
      accountIsBlocked (s.row.getD {}) r.now = false ∧ r.now ≤ r.clock := by
  have hc := checked_of_validateForStartup hconfig
  have start : Inv p.config [] (.initial user clock) := by
    refine ⟨Tally.nil hc rfl rfl, ?_, ?_⟩
    · intro i req user' now row h
      cases h
    · intro i now h
      cases h
  refine ⟨fun stretch => ?_, ?_⟩
  · -- the induction is over the run, with the logins since the last reset
    refine run.stretches (Inv p.config)
      (fun stretch => Limited p.config (stretch.filterMap Event.report)) start ?_ ?_ ?_
    · exact fun cur event t t' hinv hstep => hinv.step hc hstep
    · exact fun cur t hinv => hinv.tally.limited
    · exact fun hsuffix hlimited => hlimited.sublist (hsuffix.sublist.filterMap _)
  · have hinv := run.history (fun events t => Inv p.config (Transition.since Event.resets events) t)
      start fun events event t t' hinv hstep => by
        rw [Transition.since_concat]
        exact hinv.step hc hstep
    exact fun i session s' r => hinv.admits

/-! ## Failures that are not recorded -/

/-- A request up to the point where it reads the row. -/
theorem arrive_enter_run {p : Platform} {s : LoginState} {i : ℕ} {req : LoginRequest}
    (hidle : s.requests i = .idle)
    (hallowed : sourceThrottled p s.attempts req.remoteAddress s.clock = false) :
    Run (Step p) s [⟨.arrive i req, none⟩, ⟨.enter i, none⟩]
      (s.advance i (.entered req s.user s.clock)) := by
  have harrive : Step p s ⟨.arrive i req, none⟩ (s.advance i (.arrived req s.user)) :=
    step_arrive hidle hallowed
  have henter : Step p (s.advance i (.arrived req s.user)) ⟨.enter i, none⟩
      (s.advance i (.entered req s.user s.clock)) := by
    refine (step_enter LoginState.advance_self).trans ?_
    rw [LoginState.advance_advance]
    rfl
  exact (Run.single harrive).snoc henter

/-- A request up to the point where it has the row. -/
theorem arrive_read_run {p : Platform} {s : LoginState} {i : ℕ} {req : LoginRequest}
    {row : ThrottleState} (hidle : s.requests i = .idle)
    (hallowed : sourceThrottled p s.attempts req.remoteAddress s.clock = false)
    (hrow : s.row = some row) (hfree : s.holder = none) :
    Run (Step p) s [⟨.arrive i req, none⟩, ⟨.enter i, none⟩, ⟨.read i, none⟩]
      ({ s with holder := some i }.advance i (.holding req s.user s.clock row)) := by
  have hread : Step p (s.advance i (.entered req s.user s.clock)) ⟨.read i, none⟩
      ({ s with holder := some i }.advance i (.holding req s.user s.clock row)) := by
    refine (step_read LoginState.advance_self hrow hfree).trans ?_
    rw [← @LoginState.advance_advance { s with holder := some i } i
      (.entered req s.user s.clock)]
    rfl
  exact (arrive_enter_run hidle hallowed).snoc hread

/-- A wrong password whose failure the audit refuses leaves the account as it was. -/
theorem refused_run {p : Platform} {s : LoginState} {i : ℕ} {req : LoginRequest}
    {row : ThrottleState} {e : PyError} (hidle : s.requests i = .idle)
    (hallowed : sourceThrottled p s.attempts req.remoteAddress s.clock = false)
    (hrow : s.row = some row) (hfree : s.holder = none)
    (hopen : accountIsBlocked row s.clock = false)
    (hwrong : verifyPassword p s.user.passwordHash req.password = false)
    (hrefused : auditAppend p s.trail (loginEvent "LOGIN_FAILED" s.user req) = .error e) :
    Run (Step p) s
      [⟨.arrive i req, none⟩, ⟨.enter i, none⟩, ⟨.read i, none⟩, ⟨.finish i (.ok ()),
        some ⟨s.clock, s.clock, .wrong (recordAccountFailure p.config row s.clock), false⟩⟩]
      (s.advance i .closed) := by
  set held : LoginState :=
    { s with holder := some i }.advance i (.holding req s.user s.clock row) with hheld
  have hholding : held.requests i = .holding req s.user s.clock row := LoginState.advance_self
  refine (arrive_read_run hidle hallowed hrow hfree).snoc ?_
  have hfinish := @step_finish_wrong p held i req s.user s.clock row (.ok ()) hholding hopen hwrong
  have hend : held.settle i (.error e) = s.advance i .closed := by
    have hunheld : { s with holder := none } = s := by rw [← hfree]
    have hstart : { held with holder := none } = s.advance i (.holding req s.user s.clock row) := by
      rw [← hunheld]
      rfl
    rw [LoginState.settle, hstart, LoginState.advance_advance]
  rw [show held.trail = s.trail from rfl, hrefused, Except.map] at hfinish
  rw [hend] at hfinish
  exact hfinish

/-! ## A client that names its requests -/

section Probes

def samplePlatform : Platform where
  config := {}
  digest := id
  casefold := id
  hasherVerify _ password := password = "the password of the account"
  auditAvailable := true

def sampleUser : User := ⟨7, "$argon2id$", true, "ACTIVE"⟩

/-- A guess, in a request with an id that the client has chosen. -/
def probe (correlation : String) : LoginRequest :=
  ⟨"operator", "a guess", some "198.51.100.7", some "scan-1", some correlation, "req_0"⟩

def probeAttempt : LoginAttempt := ⟨"operator", "198.51.100.7", false, 0⟩

/-- The row after one failure. -/
def probedRow : ThrottleState := recordAccountFailure {} {} 0

/-- The requests up to `n` are over. -/
def closedUpTo (n i : ℕ) : Phase := if i ≤ n then .closed else .idle

/-- The account after the first guess and `n` further ones. -/
def probed (n : ℕ) (trail : Table LoginEvent.key) : LoginState where
  clock := 0
  user := sampleUser
  row := some probedRow
  holder := none
  requests := closedUpTo n
  attempts := [attempt samplePlatform (probe "a") false 0]
  trail := trail

/-- The first guess: it finds no row, inserts one and is counted. -/
def firstProbe : List Event :=
  [⟨.arrive 0 (probe "a"), none⟩, ⟨.enter 0, none⟩, ⟨.read 0, none⟩, ⟨.insert 0, none⟩,
    ⟨.finish 0 (.ok ()), some ⟨0, 0, .wrong probedRow, true⟩⟩]

/-- A further guess, with another correlation id. -/
def nextProbe (i : ℕ) : List Event :=
  [⟨.arrive i (probe "b"), none⟩, ⟨.enter i, none⟩, ⟨.read i, none⟩,
    ⟨.finish i (.ok ()), some ⟨0, 0, .wrong (recordAccountFailure {} probedRow 0), false⟩⟩]

/-- A guess and `n` further ones under the same id. -/
def probes (n : ℕ) : List Event := firstProbe ++ (List.range n).flatMap fun k => nextProbe (k + 1)

theorem update_closedUpTo (n : ℕ) :
    update (closedUpTo n) (n + 1) .closed = closedUpTo (n + 1) := by
  funext i
  by_cases h : i = n + 1
  · rw [h, update_self, closedUpTo, if_pos le_rfl]
  · rw [update_of_ne h]
    unfold closedUpTo
    by_cases hi : i ≤ n
    · rw [if_pos hi, if_pos (by omega)]
    · rw [if_neg hi, if_neg (by omega)]

/-- The audit refuses the failure of a further guess. -/
theorem auditAppend_probe {trail : Table LoginEvent.key}
    (h : loginEvent "LOGIN_FAILED" sampleUser (probe "a") ∈ trail) :
    ∃ e, auditAppend samplePlatform trail (loginEvent "LOGIN_FAILED" sampleUser (probe "b")) =
      .error e := by
  cases happend : auditAppend samplePlatform trail
      (loginEvent "LOGIN_FAILED" sampleUser (probe "b")) with
  | error e => exact ⟨e, rfl⟩
  | ok trail' =>
    have hsame := (Table.record_eq_ok happend).1 _ h rfl
    have hne : (probe "a").correlationId ≠ (probe "b").correlationId := by decide
    exact absurd (congrArg LoginEvent.correlationId hsame) hne

theorem next_probe_run {trail : Table LoginEvent.key} (n : ℕ)
    (h : loginEvent "LOGIN_FAILED" sampleUser (probe "a") ∈ trail) :
    Run (Step samplePlatform) (probed n trail) (nextProbe (n + 1)) (probed (n + 1) trail) := by
  have hidle : (probed n trail).requests (n + 1) = .idle := if_neg (by omega)
  have hallowed : sourceThrottled samplePlatform [attempt samplePlatform (probe "a") false 0]
      (probe "b").remoteAddress 0 = false := by decide
  have hopen : accountIsBlocked probedRow 0 = false := by decide
  have hwrong : verifyPassword samplePlatform sampleUser.passwordHash (probe "b").password =
      false := by decide
  obtain ⟨e, he⟩ := auditAppend_probe h
  have hrun := refused_run hidle hallowed rfl rfl hopen hwrong he
  have hend : (probed n trail).advance (n + 1) .closed = probed (n + 1) trail := by
    rw [probed, probed, LoginState.advance, update_closedUpTo]
  rw [hend] at hrun
  exact hrun

theorem replayed_run {trail : Table LoginEvent.key} (n : ℕ)
    (h : loginEvent "LOGIN_FAILED" sampleUser (probe "a") ∈ trail) :
    Run (Step samplePlatform) (probed 0 trail)
      ((List.range n).flatMap fun k => nextProbe (k + 1)) (probed n trail) := by
  induction n with
  | zero => exact .nil
  | succ n ih =>
    rw [List.range_succ, List.flatMap_append, List.flatMap_singleton]
    exact ih.append (next_probe_run n h)

/-- The first failure of an account is recordable. -/
theorem first_probe_run : ∃ trail : Table LoginEvent.key,
    loginEvent "LOGIN_FAILED" sampleUser (probe "a") ∈ trail ∧
      Run (RecordableStep samplePlatform) (.initial sampleUser 0) firstProbe (probed 0 trail) := by
  set s : LoginState := .initial sampleUser 0 with hs
  have hnothing : ∀ event, (Table.empty : Table LoginEvent.key).Accepts event :=
    fun _ _ hstored => absurd hstored Table.not_mem_empty
  obtain ⟨trail, htrail⟩ := @auditAppend_of_accepts samplePlatform .empty
    (loginEvent "LOGIN_FAILED" sampleUser (probe "a")) fun _ => hnothing _
  have hrecord : Table.record Audit.auditEventKeyConflict .empty
      (loginEvent "LOGIN_FAILED" sampleUser (probe "a")) = .ok trail := htrail
  refine ⟨trail, ((Table.record_eq_ok hrecord).2 _).mpr (.inr rfl), ?_⟩
  have harrive : RecordableStep samplePlatform s ⟨.arrive 0 (probe "a"), none⟩
      (s.advance 0 (.arrived (probe "a") sampleUser)) := ⟨step_arrive rfl rfl, trivial⟩
  have henter : RecordableStep samplePlatform (s.advance 0 (.arrived (probe "a") sampleUser))
      ⟨.enter 0, none⟩ (s.advance 0 (.entered (probe "a") sampleUser 0)) := by
    refine ⟨(step_enter LoginState.advance_self).trans ?_, trivial⟩
    rw [LoginState.advance_advance]
    rfl
  have hread : RecordableStep samplePlatform (s.advance 0 (.entered (probe "a") sampleUser 0))
      ⟨.read 0, none⟩ (s.advance 0 (.absent (probe "a") sampleUser 0)) := by
    refine ⟨(step_read_none LoginState.advance_self rfl).trans ?_, trivial⟩
    rw [LoginState.advance_advance]
  set held : LoginState :=
    { s with holder := some 0 }.advance 0 (.holding (probe "a") sampleUser 0 {}) with hheld
  have hinsert : RecordableStep samplePlatform (s.advance 0 (.absent (probe "a") sampleUser 0))
      ⟨.insert 0, none⟩ held := by
    refine ⟨(step_insert LoginState.advance_self rfl rfl).trans ?_, trivial⟩
    rw [hheld, ← @LoginState.advance_advance { s with holder := some 0 } 0
      (.absent (probe "a") sampleUser 0)]
    rfl
  have hopen : accountIsBlocked {} 0 = false := by decide
  have hwrong : verifyPassword samplePlatform sampleUser.passwordHash (probe "a").password =
      false := by decide
  have hfinish : RecordableStep samplePlatform held ⟨.finish 0 (.ok ()),
      some ⟨0, 0, .wrong probedRow, true⟩⟩ (probed 0 trail) := by
    refine ⟨?_, fun _ _ _ _ _ _ _ _ => hnothing _⟩
    refine (step_finish_wrong (i := 0) LoginState.advance_self hopen hwrong).trans ?_
    rw [show held.trail = .empty from rfl, htrail]
    have hclosed : update held.requests 0 .closed = closedUpTo 0 := by
      funext i
      by_cases h : i = 0
      · rw [h, update_self, closedUpTo, if_pos le_rfl]
      · rw [update_of_ne h, hheld, LoginState.advance_ne h, closedUpTo, if_neg (by omega)]
        rfl
    rw [probed, ← hclosed]
    rfl
  exact ((((Run.single harrive).snoc henter).snoc hread).snoc hinsert).snoc hfinish

theorem logins_limited_sample : samplePlatform.config.validateForStartup = .ok () ∧
    (∃ s, Run (RecordableStep samplePlatform) (.initial sampleUser 0) firstProbe s) ∧
    Limited samplePlatform.config (firstProbe.filterMap Event.report) := by
  obtain ⟨trail, -, hrun⟩ := first_probe_run
  have hvalid : samplePlatform.config.validateForStartup = .ok () := by decide
  refine ⟨hvalid, ⟨probed 0 trail, hrun⟩, ?_⟩
  exact (logins_limited hvalid hrun).1 firstProbe ⟨List.infix_rfl, by decide⟩

theorem length_failures_probes (n : ℕ) :
    (((probes n).filterMap Event.report).filterMap Report.failure?).length = n + 1 := by
  rw [probes, List.filterMap_append, List.filterMap_append, List.length_append, Nat.add_comm]
  congr 1
  induction n with
  | zero => rfl
  | succ n ih =>
    rw [List.range_succ, List.flatMap_append, List.flatMap_singleton, List.filterMap_append,
      List.filterMap_append, List.length_append, ih]
    rfl

theorem resets_probes (n : ℕ) : ∀ event ∈ probes n, event.resets = false := by
  intro event hevent
  rw [probes, List.mem_append, List.mem_flatMap] at hevent
  rcases hevent with hevent | ⟨k, -, hevent⟩
  · simp only [firstProbe, List.mem_cons, List.not_mem_nil, or_false] at hevent
    rcases hevent with rfl | rfl | rfl | rfl | rfl <;> rfl
  · simp only [nextProbe, List.mem_cons, List.not_mem_nil, or_false] at hevent
    rcases hevent with rfl | rfl | rfl | rfl <;> rfl

/-- A client that sends its requests under one id, and all but the first with another correlation
id, has a password verified more often than any limit allows; the account is not even locked. -/
theorem replayed_logins_unlimited : samplePlatform.config.validateForStartup = .ok () ∧
    ∃ s, Run (Step samplePlatform) (.initial sampleUser 0) (probes 100) s ∧
      Stretch Event.resets (probes 100) (probes 100) ∧
      ¬ Limited samplePlatform.config ((probes 100).filterMap Event.report) ∧
      (s.row.getD {}).passwordLocked = false := by
  obtain ⟨trail, hmem, hfirst⟩ := first_probe_run
  refine ⟨by decide, probed 100 trail, ?_, ⟨List.infix_rfl, resets_probes 100⟩, ?_, rfl⟩
  · exact (hfirst.imp fun _ _ _ h => h.1).append (replayed_run 100 hmem)
  · intro hlimited
    have hbounded := hlimited.bounded
    rw [length_failures_probes] at hbounded
    exact absurd hbounded (by decide)

end Probes

end Wbcz.Login

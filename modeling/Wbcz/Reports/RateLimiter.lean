import Mathlib.Algebra.Order.Ring.Rat
import Mathlib.Data.List.Induction
import Mathlib.Logic.Function.Basic
import Mathlib.Tactic.Linarith
import Wbcz.Errors
import Wbcz.Lib.Fallible
import Wbcz.Lib.Readings
import Wbcz.Lib.SlidingWindow

/-!
# The limiters of the dispenser

`DispenserRateLimiter` of `m11_reports.py` keeps the readings of admitted requests in memory, and
`consume_m11_rate` of `windows_agent_runtime.py` keeps them in a table, where they survive the
process. Clock readings are rational numbers; a list of readings is what `json.loads` reads of what
`json.dumps` wrote.
-/

namespace Wbcz.Reports.RateLimiter

open Function (update update_of_ne update_self)
open Fallible (bind_eq_ok ensure ensure_eq_ok)

/-! ## Capabilities -/

inductive DispenserCapabilityName where
  | createExport
  | getTask
  | listTasks
  | listResults
  | downloadResult
  | quotaByTaskType
  | quotaByReport
  | remoteResultDelete
  deriving DecidableEq, Repr

/-- `DispenserCapability`, with what its rate depends on. -/
structure DispenserCapability where
  requestsPerMinute : ℕ
  rateFamily : String
  enabled : Bool := true
  disabledReason : Option String := none

/-- `DISPENSER_CAPABILITIES`. -/
def DispenserCapabilityName.capability : DispenserCapabilityName → DispenserCapability
  | createExport => ⟨15, "CREATE", true, none⟩
  | getTask => ⟨5, "TASK", true, none⟩
  | listTasks => ⟨5, "TASK", true, none⟩
  | listResults => ⟨12, "RESULTS", true, none⟩
  | downloadResult => ⟨12, "RESULTS", true, none⟩
  | quotaByTaskType => ⟨10, "QUOTA", true, none⟩
  | quotaByReport => ⟨10, "QUOTA", true, none⟩
  | remoteResultDelete => ⟨12, "RESULTS", false, some "M11_REMOTE_DELETE_FORBIDDEN"⟩

/-- `DispenserRateDecision`. -/
structure DispenserRateDecision where
  allowed : Bool
  retryAfterSeconds : ℚ
  deriving DecidableEq

/-- A request of a capability for a scope, at a reading of the clock. -/
structure Request where
  name : DispenserCapabilityName
  scopeKey : String
  now : ℚ

/-- The scope and the rate family of a request. -/
def Request.key (request : Request) : String × String :=
  (request.scopeKey, request.name.capability.rateFamily)

/-- What both limiters refuse. -/
def checkRequest (request : Request) : Except PyError Unit := do
  ensure (request.name.capability.enabled = true) ⟨.other "ReportSecurityError",
    request.name.capability.disabledReason.getD "capability disabled"⟩
  ensure (request.scopeKey ≠ "") ⟨.other "ReportContractError", "rate scope key required"⟩

/-! ## The limiter in memory -/

/-- `_history`. -/
abbrev Histories := String × String → List ℚ

/-- `consume`. A full history has a first reading. -/
def consume (histories : Histories) (request : Request) :
    Except PyError (DispenserRateDecision × Histories) := do
  checkRequest request
  let threshold := request.now - 60
  let history := (histories request.key).dropWhile fun t => decide (t ≤ threshold)
  if request.name.capability.requestsPerMinute ≤ history.length then
    let retry := 60 - (request.now - history.head?.getD request.now)
    pure (⟨false, max 0 retry⟩, update histories request.key history)
  else
    pure (⟨true, 0⟩, update histories request.key (history ++ [request.now]))

/-! ## The durable limiter -/

/-- An item of a stored list. -/
inductive StoredItem where
  | number (value : ℚ)
  | other

def StoredItem.number? : StoredItem → Option ℚ
  | number value => some value
  | other => none

/-- A value that is stored as JSON. -/
inductive StoredHistory where
  | items (items : List StoredItem)
  | other

/-- `windows_agent_m11_rate_windows`. -/
abbrev RateWindows := String × String → Option StoredHistory

/-- The numbers of a stored list. -/
def loaded : Option StoredHistory → List ℚ
  | some (.items items) => items.filterMap StoredItem.number?
  | some .other => []
  | none => []

def dumped (kept : List ℚ) : StoredHistory := .items (kept.map .number)

/-- `consume_m11_rate`. A denial commits nothing. -/
def consumeM11Rate (windows : RateWindows) (request : Request) :
    Except PyError (DispenserRateDecision × RateWindows) := do
  checkRequest request
  let threshold := request.now - 60
  let kept := (loaded (windows request.key)).filter fun t => decide (threshold < t)
  if request.name.capability.requestsPerMinute ≤ kept.length then
    let retry := max 0 (60 - (request.now - kept.head?.getD request.now))
    pure (⟨false, retry⟩, windows)
  else
    pure (⟨true, 0⟩,
      update windows request.key (some (dumped (kept ++ [request.now]))))

/-! ## Runs -/

/-- An outcome, and the state after it; a request that raises changes nothing. -/
def answered {σ : Type} (state : σ) :
    Except PyError (DispenserRateDecision × σ) → Except PyError DispenserRateDecision × σ
  | .ok (decision, next) => (.ok decision, next)
  | .error e => (.error e, state)

/-- The histories after requests. -/
def after (histories : Histories) (requests : List Request) : Histories :=
  requests.foldl (fun state request => (answered state (consume state request)).2) histories

/-- Requests with their outcomes in memory. -/
def trace : Histories → List Request → List (Request × Except PyError DispenserRateDecision)
  | _, [] => []
  | histories, request :: rest =>
    (request, (answered histories (consume histories request)).1) ::
      trace (answered histories (consume histories request)).2 rest

/-- What happens to the durable limiter: a request, the end of a process and the start of the next
one, or a request during which the process ends before its commit. -/
inductive Event where
  | consume (request : Request)
  | restart
  | interrupted (request : Request)

/-- The requests that were answered. -/
def requests (events : List Event) : List Request :=
  events.filterMap fun event =>
    match event with
    | .consume request => some request
    | .restart => none
    | .interrupted _ => none

/-- The table after an event: a transaction that was not committed leaves nothing. -/
def Event.next (windows : RateWindows) : Event → RateWindows
  | consume request => (answered windows (consumeM11Rate windows request)).2
  | restart => windows
  | interrupted _ => windows

/-- Requests with their outcomes in the durable limiter. -/
def durableTrace : RateWindows → List Event → List (Request × Except PyError DispenserRateDecision)
  | _, [] => []
  | windows, event :: rest =>
    match event with
    | .consume request =>
      (request, (answered windows (consumeM11Rate windows request)).1) ::
        durableTrace (Event.next windows event) rest
    | .restart => durableTrace (Event.next windows event) rest
    | .interrupted _ => durableTrace (Event.next windows event) rest

/-- The readings of the admitted requests of a key. -/
def admittedAt (key : String × String)
    (entries : List (Request × Except PyError DispenserRateDecision)) : List ℚ :=
  entries.filterMap fun entry =>
    match entry with
    | (request, .ok ⟨true, _⟩) => if request.key = key then some request.now else none
    | _ => none

/-! ## One request -/

open SlidingWindow (Kept Same delay recent)

/-- The requests a minute of a rate family. -/
def limitOf (family : String) : ℕ :=
  if family = "CREATE" then 15 else if family = "TASK" then 5
  else if family = "RESULTS" then 12 else 10

/-- All capabilities of a family have its limit. -/
theorem requestsPerMinute_eq (name : DispenserCapabilityName) :
    name.capability.requestsPerMinute = limitOf name.capability.rateFamily := by
  cases name <;> decide

theorem limitOf_pos (family : String) : 0 < limitOf family := by
  unfold limitOf
  split_ifs <;> decide

/-- Admitted, or denied with a delay. -/
def decision : Option ℚ → DispenserRateDecision
  | none => ⟨true, 0⟩
  | some wait => ⟨false, max 0 wait⟩

section Request

variable {histories : Histories} {windows : RateWindows} {request : Request} {history : List ℚ}
  {e : PyError}

theorem consume_error (h : checkRequest request = .error e) (histories : Histories) :
    consume histories request = .error e := by
  rw [consume, h]
  rfl

theorem consumeM11Rate_error (h : checkRequest request = .error e) (windows : RateWindows) :
    consumeM11Rate windows request = .error e := by
  rw [consumeM11Rate, h]
  rfl

/-- The limiter in memory decides from the history that has not slid out, which it keeps. -/
theorem consume_eq (h : checkRequest request = .ok ())
    (hhistory : (histories request.key).Pairwise (· ≤ ·)) :
    consume histories request = .ok
      (decision (delay 60 (limitOf request.key.2) request.now
          (recent 60 request.now (histories request.key))),
        update histories request.key
          (if delay 60 (limitOf request.key.2) request.now
              (recent 60 request.now (histories request.key)) = none then
            recent 60 request.now (histories request.key) ++ [request.now]
          else recent 60 request.now (histories request.key))) := by
  have hlimit : request.name.capability.requestsPerMinute = limitOf request.key.2 :=
    requestsPerMinute_eq request.name
  have hpruned : (histories request.key).dropWhile (fun t => decide (t ≤ request.now - 60)) =
      recent 60 request.now (histories request.key) := SlidingWindow.dropWhile_eq_recent hhistory
  rw [consume, h, ← hpruned]
  by_cases hfull : limitOf request.key.2 ≤
      ((histories request.key).dropWhile fun t => decide (t ≤ request.now - 60)).length
  · rw [delay, if_pos hfull, if_neg (Option.some_ne_none _)]
    rw [← hlimit] at hfull
    exact if_pos hfull
  · rw [delay, if_neg hfull, if_pos rfl]
    rw [← hlimit] at hfull
    exact if_neg hfull

/-- The durable limiter decides from the stored history that has not slid out, and keeps it with an
admission. -/
theorem consumeM11Rate_eq (h : checkRequest request = .ok ()) (windows : RateWindows) :
    consumeM11Rate windows request = .ok
      (decision (delay 60 (limitOf request.key.2) request.now
          (recent 60 request.now (loaded (windows request.key)))),
        if delay 60 (limitOf request.key.2) request.now
            (recent 60 request.now (loaded (windows request.key))) = none then
          update windows request.key
            (some (dumped (recent 60 request.now (loaded (windows request.key)) ++ [request.now])))
        else windows) := by
  have hlimit : request.name.capability.requestsPerMinute = limitOf request.key.2 :=
    requestsPerMinute_eq request.name
  rw [consumeM11Rate, h]
  by_cases hfull : limitOf request.key.2 ≤
      (recent 60 request.now (loaded (windows request.key))).length
  · rw [delay, if_pos hfull, if_neg (Option.some_ne_none _)]
    rw [← hlimit] at hfull
    exact if_pos hfull
  · rw [delay, if_neg hfull, if_pos rfl]
    rw [← hlimit] at hfull
    exact if_neg hfull

theorem loaded_dumped (kept : List ℚ) : loaded (some (dumped kept)) = kept := by
  induction kept with
  | nil => rfl
  | cons t kept ih => exact congrArg (List.cons t) ih

end Request

/-! ## What both limiters keep -/

/-- The table after events. -/
def windowsAfter (windows : RateWindows) (events : List Event) : RateWindows :=
  events.foldl Event.next windows

/-- Both histories of a key tell what the admitted readings tell. -/
structure Tells (limit : ℕ) (last : ℚ) (history stored admitted : List ℚ) : Prop where
  kept : Kept 60 limit last admitted
  order : history.Pairwise (· ≤ ·)
  memory : Same 60 last history admitted
  durable : Same 60 last stored admitted

section Tells

variable {limit : ℕ} {last now : ℚ} {history stored admitted : List ℚ}

theorem Tells.nil : Tells limit last [] [] [] :=
  ⟨Kept.nil, List.Pairwise.nil, Same.refl, Same.refl⟩

theorem Tells.mono (h : Tells limit last history stored admitted) (hle : last ≤ now) :
    Tells limit now history stored admitted :=
  ⟨h.kept.mono hle, h.order, h.memory.mono hle, h.durable.mono hle⟩

/-- Both limiters see the same window. -/
theorem Tells.recent_eq (h : Tells limit now history stored admitted) :
    recent 60 now history = recent 60 now admitted ∧
      recent 60 now stored = recent 60 now admitted :=
  ⟨h.memory now le_rfl, h.durable now le_rfl⟩

/-- An admitted request. -/
theorem Tells.admit (h : Tells limit now history stored admitted)
    (hallow : delay 60 limit now (recent 60 now admitted) = none) :
    Tells limit now (recent 60 now history ++ [now]) (recent 60 now stored ++ [now])
      (admitted ++ [now]) where
  kept := h.kept.snoc hallow
  order := by
    rw [h.recent_eq.1, List.pairwise_append]
    refine ⟨h.kept.order.filter _, List.pairwise_singleton .., fun t ht u hu => ?_⟩
    rw [List.mem_singleton.mp hu]
    exact h.kept.past t (List.mem_filter.mp ht).1
  memory := (h.memory.recent le_rfl).snoc now
  durable := (h.durable.recent le_rfl).snoc now

/-- A denied request. -/
theorem Tells.deny (h : Tells limit now history stored admitted) :
    Tells limit now (recent 60 now history) stored admitted :=
  ⟨h.kept, h.order.filter _, h.memory.recent le_rfl, h.durable⟩

end Tells

section Runs

variable {histories : Histories} {windows : RateWindows}

theorem requests_append (events more : List Event) :
    requests (events ++ more) = requests events ++ requests more :=
  List.filterMap_append

theorem after_append (first more : List Request) :
    after histories (first ++ more) = after (after histories first) more :=
  List.foldl_append

theorem windowsAfter_append (first more : List Event) :
    windowsAfter windows (first ++ more) = windowsAfter (windowsAfter windows first) more :=
  List.foldl_append

theorem trace_append (first more : List Request) :
    trace histories (first ++ more) =
      trace histories first ++ trace (after histories first) more := by
  induction first generalizing histories with
  | nil => rfl
  | cons request first ih =>
    rw [List.cons_append, trace, ih]
    rfl

theorem durableTrace_append (first more : List Event) :
    durableTrace windows (first ++ more) =
      durableTrace windows first ++ durableTrace (windowsAfter windows first) more := by
  induction first generalizing windows with
  | nil => rfl
  | cons event first ih =>
    cases event with
    | consume request =>
      rw [List.cons_append, durableTrace, ih]
      rfl
    | restart => exact ih
    | interrupted request => exact ih

theorem admittedAt_append {key : String × String}
    (first more : List (Request × Except PyError DispenserRateDecision)) :
    admittedAt key (first ++ more) = admittedAt key first ++ admittedAt key more :=
  List.filterMap_append

end Runs

section Step

variable {histories : Histories} {windows : RateWindows} {admitted : String × String → List ℚ}
  {request : Request}

/-- A request has the same outcome in both limiters, and both still tell what was admitted. -/
theorem step_tells
    (h : ∀ key, Tells (limitOf key.2) request.now (histories key) (loaded (windows key))
      (admitted key)) :
    (answered windows (consumeM11Rate windows request)).1 =
        (answered histories (consume histories request)).1 ∧
      ∀ key, Tells (limitOf key.2) request.now
        ((answered histories (consume histories request)).2 key)
        (loaded ((answered windows (consumeM11Rate windows request)).2 key))
        (admitted key ++
          admittedAt key [(request, (answered histories (consume histories request)).1)]) := by
  cases hcheck : checkRequest request with
  | error e =>
    rw [consume_error hcheck, consumeM11Rate_error hcheck]
    refine ⟨rfl, fun key => ?_⟩
    have hnone : admittedAt key
        [(request, (.error e : Except PyError DispenserRateDecision))] = [] := rfl
    rw [answered, answered, hnone, List.append_nil]
    exact h key
  | ok done =>
    have hown := h request.key
    obtain ⟨hmemory, hdurable⟩ := hown.recent_eq
    rw [consume_eq hcheck hown.order, consumeM11Rate_eq hcheck windows, hmemory, hdurable]
    refine ⟨rfl, fun key => ?_⟩
    by_cases hkey : request.key = key
    · subst hkey
      cases hdelay : delay 60 (limitOf request.key.2) request.now
          (recent 60 request.now (admitted request.key)) with
      | none =>
        have hadmitted : admittedAt request.key
            [(request, (.ok (decision none) : Except PyError DispenserRateDecision))] =
              [request.now] := by
          simp [admittedAt, decision]
        simp only [answered, if_true, update_self, loaded_dumped, hadmitted]
        have hafter := hown.admit hdelay
        rwa [hmemory, hdurable] at hafter
      | some wait =>
        have hdenied : admittedAt request.key
            [(request, (.ok (decision (some wait)) : Except PyError DispenserRateDecision))] =
              [] := rfl
        simp only [answered, reduceCtorEq, if_false, update_self, hdenied, List.append_nil]
        rw [← hmemory]
        exact hown.deny
    · -- the other keys are not touched
      have hnone : ∀ wait, admittedAt key
          [(request, (.ok (decision wait) : Except PyError DispenserRateDecision))] = [] := by
        intro wait
        cases wait <;> simp [admittedAt, decision, hkey]
      have hother : ∀ (state : RateWindows) (value : Option StoredHistory),
          update state request.key value key = state key := fun state value =>
        update_of_ne (Ne.symm hkey) value state
      simp only [answered, hnone, List.append_nil, update_of_ne (Ne.symm hkey)]
      split
      · rw [hother]
        exact h key
      · exact h key

end Step

/-! ## Every run -/

/-- `__init__`. -/
def init : Histories := fun _ => []

/-- A table without rows. -/
def noWindows : RateWindows := fun _ => none

/-- What both limiters have decided, and what they still tell. -/
structure KeptAndSame (events : List Event) : Prop where
  tells : ∀ key last, (∀ request ∈ requests events, request.now ≤ last) →
    Tells (limitOf key.2) last (after init (requests events) key)
      (loaded (windowsAfter noWindows events key))
      (admittedAt key (trace init (requests events)))
  same : durableTrace noWindows events = trace init (requests events)

variable {events : List Event}

/-- After every run both limiters tell what was admitted, and they have decided the same. -/
theorem kept_and_same (horder : Readings.InOrder Request.now (requests events)) :
    KeptAndSame events := by
  induction events using List.reverseRecOn with
  | nil => exact ⟨fun _ _ _ => Tells.nil, rfl⟩
  | append_singleton events event ih =>
    rw [requests_append, Readings.InOrder, List.pairwise_append] at horder
    obtain ⟨hbefore, -, hlast⟩ := horder
    obtain ⟨htells, hsame⟩ := ih hbefore
    -- an event that is no request changes no history
    have hsilent : requests [event] = [] → Event.next (windowsAfter noWindows events) event =
        windowsAfter noWindows events → durableTrace (windowsAfter noWindows events) [event] = [] →
        KeptAndSame (events ++ [event]) := by
      intro hnone hnext htrace
      have hrequests : requests (events ++ [event]) = requests events := by
        rw [requests_append, hnone, List.append_nil]
      have hwindows : windowsAfter noWindows (events ++ [event]) =
          windowsAfter noWindows events := by
        rw [windowsAfter_append]
        exact hnext
      constructor
      · rw [hrequests, hwindows]
        exact htells
      · rw [hrequests, durableTrace_append, htrace, List.append_nil]
        exact hsame
    cases event with
    | restart => exact hsilent rfl rfl rfl
    | interrupted request => exact hsilent rfl rfl rfl
    | consume request =>
      have hpast : ∀ earlier ∈ requests events, earlier.now ≤ request.now := fun earlier hearlier =>
        hlast earlier hearlier request (List.mem_singleton_self _)
      obtain ⟨houtcome, hstep⟩ := step_tells fun key => htells key request.now hpast
      have hrequests : requests (events ++ [.consume request]) = requests events ++ [request] :=
        requests_append ..
      constructor
      · intro key last hall
        rw [hrequests] at hall ⊢
        have hle := hall request (List.mem_append_right _ (List.mem_singleton_self _))
        rw [after_append, windowsAfter_append, trace_append, admittedAt_append]
        exact (hstep key).mono hle
      · rw [hrequests, durableTrace_append, trace_append, hsame]
        refine congrArg (trace init (requests events) ++ ·) ?_
        exact congrArg (fun outcome => [(request, outcome)]) houtcome

/-- A window of a minute has no more admitted requests than the limit; the delay of a denial is the
least after which the request is admitted; and the durable limiter decides what the limiter in
memory decides. -/
structure KeepsRate (events : List Event) : Prop where
  window : ∀ (name : DispenserCapabilityName) (scopeKey : String) (start : ℚ),
    ((admittedAt (scopeKey, name.capability.rateFamily) (trace init (requests events))).filter
        fun t => decide (start ≤ t ∧ t < start + 60)).length ≤ name.capability.requestsPerMinute ∧
      ((admittedAt (scopeKey, name.capability.rateFamily) (trace init (requests events))).filter
        fun t => decide (start < t ∧ t ≤ start + 60)).length ≤ name.capability.requestsPerMinute
  delay : ∀ earlier request rest wait, requests events = earlier ++ request :: rest →
    (answered (after init earlier) (consume (after init earlier) request)).1 = .ok ⟨false, wait⟩ →
    ∀ later, request.now ≤ later →
      ((answered (after init (earlier ++ [request]))
        (consume (after init (earlier ++ [request])) { request with now := later })).1 =
          .ok ⟨true, 0⟩ ↔ request.now + wait ≤ later)
  same : durableTrace noWindows events = trace init (requests events)

/-- A minute is narrow, with either of its ends. -/
theorem narrow_minute (start : ℚ) : SlidingWindow.Narrow 60 (fun t => start ≤ t ∧ t < start + 60) ∧
    SlidingWindow.Narrow 60 (fun t => start < t ∧ t ≤ start + 60) := by
  constructor
  · rintro a b ⟨-, ha⟩ ⟨hb, -⟩
    linarith
  · rintro a b ⟨-, ha⟩ ⟨hb, -⟩
    linarith

/-- Requests that were never interrupted. -/
theorem requests_map_consume (earlier : List Request) :
    requests (earlier.map Event.consume) = earlier := by
  induction earlier with
  | nil => rfl
  | cons request earlier ih => exact congrArg (List.cons request) ih

/-- The delay of a denial is exact in every state in which the history tells what was admitted. -/
theorem exact_delay {histories : Histories} {request : Request} {stored admitted : List ℚ}
    {wait later : ℚ}
    (h : Tells (limitOf request.key.2) request.now (histories request.key) stored admitted)
    (hdenied : (answered histories (consume histories request)).1 = .ok ⟨false, wait⟩)
    (hlater : request.now ≤ later) :
    (answered (answered histories (consume histories request)).2
        (consume (answered histories (consume histories request)).2
          { request with now := later })).1 = .ok ⟨true, 0⟩ ↔
      request.now + wait ≤ later := by
  cases hcheck : checkRequest request with
  | error e =>
    rw [consume_error hcheck] at hdenied
    cases hdenied
  | ok done =>
    have hanswer := consume_eq hcheck h.order
    rw [h.recent_eq.1] at hanswer
    cases hdelay : delay 60 (limitOf request.key.2) request.now
        (recent 60 request.now admitted) with
    | none =>
      rw [hanswer, hdelay] at hdenied
      simp [answered, decision] at hdenied
    | some d =>
      have hpos := SlidingWindow.delay_pos (limitOf_pos _) hdelay
      have hwait : wait = d := by
        rw [hanswer, hdelay] at hdenied
        have hmax : max 0 d = wait := (DispenserRateDecision.mk.inj (Except.ok.inj hdenied)).2
        rw [← hmax, max_eq_right hpos.le]
      -- the request comes again, and finds what has not slid out
      have hkey : (answered histories (consume histories request)).2 request.key =
          recent 60 request.now admitted := by
        rw [hanswer, hdelay, if_neg (Option.some_ne_none d)]
        exact update_self ..
      obtain ⟨next, hagain⟩ : ∃ next, consume (answered histories (consume histories request)).2
          { request with now := later } = .ok (decision (delay 60 (limitOf request.key.2) later
            (recent 60 later ((answered histories (consume histories request)).2 request.key))),
              next) :=
        ⟨_, consume_eq hcheck (hkey ▸ h.kept.order.filter _)⟩
      rw [hkey, SlidingWindow.recent_recent hlater] at hagain
      rw [hwait, ← h.kept.admits_iff (limitOf_pos _) hdelay hlater, hagain]
      cases delay 60 (limitOf request.key.2) later (recent 60 later admitted) with
      | none => simp [answered, decision]
      | some left => simp [answered, decision]

/-- A task is looked up once, and once more after the agent was started anew. -/
def twoLookups : List Event :=
  [.consume ⟨.getTask, "participant-a", 0⟩, .restart, .consume ⟨.listTasks, "participant-a", 30⟩]

end Wbcz.Reports.RateLimiter

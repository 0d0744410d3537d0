import Mathlib.Algebra.Ring.Int.Defs
import Wbcz.Errors
import Wbcz.Lib.Fallible
import Wbcz.Lib.Json
import Wbcz.Lib.Tiling

/-!
# The first synchronisation with Wildberries

`FirstRunBackfillPolicy` of `wb_fbs.py` cuts the time before the first run into windows, and
`FbsCurrentQuery` takes no window of more than thirty days. A `datetime` in UTC is its number of
microseconds since 1970; what lies outside the years 1 to 9999 raises `OverflowError`.
-/

namespace Wbcz.Marketplace.Backfill

open Fallible (bind_eq_ok ensure)
open Tiling (Tiles windowCount)

def contractError (message : String) : PyError := ⟨.other "WbContractError", message⟩

def overflowError : PyError := ⟨.other "OverflowError", ""⟩

def currentMaxWindowDays : ℤ := 30

def orderFeedMaxWindowDays : ℤ := 31

def supplierSalesGuaranteedStorageDays : ℤ := 90

/-! ## Queries -/

structure FbsCurrentQuery where
  limit : ℤ
  nextCursor : ℤ := 0
  dateFrom : Option ℤ := none
  dateTo : Option ℤ := none

/-- `FbsCurrentQuery.params`. -/
def FbsCurrentQuery.params (q : FbsCurrentQuery) : Except PyError Json := do
  ensure (1 ≤ q.limit ∧ q.limit ≤ 1000) (contractError "limit must be 1..1000")
  ensure (0 ≤ q.nextCursor) (contractError "next must be >=0")
  ensure (q.dateFrom.isNone = q.dateTo.isNone) (contractError "dateFrom/dateTo must be paired")
  let out := [("limit", .int q.limit), ("next", .int q.nextCursor)]
  match q.dateFrom, q.dateTo with
  | some dateFrom, some dateTo =>
    ensure (dateFrom ≤ dateTo ∧ dateTo - dateFrom ≤ currentMaxWindowDays * 86400)
      (contractError "current window exceeds 30 days")
    pure (.obj (out ++ [("dateFrom", .int dateFrom), ("dateTo", .int dateTo)]))
  | _, _ => pure (.obj out)

/-! ## Times -/

/-- `datetime.min` in UTC. -/
def minTime : ℤ := -62135596800000000

/-- `datetime.max` in UTC. -/
def maxTime : ℤ := 253402300799999999

def dayMicros : ℤ := 86400000000

/-- A sum of a `datetime` and a `timedelta`. -/
def checked (t : ℤ) : Except PyError ℤ :=
  if t < minTime ∨ maxTime < t then .error overflowError else .ok t

/-- A `datetime`, with the offset of its zone where it has one. -/
inductive DateTime where
  | naive (clock : ℤ)
  | aware (clock offset : ℤ)

/-- `_utc`. -/
def utc : DateTime → Except PyError ℤ
  | .naive _ => .error (contractError "timezone-aware datetime required")
  | .aware clock offset => checked (clock - offset)

/-- `int(t.timestamp())`. -/
def unixSeconds (t : ℤ) : ℤ := Int.tdiv t 1000000

/-! ## The policy -/

structure FirstRunBackfillPolicy where
  currentHorizonDays : ℤ
  orderFeedHorizonDays : ℤ
  goodsReturnHorizonDays : ℤ
  supplierSalesHorizonDays : ℤ
  archiveStartYear : Option ℤ := none
  archiveStartMonth : Option ℤ := none

/-- The longest window of a query. -/
def maxWindow : ℤ := currentMaxWindowDays * dayMicros

/-- The loop of `current_windows`. -/
def windowsFrom (stop cursor : ℤ) : Except PyError (List (ℤ × ℤ)) :=
  if cursor < stop then
    if maxTime < cursor + maxWindow then .error overflowError
    else
      let next := min (cursor + maxWindow) stop
      match windowsFrom stop next with
      | .error e => .error e
      | .ok windows => .ok ((cursor, next) :: windows)
  else .ok []
termination_by (stop - cursor).toNat
decreasing_by
  have hwindow : 0 < maxWindow := by decide
  omega

namespace FirstRunBackfillPolicy

/-- `FirstRunBackfillPolicy.validate`. -/
def validate (policy : FirstRunBackfillPolicy) : Except PyError Unit := do
  ensure (0 < policy.currentHorizonDays ∧ 0 < policy.orderFeedHorizonDays ∧
      0 < policy.goodsReturnHorizonDays ∧ 0 < policy.supplierSalesHorizonDays)
    (contractError "backfill horizons must be positive integers")
  ensure (policy.orderFeedHorizonDays ≤ orderFeedMaxWindowDays)
    (contractError "Order Feed first-run horizon cannot exceed current 31-day source domain")
  ensure (policy.supplierSalesHorizonDays ≤ supplierSalesGuaranteedStorageDays)
    (contractError "Supplier Sales backfill cannot assume more than guaranteed storage")
  ensure (policy.archiveStartYear.isNone = policy.archiveStartMonth.isNone)
    (contractError "archive start year/month must be paired")
  ensure ((policy.archiveStartMonth.all fun month => 1 ≤ month && month ≤ 12) = true)
    (contractError "archive start month invalid")

/-- `FirstRunBackfillPolicy.current_windows`. -/
def currentWindows (policy : FirstRunBackfillPolicy) (stop : DateTime) :
    Except PyError (List (ℤ × ℤ)) := do
  policy.validate
  let endUtc ← utc stop
  let start ← checked (endUtc - policy.currentHorizonDays * dayMicros)
  windowsFrom endUtc start

/-- All windows, taken in full, are within the years 1 to 9999. -/
def Fits (policy : FirstRunBackfillPolicy) (endUtc : ℤ) : Prop :=
  minTime ≤ endUtc - policy.currentHorizonDays * dayMicros ∧
    endUtc - policy.currentHorizonDays * dayMicros +
      windowCount currentMaxWindowDays policy.currentHorizonDays * maxWindow ≤ maxTime

end FirstRunBackfillPolicy

/-! ## The windows -/

section Windows

variable {stop cursor : ℤ}

theorem maxWindow_pos : 0 < maxWindow := by decide

theorem windowsFrom_of_le (h : stop ≤ cursor) : windowsFrom stop cursor = .ok [] := by
  rw [windowsFrom, if_neg (not_lt.mpr h)]

/-- One round of the loop. -/
theorem windowsFrom_step (hlt : cursor < stop) (hmax : cursor + maxWindow ≤ maxTime) :
    windowsFrom stop cursor = (windowsFrom stop (min (cursor + maxWindow) stop)).map
      fun windows => (cursor, min (cursor + maxWindow) stop) :: windows := by
  rw [windowsFrom, if_pos hlt, if_neg (not_lt.mpr hmax)]
  dsimp only
  cases windowsFrom stop (min (cursor + maxWindow) stop) with
  | error e => rfl
  | ok windows => rfl

/-- The loop ends with windows that tile the time from the cursor to the end. -/
theorem windowsFrom_ok (hlt : cursor < stop)
    (hmax : cursor + windowCount maxWindow (stop - cursor) * maxWindow ≤ maxTime) :
    ∃ windows, windowsFrom stop cursor = .ok windows ∧ Tiles cursor stop windows ∧
      windows.length = windowCount maxWindow (stop - cursor) ∧
      ∀ window ∈ windows, window.2 - window.1 ≤ maxWindow := by
  have hwidth := maxWindow_pos
  induction hleft : (stop - cursor).toNat using Nat.strong_induction_on generalizing cursor with
  | _ left ih =>
    by_cases hlast : stop ≤ cursor + maxWindow
    · have hcount := Tiling.windowCount_of_le (by omega) (by omega : stop - cursor ≤ maxWindow)
      rw [hcount] at hmax ⊢
      refine ⟨[(cursor, stop)], ?_, ⟨rfl, hlt, rfl⟩, rfl, ?_⟩
      · rw [windowsFrom_step hlt (by omega), min_eq_right hlast, windowsFrom_of_le le_rfl]
        rfl
      · rintro _ (_ | ⟨_, ⟨⟩⟩)
        exact (by omega : stop - cursor ≤ maxWindow)
    · have hnext : cursor + maxWindow < stop := not_le.mp hlast
      have hrest : stop - cursor = stop - (cursor + maxWindow) + maxWindow := by omega
      rw [hrest, Tiling.windowCount_add hwidth (by omega)] at hmax ⊢
      push_cast at hmax
      rw [add_mul, one_mul] at hmax
      obtain ⟨windows, hwindows, htiles, hlength, hwide⟩ :=
        ih _ (by omega) hnext (by omega) rfl
      have hnonneg : 0 ≤ (windowCount maxWindow (stop - (cursor + maxWindow)) : ℤ) * maxWindow :=
        Int.mul_nonneg (Int.natCast_nonneg _) hwidth.le
      refine ⟨(cursor, cursor + maxWindow) :: windows, ?_, ⟨rfl, ?_, htiles⟩, ?_, ?_⟩
      · rw [windowsFrom_step hlt (by omega), min_eq_left hnext.le, hwindows]
        rfl
      · exact (by omega : cursor < cursor + maxWindow)
      · rw [List.length_cons, hlength]
      · intro window hwindow
        rcases List.mem_cons.mp hwindow with rfl | hwindow
        · exact (by omega : cursor + maxWindow - cursor ≤ maxWindow)
        · exact hwide window hwindow

/-- It fails where a window, taken in full, would end too late. -/
theorem windowsFrom_overflow (hlt : cursor < stop)
    (hmax : maxTime < cursor + windowCount maxWindow (stop - cursor) * maxWindow) :
    windowsFrom stop cursor = .error overflowError := by
  have hwidth := maxWindow_pos
  induction hleft : (stop - cursor).toNat using Nat.strong_induction_on generalizing cursor with
  | _ left ih =>
    by_cases hfirst : maxTime < cursor + maxWindow
    · rw [windowsFrom, if_pos hlt, if_pos hfirst]
    · have hnext : cursor + maxWindow < stop := by
        by_contra hlast
        rw [Tiling.windowCount_of_le (by omega) (by omega)] at hmax
        omega
      have hrest : stop - cursor = stop - (cursor + maxWindow) + maxWindow := by omega
      rw [hrest, Tiling.windowCount_add hwidth (by omega)] at hmax
      push_cast at hmax
      rw [add_mul, one_mul] at hmax
      rw [windowsFrom_step hlt (by omega), min_eq_left hnext.le,
        ih _ (by omega) hnext (by omega) rfl]
      rfl

/-- The horizon has as many windows in days as in microseconds. -/
theorem windowCount_days (days : ℤ) :
    windowCount maxWindow (days * dayMicros) = windowCount currentMaxWindowDays days := by
  unfold windowCount maxWindow currentMaxWindowDays dayMicros
  congr 1
  omega

theorem utc_eq_ok {time : DateTime} {t : ℤ} (h : utc time = .ok t) : minTime ≤ t ∧ t ≤ maxTime := by
  cases time with
  | naive clock => cases h
  | aware clock offset =>
    obtain ⟨hrange, htime⟩ := Fallible.guard_eq_ok.mp h
    have heq := Except.ok.inj htime
    omega

/-- `int` cuts the fraction off, before 1970 upwards. -/
theorem unixSeconds_eq (t : ℤ) :
    unixSeconds t = if 0 ≤ t then t / 1000000 else -(-t / 1000000) := by
  unfold unixSeconds
  split_ifs with h
  · exact Int.tdiv_eq_ediv_of_nonneg h
  · rw [← Int.tdiv_eq_ediv_of_nonneg (by omega : 0 ≤ -t), Int.neg_tdiv, neg_neg]

/-- A window of at most thirty days makes a query. -/
theorem params_of_window {window : ℤ × ℤ} (hlt : window.1 < window.2)
    (hwide : window.2 - window.1 ≤ maxWindow) {limit nextCursor : ℤ}
    (hlimit : 1 ≤ limit ∧ limit ≤ 1000) (hnext : 0 ≤ nextCursor) :
    FbsCurrentQuery.params ⟨limit, nextCursor, some (unixSeconds window.1),
        some (unixSeconds window.2)⟩ =
      .ok (.obj [("limit", .int limit), ("next", .int nextCursor),
        ("dateFrom", .int (unixSeconds window.1)), ("dateTo", .int (unixSeconds window.2))]) := by
  have hseconds : unixSeconds window.1 ≤ unixSeconds window.2 ∧
      unixSeconds window.2 - unixSeconds window.1 ≤ currentMaxWindowDays * 86400 := by
    unfold maxWindow currentMaxWindowDays dayMicros at hwide
    rw [unixSeconds_eq, unixSeconds_eq, currentMaxWindowDays]
    split_ifs <;> omega
  simp [FbsCurrentQuery.params, ensure, hlimit, hnext, hseconds]
  rfl

end Windows

/-- Seventy-five days before 2026-09-19T12:00:00Z, in three windows. -/
def quarterPolicy : FirstRunBackfillPolicy := ⟨75, 31, 62, 90, some 2025, some 1⟩

def noon : ℤ := 1789819200000000

end Wbcz.Marketplace.Backfill

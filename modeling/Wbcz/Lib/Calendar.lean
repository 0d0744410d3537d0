import Mathlib.Data.Nat.Basic
import Mathlib.Data.Int.Notation
import Mathlib.Order.Basic

/-!
# Dates and moments

Dates of the Gregorian calendar from year 1 to year 9999 and times of day in microseconds, as
`datetime` has them. A moment is moved by less than a day, from the clock of one time zone to that
of another, and then its date changes by one day at most.
-/

namespace Calendar

/-! ## Dates -/

def isLeap (year : ℕ) : Bool := year % 4 = 0 && (year % 100 ≠ 0 || year % 400 = 0)

def daysInMonth (year month : ℕ) : ℕ :=
  if month = 2 then if isLeap year then 29 else 28
  else if month = 4 ∨ month = 6 ∨ month = 9 ∨ month = 11 then 30
  else 31

theorem daysInMonth_le (year month : ℕ) : daysInMonth year month ≤ 31 := by
  unfold daysInMonth
  split_ifs <;> omega

/-- The fields of a date. -/
def IsDate (year month day : ℕ) : Prop :=
  (1 ≤ year ∧ year ≤ 9999) ∧ (1 ≤ month ∧ month ≤ 12) ∧ 1 ≤ day ∧ day ≤ daysInMonth year month

instance (year month day : ℕ) : Decidable (IsDate year month day) :=
  inferInstanceAs (Decidable (_ ∧ _))

/-- `date`. -/
structure Date where
  year : ℕ
  month : ℕ
  day : ℕ
  valid : IsDate year month day
  deriving DecidableEq

namespace Date

variable {d e : Date}

@[ext] theorem ext (hyear : d.year = e.year) (hmonth : d.month = e.month) (hday : d.day = e.day) :
    d = e := by
  cases d
  cases e
  simp_all

/-- `date(year, month, day)`, where it does not raise. -/
def ofFields? (year month day : ℕ) : Option Date :=
  if h : IsDate year month day then some ⟨year, month, day, h⟩ else none

theorem ofFields?_eq_some {year month day : ℕ} :
    ofFields? year month day = some d ↔ d.year = year ∧ d.month = month ∧ d.day = day := by
  unfold ofFields?
  split
  · constructor
    · rintro ⟨⟩
      exact ⟨rfl, rfl, rfl⟩
    · rintro ⟨rfl, rfl, rfl⟩
      rfl
  · rename_i h
    refine iff_of_false (by simp) ?_
    rintro ⟨rfl, rfl, rfl⟩
    exact h d.valid

@[simp] theorem ofFields?_self (d : Date) : ofFields? d.year d.month d.day = some d :=
  ofFields?_eq_some.mpr ⟨rfl, rfl, rfl⟩

/-- The day after. -/
def next (d : Date) : Option Date :=
  if d.day < daysInMonth d.year d.month then ofFields? d.year d.month (d.day + 1)
  else if d.month < 12 then ofFields? d.year (d.month + 1) 1
  else ofFields? (d.year + 1) 1 1

/-- The day before. -/
def prev (d : Date) : Option Date :=
  if 1 < d.day then ofFields? d.year d.month (d.day - 1)
  else if 1 < d.month then ofFields? d.year (d.month - 1) (daysInMonth d.year (d.month - 1))
  else ofFields? (d.year - 1) 12 31

theorem next_of_prev (h : d.prev = some e) : e.next = some d := by
  obtain ⟨hyear, hmonth, hday⟩ := d.valid
  unfold prev at h
  unfold next
  split at h
  · obtain ⟨hy, hm, he⟩ := ofFields?_eq_some.mp h
    rw [hy, hm, he, if_pos (by omega), ofFields?_eq_some]
    omega
  · split at h
    · obtain ⟨hy, hm, he⟩ := ofFields?_eq_some.mp h
      rw [if_neg (by rw [hy, hm]; omega), if_pos (by omega), ofFields?_eq_some]
      omega
    · obtain ⟨hy, hm, he⟩ := ofFields?_eq_some.mp h
      have hmonth : daysInMonth e.year e.month = 31 := by rw [hm]; rfl
      rw [if_neg (by omega), if_neg (by omega), ofFields?_eq_some]
      omega

theorem prev_of_next (h : d.next = some e) : e.prev = some d := by
  obtain ⟨hyear, hmonth, hday⟩ := d.valid
  unfold next at h
  unfold prev
  split at h
  · obtain ⟨hy, hm, he⟩ := ofFields?_eq_some.mp h
    rw [if_pos (by omega), ofFields?_eq_some]
    omega
  · split at h
    · obtain ⟨hy, hm, he⟩ := ofFields?_eq_some.mp h
      have hlast : d.day = daysInMonth d.year d.month := by omega
      rw [if_neg (by omega), if_pos (by omega), hy, hm, Nat.add_sub_cancel, ofFields?_eq_some]
      exact ⟨rfl, rfl, hlast⟩
    · obtain ⟨hy, hm, he⟩ := ofFields?_eq_some.mp h
      have hmonth : d.month = 12 := by omega
      have hdays : daysInMonth d.year d.month = 31 := by rw [hmonth]; rfl
      rw [if_neg (by omega), if_neg (by omega), ofFields?_eq_some]
      omega

theorem ne_of_next (h : d.next = some e) : e ≠ d := by
  rintro rfl
  unfold next at h
  split at h
  · have := (ofFields?_eq_some.mp h).2.2
    omega
  · split at h
    · have := (ofFields?_eq_some.mp h).2.1
      omega
    · have := (ofFields?_eq_some.mp h).1
      omega

theorem ne_of_prev (h : d.prev = some e) : e ≠ d := (ne_of_next (next_of_prev h)).symm

/-- The date so many days later. -/
def later (d : Date) : ℕ → Option Date
  | 0 => some d
  | n + 1 => (d.later n).bind next

/-- The date so many days before. -/
def earlier (d : Date) : ℕ → Option Date
  | 0 => some d
  | n + 1 => (d.earlier n).bind prev

/-- The place of a date among all dates. -/
def key (d : Date) : ℕ := (d.year * 100 + d.month) * 100 + d.day

theorem key_injective : Function.Injective key := by
  intro d e h
  obtain ⟨-, hd, hdd⟩ := d.valid
  obtain ⟨-, he, hed⟩ := e.valid
  have hdl := daysInMonth_le d.year d.month
  have hel := daysInMonth_le e.year e.month
  unfold key at h
  apply ext <;> omega

/-- Dates in the order of the calendar. -/
instance : LinearOrder Date := LinearOrder.lift' key key_injective

end Date

/-! ## Moments -/

/-- The microseconds of a day. -/
def dayMicros : ℕ := 86400000000

/-- A date and a time of day in microseconds. -/
structure Moment where
  date : Date
  time : ℕ
  time_lt : time < dayMicros
  deriving DecidableEq

namespace Moment

variable {t u : Moment}

@[ext] theorem ext (hdate : t.date = u.date) (htime : t.time = u.time) : t = u := by
  cases t
  cases u
  simp_all

/-- The place of a moment among all moments. -/
def key (t : Moment) : ℕ := t.date.key * dayMicros + t.time

theorem key_injective : Function.Injective key := by
  intro t u h
  have ht := t.time_lt
  have hu := u.time_lt
  unfold key dayMicros at *
  have hdate : t.date.key = u.date.key := by omega
  exact ext (Date.key_injective hdate) (by omega)

/-- Moments in the order of time. -/
instance : LinearOrder Moment := LinearOrder.lift' key key_injective

/-- The days that a moment moved by less than a day goes forward. -/
def days (t : Moment) (micros : ℤ) : ℤ := (t.time + micros) / dayMicros

/-- The time of day of a moment that was moved. -/
def timeAfter (t : Moment) (micros : ℤ) : ℕ := ((t.time + micros) % dayMicros).toNat

theorem timeAfter_lt (t : Moment) (micros : ℤ) : t.timeAfter micros < dayMicros := by
  unfold timeAfter dayMicros
  omega

/-- The date of a moment that was moved by less than a day. -/
def dateAfter (t : Moment) (micros : ℤ) : Option Date :=
  if t.days micros < 0 then t.date.prev
  else if t.days micros = 0 then some t.date
  else t.date.next

/-- A moment moved by less than a day, where `datetime` has it. -/
def shift (t : Moment) (micros : ℤ) : Option Moment :=
  (t.dateAfter micros).map fun date => ⟨date, t.timeAfter micros, t.timeAfter_lt micros⟩

theorem shift_eq_some {micros : ℤ} :
    t.shift micros = some u ↔ t.dateAfter micros = some u.date ∧ t.timeAfter micros = u.time := by
  unfold shift
  rw [Option.map_eq_some_iff]
  constructor
  · rintro ⟨date, hdate, rfl⟩
    exact ⟨hdate, rfl⟩
  · rintro ⟨hdate, htime⟩
    exact ⟨u.date, hdate, ext rfl htime⟩

@[simp] theorem shift_zero (t : Moment) : t.shift 0 = some t := by
  have ht := t.time_lt
  unfold dayMicros at ht
  refine shift_eq_some.mpr ⟨?_, ?_⟩
  · have hdays : t.days 0 = 0 := by unfold days dayMicros; omega
    rw [dateAfter, hdays]
    rfl
  · unfold timeAfter dayMicros
    omega

/-- What was moved by less than a day is moved back. -/
theorem shift_shift {micros : ℤ} (hlt : -(dayMicros : ℤ) < micros ∧ micros < dayMicros)
    (h : t.shift micros = some u) : u.shift (-micros) = some t := by
  obtain ⟨hdate, htime⟩ := shift_eq_some.mp h
  have ht := t.time_lt
  have hu := u.time_lt
  refine shift_eq_some.mpr ⟨?_, ?_⟩
  · unfold dateAfter at hdate ⊢
    have hdays : u.days (-micros) = -t.days micros := by
      unfold days
      unfold timeAfter at htime
      unfold dayMicros at *
      omega
    rw [hdays]
    split at hdate
    · rw [if_neg (by omega), if_neg (by omega)]
      exact Date.next_of_prev hdate
    · split at hdate
      · rename_i hzero
        rw [hzero, if_neg (by omega), if_pos (by omega), Option.some.inj hdate]
      · rw [if_pos (by omega)]
        exact Date.prev_of_next hdate
  · unfold timeAfter at htime ⊢
    unfold dayMicros at *
    omega

/-- A moment that was moved has its date if and only if it went no day on or back. -/
theorem date_eq_of_shift_iff {micros : ℤ} (h : t.shift micros = some u) :
    u.date = t.date ↔ t.days micros = 0 := by
  have hdate := (shift_eq_some.mp h).1
  unfold dateAfter at hdate
  split at hdate
  · exact iff_of_false (Date.ne_of_prev hdate) (by omega)
  · split at hdate
    · rename_i hzero
      exact iff_of_true (Option.some.inj hdate).symm hzero
    · rename_i hnonzero
      exact iff_of_false (Date.ne_of_next hdate) hnonzero

end Moment

/-- An aware `datetime`: the clock of its time zone, and how far that is ahead of UTC. -/
structure Zoned where
  clock : Moment
  offset : ℤ
  offset_lt : -(dayMicros : ℤ) < offset ∧ offset < dayMicros
  deriving DecidableEq

namespace Zoned

/-- `astimezone(timezone.utc)`; `none` where it raises `OverflowError`. -/
def toUtc (t : Zoned) : Option Moment := t.clock.shift (-t.offset)

/-- `astimezone` to the zone that is so far ahead of UTC. -/
def toZone (t : Zoned) (offset : ℤ) : Option Moment := t.toUtc.bind fun utc => utc.shift offset

/-- A moment on the clock of UTC. -/
def utc (t : Moment) : Zoned := ⟨t, 0, by decide⟩

@[simp] theorem toUtc_utc (t : Moment) : (utc t).toUtc = some t := t.shift_zero

end Zoned

/-! ## Texts -/

/-- The last digit of a number. -/
def digitChar (n : ℕ) : Char := Nat.digitChar (n % 10)

def twoDigits (n : ℕ) : List Char := [digitChar (n / 10), digitChar n]

def fourDigits (n : ℕ) : List Char := twoDigits (n / 100) ++ twoDigits n

def sixDigits (n : ℕ) : List Char := twoDigits (n / 10000) ++ fourDigits n

/-- The value of a digit. -/
def digitValue (c : Char) : ℕ := c.toNat - 48

theorem digitValue_digitChar (n : ℕ) : digitValue (digitChar n) = n % 10 := by
  have h : ∀ k < 10, digitValue (Nat.digitChar k) = k := by decide
  exact h _ (Nat.mod_lt n (by decide))

theorem isDigit_digitChar (n : ℕ) : (digitChar n).isDigit = true := by
  have h : ∀ k < 10, (Nat.digitChar k).isDigit = true := by decide
  exact h _ (Nat.mod_lt n (by decide))

theorem digitChar_inj {m n : ℕ} (h : digitChar m = digitChar n) : m % 10 = n % 10 := by
  rw [← digitValue_digitChar m, h, digitValue_digitChar]

theorem twoDigits_inj {m n : ℕ} (h : twoDigits m = twoDigits n) : m % 100 = n % 100 := by
  simp only [twoDigits, List.cons.injEq, and_true] at h
  have htens := digitChar_inj h.1
  have hunits := digitChar_inj h.2
  omega

theorem fourDigits_inj {m n : ℕ} (h : fourDigits m = fourDigits n) : m % 10000 = n % 10000 := by
  obtain ⟨hhigh, hlow⟩ := List.append_inj h rfl
  have hhigh := twoDigits_inj hhigh
  have hlow := twoDigits_inj hlow
  omega

theorem sixDigits_inj {m n : ℕ} (h : sixDigits m = sixDigits n) : m % 1000000 = n % 1000000 := by
  obtain ⟨hhigh, hlow⟩ := List.append_inj h rfl
  have hhigh := twoDigits_inj hhigh
  have hlow := fourDigits_inj hlow
  omega

/-- `isoformat` of a date. -/
def Date.isoFormat (d : Date) : List Char :=
  fourDigits d.year ++ '-' :: (twoDigits d.month ++ '-' :: twoDigits d.day)

/-- `isoformat(timespec="microseconds")` of a moment in UTC. -/
def Moment.isoFormat (t : Moment) : List Char :=
  t.date.isoFormat ++ 'T' :: (twoDigits (t.time / 3600000000) ++
    ':' :: (twoDigits (t.time / 60000000 % 60) ++ ':' :: (twoDigits (t.time / 1000000 % 60) ++
      '.' :: (sixDigits (t.time % 1000000) ++ ['+', '0', '0', ':', '0', '0']))))

/-- One text, one date. -/
theorem Date.isoFormat_injective {d e : Date} (h : d.isoFormat = e.isoFormat) : d = e := by
  obtain ⟨hyear, h⟩ := List.append_inj h rfl
  obtain ⟨hmonth, h⟩ := List.append_inj (List.cons.inj h).2 rfl
  have hyear := fourDigits_inj hyear
  have hmonth := twoDigits_inj hmonth
  have hday := twoDigits_inj (List.cons.inj h).2
  obtain ⟨hd, hdm, hdd⟩ := d.valid
  obtain ⟨he, hem, hed⟩ := e.valid
  have hdl := daysInMonth_le d.year d.month
  have hel := daysInMonth_le e.year e.month
  apply Date.ext <;> omega

/-- One text, one moment. -/
theorem Moment.isoFormat_injective {t u : Moment} (h : t.isoFormat = u.isoFormat) : t = u := by
  obtain ⟨hdate, h⟩ := List.append_inj h rfl
  obtain ⟨hhour, h⟩ := List.append_inj (List.cons.inj h).2 rfl
  obtain ⟨hminute, h⟩ := List.append_inj (List.cons.inj h).2 rfl
  obtain ⟨hsecond, h⟩ := List.append_inj (List.cons.inj h).2 rfl
  obtain ⟨hmicro, -⟩ := List.append_inj (List.cons.inj h).2 rfl
  have hhour := twoDigits_inj hhour
  have hminute := twoDigits_inj hminute
  have hsecond := twoDigits_inj hsecond
  have hmicro := sixDigits_inj hmicro
  have ht := t.time_lt
  have hu := u.time_lt
  unfold dayMicros at ht hu
  refine Moment.ext (Date.isoFormat_injective hdate) ?_
  omega

end Calendar

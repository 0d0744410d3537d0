import Mathlib.Algebra.Group.Nat.Defs
import Wbcz.Lib.Calendar
import Wbcz.Lib.Text

/-!
# Reading dates

`datetime.fromisoformat` and `datetime.strptime`. The first one reads the octets of the UTF-8 text
of its argument: its separator between the date and the time is one character, whichever it is,
and a character of several octets counts as so many when the separator is looked for. What it
finds after the time is an error, except before the sign of an offset.
-/

namespace Calendar

/-- A `datetime`. -/
inductive DateTime where
  | naive (clock : Moment)
  | aware (moment : Zoned)
  deriving DecidableEq

/-- The clock that a `datetime` shows. -/
def DateTime.clock : DateTime → Moment
  | naive clock => clock
  | aware moment => moment.clock

/-! ## Digits -/

/-- So many ASCII digits, with what follows them. -/
def digits? : ℕ → ℕ → List Char → Option (ℕ × List Char)
  | 0, value, cs => some (value, cs)
  | _ + 1, _, [] => none
  | n + 1, value, c :: cs => if c.isDigit then digits? n (value * 10 + digitValue c) cs else none

theorem digits?_zero (value : ℕ) (cs : List Char) : digits? 0 value cs = some (value, cs) := rfl

theorem digits?_digitChar (count value n : ℕ) (cs : List Char) :
    digits? (count + 1) value (digitChar n :: cs) = digits? count (value * 10 + n % 10) cs := by
  rw [digits?, if_pos (isDigit_digitChar n), digitValue_digitChar]

theorem digits?_twoDigits (n : ℕ) (cs : List Char) :
    digits? 2 0 (twoDigits n ++ cs) = some (n % 100, cs) := by
  simp only [twoDigits, List.cons_append, List.nil_append, digits?_digitChar, digits?_zero,
    Option.some.injEq, Prod.mk.injEq, and_true]
  omega

theorem digits?_fourDigits (n : ℕ) (cs : List Char) :
    digits? 4 0 (fourDigits n ++ cs) = some (n % 10000, cs) := by
  simp only [fourDigits, twoDigits, List.cons_append, List.nil_append, digits?_digitChar,
    digits?_zero, Option.some.injEq, Prod.mk.injEq, and_true]
  omega

theorem digits?_sixDigits (n : ℕ) (cs : List Char) :
    digits? 6 0 (sixDigits n ++ cs) = some (n % 1000000, cs) := by
  simp only [sixDigits, fourDigits, twoDigits, List.cons_append, List.nil_append,
    digits?_digitChar, digits?_zero,
    Option.some.injEq, Prod.mk.injEq, and_true]
  omega

theorem digitChar_ne {c : Char} (n : ℕ) (hc : c.isDigit = false) : digitChar n ≠ c := by
  rintro rfl
  rw [isDigit_digitChar] at hc
  cases hc

/-! ## `fromisoformat` -/

/-- The character that ends a C string. -/
def nul : Char := Char.ofNat 0

/-- A text with every character as often as it has octets. -/
def octets (cs : List Char) : List Char := cs.flatMap fun c => List.replicate c.utf8Size c

/-- `_find_isoformat_datetime_separator`. -/
def separatorLocation (cs : List Char) : Option ℕ :=
  if cs.length = 7 then some 7
  else if cs[4]? = some '-' then
    if cs[5]? = some 'W' then
      if cs.length < 8 then none
      else if cs[8]? = some '-' then
        if cs.length = 9 then none
        -- `YYYY-Www-HH`, or `YYYY-Www-D`
        else if cs[10]?.any Char.isDigit then some 8
        else some 10
      else some 8
    else some 10
  else if cs[4]? = some 'W' then
    -- an odd number of digits has the day of the week
    let pos := 7 + ((cs.drop 7).takeWhile Char.isDigit).length
    if pos < 9 then some pos
    else if pos % 2 = 0 then some 7
    else some 8
  else some 8

/-- The days before the first day of a year. -/
def daysBeforeYear (year : ℕ) : ℕ :=
  (year - 1) * 365 + (year - 1) / 4 - (year - 1) / 100 + (year - 1) / 400

/-- The weekday of the first day of a year; Monday is zero. -/
def firstWeekday (year : ℕ) : ℕ := daysBeforeYear year % 7

/-- `date.fromisocalendar`. -/
def fromIsoCalendar (year week day : ℕ) : Option Date := do
  let first ← Date.ofFields? year 1 1
  let weekday := firstWeekday year
  let long := weekday = 3 ∨ (weekday = 2 ∧ isLeap year)
  if (1 ≤ week ∧ week ≤ 52 ∨ week = 53 ∧ long) ∧ 1 ≤ day ∧ day ≤ 7 then
    let days := (week - 1) * 7 + (day - 1)
    -- the first week is that of the first Thursday
    if 3 < weekday then first.later (days + 7 - weekday)
    else if weekday ≤ days then first.later (days - weekday)
    else first.earlier (weekday - days)
  else none

/-- A character that must come next. -/
def expect (expected : Char) : List Char → Option (List Char)
  | [] => none
  | c :: cs => if c = expected then some cs else none

/-- `parse_isoformat_date`: the date, whose text has the given length. -/
def parseDate (cs : List Char) (length : ℕ) : Option Date := do
  let (year, rest) ← digits? 4 0 cs
  let separator := rest.head? = some '-'
  let rest := if separator then rest.tail else rest
  if rest.head? = some 'W' then
    let (week, rest) ← digits? 2 0 rest.tail
    if cs.length - rest.length < length then
      let rest ← if separator then expect '-' rest else some rest
      let (day, _) ← digits? 1 0 rest
      fromIsoCalendar year week day
    else fromIsoCalendar year week 1
  else
    let (month, rest) ← digits? 2 0 rest
    let rest ← if separator then expect '-' rest else some rest
    let (day, _) ← digits? 2 0 rest
    Date.ofFields? year month day

/-- What `parse_hh_mm_ss_ff` reads: hours, minutes and seconds as far as they are given, and
whether something is left. -/
structure Components where
  fields : List ℕ
  micros : ℕ
  isMore : Bool

namespace Components

def hour (t : Components) : ℕ := t.fields.getD 0 0

def minute (t : Components) : ℕ := t.fields.getD 1 0

def second (t : Components) : ℕ := t.fields.getD 2 0

/-- The microseconds that the components make. -/
def total (t : Components) : ℕ :=
  ((t.hour * 60 + t.minute) * 60 + t.second) * 1000000 + t.micros

end Components

/-- The fraction of a second: six digits count, and more are passed over. -/
def fraction (after : Char) (fields : List ℕ) (cs : List Char) : Option Components := do
  let count := min cs.length 6
  let (value, rest) ← digits? count 0 cs
  some ⟨fields, value * 10 ^ (6 - count), (rest.dropWhile Char.isDigit).headD after ≠ nul⟩

/-- The loop of `parse_hh_mm_ss_ff`; `after` is the character behind the text, and the first
separator says whether there are any. -/
def componentsFrom (after : Char) : ℕ → Option Bool → List ℕ → List Char → Option Components
  | 0, _, fields, cs => fraction after fields cs
  | n + 1, separated, fields, cs => do
    let (field, rest) ← digits? 2 0 cs
    let fields := fields ++ [field]
    match rest with
    | [] => some ⟨fields, 0, after ≠ nul⟩
    | [c] => some ⟨fields, 0, c ≠ nul⟩
    | c :: d :: rest =>
      let isSeparated := separated.getD (c = ':')
      if isSeparated ∧ c = ':' then componentsFrom after n isSeparated fields (d :: rest)
      else if c = '.' ∨ c = ',' then fraction after fields (d :: rest)
      else if isSeparated then none
      else componentsFrom after n isSeparated fields (c :: d :: rest)

/-- `parse_hh_mm_ss_ff`. -/
def components (after : Char) (cs : List Char) : Option Components :=
  componentsFrom after 3 none [] cs

/-- The sign of an offset, or the letter for UTC. -/
def isOffsetSign (c : Char) : Bool := c = '+' || c = '-' || c = 'Z'

/-- The offset after its sign: `timezone(±timedelta(...))`. -/
def parseOffset (sign : Char) (cs : List Char) : Option ℤ := do
  if sign = 'Z' then
    if cs.headD nul = nul then some 0 else none
  else
    let t ← components nul cs
    if t.isMore ∨ dayMicros ≤ t.total then none
    else some (if sign = '-' then -(t.total : ℤ) else t.total)

/-- A clock and what is known of its offset. -/
def DateTime.of? (clock : Moment) : Option ℤ → Option DateTime
  | none => some (.naive clock)
  | some offset =>
    if h : -(dayMicros : ℤ) < offset ∧ offset < dayMicros then some (.aware ⟨clock, offset, h⟩)
    else none

/-- `time(hour, minute, second, microsecond)`, where it does not raise. -/
def Components.timeOn? (t : Components) (date : Date) : Option Moment :=
  if h : (t.hour < 24 ∧ t.minute < 60 ∧ t.second < 60 ∧ t.micros < 1000000) then
    some ⟨date, t.total, by unfold Components.total dayMicros; omega⟩
  else none

/-- `parse_isoformat_time`, on a date. -/
def parseTime (date : Date) (cs : List Char) : Option DateTime :=
  let clock := cs.takeWhile fun c => !isOffsetSign c
  match cs.drop clock.length with
  | [] => do
    let t ← components nul clock
    if t.isMore then none else (t.timeOn? date).map .naive
  | sign :: rest => do
    let t ← components sign clock
    let offset ← parseOffset sign rest
    let moment ← t.timeOn? date
    DateTime.of? moment offset

/-- Midnight. -/
def Date.midnight (date : Date) : Moment := ⟨date, 0, by decide⟩

/-- `datetime.fromisoformat`; `none` where it raises `ValueError`. -/
def fromisoformat (text : List Char) : Option DateTime := do
  if text.length < 7 then none
  else
    let cs := octets text
    let length ← separatorLocation cs
    let date ← parseDate cs length
    match cs.drop length with
    | [] => some (.naive date.midnight)
    | c :: _ => parseTime date (cs.drop (length + c.utf8Size))

/-- `date.fromisoformat`; `none` where it raises `ValueError`. -/
def dateFromisoformat (text : List Char) : Option Date :=
  let cs := octets text
  if cs.length = 7 ∨ cs.length = 8 ∨ cs.length = 10 then parseDate cs cs.length else none

/-! ### The text of a moment -/

section RoundTrip

variable (t : Moment)

theorem octets_eq_self {cs : List Char} (h : ∀ c ∈ cs, c.utf8Size = 1) : octets cs = cs := by
  induction cs with
  | nil => rfl
  | cons c cs ih =>
    rw [octets, List.flatMap_cons, h c List.mem_cons_self]
    exact congrArg (c :: ·) (ih fun d hd => h d (List.mem_cons_of_mem c hd))

theorem utf8Size_digitChar (n : ℕ) : (digitChar n).utf8Size = 1 := by
  have h : ∀ k < 10, (Nat.digitChar k).utf8Size = 1 := by decide
  exact h _ (Nat.mod_lt n (by decide))

theorem octets_isoFormat : octets t.isoFormat = t.isoFormat := by
  refine octets_eq_self ?_
  simp only [Moment.isoFormat, Date.isoFormat, sixDigits, fourDigits, twoDigits,
    List.cons_append, List.nil_append, List.forall_mem_cons, List.not_mem_nil, false_implies,
    implies_true, utf8Size_digitChar, true_and, and_true]
  decide

theorem separatorLocation_isoFormat : separatorLocation t.isoFormat = some 10 := by
  have hw : digitChar (t.date.month / 10) ≠ 'W' := digitChar_ne _ (by decide)
  simp [separatorLocation, Moment.isoFormat, Date.isoFormat, sixDigits, fourDigits, twoDigits, hw]

/-- The date is read as far as it goes. -/
theorem parseDate_isoFormat (d : Date) (rest : List Char) :
    parseDate (d.isoFormat ++ rest) 10 = some d := by
  obtain ⟨hyear, hmonth, hday⟩ := d.valid
  have hdays := daysInMonth_le d.year d.month
  have hw : digitChar (d.month / 10) ≠ 'W' := digitChar_ne _ (by decide)
  have hyear : d.year % 10000 = d.year := Nat.mod_eq_of_lt (by omega)
  have hmonth : d.month % 100 = d.month := Nat.mod_eq_of_lt (by omega)
  have hday : d.day % 100 = d.day := Nat.mod_eq_of_lt (by omega)
  have hhead : (twoDigits d.month ++ '-' :: (twoDigits d.day ++ rest)).head? ≠ some 'W' := by
    rw [twoDigits]
    simpa using hw
  simp only [parseDate, Date.isoFormat, List.append_assoc, List.cons_append,
    digits?_fourDigits, hyear, Option.bind_eq_bind, Option.bind_some, List.head?_cons, if_true,
    List.tail_cons, if_neg hhead, digits?_twoDigits, hmonth, expect, hday, Date.ofFields?_self]

theorem dateFromisoformat_isoFormat (d : Date) : dateFromisoformat d.isoFormat = some d := by
  have hoctets : octets d.isoFormat = d.isoFormat := by
    refine octets_eq_self ?_
    simp only [Date.isoFormat, fourDigits, twoDigits, List.cons_append, List.nil_append,
      List.forall_mem_cons, List.not_mem_nil, false_implies, implies_true, utf8Size_digitChar,
      true_and, and_true]
    decide
  have hlength : d.isoFormat.length = 10 := rfl
  rw [dateFromisoformat, hoctets, hlength, if_pos (by decide)]
  have hparse := parseDate_isoFormat d []
  rwa [List.append_nil] at hparse

/-- The time of day of the text. -/
def clockText (time : ℕ) : List Char :=
  twoDigits (time / 3600000000) ++ ':' :: (twoDigits (time / 60000000 % 60) ++
    ':' :: (twoDigits (time / 1000000 % 60) ++ '.' :: sixDigits (time % 1000000)))

theorem isoFormat_eq : t.isoFormat =
    t.date.isoFormat ++ 'T' :: (clockText t.time ++ ['+', '0', '0', ':', '0', '0']) := by
  simp only [Moment.isoFormat, clockText, List.append_assoc, List.cons_append]

theorem isOffsetSign_digitChar (n : ℕ) : isOffsetSign (digitChar n) = false := by
  simp [isOffsetSign, digitChar_ne]

theorem isOffsetSign_clockText {time : ℕ} :
    ∀ c ∈ clockText time, (!isOffsetSign c) = true := by
  simp only [clockText, sixDigits, fourDigits, twoDigits, List.cons_append, List.nil_append,
    List.forall_mem_cons, List.not_mem_nil, false_implies, implies_true, isOffsetSign_digitChar]
  decide

/-- Two digits and a colon. -/
theorem componentsFrom_colon {after : Char} {n : ℕ} {separated : Option Bool} {fields : List ℕ}
    {cs : List Char} (field : ℕ) (hseparated : separated.getD true = true) (hcs : cs ≠ []) :
    componentsFrom after (n + 1) separated fields (twoDigits field ++ ':' :: cs) =
      componentsFrom after n (some true) (fields ++ [field % 100]) cs := by
  obtain ⟨d, rest, rfl⟩ := List.exists_cons_of_ne_nil hcs
  simp [componentsFrom, digits?_twoDigits, hseparated]

theorem fraction_sixDigits (after : Char) (fields : List ℕ) (micros : ℕ) :
    fraction after fields (sixDigits micros) =
      some ⟨fields, micros % 1000000, after ≠ nul⟩ := by
  have hread := digits?_sixDigits micros []
  have hlength : min (sixDigits micros).length 6 = 6 := rfl
  rw [List.append_nil] at hread
  simp only [fraction, hlength, hread, Option.bind_eq_bind, Option.bind_some, Nat.sub_self,
    Nat.pow_zero, Nat.mul_one]
  rfl

/-- Two digits and a fraction. -/
theorem componentsFrom_point {after : Char} {n : ℕ} {separated : Option Bool}
    {fields : List ℕ} {cs : List Char} (field : ℕ) (hcs : cs ≠ []) :
    componentsFrom after (n + 1) separated fields (twoDigits field ++ '.' :: cs) =
      fraction after (fields ++ [field % 100]) cs := by
  obtain ⟨d, rest, rfl⟩ := List.exists_cons_of_ne_nil hcs
  simp [componentsFrom, digits?_twoDigits]

theorem components_clockText {time : ℕ} (htime : time < dayMicros) (after : Char) :
    components after (clockText time) =
      some ⟨[time / 3600000000, time / 60000000 % 60, time / 1000000 % 60], time % 1000000,
        after ≠ nul⟩ := by
  unfold dayMicros at htime
  have hhour : time / 3600000000 % 100 = time / 3600000000 := by omega
  have hminute : time / 60000000 % 60 % 100 = time / 60000000 % 60 := by omega
  have hsecond : time / 1000000 % 60 % 100 = time / 1000000 % 60 := by omega
  rw [components, clockText, componentsFrom_colon _ rfl (by simp [twoDigits]),
    componentsFrom_colon _ rfl (by simp [twoDigits]),
    componentsFrom_point _ (by simp [sixDigits, twoDigits]), fraction_sixDigits, hhour, hminute,
    hsecond, Nat.mod_mod]
  rfl

/-- The components of a time of day make it. -/
theorem timeOn?_clockText (isMore : Bool) :
    Components.timeOn? ⟨[t.time / 3600000000, t.time / 60000000 % 60, t.time / 1000000 % 60],
      t.time % 1000000, isMore⟩ t.date = some t := by
  have ht := t.time_lt
  unfold dayMicros at ht
  have hfields : t.time / 3600000000 < 24 ∧ t.time / 60000000 % 60 < 60 ∧
      t.time / 1000000 % 60 < 60 ∧ t.time % 1000000 < 1000000 := by omega
  rw [Components.timeOn?]
  refine (dif_pos hfields).trans (congrArg some (Moment.ext rfl ?_))
  change ((t.time / 3600000000 * 60 + t.time / 60000000 % 60) * 60 + t.time / 1000000 % 60) *
    1000000 + t.time % 1000000 = t.time
  omega

theorem parseTime_clockText :
    parseTime t.date (clockText t.time ++ ['+', '0', '0', ':', '0', '0']) =
      some (.aware (Zoned.utc t)) := by
  have ht := t.time_lt
  have htake : (clockText t.time ++ ['+', '0', '0', ':', '0', '0']).takeWhile
      (fun c => !isOffsetSign c) = clockText t.time := by
    rw [List.takeWhile_append_of_pos isOffsetSign_clockText]
    exact List.append_nil _
  have hoffset : parseOffset '+' ['0', '0', ':', '0', '0'] = some 0 := by decide +kernel
  simp only [parseTime, htake, List.drop_left, components_clockText ht, hoffset,
    Option.bind_eq_bind, Option.bind_some, timeOn?_clockText]
  rfl

/-- The text of a moment in UTC is read as that moment. -/
theorem fromisoformat_isoFormat : fromisoformat t.isoFormat = some (.aware (Zoned.utc t)) := by
  have hlength : ¬ t.isoFormat.length < 7 := by
    rw [isoFormat_eq, List.length_append]
    have hdate : t.date.isoFormat.length = 10 := rfl
    omega
  have hdate : parseDate t.isoFormat 10 = some t.date := by
    rw [isoFormat_eq, parseDate_isoFormat]
  have hdrop : t.isoFormat.drop 10 =
      'T' :: (clockText t.time ++ ['+', '0', '0', ':', '0', '0']) := by
    rw [isoFormat_eq]
    exact @List.drop_left Char t.date.isoFormat _
  rw [fromisoformat, if_neg hlength]
  simp only [octets_isoFormat, separatorLocation_isoFormat, hdate, hdrop, Option.bind_eq_bind,
    Option.bind_some]
  rw [← List.drop_drop, hdrop]
  exact parseTime_clockText t

end RoundTrip

/-! ## `strptime` -/

/-- A directive of a format, or a character of it; white space stands for any. -/
inductive Directive where
  | hour
  | minute
  | second
  | day
  | month
  | year
  | microsecond
  | space
  | literal (c : Char)
  deriving DecidableEq

namespace Directive

/-- The directives of a format. -/
def ofFormat : List Char → List Directive
  | '%' :: 'H' :: cs => hour :: ofFormat cs
  | '%' :: 'M' :: cs => minute :: ofFormat cs
  | '%' :: 'S' :: cs => second :: ofFormat cs
  | '%' :: 'd' :: cs => day :: ofFormat cs
  | '%' :: 'm' :: cs => month :: ofFormat cs
  | '%' :: 'Y' :: cs => year :: ofFormat cs
  | '%' :: 'f' :: cs => microsecond :: ofFormat cs
  | ' ' :: cs => space :: ofFormat cs
  | c :: cs => literal c :: ofFormat cs
  | [] => []

/-- Two characters that the expression of a directive matches. -/
def matchesTwo : Directive → Char → Char → Bool
  | hour, c, d =>
    c = '2' && '0' ≤ d && d ≤ '3' || (c = '0' || c = '1') && (Text.decimalValue? d).isSome
  | minute, c, d => '0' ≤ c && c ≤ '5' && (Text.decimalValue? d).isSome
  | second, c, d =>
    c = '6' && (d = '0' || d = '1') || '0' ≤ c && c ≤ '5' && (Text.decimalValue? d).isSome
  | day, c, d =>
    c = '3' && (d = '0' || d = '1') || (c = '1' || c = '2') && (Text.decimalValue? d).isSome ||
      c = '0' && '1' ≤ d && d ≤ '9'
  | month, c, d => c = '1' && '0' ≤ d && d ≤ '2' || c = '0' && '1' ≤ d && d ≤ '9'
  | _, _, _ => false

/-- One character that the expression of a directive matches. -/
def matchesOne : Directive → Char → Bool
  | hour, c | minute, c | second, c => (Text.decimalValue? c).isSome
  | day, c | month, c => '1' ≤ c && c ≤ '9'
  | _, _ => false

/-- `int` of the digits that were matched. -/
def value (cs : List Char) : ℕ :=
  cs.foldl (fun value c => value * 10 + (Text.decimalValue? c).getD 0) 0

/-- The ways of matching a directive, with what is left of the text, the best way first. -/
def matchings : Directive → List Char → List (ℕ × List Char)
  | year, a :: b :: c :: d :: cs =>
    if [a, b, c, d].all fun e => (Text.decimalValue? e).isSome then [(value [a, b, c, d], cs)] else []
  | year, _ => []
  | microsecond, cs =>
    -- up to six digits of ASCII, which stand after the point
    let digits := (cs.takeWhile Char.isDigit).take 6
    (List.range digits.length).reverse.map fun k =>
      (value (digits.take (k + 1)) * 10 ^ (5 - k), cs.drop (k + 1))
  | space, cs =>
    -- the expression takes all of the white space there is
    if (cs.takeWhile Text.isSpace).isEmpty then [] else [(0, cs.dropWhile Text.isSpace)]
  -- the expression does not look at the case of a letter
  | literal e, c :: cs => if c.toLower = e.toLower then [(0, cs)] else []
  | literal _, [] => []
  | directive, cs =>
    (match cs with
      | c :: d :: cs => if directive.matchesTwo c d then [(value [c, d], cs)] else []
      | _ => []) ++
    match cs with
    | c :: cs => if directive.matchesOne c then [(value [c], cs)] else []
    | [] => []

end Directive

/-- What the directives have read. -/
abbrev Fields := List (Directive × ℕ)

/-- The value of a directive, or its default. -/
def Fields.get (fields : Fields) (directive : Directive) (default : ℕ) : ℕ :=
  ((fields.find? fun field => field.1 = directive).map Prod.snd).getD default

/-- `format_regex.match`: the first way of matching the directives one after another, with what is
left of the text. -/
def matchFormat : List Directive → List Char → Option (Fields × List Char)
  | [], cs => some ([], cs)
  | directive :: format, cs => (directive.matchings cs).findSome? fun (value, rest) =>
    (matchFormat format rest).map fun (fields, rest) => ((directive, value) :: fields, rest)

/-- `datetime.strptime`; `none` where it raises `ValueError`. -/
def strptime (format text : List Char) : Option DateTime := do
  let (fields, rest) ← matchFormat (Directive.ofFormat format) text
  if rest.isEmpty then
    let date ← Date.ofFields? (fields.get .year 1900) (fields.get .month 1) (fields.get .day 1)
    let t : Components :=
      ⟨[fields.get .hour 0, fields.get .minute 0, fields.get .second 0],
        fields.get .microsecond 0, false⟩
    (t.timeOn? date).map .naive
  else none

end Calendar

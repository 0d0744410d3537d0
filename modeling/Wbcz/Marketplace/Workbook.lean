import Wbcz.Marketplace.Row

/-!
# The sheet of a workbook

`parse_excel` from the first row of its sheet on: the header, and the loop over the rows, each of
which is passed over, ignored, read, or kept as an issue. The sheet is given as `openpyxl` gives
it, and for every row whether the clock is past its limit then.

An exception that is none of a row ends the loop, and the file with it. There is one: the amount
may be a number that the decimal context refuses.
-/

namespace Wbcz.Marketplace

open Fallible (ensure found bind_eq_error bind_eq_ok ensure_eq_ok exists_mapM found_eq_ok
  getElem?_mapM)

/-! ## The header -/

/-- A cell of the sheet. -/
structure SheetCell where
  value : Cell
  dataType : String
  deriving DecidableEq

/-- `data_type in {"f", "e"}`. -/
def SheetCell.isFormula (cell : SheetCell) : Bool := cell.dataType = "f" || cell.dataType = "e"

def workbookError (message : String) : PyError := ⟨.other "WorkbookError", message⟩

/-- The words of a text: `str.split`. -/
def wordsOf (cs : List Char) : List (List Char) :=
  (cs.splitOnP Text.isSpace).filter fun word => !word.isEmpty

/-- `_header`. -/
def headerText : Cell → String
  | .str value =>
    let spaced := value.toList.map fun c => if c.toNat = 0xa0 then ' ' else c
    " ".intercalate ((wordsOf spaced).map String.ofList)
  | _ => ""

def maxHeaderColumns : ℕ := 256

/-- The checks of the header, and where the required columns stand. -/
def headerPositions (first : List SheetCell) : Except PyError (Column → ℕ) := do
  ensure (first.length ≤ maxHeaderColumns)
    (workbookError "Слишком много колонок в листе «КИЗ»: максимум 256")
  let names := first.map fun cell => headerText cell.value
  let missing := Column.all.filter fun column => column.name ∉ names
  ensure (missing = [])
    (workbookError ("Отсутствуют обязательные колонки: " ++
      ", ".intercalate (missing.map Column.name)))
  let duplicated := Column.all.filter fun column => 1 < names.count column.name
  ensure (duplicated = [])
    (workbookError ("Повторяются колонки: " ++ ", ".intercalate (duplicated.map Column.name)))
  pure fun column => names.idxOf column.name

/-! ## The rows -/

/-- `ParsedWorkbook`: everything by the number of its row. -/
structure ParsedWorkbook where
  rows : List (ℕ × Event)
  issues : List (ℕ × String)
  ignoredRows : List ℕ

/-- What becomes of a row. -/
inductive RowOutcome where
  | blank
  | ignored
  | parsed (event : Event)
  | issue (message : String)

/-- The exceptions that reject a row: `ValueError`, `TypeError` and `OverflowError`. -/
def isRowError (e : PyError) : Bool :=
  e.cls = .valueError || e.cls = .typeError || e.cls = .other "RowValidationError" ||
    e.cls = .other "OverflowError"

/-- The values of the required columns; a short row has none in its last ones. -/
def valuesOf (positions : Column → ℕ) (cells : List SheetCell) : Values := fun column =>
  match cells[positions column]? with
  | some cell => cell.value
  | none => .none

/-- The row has nothing in the required columns. -/
def isBlankRow (values : Values) : Bool := Column.all.all fun column => isBlank (values column)

/-- The operation is a dash. -/
def isDash (values : Values) : Bool :=
  match values .operation with
  | .str text => textOf text = "-"
  | _ => false

/-- The first required column that has a formula or an error of Excel. -/
def formulaColumn? (positions : Column → ℕ) (cells : List SheetCell) : Option Column :=
  Column.all.find? fun column => cells[positions column]?.any SheetCell.isFormula

section Loop

variable (repr : String → String) (positions : Column → ℕ)

/-- The part of the loop that is guarded: the formulas, and the row. -/
def guardedRow (cells : List SheetCell) : Except PyError Event :=
  match formulaColumn? positions cells with
  | some column => .error (rowValidationError column
      "формулы и Excel-ошибки не допускаются; сохраните исходное значение")
  | none => parseRow repr (valuesOf positions cells)

/-- The body of the loop. -/
def readRow (cells : List SheetCell) : Except PyError RowOutcome :=
  let values := valuesOf positions cells
  if isBlankRow values then .ok .blank
  else if isDash values then .ok .ignored
  else
    match guardedRow repr positions cells with
    | .ok event => .ok (.parsed event)
    | .error e => if isRowError e then .ok (.issue e.message) else .error e

/-- A row is added to what was read before. -/
def ParsedWorkbook.add (parsed : ParsedWorkbook) (number : ℕ) : RowOutcome → ParsedWorkbook
  | .blank => parsed
  | .ignored => { parsed with ignoredRows := parsed.ignoredRows ++ [number] }
  | .parsed event => { parsed with rows := parsed.rows ++ [(number, event)] }
  | .issue message => { parsed with issues := parsed.issues ++ [(number, message)] }

def maxRows : ℕ := 200000

/-- The loop over the rows, from the row of a number on; `isLate` says whether the clock is past
its limit. -/
def readRows (isLate : ℕ → Bool) : ℕ → List (List SheetCell) → ParsedWorkbook →
    Except PyError ParsedWorkbook
  | _, [], parsed => .ok parsed
  | number, cells :: rest, parsed => do
    ensure (¬ (number % 1000 = 0 ∧ isLate number = true))
      (workbookError "Превышен безопасный лимит времени разбора Excel")
    ensure (number ≤ maxRows + 1) (workbookError "Превышен лимит строк: 200000")
    let outcome ← readRow repr positions cells
    readRows isLate (number + 1) rest (parsed.add number outcome)

end Loop

/-- What `parse_excel` makes of an exception. -/
def wrapError (e : PyError) : PyError :=
  if e.cls = .other "WorkbookError" then e
  else workbookError ("Не удалось прочитать Excel (" ++ e.cls.name ++ "): " ++ e.message)

/-- `parse_excel` from the first row of the sheet on. -/
def parseSheet (repr : String → String) (isLate : ℕ → Bool) (sheet : List (List SheetCell)) :
    Except PyError ParsedWorkbook :=
  Except.mapError wrapError do
    match sheet with
    | [] => .error (workbookError "Лист «КИЗ» пуст")
    | first :: rest =>
      let positions ← headerPositions first
      readRows repr positions isLate 2 rest ⟨[], [], []⟩

/-! ## What the loop gives -/

namespace RowOutcome

def event? : RowOutcome → Option Event
  | parsed event => some event
  | _ => none

def message? : RowOutcome → Option String
  | issue message => some message
  | _ => none

def ignored? : RowOutcome → Option Unit
  | ignored => some ()
  | _ => none

end RowOutcome

/-- What is taken of the outcomes, by the numbers of their rows. -/
def numbered {β : Type} (f : RowOutcome → Option β) : ℕ → List RowOutcome → List (ℕ × β)
  | _, [] => []
  | number, outcome :: rest =>
    ((f outcome).map fun b => (number, b)).toList ++ numbered f (number + 1) rest

section Numbered

variable {β : Type} {f : RowOutcome → Option β} {outcomes : List RowOutcome} {number : ℕ}

theorem mem_numbered {n : ℕ} {b : β} : (n, b) ∈ numbered f number outcomes ↔
    ∃ i outcome, n = number + i ∧ outcomes[i]? = some outcome ∧ f outcome = some b := by
  induction outcomes generalizing number with
  | nil => simp [numbered]
  | cons first rest ih =>
    rw [numbered, List.mem_append, ih]
    constructor
    · rintro (h | ⟨i, outcome, rfl, houtcome, hf⟩)
      · obtain ⟨_, hfirst, hb⟩ := Option.map_eq_some_iff.mp (Option.mem_toList.mp h)
        cases hb
        exact ⟨0, first, rfl, rfl, hfirst⟩
      · exact ⟨i + 1, outcome, by omega, houtcome, hf⟩
    · rintro ⟨i, outcome, rfl, houtcome, hf⟩
      cases i with
      | zero =>
        cases houtcome
        exact .inl (Option.mem_toList.mpr (by rw [hf]; rfl))
      | succ i => exact .inr ⟨i, outcome, by omega, houtcome, hf⟩

/-- The numbers ascend. -/
theorem numbered_increasing : ((numbered f number outcomes).map Prod.fst).Pairwise (· < ·) := by
  induction outcomes generalizing number with
  | nil => exact List.Pairwise.nil
  | cons first rest ih =>
    rw [numbered, List.map_append, List.pairwise_append]
    refine ⟨?_, ih, ?_⟩
    · cases f first with
      | none => exact List.Pairwise.nil
      | some b => exact List.pairwise_singleton _ _
    · intro m hm n hn
      obtain ⟨p, hp, rfl⟩ := List.mem_map.mp hm
      obtain ⟨⟨n, b⟩, hq, rfl⟩ := List.mem_map.mp hn
      obtain ⟨_, _, rfl⟩ := Option.map_eq_some_iff.mp (Option.mem_toList.mp hp)
      obtain ⟨i, _, rfl, -⟩ := mem_numbered.mp hq
      exact Nat.lt_add_right i (Nat.lt_succ_self number)

/-- A row is taken once, or not at all. -/
theorem count_numbered {i : ℕ} {outcome : RowOutcome} (h : outcomes[i]? = some outcome) :
    ((numbered f number outcomes).map Prod.fst).count (number + i) =
      if (f outcome).isSome then 1 else 0 := by
  have hnodup : ((numbered f number outcomes).map Prod.fst).Nodup :=
    numbered_increasing.imp Nat.ne_of_lt
  split
  · rename_i hsome
    obtain ⟨b, hb⟩ := Option.isSome_iff_exists.mp hsome
    refine List.count_eq_one_of_mem hnodup (List.mem_map.mpr ⟨(number + i, b), ?_, rfl⟩)
    exact mem_numbered.mpr ⟨i, outcome, rfl, h, hb⟩
  · rename_i hnone
    refine List.count_eq_zero.mpr fun hmem => hnone ?_
    obtain ⟨⟨n, b⟩, hnumbered, hn⟩ := List.mem_map.mp hmem
    obtain ⟨j, other, hj, hother, hb⟩ := mem_numbered.mp hnumbered
    have hij : j = i := by
      have hn : n = number + i := hn
      omega
    rw [hij, h] at hother
    cases hother
    rw [hb]
    rfl

end Numbered

/-- The outcomes of rows, added one after another. -/
def ParsedWorkbook.addAll (parsed : ParsedWorkbook) (number : ℕ) (outcomes : List RowOutcome) :
    ParsedWorkbook where
  rows := parsed.rows ++ numbered RowOutcome.event? number outcomes
  issues := parsed.issues ++ numbered RowOutcome.message? number outcomes
  ignoredRows := parsed.ignoredRows ++ (numbered RowOutcome.ignored? number outcomes).map Prod.fst

theorem ParsedWorkbook.add_addAll (parsed : ParsedWorkbook) (number : ℕ) (outcome : RowOutcome)
    (outcomes : List RowOutcome) :
    (parsed.add number outcome).addAll (number + 1) outcomes =
      parsed.addAll number (outcome :: outcomes) := by
  cases outcome <;>
    simp [addAll, add, numbered, RowOutcome.event?, RowOutcome.message?, RowOutcome.ignored?]

section Loop

variable {repr : String → String} {positions : Column → ℕ} {isLate : ℕ → Bool}
  {rows : List (List SheetCell)} {parsed wb : ParsedWorkbook}

/-- The clock is not past its limit at any of the rows, and there are not too many of them. -/
def WithinLimits (isLate : ℕ → Bool) (number count : ℕ) : Prop :=
  ∀ i < count, ¬ ((number + i) % 1000 = 0 ∧ isLate (number + i) = true) ∧
    number + i ≤ maxRows + 1

theorem withinLimits_succ {number count : ℕ} : WithinLimits isLate number (count + 1) ↔
    (¬ (number % 1000 = 0 ∧ isLate number = true) ∧ number ≤ maxRows + 1) ∧
      WithinLimits isLate (number + 1) count := by
  constructor
  · intro h
    refine ⟨h 0 (Nat.succ_pos _), fun i hi => ?_⟩
    have hi := h (i + 1) (Nat.succ_lt_succ hi)
    rwa [Nat.add_right_comm number 1 i]
  · rintro ⟨hfirst, hrest⟩ i hi
    cases i with
    | zero => exact hfirst
    | succ i =>
      have hi := hrest i (Nat.lt_of_succ_lt_succ hi)
      rwa [Nat.add_right_comm number 1 i] at hi

/-- The loop gives the outcomes of its rows. -/
theorem readRows_eq_ok {number : ℕ} :
    readRows repr positions isLate number rows parsed = .ok wb ↔
      WithinLimits isLate number rows.length ∧
        ∃ outcomes, rows.mapM (readRow repr positions) = .ok outcomes ∧
          wb = parsed.addAll number outcomes := by
  induction rows generalizing number parsed with
  | nil =>
    have hlimits : WithinLimits isLate number 0 := fun i hi => absurd hi (Nat.not_lt_zero i)
    have hadd : parsed.addAll number [] = parsed := by simp [ParsedWorkbook.addAll, numbered]
    simp only [readRows, List.mapM_nil, List.length_nil, hlimits, true_and]
    constructor
    · rintro ⟨⟩
      exact ⟨[], rfl, hadd.symm⟩
    · rintro ⟨_, ⟨⟩, rfl⟩
      rw [hadd]
  | cons cells rest ih =>
    rw [readRows, List.mapM_cons, List.length_cons, withinLimits_succ]
    simp only [bind_eq_ok, ensure_eq_ok, ih]
    constructor
    · rintro ⟨_, hlate, _, hmany, outcome, houtcome, hrest, outcomes, houtcomes, rfl⟩
      exact ⟨⟨⟨hlate, hmany⟩, hrest⟩, outcome :: outcomes,
        ⟨outcome, houtcome, outcomes, houtcomes, rfl⟩, parsed.add_addAll number outcome outcomes⟩
    · rintro ⟨⟨⟨hlate, hmany⟩, hrest⟩, _, ⟨outcome, houtcome, outcomes, houtcomes, ⟨⟩⟩, rfl⟩
      exact ⟨(), hlate, (), hmany, outcome, houtcome, hrest, outcomes, houtcomes,
        (parsed.add_addAll number outcome outcomes).symm⟩

/-! ## The rows that end the loop -/

/-- A computation raises nothing but the exceptions of a row. -/
def RaisesRowErrors {α : Type} (x : Except PyError α) : Prop :=
  ∀ e, x = .error e → isRowError e = true

/-- The amount is a number that `abs` refuses. -/
def AmountOverflows (cell : Cell) : Prop :=
  (isBlank cell = false ∧ ∀ value, cell ≠ .bool value) ∧ ∃ text number,
    cell.text = .ok text ∧ Decimal.read? (amountDigits text) = some number ∧
      number.isFinite = true ∧ number.abs = none

/-- The row is read up to its amount, and the amount is out of range. -/
def RaisesOverflow (repr : String → String) (positions : Column → ℕ) (cells : List SheetCell) :
    Prop :=
  isBlankRow (valuesOf positions cells) = false ∧ isDash (valuesOf positions cells) = false ∧
    formulaColumn? positions cells = none ∧
    (∃ head, parseHead repr (valuesOf positions cells) = .ok head) ∧
    AmountOverflows (valuesOf positions cells .amount)

section RowErrors

variable {α β : Type} {e : PyError}

theorem RaisesRowErrors.ok (a : α) : RaisesRowErrors (.ok a) := fun _ h => nomatch h

theorem RaisesRowErrors.error (he : isRowError e = true) :
    RaisesRowErrors (.error e : Except PyError α) := by
  intro e' h
  cases h
  exact he

theorem RaisesRowErrors.bind {x : Except PyError α} {f : α → Except PyError β}
    (hx : RaisesRowErrors x) (hf : ∀ a, x = .ok a → RaisesRowErrors (f a)) :
    RaisesRowErrors (x >>= f) := by
  intro e h
  rcases bind_eq_error.mp h with h | ⟨a, ha, h⟩
  · exact hx e h
  · exact hf a ha e h

theorem RaisesRowErrors.map {x : Except PyError α} (hx : RaisesRowErrors x) (f : α → β) :
    RaisesRowErrors (x.map f) := by
  cases x with
  | error e => exact RaisesRowErrors.error (hx e rfl)
  | ok a => exact RaisesRowErrors.ok _

theorem RaisesRowErrors.ensure {c : Prop} [Decidable c] (he : isRowError e = true) :
    RaisesRowErrors (ensure c e) := by
  unfold Fallible.ensure
  split
  · exact .ok _
  · exact .error he

theorem RaisesRowErrors.found {x : Option α} (he : isRowError e = true) :
    RaisesRowErrors (found x e) := by
  cases x with
  | none => exact .error he
  | some a => exact .ok a

theorem isRowError_rowValidationError (column : Column) (message : String) :
    isRowError (rowValidationError column message) = true := rfl

theorem operationOf_raises (cell : Cell) : RaisesRowErrors (operationOf repr cell) := by
  unfold operationOf
  split
  · simp only
    split_ifs
    · exact .ok _
    · exact .ok _
    · exact .error rfl
  · exact .error rfl

theorem presentIdentifier_raises (column : Column) (textOnly : Bool) (cell : Cell) :
    RaisesRowErrors (presentIdentifier column textOnly cell) := by
  unfold presentIdentifier
  split
  · exact .ok _
  · split
    · exact .error rfl
    · split
      · split_ifs
        · exact .ok _
        · exact .error rfl
      · split
        · split_ifs
          · exact .ok _
          · exact .error rfl
        · exact .error rfl
      · exact .error rfl

theorem identifier_raises (column : Column) (textOnly : Bool) (cell : Cell) :
    RaisesRowErrors (identifier column textOnly cell) := by
  unfold identifier
  split
  · exact .error rfl
  · exact presentIdentifier_raises column textOnly cell

theorem optionalIdentifier_raises (column : Column) (cell : Cell) :
    RaisesRowErrors (optionalIdentifier column cell) := by
  unfold optionalIdentifier
  split
  · exact .ok _
  · exact (presentIdentifier_raises column false cell).map some

theorem dateOf_raises (cell : Cell) : RaisesRowErrors (dateOf cell) := by
  unfold dateOf
  split
  · exact .ok _
  · exact (RaisesRowErrors.found rfl).bind fun _ _ =>
      (RaisesRowErrors.found rfl).bind fun _ _ => .ok _

theorem currency_raises (cell : Cell) : RaisesRowErrors (currency cell) := by
  unfold currency
  split
  · exact (RaisesRowErrors.ensure rfl).bind fun _ _ => .ok _
  · exact .error rfl

theorem legal_raises (cell : Cell) : RaisesRowErrors (legal cell) := by
  unfold legal
  simp only
  split
  · exact .ok _
  · split
    · exact .ok _
    · exact .error rfl

theorem parseHead_raises (values : Values) : RaisesRowErrors (parseHead repr values) := by
  refine (operationOf_raises _).bind fun _ _ => ?_
  refine (identifier_raises _ _ _).bind fun _ _ => ?_
  refine (identifier_raises _ _ _).bind fun _ _ => ?_
  refine (identifier_raises _ _ _).bind fun _ _ => ?_
  refine (dateOf_raises _).bind fun _ _ => ?_
  refine (optionalIdentifier_raises _ _).bind fun _ _ => ?_
  exact (optionalIdentifier_raises _ _).bind fun _ _ => .ok _

/-- The checks of an event whose amount is one of hundredths. -/
theorem toEvent_raises {fields : EventFields} (h : IsHundredths fields.amount) :
    RaisesRowErrors fields.toEvent := by
  have hcheck : RaisesRowErrors (checkAmount fields.amount) := by
    obtain ⟨magnitude, habs⟩ := h.abs
    rw [checkAmount, habs, h.quantize.1]
    refine (RaisesRowErrors.ensure rfl).bind fun _ _ => ?_
    refine (RaisesRowErrors.ok magnitude).bind fun _ _ => ?_
    refine (RaisesRowErrors.ensure rfl).bind fun _ _ => ?_
    exact (RaisesRowErrors.ok _).bind fun _ _ => RaisesRowErrors.ensure rfl
  unfold EventFields.toEvent
  split
  · split
    · exact .error rfl
    · split
      · rename_i e herror
        exact .error (hcheck e herror)
      · exact .ok _
  · exact .error rfl

theorem intText_raises (value : ℤ) : RaisesRowErrors (intText value) := by
  unfold intText
  split
  · exact .error rfl
  · exact .ok _

theorem cellText_raises (cell : Cell) : RaisesRowErrors cell.text := by
  cases cell with
  | int value => exact intText_raises value
  | _ => exact .ok _

end RowErrors

/-- An amount raises the exceptions of a row, or the one of a number out of range. -/
theorem amount_eq_error {cell : Cell} {e : PyError} (h : amount cell = .error e) :
    isRowError e = true ∨ e = decimalOverflow ∧ AmountOverflows cell := by
  rcases bind_eq_error.mp h with h | ⟨_, hpresent, h⟩
  · exact .inl (RaisesRowErrors.ensure rfl e h)
  rcases bind_eq_error.mp h with h | ⟨text, htext, h⟩
  · exact .inl (cellText_raises cell e h)
  rcases bind_eq_error.mp h with h | ⟨number, hnumber, h⟩
  · exact .inl (RaisesRowErrors.found rfl e h)
  rcases bind_eq_error.mp h with h | ⟨_, hfinite, h⟩
  · exact .inl (RaisesRowErrors.ensure rfl e h)
  rcases bind_eq_error.mp h with h | ⟨_, -, h⟩
  · -- the number has no magnitude
    right
    have hpresent := ensure_eq_ok.mp hpresent
    rw [not_or, not_exists] at hpresent
    cases habs : number.abs with
    | some magnitude =>
      rw [habs] at h
      cases h
    | none =>
      rw [habs] at h
      cases h
      exact ⟨rfl, ⟨eq_false_of_ne_true hpresent.1, hpresent.2⟩, text, number, htext,
        found_eq_ok.mp hnumber, ensure_eq_ok.mp hfinite, habs⟩
  rcases bind_eq_error.mp h with h | ⟨_, -, h⟩
  · exact .inl (RaisesRowErrors.ensure rfl e h)
  rcases bind_eq_error.mp h with h | ⟨rounded, hrounded, h⟩
  · exact .inl (RaisesRowErrors.found rfl e h)
  rcases bind_eq_error.mp h with h | ⟨_, hsame, h⟩
  · exact .inl (RaisesRowErrors.ensure rfl e h)
  · -- zero has a magnitude, and so has any other number that was rounded
    exfalso
    obtain ⟨negative, _, _, n, -, rfl, -, -⟩ := Decimal.of_same_quantize
      (found_eq_ok.mp hrounded) (ensure_eq_ok.mp hsame)
    split at h
    · rename_i hzero
      have hn : n = 0 := by
        rw [Decimal.same_iff] at hzero
        cases negative <;> simpa [Decimal.value, hundredth] using hzero
      subst hn
      cases h
    · cases h

/-- An amount that is out of range raises. -/
theorem amount_of_overflows {cell : Cell} (h : AmountOverflows cell) :
    amount cell = .error decimalOverflow := by
  obtain ⟨⟨hblank, hbool⟩, text, number, htext, hnumber, hfinite, habs⟩ := h
  have hpresent : ¬ (isBlank cell = true ∨ ∃ value, cell = .bool value) := by
    rintro (hb | ⟨value, hv⟩)
    · rw [hblank] at hb
      cases hb
    · exact hbool value hv
  have hensure : ensure (¬ (isBlank cell = true ∨ ∃ value, cell = .bool value))
      (rowValidationError .amount "требуется число") = .ok () := if_pos hpresent
  have hfinite : ensure (number.isFinite = true)
      (rowValidationError .amount "некорректное значение") = .ok () := if_pos hfinite
  refine bind_eq_error.mpr (.inr ⟨(), hensure, ?_⟩)
  refine bind_eq_error.mpr (.inr ⟨text, htext, ?_⟩)
  refine bind_eq_error.mpr (.inr ⟨number, found_eq_ok.mpr hnumber, ?_⟩)
  refine bind_eq_error.mpr (.inr ⟨(), hfinite, ?_⟩)
  rw [habs]
  rfl

/-- A row raises the exceptions of a row, or the one of an amount out of range. -/
theorem parseRow_eq_error {values : Values} {e : PyError}
    (h : parseRow repr values = .error e) :
    isRowError e = true ∨ e = decimalOverflow ∧
      (∃ head, parseHead repr values = .ok head) ∧ AmountOverflows (values .amount) := by
  rcases bind_eq_error.mp h with h | ⟨head, hhead, h⟩
  · exact .inl (parseHead_raises values e h)
  rcases bind_eq_error.mp h with h | ⟨x, hamount, h⟩
  · exact (amount_eq_error h).imp_right fun ⟨he, hoverflows⟩ => ⟨he, ⟨head, hhead⟩, hoverflows⟩
  rcases bind_eq_error.mp h with h | ⟨_, -, h⟩
  · exact .inl (currency_raises _ e h)
  rcases bind_eq_error.mp h with h | ⟨_, -, h⟩
  · exact .inl (legal_raises _ e h)
  · exact .inl (toEvent_raises (amount_isHundredths hamount) e h)

/-- The rows that end the loop. -/
theorem readRow_eq_error_iff {cells : List SheetCell} :
    (∃ e, readRow repr positions cells = .error e) ↔ RaisesOverflow repr positions cells := by
  simp only [RaisesOverflow, readRow]
  cases hblank : isBlankRow (valuesOf positions cells) with
  | true => simp
  | false =>
    cases hdash : isDash (valuesOf positions cells) with
    | true => simp
    | false =>
      simp only [Bool.false_eq_true, if_false, true_and, guardedRow]
      cases hformula : formulaColumn? positions cells with
      | some column => simp [isRowError_rowValidationError]
      | none =>
        simp only [true_and]
        cases hrow : parseRow repr (valuesOf positions cells) with
        | ok event =>
          refine iff_of_false (by simp) ?_
          rintro ⟨⟨head, hhead⟩, hoverflows⟩
          obtain ⟨_, _, hamount, -⟩ := parseRow_eq_ok hrow
          rw [amount_of_overflows hoverflows] at hamount
          cases hamount
        | error e =>
          constructor
          · intro h
            rcases parseRow_eq_error hrow with he | ⟨-, hoverflows⟩
            · simp [he] at h
            · exact hoverflows
          · rintro ⟨⟨head, hhead⟩, hoverflows⟩
            have hoverflow : parseRow repr (valuesOf positions cells) =
                .error decimalOverflow := by
              rw [parseRow, hhead]
              exact bind_eq_error.mpr (.inr ⟨head, rfl,
                bind_eq_error.mpr (.inl (amount_of_overflows hoverflows))⟩)
            rw [hoverflow] at hrow
            cases hrow
            exact ⟨_, rfl⟩

/-! ## Every row stands once -/

/-- The row of a number; the header is the first one. -/
def rowAt (rows : List (List SheetCell)) (number : ℕ) : Option (List SheetCell) :=
  if 2 ≤ number then rows[number - 2]? else none

/-- The numbers that stand in a workbook. -/
def ParsedWorkbook.numbers (wb : ParsedWorkbook) : List ℕ :=
  wb.rows.map Prod.fst ++ wb.issues.map Prod.fst ++ wb.ignoredRows

/-- Every row that is not blank stands in one of the three lists, once and under its number; the
numbers ascend; and no row with a formula gives an event. -/
structure AssignsRows (repr : String → String) (positions : Column → ℕ)
    (rows : List (List SheetCell)) (wb : ParsedWorkbook) : Prop where
  parsed : ∀ number event, (number, event) ∈ wb.rows ↔
    ∃ cells, rowAt rows number = some cells ∧ readRow repr positions cells = .ok (.parsed event)
  rejected : ∀ number message, (number, message) ∈ wb.issues ↔
    ∃ cells, rowAt rows number = some cells ∧ readRow repr positions cells = .ok (.issue message)
  ignored : ∀ number, number ∈ wb.ignoredRows ↔
    ∃ cells, rowAt rows number = some cells ∧ readRow repr positions cells = .ok .ignored
  once : ∀ number cells, rowAt rows number = some cells →
    wb.numbers.count number = if isBlankRow (valuesOf positions cells) then 0 else 1
  increasing : (wb.rows.map Prod.fst).Pairwise (· < ·) ∧
    (wb.issues.map Prod.fst).Pairwise (· < ·) ∧ wb.ignoredRows.Pairwise (· < ·)
  formulas : ∀ number event cells, (number, event) ∈ wb.rows → rowAt rows number = some cells →
    ∀ column, cells[positions column]?.any SheetCell.isFormula = false

theorem rowAt_eq_some {number : ℕ} {cells : List SheetCell} :
    rowAt rows number = some cells ↔ ∃ i, number = 2 + i ∧ rows[i]? = some cells := by
  unfold rowAt
  constructor
  · intro h
    split at h
    · exact ⟨number - 2, by omega, h⟩
    · cases h
  · rintro ⟨i, rfl, h⟩
    rw [if_pos (Nat.le_add_right 2 i), Nat.add_sub_cancel_left]
    exact h

/-- Something of the outcomes, by the rows they come from. -/
theorem mem_numbered_rows {β : Type} {f : RowOutcome → Option β} {outcomes : List RowOutcome}
    (h : rows.mapM (readRow repr positions) = .ok outcomes) {number : ℕ} {b : β} :
    (number, b) ∈ numbered f 2 outcomes ↔ ∃ cells outcome, rowAt rows number = some cells ∧
      readRow repr positions cells = .ok outcome ∧ f outcome = some b := by
  simp only [mem_numbered, rowAt_eq_some, getElem?_mapM h]
  constructor
  · rintro ⟨i, outcome, rfl, ⟨cells, hcells, houtcome⟩, hf⟩
    exact ⟨cells, outcome, ⟨i, rfl, hcells⟩, houtcome, hf⟩
  · rintro ⟨cells, outcome, ⟨i, rfl, hcells⟩, houtcome, hf⟩
    exact ⟨i, outcome, rfl, ⟨cells, hcells, houtcome⟩, hf⟩

/-- A row is passed over if and only if it is blank. -/
theorem readRow_eq_blank {cells : List SheetCell} {outcome : RowOutcome}
    (h : readRow repr positions cells = .ok outcome) :
    outcome = .blank ↔ isBlankRow (valuesOf positions cells) = true := by
  simp only [readRow] at h
  split_ifs at h with hblank hdash
  · cases h
    exact iff_of_true rfl hblank
  · cases h
    exact iff_of_false (fun h => nomatch h) hblank
  · refine iff_of_false ?_ hblank
    rintro rfl
    split at h
    · cases h
    · split at h <;> cases h

/-- A row with a formula gives no event. -/
theorem formula_of_readRow {cells : List SheetCell} {event : Event}
    (h : readRow repr positions cells = .ok (.parsed event)) (column : Column) :
    cells[positions column]?.any SheetCell.isFormula = false := by
  have hformula : formulaColumn? positions cells = none := by
    simp only [readRow, guardedRow] at h
    split_ifs at h
    · cases h
    · cases h
    · cases hfirst : formulaColumn? positions cells with
      | none => rfl
      | some first =>
        rw [hfirst] at h
        simp [isRowError_rowValidationError] at h
  exact eq_false_of_ne_true (List.find?_eq_none.mp hformula column (Column.mem_all column))

/-- What the loop gives assigns every row. -/
theorem assignsRows_of_mapM {outcomes : List RowOutcome}
    (h : rows.mapM (readRow repr positions) = .ok outcomes) :
    AssignsRows repr positions rows (ParsedWorkbook.addAll ⟨[], [], []⟩ 2 outcomes) where
  parsed number event := by
    refine (mem_numbered_rows h).trans ⟨?_, ?_⟩
    · rintro ⟨cells, outcome, hcells, houtcome, hevent⟩
      cases outcome <;> cases hevent
      exact ⟨cells, hcells, houtcome⟩
    · rintro ⟨cells, hcells, houtcome⟩
      exact ⟨cells, _, hcells, houtcome, rfl⟩
  rejected number message := by
    refine (mem_numbered_rows h).trans ⟨?_, ?_⟩
    · rintro ⟨cells, outcome, hcells, houtcome, hmessage⟩
      cases outcome <;> cases hmessage
      exact ⟨cells, hcells, houtcome⟩
    · rintro ⟨cells, hcells, houtcome⟩
      exact ⟨cells, _, hcells, houtcome, rfl⟩
  ignored number := by
    have hmem : number ∈ (numbered RowOutcome.ignored? 2 outcomes).map Prod.fst ↔
        (number, ()) ∈ numbered RowOutcome.ignored? 2 outcomes := by
      constructor
      · intro h
        obtain ⟨_, hmem, rfl⟩ := List.mem_map.mp h
        exact hmem
      · intro h
        exact List.mem_map.mpr ⟨_, h, rfl⟩
    refine (hmem.trans (mem_numbered_rows h)).trans ⟨?_, ?_⟩
    · rintro ⟨cells, outcome, hcells, houtcome, hignored⟩
      cases outcome <;> cases hignored
      exact ⟨cells, hcells, houtcome⟩
    · rintro ⟨cells, hcells, houtcome⟩
      exact ⟨cells, _, hcells, houtcome, rfl⟩
  once number cells hcells := by
    obtain ⟨i, rfl, hi⟩ := rowAt_eq_some.mp hcells
    obtain ⟨outcome, houtcome⟩ := exists_mapM.mp ⟨_, h⟩ cells (List.mem_of_getElem? hi)
    have hat := (getElem?_mapM h i outcome).mpr ⟨cells, hi, houtcome⟩
    have hblank := readRow_eq_blank houtcome
    have hcount : (ParsedWorkbook.addAll ⟨[], [], []⟩ 2 outcomes).numbers.count (2 + i) =
        (if outcome.event?.isSome then 1 else 0) + (if outcome.message?.isSome then 1 else 0) +
          if outcome.ignored?.isSome then 1 else 0 := by
      simp only [ParsedWorkbook.numbers, ParsedWorkbook.addAll, List.nil_append, List.count_append,
        count_numbered hat]
    rw [hcount]
    -- an outcome that is not blank stands in one of the lists
    cases outcome with
    | blank => rw [if_pos (hblank.mp rfl)]; rfl
    | ignored => rw [if_neg fun h => nomatch hblank.mpr h]; rfl
    | parsed event => rw [if_neg fun h => nomatch hblank.mpr h]; rfl
    | issue message => rw [if_neg fun h => nomatch hblank.mpr h]; rfl
  increasing := ⟨numbered_increasing, numbered_increasing, numbered_increasing⟩
  formulas number event cells hmem hcells column := by
    obtain ⟨cells', outcome, hcells', houtcome, hevent⟩ := (mem_numbered_rows h).mp hmem
    rw [hcells, Option.some.injEq] at hcells'
    subst hcells'
    cases outcome <;> cases hevent
    exact formula_of_readRow houtcome column

theorem mapError_eq_ok {α : Type} {x : Except PyError α} {f : PyError → PyError} {a : α} :
    x.mapError f = .ok a ↔ x = .ok a := by
  cases x <;> simp [Except.mapError]

/-- The rows of a sheet whose header is accepted, and which are not too many, are assigned if and
only if the clock is in time and no row has an amount out of range. -/
theorem each_row_once_iff (repr : String → String) (isLate : ℕ → Bool) (first : List SheetCell)
    (rows : List (List SheetCell)) (positions : Column → ℕ)
    (hheader : headerPositions first = .ok positions) (hrows : rows.length ≤ maxRows) :
    (∃ wb, parseSheet repr isLate (first :: rows) = .ok wb ∧
      AssignsRows repr positions rows wb) ↔
    (∀ i < rows.length, ¬ ((2 + i) % 1000 = 0 ∧ isLate (2 + i) = true)) ∧
      ∀ cells ∈ rows, ¬ RaisesOverflow repr positions cells := by
  have hparse : ∀ wb, parseSheet repr isLate (first :: rows) = .ok wb ↔
      readRows repr positions isLate 2 rows ⟨[], [], []⟩ = .ok wb := by
    intro wb
    rw [parseSheet, mapError_eq_ok, Fallible.bind_eq_ok]
    simp only [hheader, Except.ok.injEq, exists_eq_left']
  have hlimits : WithinLimits isLate 2 rows.length ↔
      ∀ i < rows.length, ¬ ((2 + i) % 1000 = 0 ∧ isLate (2 + i) = true) := by
    refine forall₂_congr fun i hi => and_iff_left ?_
    omega
  have hoverflow : (∃ outcomes, rows.mapM (readRow repr positions) = .ok outcomes) ↔
      ∀ cells ∈ rows, ¬ RaisesOverflow repr positions cells := by
    rw [Fallible.exists_mapM]
    refine forall₂_congr fun cells _ => ?_
    rw [← readRow_eq_error_iff]
    cases readRow repr positions cells <;> simp
  rw [← hlimits, ← hoverflow]
  constructor
  · rintro ⟨wb, hwb, -⟩
    obtain ⟨hlimits, outcomes, houtcomes, -⟩ := readRows_eq_ok.mp ((hparse wb).mp hwb)
    exact ⟨hlimits, outcomes, houtcomes⟩
  · rintro ⟨hlimits, outcomes, houtcomes⟩
    exact ⟨_, (hparse _).mpr (readRows_eq_ok.mpr ⟨hlimits, outcomes, houtcomes, rfl⟩),
      assignsRows_of_mapM houtcomes⟩

end Loop

/-! ### A file of two rows -/

/-- The header of the required columns. -/
def sampleHeader : List SheetCell := Column.all.map fun column => ⟨.str column.name, "s"⟩

/-- The cells of a row, in the order of the columns. -/
def cellsOf (values : Values) : List SheetCell := Column.all.map fun column => ⟨values column, "s"⟩

/-- A sale, and a sale of an amount that no file has. -/
def sampleSheet : List (List SheetCell) :=
  [cellsOf (sampleRow (.str "01.02.2024 10:00") (.str "1 234,50")),
    cellsOf (sampleRow (.str "02.02.2024 10:00") (.str "1E+1000000"))]

/-- Where the columns of the header stand. -/
def samplePositions (column : Column) : ℕ := (Column.all.map Column.name).idxOf column.name

theorem headerPositions_sampleHeader : headerPositions sampleHeader = .ok samplePositions := by
  rfl

/-- The second row ends the loop, and the sale of the first one is lost. -/
theorem huge_amount_loses_rows :
    parseSheet (fun text => text) (fun _ => false) (sampleHeader :: sampleSheet) =
      .error (workbookError
        "Не удалось прочитать Excel (Overflow): [<class 'decimal.Overflow'>]") ∧
    ¬ ∀ (repr : String → String) (isLate : ℕ → Bool) (first : List SheetCell)
      (rows : List (List SheetCell)) (positions : Column → ℕ),
      headerPositions first = .ok positions → rows.length ≤ maxRows →
        ∃ wb, parseSheet repr isLate (first :: rows) = .ok wb ∧
          AssignsRows repr positions rows wb := by
  have herror : parseSheet (fun text => text) (fun _ => false) (sampleHeader :: sampleSheet) =
      .error (workbookError
        "Не удалось прочитать Excel (Overflow): [<class 'decimal.Overflow'>]") := by rfl
  refine ⟨herror, fun hall => ?_⟩
  obtain ⟨wb, hwb, -⟩ := hall (fun text => text) (fun _ => false) sampleHeader sampleSheet
    samplePositions headerPositions_sampleHeader (by decide)
  rw [herror] at hwb
  cases hwb

/-- The two rows of the sample. -/
theorem each_row_once_sample :
    headerPositions sampleHeader = .ok samplePositions ∧ sampleSheet.length ≤ maxRows ∧
    ((∃ wb, parseSheet (fun text => text) (fun _ => false) (sampleHeader :: sampleSheet) = .ok wb ∧
      AssignsRows (fun text => text) samplePositions sampleSheet wb) ↔
    (∀ i < sampleSheet.length, ¬ ((2 + i) % 1000 = 0 ∧ false = true)) ∧
      ∀ cells ∈ sampleSheet, ¬ RaisesOverflow (fun text => text) samplePositions cells) :=
  ⟨headerPositions_sampleHeader, by decide,
    each_row_once_iff (fun text => text) (fun _ => false) sampleHeader sampleSheet samplePositions
      headerPositions_sampleHeader (by decide)⟩

end Wbcz.Marketplace

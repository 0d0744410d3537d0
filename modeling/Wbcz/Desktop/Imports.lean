import Wbcz.Desktop.EventStore
import Wbcz.Lib.Transition
import Wbcz.Lib.Tx

/-!
# Imports of the desktop, statement by statement

`import_workbook` executes its statements one after another and counts what they insert;
`_transaction` commits what they wrote, or restores the tables where one of them has raised. The
transaction does what `EventStore.importWorkbook` says. Then sequences of imports are looked at:
what they count, what a second import of a file does, and what does not depend on their order.

A workbook comes with the digest of its bytes, and an event with the digest of its fields. Two
workbooks or two events may have one digest only where the hash collides; the events that are
stored do not depend on the order of the files as long as it does not.

## Main results

* `importTransaction_eq` — the transaction of the statements is `importWorkbook`
* `importRowsOf_counts` — a row is counted once, as new or as a duplicate
* `storeAfter_inv` — what the tables hold after a sequence of calls
* `import_sequences` — the five properties of sequences of imports
-/

namespace Wbcz.Desktop

open Fallible (ensure found bind_eq_ok ensure_eq_ok found_eq_ok)

/-! ## The statements -/

namespace EventStore

/-- `_transaction`. -/
def transaction {α : Type} (body : Tx PyError EventStore α) : Tx PyError EventStore α :=
  body.rollback

/-- A statement that gives nothing back. -/
def execute (statement : EventStore → Except PyError EventStore) : Tx PyError EventStore Unit :=
  Tx.lift fun store => (statement store).map fun store' => ((), store')

/-- The insertion into `imports`. -/
def insertImport (fingerprint filename : String) (parsed : ParsedWorkbook) (store : EventStore) :
    Except PyError EventStore := do
  let imports ← found (store.imports.insert {
    fingerprint, filename, partly := !parsed.issues.isEmpty, newEvents := 0
    duplicateEvents := 0, rejectedRows := parsed.issues.length }) integrityError
  pure { store with imports }

/-- The insertion into `events`, and where it inserted the deletion from `previews`. -/
def eventStatements (row : EventRecord) : Tx PyError EventStore Bool := do
  let store ← Tx.get
  let (isNew, store') := store.insertEvent row
  Tx.modify fun _ => store'
  pure isNew

/-- The loop over the rows, with its counters. -/
def rowStatements (fingerprint : String) :
    List (ℕ × EventRecord) → ℕ → ℕ → Tx PyError EventStore (ℕ × ℕ)
  | [], inserted, duplicates => pure (inserted, duplicates)
  | (rowNumber, row) :: rows, inserted, duplicates => do
    let isNew ← eventStatements row
    execute fun store => store.insertImportRow ⟨fingerprint, rowNumber, .inl row.eventId⟩
    rowStatements fingerprint rows (inserted + isNew.toNat) (duplicates + (!isNew).toNat)

/-- The loop over the issues. -/
def issueStatements (fingerprint : String) : List (ℕ × String) → Tx PyError EventStore Unit
  | [] => pure ()
  | (rowNumber, message) :: issues => do
    execute fun store => store.insertImportRow ⟨fingerprint, rowNumber, .inr message⟩
    issueStatements fingerprint issues

/-- The counts of an import. -/
def counted (inserted duplicates : ℕ) (row : ImportRecord) : ImportRecord :=
  { row with newEvents := inserted, duplicateEvents := duplicates }

theorem key_counted (inserted duplicates : ℕ) (row : ImportRecord) :
    (counted inserted duplicates row).key = row.key := rfl

/-- The update of `imports`. -/
def setCounts (fingerprint : String) (inserted duplicates : ℕ) (store : EventStore) : EventStore :=
  { store with
    imports := store.imports.modify fingerprint (counted inserted duplicates)
      (key_counted inserted duplicates) }

/-- The body of `import_workbook` from the insertion into `imports` on. -/
def newImport (fingerprint filename : String) (parsed : ParsedWorkbook) :
    Tx PyError EventStore ImportReport := do
  execute (insertImport fingerprint filename parsed)
  let (inserted, duplicates) ← rowStatements fingerprint parsed.rows 0 0
  issueStatements fingerprint parsed.issues
  Tx.modify (setCounts fingerprint inserted duplicates)
  pure ⟨fingerprint, inserted, duplicates, parsed.issues.length, false⟩

/-- The body of `import_workbook`. -/
def importStatements (fingerprint filename : String) (parsed : ParsedWorkbook) :
    Tx PyError EventStore ImportReport := do
  let store ← Tx.get
  match store.existingImport fingerprint with
  | some report => pure report
  | none => newImport fingerprint filename parsed

end EventStore

/-! ### The transaction is `importWorkbook` -/

section Statements

open EventStore

variable {store store' : EventStore} {fingerprint filename : String} {parsed : ParsedWorkbook}

theorem execute_yields (statement : EventStore → Except PyError EventStore) (store : EventStore) :
    (execute statement).Yields store ((statement store).map fun store' => ((), store')) :=
  Tx.yields_lift _ store

theorem eventStatements_yields (row : EventRecord) (store : EventStore) :
    (eventStatements row).Yields store (.ok (store.insertEvent row)) := rfl

/-- The counters of the loop start from what they are. -/
theorem rowStatements_yields (fingerprint : String) (rows : List (ℕ × EventRecord))
    (inserted duplicates : ℕ) (store : EventStore) :
    (rowStatements fingerprint rows inserted duplicates).Yields store
      ((importRowsOf fingerprint rows store).map fun r =>
        ((inserted + r.1, duplicates + r.2.1), r.2.2)) := by
  induction rows generalizing inserted duplicates store with
  | nil => rfl
  | cons item rows ih =>
    obtain ⟨rowNumber, row⟩ := item
    have hbody := (eventStatements_yields row store).bind fun isNew store' _ =>
      (execute_yields (fun store => store.insertImportRow
        ⟨fingerprint, rowNumber, .inl row.eventId⟩) store').bind fun _ next _ =>
          ih (inserted + isNew.toNat) (duplicates + (!isNew).toNat) next
    refine hbody.congr ?_
    -- the rest of the rows is counted from zero, and from the counters
    simp only [importRowsOf, Except.bind, bind]
    cases (store.insertEvent row).2.insertImportRow ⟨fingerprint, rowNumber, .inl row.eventId⟩ with
    | error e => rfl
    | ok next =>
      simp only [Except.map]
      cases importRowsOf fingerprint rows next with
      | error e => rfl
      | ok r =>
        refine congrArg Except.ok (Prod.ext (Prod.ext ?_ ?_) rfl)
        · exact (Nat.add_assoc inserted _ r.1).trans (congrArg _ (Nat.add_comm _ r.1))
        · exact (Nat.add_assoc duplicates _ r.2.1).trans (congrArg _ (Nat.add_comm _ r.2.1))

theorem issueStatements_yields (fingerprint : String) (issues : List (ℕ × String))
    (store : EventStore) :
    (issueStatements fingerprint issues).Yields store
      ((importIssues fingerprint issues store).map fun store' => ((), store')) := by
  induction issues generalizing store with
  | nil => rfl
  | cons issue issues ih =>
    obtain ⟨rowNumber, message⟩ := issue
    have hbody := (execute_yields (fun store => store.insertImportRow
      ⟨fingerprint, rowNumber, .inr message⟩) store).bind fun _ next _ => ih next
    refine hbody.congr ?_
    simp only [importIssues, Except.bind, bind]
    cases store.insertImportRow ⟨fingerprint, rowNumber, .inr message⟩ with
    | error e => rfl
    | ok next => rfl

/-- The counts are written, and the report is given. -/
theorem finish_yields (fingerprint : String) (counts : ℕ × ℕ) (parsed : ParsedWorkbook)
    (store : EventStore) :
    (do
      Tx.modify (setCounts fingerprint counts.1 counts.2)
      pure ⟨fingerprint, counts.1, counts.2, parsed.issues.length, false⟩ :
        Tx PyError EventStore ImportReport).Yields store
      (.ok (⟨fingerprint, counts.1, counts.2, parsed.issues.length, false⟩,
        setCounts fingerprint counts.1 counts.2 store)) := rfl

/-- The statements of a first import give what `importWorkbook` gives. -/
theorem newImport_yields (hexisting : store.existingImport fingerprint = none) :
    (newImport fingerprint filename parsed).Yields store
      (store.importWorkbook fingerprint filename parsed) := by
  have hbody := (execute_yields (insertImport fingerprint filename parsed) store).bind
    fun _ store _ => (rowStatements_yields fingerprint parsed.rows 0 0 store).bind
      fun counts store _ => (issueStatements_yields fingerprint parsed.issues store).bind
        fun _ store _ => finish_yields fingerprint counts parsed store
  refine hbody.congr ?_
  simp only [EventStore.importWorkbook, hexisting, insertImport, bind, Except.bind]
  cases found (store.imports.insert _) integrityError with
  | error e => rfl
  | ok imports =>
    simp only [Except.map, pure, Except.pure]
    cases importRowsOf fingerprint parsed.rows { store with imports } with
    | error e => rfl
    | ok r =>
      simp only [Nat.zero_add]
      cases importIssues fingerprint parsed.issues r.2.2 with
      | error e => rfl
      | ok last => rfl

/-- The statements give what `importWorkbook` gives. -/
theorem importStatements_yields (store : EventStore) :
    (importStatements fingerprint filename parsed).Yields store
      (store.importWorkbook fingerprint filename parsed) := by
  apply Tx.Yields.get
  cases hexisting : store.existingImport fingerprint with
  | none => exact newImport_yields hexisting
  | some report =>
    rw [EventStore.importWorkbook, hexisting]
    rfl

/-- The transaction of the statements is `importWorkbook`: it changes the store only where it
succeeds. -/
theorem importTransaction_eq (store : EventStore) :
    transaction (importStatements fingerprint filename parsed) store =
      Tx.lift (fun store => store.importWorkbook fingerprint filename parsed) store :=
  (importStatements_yields store).rollback

end Statements

/-! ## What an import writes -/

section Writes

open EventStore

variable {store store' : EventStore} {fingerprint filename : String} {parsed : ParsedWorkbook}
  {rows : List (ℕ × EventRecord)} {inserted duplicates : ℕ}

/-- The insertion of a row, and the rest. -/
theorem importRowsOf_cons (item : ℕ × EventRecord) :
    importRowsOf fingerprint (item :: rows) store = (do
      let next ← (store.insertEvent item.2).2.insertImportRow
        ⟨fingerprint, item.1, .inl item.2.eventId⟩
      let r ← importRowsOf fingerprint rows next
      pure (r.1 + (store.insertEvent item.2).1.toNat, r.2.1 + (!(store.insertEvent item.2).1).toNat,
        r.2.2)) := rfl

theorem toNat_add_toNat_not : ∀ isNew : Bool, isNew.toNat + (!isNew).toNat = 1 := by decide

/-- Every row is counted once, as new or as a duplicate. -/
theorem importRowsOf_counts
    (h : importRowsOf fingerprint rows store = .ok (inserted, duplicates, store')) :
    inserted + duplicates = rows.length := by
  induction rows generalizing store inserted duplicates with
  | nil =>
    cases h
    rfl
  | cons item rows ih =>
    rw [importRowsOf_cons] at h
    obtain ⟨_, _, h⟩ := bind_eq_ok.mp h
    obtain ⟨⟨_, _, _⟩, hrest, h⟩ := bind_eq_ok.mp h
    cases h
    have hcounts := ih hrest
    have hone := toNat_add_toNat_not (store.insertEvent item.2).1
    simp only [List.length_cons]
    omega

/-- The key of `import_rows`. -/
def ImportRowRecord.key (row : ImportRowRecord) : String × ℕ := (row.fingerprint, row.rowNumber)

/-- Rows may be inserted one after another. -/
def Fits (rows new : List ImportRowRecord) : Prop :=
  (new.map ImportRowRecord.key).Nodup ∧ ∀ row ∈ rows, row.key ∉ new.map ImportRowRecord.key

theorem fits_nil (rows : List ImportRowRecord) : Fits rows [] :=
  ⟨List.nodup_nil, fun _ _ => List.not_mem_nil⟩

theorem fits_cons {rows new : List ImportRowRecord} {row : ImportRowRecord} :
    Fits rows (row :: new) ↔
      (∀ other ∈ rows, ¬ (other.fingerprint = row.fingerprint ∧
        other.rowNumber = row.rowNumber)) ∧ Fits (rows ++ [row]) new := by
  have hkey : ∀ other : ImportRowRecord, (other.fingerprint = row.fingerprint ∧
      other.rowNumber = row.rowNumber) ↔ other.key = row.key := fun other =>
    Prod.mk_inj.symm
  simp only [hkey, Fits, List.map_cons, List.nodup_cons, List.mem_cons, List.mem_append,
    not_or, List.not_mem_nil, or_false]
  constructor
  · rintro ⟨⟨hrow, hnew⟩, hrows⟩
    refine ⟨fun other hother => (hrows other hother).1, hnew, ?_⟩
    rintro other (hother | rfl)
    · exact (hrows other hother).2
    · exact hrow
  · rintro ⟨hrows, hnew, hall⟩
    exact ⟨⟨hall row (.inr rfl), hnew⟩, fun other hother =>
      ⟨hrows other hother, hall other (.inl hother)⟩⟩

theorem fits_append {rows new new' : List ImportRowRecord} :
    Fits rows (new ++ new') ↔ Fits rows new ∧ Fits (rows ++ new) new' := by
  induction new generalizing rows with
  | nil => simp [fits_nil]
  | cons row new ih =>
    rw [List.cons_append, fits_cons, fits_cons, ih, and_assoc, List.append_assoc]
    rfl

theorem insertImportRow_eq_ok {row : ImportRowRecord} :
    store.insertImportRow row = .ok store' ↔
      (∀ other ∈ store.importRows, ¬ (other.fingerprint = row.fingerprint ∧
        other.rowNumber = row.rowNumber)) ∧
      store' = { store with importRows := store.importRows ++ [row] } := by
  constructor
  · intro h
    obtain ⟨_, hnew, h⟩ := bind_eq_ok.mp h
    cases h
    exact ⟨ensure_eq_ok.mp hnew, rfl⟩
  · rintro ⟨hnew, rfl⟩
    exact bind_eq_ok.mpr ⟨(), ensure_eq_ok.mpr hnew, rfl⟩

theorem exists_insertImportRow {row : ImportRowRecord} (hnew : ∀ other ∈ store.importRows,
    ¬ (other.fingerprint = row.fingerprint ∧ other.rowNumber = row.rowNumber)) :
    ∃ next, store.insertImportRow row = .ok next ∧
      next.importRows = store.importRows ++ [row] :=
  ⟨_, insertImportRow_eq_ok.mpr ⟨hnew, rfl⟩, rfl⟩

@[simp] theorem insertEvent_imports (row : EventRecord) :
    (store.insertEvent row).2.imports = store.imports := by
  unfold EventStore.insertEvent
  cases store.events.insert row <;> rfl

@[simp] theorem insertEvent_importRows (row : EventRecord) :
    (store.insertEvent row).2.importRows = store.importRows := by
  unfold EventStore.insertEvent
  cases store.events.insert row <;> rfl

/-- After the insertion of an event its id is there, and no event but it is new. -/
theorem mem_insertEvent_cases (store : EventStore) (row : EventRecord) :
    (∃ other ∈ (store.insertEvent row).2.events, other.eventId = row.eventId) ∧
      (∀ other ∈ store.events, other ∈ (store.insertEvent row).2.events) ∧
      ∀ other ∈ (store.insertEvent row).2.events, other ∈ store.events ∨ other = row := by
  unfold EventStore.insertEvent
  cases hinsert : store.events.insert row with
  | none =>
    obtain ⟨other, hother⟩ := Table.insert_eq_none hinsert
    exact ⟨⟨other, Table.mem_of_find? hother, Table.key_of_find? hother⟩, fun _ h => h,
      fun _ h => .inl h⟩
  | some events =>
    exact ⟨⟨row, (Table.mem_insert hinsert).mpr (.inr rfl), rfl⟩,
      fun _ h => (Table.mem_insert hinsert).mpr (.inl h), fun _ h => (Table.mem_insert hinsert).mp h⟩

/-- What the rows of a workbook leave in the tables. -/
structure RowsWritten (rows : List EventRecord) (new : List ImportRowRecord)
    (store store' : EventStore) : Prop where
  imports : store'.imports = store.imports
  importRows : store'.importRows = store.importRows ++ new
  kept : ∀ row ∈ store.events, row ∈ store'.events
  written : ∀ row ∈ rows, ∃ other ∈ store'.events, other.eventId = row.eventId
  source : ∀ row ∈ store'.events, row ∈ store.events ∨ row ∈ rows

/-- The rows of `import_rows` for the events of a workbook. -/
def eventRowsOf (fingerprint : String) (rows : List (ℕ × EventRecord)) : List ImportRowRecord :=
  rows.map fun item => ⟨fingerprint, item.1, .inl item.2.eventId⟩

/-- The rows of `import_rows` for the issues of a workbook. -/
def issueRowsOf (fingerprint : String) (issues : List (ℕ × String)) : List ImportRowRecord :=
  issues.map fun issue => ⟨fingerprint, issue.1, .inr issue.2⟩

theorem importRowsOf_spec
    (h : importRowsOf fingerprint rows store = .ok (inserted, duplicates, store')) :
    RowsWritten (rows.map Prod.snd) (eventRowsOf fingerprint rows) store store' := by
  induction rows generalizing store inserted duplicates with
  | nil =>
    cases h
    exact ⟨rfl, (List.append_nil _).symm, fun _ h => h, fun _ h => absurd h List.not_mem_nil,
      fun _ h => .inl h⟩
  | cons item rows ih =>
    rw [importRowsOf_cons] at h
    obtain ⟨next, hnext, h⟩ := bind_eq_ok.mp h
    obtain ⟨_, hrest, h⟩ := bind_eq_ok.mp h
    cases h
    have hwritten := ih hrest
    obtain ⟨-, rfl⟩ := insertImportRow_eq_ok.mp hnext
    obtain ⟨⟨other, hother, hid⟩, hkept, hsource⟩ := mem_insertEvent_cases store item.2
    refine ⟨?_, ?_, ?_, ?_, ?_⟩
    · rw [hwritten.imports, insertEvent_imports]
    · rw [hwritten.importRows, insertEvent_importRows, List.append_assoc]
      rfl
    · exact fun row hrow => hwritten.kept row (hkept row hrow)
    · intro row hrow
      rcases List.mem_cons.mp hrow with rfl | hrow
      · exact ⟨other, hwritten.kept other hother, hid⟩
      · exact hwritten.written row hrow
    · intro row hrow
      rcases hwritten.source row hrow with hrow | hrow
      · rcases hsource row hrow with hrow | rfl
        · exact .inl hrow
        · exact .inr List.mem_cons_self
      · exact .inr (List.mem_cons_of_mem _ hrow)

/-- The rows of a workbook are written where their row numbers are not taken. -/
theorem importRowsOf_isOk_iff (fingerprint : String) (rows : List (ℕ × EventRecord))
    (store : EventStore) : (∃ r, importRowsOf fingerprint rows store = .ok r) ↔
      Fits store.importRows (eventRowsOf fingerprint rows) := by
  induction rows generalizing store with
  | nil => exact iff_of_true ⟨_, rfl⟩ (fits_nil _)
  | cons item rows ih =>
    have hrows : (store.insertEvent item.2).2.importRows = store.importRows :=
      insertEvent_importRows item.2
    rw [eventRowsOf, List.map_cons, fits_cons, importRowsOf_cons]
    constructor
    · rintro ⟨r, h⟩
      obtain ⟨next, hnext, h⟩ := bind_eq_ok.mp h
      obtain ⟨rest, hrest, -⟩ := bind_eq_ok.mp h
      obtain ⟨hnew, rfl⟩ := insertImportRow_eq_ok.mp hnext
      rw [hrows] at hnew
      refine ⟨hnew, ?_⟩
      rw [← hrows]
      exact (ih _).mp ⟨_, hrest⟩
    · rintro ⟨hnew, hfits⟩
      rw [← hrows] at hnew hfits
      obtain ⟨next, hnext, hnextRows⟩ := exists_insertImportRow hnew
      rw [← hnextRows] at hfits
      obtain ⟨r, hrest⟩ := (ih next).mpr hfits
      exact ⟨_, bind_eq_ok.mpr ⟨_, hnext, bind_eq_ok.mpr ⟨r, hrest, rfl⟩⟩⟩

theorem importIssues_eq_ok {issues : List (ℕ × String)} :
    importIssues fingerprint issues store = .ok store' ↔
      Fits store.importRows (issueRowsOf fingerprint issues) ∧
      store' = { store with
        importRows := store.importRows ++ issueRowsOf fingerprint issues } := by
  induction issues generalizing store with
  | nil =>
    have hnil : ({ store with importRows := store.importRows ++ [] } : EventStore) = store := by
      rw [List.append_nil]
    constructor
    · intro h
      cases h
      exact ⟨fits_nil _, hnil.symm⟩
    · rintro ⟨-, h⟩
      rw [h]
      exact congrArg Except.ok hnil.symm
  | cons issue issues ih =>
    rw [issueRowsOf, List.map_cons, fits_cons]
    constructor
    · intro h
      obtain ⟨next, hnext, h⟩ := bind_eq_ok.mp h
      obtain ⟨hnew, rfl⟩ := insertImportRow_eq_ok.mp hnext
      obtain ⟨hfits, rfl⟩ := ih.mp h
      refine ⟨⟨hnew, hfits⟩, ?_⟩
      rw [List.append_assoc]
      rfl
    · rintro ⟨⟨hnew, hfits⟩, rfl⟩
      refine bind_eq_ok.mpr ⟨_, insertImportRow_eq_ok.mpr ⟨hnew, rfl⟩, ih.mpr ⟨hfits, ?_⟩⟩
      rw [List.append_assoc]
      rfl

end Writes

/-! ## Sequences of calls -/

/-- A file: the digest of its bytes, its name, and what the parser makes of it. -/
structure WorkbookFile where
  fingerprint : String
  filename : String
  parsed : ParsedWorkbook

/-- The transaction of the import of a file. -/
def WorkbookFile.transaction (file : WorkbookFile) : Tx PyError EventStore ImportReport :=
  EventStore.transaction
    (EventStore.importStatements file.fingerprint file.filename file.parsed)

/-- The calls that write. -/
inductive WriteCall where
  | importWorkbook (file : WorkbookFile)
  | saveCheck (eventId : String) (snapshot : Option KiState) (outcome : Outcome) (source : String)

/-- The store after a call, whether or not it has raised. -/
def EventStore.write (store : EventStore) : WriteCall → EventStore
  | .importWorkbook file => (file.transaction store).2
  | .saveCheck eventId snapshot outcome source =>
    (Tx.lift (fun store : EventStore => store.saveCheck eventId snapshot outcome source) store).2

/-- The store after calls, from the empty one. -/
def storeAfter (calls : List WriteCall) : EventStore := calls.foldl EventStore.write .empty

/-- The row numbers of a file are different. -/
def WorkbookFile.Accepted (file : WorkbookFile) : Prop :=
  (file.parsed.rows.map Prod.fst ++ file.parsed.issues.map Prod.fst).Nodup

/-- Two files of one digest that differ in what they contain, or two events in files. -/
def Collision (calls : List WriteCall) : Prop :=
  (∃ file file', .importWorkbook file ∈ calls ∧ .importWorkbook file' ∈ calls ∧
    file.fingerprint = file'.fingerprint ∧ file.parsed ≠ file'.parsed) ∨
  ∃ file file', .importWorkbook file ∈ calls ∧ .importWorkbook file' ∈ calls ∧
    ∃ item ∈ file.parsed.rows, ∃ item' ∈ file'.parsed.rows,
      item.2.eventId = item'.2.eventId ∧ item.2 ≠ item'.2

section Sequences

open EventStore

variable {store store' : EventStore} {file : WorkbookFile} {report : ImportReport}
  {calls : List WriteCall}

theorem transaction_eq (file : WorkbookFile) (store : EventStore) : file.transaction store =
    Tx.lift (fun store => store.importWorkbook file.fingerprint file.filename file.parsed) store :=
  importTransaction_eq store

theorem existingImport_eq_none_iff {fingerprint : String} :
    store.existingImport fingerprint = none ↔ store.imports.find? fingerprint = none :=
  Option.map_eq_none_iff

/-- The rows of `import_rows` for a file. -/
def WorkbookFile.rowsOf (file : WorkbookFile) : List ImportRowRecord :=
  eventRowsOf file.fingerprint file.parsed.rows ++ issueRowsOf file.fingerprint file.parsed.issues

theorem fingerprint_of_mem_rowsOf {row : ImportRowRecord} (h : row ∈ file.rowsOf) :
    row.fingerprint = file.fingerprint := by
  rcases List.mem_append.mp h with h | h
  · obtain ⟨_, -, rfl⟩ := List.mem_map.mp h
    rfl
  · obtain ⟨_, -, rfl⟩ := List.mem_map.mp h
    rfl

theorem mem_rowsOf {item : ℕ × EventRecord} (h : item ∈ file.parsed.rows) :
    (⟨file.fingerprint, item.1, .inl item.2.eventId⟩ : ImportRowRecord) ∈ file.rowsOf :=
  List.mem_append_left _ (List.mem_map_of_mem h)

/-- What a first import leaves. -/
structure FirstImport (file : WorkbookFile) (store store' : EventStore) : Prop where
  recorded : (store'.imports.find? file.fingerprint).isSome = true
  others : ∀ fingerprint, fingerprint ≠ file.fingerprint →
    store'.imports.find? fingerprint = store.imports.find? fingerprint
  importRows : store'.importRows = store.importRows ++ file.rowsOf
  kept : ∀ row ∈ store.events, row ∈ store'.events
  written : ∀ item ∈ file.parsed.rows, ∃ other ∈ store'.events, other.eventId = item.2.eventId
  source : ∀ row ∈ store'.events, row ∈ store.events ∨ ∃ item ∈ file.parsed.rows, item.2 = row

theorem isSome_find?_setCounts (fingerprint : String) (inserted duplicates : ℕ)
    (store : EventStore) :
    ((setCounts fingerprint inserted duplicates store).imports.find? fingerprint).isSome =
      (store.imports.find? fingerprint).isSome := by
  rw [setCounts, Table.find?_modify_self, Option.isSome_map]

theorem find?_setCounts_ne {fingerprint other : String} (h : other ≠ fingerprint)
    (inserted duplicates : ℕ) (store : EventStore) :
    (setCounts fingerprint inserted duplicates store).imports.find? other =
      store.imports.find? other := by
  rw [setCounts, Table.find?_modify_ne h]

/-- A first import that gives a report. -/
theorem importWorkbook_of_new (hnew : store.existingImport file.fingerprint = none)
    (h : store.importWorkbook file.fingerprint file.filename file.parsed = .ok (report, store')) :
    FirstImport file store store' ∧ Fits store.importRows file.rowsOf ∧
      report.newEvents + report.duplicateEvents = file.parsed.rows.length := by
  simp only [EventStore.importWorkbook, hnew] at h
  obtain ⟨imports, himports, h⟩ := bind_eq_ok.mp h
  obtain ⟨⟨inserted, duplicates, next⟩, hrows, h⟩ := bind_eq_ok.mp h
  obtain ⟨last, hissues, h⟩ := bind_eq_ok.mp h
  have hinsert := found_eq_ok.mp himports
  have hwritten := importRowsOf_spec hrows
  have hfits := (importRowsOf_isOk_iff _ _ _).mp ⟨_, hrows⟩
  obtain ⟨hissuesFit, rfl⟩ := importIssues_eq_ok.mp hissues
  rw [hwritten.importRows] at hissuesFit
  cases h
  refine ⟨?_, fits_append.mpr ⟨hfits, hissuesFit⟩, importRowsOf_counts hrows⟩
  have himported : next.imports = imports := hwritten.imports
  refine ⟨?_, ?_, ?_, hwritten.kept, ?_, ?_⟩
  · refine (isSome_find?_setCounts _ inserted duplicates _).trans ?_
    rw [himported]
    exact congrArg Option.isSome (Table.find?_insert_self hinsert)
  · intro fingerprint hother
    refine (find?_setCounts_ne hother inserted duplicates _).trans ?_
    rw [himported]
    exact Table.find?_insert_ne hinsert hother
  · show next.importRows ++ _ = _
    rw [hwritten.importRows]
    exact List.append_assoc _ _ _
  · exact fun item hitem => hwritten.written item.2 (List.mem_map_of_mem hitem)
  · exact fun row hrow => (hwritten.source row hrow).imp_right List.mem_map.mp

/-- A first import succeeds where the row numbers of the file are free. -/
theorem exists_importWorkbook (hnew : store.existingImport file.fingerprint = none)
    (hfits : Fits store.importRows file.rowsOf) :
    ∃ r, store.importWorkbook file.fingerprint file.filename file.parsed = .ok r := by
  obtain ⟨hrowsFit, hissuesFit⟩ := fits_append.mp hfits
  simp only [EventStore.importWorkbook, hnew]
  obtain ⟨imports, hinsert⟩ := Table.insert_isSome (r := {
    fingerprint := file.fingerprint, filename := file.filename
    partly := !file.parsed.issues.isEmpty, newEvents := 0
    duplicateEvents := 0, rejectedRows := file.parsed.issues.length })
    (existingImport_eq_none_iff.mp hnew)
  obtain ⟨⟨inserted, duplicates, next⟩, hrows⟩ :=
    (importRowsOf_isOk_iff file.fingerprint file.parsed.rows { store with imports }).mpr hrowsFit
  rw [← (importRowsOf_spec hrows).importRows] at hissuesFit
  have hissues := importIssues_eq_ok.mpr ⟨hissuesFit, rfl⟩
  exact ⟨_, bind_eq_ok.mpr ⟨imports, found_eq_ok.mpr hinsert,
    bind_eq_ok.mpr ⟨_, hrows, bind_eq_ok.mpr ⟨_, hissues, rfl⟩⟩⟩⟩

/-- Where no row is of the file, its rows fit exactly if their numbers are different. -/
theorem fits_iff_accepted {rows : List ImportRowRecord}
    (hrows : ∀ row ∈ rows, row.fingerprint ≠ file.fingerprint) :
    Fits rows file.rowsOf ↔ file.Accepted := by
  have hkeys : file.rowsOf.map ImportRowRecord.key =
      (file.parsed.rows.map Prod.fst ++ file.parsed.issues.map Prod.fst).map
        fun rowNumber => (file.fingerprint, rowNumber) := by
    simp [WorkbookFile.rowsOf, eventRowsOf, issueRowsOf, ImportRowRecord.key, Function.comp_def]
  have hinjective : Function.Injective fun rowNumber : ℕ => (file.fingerprint, rowNumber) :=
    fun _ _ h => (Prod.mk_inj.mp h).2
  rw [Fits, hkeys, List.nodup_map_iff hinjective]
  refine and_iff_left fun row hrow hmem => ?_
  obtain ⟨rowNumber, -, hkey⟩ := List.mem_map.mp hmem
  exact hrows row hrow (Prod.mk_inj.mp hkey).1.symm

/-- What the tables hold after calls. -/
structure ImportInv (calls : List WriteCall) (store : EventStore) : Prop where
  /-- A file whose row numbers are different was imported. -/
  accepted : ∀ file, .importWorkbook file ∈ calls → file.Accepted →
    (store.imports.find? file.fingerprint).isSome = true
  /-- What was imported is there. -/
  recorded : ∀ fingerprint, (store.imports.find? fingerprint).isSome = true →
    ∃ file, .importWorkbook file ∈ calls ∧ file.fingerprint = fingerprint ∧ file.Accepted ∧
      ∀ item ∈ file.parsed.rows, ∃ row ∈ store.events, row.eventId = item.2.eventId
  rows : ∀ row ∈ store.importRows, (store.imports.find? row.fingerprint).isSome = true
  referenced : ∀ row ∈ store.events, ∃ importRow ∈ store.importRows,
    importRow.content = .inl row.eventId
  source : ∀ row ∈ store.events, ∃ file, .importWorkbook file ∈ calls ∧ file.Accepted ∧
    ∃ item ∈ file.parsed.rows, item.2 = row

theorem importInv_empty : ImportInv [] .empty where
  accepted _ h := absurd h List.not_mem_nil
  recorded _ h := absurd h Bool.false_ne_true
  rows _ h := absurd h List.not_mem_nil
  referenced _ h := absurd h List.not_mem_nil
  source _ h := absurd h List.not_mem_nil

/-- A call that leaves the tables of the events as they are, and is not the first of a file. -/
theorem ImportInv.same {call : WriteCall} (h : ImportInv calls store)
    (himports : store'.imports = store.imports) (hevents : store'.events = store.events)
    (hrows : store'.importRows = store.importRows)
    (hcall : ∀ file, call = .importWorkbook file → file.Accepted →
      (store.imports.find? file.fingerprint).isSome = true) :
    ImportInv (calls ++ [call]) store' := by
  have hmem : ∀ {file}, .importWorkbook file ∈ calls →
      .importWorkbook file ∈ calls ++ [call] := fun h => List.mem_append_left _ h
  refine ⟨?_, ?_, ?_, ?_, ?_⟩
  · intro file hfile haccepted
    rw [himports]
    rcases List.mem_append.mp hfile with hfile | hfile
    · exact h.accepted file hfile haccepted
    · exact hcall file (List.mem_singleton.mp hfile).symm haccepted
  · intro fingerprint hrecorded
    rw [himports] at hrecorded
    rw [hevents]
    obtain ⟨file, hfile, hrest⟩ := h.recorded fingerprint hrecorded
    exact ⟨file, hmem hfile, hrest⟩
  · rw [himports, hrows]
    exact h.rows
  · rw [hevents, hrows]
    exact h.referenced
  · rw [hevents]
    intro row hrow
    obtain ⟨file, hfile, hrest⟩ := h.source row hrow
    exact ⟨file, hmem hfile, hrest⟩

/-- The first import of a file. -/
theorem ImportInv.first (h : ImportInv calls store) (hfirst : FirstImport file store store')
    (haccepted : file.Accepted) :
    ImportInv (calls ++ [.importWorkbook file]) store' := by
  have hkept : ∀ fingerprint, (store.imports.find? fingerprint).isSome = true →
      (store'.imports.find? fingerprint).isSome = true := by
    intro fingerprint hsome
    by_cases hsame : fingerprint = file.fingerprint
    · rw [hsame]
      exact hfirst.recorded
    · rw [hfirst.others fingerprint hsame]
      exact hsome
  have hself : WriteCall.importWorkbook file ∈ calls ++ [.importWorkbook file] :=
    List.mem_append_right _ (List.mem_singleton_self _)
  refine ⟨?_, ?_, ?_, ?_, ?_⟩
  · intro other hother hotherAccepted
    rcases List.mem_append.mp hother with hother | hother
    · exact hkept _ (h.accepted other hother hotherAccepted)
    · cases List.mem_singleton.mp hother
      exact hfirst.recorded
  · intro fingerprint hrecorded
    by_cases hsame : fingerprint = file.fingerprint
    · exact ⟨file, hself, hsame.symm, haccepted, hfirst.written⟩
    · rw [hfirst.others fingerprint hsame] at hrecorded
      obtain ⟨other, hother, hfingerprint, hotherAccepted, hwritten⟩ :=
        h.recorded fingerprint hrecorded
      refine ⟨other, List.mem_append_left _ hother, hfingerprint, hotherAccepted, ?_⟩
      intro item hitem
      obtain ⟨row, hrow, hid⟩ := hwritten item hitem
      exact ⟨row, hfirst.kept row hrow, hid⟩
  · intro row hrow
    rw [hfirst.importRows] at hrow
    rcases List.mem_append.mp hrow with hrow | hrow
    · exact hkept _ (h.rows row hrow)
    · rw [fingerprint_of_mem_rowsOf hrow]
      exact hfirst.recorded
  · intro row hrow
    rw [hfirst.importRows]
    rcases hfirst.source row hrow with hrow | ⟨item, hitem, rfl⟩
    · obtain ⟨importRow, himportRow, hcontent⟩ := h.referenced row hrow
      exact ⟨importRow, List.mem_append_left _ himportRow, hcontent⟩
    · exact ⟨_, List.mem_append_right _ (mem_rowsOf hitem), rfl⟩
  · intro row hrow
    rcases hfirst.source row hrow with hrow | ⟨item, hitem, rfl⟩
    · obtain ⟨other, hother, hrest⟩ := h.source row hrow
      exact ⟨other, List.mem_append_left _ hother, hrest⟩
    · exact ⟨file, hself, haccepted, item, hitem, rfl⟩

/-- A call keeps what the tables hold. -/
theorem ImportInv.write (h : ImportInv calls store) (call : WriteCall) :
    ImportInv (calls ++ [call]) (store.write call) := by
  cases call with
  | saveCheck eventId snapshot outcome source =>
    cases hsave : store.saveCheck eventId snapshot outcome source with
    | error e =>
      have hwrite : store.write (.saveCheck eventId snapshot outcome source) = store :=
        congrArg Prod.snd (Tx.lift_of_error hsave)
      rw [hwrite]
      exact h.same rfl rfl rfl fun _ hcall => nomatch hcall
    | ok r =>
      obtain ⟨result, next⟩ := r
      have hwrite : store.write (.saveCheck eventId snapshot outcome source) = next :=
        congrArg Prod.snd (Tx.lift_of_ok hsave)
      rw [hwrite]
      obtain ⟨_, _, hsave⟩ := bind_eq_ok.mp hsave
      cases hsave
      exact h.same rfl rfl rfl fun _ hcall => nomatch hcall
  | importWorkbook file =>
    have hwrite : store.write (.importWorkbook file) = (Tx.lift (fun store =>
        store.importWorkbook file.fingerprint file.filename file.parsed) store).2 :=
      congrArg Prod.snd (transaction_eq file store)
    cases hexisting : store.existingImport file.fingerprint with
    | some report =>
      -- the file is known: nothing is written
      have himport : store.importWorkbook file.fingerprint file.filename file.parsed =
          .ok (report, store) := by rw [EventStore.importWorkbook, hexisting]
      rw [hwrite, Tx.lift_of_ok himport]
      refine h.same rfl rfl rfl ?_
      rintro _ ⟨⟩ -
      obtain ⟨row, hrow, -⟩ := Option.map_eq_some_iff.mp hexisting
      rw [hrow]
      rfl
    | none =>
      have hnone := existingImport_eq_none_iff.mp hexisting
      have hfresh : ∀ row ∈ store.importRows, row.fingerprint ≠ file.fingerprint := by
        intro row hrow hsame
        have hsome := h.rows row hrow
        rw [hsame, hnone] at hsome
        exact absurd hsome Bool.false_ne_true
      cases himport : store.importWorkbook file.fingerprint file.filename file.parsed with
      | ok r =>
        obtain ⟨report, next⟩ := r
        obtain ⟨hfirst, hfits, -⟩ := importWorkbook_of_new hexisting himport
        rw [hwrite, Tx.lift_of_ok himport]
        exact h.first hfirst ((fits_iff_accepted hfresh).mp hfits)
      | error e =>
        rw [hwrite, Tx.lift_of_error himport]
        refine h.same rfl rfl rfl ?_
        rintro _ ⟨⟩ haccepted
        obtain ⟨r, hr⟩ := exists_importWorkbook hexisting
          ((fits_iff_accepted hfresh).mpr haccepted)
        rw [himport] at hr
        cases hr

/-- What the tables hold after any sequence of calls. -/
theorem storeAfter_inv (calls : List WriteCall) : ImportInv calls (storeAfter calls) := by
  induction calls using List.reverseRecOn with
  | nil => exact importInv_empty
  | append_singleton calls call ih =>
    rw [storeAfter, List.foldl_append]
    exact ih.write call

/-- The events that are stored depend on which files are imported, and not on their order. -/
theorem mem_events_of_same {calls' : List WriteCall} (hcollision : ¬ Collision calls')
    (hsame : ∀ file, .importWorkbook file ∈ calls → .importWorkbook file ∈ calls')
    {row : EventRecord} (hrow : row ∈ (storeAfter calls).events) :
    row ∈ (storeAfter calls').events := by
  have hinv := storeAfter_inv calls'
  obtain ⟨file, hfile, haccepted, item, hitem, rfl⟩ := (storeAfter_inv calls).source row hrow
  -- the file, or one of its digest, was imported among the other calls
  obtain ⟨file', hfile', hfingerprint, -, hwritten⟩ :=
    hinv.recorded _ (hinv.accepted file (hsame file hfile) haccepted)
  have hparsed : file'.parsed = file.parsed := by
    by_contra hne
    exact hcollision (.inl ⟨file', file, hfile', hsame file hfile, hfingerprint, hne⟩)
  rw [hparsed] at hwritten
  obtain ⟨other, hother, hid⟩ := hwritten item hitem
  obtain ⟨source, hsource, -, otherItem, hotherItem, rfl⟩ := hinv.source other hother
  have hrow : otherItem.2 = item.2 := by
    by_contra hne
    exact hcollision (.inr ⟨source, file, hsource, hsame file hfile, otherItem, hotherItem, item,
      hitem, hid, hne⟩)
  rw [← hrow]
  exact hother

/-- After any sequence of calls: the first import of a file counts each of its rows once; a
repeated one changes nothing; every event is referred to; an import that raises changes nothing;
and the events are those of the files, in whatever order they came. -/
theorem import_sequences (calls : List WriteCall) :
    (∀ (file : WorkbookFile) (report : ImportReport) (store' : EventStore),
      (storeAfter calls).existingImport file.fingerprint = none →
      file.transaction (storeAfter calls) = (.ok report, store') →
        report.newEvents + report.duplicateEvents = file.parsed.rows.length) ∧
    (∀ file : WorkbookFile, (storeAfter calls).existingImport file.fingerprint ≠ none →
      ∃ report, file.transaction (storeAfter calls) = (.ok report, storeAfter calls) ∧
        report.repeatedFile = true) ∧
    (∀ row ∈ (storeAfter calls).events, ∃ importRow ∈ (storeAfter calls).importRows,
      importRow.content = .inl row.eventId) ∧
    (∀ (file : WorkbookFile) (e : PyError) (store' : EventStore),
      file.transaction (storeAfter calls) = (.error e, store') →
      store' = storeAfter calls) ∧
    ∀ calls', (∀ file, .importWorkbook file ∈ calls ↔ .importWorkbook file ∈ calls') →
      Collision calls ∨
        ∀ row, row ∈ (storeAfter calls).events ↔ row ∈ (storeAfter calls').events := by
  refine ⟨?_, ?_, (storeAfter_inv calls).referenced, ?_, ?_⟩
  · intro file report store' hnew h
    rw [transaction_eq, Tx.lift_eq_ok] at h
    exact (importWorkbook_of_new hnew h).2.2
  · intro file hknown
    obtain ⟨report, hexisting⟩ := Option.ne_none_iff_exists'.mp hknown
    have himport : (storeAfter calls).importWorkbook file.fingerprint file.filename file.parsed =
        .ok (report, storeAfter calls) := by rw [EventStore.importWorkbook, hexisting]
    refine ⟨report, (transaction_eq file _).trans (Tx.lift_of_ok himport), ?_⟩
    obtain ⟨_, -, rfl⟩ := Option.map_eq_some_iff.mp hexisting
    rfl
  · intro file e store' h
    exact Tx.rollback_eq_error h
  · intro calls' hfiles
    refine or_iff_not_imp_left.mpr fun hcollision row => ⟨mem_events_of_same ?_ ?_, ?_⟩
    · simpa only [Collision, hfiles] using hcollision
    · exact fun file => (hfiles file).mp
    · exact mem_events_of_same hcollision fun file => (hfiles file).mpr

end Sequences

end Wbcz.Desktop

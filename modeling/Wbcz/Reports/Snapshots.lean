import Wbcz.Reports.ArtifactCipher

/-!
# Snapshots of the rows of a report

`materialize_jsonl_snapshot` of `wbcz/m11_reports.py` writes the rows of a source down, one a line,
while the transaction lasts that reads them; `_snapshot_rows` of `wbcz_web/services/reports.py`
reads them back for the renderer.
-/

namespace Wbcz.Reports

open Fallible

/-- A row of a source, whose values stand under their columns. -/
abbrev SnapshotRow := List (String × Json)

/-- The file of a snapshot, and what is known of it. -/
structure MaterializedSnapshot where
  contents : List UInt8
  rowCount : ℕ
  sha256 : String
  byteSize : ℕ

def limitExceeded (message : String) : PyError := ⟨.other "ArtifactLimitExceeded", message⟩

/-- `(_canonical(dict(row)) + "\n").encode("utf-8")`. -/
def snapshotChunk (row : SnapshotRow) : List UInt8 := canonicalBytes (.obj row) ++ [10]

/-- The loop of `materialize_jsonl_snapshot`: the count of the rows and what was written. -/
def writeRows (maxRows maxBytes : ℕ) :
    ℕ → List UInt8 → List SnapshotRow → Except PyError (ℕ × List UInt8)
  | count, out, [] => .ok (count, out)
  | count, out, row :: rows => do
    ensure (count + 1 ≤ maxRows) (limitExceeded "snapshot row ceiling exceeded")
    ensure ((out ++ snapshotChunk row).length ≤ maxBytes)
      (limitExceeded "snapshot byte ceiling exceeded")
    writeRows maxRows maxBytes (count + 1) (out ++ snapshotChunk row) rows

def materializeJsonlSnapshot (maxRows maxBytes : ℕ) (rows : List SnapshotRow) :
    Except PyError MaterializedSnapshot :=
  (writeRows maxRows maxBytes 0 [] rows).map fun (count, out) =>
    ⟨out, count, Sha256.hexdigest out, out.length⟩

/-- The lines of a file that is opened as text: they end with `\n`, `\r` or both. -/
def textLines : List Char → List (List Char)
  | [] => []
  | c :: cs =>
    if c = '\r' ∧ cs.head? = some '\n' then textLines cs
    else if c = '\n' ∨ c = '\r' then ['\n'] :: textLines cs
    else match textLines cs with
      | [] => [[c]]
      | line :: lines => (c :: line) :: lines

/-- A value that is a row. -/
def rowOf? : Json → Option SnapshotRow
  | .obj fields => some fields
  | _ => none

/-- `_snapshot_rows`. -/
def snapshotRows (contents : List UInt8) : Except PyError (List SnapshotRow) :=
  match ByteArray.utf8Decode? ⟨contents.toArray⟩ with
  | none => .error ⟨.other "UnicodeDecodeError", ""⟩
  | some cs => do
    let values ← (textLines cs.toList).mapM fun line =>
      found (JsonReader.read (String.ofList line)) ⟨.other "JSONDecodeError", ""⟩
    .ok (values.filterMap rowOf?)

/-! ## A row on its line -/

/-- The row with its keys in order, and all keys in its values. -/
def orderedRow (row : SnapshotRow) : SnapshotRow := Json.orderFields (Json.orderedFields row)

/-- The character ends no line. -/
abbrev Unbroken (c : Char) : Prop := c ≠ '\n' ∧ c ≠ '\r'

-- the list is gone through, where an instance may go through all characters
theorem unbroken_of_all {cs : List Char} (h : (cs.all fun c => decide (Unbroken c)) = true) :
    ∀ c ∈ cs, Unbroken c := fun c hc => of_decide_eq_true (List.all_eq_true.mp h c hc)

theorem unbroken_escapeChar {c d : Char} (h : d ∈ Json.escapeChar c) : Unbroken d := by
  have hcontrol : ∀ n < 32,
      ((Json.escapeChar (Char.ofNat n)).all fun d => decide (Unbroken d)) = true := by decide
  by_cases hc : c.toNat < 32
  · exact unbroken_of_all (hcontrol c.toNat hc) d (by rwa [Char.ofNat_toNat])
  have hplain : d = '\\' ∨ d = '"' ∨ d = c := by
    simp only [Json.escapeChar] at h
    split_ifs at h <;> simp_all
  rcases hplain with rfl | rfl | rfl
  · decide
  · decide
  · exact ⟨fun hd => hc (hd ▸ by decide), fun hd => hc (hd ▸ by decide)⟩

theorem unbroken_escaped (s : String) : ∀ c ∈ s.toList.flatMap Json.escapeChar, Unbroken c := by
  intro c hc
  obtain ⟨d, -, hc⟩ := List.mem_flatMap.mp hc
  exact unbroken_escapeChar hc

mutual

/-- The text of a value without floats is the one of JCS, and stands on one line. -/
theorem text_spec : ∀ {v : Json}, Jcs.floatFree v = true →
    v.text = Jcs.render v ∧ ∀ c ∈ v.text, Unbroken c
  | .null, _ | .bool true, _ | .bool false, _ => ⟨rfl, unbroken_of_all rfl⟩
  | .int i, _ => by
    refine ⟨rfl, fun c hc => ?_⟩
    rcases Json.intText_digits hc with hdigit | rfl
    · constructor <;> rintro rfl <;> cases hdigit
    · decide
  | .float _, h => by cases h
  | .str s, _ => by
    refine ⟨rfl, ?_⟩
    rw [Json.text, List.forall_mem_cons, List.forall_mem_append]
    exact ⟨by decide, unbroken_escaped s, unbroken_of_all rfl⟩
  | .arr items, h => by
    obtain ⟨htext, hline⟩ := textItems_spec h [] (by simp)
    rw [Json.text, Jcs.render, ← htext, List.forall_mem_cons]
    exact ⟨rfl, by decide, hline⟩
  | .obj fields, h => by
    obtain ⟨htext, hline⟩ := textFields_spec h [] (by simp)
    rw [Json.text, Jcs.render, ← htext, List.forall_mem_cons]
    exact ⟨rfl, by decide, hline⟩

theorem textItems_spec : ∀ {items : List Json}, Jcs.floatFreeItems items = true →
    ∀ separator : List Char, (∀ c ∈ separator, Unbroken c) →
    Json.textItems separator items = Jcs.renderItems separator items ∧
      ∀ c ∈ Json.textItems separator items, Unbroken c
  | [], _, _, _ => ⟨rfl, by simp [Json.textItems, Unbroken]⟩
  | item :: items, h, separator, hseparator => by
    rw [Jcs.floatFreeItems, Bool.and_eq_true] at h
    obtain ⟨htext, hline⟩ := text_spec h.1
    obtain ⟨hrest, hlines⟩ := textItems_spec h.2 [','] (unbroken_of_all rfl)
    rw [Json.textItems, Jcs.renderItems, ← htext, ← hrest]
    refine ⟨rfl, ?_⟩
    simp only [List.forall_mem_append]
    exact ⟨hseparator, hline, hlines⟩

theorem textFields_spec : ∀ {fields : List (String × Json)}, Jcs.floatFreeFields fields = true →
    ∀ separator : List Char, (∀ c ∈ separator, Unbroken c) →
    Json.textFields separator fields = Jcs.renderFields separator fields ∧
      ∀ c ∈ Json.textFields separator fields, Unbroken c
  | [], _, _, _ => ⟨rfl, by simp [Json.textFields, Unbroken]⟩
  | (key, value) :: fields, h, separator, hseparator => by
    rw [Jcs.floatFreeFields, Bool.and_eq_true] at h
    obtain ⟨htext, hline⟩ := text_spec h.1
    obtain ⟨hrest, hlines⟩ := textFields_spec h.2 [','] (unbroken_of_all rfl)
    rw [Json.textFields, Jcs.renderFields, ← htext, ← hrest]
    refine ⟨rfl, ?_⟩
    simp only [List.forall_mem_append, List.forall_mem_cons]
    exact ⟨hseparator, by decide, unbroken_escaped key, by decide, by decide, hline, hlines⟩

end

mutual

theorem floatFree_ordered : ∀ {v : Json}, Jcs.floatFree v = true → Jcs.floatFree v.ordered = true
  | .arr items, h => floatFreeItems_ordered h
  | .obj fields, h => by
    rw [Json.ordered, Jcs.floatFree, Jcs.floatFreeFields_eq_all, List.all_eq_true]
    intro field hfield
    have hfields := floatFreeFields_ordered h
    rw [Jcs.floatFreeFields_eq_all, List.all_eq_true] at hfields
    exact hfields field (Json.mem_orderFields.mp hfield)
  | .null, h | .bool _, h | .int _, h | .float _, h | .str _, h => h

theorem floatFreeItems_ordered : ∀ {items : List Json}, Jcs.floatFreeItems items = true →
    Jcs.floatFreeItems (Json.orderedItems items) = true
  | [], h => h
  | item :: items, h => by
    rw [Jcs.floatFreeItems, Bool.and_eq_true] at h
    rw [Json.orderedItems, Jcs.floatFreeItems, floatFree_ordered h.1, floatFreeItems_ordered h.2]
    rfl

theorem floatFreeFields_ordered : ∀ {fields : List (String × Json)},
    Jcs.floatFreeFields fields = true → Jcs.floatFreeFields (Json.orderedFields fields) = true
  | [], h => h
  | (key, value) :: fields, h => by
    rw [Jcs.floatFreeFields, Bool.and_eq_true] at h
    rw [Json.orderedFields, Jcs.floatFreeFields, floatFree_ordered h.1,
      floatFreeFields_ordered h.2]
    rfl

end

/-- A line that ends is the first one. -/
theorem textLines_append {line : List Char} (rest : List Char) (h : ∀ c ∈ line, Unbroken c) :
    textLines (line ++ '\n' :: rest) = (line ++ ['\n']) :: textLines rest := by
  induction line with
  | nil => simp [textLines]
  | cons c line ih =>
    obtain ⟨hnewline, hreturn⟩ := h c List.mem_cons_self
    rw [List.cons_append, textLines, if_neg fun hc => hreturn hc.1,
      if_neg fun hc => hc.elim hnewline hreturn, ih fun d hd => h d (List.mem_cons_of_mem _ hd)]
    rfl

section Rows

variable {row : SnapshotRow} {rows : List SnapshotRow}

/-- The line of a row. -/
def rowLine (row : SnapshotRow) : List Char := (Json.obj (orderedRow row)).text ++ ['\n']

theorem snapshotChunk_eq (row : SnapshotRow) : snapshotChunk row = Text.encode (rowLine row) := by
  rw [snapshotChunk, canonicalBytes_eq, rowLine, Text.encode, Text.encode, List.flatMap_append]
  rfl

theorem floatFree_orderedRow (h : Jcs.floatFreeFields row = true) :
    Jcs.floatFree (.obj (orderedRow row)) = true :=
  floatFree_ordered (v := .obj row) h

theorem read_rowLine (h : Jcs.floatFreeFields row = true) :
    JsonReader.read (String.ofList (rowLine row)) = some (.obj (orderedRow row)) := by
  have hordered := floatFree_orderedRow h
  exact read_text ['\n'] (text_spec hordered).1 hordered rfl

theorem textLines_rows (h : ∀ row ∈ rows, Jcs.floatFreeFields row = true) :
    textLines (rows.flatMap rowLine) = rows.map rowLine := by
  induction rows with
  | nil => rfl
  | cons row rows ih =>
    rw [List.forall_mem_cons] at h
    have hline := textLines_append (rows.flatMap rowLine) (text_spec (floatFree_orderedRow h.1)).2
    rw [List.flatMap_cons, List.map_cons, ← ih h.2, rowLine, List.append_assoc]
    exact hline

/-- A snapshot is taken where the rows and their bytes are not too many. -/
theorem writeRows_eq_ok {maxRows maxBytes count : ℕ} {out : List UInt8} {r : ℕ × List UInt8}
    (hcount : count ≤ maxRows) (hout : out.length ≤ maxBytes) :
    writeRows maxRows maxBytes count out rows = .ok r ↔
      count + rows.length ≤ maxRows ∧ (out ++ rows.flatMap snapshotChunk).length ≤ maxBytes ∧
        r = (count + rows.length, out ++ rows.flatMap snapshotChunk) := by
  induction rows generalizing count out with
  | nil => simp [writeRows, hcount, hout, eq_comm]
  | cons row rows ih =>
    simp only [writeRows, bind_eq_ok, ensure_eq_ok, exists_const, List.flatMap_cons,
      List.length_cons, ← List.append_assoc]
    constructor
    · rintro ⟨hrows, hbytes, h⟩
      rw [ih hrows hbytes] at h
      rwa [Nat.add_assoc, Nat.add_comm 1] at h
    · rintro ⟨hrows, hbytes, rfl⟩
      rw [List.length_append] at hbytes
      have hrows' : count + 1 ≤ maxRows := by omega
      have hbytes' : (out ++ snapshotChunk row).length ≤ maxBytes := by omega
      refine ⟨hrows', hbytes', (ih hrows' hbytes').mpr ⟨by omega, ?_, ?_⟩⟩
      · rw [List.length_append]
        exact hbytes
      · rw [Nat.add_assoc, Nat.add_comm 1]

/-- What a snapshot holds is read back as the rows it was taken of, in their order, and a snapshot
is taken exactly where they keep to its limits. -/
theorem materialize_iff {maxRows maxBytes : ℕ} (h : ∀ row ∈ rows, Jcs.floatFreeFields row = true) :
    (∃ snapshot, materializeJsonlSnapshot maxRows maxBytes rows = .ok snapshot ∧
      snapshotRows snapshot.contents = .ok (rows.map orderedRow) ∧
      snapshot.rowCount = rows.length ∧ snapshot.byteSize = snapshot.contents.length ∧
      snapshot.sha256 = Sha256.hexdigest snapshot.contents) ↔
    rows.length ≤ maxRows ∧ (rows.flatMap snapshotChunk).length ≤ maxBytes := by
  have hwritten := @writeRows_eq_ok rows maxRows maxBytes 0 []
  constructor
  · rintro ⟨snapshot, htaken, -⟩
    obtain ⟨r, hr, -⟩ := map_eq_ok.mp htaken
    obtain ⟨hrows, hbytes, -⟩ := (hwritten (Nat.zero_le _) (Nat.zero_le _)).mp hr
    rw [Nat.zero_add] at hrows
    exact ⟨hrows, hbytes⟩
  · rintro ⟨hrows, hbytes⟩
    have htaken := (hwritten (Nat.zero_le _) (Nat.zero_le _)).mpr ⟨by omega, hbytes, rfl⟩
    refine ⟨_, map_eq_ok.mpr ⟨_, htaken, rfl⟩, ?_, Nat.zero_add _, rfl, rfl⟩
    -- the file is one text, whose lines are those of the rows as no row breaks its own
    have hchunks : rows.flatMap snapshotChunk = Text.encode (rows.flatMap rowLine) := by
      rw [funext snapshotChunk_eq]
      simp only [Text.encode, List.flatMap_assoc]
    have hread : ∀ row ∈ rows, found (JsonReader.read (String.ofList (rowLine row)))
        (⟨.other "JSONDecodeError", ""⟩ : PyError) = .ok (.obj (orderedRow row)) := fun row hrow =>
      found_eq_ok.mpr (read_rowLine (h row hrow))
    rw [List.nil_append, hchunks, snapshotRows, toArray_encode, List.utf8Decode?_utf8Encode]
    refine bind_eq_ok.mpr ⟨rows.map fun row => .obj (orderedRow row), ?_, ?_⟩
    · rw [List.toList_toArray, textLines_rows h, List.mapM_map]
      exact (mapM_congr hread).trans List.mapM_pure
    · rw [List.filterMap_map, Function.comp_def]
      exact congrArg Except.ok (congrFun List.filterMap_eq_map' rows)

end Rows

def sampleRows : List SnapshotRow :=
  [[("state", .str "a\r\nb"), ("count", .int 3)], [("state", .null), ("codes", .arr [.bool true])]]

theorem materialize_iff_sample : ∃ snapshot,
    materializeJsonlSnapshot 2 60 sampleRows = .ok snapshot ∧
    snapshotRows snapshot.contents = .ok (sampleRows.map orderedRow) ∧
    snapshot.rowCount = sampleRows.length ∧ snapshot.byteSize = snapshot.contents.length ∧
    snapshot.sha256 = Sha256.hexdigest snapshot.contents :=
  (materialize_iff (by decide)).mpr ⟨by decide, by decide +kernel⟩

end Wbcz.Reports

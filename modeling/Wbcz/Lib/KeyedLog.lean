import Wbcz.Lib.Fallible
import Wbcz.Lib.Table

/-!
# Logs whose entries have keys

An entry that is recorded again under its key is the entry that is there, when the two are the
same; another entry under the key is a conflict, and everything that was recorded with it is
given up.
-/

namespace Table

variable {ε κ α : Type} [DecidableEq κ] [DecidableEq α] {key : α → κ} {conflict : ε}
  {log log' : Table key} {entry : α} {entries : List α}

/-- Record an entry, unless the log has it under its key. -/
def record (conflict : ε) (log : Table key) (entry : α) : Except ε (Table key) :=
  match log.insert entry with
  | some log' => .ok log'
  | none => if log.find? (key entry) ≠ some entry then .error conflict else .ok log

/-- Record one entry after the other. -/
def recordAll (conflict : ε) (log : Table key) (entries : List α) : Except ε (Table key) :=
  entries.foldlM (record conflict) log

/-- What the log has under the key of an entry is the entry. -/
def Accepts (log : Table key) (entry : α) : Prop :=
  ∀ stored ∈ log, key stored = key entry → stored = entry

theorem record_eq_ok (h : log.record conflict entry = .ok log') :
    log.Accepts entry ∧ ∀ other, other ∈ log' ↔ other ∈ log ∨ other = entry := by
  unfold record at h
  cases hinsert : log.insert entry with
  | some inserted =>
    rw [hinsert] at h
    cases h
    have hnone := find?_eq_none_iff.mp (insert_eq_some hinsert).1
    exact ⟨fun stored hmem hkey => absurd hkey (hnone stored hmem), fun _ => mem_insert hinsert⟩
  | none =>
    rw [hinsert] at h
    obtain ⟨hfind, h⟩ := Fallible.guard_eq_ok.mp h
    cases h
    have hmem := mem_of_find? (not_not.mp hfind)
    refine ⟨fun stored hstored hkey => eq_of_key_eq hstored hmem hkey, fun other => ?_⟩
    refine ⟨Or.inl, ?_⟩
    rintro (hother | rfl)
    · exact hother
    · exact hmem

theorem record_of_accepts (h : log.Accepts entry) :
    ∃ log', log.record conflict entry = .ok log' := by
  unfold record
  cases hinsert : log.insert entry with
  | some inserted => exact ⟨inserted, rfl⟩
  | none =>
    obtain ⟨stored, hfind⟩ := insert_eq_none hinsert
    have hsame := h stored (mem_of_find? hfind) (key_of_find? hfind)
    exact ⟨log, if_neg (not_not.mpr (hsame ▸ hfind))⟩

/-- An entry under another key changes nothing for an entry. -/
theorem accepts_record_iff {other : α} (h : log.record conflict other = .ok log')
    (hne : key other ≠ key entry) : log'.Accepts entry ↔ log.Accepts entry := by
  have hmem := (record_eq_ok h).2
  constructor
  · exact fun haccepts stored hstored => haccepts stored ((hmem stored).mpr (.inl hstored))
  · intro haccepts stored hstored hkey
    rcases (hmem stored).mp hstored with hold | rfl
    · exact haccepts stored hold hkey
    · exact absurd hkey hne

theorem recordAll_cons : log.recordAll conflict (entry :: entries) =
    log.record conflict entry >>= fun log' => log'.recordAll conflict entries :=
  List.foldlM_cons

theorem recordAll_append {others : List α} : log.recordAll conflict (entries ++ others) =
    log.recordAll conflict entries >>= fun log' => log'.recordAll conflict others :=
  List.foldlM_append

/-- Entries with different keys are recorded without a conflict exactly if each of them is
accepted as the log stands. -/
theorem recordAll_isOk_iff (hkeys : (entries.map key).Nodup) :
    (∃ log', log.recordAll conflict entries = .ok log') ↔
      ∀ entry ∈ entries, log.Accepts entry := by
  induction entries generalizing log with
  | nil => exact iff_of_true ⟨log, rfl⟩ fun _ h => absurd h List.not_mem_nil
  | cons entry entries ih =>
    obtain ⟨hnew, hrest⟩ := List.nodup_cons.mp hkeys
    have hother : ∀ other ∈ entries, key entry ≠ key other := by
      intro other hmem heq
      exact hnew (heq ▸ List.mem_map_of_mem hmem)
    constructor
    · rintro ⟨log', h⟩
      rw [recordAll_cons] at h
      obtain ⟨middle, hrecord, h⟩ := Fallible.bind_eq_ok.mp h
      have haccepts := (ih hrest).mp ⟨log', h⟩
      intro other hmem
      rcases List.mem_cons.mp hmem with rfl | hmem
      · exact (record_eq_ok hrecord).1
      · exact (accepts_record_iff hrecord (hother other hmem)).mp (haccepts other hmem)
    · intro haccepts
      obtain ⟨middle, hrecord⟩ := @record_of_accepts _ _ _ _ _ _ conflict _ _
        (haccepts entry List.mem_cons_self)
      have hmiddle : ∀ other ∈ entries, middle.Accepts other := fun other hmem =>
        (accepts_record_iff hrecord (hother other hmem)).mpr
          (haccepts other (List.mem_cons_of_mem _ hmem))
      obtain ⟨log', h⟩ := (ih hrest).mpr hmiddle
      refine ⟨log', ?_⟩
      rw [recordAll_cons]
      exact Fallible.bind_eq_ok.mpr ⟨middle, hrecord, h⟩

/-- A log holds what it held and what was recorded. -/
theorem mem_recordAll (h : log.recordAll conflict entries = .ok log') (entry : α) :
    entry ∈ log' ↔ entry ∈ log ∨ entry ∈ entries := by
  induction entries generalizing log with
  | nil =>
    cases h
    simp
  | cons first entries ih =>
    rw [recordAll_cons] at h
    obtain ⟨middle, hrecord, h⟩ := Fallible.bind_eq_ok.mp h
    rw [ih h, (record_eq_ok hrecord).2 entry, List.mem_cons, or_assoc]

end Table

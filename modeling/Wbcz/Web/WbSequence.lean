import Mathlib.Data.List.Dedup
import Mathlib.Data.List.MinMax
import Wbcz.Control.Checks
import Wbcz.Lib.Table
import Wbcz.Marketplace.Event

/-!
# The order of the events of a KIZ

The table `events` of the web, as `import_xlsx` of `imports.py` fills it, and what
`wb_sequence.py` makes of the events of one KIZ: which of them stands, or that their order is not
known. The database keeps the instant of a moment and no time zone.

The ids of organisations and participants are UUIDs, and have no colon. Two texts may have one
digest only where the hash collides; what is said of imports holds as long as it does not.
-/

namespace Wbcz.Web

open Calendar
open Fallible (ensure found bind_eq_ok ensure_eq_ok found_eq_ok map_eq_ok)
open Marketplace (EventDict)

/-! ## The table -/

/-- A tenant. -/
@[ext] structure Tenant where
  organisationId : String
  participantId : String
  organisationId_plain : ':' ∉ organisationId.toList
  participantId_plain : ':' ∉ participantId.toList
  deriving DecidableEq

namespace WbSequence

/-- A row of `events`; the other columns are fields of the payload. -/
structure EventRecord where
  eventId : String
  sourceEventId : Option String
  organisationId : Option String
  participantId : Option String
  kiz : String
  occurredAt : Option Moment
  payload : EventDict
  deriving DecidableEq

/-- `events`, by its primary key. -/
abbrev EventTable := Table EventRecord.eventId

/-- The text of which an id is the digest. -/
def tenantEventText (tenant : Tenant) (source : String) : String :=
  "m12-tenant-event:v1:" ++ tenant.organisationId ++ ":" ++ tenant.participantId ++ ":" ++ source

/-- `tenant_event_id`. -/
def tenantEventId (tenant : Tenant) (source : String) : String :=
  Sha256.hexdigest (Text.utf8 (tenantEventText tenant source))

/-- `event_to_record` of a tenant. -/
def eventToRecord (tenant : Tenant) (event : Marketplace.Event) : Except PyError EventRecord := do
  let source ← event.eventId
  let payload ← event.toDict
  pure {
    eventId := tenantEventId tenant source
    sourceEventId := some source
    organisationId := some tenant.organisationId
    participantId := some tenant.participantId
    kiz := event.kiz
    occurredAt := event.occurredAt.bind Zoned.toUtc
    payload }

/-- The filter of a scope; without a scope there is none. -/
def sees (scope : Option Tenant) (row : EventRecord) : Bool :=
  match scope with
  | none => true
  | some tenant =>
    row.organisationId = some tenant.organisationId && row.participantId = some tenant.participantId

/-- `event`. -/
def eventOf (scope : Option Tenant) (table : EventTable) (eventId : String) : Option EventRecord :=
  table.rows.find? fun row => sees scope row && row.eventId = eventId

/-- `event_exists`. -/
def eventExists (scope : Option Tenant) (table : EventTable) (source : String) : Bool :=
  table.rows.any fun row => sees scope row && row.sourceEventId = some source

/-! ## Imports -/

/-- A constraint of the table is violated. -/
def integrityError : PyError := ⟨.integrityError, ""⟩

/-- `uq_events_tenant_source_event`. -/
def sameSource (row other : EventRecord) : Bool :=
  row.organisationId = other.organisationId && row.participantId = other.participantId &&
    row.sourceEventId = other.sourceEventId

/-- `db.add(event_to_record(event))` and `flush`. -/
def insertEvent (row : EventRecord) (table : EventTable) : Except PyError EventTable := do
  ensure (¬ table.rows.any (sameSource row) = true) integrityError
  found (table.insert row) integrityError

/-- The loop of `import_xlsx` over the rows, with the ids that it has inserted. -/
def importEvents (tenant : Tenant) : List Marketplace.Event → List String → EventTable →
    Except PyError EventTable
  | [], _, table => .ok table
  | event :: events, known, table => do
    let source ← event.eventId
    if source ∈ known ∨ eventExists (some tenant) table source = true then
      importEvents tenant events known table
    else
      let row ← eventToRecord tenant event
      let table ← insertEvent row table
      importEvents tenant events (source :: known) table

/-- A file of a tenant, with the events of its rows. -/
structure ImportFile where
  tenant : Tenant
  rows : List Marketplace.Event

/-- The events that `import_xlsx` leaves: those it has inserted are rolled back where it raises. -/
def importXlsx (file : ImportFile) (table : EventTable) : EventTable :=
  ((importEvents file.tenant file.rows [] table).toOption).getD table

/-- The events after a sequence of imports. -/
def eventsAfter (files : List ImportFile) : EventTable :=
  files.foldl (fun table file => importXlsx file table) .empty

/-! ## The order -/

/-- The order of `history_for_kiz`: by moment, those without one last, and then by id. -/
def before (row other : EventRecord) : Bool :=
  match row.occurredAt, other.occurredAt with
  | some s, some t => s < t || (s = t && row.eventId ≤ other.eventId)
  | some _, none => true
  | none, some _ => false
  | none, none => row.eventId ≤ other.eventId

/-- `history_for_kiz`. -/
def historyForKiz (scope : Option Tenant) (table : EventTable) (kiz : String) : List EventRecord :=
  (table.rows.filter fun row => sees scope row && row.kiz = kiz).mergeSort before

/-- `history_order_ambiguous` of a history. -/
def orderAmbiguous (rows : List EventRecord) : Bool :=
  let dates := rows.map EventRecord.occurredAt
  2 ≤ rows.length && (dates.any Option.isNone || dates.dedup.length ≠ dates.length)

/-- `history_order_ambiguous`. -/
def historyOrderAmbiguous (scope : Option Tenant) (table : EventTable) (kiz : String) : Bool :=
  orderAmbiguous (historyForKiz scope table kiz)

/-- The states of a resolution. -/
inductive State where
  | absent
  | effective
  | ambiguous
  deriving DecidableEq, Repr

/-- `WbSequenceResolution`. -/
structure Resolution where
  state : State
  effectiveEventId : Option String
  deriving DecidableEq, Repr

/-- A moment to compare by. -/
def momentKey (row : EventRecord) : WithBot Moment :=
  match row.occurredAt with
  | some t => t
  | none => ⊥

/-- `resolve_wb_sequence` of a history. -/
def resolve : List EventRecord → Resolution
  | [] => ⟨.absent, none⟩
  | [row] => ⟨.effective, some row.eventId⟩
  | rows =>
    let timestamps := rows.map EventRecord.occurredAt
    if timestamps.any Option.isNone = true then ⟨.ambiguous, none⟩
    else if timestamps.dedup.length ≠ timestamps.length then ⟨.ambiguous, none⟩
    else ⟨.effective, (rows.argmax momentKey).map EventRecord.eventId⟩

/-- `resolve_wb_sequence`. -/
def resolveWbSequence (scope : Option Tenant) (table : EventTable) (kiz : String) : Resolution :=
  resolve (historyForKiz scope table kiz)

/-- `sequence_outcome_for_event`. -/
def sequenceOutcomeForEvent (scope : Option Tenant) (table : EventTable) (eventId : String) :
    Except PyError (Option Outcome) := do
  let row ← found (eventOf scope table eventId) ⟨.keyError, eventId⟩
  let resolution := resolveWbSequence scope table row.kiz
  if resolution.state = .ambiguous then
    pure (some ⟨.manualReview, "HISTORY_ORDER_AMBIGUOUS", none⟩)
  else if resolution.effectiveEventId ≠ none ∧ resolution.effectiveEventId ≠ some eventId then
    pure (some ⟨.noAction, "SUPERSEDED_BY_LATER_WB_EVENT", none⟩)
  else pure none

/-! ## The event that stands -/

/-- An event stands among others when all moments are known and different, and its own is the
last. -/
structure Latest (events : Set EventRecord) (row : EventRecord) : Prop where
  known : ∀ other ∈ events, other.occurredAt ≠ none
  distinct : ∀ a ∈ events, ∀ b ∈ events, a.occurredAt = b.occurredAt → a = b
  later : ∀ other ∈ events, other ≠ row →
    ∃ s t, other.occurredAt = some s ∧ row.occurredAt = some t ∧ s < t

/-- An event is the only one, or it stands among the others. -/
def Stands (events : Set EventRecord) (row : EventRecord) : Prop :=
  row ∈ events ∧ ((∀ other ∈ events, other = row) ∨ Latest events row)

section Resolve

variable {rows : List EventRecord} {row : EventRecord}

/-- The moments of rows are known and different. -/
def Ordered (rows : List EventRecord) : Prop :=
  (∀ other ∈ rows, other.occurredAt ≠ none) ∧ (rows.map EventRecord.occurredAt).Nodup

theorem dedup_length_ne_iff {α : Type} [DecidableEq α] (xs : List α) :
    xs.dedup.length ≠ xs.length ↔ ¬ xs.Nodup := by
  refine not_congr ⟨fun h => ?_, fun h => by rw [h.dedup]⟩
  have heq := (List.dedup_sublist xs).eq_of_length h
  rw [← heq]
  exact List.nodup_dedup xs

theorem any_isNone_iff : (rows.map EventRecord.occurredAt).any Option.isNone = true ↔
    ¬ ∀ other ∈ rows, other.occurredAt ≠ none := by
  simp

/-- Two or more rows that are not ordered have an ambiguous order. -/
theorem orderAmbiguous_iff : orderAmbiguous rows = true ↔ 2 ≤ rows.length ∧ ¬ Ordered rows := by
  have hdates := dedup_length_ne_iff (rows.map EventRecord.occurredAt)
  rw [orderAmbiguous, Bool.and_eq_true, Bool.or_eq_true, decide_eq_true_eq, any_isNone_iff,
    decide_eq_true_eq, hdates, Ordered, not_and_or]

/-- A history of more than one row, by its cases. -/
theorem resolve_of_two_le (h : 2 ≤ rows.length) :
    (¬ Ordered rows ∧ resolve rows = ⟨.ambiguous, none⟩) ∨
      (Ordered rows ∧
        resolve rows = ⟨.effective, (rows.argmax momentKey).map EventRecord.eventId⟩) := by
  match rows, h with
  | first :: second :: rest, _ =>
    rw [resolve]
    by_cases hknown : ∀ other ∈ first :: second :: rest, other.occurredAt ≠ none
    · rw [if_neg (mt any_isNone_iff.mp (not_not.mpr hknown))]
      by_cases hnodup : ((first :: second :: rest).map EventRecord.occurredAt).Nodup
      · rw [if_neg (mt (dedup_length_ne_iff _).mp (not_not.mpr hnodup))]
        exact .inr ⟨⟨hknown, hnodup⟩, rfl⟩
      · rw [if_pos ((dedup_length_ne_iff _).mpr hnodup)]
        exact .inl ⟨fun h => hnodup h.2, rfl⟩
    · rw [if_pos (any_isNone_iff.mpr hknown)]
      exact .inl ⟨fun h => hknown h.1, rfl⟩
    · exact fun h => List.cons_ne_nil _ _ h
    · exact fun _ h => List.cons_ne_nil _ _ (List.cons.inj h).2

/-- The order is ambiguous for the resolution when it is for the history. -/
theorem resolve_ambiguous_iff :
    (resolve rows).state = .ambiguous ↔ orderAmbiguous rows = true := by
  rw [orderAmbiguous_iff]
  rcases rows with _ | ⟨first, _ | ⟨second, rest⟩⟩
  · simp [resolve]
  · simp [resolve]
  · have htwo : 2 ≤ (first :: second :: rest).length := by simp
    rcases resolve_of_two_le htwo with ⟨hnot, heq⟩ | ⟨hordered, heq⟩
    · exact iff_of_true (by rw [heq]) ⟨htwo, hnot⟩
    · exact iff_of_false (by rw [heq]; simp) fun h => h.2 hordered

/-- The row with the greatest moment is the latest of ordered rows, and the only one. -/
theorem latest_iff_argmax (hrows : rows.Nodup) (hordered : Ordered rows) (hrow : row ∈ rows) :
    Latest {other | other ∈ rows} row ↔ rows.argmax momentKey = some row := by
  have hdistinct := (List.nodup_map_iff_inj_on hrows).mp hordered.2
  constructor
  · intro hlatest
    obtain ⟨best, hbest⟩ : ∃ best, rows.argmax momentKey = some best := by
      cases hmax : rows.argmax momentKey with
      | none => rw [List.argmax_eq_none.mp hmax] at hrow; cases hrow
      | some best => exact ⟨best, rfl⟩
    by_cases hsame : best = row
    · rw [hbest, hsame]
    · obtain ⟨s, t, hs, ht, hlt⟩ := hlatest.later best (List.argmax_mem hbest) hsame
      have hle := List.le_of_mem_argmax hrow hbest
      rw [momentKey, momentKey, hs, ht] at hle
      exact absurd (WithBot.coe_le_coe.mp hle) (not_le.mpr hlt)
  · intro hmax
    refine ⟨hordered.1, fun a ha b hb => hdistinct a ha b hb, ?_⟩
    intro other hother hne
    obtain ⟨s, hs⟩ := Option.ne_none_iff_exists'.mp (hordered.1 other hother)
    obtain ⟨t, ht⟩ := Option.ne_none_iff_exists'.mp (hordered.1 row hrow)
    have hle := List.le_of_mem_argmax hother hmax
    rw [momentKey, momentKey, hs, ht] at hle
    refine ⟨s, t, hs, ht, lt_of_le_of_ne (WithBot.coe_le_coe.mp hle) ?_⟩
    rintro rfl
    exact hne (hdistinct other hother row hrow (hs.trans ht.symm))

/-- An event is effective when it stands. -/
theorem resolve_eq_effective_iff (hrows : rows.Nodup) (id : String) :
    resolve rows = ⟨.effective, some id⟩ ↔
      ∃ row, row.eventId = id ∧ Stands {other | other ∈ rows} row := by
  rcases hcases : rows with _ | ⟨first, _ | ⟨second, rest⟩⟩
  · refine iff_of_false (by simp [resolve]) ?_
    rintro ⟨row, -, hrow, -⟩
    cases hrow
  · rw [resolve]
    constructor
    · intro h
      refine ⟨first, ?_, List.mem_singleton_self _, .inl fun other hother => ?_⟩
      · simpa using h
      · exact List.mem_singleton.mp hother
    · rintro ⟨row, rfl, hrow, -⟩
      rw [List.mem_singleton.mp hrow]
  · rw [← hcases]
    have htwo : 2 ≤ rows.length := by rw [hcases]; simp
    -- two rows are different, and none of them is the only one
    have honly : ∀ row, ¬ ∀ other ∈ rows, other = row := by
      rintro row h
      have hfirst := h first (by rw [hcases]; simp)
      have hsecond := h second (by rw [hcases]; simp)
      rw [hcases, hfirst, hsecond] at hrows
      simp at hrows
    rcases resolve_of_two_le htwo with ⟨hnot, heq⟩ | ⟨hordered, heq⟩
    · refine iff_of_false (by rw [heq]; simp) ?_
      rintro ⟨row, -, -, hrow | hlatest⟩
      · exact honly row hrow
      · refine hnot ⟨hlatest.known, (List.nodup_map_iff_inj_on hrows).mpr ?_⟩
        exact fun a ha b hb => hlatest.distinct a ha b hb
    · rw [heq]
      constructor
      · intro h
        have hid : (rows.argmax momentKey).map EventRecord.eventId = some id := by simpa using h
        obtain ⟨row, hmax, rfl⟩ := Option.map_eq_some_iff.mp hid
        have hrow := List.argmax_mem hmax
        exact ⟨row, rfl, hrow, .inr ((latest_iff_argmax hrows hordered hrow).mpr hmax)⟩
      · rintro ⟨row, rfl, hrow, honlyRow | hlatest⟩
        · exact absurd honlyRow (honly row)
        · rw [(latest_iff_argmax hrows hordered hrow).mp hlatest]
          rfl

/-- The three kinds of resolutions. -/
theorem resolve_cases (rows : List EventRecord) :
    (rows = [] ∧ resolve rows = ⟨.absent, none⟩) ∨ resolve rows = ⟨.ambiguous, none⟩ ∨
      ∃ id, resolve rows = ⟨.effective, some id⟩ := by
  rcases hcases : rows with _ | ⟨first, _ | ⟨second, rest⟩⟩
  · exact .inl ⟨rfl, rfl⟩
  · exact .inr (.inr ⟨first.eventId, rfl⟩)
  · rw [← hcases]
    have htwo : 2 ≤ rows.length := by rw [hcases]; simp
    rcases resolve_of_two_le htwo with ⟨-, heq⟩ | ⟨-, heq⟩
    · exact .inr (.inl heq)
    · cases hmax : rows.argmax momentKey with
      | none =>
        rw [List.argmax_eq_none.mp hmax] at htwo
        cases htwo
      | some row => exact .inr (.inr ⟨row.eventId, by rw [heq, hmax]; rfl⟩)

/-- Rows of one set have one resolution. -/
theorem resolve_congr {rows' : List EventRecord} (hrows : rows.Nodup) (hrows' : rows'.Nodup)
    (hsame : ∀ row, row ∈ rows ↔ row ∈ rows') : resolve rows = resolve rows' := by
  have hperm := (List.perm_ext_iff_of_nodup hrows hrows').mpr hsame
  rcases resolve_cases rows with ⟨rfl, -⟩ | hambiguous | ⟨id, heffective⟩
  · rw [List.nil_perm.mp hperm]
  · have hstate := resolve_ambiguous_iff.mp (congrArg Resolution.state hambiguous)
    rw [orderAmbiguous_iff] at hstate
    have hordered : Ordered rows ↔ Ordered rows' := and_congr
      (forall_congr' fun row => imp_congr_left (hsame row)) (hperm.map _).nodup_iff
    rw [hperm.length_eq, hordered, ← orderAmbiguous_iff, ← resolve_ambiguous_iff] at hstate
    rcases resolve_cases rows' with ⟨-, heq⟩ | heq | ⟨_, heq⟩
    · rw [heq] at hstate
      cases hstate
    · rw [hambiguous, heq]
    · rw [heq] at hstate
      cases hstate
  · have hset : {other | other ∈ rows} = {other | other ∈ rows'} := Set.ext hsame
    rw [heffective]
    rw [resolve_eq_effective_iff hrows, hset, ← resolve_eq_effective_iff hrows'] at heffective
    exact heffective.symm

end Resolve

/-! ## The histories of a table -/

section Histories

variable {scope : Option Tenant} {table table' : EventTable} {kiz : String} {row : EventRecord}

/-- The events of a KIZ that a scope sees. -/
def kizHistory (scope : Option Tenant) (table : EventTable) (kiz : String) : Set EventRecord :=
  {row | row ∈ table ∧ sees scope row = true ∧ row.kiz = kiz}

theorem mem_historyForKiz :
    row ∈ historyForKiz scope table kiz ↔ row ∈ kizHistory scope table kiz := by
  rw [historyForKiz, List.mem_mergeSort, List.mem_filter, Bool.and_eq_true, decide_eq_true_eq]
  rfl

theorem setOf_historyForKiz :
    {row | row ∈ historyForKiz scope table kiz} = kizHistory scope table kiz :=
  Set.ext fun _ => mem_historyForKiz

theorem nodup_historyForKiz : (historyForKiz scope table kiz).Nodup :=
  (List.mergeSort_perm _ _).nodup_iff.mpr
    ((List.Nodup.of_map _ table.nodup).filter _)

theorem resolveWbSequence_eq_effective_iff (id : String) :
    resolveWbSequence scope table kiz = ⟨.effective, some id⟩ ↔
      ∃ row, row.eventId = id ∧ Stands (kizHistory scope table kiz) row := by
  rw [resolveWbSequence, resolve_eq_effective_iff nodup_historyForKiz, setOf_historyForKiz]

theorem resolveWbSequence_ambiguous_iff :
    (resolveWbSequence scope table kiz).state = .ambiguous ↔
      historyOrderAmbiguous scope table kiz = true :=
  resolve_ambiguous_iff

/-- Tables of the same rows have the same resolutions. -/
theorem resolveWbSequence_congr (hsame : ∀ row, row ∈ table ↔ row ∈ table') :
    resolveWbSequence scope table kiz = resolveWbSequence scope table' kiz :=
  resolve_congr nodup_historyForKiz nodup_historyForKiz fun row => by
    rw [mem_historyForKiz, mem_historyForKiz]
    exact and_congr_left' (hsame row)

/-- The sequence policy says nothing about an event if and only if that event is effective. -/
theorem outcome_none_iff {eventId : String} :
    sequenceOutcomeForEvent scope table eventId = .ok none ↔
      ∃ row, eventOf scope table eventId = some row ∧
        resolveWbSequence scope table row.kiz = ⟨.effective, some eventId⟩ := by
  unfold sequenceOutcomeForEvent
  constructor
  · intro h
    obtain ⟨row, hrow, h⟩ := bind_eq_ok.mp h
    have hrow := found_eq_ok.mp hrow
    refine ⟨row, hrow, ?_⟩
    obtain ⟨hsees, hid⟩ : sees scope row = true ∧ row.eventId = eventId := by
      simpa using List.find?_some hrow
    have hmem : row ∈ historyForKiz scope table row.kiz :=
      mem_historyForKiz.mpr ⟨List.mem_of_find?_eq_some hrow, hsees, rfl⟩
    rcases resolve_cases (historyForKiz scope table row.kiz) with ⟨hnil, -⟩ | heq | ⟨id, heq⟩
    · rw [hnil] at hmem
      cases hmem
    · rw [resolveWbSequence, heq, if_pos rfl] at h
      cases h
    · rw [resolveWbSequence, heq, if_neg (by simp)] at h
      by_cases hsame : id = eventId
      · rw [resolveWbSequence, heq, hsame]
      · rw [if_pos ⟨by simp, by simpa using hsame⟩] at h
        cases h
  · rintro ⟨row, hrow, hresolution⟩
    refine bind_eq_ok.mpr ⟨row, found_eq_ok.mpr hrow, ?_⟩
    rw [hresolution, if_neg (by simp), if_neg (by simp)]
    rfl

/-- At most one event of a KIZ is not settled by the sequence policy. -/
theorem outcome_none_unique {a b : EventRecord} (ha : a ∈ kizHistory scope table kiz)
    (hb : b ∈ kizHistory scope table kiz)
    (hnone : sequenceOutcomeForEvent scope table a.eventId = .ok none)
    (hnone' : sequenceOutcomeForEvent scope table b.eventId = .ok none) : a = b := by
  have hkiz : ∀ {row other : EventRecord}, row ∈ kizHistory scope table kiz →
      eventOf scope table row.eventId = some other → other.kiz = kiz := by
    intro row other hrow hother
    have hid : sees scope other = true ∧ other.eventId = row.eventId := by
      simpa using List.find?_some hother
    rw [Table.eq_of_key_eq (List.mem_of_find?_eq_some hother) hrow.1 hid.2]
    exact hrow.2.2
  obtain ⟨row, hrow, heffective⟩ := outcome_none_iff.mp hnone
  obtain ⟨other, hother, heffective'⟩ := outcome_none_iff.mp hnone'
  rw [hkiz ha hrow] at heffective
  rw [hkiz hb hother] at heffective'
  have hid : a.eventId = b.eventId := by simpa using heffective.symm.trans heffective'
  exact Table.eq_of_key_eq ha.1 hb.1 hid

/-- What a resolution says about an event. -/
def Resolution.sequence (resolution : Resolution) (eventId : String) : Control.WbSequence :=
  if resolution.state = .ambiguous then .ambiguous
  else if resolution.effectiveEventId ≠ none ∧ resolution.effectiveEventId ≠ some eventId then
    .superseded
  else .effective

end Histories

/-! ## The events of imports -/

section Imports

variable {tenant : Tenant} {event : Marketplace.Event} {row : EventRecord}

/-- The row of an event, by its dictionary. -/
def recordOf (tenant : Tenant) (value : EventDict) (occurredAt : Option Moment) : EventRecord where
  eventId := tenantEventId tenant value.digest
  sourceEventId := some value.digest
  organisationId := some tenant.organisationId
  participantId := some tenant.participantId
  kiz := value.kiz
  occurredAt
  payload := value

theorem eventId_recordOf (tenant : Tenant) (value : EventDict) (occurredAt : Option Moment) :
    (recordOf tenant value occurredAt).eventId = tenantEventId tenant value.digest := by
  rw [recordOf]

/-- The dictionary of an event has its KIZ and the text of its moment in UTC. -/
theorem toDict_spec {value : EventDict} (h : event.toDict = .ok value) :
    value.kiz = event.kiz ∧
      value.occurredAt = (event.occurredAt.bind Zoned.toUtc).map Marketplace.momentText := by
  obtain ⟨occurredAt, hoccurred, h⟩ := bind_eq_ok.mp h
  obtain ⟨_, _, h⟩ := bind_eq_ok.mp h
  cases h
  refine ⟨rfl, ?_⟩
  cases hmoment : event.occurredAt with
  | none =>
    rw [hmoment] at hoccurred
    cases hoccurred
    rfl
  | some moment =>
    rw [hmoment] at hoccurred
    obtain ⟨text, htext, rfl⟩ := map_eq_ok.mp hoccurred
    obtain ⟨utc, hutc, htext⟩ := bind_eq_ok.mp htext
    cases htext
    rw [Option.bind_some, found_eq_ok.mp hutc]
    rfl

theorem eventToRecord_eq_ok :
    eventToRecord tenant event = .ok row ↔ ∃ value, event.toDict = .ok value ∧
      row = recordOf tenant value (event.occurredAt.bind Zoned.toUtc) := by
  unfold eventToRecord Marketplace.Event.eventId
  constructor
  · intro h
    obtain ⟨source, hsource, h⟩ := bind_eq_ok.mp h
    obtain ⟨value, hvalue, h⟩ := bind_eq_ok.mp h
    rw [hvalue] at hsource
    cases hsource
    refine ⟨value, hvalue, ?_⟩
    rw [recordOf, (toDict_spec hvalue).1]
    exact (Except.ok.inj h).symm
  · rintro ⟨value, hvalue, rfl⟩
    refine bind_eq_ok.mpr ⟨value.digest, by rw [hvalue]; rfl, ?_⟩
    refine bind_eq_ok.mpr ⟨value, hvalue, ?_⟩
    rw [recordOf, (toDict_spec hvalue).1]
    rfl

/-- Texts without a colon before a colon are equal where the whole texts are. -/
theorem append_colon_inj {a b cs ds : List Char} (ha : ':' ∉ a) (hb : ':' ∉ b)
    (h : a ++ ':' :: cs = b ++ ':' :: ds) : a = b ∧ cs = ds := by
  induction a generalizing b with
  | nil =>
    cases b with
    | nil => exact ⟨rfl, (List.cons.inj h).2⟩
    | cons c b =>
      rw [List.nil_append, List.cons_append, List.cons.injEq] at h
      exact absurd (h.1 ▸ List.mem_cons_self) hb
  | cons c a ih =>
    cases b with
    | nil =>
      rw [List.nil_append, List.cons_append, List.cons.injEq] at h
      exact absurd (h.1 ▸ List.mem_cons_self) ha
    | cons d b =>
      rw [List.cons_append, List.cons_append, List.cons.injEq] at h
      obtain ⟨hrest, hcs⟩ := ih (List.not_mem_of_not_mem_cons ha)
        (List.not_mem_of_not_mem_cons hb) h.2
      exact ⟨by rw [h.1, hrest], hcs⟩

theorem toList_tenantEventText (tenant : Tenant) (source : String) :
    (tenantEventText tenant source).toList = "m12-tenant-event:v1:".toList ++
      (tenant.organisationId.toList ++ ':' :: (tenant.participantId.toList ++
        ':' :: source.toList)) := by
  have hcolon : ":".toList = [':'] := rfl
  unfold tenantEventText
  simp only [String.toList_append, hcolon, List.append_assoc, List.cons_append, List.nil_append]

/-- One text, one tenant and one source. -/
theorem tenantEventText_injective {tenant' : Tenant} {source source' : String}
    (h : tenantEventText tenant source = tenantEventText tenant' source') :
    tenant = tenant' ∧ source = source' := by
  have htext : (tenantEventText tenant source).toList =
      (tenantEventText tenant' source').toList := by rw [h]
  rw [toList_tenantEventText, toList_tenantEventText] at htext
  have htext := List.append_cancel_left htext
  obtain ⟨horganisation, htext⟩ := append_colon_inj tenant.organisationId_plain
    tenant'.organisationId_plain htext
  obtain ⟨hparticipant, hsource⟩ := append_colon_inj tenant.participantId_plain
    tenant'.participantId_plain htext
  exact ⟨Tenant.ext (String.toList_inj.mp horganisation) (String.toList_inj.mp hparticipant),
    String.toList_inj.mp hsource⟩

/-- Every row of a file has a dictionary. -/
def ImportFile.Accepted (file : ImportFile) : Prop :=
  ∀ event ∈ file.rows, ∃ value, event.toDict = .ok value

/-- An event is imported for a tenant. -/
def Imported (files : List ImportFile) (tenant : Tenant) (event : Marketplace.Event) : Prop :=
  ∃ file ∈ files, file.tenant = tenant ∧ file.Accepted ∧ event ∈ file.rows

/-- Two payloads, or the texts of two ids, have one digest. -/
def Collision (files : List ImportFile) : Prop :=
  ∃ tenant event tenant' event' value value', Imported files tenant event ∧
    Imported files tenant' event' ∧ event.toDict = .ok value ∧ event'.toDict = .ok value' ∧
    ((value.digest = value'.digest ∧ value.payload ≠ value'.payload) ∨
      (tenantEventId tenant value.digest = tenantEventId tenant' value'.digest ∧
        tenantEventText tenant value.digest ≠ tenantEventText tenant' value'.digest))

/-- The rows of the events that are imported. -/
def importedRows (files : List ImportFile) : Set EventRecord :=
  {row | ∃ tenant event, Imported files tenant event ∧ eventToRecord tenant event = .ok row}

/-- Rows that an import may find and leave: an id is that of one row, and the digest of its tenant
and source. -/
structure Consistent (rows : Set EventRecord) : Prop where
  id : ∀ row ∈ rows, ∃ tenant source, row.eventId = tenantEventId tenant source ∧
    row.organisationId = some tenant.organisationId ∧
    row.participantId = some tenant.participantId ∧ row.sourceEventId = some source
  unique : ∀ row ∈ rows, ∀ other ∈ rows, row.eventId = other.eventId → row = other

/-- The rows of events without a collision are consistent. -/
theorem importedRows_consistent {files : List ImportFile} (h : ¬ Collision files) :
    Consistent (importedRows files) := by
  constructor
  · rintro row ⟨tenant, event, -, hrow⟩
    obtain ⟨value, -, rfl⟩ := eventToRecord_eq_ok.mp hrow
    exact ⟨tenant, value.digest, eventId_recordOf .., rfl, rfl, rfl⟩
  · rintro row ⟨tenant, event, himported, hrow⟩ other ⟨tenant', event', himported', hother⟩ hid
    obtain ⟨value, hvalue, rfl⟩ := eventToRecord_eq_ok.mp hrow
    obtain ⟨value', hvalue', rfl⟩ := eventToRecord_eq_ok.mp hother
    rw [eventId_recordOf, eventId_recordOf] at hid
    -- one id, one text; one source, one dictionary
    have htext : tenantEventText tenant value.digest = tenantEventText tenant' value'.digest := by
      by_contra hne
      exact h ⟨tenant, event, tenant', event', value, value', himported, himported', hvalue, hvalue',
        .inr ⟨hid, hne⟩⟩
    obtain ⟨rfl, hdigest⟩ := tenantEventText_injective htext
    have hpayload : value.payload = value'.payload := by
      by_contra hne
      exact h ⟨tenant, event, tenant, event', value, value', himported, himported', hvalue, hvalue',
        .inl ⟨hdigest, hne⟩⟩
    cases EventDict.payload_injective hpayload
    have hmoment := (toDict_spec hvalue).2.symm.trans (toDict_spec hvalue').2
    rw [Option.map_injective (fun _ _ => Marketplace.momentText_injective) hmoment]

/-- A source that is known has its row in the table. -/
theorem eventExists_iff {rows : Set EventRecord} (h : Consistent rows) {table : EventTable}
    (htable : ∀ row ∈ table, row ∈ rows) (hrow : row ∈ rows)
    (horganisation : row.organisationId = some tenant.organisationId)
    (hparticipant : row.participantId = some tenant.participantId) {source : String}
    (hsource : row.sourceEventId = some source) :
    eventExists (some tenant) table source = true ↔ row ∈ table := by
  have hsame : ∀ other ∈ table, sees (some tenant) other = true →
      other.sourceEventId = some source → other = row := by
    intro other hother hsees hotherSource
    simp only [sees, Bool.and_eq_true, decide_eq_true_eq] at hsees
    refine h.unique other (htable other hother) row hrow ?_
    obtain ⟨t, id, hid, ho, hp, hs⟩ := h.id row hrow
    obtain ⟨t', id', hid', ho', hp', hs'⟩ := h.id other (htable other hother)
    have htenant : t = t' := Tenant.ext
      (Option.some.inj (ho.symm.trans (horganisation.trans (hsees.1.symm.trans ho'))))
      (Option.some.inj (hp.symm.trans (hparticipant.trans (hsees.2.symm.trans hp'))))
    have hids : id = id' := Option.some.inj
      (hs.symm.trans (hsource.trans (hotherSource.symm.trans hs')))
    rw [hid, hid', htenant, hids]
  rw [eventExists, List.any_eq_true]
  constructor
  · rintro ⟨other, hother, hmatch⟩
    rw [Bool.and_eq_true, decide_eq_true_eq] at hmatch
    rw [← hsame other hother hmatch.1 hmatch.2]
    exact hother
  · intro hmem
    refine ⟨row, hmem, ?_⟩
    simp [sees, horganisation, hparticipant, hsource]

/-- A row that is not there is inserted. -/
theorem insertEvent_of_not_mem {rows : Set EventRecord} (h : Consistent rows) {table : EventTable}
    (htable : ∀ row ∈ table, row ∈ rows) (hrow : row ∈ rows) (hnew : row ∉ table) :
    ∃ table', insertEvent row table = .ok table' ∧
      ∀ other, other ∈ table' ↔ other ∈ table ∨ other = row := by
  have hsource : ¬ table.rows.any (sameSource row) = true := by
    rw [List.any_eq_true]
    rintro ⟨other, hother, hsame⟩
    simp only [sameSource, Bool.and_eq_true, decide_eq_true_eq] at hsame
    obtain ⟨t, id, hid, ho, hp, hs⟩ := h.id row hrow
    obtain ⟨t', id', hid', ho', hp', hs'⟩ := h.id other (htable other hother)
    have htenant : t = t' := Tenant.ext
      (Option.some.inj (ho.symm.trans (hsame.1.1.trans ho')))
      (Option.some.inj (hp.symm.trans (hsame.1.2.trans hp')))
    have hids : id = id' := Option.some.inj (hs.symm.trans (hsame.2.trans hs'))
    refine hnew ?_
    rw [h.unique row hrow other (htable other hother) (by rw [hid, hid', htenant, hids])]
    exact hother
  have hkey : table.find? row.eventId = none := by
    rw [Table.find?_eq_none_iff]
    intro other hother hid
    rw [h.unique other (htable other hother) row hrow hid] at hother
    exact hnew hother
  obtain ⟨table', htable'⟩ := Table.insert_isSome hkey
  refine ⟨table', ?_, fun other => Table.mem_insert htable'⟩
  refine bind_eq_ok.mpr ⟨(), ensure_eq_ok.mpr hsource, ?_⟩
  exact found_eq_ok.mpr htable'

/-- The loop inserts the rows of its events; the ids that it has inserted say nothing more than the
table. -/
theorem importEvents_spec {rows : Set EventRecord} (h : Consistent rows)
    {events : List Marketplace.Event} {known : List String} {table : EventTable}
    (htable : ∀ row ∈ table, row ∈ rows)
    (hevents : ∀ event ∈ events, ∃ row ∈ rows, eventToRecord tenant event = .ok row)
    (hknown : ∀ source ∈ known, eventExists (some tenant) table source = true) :
    ∃ table', importEvents tenant events known table = .ok table' ∧
      ∀ row, row ∈ table' ↔ row ∈ table ∨
        ∃ event ∈ events, eventToRecord tenant event = .ok row := by
  induction events generalizing known table with
  | nil => exact ⟨table, rfl, fun row => by simp⟩
  | cons event events ih =>
    obtain ⟨row, hrow, hrecord⟩ := hevents event List.mem_cons_self
    obtain ⟨value, hvalue, heq⟩ := eventToRecord_eq_ok.mp hrecord
    have hsource : event.eventId = .ok value.digest := by
      rw [Marketplace.Event.eventId, hvalue]
      rfl
    have hexists : ∀ {table : EventTable}, (∀ row ∈ table, row ∈ rows) →
        (eventExists (some tenant) table value.digest = true ↔ row ∈ table) := fun htable =>
      eventExists_iff h htable hrow (by rw [heq]; rfl) (by rw [heq]; rfl) (by rw [heq]; rfl)
    have hrest : ∀ event ∈ events, ∃ row ∈ rows, eventToRecord tenant event = .ok row :=
      fun event hevent => hevents event (List.mem_cons_of_mem _ hevent)
    -- the row of this event is the only one that the head gives
    have hhead : ∀ other, (∃ e ∈ event :: events, eventToRecord tenant e = .ok other) ↔
        other = row ∨ ∃ e ∈ events, eventToRecord tenant e = .ok other := by
      intro other
      rw [List.exists_mem_cons_iff, hrecord, Except.ok.injEq, eq_comm]
    unfold importEvents
    by_cases hthere : row ∈ table
    · have hskip := (hexists htable).mpr hthere
      obtain ⟨table', htable', hmem⟩ := ih htable hrest hknown
      refine ⟨table', bind_eq_ok.mpr ⟨_, hsource, ?_⟩, fun other => ?_⟩
      · rw [if_pos (.inr hskip)]
        exact htable'
      · rw [hmem, hhead]
        constructor
        · rintro (hold | hnew)
          · exact .inl hold
          · exact .inr (.inr hnew)
        · rintro (hold | rfl | hnew)
          · exact .inl hold
          · exact .inl hthere
          · exact .inr hnew
    · have hskip : ¬ (value.digest ∈ known ∨
          eventExists (some tenant) table value.digest = true) := by
        rintro (hmem | hfound)
        · exact hthere ((hexists htable).mp (hknown _ hmem))
        · exact hthere ((hexists htable).mp hfound)
      obtain ⟨next, hinsert, hnext⟩ := insertEvent_of_not_mem h htable hrow hthere
      have hnextRows : ∀ other ∈ next, other ∈ rows := by
        intro other hother
        rcases (hnext other).mp hother with hold | rfl
        · exact htable other hold
        · exact hrow
      have hnextKnown : ∀ source ∈ value.digest :: known,
          eventExists (some tenant) next source = true := by
        intro source hmem
        rcases List.mem_cons.mp hmem with rfl | hmem
        · exact (hexists hnextRows).mpr ((hnext row).mpr (.inr rfl))
        · obtain ⟨other, hother, hmatch⟩ := List.any_eq_true.mp (hknown source hmem)
          exact List.any_eq_true.mpr ⟨other, (hnext other).mpr (.inl hother), hmatch⟩
      obtain ⟨table', htable', hmem⟩ := ih hnextRows hrest hnextKnown
      refine ⟨table', bind_eq_ok.mpr ⟨_, hsource, ?_⟩, fun other => ?_⟩
      · rw [if_neg hskip]
        refine bind_eq_ok.mpr ⟨row, hrecord, ?_⟩
        exact bind_eq_ok.mpr ⟨next, hinsert, htable'⟩
      · rw [hmem, hhead, hnext, or_assoc]

/-- A loop that ends has found a dictionary of every event. -/
theorem accepted_of_importEvents {events : List Marketplace.Event} {known : List String}
    {table table' : EventTable} (h : importEvents tenant events known table = .ok table') :
    ∀ event ∈ events, ∃ value, event.toDict = .ok value := by
  induction events generalizing known table with
  | nil => exact fun _ hevent => absurd hevent List.not_mem_nil
  | cons event events ih =>
    unfold importEvents at h
    obtain ⟨source, hsource, h⟩ := bind_eq_ok.mp h
    obtain ⟨value, hvalue, -⟩ := map_eq_ok.mp hsource
    intro other hother
    rcases List.mem_cons.mp hother with rfl | hother
    · exact ⟨value, hvalue⟩
    · split at h
      · exact ih h other hother
      · obtain ⟨_, _, h⟩ := bind_eq_ok.mp h
        obtain ⟨_, _, h⟩ := bind_eq_ok.mp h
        exact ih h other hother

/-- The events after imports without a collision are those that were imported. -/
theorem mem_eventsAfter {files : List ImportFile} (h : ¬ Collision files) :
    row ∈ eventsAfter files ↔ row ∈ importedRows files := by
  induction files using List.reverseRecOn generalizing row with
  | nil =>
    refine iff_of_false Table.not_mem_empty ?_
    rintro ⟨tenant, event, ⟨file, hfile, -⟩, -⟩
    cases hfile
  | append_singleton files file ih =>
    have hsub : ∀ {tenant event}, Imported files tenant event →
        Imported (files ++ [file]) tenant event := by
      rintro tenant event ⟨other, hother, hrest⟩
      exact ⟨other, List.mem_append_left _ hother, hrest⟩
    have hearlier : ¬ Collision files := by
      rintro ⟨t, e, t', e', v, v', himported, himported', hrest⟩
      exact h ⟨t, e, t', e', v, v', hsub himported, hsub himported', hrest⟩
    have hconsistent := importedRows_consistent h
    have htable : ∀ row ∈ eventsAfter files, row ∈ importedRows (files ++ [file]) := by
      intro row hrow
      obtain ⟨t, e, himported, hrecord⟩ := (ih hearlier).mp hrow
      exact ⟨t, e, hsub himported, hrecord⟩
    -- what the last file adds
    have hadds : ∀ row, row ∈ importedRows (files ++ [file]) ↔ row ∈ importedRows files ∨
        (file.Accepted ∧ ∃ event ∈ file.rows, eventToRecord file.tenant event = .ok row) := by
      intro row
      constructor
      · rintro ⟨t, e, ⟨other, hother, rfl, haccepted, hevent⟩, hrecord⟩
        rcases List.mem_append.mp hother with hother | hother
        · exact .inl ⟨_, e, ⟨other, hother, rfl, haccepted, hevent⟩, hrecord⟩
        · cases List.mem_singleton.mp hother
          exact .inr ⟨haccepted, e, hevent, hrecord⟩
      · rintro (⟨t, e, himported, hrecord⟩ | ⟨haccepted, e, hevent, hrecord⟩)
        · exact ⟨t, e, hsub himported, hrecord⟩
        · exact ⟨_, e, ⟨file, List.mem_append_right _ (List.mem_singleton_self _), rfl, haccepted,
            hevent⟩, hrecord⟩
    rw [eventsAfter, List.foldl_append, ← eventsAfter, List.foldl_cons, List.foldl_nil, importXlsx,
      hadds]
    by_cases haccepted : file.Accepted
    · have hevents : ∀ event ∈ file.rows, ∃ row ∈ importedRows (files ++ [file]),
          eventToRecord file.tenant event = .ok row := by
        intro event hevent
        obtain ⟨value, hvalue⟩ := haccepted event hevent
        have hrecord : eventToRecord file.tenant event = .ok (recordOf file.tenant value
            (event.occurredAt.bind Zoned.toUtc)) := eventToRecord_eq_ok.mpr ⟨value, hvalue, rfl⟩
        exact ⟨_, (hadds _).mpr (.inr ⟨haccepted, event, hevent, hrecord⟩), hrecord⟩
      have hknown : ∀ source ∈ ([] : List String),
          eventExists (some file.tenant) (eventsAfter files) source = true :=
        fun _ hsource => absurd hsource List.not_mem_nil
      obtain ⟨table', hresult, hmem⟩ := importEvents_spec hconsistent htable hevents hknown
      rw [hresult]
      exact (hmem row).trans (or_congr (ih hearlier) (and_iff_right haccepted).symm)
    · have hresult : (importEvents file.tenant file.rows [] (eventsAfter files)).toOption =
          none := by
        cases hcase : importEvents file.tenant file.rows [] (eventsAfter files) with
        | error e => rfl
        | ok table' => exact absurd (accepted_of_importEvents hcase) haccepted
      rw [hresult]
      exact (ih hearlier).trans (or_iff_left fun h => haccepted h.1).symm

/-- For the events of every KIZ: the resolution is effective with the event that stands; it is
ambiguous when the history is; it is the same for the same events in whatever order and files they
are imported, or two texts have one digest; and at most one event is left to a check. -/
theorem wb_sequence (scope : Option Tenant) (kiz : String) :
    (∀ (table : EventTable) (id : String),
      resolveWbSequence scope table kiz = ⟨.effective, some id⟩ ↔
        ∃ row, row.eventId = id ∧ Stands (kizHistory scope table kiz) row) ∧
    (∀ table : EventTable, (resolveWbSequence scope table kiz).state = .ambiguous ↔
      historyOrderAmbiguous scope table kiz = true) ∧
    (∀ files files' : List ImportFile,
      (∀ tenant event, Imported files tenant event ↔ Imported files' tenant event) →
      Collision files ∨ resolveWbSequence scope (eventsAfter files) kiz =
        resolveWbSequence scope (eventsAfter files') kiz) ∧
    ∀ (table : EventTable) (a b : EventRecord), a ∈ kizHistory scope table kiz →
      b ∈ kizHistory scope table kiz →
      sequenceOutcomeForEvent scope table a.eventId = .ok none →
      sequenceOutcomeForEvent scope table b.eventId = .ok none → a = b := by
  refine ⟨fun table => resolveWbSequence_eq_effective_iff, fun table =>
    resolveWbSequence_ambiguous_iff, ?_, fun table a b => outcome_none_unique⟩
  intro files files' hsame
  refine or_iff_not_imp_left.mpr fun hcollision => resolveWbSequence_congr fun row => ?_
  have hcollision' : ¬ Collision files' := by
    simpa only [Collision, hsame] using hcollision
  rw [mem_eventsAfter hcollision, mem_eventsAfter hcollision']
  simp only [importedRows, hsame]

end Imports

end WbSequence

end Wbcz.Web

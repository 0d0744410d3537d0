import Wbcz.Lib.Fallible
import Wbcz.Lib.JsonFields
import Wbcz.Lib.RedactedText
import Wbcz.Reports.LocalRequests

/-!
# What the stored filters select

A worker selects the rows of a report by the filters as they were sanitized. Only the report on
stored codes has a filter that sanitizing hides, the fingerprint of a code, and a filter that is
compared with whatever a status is.

## Main results

* `rowSatisfies_eq_satisfies` — an adapter passes over the rows that do not satisfy the filters
* `generatedRows_eq` — the rows of a report are those that satisfy the sanitized filters
* `requestFingerprint_eq_iff` — one fingerprint, filters that differ only in secrets
* `local_report_rows_iff` — when a report is what was asked for
-/

namespace Wbcz.Reports

section Selection

variable {sameNumber : Json → Json → Bool} {containerText : Json → String} {db : ReportDatabase}
  {inn : String} {reportType : LocalReportType} {fields : List (String × Json)}

/-! ## What the rows of a source show -/

/-- A row of a source shows in its columns what the filters are compared with. -/
structure SourceRow.Shows (source : SourceRow) (inn : String) (reportType : LocalReportType) :
    Prop where
  participant : (Json.obj source.row).get "participant_inn" = .str inn
  columns : source.row.map Prod.fst = (localReportCatalog reportType).columns
  tested : ∀ test ∈ source.tests, test.1 ≠ "participant_inn" ∧
    test.1 ∈ (localReportCatalog reportType).allowedFilters ∧
    test.2 = (Json.obj source.row).get (filterColumn reportType test.1)
  every : ∀ name ∈ (localReportCatalog reportType).allowedFilters, name ≠ "participant_inn" →
    ∃ test ∈ source.tests, test.1 = name

theorem shows_of_names {source : SourceRow} (names : List String)
    (hparticipant : (Json.obj source.row).get "participant_inn" = .str inn)
    (hcolumns : source.row.map Prod.fst = (localReportCatalog reportType).columns)
    (htests : source.tests = names.map fun name =>
      (name, (Json.obj source.row).get (filterColumn reportType name)))
    (hnames : names.Perm
      ((localReportCatalog reportType).allowedFilters.filter (· != "participant_inn"))) :
    source.Shows inn reportType where
  participant := hparticipant
  columns := hcolumns
  tested test htest := by
    rw [htests] at htest
    obtain ⟨name, hname, rfl⟩ := List.mem_map.mp htest
    obtain ⟨hallowed, hother⟩ := List.mem_filter.mp (hnames.mem_iff.mp hname)
    exact ⟨by simpa using hother, hallowed, rfl⟩
  every name hname hother := by
    have hmem := hnames.mem_iff.mpr (List.mem_filter.mpr ⟨hname, by simpa using hother⟩)
    rw [htests]
    exact ⟨_, List.mem_map.mpr ⟨name, hmem, rfl⟩, rfl⟩

/-- Every row of a source shows what the filters are compared with. -/
theorem sourceRows_shows {source : SourceRow}
    (h : source ∈ sourceRows containerText db inn reportType) : source.Shows inn reportType := by
  cases reportType with
  | cisInventoryStoredSnapshot =>
    obtain ⟨job, -, hjob⟩ := List.mem_flatMap.mp h
    obtain ⟨item, -, hitem⟩ := List.mem_filterMap.mp hjob
    split at hitem
    · cases hitem
      exact shows_of_names ["cis_fingerprint", "state"] rfl rfl rfl (by decide)
    · cases hitem
  | productReferenceReadiness =>
    obtain ⟨job, -, hjob⟩ := List.mem_flatMap.mp h
    split at hjob
    · obtain ⟨gtin, -, rfl⟩ := List.mem_map.mp hjob
      exact shows_of_names ["product_group", "gtin"] rfl rfl rfl (by decide)
    · cases hjob
  | documentLifecycle =>
    obtain ⟨⟨document, job⟩, -, rfl⟩ := List.mem_map.mp h
    exact shows_of_names ["document_id", "state"] rfl rfl rfl (by decide)
  | turnoverOperations | aggregationOperations =>
    obtain ⟨operation, -, rfl⟩ := List.mem_map.mp h
    exact shows_of_names ["operation_kind", "state"] rfl rfl rfl (by decide)
  | edoFoundationStatus | suzFoundationStatus | ozonFoundationStatus =>
    rw [List.mem_singleton.mp h]
    exact shows_of_names [] rfl rfl rfl (by decide)
  | wbReconciliationEvidence =>
    obtain ⟨row, -, hrow⟩ := List.mem_flatMap.mp h
    obtain ⟨order, -, horder⟩ := List.mem_flatMap.mp hrow
    obtain ⟨event, -, rfl⟩ := List.mem_map.mp horder
    exact shows_of_names ["state", "conflict_state"] rfl rfl rfl (by decide)
  | manualReviewAndConflicts =>
    rcases List.mem_append.mp h with h | h
    · obtain ⟨row, -, rfl⟩ := List.mem_map.mp h
      exact shows_of_names ["domain", "reason"] rfl rfl rfl (by decide)
    · obtain ⟨row, -, rfl⟩ := List.mem_map.mp h
      exact shows_of_names ["domain", "reason"] rfl rfl rfl (by decide)
  | endToEndReconciliation =>
    obtain ⟨row, -, hrow⟩ := List.mem_flatMap.mp h
    obtain ⟨order, -, rfl⟩ := List.mem_map.mp hrow
    exact shows_of_names ["domain", "result"] rfl rfl rfl (by decide)
  | p0ImportControlQuality => cases h

/-- A text, or nothing. -/
def IsText (value : Json) : Prop := value = .null ∨ ∃ text, value = .str text

theorem isText_ofText? (text : Option String) : IsText (.ofText? text) := by
  cases text with
  | none => exact .inl rfl
  | some text => exact .inr ⟨text, rfl⟩

/-- The filters are compared with texts. -/
def SourceRow.Plain (source : SourceRow) : Prop := ∀ test ∈ source.tests, IsText test.2

theorem plain_of_two {name name' : String} {value value' : Json} {row : List (String × Json)}
    (hvalue : IsText value) (hvalue' : IsText value') :
    SourceRow.Plain ⟨[(name, value), (name', value')], row⟩ := by
  intro test htest
  rcases List.mem_cons.mp htest with rfl | htest
  · exact hvalue
  · rw [List.mem_singleton.mp htest]
    exact hvalue'

theorem plain_of_none {row : List (String × Json)} : SourceRow.Plain ⟨[], row⟩ :=
  fun _ htest => absurd htest List.not_mem_nil

/-- Filters are compared with texts in all reports but that on stored codes. -/
theorem sourceRows_plain
    (htype : reportType ≠ .cisInventoryStoredSnapshot) {source : SourceRow}
    (h : source ∈ sourceRows containerText db inn reportType) : source.Plain := by
  have htext : ∀ text : String, IsText (.str text) := fun text => .inr ⟨text, rfl⟩
  cases reportType with
  | cisInventoryStoredSnapshot => exact absurd rfl htype
  | productReferenceReadiness =>
    obtain ⟨job, -, hjob⟩ := List.mem_flatMap.mp h
    split at hjob
    · obtain ⟨gtin, -, rfl⟩ := List.mem_map.mp hjob
      exact plain_of_two (htext _) (htext _)
    · cases hjob
  | documentLifecycle =>
    obtain ⟨⟨document, job⟩, -, rfl⟩ := List.mem_map.mp h
    exact plain_of_two (isText_ofText? _) (htext _)
  | turnoverOperations =>
    obtain ⟨operation, -, rfl⟩ := List.mem_map.mp h
    exact plain_of_two (htext _) (htext _)
  | aggregationOperations =>
    obtain ⟨operation, -, rfl⟩ := List.mem_map.mp h
    exact plain_of_two (htext _) (htext _)
  | edoFoundationStatus | suzFoundationStatus | ozonFoundationStatus =>
    rw [List.mem_singleton.mp h]
    exact plain_of_none
  | wbReconciliationEvidence =>
    obtain ⟨row, -, hrow⟩ := List.mem_flatMap.mp h
    obtain ⟨order, -, horder⟩ := List.mem_flatMap.mp hrow
    obtain ⟨event, -, rfl⟩ := List.mem_map.mp horder
    refine plain_of_two (htext _) ?_
    split_ifs
    · exact htext _
    · exact .inl rfl
  | manualReviewAndConflicts =>
    rcases List.mem_append.mp h with h | h
    · obtain ⟨row, -, rfl⟩ := List.mem_map.mp h
      exact plain_of_two (htext _) (htext _)
    · obtain ⟨row, -, rfl⟩ := List.mem_map.mp h
      exact plain_of_two (htext _) (htext _)
  | endToEndReconciliation =>
    obtain ⟨row, -, hrow⟩ := List.mem_flatMap.mp h
    obtain ⟨order, -, rfl⟩ := List.mem_map.mp hrow
    exact plain_of_two (htext _) (htext _)
  | p0ImportControlQuality => cases h

/-- A stored code is tested by its fingerprint and its status, which its row shows. -/
theorem cisInventory_tests {source : SourceRow}
    (h : source ∈ sourceRows containerText db inn .cisInventoryStoredSnapshot) :
    ∃ cis, (Json.obj source.row).get "cis_fingerprint" = .str (fingerprint containerText cis) ∧
      source.tests = [("cis_fingerprint", (Json.obj source.row).get "cis_fingerprint"),
        ("state", (Json.obj source.row).get "raw_state")] := by
  obtain ⟨job, -, hjob⟩ := List.mem_flatMap.mp h
  obtain ⟨item, -, hitem⟩ := List.mem_filterMap.mp hjob
  split at hitem
  · cases hitem
    exact ⟨_, rfl, rfl⟩
  · cases hitem

/-! ## Filters as they are stored -/

theorem get_cons (key : String) (value : Json) (fields : List (String × Json)) (name : String) :
    (Json.obj ((key, value) :: fields)).get name =
      if key = name then value else (Json.obj fields).get name := by
  simp only [Json.get, Json.get?, Json.lookup_cons]
  split_ifs <;> rfl

/-- A filter as it is stored. -/
theorem get_redactFields (told : Bool) (fields : List (String × Json)) (name : String) :
    (Json.obj (reportPolicy.redactFields told fields)).get name =
      if (Json.lookup fields name).isNone then .null
      else if reportPolicy.hides told name then .str "REDACTED"
      else reportPolicy.redact told ((Json.obj fields).get name) := by
  induction fields with
  | nil => rfl
  | cons field fields ih =>
    obtain ⟨key, value⟩ := field
    rw [Redaction.Policy.redactFields, get_cons, get_cons, Json.lookup_cons, ih]
    by_cases hkey : key = name
    · simp [hkey, reportPolicy]
    · simp [hkey]

/-- The names of the filters of all reports that redaction leaves. -/
def plainFilters : List String :=
  ["participant_inn", "state", "gtin", "product_group", "document_id", "operation_kind",
    "conflict_state", "domain", "reason", "result"]

theorem hides_of_plain {name : String} (h : name ∈ plainFilters) :
    reportPolicy.hides false name = false := by
  have hall : plainFilters.all (fun name => !(reportPolicy.hides false name)) = true := by
    decide +kernel
  simpa using List.all_eq_true.mp hall name h

theorem silent_of_plain {name : String} (h : name ∈ "cis_fingerprint" :: plainFilters) :
    reportPolicy.telling name = false := by
  have hall : ("cis_fingerprint" :: plainFilters).all (fun name => !(reportPolicy.telling name)) =
      true := by decide +kernel
  simpa using List.all_eq_true.mp hall name h

theorem mem_plain_of_allowed {name : String}
    (h : (localReportCatalog reportType).allowedFilters.contains name = true) :
    name ∈ "cis_fingerprint" :: plainFilters := by
  have hall : (localReportCatalog reportType).allowedFilters.all
      (fun name => ("cis_fingerprint" :: plainFilters).contains name) = true := by
    cases reportType <;> decide
  rw [List.contains_iff_mem] at h
  simpa using List.all_eq_true.mp hall name h

/-- No filters tell that something secret follows. -/
theorem tells_of_known 
    (h : unknownFilter reportType fields = false) : reportPolicy.tells fields = false := by
  simp only [unknownFilter, List.any_eq_false, Bool.not_eq_true, Bool.not_eq_false'] at h
  simp only [Redaction.Policy.tells, List.any_eq_false, Bool.not_eq_true]
  intro field hfield
  rw [silent_of_plain (mem_plain_of_allowed (h field hfield)), Bool.false_and]

theorem sanitized_eq {filters : ReportFilters}
    (h : unknownFilter reportType filters.fields = false) :
    filters.sanitized = .obj (reportPolicy.redactFields false filters.fields) := by
  rw [ReportFilters.sanitized, sanitizeReportEvidence, ReportFilters.value,
    Redaction.Policy.redact_obj, tells_of_known h, Bool.false_or]

theorem isNull_redact (value : Json) : (reportPolicy.redact false value).isNull = value.isNull := by
  cases value <;> simp [Redaction.Policy.redact, Json.isNull]

theorem str?_redact (value : Json) : (reportPolicy.redact false value).str? = value.str? := by
  cases value <;> simp [Redaction.Policy.redact, Json.str?]

/-! ## Rows that satisfy the filters -/

/-- The filters are those of the report and of the participant. -/
structure Accepted (inn : String) (reportType : LocalReportType) (fields : List (String × Json)) :
    Prop where
  keys : (fields.map Prod.fst).Nodup
  known : unknownFilter reportType fields = false
  own : otherParticipant inn fields = false

theorem unknownFilter_eq_false_iff : unknownFilter reportType fields = false ↔
    ∀ name ∈ fields.map Prod.fst, name ∈ (localReportCatalog reportType).allowedFilters := by
  simp [unknownFilter]

theorem get_eq_of_mem (hkeys : (fields.map Prod.fst).Nodup) {field : String × Json}
    (h : field ∈ fields) : (Json.obj fields).get field.1 = field.2 := by
  have hlookup := (Jcs.lookup_eq_some_iff hkeys).mpr (show (field.1, field.2) ∈ fields from h)
  rw [Json.get, Json.get?, hlookup]
  rfl

/-- A filter of the participant is the participant's. -/
theorem Accepted.participant (h : Accepted inn reportType fields)
    (hgiven : ((Json.obj fields).get "participant_inn").isNull = false) :
    (Json.obj fields).get "participant_inn" = .str inn := by
  have hown := h.own
  simp only [otherParticipant, hgiven, Bool.not_false, Bool.true_and, decide_eq_false_iff_not,
    not_not] at hown
  cases hvalue : (Json.obj fields).get "participant_inn" with
  | str text => rw [hvalue, Json.str?, Option.some.injEq] at hown; rw [hown]
  | _ => rw [hvalue] at hown; cases hown

/-- A worker stores filters that are accepted again. -/
theorem Accepted.redactFields (h : Accepted inn reportType fields) :
    Accepted inn reportType (reportPolicy.redactFields false fields) where
  keys := by rw [Redaction.Policy.keys_redactFields]; exact h.keys
  known := by
    rw [unknownFilter_eq_false_iff, Redaction.Policy.keys_redactFields]
    exact unknownFilter_eq_false_iff.mp h.known
  own := by
    have hown := h.own
    unfold otherParticipant at hown ⊢
    rw [get_redactFields, hides_of_plain (show "participant_inn" ∈ plainFilters by decide)]
    cases hlookup : Json.lookup fields "participant_inn" with
    | none => rfl
    | some value => simpa [isNull_redact, str?_redact] using hown

theorem rejects_eq (fields : List (String × Json)) (test : String × Json) :
    rejects sameNumber fields test = (!((Json.obj fields).get test.1).isNull &&
      !(equal sameNumber ((Json.obj fields).get test.1) test.2)) := by
  unfold rejects
  cases (Json.obj fields).get test.1 <;> rfl

theorem rejects_eq_false_iff {test : String × Json} : rejects sameNumber fields test = false ↔
    ((Json.obj fields).get test.1).isNull = true ∨
      equal sameNumber ((Json.obj fields).get test.1) test.2 = true := by
  rw [rejects_eq, Bool.and_eq_false_iff, Bool.not_eq_false', Bool.not_eq_false']

theorem satisfies_iff {source : SourceRow} : source.satisfies sameNumber fields = true ↔
    ∀ test ∈ source.tests, ((Json.obj fields).get test.1).isNull = true ∨
      equal sameNumber ((Json.obj fields).get test.1) test.2 = true := by
  simp only [SourceRow.satisfies, List.all_eq_true, Bool.not_eq_true', rejects_eq_false_iff]

/-- An adapter passes over the rows that do not satisfy the filters. -/
theorem rowSatisfies_eq_satisfies (h : Accepted inn reportType fields) {source : SourceRow}
    (hshows : source.Shows inn reportType) :
    rowSatisfies sameNumber reportType fields source.row =
      source.satisfies sameNumber fields := by
  rw [Bool.eq_iff_iff, satisfies_iff, rowSatisfies, List.all_eq_true]
  simp only [Bool.or_eq_true]
  constructor
  · intro hall test htest
    obtain ⟨-, -, hvalue⟩ := hshows.tested test htest
    cases hlookup : Json.lookup fields test.1 with
    | none => exact .inl (by simp [Json.get, Json.get?, hlookup, Json.isNull])
    | some value =>
      have hmem := (Jcs.lookup_eq_some_iff h.keys).mp hlookup
      rw [get_eq_of_mem h.keys hmem, hvalue]
      exact hall _ hmem
  · intro hall field hfield
    by_cases hparticipant : field.1 = "participant_inn"
    · rw [hparticipant]
      have hcolumn : filterColumn reportType "participant_inn" = "participant_inn" := by
        cases reportType <;> rfl
      rw [hcolumn, hshows.participant, ← get_eq_of_mem h.keys hfield, hparticipant]
      cases hnull : ((Json.obj fields).get "participant_inn").isNull with
      | true => exact .inl rfl
      | false =>
        rw [h.participant hnull]
        exact .inr (by simp [equal, Json.str?])
    · have hallowed := unknownFilter_eq_false_iff.mp h.known _ (List.mem_map_of_mem hfield)
      obtain ⟨test, htest, hname⟩ := hshows.every _ hallowed hparticipant
      have hsatisfied := hall test htest
      rw [(hshows.tested test htest).2.2, hname, get_eq_of_mem h.keys hfield] at hsatisfied
      exact hsatisfied

theorem get_withoutParticipant (fields : List (String × Json)) {name : String}
    (h : name ≠ "participant_inn") :
    (Json.obj (fields.filter fun field => field.1 ≠ "participant_inn")).get name =
      (Json.obj fields).get name := by
  induction fields with
  | nil => rfl
  | cons field fields ih =>
    obtain ⟨key, value⟩ := field
    rw [get_cons, List.filter_cons]
    by_cases hkey : key = name
    · rw [if_pos hkey, if_pos (by simpa [hkey] using h), get_cons, if_pos hkey]
    · rw [if_neg hkey]
      split_ifs
      · rw [get_cons, if_neg hkey, ih]
      · exact ih

/-! ## The rows of a report -/

theorem localReportType?_value (reportType : LocalReportType) :
    localReportType? reportType.value = some reportType := by
  cases reportType <;> decide

theorem value_injective {reportType other : LocalReportType}
    (h : reportType.value = other.value) : reportType = other := by
  have hfound := localReportType?_value reportType
  rw [h, localReportType?_value] at hfound
  exact (Option.some.inj hfound).symm

theorem accepted_of_stores {request : ReportRequest} {call : LocalReportCall}
    (h : request.Stores inn call) : Accepted inn call.reportType call.filters.fields :=
  ⟨call.filters.keys, h.known, h.own⟩

theorem renderRow_self {row : List (String × Json)} (h : (row.map Prod.fst).Nodup) :
    renderRow (row.map Prod.fst) row = row := by
  rw [renderRow, List.map_map]
  refine (List.map_congr_left fun field hfield => ?_).trans (List.map_id row)
  exact Prod.ext rfl (get_eq_of_mem h hfield)

theorem columns_nodup (reportType : LocalReportType) :
    (localReportCatalog reportType).columns.Nodup := by
  cases reportType <;> decide

/-- Rendering leaves the rows of a source as they are. -/
theorem map_renderRow_satisfyingRows :
    (satisfyingRows sameNumber containerText db inn reportType fields).map
        (renderRow (localReportCatalog reportType).columns) =
      satisfyingRows sameNumber containerText db inn reportType fields := by
  refine (List.map_congr_left fun row hrow => ?_).trans (List.map_id _)
  obtain ⟨source, hsource, rfl⟩ := List.mem_map.mp (List.mem_filter.mp hrow).1
  have hcolumns := (sourceRows_shows hsource).columns
  rw [← hcolumns]
  exact renderRow_self (hcolumns ▸ columns_nodup reportType)

/-- The adapters select the rows that satisfy the filters. -/
theorem selectRows_withoutParticipant (h : Accepted inn reportType fields) :
    selectRows sameNumber (fields.filter fun field => field.1 ≠ "participant_inn")
        (sourceRows containerText db inn reportType) =
      satisfyingRows sameNumber containerText db inn reportType fields := by
  rw [selectRows, satisfyingRows, List.filter_map]
  refine congrArg (List.map SourceRow.row) (List.filter_congr fun source hsource => ?_)
  have hshows := sourceRows_shows hsource
  rw [Function.comp_apply, rowSatisfies_eq_satisfies h hshows, Bool.eq_iff_iff, satisfies_iff,
    satisfies_iff]
  refine forall₂_congr fun test htest => ?_
  rw [get_withoutParticipant fields (hshows.tested test htest).1]

/-- The rows of a report are those that satisfy the sanitized filters. -/
theorem generatedRows_eq {call : LocalReportCall} {request : ReportRequest} {id : String} {now : ℤ}
    {maxRows : ℕ} {claimed : ClaimedReportJob} {rows : List (List (String × Json))}
    (hstores : request.Stores inn call)
    (hasks : claimed.Asks (ReportJobRecord.create id request now).asked)
    (h : generatedRows sameNumber containerText db inn maxRows claimed = .ok rows) :
    rows = satisfyingRows sameNumber containerText db inn call.reportType
      (reportPolicy.redactFields false call.filters.fields) := by
  have haccepted := (accepted_of_stores hstores).redactFields
  have hstored : fieldsOf claimed.filtersSanitized =
      reportPolicy.redactFields false call.filters.fields := by
    rw [hasks.filtersSanitized]
    change fieldsOf (sanitizeReportEvidence request.filtersSanitized) = _
    -- what is sanitized already stays
    rw [hstores.filtersSanitized, ReportFilters.sanitized, sanitizeReportEvidence_spec.2]
    exact congrArg fieldsOf (sanitized_eq hstores.known)
  have hreport : localReportType? claimed.reportType = some call.reportType := by
    rw [hasks.reportType]
    change localReportType? request.reportType = _
    rw [hstores.reportType, localReportType?_value]
  unfold generatedRows at h
  by_cases hinn : claimed.participantInn = inn
  · rw [if_neg (not_not.mpr hinn)] at h
    obtain ⟨-, -, h⟩ := Fallible.bind_eq_ok.mp h
    rw [hreport] at h
    obtain ⟨selected, hselected, h⟩ := Fallible.bind_eq_ok.mp h
    split_ifs at h with hmany
    obtain rfl := Except.ok.inj h
    unfold registryRows at hselected
    split at hselected
    · cases hselected
    · split_ifs at hselected
      rw [hstored, selectRows_withoutParticipant haccepted] at hselected
      rw [← Except.ok.inj hselected, map_renderRow_satisfyingRows]
  · rw [if_pos hinn] at h
    cases h

/-! ## What sanitized filters select -/

theorem filter_eq_filter_iff {α : Type} {p q : α → Bool} {l : List α} :
    l.filter p = l.filter q ↔ ∀ a ∈ l, p a = q a := by
  refine ⟨fun h a ha => ?_, List.filter_congr⟩
  have hmem : a ∈ l.filter p ↔ a ∈ l.filter q := by rw [h]
  simpa [List.mem_filter, ha, ← Bool.eq_iff_iff] using hmem

theorem satisfyingRows_eq_iff {others : List (String × Json)} :
    satisfyingRows sameNumber containerText db inn reportType fields =
        satisfyingRows sameNumber containerText db inn reportType others ↔
      ∀ source ∈ sourceRows containerText db inn reportType,
        rowSatisfies sameNumber reportType fields source.row =
          rowSatisfies sameNumber reportType others source.row := by
  rw [satisfyingRows, satisfyingRows, filter_eq_filter_iff, List.forall_mem_map]

/-- What is redacted is equal to a text where it was. -/
theorem equal_redact {value other : Json} (hother : IsText other) :
    equal sameNumber (reportPolicy.redact false value) other = equal sameNumber value other := by
  cases value with
  | arr items => obtain rfl | ⟨text, rfl⟩ := hother <;> simp [equal]
  | obj fields => obtain rfl | ⟨text, rfl⟩ := hother <;> simp [equal]
  | _ => rw [Redaction.Policy.redact] <;> exact nofun

/-- A filter that is not hidden asks for the text that it asked for. -/
theorem get_redactFields_of_plain {name : String} (h : name ∈ plainFilters) :
    (Json.obj (reportPolicy.redactFields false fields)).get name =
      reportPolicy.redact false ((Json.obj fields).get name) := by
  rw [get_redactFields, hides_of_plain h]
  cases hlookup : Json.lookup fields name with
  | none => simp [Json.get, Json.get?, hlookup, Redaction.Policy.redact]
  | some value => rfl

theorem mem_plain_of_other (htype : reportType ≠ .cisInventoryStoredSnapshot) {name : String}
    (h : name ∈ (localReportCatalog reportType).allowedFilters) : name ∈ plainFilters := by
  have hall : (localReportCatalog reportType).allowedFilters.all
      (fun name => plainFilters.contains name) = true := by
    cases reportType with
    | cisInventoryStoredSnapshot => exact absurd rfl htype
    | _ => decide
  simpa using List.all_eq_true.mp hall name h

/-- Only a report on stored codes is selected differently by the sanitized filters. -/
theorem rowSatisfies_redactFields (h : Accepted inn reportType fields)
    (htype : reportType ≠ .cisInventoryStoredSnapshot) {source : SourceRow}
    (hsource : source ∈ sourceRows containerText db inn reportType) :
    rowSatisfies sameNumber reportType (reportPolicy.redactFields false fields) source.row =
      rowSatisfies sameNumber reportType fields source.row := by
  have hshows := sourceRows_shows hsource
  rw [rowSatisfies_eq_satisfies h hshows, rowSatisfies_eq_satisfies h.redactFields hshows,
    Bool.eq_iff_iff, satisfies_iff, satisfies_iff]
  refine forall₂_congr fun test htest => ?_
  have hplain := mem_plain_of_other htype (hshows.tested test htest).2.1
  rw [get_redactFields_of_plain hplain, isNull_redact,
    equal_redact (sourceRows_plain htype hsource test htest)]

/-! ## Stored codes -/

theorem fingerprint_ne_redacted (value : Json) : fingerprint containerText value ≠ "REDACTED" := by
  intro h
  have hlength := Sha256.length_hexdigest (Text.utf8 (CisInventory.pyStr containerText value))
  rw [← fingerprint, h] at hlength
  exact absurd hlength (by decide)

/-- The sanitized filters select from the stored codes what was asked for: a filter on the
fingerprint is given and no code satisfies the filters, or none is given and the statuses are
compared with what they were to be compared with. -/
def StoredFiltersSelect (sameNumber : Json → Json → Bool) (containerText : Json → String)
    (db : ReportDatabase) (inn : String) (fields : List (String × Json)) : Prop :=
  ∀ source ∈ sourceRows containerText db inn .cisInventoryStoredSnapshot,
    if (Json.lookup fields "cis_fingerprint").isSome then
      rowSatisfies sameNumber .cisInventoryStoredSnapshot fields source.row = false
    else
      let state := (Json.obj fields).get "state"
      let stored := (Json.obj source.row).get "raw_state"
      equal sameNumber (reportPolicy.redact false state) stored = equal sameNumber state stored

/-- Where a stored code satisfies the filters. -/
theorem rowSatisfies_cisInventory (sameNumber : Json → Json → Bool)
    (h : Accepted inn .cisInventoryStoredSnapshot fields)
    {source : SourceRow}
    (hsource : source ∈ sourceRows containerText db inn .cisInventoryStoredSnapshot) :
    rowSatisfies sameNumber .cisInventoryStoredSnapshot fields source.row = true ↔
      (((Json.obj fields).get "cis_fingerprint").isNull = true ∨
        equal sameNumber ((Json.obj fields).get "cis_fingerprint")
          ((Json.obj source.row).get "cis_fingerprint") = true) ∧
      (((Json.obj fields).get "state").isNull = true ∨
        equal sameNumber ((Json.obj fields).get "state")
          ((Json.obj source.row).get "raw_state") = true) := by
  obtain ⟨cis, -, htests⟩ := cisInventory_tests hsource
  rw [rowSatisfies_eq_satisfies h (sourceRows_shows hsource), satisfies_iff, htests]
  simp

/-- The sanitized filters select other codes unless they select what was asked for. -/
theorem satisfyingRows_redactFields_iff (h : Accepted inn .cisInventoryStoredSnapshot fields) :
    satisfyingRows sameNumber containerText db inn .cisInventoryStoredSnapshot
        (reportPolicy.redactFields false fields) =
      satisfyingRows sameNumber containerText db inn .cisInventoryStoredSnapshot fields ↔
    StoredFiltersSelect sameNumber containerText db inn fields := by
  rw [satisfyingRows_eq_iff, StoredFiltersSelect]
  refine forall₂_congr fun source hsource => ?_
  obtain ⟨cis, hcis, -⟩ := cisInventory_tests hsource
  have hsatisfies := rowSatisfies_cisInventory sameNumber h hsource
  have hsanitized := rowSatisfies_cisInventory sameNumber h.redactFields hsource
  have hhides : reportPolicy.hides false "cis_fingerprint" = true := by decide +kernel
  rw [get_redactFields_of_plain (show "state" ∈ plainFilters by decide), isNull_redact,
    get_redactFields, hhides, hcis] at hsanitized
  cases hlookup : Json.lookup fields "cis_fingerprint" with
  | some value =>
    -- no code has the text of what is hidden for its fingerprint
    have hnone : rowSatisfies sameNumber .cisInventoryStoredSnapshot
        (reportPolicy.redactFields false fields) source.row = false := by
      rw [← Bool.not_eq_true, hsanitized]
      rintro ⟨hnull | hequal, -⟩
      · simp [hlookup, Json.isNull] at hnull
      · simp only [hlookup, Option.isNone_some, Bool.false_eq_true, if_false, if_true, equal,
          Json.str?, decide_eq_true_eq, Option.some.injEq] at hequal
        exact fingerprint_ne_redacted cis hequal
    rw [hnone, Option.isSome_some, if_pos rfl]
    exact eq_comm
  | none =>
    have hget : (Json.obj fields).get "cis_fingerprint" = .null := by
      simp [Json.get, Json.get?, hlookup]
    rw [Option.isSome_none, if_neg Bool.false_ne_true]
    simp only [hlookup, Option.isNone_none, if_true, Json.isNull, true_or, true_and] at hsanitized
    simp only [hget, Json.isNull, true_or, true_and] at hsatisfies
    rw [Bool.eq_iff_iff, hsatisfies, hsanitized, Bool.eq_iff_iff]
    cases hstate : (Json.obj fields).get "state" with
    | null => simp [Redaction.Policy.redact]
    | _ => simp

/-! ## Fingerprints of requests -/

/-- Two filter sets differ only under keys, or beside texts, that tell of secrets. -/
def ReportFilters.DifferInSecrets (filters others : ReportFilters) : Prop :=
  reportPolicy.Alike false filters.value.ordered others.value.ordered

theorem ordered_requestPayload (reportType reportSchemaVersion : String)
    (scope filters : Json) (outputFormat sensitivityMode snapshotPolicyVersion : String) :
    (requestPayload reportType reportSchemaVersion scope filters outputFormat sensitivityMode
        snapshotPolicyVersion).ordered =
      .obj [("normalized_filters", filters.ordered), ("output_format", .str outputFormat),
        ("participant_scope", scope.ordered), ("report_schema_version", .str reportSchemaVersion),
        ("report_type", .str reportType), ("sensitivity_mode", .str sensitivityMode),
        ("snapshot_policy_version", .str snapshotPolicyVersion)] := by
  simp [requestPayload, Json.ordered, Json.orderedFields, Json.orderFields, Json.insertValue,
    Json.keyLe]

theorem floatTexts_payload (call : LocalReportCall) : Json.FloatTexts (call.payload inn) := by
  have hfilters : Json.FloatTexts call.filters.sanitized :=
    Redaction.Policy.floatTexts_redact (p := reportPolicy) trivial false _ call.filters.floats
  exact ⟨trivial, trivial, ⟨trivial, trivial⟩, hfilters, trivial, trivial, trivial, trivial⟩

/-- One payload, requests of one report whose filters differ only in secrets. -/
theorem payload_canonical_eq_iff {request request' : ReportRequest} {call other : LocalReportCall}
    (h : request.Stores inn call) (hother : request'.Stores inn other) :
    (call.payload inn).canonical = (other.payload inn).canonical ↔
      call.reportType = other.reportType ∧ call.outputFormat = other.outputFormat ∧
        call.filters.DifferInSecrets other.filters := by
  have halike : call.filters.sanitized.ordered = other.filters.sanitized.ordered ↔
      call.filters.DifferInSecrets other.filters :=
    Redaction.Policy.ordered_redact_eq_iff (p := reportPolicy) rfl
  rw [Json.canonical_eq_iff (floatTexts_payload call) (floatTexts_payload other),
    LocalReportCall.payload, LocalReportCall.payload, h.mode, hother.mode, ordered_requestPayload,
    ordered_requestPayload, ← halike]
  constructor
  · intro heq
    simp only [Json.obj.injEq, List.cons.injEq, Prod.mk.injEq, Json.str.injEq, true_and,
      and_true] at heq
    obtain ⟨hfilters, hformat, -, htype, -⟩ := heq
    exact ⟨value_injective htype, hformat, hfilters⟩
  · rintro ⟨htype, hformat, hfilters⟩
    rw [htype, hformat, hfilters]

/-- The payloads of two requests are no collision of SHA-256. -/
def NoCollision (inn : String) (call other : LocalReportCall) : Prop :=
  requestFingerprint inn call = requestFingerprint inn other →
    (call.payload inn).canonical = (other.payload inn).canonical

/-- One fingerprint, requests of one report whose filters differ only in secrets. -/
theorem requestFingerprint_eq_iff {request request' : ReportRequest} {call other : LocalReportCall}
    (h : request.Stores inn call) (hother : request'.Stores inn other)
    (hfree : NoCollision inn call other) :
    requestFingerprint inn call = requestFingerprint inn other ↔
      call.reportType = other.reportType ∧ call.outputFormat = other.outputFormat ∧
        call.filters.DifferInSecrets other.filters := by
  rw [← payload_canonical_eq_iff h hother]
  refine ⟨hfree, fun heq => ?_⟩
  rw [requestFingerprint_eq, requestFingerprint_eq, heq]

theorem isNull_ordered (value : Json) : value.ordered.isNull = value.isNull := by
  cases value <;> rfl

theorem equal_ordered {value other : Json} (hother : IsText other) :
    equal sameNumber value.ordered other = equal sameNumber value other := by
  cases value with
  | arr items => obtain rfl | ⟨text, rfl⟩ := hother <;> simp [equal, Json.ordered]
  | obj fields => obtain rfl | ⟨text, rfl⟩ := hother <;> simp [equal, Json.ordered]
  | _ => rfl

theorem get_ordered (hkeys : (fields.map Prod.fst).Nodup) (name : String) :
    (Json.obj fields).ordered.get name = ((Json.obj fields).get name).ordered := by
  rw [Json.get, Json.get?_ordered hkeys, Json.get]
  cases (Json.obj fields).get? name <;> rfl

/-- Filters that differ only in secrets select the same of what is not a report on stored codes. -/
theorem rowSatisfies_of_differInSecrets {filters others : ReportFilters}
    (h : Accepted inn reportType filters.fields) (h' : Accepted inn reportType others.fields)
    (htype : reportType ≠ .cisInventoryStoredSnapshot)
    (halike : filters.DifferInSecrets others) {source : SourceRow}
    (hsource : source ∈ sourceRows containerText db inn reportType) :
    rowSatisfies sameNumber reportType filters.fields source.row =
      rowSatisfies sameNumber reportType others.fields source.row := by
  have hordered : (Json.obj (reportPolicy.redactFields false filters.fields)).ordered =
      (Json.obj (reportPolicy.redactFields false others.fields)).ordered := by
    rw [← sanitized_eq h.known, ← sanitized_eq h'.known]
    exact (Redaction.Policy.ordered_redact_eq_iff (p := reportPolicy) rfl).mpr halike
  have hshows := sourceRows_shows hsource
  rw [← rowSatisfies_redactFields h htype hsource, ← rowSatisfies_redactFields h' htype hsource,
    rowSatisfies_eq_satisfies h.redactFields hshows,
    rowSatisfies_eq_satisfies h'.redactFields hshows, Bool.eq_iff_iff, satisfies_iff, satisfies_iff]
  refine forall₂_congr fun test htest => ?_
  have htext := sourceRows_plain htype hsource test htest
  have hget := congrArg (Json.get · test.1) hordered
  rw [get_ordered h.redactFields.keys, get_ordered h'.redactFields.keys] at hget
  rw [← isNull_ordered, ← equal_ordered htext, hget, isNull_ordered, equal_ordered htext]

/-! ## Reports of what was asked for -/

/-- The sanitized filters of a report select what was asked for. -/
def FiltersKept (sameNumber : Json → Json → Bool) (containerText : Json → String)
    (db : ReportDatabase) (inn : String) (call : LocalReportCall) : Prop :=
  call.reportType = .cisInventoryStoredSnapshot →
    StoredFiltersSelect sameNumber containerText db inn call.filters.fields

/-- Two requests for stored codes that differ only in secrets ask for the same codes. -/
def SecretsSelectNothing (sameNumber : Json → Json → Bool) (containerText : Json → String)
    (db : ReportDatabase) (inn : String) (call other : LocalReportCall) : Prop :=
  call.reportType = .cisInventoryStoredSnapshot → other.reportType = .cisInventoryStoredSnapshot →
    call.outputFormat = other.outputFormat → call.filters.DifferInSecrets other.filters →
      requestedRows sameNumber containerText db inn call =
        requestedRows sameNumber containerText db inn other

theorem satisfyingRows_redactFields_eq_iff {request : ReportRequest} {call : LocalReportCall}
    (h : request.Stores inn call) :
    satisfyingRows sameNumber containerText db inn call.reportType
        (reportPolicy.redactFields false call.filters.fields) =
      requestedRows sameNumber containerText db inn call ↔
    FiltersKept sameNumber containerText db inn call := by
  have haccepted := accepted_of_stores h
  rw [requestedRows, FiltersKept]
  by_cases htype : call.reportType = .cisInventoryStoredSnapshot
  · rw [htype] at haccepted ⊢
    rw [satisfyingRows_redactFields_iff haccepted]
    exact ⟨fun h _ => h, fun h => h rfl⟩
  · refine ⟨fun _ hcis => absurd hcis htype, fun _ => satisfyingRows_eq_iff.mpr ?_⟩
    exact fun source hsource => rowSatisfies_redactFields haccepted htype hsource

theorem requestedRows_of_fingerprint_iff {request request' : ReportRequest}
    {call other : LocalReportCall} (h : request.Stores inn call)
    (hother : request'.Stores inn other) (hfree : NoCollision inn call other) :
    (requestFingerprint inn call = requestFingerprint inn other →
        requestedRows sameNumber containerText db inn call =
          requestedRows sameNumber containerText db inn other) ↔
      SecretsSelectNothing sameNumber containerText db inn call other := by
  rw [requestFingerprint_eq_iff h hother hfree, SecretsSelectNothing]
  constructor
  · rintro heq hcis hcis' hformat halike
    exact heq ⟨hcis.trans hcis'.symm, hformat, halike⟩
  · rintro heq ⟨htype, hformat, halike⟩
    by_cases hcis : call.reportType = .cisInventoryStoredSnapshot
    · exact heq hcis (htype ▸ hcis) hformat halike
    · have haccepted := accepted_of_stores hother
      rw [requestedRows, requestedRows, ← htype, satisfyingRows_eq_iff]
      rw [← htype] at haccepted
      intro source hsource
      exact rowSatisfies_of_differInSecrets (accepted_of_stores h) haccepted hcis halike hsource

/-- The artifact of one request is taken for another exactly when the fingerprints are one. -/
theorem fingerprint_of_reuse {old new : ReuseKey} {ready expired : Bool}
    (h : artifactReuseAllowed old new ready expired = true) :
    old.requestFingerprint = new.requestFingerprint := by
  simp only [artifactReuseAllowed, Bool.and_eq_true, decide_eq_true_eq] at h
  exact h.1.1.1.2

/-- The report of a request has the rows of the tenant that satisfy every filter, each once; a
request of the tenant that asks for other rows has another fingerprint and is never given its
artifact. -/
structure AsRequested (sameNumber : Json → Json → Bool) (containerText : Json → String)
    (db : ReportDatabase) (inn : String) (call other : LocalReportCall)
    (request request' : ReportRequest) (rows : List (List (String × Json))) : Prop where
  rows : rows = requestedRows sameNumber containerText db inn call
  fingerprints : requestedRows sameNumber containerText db inn call ≠
      requestedRows sameNumber containerText db inn other →
    request.requestFingerprintSha256 ≠ request'.requestFingerprintSha256
  replay : ∀ (old new : ReuseKey) (ready expired : Bool),
    old.requestFingerprint = request.requestFingerprintSha256 →
    new.requestFingerprint = request'.requestFingerprintSha256 →
    artifactReuseAllowed old new ready expired = true →
    requestedRows sameNumber containerText db inn call =
      requestedRows sameNumber containerText db inn other

end Selection

/-! ## A report on a stored code -/

/-- A code that an agent has read. -/
def sampleDatabase : ReportDatabase where
  agentJobs :=
    [{ jobId := "job"
       jobType := "CIS_INFO"
       purpose := "CIS_INFO"
       state := "COMPLETED"
       payloadJson := .obj [("expected_inn", .str "7701234567")]
       resultJson := .obj
         [("cises", .arr [.obj [("cis", .str "0104600439931256"), ("status", .str "EMITTED")]])]
       updatedAt := ⟨0, "2024-01-01T00:00:00+00:00"⟩ }]
  documentLifecycle := []
  turnoverOperations := []
  aggregationOperations := []
  wbConnections := []
  wbOrders := []
  wbEvents := []
  wbReconciliation := []
  ozonConnections := []
  ozonReconciliation := []

/-- The fingerprint of the code. -/
def sampleFingerprint : String := fingerprint (fun _ => "") (.str "0104600439931256")

/-- The row of a code with the fingerprint. -/
def sampleCodeRow (text : String) : List (String × Json) :=
  [("participant_inn", .str "7701234567"), ("cis_masked", .str "************1256"),
    ("cis_fingerprint", .str text), ("raw_state", .str "EMITTED"),
    ("observed_at", .str "2024-01-01T00:00:00+00:00"),
    ("observation_semantics", .str "LATEST_STORED_OBSERVATION")]

/-- A request for the code of a fingerprint. -/
def sampleCall (text : String) : LocalReportCall where
  reportType := .cisInventoryStoredSnapshot
  outputFormat := "CSV"
  filters :=
    { fields := [("cis_fingerprint", .str text)]
      keys := by simp
      floats := ⟨trivial, trivial⟩ }

/-- What is stored of the request. -/
def sampleRequest (text : String) : ReportRequest where
  origin := .localReport
  participantInn := "7701234567"
  reportType := "CIS_INVENTORY_STORED_SNAPSHOT"
  reportSchemaVersion := "1.0"
  outputFormat := "CSV"
  sensitivityClass := "BUSINESS_SENSITIVE"
  filtersSanitized := (sampleCall text).filters.sanitized
  requestFingerprintSha256 := requestFingerprint "7701234567" (sampleCall text)

theorem localRequest_sampleCall (text : String) :
    localRequest "7701234567" none false (sampleCall text) = .ok (sampleRequest text) := rfl

/-- What a worker claims. -/
def sampleClaimed (text : String) : ClaimedReportJob :=
  (ReportJobRecord.create "report" (sampleRequest text) 0).claimed "worker" 60 0

theorem sampleClaimed_held (text : String) : ∃ after w₁ w₂,
    (World.initial 0).request "report" (sampleRequest text) = .ok w₁ ∧
      Transition.Run (Steps ⟨60, 3600⟩) w₁ after w₂ ∧ sampleClaimed text ∈ w₂.held :=
  ⟨[] ++ [.claim "worker" fun _ => false], _, _, rfl, .snoc .nil rfl, List.mem_singleton_self _⟩

theorem sampleDatabase_codes :
    sourceRows (fun _ => "") sampleDatabase "7701234567" .cisInventoryStoredSnapshot =
      [⟨[("cis_fingerprint", .str sampleFingerprint), ("state", .str "EMITTED")],
        sampleCodeRow sampleFingerprint⟩] := by
  have hjobs : (sampleDatabase.agentJobs.filter fun job =>
      ["CIS_INFO", "CIS_SEARCH", "CIS_HISTORY", "CIS_AGGREGATED_LIST",
          "CIS_AGGREGATION_HISTORY"].contains job.jobType &&
        job.state = "COMPLETED" && job.isFor "7701234567") = sampleDatabase.agentJobs := rfl
  rw [sourceRows, cisInventorySource, hjobs, orderBy, sampleDatabase, List.mergeSort_singleton]
  rfl

theorem rowSatisfies_sampleCodeRow (text other : String) :
    rowSatisfies (fun _ _ => false) .cisInventoryStoredSnapshot [("cis_fingerprint", .str text)]
      (sampleCodeRow other) = decide (other = text) := by
  have hget : (Json.obj (sampleCodeRow other)).get "cis_fingerprint" = .str other := rfl
  change (((Json.str text).isNull || equal _ (.str text)
    ((Json.obj (sampleCodeRow other)).get "cis_fingerprint")) && true) = _
  rw [hget, equal, Bool.and_true]
  exact decide_eq_decide.mpr Option.some_inj

/-- A code is asked for exactly by its own fingerprint. -/
theorem requestedRows_sampleCall (text : String) :
    requestedRows (fun _ _ => false) (fun _ => "") sampleDatabase "7701234567" (sampleCall text) =
      if sampleFingerprint = text then [sampleCodeRow sampleFingerprint] else [] := by
  change List.filter (rowSatisfies _ .cisInventoryStoredSnapshot [("cis_fingerprint", .str text)])
    (List.map _ (sourceRows _ _ _ .cisInventoryStoredSnapshot)) = _
  rw [sampleDatabase_codes, List.map_singleton, List.filter_singleton, rowSatisfies_sampleCodeRow,
    Bool.cond_decide]

theorem selectRows_redacted {text : String} (h : text ≠ "REDACTED") :
    selectRows (fun _ _ => false) [("cis_fingerprint", .str "REDACTED")]
      [⟨[("cis_fingerprint", .str text), ("state", .str "EMITTED")], sampleCodeRow text⟩] = [] := by
  simp [selectRows, SourceRow.satisfies, rejects, Json.get, Json.get?, equal, Json.str?, h]

/-- No report is made of a code that is asked for. -/
theorem generatedRows_sampleClaimed (text : String) :
    generatedRows (fun _ _ => false) (fun _ => "") sampleDatabase "7701234567" 10
      (sampleClaimed text) = .ok [] := by
  have hrows : registryRows (fun _ _ => false) (fun _ => "") sampleDatabase "7701234567"
      .cisInventoryStoredSnapshot [("cis_fingerprint", .str "REDACTED")] = .ok [] := by
    have hne : sampleFingerprint ≠ "REDACTED" := fingerprint_ne_redacted _
    have hselected := selectRows_redacted hne
    rw [← sampleDatabase_codes] at hselected
    exact congrArg Except.ok hselected
  unfold generatedRows
  have hinn : (sampleClaimed text).participantInn = "7701234567" := rfl
  have hcheck : checkClaimed (sampleClaimed text) = .ok () := rfl
  have htype : localReportType? (sampleClaimed text).reportType =
      some .cisInventoryStoredSnapshot := by
    change localReportType? "CIS_INVENTORY_STORED_SNAPSHOT" = _
    decide
  have hfilters : fieldsOf (sampleClaimed text).filtersSanitized =
      [("cis_fingerprint", .str "REDACTED")] := by
    have hhides : ∀ told, reportPolicy.hides told "cis_fingerprint" = true := by decide +kernel
    change fieldsOf (sanitizeReportEvidence (sampleCall text).filters.sanitized) = _
    rw [ReportFilters.sanitized, sanitizeReportEvidence_spec.2, sanitizeReportEvidence,
      ReportFilters.value, sampleCall, Redaction.Policy.redact_obj, Redaction.Policy.redactFields,
      if_pos (hhides _)]
    rfl
  rw [if_neg (not_not.mpr hinn), hcheck, htype, hfilters]
  refine Fallible.bind_eq_ok.mpr ⟨(), rfl, Fallible.bind_eq_ok.mpr ⟨[], hrows, rfl⟩⟩

theorem sampleCall_differInSecrets (text other : String) :
    (sampleCall text).filters.DifferInSecrets (sampleCall other).filters := by
  have hhides : ∀ told, reportPolicy.hides told "cis_fingerprint" = true := by decide +kernel
  exact .obj (.hidden (hhides _) .nil)

theorem requestFingerprint_sampleCall (text other : String) :
    requestFingerprint "7701234567" (sampleCall text) =
      requestFingerprint "7701234567" (sampleCall other) := by
  have hpayload := (payload_canonical_eq_iff (localRequest_spec (localRequest_sampleCall text))
    (localRequest_spec (localRequest_sampleCall other))).mpr
    ⟨rfl, rfl, sampleCall_differInSecrets text other⟩
  rw [requestFingerprint_eq, requestFingerprint_eq, hpayload]

end Wbcz.Reports

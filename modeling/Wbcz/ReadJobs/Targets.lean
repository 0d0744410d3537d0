import Wbcz.ReadJobs.DocumentLifecycle
import Wbcz.ReadJobs.EdoLite
import Wbcz.ReadJobs.ReferenceProducts
import Wbcz.ReadJobs.ReportPayloads

/-!
# The targets that are built

The target of a read job leads to the endpoint of its type when no identifier in its path is a dot
segment: quoting leaves a dot as it is, and so do the contracts of identifiers. The parameters that
bind a job to its product group are there in any case.
-/

namespace Wbcz.Targets

open Fallible (bind_eq_ok)
open Json (FieldRule)
open PathSegments

/-- The path of the endpoint of a type of read jobs, with a name in braces for each identifier. -/
def endpoint : AgentJobType → String
  | .participants => ReferenceProducts.participantsPath
  | .modsList => ReferenceProducts.modsListPath
  | .tnVedSearch => ReferenceProducts.tnVedSearchPath
  | .productGtinList => ReferenceProducts.productGtinPath
  | .rdList => ReferenceProducts.rdListPath
  | .documentList => DocumentLifecycle.documentListPath
  | .documentInfo => "/api/v4/true-api/doc/\x7bdocId\x7d/info"
  | .documentCises => DocumentLifecycle.documentCisesPath
  | .edoParticipant => "/api/v4/true-api/edo/inn/\x7binn\x7d"
  | .edoOutgoingList => "/api/v3/true-api/elk/outgoing-documents"
  | .edoIncomingList => "/api/v3/true-api/elk/incoming-documents"
  | .edoOutgoingContent => "/elk/outgoing-documents/\x7bdocumentId\x7d/content"
  | .edoIncomingContent => "/elk/incoming-documents/\x7bdocumentId\x7d/content"
  | .edoOutgoingPrint => "/api/v3/true-api/edo/outgoing-documents/\x7bdoc_id\x7d/print"
  | .edoIncomingPrint => "/api/v3/true-api/edo/incoming-documents/\x7bdoc_id\x7d/print"
  | .edoOutgoingLegalZip => "/elk/outgoing-documents/\x7bdocumentId\x7d"
  | .edoIncomingLegalZip => "/elk/incoming-documents/\x7bdocumentId\x7d"
  | .edoOutgoingUnsignedEvents => "/api/v3/true-api/edo/outgoing-documents/unsigned-events"
  | .edoIncomingUnsignedEvents => "/api/v3/true-api/edo/incoming-documents/unsigned-events"
  | .edoEventContent =>
    "/api/v3/true-api/edo/incoming-documents/\x7bdoc_id\x7d/events/\x7bevent_id\x7d/content"
  | .edoOutgoingReceipt =>
    "/api/v3/true-api/edo/outgoing-documents/\x7bdoc_id\x7d/events/\x7breceiptType\x7d"
  | .edoIncomingReceipt =>
    "/api/v3/true-api/edo/incoming-documents/\x7bdoc_id\x7d/events/\x7breceiptType\x7d"
  | .edoOutgoingMchd => "/api/v3/true-api/edo/outgoing-documents/\x7bdoc_id\x7d/mchd-list"
  | .edoIncomingMchd => "/api/v3/true-api/edo/incoming-documents/\x7bdoc_id\x7d/mchd-list"
  | .edoGisProcessing => EdoLite.gisProcessingPath
  | .reportCreate => ReportPayloads.pathTemplate .createExport
  | .reportTaskGet => ReportPayloads.pathTemplate .getTask
  | .reportTaskList => ReportPayloads.pathTemplate .listTasks
  | .reportResults => ReportPayloads.pathTemplate .listResults
  | .reportDownload => ReportPayloads.pathTemplate .downloadResult
  | .reportQuotaType => ReportPayloads.pathTemplate .quotaByTaskType
  | .reportQuotaId => ReportPayloads.pathTemplate .quotaByReport
  | _ => ""

/-- The fields of a payload that stand in the path, in the order of the path. -/
def pathFields : AgentJobType → List String
  | .documentInfo | .edoOutgoingContent | .edoIncomingContent | .edoOutgoingPrint
  | .edoIncomingPrint | .edoOutgoingLegalZip | .edoIncomingLegalZip | .edoOutgoingMchd
  | .edoIncomingMchd => ["document_id"]
  | .edoParticipant => ["inn"]
  | .edoEventContent => ["document_id", "event_id"]
  | .edoOutgoingReceipt | .edoIncomingReceipt => ["document_id", "receipt_type"]
  | .reportTaskGet => ["task_id"]
  | .reportDownload => ["result_id"]
  | .reportQuotaId => ["report_id"]
  | _ => []

/-- The parameters that bind a type of jobs to its product group. -/
def scopeOf : AgentJobType → List Url.Pair
  | .modsList => [("productGroups", ReferenceProducts.m2ProductGroup)]
  | .productGtinList => [("pg", ReferenceProducts.m2ProductGroup)]
  | .documentList => [("pg", DocumentLifecycle.m4ProductGroup)]
  | .documentCises => [("productGroup", DocumentLifecycle.m4ProductGroup)]
  | _ => []

/-- Each of the parameters of the scope is in the query of the target, once and as one of its own. -/
def InScope (type : AgentJobType) (target : List Char) : Prop :=
  ∀ pair ∈ scopeOf type, Url.valuesOf (Url.parseQsl (queryOf target)) pair.1 = [pair.2]

/-- The target leads to the endpoint of the type, within its scope. -/
def Scoped (type : AgentJobType) (target : List Char) : Prop :=
  LeadsTo (endpoint type) target ∧ InScope type target

/-! ## Endpoints -/

/-- A path with as many names in braces as there are fields, none of them at its beginning and no two
of them next to each other. -/
def IsTemplate (path : List Char) (fields : ℕ) : Prop :=
  let template := (segments path).map partOf
  (∀ part ∈ template, part.Plain) ∧ template.count .identifier = fields ∧
    template.head? ≠ some .identifier ∧
    template.IsChain (fun p q => p = .identifier → q ≠ .identifier) ∧
    (fields = 0 → path = joined (fill template []))

instance (path : List Char) (fields : ℕ) : Decidable (IsTemplate path fields) :=
  inferInstanceAs (Decidable (_ ∧ _ ∧ _ ∧ _ ∧ _))

/-- The characters of a literal are those it is made of. -/
theorem isTemplate_ofList {path : List Char} {fields : ℕ} (h : IsTemplate path fields) :
    IsTemplate (String.ofList path).toList fields := by
  rw [String.toList_ofList]
  exact h

theorem isTemplate_endpoint (type : AgentJobType) :
    IsTemplate (endpoint type).toList (pathFields type).length := by
  cases type <;> exact isTemplate_ofList (by decide +kernel)

theorem plain_endpoint (type : AgentJobType) : ∀ part ∈ parts (endpoint type), part.Plain :=
  (isTemplate_endpoint type).1

theorem count_endpoint (type : AgentJobType) :
    (parts (endpoint type)).count .identifier = (pathFields type).length :=
  (isTemplate_endpoint type).2.1

theorem head?_endpoint (type : AgentJobType) :
    (parts (endpoint type)).head? ≠ some .identifier :=
  (isTemplate_endpoint type).2.2.1

theorem isChain_endpoint (type : AgentJobType) :
    (parts (endpoint type)).IsChain fun p q => p = .identifier → q ≠ .identifier :=
  (isTemplate_endpoint type).2.2.2.1

theorem endpoint_eq_fill {type : AgentJobType} (h : pathFields type = []) :
    (endpoint type).toList = joined (fill (parts (endpoint type)) []) :=
  (isTemplate_endpoint type).2.2.2.2 (by rw [h, List.length_nil])

/-- The families of the read jobs with endpoints. -/
def readFamilies : List JobFamily := [.m2, .m4, .m7, .m11]

theorem parts_endpoint_ne_nil {type : AgentJobType} (h : type.family ∈ readFamilies) :
    parts (endpoint type) ≠ [] := by
  have hall : ∀ type ∈ AgentJobType.all, type.family ∈ readFamilies → endpoint type ≠ "" := by
    decide +kernel
  intro hnil
  have hcount := count_endpoint type
  rw [hnil, List.count_nil, eq_comm, List.length_eq_zero_iff] at hcount
  have hpath := endpoint_eq_fill hcount
  rw [hnil] at hpath
  exact hall type (AgentJobType.mem_all type) h (String.toList_inj.mp hpath)

/-! ## Identifiers -/

/-- The segment stands for the text of a payload. -/
def Identifies (id : Segment) (value : Json) : Prop :=
  (id ≠ [] ∧ '/' ∉ id ∧ id.all isPathChar) ∧ (IsDot id ↔ IsDot (strText value).toList)

/-- Quoting leaves dot segments as they are, and makes no others. -/
theorem isDot_quote_iff (text : List Char) : IsDot (Url.quote text) ↔ IsDot text := by
  have hinjective : Function.Injective Url.quote :=
    Function.LeftInverse.injective Url.unquote_quote
  have hone : Url.quote ['.'] = ['.'] := by decide
  have htwo : Url.quote ['.', '.'] = ['.', '.'] := by decide
  refine or_congr ?_ ?_
  · conv_lhs => rw [← hone]
    exact hinjective.eq_iff
  · conv_lhs => rw [← htwo]
    exact hinjective.eq_iff

theorem identifies_quote {value : Json} (h : isText value = true) :
    Identifies (Url.quote (strText value).toList) value := by
  obtain ⟨text, rfl, hempty⟩ := isText_eq_true.mp h
  change Identifies (Url.quote text.toList) (.str text)
  refine ⟨⟨Url.quote_ne_nil (by simpa using hempty), fun hslash => ?_, ?_⟩, isDot_quote_iff text.toList⟩
  · exact absurd (Url.isQuoted_quote hslash) (by decide)
  · refine List.all_eq_true.mpr fun c hc => decide_eq_true ⟨?_, ?_⟩
    · rintro rfl
      exact absurd (Url.isQuoted_quote hc) (by decide)
    · rintro rfl
      exact absurd (Url.isQuoted_quote hc) (by decide)

/-- A text that is written as it is. -/
theorem identifies_self {text : String} (hempty : text ≠ "") {ok : Char → Bool}
    (hchars : ∀ c ∈ text.toList, ok c = true)
    (hok : ok '/' = false ∧ ok '?' = false ∧ ok '#' = false) :
    Identifies text.toList (.str text) := by
  have hne : ∀ mark, ok mark = false → mark ∉ text.toList := by
    intro mark hmark hmem
    have := hchars mark hmem
    rw [hmark] at this
    cases this
  refine ⟨⟨by simpa using hempty, hne '/' hok.1, ?_⟩, Iff.rfl⟩
  refine List.all_eq_true.mpr fun c hc => decide_eq_true ⟨?_, ?_⟩
  · rintro rfl
    exact hne '?' hok.2.1 hc
  · rintro rfl
    exact hne '#' hok.2.2 hc

theorem identifies_token {value : Json} {max : ℕ} (h : value.str?.any (isToken max) = true) :
    Identifies (strText value).toList value := by
  cases value with
  | str text =>
    change isToken max text = true at h
    simp only [isToken, Bool.and_eq_true] at h
    refine identifies_self ?_ (List.all_eq_true.mp h.2) (by decide)
    rintro rfl
    exact absurd h.1.1 (by decide)
  | _ => cases h

theorem identifies_inn {value : Json} (h : isInn value = true) :
    Identifies (strText value).toList value := by
  cases value with
  | str text =>
    obtain ⟨hdigits, -⟩ := Bool.and_eq_true_iff.mp h
    obtain ⟨hempty, hall⟩ := Bool.and_eq_true_iff.mp hdigits
    exact identifies_self (of_decide_eq_true hempty) (List.all_eq_true.mp hall) (by decide)
  | _ => cases h

/-! ## What is written -/

/-- What holds of the segments holds of the values that they stand for. -/
theorem forall_mem_iff_of_identifies {ids : List Segment} {values : List Json} {p : Segment → Prop}
    {q : Json → Prop} (h : List.Forall₂ Identifies ids values)
    (hpq : ∀ id value, Identifies id value → (p id ↔ q value)) :
    (∀ id ∈ ids, p id) ↔ ∀ value ∈ values, q value := by
  induction h with
  | nil => simp
  | cons hid _ ih => rw [List.forall_mem_cons, List.forall_mem_cons, hpq _ _ hid, ih]

/-- The path is that of the endpoint, with identifiers of the payload in place of the names. -/
def Written (type : AgentJobType) (payload : Json) (target : List Char) : Prop :=
  ∃ ids rest, target = joined (fill (parts (endpoint type)) ids) ++ rest ∧
    List.Forall₂ Identifies ids ((pathFields type).map payload.get) ∧
    ∀ c, rest.head? = some c → isPathChar c = false

/-- A target that is written so leads to the endpoint when no identifier is a dot segment. -/
theorem Written.leadsTo_iff {type : AgentJobType} {payload : Json} {target : List Char}
    (h : Written type payload target) (hfamily : type.family ∈ readFamilies) :
    LeadsTo (endpoint type) target ↔
      ∀ field ∈ pathFields type, ¬IsDot (strText (payload.get field)).toList := by
  obtain ⟨ids, rest, rfl, hids, hrest⟩ := h
  have hlength : ids.length = (parts (endpoint type)).count .identifier := by
    rw [hids.length_eq, List.length_map, count_endpoint]
  have hchars : ∀ id ∈ ids, id ≠ [] ∧ '/' ∉ id ∧ id.all isPathChar :=
    (forall_mem_iff_of_identifies hids fun _ _ hid => iff_true_intro hid.1).mpr fun _ _ => trivial
  rw [leadsTo_fill_iff (plain_endpoint type) hlength (parts_endpoint_ne_nil hfamily) hchars hrest,
    forall_mem_iff_of_identifies hids fun _ _ hid => not_congr hid.2, List.forall_mem_map]

/-- What follows the path of a target ends the path. -/
theorem written_withQuery {type : AgentJobType} {payload : Json} {quoteVia : List Char → List Char}
    {path : String} {pairs : List Url.Pair} {ids : List Segment}
    (hpath : path.toList = joined (fill (parts (endpoint type)) ids))
    (hids : List.Forall₂ Identifies ids ((pathFields type).map payload.get)) :
    Written type payload (withQuery quoteVia path pairs).toList := by
  by_cases hpairs : pairs = []
  · refine ⟨ids, [], ?_, hids, by simp⟩
    rw [List.append_nil, ← hpath, hpairs]
    rfl
  · refine ⟨ids, '?' :: Url.urlencode quoteVia pairs, ?_, hids, ?_⟩
    · rw [withQuery_toList hpairs, hpath]
    · rintro c ⟨⟩
      decide

/-- A path without identifiers. -/
theorem written_endpoint {type : AgentJobType} {payload : Json}
    {quoteVia : List Char → List Char} {pairs : List Url.Pair} (hfields : pathFields type = []) :
    Written type payload (withQuery quoteVia (endpoint type) pairs).toList := by
  refine written_withQuery (endpoint_eq_fill hfields) ?_
  rw [hfields, List.map_nil]
  exact .nil

theorem written_path {type : AgentJobType} {payload : Json} {path : String} {ids : List Segment}
    (hpath : path.toList = joined (fill (parts (endpoint type)) ids))
    (hids : List.Forall₂ Identifies ids ((pathFields type).map payload.get)) :
    Written type payload path.toList :=
  have h : Written type payload (withQuery Url.quote path []).toList := written_withQuery hpath hids
  h

theorem written_endpoint_path {type : AgentJobType} {payload : Json}
    (hfields : pathFields type = []) : Written type payload (endpoint type).toList :=
  have h : Written type payload (withQuery Url.quote (endpoint type) []).toList :=
    written_endpoint hfields
  h

theorem inScope_of_nil {type : AgentJobType} {target : List Char} (h : scopeOf type = []) :
    InScope type target := by
  rw [InScope, h]
  simp

/-- The parameters of a target are the pairs that it was made of. -/
theorem inScope_withQuery {type : AgentJobType} {quoteVia : List Char → List Char}
    {pairs : List Url.Pair} (hquoting : Url.Quoting quoteVia) (hfields : pathFields type = [])
    (hpairs : pairs ≠ []) (h : ∀ pair ∈ scopeOf type, Url.valuesOf pairs pair.1 = [pair.2]) :
    InScope type (withQuery quoteVia (endpoint type) pairs).toList := by
  have hcount : ([] : List Segment).length = (parts (endpoint type)).count .identifier := by
    rw [count_endpoint, hfields]
    rfl
  have hpath : ∀ c ∈ (endpoint type).toList, isPathChar c = true := by
    rw [endpoint_eq_fill hfields]
    exact isPathChar_of_mem_fill (plain_endpoint type) hcount (List.forall_mem_nil _)
  have hhash : '#' ∉ Url.urlencode quoteVia pairs := fun hmem =>
    absurd (Url.isQueryChar_urlencode hquoting hmem) (by decide)
  intro pair hpair
  rw [withQuery_toList hpairs, queryOf_append hpath hhash, Url.parseQsl_urlencode hquoting]
  exact h pair hpair

theorem valuesOf_namedPair (normalized : Json) (key name other : String) :
    Url.valuesOf (namedPair normalized key name) other =
      if name = other then (normalized.get key).str?.toList else [] :=
  Url.valuesOf_map name other _

/-! ## The families -/

section Families

variable {type : AgentJobType} {payload : Json}

theorem reference_written {spec : CisInventory.TrueApiReadSpec}
    (h : ReferenceProducts.buildReferenceReadSpec type payload = .ok spec) :
    Written type payload spec.target.toList ∧ InScope type spec.target.toList := by
  obtain ⟨normalized, hvalid, hspec⟩ := bind_eq_ok.mp h
  cases type with
  | participants =>
    obtain rfl := Except.ok.inj hspec
    dsimp only [ReferenceProducts.queryTarget]
    exact ⟨written_endpoint rfl, inScope_of_nil rfl⟩
  | modsList =>
    obtain ⟨limit, -, hspec⟩ := bind_eq_ok.mp hspec
    obtain ⟨page, -, hspec⟩ := bind_eq_ok.mp hspec
    obtain rfl := Except.ok.inj hspec
    dsimp only [ReferenceProducts.queryTarget]
    refine ⟨written_endpoint rfl, inScope_withQuery Url.quoting_quote rfl (by simp) ?_⟩
    simp [scopeOf, Url.valuesOf_append, Url.valuesOf_cons, Url.valuesOf_map, valuesOf_namedPair]
  | tnVedSearch =>
    obtain rfl := Except.ok.inj hspec
    exact ⟨written_endpoint_path rfl, inScope_of_nil rfl⟩
  | productGtinList =>
    obtain ⟨limit, -, hspec⟩ := bind_eq_ok.mp hspec
    obtain ⟨page, -, hspec⟩ := bind_eq_ok.mp hspec
    obtain rfl := Except.ok.inj hspec
    dsimp only [ReferenceProducts.queryTarget]
    refine ⟨written_endpoint rfl, inScope_withQuery Url.quoting_quote rfl (by simp) ?_⟩
    simp [scopeOf, Url.valuesOf_cons]
  | rdList =>
    obtain rfl := Except.ok.inj hspec
    exact ⟨written_endpoint_path rfl, inScope_of_nil rfl⟩
  | _ => cases hvalid

/-- The path of an information on a document. -/
theorem documentInfo_path (id : List Char) :
    "/api/v4/true-api/doc/".toList ++ id ++ "/info".toList =
      joined (fill (parts (endpoint .documentInfo)) [id]) := by
  rfl

theorem document_written {spec : DocumentLifecycle.DocumentReadSpec}
    (h : DocumentLifecycle.buildDocumentReadSpec type payload = .ok spec) :
    Written type payload spec.target.toList ∧ InScope type spec.target.toList := by
  obtain ⟨normalized, hvalid, hspec⟩ := bind_eq_ok.mp h
  cases type with
  | documentList =>
    obtain ⟨limit, -, hspec⟩ := bind_eq_ok.mp hspec
    obtain rfl := Except.ok.inj hspec
    dsimp only [DocumentLifecycle.query]
    refine ⟨written_endpoint rfl, inScope_withQuery Url.quoting_quote rfl (by simp) ?_⟩
    simp [scopeOf, Url.valuesOf_append, Url.valuesOf_cons, Url.valuesOf_map, valuesOf_namedPair]
  | documentInfo =>
    obtain rfl := Except.ok.inj hspec
    dsimp only [DocumentLifecycle.query]
    obtain ⟨hkept, htext, -⟩ := ObjectContract.required_get (by decide) hvalid List.mem_cons_self
      (DocumentLifecycle.documentId_tests _)
    rw [hkept]
    refine ⟨written_withQuery ?_ (.cons (identifies_quote htext) .nil), inScope_of_nil rfl⟩
    simp only [String.toList_append, String.toList_ofList]
    exact documentInfo_path _
  | documentCises =>
    obtain rfl := Except.ok.inj hspec
    dsimp only [DocumentLifecycle.query]
    obtain ⟨-, -, hgroup⟩ := ObjectContract.defaulted_get (by decide) hvalid
      (List.mem_cons_of_mem _ List.mem_cons_self) DocumentLifecycle.productGroup_tests
    obtain ⟨text, hmem, hgiven⟩ := isOneOf_eq_true.mp hgroup
    obtain rfl := List.mem_singleton.mp hmem
    refine ⟨written_endpoint rfl, inScope_withQuery Url.quoting_quote rfl (by simp) ?_⟩
    simp [scopeOf, Url.valuesOf_cons, hgiven, strText, Json.str?]
  | _ => cases hvalid

/-- The path of a participant. -/
theorem participant_path (id : List Char) : "/api/v4/true-api/edo/inn/".toList ++ id =
    joined (fill (parts (endpoint .edoParticipant)) [id]) :=
  (List.append_nil _).symm

theorem edo_written {fields : List (String × Json)} {spec : EdoLite.EdoReadSpec}
    (h : EdoLite.buildEdoReadSpec type fields = .ok spec) :
    Written type (.obj fields) spec.target.toList ∧ InScope type spec.target.toList := by
  obtain ⟨canonical, hvalid, h⟩ := bind_eq_ok.mp h
  obtain ⟨⟨⟩, -, hspec⟩ := bind_eq_ok.mp h
  cases type with
  | edoParticipant =>
    obtain rfl := Except.ok.inj hspec
    obtain ⟨hkept, hinn⟩ := ObjectContract.required_get (by decide) hvalid List.mem_cons_self
      (checkThat_tests _ _)
    refine ⟨written_path ?_ (.cons (identifies_inn hinn) .nil), inScope_of_nil rfl⟩
    rw [hkept, String.toList_append]
    exact participant_path _
  | edoOutgoingList | edoIncomingList =>
    obtain ⟨limit, -, hspec⟩ := bind_eq_ok.mp hspec
    obtain ⟨offset, -, hspec⟩ := bind_eq_ok.mp hspec
    obtain ⟨named, -, hspec⟩ := bind_eq_ok.mp hspec
    obtain rfl := Except.ok.inj hspec
    refine ⟨written_withQuery ?_ .nil, inScope_of_nil rfl⟩
    decide +kernel
  | edoOutgoingContent | edoIncomingContent | edoOutgoingPrint | edoIncomingPrint
  | edoOutgoingMchd | edoIncomingMchd =>
    obtain ⟨did, hdid, hspec⟩ := bind_eq_ok.mp hspec
    obtain rfl := Except.ok.inj hspec
    obtain ⟨hkept, -⟩ := ObjectContract.required_get (by decide) hvalid List.mem_cons_self
      (EdoLite.opaqueRemoteId_tests _)
    rw [hkept] at hdid
    obtain ⟨htext, hdid⟩ := EdoLite.pathId_eq_ok hdid
    refine ⟨written_path ?_ (.cons (identifies_quote htext) .nil), inScope_of_nil rfl⟩
    simp only [String.toList_append, hdid]
    rfl
  | edoOutgoingLegalZip | edoIncomingLegalZip =>
    obtain ⟨did, hdid, hspec⟩ := bind_eq_ok.mp hspec
    obtain rfl := Except.ok.inj hspec
    obtain ⟨hkept, -⟩ := ObjectContract.required_get (by decide) hvalid List.mem_cons_self
      (EdoLite.opaqueRemoteId_tests _)
    rw [hkept] at hdid
    obtain ⟨htext, hdid⟩ := EdoLite.pathId_eq_ok hdid
    refine ⟨written_path ?_ (.cons (identifies_quote htext) .nil), inScope_of_nil rfl⟩
    simp only [String.toList_append, hdid]
    exact (List.append_nil _).symm
  | edoOutgoingUnsignedEvents | edoIncomingUnsignedEvents =>
    obtain rfl := Except.ok.inj hspec
    refine ⟨written_path ?_ .nil, inScope_of_nil rfl⟩
    decide +kernel
  | edoEventContent =>
    obtain ⟨did, hdid, hspec⟩ := bind_eq_ok.mp hspec
    obtain ⟨eid, heid, hspec⟩ := bind_eq_ok.mp hspec
    obtain rfl := Except.ok.inj hspec
    obtain ⟨hdocument, -⟩ := ObjectContract.required_get (by decide) hvalid List.mem_cons_self
      (EdoLite.opaqueRemoteId_tests _)
    obtain ⟨hevent, -⟩ := ObjectContract.required_get (by decide) hvalid
      (List.mem_cons_of_mem _ List.mem_cons_self) (EdoLite.opaqueRemoteId_tests _)
    rw [hdocument] at hdid
    rw [hevent] at heid
    obtain ⟨htext, hdid⟩ := EdoLite.pathId_eq_ok hdid
    obtain ⟨hother, heid⟩ := EdoLite.pathId_eq_ok heid
    refine ⟨written_path ?_ (.cons (identifies_quote htext) (.cons (identifies_quote hother) .nil)),
      inScope_of_nil rfl⟩
    simp only [String.toList_append, List.append_assoc, hdid, heid]
    rfl
  | edoOutgoingReceipt | edoIncomingReceipt =>
    obtain ⟨did, hdid, hspec⟩ := bind_eq_ok.mp hspec
    obtain ⟨receipt, hreceipt, hspec⟩ := bind_eq_ok.mp hspec
    obtain rfl := Except.ok.inj hspec
    obtain ⟨hdocument, -⟩ := ObjectContract.required_get (by decide) hvalid List.mem_cons_self
      (EdoLite.opaqueRemoteId_tests _)
    obtain ⟨htype, -⟩ := ObjectContract.required_get (by decide) hvalid
      (List.mem_cons_of_mem _ List.mem_cons_self) (checkThat_tests _ _)
    rw [hdocument] at hdid
    rw [htype] at hreceipt
    obtain ⟨htext, hdid⟩ := EdoLite.pathId_eq_ok hdid
    obtain ⟨hother, hreceipt⟩ := EdoLite.pathId_eq_ok hreceipt
    refine ⟨written_path ?_ (.cons (identifies_quote htext) (.cons (identifies_quote hother) .nil)),
      inScope_of_nil rfl⟩
    have hlast := hreceipt.trans (List.append_nil _).symm
    simp only [String.toList_append, List.append_assoc, hdid, hlast]
    rfl
  | edoGisProcessing =>
    obtain rfl := Except.ok.inj hspec
    exact ⟨written_endpoint rfl, inScope_of_nil rfl⟩
  | _ => cases hvalid

theorem dispenser_written {spec : ReportPayloads.DispenserRequestSpec}
    (h : ReportPayloads.buildDispenserSpec type payload = .ok spec) :
    Written type payload spec.target.toList ∧ InScope type spec.target.toList := by
  obtain ⟨p, hvalid, hspec⟩ := bind_eq_ok.mp h
  cases type with
  | reportCreate =>
    obtain ⟨body, -, hspec⟩ := bind_eq_ok.mp hspec
    obtain rfl := Except.ok.inj hspec
    dsimp only [ReportPayloads.specOf]
    exact ⟨written_endpoint rfl, inScope_of_nil rfl⟩
  | reportTaskList | reportResults =>
    obtain ⟨page, -, hspec⟩ := bind_eq_ok.mp hspec
    obtain ⟨size, -, hspec⟩ := bind_eq_ok.mp hspec
    obtain rfl := Except.ok.inj hspec
    dsimp only [ReportPayloads.specOf]
    exact ⟨written_endpoint rfl, inScope_of_nil rfl⟩
  | reportQuotaType =>
    obtain rfl := Except.ok.inj hspec
    dsimp only [ReportPayloads.specOf]
    exact ⟨written_endpoint rfl, inScope_of_nil rfl⟩
  | reportTaskGet | reportDownload | reportQuotaId =>
    obtain rfl := Except.ok.inj hspec
    dsimp only [ReportPayloads.specOf]
    obtain ⟨hkept, htoken⟩ := ObjectContract.required_get (by decide) hvalid
      (List.mem_cons_of_mem _ List.mem_cons_self) (ReportPayloads.opaqueId_tests _)
    refine ⟨written_withQuery ?_ (.cons (identifies_token htoken) .nil), inScope_of_nil rfl⟩
    rw [hkept, ReportPayloads.filledPath, String.toList_ofList]
    rfl
  | _ => cases hvalid

end Families

/-- What the contracts of a job have given they give again: a payload may be validated by the web
service, the broker and the agent in turn. -/
theorem payloads_stable (type : AgentJobType) :
    (∀ payload normalized, CisInventory.validateM1JobPayload type payload = .ok normalized →
      CisInventory.validateM1JobPayload type normalized = .ok normalized) ∧
    (∀ payload normalized, DocumentLifecycle.validateM4JobPayload type payload = .ok normalized →
      DocumentLifecycle.validateM4JobPayload type normalized = .ok normalized) ∧
    ∀ payload normalized, ReportPayloads.validateReportAgentPayload type payload = .ok normalized →
      ReportPayloads.validateReportAgentPayload type normalized = .ok normalized :=
  ⟨fun _ _ h => (CisInventory.validateM1JobPayload_stable type _ _ h).1,
    fun _ _ h => (DocumentLifecycle.validateM4JobPayload_stable type _ _ h).1,
    fun _ _ h => (ReportPayloads.validateReportAgentPayload_stable type _ _ h).1⟩

end Wbcz.Targets

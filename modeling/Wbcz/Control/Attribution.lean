import Wbcz.Control.Checks

/-!
# To which code a batch attributes a state

A batch gives a code the state of the item at its position. The single code is read from the
same item with more care: an echo of another code is refused, and fields under their second
names count. This module says for which responses a decision to write from a batch is the
decision of the single path.
-/

namespace Wbcz.Control

open CisInventory ControlEngine

/-- The information about a code in an item of the response. -/
def infoOf (item : Json) : Fields :=
  match item.get "cisInfo" with
  | .obj info => info
  | _ => []

/-- The item carries information and no error. -/
def usable (item : Json) : Bool :=
  (item.get "cisInfo").isObj && (item.get "errorCode").isNull && (item.get "errorMessage").isNull

/-- The item at a position, where it is one that speaks about the code. -/
def itemFor (kiz : String) (pair : String × Json) : Option Json :=
  if pair.1 = kiz ∧ usable pair.2 then some pair.2 else none

/-- The codes that are asked for. -/
def codesOf (requested : List String) : List String :=
  match validateCises requested with
  | .ok codes => codes
  | .error _ => []

/-- The items of a response. -/
def itemsOf : Json → List Json
  | .arr items => items
  | _ => []

/-- The item the state of a code is taken from: of the items at the positions of the code that
carry information and no error, the last one. -/
def sourceItem (containerText : Json → String) (requested : List String) (payload : Json)
    (kiz : String) : Option Json :=
  match parseSuccessPayload containerText requested payload with
  | .error _ => none
  | .ok _ => (((codesOf requested).zip (itemsOf payload)).filterMap (itemFor kiz)).getLast?

/-- The result that the agent sends for the response of a batch. -/
def BatchResult (containerText : Json → String) (requested : List String) (payload : Json)
    (result : AgentResult) : Prop :=
  match parseSuccessPayload containerText requested payload with
  | .ok parsed => result.outcome = "READ_COMPLETED" ∧ result.readResult = parsed
  | .error _ => result.outcome = "MANUAL_REVIEW" ∧ result.readResult = .null

/-- The single path, for the same row and the item of the response, comes to the outcome. -/
def SinglePathDecides (containerText : Json → String) (ownInn : String) (row : EventRecord)
    (item : Json) (outcome : Outcome) : Prop :=
  ∀ job : AgentJob, job.cises = [row.event.kiz] →
    ∃ result, cisCheck containerText job [item] = .ok result ∧
      singleOutcome ownInn result row = outcome

/-- The information carries no error of its own. -/
def CarriesNoError (info : Fields) : Prop :=
  (field info "errorCode").truthy = false ∧ (field info "errorMessage").truthy = false

/-- Every decision to write that a batch makes of the response is the decision of the single path
for the item the state was taken from, and that item carries no error. -/
def BatchAgrees (containerText : Json → String) (requested : List String) (payload : Json) : Prop :=
  ∀ result, BatchResult containerText requested payload result →
    ∀ ownInn existing rows checks,
      applyControlCisBatch containerText ownInn requested result existing rows = .ok checks →
      ∀ check ∈ checks, check.outcome.decision.isReady →
        ∃ row ∈ rows, row.eventId = check.eventId ∧
          ∃ item, sourceItem containerText requested payload row.event.kiz = some item ∧
            SinglePathDecides containerText ownInn row item check.outcome ∧
            CarriesNoError (infoOf item)

/-- No reason of a withdrawal is given. -/
def noReason (reason : Json) : Bool := reason.str? = none || reason.str? = some ""

/-- What the fields the batch reads have to be for a decision to write. -/
structure AllowsWrite (containerText : Json → String) (info : Fields) : Prop where
  owner : ∃ inn, (field info "ownerInn").str? = some inn ∧ validateOwnerInn inn = .ok ()
  group : isLp (productGroupOf (field info "productGroup"))
  statusEx : blankStatusEx containerText (field info "statusEx")
  status : statusOf containerText (field info "status") = "IN_CIRCULATION" ∧
      noReason (field info "withdrawReason") ∨
    statusOf containerText (field info "status") = "WITHDRAWN" ∧
      (field info "withdrawReason").str? = some "DISTANCE"

/-- The information echoes no other code. -/
def EchoesOnly (kiz : String) (info : Fields) : Prop :=
  ∀ echo, (echoed info).str? = some echo → echo = kiz

/-- The information echoes no other code, and no field under its second name speaks against a
write where the batch misses the first. -/
structure SpeaksFor (containerText : Json → String) (kiz : String) (info : Fields) : Prop where
  echo : EchoesOnly kiz info
  group : isLp (productGroupOf (fieldOr info "productGroup" "product_group"))
  statusEx : blankStatusEx containerText (fieldOr info "statusEx" "status_ex")
  reason : statusOf containerText (field info "status") = "IN_CIRCULATION" →
    noReason (fieldOr info "withdrawReason" "withdraw_reason")

/-! ### What the batch reads -/

section Batch

variable {containerText : Json → String} {requested : List String} {payload : Json}

/-- The state that the batch makes of the information in an item. -/
def batchState (containerText : Json → String) (info : Fields) : KiState where
  status := statusOf containerText (field info "status")
  statusEx := statusExOf containerText (field info "statusEx")
  withdrawReason := (field info "withdrawReason").str?
  ownerInn := (field info "ownerInn").str?
  productGroup := some (productGroupOf (field info "productGroup"))

theorem isNull_iff {value : Json} : value.isNull = true ↔ value = .null := by
  cases value <;> simp [Json.isNull]

theorem textOf_eq_none_iff {value : Json} :
    textOf containerText value = none ↔ value.isNull = true := by
  cases value <;> simp [textOf, Json.isNull]

/-- The fields of the result item that the server reads. -/
theorem resultItem_fields (wire : TrueApiCisInfoWire) :
    (resultItem wire).isObj = true ∧
      field (objectField (resultItem wire) "wire") "requested_cis" = .str wire.requestedCis ∧
      (resultItem wire).get "normalized" = ofFields? (normalizedInfo wire) ∧
      (resultItem wire).get "item_error" =
        if wire.errorCode.isSome ∨ wire.errorMessage.isSome then
          .obj [("code", .ofText? wire.errorCode), ("message", .ofText? wire.errorMessage)]
        else .null := by
  refine ⟨rfl, rfl, rfl, rfl⟩

theorem textOrEmpty_str (text : String) : textOrEmpty containerText (.str text) = text := by
  by_cases h : text = ""
  · simp [textOrEmpty, Json.truthy, h]
  · simp [textOrEmpty, Json.truthy, h, pyStr]

/-- The batch reads a normalized copy by its second names. -/
theorem decisionState_normalized {info : Fields} {wire : TrueApiCisInfoWire}
    {normalized : Fields} (hinfo : wire.cisInfo = some info)
    (h : normalizedInfo wire = some normalized) :
    decisionStateFromCisInfo containerText normalized = batchState containerText info := by
  rw [normalizedInfo, hinfo] at h
  cases h
  rfl

/-- The state of the item that stands for a usable item of the response. -/
theorem itemState_resultItem {cis : String} {item : Json} {wire : TrueApiCisInfoWire}
    (h : wireInfo containerText cis item = .ok wire) :
    itemState containerText requested (resultItem wire) =
      if cis ∈ requested ∧ usable item then some (cis, batchState containerText (infoOf item))
      else none := by
  cases item with
  | obj raw =>
    obtain rfl := Except.ok.inj h
    obtain ⟨hobj, hcis, hnormalized, herror⟩ := resultItem_fields
      ⟨cis, dictOrNone (field raw "cisInfo"), textOf containerText (field raw "errorCode"),
        textOf containerText (field raw "errorMessage"), raw⟩
    have herrors : ((resultItem ⟨cis, dictOrNone (field raw "cisInfo"),
        textOf containerText (field raw "errorCode"),
        textOf containerText (field raw "errorMessage"), raw⟩).get "item_error").truthy = false ↔
          (field raw "errorCode").isNull = true ∧ (field raw "errorMessage").isNull = true := by
      rw [herror, ← @textOf_eq_none_iff containerText, ← @textOf_eq_none_iff containerText]
      cases textOf containerText (field raw "errorCode") <;>
        cases textOf containerText (field raw "errorMessage") <;> simp [Json.truthy]
    have huse : usable (.obj raw) = true ↔ (field raw "cisInfo").isObj = true ∧
        (field raw "errorCode").isNull = true ∧ (field raw "errorMessage").isNull = true := by
      simp only [usable, Bool.and_eq_true, and_assoc]
      rfl
    rw [itemState, if_pos hobj, hcis, hnormalized, textOrEmpty_str]
    cases hinfo : field raw "cisInfo" with
    | obj info =>
      have hread : infoOf (.obj raw) = info := by
        have hget : (Json.obj raw).get "cisInfo" = .obj info := hinfo
        rw [infoOf, hget]
      have hstate := @decisionState_normalized containerText info
        ⟨cis, dictOrNone (.obj info), textOf containerText (field raw "errorCode"),
          textOf containerText (field raw "errorMessage"), raw⟩ _ rfl rfl
      rw [hinfo] at herrors huse
      simp only [normalizedInfo, dictOrNone, Option.map_some, ofFields?, Bool.not_eq_true, hread,
        huse] at hstate herrors ⊢
      simp only [hstate, herrors, Json.isObj, true_and]
    | _ =>
      rw [if_neg (fun hcase => by simp [huse, hinfo, Json.isObj] at hcase)]
      rfl
  | _ => cases h

theorem mapM_cons_eq_ok {α β : Type} {f : α → Except PyError β} {a : α} {l : List α} {bs : List β}
    (h : (a :: l).mapM f = .ok bs) :
    ∃ b rest, f a = .ok b ∧ l.mapM f = .ok rest ∧ bs = b :: rest := by
  rw [List.mapM_cons] at h
  cases hb : f a with
  | error e =>
    rw [hb] at h
    cases h
  | ok b =>
    cases hrest : l.mapM f with
    | error e =>
      rw [hb, hrest] at h
      cases h
    | ok rest =>
      rw [hb, hrest] at h
      exact ⟨b, rest, rfl, rfl, (Except.ok.inj h).symm⟩

/-- Reading the items one after the other, the last usable one at a position of a code gives the
code its state, and any such item takes it off the failures. -/
theorem foldl_add (pairs : List (String × Json)) (wires : List TrueApiCisInfoWire)
    (acc : BatchStates) {kiz : String} (hkiz : kiz ∈ requested)
    (h : pairs.mapM (fun pair => wireInfo containerText pair.1 pair.2) = .ok wires) :
    ((wires.map resultItem).foldl (BatchStates.add containerText requested) acc).states kiz =
        ((pairs.filterMap (itemFor kiz)).getLast?.map
          fun item => batchState containerText (infoOf item)).or (acc.states kiz) ∧
      (kiz ∈ ((wires.map resultItem).foldl (BatchStates.add containerText requested)
          acc).failures ↔
        kiz ∈ acc.failures ∧ (pairs.filterMap (itemFor kiz)).getLast? = none) := by
  induction pairs generalizing acc wires with
  | nil =>
    cases h
    simp
  | cons pair pairs ih =>
    obtain ⟨wire, rest, hwire, hrest, rfl⟩ := mapM_cons_eq_ok h
    obtain ⟨hstates, hfailures⟩ :=
      ih rest (acc.add containerText requested (resultItem wire)) hrest
    simp only [List.map_cons, List.foldl_cons]
    rw [hstates, hfailures, BatchStates.add, itemState_resultItem hwire]
    by_cases hitem : pair.1 = kiz ∧ usable pair.2
    · have hfor : itemFor kiz pair = some pair.2 := if_pos hitem
      have hmem : pair.1 ∈ requested := hitem.1.symm ▸ hkiz
      rw [List.filterMap_cons_some hfor, List.getLast?_cons, if_pos ⟨hmem, hitem.2⟩]
      cases (pairs.filterMap (itemFor kiz)).getLast? <;> simp [hitem.1]
    · have hfor : itemFor kiz pair = none := if_neg hitem
      rw [List.filterMap_cons_none hfor]
      by_cases htaken : pair.1 ∈ requested ∧ usable pair.2
      · have hother : kiz ≠ pair.1 := fun heq => hitem ⟨heq.symm, htaken.2⟩
        rw [if_pos htaken]
        simp [hother]
      · rw [if_neg htaken]
        exact ⟨rfl, Iff.rfl⟩

theorem parseSuccessPayload_eq_ok {parsed : Json}
    (h : parseSuccessPayload containerText requested payload = .ok parsed) :
    ∃ wires, ((codesOf requested).zip (itemsOf payload)).mapM
        (fun pair => wireInfo containerText pair.1 pair.2) = .ok wires ∧
      parsed = .obj [("type", .str "CIS_INFO"), ("items", .arr (wires.map resultItem)),
        ("partial_item_errors_supported", .bool true)] := by
  unfold parseSuccessPayload at h
  cases hcodes : validateCises requested with
  | error e => simp [hcodes, bind, Except.bind] at h
  | ok codes =>
    cases payload with
    | arr items =>
      simp only [hcodes, bind, Except.bind] at h
      split_ifs at h
      cases hwires : (codes.zip items).mapM
          fun pair => wireInfo containerText pair.1 pair.2 with
      | error e => simp [hwires] at h
      | ok wires =>
        refine ⟨wires, ?_, ?_⟩
        · rw [codesOf, hcodes]
          exact hwires
        · simp only [hwires] at h
          exact (Except.ok.inj h).symm
    | _ => simp [hcodes, bind, Except.bind] at h

/-- What the server reads from the result of a batch. -/
theorem batchStates_eq {result : AgentResult} {kiz : String}
    (hresult : BatchResult containerText requested payload result) (hkiz : kiz ∈ requested) :
    (batchStates containerText requested result).states kiz =
        (sourceItem containerText requested payload kiz).map
          (fun item => batchState containerText (infoOf item)) ∧
      (kiz ∈ (batchStates containerText requested result).failures ↔
        sourceItem containerText requested payload kiz = none) := by
  unfold BatchResult at hresult
  unfold sourceItem
  cases hparse : parseSuccessPayload containerText requested payload with
  | error e =>
    simp only [hparse] at hresult ⊢
    have hunread : ¬ (result.outcome = "READ_COMPLETED" ∧
        (result.readResult.get "type").str? = some "CIS_INFO") := by
      simp [hresult.1]
    rw [batchStates, if_neg hunread]
    simp [hkiz]
  | ok parsed =>
    simp only [hparse] at hresult ⊢
    obtain ⟨wires, hwires, rfl⟩ := parseSuccessPayload_eq_ok hparse
    have hread : result.outcome = "READ_COMPLETED" ∧
        (result.readResult.get "type").str? = some "CIS_INFO" := by
      rw [hresult.2]
      exact ⟨hresult.1, rfl⟩
    have hitems : resultItems result.readResult = wires.map resultItem := by
      rw [hresult.2]
      rfl
    obtain ⟨hstates, hfailures⟩ := foldl_add ((codesOf requested).zip (itemsOf payload)) wires
      ⟨fun _ => none, requested⟩ hkiz hwires
    rw [batchStates, if_pos hread, hitems]
    refine ⟨hstates.trans (by simp), hfailures.trans (by simp [hkiz])⟩

theorem exists_of_mem_mapM {α β : Type} {f : α → Except PyError β} {l : List α} {bs : List β}
    {b : β} (h : l.mapM f = .ok bs) (hb : b ∈ bs) : ∃ a ∈ l, f a = .ok b := by
  induction l generalizing bs with
  | nil =>
    cases h
    cases hb
  | cons a l ih =>
    obtain ⟨b', rest, hb', hrest, rfl⟩ := mapM_cons_eq_ok h
    rcases List.mem_cons.mp hb with rfl | hmem
    · exact ⟨a, List.mem_cons_self, hb'⟩
    · obtain ⟨a', ha', hfa'⟩ := ih hrest hmem
      exact ⟨a', List.mem_cons_of_mem a ha', hfa'⟩

/-- A decision to write of a batch is one on the state of the item of the code. -/
theorem ready_of_batch {result : AgentResult} {ownInn : String} {existing : List String}
    {rows : List EventRecord} {checks : List CheckRecord} {check : CheckRecord}
    (hresult : BatchResult containerText requested payload result)
    (happly : applyControlCisBatch containerText ownInn requested result existing rows = .ok checks)
    (hcheck : check ∈ checks) (hready : check.outcome.decision.isReady) :
    ∃ row ∈ rows, row.eventId = check.eventId ∧ row.event.kiz ∈ requested ∧
      row.sequence = .effective ∧
      ∃ item, sourceItem containerText requested payload row.event.kiz = some item ∧
        decide row.event (batchState containerText (infoOf item)) ownInn = .ok check.outcome := by
  obtain ⟨row, hrow, hchecked⟩ := exists_of_mem_mapM happly hcheck
  obtain ⟨hmem, hselected⟩ := List.mem_filter.mp hrow
  have hkiz : row.event.kiz ∈ requested := (of_decide_eq_true hselected).2
  obtain ⟨hstates, hfailures⟩ := batchStates_eq hresult hkiz
  cases hout : batchOutcome ownInn result (batchStates containerText requested result) row with
  | error e => simp [hout, Except.map] at hchecked
  | ok outcome =>
    rw [hout] at hchecked
    obtain rfl := Except.ok.inj hchecked
    simp only at hready
    unfold batchOutcome at hout
    cases hsequence : row.sequence with
    | superseded =>
      rw [hsequence] at hout
      cases hout
      cases hready
    | ambiguous =>
      rw [hsequence] at hout
      cases hout
      cases hready
    | effective =>
      simp only [hsequence, sequenceOutcome, hstates, hfailures] at hout
      cases hsource : sourceItem containerText requested payload row.event.kiz with
      | none =>
        rw [hsource] at hout
        cases hout
        cases hready
      | some item =>
        rw [hsource] at hout
        exact ⟨row, hmem, rfl, hkiz, hsequence, item, hsource, by simpa using hout⟩

end Batch

/-! ### What a state read from a response permits -/

section State

variable {containerText : Json → String} {status statusEx reason owner group : Json}
  {event : Event} {ownInn : String} {o : Outcome}

/-- A state as it is read from five values of a response. -/
def readState (containerText : Json → String) (status statusEx reason owner group : Json) :
    KiState where
  status := statusOf containerText status
  statusEx := statusExOf containerText statusEx
  withdrawReason := reason.str?
  ownerInn := owner.str?
  productGroup := some (productGroupOf group)

theorem batchState_eq (info : Fields) :
    batchState containerText info = readState containerText (field info "status")
      (field info "statusEx") (field info "withdrawReason") (field info "ownerInn")
      (field info "productGroup") := rfl

theorem unknown_ne {text : String} : "UNKNOWN:" ++ text ≠ "" ∧
    "UNKNOWN:" ++ text ≠ "IN_CIRCULATION" ∧ "UNKNOWN:" ++ text ≠ "WITHDRAWN" := by
  have hhead : ("UNKNOWN:" ++ text).toList.head? = some 'U' := by
    rw [String.toList_append]
    rfl
  refine ⟨?_, ?_, ?_⟩ <;>
  · intro h
    rw [h] at hhead
    exact absurd hhead (by decide)

theorem noReason_iff : noReason reason = true ↔ reason.str? = none ∨ reason.str? = some "" := by
  simp [noReason]

/-- A special status is compatible with a status that permits a write only when it is blank. -/
theorem blankOr_statusExOf {text : String} (h : text = "IN_CIRCULATION" ∨ text = "WITHDRAWN") :
    blankOr (statusExOf containerText statusEx) text = true ↔
      blankStatusEx containerText statusEx = true := by
  unfold statusExOf
  split_ifs with hblank
  · simp [blankOr, hblank]
  · have hne := @unknown_ne (pyStr containerText statusEx)
    rcases h with rfl | rfl
    · simp [blankOr, hblank, hne.1, hne.2.1]
    · simp [blankOr, hblank, hne.1, hne.2.2]

/-- The status, the reason and the row, as they have to be for a decision to write. -/
def Calls (containerText : Json → String) (status reason : Json) (event : Event) (o : Outcome) :
    Prop :=
  (statusOf containerText status = "IN_CIRCULATION" ∧ noReason reason ∧ event.operation = .sale ∧
      event.legalEntitySale = some false ∧ hasSaleReceiptEvidence event ∧
      o = ⟨.readyToWithdraw, "SALE_IN_CIRCULATION", none⟩) ∨
    (statusOf containerText status = "WITHDRAWN" ∧ reason.str? = some "DISTANCE" ∧
      event.operation = .return ∧ o = ⟨.readyToReturn, "RETURN_WITHDRAWN_DISTANCE", none⟩)

theorem permits_readState_iff :
    Permits event (readState containerText status statusEx reason owner group) o ↔
      Calls containerText status reason event o := by
  constructor
  · intro h
    cases h with
    | withdraw hstatus hreason hoperation hbuyer hevidence =>
      exact .inl ⟨hstatus, noReason_iff.mpr hreason, hoperation, hbuyer, hevidence rfl, rfl⟩
    | «return» hstatus hreason hoperation => exact .inr ⟨hstatus, hreason, hoperation, rfl⟩
  · rintro (⟨hstatus, hreason, hoperation, hbuyer, hevidence, rfl⟩ |
      ⟨hstatus, hreason, hoperation, rfl⟩)
    · exact .withdraw hstatus (noReason_iff.mp hreason) hoperation hbuyer fun _ => hevidence
    · exact .return hstatus hreason hoperation

/-- A decision to write on a state read from a response, by the values it was read from. -/
theorem decide_readState_iff :
    (decide event (readState containerText status statusEx reason owner group) ownInn = .ok o ∧
        o.decision.isReady) ↔
      validateOwnerInn ownInn = .ok () ∧ owner.str? = some ownInn ∧
        isLp (productGroupOf group) ∧ blankStatusEx containerText statusEx ∧
        Calls containerText status reason event o := by
  rw [decide_ready_iff, permits_readState_iff]
  constructor
  · rintro ⟨howned, hcalls⟩
    have hstatus : statusOf containerText status = "IN_CIRCULATION" ∨
        statusOf containerText status = "WITHDRAWN" := hcalls.imp And.left And.left
    exact ⟨howned.inn, howned.owner, by simpa [readState, wrongProductGroup] using howned.group,
      (blankOr_statusExOf hstatus).mp howned.statusEx, hcalls⟩
  · rintro ⟨hinn, howner, hgroup, hblank, hcalls⟩
    have hstatus : statusOf containerText status = "IN_CIRCULATION" ∨
        statusOf containerText status = "WITHDRAWN" := hcalls.imp And.left And.left
    exact ⟨⟨hinn, by simpa [readState, wrongProductGroup] using hgroup, howner,
      (blankOr_statusExOf hstatus).mpr hblank⟩, hcalls⟩

end State

/-! ### The single path -/

section Single

variable {containerText : Json → String} {item : Json} {kiz ownInn : String} {row : EventRecord}
  {o : Outcome}

theorem normalize_of_usable (h : usable item) :
    (EchoesOnly kiz (infoOf item) → TrueApiCisesInfoAdapter.normalize containerText kiz item =
        .ok (decisionStateFromCisInfo containerText (infoOf item))) ∧
      (∀ state, TrueApiCisesInfoAdapter.normalize containerText kiz item = .ok state →
        EchoesOnly kiz (infoOf item)) := by
  obtain ⟨⟨hinfo, hcode⟩, hmessage⟩ : ((item.get "cisInfo").isObj = true ∧
      (item.get "errorCode").isNull = true) ∧ (item.get "errorMessage").isNull = true := by
    simpa [usable] using h
  cases item with
  | obj raw =>
    cases hcis : Json.lookup raw "cisInfo" with
    | none => simp [Json.get, Json.get?, hcis, Json.isObj] at hinfo
    | some value =>
      cases value with
      | obj info =>
        have hread : infoOf (.obj raw) = info := by
          simp [infoOf, Json.get, Json.get?, hcis]
        have hnoError : ((field raw "errorCode").truthy || (field raw "errorMessage").truthy) =
            false := by
          have hcode' : field raw "errorCode" = .null := isNull_iff.mp hcode
          have hmessage' : field raw "errorMessage" = .null := isNull_iff.mp hmessage
          rw [hcode', hmessage']
          rfl
        unfold TrueApiCisesInfoAdapter.normalize EchoesOnly
        simp only [hnoError, hcis, Option.getD_some, hread]
        cases hecho : (echoed info).str? with
        | none => simp
        | some echo =>
          by_cases heq : echo = kiz
          · simp [heq]
          · simp [heq]
      | _ => simp [Json.get, Json.get?, hcis, Json.isObj] at hinfo
  | _ => simp [Json.get, Json.get?, Json.isObj] at hinfo

/-- A job to check one code. -/
def jobFor (kiz : String) : AgentJob where
  jobId := "job"
  jobType := .cisCheck
  operationId := "cis"
  pg := p0Pg
  expectedInn := ""
  cises := [kiz]

/-- The state of one code as the agent sends it. -/
def stateJson (kiz : String) (state : KiState) : Json :=
  .obj [("cis", .str kiz), ("status", .str state.status), ("statusEx", .ofText? state.statusEx),
    ("withdrawReason", .ofText? state.withdrawReason), ("ownerInn", .ofText? state.ownerInn),
    ("productGroup", .ofText? state.productGroup)]

theorem str?_ofText? (text : Option String) : (Json.ofText? text).str? = text := by
  cases text <;> rfl

theorem cisCheck_single {job : AgentJob} (hjob : job.cises = [kiz]) :
    cisCheck containerText job [item] =
      (TrueApiCisesInfoAdapter.normalize containerText kiz item).map fun state =>
      { jobId := job.jobId, operationId := job.operationId, outcome := "CIS_CHECKED",
        cises := [stateJson kiz state] } := by
  rw [cisCheck, hjob, if_neg (by simp)]
  simp only [List.zip_cons_cons, List.zip_nil_right, List.mapM_cons, List.mapM_nil]
  cases TrueApiCisesInfoAdapter.normalize containerText kiz item <;> rfl

/-- The state arrives as it was sent. -/
theorem singleState_stateJson {event : Event} {state : KiState} {result : AgentResult}
    (hstatus : state.status ≠ "") (houtcome : result.outcome = "CIS_CHECKED")
    (hcises : result.cises = [stateJson event.kiz state]) :
    singleState event result = .ok state := by
  have hcis : ((stateJson event.kiz state).get "cis").str? = some event.kiz := rfl
  have htruthy : ((stateJson event.kiz state).get "status").truthy = true := by
    simpa [stateJson, Json.get, Json.get?, Json.lookup, Json.truthy] using hstatus
  rw [singleState, hcises]
  simp only [houtcome, ne_eq, not_true_eq_false, if_false, hcis, htruthy, if_true]
  refine congrArg Except.ok ?_
  cases state
  congr 1
  all_goals exact str?_ofText? _

theorem decisionState_status_ne (info : Fields) :
    (decisionStateFromCisInfo containerText info).status ≠ "" := by
  show statusOf containerText (field info "status") ≠ ""
  unfold statusOf
  split
  · decide
  · decide
  · exact unknown_ne.1

/-- The decisions to write of the single path: those on the whole information, where it echoes no
other code. -/
theorem singlePathDecides_iff (husable : usable item) (hsequence : row.sequence = .effective)
    (hready : o.decision.isReady) :
    SinglePathDecides containerText ownInn row item o ↔
      EchoesOnly row.event.kiz (infoOf item) ∧
        decide row.event (decisionStateFromCisInfo containerText (infoOf item)) ownInn = .ok o := by
  obtain ⟨hreads, hechoes⟩ := @normalize_of_usable containerText item row.event.kiz husable
  have hsingle (state : KiState) (hstatus : state.status ≠ "") (jobId operationId : String) :
      singleOutcome ownInn
          { jobId := jobId
            operationId := operationId
            outcome := "CIS_CHECKED"
            cises := [stateJson row.event.kiz state] } row = o ↔
        decide row.event state ownInn = .ok o := by
    rw [singleOutcome, hsequence]
    simp only [sequenceOutcome, singleState_stateJson hstatus, Except.bind]
    cases hdecide : decide row.event state ownInn with
    | ok outcome => simp
    | error e =>
      simp only [reduceCtorEq, iff_false]
      rintro rfl
      cases hready
  constructor
  · intro h
    obtain ⟨result, hresult, hdecides⟩ := h (jobFor row.event.kiz) rfl
    rw [cisCheck_single rfl] at hresult
    cases hnormalize : TrueApiCisesInfoAdapter.normalize containerText row.event.kiz item with
    | error e => simp [hnormalize, Except.map] at hresult
    | ok state =>
      have hecho := hechoes state hnormalize
      rw [hreads hecho] at hresult
      obtain rfl := Except.ok.inj hresult
      exact ⟨hecho, (hsingle _ (decisionState_status_ne _) _ _).mp hdecides⟩
  · rintro ⟨hecho, hdecide⟩ job hjob
    refine ⟨_, ?_, (hsingle _ (decisionState_status_ne (infoOf item)) job.jobId
      job.operationId).mpr hdecide⟩
    rw [cisCheck_single hjob, hreads hecho]
    rfl

end Single

/-! ### Where the two paths agree -/

section Agreement

variable {containerText : Json → String} {requested : List String} {payload : Json}

theorem usable_of_sourceItem {kiz : String} {item : Json}
    (h : sourceItem containerText requested payload kiz = some item) : usable item = true := by
  unfold sourceItem at h
  cases hparse : parseSuccessPayload containerText requested payload with
  | error e => simp [hparse] at h
  | ok parsed =>
    rw [hparse] at h
    obtain ⟨pair, _, hfor⟩ := List.mem_filterMap.mp (List.mem_of_getLast? h)
    unfold itemFor at hfor
    split_ifs at hfor with hitem
    obtain rfl := Option.some.inj hfor
    exact hitem.2

/-- A row whose decision the information about its code decides. -/
def decisiveRow (kiz : String) (operation : Operation) : EventRecord where
  eventId := "event"
  event := ⟨kiz, operation, some "", some "receipt", some false⟩
  sequence := .effective

/-- Information that allows a write makes some row of the code one to write. -/
theorem exists_ready_of_allowsWrite {info : Fields} (kiz : String)
    (h : AllowsWrite containerText info) :
    ∃ operation ownInn o, o.decision.isReady = true ∧ (field info "ownerInn").str? = some ownInn ∧
      Calls containerText (field info "status") (field info "withdrawReason")
        (decisiveRow kiz operation).event o ∧
      decide (decisiveRow kiz operation).event (batchState containerText info) ownInn = .ok o := by
  obtain ⟨inn, howner, hinn⟩ := h.owner
  have hdecides (operation : Operation) (o : Outcome)
      (hcalls : Calls containerText (field info "status") (field info "withdrawReason")
        (decisiveRow kiz operation).event o) :
      decide (decisiveRow kiz operation).event (batchState containerText info) inn = .ok o :=
    (decide_readState_iff.mpr ⟨hinn, howner, h.group, h.statusEx, hcalls⟩).1
  rcases h.status with ⟨hstatus, hreason⟩ | ⟨hstatus, hreason⟩
  · have hcalls : Calls containerText (field info "status") (field info "withdrawReason")
        (decisiveRow kiz .sale).event ⟨.readyToWithdraw, "SALE_IN_CIRCULATION", none⟩ :=
      .inl ⟨hstatus, hreason, rfl, rfl, rfl, rfl⟩
    exact ⟨.sale, inn, _, rfl, howner, hcalls, hdecides .sale _ hcalls⟩
  · have hcalls : Calls containerText (field info "status") (field info "withdrawReason")
        (decisiveRow kiz .return).event ⟨.readyToReturn, "RETURN_WITHDRAWN_DISTANCE", none⟩ :=
      .inr ⟨hstatus, hreason, rfl, rfl⟩
    exact ⟨.return, inn, _, rfl, howner, hcalls, hdecides .return _ hcalls⟩

/-- What a decision of the batch rests on allows a write. -/
theorem allowsWrite_of_calls {info : Fields} {event : Event} {ownInn : String} {o : Outcome}
    (hready : o.decision.isReady)
    (h : decide event (batchState containerText info) ownInn = .ok o) :
    AllowsWrite containerText info ∧
      Calls containerText (field info "status") (field info "withdrawReason") event o ∧
      validateOwnerInn ownInn = .ok () ∧ (field info "ownerInn").str? = some ownInn := by
  obtain ⟨hinn, howner, hgroup, hblank, hcalls⟩ :=
    decide_readState_iff.mp ⟨h, hready⟩
  refine ⟨⟨⟨ownInn, howner, hinn⟩, hgroup, hblank, ?_⟩, hcalls, hinn, howner⟩
  exact hcalls.imp (fun hcase => ⟨hcase.1, hcase.2.1⟩) fun hcase => ⟨hcase.1, hcase.2.1⟩

theorem fieldOr_of_present {info : Fields} {key other text : String}
    (h : (field info key).str? = some text) : fieldOr info key other = field info key := by
  unfold fieldOr field at *
  cases hkey : Json.lookup info key with
  | none => simp [hkey, Json.str?] at h
  | some value => rfl

/-- With a decision of the batch, the single path decides the same exactly when the item speaks
for the code. -/
theorem decide_iff_of_batch {info : Fields} {event : Event} {ownInn kiz : String} {o : Outcome}
    (hready : o.decision.isReady)
    (h : decide event (batchState containerText info) ownInn = .ok o) :
    (EchoesOnly kiz info ∧
        decide event (decisionStateFromCisInfo containerText info) ownInn = .ok o) ↔
      SpeaksFor containerText kiz info := by
  obtain ⟨_, hcalls, hinn, howner⟩ := allowsWrite_of_calls hready h
  constructor
  · rintro ⟨hecho, hdecide⟩
    obtain ⟨_, _, hgroup, hblank, hwhole⟩ := decide_readState_iff.mp ⟨hdecide, hready⟩
    refine ⟨hecho, hgroup, hblank, fun hstatus => ?_⟩
    rcases hwhole with ⟨_, hreason, _⟩ | ⟨hwithdrawn, _⟩
    · exact hreason
    · exact absurd (hstatus.symm.trans hwithdrawn) (by decide)
  · intro hspeaks
    refine ⟨hspeaks.echo, (decide_readState_iff.mpr
      ⟨hinn, ?_, hspeaks.group, hspeaks.statusEx, ?_⟩).1⟩
    · rw [fieldOr_of_present howner]
      exact howner
    · rcases hcalls with ⟨hstatus, _, hrest⟩ | ⟨hstatus, hreason, hrest⟩
      · exact .inl ⟨hstatus, hspeaks.reason hstatus, hrest⟩
      · refine .inr ⟨hstatus, ?_, hrest⟩
        rw [fieldOr_of_present hreason]
        exact hreason

theorem exists_batchResult (containerText : Json → String) (requested : List String)
    (payload : Json) : ∃ result, BatchResult containerText requested payload result := by
  unfold BatchResult
  cases parseSuccessPayload containerText requested payload with
  | ok parsed =>
    exact ⟨{ jobId := "", operationId := "", outcome := "READ_COMPLETED", readResult := parsed },
      rfl, rfl⟩
  | error e => exact ⟨{ jobId := "", operationId := "", outcome := "MANUAL_REVIEW" }, rfl, rfl⟩

/-- A batch of one row decides it on the item of its code. -/
theorem applyControlCisBatch_single {result : AgentResult} {row : EventRecord} {item : Json}
    {ownInn : String} {o : Outcome}
    (hresult : BatchResult containerText requested payload result)
    (hkiz : row.event.kiz ∈ requested) (hsequence : row.sequence = .effective)
    (hsource : sourceItem containerText requested payload row.event.kiz = some item)
    (hdecide : decide row.event (batchState containerText (infoOf item)) ownInn = .ok o) :
    ∃ check, applyControlCisBatch containerText ownInn requested result [] [row] = .ok [check] ∧
      check.eventId = row.eventId ∧ check.outcome = o := by
  obtain ⟨hstates, hfailures⟩ := batchStates_eq hresult hkiz
  rw [hsource] at hstates hfailures
  have houtcome : batchOutcome ownInn result (batchStates containerText requested result) row =
      .ok o := by
    rw [batchOutcome, hsequence]
    simp only [sequenceOutcome, hstates, Option.map_some, hfailures, reduceCtorEq, if_false]
    exact hdecide
  refine ⟨⟨row.eventId, some (batchState containerText (infoOf item)), o⟩, ?_, rfl, rfl⟩
  have hselected : row.eventId ∉ ([] : List String) ∧ row.event.kiz ∈ requested :=
    ⟨List.not_mem_nil, hkiz⟩
  rw [applyControlCisBatch, List.filter_cons_of_pos (by simpa using hselected), List.filter_nil]
  simp only [List.mapM_cons, List.mapM_nil, houtcome, hstates, Except.map, Option.map_some]
  rfl

end Agreement

/-! ### A response in another order -/

/-- An item about a code in circulation. -/
def itemAbout (cis : String) : Json :=
  .obj [("cisInfo", .obj [("requestedCis", .str cis), ("cis", .str cis),
    ("status", .str "INTRODUCED"), ("ownerInn", .str "7700000000"), ("productGroup", .str "lp")])]

/-- Two codes that are asked for. -/
def twoCodes : List String := ["010460000000000001", "010460000000000002"]

/-- The answers for `twoCodes`, the second code first. -/
def swappedResponse : Json :=
  .arr [itemAbout "010460000000000002", itemAbout "010460000000000001"]

theorem sourceItem_swapped :
    sourceItem (fun _ => "") twoCodes swappedResponse "010460000000000001" =
      some (itemAbout "010460000000000002") := rfl

end Wbcz.Control

import Wbcz.Audit.Appends
import Wbcz.Audit.Keys
import Wbcz.Ledgers.Aggregation
import Wbcz.Lib.Transition

/-!
# Repeated requests to the operation ledgers

Both ledgers mean a request that comes again to converge: the row of the operation is
compared, and the immutable history is appended to under a key that depends on what was
recorded only. But the event under a key carries the ids of the HTTP request that made it.
-/

namespace Wbcz.Ledgers

open Function (update update_of_ne update_self)
open Fallible (bind_eq_ok exists_of_map_snd guard_eq_ok map_eq_ok toOption_eq_some)
open Wbcz.Audit (AuditAction AuditChain AuditEventRecord AuditStep Opened TraceContext)
open Wbcz.Web (TenantContext WebTables)

/-- The operations that record a document id or a reconciliation. -/
inductive LedgerCall where
  | recordTurnoverDocument (operationId documentId : String)
  | reconcileTurnover (call : LedgerState.TurnoverReconcileCall)
  | recordAggregationDocument (operationId documentId : String)
  | recordReconciliation (call : LedgerState.AggregationReconcileCall)

/-- What happens to the ledgers and to the audit chains. -/
inductive LedgerAction where
  | perform (request : LedgerRequest) (call : LedgerCall)
  | queueTurnover (request : LedgerRequest) (call : TurnoverQueueCall)
  | queueAggregation (request : LedgerRequest) (call : AggregationQueueCall)
  | audit (organisationId : String) (action : AuditAction)
  | other

section Steps

variable (runtime : Runtime)

/-- The operation in a request. -/
def LedgerCall.perform (request : LedgerRequest) (s : LedgerState) :
    LedgerCall → Except PyError LedgerState
  | recordTurnoverDocument operationId documentId =>
    s.recordTurnoverDocument runtime request operationId documentId
  | reconcileTurnover call => (s.reconcileTurnover runtime request call).map Prod.snd
  | recordAggregationDocument operationId documentId =>
    s.recordAggregationDocument runtime request operationId documentId
  | recordReconciliation call => s.recordReconciliation runtime request call

/-- The accepted operations of the two ledgers, the appends of all other services to the audit
chains, and whatever happens to the tables that the ledgers do not own. A refused operation
leaves everything as it was. -/
inductive LedgerStep : LedgerState → LedgerAction → LedgerState → Prop
  | perform {s s' : LedgerState} {request : LedgerRequest} {call : LedgerCall}
      (h : call.perform runtime request s = .ok s') : LedgerStep s (.perform request call) s'
  | queueTurnover {s s' : LedgerState} {request : LedgerRequest} {call : TurnoverQueueCall}
      {reply : QueueReply} (h : s.queueTurnover runtime request call = .ok (reply, s')) :
      LedgerStep s (.queueTurnover request call) s'
  | queueAggregation {s s' : LedgerState} {request : LedgerRequest} {call : AggregationQueueCall}
      {reply : QueueReply} (h : s.queueAggregation runtime request call = .ok (reply, s')) :
      LedgerStep s (.queueAggregation request call) s'
  | audit {s : LedgerState} {organisationId : String} {action : AuditAction} {chain : AuditChain}
      (h : AuditStep runtime.digests (some organisationId) (s.chains organisationId) action
        (some chain)) :
      LedgerStep s (.audit organisationId action)
        { s with chains := update s.chains organisationId (some chain) }
  | other {s : LedgerState} (web : WebTables) (auditLog : List AuditLog) :
      LedgerStep s .other { s with web := web, auditLog := auditLog }

/-- No operation has been queued and no chain opened. -/
def LedgerState.initial (web : WebTables) : LedgerState :=
  ⟨.empty, .empty, web, [], fun _ => none⟩

end Steps

/-! ## What every step keeps -/

/-- What a row says of the request that queued its operation. -/
def TurnoverOperationLedgerRecord.intent (row : TurnoverOperationLedgerRecord) :
    TurnoverOperationLedgerRecord :=
  LedgerState.TurnoverProgress.apply ⟨.pending, .obj [], none⟩ row

/-- What a row says of the request that queued its operation. -/
def AggregationOperationLedgerRecord.intent (row : AggregationOperationLedgerRecord) :
    AggregationOperationLedgerRecord :=
  LedgerState.AggregationProgress.apply ⟨.pending, none, .obj [], .arr [], none⟩ row

/-- The chains are opened ones. -/
def ChainsOpened (runtime : Runtime) (s : LedgerState) : Prop :=
  ∀ organisationId chain, s.chains organisationId = some chain → Opened runtime.digests chain

/-- The events of the chains are still there. -/
def EventsKept (chains chains' : String → Option AuditChain) : Prop :=
  ∀ organisationId chain, chains organisationId = some chain →
    ∃ chain', chains' organisationId = some chain' ∧ ∀ row ∈ chain.events, row ∈ chain'.events

/-- The operations of both ledgers are still there, with their intents, and so are the events
of the chains. -/
structure Extends (s s' : LedgerState) : Prop where
  turnover : ∀ id row, s.turnover.find? id = some row →
    ∃ row', s'.turnover.find? id = some row' ∧ row'.intent = row.intent
  aggregation : ∀ id row, s.aggregation.find? id = some row →
    ∃ row', s'.aggregation.find? id = some row' ∧ row'.intent = row.intent
  chains : EventsKept s.chains s'.chains

section Growth

variable {runtime : Runtime} {request : LedgerRequest} {s s' s'' : LedgerState}

theorem EventsKept.refl (chains : String → Option AuditChain) : EventsKept chains chains :=
  fun _ chain h => ⟨chain, h, fun _ hrow => hrow⟩

theorem Extends.refl (s : LedgerState) : Extends s s where
  turnover := fun _ row h => ⟨row, h, rfl⟩
  aggregation := fun _ row h => ⟨row, h, rfl⟩
  chains := .refl s.chains

theorem Extends.trans (h : Extends s s') (h' : Extends s' s'') : Extends s s'' where
  turnover := by
    intro id row hrow
    obtain ⟨row', hrow', hsame⟩ := h.turnover id row hrow
    obtain ⟨row'', hrow'', hsame'⟩ := h'.turnover id row' hrow'
    exact ⟨row'', hrow'', hsame'.trans hsame⟩
  aggregation := by
    intro id row hrow
    obtain ⟨row', hrow', hsame⟩ := h.aggregation id row hrow
    obtain ⟨row'', hrow'', hsame'⟩ := h'.aggregation id row' hrow'
    exact ⟨row'', hrow'', hsame'.trans hsame⟩
  chains := by
    intro organisationId chain hchain
    obtain ⟨chain', hchain', hkept⟩ := h.chains organisationId chain hchain
    obtain ⟨chain'', hchain'', hkept'⟩ := h'.chains organisationId chain' hchain'
    exact ⟨chain'', hchain'', fun row hrow => hkept' row (hkept row hrow)⟩

/-- A state with the same ledgers and chains. -/
theorem Extends.of_eq (hturnover : s'.turnover = s.turnover)
    (haggregation : s'.aggregation = s.aggregation) (hchains : s'.chains = s.chains) :
    Extends s s' where
  turnover := by
    intro id row h
    exact ⟨row, hturnover ▸ h, rfl⟩
  aggregation := by
    intro id row h
    exact ⟨row, haggregation ▸ h, rfl⟩
  chains := hchains ▸ .refl s.chains

/-- A step on the chain of an organisation keeps the events of all chains. -/
theorem chains_update {organisationId : String} {action : AuditAction} {chain : AuditChain}
    (hopened : ChainsOpened runtime s)
    (h : AuditStep runtime.digests (some organisationId) (s.chains organisationId) action
      (some chain)) :
    ChainsOpened runtime
        { s with chains := update s.chains organisationId (some chain) } ∧
      EventsKept s.chains (update s.chains organisationId (some chain)) := by
  obtain ⟨hchain, hkept⟩ := Audit.AuditStep.keeps (hopened organisationId) h
  refine ⟨?_, ?_⟩
  · intro other found hfound
    by_cases hsame : other = organisationId
    · subst hsame
      simp only [update_self, Option.some.injEq] at hfound
      rwa [← hfound]
    · simp only [update_of_ne hsame] at hfound
      exact hopened other found hfound
  · intro other found hfound
    by_cases hsame : other = organisationId
    · subst hsame
      exact ⟨chain, update_self .., hkept found hfound⟩
    · exact ⟨found, by rw [update_of_ne hsame, hfound], fun _ hrow => hrow⟩

/-- An append keeps everything but the chain it adds to, and leaves an event with its trace. -/
theorem append_spec {draws : Audit.Draws} {organisationId : String} {call : Audit.AppendCall}
    (hopened : ChainsOpened runtime s)
    (horganisation : call.tenant.organisationId = some organisationId)
    (h : s.append runtime request draws organisationId call = .ok s') :
    ChainsOpened runtime s' ∧ Extends s s' ∧ s'.turnover = s.turnover ∧
      s'.aggregation = s.aggregation ∧
      ∃ chain, s'.chains organisationId = some chain ∧
        ∃ row ∈ chain.events, row.trace = call.trace := by
  obtain ⟨⟨receipt, chain⟩, happend, hs'⟩ := bind_eq_ok.mp h
  cases hs'
  obtain ⟨hchains, hkept⟩ := chains_update hopened (.append horganisation happend)
  refine ⟨hchains, ⟨(Extends.refl s).turnover, (Extends.refl s).aggregation, hkept⟩, rfl, rfl,
    chain, update_self .., Audit.append_trace (hopened organisationId) happend⟩

/-- An entry is appended to the chain of the tenant. -/
theorem immutable_eq_ok {ledger : LedgerName} {entry : ImmutableEntry} :
    s.immutable runtime request ledger entry = .ok s' ↔
      ∃ scope, request.activeTenant = .ok scope ∧
        s.append runtime request request.draws scope.organisationId
          (ledger.appendCall request scope entry) = .ok s' :=
  bind_eq_ok

theorem immutable_spec {ledger : LedgerName} {entry : ImmutableEntry}
    (hopened : ChainsOpened runtime s)
    (h : s.immutable runtime request ledger entry = .ok s') :
    ChainsOpened runtime s' ∧ Extends s s' := by
  obtain ⟨scope, -, happend⟩ := immutable_eq_ok.mp h
  obtain ⟨hchains, hextends, -⟩ := append_spec hopened rfl happend
  exact ⟨hchains, hextends⟩

theorem enqueue_spec {scope : TenantContext} {job : AgentJob} {purpose : String}
    (hopened : ChainsOpened runtime s)
    (h : s.enqueue runtime request scope job purpose = .ok s') :
    ChainsOpened runtime s' ∧ Extends s s' := by
  obtain ⟨stored, -, h⟩ := bind_eq_ok.mp h
  have hweb : Extends s { s with web := stored.2 } := .of_eq rfl rfl rfl
  split at h
  · have hopened' : ChainsOpened runtime { s with web := stored.2 } := hopened
    obtain ⟨hchains, hextends, -⟩ := append_spec hopened' rfl h
    exact ⟨hchains, hweb.trans hextends⟩
  · cases h
    exact ⟨hopened, hweb⟩

/-! ### The rows -/

theorem updateTurnover_spec {row : TurnoverOperationLedgerRecord}
    {progress : LedgerState.TurnoverProgress} (h : s.updateTurnover row progress = .ok s') :
    Extends s s' ∧ s'.chains = s.chains := by
  rw [LedgerState.updateTurnover, guard_eq_ok] at h
  obtain ⟨-, hs'⟩ := h
  cases hs'
  refine ⟨⟨?_, (Extends.refl s).aggregation, .refl s.chains⟩, rfl⟩
  intro id found hfound
  by_cases hsame : id = row.operationId
  · subst hsame
    exact ⟨progress.apply found, by rw [Table.find?_modify_self, hfound, Option.map_some], rfl⟩
  · exact ⟨found, by rw [Table.find?_modify_ne hsame, hfound], rfl⟩

theorem updateAggregation_spec {row : AggregationOperationLedgerRecord}
    {progress : LedgerState.AggregationProgress}
    (h : s.updateAggregation row progress = .ok s') :
    Extends s s' ∧ s'.chains = s.chains := by
  rw [LedgerState.updateAggregation, guard_eq_ok] at h
  obtain ⟨-, hs'⟩ := h
  cases hs'
  refine ⟨⟨(Extends.refl s).turnover, ?_, .refl s.chains⟩, rfl⟩
  intro id found hfound
  by_cases hsame : id = row.operationId
  · subst hsame
    exact ⟨progress.apply found, by rw [Table.find?_modify_self, hfound, Option.map_some], rfl⟩
  · exact ⟨found, by rw [Table.find?_modify_ne hsame, hfound], rfl⟩

/-- An inserted row is found, and the rows that were there are found as before. -/
theorem insertTurnover_spec {row : TurnoverOperationLedgerRecord}
    (h : s.insertTurnover row = .ok s') :
    Extends s s' ∧ s'.chains = s.chains ∧ s'.turnover.find? row.operationId = some row := by
  rw [LedgerState.insertTurnover, guard_eq_ok, guard_eq_ok] at h
  obtain ⟨-, -, h⟩ := h
  split at h
  · cases h
  · rename_i turnover hinsert
    cases h
    exact ⟨⟨fun id found hfound => ⟨found, Table.find?_insert_of_some hinsert hfound, rfl⟩,
      (Extends.refl s).aggregation, .refl s.chains⟩, rfl, Table.find?_insert_self hinsert⟩

theorem insertAggregation_spec {row : AggregationOperationLedgerRecord}
    (h : s.insertAggregation row = .ok s') : Extends s s' ∧ s'.chains = s.chains := by
  rw [LedgerState.insertAggregation, guard_eq_ok, guard_eq_ok] at h
  obtain ⟨-, -, h⟩ := h
  split at h
  · cases h
  · rename_i aggregation hinsert
    cases h
    exact ⟨⟨(Extends.refl s).turnover,
      fun id found hfound => ⟨found, Table.find?_insert_of_some hinsert hfound, rfl⟩,
      .refl s.chains⟩, rfl⟩

theorem requireTurnover_eq_ok {operationId : String}
    {found : TenantContext × TurnoverOperationLedgerRecord} :
    s.requireTurnover request operationId = .ok found ↔
      request.activeTenant = .ok found.1 ∧ s.turnoverRow found.1 operationId = some found.2 := by
  rw [LedgerState.requireTurnover, bind_eq_ok]
  constructor
  · rintro ⟨scope, hscope, h⟩
    split at h
    · rename_i row hrow
      cases h
      exact ⟨hscope, hrow⟩
    · cases h
  · rintro ⟨hscope, hrow⟩
    exact ⟨found.1, hscope, by rw [hrow]⟩

theorem requireAggregation_eq_ok {operationId : String}
    {found : TenantContext × AggregationOperationLedgerRecord} :
    s.requireAggregation request operationId = .ok found ↔
      request.activeTenant = .ok found.1 ∧
        s.aggregationRow found.1 operationId = some found.2 := by
  rw [LedgerState.requireAggregation, bind_eq_ok]
  constructor
  · rintro ⟨scope, hscope, h⟩
    split at h
    · rename_i row hrow
      cases h
      exact ⟨hscope, hrow⟩
    · cases h
  · rintro ⟨hscope, hrow⟩
    exact ⟨found.1, hscope, by rw [hrow]⟩

end Growth

/-! ## What the operations record -/

section Entries

variable {runtime : Runtime} {request request' : LedgerRequest} {s s' s'' : LedgerState}
  {scope scope' : TenantContext} {ledger ledger' : LedgerName} {entry entry' : ImmutableEntry}
  {call : LedgerCall}

/-- The entry that an operation makes in the immutable history, for the row its tenant sees. -/
inductive LedgerCall.Entry (runtime : Runtime) (s : LedgerState) (scope : TenantContext) :
    LedgerCall → LedgerName → ImmutableEntry → Prop
  | turnoverDocument {operationId documentId : String} {row : TurnoverOperationLedgerRecord}
      (hrow : s.turnoverRow scope operationId = some row) :
      Entry runtime s scope (.recordTurnoverDocument operationId documentId) turnoverLedger
        (LedgerState.turnoverRemoteResult runtime row documentId)
  | turnoverReconcile {call : LedgerState.TurnoverReconcileCall}
      {row : TurnoverOperationLedgerRecord} {result : ReconciliationResult}
      (hrow : s.turnoverRow scope call.operationId = some row)
      (hresult : LedgerState.turnoverConclusion runtime row call = .ok result) :
      Entry runtime s scope (.reconcileTurnover call) turnoverLedger
        (LedgerState.turnoverReconciled runtime row result)
  | aggregationDocument {operationId documentId : String}
      {row : AggregationOperationLedgerRecord}
      (hrow : s.aggregationRow scope operationId = some row) :
      Entry runtime s scope (.recordAggregationDocument operationId documentId)
        aggregationLedger (LedgerState.aggregationRemoteResult runtime row documentId)
  | aggregationReconcile {call : LedgerState.AggregationReconcileCall}
      {row : AggregationOperationLedgerRecord}
      (hrow : s.aggregationRow scope call.operationId = some row) :
      Entry runtime s scope (.recordReconciliation call) aggregationLedger
        (LedgerState.aggregationReconciled runtime row call.result)

theorem audited_append {updated : LedgerState} {noted : LedgerName} {operationId action : String}
    {metadata : List (String × Json)} (hscope : request.activeTenant = .ok scope)
    (hupdated : Extends s updated ∧ updated.chains = s.chains)
    (h : (updated.audit noted scope operationId action metadata).immutable runtime request ledger
      entry = .ok s') :
    ∃ base, Extends s base ∧ base.chains = s.chains ∧
      base.append runtime request request.draws scope.organisationId
        (ledger.appendCall request scope entry) = .ok s' := by
  obtain ⟨scope', hscope', happend⟩ := immutable_eq_ok.mp h
  cases hscope.symm.trans hscope'
  exact ⟨updated.audit noted scope operationId action metadata,
    hupdated.1.trans (.of_eq rfl rfl rfl), hupdated.2, happend⟩

/-- An accepted operation rewrites the row its tenant sees, notes it in the audit log, and
appends its entry to the chain of the tenant. -/
theorem perform_cases (h : call.perform runtime request s = .ok s') :
    ∃ scope base ledger entry, request.activeTenant = .ok scope ∧ Extends s base ∧
      base.chains = s.chains ∧ call.Entry runtime s scope ledger entry ∧
      base.append runtime request request.draws scope.organisationId
        (ledger.appendCall request scope entry) = .ok s' := by
  cases call with
  | recordTurnoverDocument operationId documentId =>
    obtain ⟨⟨scope, row⟩, hfound, h⟩ := bind_eq_ok.mp h
    obtain ⟨hscope, hrow⟩ := requireTurnover_eq_ok.mp hfound
    simp only [guard_eq_ok, bind_eq_ok] at h
    obtain ⟨-, -, updated, hupdated, h⟩ := h
    obtain ⟨base, hbase, hchains, happend⟩ :=
      audited_append hscope (updateTurnover_spec hupdated) h
    exact ⟨scope, base, _, _, hscope, hbase, hchains, .turnoverDocument hrow, happend⟩
  | reconcileTurnover call =>
    obtain ⟨⟨result, recorded⟩, hreconcile, hs'⟩ := map_eq_ok.mp
      (show (s.reconcileTurnover runtime request call).map Prod.snd = .ok s' from h)
    simp only [LedgerState.reconcileTurnover, bind_eq_ok] at hreconcile
    obtain ⟨⟨scope, row⟩, hfound, result', hresult, updated, hupdated, last, hlast, heq⟩ :=
      hreconcile
    cases heq
    cases hs'
    obtain ⟨hscope, hrow⟩ := requireTurnover_eq_ok.mp hfound
    obtain ⟨base, hbase, hchains, happend⟩ :=
      audited_append hscope (updateTurnover_spec hupdated) hlast
    exact ⟨scope, base, _, _, hscope, hbase, hchains, .turnoverReconcile hrow hresult, happend⟩
  | recordAggregationDocument operationId documentId =>
    obtain ⟨⟨scope, row⟩, hfound, h⟩ := bind_eq_ok.mp h
    obtain ⟨hscope, hrow⟩ := requireAggregation_eq_ok.mp hfound
    simp only [guard_eq_ok, bind_eq_ok] at h
    obtain ⟨-, updated, hupdated, h⟩ := h
    obtain ⟨base, hbase, hchains, happend⟩ :=
      audited_append hscope (updateAggregation_spec hupdated) h
    exact ⟨scope, base, _, _, hscope, hbase, hchains, .aggregationDocument hrow, happend⟩
  | recordReconciliation call =>
    obtain ⟨⟨scope, row⟩, hfound, h⟩ := bind_eq_ok.mp h
    obtain ⟨hscope, hrow⟩ := requireAggregation_eq_ok.mp hfound
    obtain ⟨updated, hupdated, h⟩ := bind_eq_ok.mp h
    obtain ⟨base, hbase, hchains, happend⟩ :=
      audited_append hscope (updateAggregation_spec hupdated) h
    exact ⟨scope, base, _, _, hscope, hbase, hchains, .aggregationReconcile hrow, happend⟩

theorem turnoverRow_eq_some {operationId : String} {row : TurnoverOperationLedgerRecord} :
    s.turnoverRow scope operationId = some row ↔
      s.turnover.find? operationId = some row ∧ row.organisationId = scope.organisationId ∧
        row.participantId = scope.participantId := by
  simp [LedgerState.turnoverRow, Option.filter_eq_some_iff]

theorem aggregationRow_eq_some {operationId : String} {row : AggregationOperationLedgerRecord} :
    s.aggregationRow scope operationId = some row ↔
      s.aggregation.find? operationId = some row ∧ row.organisationId = scope.organisationId ∧
        row.participantId = scope.participantId := by
  simp [LedgerState.aggregationRow, Option.filter_eq_some_iff]

/-- A later row of an operation, under whichever tenant it is seen, belongs to the same
organisation and has what the reconciliation reads. -/
theorem Extends.turnoverRow {operationId : String} {row row' : TurnoverOperationLedgerRecord}
    (h : Extends s s') (hrow : s.turnoverRow scope operationId = some row)
    (hrow' : s'.turnoverRow scope' operationId = some row') :
    scope'.organisationId = scope.organisationId ∧ row'.operationId = row.operationId ∧
      row'.operationKind = row.operationKind ∧
      row'.preconditionSnapshot = row.preconditionSnapshot := by
  obtain ⟨hfind, horganisation, -⟩ := turnoverRow_eq_some.mp hrow
  obtain ⟨hfind', horganisation', -⟩ := turnoverRow_eq_some.mp hrow'
  obtain ⟨found, hfound, hintent⟩ := h.turnover _ _ hfind
  cases hfind'.symm.trans hfound
  have hid : row'.intent.operationId = row.intent.operationId := by rw [hintent]
  have howner : row'.intent.organisationId = row.intent.organisationId := by rw [hintent]
  have hkind : row'.intent.operationKind = row.intent.operationKind := by rw [hintent]
  have hsnapshot : row'.intent.preconditionSnapshot = row.intent.preconditionSnapshot := by
    rw [hintent]
  exact ⟨horganisation'.symm.trans (howner.trans horganisation), hid, hkind, hsnapshot⟩

theorem Extends.aggregationRow {operationId : String}
    {row row' : AggregationOperationLedgerRecord} (h : Extends s s')
    (hrow : s.aggregationRow scope operationId = some row)
    (hrow' : s'.aggregationRow scope' operationId = some row') :
    scope'.organisationId = scope.organisationId ∧ row'.operationId = row.operationId ∧
      row'.childSetHash = row.childSetHash := by
  obtain ⟨hfind, horganisation, -⟩ := aggregationRow_eq_some.mp hrow
  obtain ⟨hfind', horganisation', -⟩ := aggregationRow_eq_some.mp hrow'
  obtain ⟨found, hfound, hintent⟩ := h.aggregation _ _ hfind
  cases hfind'.symm.trans hfound
  have hid : row'.intent.operationId = row.intent.operationId := by rw [hintent]
  have howner : row'.intent.organisationId = row.intent.organisationId := by rw [hintent]
  have hchildren : row'.intent.childSetHash = row.intent.childSetHash := by rw [hintent]
  exact ⟨horganisation'.symm.trans (howner.trans horganisation), hid, hchildren⟩

/-- An operation that is repeated in a later state makes its entry in the same chain and under
the same key. -/
theorem LedgerCall.Entry.key_eq (h : Extends s s')
    (hentry : call.Entry runtime s scope ledger entry)
    (hentry' : call.Entry runtime s' scope' ledger' entry') :
    scope'.organisationId = scope.organisationId ∧
      ledger'.eventKey entry'.operationId entry'.eventKeySuffix =
        ledger.eventKey entry.operationId entry.eventKeySuffix := by
  cases hentry with
  | turnoverDocument hrow =>
    cases hentry' with
    | turnoverDocument hrow' =>
      obtain ⟨horganisation, hid, -⟩ := h.turnoverRow hrow hrow'
      exact ⟨horganisation, congrArg (fun id => turnoverLedger.eventKey id _) hid⟩
  | turnoverReconcile hrow hresult =>
    cases hentry' with
    | turnoverReconcile hrow' hresult' =>
      obtain ⟨horganisation, hid, hkind, hsnapshot⟩ := h.turnoverRow hrow hrow'
      refine ⟨horganisation, ?_⟩
      rw [LedgerState.turnoverConclusion, hkind, hsnapshot] at hresult'
      cases hresult.symm.trans hresult'
      exact congrArg (fun id => turnoverLedger.eventKey id _) hid
  | aggregationDocument hrow =>
    cases hentry' with
    | aggregationDocument hrow' =>
      obtain ⟨horganisation, hid, -⟩ := h.aggregationRow hrow hrow'
      exact ⟨horganisation, congrArg (fun id => aggregationLedger.eventKey id _) hid⟩
  | @aggregationReconcile call row hrow =>
    cases hentry' with
    | @aggregationReconcile _ row' hrow' =>
      obtain ⟨horganisation, hid, hchildren⟩ := h.aggregationRow hrow hrow'
      have hevidence : LedgerState.aggregationEvidence row' call.result =
          LedgerState.aggregationEvidence row call.result := by
        rw [LedgerState.aggregationEvidence, LedgerState.aggregationEvidence, hchildren]
      refine ⟨horganisation, ?_⟩
      show aggregationLedger.eventKey row'.operationId ("reconciled:" ++
          canonicalHash runtime (LedgerState.aggregationEvidence row' call.result)) =
        aggregationLedger.eventKey row.operationId ("reconciled:" ++
          canonicalHash runtime (LedgerState.aggregationEvidence row call.result))
      rw [hid, hevidence]

end Entries

/-! ## Runs -/

section Runs

variable {runtime : Runtime} {request request' : LedgerRequest} {s s' s'' : LedgerState}
  {call : LedgerCall}

theorem perform_extends (hopened : ChainsOpened runtime s)
    (h : call.perform runtime request s = .ok s') : ChainsOpened runtime s' ∧ Extends s s' := by
  obtain ⟨scope, base, ledger, entry, -, hbase, hchains, -, happend⟩ := perform_cases h
  have hopened' : ChainsOpened runtime base := by
    rw [ChainsOpened, hchains]
    exact hopened
  obtain ⟨hlast, hextends, -⟩ := append_spec hopened' rfl happend
  exact ⟨hlast, hbase.trans hextends⟩

theorem queueTurnover_cases {call : TurnoverQueueCall} {reply : QueueReply}
    (h : s.queueTurnover runtime request call = .ok (reply, s')) :
    ∃ scope, request.activeTenant = .ok scope ∧ call.check = .ok () ∧
      ((∃ row, s.turnoverRow scope
            (tenantOperationId runtime.digests scope "m5-turnover" call.operationId "m5_") =
              some row ∧ s.replayTurnover scope call row = .ok (reply, s')) ∨
        (s.turnoverRow scope
            (tenantOperationId runtime.digests scope "m5-turnover" call.operationId "m5_") = none ∧
          s.createTurnover runtime request scope call
            (LedgerState.turnoverInserted runtime request scope
              (tenantOperationId runtime.digests scope "m5-turnover" call.operationId "m5_")
              call) = .ok (reply, s'))) := by
  simp only [LedgerState.queueTurnover, guard_eq_ok, bind_eq_ok] at h
  obtain ⟨-, scope, hscope, ⟨⟩, hcheck, h⟩ := h
  refine ⟨scope, hscope, hcheck, ?_⟩
  split at h
  · rename_i row hrow
    exact .inl ⟨row, hrow, h⟩
  · rename_i hnone
    exact .inr ⟨hnone, h⟩

/-- What is queued as new is in the ledger afterwards. -/
theorem createTurnover_spec {scope : TenantContext} {call : TurnoverQueueCall}
    {row : TurnoverOperationLedgerRecord} {reply : QueueReply} (hopened : ChainsOpened runtime s)
    (h : s.createTurnover runtime request scope call row = .ok (reply, s')) :
    ChainsOpened runtime s' ∧ Extends s s' ∧ reply.status = "pending" ∧
      ∃ row', s'.turnover.find? row.operationId = some row' ∧ row'.intent = row.intent := by
  simp only [LedgerState.createTurnover, bind_eq_ok] at h
  obtain ⟨inserted, hinserted, recorded, hrecorded, h⟩ := h
  split at h
  · cases h
  · obtain ⟨queued, hqueued, hresult⟩ := bind_eq_ok.mp h
    cases hresult
    obtain ⟨hinsert, hchains, hfind⟩ := insertTurnover_spec hinserted
    have hopened' : ChainsOpened runtime inserted := by
      rw [ChainsOpened, hchains]
      exact hopened
    obtain ⟨hrecordedOpened, himmutable⟩ := immutable_spec hopened' hrecorded
    obtain ⟨hqueuedOpened, henqueue⟩ := enqueue_spec hrecordedOpened hqueued
    have hlater : Extends inserted queued := himmutable.trans henqueue
    exact ⟨hqueuedOpened, (hinsert.trans hlater).trans (.of_eq rfl rfl rfl), rfl,
      hlater.turnover _ _ hfind⟩

theorem createAggregation_spec {scope : TenantContext} {call : AggregationQueueCall}
    {row : AggregationOperationLedgerRecord} {reply : QueueReply}
    (hopened : ChainsOpened runtime s)
    (h : s.createAggregation runtime request scope call row = .ok (reply, s')) :
    ChainsOpened runtime s' ∧ Extends s s' := by
  simp only [LedgerState.createAggregation, bind_eq_ok] at h
  obtain ⟨inserted, hinserted, recorded, hrecorded, h⟩ := h
  split at h
  · cases h
  · obtain ⟨queued, hqueued, hresult⟩ := bind_eq_ok.mp h
    cases hresult
    obtain ⟨hinsert, hchains⟩ := insertAggregation_spec hinserted
    have hopened' : ChainsOpened runtime inserted := by
      rw [ChainsOpened, hchains]
      exact hopened
    obtain ⟨hrecordedOpened, himmutable⟩ := immutable_spec hopened' hrecorded
    obtain ⟨hqueuedOpened, henqueue⟩ := enqueue_spec hrecordedOpened hqueued
    exact ⟨hqueuedOpened,
      (hinsert.trans (himmutable.trans henqueue)).trans (.of_eq rfl rfl rfl)⟩

theorem replayTurnover_eq_ok {scope : TenantContext} {call : TurnoverQueueCall}
    {row : TurnoverOperationLedgerRecord} {reply : QueueReply} :
    s.replayTurnover scope call row = .ok (reply, s') ↔
      LedgerState.turnoverReplays row call = true ∧
        reply = ⟨row.requestId, row.operationId, "deduplicated", row.idempotencyKey⟩ ∧
        s' = s.audit turnoverLedger scope row.operationId "TURNOVER_IDEMPOTENT_REPLAY"
          [("request_id", .str row.requestId), ("document_sha256", .str row.documentSha256)] := by
  rw [LedgerState.replayTurnover, guard_eq_ok, not_not, Except.ok.injEq, Prod.mk.injEq]
  exact and_congr_right fun _ => and_congr eq_comm eq_comm

theorem queueTurnover_extends {call : TurnoverQueueCall} {reply : QueueReply}
    (hopened : ChainsOpened runtime s)
    (h : s.queueTurnover runtime request call = .ok (reply, s')) :
    ChainsOpened runtime s' ∧ Extends s s' := by
  obtain ⟨scope, -, -, ⟨row, -, h⟩ | ⟨-, h⟩⟩ := queueTurnover_cases h
  · obtain ⟨-, -, rfl⟩ := replayTurnover_eq_ok.mp h
    exact ⟨hopened, .of_eq rfl rfl rfl⟩
  · obtain ⟨hlast, hextends, -⟩ := createTurnover_spec hopened h
    exact ⟨hlast, hextends⟩

theorem queueAggregation_extends {call : AggregationQueueCall} {reply : QueueReply}
    (hopened : ChainsOpened runtime s)
    (h : s.queueAggregation runtime request call = .ok (reply, s')) :
    ChainsOpened runtime s' ∧ Extends s s' := by
  simp only [LedgerState.queueAggregation, guard_eq_ok, bind_eq_ok] at h
  obtain ⟨-, scope, -, ⟨⟩, -, h⟩ := h
  split at h
  · rw [LedgerState.replayAggregation, guard_eq_ok] at h
    cases h.2
    exact ⟨hopened, .of_eq rfl rfl rfl⟩
  · obtain ⟨delta, -, h⟩ := bind_eq_ok.mp h
    exact createAggregation_spec hopened h

/-- Every step keeps the chains opened, and the operations and events that are there. -/
theorem LedgerStep.extends {action : LedgerAction} (hopened : ChainsOpened runtime s)
    (h : LedgerStep runtime s action s') : ChainsOpened runtime s' ∧ Extends s s' := by
  cases h with
  | perform h => exact perform_extends hopened h
  | queueTurnover h => exact queueTurnover_extends hopened h
  | queueAggregation h => exact queueAggregation_extends hopened h
  | audit h =>
    obtain ⟨hchains, hkept⟩ := chains_update hopened h
    exact ⟨hchains, (Extends.refl s).turnover, (Extends.refl s).aggregation, hkept⟩
  | other web auditLog => exact ⟨hopened, .of_eq rfl rfl rfl⟩

/-- A run keeps them as well. -/
theorem run_extends {actions : List LedgerAction} (hopened : ChainsOpened runtime s)
    (run : Transition.Run (LedgerStep runtime) s actions s') :
    ChainsOpened runtime s' ∧ Extends s s' := by
  refine run.invariant (fun s' => ChainsOpened runtime s' ∧ Extends s s') ⟨hopened, .refl s⟩ ?_
  intro action s' s'' hstate hstep
  obtain ⟨hlast, hextends⟩ := hstep.extends hstate.1
  exact ⟨hlast, hstate.2.trans hextends⟩

theorem run_opened {web : WebTables} {actions : List LedgerAction}
    (run : Transition.Run (LedgerStep runtime) (.initial web) actions s) :
    ChainsOpened runtime s := by
  refine (run_extends ?_ run).1
  intro organisationId chain h
  cases h

/-- An operation is accepted again in a later state only in the request that recorded it: the
event under its key carries the id of that request. -/
theorem requestId_of_repeated {actions : List LedgerAction} {t : LedgerState}
    (hopened : ChainsOpened runtime s) (h : call.perform runtime request s = .ok s')
    (later : Transition.Run (LedgerStep runtime) s' actions s'')
    (h' : call.perform runtime request' s'' = .ok t) : request'.requestId = request.requestId := by
  obtain ⟨scope, base, ledger, entry, -, -, hchains, hentry, happend⟩ := perform_cases h
  obtain ⟨scope', base', ledger', entry', -, -, hchains', hentry', happend'⟩ := perform_cases h'
  obtain ⟨hopened', hextends⟩ := perform_extends hopened h
  obtain ⟨hopened'', hextends'⟩ := run_extends hopened' later
  obtain ⟨horganisation, hkey⟩ := hentry.key_eq (hextends.trans hextends') hentry'
  -- the event of the first request is in the chain that the second one appends to
  have hbase : ChainsOpened runtime base := by
    rw [ChainsOpened, hchains]
    exact hopened
  obtain ⟨-, -, -, -, chain, hchain, row, hrow, htrace⟩ := append_spec hbase rfl happend
  obtain ⟨chain', hchain', hkept⟩ := hextends'.chains _ chain hchain
  obtain ⟨⟨receipt, last⟩, happended, -⟩ := bind_eq_ok.mp happend'
  rw [hchains', horganisation, hchain'] at happended
  have hsame := Audit.trace_of_eventKey (hopened'' _ _ hchain') (hkept row hrow)
    (by rw [htrace]; rfl) (by rw [← hkey]; rfl) happended
  rw [htrace] at hsame
  exact congrArg TraceContext.requestId hsame

/-- What an operation recorded in one request is refused in every later state when another
request, of whatever session, records it again. -/
theorem repeated_call_rejected {web : WebTables} {before after : List LedgerAction}
    (reach : Transition.Run (LedgerStep runtime) (.initial web) before s)
    (h : call.perform runtime request s = .ok s')
    (later : Transition.Run (LedgerStep runtime) s' after s'')
    (hrequest : request'.requestId ≠ request.requestId) :
    ∃ e, call.perform runtime request' s'' = .error e := by
  cases hr : call.perform runtime request' s'' with
  | error e => exact ⟨e, rfl⟩
  | ok t => exact absurd (requestId_of_repeated (run_opened reach) h later hr) hrequest

end Runs

/-! ## Requests that are queued again -/

/-- The second request brings what the first one did, in every field that is not to change. -/
structure TurnoverQueueCall.SameRequest (first second : TurnoverQueueCall) : Prop where
  document : second.prepared.exactDocument.payload = first.prepared.exactDocument.payload
  operationKind : second.prepared.operationKind = first.prepared.operationKind
  documentType : second.prepared.documentType = first.prepared.documentType
  cancellationReference : second.cancellationReference = first.cancellationReference
  rawBusinessReason : second.prepared.rawBusinessReason = first.prepared.rawBusinessReason
  expectedPostcondition :
    second.prepared.expectedPostcondition = first.prepared.expectedPostcondition

/-- The fields in which the ledger compares two requests agree. -/
def TurnoverQueueCall.SameDocument (first second : TurnoverQueueCall) : Prop :=
  second.prepared.exactDocument.sha256 = first.prepared.exactDocument.sha256 ∧
    second.prepared.operationKind = first.prepared.operationKind ∧
    second.prepared.documentType = first.prepared.documentType

section Queued

variable {runtime : Runtime} {request request' : LedgerRequest} {s s' s'' t : LedgerState}
  {scope scope' : TenantContext} {first second : TurnoverQueueCall} {reply : QueueReply}
  {row : TurnoverOperationLedgerRecord}

/-- Queueing an operation that is there compares the request with its row. -/
theorem queueTurnover_of_row {call : TurnoverQueueCall}
    (hid : ¬ (call.operationId = "" ∨ call.operationId.length > 128))
    (hscope : request.activeTenant = .ok scope) (hcheck : call.check = .ok ())
    (hrow : s.turnoverRow scope (tenantOperationId runtime.digests scope "m5-turnover"
      call.operationId "m5_") = some row) :
    s.queueTurnover runtime request call = s.replayTurnover scope call row := by
  simp only [LedgerState.queueTurnover, if_neg hid, hscope, hcheck, hrow, bind, Except.bind]

/-- Queueing an operation that is not there creates its row. -/
theorem queueTurnover_of_none {call : TurnoverQueueCall}
    (hid : ¬ (call.operationId = "" ∨ call.operationId.length > 128))
    (hscope : request.activeTenant = .ok scope) (hcheck : call.check = .ok ())
    (hnone : s.turnoverRow scope (tenantOperationId runtime.digests scope "m5-turnover"
      call.operationId "m5_") = none) :
    s.queueTurnover runtime request call =
      s.createTurnover runtime request scope call
        (LedgerState.turnoverInserted runtime request scope (tenantOperationId runtime.digests
          scope "m5-turnover" call.operationId "m5_") call) := by
  simp only [LedgerState.queueTurnover, if_neg hid, hscope, hcheck, hnone, bind, Except.bind]

/-- A job is enqueued when it is stored as a new row and its event appended. -/
theorem enqueue_of_parts {job stored : AgentJob} {purpose : String} {web : Web.WebTables}
    {found : Web.AgentJobRecord}
    (hstored : s.web.enqueue runtime.digests.sha256 runtime.contracts request.web (some scope) job
      { purpose := purpose, availableAt := request.availableAt } = .ok (stored, web))
    (hnone : s.web.jobs.find? job.jobId = none) (hfound : web.jobs.find? job.jobId = some found)
    (happend : LedgerState.append runtime request { s with web := web } request.jobDraws
      scope.organisationId (LedgerState.jobCreatedCall request scope found) = .ok s') :
    s.enqueue runtime request scope job purpose = .ok s' := by
  refine bind_eq_ok.mpr ⟨_, hstored, ?_⟩
  simp only [hnone, hfound]
  exact happend

/-- A row is created when it is inserted, its event appended and its job enqueued. -/
theorem createTurnover_of_parts {call : TurnoverQueueCall} {jobType : AgentJobType}
    {inserted recorded queued : LedgerState} (hinserted : s.insertTurnover row = .ok inserted)
    (hrecorded : inserted.immutable runtime request turnoverLedger
      (LedgerState.turnoverIntent runtime scope row) = .ok recorded)
    (htype : AgentJobType.ofValue? row.documentType = some jobType)
    (hqueued : recorded.enqueue runtime request scope
      (LedgerState.turnoverJob scope call row jobType) turnoverPurpose = .ok queued) :
    ∃ last, s.createTurnover runtime request scope call row =
        .ok (⟨row.requestId, row.operationId, "pending", row.idempotencyKey⟩, last) ∧
      last.turnover = queued.turnover ∧ last.chains = queued.chains := by
  let last := queued.audit turnoverLedger scope row.operationId "TURNOVER_QUEUED"
    [("request_id", .str row.requestId), ("operation_kind", .str row.operationKind),
      ("document_type", .str row.documentType), ("document_sha256", .str row.documentSha256)]
  refine ⟨last, bind_eq_ok.mpr ⟨_, hinserted,
    bind_eq_ok.mpr ⟨_, hrecorded, ?_⟩⟩, rfl, rfl⟩
  rw [htype]
  exact bind_eq_ok.mpr ⟨_, hqueued, rfl⟩

/-- The id of a document is recorded when the row takes it and its event is appended. -/
theorem recordTurnoverDocument_of_parts {operationId documentId : String}
    {chain : AuditChain} (hscope : request.activeTenant = .ok scope)
    (hrow : s.turnoverRow scope operationId = some row)
    (hsafe : ¬ (documentId = "" ∨ documentId.length > 512))
    (hnew : row.remoteDocumentId = none)
    (hfits : (LedgerState.TurnoverProgress.apply ⟨row.reconciliationState, row.reconciliationJson,
      some documentId⟩ row).fits = true)
    (happend : ∃ receipt, Audit.append runtime.digests request.pseudonymizer request.directory
      request.draws (turnoverLedger.appendCall request scope
        (LedgerState.turnoverRemoteResult runtime row documentId))
      (s.chains scope.organisationId) = .ok (receipt, chain)) :
    ∃ last, s.recordTurnoverDocument runtime request operationId documentId = .ok last := by
  obtain ⟨receipt, happend⟩ := happend
  have hfound : s.requireTurnover request operationId = .ok (scope, row) :=
    requireTurnover_eq_ok.mpr ⟨hscope, hrow⟩
  simp only [LedgerState.recordTurnoverDocument, hfound, bind, Except.bind, if_neg hsafe, hnew,
    emptyText, LedgerState.updateTurnover, if_neg (not_not.mpr hfits), LedgerState.immutable,
    hscope, LedgerState.append, LedgerState.audit, happend, not_true_eq_false, false_and, if_false,
    Except.ok.injEq, exists_eq']

/-- An operation queued as new is found under the id its tenant gives it, with what the request
said, in every later state. -/
theorem exists_row_of_queued {actions : List LedgerAction} (hopened : ChainsOpened runtime s)
    (h : s.queueTurnover runtime request first = .ok (reply, s')) (hnew : reply.status = "pending")
    (hscope : request.activeTenant = .ok scope)
    (later : Transition.Run (LedgerStep runtime) s' actions s'')
    (horganisation : scope'.organisationId = scope.organisationId)
    (hparticipant : scope'.participantId = scope.participantId) :
    ∃ row, s''.turnoverRow scope'
        (tenantOperationId runtime.digests scope' "m5-turnover" first.operationId "m5_") =
          some row ∧
      row.documentSha256 = first.prepared.exactDocument.sha256 ∧
      row.operationKind = first.prepared.operationKind.value ∧
      row.documentType = first.prepared.documentType := by
  have hid : tenantOperationId runtime.digests scope' "m5-turnover" first.operationId "m5_" =
      tenantOperationId runtime.digests scope "m5-turnover" first.operationId "m5_" := by
    rw [tenantOperationId, tenantOperationId, horganisation, hparticipant]
  obtain ⟨scope₁, hscope₁, -, ⟨row, -, hreplay⟩ | ⟨-, hcreate⟩⟩ := queueTurnover_cases h
  · obtain ⟨-, rfl, -⟩ := replayTurnover_eq_ok.mp hreplay
    have hstatus : "deduplicated" = "pending" := hnew
    exact absurd hstatus (by decide)
  · cases hscope.symm.trans hscope₁
    obtain ⟨hopened', -, -, row, hrow, hintent⟩ := createTurnover_spec hopened hcreate
    obtain ⟨-, hextends⟩ := run_extends hopened' later
    obtain ⟨row', hrow', hintent'⟩ := hextends.turnover _ _ hrow
    have hsame := hintent'.trans hintent
    refine ⟨row', turnoverRow_eq_some.mpr ⟨hid ▸ hrow', ?_, ?_⟩, ?_, ?_, ?_⟩
    · rw [horganisation]
      exact (congrArg TurnoverOperationLedgerRecord.organisationId hsame :)
    · rw [hparticipant]
      exact (congrArg TurnoverOperationLedgerRecord.participantId hsame :)
    · exact (congrArg TurnoverOperationLedgerRecord.documentSha256 hsame :)
    · exact (congrArg TurnoverOperationLedgerRecord.operationKind hsame :)
    · exact (congrArg TurnoverOperationLedgerRecord.documentType hsame :)

theorem turnoverReplays_iff (hsha : row.documentSha256 = first.prepared.exactDocument.sha256)
    (hkind : row.operationKind = first.prepared.operationKind.value)
    (htype : row.documentType = first.prepared.documentType) :
    LedgerState.turnoverReplays row second = true ↔ first.SameDocument second := by
  rw [LedgerState.turnoverReplays, hsha, hkind, htype]
  simp only [Bool.and_eq_true, decide_eq_true_eq, TurnoverQueueCall.SameDocument, and_assoc]
  refine and_congr eq_comm (and_congr ?_ eq_comm)
  exact ⟨fun h => (TurnoverOperationKind.value_injective h).symm, fun h => by rw [h]⟩

/-- A second request for a queued operation is accepted only with the immutable fields of the
first one, and leaves the ledger as it is, exactly when a request that passes the checks and
agrees with the first one in the digest of the document, the kind and the document type agrees
with it in the other fields too. -/
theorem queued_again_iff {web : WebTables} {before after : List LedgerAction}
    (reach : Transition.Run (LedgerStep runtime) (.initial web) before s)
    (h : s.queueTurnover runtime request first = .ok (reply, s')) (hnew : reply.status = "pending")
    (later : Transition.Run (LedgerStep runtime) s' after s'')
    (hscope : request.activeTenant = .ok scope) (hscope' : request'.activeTenant = .ok scope')
    (horganisation : scope'.organisationId = scope.organisationId)
    (hparticipant : scope'.participantId = scope.participantId)
    (hoperation : second.operationId = first.operationId) :
    (∀ reply' t, s''.queueTurnover runtime request' second = .ok (reply', t) →
        reply'.status = "deduplicated" ∧ t.turnover = s''.turnover ∧ first.SameRequest second) ↔
      (second.check = .ok () → first.SameDocument second → first.SameRequest second) := by
  obtain ⟨row, hrow, hsha, hkind, htype⟩ := exists_row_of_queued (run_opened reach) h hnew hscope
    later horganisation hparticipant
  rw [← hoperation] at hrow
  have hreplays := @turnoverReplays_iff first second row hsha hkind htype
  constructor
  · intro haccepted hcheck hdocument
    have hid : ¬ (second.operationId = "" ∨ second.operationId.length > 128) := by
      rw [hoperation]
      exact (Fallible.guard_eq_ok.mp h).1
    have hreplay : s''.replayTurnover scope' second row = .ok
        (⟨row.requestId, row.operationId, "deduplicated", row.idempotencyKey⟩,
          s''.audit turnoverLedger scope' row.operationId "TURNOVER_IDEMPOTENT_REPLAY"
            [("request_id", .str row.requestId), ("document_sha256", .str row.documentSha256)]) :=
      replayTurnover_eq_ok.mpr ⟨hreplays.mpr hdocument, rfl, rfl⟩
    exact (haccepted _ _ ((queueTurnover_of_row hid hscope' hcheck hrow).trans hreplay)).2.2
  · intro hcondition reply' t haccepted
    obtain ⟨scope₁, hscope₁, hcheck, hcase⟩ := queueTurnover_cases haccepted
    cases hscope'.symm.trans hscope₁
    rcases hcase with ⟨row', hrow', hreplay⟩ | ⟨hnone, -⟩
    · cases hrow.symm.trans hrow'
      obtain ⟨hsame, rfl, rfl⟩ := replayTurnover_eq_ok.mp hreplay
      exact ⟨rfl, rfl, hcondition hcheck (hreplays.mp hsame)⟩
    · rw [hrow] at hnone
      cases hnone

end Queued

/-! ## A withdrawal that is cancelled -/

section Sample

open Wbcz.Audit (AppendCall Draws InsertArguments Uuid4 canonicalUuid sampleDraws sampleUuid
  uuidText)

def sampleRuntime : Runtime :=
  ⟨⟨Sha256.hexdigest, Sha256.hmacHexdigest⟩, fun _ _ => none, fun _ => ""⟩

/-- An organisation with one participant and no agent. -/
def sampleOrganisation : Web.Directory where
  config := ⟨none, false, "7700000000", 1, 2, 3, by decide, by decide⟩
  bootstrapped := true
  bindings := []
  activeOrganisations := ["org"]
  participants := [⟨"part", "org", "7700000000", true, true⟩]
  events := []
  imports := []
  runs := []

/-- A request of a worker for the participant. -/
def sampleRequest (requestId : String) (draws jobDraws : Draws) : LedgerRequest where
  tenant := some ⟨none, "org", "part", "7700000000"⟩
  requestId := some requestId
  correlationId := some requestId
  causationId := none
  pseudonymizer := ⟨some (List.replicate 32 7), "audit-v1", by simp⟩
  directory := Audit.sampleDirectory
  web := sampleOrganisation
  draws := draws
  jobDraws := jobDraws
  freshId := "1"
  now := "2024-05-06T07:08:10+00:00"
  availableAt := 0

def sampleEventDraws (eventId : Uuid4) : Draws := { sampleDraws with eventId := eventId }

def queueingRequest : LedgerRequest :=
  sampleRequest "req_1" sampleDraws (sampleEventDraws (sampleUuid '6' (by decide +kernel)))

def recordingRequest : LedgerRequest :=
  sampleRequest "req_2" (sampleEventDraws (sampleUuid '7' (by decide +kernel))) sampleDraws

def repeatingRequest : LedgerRequest :=
  sampleRequest "req_3" (sampleEventDraws (sampleUuid '8' (by decide +kernel))) sampleDraws

/-- The cancellation of a withdrawal: the document is the empty object. -/
def sampleCancellation (reference : String) : TurnoverQueueCall where
  prepared := {
    operationKind := .cancelWithdrawal
    documentType := "LK_RECEIPT_CANCEL"
    documentFormat := "MANUAL"
    pg := p0Pg
    exactDocument := ⟨[123, 125],
      "44136fa355b3678a1146ad16f7e8649e94fb4fc21fe77e8310c060f61caaff8a", "e30="⟩
    rawBusinessReason := none
    expectedPostcondition := "WITHDRAWAL_CANCELLED" }
  operationId := "operation"
  preconditionSnapshot := [("verified_fresh", .bool true)]
  cancellationReference := some reference

def sampleWeb : WebTables := ⟨⟨.empty, [], []⟩, .empty, [], .empty, [], []⟩

def sampleScope : TenantContext := ⟨none, "org", "part", "7700000000"⟩

/-- The row of the cancellation. -/
def sampleOperation : TurnoverOperationLedgerRecord :=
  LedgerState.turnoverInserted sampleRuntime queueingRequest sampleScope
    (tenantOperationId sampleRuntime.digests sampleScope "m5-turnover" "operation" "m5_")
    (sampleCancellation "document-1")

/-! ### The metadata of its events -/

theorem length_canonicalHash (value : Json) : (canonicalHash sampleRuntime value).length = 64 :=
  Sha256.length_hexdigest _

theorem length_idempotencyKey : sampleOperation.idempotencyKey.length = 100 := by
  have hdigest : ∀ bytes, (Text.take 32 (Sha256.hexdigest bytes)).length = 32 := by
    intro bytes
    rw [Text.take, String.length_ofList, List.length_take, Sha256.length_hexdigest]
    rfl
  have hid : sampleOperation.operationId.length = "m5_".length + 32 :=
    (String.length_append ..).trans (congrArg _ (hdigest _))
  show (sampleOperation.operationId ++ ":" ++ sampleOperation.documentSha256).length = 100
  rw [String.length_append, String.length_append, hid]
  decide +kernel

theorem sampleOperation_lengths : sampleOperation.requestId.length = 8 ∧
    sampleOperation.operationKind.length = 17 ∧ sampleOperation.documentType.length = 17 ∧
    sampleOperation.documentSha256.length = 64 := by decide +kernel

/-- The pseudonym of a machine. -/
def samplePseudonym (principal : String) : String :=
  "hmac-sha256:audit-v1:" ++ Sha256.hmacHexdigest (List.replicate 32 7)
    (Text.utf8 ("machine-principal:v1:" ++ principal))

theorem samplePseudonym_eq (principal : String) :
    queueingRequest.pseudonymizer.machinePrincipal sampleRuntime.digests principal =
      .ok (samplePseudonym principal) := rfl

theorem length_samplePseudonym (principal : String) : (samplePseudonym principal).length = 85 :=
  (String.length_append ..).trans (congrArg _ (Sha256.length_hexdigest _))

/-- The keys of the metadata. -/
def sampleKeys : List String :=
  ["request_id", "operation_kind", "document_type", "document_sha256", "request_sha256",
    "idempotency_fingerprint", "precondition_evidence_sha256", "machine_principal_hmac",
    "job_type", "purpose", "delivery_count", "payload_sha256", "remote_document_id"]

theorem sampleKeys_plain : sampleKeys.all Audit.plainKey = true := by
  show sampleKeys.all (fun key => Audit.plainKey key) = true
  simp only [Audit.plainKey, Audit.secretKey, Audit.markingKey, Audit.lowered, Text.contains,
    Text.replaceChar, Text.caseFoldAscii, String.toList_ofList]
  decide +kernel

theorem plainSize_of_length {text : String} {n : ℕ} (h : text.length = n) :
    Audit.plainSize (.str text) = 6 + 6 * n := by
  rw [Audit.plainSize, h]

/-- Metadata under these keys are kept when the sizes of keys and values are known. -/
theorem sample_sanitized {metadata : List (String × Json)} {sizes : List ℕ}
    (hkeys : ∀ key ∈ metadata.map Prod.fst, key ∈ sampleKeys)
    (hlengths : ((metadata.map Prod.fst).map fun key => 6 * key.length).sum ≤ 2000)
    (hvalues : (metadata.map Prod.snd).all Audit.plainValue = true)
    (hsizes : (metadata.map Prod.snd).map Audit.plainSize = sizes) (hcount : sizes.length ≤ 8)
    (hsmall : sizes.all (· ≤ 4096) = true) (hsum : sizes.sum ≤ 4096) :
    Audit.sanitizeMetadata queueingRequest.pseudonymizer sampleRuntime.digests (some "org")
      metadata = .ok metadata := by
  have hlength : metadata.length = sizes.length := by
    rw [← hsizes, List.length_map, List.length_map]
  refine Audit.sanitizeMetadata_plain (hlength ▸ hcount.trans (by decide)) ?_ hvalues ?_ ?_
  · exact List.all_eq_true.mpr fun key hkey =>
      List.all_eq_true.mp sampleKeys_plain key (hkeys key hkey)
  · intro value hvalue
    have hmem : Audit.plainSize value ∈ sizes := hsizes ▸ List.mem_map_of_mem hvalue
    exact of_decide_eq_true (List.all_eq_true.mp hsmall _ hmem)
  · rw [Audit.plainBytes, hsizes, Audit.maxMetadataBytes]
    omega

/-! ### The three appends -/

/-- The event of the cancellation. -/
def intentCall : AppendCall :=
  turnoverLedger.appendCall queueingRequest sampleScope
    (LedgerState.turnoverIntent sampleRuntime sampleScope sampleOperation)

def intentMetadata : List (String × Json) :=
  intentCall.metadata ++ [("machine_principal_hmac", .str (samplePseudonym "turnover-worker"))]

theorem intent_registered : (Audit.auditEventRegistry intentCall.eventType).isSome = true := by
  decide +kernel

def intentArguments : InsertArguments :=
  intentCall.arguments (Option.get _ intent_registered) {} intentMetadata sampleDraws.now

theorem safeHash_document : Audit.safeHash (some sampleOperation.documentSha256) =
    .ok (some sampleOperation.documentSha256) := by decide +kernel

theorem safeHash_canonicalHash (value : Json) :
    Audit.safeHash (some (canonicalHash sampleRuntime value)) =
      .ok (some (canonicalHash sampleRuntime value)) :=
  Audit.safeHash_hexdigest _

theorem intent_evidence :
    intentCall.evidenceHashes.mapM Audit.safeHash = .ok intentCall.evidenceHashes := by
  show List.mapM Audit.safeHash [some sampleOperation.documentSha256,
    some (canonicalHash sampleRuntime _), some (canonicalHash sampleRuntime _)] = _
  simp only [List.mapM_cons, safeHash_document, safeHash_canonicalHash]
  rfl

theorem intent_sanitized : Audit.sanitizeMetadata queueingRequest.pseudonymizer
    sampleRuntime.digests (some "org") intentMetadata = .ok intentMetadata := by
  have hrequest : sampleOperation.requestSha256.length = 64 := length_canonicalHash _
  have hsizes : [Json.str sampleOperation.requestId, .str sampleOperation.operationKind,
      .str sampleOperation.documentType, .str sampleOperation.documentSha256,
      .str sampleOperation.requestSha256, .str sampleOperation.idempotencyKey,
      .str (canonicalHash sampleRuntime sampleOperation.preconditionSnapshot),
      .str (samplePseudonym "turnover-worker")].map Audit.plainSize =
        [54, 108, 108, 390, 390, 606, 390, 516] := by
    simp only [List.map_cons, List.map_nil, plainSize_of_length sampleOperation_lengths.1,
      plainSize_of_length sampleOperation_lengths.2.1,
      plainSize_of_length sampleOperation_lengths.2.2.1,
      plainSize_of_length sampleOperation_lengths.2.2.2, plainSize_of_length hrequest,
      plainSize_of_length length_idempotencyKey,
      plainSize_of_length (length_canonicalHash sampleOperation.preconditionSnapshot),
      plainSize_of_length (length_samplePseudonym "turnover-worker")]
  exact sample_sanitized (by decide +kernel) (by decide +kernel) rfl hsizes (by decide)
    (by decide +kernel) (by decide)

theorem intent_prepared : Audit.prepareAppend sampleRuntime.digests queueingRequest.pseudonymizer
    Audit.sampleDirectory sampleDraws.now intentCall = .ok intentArguments := by
  have hallowed : Audit.ActorKind.worker ∈
      (Option.get _ intent_registered).allowedActorKinds := by decide +kernel
  have hprincipal : "turnover-worker" ≠ "" := by decide
  have hnew : (Json.lookup intentCall.metadata "machine_principal_hmac").isSome = false := by
    decide +kernel
  have hactor : Audit.actorSnapshot queueingRequest.pseudonymizer sampleRuntime.digests
      Audit.sampleDirectory (Option.get _ intent_registered) intentCall.actor intentCall.tenant
      intentCall.metadata = .ok ({}, intentMetadata) :=
    Audit.actorSnapshot_worker hallowed hprincipal (samplePseudonym_eq _) hnew
  exact Audit.prepareAppend_eq_arguments (Option.some_get _).symm (by decide +kernel)
    (by decide +kernel) (by decide +kernel) hactor intent_sanitized
    (Audit.subjectOf_plain (by decide +kernel) (by decide) rfl) rfl intent_evidence
    (by decide +kernel)

theorem genesis_isSome : (Audit.resolveChain sampleRuntime.digests queueingRequest.pseudonymizer
    Audit.sampleDirectory sampleDraws intentCall.tenant none).toOption.isSome = true := by
  simp only [Audit.resolveChain, Audit.insertLocked, Audit.insertRow, Audit.insertNew,
    Audit.maybeCheckpointLocked, Audit.payloadHash_eq]
  decide +kernel

/-- The chain with its first event. -/
def genesisChain : AuditChain := Option.get _ genesis_isSome

theorem genesisChain_eq : Audit.resolveChain sampleRuntime.digests queueingRequest.pseudonymizer
    Audit.sampleDirectory sampleDraws intentCall.tenant none = .ok genesisChain :=
  toOption_eq_some.mp (Option.some_get genesis_isSome).symm

theorem intent_isSome : ((Audit.insertLocked sampleRuntime.digests queueingRequest.pseudonymizer
    Audit.sampleDirectory sampleDraws sampleDraws.eventId intentArguments
    genesisChain).toOption.map Prod.snd).isSome = true := by
  simp only [genesisChain, Audit.resolveChain, Audit.insertLocked, Audit.insertRow, Audit.insertNew,
    Audit.maybeCheckpointLocked, Audit.payloadHash_eq]
  decide +kernel

/-- The chain with the event of the cancellation. -/
def intentChain : AuditChain := Option.get _ intent_isSome

theorem intent_appended : ∃ receipt, Audit.append sampleRuntime.digests
    queueingRequest.pseudonymizer Audit.sampleDirectory sampleDraws intentCall none =
      .ok (receipt, intentChain) := by
  obtain ⟨receipt, h⟩ := exists_of_map_snd (Option.some_get intent_isSome).symm
  exact ⟨receipt, (Audit.append_eq intent_prepared genesisChain_eq rfl rfl).trans h⟩

theorem intentChain_opened : Opened sampleRuntime.digests intentChain := by
  obtain ⟨receipt, h⟩ := intent_appended
  exact (Audit.Opened.append (by simp) h).1

/-- The job of the cancellation and its row. -/
def queuedJob : AgentJob :=
  LedgerState.turnoverJob sampleScope (sampleCancellation "document-1") sampleOperation
    .lkReceiptCancel

def queuedJobRow : Web.AgentJobRecord :=
  WebTables.enqueuedRow sampleRuntime.digests.sha256 (some sampleScope) none queuedJob
    { purpose := turnoverPurpose, availableAt := 0 }

example : queuedJobRow.job.jobType.value = "LK_RECEIPT_CANCEL" := by decide +kernel

/-- The event of the job. -/
def jobCall : AppendCall := LedgerState.jobCreatedCall queueingRequest sampleScope queuedJobRow

theorem job_registered : (Audit.auditEventRegistry jobCall.eventType).isSome = true := by
  decide +kernel

def jobArguments : InsertArguments :=
  jobCall.arguments (Option.get _ job_registered) {} jobCall.metadata sampleDraws.now

theorem job_sanitized : Audit.sanitizeMetadata queueingRequest.pseudonymizer
    sampleRuntime.digests (some "org") jobCall.metadata = .ok jobCall.metadata := by
  have hpayload : queuedJobRow.payloadSha256.length = 64 := Sha256.length_hexdigest _
  have hsizes : [Json.str queuedJobRow.job.jobType.value, .str queuedJobRow.purpose,
      .int queuedJobRow.deliveryCount, .str queuedJobRow.payloadSha256].map Audit.plainSize =
        [108, 72, 7, 390] := by
    have hshort : Audit.plainSize (.str queuedJobRow.job.jobType.value) = 108 ∧
        Audit.plainSize (.str queuedJobRow.purpose) = 72 ∧
        Audit.plainSize (.int queuedJobRow.deliveryCount) = 7 := by decide +kernel
    simp only [List.map_cons, List.map_nil, hshort.1, hshort.2.1, hshort.2.2,
      plainSize_of_length hpayload]
  exact sample_sanitized (by decide +kernel) (by decide +kernel) rfl hsizes (by decide)
    (by decide +kernel) (by decide)

theorem job_prepared : Audit.prepareAppend sampleRuntime.digests queueingRequest.pseudonymizer
    Audit.sampleDirectory queueingRequest.jobDraws.now jobCall = .ok jobArguments := by
  have hactor : Audit.actorSnapshot queueingRequest.pseudonymizer sampleRuntime.digests
      Audit.sampleDirectory (Option.get _ job_registered) jobCall.actor jobCall.tenant
      jobCall.metadata = .ok ({}, jobCall.metadata) := by
    rw [Audit.actorSnapshot, if_neg (by decide +kernel)]
    rfl
  exact Audit.prepareAppend_eq_arguments (Option.some_get _).symm (by decide +kernel)
    (by decide +kernel) (by decide +kernel) hactor job_sanitized
    (Audit.subjectOf_plain (by decide +kernel) (by decide) rfl) rfl rfl (by decide +kernel)

theorem job_isSome : ((Audit.insertLocked sampleRuntime.digests queueingRequest.pseudonymizer
    Audit.sampleDirectory queueingRequest.jobDraws queueingRequest.jobDraws.eventId jobArguments
    intentChain).toOption.map Prod.snd).isSome = true := by
  simp only [intentChain, genesisChain, Audit.resolveChain, Audit.insertLocked, Audit.insertRow,
    Audit.insertNew, Audit.maybeCheckpointLocked, Audit.payloadHash_eq]
  decide +kernel

/-- The chain with the event of the job. -/
def jobChain : AuditChain := Option.get _ job_isSome

theorem job_appended : ∃ receipt, Audit.append sampleRuntime.digests
    queueingRequest.pseudonymizer Audit.sampleDirectory queueingRequest.jobDraws jobCall
    (some intentChain) = .ok (receipt, jobChain) := by
  obtain ⟨receipt, h⟩ := exists_of_map_snd (Option.some_get job_isSome).symm
  exact ⟨receipt, (Audit.append_eq job_prepared
    (Audit.resolveChain_opened intentChain_opened _) rfl rfl).trans h⟩

theorem jobChain_opened : Opened sampleRuntime.digests jobChain := by
  obtain ⟨receipt, h⟩ := job_appended
  exact (Audit.Opened.append (by simp [intentChain_opened]) h).1

/-! ### Queueing and recording -/

/-- The reply to the cancellation. -/
def queuedReply : QueueReply :=
  ⟨sampleOperation.requestId, sampleOperation.operationId, "pending",
    sampleOperation.idempotencyKey⟩

example : (queuedReply.operationId, queuedReply.idempotencyKey) =
    (sampleOperation.operationId, sampleOperation.idempotencyKey) := by decide +kernel

theorem sampleOperation_fits : sampleOperation.fits = true := by
  simp only [TurnoverOperationLedgerRecord.fits, Bool.and_eq_true]
  refine ⟨⟨⟨⟨⟨?_, Web.fitsString_hexdigest _⟩, ?_⟩, rfl⟩, ?_⟩, rfl⟩
  · decide +kernel
  · decide +kernel
  · decide +kernel

theorem operations_isSome :
    ((LedgerState.initial sampleWeb).turnover.insert sampleOperation).isSome = true := rfl

theorem jobs_isSome : (sampleWeb.jobs.insert queuedJobRow).isSome = true := rfl

/-- The tables with the cancellation and with its job. -/
def queuedOperations : Table TurnoverOperationLedgerRecord.key := Option.get _ operations_isSome

def queuedWeb : WebTables := { sampleWeb with jobs := Option.get _ jobs_isSome }

theorem queuedOperations_find :
    queuedOperations.find? sampleOperation.operationId = some sampleOperation :=
  Table.find?_insert_self (Option.some_get operations_isSome).symm

theorem insertTurnover_sample : (LedgerState.initial sampleWeb).insertTurnover sampleOperation =
    .ok { LedgerState.initial sampleWeb with turnover := queuedOperations } := by
  have hinsert : (LedgerState.initial sampleWeb).turnover.insert sampleOperation =
      some queuedOperations := (Option.some_get operations_isSome).symm
  rw [LedgerState.insertTurnover, if_neg (not_not.mpr sampleOperation_fits), if_neg (by decide),
    hinsert]

theorem enqueue_sample : sampleWeb.enqueue sampleRuntime.digests.sha256 sampleRuntime.contracts
    queueingRequest.web (some sampleScope) queuedJob
    { purpose := turnoverPurpose, availableAt := 0 } = .ok (queuedJob, queuedWeb) := by
  have hvalid : queuedJob.validate sampleRuntime.digests.sha256 sampleRuntime.contracts =
      .ok () := by decide +kernel
  have hbinding : queueingRequest.web.jobBinding (some sampleScope) queuedJob.jobType =
      .ok none := by decide +kernel
  rw [WebTables.enqueue]
  simp only [hvalid, hbinding]
  rfl

/-- An append to the chain of the organisation. -/
theorem append_sample {request : LedgerRequest} {draws : Draws} {call : AppendCall}
    {s : LedgerState} {chain : AuditChain}
    (h : ∃ receipt, Audit.append sampleRuntime.digests request.pseudonymizer request.directory
      draws call (s.chains "org") = .ok (receipt, chain)) :
    s.append sampleRuntime request draws "org" call =
      .ok { s with chains := update s.chains "org" (some chain) } := by
  obtain ⟨receipt, h⟩ := h
  rw [LedgerState.append, h]
  rfl

/-- The cancellation is queued as new. -/
theorem queueing_accepted : ∃ s : LedgerState,
    (LedgerState.initial sampleWeb).queueTurnover sampleRuntime queueingRequest
        (sampleCancellation "document-1") = .ok (queuedReply, s) ∧
      s.turnover = queuedOperations ∧ s.chains "org" = some jobChain := by
  have hcheck : (sampleCancellation "document-1").check = .ok () := by decide +kernel
  have htype : AgentJobType.ofValue? sampleOperation.documentType = some .lkReceiptCancel := by
    decide +kernel
  let inserted := { LedgerState.initial sampleWeb with turnover := queuedOperations }
  let recorded := { inserted with
    chains := update inserted.chains "org" (some intentChain) }
  have hrecorded : inserted.immutable sampleRuntime queueingRequest turnoverLedger
      (LedgerState.turnoverIntent sampleRuntime sampleScope sampleOperation) = .ok recorded :=
    immutable_eq_ok.mpr ⟨sampleScope, rfl, append_sample intent_appended⟩
  have hqueued : recorded.enqueue sampleRuntime queueingRequest sampleScope queuedJob
      turnoverPurpose = .ok { recorded with
        web := queuedWeb
        chains := update recorded.chains "org" (some jobChain) } :=
    enqueue_of_parts enqueue_sample rfl
      (Table.find?_insert_self (Option.some_get jobs_isSome).symm) (append_sample job_appended)
  obtain ⟨last, hcreate, hturnover, hchains⟩ := createTurnover_of_parts insertTurnover_sample
    hrecorded htype hqueued
  have hnone : ∀ id, (LedgerState.initial sampleWeb).turnoverRow sampleScope id = none :=
    fun id => rfl
  have hqueue : (LedgerState.initial sampleWeb).queueTurnover sampleRuntime queueingRequest
      (sampleCancellation "document-1") = (LedgerState.initial sampleWeb).createTurnover
        sampleRuntime queueingRequest sampleScope (sampleCancellation "document-1")
        sampleOperation := queueTurnover_of_none (by decide) rfl hcheck (hnone _)
  refine ⟨last, hqueue.trans hcreate, hturnover, ?_⟩
  rw [hchains]
  exact update_self "org" (some jobChain) recorded.chains

/-- The event of the document. -/
def documentCall : AppendCall :=
  turnoverLedger.appendCall recordingRequest sampleScope
    (LedgerState.turnoverRemoteResult sampleRuntime sampleOperation "document-2")

def documentMetadata : List (String × Json) :=
  documentCall.metadata ++
    [("machine_principal_hmac", .str (samplePseudonym "turnover-result-worker"))]

theorem document_registered : (Audit.auditEventRegistry documentCall.eventType).isSome = true := by
  decide +kernel

def documentArguments : InsertArguments :=
  documentCall.arguments (Option.get _ document_registered) {} documentMetadata
    recordingRequest.draws.now

theorem document_evidence :
    documentCall.evidenceHashes.mapM Audit.safeHash = .ok documentCall.evidenceHashes := by
  show List.mapM Audit.safeHash [some sampleOperation.documentSha256,
    some (canonicalHash sampleRuntime _)] = _
  simp only [List.mapM_cons, safeHash_document, safeHash_canonicalHash]
  rfl

theorem document_sanitized : Audit.sanitizeMetadata queueingRequest.pseudonymizer
    sampleRuntime.digests (some "org") documentMetadata = .ok documentMetadata := by
  have hrequest : sampleOperation.requestSha256.length = 64 := length_canonicalHash _
  have hdocument : "document-2".length = 10 := by decide
  have hsizes : [Json.str sampleOperation.operationKind, .str sampleOperation.documentType,
      .str sampleOperation.documentSha256, .str "document-2", .str sampleOperation.requestSha256,
      .str (samplePseudonym "turnover-result-worker")].map Audit.plainSize =
        [108, 108, 390, 66, 390, 516] := by
    simp only [List.map_cons, List.map_nil, plainSize_of_length sampleOperation_lengths.2.1,
      plainSize_of_length sampleOperation_lengths.2.2.1,
      plainSize_of_length sampleOperation_lengths.2.2.2, plainSize_of_length hdocument,
      plainSize_of_length hrequest,
      plainSize_of_length (length_samplePseudonym "turnover-result-worker")]
  exact sample_sanitized (by decide +kernel) (by decide +kernel) rfl hsizes (by decide)
    (by decide +kernel) (by decide)

theorem document_prepared : Audit.prepareAppend sampleRuntime.digests
    recordingRequest.pseudonymizer Audit.sampleDirectory recordingRequest.draws.now documentCall =
      .ok documentArguments := by
  have hallowed : Audit.ActorKind.worker ∈
      (Option.get _ document_registered).allowedActorKinds := by decide +kernel
  have hprincipal : "turnover-result-worker" ≠ "" := by decide
  have hnew : (Json.lookup documentCall.metadata "machine_principal_hmac").isSome = false := by
    decide +kernel
  have hactor : Audit.actorSnapshot recordingRequest.pseudonymizer sampleRuntime.digests
      Audit.sampleDirectory (Option.get _ document_registered) documentCall.actor
      documentCall.tenant documentCall.metadata = .ok ({}, documentMetadata) :=
    Audit.actorSnapshot_worker hallowed hprincipal (samplePseudonym_eq _) hnew
  exact Audit.prepareAppend_eq_arguments (Option.some_get _).symm (by decide +kernel)
    (by decide +kernel) (by decide +kernel) hactor document_sanitized
    (Audit.subjectOf_plain (by decide +kernel) (by decide) rfl) rfl document_evidence
    (by decide +kernel)

theorem document_isSome : ((Audit.insertLocked sampleRuntime.digests
    recordingRequest.pseudonymizer Audit.sampleDirectory recordingRequest.draws
    recordingRequest.draws.eventId documentArguments jobChain).toOption.map Prod.snd).isSome =
      true := by
  simp only [jobChain, intentChain, genesisChain, Audit.resolveChain, Audit.insertLocked,
    Audit.insertRow, Audit.insertNew, Audit.maybeCheckpointLocked, Audit.payloadHash_eq]
  decide +kernel

theorem document_appended : ∃ receipt, Audit.append sampleRuntime.digests
    recordingRequest.pseudonymizer Audit.sampleDirectory recordingRequest.draws documentCall
    (some jobChain) = .ok (receipt, Option.get _ document_isSome) := by
  obtain ⟨receipt, h⟩ := exists_of_map_snd (Option.some_get document_isSome).symm
  exact ⟨receipt, (Audit.append_eq document_prepared
    (Audit.resolveChain_opened jobChain_opened _) rfl rfl).trans h⟩

/-- The id of a document is recorded for the queued cancellation. -/
theorem recording_accepted {s : LedgerState} (hrow : s.turnover = queuedOperations)
    (hchain : s.chains "org" = some jobChain) :
    ∃ s', s.recordTurnoverDocument sampleRuntime recordingRequest sampleOperation.operationId
      "document-2" = .ok s' := by
  have hfound : s.turnoverRow sampleScope sampleOperation.operationId = some sampleOperation := by
    refine turnoverRow_eq_some.mpr ⟨?_, rfl, rfl⟩
    rw [hrow, queuedOperations_find]
  have hfits : (LedgerState.TurnoverProgress.apply ⟨sampleOperation.reconciliationState,
      sampleOperation.reconciliationJson, some "document-2"⟩ sampleOperation).fits = true := by
    have hfits := sampleOperation_fits
    simp only [TurnoverOperationLedgerRecord.fits, Bool.and_eq_true] at hfits
    have hdocument : Option.all (Web.fitsString 512) (some "document-2") = true := by
      decide +kernel
    simp only [TurnoverOperationLedgerRecord.fits, LedgerState.TurnoverProgress.apply,
      hfits.1, hdocument, Bool.and_self]
  have happend : ∃ receipt, Audit.append sampleRuntime.digests recordingRequest.pseudonymizer
      recordingRequest.directory recordingRequest.draws documentCall (s.chains "org") =
        .ok (receipt, Option.get _ document_isSome) := by
    rw [hchain]
    exact document_appended
  exact recordTurnoverDocument_of_parts rfl hfound (by decide) rfl hfits happend

theorem repeated_document_rejected : ∃ (s s' : LedgerState) (call : LedgerCall),
    call.perform sampleRuntime recordingRequest s = .ok s' ∧
      ∃ e, call.perform sampleRuntime repeatingRequest s' = .error e := by
  obtain ⟨s, hqueued, hrow, hchain⟩ := queueing_accepted
  obtain ⟨s', hrecorded⟩ := recording_accepted hrow hchain
  exact ⟨s, s', .recordTurnoverDocument sampleOperation.operationId "document-2", hrecorded,
    repeated_call_rejected (.single (.queueTurnover hqueued)) hrecorded .nil (by decide)⟩

/-- A document id that was recorded in one request is not taken again in the next. -/
theorem recorded_document_conflicts :
    ∃ (actions : List LedgerAction) (s s' : LedgerState) (operationId documentId : String),
      Transition.Run (LedgerStep sampleRuntime) (.initial sampleWeb) actions s ∧
      s.recordTurnoverDocument sampleRuntime recordingRequest operationId documentId = .ok s' ∧
      repeatingRequest.requestId ≠ recordingRequest.requestId ∧
      ∀ t, s'.recordTurnoverDocument sampleRuntime repeatingRequest operationId documentId ≠
        .ok t := by
  obtain ⟨s, hqueued, hrow, hchain⟩ := queueing_accepted
  obtain ⟨s', hrecorded⟩ := recording_accepted hrow hchain
  have hother : repeatingRequest.requestId ≠ recordingRequest.requestId := by decide
  have reach := Transition.Run.single (LedgerStep.queueTurnover hqueued)
  refine ⟨_, s, s', sampleOperation.operationId, "document-2", reach, hrecorded, hother, ?_⟩
  intro t hrepeated
  have hsame := @requestId_of_repeated _ _ repeatingRequest _ _ _
    (.recordTurnoverDocument sampleOperation.operationId "document-2") _ _ (run_opened reach)
    hrecorded .nil hrepeated
  exact hother hsame

theorem queued_again_cancellation : ∃ (s s' s'' : LedgerState) (reply : QueueReply),
    s.queueTurnover sampleRuntime queueingRequest (sampleCancellation "document-1") =
      .ok (reply, s') ∧
    ((∀ reply' t, s''.queueTurnover sampleRuntime repeatingRequest
          (sampleCancellation "document-3") = .ok (reply', t) →
        reply'.status = "deduplicated" ∧ t.turnover = s''.turnover ∧
          (sampleCancellation "document-1").SameRequest (sampleCancellation "document-3")) ↔
      ((sampleCancellation "document-3").check = .ok () →
        (sampleCancellation "document-1").SameDocument (sampleCancellation "document-3") →
        (sampleCancellation "document-1").SameRequest (sampleCancellation "document-3"))) := by
  obtain ⟨s, hqueued, -⟩ := queueing_accepted
  exact ⟨_, s, s, queuedReply, hqueued, queued_again_iff .nil hqueued rfl .nil rfl rfl rfl rfl
    rfl⟩

/-- A cancellation with another reference is taken for the one that was queued. -/
theorem other_reference_deduplicated :
    ∃ (actions : List LedgerAction) (s s'' t : LedgerState) (first second : QueueReply),
      (LedgerState.initial sampleWeb).queueTurnover sampleRuntime queueingRequest
        (sampleCancellation "document-1") = .ok (first, s) ∧ first.status = "pending" ∧
      Transition.Run (LedgerStep sampleRuntime) s actions s'' ∧
      s''.queueTurnover sampleRuntime repeatingRequest (sampleCancellation "document-3") =
        .ok (second, t) ∧
      second.status = "deduplicated" ∧ t.turnover = s''.turnover ∧
      ¬ (sampleCancellation "document-1").SameRequest (sampleCancellation "document-3") := by
  obtain ⟨s, hqueued, hrow, -⟩ := queueing_accepted
  have hfound : s.turnoverRow sampleScope (tenantOperationId sampleRuntime.digests sampleScope
      "m5-turnover" (sampleCancellation "document-3").operationId "m5_") =
        some sampleOperation := by
    refine turnoverRow_eq_some.mpr ⟨?_, rfl, rfl⟩
    rw [hrow]
    exact queuedOperations_find
  have hagain : s.queueTurnover sampleRuntime repeatingRequest (sampleCancellation "document-3") =
      s.replayTurnover sampleScope (sampleCancellation "document-3") sampleOperation :=
    queueTurnover_of_row (by decide) rfl (by decide +kernel) hfound
  refine ⟨[], s, s, _, queuedReply, _, hqueued, rfl, .nil,
    hagain.trans (replayTurnover_eq_ok.mpr ⟨by decide +kernel, rfl, rfl⟩), rfl, rfl, ?_⟩
  intro hsame
  exact absurd hsame.cancellationReference (by decide)

end Sample

end Wbcz.Ledgers

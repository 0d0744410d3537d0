import Wbcz.Audit.Tampering

/-!
# Event keys and traces

An event is stored with the trace of the append that made it, and a trace is part of what an
event key stands for: under the key of a stored event only the trace of that event is accepted.
-/

namespace Wbcz.Audit

section Traces

variable {digests : Digests} {p : AuditPseudonymizer} {directory : Directory} {draws : Draws}
  {chain chain' : AuditChain} {call : AppendCall} {receipt : AuditReceipt}
  {stored : Option AuditChain}

theorem safeId_eq {value value' : Option String} {maxLength : Nat}
    (h : safeId value maxLength = .ok value') : value' = value := by
  cases value with
  | none =>
    cases h
    rfl
  | some text =>
    rw [safeId, Fallible.guard_eq_ok] at h
    exact (Except.ok.inj h.2).symm

/-- The check of a trace does not change it. -/
theorem normalizedTrace_eq {trace normal : TraceContext}
    (h : normalizedTrace trace = .ok normal) : normal = trace := by
  simp only [normalizedTrace, Fallible.bind_eq_ok] at h
  obtain ⟨_, hrequest, _, hcorrelation, _, hcausation, _, hoperation, _, hjob, _, hkey, heq⟩ := h
  cases heq
  rw [safeId_eq hrequest, safeId_eq hcorrelation, safeId_eq hcausation, safeId_eq hoperation,
    safeId_eq hjob, safeId_eq hkey]

theorem rowSemantic_trace {row : AuditEventRecord} {s : SemanticPayload}
    (h : rowSemantic row = .ok s) : s.trace = row.trace := by
  unfold rowSemantic at h
  split at h
  · cases h
  · simp only [Fallible.bind_eq_ok] at h
    obtain ⟨permissions, -, metadata, -, evidence, -, hs⟩ := h
    cases hs
    rfl

theorem contentKeys_nodup (s : SemanticPayload) :
    ((("audit_format_version", Json.str auditFormatVersion) :: s.contentFields).map
      Prod.fst).Nodup := by
  simp [SemanticPayload.contentFields]

/-- Semantic payloads with one canonical text have one trace. -/
theorem SemanticPayload.trace_eq {s t : SemanticPayload} {bytes : List UInt8}
    (hs : jcsBytes s.toJson = .ok bytes) (ht : jcsBytes t.toJson = .ok bytes) :
    s.trace = t.trace :=
  trace_eq_of_fields (contentKeys_nodup s) (contentKeys_nodup t)
    (Jcs.bytes_injective (jcsBytes_eq_ok.mp hs) (jcsBytes_eq_ok.mp ht)) rfl rfl

/-- What an insertion leaves under its key has its trace. -/
theorem Sound.insertRow_trace {eventId : Uuid4} {args : InsertArguments}
    {row? : Option AuditEventRecord} (hc : Sound digests chain)
    (hregistered : auditEventRegistry args.definition.eventType = some args.definition)
    (hfirst : chain.events = [] → args.definition.eventType = "AUDIT_CHAIN_GENESIS")
    (h : Audit.insertRow digests p directory eventId args chain = .ok (receipt, row?, chain')) :
    ∃ row ∈ chain'.events, row.trace = args.trace := by
  obtain ⟨s, hs, hcase⟩ := insertRow_cases h
  obtain ⟨hwritten, htype, htrace⟩ := written_insertSemantic hregistered hs
  rcases hcase with ⟨existing, offered, bytes, hkey, hexisting, hbytes, hoffered, -, -, rfl⟩ |
    ⟨-, row, hnew, -, -⟩
  · -- the stored event was accepted in its place, so its payload has the same text
    have hmem : existing ∈ chain'.events := by
      unfold AuditChain.byKey at hkey
      split at hkey
      · rw [hc.rows_eq] at hkey
        exact List.mem_of_find?_eq_some hkey
      · cases hkey
    refine ⟨existing, hmem, ?_⟩
    rw [← rowSemantic_trace hexisting, SemanticPayload.trace_eq hbytes hoffered, htrace]
  · rw [← htype] at hfirst
    obtain ⟨-, rfl, -, -, hrow⟩ := hc.insertNew hwritten hfirst hnew
    exact ⟨row, by simp [AuditChain.push], hrow.trans htrace⟩

/-- After an append its trace is the trace of an event. -/
theorem append_trace (hstored : ∀ chain, stored = some chain → Opened digests chain)
    (h : append digests p directory draws call stored = .ok (receipt, chain')) :
    ∃ row ∈ chain'.events, row.trace = call.trace := by
  obtain ⟨args, chain, before, after, hargs, hchain, -, -, hinsert⟩ := append_cases h
  obtain ⟨hregistered, -, hnormal⟩ := prepareAppend_spec hargs
  obtain ⟨hopened, -⟩ := resolveChain_spec hstored hchain
  obtain ⟨row?, middle, hrow, hcase⟩ := insertLocked_cases hinsert
  obtain ⟨row, hmem, htrace⟩ := hopened.sound.insertRow_trace (by exact hregistered)
    (fun hnil => absurd hnil hopened.nonempty) hrow
  obtain ⟨hmiddle, -, -, -, hnew⟩ := hopened.sound.insertRow (by exact hregistered)
    (fun hnil => absurd hnil hopened.nonempty) hrow
  refine ⟨row, ?_, htrace.trans (normalizedTrace_eq hnormal)⟩
  rcases hcase with rfl | ⟨last, hlast, -, hcheckpoint⟩
  · exact hmem
  · obtain ⟨hlastMem, hsequence, -, -⟩ := hnew last hlast
    obtain ⟨-, -, rows, hrows, -⟩ := hmiddle.maybeCheckpoint hlastMem hsequence hcheckpoint
    rw [hrows]
    exact List.mem_append_left rows hmem

/-- Appends and the opening of a chain keep its events. -/
theorem AuditStep.keeps {organisationId : Option String} {action : AuditAction}
    (hstored : ∀ chain, stored = some chain → Opened digests chain)
    (hstep : AuditStep digests organisationId stored action (some chain')) :
    Opened digests chain' ∧
      ∀ chain, stored = some chain → ∀ row ∈ chain.events, row ∈ chain'.events := by
  cases hstep with
  | resolve h =>
    obtain ⟨hopened, hsame | ⟨hnone, -⟩⟩ := resolveChain_spec hstored h
    · refine ⟨hopened, ?_⟩
      intro chain hchain row hrow
      cases hsame.symm.trans hchain
      exact hrow
    · refine ⟨hopened, ?_⟩
      intro chain hchain
      rw [hnone] at hchain
      cases hchain
  | append hscope h =>
    obtain ⟨hopened, before, hbefore, rows, hrows, -⟩ := Opened.append hstored h
    refine ⟨hopened, ?_⟩
    intro chain hchain row hrow
    rw [hchain, resolveChain_opened (hstored chain hchain)] at hbefore
    cases hbefore
    rw [hrows]
    exact List.mem_append_left rows hrow

/-- Under the key of a stored event an append is accepted only with the trace of that event. -/
theorem trace_of_eventKey {row : AuditEventRecord} {key : String} (hc : Opened digests chain)
    (hrow : row ∈ chain.events) (hrowKey : row.trace.eventKey = some key)
    (hkey : call.trace.eventKey = some key)
    (h : append digests p directory draws call (some chain) = .ok (receipt, chain')) :
    call.trace = row.trace := by
  have hstored : ∀ found, some chain = some found → Opened digests found := by
    intro found hfound
    cases hfound
    exact hc
  obtain ⟨other, hother, htrace⟩ := append_trace hstored h
  obtain ⟨hopened, hkept⟩ := AuditStep.keeps hstored (.append rfl h)
  have hsame : other = row :=
    eq_of_filterMap_nodup hopened.sound.keys hother (hkept chain rfl row hrow)
      (by rw [htrace, hkey]) hrowKey
  rw [← htrace, hsame]

end Traces

end Wbcz.Audit

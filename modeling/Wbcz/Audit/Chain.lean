import Wbcz.Audit.Service
import Wbcz.Lib.HashChain
import Wbcz.Lib.Sha256
import Wbcz.Lib.Transition

/-!
# What every audit chain satisfies

The invariant that appends carry through the event that opens a chain, the checkpoints and
the replays: sequences without a gap, events and checkpoints linked by their hashes, and rows
that say what the registry says. The verifier accepts exactly such chains.
-/

namespace Wbcz.Audit

open Fallible (bind_eq_ok guard_eq_ok map_eq_ok)

/-- The columns have the form the service writes, and category and action are those the
registry has for the event type. -/
structure Faithful (row : AuditEventRecord) : Prop where
  registered : ∃ definition, auditEventRegistry row.eventType = some definition ∧
    row.category = definition.category.value ∧ row.action = definition.action
  eventId : canonicalUuid row.eventId = .ok row.eventId
  permissions : row.permissionSnapshotJson = .null ∨
    ∃ texts : List String, row.permissionSnapshotJson = .arr (texts.map Json.str)
  evidence : ∃ texts : List String, row.evidenceHashesJson = .arr (texts.map Json.str)
  metadata : ∃ fields, row.metadataSanitizedJson = .obj fields

/-- The verifier finds nothing wrong with the row by itself. -/
structure Verifies (digests : Digests) (row : AuditEventRecord) : Prop where
  format : row.auditFormatVersion = auditFormatVersion
  hash : ∃ payload, rowPayload row = .ok payload ∧ payloadHash digests payload = .ok row.eventHash
  genesis : row.sequence = 1 →
    row.eventType = "AUDIT_CHAIN_GENESIS" ∧ row.previousEventHash = zeroHash

/-- A checkpoint carries its own hash and the hash of an event there is. -/
structure CheckpointSound (digests : Digests) (events : List AuditEventRecord)
    (checkpoint : AuditCheckpointRecord) : Prop where
  format : checkpoint.checkpointFormatVersion = checkpointFormatVersion
  hash : ∃ payload, checkpointPayload checkpoint = .ok payload ∧
    payloadHash digests payload = .ok checkpoint.checkpointHash
  event : ∃ row ∈ events, row.sequence = checkpoint.throughSequence ∧
    row.eventHash = checkpoint.headEventHash

/-- A chain as appends leave it. -/
structure Sound (digests : Digests) (chain : AuditChain) : Prop where
  format : chain.head.auditFormatVersion = auditFormatVersion
  canonical : canonicalUuid chain.head.chainId = .ok chain.head.chainId
  sequences : chain.events.map AuditEventRecord.sequence = List.range' 1 chain.events.length
  headSequence : chain.head.headSequence = chain.events.length
  linked : HashChain.Linked AuditEventRecord.previousEventHash AuditEventRecord.eventHash
    zeroHash chain.events
  headHash : chain.head.headHash =
    HashChain.last AuditEventRecord.eventHash zeroHash chain.events
  ownRows : ∀ row ∈ chain.events, row.chainId = chain.head.chainId
  faithful : ∀ row ∈ chain.events, Faithful row
  verifies : ∀ row ∈ chain.events, Verifies digests row
  keys : (chain.events.filterMap fun row => row.trace.eventKey).Nodup
  checkpoints : ∀ checkpoint ∈ chain.checkpoints,
    CheckpointSound digests chain.events checkpoint
  increasing : chain.checkpoints.Pairwise fun a b => a.throughSequence < b.throughSequence
  checkpointsLinked : HashChain.Linked AuditCheckpointRecord.previousCheckpointHash
    AuditCheckpointRecord.checkpointHash zeroHash chain.checkpoints

section Rows

variable {digests : Digests} {chain chain' : AuditChain} {row : AuditEventRecord}
  {s : SemanticPayload}

theorem Sound.rows_eq (hc : Sound digests chain) : chain.rows = chain.events :=
  List.filter_eq_self.mpr fun row hrow => decide_eq_true (hc.ownRows row hrow)

/-- The sequence of an event lies between one and the head. -/
theorem Sound.sequence_mem (hc : Sound digests chain) (hrow : row ∈ chain.events) :
    1 ≤ row.sequence ∧ row.sequence ≤ chain.events.length := by
  have hmem : row.sequence ∈ List.range' 1 chain.events.length := by
    rw [← hc.sequences]
    exact List.mem_map_of_mem hrow
  rw [List.mem_range'_1] at hmem
  omega

/-- Elements with one key are one element when the keys of a list are distinct. -/
theorem eq_of_filterMap_nodup {α β : Type} {f : α → Option β} {l : List α} {a b : α} {key : β}
    (h : (l.filterMap f).Nodup) (ha : a ∈ l) (hb : b ∈ l) (hfa : f a = some key)
    (hfb : f b = some key) : a = b := by
  induction l with
  | nil => cases ha
  | cons c l ih =>
    have absent : ∀ {d}, d ∈ l → f d = some key → f c = some key → False := by
      intro d hd hfd hfc
      rw [List.filterMap_cons, hfc, List.nodup_cons] at h
      exact h.1 (List.mem_filterMap.mpr ⟨d, hd, hfd⟩)
    have hrest : (l.filterMap f).Nodup := h.sublist ((List.sublist_cons_self c l).filterMap f)
    rcases List.mem_cons.mp ha with rfl | ha'
    · rcases List.mem_cons.mp hb with rfl | hb'
      · rfl
      · exact (absent hb' hfb hfa).elim
    · rcases List.mem_cons.mp hb with rfl | hb'
      · exact (absent ha' hfa hfb).elim
      · exact ih hrest ha' hb'

/-- Events of one sequence are one event. -/
theorem Sound.eq_of_sequence {other : AuditEventRecord} (hc : Sound digests chain)
    (hrow : row ∈ chain.events) (hother : other ∈ chain.events)
    (h : row.sequence = other.sequence) : row = other := by
  have hnodup : (chain.events.map AuditEventRecord.sequence).Nodup := by
    rw [hc.sequences]
    exact List.nodup_range'
  exact List.inj_on_of_nodup_map hnodup hrow hother h

/-- What `_insert_locked` turns into a row. -/
structure Written (s : SemanticPayload) : Prop where
  registered : ∃ definition, auditEventRegistry s.eventType = some definition ∧
    s.category = definition.category.value ∧ s.action = definition.action
  permissions : s.permissionSnapshot = .null ∨
    ∃ texts : List String, s.permissionSnapshot = .arr (texts.map Json.str)
  evidence : ∃ texts : List String, s.evidenceHashes = texts.map Json.str

theorem pyList_orDefault (items : List Json) :
    pyList (orDefault (.arr items) (.arr [])) = .ok items := by
  cases items <;> rfl

theorem pyDict_orDefault (fields : List (String × Json)) :
    pyDict (orDefault (.obj fields) (.obj [])) = .ok fields := by
  cases fields <;> rfl

/-- A faithful row reads back as its columns. -/
theorem Faithful.rowSemantic_eq {definition : RegisteredAuditEvent} {evidence : List Json}
    {metadata : List (String × Json)} (hrow : Faithful row)
    (hdefinition : auditEventRegistry row.eventType = some definition)
    (hevidence : row.evidenceHashesJson = .arr evidence)
    (hmetadata : row.metadataSanitizedJson = .obj metadata) :
    rowSemantic row =
      .ok (rowColumns row definition row.permissionSnapshotJson evidence metadata) := by
  have hpermissions : rowPermissions row = .ok row.permissionSnapshotJson := by
    rcases hrow.permissions with h | ⟨items, h⟩
    · rw [rowPermissions, h]
    · rw [rowPermissions, h]
      rfl
  rw [rowSemantic, hdefinition, hpermissions, hevidence, hmetadata, pyList_orDefault,
    pyDict_orDefault]
  rfl

/-- An inserted row reads back as the payload it was made of. -/
theorem rowSemantic_eventRow {chainId eventId previousHash hash : String} {sequence : Nat}
    {at' : Instant} (hs : Written s) :
    rowSemantic (eventRow s chainId sequence eventId at' previousHash hash) = .ok s := by
  obtain ⟨definition, hregistered, hcategory, haction⟩ := hs.registered
  have hpermissions :
      rowPermissions (eventRow s chainId sequence eventId at' previousHash hash) =
        .ok s.permissionSnapshot := by
    rcases hs.permissions with h | ⟨items, h⟩
    · simp only [rowPermissions, eventRow, h]
    · simp only [rowPermissions, eventRow, h]
      rfl
  have htype := eventType_of_registered hregistered
  simp only [rowSemantic, hpermissions]
  simp only [eventRow, hregistered, pyList_orDefault, pyDict_orDefault]
  show Except.ok (rowColumns _ _ _ _ _) = _
  simp only [rowColumns, ← hcategory, ← haction, htype]

theorem faithful_eventRow {chainId previousHash hash : String} {sequence : Nat}
    {eventId : Uuid4} {at' : Instant} (hs : Written s) :
    Faithful (eventRow s chainId sequence eventId.text at' previousHash hash) where
  registered := hs.registered
  eventId := eventId.canonical
  permissions := hs.permissions
  evidence := hs.evidence.imp fun _ h => congrArg Json.arr h
  metadata := ⟨s.metadata, rfl⟩

end Rows

/-! ## Appending keeps a chain sound -/

section Preservation

variable {digests : Digests} {p : AuditPseudonymizer} {directory : Directory} {draws : Draws}
  {chain chain' : AuditChain} {args : InsertArguments} {eventId : Uuid4} {s : SemanticPayload}
  {row : AuditEventRecord} {row? : Option AuditEventRecord} {receipt : AuditReceipt}

/-- A row that continues the chain may be appended to it. -/
theorem Sound.push (hc : Sound digests chain) (hchain : row.chainId = chain.head.chainId)
    (hsequence : row.sequence = chain.head.headSequence + 1)
    (hprevious : row.previousEventHash = chain.head.headHash) (hfaithful : Faithful row)
    (hverifies : Verifies digests row) (hviolates : violates chain row = false) :
    Sound digests (chain.push row) where
  format := hc.format
  canonical := hc.canonical
  sequences := by
    rw [hc.headSequence] at hsequence
    simp only [AuditChain.push, List.map_append, List.map_singleton, List.length_append,
      List.length_singleton, List.range'_concat, hc.sequences, hsequence]
    rw [Nat.mul_comm, Nat.mul_one, Nat.add_comm 1]
  headSequence := by
    rw [hc.headSequence] at hsequence
    simp [AuditChain.push, hsequence]
  linked := HashChain.linked_concat.mpr ⟨hc.linked, hprevious.trans hc.headHash⟩
  headHash := by
    show row.eventHash = HashChain.last AuditEventRecord.eventHash zeroHash (chain.events ++ [row])
    rw [HashChain.last_concat]
  ownRows := by
    intro other hother
    rcases List.mem_append.mp hother with hother | hother
    · exact hc.ownRows other hother
    · rw [List.mem_singleton.mp hother]
      exact hchain
  faithful := by
    intro other hother
    rcases List.mem_append.mp hother with hother | hother
    · exact hc.faithful other hother
    · rw [List.mem_singleton.mp hother]
      exact hfaithful
  verifies := by
    intro other hother
    rcases List.mem_append.mp hother with hother | hother
    · exact hc.verifies other hother
    · rw [List.mem_singleton.mp hother]
      exact hverifies
  keys := by
    simp only [violates, hc.rows_eq, Bool.or_eq_false_iff, Bool.and_eq_false_iff] at hviolates
    simp only [AuditChain.push, List.filterMap_append]
    cases hkey : row.trace.eventKey with
    | none => simpa [hkey] using hc.keys
    | some key =>
      -- the unique constraint keeps the key apart from those in the chain
      have hfresh : ∀ other ∈ chain.events, other.trace.eventKey ≠ some key := by
        simpa [hkey] using hviolates.2
      simp only [List.filterMap_cons, List.filterMap_nil, hkey]
      refine List.Nodup.append hc.keys (List.nodup_singleton key) ?_
      rw [List.disjoint_singleton]
      intro hmem
      obtain ⟨other, hother, hsame⟩ := List.mem_filterMap.mp hmem
      exact hfresh other hother hsame
  checkpoints := by
    intro checkpoint hcheckpoint
    obtain ⟨hformat, hhash, other, hother, hevent⟩ := hc.checkpoints checkpoint hcheckpoint
    exact ⟨hformat, hhash, other, List.mem_append_left _ hother, hevent⟩
  increasing := hc.increasing
  checkpointsLinked := hc.checkpointsLinked

/-- A new event keeps the chain sound; the first one opens it. -/
theorem Sound.insertNew {at' : Instant} (hc : Sound digests chain) (hs : Written s)
    (hfirst : chain.events = [] → s.eventType = "AUDIT_CHAIN_GENESIS")
    (h : insertNew digests directory s eventId at' chain = .ok (row, chain')) :
    Sound digests chain' ∧ chain' = chain.push row ∧ row.eventType = s.eventType ∧
      row.sequence = chain.head.headSequence + 1 ∧ row.trace = s.trace := by
  obtain ⟨payload, hash, hpayload, hhash, rfl, hviolates, rfl⟩ := insertNew_spec h
  refine ⟨hc.push rfl rfl rfl (faithful_eventRow hs) ?_ hviolates, rfl, rfl, rfl, rfl⟩
  refine ⟨rfl, ⟨payload, ?_, hhash⟩, ?_⟩
  · rw [rowPayload, rowSemantic_eventRow hs, bind_eq_ok]
    exact ⟨s, rfl, hpayload⟩
  · intro hone
    have hempty : chain.events = [] := by
      have hzero : chain.head.headSequence = 0 := by simpa [eventRow] using hone
      exact List.length_eq_zero_iff.mp (hc.headSequence.symm.trans hzero)
    refine ⟨hfirst hempty, ?_⟩
    show chain.head.headHash = zeroHash
    rw [hc.headHash, hempty]
    rfl

/-- What an insertion is made of, when its event is registered. -/
theorem written_insertSemantic
    (hregistered : auditEventRegistry args.definition.eventType = some args.definition)
    (h : insertSemantic digests p directory args = .ok s) :
    Written s ∧ s.eventType = args.definition.eventType ∧ s.trace = args.trace := by
  simp only [insertSemantic, bind_eq_ok] at h
  obtain ⟨snapshot, -, subject, -, secondary, -, hs⟩ := h
  cases hs
  refine ⟨⟨⟨args.definition, hregistered, rfl, rfl⟩, ?_, args.evidenceHashes, rfl⟩, rfl, rfl⟩
  cases snapshot.permissions with
  | none => exact .inl rfl
  | some permissions => exact .inr ⟨_, rfl⟩

/-- The events of a chain are those it had, and further ones of certain types. -/
def Grows (types : List String) (chain chain' : AuditChain) : Prop :=
  ∃ rows, chain'.events = chain.events ++ rows ∧ ∀ row ∈ rows, row.eventType ∈ types

theorem Grows.of_eq {types : List String} (h : chain'.events = chain.events) :
    Grows types chain chain' :=
  ⟨[], by simp [h], by simp⟩

theorem Grows.trans {types : List String} {last : AuditChain} (h : Grows types chain chain')
    (h' : Grows types chain' last) : Grows types chain last := by
  obtain ⟨rows, hrows, htypes⟩ := h
  obtain ⟨more, hmore, hmoreTypes⟩ := h'
  refine ⟨rows ++ more, by rw [hmore, hrows, List.append_assoc], ?_⟩
  intro row hrow
  exact (List.mem_append.mp hrow).elim (htypes row) (hmoreTypes row)

theorem Grows.mono {types types' : List String} (h : Grows types chain chain')
    (hsub : types ⊆ types') : Grows types' chain chain' := by
  obtain ⟨rows, hrows, htypes⟩ := h
  exact ⟨rows, hrows, fun row hrow => hsub (htypes row hrow)⟩

theorem Sound.insertRow (hc : Sound digests chain)
    (hregistered : auditEventRegistry args.definition.eventType = some args.definition)
    (hfirst : chain.events = [] → args.definition.eventType = "AUDIT_CHAIN_GENESIS")
    (h : insertRow digests p directory eventId args chain = .ok (receipt, row?, chain')) :
    Sound digests chain' ∧ chain'.checkpoints = chain.checkpoints ∧
      chain'.head.chainId = chain.head.chainId ∧
      Grows [args.definition.eventType] chain chain' ∧
      (∀ row, row? = some row → row ∈ chain'.events ∧
        row.sequence = chain'.head.headSequence ∧ row.eventHash = chain'.head.headHash ∧
        row.sequence = chain.head.headSequence + 1) := by
  obtain ⟨s, hs, hcase⟩ := insertRow_cases h
  obtain ⟨hwritten, htype, -⟩ := written_insertSemantic hregistered hs
  rcases hcase with ⟨existing, stored, bytes, -, -, -, -, -, rfl, rfl⟩ | ⟨-, row, hnew, -, rfl⟩
  · refine ⟨hc, rfl, rfl, .of_eq rfl, ?_⟩
    intro row hrow
    cases hrow
  · rw [← htype] at hfirst
    obtain ⟨hsound, rfl, hrowType, hsequence, -⟩ := hc.insertNew hwritten hfirst hnew
    refine ⟨hsound, rfl, rfl, ⟨[row], rfl, ?_⟩, ?_⟩
    · simp [hrowType, htype]
    intro other hother
    cases hother
    exact ⟨by simp [AuditChain.push], rfl, rfl, hsequence⟩

/-- A checkpoint over the last event may be added. -/
theorem Sound.addCheckpoint {checkpoint : AuditCheckpointRecord} (hc : Sound digests chain)
    (hcheckpoint : CheckpointSound digests chain.events checkpoint)
    (hlast : checkpoint.throughSequence = chain.head.headSequence)
    (hfresh : checkpoint.throughSequence ∉
      chain.checkpoints.map AuditCheckpointRecord.throughSequence)
    (hprevious : checkpoint.previousCheckpointHash =
      (chain.lastCheckpoint.map AuditCheckpointRecord.checkpointHash).getD zeroHash) :
    Sound digests { chain with checkpoints := chain.checkpoints ++ [checkpoint] } where
  format := hc.format
  canonical := hc.canonical
  sequences := hc.sequences
  headSequence := hc.headSequence
  linked := hc.linked
  headHash := hc.headHash
  ownRows := hc.ownRows
  faithful := hc.faithful
  verifies := hc.verifies
  keys := hc.keys
  checkpoints := by
    intro other hother
    rcases List.mem_append.mp hother with hother | hother
    · exact hc.checkpoints other hother
    · rw [List.mem_singleton.mp hother]
      exact hcheckpoint
  increasing := by
    refine List.pairwise_append.mpr ⟨hc.increasing, List.pairwise_singleton _ _, ?_⟩
    intro other hother new hnew
    rw [List.mem_singleton.mp hnew]
    -- earlier checkpoints stand over events there are, and not over this one
    obtain ⟨row, hrow, hsequence, -⟩ := (hc.checkpoints other hother).event
    have hbound := (hc.sequence_mem hrow).2
    have hne : other.throughSequence ≠ checkpoint.throughSequence := by
      intro heq
      exact hfresh (heq ▸ List.mem_map_of_mem hother)
    rw [hlast, hc.headSequence] at hne ⊢
    omega
  checkpointsLinked := by
    refine HashChain.linked_concat.mpr ⟨hc.checkpointsLinked, ?_⟩
    rw [hprevious, AuditChain.lastCheckpoint, HashChain.argmax_eq_getLast? hc.increasing,
      HashChain.last_eq_getD]

theorem registered_checkpointCreated :
    auditEventRegistry "CHECKPOINT_CREATED" = some checkpointCreated := by
  rw [auditEventRegistry]
  rfl

theorem registered_chainGenesis :
    auditEventRegistry "AUDIT_CHAIN_GENESIS" = some chainGenesis := by
  rw [auditEventRegistry]
  rfl

theorem Sound.maybeCheckpoint {tenant : AuditTenantScope} (hc : Sound digests chain)
    (hrow : row ∈ chain.events) (hsequence : row.sequence = chain.head.headSequence)
    (h : maybeCheckpointLocked digests p directory draws row tenant chain = .ok chain') :
    Sound digests chain' ∧ chain'.head.chainId = chain.head.chainId ∧
      Grows ["CHECKPOINT_CREATED"] chain chain' := by
  rcases maybeCheckpointLocked_cases h with rfl | ⟨checkpoint, payload, receipt, row?, -, hthrough,
    hhead, hprevious, hformat, hpayload, hhash, hfresh, hinsert⟩
  · exact ⟨hc, rfl, .of_eq rfl⟩
  · have hcheckpoint : CheckpointSound digests chain.events checkpoint :=
      ⟨hformat, ⟨payload, hpayload, hhash⟩, row, hrow, hthrough.symm, hhead.symm⟩
    have hc' := hc.addCheckpoint hcheckpoint (hthrough.trans hsequence) hfresh hprevious
    have hnonempty : chain.events ≠ [] := List.ne_nil_of_mem hrow
    obtain ⟨hsound, -, hid, hgrows, -⟩ := hc'.insertRow registered_checkpointCreated
      (fun hnil => absurd hnil hnonempty) hinsert
    exact ⟨hsound, hid, hgrows⟩

theorem Sound.insertLocked (hc : Sound digests chain)
    (hregistered : auditEventRegistry args.definition.eventType = some args.definition)
    (hfirst : chain.events = [] → args.definition.eventType = "AUDIT_CHAIN_GENESIS")
    (h : insertLocked digests p directory draws eventId args chain = .ok (receipt, chain')) :
    Sound digests chain' ∧ chain'.head.chainId = chain.head.chainId ∧
      Grows [args.definition.eventType, "CHECKPOINT_CREATED"] chain chain' := by
  obtain ⟨row?, middle, hinsert, hcase⟩ := insertLocked_cases h
  obtain ⟨hmiddle, -, hid, hgrows, hnew⟩ := hc.insertRow hregistered hfirst hinsert
  have hgrows' : Grows [args.definition.eventType, "CHECKPOINT_CREATED"] chain middle :=
    hgrows.mono (by simp)
  rcases hcase with rfl | ⟨row, hrow, -, hcheckpoint⟩
  · exact ⟨hmiddle, hid, hgrows'⟩
  · obtain ⟨hmem, hsequence, -, -⟩ := hnew row hrow
    obtain ⟨hsound, hid', hmore⟩ := hmiddle.maybeCheckpoint hmem hsequence hcheckpoint
    exact ⟨hsound, hid'.trans hid, hgrows'.trans (hmore.mono (by simp))⟩

/-- A chain that has been opened: sound, and not empty. -/
structure Opened (digests : Digests) (chain : AuditChain) : Prop where
  sound : Sound digests chain
  nonempty : chain.events ≠ []

theorem Opened.headSequence_ne_zero (hc : Opened digests chain) :
    chain.head.headSequence ≠ 0 := by
  rw [hc.sound.headSequence]
  exact fun h => hc.nonempty (List.length_eq_zero_iff.mp h)

theorem sound_emptyChain (chainId : Uuid4) (organisationId : Option String) :
    Sound digests (emptyChain chainId.text organisationId) where
  format := rfl
  canonical := chainId.canonical
  sequences := rfl
  headSequence := rfl
  linked := trivial
  headHash := rfl
  ownRows := by simp [emptyChain]
  faithful := by simp [emptyChain]
  verifies := by simp [emptyChain]
  keys := List.nodup_nil
  checkpoints := by simp [emptyChain]
  increasing := .nil
  checkpointsLinked := trivial

/-- An opened chain is found as it stands. -/
theorem resolveChain_opened (hc : Opened digests chain) (tenant : AuditTenantScope) :
    resolveChain digests p directory draws tenant (some chain) = .ok chain := by
  show (if _ then _ else _) = _
  rw [if_neg (not_not.mpr hc.sound.format), if_neg hc.headSequence_ne_zero]

/-- A chain that did not exist is opened by its genesis. -/
theorem resolveChain_new {tenant : AuditTenantScope}
    (h : resolveChain digests p directory draws tenant none = .ok chain) :
    Opened digests chain ∧ ∃ row, chain.events = [row] := by
  simp only [resolveChain, bind_eq_ok, guard_eq_ok] at h
  obtain ⟨fresh, hfresh, -, h⟩ := h
  simp only [findChain] at hfresh
  split at hfresh
  · cases hfresh
    rw [if_pos (by rfl)] at h
    obtain ⟨⟨receipt, opened⟩, hinsert, rfl⟩ := map_eq_ok.mp h
    have hempty : Sound digests (emptyChain draws.chainId.text tenant.organisationId) :=
      sound_emptyChain draws.chainId tenant.organisationId
    obtain ⟨hsound, -, -⟩ := hempty.insertLocked registered_chainGenesis (fun _ => rfl) hinsert
    obtain ⟨row?, middle, hrow, hcase⟩ := insertLocked_cases hinsert
    obtain rfl : opened = middle := by
      rcases hcase with rfl | ⟨-, -, hallowed, -⟩
      · rfl
      · cases hallowed
    obtain ⟨s, hs, ⟨existing, stored, bytes, hkey, -⟩ | ⟨-, row, hnew, -, -⟩⟩ :=
      insertRow_cases hrow
    · cases hkey
    · obtain ⟨-, -, -, -, -, -, rfl⟩ := insertNew_spec hnew
      exact ⟨⟨hsound, by simp [AuditChain.push]⟩, row, rfl⟩
  · cases hfresh

/-- Whatever there was, a chain that is found has been opened. -/
theorem resolveChain_spec {tenant : AuditTenantScope} {stored : Option AuditChain}
    (hstored : ∀ chain, stored = some chain → Opened digests chain)
    (h : resolveChain digests p directory draws tenant stored = .ok chain) :
    Opened digests chain ∧
      (stored = some chain ∨ (stored = none ∧ ∃ row, chain.events = [row])) := by
  cases stored with
  | none =>
    obtain ⟨hopened, hrow⟩ := resolveChain_new h
    exact ⟨hopened, .inr ⟨rfl, hrow⟩⟩
  | some existing =>
    rw [resolveChain_opened (hstored existing rfl) tenant] at h
    cases h
    exact ⟨hstored _ rfl, .inl rfl⟩

theorem prepareAppend_spec {now : Instant} {call : AppendCall}
    (h : prepareAppend digests p directory now call = .ok args) :
    auditEventRegistry args.definition.eventType = some args.definition ∧
      args.definition.eventType = call.eventType ∧
      normalizedTrace call.trace = .ok args.trace := by
  unfold prepareAppend at h
  split at h
  · cases h
  · rename_i definition hregistered
    simp only [bind_eq_ok, guard_eq_ok] at h
    obtain ⟨-, -, -, -, -, snapshot, -, metadata, -, subject, -, secondary, -, evidence, -, trace,
      htrace, hargs⟩ := h
    cases hargs
    have htype := eventType_of_registered hregistered
    exact ⟨by rw [htype]; exact hregistered, htype, htrace⟩

/-- A checked event key is not empty. -/
theorem normalizedTrace_key {trace normal : TraceContext} {key : String}
    (h : normalizedTrace trace = .ok normal) (hkey : normal.eventKey = some key) : key ≠ "" := by
  simp only [normalizedTrace, bind_eq_ok] at h
  obtain ⟨_, -, _, -, _, -, _, -, _, -, eventKey, hsafe, hnormal⟩ := h
  cases hnormal
  cases hraw : trace.eventKey with
  | none =>
    rw [hraw] at hsafe
    cases hsafe
    cases hkey
  | some raw =>
    rw [hraw, safeId, guard_eq_ok] at hsafe
    obtain ⟨hsafe, heq⟩ := hsafe
    cases heq
    cases hkey
    exact fun hempty => hsafe (.inl hempty)

/-- An append keeps an opened chain opened, or opens it, and adds events of its own type. -/
theorem Opened.append {call : AppendCall} {stored : Option AuditChain}
    (hstored : ∀ chain, stored = some chain → Opened digests chain)
    (h : append digests p directory draws call stored = .ok (receipt, chain')) :
    Opened digests chain' ∧ ∃ chain, resolveChain digests p directory draws call.tenant stored =
      .ok chain ∧ Grows [call.eventType, "CHECKPOINT_CREATED"] chain chain' := by
  obtain ⟨args, chain, before, after, hargs, hchain, -, -, hinsert⟩ := append_cases h
  obtain ⟨hregistered, htype, -⟩ := prepareAppend_spec hargs
  obtain ⟨hopened, -⟩ := resolveChain_spec hstored hchain
  obtain ⟨hsound, -, hgrows⟩ :=
    hopened.sound.insertLocked (by exact hregistered)
      (fun hnil => absurd hnil hopened.nonempty) hinsert
  rw [show _ = call.eventType from htype] at hgrows
  refine ⟨⟨hsound, ?_⟩, chain, hchain, hgrows⟩
  obtain ⟨rows, hrows, -⟩ := hgrows
  rw [hrows]
  exact List.append_ne_nil_of_left_ne_nil hopened.nonempty rows

end Preservation

/-! ## The verifier accepts sound chains -/

section Verification

variable {digests : Digests} {head : AuditChainHeadRecord} {chain : AuditChain}
  {row : AuditEventRecord} {rows : List AuditEventRecord} {fromSequence : Nat}

theorem registered_of_rowPayload {payload : Json} (h : rowPayload row = .ok payload) :
    (auditEventRegistry row.eventType).isNone = false := by
  cases hregistered : auditEventRegistry row.eventType with
  | some definition => rfl
  | none =>
    rw [rowPayload, rowSemantic, hregistered] at h
    cases h

/-- The loop over the rows finds no fault exactly when the rows stand in sequence, are linked,
and none has a fault by itself. -/
theorem verifyRows_eq_checked {previous : String} {expected checked count : Nat} :
    verifyRows digests head fromSequence previous expected checked rows = .ok (.inr count) ↔
      count = checked + rows.length ∧
        rows.map AuditEventRecord.sequence = List.range' expected rows.length ∧
        HashChain.Linked AuditEventRecord.previousEventHash AuditEventRecord.eventHash previous
          rows ∧
        ∀ row ∈ rows, Verifies digests row := by
  induction rows generalizing previous expected checked with
  | nil => simp [verifyRows, HashChain.Linked, eq_comm]
  | cons row rest ih =>
    constructor
    · intro h
      rw [verifyRows] at h
      split at h
      · cases h
      split at h
      · cases h
      split at h
      · cases h
      split at h
      · cases h
      rename_i hformat _ hsequence hprevious
      simp only [bind_eq_ok] at h
      obtain ⟨payload, hpayload, computed, hcomputed, h⟩ := h
      split at h
      · cases h
      split at h
      · cases h
      rename_i hhash hgenesis
      rw [not_not] at hformat hsequence hprevious hhash
      obtain ⟨hcount, hsequences, hlinked, hverifies⟩ := ih.mp h
      refine ⟨?_, ?_, ⟨hprevious, hlinked⟩, ?_⟩
      · rw [hcount, List.length_cons]
        omega
      · rw [List.map_cons, List.length_cons, List.range'_succ, hsequences, hsequence]
      · refine List.forall_mem_cons.mpr ⟨⟨hformat, ⟨payload, hpayload, hhash ▸ hcomputed⟩, ?_⟩,
          hverifies⟩
        intro hone
        have hopens := not_and.mp hgenesis hone
        exact ⟨not_not.mp fun h => hopens (.inl h), not_not.mp fun h => hopens (.inr h)⟩
    · rintro ⟨hcount, hsequences, ⟨hprevious, hlinked⟩, hverifies⟩
      rw [List.map_cons, List.length_cons, List.range'_succ] at hsequences
      obtain ⟨hsequence, hsequences⟩ := List.cons.inj hsequences
      obtain ⟨⟨hformat, ⟨payload, hpayload, hhash⟩, hgenesis⟩, hrest⟩ :=
        List.forall_mem_cons.mp hverifies
      have hregistered := registered_of_rowPayload hpayload
      have hopens : ¬ (row.sequence = 1 ∧
          (row.eventType ≠ "AUDIT_CHAIN_GENESIS" ∨ row.previousEventHash ≠ zeroHash)) := by
        rintro ⟨hone, hbad | hbad⟩
        · exact hbad (hgenesis hone).1
        · exact hbad (hgenesis hone).2
      have hnext : verifyRows digests head fromSequence row.eventHash (expected + 1)
          (checked + 1) rest = .ok (.inr count) := by
        refine ih.mpr ⟨?_, hsequences, hlinked, hrest⟩
        rw [hcount, List.length_cons]
        omega
      rw [verifyRows, if_neg (not_not.mpr hformat), hregistered, if_neg (by simp),
        if_neg (not_not.mpr hsequence), if_neg (not_not.mpr hprevious), bind_eq_ok]
      refine ⟨payload, hpayload, bind_eq_ok.mpr ⟨row.eventHash, hhash, ?_⟩⟩
      rw [if_neg (by simp), if_neg hopens]
      exact hnext

/-- What the loop over the rows finds is a fault. -/
theorem verifyRows_found {previous : String} {expected checked : Nat}
    {found : VerificationResult}
    (h : verifyRows digests head fromSequence previous expected checked rows =
      .ok (.inl found)) : found.status ≠ "VALID" := by
  induction rows generalizing previous expected checked with
  | nil => cases h
  | cons row rest ih =>
    rw [verifyRows] at h
    split at h
    · cases h
      simp [invalid]
    split at h
    · cases h
      simp [invalid]
    split at h
    · cases h
      simp [invalid]
    split at h
    · cases h
      simp [invalid]
    simp only [bind_eq_ok] at h
    obtain ⟨payload, -, computed, -, h⟩ := h
    split at h
    · cases h
      simp [invalid]
    split at h
    · cases h
      simp [invalid]
    · exact ih h

/-- In order, the rows of a sound chain are its events. -/
theorem Sound.rowsFrom_one (hc : Sound digests chain) : chain.rowsFrom 1 = chain.events := by
  have hall : (chain.events.filter fun row => decide (1 ≤ row.sequence)) = chain.events :=
    List.filter_eq_self.mpr fun row hrow => decide_eq_true (hc.sequence_mem hrow).1
  have hsorted : (chain.events.map AuditEventRecord.sequence).Pairwise (· < ·) := by
    rw [hc.sequences]
    exact List.pairwise_lt_range'
  rw [AuditChain.rowsFrom, hc.rows_eq, hall]
  exact List.Pairwise.insertionSort_eq ((List.pairwise_map.mp hsorted).imp Nat.le_of_lt)

/-- The last event of a sound chain is what the head says. -/
theorem Sound.getLast (hc : Sound digests chain) (hrow : chain.events.getLast? = some row) :
    row.sequence = chain.head.headSequence ∧ row.eventHash = chain.head.headHash := by
  obtain ⟨front, hfront⟩ := List.getLast?_eq_some_iff.mp hrow
  have hsequences := hc.sequences
  rw [hfront, List.map_append, List.length_append, List.length_singleton, List.range'_concat,
    List.map_singleton] at hsequences
  have hsequence : row.sequence = 1 + 1 * front.length :=
    (List.cons.inj (List.append_inj_right' hsequences rfl)).1
  rw [hc.headSequence, hc.headHash, hfront, HashChain.last_concat, List.length_append,
    List.length_singleton]
  exact ⟨by omega, rfl⟩

/-- The checkpoints of a sound chain are accepted. -/
theorem checkpointStatus_valid {previous : String} {checkpoints : List AuditCheckpointRecord}
    (hc : Sound digests chain)
    (hsound : ∀ checkpoint ∈ checkpoints, CheckpointSound digests chain.events checkpoint)
    (hlinked : HashChain.Linked AuditCheckpointRecord.previousCheckpointHash
      AuditCheckpointRecord.checkpointHash previous checkpoints) :
    checkpointStatus digests chain.events previous checkpoints = .ok "VALID" := by
  induction checkpoints generalizing previous with
  | nil => rfl
  | cons checkpoint rest ih =>
    obtain ⟨⟨hformat, ⟨payload, hpayload, hhash⟩, row, hrow, hsequence, hevent⟩, hrest⟩ :=
      List.forall_mem_cons.mp hsound
    have hfind : (chain.events.find? fun event =>
        decide (event.sequence = checkpoint.throughSequence)) = some row := by
      cases hother : chain.events.find? fun event =>
          decide (event.sequence = checkpoint.throughSequence) with
      | none =>
        have := List.find?_eq_none.mp hother row hrow
        simp [hsequence] at this
      | some other =>
        have hsame : other.sequence = checkpoint.throughSequence := by
          simpa using List.find?_some hother
        rw [hc.eq_of_sequence (List.mem_of_find?_eq_some hother) hrow
          (hsame.trans hsequence.symm)]
    have hevent' : Option.map AuditEventRecord.eventHash (some row) =
        some checkpoint.headEventHash := congrArg some hevent
    rw [checkpointStatus, if_neg (not_not.mpr hformat), hfind, if_neg (not_not.mpr hevent'),
      if_neg (not_not.mpr hlinked.1), bind_eq_ok]
    refine ⟨payload, hpayload, bind_eq_ok.mpr ⟨_, hhash, ?_⟩⟩
    rw [if_neg (by simp)]
    exact ih hrest hlinked.2

theorem verifyEnds_valid_iff {checked : Nat} :
    (∃ result, verifyEnds digests fromSequence rows checked chain = .ok result ∧
      result.status = "VALID") ↔
      headMismatch chain.head rows.getLast? = false ∧
        tailMismatch chain.head fromSequence rows.getLast? = false ∧
        verifyCheckpoints digests chain = .ok "VALID" := by
  constructor
  · rintro ⟨result, h, hvalid⟩
    simp only [verifyEnds] at h
    split at h
    · cases h
      simp [invalid] at hvalid
    split at h
    · cases h
      simp [invalid] at hvalid
    rename_i hhead htail
    obtain ⟨status, hstatus, h⟩ := bind_eq_ok.mp h
    split at h
    · cases h
      simp [invalid] at hvalid
    · rename_i hok
      rw [not_not] at hok
      exact ⟨by simpa using hhead, by simpa using htail, hok ▸ hstatus⟩
  · rintro ⟨hhead, htail, hcheckpoints⟩
    simp only [verifyEnds, hhead, htail, hcheckpoints, Bool.false_eq_true, if_false]
    exact ⟨_, rfl, rfl⟩

/-- All that the verifier asks of a chain it calls valid. -/
theorem verifyStored_valid_iff {expectedPreviousHash : Option String} :
    (∃ result, verifyStored digests fromSequence expectedPreviousHash chain = .ok result ∧
      result.status = "VALID") ↔
      ∃ previous, priorHash fromSequence expectedPreviousHash chain = some previous ∧
        (chain.rowsFrom fromSequence).map AuditEventRecord.sequence =
          List.range' fromSequence (chain.rowsFrom fromSequence).length ∧
        HashChain.Linked AuditEventRecord.previousEventHash AuditEventRecord.eventHash previous
          (chain.rowsFrom fromSequence) ∧
        (∀ row ∈ chain.rowsFrom fromSequence, Verifies digests row) ∧
        headMismatch chain.head (chain.rowsFrom fromSequence).getLast? = false ∧
        tailMismatch chain.head fromSequence (chain.rowsFrom fromSequence).getLast? = false ∧
        verifyCheckpoints digests chain = .ok "VALID" := by
  cases hprior : priorHash fromSequence expectedPreviousHash chain with
  | none => simp [verifyStored, hprior, invalid]
  | some previous =>
    simp only [verifyStored, hprior, bind_eq_ok, Option.some.injEq, exists_eq_left']
    constructor
    · rintro ⟨result, ⟨outcome, houtcome, h⟩, hvalid⟩
      cases outcome with
      | inl found =>
        -- an early result of the loop is never a valid one
        cases h
        exact absurd hvalid (verifyRows_found houtcome)
      | inr checked =>
        obtain ⟨-, hsequences, hlinked, hverifies⟩ := verifyRows_eq_checked.mp houtcome
        exact ⟨hsequences, hlinked, hverifies, verifyEnds_valid_iff.mp ⟨result, h, hvalid⟩⟩
    · rintro ⟨hsequences, hlinked, hverifies, hends⟩
      obtain ⟨result, hresult, hvalid⟩ := verifyEnds_valid_iff.mpr hends
      exact ⟨result, ⟨_, verifyRows_eq_checked.mpr ⟨rfl, hsequences, hlinked, hverifies⟩,
        hresult⟩, hvalid⟩

/-- A sound chain is verified as valid. -/
theorem verifyStored_of_sound (hc : Sound digests chain)
    (expectedPreviousHash : Option String) :
    ∃ result, verifyStored digests 1 expectedPreviousHash chain = .ok result ∧
      result.status = "VALID" := by
  have hcheckpoints : verifyCheckpoints digests chain = .ok "VALID" := by
    have hsorted : (chain.checkpoints.insertionSort fun a b =>
        a.throughSequence ≤ b.throughSequence) = chain.checkpoints :=
      List.Pairwise.insertionSort_eq (hc.increasing.imp Nat.le_of_lt)
    rw [verifyCheckpoints, hc.rows_eq, hsorted]
    exact checkpointStatus_valid hc hc.checkpoints hc.checkpointsLinked
  refine verifyStored_valid_iff.mpr ⟨zeroHash, rfl, ?_⟩
  rw [hc.rowsFrom_one]
  refine ⟨hc.sequences, hc.linked, hc.verifies, ?_, ?_, hcheckpoints⟩
  · cases hlast : chain.events.getLast? with
    | none => rfl
    | some row => simp [headMismatch, (hc.getLast hlast).2]
  · cases hlast : chain.events.getLast? with
    | none =>
      have hempty : chain.head.headSequence = 0 := by
        rw [hc.headSequence, List.getLast?_eq_none_iff.mp hlast]
        rfl
      simp [tailMismatch, hempty]
    | some row => simp [tailMismatch, (hc.getLast hlast).1]

end Verification

/-! ## Runs -/

/-- The operations on the chain of one organisation, or of the system: an append, and the
operations that find a chain and open it where there is none. -/
inductive AuditAction where
  | append (p : AuditPseudonymizer) (directory : Directory) (draws : Draws) (call : AppendCall)
  | resolve (p : AuditPseudonymizer) (directory : Directory) (draws : Draws)

/-- The event type an operation asks for. -/
def AuditAction.eventType? : AuditAction → Option String
  | .append _ _ _ call => some call.eventType
  | .resolve _ _ _ => none

/-- A successful operation on the chain of an organisation. -/
inductive AuditStep (digests : Digests) (organisationId : Option String) :
    Option AuditChain → AuditAction → Option AuditChain → Prop
  | append {stored : Option AuditChain} {p : AuditPseudonymizer} {directory : Directory}
      {draws : Draws} {call : AppendCall} {receipt : AuditReceipt} {chain : AuditChain}
      (hscope : call.tenant.organisationId = organisationId)
      (h : append digests p directory draws call stored = .ok (receipt, chain)) :
      AuditStep digests organisationId stored (.append p directory draws call) (some chain)
  | resolve {stored : Option AuditChain} {p : AuditPseudonymizer} {directory : Directory}
      {draws : Draws} {chain : AuditChain}
      (h : resolveChain digests p directory draws ⟨organisationId, none⟩ stored = .ok chain) :
      AuditStep digests organisationId stored (.resolve p directory draws) (some chain)

/-- The payload an append offers under its event key. -/
def offeredPayload (digests : Digests) (p : AuditPseudonymizer) (directory : Directory)
    (draws : Draws) (call : AppendCall) : Except PyError SemanticPayload := do
  let args ← prepareAppend digests p directory draws.now call
  let before ← safeHash args.beforeSha256
  let after ← safeHash args.afterSha256
  insertSemantic digests p directory { args with beforeSha256 := before, afterSha256 := after }

section Runs

variable {digests : Digests} {organisationId : Option String} {actions : List AuditAction}
  {chain : AuditChain}

/-- Further genesis events stand in a chain only where an append asked for them. -/
def GenesisAsked (actions : List AuditAction) (chain : AuditChain) : Prop :=
  ∀ row ∈ chain.events, row.eventType = "AUDIT_CHAIN_GENESIS" → row.sequence ≠ 1 →
    ∃ action ∈ actions, action.eventType? = some "AUDIT_CHAIN_GENESIS"

theorem GenesisAsked.of_single {row : AuditEventRecord} (hc : Sound digests chain)
    (h : chain.events = [row]) : GenesisAsked actions chain := by
  intro other hother _ hne
  have hbound := hc.sequence_mem hother
  rw [h, List.length_singleton] at hbound
  omega

/-- Every run leaves an opened chain whose further genesis events were asked for. -/
theorem run_opened
    (run : Transition.Run (AuditStep digests organisationId) none actions (some chain)) :
    Opened digests chain ∧ GenesisAsked actions chain := by
  refine run.history (fun actions stored => ∀ chain, stored = some chain →
    Opened digests chain ∧ GenesisAsked actions chain) ?_ ?_ chain rfl
  · intro chain h
    cases h
  intro actions action stored stored' ih hstep chain hchain
  have hstored : ∀ chain, stored = some chain → Opened digests chain :=
    fun chain h => (ih chain h).1
  have later : ∀ {chain}, GenesisAsked actions chain →
      GenesisAsked (actions ++ [action]) chain := by
    intro chain h row hrow htype hne
    obtain ⟨asked, hmem, hasked⟩ := h row hrow htype hne
    exact ⟨asked, List.mem_append_left _ hmem, hasked⟩
  cases hstep with
  | resolve h =>
    cases hchain
    obtain ⟨hopened, hsame | ⟨-, row, hrow⟩⟩ := resolveChain_spec hstored h
    · exact ⟨hopened, later (ih _ hsame).2⟩
    · exact ⟨hopened, .of_single hopened.sound hrow⟩
  | @append p directory draws call receipt _ hscope h =>
    cases hchain
    obtain ⟨hopened, before, hbefore, rows, hrows, htypes⟩ := Opened.append hstored h
    refine ⟨hopened, ?_⟩
    obtain ⟨hbeforeOpened, hcase⟩ := resolveChain_spec hstored hbefore
    have hold : GenesisAsked actions before := by
      rcases hcase with hsame | ⟨-, row, hrow⟩
      · exact (ih _ hsame).2
      · exact .of_single hbeforeOpened.sound hrow
    intro row hrow htype hne
    rw [hrows] at hrow
    rcases List.mem_append.mp hrow with hrow | hrow
    · exact later hold row hrow htype hne
    · refine ⟨.append p directory draws call, by simp, ?_⟩
      have hmem := htypes row hrow
      rw [htype] at hmem
      simpa [AuditAction.eventType?, eq_comm] using hmem

theorem jcsBytes_eq_ok {value : Json} {bytes : List UInt8} :
    jcsBytes value = .ok bytes ↔ Jcs.bytes value = .ok bytes := by
  unfold jcsBytes
  cases Jcs.bytes value <;> simp [Except.mapError]

/-- What a canonical payload is made of has a canonical text when the payload has. -/
theorem SemanticPayload.jcsBytes_toJson {s : SemanticPayload} {chainId eventId previous : String}
    {sequence : Nat} {at' : Instant} {bytes : List UInt8}
    (h : jcsBytes (.obj (s.payloadFields chainId sequence eventId at' previous)) = .ok bytes) :
    ∃ bytes, jcsBytes s.toJson = .ok bytes := by
  have hfields := Jcs.check_sorted_obj.mp (Jcs.bytes_eq_ok (jcsBytes_eq_ok.mp h)).1
  refine ⟨_, jcsBytes_eq_ok.mpr (Jcs.bytes_of_check (Jcs.check_sorted_obj.mpr ?_))⟩
  intro field hfield
  refine hfields field ?_
  rcases List.mem_cons.mp hfield with rfl | hfield
  · exact List.mem_cons_self
  · simp [SemanticPayload.payloadFields, hfield]

/-- Under unique keys an event is found by its key. -/
theorem Sound.byKey_eq {row : AuditEventRecord} (hc : Sound digests chain)
    (hrow : row ∈ chain.events) (htruthy : truthy row.trace.eventKey = true) :
    chain.byKey row.trace.eventKey = some row := by
  rw [AuditChain.byKey, if_pos htruthy, hc.rows_eq]
  obtain ⟨key, hkey⟩ : ∃ key, row.trace.eventKey = some key := by
    cases hkey : row.trace.eventKey with
    | none =>
      rw [hkey] at htruthy
      cases htruthy
    | some key => exact ⟨key, rfl⟩
  cases hfind : chain.events.find? fun other =>
      decide (other.trace.eventKey = row.trace.eventKey) with
  | none => simpa using List.find?_eq_none.mp hfind row hrow
  | some other =>
    have hsame : other.trace.eventKey = some key := by
      rw [← hkey]
      simpa using List.find?_some hfind
    exact congrArg some
      (eq_of_filterMap_nodup hc.keys (List.mem_of_find?_eq_some hfind) hrow hsame hkey)

/-- A payload equal to that of a stored event under the same key is answered with the receipt
of that event, and nothing changes. -/
theorem append_replay {p : AuditPseudonymizer} {directory : Directory} {draws : Draws}
    {call : AppendCall} {s stored : SemanticPayload} {row : AuditEventRecord}
    (hc : Opened digests chain) (hoffered : offeredPayload digests p directory draws call = .ok s)
    {key : String} (hrow : row ∈ chain.events) (hrowKey : row.trace.eventKey = some key)
    (hkey : s.trace.eventKey = some key) (hstored : rowSemantic row = .ok stored)
    (hsame : Jcs.sorted stored.toJson = Jcs.sorted s.toJson) :
    append digests p directory draws call (some chain) = .ok (row.receipt true, chain) := by
  simp only [offeredPayload, bind_eq_ok] at hoffered
  obtain ⟨args, hargs, before, hbefore, after, hafter, hs⟩ := hoffered
  obtain ⟨hregistered, -, hnormal⟩ := prepareAppend_spec hargs
  obtain ⟨-, -, htrace⟩ := written_insertSemantic (by exact hregistered) hs
  have hargsKey : args.trace.eventKey = some key := by
    rw [← hkey, htrace]
  have hnonempty := normalizedTrace_key hnormal hargsKey
  -- the stored row was hashed, so its payload has a canonical text
  obtain ⟨bytes, hbytes⟩ : ∃ bytes, jcsBytes stored.toJson = .ok bytes := by
    obtain ⟨payload, hpayload, hhash⟩ := (hc.sound.verifies row hrow).hash
    rw [rowPayload, hstored, bind_eq_ok] at hpayload
    obtain ⟨s', hs', hpayload⟩ := hpayload
    cases hs'
    simp only [canonicalPayload, bind_eq_ok] at hpayload
    obtain ⟨chainId, -, eventId, -, hpayload⟩ := hpayload
    cases hpayload
    obtain ⟨bytes, hbytes, -⟩ := map_eq_ok.mp hhash
    exact SemanticPayload.jcsBytes_toJson hbytes
  have hoffered : jcsBytes s.toJson = .ok bytes := by
    rw [jcsBytes_eq_ok, ← Jcs.bytes_congr hsame]
    exact jcsBytes_eq_ok.mp hbytes
  have hbyKey : chain.byKey args.trace.eventKey = some row := by
    rw [hargsKey, ← hrowKey]
    exact hc.sound.byKey_eq hrow (by simpa [hrowKey, truthy] using hnonempty)
  rw [append_eq hargs (resolveChain_opened hc _) hbefore hafter]
  exact insertLocked_replay hs hbyKey hstored hbytes hoffered

/-- What holds of every chain that successful appends produced: its sequences are `1..n`, it
opens with a genesis and has others only where an append asked for one, event keys are unique,
a payload equal to that of a stored event under its key changes nothing and gives the receipt
of that event, and the full verification is valid. -/
theorem append_run_valid
    (run : Transition.Run (AuditStep digests organisationId) none actions (some chain)) :
    (chain.events.map AuditEventRecord.sequence = List.range' 1 chain.events.length ∧
        chain.head.headSequence = chain.events.length) ∧
      (∃ row ∈ chain.events, row.sequence = 1 ∧ row.eventType = "AUDIT_CHAIN_GENESIS") ∧
      (∀ row ∈ chain.events, row.eventType = "AUDIT_CHAIN_GENESIS" → row.sequence ≠ 1 →
        ∃ action ∈ actions, action.eventType? = some "AUDIT_CHAIN_GENESIS") ∧
      (chain.events.filterMap fun row => row.trace.eventKey).Nodup ∧
      (∀ (p : AuditPseudonymizer) (directory : Directory) (draws : Draws) (call : AppendCall)
        (s stored : SemanticPayload) (key : String), ∀ row ∈ chain.events,
        offeredPayload digests p directory draws call = .ok s → s.trace.eventKey = some key →
        row.trace.eventKey = some key → rowSemantic row = .ok stored →
        Jcs.sorted stored.toJson = Jcs.sorted s.toJson →
        append digests p directory draws call (some chain) = .ok (row.receipt true, chain)) ∧
      ∀ (p : AuditPseudonymizer) (directory : Directory) (draws : Draws)
        (expectedPreviousHash : Option String), ∃ result,
        verifyChain digests p directory draws organisationId organisationId.isNone 1
          expectedPreviousHash (some chain) = .ok (result, chain) ∧ result.status = "VALID" := by
  obtain ⟨hopened, hgenesis⟩ := run_opened run
  have hc := hopened.sound
  refine ⟨⟨hc.sequences, hc.headSequence⟩, ?_, hgenesis, hc.keys, ?_, ?_⟩
  · obtain ⟨row, rest, hevents⟩ := List.exists_cons_of_ne_nil hopened.nonempty
    have hsequences := hc.sequences
    rw [hevents, List.map_cons, List.length_cons, List.range'_succ] at hsequences
    have hone := (List.cons.inj hsequences).1
    have hrow : row ∈ chain.events := by
      rw [hevents]
      exact List.mem_cons_self
    exact ⟨row, hrow, hone, ((hc.verifies row hrow).genesis hone).1⟩
  · intro p directory draws call s stored key row hrow hoffered hkey hrowKey hstored hsame
    exact append_replay hopened hoffered hrow hrowKey hkey hstored hsame
  · intro p directory draws expectedPreviousHash
    obtain ⟨result, hresult, hvalid⟩ := verifyStored_of_sound hc expectedPreviousHash
    refine ⟨result, ?_, hvalid⟩
    have hscope : ¬ organisationId.isNone = organisationId.isSome := by
      cases organisationId <;> simp
    rw [verifyChain, if_neg hscope]
    exact Fallible.bind_eq_ok.mpr ⟨chain, resolveChain_opened hopened _,
      Fallible.bind_eq_ok.mpr ⟨result, hresult, rfl⟩⟩

end Runs

/-! ## A chain by example -/

section Sample

def sampleDigests : Digests := ⟨Sha256.hexdigest, fun _ message => Sha256.hexdigest message⟩

def samplePseudonymizer : AuditPseudonymizer := ⟨none, "audit-v1", by simp⟩

def sampleDirectory : Directory :=
  ⟨["org"], [("part", "org")], [⟨"m", 7, "org", "OWNER", true⟩], [7]⟩

def sampleUuid (c : Char) (h : canonicalUuid (uuidText (List.replicate 32 c)) =
    .ok (uuidText (List.replicate 32 c))) : Uuid4 := ⟨uuidText (List.replicate 32 c), h⟩

def sampleDraws : Draws where
  chainId := sampleUuid '1' (by decide +kernel)
  genesisId := sampleUuid '2' (by decide +kernel)
  eventId := sampleUuid '3' (by decide +kernel)
  checkpointId := sampleUuid '4' (by decide +kernel)
  checkpointEventId := sampleUuid '5' (by decide +kernel)
  genesisAt := ⟨2024, 5, 6, 7, 8, 9, 0⟩
  now := ⟨2024, 5, 6, 7, 8, 10, 0⟩
  checkpointAt := ⟨2024, 5, 6, 7, 8, 11, 0⟩

/-- An append that asks for a genesis. -/
def genesisCall : AppendCall where
  eventType := "AUDIT_CHAIN_GENESIS"
  actor := { kind := .system }
  tenant := ⟨some "org", none⟩
  subject := ⟨.auditChain, "chain", false⟩
  outcome := .success

/-- An append of a worker, after which the first checkpoint is taken. -/
def intentCall : AppendCall where
  eventType := "TURNOVER_INTENT_CREATED"
  actor := { kind := .worker }
  tenant := ⟨some "org", some "part"⟩
  subject := ⟨.turnoverOperation, "operation", false⟩
  outcome := .success
  trace := { requestId := some "request", eventKey := some "key" }
  metadata := [("count", .int 3)]

/-- The chain after one append where there was none. -/
def sampleAppend (call : AppendCall) : Option (AuditReceipt × AuditChain) :=
  (append sampleDigests samplePseudonymizer sampleDirectory sampleDraws call none).toOption

theorem run_of_sampleAppend {call : AppendCall} {receipt : AuditReceipt} {chain : AuditChain}
    (hscope : call.tenant.organisationId = some "org")
    (h : sampleAppend call = some (receipt, chain)) :
    Transition.Run (AuditStep sampleDigests (some "org")) none
      [.append samplePseudonymizer sampleDirectory sampleDraws call] (some chain) := by
  refine .single (@AuditStep.append _ _ _ _ _ _ _ receipt _ hscope ?_)
  unfold sampleAppend at h
  cases hr : append sampleDigests samplePseudonymizer sampleDirectory sampleDraws call none with
  | error e =>
    rw [hr] at h
    cases h
  | ok r =>
    rw [hr] at h
    exact congrArg _ (Option.some.inj h)

theorem append_run_valid_sample : ∃ chain result,
    chain.events.map AuditEventRecord.eventType =
      ["AUDIT_CHAIN_GENESIS", "TURNOVER_INTENT_CREATED", "CHECKPOINT_CREATED"] ∧
    chain.events.map AuditEventRecord.sequence = List.range' 1 chain.events.length ∧
    verifyChain sampleDigests samplePseudonymizer sampleDirectory sampleDraws (some "org") false 1
      none (some chain) = .ok (result, chain) ∧ result.status = "VALID" := by
  have htypes : (sampleAppend intentCall).map
      (fun r => r.2.events.map AuditEventRecord.eventType) =
      some ["AUDIT_CHAIN_GENESIS", "TURNOVER_INTENT_CREATED", "CHECKPOINT_CREATED"] := by
    decide +kernel
  obtain ⟨⟨receipt, chain⟩, happend, hevents⟩ := Option.map_eq_some_iff.mp htypes
  obtain ⟨⟨hsequences, -⟩, -, -, -, -, hverify⟩ :=
    append_run_valid (run_of_sampleAppend rfl happend)
  obtain ⟨result, hresult, hvalid⟩ :=
    hverify samplePseudonymizer sampleDirectory sampleDraws none
  exact ⟨chain, result, hevents, hsequences, hresult, hvalid⟩

/-- The genesis of a chain need not be its only one: an append may ask for another. -/
theorem second_genesis_appended : ∃ (actions : List AuditAction) (chain : AuditChain),
    Transition.Run (AuditStep sampleDigests (some "org")) none actions (some chain) ∧
      ∃ row ∈ chain.events, row.eventType = "AUDIT_CHAIN_GENESIS" ∧ row.sequence = 2 := by
  have hgenesis : (sampleAppend genesisCall).map
      (fun r => r.2.events.map fun row => (row.eventType, row.sequence)) =
      some [("AUDIT_CHAIN_GENESIS", 1), ("AUDIT_CHAIN_GENESIS", 2)] := by
    decide +kernel
  obtain ⟨⟨receipt, chain⟩, happend, hevents⟩ := Option.map_eq_some_iff.mp hgenesis
  refine ⟨_, chain, run_of_sampleAppend rfl happend, ?_⟩
  have hmem : ("AUDIT_CHAIN_GENESIS", 2) ∈
      chain.events.map fun row => (row.eventType, row.sequence) := by
    rw [hevents]
    decide
  obtain ⟨row, hrow, hpair⟩ := List.mem_map.mp hmem
  obtain ⟨htype, hsequence⟩ := Prod.mk.inj hpair
  exact ⟨row, hrow, htype, hsequence⟩

end Sample

end Wbcz.Audit

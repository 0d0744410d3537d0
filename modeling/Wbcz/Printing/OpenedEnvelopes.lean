import Wbcz.Printing.AgentKeys

/-!
# Envelopes that open

The server seals for the key of a reservation as long as it is active or retiring, but the
agent's file holds the newest key only. An envelope opens when its key is the newest one of the
binding and the file is bound; an envelope for a key that retired does not open.
-/

namespace Wbcz.Printing

open Fallible (ensure found)
open Transition (Run)

/-! ## What a step keeps -/

/-- The columns of a key that are written once. -/
structure SameKey (key key' : EncryptionKey) : Prop where
  id : key'.id = key.id
  binding : key'.agentBindingId = key.agentBindingId
  version : key'.keyVersion = key.keyVersion
  raw : key'.publicKey = key.publicKey
  fingerprint : key'.publicKeyFingerprint = key.publicKeyFingerprint

/-- Keys, executions and reservations stay. -/
structure RowsStay (s s' : PrintingState) : Prop where
  keys : ∀ key ∈ s.keys, ∃ key' ∈ s'.keys, SameKey key key'
  executions : ∀ e ∈ s.executions, ∃ e' ∈ s'.executions, SameExecution e e'
  reservations : ∀ r ∈ s.reservations, ∃ r' ∈ s'.reservations, SameReservation r r'

/-- The fingerprint of a key is that of its raw key, and no two keys have one fingerprint. -/
structure FingerprintInv (platform : Platform) (keys : Table EncryptionKey.key) : Prop where
  raw : ∀ key ∈ keys, fingerprintOf platform key.publicKey = .ok key.publicKeyFingerprint
  distinct : ∀ key ∈ keys, ∀ key' ∈ keys,
    key.publicKeyFingerprint = key'.publicKeyFingerprint → key = key'

/-- What holds of the keys at the server. -/
structure ServerKeys (platform : Platform) (s : PrintingState) : Prop where
  hold : KeysHold s
  fingerprints : FingerprintInv platform s.keys

/-- A key after a step was there before it, or the step registered it. -/
def KeyFrom (s : PrintingState) (label : PrintingLabel) (key' : EncryptionKey) : Prop :=
  (∃ key ∈ s.keys, SameKey key key') ∨ ∃ session intentToken accepted,
    label = .call session
      (.registerPublicKey key'.agentBindingId intentToken key'.publicKey) accepted

section Steps

variable {platform : Platform} {kind : MoveKind} {s s' s'' : PrintingState}
  {key key' key'' : EncryptionKey} {keys keys' : Table EncryptionKey.key}

theorem SameKey.refl : SameKey key key := ⟨rfl, rfl, rfl, rfl, rfl⟩

theorem SameKey.trans (h : SameKey key key') (h' : SameKey key' key'') : SameKey key key'' :=
  ⟨h'.id.trans h.id, h'.binding.trans h.binding, h'.version.trans h.version, h'.raw.trans h.raw,
    h'.fingerprint.trans h.fingerprint⟩

theorem SameReservation.refl {r : DeliveryReservation} : SameReservation r r :=
  ⟨rfl, rfl, rfl, rfl, rfl, rfl, rfl, rfl, rfl, rfl⟩

theorem SameReservation.trans {r r' r'' : DeliveryReservation} (h : SameReservation r r')
    (h' : SameReservation r' r'') : SameReservation r r'' where
  id := h'.id.trans h.id
  organisation := h'.organisation.trans h.organisation
  participant := h'.participant.trans h.participant
  execution := h'.execution.trans h.execution
  binding := h'.binding.trans h.binding
  encryptionKey := h'.encryptionKey.trans h.encryptionKey
  payload := h'.payload.trans h.payload
  limit := h'.limit.trans h.limit
  authorized := h'.authorized.trans h.authorized
  expires := h'.expires.trans h.expires

theorem RowsStay.refl : RowsStay s s :=
  ⟨fun key hkey => ⟨key, hkey, .refl⟩, fun e he => ⟨e, he, .refl⟩, fun r hr => ⟨r, hr, .refl⟩⟩

theorem RowsStay.trans (h : RowsStay s s') (h' : RowsStay s' s'') : RowsStay s s'' where
  keys key hkey := by
    obtain ⟨key', hkey', hsame⟩ := h.keys key hkey
    obtain ⟨key'', hkey'', hsame'⟩ := h'.keys key' hkey'
    exact ⟨key'', hkey'', hsame.trans hsame'⟩
  executions e he := by
    obtain ⟨e', he', hsame⟩ := h.executions e he
    obtain ⟨e'', he'', hsame'⟩ := h'.executions e' he'
    exact ⟨e'', he'', hsame.trans hsame'⟩
  reservations r hr := by
    obtain ⟨r', hr', hsame⟩ := h.reservations r hr
    obtain ⟨r'', hr'', hsame'⟩ := h'.reservations r' hr'
    exact ⟨r'', hr'', hsame.trans hsame'⟩

theorem sameKey_retiring (now : ℤ) (key : EncryptionKey) : SameKey key (retiringKey now key) :=
  ⟨rfl, rfl, rfl, rfl, rfl⟩

theorem sameKey_revoked (now : ℤ) (key : EncryptionKey) : SameKey key (revokedKey now key) :=
  ⟨rfl, rfl, rfl, rfl, rfl⟩

/-- The keys of a table are those of another one, up to what is not written once. -/
structure KeysStay (keys keys' : Table EncryptionKey.key) : Prop where
  kept : ∀ key ∈ keys, ∃ key' ∈ keys', SameKey key key'
  from' : ∀ key' ∈ keys', ∃ key ∈ keys, SameKey key key'

theorem keysStay_of_eq (h : keys' = keys) : KeysStay keys keys' := by
  rw [h]
  exact ⟨fun key hkey => ⟨key, hkey, .refl⟩, fun key hkey => ⟨key, hkey, .refl⟩⟩

theorem keysStay_modify {keyId : String} {f : EncryptionKey → EncryptionKey}
    (hf : ∀ key, (f key).key = key.key) (hsame : ∀ key, SameKey key (f key)) :
    KeysStay keys (keys.modify keyId f hf) where
  kept := by
    intro key hkey
    refine ⟨_, Table.mem_modify_iff_exists.mpr ⟨key, hkey, rfl⟩, ?_⟩
    split
    · exact hsame key
    · exact .refl
  from' := by
    intro key' hkey'
    obtain ⟨key, hkey, rfl⟩ := Table.mem_modify_iff_exists.mp hkey'
    refine ⟨key, hkey, ?_⟩
    split
    · exact hsame key
    · exact .refl

/-- A move leaves the keys alone, up to what is not written once, or inserts one. -/
theorem Move.keysStay (move : Move platform s kind s') :
    KeysStay s.keys s'.keys ∨ ∃ key, kind = .insertKey key ∧ keyConflicts s key = false ∧
      s.keys.insert key = some s'.keys := by
  cases move with
  | retireKey => exact .inl (keysStay_modify (key_retiringKey _) (sameKey_retiring _))
  | revokeKey => exact .inl (keysStay_modify (key_revokedKey _) (sameKey_revoked _))
  | insertKey _ hconflicts _ hinsert => exact .inr ⟨_, rfl, hconflicts, hinsert⟩
  | @report session _ _ result e rows =>
    exact .inl (keysStay_of_eq
      (applyResult_keys e.id rows.item.id rows.job.id result session.now).1)
  | _ => exact .inl (keysStay_of_eq rfl)

theorem FingerprintInv.stay (h : FingerprintInv platform keys) (hstay : KeysStay keys keys') :
    FingerprintInv platform keys' where
  raw key' hkey' := by
    obtain ⟨key, hkey, hsame⟩ := hstay.from' key' hkey'
    rw [hsame.raw, hsame.fingerprint]
    exact h.raw key hkey
  distinct key₁ hkey₁ key₂ hkey₂ heq := by
    obtain ⟨key, hkey, hsame⟩ := hstay.from' key₁ hkey₁
    obtain ⟨key', hkey', hsame'⟩ := hstay.from' key₂ hkey₂
    rw [hsame.fingerprint, hsame'.fingerprint] at heq
    have hrow := h.distinct key hkey key' hkey' heq
    refine Table.eq_of_key_eq hkey₁ hkey₂ ?_
    rw [EncryptionKey.key, EncryptionKey.key, hsame.id, hsame'.id, hrow]

theorem FingerprintInv.insert (h : FingerprintInv platform s.keys)
    (hraw : fingerprintOf platform key.publicKey = .ok key.publicKeyFingerprint)
    (hconflicts : keyConflicts s key = false) (hinsert : s.keys.insert key = some keys') :
    FingerprintInv platform keys' where
  raw row hrow := by
    rcases (Table.mem_insert hinsert).mp hrow with hrow | rfl
    · exact h.raw row hrow
    · exact hraw
  distinct row hrow row' hrow' heq := by
    have hne : ∀ row ∈ s.keys, row.publicKeyFingerprint ≠ key.publicKeyFingerprint := by
      intro row hrow heq
      have hrowConflicts := List.any_eq_false.mp hconflicts row hrow
      simp [heq] at hrowConflicts
    rcases (Table.mem_insert hinsert).mp hrow with hrow | rfl
    · rcases (Table.mem_insert hinsert).mp hrow' with hrow' | rfl
      · exact h.distinct row hrow row' hrow' heq
      · exact absurd heq (hne row hrow)
    · rcases (Table.mem_insert hinsert).mp hrow' with hrow' | rfl
      · exact absurd heq.symm (hne row' hrow')
      · rfl

/-- Only a registration inserts a key. -/
theorem PrintingAction.of_insertKey {action : PrintingAction}
    (h : action.Makes platform (.insertKey key)) :
    (∃ intentToken, action = .registerPublicKey key.agentBindingId intentToken key.publicKey) ∧
      fingerprintOf platform key.publicKey = .ok key.publicKeyFingerprint := by
  cases action with
  | registerPublicKey bindingId intentToken publicKey =>
    rcases h with (⟨_, h⟩ | ⟨_, h⟩) | ⟨_, h⟩ | ⟨_, h, hrow⟩ | ⟨_, h⟩ | ⟨_, h⟩ <;> cases h
    obtain ⟨rfl, rfl, hfingerprint⟩ := hrow
    exact ⟨⟨intentToken, rfl⟩, hfingerprint⟩
  | authorizeDelivery => rcases h with (⟨_, h⟩ | ⟨_, h⟩) | ⟨_, _, h⟩ <;> cases h
  | issue => rcases h with ⟨_, h⟩ | ⟨_, _, h⟩ <;> cases h
  | acknowledge => rcases h with ⟨_, h⟩ | ⟨_, h⟩ <;> cases h
  | disable => rcases h with h | ⟨_, h⟩ | h <;> cases h
  | reportResult => rcases h with ⟨_, h⟩ | ⟨_, h⟩ | ⟨_, h⟩ <;> cases h
  | _ =>
    obtain ⟨_, h⟩ := h
    cases h

theorem Move.rowsStay (h : KeysHold s) (move : Move platform s kind s') : RowsStay s s' where
  keys := by
    intro key hkey
    rcases move.keysStay with hstay | ⟨_, -, -, hinsert⟩
    · exact hstay.kept key hkey
    · exact ⟨key, (Table.mem_insert hinsert).mpr (.inl hkey), .refl⟩
  executions := by
    intro e he
    obtain ⟨e', he', hsame, -⟩ := move.execution h.delivery he
    exact ⟨e', he', hsame⟩
  reservations := by
    intro r hr
    obtain ⟨r', hr', hsame, -⟩ := move.reservation h.delivery h.issued hr
    exact ⟨r', hr', hsame⟩

theorem ServerKeys.move (h : ServerKeys platform s) (move : Move platform s kind s')
    (hraw : ∀ key, kind = .insertKey key →
      fingerprintOf platform key.publicKey = .ok key.publicKeyFingerprint) :
    ServerKeys platform s' where
  hold := (move.keysHold h.hold).1
  fingerprints := by
    rcases move.keysStay with hstay | ⟨key, hkind, hconflicts, hinsert⟩
    · exact h.fingerprints.stay hstay
    · exact h.fingerprints.insert (hraw key hkind) hconflicts hinsert

theorem KeyFrom.same {label : PrintingLabel} (h : KeyFrom s label key') (hsame : SameKey key' key'') :
    KeyFrom s label key'' := by
  rcases h with ⟨key, hkey, hsame'⟩ | h
  · exact .inl ⟨key, hkey, hsame'.trans hsame⟩
  · right
    rw [hsame.binding, hsame.raw]
    exact h

/-- Every step keeps what holds of the keys, and the rows, and says where the keys come from. -/
theorem PrintingStep.kept {label : PrintingLabel} (h : ServerKeys platform s)
    (step : PrintingStep platform s label s') :
    ServerKeys platform s' ∧ RowsStay s s' ∧ ∀ key' ∈ s'.keys, KeyFrom s label key' := by
  cases label with
  | surroundings =>
    cases step with
    | surroundings around =>
      have hstay : KeysStay s.keys s'.keys := keysStay_of_eq around.keys
      refine ⟨⟨(h.hold.surroundings around).1, h.fingerprints.stay hstay⟩, ⟨hstay.kept, ?_, ?_⟩,
        fun key' hkey' => .inl (hstay.from' key' hkey')⟩
      · exact fun e he => ⟨e, around.executions ▸ he, .refl⟩
      · exact fun r hr => ⟨r, around.reservations ▸ hr, .refl⟩
  | call session action accepted =>
    refine step.moves.invariant
      (fun t => ServerKeys platform t ∧ RowsStay s t ∧
        ∀ key' ∈ t.keys, KeyFrom s (.call session action accepted) key')
      ⟨h, .refl, fun key hkey => .inl ⟨key, hkey, .refl⟩⟩ ?_
    rintro kind t t' hkind ⟨ht, hstay, hfrom⟩ move
    refine ⟨ht.move move ?_, hstay.trans (move.rowsStay ht.hold), fun key' hkey' => ?_⟩
    · rintro key rfl
      exact (PrintingAction.of_insertKey hkind).2
    · rcases move.keysStay with hstay' | ⟨key, rfl, -, hinsert⟩
      · obtain ⟨key, hkey, hsame⟩ := hstay'.from' key' hkey'
        exact (hfrom key hkey).same hsame
      · rcases (Table.mem_insert hinsert).mp hkey' with hkey | rfl
        · exact hfrom key' hkey
        · obtain ⟨⟨intentToken, rfl⟩, -⟩ := PrintingAction.of_insertKey hkind
          exact .inr ⟨session, intentToken, accepted, rfl⟩

end Steps

/-! ## The newest key of a binding -/

/-- The version is the newest of the binding, and its key is the given one. -/
def Newest (s : PrintingState) (bindingId : String) (keyVersion : ℕ) (publicKey : List UInt8) :
    Prop :=
  ∃ key ∈ s.keys, key.agentBindingId = bindingId ∧ key.keyVersion = keyVersion ∧
    key.publicKey = publicKey ∧
    ∀ key' ∈ s.keys, key'.agentBindingId = bindingId → key'.keyVersion ≤ keyVersion

section Newest

variable {platform : Platform} {s s' : PrintingState} {label : PrintingLabel}
  {bindingId : String} {keyVersion : ℕ} {publicKey : List UInt8}

/-- A version stays the newest where no other key was registered for the binding. -/
theorem Newest.stays (h : Newest s bindingId keyVersion publicKey) (hstay : RowsStay s s')
    (hfrom : ∀ key' ∈ s'.keys, key'.agentBindingId = bindingId →
      ∃ key ∈ s.keys, SameKey key key') : Newest s' bindingId keyVersion publicKey := by
  obtain ⟨key, hkey, hbinding, hversion, hraw, hnewest⟩ := h
  obtain ⟨key', hkey', hsame⟩ := hstay.keys key hkey
  refine ⟨key', hkey', hsame.binding.trans hbinding, hsame.version.trans hversion,
    hsame.raw.trans hraw, fun row' hrow' hrowBinding => ?_⟩
  obtain ⟨row, hrow, hsameRow⟩ := hfrom row' hrow' hrowBinding
  rw [hsameRow.version]
  exact hnewest row hrow (hsameRow.binding.symm.trans hrowBinding)

/-- A registration of the key itself is refused, or another binding's. -/
theorem Newest.step (h : Newest s bindingId keyVersion publicKey) (hs : ServerKeys platform s)
    (step : PrintingStep platform s label s')
    (hlabel : ∀ session intentToken publicKey' accepted,
      label = .call session (.registerPublicKey bindingId intentToken publicKey') accepted →
      publicKey' = publicKey) : Newest s' bindingId keyVersion publicKey := by
  obtain ⟨hs', hstay, hfrom⟩ := step.kept hs
  refine h.stays hstay fun key' hkey' hbinding => ?_
  rcases hfrom key' hkey' with hold | ⟨session, intentToken, accepted, hcall⟩
  · exact hold
  · -- the key is there already, and its fingerprint is nobody else's
    rw [hbinding] at hcall
    obtain ⟨key, hkey, -, -, hraw, -⟩ := h
    obtain ⟨row, hrow, hsame⟩ := hstay.keys key hkey
    have hraw' := hs'.fingerprints.raw row hrow
    rw [hsame.raw, hraw, ← hlabel _ _ _ _ hcall, hs'.fingerprints.raw key' hkey'] at hraw'
    have heq := hs'.fingerprints.distinct key' hkey' row hrow (Except.ok.inj hraw')
    exact ⟨key, hkey, heq ▸ hsame⟩

/-- Two keys of a binding with one version are one key. -/
theorem KeyInv.version_inj {keys : Table EncryptionKey.key} (h : KeyInv keys)
    {key key' : EncryptionKey} (hkey : key ∈ keys) (hkey' : key' ∈ keys)
    (hbinding : key.agentBindingId = key'.agentBindingId)
    (hversion : key.keyVersion = key'.keyVersion) : key = key' := by
  have hrows := List.Pairwise.forall_of_forall_of_flip
    (R := fun row row' : EncryptionKey => row.agentBindingId = row'.agentBindingId →
      row.keyVersion = row'.keyVersion → row = row') (fun _ _ _ _ => rfl)
    (h.versions.imp fun hlt hbinding hversion => absurd hversion (ne_of_lt (hlt hbinding)))
    (h.versions.imp fun hlt hbinding hversion =>
      absurd hversion.symm (ne_of_lt (hlt hbinding.symm)))
  exact hrows hkey hkey' hbinding hversion

end Newest

/-! ## Genuine envelopes -/

/-- What the replay store compares envelopes by. -/
def Envelope.fingerprint (envelope : Envelope) : String × String × String × ℕ :=
  (envelope.replay .openedVerified).fingerprint

/-- An envelope was sealed for a reservation, its execution and its key. -/
structure SealedFor (platform : Platform) (r : DeliveryReservation) (e : PrintExecution)
    (key : EncryptionKey) (envelope : Envelope) : Prop where
  execution : e.id = r.printExecutionId
  recipient : key.id = r.agentEncryptionKeyId
  context : envelope.context = deliveryContext r e key
  contextSha256 : platform.contextSha256 (deliveryContext r e key) = .ok envelope.contextSha256
  reservationId : envelope.deliveryReservationId = r.id
  executionId : envelope.printExecutionId = e.id
  payload : envelope.payloadSha256 = e.payloadSha256
  version : envelope.recipientKeyVersion = key.keyVersion

/-- An envelope was sealed for rows of the tables. -/
def Sealed (platform : Platform) (s : PrintingState) (envelope : Envelope) : Prop :=
  ∃ r ∈ s.reservations, ∃ e ∈ s.executions, ∃ key ∈ s.keys, SealedFor platform r e key envelope

section Sealed

variable {platform : Platform} {s s' : PrintingState} {envelope envelope' : Envelope}

theorem deliveryContext_same {r r' : DeliveryReservation} {e e' : PrintExecution}
    {key key' : EncryptionKey} (hr : SameReservation r r') (he : SameExecution e e')
    (hkey : SameKey key key') : deliveryContext r' e' key' = deliveryContext r e key := by
  unfold deliveryContext
  rw [hr.id, hr.expires, he.id, he.job, he.item, he.stored, he.organisation, he.participant,
    he.binding, he.payload, he.version, he.layout, hkey.version]

/-- What was sealed stays sealed for the rows. -/
theorem Sealed.stays (h : Sealed platform s envelope) (hstay : RowsStay s s') :
    Sealed platform s' envelope := by
  obtain ⟨r, hr, e, he, key, hkey, hsealed⟩ := h
  obtain ⟨r', hr', hsameR⟩ := hstay.reservations r hr
  obtain ⟨e', he', hsameE⟩ := hstay.executions e he
  obtain ⟨key', hkey', hsameKey⟩ := hstay.keys key hkey
  have hcontext := deliveryContext_same hsameR hsameE hsameKey
  refine ⟨r', hr', e', he', key', hkey', ?_, ?_, ?_, ?_, ?_, ?_, ?_, ?_⟩
  · rw [hsameE.id, hsameR.execution, hsealed.execution]
  · rw [hsameKey.id, hsameR.encryptionKey, hsealed.recipient]
  · rw [hcontext, hsealed.context]
  · rw [hcontext, hsealed.contextSha256]
  · rw [hsameR.id, hsealed.reservationId]
  · rw [hsameE.id, hsealed.executionId]
  · rw [hsameE.payload, hsealed.payload]
  · rw [hsameKey.version, hsealed.version]

/-- All envelopes of an execution have one fingerprint. -/
theorem Sealed.fingerprint (hs : DeliveryInv s) (h : Sealed platform s envelope)
    (h' : Sealed platform s envelope')
    (hid : envelope.printExecutionId = envelope'.printExecutionId) :
    envelope.fingerprint = envelope'.fingerprint := by
  obtain ⟨r, hr, e, he, key, hkey, hsealed⟩ := h
  obtain ⟨r', hr', e', he', key', hkey', hsealed'⟩ := h'
  -- one execution has one reservation, and one key with it
  rw [hsealed.executionId, hsealed'.executionId] at hid
  obtain rfl := Table.eq_of_key_eq he he' hid
  obtain rfl := hs.unique r hr r' hr' (hsealed.execution.symm.trans hsealed'.execution)
  obtain rfl := Table.eq_of_key_eq hkey hkey' (hsealed.recipient.trans hsealed'.recipient.symm)
  have hcontextSha256 := hsealed.contextSha256
  rw [hsealed'.contextSha256] at hcontextSha256
  simp only [Envelope.fingerprint, Envelope.replay, SensitiveReplay.fingerprint,
    hsealed.reservationId, hsealed'.reservationId, hsealed.payload, hsealed'.payload,
    hsealed.version, hsealed'.version, Except.ok.inj hcontextSha256]

/-- What `issue` seals, and for which rows. -/
theorem issue_sealed {session : Session} {reservationId bindingId : String}
    (h : issue platform session reservationId bindingId s = (.ok envelope, s')) :
    ∃ r ∈ s.reservations, r.id = reservationId ∧ r.agentBindingId = bindingId ∧
      ∃ e ∈ s.executions, ∃ key, Receives s r key ∧ SealedFor platform r e key envelope ∧
        ∃ plaintext, platform.sha256 plaintext = r.payloadSha256 ∧
          platform.encrypt key.publicKey plaintext envelope.context =
            .ok envelope.ciphertext := by
  cases (issue_ends _ _).of_run h with
  | refused herror =>
    obtain ⟨_, herror⟩ := herror
    cases herror
  | closed _ _ _ herror =>
    obtain ⟨_, herror⟩ := herror
    cases herror
  | issued r e key hissuable he hid hmove hsealed =>
    obtain ⟨hmem, hrid, hbinding, -⟩ := issuable_spec hissuable
    obtain ⟨plaintext, hpayload, hseal⟩ := hsealed envelope rfl
    obtain ⟨contextSha256, hcontext, hseal⟩ := Fallible.bind_eq_ok.mp hseal
    obtain ⟨ciphertext, hencrypt, hseal⟩ := Fallible.bind_eq_ok.mp hseal
    cases hseal
    cases hmove with
    | issue _ _ _ _ _ _ hreceives =>
      exact ⟨r, hmem, hrid, hbinding, e, he, key, hreceives,
        ⟨hid, hreceives.id, rfl, hcontext, rfl, rfl, rfl, rfl⟩, plaintext, hpayload, hencrypt⟩

end Sealed

/-! ## The agent and the server -/

/-- Every row of the replay store was recorded for one of the envelopes. -/
def RecordedFrom (envelopes : List Envelope) (rows : Table SensitiveReplay.key) : Prop :=
  ∀ row ∈ rows, ∃ envelope ∈ envelopes,
    row.executionId = envelope.printExecutionId ∧ row.fingerprint = envelope.fingerprint

/-- The agent opens an envelope with what it holds. -/
def Opens (platform : Platform) (agent : AgentPlatform) (x : KeyExchange)
    (envelope : Envelope) : Prop :=
  ∃ plaintext rows', openVerifyAckThenConsume platform agent x.file envelope true x.replays =
    (.ok plaintext, rows')

/-- The key of a reservation is the newest of its binding, and the file is bound. -/
def HoldsNewest (bindingId reservationId : String) (x : KeyExchange) : Prop :=
  (∃ r ∈ x.server.reservations, r.id = reservationId ∧
    ∃ key ∈ x.server.keys, key.id = r.agentEncryptionKeyId ∧
      ∀ key' ∈ x.server.keys, key'.agentBindingId = bindingId →
        key'.keyVersion ≤ key.keyVersion) ∧
    ∃ file keyVersion, x.file = some file ∧ file.serverKeyVersion = some keyVersion

/-- What holds of the agent and the server. -/
structure ExchangeInv (platform : Platform) (agent : AgentPlatform) (bindingId : String)
    (x : KeyExchange) : Prop where
  server : ServerKeys platform x.server
  newest : ∀ file keyVersion, x.file = some file →
    (file.serverKeyVersion = some keyVersion ∨ x.answered = some keyVersion) →
    Newest x.server bindingId keyVersion (agent.publicOf file.privateKey)
  envelopes : ∀ envelope ∈ x.envelopes, Sealed platform x.server envelope
  replays : RecordedFrom x.envelopes x.replays

section Exchange

variable {platform : Platform} {agent : AgentPlatform} {bindingId : String} {x x' : KeyExchange}
  {label : KeyLabel} {labels : List KeyLabel} {envelope : Envelope}

theorem exchangeInv_initial : ExchangeInv platform agent bindingId .initial where
  server := ⟨keysHold_initial, fun _ hkey => absurd hkey Table.not_mem_empty,
    fun _ hkey => absurd hkey Table.not_mem_empty⟩
  newest _ _ hfile := by cases hfile
  envelopes _ henvelope := by cases henvelope
  replays _ hrow := absurd hrow Table.not_mem_empty

/-- A step of the server keeps what holds, where it registers nothing but the key in the file. -/
theorem ExchangeInv.serverStep (h : ExchangeInv platform agent bindingId x)
    {serverLabel : PrintingLabel} {s' : PrintingState}
    (step : PrintingStep platform x.server serverLabel s')
    (hlabel : ∀ file, x.file = some file → ∀ session intentToken publicKey accepted,
      serverLabel = .call session (.registerPublicKey bindingId intentToken publicKey) accepted →
      publicKey = agent.publicOf file.privateKey) :
    ExchangeInv platform agent bindingId { x with server := s' } where
  server := (step.kept h.server).1
  newest file keyVersion hfile hversion :=
    (h.newest file keyVersion hfile hversion).step h.server step (hlabel file hfile)
  envelopes envelope henvelope := (h.envelopes envelope henvelope).stays (step.kept h.server).2.1
  replays := h.replays

/-- What is recorded for one of the envelopes. -/
theorem recordReplay_ends {envelopes : List Envelope} {rows : Table SensitiveReplay.key}
    {state : SensitiveReplayState} (h : RecordedFrom envelopes rows)
    (henvelope : envelope ∈ envelopes) :
    Tx.Ends (recordReplay (envelope.replay state)) rows fun _ rows' =>
      RecordedFrom envelopes rows' := by
  apply Tx.Ends.get
  cases rows.find? (envelope.replay state).executionId with
  | some existing =>
    apply Tx.Ends.read fun _ _ => h
    intro _ _ row hrow
    simp only [Tx.modify_apply, Table.mem_modify_iff_exists] at hrow
    obtain ⟨old, hold, rfl⟩ := hrow
    split
    · exact h old hold
    · exact h old hold
  | none =>
    apply Tx.Ends.read fun _ _ => h
    intro rows' hinsert row hrow
    rw [Fallible.found_eq_ok] at hinsert
    rcases (Table.mem_insert hinsert).mp hrow with hrow | rfl
    · exact h row hrow
    · exact ⟨envelope, henvelope, rfl, rfl⟩

/-- An envelope that was sent is recorded without a conflict. -/
theorem ExchangeInv.record (h : ExchangeInv platform agent bindingId x)
    {rows : Table SensitiveReplay.key} (state : SensitiveReplayState)
    (hrows : RecordedFrom x.envelopes rows) (henvelope : envelope ∈ x.envelopes) :
    ∃ rows', recordReplay (envelope.replay state) rows = (.ok (), rows') ∧
      RecordedFrom x.envelopes rows' := by
  have hok : ∃ rows', recordReplay (envelope.replay state) rows = (.ok (), rows') := by
    unfold recordReplay
    cases hfind : rows.find? (envelope.replay state).executionId with
    | some existing =>
      obtain ⟨sent, hsent, hid, hfingerprint⟩ := hrows existing (Table.mem_of_find? hfind)
      have hexecution : sent.printExecutionId = envelope.printExecutionId :=
        hid.symm.trans (Table.key_of_find? hfind)
      have hsame := (h.envelopes sent hsent).fingerprint h.server.hold.delivery
        (h.envelopes envelope henvelope) hexecution
      have hequal : existing.fingerprint = (envelope.replay state).fingerprint :=
        hfingerprint.trans hsame
      refine ⟨rows.modify (envelope.replay state).executionId
        (SensitiveReplay.moved (envelope.replay state).state (envelope.replay state).safeErrorCode)
        (SensitiveReplay.key_moved _ _), ?_⟩
      simp only [Tx.bind_apply, Tx.get_apply, hfind, Tx.ofExcept_apply, ensure, hequal, if_true,
        Tx.modify_apply]
    | none =>
      obtain ⟨rows', hinsert⟩ := Table.insert_isSome hfind
      refine ⟨rows', ?_⟩
      simp only [Tx.bind_apply, Tx.get_apply, hfind, Tx.ofExcept_apply, found, hinsert,
        Tx.modify_apply]
  obtain ⟨rows', hrecord⟩ := hok
  exact ⟨rows', hrecord, (recordReplay_ends hrows henvelope).of_run hrecord⟩

/-- An envelope that was sent opens when its code can be read. -/
theorem ExchangeInv.opens_iff (h : ExchangeInv platform agent bindingId x)
    (henvelope : envelope ∈ x.envelopes) :
    Opens platform agent x envelope ↔
      ∃ plaintext, openedPayload platform agent x.file envelope = .ok plaintext := by
  constructor
  · rintro ⟨plaintext, rows', hopen⟩
    obtain ⟨plaintext', _, hpayload, -⟩ := Tx.bind_eq_ok hopen
    simp only [Tx.ofExcept_apply, Prod.mk.injEq] at hpayload
    exact ⟨plaintext', hpayload.1⟩
  · rintro ⟨plaintext, hpayload⟩
    obtain ⟨rows₁, hfirst, hrows₁⟩ := h.record .openedVerified h.replays henvelope
    obtain ⟨rows₂, hsecond, -⟩ := h.record .acknowledged hrows₁ henvelope
    refine ⟨plaintext, rows₂, ?_⟩
    unfold openVerifyAckThenConsume
    simp only [Tx.bind_apply, Tx.ofExcept_apply, hpayload, hfirst, ensure, if_true, hsecond,
      Tx.pure_apply]

/-- Opening an envelope records nothing but it. -/
theorem openVerifyAckThenConsume_ends {envelopes : List Envelope}
    {rows : Table SensitiveReplay.key} {file : Option PrintKeyFile} {acknowledged : Bool}
    (h : RecordedFrom envelopes rows) (henvelope : envelope ∈ envelopes) :
    Tx.Ends (openVerifyAckThenConsume platform agent file envelope acknowledged) rows
      fun _ rows' => RecordedFrom envelopes rows' := by
  apply Tx.Ends.read fun _ _ => h
  intro plaintext _
  apply Tx.Ends.bind
  refine Tx.Ends.mono (recordReplay_ends h henvelope) fun _ rows₁ hrows₁ => ?_
  refine ⟨fun _ _ => hrows₁, fun _ _ => ?_⟩
  apply Tx.Ends.read fun _ _ => hrows₁
  intro _ _
  apply Tx.Ends.bind
  refine Tx.Ends.mono (recordReplay_ends hrows₁ henvelope) fun _ rows₂ hrows₂ => ?_
  exact ⟨fun _ _ => hrows₂, fun _ _ => hrows₂⟩

/-- Every step keeps what holds of the agent and the server. -/
theorem KeyStep.exchangeInv (h : ExchangeInv platform agent bindingId x)
    (step : KeyStep platform agent bindingId x label x') :
    ExchangeInv platform agent bindingId x' := by
  cases step with
  | server hstep hlabel =>
    refine h.serverStep hstep fun _ _ _ _ _ _ hcall => ?_
    rw [hcall] at hlabel
    simp [PrintingLabel.registers] at hlabel
  | generate =>
    refine ⟨h.server, ?_, h.envelopes, h.replays⟩
    rintro _ _ ⟨rfl⟩ (hversion | hversion) <;> cases hversion
  | @register session intentToken file key s' hfile hrun =>
    have hstep : PrintingStep platform x.server (.call session
        (.registerPublicKey bindingId intentToken (agent.publicOf file.privateKey)) true) s' := by
      apply PrintingStep.accepted
      simp only [PrintingAction.run, discard, Tx.bind_apply, hrun, Tx.pure_apply]
    have hserver := h.serverStep hstep fun file' hfile' _ _ _ _ hcall => by
      obtain rfl := Option.some.inj (hfile.symm.trans hfile')
      cases hcall
      rfl
    have hregistered := ((registerPublicKey_ends _ _ _).of_run hrun).2 key rfl
    refine ⟨hserver.server, ?_, hserver.envelopes, h.replays⟩
    rintro file' version hfile' (hbound | hanswered)
    · exact hserver.newest file' version hfile' (.inl hbound)
    · -- the key that was registered last is the newest one
      obtain rfl := Option.some.inj (hfile.symm.trans hfile')
      obtain rfl := Option.some.inj hanswered
      exact ⟨key, hregistered.mem, hregistered.binding, rfl, hregistered.raw, hregistered.newest⟩
  | unanswered hfile hstep =>
    refine h.serverStep hstep fun file' hfile' _ _ _ _ hcall => ?_
    obtain rfl := Option.some.inj (hfile.symm.trans hfile')
    cases hcall
    rfl
  | @bind file file' keyVersion hfile hanswered hbind =>
    obtain ⟨_, -, hbind⟩ := Fallible.bind_eq_ok.mp hbind
    cases hbind
    refine ⟨h.server, ?_, h.envelopes, h.replays⟩
    rintro _ version ⟨rfl⟩ (hbound | hversion)
    · exact h.newest file version hfile (.inr (hanswered.trans hbound))
    · exact h.newest file version hfile (.inr hversion)
  | @issue session reservationId envelope s' hrun =>
    have hstep : PrintingStep platform x.server
        (.call session (.issue reservationId bindingId) true) s' := by
      apply PrintingStep.accepted
      simp only [PrintingAction.run, discard, Tx.bind_apply, hrun, Tx.pure_apply]
    have hserver := h.serverStep hstep fun _ _ _ _ _ _ hcall => by cases hcall
    refine ⟨hserver.server, hserver.newest, ?_, ?_⟩
    · intro sent hsent
      rcases List.mem_append.mp hsent with hsent | hsent
      · exact hserver.envelopes sent hsent
      · obtain rfl := List.mem_singleton.mp hsent
        obtain ⟨r, hr, -, -, e, he, key, hreceives, hsealed, -⟩ := issue_sealed hrun
        have hsealed' : Sealed platform x.server sent :=
          ⟨r, hr, e, he, key, hreceives.mem, hsealed⟩
        exact hsealed'.stays (hstep.kept h.server).2.1
    · intro row hrow
      obtain ⟨sent, hsent, hrow⟩ := h.replays row hrow
      exact ⟨sent, List.mem_append_left _ hsent, hrow⟩
  | deliver henvelope =>
    exact ⟨h.server, h.newest, h.envelopes, openVerifyAckThenConsume_ends h.replays henvelope⟩

theorem run_exchangeInv (run : Run (KeyStep platform agent bindingId) .initial labels x) :
    ExchangeInv platform agent bindingId x :=
  run.invariant _ exchangeInv_initial fun _ _ _ h step => step.exchangeInv h

/-- An envelope that was just issued opens exactly when its key is the newest one of the binding
and the agent's file is bound to a version. -/
theorem opens_iff_newest
    (hpke : ∀ privateKey plaintext context ciphertext,
      platform.encrypt (agent.publicOf privateKey) plaintext context = .ok ciphertext →
      agent.openFullKm privateKey ciphertext context = .ok plaintext)
    (run : Run (KeyStep platform agent bindingId) .initial labels x)
    {session : Session} {reservationId : String} {s' : PrintingState}
    (hissue : issue platform session reservationId bindingId x.server = (.ok envelope, s')) :
    Opens platform agent { x with server := s', envelopes := x.envelopes ++ [envelope] } envelope ↔
      HoldsNewest bindingId reservationId x := by
  have h := run_exchangeInv run
  have h' := KeyStep.exchangeInv h (.issue hissue)
  obtain ⟨r, hr, hid, hbinding, e, he, key, hreceives, hsealed, plaintext, hpayload, hencrypt⟩ :=
    issue_sealed hissue
  have hkeyBinding : key.agentBindingId = bindingId := hreceives.binding.trans hbinding
  rw [h'.opens_iff (List.mem_append_right _ (List.mem_singleton.mpr rfl))]
  constructor
  · rintro ⟨_, hopened⟩
    obtain ⟨-, file, hfile, hversion, -⟩ := (openedPayload_eq_ok _ _ _ _).mp hopened
    rw [hsealed.version] at hversion
    obtain ⟨-, -, -, -, -, hnewest⟩ := h.newest file key.keyVersion hfile (.inl hversion)
    exact ⟨⟨r, hr, hid, key, hreceives.mem, hreceives.id, hnewest⟩, file, _, hfile, hversion⟩
  · rintro ⟨⟨r', hr', hid', key', hkey', hrecipient, hnewest⟩, file, version, hfile, hversion⟩
    obtain rfl := Table.eq_of_key_eq hr' hr (hid'.trans hid.symm)
    obtain rfl := Table.eq_of_key_eq hkey' hreceives.mem (hrecipient.trans hreceives.id.symm)
    -- the version in the file is the newest one as well, so its key is the key of the envelope
    obtain ⟨bound, hbound, hboundBinding, hboundVersion, hraw, hboundNewest⟩ :=
      h.newest file version hfile (.inl hversion)
    have hle := hnewest bound hbound hboundBinding
    have hge := hboundNewest key' hkey' hkeyBinding
    have hsame : bound.keyVersion = key'.keyVersion := by omega
    obtain rfl := h.server.hold.keys.version_inj hbound hkey'
      (hboundBinding.trans hkeyBinding.symm) hsame
    have hdecrypted := hpke file.privateKey plaintext envelope.context envelope.ciphertext
      (hraw ▸ hencrypt)
    have hpair := h.server.hold.delivery.pair e he r' hr hsealed.execution
    have hdigest : platform.sha256 plaintext = envelope.payloadSha256 := by
      rw [hpayload, hsealed.payload, hpair.payload]
    have hbinds : file.serverKeyVersion = some envelope.recipientKeyVersion := by
      rw [hversion, hsealed.version, hboundVersion]
    have hcontext : platform.contextSha256 envelope.context = .ok envelope.contextSha256 := by
      rw [hsealed.context, hsealed.contextSha256]
    exact ⟨plaintext, (openedPayload_eq_ok _ _ _ _).mpr
      ⟨hcontext, file, hfile, hbinds, hdecrypted, hdigest⟩⟩

end Exchange

/-! ## A rotation -/

/-- A step that is carried out, if it can be. -/
def KeyExchange.perform (platform : Platform) (agent : AgentPlatform) (bindingId : String)
    (x : KeyExchange) : KeyLabel → Option KeyExchange
  | .server (.call session action _) =>
    if (PrintingLabel.call session action true).registers bindingId then none
    else some { x with server := (action.run platform session x.server).2 }
  | .generate privateKey => some { x with file := some (.generate privateKey), answered := none }
  | .register session intentToken =>
    match x.file with
    | none => none
    | some file =>
      match registerPublicKey platform session bindingId intentToken
          (agent.publicOf file.privateKey) x.server with
      | (.ok key, s') => some { x with server := s', answered := some key.keyVersion }
      | (.error _, _) => none
  | .bind keyVersion =>
    match x.file with
    | none => none
    | some file =>
      match file.bindServerVersion keyVersion with
      | .ok file' => if x.answered = some keyVersion then some { x with file := some file' } else none
      | .error _ => none
  | _ => none

section Sample

variable {platform : Platform} {agent : AgentPlatform} {bindingId : String} {x x' : KeyExchange}

theorem KeyExchange.perform_spec {label : KeyLabel}
    (h : x.perform platform agent bindingId label = some x') :
    ∃ label', KeyStep platform agent bindingId x label' x' := by
  unfold perform at h
  split at h
  · rename_i session action _
    split at h
    · cases h
    · rename_i hregisters
      cases h
      refine ⟨_, .server (PrintingStep.of_run platform session action x.server) ?_⟩
      cases action <;> simp_all [PrintingLabel.registers]
  · cases h
    exact ⟨_, .generate⟩
  · split at h
    · cases h
    · rename_i file hfile
      split at h
      · rename_i key s' hrun
        cases h
        exact ⟨_, .register hfile hrun⟩
      · cases h
  · split at h
    · cases h
    · rename_i file hfile
      split at h
      · rename_i file' hbind
        split at h
        · rename_i hanswered
          cases h
          exact ⟨_, .bind hfile hanswered hbind⟩
        · cases h
      · cases h
  · cases h

/-- Steps one after another are a run. -/
theorem run_performed {start : KeyExchange} {labels labels₀ : List KeyLabel}
    (run : Run (KeyStep platform agent bindingId) start labels₀ x)
    (h : labels.foldlM (fun x label => x.perform platform agent bindingId label) x = some x') :
    ∃ labels', Run (KeyStep platform agent bindingId) start labels' x' := by
  induction labels generalizing x labels₀ with
  | nil =>
    cases h
    exact ⟨_, run⟩
  | cons label labels ih =>
    rw [List.foldlM_cons, Option.bind_eq_bind, Option.bind_eq_some_iff] at h
    obtain ⟨x₁, hstep, hrest⟩ := h
    obtain ⟨label', hstep⟩ := KeyExchange.perform_spec hstep
    exact ih (run.snoc hstep) hrest

end Sample

/-- A platform that puts the recipient in front of what it seals. -/
def sealingPlatform : Platform :=
  { samplePlatform with encrypt := fun publicKey plaintext _ => .ok (publicKey ++ plaintext) }

def sampleAgent : AgentPlatform where
  publicOf privateKey := privateKey.val
  openFullKm privateKey ciphertext _ :=
    if ciphertext.take 32 = privateKey.val then .ok (ciphertext.drop 32)
    else .error (envelopeError "HPKE envelope authentication failed")

def samplePrivateKey (byte : UInt8) : PrivateKey := ⟨List.replicate 32 byte, by simp⟩

def sampleServerLabel (session : Session) (action : PrintingAction) : KeyLabel :=
  .server (.call session action true)

/-- The agent generates a key, registers it and binds it; then a label is authorised. -/
def sampleBoundLabels : List KeyLabel :=
  [sampleServerLabel (sampleSession 1 "job") (.createPrintJob {
      storedItemIds := ["code"], templateVersionId := "version"
      printerProfileId := some "profile" }),
    sampleServerLabel (sampleSession 2 "intent") (.createKeyIntent "binding" .firstRegistration 1),
    .generate (samplePrivateKey 9),
    .register (sampleSession 3 "key") (sampleSession 2 "intent").token,
    .bind 1,
    sampleServerLabel (sampleSession 4 "execution") (.authorizeDelivery "job0" "job1" none)]

/-- The agent rotates its key after the authorisation. -/
def sampleRotatedLabels : List KeyLabel :=
  sampleBoundLabels ++
    [sampleServerLabel (sampleSession 5 "rotate") (.createKeyIntent "binding" .rotate 1),
      .generate (samplePrivateKey 8),
      .register (sampleSession 6 "next") (sampleSession 5 "rotate").token,
      .bind 2]

/-- The exchange around the sample tables, after some steps. -/
def sampleExchange (labels : List KeyLabel) : Option KeyExchange :=
  labels.foldlM (fun x label => x.perform sealingPlatform sampleAgent "binding" label)
    { KeyExchange.initial with server := sampleTables }

theorem sampleExchange_run {labels : List KeyLabel} {x : KeyExchange}
    (h : sampleExchange labels = some x) :
    ∃ labels', Run (KeyStep sealingPlatform sampleAgent "binding") .initial labels' x :=
  run_performed (.single (.server (.surroundings sampleTables_around) rfl)) h

theorem sampleAgent_opens (privateKey : PrivateKey) (plaintext : List UInt8)
    (context : DeliveryContext) (ciphertext : List UInt8)
    (h : sealingPlatform.encrypt (sampleAgent.publicOf privateKey) plaintext context =
      .ok ciphertext) : sampleAgent.openFullKm privateKey ciphertext context = .ok plaintext := by
  cases h
  obtain ⟨raw, hlength⟩ := privateKey
  simp only [sampleAgent, List.take_left' hlength, List.drop_left' hlength, if_true]

/-- An issue of the sample reservation. -/
def sampleIssue (x : KeyExchange) : Except PyError Envelope × PrintingState :=
  issue sealingPlatform (sampleSession 7 "") "execution1" "binding" x.server

theorem sampleIssue_ok {x : KeyExchange} (h : (sampleIssue x).1.isOk = true) :
    ∃ envelope s', issue sealingPlatform (sampleSession 7 "") "execution1" "binding" x.server =
      (.ok envelope, s') := by
  unfold sampleIssue at h
  rcases hissue : issue sealingPlatform (sampleSession 7 "") "execution1" "binding" x.server
    with ⟨r, s'⟩
  rw [hissue] at h
  cases r with
  | ok envelope => exact ⟨envelope, s', rfl⟩
  | error e => cases h

/-- The label opens while the agent holds the key that it was authorised for. -/
theorem opens_iff_newest_sample : ∃ labels x envelope s',
    Run (KeyStep sealingPlatform sampleAgent "binding") .initial labels x ∧
      issue sealingPlatform (sampleSession 7 "") "execution1" "binding" x.server =
        (.ok envelope, s') ∧
      Opens sealingPlatform sampleAgent
        { x with server := s', envelopes := x.envelopes ++ [envelope] } envelope := by
  have hchecked : (sampleExchange sampleBoundLabels).map (fun x =>
      decide ((sampleIssue x).1.isOk = true ∧ x.file = some ⟨samplePrivateKey 9, some 1⟩ ∧
        ∃ r ∈ x.server.reservations, r.id = "execution1" ∧
          ∃ key ∈ x.server.keys, key.id = r.agentEncryptionKeyId ∧
            ∀ key' ∈ x.server.keys, key'.agentBindingId = "binding" →
              key'.keyVersion ≤ key.keyVersion)) = some true := by
    decide +kernel
  obtain ⟨x, hx, hchecked⟩ := Option.map_eq_some_iff.mp hchecked
  obtain ⟨hok, hfile, hnewest⟩ := of_decide_eq_true hchecked
  obtain ⟨labels, run⟩ := sampleExchange_run hx
  obtain ⟨envelope, s', hissue⟩ := sampleIssue_ok hok
  refine ⟨labels, x, envelope, s', run, hissue, ?_⟩
  exact (opens_iff_newest sampleAgent_opens run hissue).mpr ⟨hnewest, _, 1, hfile, rfl⟩

/-- A key retires after the authorisation: the server seals for it, and the agent, which has bound
its new key, cannot open the envelope. -/
theorem retiring_not_opened : ∃ labels x envelope s',
    Run (KeyStep sealingPlatform sampleAgent "binding") .initial labels x ∧
      x.file = some ⟨samplePrivateKey 8, some 2⟩ ∧
      issue sealingPlatform (sampleSession 7 "") "execution1" "binding" x.server =
        (.ok envelope, s') ∧
      (∃ key ∈ x.server.keys, key.agentBindingId = "binding" ∧ key.state = .retiring ∧
        key.keyVersion = envelope.recipientKeyVersion) ∧
      ¬ Opens sealingPlatform sampleAgent
        { x with server := s', envelopes := x.envelopes ++ [envelope] } envelope := by
  have hchecked : (sampleExchange sampleRotatedLabels).map (fun x =>
      decide ((sampleIssue x).1.map Envelope.recipientKeyVersion = .ok 1 ∧
        x.file = some ⟨samplePrivateKey 8, some 2⟩ ∧
        ∃ key ∈ x.server.keys, key.agentBindingId = "binding" ∧ key.state = .retiring ∧
          key.keyVersion = 1)) = some true := by
    decide +kernel
  obtain ⟨x, hx, hchecked⟩ := Option.map_eq_some_iff.mp hchecked
  obtain ⟨hversion, hfile, hretiring⟩ := of_decide_eq_true hchecked
  obtain ⟨labels, run⟩ := sampleExchange_run hx
  have hok : (sampleIssue x).1.isOk = true := by
    cases hresult : (sampleIssue x).1 with
    | ok envelope => rfl
    | error e =>
      rw [hresult] at hversion
      cases hversion
  obtain ⟨envelope, s', hissue⟩ := sampleIssue_ok hok
  rw [sampleIssue, hissue] at hversion
  have hrecipient : envelope.recipientKeyVersion = 1 := Except.ok.inj hversion
  refine ⟨labels, x, envelope, s', run, hfile, hissue, hrecipient ▸ hretiring, ?_⟩
  rintro ⟨plaintext, rows', hopen⟩
  obtain ⟨_, _, hpayload, -⟩ := Tx.bind_eq_ok hopen
  simp only [Tx.ofExcept_apply, Prod.mk.injEq] at hpayload
  obtain ⟨-, file, hfile', hbinds, -⟩ := (openedPayload_eq_ok _ _ _ _).mp hpayload.1
  -- the file is bound to the second version, and the envelope is for the first one
  obtain rfl := Option.some.inj (hfile.symm.trans hfile')
  rw [hrecipient] at hbinds
  cases hbinds

end Wbcz.Printing

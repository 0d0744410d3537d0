import Mathlib.Data.List.Count
import Wbcz.Printing.Boundary

/-!
# The life of printing keys

A binding has one active key at most, its versions increase in the order of the table, an intent
is used once, and a reservation is issued no more often than it may be, never for a key that was
given up, and for a retiring key only when it was authorised before.
-/

namespace Wbcz.Printing

open Transition (Run)

/-- What holds of the table of keys. -/
structure KeyInv (keys : Table EncryptionKey.key) : Prop where
  active : ∀ key ∈ keys, ∀ key' ∈ keys, key.agentBindingId = key'.agentBindingId →
    key.state = .active → key'.state = .active → key = key'
  versions : keys.rows.Pairwise fun key key' =>
    key.agentBindingId = key'.agentBindingId → key.keyVersion < key'.keyVersion

/-- No two intents have one token. -/
def TokensDiffer (intents : Table KeyIntent.key) : Prop :=
  ∀ intent ∈ intents, ∀ intent' ∈ intents, intent.tokenHash = intent'.tokenHash → intent = intent'

/-- What a rewriting of a key that leaves the active state keeps. -/
structure LeavesActive (f : EncryptionKey → EncryptionKey) : Prop where
  binding : ∀ key, (f key).agentBindingId = key.agentBindingId
  version : ∀ key, (f key).keyVersion = key.keyVersion
  state : ∀ key, (f key).state ≠ .active

section Keys

variable {platform : Platform} {kind : MoveKind} {s s' : PrintingState}
  {keys keys' : Table EncryptionKey.key}

theorem leavesActive_retiring (now : ℤ) : LeavesActive (retiringKey now) :=
  ⟨fun _ => rfl, fun _ => rfl, fun _ => KeyState.noConfusion⟩

theorem leavesActive_revoked (now : ℤ) : LeavesActive (revokedKey now) :=
  ⟨fun _ => rfl, fun _ => rfl, fun _ => KeyState.noConfusion⟩

/-- Keys that leave the active state keep what holds of keys. -/
theorem KeyInv.modify (h : KeyInv keys) {keyId : String} {f : EncryptionKey → EncryptionKey}
    (hf : ∀ key, (f key).key = key.key) (hleaves : LeavesActive f) :
    KeyInv (keys.modify keyId f hf) where
  active := by
    intro key hkey key' hkey' hbinding hactive hactive'
    rw [Table.mem_modify] at hkey hkey'
    rcases hkey with ⟨hkey, -⟩ | ⟨key, -, -, rfl⟩
    · rcases hkey' with ⟨hkey', -⟩ | ⟨key', -, -, rfl⟩
      · exact h.active key hkey key' hkey' hbinding hactive hactive'
      · exact absurd hactive' (hleaves.state key')
    · exact absurd hactive (hleaves.state key)
  versions := by
    rw [Table.modify, List.pairwise_map]
    refine h.versions.imp fun {key key'} hlt => ?_
    split <;> split <;> simpa only [hleaves.binding, hleaves.version] using hlt

/-- A new key is the only active one of its binding, and its version is the highest. -/
theorem KeyInv.insert (h : KeyInv s.keys) {key : EncryptionKey}
    (hconflicts : keyConflicts s key = false)
    (hversion : key.keyVersion = highestVersion s key.agentBindingId + 1)
    (hinsert : s.keys.insert key = some keys') : KeyInv keys' := by
  have hnone : ∀ row ∈ s.keys, row.agentBindingId = key.agentBindingId → row.state = .active →
      key.state = .active → False := by
    intro row hrow hbinding hactive hactive'
    have hrowConflicts := List.any_eq_false.mp hconflicts row hrow
    simp [hbinding, hactive, hactive'] at hrowConflicts
  constructor
  · intro key₁ hkey₁ key₂ hkey₂ hbinding hactive₁ hactive₂
    rcases (Table.mem_insert hinsert).mp hkey₁ with hkey₁ | rfl
    · rcases (Table.mem_insert hinsert).mp hkey₂ with hkey₂ | rfl
      · exact h.active key₁ hkey₁ key₂ hkey₂ hbinding hactive₁ hactive₂
      · exact (hnone key₁ hkey₁ hbinding hactive₁ hactive₂).elim
    · rcases (Table.mem_insert hinsert).mp hkey₂ with hkey₂ | rfl
      · exact (hnone key₂ hkey₂ hbinding.symm hactive₂ hactive₁).elim
      · rfl
  · rw [(Table.insert_eq_some hinsert).2, List.pairwise_append]
    refine ⟨h.versions, List.pairwise_singleton _ _, ?_⟩
    rintro row hrow _ hkey hbinding
    rw [List.mem_singleton.mp hkey] at hbinding ⊢
    have hle := le_highestVersion hrow
    rw [hbinding] at hle
    omega

theorem Move.keyInv (h : KeyInv s.keys) (move : Move platform s kind s') : KeyInv s'.keys := by
  cases move with
  | retireKey => exact h.modify (key_retiringKey _) (leavesActive_retiring _)
  | revokeKey => exact h.modify (key_revokedKey _) (leavesActive_revoked _)
  | insertKey _ hconflicts hversion hinsert => exact h.insert hconflicts hversion hinsert
  | @report session _ _ result e rows =>
    rw [(applyResult_keys e.id rows.item.id rows.job.id result session.now).1]
    exact h
  | _ => exact h

/-! ### Intents -/

/-- An intent that takes a new state keeps its token. -/
theorem TokensDiffer.modify {intents : Table KeyIntent.key} (h : TokensDiffer intents)
    {intentId : String} {state : IntentState} {usedAt : Option ℤ} :
    TokensDiffer (intents.modify intentId (intentMoved state usedAt) (key_intentMoved _ _)) := by
  intro intent hintent intent' hintent' htoken
  simp only [Table.mem_modify_iff_exists] at hintent hintent'
  obtain ⟨row, hrow, rfl⟩ := hintent
  obtain ⟨row', hrow', rfl⟩ := hintent'
  have hsame : row = row' := by
    apply h row hrow row' hrow'
    split at htoken <;> split at htoken <;> exact htoken
  rw [hsame]

theorem Move.tokensDiffer (h : TokensDiffer s.intents) (move : Move platform s kind s') :
    TokensDiffer s'.intents := by
  cases move with
  | insertIntent _ hnew hinsert =>
    intro intent₁ hintent₁ intent₂ hintent₂ htoken
    rcases (Table.mem_insert hinsert).mp hintent₁ with hintent₁ | rfl
    · rcases (Table.mem_insert hinsert).mp hintent₂ with hintent₂ | rfl
      · exact h intent₁ hintent₁ intent₂ hintent₂ htoken
      · exact absurd htoken (hnew intent₁ hintent₁)
    · rcases (Table.mem_insert hinsert).mp hintent₂ with hintent₂ | rfl
      · exact absurd htoken.symm (hnew intent₂ hintent₂)
      · rfl
  | expireIntent => exact h.modify
  | useIntent => exact h.modify
  | @report session _ _ result e rows =>
    rw [(applyResult_keys e.id rows.item.id rows.job.id result session.now).2]
    exact h
  | _ => exact h

/-- A used intent is not the pending one that moves. -/
theorem used_of_moveIntent {intent pending : KeyIntent} {state : IntentState}
    {usedAt : Option ℤ} (hintent : intent ∈ s.intents) (hused : intent.state = .used)
    (hpending : pending ∈ s.intents) (hstate : pending.state = .pending) :
    intent ∈ (s.moveIntent pending.id state usedAt).intents := by
  simp only [PrintingState.moveIntent, Table.mem_modify_iff_exists]
  refine ⟨intent, hintent, if_neg fun hid => ?_⟩
  rw [Table.eq_of_key_eq hintent hpending hid, hstate] at hused
  cases hused

/-- An intent that was used stays as it is. -/
theorem Move.usedIntent {intent : KeyIntent} (move : Move platform s kind s')
    (hintent : intent ∈ s.intents) (hused : intent.state = .used) : intent ∈ s'.intents := by
  cases move with
  | insertIntent _ _ hinsert => exact (Table.mem_insert hinsert).mpr (.inl hintent)
  | expireIntent hpending hstate => exact used_of_moveIntent hintent hused hpending hstate
  | useIntent hpending hstate => exact used_of_moveIntent hintent hused hpending hstate
  | @report session _ _ result e rows =>
    rw [(applyResult_keys e.id rows.item.id rows.job.id result session.now).2]
    exact hintent
  | _ => exact hintent

/-! ### Reservations -/

/-- A reservation is issued no more often than it may be, and its count does not decrease. -/
theorem PairStep.issueCount {e e' : PrintExecution} {r r' : DeliveryReservation}
    (step : PairStep kind e r e' r') (h : r.issueCount ≤ r.maxIssueCount) :
    r.issueCount ≤ r'.issueCount ∧ r'.issueCount ≤ r'.maxIssueCount := by
  cases step with
  | issued _ _ hunspent =>
    have hlt := not_le.mp (not_or.mp hunspent).2
    exact ⟨Nat.le_succ _, hlt⟩
  | _ => exact ⟨le_refl _, h⟩

/-- No reservation was issued more often than it may be. -/
def IssuedWithin (s : PrintingState) : Prop :=
  ∀ r ∈ s.reservations, r.issueCount ≤ r.maxIssueCount

theorem Move.issuedWithin (h : DeliveryInv s) (hs : IssuedWithin s)
    (move : Move platform s kind s') : IssuedWithin s' := by
  intro r' hr'
  rcases move.pairs h with ⟨f, g, hrewritten⟩ | ⟨-, -, hreservations⟩
  · obtain ⟨r, hr, rfl⟩ := (hrewritten.reservations r').mp hr'
    obtain ⟨e, he, hid, step⟩ := hrewritten.reservation h hr
    exact (step.issueCount (hs r hr)).2
  · rcases (Table.mem_insert hreservations).mp hr' with hr | rfl
    · exact hs r' hr
    · exact Nat.zero_le _

/-- A reservation stays, and its count does not decrease. -/
theorem Move.reservation (h : DeliveryInv s) (hs : IssuedWithin s)
    (move : Move platform s kind s') {r : DeliveryReservation} (hr : r ∈ s.reservations) :
    ∃ r' ∈ s'.reservations, SameReservation r r' ∧ r.issueCount ≤ r'.issueCount := by
  rcases move.pairs h with ⟨f, g, hrewritten⟩ | ⟨-, -, hreservations⟩
  · obtain ⟨e, he, hid, step⟩ := hrewritten.reservation h hr
    exact ⟨g r, (hrewritten.reservations _).mpr ⟨r, hr, rfl⟩, step.sameReservation,
      (step.issueCount (hs r hr)).1⟩
  · exact ⟨r, (Table.mem_insert hreservations).mpr (.inl hr),
      ⟨rfl, rfl, rfl, rfl, rfl, rfl, rfl, rfl, rfl, rfl⟩, le_refl _⟩

/-- An issue counts. -/
theorem Move.issue_counts {r : DeliveryReservation} {key : EncryptionKey}
    (move : Move platform s (.issue r key) s') :
    ∃ r' ∈ s'.reservations, r'.id = r.id ∧ r'.issueCount = r.issueCount + 1 := by
  cases move with
  | @issue _ e _ now contextSha256 hr =>
    simp only [PrintingState.issueReservation, Table.mem_modify_iff_exists]
    exact ⟨issuedReservation contextSha256 now r, ⟨r, hr, if_pos rfl⟩, rfl, rfl⟩

/-- A key that is not active gets no new reservations. -/
theorem Move.reservation_of_inactive (h : DeliveryInv s) (move : Move platform s kind s')
    {key : EncryptionKey} (hkey : key ∈ s.keys)
    (hstate : key.state ≠ .active) {r' : DeliveryReservation} (hr' : r' ∈ s'.reservations)
    (hid : r'.agentEncryptionKeyId = key.id) :
    ∃ r ∈ s.reservations, r.id = r'.id ∧ r.agentEncryptionKeyId = key.id := by
  rcases move.pairs h with ⟨f, g, hrewritten⟩ | ⟨hauthorized, -, hreservations⟩
  · obtain ⟨r, hr, rfl⟩ := (hrewritten.reservations r').mp hr'
    obtain ⟨e, he, _, step⟩ := hrewritten.reservation h hr
    exact ⟨r, hr, step.sameReservation.id.symm, step.sameReservation.encryptionKey.symm.trans hid⟩
  · rcases (Table.mem_insert hreservations).mp hr' with hr | rfl
    · exact ⟨r', hr, rfl, hid⟩
    · obtain ⟨hactive, -⟩ := authorizationGraph_spec hauthorized.graph
      obtain ⟨hmem, -, hactive, -⟩ := activeKey_spec hactive
      rw [Table.eq_of_key_eq hmem hkey hid] at hactive
      exact absurd hactive hstate

/-- A key that is not active does not become active again. -/
theorem Move.inactive (move : Move platform s kind s') {key : EncryptionKey}
    (hkey : key ∈ s.keys) (hstate : key.state ≠ .active) :
    ∃ key' ∈ s'.keys, key'.id = key.id ∧ key'.state ≠ .active := by
  cases move with
  | @retireKey key₀ now =>
    simp only [PrintingState.retireKey, Table.mem_modify_iff_exists]
    refine ⟨_, ⟨key, hkey, rfl⟩, ?_⟩
    split
    · exact ⟨rfl, KeyState.noConfusion⟩
    · exact ⟨rfl, hstate⟩
  | @revokeKey keyId now =>
    simp only [PrintingState.revokeKey, Table.mem_modify_iff_exists]
    refine ⟨_, ⟨key, hkey, rfl⟩, ?_⟩
    split
    · exact ⟨rfl, KeyState.noConfusion⟩
    · exact ⟨rfl, hstate⟩
  | insertKey _ _ _ hinsert =>
    exact ⟨key, (Table.mem_insert hinsert).mpr (.inl hkey), rfl, hstate⟩
  | @report session _ _ result e rows =>
    rw [(applyResult_keys e.id rows.item.id rows.job.id result session.now).1]
    exact ⟨key, hkey, rfl, hstate⟩
  | _ => exact ⟨key, hkey, rfl, hstate⟩

end Keys

/-! ## Runs -/

/-- What holds of keys, intents and reservations. -/
structure KeysHold (s : PrintingState) : Prop where
  delivery : DeliveryInv s
  keys : KeyInv s.keys
  tokens : TokensDiffer s.intents
  issued : IssuedWithin s

/-- What was used stays used, and a key that is not active gets no new reservations. -/
structure KeepsUse (s s' : PrintingState) : Prop where
  used : ∀ intent ∈ s.intents, intent.state = .used → intent ∈ s'.intents
  counts : ∀ r ∈ s.reservations, ∃ r' ∈ s'.reservations, r'.id = r.id ∧
    r.issueCount ≤ r'.issueCount
  inactive : ∀ key ∈ s.keys, key.state ≠ .active →
    ∃ key' ∈ s'.keys, key'.id = key.id ∧ key'.state ≠ .active
  reserved : ∀ key ∈ s.keys, key.state ≠ .active → ∀ r' ∈ s'.reservations,
    r'.agentEncryptionKeyId = key.id →
    ∃ r ∈ s.reservations, r.id = r'.id ∧ r.agentEncryptionKeyId = key.id

/-- An accepted registration with the token of an intent. -/
def consumes (platform : Platform) (tokenHash : String) : PrintingLabel → Bool
  | .call _ (.registerPublicKey _ intentToken _) true =>
    intentHash platform intentToken = tokenHash
  | _ => false

/-- An accepted issue of a reservation. -/
def issues (reservationId : String) : PrintingLabel → Bool
  | .call _ (.issue id _) true => id = reservationId
  | _ => false

section Runs

variable {platform : Platform} {kind : MoveKind} {s s' s'' : PrintingState}
  {label : PrintingLabel} {labels : List PrintingLabel}

theorem keysHold_initial : KeysHold .initial where
  delivery := deliveryInv_initial
  keys := ⟨fun _ hkey => absurd hkey Table.not_mem_empty, .nil⟩
  tokens := fun _ hintent => absurd hintent Table.not_mem_empty
  issued := fun _ hr => absurd hr Table.not_mem_empty

theorem KeepsUse.refl : KeepsUse s s where
  used _ h _ := h
  counts r hr := ⟨r, hr, rfl, le_refl _⟩
  inactive key hkey hstate := ⟨key, hkey, rfl, hstate⟩
  reserved _ _ _ r hr hreserved := ⟨r, hr, rfl, hreserved⟩

theorem KeepsUse.trans (h : KeepsUse s s') (h' : KeepsUse s' s'') : KeepsUse s s'' where
  used intent hintent hused := h'.used intent (h.used intent hintent hused) hused
  counts r hr := by
    obtain ⟨r', hr', hid, hle⟩ := h.counts r hr
    obtain ⟨r'', hr'', hid', hle'⟩ := h'.counts r' hr'
    exact ⟨r'', hr'', hid'.trans hid, hle.trans hle'⟩
  inactive key hkey hstate := by
    obtain ⟨key', hkey', hid, hstate'⟩ := h.inactive key hkey hstate
    obtain ⟨key'', hkey'', hid', hstate''⟩ := h'.inactive key' hkey' hstate'
    exact ⟨key'', hkey'', hid'.trans hid, hstate''⟩
  reserved key hkey hstate r'' hr'' hreserved := by
    obtain ⟨key', hkey', hid, hstate'⟩ := h.inactive key hkey hstate
    obtain ⟨r', hr', hid', hreserved'⟩ :=
      h'.reserved key' hkey' hstate' r'' hr'' (hreserved.trans hid.symm)
    obtain ⟨r, hr, hid'', hreserved''⟩ :=
      h.reserved key hkey hstate r' hr' (hreserved'.trans hid)
    exact ⟨r, hr, hid''.trans hid', hreserved''⟩

theorem Move.keysHold (h : KeysHold s) (move : Move platform s kind s') :
    KeysHold s' ∧ KeepsUse s s' where
  left := ⟨h.delivery.move move, move.keyInv h.keys, move.tokensDiffer h.tokens,
    move.issuedWithin h.delivery h.issued⟩
  right := {
    used := fun _ hintent hused => move.usedIntent hintent hused
    counts := by
      intro r hr
      obtain ⟨r', hr', hsame, hle⟩ := move.reservation h.delivery h.issued hr
      exact ⟨r', hr', hsame.id, hle⟩
    inactive := fun _ hkey hstate => move.inactive hkey hstate
    reserved := fun _ hkey hstate _ hr' hid =>
      move.reservation_of_inactive h.delivery hkey hstate hr' hid }

theorem KeysHold.surroundings (h : KeysHold s) (around : Surroundings s s') :
    KeysHold s' ∧ KeepsUse s s' where
  left := by
    refine ⟨h.delivery.surroundings around, ?_, ?_, ?_⟩
    · rw [around.keys]
      exact h.keys
    · rw [around.intents]
      exact h.tokens
    · rw [IssuedWithin, around.reservations]
      exact h.issued
  right := by
    refine ⟨fun intent hintent _ => ?_, fun r hr => ?_, fun key hkey hstate => ?_, ?_⟩
    · rw [around.intents]
      exact hintent
    · rw [around.reservations]
      exact ⟨r, hr, rfl, le_refl _⟩
    · rw [around.keys]
      exact ⟨key, hkey, rfl, hstate⟩
    · rw [around.reservations]
      exact fun _ _ _ r hr hreserved => ⟨r, hr, rfl, hreserved⟩

/-- What holds of keys is kept along a run, and so is what was used. -/
theorem run_keysHold (h : KeysHold s) (run : Run (PrintingStep platform) s labels s') :
    KeysHold s' ∧ KeepsUse s s' := by
  refine run_invariant run (fun t => KeysHold t ∧ KeepsUse s t) ⟨h, .refl⟩ ?_ ?_
  · rintro t t' ⟨ht, hkeeps⟩ around
    obtain ⟨ht', hkeeps'⟩ := ht.surroundings around
    exact ⟨ht', hkeeps.trans hkeeps'⟩
  · rintro kind t t' ⟨ht, hkeeps⟩ move
    obtain ⟨ht', hkeeps'⟩ := move.keysHold ht
    exact ⟨ht', hkeeps.trans hkeeps'⟩

/-- An accepted registration uses a pending intent. -/
theorem PrintingStep.consumed {tokenHash : String} (step : PrintingStep platform s label s')
    (h : consumes platform tokenHash label = true) :
    (∃ intent ∈ s.intents, intent.tokenHash = tokenHash ∧ intent.state = .pending) ∧
      ∃ intent ∈ s'.intents, intent.tokenHash = tokenHash ∧ intent.state = .used := by
  unfold consumes at h
  split at h
  · rw [decide_eq_true_eq] at h
    cases step with
    | accepted hrun =>
      obtain ⟨key, s₁, hregister, hpure⟩ := Tx.bind_eq_ok hrun
      cases hpure
      have hends := (registerPublicKey_ends _ _ _).of_run hregister
      obtain ⟨intent, hmem, htoken, hpending, hused⟩ := (hends.2 key rfl).intent
      exact ⟨⟨intent, hmem, htoken.trans h, hpending⟩, _, hused, htoken.trans h, rfl⟩
  · cases h

/-- An accepted issue counts. -/
theorem PrintingStep.issued {reservationId : String} (step : PrintingStep platform s label s')
    (h : issues reservationId label = true) :
    ∃ r ∈ s.reservations, r.id = reservationId ∧
      ∃ r' ∈ s'.reservations, r'.id = reservationId ∧ r'.issueCount = r.issueCount + 1 := by
  unfold issues at h
  split at h
  · rw [decide_eq_true_eq] at h
    cases step with
    | accepted hrun =>
      obtain ⟨envelope, s₁, hissue, hpure⟩ := Tx.bind_eq_ok hrun
      cases hpure
      cases (issue_ends _ _).of_run hissue with
      | refused herror =>
        obtain ⟨_, herror⟩ := herror
        cases herror
      | closed _ _ _ herror =>
        obtain ⟨_, herror⟩ := herror
        cases herror
      | issued r _ _ hissuable _ _ hmove =>
        obtain ⟨hmem, hid, -⟩ := issuable_spec hissuable
        obtain ⟨r', hr', hid', hcount⟩ := hmove.issue_counts
        exact ⟨r, hmem, hid.trans h, r', hr', hid'.trans (hid.trans h), hcount⟩
  · cases h

/-- What the calls so far say of the tables. -/
structure History (platform : Platform) (labels : List PrintingLabel) (s : PrintingState) :
    Prop where
  holds : KeysHold s
  consumed : ∀ tokenHash, labels.countP (consumes platform tokenHash) = 0 ∨
    labels.countP (consumes platform tokenHash) = 1 ∧
      ∃ intent ∈ s.intents, intent.tokenHash = tokenHash ∧ intent.state = .used
  counted : ∀ reservationId, labels.countP (issues reservationId) = 0 ∨
    ∃ r ∈ s.reservations, r.id = reservationId ∧
      labels.countP (issues reservationId) ≤ r.issueCount

theorem History.step (h : History platform labels s) (step : PrintingStep platform s label s') :
    History platform (labels ++ [label]) s' := by
  obtain ⟨hholds, hkeeps⟩ := run_keysHold h.holds (.single step)
  refine ⟨hholds, fun tokenHash => ?_, fun reservationId => ?_⟩
  · rw [List.countP_append, List.countP_singleton]
    by_cases hc : consumes platform tokenHash label = true
    · obtain ⟨⟨intent, hmem, htoken, hpending⟩, hused⟩ := step.consumed hc
      rw [if_pos hc]
      rcases h.consumed tokenHash with hzero | ⟨-, intent', hmem', htoken', hused'⟩
      · exact .inr ⟨by rw [hzero], hused⟩
      · -- the intent of the token is used already
        rw [h.holds.tokens intent hmem intent' hmem' (htoken.trans htoken'.symm), hused'] at hpending
        cases hpending
    · rw [if_neg hc, Nat.add_zero]
      rcases h.consumed tokenHash with hzero | ⟨hone, intent, hmem, htoken, hused⟩
      · exact .inl hzero
      · exact .inr ⟨hone, intent, hkeeps.used intent hmem hused, htoken, hused⟩
  · rw [List.countP_append, List.countP_singleton]
    by_cases hi : issues reservationId label = true
    · obtain ⟨r, hr, hid, r', hr', hid', hcount⟩ := step.issued hi
      rw [if_pos hi]
      refine .inr ⟨r', hr', hid', ?_⟩
      rcases h.counted reservationId with hzero | ⟨r₀, hr₀, hid₀, hle⟩
      · omega
      · rw [Table.eq_of_key_eq hr₀ hr (hid₀.trans hid.symm)] at hle
        omega
    · rw [if_neg hi, Nat.add_zero]
      rcases h.counted reservationId with hzero | ⟨r, hr, hid, hle⟩
      · exact .inl hzero
      · obtain ⟨r', hr', hid', hle'⟩ := hkeeps.counts r hr
        exact .inr ⟨r', hr', hid'.trans hid, hle.trans hle'⟩

theorem run_history (run : Run (PrintingStep platform) .initial labels s) :
    History platform labels s :=
  run.history (History platform) ⟨keysHold_initial, fun _ => .inl rfl, fun _ => .inl rfl⟩
    fun _ _ _ _ h step => h.step step

/-- An envelope is sealed for a key that may receive its reservation. -/
theorem issue_receives {session : Session} {reservationId machineBindingId : String}
    {envelope : Envelope}
    (h : issue platform session reservationId machineBindingId s = (.ok envelope, s')) :
    ∃ r ∈ s.reservations, r.id = reservationId ∧ ∃ key, Receives s r key ∧
      ∃ plaintext, platform.encrypt key.publicKey plaintext envelope.context =
        .ok envelope.ciphertext := by
  cases (issue_ends _ _).of_run h with
  | refused herror =>
    obtain ⟨_, herror⟩ := herror
    cases herror
  | closed _ _ _ herror =>
    obtain ⟨_, herror⟩ := herror
    cases herror
  | issued r execution key hissuable _ _ hmove hsealed =>
    obtain ⟨hmem, hid, -⟩ := issuable_spec hissuable
    obtain ⟨plaintext, -, hseal⟩ := hsealed envelope rfl
    refine ⟨r, hmem, hid, key, ?_, plaintext, ?_⟩
    · cases hmove with
      | issue _ _ _ _ _ _ hreceives => exact hreceives
    · obtain ⟨contextSha256, -, hseal⟩ := Fallible.bind_eq_ok.mp hseal
      obtain ⟨ciphertext, hencrypt, hseal⟩ := Fallible.bind_eq_ok.mp hseal
      cases hseal
      exact hencrypt

/-- The life of keys: one active key of a binding, increasing versions, intents used once,
bounded issues, and envelopes only for keys that may receive them. Along what follows, used
intents stay used, and a key that is not active gets no new reservations. -/
theorem key_lifecycle (run : Run (PrintingStep platform) .initial labels s) :
    (∀ key ∈ s.keys, ∀ key' ∈ s.keys, key.agentBindingId = key'.agentBindingId →
      key.state = .active → key'.state = .active → key = key') ∧
    (s.keys.rows.Pairwise fun key key' =>
      key.agentBindingId = key'.agentBindingId → key.keyVersion < key'.keyVersion) ∧
    (∀ tokenHash, labels.countP (consumes platform tokenHash) ≤ 1) ∧
    (∀ r ∈ s.reservations, labels.countP (issues r.id) ≤ r.maxIssueCount) ∧
    (∀ session reservationId machineBindingId envelope s',
      issue platform session reservationId machineBindingId s = (.ok envelope, s') →
      ∃ r ∈ s.reservations, r.id = reservationId ∧ ∃ key, Receives s r key ∧
        ∃ plaintext, platform.encrypt key.publicKey plaintext envelope.context =
          .ok envelope.ciphertext) ∧
    ∀ labels' s', Run (PrintingStep platform) s labels' s' → KeepsUse s s' := by
  have h := run_history run
  refine ⟨h.holds.keys.active, h.holds.keys.versions, fun tokenHash => ?_, fun r hr => ?_,
    fun _ _ _ _ _ => issue_receives, fun _ _ run' => (run_keysHold h.holds run').2⟩
  · rcases h.consumed tokenHash with hzero | ⟨hone, -⟩
    · rw [hzero]
      exact Nat.zero_le 1
    · rw [hone]
  · have hmax := h.holds.issued r hr
    rcases h.counted r.id with hzero | ⟨r', hr', hid, hle⟩
    · omega
    · rw [Table.eq_of_key_eq hr' hr hid] at hle
      omega

end Runs

/-- A key retires between the authorisation of a label and its delivery. -/
def sampleRotationCalls : List (Session × PrintingAction) :=
  sampleKeyCalls ++
    [(sampleSession 4 "execution", .authorizeDelivery "job0" "job1" none),
      (sampleSession 5 "rotate", .createKeyIntent "binding" .rotate 1),
      (sampleSession 6 "next", .registerPublicKey "binding" (sampleSession 5 "rotate").token [8])]

/-- The label is delivered to the retiring key, and the intent of the rotation was used once. -/
theorem key_lifecycle_sample :
    (labelsOf samplePlatform sampleTables sampleRotationCalls).countP (consumes samplePlatform
        (intentHash samplePlatform (sampleSession 5 "rotate").token)) ≤ 1 ∧
      (∃ envelope s', issue samplePlatform (sampleSession 7 "") "execution1" "binding"
          (after samplePlatform sampleTables sampleRotationCalls) = (.ok envelope, s')) ∧
      ∀ envelope s', issue samplePlatform (sampleSession 7 "") "execution1" "binding"
          (after samplePlatform sampleTables sampleRotationCalls) = (.ok envelope, s') →
        ∃ r ∈ (after samplePlatform sampleTables sampleRotationCalls).reservations,
          r.id = "execution1" ∧ ∃ key,
            Receives (after samplePlatform sampleTables sampleRotationCalls) r key ∧
            ∃ plaintext, samplePlatform.encrypt key.publicKey plaintext envelope.context =
              .ok envelope.ciphertext := by
  obtain ⟨-, -, hconsumed, -, hreceives, -⟩ :=
    key_lifecycle (sampleTables_run.append (run_after _ _ sampleRotationCalls))
  refine ⟨?_, ?_, hreceives _ _ _⟩
  · have hcount := hconsumed (intentHash samplePlatform (sampleSession 5 "rotate").token)
    rw [List.countP_append] at hcount
    omega
  · have hissued : (issue samplePlatform (sampleSession 7 "") "execution1" "binding"
        (after samplePlatform sampleTables sampleRotationCalls)).1.isOk = true := by
      decide +kernel
    rcases hrun : issue samplePlatform (sampleSession 7 "") "execution1" "binding"
        (after samplePlatform sampleTables sampleRotationCalls) with ⟨r, s'⟩
    rw [hrun] at hissued
    cases r with
    | ok envelope => exact ⟨envelope, s', rfl⟩
    | error e => cases hissued

end Wbcz.Printing

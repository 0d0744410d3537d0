import Wbcz.Integrations.SecretProvider
import Wbcz.Lib.Transition

/-!
# Rotation and revocation of the secret of a connection

`set_secret` keeps what it staged as the pending secret of the connection, commits, activates it
in the provider, and makes it the active secret in a second transaction. `revoke_secret` asks the
provider first and changes the row after. `reconcile_secret_rotation` adopts the pending secret
when the provider gives it.

Any number of calls run on one connection, and each of them is lost at any moment. A transaction
that has read the row keeps it locked until it ends. A session does not expire its rows when it
commits, and a locking read does not refresh a row that the session holds: the second transaction
of `set_secret` works on the row as its first one left it, and writes the columns it changes.
-/

namespace Wbcz.Integrations

open Function (update update_of_ne update_self)

/-! ## The row -/

/-- `secret_rotation_state`. -/
inductive RotationState where
  | unconfigured
  | pending
  | pendingFailed
  | active
  | revoked
  deriving DecidableEq, Repr

/-- The secret columns of a connection. The legacy reference is `secret_ref` of a Wildberries
connection and `api_key_secret_ref` of an Ozon one. -/
structure ConnectionRow where
  legacySecretRef : Option String
  activeSecretRef : Option String
  activeSecretVersion : Option String
  pendingSecretRef : Option String
  pendingSecretVersion : Option String
  secretRotationState : RotationState
  secretConfiguredAt : Option Nat
  deriving DecidableEq, Repr

namespace ConnectionRow

/-- The first transaction of `set_secret`. -/
def stage (row : ConnectionRow) (staged : SecretVersion) : ConnectionRow :=
  { row with
    pendingSecretRef := some staged.ref
    pendingSecretVersion := some staged.version
    secretRotationState := .pending }

/-- What `set_secret` writes when the provider did not activate the secret. -/
def noteFailure (row : ConnectionRow) : ConnectionRow :=
  { row with secretRotationState := .pendingFailed }

/-- The second transaction of `set_secret`. -/
def adopt (row : ConnectionRow) (active : SecretVersion) (now : Nat) :
    Except PyError ConnectionRow := do
  Fallible.ensure
    (row.pendingSecretRef = some active.ref ∧ row.pendingSecretVersion = some active.version)
    ⟨.other "IntegrationSettingsError", "pending secret state changed during activation"⟩
  return {
    legacySecretRef := none
    activeSecretRef := some active.ref
    activeSecretVersion := some active.version
    pendingSecretRef := none
    pendingSecretVersion := none
    secretRotationState := .active
    secretConfiguredAt := some now }

/-- The transaction of `revoke_secret`. -/
def revoke : ConnectionRow where
  legacySecretRef := none
  activeSecretRef := none
  activeSecretVersion := none
  pendingSecretRef := none
  pendingSecretVersion := none
  secretRotationState := .revoked
  secretConfiguredAt := none

/-- The transaction of `reconcile_secret_rotation`. -/
def reconcile (row : ConnectionRow) (now : Nat) : ConnectionRow :=
  { row with
    activeSecretRef := row.pendingSecretRef
    activeSecretVersion := row.pendingSecretVersion
    pendingSecretRef := none
    pendingSecretVersion := none
    secretRotationState := .active
    secretConfiguredAt := some now }

/-- A column of an `UPDATE`: what the session changed, and otherwise what is stored. -/
def column {α : Type} [DecidableEq α] (loaded changed stored : α) : α :=
  if changed = loaded then stored else changed

/-- The row after a session that had loaded one row and changed it to another is flushed. -/
def flush (loaded changed stored : ConnectionRow) : ConnectionRow where
  legacySecretRef := column loaded.legacySecretRef changed.legacySecretRef stored.legacySecretRef
  activeSecretRef := column loaded.activeSecretRef changed.activeSecretRef stored.activeSecretRef
  activeSecretVersion :=
    column loaded.activeSecretVersion changed.activeSecretVersion stored.activeSecretVersion
  pendingSecretRef :=
    column loaded.pendingSecretRef changed.pendingSecretRef stored.pendingSecretRef
  pendingSecretVersion :=
    column loaded.pendingSecretVersion changed.pendingSecretVersion stored.pendingSecretVersion
  secretRotationState :=
    column loaded.secretRotationState changed.secretRotationState stored.secretRotationState
  secretConfiguredAt :=
    column loaded.secretConfiguredAt changed.secretConfiguredAt stored.secretConfiguredAt

/-- A session that holds the row as it is stored writes what it changed it to. -/
theorem column_self {α : Type} [DecidableEq α] (loaded changed : α) :
    column loaded changed loaded = changed := by
  by_cases h : changed = loaded
  · rw [column, if_pos h, h]
  · rw [column, if_neg h]

theorem column_same {α : Type} [DecidableEq α] (loaded stored : α) :
    column loaded loaded stored = stored := if_pos rfl

theorem column_of_ne {α : Type} [DecidableEq α] {loaded changed : α} (h : loaded ≠ changed)
    (stored : α) : column loaded changed stored = changed := if_neg (Ne.symm h)

end ConnectionRow

/-! ## The calls -/

/-- `raw_secret` is a credential of at most 16 KiB. -/
def acceptsCredential (rawSecret : String) : Prop :=
  rawSecret ≠ "" ∧ rawSecret.utf8ByteSize ≤ 16 * 1024

/-- How far a call has come, with the row as its session holds it. -/
inductive SecretCall where
  /-- `set_secret` has locked the row and is about to stage the secret. -/
  | staging (row : ConnectionRow) (rawSecret : String)
  /-- It is about to commit the staged secret as the pending one. -/
  | staged (row : ConnectionRow) (staged : SecretVersion)
  /-- It could not, and is about to destroy the staged secret. -/
  | destroying (staged : SecretVersion)
  /-- It has committed, and is about to activate the secret. -/
  | activating (row : ConnectionRow) (staged : SecretVersion)
  /-- The provider raised. -/
  | activationFailed (row : ConnectionRow)
  /-- The provider has activated the secret, which is about to be adopted. -/
  | adopting (row : ConnectionRow) (active : SecretVersion)
  /-- `revoke_secret` has locked the row. -/
  | revoking (row : ConnectionRow) (active : SecretVersion)
  /-- The provider has revoked the secret. -/
  | revoked (row : ConnectionRow)
  /-- `reconcile_secret_rotation` has locked the row. -/
  | reconciling (row : ConnectionRow) (pending : SecretVersion)
  /-- The provider gave the pending secret. -/
  | reconciled (row : ConnectionRow) (pending : SecretVersion)
  deriving DecidableEq, Repr

namespace SecretCall

/-- The row that a call keeps locked. -/
def lockedRow : SecretCall → Option ConnectionRow
  | staging row _ | staged row _ | revoking row _ | revoked row | reconciling row _
  | reconciled row _ => some row
  | destroying _ | activating _ _ | activationFailed _ | adopting _ _ => none

/-- The call is one of `set_secret`. -/
def IsSet : SecretCall → Prop
  | staging _ _ | staged _ _ | destroying _ | activating _ _ | activationFailed _
  | adopting _ _ => True
  | _ => False

end SecretCall

/-- The connection as it is committed, the provider, the references and versions that it has
given out, the calls under way, and the one that has the row locked. -/
structure RotationSystem where
  row : ConnectionRow
  provider : SecretProvider
  issued : List SecretVersion
  calls : Nat → Option SecretCall
  holder : Option Nat

namespace RotationSystem

/-- A connection without a versioned secret. -/
def initial (legacySecretRef : Option String) : RotationSystem where
  row := {
    legacySecretRef
    activeSecretRef := none
    activeSecretVersion := none
    pendingSecretRef := none
    pendingSecretVersion := none
    secretRotationState := .unconfigured
    secretConfiguredAt := none }
  provider := .empty
  issued := []
  calls := fun _ => none
  holder := none

/-- A call goes on. -/
def goes (s : RotationSystem) (i : Nat) (call : SecretCall) : RotationSystem :=
  { s with calls := update s.calls i (some call) }

/-- A call begins by locking the row. -/
def begins (s : RotationSystem) (i : Nat) (call : SecretCall) : RotationSystem :=
  { s.goes i call with holder := some i }

/-- A call ends its transaction. -/
def releases (s : RotationSystem) (i : Nat) : RotationSystem :=
  { s with holder := if s.holder = some i then none else s.holder }

/-- A call is over. -/
def ends (s : RotationSystem) (i : Nat) : RotationSystem :=
  { s.releases i with calls := update s.calls i none }

/-- A flush of a session is committed. -/
def commits (s : RotationSystem) (loaded changed : ConnectionRow) : RotationSystem :=
  { s with row := ConnectionRow.flush loaded changed s.row }

end RotationSystem

/-! ## The steps -/

/-- What happens in a step, and to which call. -/
inductive RotationLabel where
  | setBegins (i : Nat)
  | stages (i : Nat)
  | stagedCommits (i : Nat)
  | stagedFails (i : Nat)
  | destroys (i : Nat)
  | activates (i : Nat)
  | activationFails (i : Nat)
  | failureCommits (i : Nat)
  | adopts (i : Nat)
  | revokeBegins (i : Nat)
  | revokes (i : Nat)
  | revokeCommits (i : Nat)
  | reconcileBegins (i : Nat)
  | reconcileReads (i : Nat)
  | reconcileCommits (i : Nat)
  | lost (i : Nat)
  deriving DecidableEq, Repr

open RotationSystem SecretCall in
/-- One transaction, or one operation of the provider. -/
inductive RotationStep (s : RotationSystem) : RotationLabel → RotationSystem → Prop
  | setBegins {i rawSecret} : s.calls i = none → s.holder = none → acceptsCredential rawSecret →
      RotationStep s (.setBegins i) (s.begins i (.staging s.row rawSecret))
  /-- The tokens of a reference and of a version are drawn at random and do not recur. -/
  | stages {i row rawSecret version} {scope purpose : String} :
      s.calls i = some (.staging row rawSecret) →
      (∀ old ∈ s.issued, old.ref ≠ version.ref ∧ old.version ≠ version.version) →
      version.ref ≠ "" → version.version ≠ "" →
      RotationStep s (.stages i)
        { s.goes i (.staged row version) with
          provider := s.provider.stage version scope purpose rawSecret
          issued := version :: s.issued }
  | stagedCommits {i row version} : s.calls i = some (.staged row version) →
      RotationStep s (.stagedCommits i)
        (((s.commits row (row.stage version)).releases i).goes i
          (.activating (row.stage version) version))
  | stagedFails {i row version} : s.calls i = some (.staged row version) →
      RotationStep s (.stagedFails i) ((s.releases i).goes i (.destroying version))
  | destroys {i version} : s.calls i = some (.destroying version) →
      RotationStep s (.destroys i) { s.ends i with provider := s.provider.destroyStaged version }
  | activates {i row version provider active} : s.calls i = some (.activating row version) →
      s.provider.activate version = .ok (provider, active) →
      RotationStep s (.activates i) { s.goes i (.adopting row active) with provider }
  /-- The provider raises: it does not open the staged file, or cannot write. -/
  | activationFails {i row version} : s.calls i = some (.activating row version) →
      RotationStep s (.activationFails i) (s.goes i (.activationFailed row))
  | failureCommits {i row} : s.calls i = some (.activationFailed row) → s.holder = none →
      RotationStep s (.failureCommits i) ((s.commits row row.noteFailure).ends i)
  | adopts {i row active now changed} : s.calls i = some (.adopting row active) →
      s.holder = none → row.adopt active now = .ok changed →
      RotationStep s (.adopts i) ((s.commits row changed).ends i)
  | revokeBegins {i active} : s.calls i = none → s.holder = none →
      s.row.activeSecretRef = some active.ref → s.row.activeSecretVersion = some active.version →
      active.ref ≠ "" → active.version ≠ "" →
      RotationStep s (.revokeBegins i) (s.begins i (.revoking s.row active))
  | revokes {i row active} : s.calls i = some (.revoking row active) →
      RotationStep s (.revokes i)
        { s.goes i (.revoked row) with
          provider := s.provider.revoke active.ref active.version }
  | revokeCommits {i row} : s.calls i = some (.revoked row) →
      RotationStep s (.revokeCommits i) ((s.commits row .revoke).ends i)
  | reconcileBegins {i pending} : s.calls i = none → s.holder = none →
      s.row.pendingSecretRef = some pending.ref →
      s.row.pendingSecretVersion = some pending.version →
      pending.ref ≠ "" → pending.version ≠ "" →
      RotationStep s (.reconcileBegins i) (s.begins i (.reconciling s.row pending))
  | reconcileReads {i row pending value} : s.calls i = some (.reconciling row pending) →
      s.provider.get pending.ref = .ok value → value.version = pending.version →
      RotationStep s (.reconcileReads i) (s.goes i (.reconciled row pending))
  | reconcileCommits {i row pending now} : s.calls i = some (.reconciled row pending) →
      RotationStep s (.reconcileCommits i) ((s.commits row (row.reconcile now)).ends i)
  /-- A call raises or its process stops, and its transaction is rolled back. -/
  | lost {i call} : s.calls i = some call → RotationStep s (.lost i) (s.ends i)

/-- The call that a step is of. -/
def RotationLabel.call : RotationLabel → Nat
  | setBegins i | stages i | stagedCommits i | stagedFails i | destroys i | activates i
  | activationFails i | failureCommits i | adopts i | revokeBegins i | revokes i | revokeCommits i
  | reconcileBegins i | reconcileReads i | reconcileCommits i | lost i => i

/-! ## The invariant -/

/-- The provider gives this version for its reference. -/
def SecretProvider.Gives (p : SecretProvider) (secret : SecretVersion) : Prop :=
  ∃ value, p.get secret.ref = .ok value ∧ value.version = secret.version

/-- Two columns are both null, or name a secret that was given out. -/
def Names (issued : List SecretVersion) (ref version : Option String) : Prop :=
  ref = none ∧ version = none ∨
    ∃ secret ∈ issued, ref = some secret.ref ∧ version = some secret.version

/-- The row names a secret as the active one in neither of its columns. -/
def ConnectionRow.Apart (row : ConnectionRow) (secret : SecretVersion) : Prop :=
  row.activeSecretRef ≠ some secret.ref ∧ row.activeSecretVersion ≠ some secret.version

/-- The row names a secret as the active one. -/
def ConnectionRow.IsActive (row : ConnectionRow) (secret : SecretVersion) : Prop :=
  row.activeSecretRef = some secret.ref ∧ row.activeSecretVersion = some secret.version

/-- The row names a secret as the pending one. -/
def ConnectionRow.IsPending (row : ConnectionRow) (secret : SecretVersion) : Prop :=
  row.pendingSecretRef = some secret.ref ∧ row.pendingSecretVersion = some secret.version

/-- What holds of a call for where it is. -/
def SecretCall.Valid (p : SecretProvider) (issued : List SecretVersion) : SecretCall → Prop
  | staging _ _ | destroying _ | activationFailed _ => True
  | staged row secret => secret ∈ issued ∧ row.Apart secret
  | activating row secret | adopting row secret =>
    secret ∈ issued ∧ row.Apart secret ∧ row.IsPending secret
  | revoking row secret => row.IsActive secret
  | revoked row =>
    ∃ secret ∈ issued, row.IsActive secret ∧ p.records (secret.ref, secret.version) = none
  | reconciling row secret => row.IsPending secret
  | reconciled row secret => secret ∈ issued ∧ row.IsPending secret ∧ p.Gives secret

/-- A call that has the row locked holds it as it is stored. -/
def SecretCall.Locked (s : RotationSystem) (i : Nat) (call : SecretCall) : Prop :=
  ∀ row, call.lockedRow = some row → s.holder = some i ∧ row = s.row

/-- The invariant: references are given out once, the columns and the pointers name secrets that
were given out, and every call is where its session says. -/
structure RotationInv (s : RotationSystem) : Prop where
  unique : ∀ a ∈ s.issued, ∀ b ∈ s.issued, a.ref = b.ref → a.version = b.version
  pointers : ∀ ref version, s.provider.pointers ref = some version → ⟨ref, version⟩ ∈ s.issued
  active : Names s.issued s.row.activeSecretRef s.row.activeSecretVersion
  pending : Names s.issued s.row.pendingSecretRef s.row.pendingSecretVersion
  locked : ∀ i call, s.calls i = some call → call.Locked s i
  valid : ∀ i call, s.calls i = some call → call.Valid s.provider s.issued

/-! ## What a step leaves to the other calls -/

section Gives

variable {s s' : RotationSystem} {label : RotationLabel} {secret : SecretVersion}

/-- Every step but a revocation leaves the secrets that the provider gives. -/
theorem RotationStep.gives (inv : RotationInv s) (step : RotationStep s label s')
    (hlabel : ∀ i, label ≠ .revokes i) (hmem : secret ∈ s.issued) (h : s.provider.Gives secret) :
    s'.provider.Gives secret := by
  obtain ⟨value, hget, hversion⟩ := h
  cases step with
  | @stages _ _ _ version _ _ _ hfresh =>
    exact ⟨value, (SecretProvider.get_stage_of_ne (hfresh secret hmem).1).trans hget, hversion⟩
  | destroys => exact ⟨value, SecretProvider.get_destroyStaged hget, hversion⟩
  | activates hcall hactivate =>
    refine ⟨value, SecretProvider.get_activate_of_ne hactivate hget fun href => ?_, hversion⟩
    rw [hversion]
    exact inv.unique _ hmem _ (inv.valid _ _ hcall).1 href
  | revokes => exact absurd rfl (hlabel _)
  | setBegins | stagedCommits | stagedFails | activationFails | failureCommits | adopts
  | revokeBegins | revokeCommits | reconcileBegins | reconcileReads | reconcileCommits | lost =>
    exact ⟨value, hget, hversion⟩

/-- A revocation has the row locked. -/
theorem RotationStep.not_revokes (inv : RotationInv s) (step : RotationStep s label s')
    (hholder : s.holder ≠ some label.call) : ∀ i, label ≠ .revokes i := by
  rintro i rfl
  cases step with
  | revokes hcall => exact hholder (inv.locked _ _ hcall _ rfl).1

end Gives

/-- What a step of a call leaves to the other ones: who has the row locked finds it unchanged,
what is removed stays removed, and what is given is given. -/
structure Keeps (i : Nat) (s s' : RotationSystem) : Prop where
  others : ∀ j, j ≠ i → s'.calls j = s.calls j
  locked : ∀ j, j ≠ i → s.holder = some j → s'.row = s.row ∧ s'.holder = some j
  issued : ∀ secret ∈ s.issued, secret ∈ s'.issued
  gone : ∀ secret ∈ s.issued, s.provider.records (secret.ref, secret.version) = none →
    s'.provider.records (secret.ref, secret.version) = none
  gives : s.holder ≠ some i → ∀ secret ∈ s.issued, s.provider.Gives secret →
    s'.provider.Gives secret

section Keeps

variable {s s' : RotationSystem} {i j : Nat} {call : SecretCall} {loaded changed : ConnectionRow}
  {label : RotationLabel} {secret : SecretVersion}

theorem update_others {x : Option SecretCall} (hne : j ≠ i) :
    update s.calls i x j = s.calls j :=
  update_of_ne hne _ _

theorem RotationStep.others (step : RotationStep s label s') (hne : j ≠ label.call) :
    s'.calls j = s.calls j := by
  cases step with
  | setBegins | stages | stagedCommits | stagedFails | destroys | activates | activationFails
  | failureCommits | adopts | revokeBegins | revokes | revokeCommits | reconcileBegins
  | reconcileReads | reconcileCommits | lost => exact update_others hne

theorem holder_releases (hne : j ≠ i) (h : s.holder = some j) : (s.releases i).holder = some j := by
  have hother : ¬ s.holder = some i := by
    rw [h]
    exact fun heq => hne (Option.some.inj heq)
  exact (if_neg hother).trans h

/-- A call that has the row locked is the only one that has. -/
theorem RotationInv.not_held (inv : RotationInv s) (hcall : s.calls i = some call)
    (hrow : call.lockedRow = some loaded) (hne : j ≠ i) : s.holder ≠ some j := by
  rw [(inv.locked i call hcall loaded hrow).1]
  exact fun h => hne (Option.some.inj h).symm

theorem RotationStep.locked (inv : RotationInv s) (step : RotationStep s label s')
    (hne : j ≠ label.call) (hheld : s.holder = some j) : s'.row = s.row ∧ s'.holder = some j := by
  cases step with
  | setBegins _ hfree | revokeBegins _ hfree | reconcileBegins _ hfree | failureCommits _ hfree
  | adopts _ hfree => cases hfree.symm.trans hheld
  | stagedCommits hcall | revokeCommits hcall | reconcileCommits hcall =>
    exact absurd hheld (inv.not_held hcall rfl hne)
  | stagedFails | destroys | lost => exact ⟨rfl, holder_releases hne hheld⟩
  | stages | activates | activationFails | revokes | reconcileReads => exact ⟨rfl, hheld⟩

theorem RotationStep.issued (step : RotationStep s label s') (hmem : secret ∈ s.issued) :
    secret ∈ s'.issued := by
  cases step with
  | stages => exact List.mem_cons_of_mem _ hmem
  | setBegins | stagedCommits | stagedFails | destroys | activates | activationFails
  | failureCommits | adopts | revokeBegins | revokes | revokeCommits | reconcileBegins
  | reconcileReads | reconcileCommits | lost => exact hmem

theorem RotationStep.gone (step : RotationStep s label s') (hmem : secret ∈ s.issued)
    (hnone : s.provider.records (secret.ref, secret.version) = none) :
    s'.provider.records (secret.ref, secret.version) = none := by
  cases step with
  | @stages _ _ _ version _ _ _ hfresh =>
    have hne : (secret.ref, secret.version) ≠ (version.ref, version.version) :=
      fun h => (hfresh secret hmem).1 (congrArg Prod.fst h)
    exact (update_of_ne hne _ _).trans hnone
  | destroys => exact SecretProvider.records_destroyStaged hnone
  | activates _ hactivate =>
    obtain ⟨-, hrecords, -, -⟩ := SecretProvider.activate_eq_ok hactivate
    exact (congrFun hrecords _).trans hnone
  | @revokes _ _ active =>
    by_cases h : (secret.ref, secret.version) = (active.ref, active.version)
    · exact h ▸ update_self _ _ _
    · exact (update_of_ne h _ _).trans hnone
  | setBegins | stagedCommits | stagedFails | activationFails | failureCommits | adopts
  | revokeBegins | revokeCommits | reconcileBegins | reconcileReads | reconcileCommits | lost =>
    exact hnone

theorem RotationStep.keeps (inv : RotationInv s) (step : RotationStep s label s') :
    Keeps label.call s s' where
  others := fun _ => step.others
  locked := fun _ => step.locked inv
  issued := fun _ => step.issued
  gone := fun _ => step.gone
  gives := fun hholder _ => step.gives inv (step.not_revokes inv hholder)

end Keeps

/-! ## What a step does to the row -/

section Rows

variable {row changed stored : ConnectionRow} {active secret : SecretVersion} {now : Nat}

theorem adopt_eq_ok (h : row.adopt active now = .ok changed) :
    row.IsPending active ∧ changed = {
      legacySecretRef := none
      activeSecretRef := some active.ref
      activeSecretVersion := some active.version
      pendingSecretRef := none
      pendingSecretVersion := none
      secretRotationState := .active
      secretConfiguredAt := some now } := by
  obtain ⟨_, hpending, h⟩ := Fallible.bind_eq_ok.mp h
  cases h
  have hcheck := Fallible.ensure_eq_ok.mp hpending
  exact ⟨hcheck, rfl⟩

/-- The second transaction of `set_secret` writes both columns of the active secret, whatever is
stored. -/
theorem isActive_adopt (h : row.adopt active now = .ok changed) (hapart : row.Apart active) :
    (ConnectionRow.flush row changed stored).IsActive active := by
  obtain ⟨-, rfl⟩ := adopt_eq_ok h
  exact ⟨ConnectionRow.column_of_ne hapart.1 _, ConnectionRow.column_of_ne hapart.2 _⟩

theorem pending_adopt (h : row.adopt active now = .ok changed) :
    (ConnectionRow.flush row changed stored).pendingSecretRef = none ∧
      (ConnectionRow.flush row changed stored).pendingSecretVersion = none := by
  obtain ⟨⟨href, hversion⟩, rfl⟩ := adopt_eq_ok h
  constructor
  · exact ConnectionRow.column_of_ne (by simp [href]) _
  · exact ConnectionRow.column_of_ne (by simp [hversion]) _

end Rows

section Steps

variable {s s' : RotationSystem} {label : RotationLabel} {secret : SecretVersion}

theorem Names.mono {issued issued' : List SecretVersion} {ref version : Option String}
    (h : Names issued ref version) (hsub : ∀ secret ∈ issued, secret ∈ issued') :
    Names issued' ref version := by
  rcases h with hnone | ⟨secret, hmem, hnames⟩
  · exact .inl hnone
  · exact .inr ⟨secret, hsub secret hmem, hnames⟩

/-- What a step does to the active secret of the row: nothing, the end of a revocation, or the
adoption of a secret by one of two transactions. -/
inductive ActiveStep (s : RotationSystem) : RotationLabel → ConnectionRow → Prop
  | same {label row} : row.activeSecretRef = s.row.activeSecretRef →
      row.activeSecretVersion = s.row.activeSecretVersion → ActiveStep s label row
  | revoked {i row} : row.activeSecretRef = none → row.activeSecretVersion = none →
      ActiveStep s (.revokeCommits i) row
  | adopted {i loaded active row} : s.calls i = some (.adopting loaded active) →
      s.holder = none → row.IsActive active → ActiveStep s (.adopts i) row
  | reconciled {i loaded pending row} : s.calls i = some (.reconciled loaded pending) →
      row.IsActive pending → ActiveStep s (.reconcileCommits i) row

theorem RotationStep.active (inv : RotationInv s) (step : RotationStep s label s') :
    ActiveStep s label s'.row := by
  cases step with
  | stagedCommits hcall =>
    obtain ⟨-, rfl⟩ := inv.locked _ _ hcall _ rfl
    exact .same (ConnectionRow.column_same _ _) (ConnectionRow.column_same _ _)
  | failureCommits =>
    exact .same (ConnectionRow.column_same _ _) (ConnectionRow.column_same _ _)
  | adopts hcall hfree hadopt =>
    exact .adopted hcall hfree (isActive_adopt hadopt (inv.valid _ _ hcall).2.1)
  | revokeCommits hcall =>
    obtain ⟨-, rfl⟩ := inv.locked _ _ hcall _ rfl
    exact .revoked (ConnectionRow.column_self _ _) (ConnectionRow.column_self _ _)
  | reconcileCommits hcall =>
    obtain ⟨-, rfl⟩ := inv.locked _ _ hcall _ rfl
    obtain ⟨-, hpending, -⟩ := inv.valid _ _ hcall
    exact .reconciled hcall ⟨(ConnectionRow.column_self _ _).trans hpending.1,
      (ConnectionRow.column_self _ _).trans hpending.2⟩
  | setBegins | stages | stagedFails | destroys | activates | activationFails | revokeBegins
  | revokes | reconcileBegins | reconcileReads | lost => exact .same rfl rfl

theorem RotationStep.names_active (inv : RotationInv s) (step : RotationStep s label s') :
    Names s'.issued s'.row.activeSecretRef s'.row.activeSecretVersion := by
  have hsub := (step.keeps inv).issued
  cases step.active inv with
  | same href hversion =>
    rw [href, hversion]
    exact inv.active.mono hsub
  | revoked href hversion => exact .inl ⟨href, hversion⟩
  | adopted hcall _ hactive => exact .inr ⟨_, hsub _ (inv.valid _ _ hcall).1, hactive⟩
  | reconciled hcall hactive => exact .inr ⟨_, hsub _ (inv.valid _ _ hcall).1, hactive⟩

theorem RotationStep.names_pending (inv : RotationInv s) (step : RotationStep s label s') :
    Names s'.issued s'.row.pendingSecretRef s'.row.pendingSecretVersion := by
  have hsub := (step.keeps inv).issued
  cases step with
  | @stagedCommits _ _ version hcall =>
    obtain ⟨-, rfl⟩ := inv.locked _ _ hcall _ rfl
    exact .inr ⟨version, (inv.valid _ _ hcall).1, ConnectionRow.column_self _ _,
      ConnectionRow.column_self _ _⟩
  | failureCommits =>
    rcases inv.pending with ⟨href, hversion⟩ | ⟨secret, hmem, href, hversion⟩
    · exact .inl ⟨(ConnectionRow.column_same _ _).trans href,
        (ConnectionRow.column_same _ _).trans hversion⟩
    · exact .inr ⟨secret, hmem, (ConnectionRow.column_same _ _).trans href,
        (ConnectionRow.column_same _ _).trans hversion⟩
  | adopts _ _ hadopt => exact .inl (pending_adopt hadopt)
  | revokeCommits hcall | reconcileCommits hcall =>
    obtain ⟨-, rfl⟩ := inv.locked _ _ hcall _ rfl
    exact .inl ⟨ConnectionRow.column_self _ _, ConnectionRow.column_self _ _⟩
  | setBegins | stages | stagedFails | destroys | activates | activationFails | revokeBegins
  | revokes | reconcileBegins | reconcileReads | lost => exact inv.pending.mono hsub

/-! ## The invariant of all runs -/

theorem RotationStep.unique (inv : RotationInv s) (step : RotationStep s label s') :
    ∀ a ∈ s'.issued, ∀ b ∈ s'.issued, a.ref = b.ref → a.version = b.version := by
  cases step with
  | stages _ hfresh =>
    intro a ha b hb href
    rcases List.mem_cons.mp ha with rfl | hold
    · rcases List.mem_cons.mp hb with rfl | hold'
      · rfl
      · exact absurd href.symm (hfresh b hold').1
    · rcases List.mem_cons.mp hb with rfl | hold'
      · exact absurd href (hfresh a hold).1
      · exact inv.unique a hold b hold' href
  | setBegins | stagedCommits | stagedFails | destroys | activates | activationFails
  | failureCommits | adopts | revokeBegins | revokes | revokeCommits | reconcileBegins
  | reconcileReads | reconcileCommits | lost => exact inv.unique

theorem RotationStep.pointers (inv : RotationInv s) (step : RotationStep s label s') :
    ∀ ref version, s'.provider.pointers ref = some version → ⟨ref, version⟩ ∈ s'.issued := by
  cases step with
  | stages => exact fun ref version h => List.mem_cons_of_mem _ (inv.pointers ref version h)
  | destroys =>
    intro ref version h
    exact inv.pointers ref version (SecretProvider.pointers_destroyStaged ▸ h)
  | @activates _ _ staged _ _ hcall hactivate =>
    obtain ⟨-, -, hpointers, -⟩ := SecretProvider.activate_eq_ok hactivate
    intro ref version (h : _ = some version)
    rw [hpointers] at h
    by_cases href : ref = staged.ref
    · rw [href, update_self] at h
      cases h
      rw [href]
      exact (inv.valid _ _ hcall).1
    · rw [update_of_ne href] at h
      exact inv.pointers ref version h
  | revokes =>
    intro ref version h
    exact inv.pointers ref version (SecretProvider.pointers_of_revoke h)
  | setBegins | stagedCommits | stagedFails | activationFails | failureCommits | adopts
  | revokeBegins | revokeCommits | reconcileBegins | reconcileReads | reconcileCommits | lost =>
    exact inv.pointers

/-- What the acting call has come to. -/
theorem RotationStep.own (inv : RotationInv s) (step : RotationStep s label s') :
    ∀ call, s'.calls label.call = some call →
      call.Locked s' label.call ∧ call.Valid s'.provider s'.issued := by
  have hself (i : Nat) (x : Option SecretCall) : update s.calls i x i = x :=
    update_self _ _ _
  have hunlocked {t : RotationSystem} {i : Nat} {call : SecretCall} (h : call.lockedRow = none) :
      call.Locked t i := fun row hrow => nomatch h.symm.trans hrow
  cases step with
  | setBegins =>
    intro call hcall
    cases (hself _ _).symm.trans hcall
    exact ⟨fun row hrow => ⟨rfl, (Option.some.inj hrow).symm⟩, trivial⟩
  | @stages i row _ version _ _ hold hfresh =>
    intro call hcall
    cases (hself _ _).symm.trans hcall
    obtain ⟨hholder, rfl⟩ := inv.locked _ _ hold _ rfl
    refine ⟨fun row hrow => ⟨hholder, (Option.some.inj hrow).symm⟩, List.mem_cons_self, ?_⟩
    -- the row names secrets that were given out before
    rcases inv.active with ⟨href, hversion⟩ | ⟨old, hmem, href, hversion⟩
    · rw [ConnectionRow.Apart, href, hversion]
      exact ⟨nofun, nofun⟩
    · rw [ConnectionRow.Apart, href, hversion]
      obtain ⟨hne, hne'⟩ := hfresh old hmem
      exact ⟨fun h => hne (Option.some.inj h), fun h => hne' (Option.some.inj h)⟩
  | stagedCommits hold =>
    intro call hcall
    cases (hself _ _).symm.trans hcall
    obtain ⟨hmem, hapart⟩ := inv.valid _ _ hold
    exact ⟨hunlocked rfl, hmem, hapart, rfl, rfl⟩
  | stagedFails hold =>
    intro call hcall
    cases (hself _ _).symm.trans hcall
    exact ⟨hunlocked rfl, trivial⟩
  | activates hold hactivate =>
    intro call hcall
    cases (hself _ _).symm.trans hcall
    obtain ⟨rfl, -⟩ := SecretProvider.activate_eq_ok hactivate
    exact ⟨hunlocked rfl, inv.valid _ _ hold⟩
  | activationFails =>
    intro call hcall
    cases (hself _ _).symm.trans hcall
    exact ⟨hunlocked rfl, trivial⟩
  | revokeBegins _ _ href hversion =>
    intro call hcall
    cases (hself _ _).symm.trans hcall
    exact ⟨fun row hrow => ⟨rfl, (Option.some.inj hrow).symm⟩, href, hversion⟩
  | @revokes i row active hold =>
    intro call hcall
    cases (hself _ _).symm.trans hcall
    obtain ⟨hholder, rfl⟩ := inv.locked _ _ hold _ rfl
    have hactive : s.row.IsActive active := inv.valid _ _ hold
    refine ⟨fun row hrow => ⟨hholder, (Option.some.inj hrow).symm⟩, ?_⟩
    rcases inv.active with ⟨href, -⟩ | ⟨old, hmem, href, hversion⟩
    · cases href.symm.trans hactive.1
    · refine ⟨old, hmem, ⟨href, hversion⟩, ?_⟩
      have hsame : (old.ref, old.version) = (active.ref, active.version) :=
        Prod.ext (Option.some.inj (href.symm.trans hactive.1))
          (Option.some.inj (hversion.symm.trans hactive.2))
      rw [hsame]
      exact update_self _ _ _
  | reconcileBegins _ _ href hversion =>
    intro call hcall
    cases (hself _ _).symm.trans hcall
    exact ⟨fun row hrow => ⟨rfl, (Option.some.inj hrow).symm⟩, href, hversion⟩
  | @reconcileReads i row pending value hold hget hvalue =>
    intro call hcall
    cases (hself _ _).symm.trans hcall
    obtain ⟨hholder, rfl⟩ := inv.locked _ _ hold _ rfl
    have hpending : s.row.IsPending pending := inv.valid _ _ hold
    refine ⟨fun row hrow => ⟨hholder, (Option.some.inj hrow).symm⟩, ?_, hpending,
      value, hget, hvalue⟩
    obtain ⟨_, hpointer, -⟩ := SecretProvider.get_eq_ok.mp hget
    rw [hvalue] at hpointer
    exact inv.pointers _ _ hpointer
  | destroys | failureCommits | adopts | revokeCommits | reconcileCommits | lost =>
    intro call hcall
    cases (hself _ _).symm.trans hcall

/-- The calls that a step is not of stay where they are. -/
theorem Keeps.call {i j : Nat} {call : SecretCall} (inv : RotationInv s) (keeps : Keeps i s s')
    (hne : j ≠ i) (hcall : s.calls j = some call) :
    call.Locked s' j ∧ call.Valid s'.provider s'.issued := by
  constructor
  · intro row hrow
    obtain ⟨hholder, rfl⟩ := inv.locked j call hcall row hrow
    obtain ⟨hrow', hholder'⟩ := keeps.locked j hne hholder
    exact ⟨hholder', hrow'.symm⟩
  · have hvalid := inv.valid j call hcall
    cases call with
    | staging | destroying | activationFailed => trivial
    | staged => exact ⟨keeps.issued _ hvalid.1, hvalid.2⟩
    | activating | adopting => exact ⟨keeps.issued _ hvalid.1, hvalid.2⟩
    | revoking | reconciling => exact hvalid
    | revoked =>
      obtain ⟨secret, hmem, hactive, hgone⟩ := hvalid
      exact ⟨secret, keeps.issued _ hmem, hactive, keeps.gone _ hmem hgone⟩
    | reconciled =>
      obtain ⟨hmem, hpending, hgives⟩ := hvalid
      have hholder := (inv.locked j _ hcall _ rfl).1
      have hother : s.holder ≠ some i := by
        rw [hholder]
        exact fun h => hne (Option.some.inj h)
      exact ⟨keeps.issued _ hmem, hpending, keeps.gives hother _ hmem hgives⟩

/-- Every step keeps the invariant. -/
theorem RotationStep.inv (inv : RotationInv s) (step : RotationStep s label s') :
    RotationInv s' := by
  have keeps := step.keeps inv
  have hcalls : ∀ j call, s'.calls j = some call →
      call.Locked s' j ∧ call.Valid s'.provider s'.issued := by
    intro j call hcall
    by_cases hj : j = label.call
    · subst hj
      exact step.own inv call hcall
    · rw [keeps.others j hj] at hcall
      exact keeps.call inv hj hcall
  exact {
    unique := step.unique inv
    pointers := step.pointers inv
    active := step.names_active inv
    pending := step.names_pending inv
    locked := fun j call hcall => (hcalls j call hcall).1
    valid := fun j call hcall => (hcalls j call hcall).2 }

theorem RotationInv.initial (legacySecretRef : Option String) :
    RotationInv (.initial legacySecretRef) where
  unique := fun _ h => absurd h List.not_mem_nil
  pointers := fun _ _ h => by cases h
  active := .inl ⟨rfl, rfl⟩
  pending := .inl ⟨rfl, rfl⟩
  locked := fun _ _ h => by cases h
  valid := fun _ _ h => by cases h

end Steps

end Wbcz.Integrations

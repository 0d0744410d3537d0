import Wbcz.Integrations.SecretRotation

/-!
# Which runs leave the active secret usable

The row names as its active secret one that the provider gives, except where a revocation took
the secret away: `revoke_secret` asks the provider before it changes the row. Until its
transaction commits the row names a secret that is gone, and it goes on to when the transaction
does not. A rotation whose secret was reconciled, and revoked, before its second transaction
makes that secret the active one again. Nothing that a failing `set_secret` does touches the
active secret.
-/

namespace Wbcz.Integrations

open Transition (Run)

/-! ## The property -/

/-- The columns of the active secret are null, or are what the provider gives for the
reference. -/
def Usable (s : RotationSystem) : Prop :=
  s.row.activeSecretRef = none ∧ s.row.activeSecretVersion = none ∨
    ∃ ref value, s.row.activeSecretRef = some ref ∧ s.provider.get ref = .ok value ∧
      s.row.activeSecretVersion = some value.version

/-- The provider has revoked a secret, and the transaction of `revoke_secret` is open. -/
def Revoking (s : RotationSystem) : Prop := ∃ i row, s.calls i = some (.revoked row)

/-- No provider operation of the step is a revocation. -/
def NoRevocation (_ : RotationSystem) (label : RotationLabel) : Prop := ∀ i, label ≠ .revokes i

/-- A revocation that has reached the provider is not lost, and what `set_secret` adopts is still
given by the provider. -/
def LeavesUsable (s : RotationSystem) (label : RotationLabel) : Prop :=
  (∀ i row, label = .lost i → s.calls i ≠ some (.revoked row)) ∧
    ∀ i row active, label = .adopts i → s.calls i = some (.adopting row active) →
      s.provider.Gives active

/-- The steps that meet a condition. -/
def StepWhere (P : RotationSystem → RotationLabel → Prop) (s : RotationSystem)
    (label : RotationLabel) (s' : RotationSystem) : Prop :=
  RotationStep s label s' ∧ P s label

/-- The steps that lead to states with a property. -/
def StepInto (P : RotationSystem → Prop) (s : RotationSystem) (label : RotationLabel)
    (s' : RotationSystem) : Prop :=
  RotationStep s label s' ∧ P s'

/-- A step leaves the active secret of the row, and the provider still gives it if it did. -/
def LeavesActive (s s' : RotationSystem) : Prop :=
  s'.row.activeSecretRef = s.row.activeSecretRef ∧
    s'.row.activeSecretVersion = s.row.activeSecretVersion ∧ (Usable s → Usable s')

/-! ## Steps -/

section Steps

variable {s s' : RotationSystem} {label : RotationLabel} {secret : SecretVersion}

theorem usable_of_isActive (hactive : s.row.IsActive secret) (hgives : s.provider.Gives secret) :
    Usable s := by
  obtain ⟨value, hget, hversion⟩ := hgives
  refine .inr ⟨secret.ref, value, hactive.1, hget, ?_⟩
  rw [hversion]
  exact hactive.2

/-- A usable row names a secret that was given out and that the provider gives, or none. -/
theorem Usable.cases (inv : RotationInv s) (h : Usable s) :
    s.row.activeSecretRef = none ∧ s.row.activeSecretVersion = none ∨
      ∃ secret ∈ s.issued, s.row.IsActive secret ∧ s.provider.Gives secret := by
  rcases h with hnone | ⟨ref, value, href, hget, hversion⟩
  · exact .inl hnone
  · obtain ⟨_, hpointer, -⟩ := SecretProvider.get_eq_ok.mp hget
    exact .inr ⟨⟨ref, value.version⟩, inv.pointers _ _ hpointer, ⟨href, hversion⟩, value, hget, rfl⟩

theorem Usable.gives (h : Usable s) (hactive : s.row.IsActive secret) :
    s.provider.Gives secret := by
  rcases h with ⟨hnone, -⟩ | ⟨ref, value, href, hget, hversion⟩
  · cases hnone.symm.trans hactive.1
  · obtain rfl := Option.some.inj (href.symm.trans hactive.1)
    exact ⟨value, hget, Option.some.inj (hversion.symm.trans hactive.2)⟩

theorem not_gives (hgone : s.provider.records (secret.ref, secret.version) = none) :
    ¬ s.provider.Gives secret := by
  rintro ⟨value, hget, hversion⟩
  obtain ⟨record, -, hrecord, -⟩ := SecretProvider.get_eq_ok.mp hget
  rw [hversion, hgone] at hrecord
  cases hrecord

/-- The secret that a revocation has taken away is the active one of the row. -/
theorem Revoking.not_usable (inv : RotationInv s) (h : Revoking s) : ¬ Usable s := by
  obtain ⟨i, row, hcall⟩ := h
  obtain ⟨-, rfl⟩ := inv.locked i _ hcall _ rfl
  obtain ⟨secret, -, hactive, hgone⟩ := inv.valid i _ hcall
  exact fun husable => not_gives hgone (husable.gives hactive)

/-- A step but a revocation that leaves the active columns leaves them usable. -/
theorem Usable.step (inv : RotationInv s) (h : Usable s) (step : RotationStep s label s')
    (hlabel : NoRevocation s label) (href : s'.row.activeSecretRef = s.row.activeSecretRef)
    (hversion : s'.row.activeSecretVersion = s.row.activeSecretVersion) : Usable s' := by
  rcases h.cases inv with hnone | ⟨secret, hmem, hactive, hgives⟩
  · exact .inl ⟨href.trans hnone.1, hversion.trans hnone.2⟩
  · exact usable_of_isActive ⟨href.trans hactive.1, hversion.trans hactive.2⟩
      (step.gives inv hlabel hmem hgives)

/-- A revocation goes on until a step of its own. -/
theorem Revoking.step (h : Revoking s) (step : RotationStep s label s')
    (hother : ∀ row, s.calls label.call ≠ some (.revoked row)) : Revoking s' := by
  obtain ⟨i, row, hcall⟩ := h
  have hne : i ≠ label.call := by
    rintro rfl
    exact hother row hcall
  exact ⟨i, row, (step.others hne).trans hcall⟩

/-- A revocation that is under way was before, or the step is the operation of the provider. -/
theorem RotationStep.revoking (step : RotationStep s label s') (h : Revoking s') :
    Revoking s ∨ ∃ i, label = .revokes i := by
  obtain ⟨j, row, hcall⟩ := h
  by_cases hj : j = label.call
  · have hself (i : Nat) (x : Option SecretCall) : Function.update s.calls i x i = x :=
      Function.update_self _ _ _
    subst hj
    cases step with
    | revokes => exact .inr ⟨_, rfl⟩
    | setBegins | stages | stagedCommits | stagedFails | destroys | activates | activationFails
    | failureCommits | adopts | revokeBegins | revokeCommits | reconcileBegins | reconcileReads
    | reconcileCommits | lost => cases (hself _ _).symm.trans hcall
  · exact .inl ⟨j, row, (step.others hj).symm.trans hcall⟩

/-- Only one call has the row locked. -/
theorem Revoking.holder (inv : RotationInv s) (h : Revoking s) : s.holder ≠ none := by
  obtain ⟨i, row, hcall⟩ := h
  rw [(inv.locked i _ hcall _ rfl).1]
  exact nofun

/-- The steps that leave the row but for the pending secret, or that end a transaction with one
that the provider gives. -/
def RotationLabel.Plain : RotationLabel → Prop
  | adopts _ | revokes _ | lost _ => False
  | _ => True

/-- A plain step keeps what was usable. -/
theorem RotationStep.plain (inv : RotationInv s) (step : RotationStep s label s')
    (hplain : label.Plain) (h : Revoking s ∨ Usable s) : Revoking s' ∨ Usable s' := by
  have hlabel : NoRevocation s label := by
    rintro i rfl
    exact hplain
  have hsame (href : s'.row.activeSecretRef = s.row.activeSecretRef)
      (hversion : s'.row.activeSecretVersion = s.row.activeSecretVersion)
      (hother : ∀ row, s.calls label.call ≠ some (.revoked row)) : Revoking s' ∨ Usable s' := by
    rcases h with hrevoking | husable
    · exact .inl (hrevoking.step step hother)
    · exact .inr (husable.step inv step hlabel href hversion)
  cases step with
  | adopts | revokes | lost => exact hplain.elim
  | revokeCommits hcall =>
    obtain ⟨-, rfl⟩ := inv.locked _ _ hcall _ rfl
    exact .inr (.inl ⟨ConnectionRow.column_self _ _, ConnectionRow.column_self _ _⟩)
  | reconcileCommits hcall =>
    obtain ⟨-, rfl⟩ := inv.locked _ _ hcall _ rfl
    obtain ⟨-, hpending, hgives⟩ := inv.valid _ _ hcall
    exact .inr (usable_of_isActive ⟨(ConnectionRow.column_self _ _).trans hpending.1,
      (ConnectionRow.column_self _ _).trans hpending.2⟩ hgives)
  | setBegins hcall | revokeBegins hcall | reconcileBegins hcall =>
    exact hsame rfl rfl fun row hrow => nomatch hcall.symm.trans hrow
  | stages hcall | stagedFails hcall | destroys hcall | activates hcall | activationFails hcall
  | reconcileReads hcall =>
    exact hsame rfl rfl fun row hrow => nomatch hcall.symm.trans hrow
  | stagedCommits hcall =>
    obtain ⟨-, rfl⟩ := inv.locked _ _ hcall _ rfl
    exact hsame (ConnectionRow.column_same _ _) (ConnectionRow.column_same _ _)
      fun row hrow => nomatch hcall.symm.trans hrow
  | failureCommits hcall =>
    exact hsame (ConnectionRow.column_same _ _) (ConnectionRow.column_same _ _)
      fun row hrow => nomatch hcall.symm.trans hrow

/-- A revocation is not lost exactly if the row is usable after, or another one goes on. -/
theorem usable_of_lost {i : Nat} (inv : RotationInv s) (step : RotationStep s (.lost i) s')
    (h : Revoking s ∨ Usable s) :
    (Revoking s' ∨ Usable s') ↔ ∀ row, s.calls i ≠ some (.revoked row) := by
  have hlabel : NoRevocation s (.lost i) := fun _ => nofun
  constructor
  · intro h' row hcall
    have hunusable := Revoking.not_usable inv ⟨i, row, hcall⟩
    have hholder := (inv.locked i _ hcall _ rfl).1
    cases step with
    | lost =>
      rcases h' with hrevoking | husable
      · -- the lock is free after the step
        exact hrevoking.holder (RotationStep.inv inv (.lost hcall)) (if_pos hholder)
      · exact hunusable husable
  · intro hcall
    rcases h with hrevoking | husable
    · exact .inl (hrevoking.step step hcall)
    · right
      cases step with
      | lost hlost => exact husable.step inv (.lost hlost) hlabel rfl rfl

/-- A secret that is adopted is usable exactly if the provider still gives it. -/
theorem usable_of_adopts {i : Nat} (inv : RotationInv s) (step : RotationStep s (.adopts i) s') :
    (Revoking s' ∨ Usable s') ↔
      ∀ row active, s.calls i = some (.adopting row active) → s.provider.Gives active := by
  cases step with
  | @adopts _ row active now changed hcall hfree hadopt =>
    have hstep := RotationStep.adopts hcall hfree hadopt
    have hactive := @isActive_adopt row changed s.row active now hadopt (inv.valid _ _ hcall).2.1
    constructor
    · rintro (hrevoking | husable) row' active' hcall'
      · rcases hstep.revoking hrevoking with hrevoking | ⟨_, hlabel⟩
        · exact absurd hfree (hrevoking.holder inv)
        · cases hlabel
      · cases hcall.symm.trans hcall'
        exact husable.gives hactive
    · intro hgives
      exact .inr (usable_of_isActive hactive (hgives row active hcall))

/-- A step leaves the row usable, outside of a revocation, exactly if it meets the condition. -/
theorem RotationStep.usable_iff (inv : RotationInv s) (step : RotationStep s label s')
    (h : Revoking s ∨ Usable s) : (Revoking s' ∨ Usable s') ↔ LeavesUsable s label := by
  by_cases hplain : label.Plain
  · refine iff_of_true (step.plain inv hplain h) ⟨fun i row hlabel => ?_, fun i row _ hlabel => ?_⟩
    · rw [hlabel] at hplain
      exact hplain.elim
    · rw [hlabel] at hplain
      exact hplain.elim
  · cases label with
    | lost i =>
      rw [usable_of_lost inv step h]
      constructor
      · intro hcall
        refine ⟨fun j row hlabel => ?_, fun _ _ _ hlabel => nomatch hlabel⟩
        cases hlabel
        exact hcall row
      · exact fun hleaves row => hleaves.1 i row rfl
    | adopts i =>
      rw [usable_of_adopts inv step]
      constructor
      · intro hgives
        refine ⟨fun _ _ hlabel => (nomatch hlabel), fun j row active hlabel => ?_⟩
        cases hlabel
        exact hgives row active
      · exact fun hleaves row active => hleaves.2 i row active rfl
    | revokes i =>
      refine iff_of_true ?_ ⟨fun _ _ hlabel => (nomatch hlabel), fun _ _ _ hlabel => nomatch hlabel⟩
      cases step with
      | revokes => exact .inl ⟨i, _, Function.update_self _ _ _⟩
    | setBegins | stages | stagedCommits | stagedFails | destroys | activates | activationFails
    | failureCommits | revokeBegins | revokeCommits | reconcileBegins | reconcileReads
    | reconcileCommits => exact absurd trivial hplain

end Steps

/-! ## Runs -/

section Runs

variable {s s' : RotationSystem} {label : RotationLabel} {legacySecretRef : Option String}
  {labels : List RotationLabel}

/-- What is about to be adopted is given by the provider. -/
def AdoptsGiven (s : RotationSystem) : Prop :=
  ∀ i row active, s.calls i = some (.adopting row active) → s.provider.Gives active

theorem AdoptsGiven.step (inv : RotationInv s) (h : AdoptsGiven s)
    (step : RotationStep s label s') (hlabel : NoRevocation s label) : AdoptsGiven s' := by
  intro j row active hcall
  by_cases hj : j = label.call
  · have hself (i : Nat) (x : Option SecretCall) : Function.update s.calls i x i = x :=
      Function.update_self _ _ _
    subst hj
    cases step with
    | activates _ hactivate =>
      cases (hself _ _).symm.trans hcall
      exact SecretProvider.get_activate hactivate
    | setBegins | stages | stagedCommits | stagedFails | destroys | activationFails
    | failureCommits | adopts | revokeBegins | revokes | revokeCommits | reconcileBegins
    | reconcileReads | reconcileCommits | lost => cases (hself _ _).symm.trans hcall
  · rw [step.others hj] at hcall
    exact step.gives inv hlabel (inv.valid j _ hcall).1 (h j row active hcall)

/-- Where no secret was revoked, a step keeps the row usable exactly if it revokes none. -/
theorem RotationStep.usable_iff_noRevocation (inv : RotationInv s) (h : Usable s)
    (hgiven : AdoptsGiven s) (step : RotationStep s label s') :
    Usable s' ↔ NoRevocation s label := by
  have hno : ¬ Revoking s := fun hrevoking => hrevoking.not_usable inv h
  constructor
  · rintro husable i rfl
    cases step with
    | @revokes _ row _ hcall =>
      have inv' := RotationStep.inv inv (.revokes hcall)
      exact Revoking.not_usable inv' ⟨i, row, Function.update_self _ _ _⟩ husable
  · intro hlabel
    have hleaves : LeavesUsable s label :=
      ⟨fun i row _ hcall => hno ⟨i, row, hcall⟩, fun i row active _ => hgiven i row active⟩
    rcases (step.usable_iff inv (.inr h)).mpr hleaves with hrevoking | husable
    · rcases step.revoking hrevoking with hbefore | ⟨i, hi⟩
      · exact absurd hbefore hno
      · exact absurd hi (hlabel i)
    · exact husable

theorem usable_initial (legacySecretRef : Option String) : Usable (.initial legacySecretRef) :=
  .inl ⟨rfl, rfl⟩

/-- All states of a run are usable exactly if no step of it revokes a secret in the provider. -/
theorem run_usable_iff : Run (StepInto Usable) (.initial legacySecretRef) labels s ↔
    Run (StepWhere NoRevocation) (.initial legacySecretRef) labels s := by
  apply Run.congr fun s => RotationInv s ∧ Usable s ∧ AdoptsGiven s
  · exact ⟨.initial _, usable_initial _, fun _ _ _ h => nomatch h⟩
  · rintro s label s' ⟨inv, husable, hgiven⟩
    exact and_congr_right fun step => step.usable_iff_noRevocation inv husable hgiven
  · rintro s label s' ⟨inv, husable, hgiven⟩ ⟨step, husable'⟩
    have hlabel := (step.usable_iff_noRevocation inv husable hgiven).mp husable'
    exact ⟨step.inv inv, husable', hgiven.step inv step hlabel⟩

/-- All states of a run, but for those within a revocation, are usable exactly if every step of
it meets the condition. -/
theorem run_leavesUsable_iff :
    Run (StepInto fun s => Revoking s ∨ Usable s) (.initial legacySecretRef) labels s ↔
      Run (StepWhere LeavesUsable) (.initial legacySecretRef) labels s := by
  apply Run.congr fun s => RotationInv s ∧ (Revoking s ∨ Usable s)
  · exact ⟨.initial _, .inr (usable_initial _)⟩
  · rintro s label s' ⟨inv, husable⟩
    exact and_congr_right fun step => step.usable_iff inv husable
  · rintro s label s' ⟨inv, -⟩ ⟨step, husable'⟩
    exact ⟨step.inv inv, husable'⟩

/-- No step of a `set_secret` but its adoption touches the active secret. -/
theorem RotationStep.leavesActive {call : SecretCall} (inv : RotationInv s)
    (step : RotationStep s label s') (hcall : s.calls label.call = some call) (hset : call.IsSet)
    (hlabel : ∀ i, label ≠ .adopts i) : LeavesActive s s' := by
  have hrevoke : NoRevocation s label := by
    rintro i rfl
    cases step with
    | revokes hrevoking =>
      cases hrevoking.symm.trans hcall
      exact hset.elim
  have hsame : s'.row.activeSecretRef = s.row.activeSecretRef ∧
      s'.row.activeSecretVersion = s.row.activeSecretVersion := by
    cases step.active inv with
    | same href hversion => exact ⟨href, hversion⟩
    | revoked =>
      cases step with
      | revokeCommits hrevoked =>
        cases hrevoked.symm.trans hcall
        exact hset.elim
    | adopted => exact absurd rfl (hlabel _)
    | reconciled hreconciled =>
      cases hreconciled.symm.trans hcall
      exact hset.elim
  exact ⟨hsame.1, hsame.2, fun husable => husable.step inv step hrevoke hsame.1 hsame.2⟩

theorem inv_of_run (run : Run RotationStep (.initial legacySecretRef) labels s) : RotationInv s :=
  run.invariant RotationInv (.initial _) fun _ _ _ inv step => step.inv inv

/-- The states of a run are usable exactly if it revokes no secret. But for the states within a
revocation they are exactly if no revocation is lost and no revoked secret adopted. A
`set_secret` that fails leaves the active secret in either case. -/
theorem usable_run_iff :
    (Run (StepInto Usable) (.initial legacySecretRef) labels s ↔
      Run (StepWhere NoRevocation) (.initial legacySecretRef) labels s) ∧
    (Run (StepInto fun s => Revoking s ∨ Usable s) (.initial legacySecretRef) labels s ↔
      Run (StepWhere LeavesUsable) (.initial legacySecretRef) labels s) ∧
    (Run RotationStep (.initial legacySecretRef) labels s → ∀ label call s',
      RotationStep s label s' → s.calls label.call = some call → call.IsSet →
      (∀ i, label ≠ .adopts i) → LeavesActive s s') :=
  ⟨run_usable_iff, run_leavesUsable_iff, fun run _ _ _ step hcall hset hlabel =>
    step.leavesActive (inv_of_run run) hcall hset hlabel⟩

end Runs

/-! ## Secrets that are gone -/

/-- The secret that the runs below stage. -/
def sampleSecret : SecretVersion := ⟨"fssec://r", "v_1"⟩

theorem not_usable_of_gone {s : RotationSystem} {secret : SecretVersion}
    (hactive : s.row.IsActive secret)
    (hgone : s.provider.records (secret.ref, secret.version) = none) : ¬ Usable s :=
  fun husable => not_gives hgone (husable.gives hactive)

/-- A revocation is lost before its transaction commits. In the other run a secret is activated,
reconciled and revoked, and its `set_secret` adopts it then. Both end with no call under way and
a row whose active secret is gone. -/
theorem revoked_secret_dangles :
    (∃ s, Run RotationStep (.initial none) [.setBegins 0, .stages 0, .stagedCommits 0,
        .activates 0, .adopts 0, .revokeBegins 1, .revokes 1, .lost 1] s ∧
      (∀ i, s.calls i = none) ∧ ¬ Usable s) ∧
    ∃ s, Run RotationStep (.initial none) [.setBegins 0, .stages 0, .stagedCommits 0,
        .activates 0, .reconcileBegins 1, .reconcileReads 1, .reconcileCommits 1,
        .revokeBegins 2, .revokes 2, .revokeCommits 2, .adopts 0] s ∧
      (∀ i, s.calls i = none) ∧ ¬ Usable s := by
  have hset := Run.nil.snoc (@RotationStep.setBegins (.initial none) 0 "key" rfl rfl
    ⟨by decide, by decide⟩)
  have hstaged := hset.snoc (@RotationStep.stages _ 0 _ _ sampleSecret "" "wb-credential" rfl
    (fun _ h => absurd h List.not_mem_nil) (by decide) (by decide))
  have hcommitted := hstaged.snoc (@RotationStep.stagedCommits _ 0 _ _ rfl)
  have hactivated := hcommitted.snoc (@RotationStep.activates _ 0 _ _ _ _ rfl rfl)
  constructor
  · have hadopted := hactivated.snoc (@RotationStep.adopts _ 0 _ _ 0 _ rfl rfl rfl)
    have hbegun := hadopted.snoc (@RotationStep.revokeBegins _ 1 sampleSecret rfl rfl rfl rfl
      (by decide) (by decide))
    have hrevoked := hbegun.snoc (@RotationStep.revokes _ 1 _ _ rfl)
    have hlost := hrevoked.snoc (@RotationStep.lost _ 1 _ rfl)
    refine ⟨_, hlost, fun i => ?_, @not_usable_of_gone _ sampleSecret ⟨rfl, rfl⟩ rfl⟩
    match i with
    | 0 | 1 | _ + 2 => rfl
  · have hreconciling := hactivated.snoc (@RotationStep.reconcileBegins _ 1 sampleSecret rfl rfl
      rfl rfl (by decide) (by decide))
    have hread := hreconciling.snoc (@RotationStep.reconcileReads _ 1 _ _ _ rfl rfl rfl)
    have hreconciled := hread.snoc (@RotationStep.reconcileCommits _ 1 _ _ 0 rfl)
    have hbegun := hreconciled.snoc (@RotationStep.revokeBegins _ 2 sampleSecret rfl rfl rfl rfl
      (by decide) (by decide))
    have hrevoked := hbegun.snoc (@RotationStep.revokes _ 2 _ _ rfl)
    have hended := hrevoked.snoc (@RotationStep.revokeCommits _ 2 _ rfl)
    have hadopted := hended.snoc (@RotationStep.adopts _ 0 _ _ 0 _ rfl rfl rfl)
    refine ⟨_, hadopted, fun i => ?_, @not_usable_of_gone _ sampleSecret ⟨rfl, rfl⟩ rfl⟩
    match i with
    | 0 | 1 | 2 | _ + 3 => rfl

end Wbcz.Integrations

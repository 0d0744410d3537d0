import Wbcz.Security.Owners

/-!
# Changes by members who were demoted

A request keeps the scope that it resolved, and changes memberships by it later, when it holds the
row of the organisation. `accept_invitation` reads the membership of the inviter there once more;
`change_role` and `remove` do not read the one of the acting user. So a member who is demoted
between the two steps of a request changes a membership by a role that is gone. A member who is
removed in between does not: the immutable audit asks for an active membership.
-/

namespace Wbcz.Security

open Fallible (bind_eq_ok ensure_eq_ok)
open Transition (Run)

/-! ## The property and its condition -/

/-- The change that an action makes to a membership, if it does. -/
def MembershipAction.target : MembershipAction → Option (String × RoleChange)
  | .changeRole membershipId role => some (membershipId, .change role)
  | .remove membershipId => some (membershipId, .remove)
  | .createInvitation _ => none
  | .revokeInvitation _ => none

/-- The change touches no role that an administrator may not touch. -/
def RoleChange.Plain (change : RoleChange) (row : Role) : Prop :=
  ¬ row.Elevated ∧ ∀ role, change = .change role → ¬ role.Elevated

/-- A change of a membership is permitted by the active membership of the acting user. -/
def PermittedNow (s : SecurityTables) (scope : ActiveScope) (action : MembershipAction) : Prop :=
  ∀ membershipId change row, action.target = some (membershipId, change) →
    s.membershipIn membershipId scope.organisationId = some row →
    ∃ member, s.membership scope.userId scope.organisationId = some member ∧
      change.Permitted member.role row.role

/-- The acting user is still an active member, with the role of the scope, or with one that goes
as far for what is changed. -/
def Current (s : SecurityTables) (scope : ActiveScope) (action : MembershipAction) : Prop :=
  ∀ membershipId change row, action.target = some (membershipId, change) →
    s.membershipIn membershipId scope.organisationId = some row →
    ∃ member, s.membership scope.userId scope.organisationId = some member ∧
      (member.role = scope.role ∨ member.role = .owner ∨ member.role = .admin ∧ change.Plain row.role)

/-- The steps whose changes meet a condition. -/
def StepWith (platform : Platform)
    (P : SecurityTables → ActiveScope → MembershipAction → Prop) (s : SecurityState)
    (label : SecurityLabel) (s' : SecurityState) : Prop :=
  SecurityStep platform s label s' ∧
    ∀ scope action, label = .acted scope action → P s.tables scope action

/-! ## The roles -/

section Roles

variable {change : RoleChange} {row : Role}

/-- An owner may change every membership. -/
theorem permitted_owner : change.Permitted .owner row := by
  constructor
  · exact mem_allPermissions _
  · cases change with
    | change role =>
      apply bind_eq_ok.mpr
      refine ⟨(), ensure_eq_ok.mpr ?_, ensure_eq_ok.mpr ?_⟩
      · rintro ⟨-, hactor⟩
        exact hactor rfl
      · rintro ⟨hactor, -⟩
        exact absurd hactor (by decide)
    | remove =>
      apply ensure_eq_ok.mpr
      rintro ⟨hactor, -⟩
      exact absurd hactor (by decide)

/-- An administrator may make the plain changes. -/
theorem permitted_admin_iff : change.Permitted .admin row ↔ change.Plain row := by
  constructor
  · rintro ⟨-, hcheck⟩
    cases change with
    | change role =>
      obtain ⟨_, _, hcheck⟩ := bind_eq_ok.mp hcheck
      have hrule := ensure_eq_ok.mp hcheck
      refine ⟨fun hrow => hrule ⟨rfl, .inl hrow⟩, ?_⟩
      rintro _ ⟨⟩ hrole
      exact hrule ⟨rfl, .inr hrole⟩
    | remove =>
      have hrule := ensure_eq_ok.mp hcheck
      exact ⟨fun hrow => hrule ⟨rfl, hrow⟩, fun _ h => nomatch h⟩
  · rintro ⟨hrow, hrole⟩
    cases change with
    | change role =>
      have hpermission : .rolesManage ∈ Role.admin.permissions := by decide
      refine ⟨hpermission, bind_eq_ok.mpr ?_⟩
      refine ⟨(), ensure_eq_ok.mpr ?_, ensure_eq_ok.mpr ?_⟩
      · rintro ⟨howner, -⟩
        exact hrole role rfl (.inl howner)
      · rintro ⟨-, hrow' | hrole'⟩
        · exact hrow hrow'
        · exact hrole role rfl hrole'
    | remove =>
      have hpermission : .membersManage ∈ Role.admin.permissions := by decide
      refine ⟨hpermission, ensure_eq_ok.mpr ?_⟩
      rintro ⟨-, hrow'⟩
      exact hrow hrow'

/-- Who may change a membership is an owner, or an administrator. -/
theorem RoleChange.Permitted.elevated {actor : Role} (h : change.Permitted actor row) :
    actor.Elevated := by
  cases change with
  | change role => exact elevated_of_manages (.inl h.1)
  | remove => exact elevated_of_manages (.inr h.1)

end Roles

/-! ## Runs -/

section Runs

variable {platform : Platform} {s s' : SecurityTables} {scope : ActiveScope}
  {action : MembershipAction}

/-- A change that is committed is one that the role of the scope permits. -/
theorem Commits.permitted (commits : Commits platform s scope action s') {membershipId : String}
    {change : RoleChange} {row : MembershipRecord}
    (htarget : action.target = some (membershipId, change))
    (hrow : s.membershipIn membershipId scope.organisationId = some row) :
    change.Permitted scope.role row.role := by
  obtain ⟨hmem, hid, -⟩ := membershipIn_spec hrow
  cases commits with
  | changed hchanged _ hpermitted =>
    cases htarget
    rw [Table.eq_of_key_eq hmem hchanged hid]
    exact hpermitted
  | removed hremoved _ hpermitted =>
    cases htarget
    rw [Table.eq_of_key_eq hmem hremoved hid]
    exact hpermitted
  | invited | revoked => cases htarget

/-- A committed change was permitted exactly where the scope was current. -/
theorem Commits.permitted_iff (commits : Commits platform s scope action s') :
    PermittedNow s scope action ↔ Current s scope action := by
  constructor
  · intro h membershipId change row htarget hrow
    obtain ⟨member, hmember, hpermitted⟩ := h membershipId change row htarget hrow
    refine ⟨member, hmember, ?_⟩
    rcases hpermitted.elevated with howner | hadmin
    · exact .inr (.inl howner)
    · rw [hadmin] at hpermitted
      exact .inr (.inr ⟨hadmin, permitted_admin_iff.mp hpermitted⟩)
  · intro h membershipId change row htarget hrow
    obtain ⟨member, hmember, hrole⟩ := h membershipId change row htarget hrow
    refine ⟨member, hmember, ?_⟩
    rcases hrole with hsame | howner | ⟨hadmin, hplain⟩
    · rw [hsame]
      exact commits.permitted htarget hrow
    · rw [howner]
      exact permitted_owner
    · rw [hadmin]
      exact permitted_admin_iff.mpr hplain

/-- In a run every change of a role and every removal was permitted by the role that the acting
user had, exactly when every one was made with a scope that was current. -/
theorem permitted_run_iff {labels : List SecurityLabel} {s s' : SecurityState} :
    Run (StepWith platform PermittedNow) s labels s' ↔
      Run (StepWith platform Current) s labels s' := by
  apply Run.congr (fun _ => True) trivial
  · intro s label s' _
    refine and_congr_right fun step => ?_
    refine forall_congr' fun scope => forall_congr' fun action => forall_congr' fun hlabel => ?_
    rw [hlabel] at step
    cases step with
    | acted hrun => exact (MembershipAction.run_spec hrun).1.permitted_iff
  · intro _ _ _ _ _
    trivial

end Runs

/-! ## A demoted administrator -/

/-- The owner has made a viewer of the administrator. -/
def demotedTables : SecurityTables :=
  (MembershipAction.run samplePlatform sampleCall (sampleScope 1 .owner)
    (.changeRole (sampleMembership 2) .viewer) bootstrappedTables).2

/-- The request of the administrator begins before it is demoted, and is committed after. -/
theorem demoted_run :
    Run (SecurityStep samplePlatform) .initial
      ([.surroundings, .bootstrapped] ++ [.began (sampleScope 2 .admin)] ++
        [.began (sampleScope 1 .owner)] ++
        [.acted (sampleScope 1 .owner) (.changeRole (sampleMembership 2) .viewer)])
      ⟨demotedTables, [sampleScope 2 .admin]⟩ := by
  have hresolved : (bootstrappedTables.resolveSessionScope (sampleUser 2 "b" true)
      (sampleSession 2)).1 = .ok (sampleScope 2 .admin) := by decide +kernel
  have hbegan : SecurityStep samplePlatform ⟨bootstrappedTables, []⟩
      (.began (sampleScope 2 .admin)) ⟨bootstrappedTables, [sampleScope 2 .admin]⟩ :=
    .began (Prod.ext hresolved rfl)
  have hrun := @Tx.eq_of_isOk _ _ (MembershipAction.run samplePlatform sampleCall
    (sampleScope 1 .owner) (.changeRole (sampleMembership 2) .viewer)) bootstrappedTables
    (by decide +kernel)
  have hdemoted := @SecurityStep.acted samplePlatform _ _ [] [sampleScope 2 .admin] _ _ _ hrun
  exact ((bootstrapped_run.snoc hbegan).snoc (owner_began _)).snoc hdemoted

/-- A viewer removes a member. -/
theorem demoted_member_removes :
    ¬ ∀ labels s scope action s', Run (SecurityStep samplePlatform) .initial labels s →
      SecurityStep samplePlatform s (.acted scope action) s' →
      PermittedNow s.tables scope action := by
  intro h
  have hrun := @Tx.eq_of_isOk _ _ (MembershipAction.run samplePlatform sampleCall
    (sampleScope 2 .admin) (.remove (sampleMembership 3))) demotedTables (by decide +kernel)
  have hremoved := @SecurityStep.acted samplePlatform _ _ [] [] _ _ _ hrun
  have hrow : demotedTables.membershipIn (sampleMembership 3) (sampleCall.newId 0) =
      some ⟨sampleMembership 3, sampleCall.newId 0, 3, .operator, true, some 1⟩ := by
    decide +kernel
  obtain ⟨member, hmember, hpermitted⟩ := h _ _ _ _ _ demoted_run hremoved _ _ _ rfl hrow
  have hviewer : demotedTables.membership 2 (sampleCall.newId 0) =
      some ⟨sampleMembership 2, sampleCall.newId 0, 2, .viewer, true, some 1⟩ := by
    decide +kernel
  cases hviewer.symm.trans hmember
  exact absurd hpermitted.elevated (by decide)

end Wbcz.Security

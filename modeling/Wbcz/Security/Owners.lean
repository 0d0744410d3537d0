import Wbcz.Security.Members

/-!
# The owners of an organisation

An organisation that was bootstrapped keeps an active owner, whoever asks for what in which
order. Who becomes an owner or an administrator owes it to an owner: to one whose request began
when it was an owner, or to one who made the invitation as an owner and is still an owner when the
invitation is accepted.
-/

namespace Wbcz.Security

open Transition (Run)

/-! ## An owner remains -/

section Owned

variable {s s' : SecurityTables} {organisationId : String}

/-- The organisation has an active owner. -/
def SecurityTables.Owned (s : SecurityTables) (organisationId : String) : Prop :=
  ∃ userId, s.Holds userId organisationId .owner

/-- The row is one of an active owner of the organisation. -/
def MembershipRecord.Owns (row : MembershipRecord) (organisationId : String) : Prop :=
  row.organisationId = organisationId ∧ row.role = .owner ∧ row.isActive = true

theorem owned_iff : s.Owned organisationId ↔ ∃ row ∈ s.memberships, row.Owns organisationId := by
  constructor
  · rintro ⟨_, row, hmem, _, horganisation, hrole, hactive⟩
    exact ⟨row, hmem, horganisation, hrole, hactive⟩
  · rintro ⟨row, hmem, horganisation, hrole, hactive⟩
    exact ⟨row.userId, row, hmem, rfl, horganisation, hrole, hactive⟩

/-- Where there are two owners, one of them is another one. -/
theorem exists_owner_ne (h : 1 < s.ownerCount organisationId) (id : String) :
    ∃ row ∈ s.memberships, row.id ≠ id ∧ row.Owns organisationId := by
  by_contra hnone
  refine absurd (Table.countP_le_one (k := id) fun row hrow howner => ?_) (Nat.not_le_of_lt h)
  by_contra hne
  simp only [Bool.and_eq_true, decide_eq_true_eq] at howner
  exact hnone ⟨row, hrow, hne, howner.1.1, howner.1.2, howner.2⟩

/-- An owner remains when a membership is rewritten, if it remains one or is not the last one. -/
theorem SecurityTables.Owned.modify (f : MembershipRecord → MembershipRecord)
    (hf : ∀ row, (f row).key = row.key) {row : MembershipRecord} (h : s.Owned organisationId)
    (hrow : row ∈ s.memberships) (hs' : s'.memberships = s.memberships.modify row.id f hf)
    (hlast : ∀ organisationId, row.Owns organisationId →
      (f row).Owns organisationId ∨ 1 < s.ownerCount organisationId) :
    s'.Owned organisationId := by
  obtain ⟨owner, hmem, howns⟩ := owned_iff.mp h
  rw [owned_iff, hs']
  by_cases hid : owner.id = row.id
  · have hsame : owner = row := Table.eq_of_key_eq hmem hrow hid
    rw [hsame] at howns
    rcases hlast organisationId howns with hstays | hcount
    · exact ⟨f row, Table.mem_modify.mpr (.inr ⟨row, hrow, rfl, rfl⟩), hstays⟩
    · obtain ⟨other, hother, hne, howns⟩ := exists_owner_ne hcount row.id
      exact ⟨other, Table.mem_modify.mpr (.inl ⟨hother, hne⟩), howns⟩
  · exact ⟨owner, Table.mem_modify.mpr (.inl ⟨hmem, hid⟩), howns⟩

variable {platform : Platform} {scope : ActiveScope} {action : MembershipAction}

theorem Commits.owned (h : s.Owned organisationId) (commits : Commits platform s scope action s') :
    s'.Owned organisationId := by
  cases commits with
  | @changed row role now hrow horganisation _ hlast =>
    refine h.modify (fun row => { row with role }) (fun _ => rfl) hrow rfl
      fun organisationId howns => ?_
    by_cases hrole : role = .owner
    · exact .inl ⟨howns.1, hrole, howns.2.2⟩
    · rw [← howns.1, horganisation]
      exact .inr (hlast howns.2.1 hrole)
  | @removed row now hrow horganisation _ hlast =>
    refine h.modify (fun row => { row with isActive := false }) (fun _ => rfl) hrow rfl
      fun organisationId howns => ?_
    rw [← howns.1, horganisation]
    exact .inr (hlast howns.2.1)
  | invited | revoked => exact h

theorem Accepts.owned {user : User} {rawToken : String} (h : s.Owned organisationId)
    (accepts : Accepts platform s user rawToken s') : s'.Owned organisationId := by
  cases accepts with
  | @mk row _ _ _ _ _ _ _ _ _ hjoined =>
    rcases hjoined with hinsert | ⟨existing, hexisting, hinactive, rfl⟩
    · obtain ⟨owner, hmem, howns⟩ := owned_iff.mp h
      exact owned_iff.mpr ⟨owner, (Table.mem_insert hinsert).mpr (.inl hmem), howns⟩
    · -- who joins again is no owner before
      refine h.modify (fun member => newMembership member.id user row) (fun _ => rfl) hexisting
        rfl fun _ howns => ?_
      exact absurd (hinactive.symm.trans howns.2.2) Bool.false_ne_true

end Owned

section Runs

variable {platform : Platform} {s s' : SecurityState} {label : SecurityLabel}

/-- The organisation of the bootstrap has an active owner. -/
def SecurityTables.BootstrapOwned (s : SecurityTables) : Prop :=
  ∀ record, s.bootstrap = some record → s.Owned record.organisationId

theorem SecurityStep.owned (h : s.tables.BootstrapOwned) (step : SecurityStep platform s label s') :
    s'.tables.BootstrapOwned := by
  cases step with
  | bootstrapped hrun =>
    obtain ⟨_, _, record, hrecord, howner⟩ := bootstrap_spec hrun
    intro record' hrecord'
    cases hrecord.symm.trans hrecord'
    exact ⟨_, howner⟩
  | began | ended => exact h
  | acted hrun =>
    have hcommits := (MembershipAction.run_spec hrun).1
    intro record hrecord
    refine hcommits.owned (h record ?_)
    cases hcommits <;> exact hrecord
  | accepted hrun =>
    have haccepts := accept_spec hrun
    intro record hrecord
    refine haccepts.owned (h record ?_)
    cases haccepts
    exact hrecord
  | surroundings hmemberships _ hbootstrap =>
    intro record hrecord
    have howned := owned_iff.mp (h record (hbootstrap ▸ hrecord))
    exact owned_iff.mpr (hmemberships ▸ howned)

end Runs

/-! ## Who raises a membership -/

section Raised

variable {platform : Platform} {s s' : SecurityTables} {scope : ActiveScope}
  {action : MembershipAction} {actor row role : Role}

/-- The membership is one of an owner or of an administrator, and was not before, or not active. -/
def Raised (s : SecurityTables) (row' : MembershipRecord) : Prop :=
  row'.role.Elevated ∧ ∀ row ∈ s.memberships, row.id = row'.id → row.role = row'.role →
    row'.isActive = true ∧ row.isActive = false

/-- Only an owner makes an owner or an administrator of a member. -/
theorem RoleChange.Permitted.owner (h : RoleChange.Permitted (.change role) actor row)
    (helevated : role.Elevated) : actor = .owner := by
  rcases elevated_of_manages (.inl h.1) with howner | hadmin
  · exact howner
  · obtain ⟨_, _, hcheck⟩ := Fallible.bind_eq_ok.mp h.2
    exact absurd ⟨hadmin, .inr helevated⟩ (Fallible.ensure_eq_ok.mp hcheck)

/-- Only an owner invites an owner or an administrator. -/
theorem owner_of_checkInvitedRole (hpermission : .membersManage ∈ actor.permissions)
    (h : checkInvitedRole actor role = .ok ()) (helevated : role.Elevated) : actor = .owner := by
  rcases elevated_of_manages (.inr hpermission) with howner | hadmin
  · exact howner
  · obtain ⟨_, _, hcheck⟩ := Fallible.bind_eq_ok.mp h
    exact absurd ⟨hadmin, helevated⟩ (Fallible.ensure_eq_ok.mp hcheck)

/-- A request with a scope raises a membership of its organisation, for an owner. -/
theorem Commits.raised {row' : MembershipRecord} (commits : Commits platform s scope action s')
    (hmem : row' ∈ s'.memberships) (hraised : Raised s row') :
    ∃ role, action = .changeRole row'.id role ∧ scope.role = .owner ∧
      row'.organisationId = scope.organisationId := by
  obtain ⟨helevated, hbefore⟩ := hraised
  have hsame : row' ∉ s.memberships := by
    intro hmem
    obtain ⟨hactive, hinactive⟩ := hbefore row' hmem rfl rfl
    exact absurd (hinactive.symm.trans hactive) Bool.false_ne_true
  cases commits with
  | changed hrow horganisation hpermitted =>
    rcases SecurityTables.mem_setRole.mp hmem with ⟨hold, -⟩ | ⟨other, hother, hid, rfl⟩
    · exact absurd hold hsame
    · have heq := Table.eq_of_key_eq hother hrow hid
      exact ⟨_, by rw [heq], hpermitted.owner helevated, by rw [heq, horganisation]⟩
  | removed hrow =>
    rcases SecurityTables.mem_deactivate.mp hmem with ⟨hold, -⟩ | ⟨other, hother, hid, rfl⟩
    · exact absurd hold hsame
    · exact absurd (hbefore other hother rfl rfl).1 Bool.false_ne_true
  | invited | revoked => exact absurd hmem hsame

/-- Who accepts an invitation is raised by an owner who invited the user. -/
theorem Accepts.raised {user : User} {rawToken : String} {row' : MembershipRecord}
    (accepts : Accepts platform s user rawToken s') (hmem : row' ∈ s'.memberships)
    (hraised : Raised s row') :
    ∃ row ∈ s.invitations, row.tokenHash = platform.tokenHash rawToken ∧ row.state = .pending ∧
      row'.userId = user.id ∧ row'.role = row.role ∧ row'.organisationId = row.organisationId ∧
      s.Holds row.invitedByUserId row.organisationId .owner := by
  obtain ⟨helevated, hbefore⟩ := hraised
  have hsame : row' ∉ s.memberships := by
    intro hmem
    obtain ⟨hactive, hinactive⟩ := hbefore row' hmem rfl rfl
    exact absurd (hinactive.symm.trans hactive) Bool.false_ne_true
  cases accepts with
  | @mk row inviterRole id _ _ hrow htoken hpending hinviter howner hjoined =>
    have hnew : ∃ id, row' = newMembership id user row := by
      rcases hjoined with hinsert | ⟨existing, hexisting, hinactive, rfl⟩
      · rcases (Table.mem_insert hinsert).mp hmem with hold | rfl
        · exact absurd hold hsame
        · exact ⟨_, rfl⟩
      · have hmodified := (@Table.mem_modify _ _ _ _ _ _ _
          (fun member : MembershipRecord => newMembership member.id user row) fun _ => rfl).mp hmem
        rcases hmodified with ⟨hold, -⟩ | ⟨other, _, _, rfl⟩
        · exact absurd hold hsame
        · exact ⟨_, rfl⟩
    obtain ⟨_, rfl⟩ := hnew
    refine ⟨row, hrow, htoken, hpending, rfl, rfl, rfl, ?_⟩
    rw [← howner helevated]
    exact hinviter

/-! ### Who made an invitation -/

/-- The columns of an invitation that say who may become what. -/
structure SameInvitation (row row' : InvitationRecord) : Prop where
  inviter : row'.invitedByUserId = row.invitedByUserId
  organisation : row'.organisationId = row.organisationId
  role : row'.role = row.role

theorem SecurityTables.mem_modifyInvitation {invitationId : String}
    {f : InvitationRecord → InvitationRecord} {hf : ∀ row, (f row).key = row.key}
    (hsame : ∀ row, SameInvitation row (f row)) {row' : InvitationRecord}
    (hmem : row' ∈ (s.modifyInvitation invitationId f hf).invitations) :
    ∃ row ∈ s.invitations, SameInvitation row row' := by
  rcases (@Table.mem_modify _ _ _ _ _ _ _ f hf).mp hmem with ⟨hold, -⟩ | ⟨row, hrow, -, rfl⟩
  · exact ⟨row', hold, rfl, rfl, rfl⟩
  · exact ⟨row, hrow, hsame row⟩

/-- An invitation is an old one, or the request made it. -/
theorem Commits.invitation (commits : Commits platform s scope action s')
    {row' : InvitationRecord} (hmem : row' ∈ s'.invitations) :
    (∃ row ∈ s.invitations, SameInvitation row row') ∨
      ∃ request, action = .createInvitation request ∧ scope.userId = row'.invitedByUserId ∧
        scope.organisationId = row'.organisationId ∧
        (row'.role.Elevated → scope.role = .owner) := by
  cases commits with
  | changed | removed => exact .inl ⟨row', hmem, rfl, rfl, rfl⟩
  | invited hpermission hcheck hinsert =>
    rcases (Table.mem_insert hinsert).mp hmem with hold | rfl
    · exact .inl ⟨row', hold, rfl, rfl, rfl⟩
    · exact .inr ⟨_, rfl, rfl, rfl, owner_of_checkInvitedRole hpermission hcheck⟩
  | revoked =>
    have hsame : ∀ row now, SameInvitation row
        { row with state := .revoked, revokedAt := some now } := fun _ _ => ⟨rfl, rfl, rfl⟩
    exact .inl (SecurityTables.mem_modifyInvitation (fun row => hsame row _) hmem)

theorem Accepts.invitation {user : User} {rawToken : String}
    (accepts : Accepts platform s user rawToken s') {row' : InvitationRecord}
    (hmem : row' ∈ s'.invitations) : ∃ row ∈ s.invitations, SameInvitation row row' := by
  cases accepts with
  | mk =>
    have hsame : ∀ row by' now, SameInvitation row
        { row with state := .accepted, acceptedByUserId := by', acceptedAt := now } :=
      fun _ _ _ => ⟨rfl, rfl, rfl⟩
    obtain ⟨row, hrow, hrow'⟩ := SecurityTables.mem_modifyInvitation (fun row => hsame row _ _) hmem
    exact ⟨row, hrow, hrow'⟩

end Raised

/-! ## Runs -/

section Runs

variable {platform : Platform} {s s' : SecurityState} {label : SecurityLabel}
  {labels : List SecurityLabel} {scope : ActiveScope}

/-- The request of the scope began on the way, when its user had the role of the scope. -/
def BeganAs (platform : Platform) (labels : List SecurityLabel) (s : SecurityState)
    (scope : ActiveScope) : Prop :=
  ∃ before after t t', labels = before ++ .began scope :: after ∧
    Run (SecurityStep platform) .initial before t ∧
    SecurityStep platform t (.began scope) t' ∧ Run (SecurityStep platform) t' after s ∧
    t.tables.Holds scope.userId scope.organisationId scope.role

/-- The invitation was made on the way, by a request of the one who invited. -/
def InvitedOn (platform : Platform) (labels : List SecurityLabel) (s : SecurityState)
    (row : InvitationRecord) : Prop :=
  ∃ before after t t' scope request, labels = before ++ .acted scope (.createInvitation request) ::
      after ∧
    Run (SecurityStep platform) .initial before t ∧
    SecurityStep platform t (.acted scope (.createInvitation request)) t' ∧
    Run (SecurityStep platform) t' after s ∧ BeganAs platform before t scope ∧
    scope.userId = row.invitedByUserId ∧ scope.organisationId = row.organisationId ∧
    (row.role.Elevated → scope.role = .owner)

theorem BeganAs.snoc (h : BeganAs platform labels s scope)
    (step : SecurityStep platform s label s') : BeganAs platform (labels ++ [label]) s' scope := by
  obtain ⟨before, after, t, t', rfl, hbefore, hstep, hafter, hholds⟩ := h
  refine ⟨before, after ++ [label], t, t', ?_, hbefore, hstep, hafter.snoc step, hholds⟩
  rw [List.append_assoc, List.cons_append]

theorem InvitedOn.snoc {row : InvitationRecord} (h : InvitedOn platform labels s row)
    (step : SecurityStep platform s label s') : InvitedOn platform (labels ++ [label]) s' row := by
  obtain ⟨before, after, t, t', scope, request, rfl, hbefore, hstep, hafter, hrest⟩ := h
  refine ⟨before, after ++ [label], t, t', scope, request, ?_, hbefore, hstep, hafter.snoc step,
    hrest⟩
  rw [List.append_assoc, List.cons_append]

theorem InvitedOn.same {row row' : InvitationRecord} (h : InvitedOn platform labels s row)
    (hsame : SameInvitation row row') : InvitedOn platform labels s row' := by
  obtain ⟨before, after, t, t', scope, request, hlabels, hbefore, hstep, hafter, hbegan, huser,
    horganisation, howner⟩ := h
  refine ⟨before, after, t, t', scope, request, hlabels, hbefore, hstep, hafter, hbegan,
    huser.trans hsame.inviter.symm, horganisation.trans hsame.organisation.symm, ?_⟩
  rw [hsame.role]
  exact howner

/-- Where the requests and the invitations of a state come from. -/
structure Traced (platform : Platform) (labels : List SecurityLabel) (s : SecurityState) :
    Prop where
  requests : ∀ scope ∈ s.requests, BeganAs platform labels s scope
  invitations : ∀ row ∈ s.tables.invitations, InvitedOn platform labels s row

/-- A step that starts no request and makes no invitation. -/
theorem Traced.snoc (h : Traced platform labels s) (step : SecurityStep platform s label s')
    (hrequests : ∀ scope ∈ s'.requests, scope ∈ s.requests)
    (hinvitations : ∀ row' ∈ s'.tables.invitations,
      ∃ row ∈ s.tables.invitations, SameInvitation row row') :
    Traced platform (labels ++ [label]) s' where
  requests scope hscope := (h.requests scope (hrequests scope hscope)).snoc step
  invitations row' hrow' := by
    obtain ⟨row, hrow, hsame⟩ := hinvitations row' hrow'
    exact ((h.invitations row hrow).snoc step).same hsame

theorem Traced.step (h : Traced platform labels s)
    (run : Run (SecurityStep platform) .initial labels s)
    (step : SecurityStep platform s label s') : Traced platform (labels ++ [label]) s' := by
  have hold : ∀ {tables : SecurityTables}, tables.invitations = s.tables.invitations →
      ∀ row' ∈ tables.invitations, ∃ row ∈ s.tables.invitations, SameInvitation row row' :=
    fun heq row' hrow' => ⟨row', heq ▸ hrow', rfl, rfl, rfl⟩
  have hstep := step
  cases step with
  | bootstrapped hrun => exact h.snoc hstep (fun _ hscope => hscope) (hold (bootstrap_spec hrun).2.1)
  | @began tables requests _ _ _ scope hresolve =>
    refine ⟨fun scope' hscope' => ?_, fun row hrow => (h.invitations row hrow).snoc hstep⟩
    rcases List.mem_cons.mp hscope' with rfl | hscope'
    · exact ⟨labels, [], _, _, rfl, run, hstep, .nil, resolveSessionScope_spec hresolve⟩
    · exact (h.requests scope' hscope').snoc hstep
  | @acted tables tables' before after call scope action hrun =>
    have hcommits := (MembershipAction.run_spec hrun).1
    have hscope : scope ∈ before ++ scope :: after :=
      List.mem_append_right _ List.mem_cons_self
    have hrequests : ∀ scope' ∈ before ++ after, scope' ∈ before ++ scope :: after := by
      intro scope' hscope'
      rcases List.mem_append.mp hscope' with hbefore | hafter
      · exact List.mem_append_left _ hbefore
      · exact List.mem_append_right _ (List.mem_cons_of_mem _ hafter)
    refine ⟨fun scope' hscope' => (h.requests scope' (hrequests scope' hscope')).snoc hstep,
      fun row' hrow' => ?_⟩
    rcases hcommits.invitation hrow' with ⟨row, hrow, hsame⟩ | ⟨request, rfl, hmade⟩
    · exact ((h.invitations row hrow).snoc hstep).same hsame
    · exact ⟨labels, [], _, _, scope, request, rfl, run, hstep, .nil, h.requests scope hscope,
        hmade⟩
  | @ended tables before after scope =>
    refine h.snoc hstep (fun scope' hscope' => ?_) (hold rfl)
    rcases List.mem_append.mp hscope' with hbefore | hafter
    · exact List.mem_append_left _ hbefore
    · exact List.mem_append_right _ (List.mem_cons_of_mem _ hafter)
  | accepted hrun =>
    exact h.snoc hstep (fun _ hscope => hscope) fun _ hrow' =>
      (accept_spec hrun).invitation hrow'
  | surroundings _ hinvitations _ => exact h.snoc hstep (fun _ hscope => hscope) (hold hinvitations)

theorem run_traced (run : Run (SecurityStep platform) .initial labels s) :
    Traced platform labels s := by
  induction run with
  | nil =>
    exact ⟨fun _ hscope => absurd hscope List.not_mem_nil,
      fun _ hrow => absurd hrow Table.not_mem_empty⟩
  | snoc hrun hstep ih => exact ih.step hrun hstep

/-- The step that raises a membership is the act of an owner, whose request began as one, or
accepts an invitation that an owner made, and who is still an owner. -/
inductive ByOwner (platform : Platform) (labels : List SecurityLabel) (s : SecurityState)
    (row' : MembershipRecord) : SecurityLabel → Prop
  | act {scope role} : scope.role = .owner → scope.organisationId = row'.organisationId →
      BeganAs platform labels s scope →
      ByOwner platform labels s row' (.acted scope (.changeRole row'.id role))
  | invitation {user rawToken row} : row ∈ s.tables.invitations →
      row.tokenHash = platform.tokenHash rawToken → row.state = .pending →
      row'.userId = user.id → row'.role = row.role → row'.organisationId = row.organisationId →
      InvitedOn platform labels s row →
      s.tables.Holds row.invitedByUserId row.organisationId .owner →
      ByOwner platform labels s row' (.accepted user rawToken)

/-- However the requests of the users interleave after the bootstrap, an active owner remains, and
who comes to be an owner or an administrator does by an owner. -/
theorem owners_guarded (run : Run (SecurityStep platform) .initial labels s) :
    (∀ record, s.tables.bootstrap = some record →
      ∃ userId, s.tables.Holds userId record.organisationId .owner) ∧
    ∀ label s', SecurityStep platform s label s' → label ≠ .bootstrapped →
      ∀ row' ∈ s'.tables.memberships, Raised s.tables row' →
        ByOwner platform labels s row' label := by
  constructor
  · refine run.invariant (fun s => s.tables.BootstrapOwned) ?_ fun _ _ _ h step => step.owned h
    intro record hrecord
    exact nomatch hrecord
  · intro label s' step hlabel row' hmem hraised
    have htraced := run_traced run
    have hnew : row' ∉ s.tables.memberships := by
      intro hold
      obtain ⟨hactive, hinactive⟩ := hraised.2 row' hold rfl rfl
      exact absurd (hinactive.symm.trans hactive) Bool.false_ne_true
    cases step with
    | bootstrapped => exact absurd rfl hlabel
    | began | ended => exact absurd hmem hnew
    | surroundings hmemberships => exact absurd (hmemberships ▸ hmem) hnew
    | acted hrun =>
      obtain ⟨role, rfl, howner, horganisation⟩ :=
        (MembershipAction.run_spec hrun).1.raised hmem hraised
      refine .act howner horganisation.symm (htraced.requests _ ?_)
      exact List.mem_append_right _ List.mem_cons_self
    | accepted hrun =>
      obtain ⟨row, hrow, htoken, hpending, huser, hrole, horganisation, hinviter⟩ :=
        (accept_spec hrun).raised hmem hraised
      exact .invitation hrow htoken hpending huser hrole horganisation
        (htraced.invitations row hrow) hinviter

end Runs

/-! ## A run -/

/-- A deployment with the tables of the immutable audit. -/
def samplePlatform : Platform where
  casefold := id
  tokenHash := id
  sqlLower := id
  auditAvailable := true
  preflight _ := .ok ()

def sampleCall : Call where
  now := 0
  newId n := String.ofList (List.replicate (n + 1) 'i')
  rawToken := "token"

/-- A user of the tables before the bootstrap. -/
def sampleUser (id : ℤ) (username : String) (isAdmin : Bool) : User where
  id := id
  username := username
  emailNormalized := none
  emailVerifiedAt := none
  isActive := true
  accountActive := true
  isAdmin := isAdmin

/-- The tables before the bootstrap, with three users. -/
def sampleTables : SecurityTables :=
  { SecurityTables.initial with
    users := [sampleUser 1 "a" false, sampleUser 2 "b" true, sampleUser 3 "c" false] }

/-- An owner, an administrator and an operator. -/
def bootstrappedTables : SecurityTables :=
  (bootstrap samplePlatform sampleCall "a" "organisation" "7700000000" 4 sampleTables).2

/-- The memberships of the three users. -/
def sampleMembership (n : ℕ) : String := sampleCall.newId (n + 1)

/-- The scope of a request of one of the three. -/
def sampleScope (userId : ℤ) (role : Role) : ActiveScope where
  userId := userId
  organisationId := sampleCall.newId 0
  participantId := some (sampleCall.newId 1)
  participantInn := some "7700000000"
  role := role

/-- A session without an organisation. -/
def sampleSession (userId : ℤ) : SessionRecord := ⟨userId, none, none, none⟩

theorem bootstrapped_run :
    Run (SecurityStep samplePlatform) .initial [.surroundings, .bootstrapped]
      ⟨bootstrappedTables, []⟩ := by
  have hrun : bootstrap samplePlatform sampleCall "a" "organisation" "7700000000" 4 sampleTables =
      (.ok (), bootstrappedTables) := Tx.eq_of_isOk (by decide +kernel)
  have hfirst : SecurityStep samplePlatform .initial .surroundings ⟨sampleTables, []⟩ :=
    .surroundings rfl rfl rfl
  exact (Run.single hfirst).snoc (.bootstrapped hrun)

theorem owner_began (requests : List ActiveScope) :
    SecurityStep samplePlatform ⟨bootstrappedTables, requests⟩ (.began (sampleScope 1 .owner))
      ⟨bootstrappedTables, sampleScope 1 .owner :: requests⟩ := by
  have hresolved : (bootstrappedTables.resolveSessionScope (sampleUser 1 "a" false)
      (sampleSession 1)).1 = .ok (sampleScope 1 .owner) := by decide +kernel
  exact .began (Prod.ext hresolved rfl)

/-- The owner makes an administrator of the operator. -/
theorem owners_guarded_sample :
    (∃ userId, bootstrappedTables.Holds userId (sampleCall.newId 0) .owner) ∧
      ∃ labels row', row'.role = .admin ∧ ByOwner samplePlatform labels
        ⟨bootstrappedTables, [sampleScope 1 .owner]⟩ row'
        (.acted (sampleScope 1 .owner) (.changeRole (sampleMembership 3) .admin)) := by
  have hguarded := owners_guarded (bootstrapped_run.snoc (owner_began []))
  have hrun := @Tx.eq_of_isOk _ _ (MembershipAction.run samplePlatform sampleCall
    (sampleScope 1 .owner) (.changeRole (sampleMembership 3) .admin)) bootstrappedTables
    (by decide +kernel)
  have hstep := @SecurityStep.acted samplePlatform _ _ [] [] _ _ _ hrun
  refine ⟨hguarded.1 ⟨_, 1, sampleCall.newId 1⟩ (by decide +kernel), _, _, ?_,
    hguarded.2 _ _ hstep (fun hlabel => nomatch hlabel)
      ⟨sampleMembership 3, sampleCall.newId 0, 3, .admin, true, some 1⟩ (by decide +kernel) ?_⟩
  · rfl
  · refine ⟨.inr rfl, ?_⟩
    decide +kernel

end Wbcz.Security

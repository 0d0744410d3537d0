import Wbcz.Lib.Transition
import Wbcz.Security.Rows

/-!
# The members of an organisation

`MembershipService` with its routes, and `BootstrapService.bootstrap`. A request resolves its
scope first and keeps it; what it does to the memberships of an organisation it does later, while
it holds the row of the organisation. There it reads the membership that it changes and counts
the owners, but not the membership of the acting user, which is the scope. Only the immutable
audit, once its tables are there, asks after the change for an active membership of the user.

A route commits after its procedure gave a value, and rolls back when it raised. A commit is one
step, since all who change the memberships of an organisation hold its row until they end.
-/

namespace Wbcz.Security

open Fallible (ensure found bind_eq_ok ensure_eq_ok found_eq_ok)
open Transition (Run)

/-- What the services use of Python and of the deployment. -/
structure Platform where
  /-- `str.casefold` -/
  casefold : String → String
  /-- `auth.token_hash` -/
  tokenHash : String → String
  /-- `lower` of the database -/
  sqlLower : String → String
  /-- `_m13_available` -/
  auditAvailable : Bool
  /-- `BootstrapService.preflight`, which reads tables that are not modelled -/
  preflight : String → Except PyError Unit

/-- A procedure runs at a moment, with ids and a token for what it makes. -/
structure Call where
  now : ℤ
  newId : ℕ → String
  rawToken : String

namespace Platform

variable (platform : Platform)

/-- `_normalise_username`. -/
def normaliseUsername (value : String) : String := platform.casefold (Text.strip value)

end Platform

/-! ## The checks of roles -/

/-- What an actor with a role may do to a membership with a role. -/
inductive RoleChange where
  | change (role : Role)
  | remove
  deriving DecidableEq, Repr

/-- The permission that a change asks for. -/
def RoleChange.permission : RoleChange → Permission
  | .change _ => .rolesManage
  | .remove => .membersManage

/-- The rules of `change_role` and `remove` about the roles. -/
def RoleChange.check (change : RoleChange) (actor row : Role) : Except PyError Unit :=
  match change with
  | .change role => do
    ensure (¬ (role = .owner ∧ actor ≠ .owner)) (authorizationError "only OWNER may grant OWNER")
    ensure (¬ (actor = .admin ∧ (row.Elevated ∨ role.Elevated)))
      (authorizationError "ADMIN may manage only OPERATOR/VIEWER roles")
  | .remove =>
    ensure (¬ (actor = .admin ∧ row.Elevated))
      (authorizationError "ADMIN may remove only OPERATOR/VIEWER memberships")

/-- The role of an actor permits a change of a membership with a role. -/
def RoleChange.Permitted (change : RoleChange) (actor row : Role) : Prop :=
  change.permission ∈ actor.permissions ∧ change.check actor row = .ok ()

/-! ## The services -/

section Services

variable (platform : Platform) (call : Call)

namespace SecurityTables

/-- `_owner_count`. -/
def ownerCount (s : SecurityTables) (organisationId : String) : ℕ :=
  s.memberships.rows.countP fun row =>
    row.organisationId = organisationId && decide (row.role = .owner) && row.isActive

/-- The sessions of a member are revoked. -/
def revokeSessions (s : SecurityTables) (userId : ℤ) (organisationId : String) (now : ℤ) :
    SecurityTables :=
  { s with sessions := s.sessions.map fun session =>
      if session.userId = userId ∧ session.activeOrganisationId = some organisationId ∧
          session.revokedAt = none then
        { session with revokedAt := some now }
      else session }

/-- The membership of an id, in an organisation. -/
def membershipIn (s : SecurityTables) (membershipId organisationId : String) :
    Option MembershipRecord :=
  (s.memberships.find? membershipId).filter fun row => row.organisationId = organisationId

/-- A membership has a role. -/
def setRole (s : SecurityTables) (membershipId : String) (role : Role) : SecurityTables :=
  { s with memberships :=
      s.memberships.modify membershipId (fun row => { row with role }) fun _ => rfl }

/-- A membership is over. -/
def deactivate (s : SecurityTables) (membershipId : String) : SecurityTables :=
  { s with memberships :=
      s.memberships.modify membershipId (fun row => { row with isActive := false }) fun _ => rfl }

theorem mem_setRole {s : SecurityTables} {membershipId : String} {role : Role}
    {row' : MembershipRecord} : row' ∈ (s.setRole membershipId role).memberships ↔
      (row' ∈ s.memberships ∧ row'.id ≠ membershipId) ∨
        ∃ row ∈ s.memberships, row.id = membershipId ∧ row' = { row with role } :=
  @Table.mem_modify _ _ _ _ _ _ _ (fun row : MembershipRecord => { row with role }) fun _ => rfl

theorem mem_deactivate {s : SecurityTables} {membershipId : String} {row' : MembershipRecord} :
    row' ∈ (s.deactivate membershipId).memberships ↔
      (row' ∈ s.memberships ∧ row'.id ≠ membershipId) ∨
        ∃ row ∈ s.memberships, row.id = membershipId ∧ row' = { row with isActive := false } :=
  @Table.mem_modify _ _ _ _ _ _ _
    (fun row : MembershipRecord => { row with isActive := false }) fun _ => rfl

end SecurityTables

/-- `change_role`. -/
def changeRole (actor : ActiveScope) (membershipId : String) (role : Role) : SecurityTx Unit := do
  Tx.ofExcept (actor.require .rolesManage)
  let s ← .get
  let row ← Tx.ofExcept (found (s.membershipIn membershipId actor.organisationId)
    ⟨.keyError, "'membership not found'"⟩)
  Tx.ofExcept (RoleChange.check (.change role) actor.role row.role)
  Tx.ofExcept (ensure (¬ (row.role = .owner ∧ role ≠ .owner ∧
      s.ownerCount actor.organisationId ≤ 1))
    (authorizationError "last OWNER cannot be demoted"))
  Tx.modify fun s =>
    (s.setRole row.id role).revokeSessions row.userId actor.organisationId call.now

/-- `remove`. -/
def remove (actor : ActiveScope) (membershipId : String) : SecurityTx Unit := do
  Tx.ofExcept (actor.require .membersManage)
  let s ← .get
  let row ← Tx.ofExcept (found (s.membershipIn membershipId actor.organisationId)
    ⟨.keyError, "'membership not found'"⟩)
  Tx.ofExcept (RoleChange.remove.check actor.role row.role)
  Tx.ofExcept (ensure (¬ (row.role = .owner ∧ s.ownerCount actor.organisationId ≤ 1))
    (authorizationError "last OWNER cannot be removed"))
  Tx.modify fun s => (s.deactivate row.id).revokeSessions row.userId actor.organisationId call.now

/-- The arguments of `create_invitation`. -/
structure InvitationRequest where
  inviteeUsername : Option String
  invitedUserId : Option ℤ
  invitedEmailNormalized : Option String
  role : Role
  participantId : Option String
  expiresAt : ℤ

/-- A row goes into the table of invitations. -/
def insertInvitation (row : InvitationRecord) : SecurityTx Unit :=
  Tx.lift fun s => do
    ensure (∀ other ∈ s.invitations.rows, other.tokenHash ≠ row.tokenHash) ⟨.integrityError, ""⟩
    let invitations ← found (s.invitations.insert row) ⟨.integrityError, ""⟩
    pure ((), { s with invitations })

/-- The checks of a participant that an invitation is for. -/
def checkInvitedParticipant (s : SecurityTables) (organisationId : String)
    (participantId : Option String) (e : PyError) : Except PyError Unit :=
  ensure (participantId = none ∨
    (s.participant organisationId participantId).any (·.verified) = true) e

/-- A text without spaces around it, folded, if anything is left of it. -/
def identityText (value : Option String) : Option String :=
  (value.map platform.normaliseUsername).filter (· ≠ "")

/-- The row of a new invitation. -/
def newInvitation (actor : ActiveScope) (request : InvitationRequest) : InvitationRecord where
  id := call.newId 0
  organisationId := actor.organisationId
  participantId := request.participantId
  tokenHash := platform.tokenHash call.rawToken
  inviteeUsername := identityText platform request.inviteeUsername
  invitedUserId := request.invitedUserId
  invitedEmailNormalized := identityText platform request.invitedEmailNormalized
  role := request.role
  state := .pending
  invitedByUserId := actor.userId
  acceptedByUserId := none
  expiresAt := request.expiresAt
  acceptedAt := none
  revokedAt := none

/-- The rules of `create_invitation` about the roles. -/
def checkInvitedRole (actor role : Role) : Except PyError Unit := do
  ensure (¬ (role = .owner ∧ actor ≠ .owner)) (authorizationError "only OWNER may invite OWNER")
  ensure (¬ (actor = .admin ∧ role.Elevated))
    (authorizationError "ADMIN may invite only OPERATOR/VIEWER")

/-- `create_invitation`. -/
def createInvitation (actor : ActiveScope) (request : InvitationRequest) : SecurityTx Unit := do
  Tx.ofExcept (actor.require .membersManage)
  Tx.ofExcept (checkInvitedRole actor.role request.role)
  let s ← .get
  Tx.ofExcept (checkInvitedParticipant s actor.organisationId request.participantId
    (authorizationError "participant scope unavailable"))
  Tx.ofExcept (ensure (∀ id, request.invitedUserId = some id → s.users.any (·.id = id) = true)
    (authorizationError "invited user not found"))
  let row := newInvitation platform call actor request
  Tx.ofExcept (ensure (¬ (row.inviteeUsername = none ∧ row.invitedUserId = none ∧
      row.invitedEmailNormalized = none))
    ⟨.valueError, "invitation must be bound to an intended identity"⟩)
  insertInvitation row

namespace SecurityTables

/-- An invitation is rewritten. -/
def modifyInvitation (s : SecurityTables) (invitationId : String)
    (f : InvitationRecord → InvitationRecord) (hf : ∀ row, (f row).key = row.key) :
    SecurityTables :=
  { s with invitations := s.invitations.modify invitationId f hf }

/-- The invitation of a token. -/
def invitationOf (s : SecurityTables) (tokenHash : String) : Option InvitationRecord :=
  s.invitations.rows.find? fun row => row.tokenHash = tokenHash

end SecurityTables

/-- `revoke_invitation`. -/
def revokeInvitation (actor : ActiveScope) (invitationId : String) : SecurityTx Unit := do
  Tx.ofExcept (actor.require .membersManage)
  let s ← .get
  let row ← Tx.ofExcept (found ((s.invitations.find? invitationId).filter
    fun row => row.organisationId = actor.organisationId) ⟨.keyError, "'invitation not found'"⟩)
  Tx.ofExcept (ensure (row.state = .pending)
    (authorizationError "invitation is not revocable"))
  Tx.ofExcept (ensure (¬ (actor.role = .admin ∧ row.role.Elevated))
    (authorizationError "ADMIN cannot revoke elevated invitation"))
  Tx.modify fun s => s.modifyInvitation row.id
    (fun row => { row with state := .revoked, revokedAt := some call.now }) fun _ => rfl

/-- What is raised about an invitation. -/
def invalidInvitation : PyError := authorizationError "invitation is invalid"

/-- The user is the one that an invitation is for. -/
def identityBound (user : User) (row : InvitationRecord) : Bool :=
  row.inviteeUsername.all (fun username =>
    platform.normaliseUsername user.username = platform.normaliseUsername username) &&
  row.invitedUserId.all (fun id => user.id = id) &&
  row.invitedEmailNormalized.all (fun email => user.emailVerifiedAt.isSome &&
    user.emailNormalized.any fun address =>
      address ≠ "" && platform.casefold address = platform.casefold email) &&
  !(row.inviteeUsername.isNone && row.invitedUserId.isNone && row.invitedEmailNormalized.isNone)

/-- The row of a user who joins. -/
def newMembership (id : String) (user : User) (row : InvitationRecord) : MembershipRecord where
  id := id
  organisationId := row.organisationId
  userId := user.id
  role := row.role
  isActive := true
  createdByUserId := some row.invitedByUserId

/-- The membership of a user who joins: the one that was over before, or a new one. -/
def join (user : User) (row : InvitationRecord) : SecurityTx Unit :=
  Tx.lift fun s =>
    match s.memberships.rows.find? fun member =>
        member.userId = user.id && member.organisationId = row.organisationId with
    | some existing => do
      ensure (existing.isActive = false) invalidInvitation
      let memberships := s.memberships.modify existing.id
        (fun member => newMembership member.id user row) fun _ => rfl
      pure ((), { s with memberships })
    | none => do
      let memberships ← found (s.memberships.insert (newMembership (call.newId 0) user row))
        ⟨.integrityError, ""⟩
      pure ((), { s with memberships })

/-- What `accept_invitation` asks of an invitation that is not expired. -/
def acceptable (s : SecurityTables) (user : User) (row : InvitationRecord) :
    Except PyError Unit := do
  ensure (identityBound platform user row = true) invalidInvitation
  let inviter ← found (s.membership row.invitedByUserId row.organisationId) invalidInvitation
  ensure (¬ (inviter.role = .admin ∧ row.role.Elevated)) invalidInvitation
  ensure inviter.role.Elevated invalidInvitation
  checkInvitedParticipant s row.organisationId row.participantId invalidInvitation

/-- `accept_invitation`; gives the organisation. -/
def acceptInvitation (user : User) (rawToken : String) : SecurityTx String := do
  let s ← .get
  let row ← Tx.ofExcept (found (s.invitationOf (platform.tokenHash rawToken)) invalidInvitation)
  Tx.ofExcept (ensure (row.state = .pending ∧ row.revokedAt = none) invalidInvitation)
  if row.expiresAt ≤ call.now then
    Tx.modify fun s => s.modifyInvitation row.id (fun row => { row with state := .expired })
      fun _ => rfl
    Tx.raise invalidInvitation
  Tx.ofExcept (acceptable platform s user row)
  join call user row
  Tx.modify fun s => s.modifyInvitation row.id (fun row =>
    { row with state := .accepted, acceptedByUserId := some user.id, acceptedAt := some call.now })
    fun _ => rfl
  pure row.organisationId

/-! ## The routes -/

/-- `AuditRepository.append` for a user in an organisation, as far as it looks at members. -/
def auditAppend (userId : ℤ) (organisationId : String) : SecurityTx Unit := do
  let s ← .get
  Tx.ofExcept (ensure (platform.auditAvailable = true →
      (s.membership userId organisationId).isSome = true)
    ⟨.auditError, "USER actor lacks active organisation membership"⟩)

/-- What a request with a scope may ask for. -/
inductive MembershipAction where
  | changeRole (membershipId : String) (role : Role)
  | remove (membershipId : String)
  | createInvitation (request : InvitationRequest)
  | revokeInvitation (invitationId : String)

/-- The service of a route. -/
def MembershipAction.service (actor : ActiveScope) : MembershipAction → SecurityTx Unit
  | .changeRole membershipId role => Security.changeRole call actor membershipId role
  | .remove membershipId => Security.remove call actor membershipId
  | .createInvitation request => Security.createInvitation platform call actor request
  | .revokeInvitation invitationId => Security.revokeInvitation call actor invitationId

/-- A route: its service, and the audit. -/
def MembershipAction.run (actor : ActiveScope) (action : MembershipAction) : SecurityTx Unit := do
  action.service platform call actor
  auditAppend platform actor.userId actor.organisationId

/-- The route `accept`. -/
def accept (user : User) (rawToken : String) : SecurityTx Unit := do
  let organisationId ← acceptInvitation platform call user rawToken
  auditAppend platform user.id organisationId

/-! ## The bootstrap -/

/-- The role of a user at the bootstrap. -/
def legacyRole (ownerId : ℤ) (user : User) : Role :=
  if user.id = ownerId then .owner else if user.isAdmin then .admin else .operator

/-- The memberships of the users there are. -/
def insertMembers (organisationId : String) (ownerId : ℤ) (table : Table MembershipRecord.key)
    (n : ℕ) : List User → Except PyError (Table MembershipRecord.key)
  | [] => .ok table
  | user :: users => do
    let table' ← found (table.insert {
      id := call.newId n, organisationId, userId := user.id, role := legacyRole ownerId user
      isActive := true, createdByUserId := some ownerId }) ⟨.integrityError, ""⟩
    insertMembers organisationId ownerId table' (n + 1) users

/-- The user who becomes the owner, and the users with this one. -/
def bootstrapOwner (s : SecurityTables) (username : String) (newUserId : ℤ) :
    Except PyError (User × List User) :=
  match s.users.find? fun user => platform.sqlLower user.username = username with
  | some user => do
    ensure (user.isActive = true ∧ user.accountActive = true)
      (authorizationError "bootstrap user is disabled")
    pure (user, s.users)
  | none =>
    let user := { id := newUserId, username, emailNormalized := none, emailVerifiedAt := none
                  isActive := true, accountActive := true, isAdmin := false }
    pure (user, s.users ++ [user])

/-- `bootstrap`. -/
def bootstrap (username organisationName participantInn : String) (newUserId : ℤ) :
    SecurityTx Unit :=
  Tx.lift fun s => do
    ensure (s.bootstrap = none) (authorizationError "security bootstrap already completed")
    ensure (∀ row ∈ s.memberships.rows, ¬ (row.role = .owner ∧ row.isActive = true))
      (authorizationError "security bootstrap already completed")
    platform.preflight participantInn
    let name := platform.normaliseUsername username
    ensure (name ≠ "") ⟨.valueError, "username is required"⟩
    ensure (∀ row ∈ s.participants, row.inn ≠ participantInn)
      (authorizationError "participant INN is already claimed")
    let (owner, users) ← bootstrapOwner platform s name newUserId
    ensure (Text.strip organisationName ≠ "") ⟨.valueError, "organisation name is required"⟩
    let members := users.filter User.isActive
    let memberships ← insertMembers call (call.newId 0) owner.id s.memberships 2 members
    ensure (members.any (·.id = owner.id) = true)
      (authorizationError "bootstrap OWNER membership was not created")
    pure ((), { s with
      users
      organisations := s.organisations ++ [⟨call.newId 0, true⟩]
      participants := s.participants ++ [⟨call.newId 1, call.newId 0, participantInn, true, true⟩]
      memberships
      sessions := s.sessions.map fun session =>
        { session with revokedAt := some (session.revokedAt.getD call.now) }
      bootstrap := some ⟨call.newId 0, owner.id, call.newId 1⟩ })

end Services

/-! ## The requests of all users -/

/-- The tables, and the scopes of the requests that have not ended. -/
structure SecurityState where
  tables : SecurityTables
  requests : List ActiveScope

def SecurityState.initial : SecurityState := ⟨.initial, []⟩

/-- What happens in a step. -/
inductive SecurityLabel where
  | bootstrapped
  | began (scope : ActiveScope)
  | acted (scope : ActiveScope) (action : MembershipAction)
  | ended (scope : ActiveScope)
  | accepted (user : User) (rawToken : String)
  | surroundings

/-- One step: a request resolves its scope, and commits what it does or ends without a commit. An
invitation is accepted by a user without a scope. The rest of the tables changes by itself. -/
inductive SecurityStep (platform : Platform) : SecurityState → SecurityLabel → SecurityState → Prop
  | bootstrapped {s s' requests call username organisationName participantInn newUserId} :
      bootstrap platform call username organisationName participantInn newUserId s = (.ok (), s') →
      SecurityStep platform ⟨s, requests⟩ .bootstrapped ⟨s', requests⟩
  | began {s requests user session session' scope} :
      s.resolveSessionScope user session = (.ok scope, session') →
      SecurityStep platform ⟨s, requests⟩ (.began scope) ⟨s, scope :: requests⟩
  | acted {s s' before after call scope action} :
      MembershipAction.run platform call scope action s = (.ok (), s') →
      SecurityStep platform ⟨s, before ++ scope :: after⟩ (.acted scope action)
        ⟨s', before ++ after⟩
  | ended {s before after scope} :
      SecurityStep platform ⟨s, before ++ scope :: after⟩ (.ended scope) ⟨s, before ++ after⟩
  | accepted {s s' requests call user rawToken} :
      accept platform call user rawToken s = (.ok (), s') →
      SecurityStep platform ⟨s, requests⟩ (.accepted user rawToken) ⟨s', requests⟩
  | surroundings {s s' requests} : s'.memberships = s.memberships →
      s'.invitations = s.invitations → s'.bootstrap = s.bootstrap →
      SecurityStep platform ⟨s, requests⟩ .surroundings ⟨s', requests⟩

/-! ## What a request does when it commits -/

section Commits

variable {platform : Platform} {call : Call} {s s' : SecurityTables} {scope : ActiveScope}

/-- What a request with a scope commits. -/
inductive Commits (platform : Platform) (s : SecurityTables) (scope : ActiveScope) :
    MembershipAction → SecurityTables → Prop
  | changed {row role now} : row ∈ s.memberships → row.organisationId = scope.organisationId →
      RoleChange.Permitted (.change role) scope.role row.role →
      (row.role = .owner → role ≠ .owner → 1 < s.ownerCount scope.organisationId) →
      Commits platform s scope (.changeRole row.id role)
        ((s.setRole row.id role).revokeSessions row.userId scope.organisationId now)
  | removed {row now} : row ∈ s.memberships → row.organisationId = scope.organisationId →
      RoleChange.Permitted .remove scope.role row.role →
      (row.role = .owner → 1 < s.ownerCount scope.organisationId) →
      Commits platform s scope (.remove row.id)
        ((s.deactivate row.id).revokeSessions row.userId scope.organisationId now)
  | invited {call request invitations} : .membersManage ∈ scope.permissions →
      checkInvitedRole scope.role request.role = .ok () →
      s.invitations.insert (newInvitation platform call scope request) = some invitations →
      Commits platform s scope (.createInvitation request) { s with invitations }
  | revoked {row now} : row ∈ s.invitations → .membersManage ∈ scope.permissions →
      Commits platform s scope (.revokeInvitation row.id) (s.modifyInvitation row.id
        (fun row => { row with state := .revoked, revokedAt := some now }) fun _ => rfl)

theorem membershipIn_spec {membershipId organisationId : String} {row : MembershipRecord}
    (h : s.membershipIn membershipId organisationId = some row) :
    row ∈ s.memberships ∧ row.id = membershipId ∧ row.organisationId = organisationId := by
  obtain ⟨hfound, horganisation⟩ := Option.filter_eq_some_iff.mp h
  exact ⟨Table.mem_of_find? hfound, Table.key_of_find? hfound, of_decide_eq_true horganisation⟩

theorem changeRole_spec {membershipId : String} {role : Role}
    (h : changeRole call scope membershipId role s = (.ok (), s')) :
    Commits platform s scope (.changeRole membershipId role) s' := by
  obtain ⟨_, hrequire, h⟩ := Tx.read_eq_ok h
  obtain ⟨row, hrow, h⟩ := Tx.read_eq_ok (Tx.get_eq_ok h)
  obtain ⟨_, hcheck, h⟩ := Tx.read_eq_ok h
  obtain ⟨_, hlast, h⟩ := Tx.read_eq_ok h
  cases h
  obtain ⟨hmem, rfl, horganisation⟩ := membershipIn_spec (found_eq_ok.mp hrow)
  refine .changed hmem horganisation ⟨ensure_eq_ok.mp hrequire, hcheck⟩ ?_
  intro howner hrole
  by_contra hfew
  exact ensure_eq_ok.mp hlast ⟨howner, hrole, Nat.le_of_not_lt hfew⟩

theorem remove_spec {membershipId : String}
    (h : remove call scope membershipId s = (.ok (), s')) :
    Commits platform s scope (.remove membershipId) s' := by
  obtain ⟨_, hrequire, h⟩ := Tx.read_eq_ok h
  obtain ⟨row, hrow, h⟩ := Tx.read_eq_ok (Tx.get_eq_ok h)
  obtain ⟨_, hcheck, h⟩ := Tx.read_eq_ok h
  obtain ⟨_, hlast, h⟩ := Tx.read_eq_ok h
  cases h
  obtain ⟨hmem, rfl, horganisation⟩ := membershipIn_spec (found_eq_ok.mp hrow)
  refine .removed hmem horganisation ⟨ensure_eq_ok.mp hrequire, hcheck⟩ ?_
  intro howner
  by_contra hfew
  exact ensure_eq_ok.mp hlast ⟨howner, Nat.le_of_not_lt hfew⟩

theorem createInvitation_spec {request : InvitationRequest}
    (h : createInvitation platform call scope request s = (.ok (), s')) :
    Commits platform s scope (.createInvitation request) s' := by
  obtain ⟨_, hrequire, h⟩ := Tx.read_eq_ok h
  obtain ⟨_, hrole, h⟩ := Tx.read_eq_ok h
  obtain ⟨_, _, h⟩ := Tx.read_eq_ok (Tx.get_eq_ok h)
  obtain ⟨_, _, h⟩ := Tx.read_eq_ok h
  obtain ⟨_, _, h⟩ := Tx.read_eq_ok h
  obtain ⟨_, _, h⟩ := bind_eq_ok.mp (Tx.lift_eq_ok.mp h)
  obtain ⟨invitations, hinsert, h⟩ := bind_eq_ok.mp h
  cases h
  exact .invited (ensure_eq_ok.mp hrequire) hrole (found_eq_ok.mp hinsert)

theorem revokeInvitation_spec {invitationId : String}
    (h : revokeInvitation call scope invitationId s = (.ok (), s')) :
    Commits platform s scope (.revokeInvitation invitationId) s' := by
  obtain ⟨_, hrequire, h⟩ := Tx.read_eq_ok h
  obtain ⟨row, hrow, h⟩ := Tx.read_eq_ok (Tx.get_eq_ok h)
  obtain ⟨_, _, h⟩ := Tx.read_eq_ok h
  obtain ⟨_, _, h⟩ := Tx.read_eq_ok h
  cases h
  obtain ⟨hfound, -⟩ := Option.filter_eq_some_iff.mp (found_eq_ok.mp hrow)
  have hid : row.id = invitationId := Table.key_of_find? hfound
  rw [← hid]
  exact .revoked (Table.mem_of_find? hfound) (ensure_eq_ok.mp hrequire)

theorem auditAppend_spec {userId : ℤ} {organisationId : String}
    (h : auditAppend platform userId organisationId s = (.ok (), s')) :
    s' = s ∧ (platform.auditAvailable = true →
      ∃ row, s.membership userId organisationId = some row) := by
  have h := Tx.get_eq_ok h
  obtain ⟨haudit, rfl⟩ := Prod.mk.inj h
  refine ⟨rfl, fun havailable => ?_⟩
  exact Option.isSome_iff_exists.mp (ensure_eq_ok.mp haudit havailable)

/-- What a route with a scope commits. -/
theorem MembershipAction.run_spec {action : MembershipAction}
    (h : action.run platform call scope s = (.ok (), s')) :
    Commits platform s scope action s' ∧ (platform.auditAvailable = true →
      ∃ row, s'.membership scope.userId scope.organisationId = some row) := by
  obtain ⟨⟨⟩, s₁, hservice, h⟩ := Tx.bind_eq_ok h
  obtain ⟨rfl, haudit⟩ := auditAppend_spec h
  refine ⟨?_, haudit⟩
  cases action with
  | changeRole => exact changeRole_spec hservice
  | remove => exact remove_spec hservice
  | createInvitation => exact createInvitation_spec hservice
  | revokeInvitation => exact revokeInvitation_spec hservice

/-- What the acceptance of an invitation commits. -/
inductive Accepts (platform : Platform) (s : SecurityTables) (user : User) (rawToken : String) :
    SecurityTables → Prop
  | mk {row inviterRole id now memberships} : row ∈ s.invitations →
      row.tokenHash = platform.tokenHash rawToken → row.state = .pending →
      s.Holds row.invitedByUserId row.organisationId inviterRole →
      (row.role.Elevated → inviterRole = .owner) →
      (s.memberships.insert (newMembership id user row) = some memberships ∨
        ∃ existing ∈ s.memberships, existing.isActive = false ∧
          memberships = s.memberships.modify existing.id
            (fun member => newMembership member.id user row) fun _ => rfl) →
      Accepts platform s user rawToken (({ s with memberships } : SecurityTables).modifyInvitation
        row.id (fun row => { row with
          state := .accepted, acceptedByUserId := some user.id, acceptedAt := some now })
        fun _ => rfl)

theorem acceptable_spec {user : User} {row : InvitationRecord}
    (h : acceptable platform s user row = .ok ()) :
    ∃ inviterRole, s.Holds row.invitedByUserId row.organisationId inviterRole ∧
      (row.role.Elevated → inviterRole = .owner) := by
  obtain ⟨_, _, h⟩ := bind_eq_ok.mp h
  obtain ⟨inviter, hinviter, h⟩ := bind_eq_ok.mp h
  obtain ⟨_, hadmin, h⟩ := bind_eq_ok.mp h
  obtain ⟨_, helevated, _⟩ := bind_eq_ok.mp h
  refine ⟨inviter.role, membership_spec (found_eq_ok.mp hinviter), fun hrole => ?_⟩
  rcases ensure_eq_ok.mp helevated with howner | hadmin'
  · exact howner
  · exact absurd ⟨hadmin', hrole⟩ (ensure_eq_ok.mp hadmin)

theorem join_spec {user : User} {row : InvitationRecord}
    (h : join call user row s = (.ok (), s')) :
    ∃ memberships, s' = { s with memberships } ∧
      (s.memberships.insert (newMembership (call.newId 0) user row) = some memberships ∨
        ∃ existing ∈ s.memberships, existing.isActive = false ∧
          memberships = s.memberships.modify existing.id
            (fun member => newMembership member.id user row) fun _ => rfl) := by
  have h := Tx.lift_eq_ok.mp h
  cases hfound : s.memberships.rows.find? fun member =>
      member.userId = user.id && member.organisationId = row.organisationId with
  | some existing =>
    simp only [hfound] at h
    obtain ⟨_, hinactive, h⟩ := bind_eq_ok.mp h
    cases h
    exact ⟨_, rfl, .inr ⟨existing, List.mem_of_find?_eq_some hfound,
      ensure_eq_ok.mp hinactive, rfl⟩⟩
  | none =>
    simp only [hfound] at h
    obtain ⟨memberships, hinsert, h⟩ := bind_eq_ok.mp h
    cases h
    exact ⟨memberships, rfl, .inl (found_eq_ok.mp hinsert)⟩

theorem accept_spec {user : User} {rawToken : String}
    (h : accept platform call user rawToken s = (.ok (), s')) :
    Accepts platform s user rawToken s' := by
  obtain ⟨organisationId, s₁, haccept, h⟩ := Tx.bind_eq_ok h
  obtain ⟨rfl, _⟩ := auditAppend_spec h
  obtain ⟨row, hrow, haccept⟩ := Tx.read_eq_ok (Tx.get_eq_ok haccept)
  obtain ⟨_, hstate, haccept⟩ := Tx.read_eq_ok haccept
  by_cases hexpired : row.expiresAt ≤ call.now
  · rw [if_pos hexpired] at haccept
    cases haccept
  · rw [if_neg hexpired] at haccept
    obtain ⟨⟨⟩, hacceptable, haccept⟩ := Tx.read_eq_ok haccept
    obtain ⟨⟨⟩, s₂, hjoin, haccept⟩ := Tx.bind_eq_ok haccept
    cases haccept
    obtain ⟨memberships, rfl, hjoined⟩ := join_spec hjoin
    obtain ⟨inviterRole, hinviter, helevated⟩ := acceptable_spec hacceptable
    have hrow := found_eq_ok.mp hrow
    exact .mk (List.mem_of_find?_eq_some hrow) (of_decide_eq_true (List.find?_some hrow :))
      (ensure_eq_ok.mp hstate).1 hinviter helevated hjoined

/-! ### The bootstrap -/

/-- The users become members, and the old members stay. -/
theorem insertMembers_spec {organisationId : String} {ownerId : ℤ} {users : List User} {n : ℕ}
    {table members : Table MembershipRecord.key}
    (h : insertMembers call organisationId ownerId table n users = .ok members) :
    (∀ row ∈ table, row ∈ members) ∧ ∀ user ∈ users, ∃ row ∈ members, row.userId = user.id ∧
      row.organisationId = organisationId ∧ row.role = legacyRole ownerId user ∧
      row.isActive = true := by
  induction users generalizing table n with
  | nil =>
    cases h
    exact ⟨fun _ hrow => hrow, fun _ huser => absurd huser List.not_mem_nil⟩
  | cons user users ih =>
    obtain ⟨table', hinsert, h⟩ := bind_eq_ok.mp h
    obtain ⟨hkept, hmembers⟩ := ih h
    have hinsert := found_eq_ok.mp hinsert
    constructor
    · intro row hrow
      exact hkept row ((Table.mem_insert hinsert).mpr (.inl hrow))
    · intro user' huser'
      rcases List.mem_cons.mp huser' with rfl | huser'
      · exact ⟨_, hkept _ ((Table.mem_insert hinsert).mpr (.inr rfl)), rfl, rfl, rfl, rfl⟩
      · exact hmembers user' huser'

/-- The bootstrap makes an owner. -/
theorem bootstrap_spec {username organisationName participantInn : String} {newUserId : ℤ}
    (h : bootstrap platform call username organisationName participantInn newUserId s =
      (.ok (), s')) :
    s.bootstrap = none ∧ s'.invitations = s.invitations ∧
      ∃ record, s'.bootstrap = some record ∧
        s'.Holds record.ownerUserId record.organisationId .owner := by
  have h := Tx.lift_eq_ok.mp h
  obtain ⟨_, hnone, h⟩ := bind_eq_ok.mp h
  obtain ⟨_, _, h⟩ := bind_eq_ok.mp h
  obtain ⟨_, _, h⟩ := bind_eq_ok.mp h
  obtain ⟨_, _, h⟩ := bind_eq_ok.mp h
  obtain ⟨_, _, h⟩ := bind_eq_ok.mp h
  obtain ⟨⟨owner, users⟩, _, h⟩ := bind_eq_ok.mp h
  obtain ⟨_, _, h⟩ := bind_eq_ok.mp h
  obtain ⟨members, hmembers, h⟩ := bind_eq_ok.mp h
  obtain ⟨_, howner, h⟩ := bind_eq_ok.mp h
  cases h
  obtain ⟨user, huser, hid⟩ := List.any_eq_true.mp (ensure_eq_ok.mp howner)
  have hid : user.id = owner.id := of_decide_eq_true hid
  obtain ⟨row, hrow, huserId, horganisation, hrole, hactive⟩ :=
    (insertMembers_spec hmembers).2 user huser
  refine ⟨ensure_eq_ok.mp hnone, rfl, _, rfl, row, hrow, huserId.trans hid,
    horganisation, ?_, hactive⟩
  rw [hrole, legacyRole, if_pos hid]

end Commits

end Wbcz.Security

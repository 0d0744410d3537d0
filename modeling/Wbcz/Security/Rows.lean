import Wbcz.Errors
import Wbcz.Lib.Fallible
import Wbcz.Lib.Instant
import Wbcz.Lib.Table
import Wbcz.Lib.Text
import Wbcz.Lib.Tx

/-!
# Organisations, members and their roles

The tables of `models/security.py`, the permissions of the roles, and the scope that a request
works in: `AuthorizationService.resolve_session_scope` reads it from the memberships of the user
once, at the start of the request.

A role is text in the database, with a check that it is one of the four. An organisation has one
membership for a user at most, so that the order of memberships does not matter.
-/

namespace Wbcz.Security

open Fallible (ensure found)

/-! ## Roles -/

inductive Role where
  | owner
  | admin
  | operator
  | viewer
  deriving DecidableEq, Repr

inductive Permission where
  | importsRead
  | importsCreate
  | controlRun
  | cisRead
  | referenceRead
  | documentsRead
  | documentsWrite
  | turnoverRead
  | turnoverWrite
  | aggregationRead
  | aggregationWrite
  | edoRead
  | edoWrite
  | suzRead
  | suzManage
  | wbRead
  | ozonRead
  | reportsCreate
  | reportsRead
  | reportsDownload
  | reportsDownloadSensitive
  | integrationsRead
  | integrationsManage
  | membersRead
  | membersManage
  | rolesManage
  | organisationManage
  | auditRead
  | printRead
  | printExecute
  | printTemplatesManage
  deriving DecidableEq, Repr

/-- `_READ`. -/
def readPermissions : List Permission :=
  [.importsRead, .cisRead, .referenceRead, .documentsRead, .turnoverRead, .aggregationRead,
    .edoRead, .suzRead, .wbRead, .ozonRead, .reportsRead, .reportsDownload, .integrationsRead,
    .membersRead, .printRead]

/-- `_OPERATOR`. -/
def operatorPermissions : List Permission :=
  readPermissions ++ [.importsCreate, .controlRun, .turnoverWrite, .documentsWrite,
    .aggregationWrite, .reportsCreate, .reportsDownloadSensitive, .printExecute]

/-- `_ADMIN`. -/
def adminPermissions : List Permission :=
  operatorPermissions ++ [.integrationsManage, .membersManage, .rolesManage, .auditRead,
    .printTemplatesManage]

/-- `set(Permission)`. -/
def allPermissions : List Permission :=
  adminPermissions ++ [.edoWrite, .suzManage, .organisationManage]

theorem mem_allPermissions (permission : Permission) : permission ∈ allPermissions := by
  cases permission <;> decide

/-- `ROLE_PERMISSIONS`. -/
def Role.permissions : Role → List Permission
  | .viewer => readPermissions
  | .operator => operatorPermissions
  | .admin => adminPermissions
  | .owner => allPermissions

/-- The roles that an administrator may not give and may not touch. -/
def Role.Elevated (role : Role) : Prop := role = .owner ∨ role = .admin

instance (role : Role) : Decidable role.Elevated := inferInstanceAs (Decidable (_ ∨ _))

/-- The roles that may manage members. -/
theorem elevated_of_manages {role : Role}
    (h : .rolesManage ∈ role.permissions ∨ .membersManage ∈ role.permissions) :
    role.Elevated := by
  cases role with
  | owner => exact .inl rfl
  | admin => exact .inr rfl
  | operator | viewer => exact absurd h (by decide)

/-! ## Rows -/

/-- What is read of a row of `organisations`. -/
structure OrganisationRecord where
  id : String
  isActive : Bool
  deriving DecidableEq

/-- What is read of a row of `participants`. -/
structure ParticipantRecord where
  id : String
  organisationId : String
  inn : String
  /-- `verification_state == "VERIFIED"` -/
  verified : Bool
  isActive : Bool
  deriving DecidableEq

/-- A row of `organisation_memberships`. -/
structure MembershipRecord where
  id : String
  organisationId : String
  userId : ℤ
  role : Role
  isActive : Bool
  createdByUserId : Option ℤ
  deriving DecidableEq

inductive InvitationState where
  | pending
  | accepted
  | revoked
  | expired
  deriving DecidableEq, Repr

/-- A row of `organisation_invitations`. -/
structure InvitationRecord where
  id : String
  organisationId : String
  participantId : Option String
  tokenHash : String
  inviteeUsername : Option String
  invitedUserId : Option ℤ
  invitedEmailNormalized : Option String
  role : Role
  state : InvitationState
  invitedByUserId : ℤ
  acceptedByUserId : Option ℤ
  expiresAt : ℤ
  acceptedAt : Option ℤ
  revokedAt : Option ℤ
  deriving DecidableEq

/-- What is read of a row of `users`. -/
structure User where
  id : ℤ
  username : String
  emailNormalized : Option String
  emailVerifiedAt : Option ℤ
  isActive : Bool
  /-- `account_state == "ACTIVE"` -/
  accountActive : Bool
  isAdmin : Bool
  deriving DecidableEq

/-- What is read of a row of `sessions`. -/
structure SessionRecord where
  userId : ℤ
  activeOrganisationId : Option String
  activeParticipantId : Option String
  revokedAt : Option ℤ
  deriving DecidableEq

/-- The row of `security_bootstrap`. -/
structure BootstrapRecord where
  organisationId : String
  ownerUserId : ℤ
  participantId : String
  deriving DecidableEq

def MembershipRecord.key (row : MembershipRecord) : String := row.id

def InvitationRecord.key (row : InvitationRecord) : String := row.id

/-- The tables. -/
structure SecurityTables where
  organisations : List OrganisationRecord
  participants : List ParticipantRecord
  users : List User
  sessions : List SessionRecord
  memberships : Table MembershipRecord.key
  invitations : Table InvitationRecord.key
  bootstrap : Option BootstrapRecord

/-- The tables as the migrations leave them, with the users that there were before. -/
def SecurityTables.initial : SecurityTables where
  organisations := []
  participants := []
  users := []
  sessions := []
  memberships := .empty
  invitations := .empty
  bootstrap := none

/-- A procedure over the tables. -/
abbrev SecurityTx := Tx PyError SecurityTables

def authorizationError (message : String) : PyError := ⟨.other "AuthorizationError", message⟩

def scopeRequired (message : String) : PyError := ⟨.other "ScopeRequired", message⟩

/-! ## The scope of a request -/

/-- `ActiveScope`; its permissions are those of its role. -/
structure ActiveScope where
  userId : ℤ
  organisationId : String
  participantId : Option String
  participantInn : Option String
  role : Role
  deriving DecidableEq

def ActiveScope.permissions (scope : ActiveScope) : List Permission := scope.role.permissions

/-- `AuthorizationService.require`. -/
def ActiveScope.require (scope : ActiveScope) (permission : Permission) : Except PyError Unit :=
  ensure (permission ∈ scope.permissions) (authorizationError "permission denied")

namespace SecurityTables

variable (s : SecurityTables)

/-- `AuthorizationService.membership`. -/
def membership (userId : ℤ) (organisationId : String) : Option MembershipRecord :=
  s.memberships.rows.find? fun row =>
    row.userId = userId && row.organisationId = organisationId && row.isActive

/-- `AuthorizationService.participant`. -/
def participant (organisationId : String) (participantId : Option String) :
    Option ParticipantRecord :=
  match participantId with
  | none => none
  | some id => if id = "" then none else s.participants.find? fun row =>
      row.id = id && row.organisationId = organisationId && row.isActive

/-- `AuthorizationService.participants`, of those that are verified. -/
def verifiedParticipants (organisationId : String) : List ParticipantRecord :=
  s.participants.filter fun row =>
    row.organisationId = organisationId && row.isActive && row.verified

/-- `AuthorizationService.available_memberships`. -/
def availableMemberships (userId : ℤ) : List MembershipRecord :=
  s.memberships.rows.filter fun row => row.userId = userId && row.isActive &&
    s.organisations.any fun org => org.id = row.organisationId && org.isActive

/-- The membership that a session is for; it is the one if there is no other. -/
def sessionMembership (user : User) : Tx PyError SessionRecord MembershipRecord := do
  let session ← .get
  match session.activeOrganisationId.filter (· ≠ "") with
  | some organisationId =>
    match (s.availableMemberships user.id).find? fun row => row.organisationId = organisationId with
    | some row => pure row
    | none => do
      Tx.modify fun session =>
        { session with activeOrganisationId := none, activeParticipantId := none }
      Tx.raise (scopeRequired "active organisation scope is no longer authorised")
  | none =>
    match s.availableMemberships user.id with
    | [] => Tx.raise (scopeRequired "active organisation scope is required")
    | [row] => do
      Tx.modify fun session => { session with activeOrganisationId := some row.organisationId }
      pure row
    | _ => Tx.raise (scopeRequired "select an active organisation")

/-- The participant that a session is for; it is the one if there is no other. -/
def sessionParticipant (organisationId : String) : Tx PyError SessionRecord
    (Option ParticipantRecord) := do
  let session ← .get
  let chosen := s.participant organisationId session.activeParticipantId
  let stale := session.activeParticipantId.any (· ≠ "") && !chosen.any (·.verified)
  if stale then
    Tx.modify fun session => { session with activeParticipantId := none }
  match (if stale then none else chosen), s.verifiedParticipants organisationId with
  | some row, _ => pure (some row)
  | none, [row] => do
    Tx.modify fun session => { session with activeParticipantId := some row.id }
    pure (some row)
  | none, _ => pure none

/-- `resolve_session_scope`, without `require_participant`. -/
def resolveSessionScope (user : User) : Tx PyError SessionRecord ActiveScope := do
  Tx.ofExcept (ensure (s.availableMemberships user.id ≠ [])
    (scopeRequired "active organisation scope is required"))
  let membership ← s.sessionMembership user
  let participant ← s.sessionParticipant membership.organisationId
  pure {
    userId := user.id
    organisationId := membership.organisationId
    participantId := participant.map ParticipantRecord.id
    participantInn := participant.map ParticipantRecord.inn
    role := membership.role }

/-- The user is an active member of the organisation, with the role. -/
def Holds (userId : ℤ) (organisationId : String) (role : Role) : Prop :=
  ∃ row ∈ s.memberships, row.userId = userId ∧ row.organisationId = organisationId ∧
    row.role = role ∧ row.isActive = true

end SecurityTables

section Scope

variable {s : SecurityTables}

theorem mem_availableMemberships {userId : ℤ} {row : MembershipRecord}
    (h : row ∈ s.availableMemberships userId) :
    row ∈ s.memberships ∧ row.userId = userId ∧ row.isActive = true := by
  obtain ⟨hmem, hrow⟩ := List.mem_filter.mp h
  simp only [Bool.and_eq_true, decide_eq_true_eq] at hrow
  exact ⟨hmem, hrow.1.1, hrow.1.2⟩

theorem membership_spec {userId : ℤ} {organisationId : String} {row : MembershipRecord}
    (h : s.membership userId organisationId = some row) :
    s.Holds userId organisationId row.role := by
  have hrow := List.find?_some h
  simp only [Bool.and_eq_true, decide_eq_true_eq] at hrow
  exact ⟨row, List.mem_of_find?_eq_some h, hrow.1.1, hrow.1.2, rfl, hrow.2⟩

theorem sessionMembership_spec {user : User} {session session' : SessionRecord}
    {row : MembershipRecord} (h : s.sessionMembership user session = (.ok row, session')) :
    row ∈ s.availableMemberships user.id := by
  obtain ⟨_, _, hget, h⟩ := Tx.bind_eq_ok h
  cases hget
  cases hactive : session.activeOrganisationId.filter (· ≠ "") with
  | some organisationId =>
    rw [hactive] at h
    cases hfound : (s.availableMemberships user.id).find?
        (fun row => row.organisationId = organisationId) with
    | some chosen =>
      simp only [hfound] at h
      cases h
      exact List.mem_of_find?_eq_some hfound
    | none =>
      simp only [hfound] at h
      cases h
  | none =>
    rw [hactive] at h
    match hrows : s.availableMemberships user.id with
    | [] =>
      simp only [hrows] at h
      cases h
    | [only] =>
      simp only [hrows] at h
      cases h
      exact List.mem_singleton.mpr rfl
    | _ :: _ :: _ =>
      simp only [hrows] at h
      cases h

/-- A scope is the one of an active membership. -/
theorem resolveSessionScope_spec {user : User} {session session' : SessionRecord}
    {scope : ActiveScope} (h : s.resolveSessionScope user session = (.ok scope, session')) :
    s.Holds scope.userId scope.organisationId scope.role := by
  obtain ⟨_, _, _, h⟩ := Tx.bind_eq_ok h
  obtain ⟨row, _, hmembership, h⟩ := Tx.bind_eq_ok h
  obtain ⟨participant, _, _, h⟩ := Tx.bind_eq_ok h
  cases h
  obtain ⟨hmem, huser, hactive⟩ := mem_availableMemberships (sessionMembership_spec hmembership)
  exact ⟨row, hmem, huser, rfl, rfl, hactive⟩

end Scope

end Wbcz.Security

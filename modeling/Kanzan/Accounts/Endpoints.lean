import Kanzan.Accounts.Rows
import Kanzan.Mail.Text

/-!
# Requests about members

Each request first reads and checks, and then makes a few writes; the writes are separate
statements, and nothing locks a row from the checks to the writes.
-/

namespace Kanzan.Accounts

/-- What the framework supplies: how addresses are compared and stored. -/
structure Site where
  lower : String → String
  normalizeEmail : String → String

/-- Who calls, in which tenant, and when. -/
structure Call where
  tenant : ℕ
  user : Option String
  now : ℕ
deriving DecidableEq

/-- When a temporary role ends, as the request says it. -/
inductive Expiry where
  | at (time : Option ℕ)
  /-- A number of hours, in microseconds. -/
  | duration (hours : Option Int)
  | missing
deriving DecidableEq

inductive Request where
  | createUser (email password : String) (role : Option ℕ)
  | destroyUser (user : String)
  /-- PATCH of a membership. -/
  | updateMembership (index : ℕ) (role : Option ℕ) (isActive : Option Bool)
  | invite (email : String) (role token : ℕ)
  /-- An anonymous caller registers with an address. -/
  | acceptInvitation (token : ℕ) (registration : Option String)
  | grantTempRole (user : String) (role : ℕ) (permissionIds : List ℕ) (expiry : Expiry)
  | revokeTempRole (user : String)
  | reactivate (user : String)
deriving DecidableEq

/-- One statement that writes. -/
inductive Write where
  | addUser (email : String)
  | addMember (membership : Membership)
  /-- `get_or_create`. -/
  | getOrAddMember (membership : Membership)
  | markAccepted (token now : ℕ)
  /-- All columns of a row, as they were read and changed. -/
  | saveMember (index : ℕ) (membership : Membership)
  | setActive (index : ℕ)
  | deactivate (tenant : ℕ) (user : String)
  | dropInvitations (tokens : List ℕ)
  | addInvitation (invitation : Invitation)
  | saveTemporaryRole (index : ℕ) (role : Option Role) (expiresAt : Option ℕ)
      (grantedBy : Option String) (grantedAt : Option ℕ)
  | setPermissions (index : ℕ) (permissions : List ℕ)
deriving DecidableEq

/-- A response that refuses, with what has been written before it. -/
structure Refusal where
  detail : String
  made : List Write := []
deriving DecidableEq

def refuse {α : Type} (detail : String) (made : List Write := []) : Except Refusal α :=
  .error { detail, made }

/-- The membership of the caller, as `_get_membership` finds it. -/
def Call.actor (call : Call) (db : Db) : Option Membership :=
  call.user.bind (db.membershipOf call.tenant)

/-- `IsAuthenticated`, and an active membership whose level is low enough. -/
def actorOf (call : Call) (level : ℕ) (refusal : String) (db : Db) : Except Refusal Membership :=
  match call.actor db with
  | none => refuse refusal
  | some actor => if actor.level call.now ≤ level then .ok actor else refuse refusal

def refused : String := "You do not have permission to perform this action."

/-- `create_user`. -/
def createUser (site : Site) (call : Call) (email password : String) (role : Option ℕ) (db : Db) :
    Except Refusal (List Write) := do
  let actor ← actorOf call 20 refused db
  let email := Mail.strip email
  if email = "" ∨ password = "" then refuse "Email and password are required."
  match role with
  | none => refuse "Role is required."
  | some id =>
    match db.roleOf call.tenant id with
    | none => refuse "Invalid role."
    | some role =>
      if role.hierarchyLevel < actor.level call.now then
        refuse "You cannot assign a role higher than your own."
      if db.users.contains email then
        if db.memberships.any (Membership.isOf call.tenant email) then
          refuse "A user with this email is already a member of this tenant."
        return [.addMember { user := email, tenant := call.tenant, role, invitedBy := call.user }]
      let user := site.normalizeEmail email
      return [.addUser user,
        .addMember { user, tenant := call.tenant, role, invitedBy := call.user }]

/-- `UserViewSet.perform_destroy`, for a user among the active members. -/
def destroyUser (call : Call) (user : String) (db : Db) : Except Refusal (List Write) := do
  let _ ← actorOf call 20 refused db
  if (db.membershipOf call.tenant user).isNone then refuse "Not found."
  return [.deactivate call.tenant user]

/-- `TenantMembershipViewSet.partial_update`. -/
def updateMembership (call : Call) (index : ℕ) (role : Option ℕ) (isActive : Option Bool) (db : Db) :
    Except Refusal (List Write) := do
  let actor ← actorOf call 20 refused db
  match db.memberships[index]? with
  | none => refuse "Not found."
  | some target =>
    if target.tenant ≠ call.tenant then refuse "Not found."
    if (role.any fun id => (db.roleOf call.tenant id).isNone) then
      refuse "Invalid pk - object does not exist."
    let newRole := role.bind (db.roleOf call.tenant)
    if target.level call.now < actor.level call.now then
      refuse "You cannot modify a membership that outranks your own."
    if (newRole.any fun role => role.hierarchyLevel < actor.level call.now) then
      refuse "You cannot assign a role higher than your own."
    return [.saveMember index
      { target with
        role := newRole.getD target.role
        isActive := isActive.getD target.isActive }]

/-- `INVITATION_EXPIRY_HOURS`, in microseconds. -/
def invitationExpiry : ℕ := 72 * 3600 * 1000000

/-- `InvitationViewSet.create`. -/
def invite (site : Site) (call : Call) (email : String) (roleId token : ℕ) (db : Db) :
    Except Refusal (List Write) := do
  let actor ← actorOf call 20 refused db
  match db.roleOf call.tenant roleId with
  | none => refuse "Invalid pk - object does not exist."
  | some role =>
    let address := site.lower (Mail.strip email)
    if (db.memberships.any fun row =>
        row.tenant == call.tenant && site.lower row.user == address && row.isActive) then
      refuse "This email is already a member of this tenant."
    let unaccepted := db.invitations.filter fun invitation =>
      invitation.tenant == call.tenant && site.lower invitation.email == address &&
        invitation.acceptedAt.isNone
    -- the validation deletes what has expired, whatever comes after it
    let dropped : Write := .dropInvitations
      ((unaccepted.filter fun invitation => invitation.expiresAt < call.now).map Invitation.token)
    if (unaccepted.any fun invitation => call.now ≤ invitation.expiresAt) then
      refuse "A pending invitation already exists for this email address." [dropped]
    match Billing.checkCanAddUser db.billing call.tenant (db.activeMembers call.tenant) with
    | .error detail => refuse detail [dropped]
    | .ok _ =>
      if role.hierarchyLevel < actor.level call.now then
        refuse "You cannot invite users with a higher role than your own." [dropped]
      return [dropped, .addInvitation
        { token, tenant := call.tenant, email := Mail.strip email, role, invitedBy := actor.user
          expiresAt := call.now + invitationExpiry }]

/-- `accept_invitation`. -/
def acceptInvitation (site : Site) (call : Call) (token : ℕ) (registration : Option String) (db : Db) :
    Except Refusal (List Write) :=
  match db.invitations.find? fun invitation => invitation.token == token with
  | none => refuse "Invalid invitation token."
  | some invitation =>
    if invitation.acceptedAt.isSome then refuse "Invitation has already been accepted."
    else if invitation.expiresAt < call.now then refuse "Invitation has expired."
    else
      let joins (user : String) : List Write :=
        [.getOrAddMember
            { user, tenant := invitation.tenant, role := invitation.role
              invitedBy := some invitation.invitedBy },
          .markAccepted token call.now]
      match call.user, registration with
      | some user, _ =>
        if site.lower user = site.lower invitation.email then .ok (joins user)
        else refuse "Invitation email does not match your account."
      | none, none => refuse "This field is required."
      | none, some email =>
        if db.users.contains email then refuse "user with this email address already exists."
        else
          let user := site.normalizeEmail email
          -- the account is made before the addresses are compared
          if site.lower user = site.lower invitation.email then .ok (.addUser user :: joins user)
          else refuse "Invitation email does not match your account." [.addUser user]

def activeMember (call : Call) (user : String) (db : Db) : Option (ℕ × Membership) :=
  let active : Membership → Bool := fun row => row.isOf call.tenant user && row.isActive
  match db.memberships.findIdx? active with
  | none => none
  | some index => (db.memberships[index]?).map (Prod.mk index)

def expiryOf (call : Call) : Expiry → Except Refusal ℕ
  | .at none => refuse "expires_at must be a valid ISO datetime."
  | .at (some time) =>
    if time ≤ call.now then refuse "Expiry must be in the future." else .ok time
  | .duration none => refuse "duration_hours must be a number."
  | .duration (some hours) =>
    if hours ≤ 0 ∨ 24 * 30 * 3600 * 1000000 < hours then
      refuse "duration_hours must be between 0 and 720 (30 days)."
    else .ok (call.now + hours.toNat)
  | .missing => refuse "Provide either duration_hours or expires_at."

/-- `grant_temp_role`. -/
def grantTempRole (call : Call) (user : String) (roleId : ℕ) (permissionIds : List ℕ)
    (expiry : Expiry) (db : Db) : Except Refusal (List Write) := do
  let actor ← actorOf call 10 "Only admins can grant temporary roles." db
  match activeMember call user db with
  | none => refuse "Target user is not an active member of this tenant."
  | some (index, target) =>
    if target.user = actor.user then refuse "You cannot grant a temporary role to yourself."
    match db.roleOf call.tenant roleId with
    | none => refuse "Role not found in this tenant."
    | some role =>
      if role.slug = "admin" then
        refuse "The Admin role cannot be granted as a temporary role."
      let permissions := permissionIds.filter role.permissions.contains
      if permissionIds ≠ [] ∧ permissions = [] then
        refuse "None of the supplied permissions belong to the chosen role."
      let expiresAt ← expiryOf call expiry
      return [.saveTemporaryRole index (some role) (some expiresAt) (some actor.user)
          (some call.now),
        .setPermissions index permissions]

/-- `revoke_temp_role`. -/
def revokeTempRole (call : Call) (user : String) (db : Db) : Except Refusal (List Write) := do
  let _ ← actorOf call 10 "Only admins can revoke temporary roles." db
  match activeMember call user db with
  | none => refuse "Target user is not an active member of this tenant."
  | some (index, target) =>
    if target.temporaryRole.isNone then refuse "This member does not have a temporary role."
    return [.saveTemporaryRole index none none none none, .setPermissions index []]

/-- `reactivate`. -/
def reactivate (call : Call) (user : String) (db : Db) : Except Refusal (List Write) := do
  let _ ← actorOf call 10 "Only admins can reactivate members." db
  match db.memberships.findIdx? (Membership.isOf call.tenant user) with
  | none => refuse "No membership found for that user in this tenant."
  | some index =>
    if (db.memberships[index]?).any Membership.isActive then refuse "This member is already active."
    return [.setActive index]

def check (site : Site) (call : Call) (request : Request) (db : Db) : Except Refusal (List Write) :=
  match request with
  | .createUser email password role => createUser site call email password role db
  | .destroyUser user => destroyUser call user db
  | .updateMembership index role isActive => updateMembership call index role isActive db
  | .invite email role token => invite site call email role token db
  | .acceptInvitation token registration => acceptInvitation site call token registration db
  | .grantTempRole user role permissionIds expiry =>
    grantTempRole call user role permissionIds expiry db
  | .revokeTempRole user => revokeTempRole call user db
  | .reactivate user => reactivate call user db

def commit (write : Write) (db : Db) : Except String Db :=
  match write with
  | .addUser email =>
    if db.users.contains email then .error "duplicate key value violates unique constraint"
    else .ok { db with users := db.users ++ [email] }
  | .addMember membership =>
    if db.memberships.any (Membership.isOf membership.tenant membership.user) then
      .error "duplicate key value violates unique constraint"
    else .ok { db with memberships := db.memberships ++ [membership] }
  | .getOrAddMember membership =>
    if db.memberships.any (Membership.isOf membership.tenant membership.user) then
      .error "You are already a member of this tenant."
    else .ok { db with memberships := db.memberships ++ [membership] }
  | .markAccepted token now =>
    .ok { db with
      invitations := db.invitations.map fun invitation =>
        if invitation.token = token then { invitation with acceptedAt := some now }
        else invitation }
  | .saveMember index membership =>
    .ok { db with
      memberships := db.memberships.modify index fun row =>
        { membership with temporaryPermissions := row.temporaryPermissions } }
  | .setActive index =>
    .ok { db with
      memberships := db.memberships.modify index fun row => { row with isActive := true } }
  | .deactivate tenant user =>
    .ok { db with
      memberships := db.memberships.map fun row =>
        if row.isOf tenant user then { row with isActive := false } else row }
  | .dropInvitations tokens =>
    .ok { db with
      invitations := db.invitations.filter fun invitation => !tokens.contains invitation.token }
  | .addInvitation invitation =>
    if (db.invitations.any fun other => other.token == invitation.token) then
      .error "duplicate key value violates unique constraint"
    else .ok { db with invitations := db.invitations ++ [invitation] }
  | .saveTemporaryRole index role expiresAt grantedBy grantedAt =>
    .ok { db with
      memberships := db.memberships.modify index fun row =>
        { row with
          temporaryRole := role
          temporaryRoleExpiresAt := expiresAt
          temporaryRoleGrantedBy := grantedBy
          temporaryRoleGrantedAt := grantedAt } }
  | .setPermissions index permissions =>
    .ok { db with
      memberships := db.memberships.modify index fun row =>
        { row with temporaryPermissions := permissions } }

def commitAll : List Write → Db → Db
  | [], db => db
  | write :: rest, db =>
    match commit write db with
    | .error _ => db
    | .ok db => commitAll rest db

def writesOf : Except Refusal (List Write) → List Write
  | .error refusal => refusal.made
  | .ok writes => writes

def perform (site : Site) (call : Call) (request : Request) (db : Db) : Db :=
  commitAll (writesOf (check site call request db)) db

end Kanzan.Accounts

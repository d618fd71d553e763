import Kanzan.Billing.Rows

/-!
# Members and roles

The tables of the accounts.  Users go by their email, which is unique; times are in microseconds.
-/

namespace Kanzan.Accounts

/-- A role of a tenant: the lower its level, the more it may. -/
structure Role where
  id : ℕ
  tenant : ℕ
  slug : String
  hierarchyLevel : ℕ := 100
  permissions : List ℕ := []
deriving DecidableEq

/-- A row of `TenantMembership`, with the roles that it names. -/
structure Membership where
  user : String
  tenant : ℕ
  role : Role
  isActive : Bool := true
  invitedBy : Option String := none
  temporaryRole : Option Role := none
  temporaryRoleExpiresAt : Option ℕ := none
  temporaryRoleGrantedBy : Option String := none
  temporaryRoleGrantedAt : Option ℕ := none
  temporaryPermissions : List ℕ := []
deriving DecidableEq

namespace Membership

/-- `effective_role`. -/
def effectiveRole (now : ℕ) (membership : Membership) : Role :=
  match membership.temporaryRole, membership.temporaryRoleExpiresAt with
  | some role, some expiresAt => if now < expiresAt then role else membership.role
  | _, _ => membership.role

def level (now : ℕ) (membership : Membership) : ℕ := (membership.effectiveRole now).hierarchyLevel

def isOf (tenant : ℕ) (user : String) (membership : Membership) : Bool :=
  membership.tenant == tenant && membership.user == user

end Membership

structure Invitation where
  token : ℕ
  tenant : ℕ
  email : String
  role : Role
  invitedBy : String
  acceptedAt : Option ℕ := none
  expiresAt : ℕ
deriving DecidableEq

/-- The tables.  The key of a membership is its index. -/
structure Db where
  users : List String := []
  roles : List Role := []
  memberships : List Membership := []
  invitations : List Invitation := []
  billing : Billing.Db

namespace Db

/-- `_get_membership`. -/
def membershipOf (db : Db) (tenant : ℕ) (user : String) : Option Membership :=
  db.memberships.find? fun row => row.isOf tenant user && row.isActive

def activeMembers (db : Db) (tenant : ℕ) : ℕ :=
  db.memberships.countP fun row => row.tenant == tenant && row.isActive

def roleOf (db : Db) (tenant id : ℕ) : Option Role :=
  db.roles.find? fun role => role.id == id && role.tenant == tenant

end Db

end Kanzan.Accounts

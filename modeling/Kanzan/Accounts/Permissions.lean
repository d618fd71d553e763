import Kanzan.Accounts.Rows

/-!
# Permission classes

The classes that let an action of a view through, and how far a curated temporary role carries: the
permissions that it was narrowed to are to be a hard limit.
-/

namespace Kanzan.Accounts

/-! ## Rows -/

structure Permission where
  id : ℕ
  codename : String

structure Department where
  id : ℕ
  tenant : ℕ
  isActive : Bool := true

structure DepartmentMembership where
  tenant : ℕ
  user : String
  department : ℕ

/-- An email of the hub that is assigned to somebody. -/
structure AssignedEmail where
  tenant : ℕ
  assignee : String

/-- The tables that the classes read. -/
structure Catalogue where
  memberships : List Membership := []
  permissions : List Permission := []
  departments : List Department := []
  departmentMemberships : List DepartmentMembership := []
  assignedEmails : List AssignedEmail := []

/-- What the classes read of a view. -/
structure View where
  permissionResource : Option String := none
  action : String

/-! ## Maps -/

/-- `ACTION_MAP`. -/
def actionMap : List (String × String) :=
  [("list", "view"), ("retrieve", "view"), ("create", "create"), ("update", "update"),
   ("partial_update", "update"), ("destroy", "delete"), ("comments", "view"),
   ("activity", "view"), ("timeline", "view"), ("assign", "update"), ("change_status", "update"),
   ("change_stage", "update"), ("change_priority", "update"), ("bulk_action", "update"),
   ("close", "update"), ("escalate", "update"), ("lookup", "view"), ("teammates", "view"),
   ("team_progress", "view"), ("render", "view"), ("set_default", "update"),
   ("all_members", "view"), ("online", "view"), ("workload", "view"), ("set_status", "update"),
   ("my_status", "view"), ("emails", "view"), ("send_email", "update"),
   ("send_creation_email", "update"), ("link_email", "update"), ("unlinked_emails", "view"),
   ("mark_all_read", "view"), ("record_view", "view"), ("remove_file", "update"),
   ("preview_file", "view"), ("submit_for_review", "update"), ("approve", "update"),
   ("reject", "update"), ("vote", "view"), ("context", "view"), ("attachment", "view"),
   ("add_contacts", "update"), ("remove_contacts", "update"), ("detail_with_cards", "view"),
   ("populate", "update"), ("move", "update"), ("reorder", "update"), ("links", "update"),
   ("delete_link", "update"), ("merge", "update"), ("split", "update"),
   ("apply_macro", "update"), ("search", "view"), ("watchers", "view"),
   ("remove_watcher", "update"), ("watch", "view"), ("time_entries", "view"),
   ("time_summary", "view"), ("time_entry_detail", "update"), ("restore", "update"),
   ("use", "view"), ("test", "update"), ("reset_failures", "update"), ("overdue", "view"),
   ("complete", "update"), ("cancel", "update"), ("reschedule", "update"), ("stats", "view"),
   ("react", "view"), ("mark_read", "view"), ("mark_all_read", "view"), ("unread_count", "view"),
   ("active_calls", "view"), ("call_stats", "view"), ("convert_to_ticket", "convert"),
   ("dismiss", "dismiss")]

/-- `ACTION_CODENAMES` of the hub. -/
def actionCodenames : List (String × String) :=
  [("list", "hub_email.view"), ("retrieve", "hub_email.view"), ("context", "hub_email.view"),
   ("attachment", "hub_email.view"), ("convert_to_ticket", "hub_email.convert"),
   ("dismiss", "hub_email.dismiss"), ("assign", "hub_email.assign"),
   ("reassign", "hub_email.reassign"), ("escalate", "hub_email.escalate"),
   ("note", "hub_email.note")]

/-- `AGENT_LEVEL_ACTIONS`. -/
def agentLevelActions : List String := ["claim", "transition"]

/-- `codename.split(".", 1)[1]`. -/
def verbOf (codename : String) : String :=
  String.ofList ((codename.toList.dropWhile fun c => c != '.').drop 1)

/-! ## Effective permissions -/

namespace Membership

variable (now : ℕ) (membership : Membership)

/-- `has_active_temporary_role`. -/
def hasActiveTemporaryRole : Bool :=
  membership.temporaryRole.isSome &&
    membership.temporaryRoleExpiresAt.any fun expiresAt => now < expiresAt

/-- Whether a temporary role is active that was narrowed to some permissions. -/
def isCurated : Bool :=
  membership.hasActiveTemporaryRole now && !membership.temporaryPermissions.isEmpty

/-- `get_effective_permissions_qs`. -/
def effectivePermissions : List ℕ :=
  match membership.temporaryRole with
  | some role =>
    if membership.isCurated now then
      role.permissions.filter fun id => membership.temporaryPermissions.contains id
    else (membership.effectiveRole now).permissions
  | none => (membership.effectiveRole now).permissions

end Membership

namespace Catalogue

variable (catalogue : Catalogue) (now : ℕ)

def named (ids : List ℕ) (codename : String) : Bool :=
  ids.any fun id => catalogue.permissions.any fun row => row.id == id && row.codename == codename

/-- `has_effective_permission`. -/
def hasEffectivePermission (membership : Membership) (codename : String) : Bool :=
  catalogue.named (membership.effectivePermissions now) codename

/-! ## Classes -/

/-- The hierarchy floor of `HasTenantPermission`. -/
def floor (verb : String) : ℕ :=
  if verb = "view" then 40 else if verb = "create" ∨ verb = "update" then 30 else 20

/-- `HasTenantPermission.has_permission`, of a member. -/
def hasTenantPermission (view : View) (membership : Membership) : Bool :=
  match view.permissionResource with
  | none => true
  | some resource =>
    match actionMap.lookup view.action with
    | none => false
    | some verb =>
      if membership.isCurated now then
        catalogue.hasEffectivePermission now membership (resource ++ "." ++ verb)
      else if catalogue.hasEffectivePermission now membership (resource ++ "." ++ verb) then true
      else membership.level now ≤ floor verb

/-- `can_access_inbox_hub`, of a member with the given level. -/
def canAccessInboxHub (level : ℕ) (user : String) (tenant : ℕ) : Bool :=
  if level ≤ 20 then true
  else if 30 < level then false
  else if catalogue.departmentMemberships.any fun row =>
      row.tenant == tenant && row.user == user && catalogue.departments.any fun department =>
        department.id == row.department && department.isActive then true
  else if !catalogue.departments.any fun department =>
      department.tenant == tenant && department.isActive then true
  else catalogue.assignedEmails.any fun email => email.tenant == tenant && email.assignee == user

def hubFloor (verb : String) : ℕ :=
  if verb = "view" then 40
  else if verb = "convert" ∨ verb = "reply" ∨ verb = "escalate" ∨ verb = "note" then 30
  else 20

/-- `HubEmailPermission.has_permission`, of a member. -/
def hubEmailPermission (view : View) (membership : Membership) : Bool :=
  if !catalogue.canAccessInboxHub (membership.level now) membership.user membership.tenant then false
  else if agentLevelActions.contains view.action then membership.level now ≤ 30
  else match actionCodenames.lookup view.action with
  | none => false
  | some codename =>
    if !(membership.effectivePermissions now).isEmpty then
      catalogue.hasEffectivePermission now membership codename
    else membership.level now ≤ hubFloor (verbOf codename)

end Catalogue

inductive PermissionClass where
  | hasTenantPermission
  | isTenantAdmin
  | isTenantAdminOrManager
  | isAgentOrAbove
  | hubEmailPermission
deriving DecidableEq

namespace Catalogue

variable (catalogue : Catalogue) (now : ℕ)

def permits (view : View) (membership : Membership) : PermissionClass → Bool
  | .hasTenantPermission => catalogue.hasTenantPermission now view membership
  | .isTenantAdmin => membership.level now ≤ 10
  | .isTenantAdminOrManager => membership.level now ≤ 20
  | .isAgentOrAbove => membership.level now ≤ 30
  | .hubEmailPermission => catalogue.hubEmailPermission now view membership

end Catalogue

/-- The codename that a class derives for an action; a class by level could only have the usual one. -/
def codenameOf (view : View) : PermissionClass → Option String
  | .hubEmailPermission => actionCodenames.lookup view.action
  | _ =>
    view.permissionResource.bind fun resource =>
      (actionMap.lookup view.action).map fun verb => resource ++ "." ++ verb

end Kanzan.Accounts

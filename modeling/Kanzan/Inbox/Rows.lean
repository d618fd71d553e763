import Kanzan.Agents.Availability
import Kanzan.Tickets.Assignment

/-!
# Hub emails and their store

The columns of the hub tables that the modelled services read or write, beside the tickets
of the tenant and the availability of its agents.
-/

namespace Kanzan.Inbox

open Sla Agents Tickets

/-!
## The lifecycle of a hub email

The states, the table of allowed transitions, and the two checks that the services make
against it.
-/

/-- `HubEmail.State`. -/
inductive State where
  | new
  | assigned
  | inProgress
  | pendingAgent
  | awaitingCustomer
  | escalated
  | resolved
  | convertedToTicket
  | dismissed
  deriving DecidableEq, Repr

namespace State

def value : State → String
  | .new => "new"
  | .assigned => "assigned"
  | .inProgress => "in_progress"
  | .pendingAgent => "pending_agent"
  | .awaitingCustomer => "awaiting_customer"
  | .escalated => "escalated"
  | .resolved => "resolved"
  | .convertedToTicket => "converted_to_ticket"
  | .dismissed => "dismissed"

def terminal : State → Bool
  | .convertedToTicket | .dismissed => true
  | _ => false

end State

/-- `ALLOWED_TRANSITIONS`. -/
def allowedTransitions : State → List State
  | .new => [.assigned, .escalated, .dismissed, .convertedToTicket]
  | .assigned =>
    [.new, .inProgress, .pendingAgent, .awaitingCustomer, .escalated, .resolved, .dismissed,
      .convertedToTicket]
  | .inProgress =>
    [.pendingAgent, .awaitingCustomer, .escalated, .resolved, .dismissed, .convertedToTicket]
  | .pendingAgent =>
    [.inProgress, .awaitingCustomer, .escalated, .resolved, .dismissed, .convertedToTicket]
  | .awaitingCustomer =>
    [.inProgress, .pendingAgent, .escalated, .resolved, .dismissed, .convertedToTicket]
  | .escalated => [.assigned, .inProgress, .resolved, .dismissed, .convertedToTicket]
  | .resolved => [.inProgress, .convertedToTicket, .dismissed]
  | .convertedToTicket => []
  | .dismissed => []

/-- `can_transition`. -/
def canTransition (oldState newState : State) : Bool :=
  if oldState = newState then false else (allowedTransitions oldState).contains newState

/-- `assert_transition`. -/
def assertTransition (oldState newState : State) : Except String Unit :=
  if canTransition oldState newState then .ok ()
  else .error ("Illegal HubEmail transition: " ++ oldState.value ++ " -> " ++ newState.value)

variable {oldState : State}

theorem assertTransition_eq_ok {newState : State} {result : Unit} :
    assertTransition oldState newState = .ok result ↔ canTransition oldState newState = true := by
  unfold assertTransition
  split
  · rename_i hallowed
    exact ⟨fun _ => hallowed, fun _ => rfl⟩
  · rename_i hforbidden
    exact ⟨nofun, fun hallowed => absurd hallowed hforbidden⟩

theorem canTransition_terminal (terminal : oldState.terminal = true) (newState : State) :
    canTransition oldState newState = false := by
  cases oldState with
  | convertedToTicket => simp [canTransition, allowedTransitions]
  | dismissed => simp [canTransition, allowedTransitions]
  | _ => cases terminal

theorem canTransition_new (allowed : canTransition oldState .new = true) :
    oldState = .assigned := by
  cases oldState with
  | assigned => rfl
  | _ => simp [canTransition, allowedTransitions] at allowed

/-! ## Configuration -/

/-- The `Department` row. -/
structure Department where
  pk : ℕ
  lead : ℕ
  deriving DecidableEq, Repr

/-- The `DepartmentMembership` row. -/
structure DepartmentMembership where
  department : ℕ
  user : ℕ
  deriving DecidableEq, Repr

/-- The tokens of a `strategy_code` that count; others are ignored. -/
inductive Strategy where
  | availabilityAware
  | leastLoaded
  | roundRobin
  deriving DecidableEq, Repr

/-- `HubEmail.Priority`. -/
inductive EmailPriority where
  | low
  | normal
  | high
  | urgent
  deriving DecidableEq, Repr

/-- The `HubEmailSLA` row. -/
structure HubEmailSLA where
  queue : Option ℕ := none
  department : Option ℕ := none
  priority : EmailPriority
  responseMinutes : ℕ
  resolutionMinutes : ℕ
  deriving DecidableEq, Repr

/-- A tenant with the configuration of its hub. -/
structure Hub where
  workspace : Workspace
  site : Site := {}
  /-- `hierarchy_level` of a role. -/
  roleLevel : ℕ → ℕ := fun role => role
  /-- `inbox_hub_auto_assign`, on without a settings row. -/
  inboxHubAutoAssign : Bool := true
  memberships : List DepartmentMembership := []
  queueDepartment : ℕ → Option Department := fun _ => none
  /-- The `strategy_code` of the `QueueRouting` row of a queue. -/
  queueRouting : ℕ → Option (List Strategy) := fun _ => none
  slas : List HubEmailSLA := []
  /-- `HUB_SLA_WARNING_MINUTES`. -/
  warningMinutes : ℕ := 15

/-! ## Rows -/

/-- The `HubEmail` row; `slaWarningSent` is a key of its classification data. -/
structure HubEmail where
  department : Option Department := none
  queue : Option ℕ := none
  assignee : Option ℕ := none
  state : State := .new
  priority : EmailPriority := .normal
  slaResponseDueAt : Option Instant := none
  slaResolutionDueAt : Option Instant := none
  responseBreached : Bool := false
  resolutionBreached : Bool := false
  firstRespondedAt : Option Instant := none
  firstAssignedAt : Option Instant := none
  escalationCount : ℕ := 0
  escalatedTo : Option ℕ := none
  convertedTicket : Option ℕ := none
  dismissedAt : Option Instant := none
  dismissedBy : Option ℕ := none
  dismissalReason : String := ""
  slaWarningSent : Bool := false
  updatedAt : Instant := 0
  deriving DecidableEq, Repr

/-- `HubEmailAssignment.Reason`, as far as it is written. -/
inductive AssignmentReason where
  | auto
  | manual
  | reassignment
  deriving DecidableEq, Repr

/-- The `HubEmailAssignment` row. -/
structure HubEmailAssignment where
  hubEmail : ℕ
  assignedTo : ℕ
  assignedBy : Option ℕ
  reason : AssignmentReason
  note : String := ""
  deriving DecidableEq, Repr

/-- The store; `emailIds` are in the order of creation, and so are the assignments. -/
structure HubDb where
  tickets : Db := {}
  agents : ℕ → Option AgentAvailability := fun _ => none
  agentIds : List ℕ := []
  emails : ℕ → Option HubEmail := fun _ => none
  emailIds : List ℕ := []
  assignments : List HubEmailAssignment := []

variable {other : ℕ}

namespace HubDb

/-- `HubEmail.unscoped.filter(pk=id).update(...)`, and `save(update_fields=...)` as well. -/
def updateEmail (db : HubDb) (id : ℕ) (edit : HubEmail → HubEmail) : HubDb :=
  { db with
    emails := fun other =>
      if other = id then (db.emails other).map edit else db.emails other }

/-- `AgentAvailability.unscoped.filter(user=user).update(...)`. -/
def updateAgent (db : HubDb) (user : ℕ) (edit : AgentAvailability → AgentAvailability) : HubDb :=
  { db with
    agents := fun other =>
      if other = user then (db.agents other).map edit else db.agents other }

/-- `HubEmailAssignment.unscoped.create`. -/
def createAssignment (db : HubDb) (row : HubEmailAssignment) : HubDb :=
  { db with assignments := db.assignments ++ [row] }

def state (db : HubDb) (id : ℕ) : Option State := (db.emails id).map HubEmail.state

section Laws

variable (db : HubDb) (id user : ℕ) (edit : HubEmail → HubEmail)
  (change : AgentAvailability → AgentAvailability) (row : HubEmailAssignment)

theorem updateEmail_of_row {he : HubEmail} (hrow : db.emails id = some he) :
    (db.updateEmail id edit).emails id = some (edit he) := by
  simp [updateEmail, hrow]

theorem updateEmail_of_ne (hother : other ≠ id) :
    (db.updateEmail id edit).emails other = db.emails other := by
  simp [updateEmail, hother]

theorem updateAgent_of_row {avail : AgentAvailability} (hrow : db.agents user = some avail) :
    (db.updateAgent user change).agents user = some (change avail) := by
  simp [updateAgent, hrow]

theorem updateAgent_of_ne (hother : other ≠ user) :
    (db.updateAgent user change).agents other = db.agents other := by
  simp [updateAgent, hother]

end Laws

end HubDb

end Kanzan.Inbox

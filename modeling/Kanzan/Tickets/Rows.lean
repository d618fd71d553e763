import Kanzan.Sla.BusinessHours
import Mathlib.Data.List.Sort

/-!
# Ticket rows and the store

The columns of the ticket tables that the modelled services read or write.  A
foreign key to a configuration row is that row itself, configuration being fixed
over a run; tickets, users, queues and other rows are referred to by number.
-/

namespace Kanzan.Tickets

open Sla

/-! ## Configuration -/

structure TicketStatus where
  pk : ℕ
  name : String
  slug : String
  order : ℕ
  isClosed : Bool := false
  isDefault : Bool := false
  pausesSla : Bool := false
  deriving DecidableEq, Repr

/-- `Ticket.Priority`; a macro may store any other text, which no save validates. -/
inductive Priority where
  | low
  | medium
  | high
  | urgent
  | other (value : String)
  deriving DecidableEq, Repr

structure PipelineStage where
  pk : ℕ
  pipeline : ℕ
  name : String
  isWon : Bool := false
  isLost : Bool := false
  deriving DecidableEq, Repr

structure Queue where
  pk : ℕ
  autoAssign : Bool := false
  defaultAssignee : Option ℕ := none
  deriving DecidableEq, Repr

structure SLAPolicy where
  pk : ℕ
  priority : Priority
  firstResponseMinutes : ℕ
  resolutionMinutes : ℕ
  businessHoursOnly : Bool := true
  isActive : Bool := true
  deriving DecidableEq, Repr

/-- `EscalationRule.Trigger`. -/
inductive Trigger where
  | responseBreach
  | resolutionBreach
  | idleTime
  deriving DecidableEq, Repr

/-- `EscalationRule.Action`. -/
inductive RuleAction where
  | assign
  | notify
  | changePriority
  deriving DecidableEq, Repr

structure EscalationRule where
  pk : ℕ
  slaPolicy : ℕ
  trigger : Trigger
  thresholdMinutes : ℕ
  action : RuleAction
  targetUser : Option ℕ := none
  targetRole : Option ℕ := none
  order : ℕ := 0
  deriving DecidableEq, Repr

structure TenantMembership where
  user : ℕ
  role : ℕ
  isActive : Bool := true
  deriving DecidableEq, Repr

/--
A tenant with the configuration tables of its ticket system.  The last three fields
are the uniqueness constraints of the database: one policy a priority, and the primary
keys of policies and rules.
-/
structure Workspace extends Tenant where
  statuses : List TicketStatus
  policies : List SLAPolicy := []
  escalationRules : List EscalationRule := []
  memberships : List TenantMembership := []
  policies_priority : (policies.map SLAPolicy.priority).Nodup := by decide
  policies_pk : (policies.map SLAPolicy.pk).Nodup := by decide
  escalationRules_pk : (escalationRules.map EscalationRule.pk).Nodup := by decide

variable {ws : Workspace} {status : TicketStatus} {priority : Priority} {policy : SLAPolicy}

namespace Workspace

/-- `TicketStatus.objects.filter(...).order_by("order").first()`. -/
def firstStatus (ws : Workspace) (filter : TicketStatus → Bool) : Option TicketStatus :=
  ((ws.statuses.filter filter).insertionSort (fun a b => a.order ≤ b.order)).head?

/-- `TicketStatus.objects.filter(slug=slug).first()`. -/
def statusBySlug (ws : Workspace) (slug : String) : Option TicketStatus :=
  ws.firstStatus (fun status => status.slug == slug)

def closedStatus (ws : Workspace) : Option TicketStatus :=
  ws.firstStatus (fun status => status.isClosed)

/-- The active policy for a priority; a tenant has at most one policy for each. -/
def policyFor (ws : Workspace) (priority : Priority) : Option SLAPolicy :=
  ws.policies.find? (fun policy => policy.priority == priority && policy.isActive)

def isActiveMember (ws : Workspace) (user : ℕ) : Bool :=
  ws.memberships.any (fun membership => membership.user == user && membership.isActive)

theorem policyFor_mem (found : ws.policyFor priority = some policy) : policy ∈ ws.policies :=
  List.mem_of_find?_eq_some found

theorem policyFor_isActive (found : ws.policyFor priority = some policy) :
    policy.isActive = true := by
  have hfound := List.find?_some found
  rw [Bool.and_eq_true] at hfound
  exact hfound.2

theorem policy_ext {first second : SLAPolicy} (hfirst : first ∈ ws.policies)
    (hsecond : second ∈ ws.policies) (h : first.pk = second.pk) : first = second :=
  List.inj_on_of_nodup_map ws.policies_pk hfirst hsecond h

theorem firstStatus_some {filter : TicketStatus → Bool}
    (found : ws.firstStatus filter = some status) :
    status ∈ ws.statuses ∧ filter status = true := by
  have hmem := List.mem_of_mem_head? found
  rw [List.mem_insertionSort, List.mem_filter] at hmem
  exact hmem

theorem statusBySlug_slug {slug : String} (found : ws.statusBySlug slug = some status) :
    status.slug = slug :=
  eq_of_beq (firstStatus_some found).2

theorem closedStatus_isClosed (found : ws.closedStatus = some status) : status.isClosed = true :=
  (firstStatus_some found).2

end Workspace

/-- `DEFAULT_STATUSES`, the rows seeded for every new tenant. -/
def defaultStatuses : List TicketStatus :=
  [ { pk := 0, name := "Open", slug := "open", order := 10, isDefault := true },
    { pk := 1, name := "In Progress", slug := "in-progress", order := 20 },
    { pk := 2, name := "Waiting", slug := "waiting", order := 30 },
    { pk := 3, name := "Resolved", slug := "resolved", order := 40 },
    { pk := 4, name := "Closed", slug := "closed", order := 50, isClosed := true } ]

/-- A tenant with the seeded statuses and nothing else configured. -/
def Workspace.seeded : Workspace where
  settings := none
  businessHours := none
  publicHolidays := []
  zones := fun _ => none
  statuses := defaultStatuses
  memberships := [{ user := 1, role := 30 }, { user := 2, role := 30 }]

/-- The waiting status, with the SLA clock paused in it. -/
def waitingStatus : TicketStatus :=
  { pk := 2, name := "Waiting", slug := "waiting", order := 30, pausesSla := true }

/-- An hour in business hours for tickets of medium priority. -/
def officePolicy : SLAPolicy :=
  { pk := 1, priority := .medium, firstResponseMinutes := 30, resolutionMinutes := 60 }

theorem officePolicy_priority : ([officePolicy].map SLAPolicy.priority).Nodup :=
  List.nodup_singleton _

theorem officePolicy_pk : ([officePolicy].map SLAPolicy.pk).Nodup := List.nodup_singleton _

/-- A tenant open from nine to five on weekdays, whose clocks pause while tickets wait. -/
def Workspace.office : Workspace :=
  { Workspace.seeded with
    settings := some
      { timezone := "UTC", businessHoursStart := ⟨9, 0, 0, 0⟩, businessHoursEnd := ⟨17, 0, 0, 0⟩
        businessDays := [0, 1, 2, 3, 4] }
    statuses := defaultStatuses.set 2 waitingStatus
    policies := [officePolicy]
    policies_priority := by decide
    policies_pk := by decide }

/-! ## Rows -/

/-- The `Ticket` row, without its primary key. -/
structure Ticket where
  status : TicketStatus
  priority : Priority := .medium
  queue : Option Queue := none
  assignee : Option ℕ := none
  assignedBy : Option ℕ := none
  assignedAt : Option Instant := none
  createdBy : ℕ
  createdAt : Instant
  updatedAt : Instant
  resolvedAt : Option Instant := none
  closedAt : Option Instant := none
  firstRespondedAt : Option Instant := none
  slaResponseBreached : Bool := false
  slaResolutionBreached : Bool := false
  tags : List String := []
  slaPolicy : Option ℕ := none
  slaFirstResponseDue : Option Instant := none
  slaResolutionDue : Option Instant := none
  slaPausedAt : Option Instant := none
  slaExtendedAt : Option Instant := none
  preWaitStatus : Option TicketStatus := none
  statusChangedAt : Option Instant := none
  statusChangedBy : Option ℕ := none
  escalationCount : ℕ := 0
  escalatedAt : Option Instant := none
  solvedAt : Option Instant := none
  autoCloseTaskId : Option ℕ := none
  mergedInto : Option ℕ := none
  pipelineStage : Option PipelineStage := none
  wonAt : Option Instant := none
  wonReason : Option String := none
  lostAt : Option Instant := none
  lostReason : Option String := none
  isDeleted : Bool := false
  deriving DecidableEq, Repr

/-- The `SLAPause` row. -/
structure SLAPause where
  pk : ℕ
  ticket : ℕ
  pausedAt : Instant
  resumedAt : Option Instant := none
  deriving DecidableEq, Repr

/-- The `TicketAssignment` row. -/
structure TicketAssignment where
  ticket : ℕ
  assignedTo : ℕ
  assignedBy : Option ℕ
  note : String
  deriving DecidableEq, Repr

/-- `TicketActivity.Event`, as far as the modelled services write it. -/
inductive ActivityEvent where
  | created
  | assigned
  | statusChanged
  | priorityChanged
  | commented
  | firstResponse
  | closed
  | reopened
  | escalated
  | escalatedManual
  | slaPaused
  | slaResumed
  | autoClosed
  | pipelineStageChanged
  deriving DecidableEq, Repr

/-- The `TicketActivity` row, with the `escalation_rule_id` of its metadata. -/
structure TicketActivity where
  ticket : ℕ
  event : ActivityEvent
  escalationRuleId : Option ℕ := none
  deriving DecidableEq, Repr

/-- One write of a different status into a ticket row. -/
structure StatusChange where
  ticket : ℕ
  old : TicketStatus
  new : TicketStatus
  deriving DecidableEq, Repr

/--
The store.  `onCommit` holds the auto-close hooks registered by the running
transaction.  `statusLog` and `ruleLog` are history: every status change written
to a row, and every execution of an escalation rule on a ticket.
-/
structure Db where
  tickets : ℕ → Option Ticket := fun _ => none
  ticketIds : List ℕ := []
  pauses : List SLAPause := []
  assignments : List TicketAssignment := []
  activities : List TicketActivity := []
  autoCloseTasks : List (ℕ × ℕ) := []
  onCommit : List ℕ := []
  statusLog : List StatusChange := []
  ruleLog : List (ℕ × ℕ) := []

/-- A tenant's tables before its first ticket. -/
def Db.empty : Db := {}

/-- `_create_ticket_activity`. -/
def Db.createTicketActivity (db : Db) (ticket : ℕ) (event : ActivityEvent) : Db :=
  { db with activities := db.activities ++ [{ ticket, event }] }

/-- `TicketAssignment.objects.create`. -/
def Db.createAssignment (db : Db) (row : TicketAssignment) : Db :=
  { db with assignments := db.assignments ++ [row] }

/-- `Ticket.unscoped.filter(pk=id).update(...)`, past the model and its receivers. -/
def Db.updateWhere (db : Db) (id : ℕ) (edit : Ticket → Ticket) : Db :=
  { db with
    tickets := fun other =>
      if other = id then (db.tickets other).map edit else db.tickets other }

/-- `Ticket.unscoped.filter(pk=id).update(auto_close_task_id=taskId)`. -/
def Db.setAutoCloseTaskId (db : Db) (id : ℕ) (taskId : Option ℕ) : Db :=
  db.updateWhere id fun row => { row with autoCloseTaskId := taskId }

/-- `TicketActivity.unscoped.filter(ticket=source).update(ticket=target)`. -/
def Db.moveActivities (db : Db) (source target : ℕ) : Db :=
  { db with
    activities := db.activities.map fun activity =>
      if activity.ticket = source then { activity with ticket := target } else activity }

def Db.assignmentsOf (db : Db) (ticket : ℕ) : List TicketAssignment :=
  db.assignments.filter (fun row => row.ticket == ticket)

def Db.pausesOf (db : Db) (ticket : ℕ) : List SLAPause :=
  db.pauses.filter (fun pause => pause.ticket == ticket)

/-- The rules whose execution the timeline of a ticket records, oldest first. -/
def Db.firedRuleIds (db : Db) (ticket : ℕ) : List ℕ :=
  (db.activities.filter (fun activity =>
    activity.ticket == ticket && activity.event == .escalated)).filterMap
      TicketActivity.escalationRuleId

def Db.openPauses (db : Db) (ticket : ℕ) : List SLAPause :=
  (db.pausesOf ticket).filter (fun pause => pause.resumedAt.isNone)

/-! ## Frame facts -/

section Frame

variable (db : Db) (ticket : ℕ) (event : ActivityEvent) (row : TicketAssignment)

@[simp]
theorem createTicketActivity_tickets :
    (db.createTicketActivity ticket event).tickets = db.tickets := rfl

@[simp]
theorem createTicketActivity_firedRuleIds (other : ℕ) :
    (db.createTicketActivity ticket event).firedRuleIds other = db.firedRuleIds other := by
  simp [Db.firedRuleIds, Db.createTicketActivity]

end Frame

end Kanzan.Tickets

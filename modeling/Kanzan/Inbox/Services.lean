import Kanzan.Agents.Services

/-!
# The services of the hub

Parking an email, and what is done with it afterwards.  Some services lock the row and read
it again; others check and change the instance that they are given, and write single columns
of it.
-/

namespace Kanzan.Inbox

open Sla Support Agents Tickets

/-- `DoesNotExist`. -/
def doesNotExist : String := "HubEmail matching query does not exist."

/-- The store together with the instance of an email that a service is given, and its key. -/
structure HubSession where
  db : HubDb
  id : ℕ
  hubEmail : HubEmail

/-- Columns are set on the instance and saved with `update_fields`. -/
def HubSession.save (s : HubSession) (write : HubEmail → HubEmail) : HubSession :=
  { s with db := s.db.updateEmail s.id write, hubEmail := write s.hubEmail }

/-!
## The assignment engine

Choosing an agent for a held email, assigning it to him, and draining the backlog when an
agent comes online.  The ids of users are numbers in the order of their texts.
-/

/-- `ACTIVE_STATES`. -/
def activeStates : List State :=
  [.new, .assigned, .inProgress, .pendingAgent, .awaitingCustomer, .escalated]

def countEmails (db : HubDb) (condition : HubEmail → Bool) : ℕ :=
  countRows db.emails db.emailIds condition

namespace HubEmail

def held (he : HubEmail) : Bool := he.assignee.isNone && he.state == .new

/-- What `assign_to` writes into the row. -/
def assign (clock : Clock) (user : ℕ) (he : HubEmail) : HubEmail :=
  { he with
    assignee := some user
    firstAssignedAt := he.firstAssignedAt.or (some clock.service)
    state := .assigned
    updatedAt := clock.autoNow }

end HubEmail

section Engine

variable (hub : Hub) (req : Request)

/-! ### Selection -/

/-- `_candidate_user_ids`, without the department. -/
def candidateUserIds (he : HubEmail) : List ℕ :=
  match he.department.or (he.queue.bind hub.queueDepartment) with
  | some department =>
    (hub.memberships.filter fun row => row.department == department.pk).map
      DepartmentMembership.user
  | none =>
    (hub.workspace.memberships.filter fun row =>
      row.isActive && hub.roleLevel row.role == 30).map TenantMembership.user

/-- `_strategy_chain`. -/
def strategyChain (he : HubEmail) : List Strategy :=
  (he.queue.bind hub.queueRouting).getD [.availabilityAware, .leastLoaded, .roundRobin]

/-- `sort_key`. -/
def sortKey (strategies : List Strategy) (db : HubDb) (user : ℕ) : List ℤ :=
  let avail := (db.agents user).getD {}
  let hubLoad := countEmails db fun he =>
    he.assignee == some user && activeStates.contains he.state
  let part : Strategy → ℤ
    | .availabilityAware => -(avail.remainingCapacity : ℤ)
    | .leastLoaded => hubLoad + avail.currentTicketCount
    | .roundRobin => lastPlace (db.assignments.map HubEmailAssignment.assignedTo) user
  strategies.map part ++ [(user : ℤ)]

/-- `_select_agent`. -/
def selectAgent (he : HubEmail) (db : HubDb) : Option ℕ :=
  let candidates := db.agentIds.filter fun user =>
    (candidateUserIds hub he).contains user &&
      (db.agents user).any (AgentAvailability.isAssignable hub.site req.clock.service)
  firstLeast (sortKey (strategyChain hub he) db) candidates

/-! ### Assignment -/

/-- What `assign_to` commits. -/
def commitAssignment (id user : ℕ) (reason : AssignmentReason) (db : HubDb) : HubDb :=
  ((db.updateEmail id (.assign req.clock user)).createAssignment
    { hubEmail := id, assignedTo := user, assignedBy := req.actor, reason }).updateAgent user
      (.takeOn req.clock.service)

/-- `assign_to`. -/
def assignTo (id user : ℕ) (reason : AssignmentReason) (requireOnline : Bool) (db : HubDb) :
    Option HubDb :=
  if !(db.emails id).any HubEmail.held then none
  else if requireOnline &&
      !(db.agents user).any (AgentAvailability.isAssignable hub.site req.clock.service) then none
  else some (commitAssignment req id user reason db)

/-- `AssignmentEngine.try_assign`, on an instance. -/
def tryAssign (id : ℕ) (he : HubEmail) (db : HubDb) : HubDb :=
  match selectAgent hub req he db with
  | none => db
  | some user => (assignTo hub req id user .auto true db).getD db

def inBacklog (user : ℕ) (he : HubEmail) : Bool :=
  he.held && (he.department.all fun department =>
    hub.memberships.any fun row => row.user == user && row.department == department.pk)

/-- The held emails that `drain_department_backlog` goes through. -/
def backlog (user limit : ℕ) (db : HubDb) : List ℕ :=
  (db.emailIds.filter fun id => (db.emails id).any (inBacklog hub user)).take limit

/-- `drain_department_backlog`; every email is assigned in a transaction of its own. -/
def drainDepartmentBacklog (user : ℕ) (db : HubDb) : HubDb :=
  match db.agents user with
  | none => db
  | some avail =>
    if !hub.inboxHubAutoAssign || !avail.isAssignable hub.site req.clock.service then db
    else
      (backlog hub user avail.remainingCapacity db).foldl
        (fun db id => (assignTo hub { req with actor := none } id user .auto true db).getD db) db

end Engine

/-! ## Parking -/

/-- What `RoutingEngine.evaluate` decides, apart from the category. -/
structure RoutingDecision where
  department : Option Department := none
  queue : Option ℕ := none
  priority : Option EmailPriority := none
  deriving DecidableEq, Repr

/-- `INSERT` of a new row. -/
def HubDb.insertEmail (db : HubDb) (id : ℕ) (he : HubEmail) : HubDb :=
  { db with
    emails := Function.update db.emails id (some he)
    emailIds := db.emailIds ++ [id] }

section Services

variable (hub : Hub) (req : Request)

/-- `park_email_in_hub`; an email parked before keeps its row. -/
def parkEmailInHub (id : ℕ) (db : HubDb) : HubDb :=
  if (db.emails id).isSome then db else db.insertEmail id { updatedAt := req.clock.autoNow }

/-- `RoutingEngine._apply`. -/
def applyRouting (decision : RoutingDecision) (he : HubEmail) : HubEmail :=
  { he with
    department := decision.department.or he.department
    queue := decision.queue.or he.queue
    priority := decision.priority.getD he.priority
    updatedAt := req.clock.autoNow }

/-- The policy that `_initialize_hub_sla` finds. -/
def slaFor (he : HubEmail) : Option HubEmailSLA :=
  let byQueue := he.queue.bind fun queue =>
    hub.slas.find? fun sla => sla.queue == some queue && sla.priority == he.priority
  byQueue.or (he.department.bind fun department =>
    hub.slas.find? fun sla => sla.department == some department.pk && sla.priority == he.priority)

/-- What `_initialize_hub_sla` writes under a policy. -/
def seedSla (sla : HubEmailSLA) (he : HubEmail) : HubEmail :=
  let due := fun minutes : ℕ => some (req.clock.service + minutes * minuteMicros)
  { he with
    slaResponseDueAt := due sla.responseMinutes
    slaResolutionDueAt := due sla.resolutionMinutes
    updatedAt := req.clock.autoNow }

/-- `_initialize_hub_sla`. -/
def initializeHubSla (s : HubSession) : HubSession :=
  match slaFor hub s.hubEmail with
  | none => s
  | some sla => s.save (seedSla req sla)

/-- `_post_park_hooks`, on the instance that was parked. -/
def postParkHooks (decision : RoutingDecision) (s : HubSession) : HubDb :=
  let s := initializeHubSla hub req (s.save (applyRouting req decision))
  if hub.inboxHubAutoAssign then tryAssign hub { req with actor := none } s.id s.hubEmail s.db
  else s.db

/-! ## Conversion -/

def HubEmail.existingTicket (he : HubEmail) : Option ℕ :=
  if he.state = .convertedToTicket then he.convertedTicket else none

/-- The check of `convert_to_ticket`, which lets a converted email through again. -/
def assertConvertible (state : State) : Except String Unit :=
  if state = .convertedToTicket then .ok () else assertTransition state .convertedToTicket

/-- What `convert_to_ticket` reads again under the lock. -/
def HubEmail.reread (locked he : HubEmail) : HubEmail :=
  { he with
    state := locked.state
    convertedTicket := locked.convertedTicket
    firstRespondedAt := locked.firstRespondedAt }

/-- What `convert_to_ticket` writes. -/
def HubEmail.convert (clock : Clock) (ticket : ℕ) (he : HubEmail) : HubEmail :=
  { he with
    state := .convertedToTicket
    convertedTicket := some ticket
    firstRespondedAt := he.firstRespondedAt.or (some clock.service)
    updatedAt := clock.autoNow }

def emailTicketAgent (overrides : NewTicket) (db : HubDb) : Option ℕ :=
  if overrides.assignee.isNone &&
      hub.workspace.settings.any (fun settings => settings.autoAssignInboundEmailTickets) then
    pickEmailAgent hub db
  else none

def HubDb.chargeAgent (db : HubDb) (now : Instant) (agent : Option ℕ) : HubDb :=
  match agent with
  | none => db
  | some user => db.updateAgent user (.takeOn now)

/-- `_create_ticket_from_email`, with the workload of the agent who is given the ticket. -/
def createHubTicket (creator : ℕ) (overrides : NewTicket) (db : HubDb) :
    Except String (ℕ × HubDb) :=
  let agent := emailTicketAgent hub overrides db
  (createTicketFromEmail hub.workspace req creator overrides agent db.tickets).map fun created =>
    (created.id, HubDb.chargeAgent { db with tickets := created.db } req.clock.service agent)

/-- `convert_to_ticket`, on overrides that `build_ticket_overrides` accepts. -/
def convertToTicket (creator : ℕ) (overrides : NewTicket) (s : HubSession) :
    Except String (ℕ × HubSession) :=
  match s.db.emails s.id with
  | none => .error doesNotExist
  | some locked =>
    let s := { s with hubEmail := HubEmail.reread locked s.hubEmail }
    match locked.existingTicket with
    | some ticket => .ok (ticket, s)
    | none =>
      (assertConvertible locked.state).bind fun _ =>
        (createHubTicket hub req creator overrides s.db).map fun created =>
          (created.1, HubSession.save { s with db := created.2 } (.convert req.clock created.1))

/-! ## Dismissal, transitions and escalation -/

/-- What `dismiss_hub_email` writes. -/
def HubEmail.dismiss (req : Request) (reason : String) (he : HubEmail) : HubEmail :=
  { he with
    state := .dismissed
    dismissedAt := some req.clock.service
    dismissedBy := req.actor
    dismissalReason := String.ofList (reason.toList.take 255)
    updatedAt := req.clock.autoNow }

/-- `dismiss_hub_email`. -/
def dismissHubEmail (reason : String) (s : HubSession) : Except String HubSession :=
  match s.db.emails s.id with
  | none => .error doesNotExist
  | some locked =>
    let s := { s with hubEmail := { s.hubEmail with state := locked.state } }
    if locked.state = .dismissed then .ok s
    else (assertTransition locked.state .dismissed).map fun _ => s.save (.dismiss req reason)

/-- `RESPONSE_STATES`. -/
def responseStates : List State := [.inProgress, .pendingAgent, .awaitingCustomer, .resolved]

/-- What `transition_hub_email` writes; `responds` says whether it is the first response. -/
def HubEmail.transition (clock : Clock) (newState : State) (responds : Bool) (he : HubEmail) :
    HubEmail :=
  { he with
    state := newState
    firstRespondedAt := if responds then some clock.service else he.firstRespondedAt
    updatedAt := clock.autoNow }

/-- `transition_hub_email`, which checks the state of the instance. -/
def transitionHubEmail (newState : State) (s : HubSession) : Except String HubSession :=
  let responds := responseStates.contains newState && s.hubEmail.firstRespondedAt.isNone
  (assertTransition s.hubEmail.state newState).map fun _ =>
    s.save (.transition req.clock newState responds)

/-- What `escalate_hub_email` writes. -/
def HubEmail.escalate (clock : Clock) (count : ℕ) (target : Option ℕ) (he : HubEmail) : HubEmail :=
  { he with
    escalationCount := count
    state := .escalated
    escalatedTo := target.or he.escalatedTo
    updatedAt := clock.autoNow }

/-- `escalate_hub_email`, which checks the state of the instance. -/
def escalateHubEmail (s : HubSession) : HubSession :=
  if canTransition s.hubEmail.state .escalated then
    s.save (.escalate req.clock (s.hubEmail.escalationCount + 1)
      (s.hubEmail.department.map Department.lead))
  else s

/-! ## Reassignment -/

/-- What `reassign_hub_email` writes. -/
def HubEmail.reassign (req : Request) (newUser : ℕ) (he : HubEmail) : HubEmail :=
  { he with
    assignee := some newUser
    firstAssignedAt := he.firstAssignedAt.or (some req.clock.service)
    state := if he.state = .new then .assigned else he.state
    firstRespondedAt :=
      if req.actor = some newUser then he.firstRespondedAt.or (some req.clock.service)
      else he.firstRespondedAt
    updatedAt := req.clock.autoNow }

def HubDb.moveLoad (db : HubDb) (now : Instant) (oldUser : Option ℕ) (newUser : ℕ) : HubDb :=
  if oldUser = some newUser then db.updateAgent newUser (.touch now)
  else
    let db := db.updateAgent newUser (.takeOn now)
    match oldUser with
    | none => db
    | some user => db.updateAgent user .giveUp

/-- `reassign_hub_email`. -/
def reassignHubEmail (id newUser : ℕ) (note : String) (db : HubDb) : Except String HubDb :=
  if !hub.workspace.isActiveMember newUser then
    .error "Cannot assign to a user who is not an active member of this tenant."
  else
    match db.emails id with
    | none => .error doesNotExist
    | some he =>
      if he.state.terminal then
        .error ("Cannot reassign an email in terminal state '" ++ he.state.value ++ "'.")
      else
        let reason : AssignmentReason :=
          if he.assignee.any fun user => user != newUser then .reassignment else .manual
        let db := (db.updateEmail id (.reassign req newUser)).createAssignment
          { hubEmail := id, assignedTo := newUser, assignedBy := req.actor, reason, note }
        .ok (db.moveLoad req.clock.service he.assignee newUser)

/-! ## The deadline sweep -/

/-- `ACTIVE_SLA_STATES`. -/
def activeSlaStates : List State := [.new, .assigned, .inProgress, .pendingAgent, .escalated]

/-- Whether `check_hub_sla_breaches` selects an email. -/
def HubEmail.sweeps (he : HubEmail) : Bool :=
  activeSlaStates.contains he.state && he.slaResponseDueAt.isSome

def HubEmail.responseOverdue (now : Instant) (he : HubEmail) : Bool :=
  !he.responseBreached && he.firstRespondedAt.isNone &&
    he.slaResponseDueAt.any fun due => decide (due ≤ now)

def HubEmail.responseNear (now : Instant) (he : HubEmail) : Bool :=
  !he.responseBreached && he.firstRespondedAt.isNone && !he.slaWarningSent &&
    he.slaResponseDueAt.any fun due =>
      decide (now < due) && decide (due - now ≤ hub.warningMinutes * minuteMicros)

def HubEmail.resolutionOverdue (now : Instant) (he : HubEmail) : Bool :=
  !he.resolutionBreached && he.slaResolutionDueAt.any fun due => decide (due ≤ now)

/-- The breach of the response deadline is flagged, which calls for an escalation. -/
def flagResponse (now : Instant) (s : HubSession) : HubSession :=
  s.save fun he => { he with responseBreached := true, updatedAt := now }

def markWarning (now : Instant) (s : HubSession) : HubSession :=
  s.save fun he => { he with slaWarningSent := true, updatedAt := now }

def flagResolution (now : Instant) (s : HubSession) : HubSession :=
  { s with
    db := s.db.updateEmail s.id fun he => { he with resolutionBreached := true, updatedAt := now } }

/-- One email in `check_hub_sla_breaches`. -/
def checkHubSlaBreaches (now : Instant) (s : HubSession) : HubSession :=
  let s :=
    if s.hubEmail.responseOverdue now then escalateHubEmail req (flagResponse now s)
    else if s.hubEmail.responseNear hub now then markWarning now s
    else s
  if s.hubEmail.resolutionOverdue now then flagResolution now s else s

end Services

end Kanzan.Inbox

import Kanzan.Tickets.Status

/-!
# Creation, assignment and the remaining edits

The three ways a ticket comes into being, the operations that write its assignee,
escalation with its deadline extension, and the edits of single fields.  Choosing
an agent depends on the availability tables; the chosen agent is an argument.
-/

namespace Kanzan.Tickets

open Sla

/-- `TicketAssignment.objects.create` for the ticket at hand. -/
def Session.recordAssignment (s : Session) (assignedTo : ℕ) (assignedBy : Option ℕ)
    (note : String) : Session :=
  { s with db := s.db.createAssignment { ticket := s.id, assignedTo, assignedBy, note } }

section Operations

variable (ws : Workspace) (req : Request)

/-! ## Creation -/

/-- `initialize_sla`. -/
def initializeSla (s : Session) : Session :=
  match ws.policyFor s.ticket.priority with
  | none => s
  | some policy =>
    let now := req.clock.service
    let due := fun minutes : ℕ => some (addBusinessMinutes now minutes ws.toTenant)
    save ws req.clock [.slaPolicy, .slaFirstResponseDue, .slaResolutionDue, .updatedAt]
      (s.modify fun ticket =>
        { ticket with
          slaPolicy := some policy.pk
          slaFirstResponseDue := due policy.firstResponseMinutes
          slaResolutionDue := due policy.resolutionMinutes })

/-- `INSERT` of a new row.  The receivers do nothing for a ticket just created. -/
def Db.insertTicket (db : Db) (id : ℕ) (ticket : Ticket) : Db :=
  { db with
    tickets := Function.update db.tickets id (some ticket)
    ticketIds := db.ticketIds ++ [id] }

/-- The payload of a new ticket; `id` is the key drawn for its row. -/
structure NewTicket where
  id : ℕ
  status : Option TicketStatus := none
  priority : Priority := .medium
  queue : Option Queue := none
  assignee : Option ℕ := none
  tags : List String := []
  deriving DecidableEq, Repr

def NewTicket.row (data : NewTicket) (status : TicketStatus) (createdBy : ℕ) (now : Instant) :
    Ticket :=
  { status
    priority := data.priority
    queue := data.queue
    assignee := data.assignee
    tags := data.tags
    createdBy
    createdAt := now
    updatedAt := now }

/-- A fresh key is inserted and the session continues with the new instance. -/
def Db.create (db : Db) (id : ℕ) (ticket : Ticket) : Except String Session :=
  if (db.tickets id).isSome then .error "duplicate key value violates unique constraint"
  else .ok { db := db.insertTicket id ticket, id, ticket }

/-- The assignee of a ticket created through the API: the chosen one, else the
queue's default, else the creator. -/
def creationAssignee (data : NewTicket) (creator : ℕ) : ℕ :=
  match data.assignee with
  | some assignee => assignee
  | none =>
    match data.queue with
    | none => creator
    | some queue => if queue.autoAssign then queue.defaultAssignee.getD creator else creator

/-- `TicketCreateSerializer.create`, with the validation of its assignee and the
timeline entry of the view. -/
def createTicket (creator : ℕ) (data : NewTicket) (db : Db) : Except String Session :=
  if data.assignee.any (fun assignee => !ws.isActiveMember assignee) then
    .error "The selected assignee is not an active member of this tenant."
  else
    match data.status.or (ws.firstStatus (fun status => status.isDefault)) with
    | none => .error "No default status configured for this tenant."
    | some status =>
      let data := { data with assignee := some (creationAssignee data creator) }
      (db.create data.id (data.row status creator req.clock.autoNow)).map fun s =>
        (initializeSla ws req s).log .created

def defaultStatus : Option TicketStatus :=
  (ws.firstStatus (fun status => status.isDefault)).or (ws.firstStatus (fun _ => true))

/-- `auto_assign_email_ticket`, with the agent that `pick_email_agent` returns. -/
def autoAssignEmailTicket (agent : Option ℕ) (s : Session) : Session :=
  match s.ticket.assignee, agent with
  | none, some user =>
    let s := save ws req.clock [.assignee, .updatedAt]
      (s.modify fun ticket => { ticket with assignee := some user })
    s.recordAssignment user none "Auto-assigned from inbound email (load + fairness)."
  | _, _ => s

/-- `_maybe_auto_assign`. -/
def maybeAutoAssign (agent : Option ℕ) (s : Session) : Session :=
  match ws.settings with
  | none => s
  | some settings =>
    if settings.autoAssignInboundEmailTickets then autoAssignEmailTicket ws req agent s else s

/-- The status check of `build_ticket_overrides`. -/
def validateStatusOverride (status : Option TicketStatus) : Except String Unit :=
  if status.any (fun status => status.isClosed) then
    .error "Cannot create a ticket directly into a closed status."
  else .ok ()

/-- The assignee check of `build_ticket_overrides`. -/
def validateAssigneeOverride (assignee : Option ℕ) : Except String Unit :=
  if assignee.any (fun assignee => !ws.isActiveMember assignee) then
    .error "Assignee is not an active member of this workspace."
  else .ok ()

/-- `_create_ticket_from_email` on overrides that `build_ticket_overrides` accepts. -/
def createTicketFromEmail (systemUser : ℕ) (overrides : NewTicket) (agent : Option ℕ) (db : Db) :
    Except String Session := do
  validateStatusOverride overrides.status
  validateAssigneeOverride ws overrides.assignee
  match defaultStatus ws with
  | none => .error s!"No ticket statuses configured for tenant {ws.slug}"
  | some status =>
    let data := { overrides with
      tags := overrides.tags.foldl
        (fun tags tag => if tag ∈ tags then tags else tags ++ [tag]) ["email"] }
    let s ← db.create data.id
      (data.row (overrides.status.getD status) systemUser req.clock.autoNow)
    let s := initializeSla ws req s
    if overrides.assignee = none then .ok (maybeAutoAssign ws req agent s) else .ok s

/-- The payload of a split; comments are told by whether they belong to the source. -/
structure SplitRequest where
  child : ℕ
  comments : List Bool := [true]
  priority : Option Priority := none
  queue : Option Queue := none
  deriving DecidableEq, Repr

/-- `split_ticket`. -/
def splitTicket (actor : ℕ) (data : SplitRequest) (source : Session) : Except String Session :=
  if data.comments = [] then
    .error "At least one comment must be selected for the split."
  else if !data.comments.all (fun belongs => belongs) then
    .error "One or more comment IDs do not belong to this ticket."
  else
    match defaultStatus ws with
    | none => .error "No ticket statuses configured for this tenant."
    | some status =>
      let child : Ticket :=
        { status
          priority := data.priority.getD source.ticket.priority
          queue := data.queue
          assignee := source.ticket.assignee
          assignedBy := some actor
          assignedAt := source.ticket.assignee.map fun _ => req.clock.service
          createdBy := actor
          createdAt := req.clock.autoNow
          updatedAt := req.clock.autoNow }
      (source.db.create data.child child).map fun s =>
        let s := initializeSla ws req s
        let s := { s with db := s.db.createTicketActivity source.id .statusChanged }
        s.log .created

/-! ## Assignment -/

/-- The tenant's `auto_transition_on_assign`, on without a settings row. -/
def shouldTransition : Bool :=
  match ws.settings with
  | none => true
  | some settings => settings.autoTransitionOnAssign

def autoTransition (status : TicketStatus) : Option TicketStatus :=
  if shouldTransition ws && status.isDefault && !status.isClosed then
    (ws.statusBySlug "in-progress").filter (fun inProgress => inProgress ≠ status)
  else none

/-- The ticket and columns that `assign_ticket` saves. -/
def assignDraft (assignee : ℕ) (ticket : Ticket) : Draft :=
  let target := autoTransition ws ticket.status
  { ticket :=
      { ticket with
        assignee := some assignee
        assignedBy := req.actor
        assignedAt := some req.clock.service
        status := target.getD ticket.status }
    updateFields :=
      [.assignee, .assignedBy, .assignedAt, .updatedAt] ++
      (if target.isSome then [.status] else []) }

/-- `assign_ticket`. -/
def assignTicket (assignee : ℕ) (note : String) (s : Session) : Except String Session :=
  if !ws.isActiveMember assignee then
    .error "Assignee is not an active member of this tenant."
  else
    let transitioned := (autoTransition ws s.ticket.status).isSome
    let s := saveDraft ws req.clock (assignDraft ws req assignee s.ticket) s
    let s := (s.recordAssignment assignee req.actor note).log .assigned
    .ok (if transitioned then s.log .statusChanged else s)

/-- `auto_assign_ticket`, with the agent that is still available once locked. -/
def autoAssignTicket (agent : Option ℕ) (s : Session) : Session :=
  match agent with
  | none => s
  | some user =>
    let s := save ws req.clock [.assignee, .updatedAt]
      (s.modify fun ticket => { ticket with assignee := some user })
    s.recordAssignment user none "Auto-assigned based on agent availability and workload."

/-! ## Escalation -/

/-- `MIN_EXTENSION_MINUTES`. -/
def minExtensionMinutes : Minutes := 15

/-- `_extend_deadline`. -/
def extendDeadline (now : Instant) (currentDue : Option Instant) (policyMinutes : ℕ) : Instant :=
  match currentDue with
  | none => addBusinessMinutes now policyMinutes ws.toTenant
  | some due =>
    if due - now ≤ 0 then addBusinessMinutes now minExtensionMinutes ws.toTenant
    else
      let rawExtension := totalMinutes (due - now) / 2
      let clamped := max minExtensionMinutes (min rawExtension policyMinutes)
      addBusinessMinutes due clamped ws.toTenant

/-- `_extend_sla_on_escalation`. -/
def extendSlaOnEscalation (now : Instant) (s : Session) : Session :=
  match ws.policyFor s.ticket.priority with
  | none => s
  | some newPolicy =>
    let old := s.ticket
    let updateFields :=
      (if old.slaPolicy = some newPolicy.pk then [] else [Column.slaPolicy]) ++
      [.slaFirstResponseDue, .slaResolutionDue, .slaExtendedAt, .updatedAt]
    logSlaChange old (save ws req.clock updateFields
      (s.modify fun ticket =>
        { ticket with
          slaPolicy := some newPolicy.pk
          slaFirstResponseDue :=
            some (extendDeadline ws now old.slaFirstResponseDue newPolicy.firstResponseMinutes)
          slaResolutionDue :=
            some (extendDeadline ws now old.slaResolutionDue newPolicy.resolutionMinutes)
          slaExtendedAt := some now }))

/-- The reassignment step of `escalate_ticket`, with its history row. -/
def reassignEscalated (reason : String) (assignee : Option ℕ) (s : Session) : Session :=
  match assignee with
  | none => s
  | some user =>
    (s.recordAssignment user req.actor s!"Escalation: {reason}").modify fun ticket =>
      { ticket with
        assignee := some user
        assignedBy := req.actor
        assignedAt := some req.clock.service }

/-- `escalate_ticket`. -/
def escalateTicket (reason : String) (assignee : Option ℕ) (queue : Option Queue) (s : Session) :
    Except String Session :=
  let now := req.clock.service
  if assignee.any (fun assignee => !ws.isActiveMember assignee) then
    .error "Assignee is not an active member of this tenant."
  else
    let updateFields :=
      [.escalationCount, .escalatedAt, .updatedAt] ++
      (if assignee.isSome then [.assignee, .assignedBy, .assignedAt] else []) ++
      (if queue.isSome then [Column.queue] else [])
    let s := save ws req.clock updateFields
      ((reassignEscalated req reason assignee s).modify fun ticket =>
        { ticket with
          escalationCount := ticket.escalationCount + 1
          escalatedAt := some now
          queue := queue.or ticket.queue })
    .ok ((extendSlaOnEscalation ws req now s).log .escalatedManual)

/-! ## Single fields -/

/-- `change_ticket_priority`. -/
def changeTicketPriority (newPriority : Priority) (s : Session) : Session :=
  if s.ticket.priority = newPriority then s
  else
    (save ws req.clock [.priority, .updatedAt]
      (s.modify fun ticket => { ticket with priority := newPriority })).log .priorityChanged

/-- The bulk action `add_tag`. -/
def addTags (tags : List String) (s : Session) : Session :=
  save ws req.clock [.tags, .updatedAt]
    (s.modify fun ticket => { ticket with tags := (ticket.tags ++ tags).dedup })

def softDelete (s : Session) : Session :=
  save ws req.clock [.isDeleted, .updatedAt]
    (s.modify fun ticket => { ticket with isDeleted := true })

/-- What `record_first_response` and its breach check set. -/
def Ticket.respond (now : Instant) (late : Bool) (ticket : Ticket) : Ticket :=
  { ticket with
    firstRespondedAt := some now
    updatedAt := now
    slaResponseBreached := ticket.slaResponseBreached || late }

def Ticket.respondsLate (now : Instant) (ticket : Ticket) : Bool :=
  match ticket.slaFirstResponseDue with
  | none => false
  | some due => decide (due < now)

/-- `record_first_response`, with its breach check; both write by `UPDATE` directly, and the
timeline says so in between. -/
def recordFirstResponse (s : Session) : Session :=
  if s.ticket.firstRespondedAt.isSome then s
  else if req.actor = some s.ticket.createdBy then s
  else
    let now := req.clock.service
    let respond := Ticket.respond now (s.ticket.respondsLate now)
    Session.log { s with db := s.db.updateWhere s.id respond, ticket := respond s.ticket }
      .firstResponse

/-! ## Macros -/

/-- An entry of `macro.actions`; either key may be missing from the JSON object. -/
structure MacroAction where
  action : Option String
  value : Option String
  deriving DecidableEq, Repr

def Priority.ofText : String → Priority
  | "low" => .low
  | "medium" => .medium
  | "high" => .high
  | "urgent" => .urgent
  | text => .other text

/-- One action of `apply_macro`. -/
def applyMacroAction (action : MacroAction) (s : Session) : Except String Session :=
  match action.action, action.value with
  | some "set_status", some slug =>
    match ws.statusBySlug slug with
    | none => .ok s
    | some newStatus =>
      if newStatus = s.ticket.status then .ok s
      else transitionTicketStatus ws req newStatus s
  | some "set_priority", some text =>
    if text = "" then .ok s
    else .ok (changeTicketPriority ws req (.ofText text) s)
  | some "add_tag", some tag =>
    if tag = "" ∨ tag ∈ s.ticket.tags then .ok s
    else .ok (save ws req.clock [.tags, .updatedAt]
      (s.modify fun ticket => { ticket with tags := ticket.tags ++ [tag] }))
  | _, _ => .ok s

/-- `apply_macro`; the audit summary reads both keys of every action. -/
def applyMacro (actions : List MacroAction) (s : Session) : Except String Session := do
  let s ← actions.foldlM (fun s action => applyMacroAction ws req action s) s
  if actions.any (fun action => action.action.isNone) then .error "'action'"
  else if actions.any (fun action => action.value.isNone) then .error "'value'"
  else .ok (s.log .commented)

/-! ## Saving a policy -/

/-- One pass of the loop of `_apply_policy_to_tickets`. -/
def applyPolicyToTicket (policy : SLAPolicy) (s : Session) : Session :=
  let due := fun minutes : ℕ => some (addBusinessMinutes s.ticket.createdAt minutes ws.toTenant)
  logSlaChange s.ticket (save ws req.clock [.slaFirstResponseDue, .slaResolutionDue, .updatedAt]
    (s.modify fun ticket =>
      { ticket with
        slaFirstResponseDue := due policy.firstResponseMinutes
        slaResolutionDue := due policy.resolutionMinutes }))

def Db.withTicket (db : Db) (id : ℕ) (work : Session → Session) : Db :=
  match db.tickets id with
  | none => db
  | some ticket => (work { db, id, ticket }).db

/-- Whether `propagate_sla_policy_change` selects a ticket. -/
def usesPolicy (policy : SLAPolicy) (ticket : Ticket) : Bool :=
  ticket.slaPolicy == some policy.pk && !ticket.status.isClosed

/-- `propagate_sla_policy_change`, on saving a policy that exists. -/
def propagateSlaPolicyChange (policy : SLAPolicy) (db : Db) : Db :=
  let affected := db.ticketIds.filter fun id => (db.tickets id).any (usesPolicy policy)
  affected.foldl (fun db id => db.withTicket id (applyPolicyToTicket ws req policy)) db

end Operations

end Kanzan.Tickets

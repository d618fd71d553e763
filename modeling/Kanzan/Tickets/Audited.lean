import Kanzan.Tickets.Scan

/-!
# What the receivers of a save record

Every save of a ticket runs two more receivers.  One sends `ticket_assigned`, which the
notifications app turns into a notification; the other writes the activity log for the
changes that no service has logged.  The operations are told again over a session that
carries the outcome of both, and do to the ticket what they did before.
-/

namespace Kanzan.Tickets

open Sla

/-! ## The activity log -/

/-- `ActivityLog.Action`, as far as rows about tickets carry it. -/
inductive LogAction where
  | created
  | updated
  | assigned
  | statusChanged
  | commented
  | deleted
  | fieldChanged
  | closed
  | reopened
  | slaUpdated
  | pipelineStageChanged
  | emailLinked
  | emailActioned
  deriving DecidableEq, Repr

/-- An entry of the `changes` of a log row. -/
inductive FieldChange where
  | status (old new : String)
  | priority (old new : Priority)
  | assignee (old new : Option ℕ)
  | escalationCount (old new : ℕ)
  | pipelineStage (old : Option String) (new : String)
  | mergedTicket (secondary : ℕ)
  | splitChildTicket (child : ℕ)
  | splitSourceTicket (source : ℕ)
  deriving DecidableEq, Repr

/-- The `ActivityLog` row of a ticket; `described` is what only its description tells. -/
structure ActivityLog where
  ticket : ℕ
  actor : Option ℕ
  action : LogAction
  changes : List FieldChange := []
  described : List FieldChange := []
  createdAt : Instant
  deriving DecidableEq, Repr

/-! ## Assignment notifications -/

/-- What `ticket_assigned` is sent with. -/
structure TicketAssigned where
  ticket : ℕ
  assignee : ℕ
  assignedBy : Option ℕ
  deriving DecidableEq, Repr

/-- A `Notification` row of type `TICKET_ASSIGNED`; its title names who assigned. -/
structure AssignmentNotification where
  ticket : ℕ
  recipient : ℕ
  assignedBy : Option ℕ
  deriving DecidableEq, Repr

/-- `handle_ticket_assigned`: no notification for one's own assignment. -/
def handleTicketAssigned (signal : TicketAssigned) : List AssignmentNotification :=
  if signal.assignedBy = some signal.assignee then []
  else [{ ticket := signal.ticket, recipient := signal.assignee, assignedBy := signal.assignedBy }]

/-! ## Audited sessions -/

/-- The store with what the receivers have recorded. -/
structure Ledger where
  db : Db := {}
  activityLog : List ActivityLog := []
  signals : List TicketAssigned := []
  notifications : List AssignmentNotification := []

/-- A session with the flag its instance carries and with what the receivers record. -/
structure Audited where
  session : Session
  skipSignalLogging : Bool := false
  activityLog : List ActivityLog := []
  signals : List TicketAssigned := []
  notifications : List AssignmentNotification := []

def Ledger.audit (ledger : Ledger) (id : ℕ) (ticket : Ticket) (skipSignalLogging : Bool := false) :
    Audited where
  session := { db := ledger.db, id, ticket }
  skipSignalLogging := skipSignalLogging
  activityLog := ledger.activityLog
  signals := ledger.signals
  notifications := ledger.notifications

def Audited.ledger (t : Audited) : Ledger where
  db := t.session.db
  activityLog := t.activityLog
  signals := t.signals
  notifications := t.notifications

/-- All columns, as a save without `update_fields` writes them. -/
def Column.all : List Column :=
  [ .status, .priority, .queue, .assignee, .assignedBy, .assignedAt, .updatedAt, .resolvedAt,
    .closedAt, .slaResponseBreached, .slaResolutionBreached, .tags, .slaPolicy,
    .slaFirstResponseDue, .slaResolutionDue, .slaPausedAt, .slaExtendedAt, .preWaitStatus,
    .statusChangedAt, .statusChangedBy, .escalationCount, .escalatedAt, .solvedAt,
    .autoCloseTaskId, .mergedInto, .pipelineStage, .wonAt, .wonReason, .lostAt, .lostReason,
    .isDeleted ]

namespace Audited

def onSession (work : Session → Session) (t : Audited) : Audited :=
  { t with session := work t.session }

def modify (edit : Ticket → Ticket) (t : Audited) : Audited :=
  t.onSession fun s => s.modify edit

/-- `ticket._skip_signal_logging = True`. -/
def skip (t : Audited) : Audited := { t with skipSignalLogging := true }

/-- `log_activity`. -/
def logActivity (now : Instant) (actor : Option ℕ) (action : LogAction)
    (changes : List FieldChange) (t : Audited) : Audited :=
  { t with
    activityLog := t.activityLog ++
      [{ ticket := t.session.id, actor, action, changes, createdAt := now }] }

/-- `ticket_assigned.send`, with its handler. -/
def send (signal : TicketAssigned) (t : Audited) : Audited :=
  { t with
    signals := t.signals ++ [signal]
    notifications := t.notifications ++ handleTicketAssigned signal }

/-- `fire_ticket_assigned_signal` on an update. -/
def fireTicketAssignedSignal (updateFields : Option (List Column)) (t : Audited) : Audited :=
  match updateFields, t.session.ticket.assignee with
  | some columns, some assignee =>
    if .assignee ∈ columns then
      t.send { ticket := t.session.id, assignee, assignedBy := none }
    else t
  | _, _ => t

/-- The two seconds of `_activity_already_logged`, in microseconds. -/
def logWindow : Instant := 2000000

/-- `_activity_already_logged`. -/
def activityAlreadyLogged (now : Instant) (action : LogAction) (t : Audited) : Bool :=
  t.activityLog.any fun row =>
    row.ticket == t.session.id && row.action == action && decide (now - logWindow ≤ row.createdAt)

/-- One of the three checks of `log_ticket_activity`. -/
def logUnlessLogged (now : Instant) (changed : Bool) (action : LogAction) (change : FieldChange)
    (t : Audited) : Audited :=
  if changed && !t.activityAlreadyLogged now action then t.logActivity now none action [change]
  else t

/-- `log_ticket_activity`, given the row that the pre-save receiver found. -/
def logTicketActivity (now : Instant) (previous : Ticket) (t : Audited) : Audited :=
  if t.skipSignalLogging then t
  else
    let inst := t.session.ticket
    let t := t.logUnlessLogged now (previous.status != inst.status) .statusChanged
      (.status previous.status.name inst.status.name)
    let t := t.logUnlessLogged now (previous.priority != inst.priority) .fieldChanged
      (.priority previous.priority inst.priority)
    t.logUnlessLogged now (previous.assignee != inst.assignee) .assigned
      (.assignee previous.assignee inst.assignee)

section Operations

variable (ws : Workspace) (req : Request)

/-- `ticket.save(update_fields=updateFields)` with all its receivers; the nested saves of the
pause receiver list none of the columns that the others look at. -/
def save (clock : Clock) (updateFields : Option (List Column)) (t : Audited) : Audited :=
  match t.session.db.tickets t.session.id with
  | none => t
  | some previous =>
    ((t.onSession (Tickets.save ws clock (updateFields.getD Column.all))).fireTicketAssignedSignal
      updateFields).logTicketActivity clock.postSave previous

def saveDraft (clock : Clock) (draft : Draft) (t : Audited) : Audited :=
  (t.modify fun _ => draft.ticket).save ws clock (some draft.updateFields)

/-! ## Status, priority and stage -/

def statusAction (oldStatus newStatus : TicketStatus) : LogAction :=
  if newStatus.isClosed && !oldStatus.isClosed then .closed
  else if oldStatus.isClosed && !newStatus.isClosed then .reopened
  else .statusChanged

/-- `change_ticket_status`. -/
def changeTicketStatus (newStatus : TicketStatus) (t : Audited) : Audited :=
  let oldStatus := t.session.ticket.status
  if oldStatus = newStatus then t
  else
    let t := t.skip.saveDraft ws req.clock (statusDraft req newStatus t.session.ticket)
    let t := t.logActivity req.clock.postSave req.actor (statusAction oldStatus newStatus)
      [.status oldStatus.name newStatus.name]
    let t := t.onSession fun s => s.log (statusEvent oldStatus newStatus)
    if resolvedEdge oldStatus newStatus then
      t.onSession fun s => { s with db := s.db.registerOnCommit s.id }
    else t

/-- `transition_ticket_status`. -/
def transitionTicketStatus (newStatus : TicketStatus) (t : Audited) : Except String Audited :=
  match validateStatusTransition t.session.ticket newStatus with
  | .error message => .error message
  | .ok () => .ok (t.changeTicketStatus ws req newStatus)

/-- `close_ticket`. -/
def closeTicket (t : Audited) : Except String Audited :=
  if t.session.ticket.status.isClosed then .ok t
  else
    match ws.closedStatus with
    | none =>
      .error ("No closed status configured for this tenant. " ++
        "Create a TicketStatus with is_closed=True.")
    | some closedStatus => t.transitionTicketStatus ws req closedStatus

/-- `resume_from_wait`. -/
def resumeFromWait (t : Audited) : Audited :=
  if !t.session.ticket.status.pausesSla then t
  else
    match resumeTarget ws t.session.ticket with
    | none => t
    | some target =>
      if target = t.session.ticket.status then t else t.changeTicketStatus ws req target

/-- `_reopen_resolved_ticket`. -/
def reopenResolvedTicket (t : Audited) : Audited :=
  match ws.statusBySlug "open" with
  | none => t
  | some openStatus => t.changeTicketStatus ws req openStatus

/-- `move_card`, as far as it concerns the ticket on the card. -/
def moveCard (column : KanbanColumn) (isSameColumn : Bool) (t : Audited) :
    Except String Audited :=
  if !isSameColumn && column.isFull then
    .error (s!"Column '{column.name}' has reached its WIP limit " ++
      s!"of {column.wipLimit.getD 0}.")
  else
    match column.status with
    | none => .ok t
    | some status =>
      if column.isPersonal || t.session.ticket.status = status then .ok t
      else .ok (t.changeTicketStatus ws req status)

/-- `change_ticket_priority`. -/
def changeTicketPriority (newPriority : Priority) (t : Audited) : Audited :=
  let oldPriority := t.session.ticket.priority
  if oldPriority = newPriority then t
  else
    let t := (t.skip.modify fun ticket => { ticket with priority := newPriority }).save ws req.clock
      (some [.priority, .updatedAt])
    let t := t.logActivity req.clock.postSave req.actor .fieldChanged
      [.priority oldPriority newPriority]
    t.onSession fun s => s.log .priorityChanged

/-- `transition_pipeline_stage`. -/
def transitionPipelineStage (newStage : PipelineStage) (reason : String) (t : Audited) :
    Except String Audited :=
  let oldStage := t.session.ticket.pipelineStage
  let oldStageName := (oldStage.map PipelineStage.name).getD ""
  if oldStage.any (fun old => old.pipeline ≠ newStage.pipeline) then
    .error (s!"Cannot move to stage '{newStage.name}' — it belongs to a " ++
      s!"different pipeline than the current stage '{oldStageName}'.")
  else if oldStage = some newStage then .ok t
  else
    let t := t.skip.saveDraft ws req.clock (stageDraft ws req newStage reason t.session.ticket)
    let t := t.logActivity req.clock.postSave req.actor .pipelineStageChanged
      [.pipelineStage (oldStage.map PipelineStage.name) newStage.name]
    .ok (t.onSession fun s => s.log .pipelineStageChanged)

/-- `merge_tickets`, in the session of the secondary; the audit row is the primary's. -/
def mergeTickets (primary : ℕ) (t : Audited) : Except String Audited :=
  if primary = t.session.id then .error "Cannot merge a ticket into itself."
  else
    let t := t.onSession fun s => { s with db := s.db.moveActivities s.id primary }
    let t := t.skip.saveDraft ws req.clock (mergeDraft ws req primary t.session.ticket)
    let row : ActivityLog :=
      { ticket := primary
        actor := req.actor
        action := .updated
        changes := [.mergedTicket t.session.id]
        createdAt := req.clock.postSave }
    let t := { t with activityLog := t.activityLog ++ [row] }
    .ok (t.onSession fun s => { s with db := s.db.createTicketActivity primary .statusChanged })

/-! ## The assignee -/

/-- `assign_ticket`. -/
def assignTicket (assignee : ℕ) (note : String) (t : Audited) : Except String Audited :=
  if !ws.isActiveMember assignee then
    .error "Assignee is not an active member of this tenant."
  else
    let previous := t.session.ticket
    let target := autoTransition ws previous.status
    let t := t.skip.saveDraft ws req.clock (assignDraft ws req assignee previous)
    let t := t.onSession fun s => s.recordAssignment assignee req.actor note
    let t := t.logActivity req.clock.postSave req.actor .assigned
      [.assignee previous.assignee (some assignee)]
    let t := t.onSession fun s => s.log .assigned
    match target with
    | none => .ok t
    | some target =>
      let t := t.logActivity req.clock.postSave req.actor .statusChanged
        [.status previous.status.name target.name]
      .ok (t.onSession fun s => s.log .statusChanged)

/-- The branch of `perform_update` that unassigns. -/
def unassign (t : Audited) : Audited :=
  let previous := t.session.ticket
  ((t.skip.modify fun ticket => { ticket with assignee := none }).save ws req.clock
    (some [.assignee, .updatedAt])).logActivity req.clock.postSave req.actor .assigned
      [.assignee previous.assignee none]

/-- `auto_assign_ticket`, with the agent that is still available once locked. -/
def autoAssignTicket (agent : Option ℕ) (t : Audited) : Audited :=
  match agent with
  | none => t
  | some user =>
    let t := (t.modify fun ticket => { ticket with assignee := some user }).save ws req.clock
      (some [.assignee, .updatedAt])
    t.onSession fun s =>
      s.recordAssignment user none "Auto-assigned based on agent availability and workload."

/-- `auto_assign_email_ticket`, with the agent that `pick_email_agent` returns. -/
def autoAssignEmailTicket (agent : Option ℕ) (t : Audited) : Audited :=
  match t.session.ticket.assignee, agent with
  | none, some user =>
    let t := (t.modify fun ticket => { ticket with assignee := some user }).save ws req.clock
      (some [.assignee, .updatedAt])
    t.onSession fun s =>
      s.recordAssignment user none "Auto-assigned from inbound email (load + fairness)."
  | _, _ => t

/-- `_extend_sla_on_escalation`. -/
def extendSlaOnEscalation (now : Instant) (t : Audited) : Audited :=
  match ws.policyFor t.session.ticket.priority with
  | none => t
  | some newPolicy =>
    let old := t.session.ticket
    let updateFields :=
      (if old.slaPolicy = some newPolicy.pk then [] else [Column.slaPolicy]) ++
      [.slaFirstResponseDue, .slaResolutionDue, .slaExtendedAt, .updatedAt]
    ((t.modify fun ticket =>
        { ticket with
          slaPolicy := some newPolicy.pk
          slaFirstResponseDue :=
            some (extendDeadline ws now old.slaFirstResponseDue newPolicy.firstResponseMinutes)
          slaResolutionDue :=
            some (extendDeadline ws now old.slaResolutionDue newPolicy.resolutionMinutes)
          slaExtendedAt := some now }).save ws req.clock (some updateFields)).onSession
      (logSlaChange old)

def saveEscalation (reason : String) (assignee : Option ℕ) (queue : Option Queue) (t : Audited) :
    Audited :=
  let updateFields :=
    [.escalationCount, .escalatedAt, .updatedAt] ++
    (if assignee.isSome then [.assignee, .assignedBy, .assignedAt] else []) ++
    (if queue.isSome then [Column.queue] else [])
  ((t.onSession (reassignEscalated req reason assignee)).skip.modify fun ticket =>
    { ticket with
      escalationCount := ticket.escalationCount + 1
      escalatedAt := some req.clock.service
      queue := queue.or ticket.queue }).save ws req.clock (some updateFields)

/-- `escalate_ticket`; the description of its row names the old and the new assignee. -/
def escalateTicket (reason : String) (assignee : Option ℕ) (queue : Option Queue) (t : Audited) :
    Except String Audited :=
  if assignee.any (fun assignee => !ws.isActiveMember assignee) then
    .error "Assignee is not an active member of this tenant."
  else
    let previous := t.session.ticket
    let t := (t.saveEscalation ws req reason assignee queue).extendSlaOnEscalation ws req
      req.clock.service
    let count := t.session.ticket.escalationCount
    let row : ActivityLog :=
      { ticket := t.session.id
        actor := req.actor
        action := .fieldChanged
        changes := [.escalationCount (count - 1) count]
        described := assignee.toList.map fun user => .assignee previous.assignee (some user)
        createdAt := req.clock.postSave }
    let t := { t with activityLog := t.activityLog ++ [row] }
    .ok (t.onSession fun s => s.log .escalatedManual)

def performAction (clock : Clock) (now : Instant) (rule : EscalationRule) (t : Audited) : Audited :=
  match rule.action with
  | .assign =>
    match rule.assignee ws with
    | none => t
    | some user =>
      (t.modify fun ticket =>
        { ticket with assignee := some user, assignedAt := some now }).save ws clock
          (some [.assignee, .assignedAt, .updatedAt])
  | .notify => t
  | .changePriority =>
    match t.session.ticket.priority.escalated with
    | none => t
    | some priority =>
      (t.modify fun ticket => { ticket with priority }).save ws clock
        (some [.priority, .updatedAt])

/-- `_execute_rule`: the action, then the timeline row. -/
def executeRule (clock : Clock) (now : Instant) (rule : EscalationRule) (t : Audited) : Audited :=
  (t.performAction ws clock now rule).onSession fun s => s.fireRule rule

/-! ## Saves outside the services -/

/-- The fields of a `PATCH` that no service handles, as far as ticket rows have them. -/
structure SimplePatch where
  queue : Option (Option Queue) := none
  tags : Option (List String) := none
  pipelineStage : Option (Option PipelineStage) := none
  wonReason : Option (Option String) := none
  lostReason : Option (Option String) := none
  deriving DecidableEq, Repr

def SimplePatch.apply (patch : SimplePatch) (ticket : Ticket) : Ticket :=
  { ticket with
    queue := patch.queue.getD ticket.queue
    tags := patch.tags.getD ticket.tags
    pipelineStage := patch.pipelineStage.getD ticket.pipelineStage
    wonReason := patch.wonReason.getD ticket.wonReason
    lostReason := patch.lostReason.getD ticket.lostReason }

/-- `perform_update` up to its services: the save of the serializer writes the full row. -/
def performUpdate (patch : SimplePatch) (t : Audited) : Audited :=
  (t.skip.modify patch.apply).save ws req.clock none

/-- New values for some of the fields that the receivers follow. -/
structure FieldEdit where
  status : Option TicketStatus := none
  priority : Option Priority := none
  assignee : Option (Option ℕ) := none
  deriving DecidableEq, Repr

def FieldEdit.apply (edit : FieldEdit) (ticket : Ticket) : Ticket :=
  { ticket with
    status := edit.status.getD ticket.status
    priority := edit.priority.getD ticket.priority
    assignee := edit.assignee.getD ticket.assignee }

def FieldEdit.updateFields (edit : FieldEdit) : List Column :=
  (if edit.status.isSome then [.status] else []) ++
  (if edit.priority.isSome then [.priority] else []) ++
  (if edit.assignee.isSome then [.assignee] else []) ++ [.updatedAt]

/-- A save by code outside the services (admin, shell), of the edited fields or of the full
row. -/
def directSave (edit : FieldEdit) (full : Bool) (t : Audited) : Audited :=
  (t.modify edit.apply).save ws req.clock (if full then none else some edit.updateFields)

/-! ## Creation -/

/-- The receivers of an `INSERT`: an assignee given at creation is signalled. -/
def fireOnCreation (t : Audited) : Audited :=
  match t.session.ticket.assignee with
  | none => t
  | some assignee =>
    t.send { ticket := t.session.id, assignee, assignedBy := some t.session.ticket.createdBy }

/-- A fresh key is inserted and the session continues with the new instance. -/
def create (id : ℕ) (ticket : Ticket) (ledger : Ledger) : Except String Audited :=
  (ledger.db.create id ticket).map fun s =>
    fireOnCreation { ledger.audit id ticket with session := s }

/-- `initialize_sla`. -/
def initializeSla (t : Audited) : Audited :=
  match ws.policyFor t.session.ticket.priority with
  | none => t
  | some policy =>
    let now := req.clock.service
    let due := fun minutes : ℕ => some (addBusinessMinutes now minutes ws.toTenant)
    (t.modify fun ticket =>
      { ticket with
        slaPolicy := some policy.pk
        slaFirstResponseDue := due policy.firstResponseMinutes
        slaResolutionDue := due policy.resolutionMinutes }).save ws req.clock
      (some [.slaPolicy, .slaFirstResponseDue, .slaResolutionDue, .updatedAt])

/-- `TicketCreateSerializer.create`, with the validation of its assignee and the rows of
`create_ticket_activity`. -/
def createTicket (creator : ℕ) (data : NewTicket) (ledger : Ledger) : Except String Audited :=
  if data.assignee.any (fun assignee => !ws.isActiveMember assignee) then
    .error "The selected assignee is not an active member of this tenant."
  else
    match data.status.or (ws.firstStatus (fun status => status.isDefault)) with
    | none => .error "No default status configured for this tenant."
    | some status =>
      let data := { data with assignee := some (creationAssignee data creator) }
      (create data.id (data.row status creator req.clock.autoNow) ledger).map fun t =>
        ((t.initializeSla ws req).logActivity req.clock.postSave (some creator) .created []).onSession
          fun s => s.log .created

/-- `_maybe_auto_assign`. -/
def maybeAutoAssign (agent : Option ℕ) (t : Audited) : Audited :=
  match ws.settings with
  | none => t
  | some settings =>
    if settings.autoAssignInboundEmailTickets then t.autoAssignEmailTicket ws req agent else t

/-- `_create_ticket_from_email` on overrides that `build_ticket_overrides` accepts. -/
def createTicketFromEmail (systemUser : ℕ) (overrides : NewTicket) (agent : Option ℕ)
    (ledger : Ledger) : Except String Audited := do
  validateStatusOverride overrides.status
  validateAssigneeOverride ws overrides.assignee
  match defaultStatus ws with
  | none => .error s!"No ticket statuses configured for tenant {ws.slug}"
  | some status =>
    let data := { overrides with
      tags := overrides.tags.foldl
        (fun tags tag => if tag ∈ tags then tags else tags ++ [tag]) ["email"] }
    let t ← create data.id
      (data.row (overrides.status.getD status) systemUser req.clock.autoNow) ledger
    let t := t.initializeSla ws req
    if overrides.assignee = none then .ok (t.maybeAutoAssign ws req agent) else .ok t

/-- `split_ticket`, in the session of the source. -/
def splitTicket (actor : ℕ) (data : SplitRequest) (source : Audited) : Except String Audited :=
  if data.comments = [] then
    .error "At least one comment must be selected for the split."
  else if !data.comments.all (fun belongs => belongs) then
    .error "One or more comment IDs do not belong to this ticket."
  else
    match defaultStatus ws with
    | none => .error "No ticket statuses configured for this tenant."
    | some status =>
      let ticket := source.session.ticket
      let child : Ticket :=
        { status
          priority := data.priority.getD ticket.priority
          queue := data.queue
          assignee := ticket.assignee
          assignedBy := some actor
          assignedAt := ticket.assignee.map fun _ => req.clock.service
          createdBy := actor
          createdAt := req.clock.autoNow
          updatedAt := req.clock.autoNow }
      (create data.child child source.ledger).map fun t =>
        let t := t.initializeSla ws req
        let t := t.onSession fun s =>
          { s with db := s.db.createTicketActivity source.session.id .statusChanged }
        let row : ActivityLog :=
          { ticket := source.session.id
            actor := some actor
            action := .updated
            changes := [.splitChildTicket t.session.id]
            createdAt := req.clock.postSave }
        let t := { t with activityLog := t.activityLog ++ [row] }
        (t.logActivity req.clock.postSave (some actor) .created
          [.splitSourceTicket source.session.id]).onSession fun s => s.log .created

end Operations

/-! ## The same operations as before -/

section Erasure

variable {ws : Workspace} {req : Request} {t : Audited}

@[simp]
theorem onSession_session (work : Session → Session) (t : Audited) :
    (t.onSession work).session = work t.session := rfl

@[simp]
theorem skip_session (t : Audited) : t.skip.session = t.session := rfl

@[simp]
theorem modify_session (edit : Ticket → Ticket) (t : Audited) :
    (t.modify edit).session = t.session.modify edit := rfl

@[simp]
theorem logActivity_session (now : Instant) (actor : Option ℕ) (action : LogAction)
    (changes : List FieldChange) (t : Audited) :
    (t.logActivity now actor action changes).session = t.session := rfl

@[simp]
theorem send_session (signal : TicketAssigned) (t : Audited) :
    (t.send signal).session = t.session := rfl

@[simp]
theorem fireTicketAssignedSignal_session (updateFields : Option (List Column)) (t : Audited) :
    (t.fireTicketAssignedSignal updateFields).session = t.session := by
  unfold fireTicketAssignedSignal
  split
  · split <;> rfl
  · rfl

@[simp]
theorem fireOnCreation_session (t : Audited) : t.fireOnCreation.session = t.session := by
  unfold fireOnCreation
  split <;> rfl

@[simp]
theorem logUnlessLogged_session (now : Instant) (changed : Bool) (action : LogAction)
    (change : FieldChange) (t : Audited) :
    (t.logUnlessLogged now changed action change).session = t.session := by
  unfold logUnlessLogged
  split <;> rfl

@[simp]
theorem logTicketActivity_session (now : Instant) (previous : Ticket) (t : Audited) :
    (t.logTicketActivity now previous).session = t.session := by
  unfold logTicketActivity
  split
  · rfl
  · simp

@[simp]
theorem save_session (clock : Clock) (updateFields : Option (List Column)) (t : Audited) :
    (t.save ws clock updateFields).session =
      Tickets.save ws clock (updateFields.getD Column.all) t.session := by
  unfold save
  cases hrow : t.session.db.tickets t.session.id with
  | none => rw [Tickets.save, saveDepth, hrow]
  | some previous => simp

@[simp]
theorem saveDraft_session (clock : Clock) (draft : Draft) (t : Audited) :
    (t.saveDraft ws clock draft).session = Tickets.saveDraft ws clock draft t.session := by
  simp [saveDraft, Tickets.saveDraft]

@[simp]
theorem changeTicketStatus_session (newStatus : TicketStatus) (t : Audited) :
    (t.changeTicketStatus ws req newStatus).session =
      Tickets.changeTicketStatus ws req newStatus t.session := by
  unfold changeTicketStatus Tickets.changeTicketStatus
  dsimp only
  split
  · rfl
  split <;> simp

theorem transitionTicketStatus_session (newStatus : TicketStatus) (t : Audited) :
    (t.transitionTicketStatus ws req newStatus).map session =
      Tickets.transitionTicketStatus ws req newStatus t.session := by
  unfold transitionTicketStatus Tickets.transitionTicketStatus
  cases validateStatusTransition t.session.ticket newStatus with
  | error message => rfl
  | ok _ => simp [Except.map]

@[simp]
theorem changeTicketPriority_session (newPriority : Priority) (t : Audited) :
    (t.changeTicketPriority ws req newPriority).session =
      Tickets.changeTicketPriority ws req newPriority t.session := by
  unfold changeTicketPriority Tickets.changeTicketPriority
  dsimp only
  split
  · rfl
  · simp

theorem assignTicket_session (assignee : ℕ) (note : String) (t : Audited) :
    (t.assignTicket ws req assignee note).map session =
      Tickets.assignTicket ws req assignee note t.session := by
  unfold assignTicket Tickets.assignTicket
  split
  · rfl
  dsimp only
  cases autoTransition ws t.session.ticket.status with
  | none => simp [Except.map]
  | some target => simp [Except.map]

@[simp]
theorem initializeSla_session (t : Audited) :
    (t.initializeSla ws req).session = Tickets.initializeSla ws req t.session := by
  unfold initializeSla Tickets.initializeSla
  cases ws.policyFor t.session.ticket.priority with
  | none => rfl
  | some policy => simp

end Erasure

end Audited

end Kanzan.Tickets

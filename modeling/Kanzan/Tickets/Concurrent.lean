import Kanzan.Support.Updates
import Kanzan.Tickets.Assignment

/-!
# Requests on one ticket, statement by statement

A request loads the whole row of a ticket, edits the instance in memory and saves it, all
columns or those it lists.  Every `SELECT` and every `UPDATE` on the row and on its pauses is
a step of its own, so that another request can come in between: between the load and a save,
between the read of the pre-save receiver and its update, and between the saves of the
receivers.  What a request writes into other tables is left out.
-/

namespace Kanzan.Tickets

open Sla Support

/-! ## The row -/

/-- Columns that the serializer offers and that no service function touches. -/
inductive Field where
  | subject
  | description
  | channel
  | ticketType
  | category
  | dueDate
  | dealValue
  | expectedCloseDate
  | probability
  | customData
  deriving DecidableEq, Repr

/-- Columns that the serializer does not offer. -/
inductive Internal where
  | tenant
  | number
  | csatRating
  | csatComment
  | csatSubmittedAt
  | needsKbArticle
  | followUpDueAt
  | lastActivityAt
  | account
  | deletedAt
  | deletedBy
  deriving DecidableEq, Repr

/-- The whole row of a ticket; the values of the last columns are the texts stored. -/
structure TicketRow where
  ticket : Ticket
  contact : Option ℕ := none
  company : Option ℕ := none
  fields : Field → Option String := fun _ => none
  internals : Internal → Option String := fun _ => none

/-- A column of the whole row. -/
inductive Key where
  | column (column : Column)
  | field (field : Field)
  | internal (internal : Internal)
  | contact
  | company
  | createdBy
  | createdAt
  | firstRespondedAt
  deriving DecidableEq, Repr

/-- The columns of a save without `update_fields`. -/
def Key.all : List Key :=
  ([.status, .priority, .queue, .assignee, .assignedBy, .assignedAt, .updatedAt, .resolvedAt,
    .closedAt, .slaResponseBreached, .slaResolutionBreached, .tags, .slaPolicy,
    .slaFirstResponseDue, .slaResolutionDue, .slaPausedAt, .slaExtendedAt, .preWaitStatus,
    .statusChangedAt, .statusChangedBy, .escalationCount, .escalatedAt, .solvedAt,
    .autoCloseTaskId, .mergedInto, .pipelineStage, .wonAt, .wonReason, .lostAt, .lostReason,
    .isDeleted] : List Column).map .column ++
  ([.subject, .description, .channel, .ticketType, .category, .dueDate, .dealValue,
    .expectedCloseDate, .probability, .customData] : List Field).map .field ++
  ([.tenant, .number, .csatRating, .csatComment, .csatSubmittedAt, .needsKbArticle,
    .followUpDueAt, .lastActivityAt, .account, .deletedAt, .deletedBy] : List Internal).map
      .internal ++
  [.contact, .company, .createdBy, .createdAt, .firstRespondedAt]

/-- The columns among the keys that `Ticket.persist` knows. -/
def columnsOf (keys : List Key) : List Column :=
  keys.filterMap fun key =>
    match key with
    | .column column => some column
    | _ => none

/-- The row after `UPDATE`: the listed columns from the instance, the others kept. -/
def TicketRow.persist (keys : List Key) (inst row : TicketRow) : TicketRow where
  ticket :=
    { inst.ticket.persist (columnsOf keys) row.ticket with
      createdBy := if .createdBy ∈ keys then inst.ticket.createdBy else row.ticket.createdBy
      createdAt := if .createdAt ∈ keys then inst.ticket.createdAt else row.ticket.createdAt
      firstRespondedAt :=
        if .firstRespondedAt ∈ keys then inst.ticket.firstRespondedAt
        else row.ticket.firstRespondedAt }
  contact := if .contact ∈ keys then inst.contact else row.contact
  company := if .company ∈ keys then inst.company else row.company
  fields := fun field => if .field field ∈ keys then inst.fields field else row.fields field
  internals := fun internal =>
    if .internal internal ∈ keys then inst.internals internal else row.internals internal

def Column.Same : Column → Ticket → Ticket → Prop
  | .status, a, b => a.status = b.status
  | .priority, a, b => a.priority = b.priority
  | .queue, a, b => a.queue = b.queue
  | .assignee, a, b => a.assignee = b.assignee
  | .assignedBy, a, b => a.assignedBy = b.assignedBy
  | .assignedAt, a, b => a.assignedAt = b.assignedAt
  | .updatedAt, a, b => a.updatedAt = b.updatedAt
  | .resolvedAt, a, b => a.resolvedAt = b.resolvedAt
  | .closedAt, a, b => a.closedAt = b.closedAt
  | .slaResponseBreached, a, b => a.slaResponseBreached = b.slaResponseBreached
  | .slaResolutionBreached, a, b => a.slaResolutionBreached = b.slaResolutionBreached
  | .tags, a, b => a.tags = b.tags
  | .slaPolicy, a, b => a.slaPolicy = b.slaPolicy
  | .slaFirstResponseDue, a, b => a.slaFirstResponseDue = b.slaFirstResponseDue
  | .slaResolutionDue, a, b => a.slaResolutionDue = b.slaResolutionDue
  | .slaPausedAt, a, b => a.slaPausedAt = b.slaPausedAt
  | .slaExtendedAt, a, b => a.slaExtendedAt = b.slaExtendedAt
  | .preWaitStatus, a, b => a.preWaitStatus = b.preWaitStatus
  | .statusChangedAt, a, b => a.statusChangedAt = b.statusChangedAt
  | .statusChangedBy, a, b => a.statusChangedBy = b.statusChangedBy
  | .escalationCount, a, b => a.escalationCount = b.escalationCount
  | .escalatedAt, a, b => a.escalatedAt = b.escalatedAt
  | .solvedAt, a, b => a.solvedAt = b.solvedAt
  | .autoCloseTaskId, a, b => a.autoCloseTaskId = b.autoCloseTaskId
  | .mergedInto, a, b => a.mergedInto = b.mergedInto
  | .pipelineStage, a, b => a.pipelineStage = b.pipelineStage
  | .wonAt, a, b => a.wonAt = b.wonAt
  | .wonReason, a, b => a.wonReason = b.wonReason
  | .lostAt, a, b => a.lostAt = b.lostAt
  | .lostReason, a, b => a.lostReason = b.lostReason
  | .isDeleted, a, b => a.isDeleted = b.isDeleted

def Key.Same : Key → TicketRow → TicketRow → Prop
  | .column c, a, b => c.Same a.ticket b.ticket
  | .field f, a, b => a.fields f = b.fields f
  | .internal i, a, b => a.internals i = b.internals i
  | .contact, a, b => a.contact = b.contact
  | .company, a, b => a.company = b.company
  | .createdBy, a, b => a.ticket.createdBy = b.ticket.createdBy
  | .createdAt, a, b => a.ticket.createdAt = b.ticket.createdAt
  | .firstRespondedAt, a, b => a.ticket.firstRespondedAt = b.ticket.firstRespondedAt

def TicketRow.modify (row : TicketRow) (edit : Ticket → Ticket) : TicketRow :=
  { row with ticket := edit row.ticket }

/-! ## The store -/

/-- The stored row of the ticket with this primary key, and the table of pauses. -/
structure TicketStore where
  id : ℕ
  row : TicketRow
  pauses : List SLAPause := []

/-- A statement that changes the store. -/
inductive Statement where
  | update (keys : List Key) (inst : TicketRow)
  | openPause (now : Instant)
  | closePause (pause : SLAPause) (now : Instant)

def TicketStore.db (store : TicketStore) : Db := { pauses := store.pauses }

def Statement.execute : Statement → TicketStore → TicketStore
  | .update keys inst, store => { store with row := inst.persist keys store.row }
  | .openPause now, store => { store with pauses := (store.db.openPause store.id now).pauses }
  | .closePause pause now, store =>
    { store with pauses := (store.db.closePause pause now).pauses }

def Statement.lists : Statement → Key → Prop
  | .update keys _, key => key ∈ keys
  | .openPause _, _ => False
  | .closePause _ _, _ => False

/-- What a request does between two statements. -/
abbrev Routine := Program TicketStore Statement

/-! ## Saving -/

/-- What the requests find around the ticket, and how deep the interpreter lets saves nest. -/
structure Site where
  ws : Workspace
  contactCompany : ℕ → Option ℕ := fun _ => none
  /-- Fewer than three published articles cover the category. -/
  lacksArticles : String → Bool := fun _ => false
  recursionLimit : ℕ

section Saving

variable (site : Site) (clock : Clock)

/-- `Ticket.save` on the company: taken from the contact when there is none. -/
def TicketRow.fillCompany (inst : TicketRow) : TicketRow :=
  match inst.contact, inst.company with
  | some contact, none => { inst with company := site.contactCompany contact }
  | _, _ => inst

section Receivers

variable (save : List Key → TicketRow → Routine TicketRow)

/-- `_shift_sla_deadlines`. -/
def shiftDeadlines (pauseStart pauseEnd : Instant) (inst : TicketRow) : Routine TicketRow :=
  let minutes := elapsedBusinessMinutes pauseStart pauseEnd site.ws.toTenant
  if minutes ≤ 0 then pure inst
  else if inst.ticket.slaFirstResponseDue = none ∧ inst.ticket.slaResolutionDue = none then
    pure inst
  else
    let shift := fun due => addBusinessMinutes due minutes site.ws.toTenant
    let columns :=
      (if inst.ticket.slaFirstResponseDue.isSome then [Column.slaFirstResponseDue] else []) ++
      (if inst.ticket.slaResolutionDue.isSome then [Column.slaResolutionDue] else []) ++
      [.updatedAt]
    save (columns.map .column) (inst.modify (Ticket.mapDeadlines shift))

/-- `_resume_sla_pause`. -/
def resumePause (now : Instant) (inst : TicketRow) : Routine TicketRow := do
  let store ← Program.stored
  match store.db.latestOpenPause store.id with
  | none => pure inst
  | some pause =>
    Program.perform (.closePause pause now)
    let inst ← shiftDeadlines site save pause.pausedAt now inst
    save [.column .slaPausedAt, .column .updatedAt] (inst.modify (Ticket.setSlaPausedAt none))

/-- `handle_sla_pause_on_status_change`, given the status its pre-save partner found. -/
def pauseOnStatusChange (previous : TicketStatus) (now : Instant) (inst : TicketRow) :
    Routine TicketRow :=
  if previous = inst.ticket.status then pure inst
  else
    match previous.pausesSla, inst.ticket.status.pausesSla with
    | false, true => do
      Program.perform (.openPause now)
      save [.column .slaPausedAt, .column .updatedAt]
        (inst.modify (Ticket.setSlaPausedAt (some now)))
    | true, false => resumePause site save now inst
    | _, _ => pure inst

end Receivers

/-- `ticket.save(update_fields=keys)`, which returns the instance as it then is.  A save that
finds another status stored at each of its nested saves goes on until the interpreter stops
it. -/
def saveTicket : ℕ → List Key → TicketRow → Routine TicketRow
  | 0, _, _ => .fail "maximum recursion depth exceeded"
  | depth + 1, keys, inst => do
    let inst := inst.fillCompany site
    let store ← Program.stored
    let inst := inst.modify fun ticket =>
      (handleTicketStatusChange clock.preSave store.row.ticket ticket).autoNow (columnsOf keys)
        clock.autoNow
    Program.perform (.update keys inst)
    pauseOnStatusChange site (saveTicket depth) store.row.ticket.status clock.postSave inst

end Saving

/-! ## The service functions -/

/-- What a request brings along, and the id under which the broker takes an auto-close task. -/
structure Caller where
  req : Request
  taskId : Option ℕ := none

section Services

variable (site : Site) (caller : Caller)

def saveKeys (keys : List Key) (inst : TicketRow) : Routine TicketRow :=
  saveTicket site caller.req.clock site.recursionLimit keys inst

def saveTicketDraft (draft : Draft) (inst : TicketRow) : Routine TicketRow :=
  saveKeys site caller (draft.updateFields.map .column) (inst.modify fun _ => draft.ticket)

/-- `_schedule_auto_close`, which stores the id of the task past the model. -/
def storeTaskId (inst : TicketRow) : Routine PUnit :=
  match caller.taskId with
  | none => pure ⟨⟩
  | some taskId =>
    Program.perform (.update [.column .autoCloseTaskId]
      (inst.modify fun ticket => { ticket with autoCloseTaskId := some taskId }))

/-- `check_kb_article_coverage`, on the ticket as it is stored after the commit. -/
def flagMissingArticles (inst : TicketRow) : Routine PUnit := do
  let fresh ← Program.stored
  match fresh.row.fields .category with
  | none => pure ⟨⟩
  | some category =>
    if category ≠ "" ∧ site.lacksArticles category then
      Program.perform (.update [.internal .needsKbArticle]
        { inst with
          internals := Function.update inst.internals .needsKbArticle (some "true") })
    else pure ⟨⟩

/-- `_schedule_resolved_tasks`, registered when a ticket becomes resolved. -/
def scheduleResolvedTasks (oldStatus newStatus : TicketStatus) (inst : TicketRow) :
    Routine PUnit :=
  if resolvedEdge oldStatus newStatus then storeTaskId caller inst else pure ⟨⟩

/-- `_emit_closed_signal`, registered when a ticket becomes closed. -/
def emitClosedSignal (oldStatus newStatus : TicketStatus) (inst : TicketRow) : Routine PUnit :=
  if newStatus.isClosed && !oldStatus.isClosed then flagMissingArticles site inst else pure ⟨⟩

/-- `change_ticket_status`, with the hooks of its commit. -/
def changeStatus (newStatus : TicketStatus) (inst : TicketRow) : Routine TicketRow :=
  let oldStatus := inst.ticket.status
  if oldStatus = newStatus then pure inst
  else do
    let saved ← saveTicketDraft site caller (statusDraft caller.req newStatus inst.ticket) inst
    scheduleResolvedTasks caller oldStatus newStatus saved
    emitClosedSignal site oldStatus newStatus saved
    pure saved

/-- `assign_ticket`. -/
def assignTo (assignee : ℕ) (inst : TicketRow) : Routine TicketRow :=
  if !site.ws.isActiveMember assignee then
    .fail "Assignee is not an active member of this tenant."
  else saveTicketDraft site caller (assignDraft site.ws caller.req assignee inst.ticket) inst

/-- `change_ticket_priority`. -/
def changePriority (newPriority : Priority) (inst : TicketRow) : Routine TicketRow :=
  if inst.ticket.priority = newPriority then pure inst
  else
    saveKeys site caller [.column .priority, .column .updatedAt]
      (inst.modify fun ticket => { ticket with priority := newPriority })

/-- `_extend_sla_on_escalation`. -/
def extendDeadlines (inst : TicketRow) : Routine TicketRow :=
  match site.ws.policyFor inst.ticket.priority with
  | none => pure inst
  | some newPolicy =>
    let now := caller.req.clock.service
    let old := inst.ticket
    let updateFields :=
      (if old.slaPolicy = some newPolicy.pk then [] else [Column.slaPolicy]) ++
      [.slaFirstResponseDue, .slaResolutionDue, .slaExtendedAt, .updatedAt]
    saveKeys site caller (updateFields.map .column) (inst.modify fun ticket =>
      { ticket with
        slaPolicy := some newPolicy.pk
        slaFirstResponseDue :=
          some (extendDeadline site.ws now old.slaFirstResponseDue newPolicy.firstResponseMinutes)
        slaResolutionDue :=
          some (extendDeadline site.ws now old.slaResolutionDue newPolicy.resolutionMinutes)
        slaExtendedAt := some now })

/-- The edits that `escalate_ticket` makes before it saves. -/
def escalatedTicket (assignee : Option ℕ) (queue : Option Queue) (ticket : Ticket) : Ticket :=
  let now := caller.req.clock.service
  let ticket :=
    match assignee with
    | none => ticket
    | some user =>
      { ticket with assignee := some user, assignedBy := caller.req.actor, assignedAt := some now }
  { ticket with
    escalationCount := ticket.escalationCount + 1
    escalatedAt := some now
    queue := queue.or ticket.queue }

/-- `escalate_ticket`. -/
def escalate (assignee : Option ℕ) (queue : Option Queue) (inst : TicketRow) :
    Routine TicketRow :=
  if assignee.any (fun assignee => !site.ws.isActiveMember assignee) then
    .fail "Assignee is not an active member of this tenant."
  else do
    let updateFields :=
      [.escalationCount, .escalatedAt, .updatedAt] ++
      (if assignee.isSome then [.assignee, .assignedBy, .assignedAt] else []) ++
      (if queue.isSome then [Column.queue] else [])
    let saved ← saveKeys site caller (updateFields.map .column)
      (inst.modify (escalatedTicket caller assignee queue))
    extendDeadlines site caller saved

/-! ## The requests -/

/-- The body of a `PATCH`: the fields supplied, with their validated values. -/
structure Patch where
  status : Option TicketStatus := none
  priority : Option Priority := none
  assignee : Option (Option ℕ) := none
  queue : Option (Option Queue) := none
  pipelineStage : Option (Option PipelineStage) := none
  wonReason : Option (Option String) := none
  lostReason : Option (Option String) := none
  tags : Option (List String) := none
  contact : Option (Option ℕ) := none
  company : Option (Option ℕ) := none
  fields : Field → Option (Option String) := fun _ => none

/-- `serializer.update` on the fields that `perform_update` leaves to it. -/
def Patch.apply (patch : Patch) (inst : TicketRow) : TicketRow where
  ticket :=
    { inst.ticket with
      queue := patch.queue.getD inst.ticket.queue
      pipelineStage := patch.pipelineStage.getD inst.ticket.pipelineStage
      wonReason := patch.wonReason.getD inst.ticket.wonReason
      lostReason := patch.lostReason.getD inst.ticket.lostReason
      tags := patch.tags.getD inst.ticket.tags }
  contact := patch.contact.getD inst.contact
  company := patch.company.getD inst.company
  fields := fun field => (patch.fields field).getD (inst.fields field)
  internals := inst.internals

/-- The status that a `PATCH` moves a ticket to, if it is another one. -/
def Patch.newStatus (patch : Patch) (old : Ticket) : Option TicketStatus :=
  patch.status.filter fun status => status ≠ old.status

def Patch.newPriority (patch : Patch) (old : Ticket) : Option Priority :=
  patch.priority.filter fun priority => priority ≠ old.priority

/-- The user that a `PATCH` assigns a ticket to.  A null assignee counts as none supplied. -/
def Patch.newAssignee (patch : Patch) (old : Ticket) : Option ℕ :=
  (patch.assignee.getD none).filter fun assignee => some assignee ≠ old.assignee

def whenSome {α : Type} (edit : α → TicketRow → Routine TicketRow) (value : Option α)
    (inst : TicketRow) : Routine TicketRow :=
  match value with
  | none => pure inst
  | some value => edit value inst

/-- `transition_ticket_status`. -/
def transitionStatus (newStatus : TicketStatus) (inst : TicketRow) : Routine TicketRow := do
  Program.ofExcept (validateStatusTransition inst.ticket newStatus)
  changeStatus site caller newStatus inst

def Patch.validate (patch : Patch) (old : Ticket) : Except String Unit :=
  match patch.newStatus old with
  | none => .ok ()
  | some newStatus => validateStatusTransition old newStatus

/-- `TicketViewSet.perform_update`, after the serializer has validated the body. -/
def performUpdate (patch : Patch) (inst : TicketRow) : Routine TicketRow := do
  let old := inst.ticket
  Program.ofExcept (patch.validate old)
  let updated ← saveKeys site caller Key.all (patch.apply inst)
  let updated ← whenSome (transitionStatus site caller) (patch.newStatus old) updated
  let updated ← whenSome (changePriority site caller) (patch.newPriority old) updated
  whenSome (assignTo site caller) (patch.newAssignee old) updated

/-- The bulk action `add_tag`. -/
def addTag (tags : List String) (inst : TicketRow) : Routine TicketRow :=
  saveKeys site caller [.column .tags, .column .updatedAt]
    (inst.modify fun ticket => { ticket with tags := (ticket.tags ++ tags).dedup })

def reopenTarget (ticket : Ticket) : Option TicketStatus :=
  (if ticket.status.slug = "resolved" then site.ws.statusBySlug "open"
    else if ticket.status.pausesSla then resumeTarget site.ws ticket
    else none).filter fun target => target ≠ ticket.status

def resumeForReply (inbound : InboundReply) (inst : TicketRow) : Routine TicketRow :=
  if inbound.fromCustomer then
    resumePause site (saveKeys site caller) caller.req.clock.postSave inst
  else pure inst

/-- `_add_reply_to_ticket`, from the resumption of the SLA clock on. -/
def addReply (inbound : InboundReply) (inst : TicketRow) : Routine TicketRow :=
  if inbound.bodyIsBlank then pure inst
  else do
    let inst ← resumeForReply site caller inbound inst
    whenSome (changeStatus site caller) (reopenTarget site inst.ticket) inst

end Services

/-- What a request asks for. -/
inductive Demand where
  | patch (patch : Patch)
  | assign (assignee : ℕ)
  | changeStatus (newStatus : TicketStatus)
  | escalate (assignee : Option ℕ) (queue : Option Queue)
  | addTag (tags : List String)
  | reply (inbound : InboundReply)

/-- One request on the ticket. -/
structure Visit extends Caller where
  demand : Demand

def Visit.serve (site : Site) (visit : Visit) (inst : TicketRow) : Routine TicketRow :=
  match visit.demand with
  | .patch patch => performUpdate site visit.toCaller patch inst
  | .assign assignee => assignTo site visit.toCaller assignee inst
  | .changeStatus newStatus => transitionStatus site visit.toCaller newStatus inst
  | .escalate assignee queue => escalate site visit.toCaller assignee queue inst
  | .addTag tags => addTag site visit.toCaller tags inst
  | .reply inbound => addReply site visit.toCaller inbound inst

/-! ## What the requests submit and derive -/

/-- The fields in the body of a `PATCH`. -/
def Patch.submits (patch : Patch) : Key → Bool
  | .column .status => patch.status.isSome
  | .column .priority => patch.priority.isSome
  | .column .assignee => patch.assignee.isSome
  | .column .queue => patch.queue.isSome
  | .column .pipelineStage => patch.pipelineStage.isSome
  | .column .wonReason => patch.wonReason.isSome
  | .column .lostReason => patch.lostReason.isSome
  | .column .tags => patch.tags.isSome
  | .contact => patch.contact.isSome
  | .company => patch.company.isSome
  | .field field => (patch.fields field).isSome
  | _ => false

section Submissions

variable (site : Site) (demand : Demand) (loaded : TicketRow)

/-- The columns that a request submits.  A reply submits the status when it returns the ticket
to another one. -/
def Demand.submits (key : Key) : Bool :=
  match demand with
  | .patch body => body.submits key
  | .assign _ => key = .column .assignee
  | .changeStatus _ => key = .column .status
  | .escalate assignee queue =>
    assignee.isSome && key = .column .assignee || queue.isSome && key = .column .queue
  | .addTag _ => key = .column .tags
  | .reply inbound =>
    !inbound.bodyIsBlank && (reopenTarget site loaded.ticket).isSome && key = .column .status

def Demand.wish : TicketRow :=
  match demand with
  | .patch body =>
    (body.apply loaded).modify fun ticket =>
      { ticket with
        status := body.status.getD ticket.status
        priority := body.priority.getD ticket.priority
        assignee := body.assignee.getD ticket.assignee }
  | .assign assignee => loaded.modify fun ticket => { ticket with assignee := some assignee }
  | .changeStatus newStatus => loaded.modify fun ticket => { ticket with status := newStatus }
  | .escalate assignee queue =>
    loaded.modify fun ticket =>
      { ticket with
        assignee := assignee.or ticket.assignee
        queue := queue.or ticket.queue }
  | .addTag tags => loaded.modify fun ticket => { ticket with tags := (ticket.tags ++ tags).dedup }
  | .reply _ =>
    loaded.modify fun ticket =>
      { ticket with status := (reopenTarget site ticket).getD ticket.status }

def TicketRow.lacksCompany (inst : TicketRow) : Bool :=
  inst.company.isNone && (inst.contact.bind site.contactCompany).isSome

def statusDerived : List Key :=
  [.column .statusChangedAt, .column .statusChangedBy, .column .preWaitStatus, .column .solvedAt,
    .column .autoCloseTaskId, .internal .needsKbArticle]

def receiverDerived : List Key :=
  [.column .resolvedAt, .column .closedAt, .column .slaResolutionBreached, .column .slaPausedAt,
    .column .slaFirstResponseDue, .column .slaResolutionDue]

def assignmentDerived (status : TicketStatus) : List Key :=
  [.column .assignedBy, .column .assignedAt] ++
    (if (autoTransition site.ws status).isSome then [.column .status] else [])

def Demand.derived : List Key :=
  .column .updatedAt ::
    match demand with
    | .patch body =>
      (if (body.newStatus loaded.ticket).isSome then statusDerived else []) ++
      (if (body.apply loaded).lacksCompany site then [.company] else []) ++
      (if (body.newAssignee loaded.ticket).isSome then
        assignmentDerived site (body.status.getD loaded.ticket.status) else [])
    | .assign _ => assignmentDerived site loaded.ticket.status
    | .changeStatus newStatus => if newStatus = loaded.ticket.status then [] else statusDerived
    | .escalate assignee _ =>
      [.column .escalationCount, .column .escalatedAt] ++
      (if assignee.isSome then [.column .assignedBy, .column .assignedAt] else []) ++
      (if (site.ws.policyFor loaded.ticket.priority).isSome then
        [.column .slaPolicy, .column .slaFirstResponseDue, .column .slaResolutionDue,
          .column .slaExtendedAt] else [])
    | .addTag _ => []
    | .reply inbound =>
      if inbound.bodyIsBlank then []
      else
        (if inbound.fromCustomer then
          [.column .slaPausedAt, .column .slaFirstResponseDue, .column .slaResolutionDue]
          else []) ++
        (if (reopenTarget site loaded.ticket).isSome then statusDerived else [])

/-- A request that, left alone, stores what it submits: it derives none of the columns that it
submits, and a null assignee comes for a ticket without one. -/
def Demand.Clear : Prop :=
  (∀ key, demand.submits site loaded key → key ∉ demand.derived site loaded) ∧
    match demand with
    | .patch body => body.assignee = some none → loaded.ticket.assignee = none
    | _ => True

end Submissions

end Kanzan.Tickets

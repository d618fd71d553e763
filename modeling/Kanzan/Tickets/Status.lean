import Kanzan.Tickets.Save

/-!
# Operations that change a status

The transition map, `changeTicketStatus`, and the operations that route through it
or write the status on their own.  Each works on a session, that is on a loaded
instance and the store; the ones that can raise return the message.
-/

namespace Kanzan.Tickets

open Sla

/-- What a request brings along: its clock readings and its acting user. -/
structure Request where
  clock : Clock
  actor : Option ℕ := none
  deriving DecidableEq, Repr

/-! ## The transition map -/

/-- `ALLOWED_TRANSITIONS`; a slug without an entry is unrestricted. -/
def allowedTransitions : String → Option (List String)
  | "open" => some ["in-progress", "waiting", "resolved", "closed"]
  | "in-progress" => some ["open", "waiting", "resolved", "closed"]
  | "waiting" => some ["open", "in-progress", "resolved", "closed"]
  | "resolved" => some ["closed", "open"]
  | "closed" => some []
  | _ => none

/-- `validate_status_transition`. -/
def validateStatusTransition (ticket : Ticket) (newStatus : TicketStatus) : Except String Unit :=
  let oldStatus := ticket.status
  if oldStatus = newStatus then .ok ()
  else
    match allowedTransitions oldStatus.slug with
    | none => .ok ()
    | some [] =>
      .error s!"Cannot transition from '{oldStatus.name}' — '{oldStatus.slug}' is a terminal status."
    | some (first :: rest) =>
      if newStatus.slug ∈ first :: rest then .ok ()
      else
        let allowedDisplay := ", ".intercalate (first :: rest)
        .error (s!"Cannot transition from '{oldStatus.name}' to '{newStatus.name}'. " ++
          s!"Allowed transitions from '{oldStatus.slug}': {allowedDisplay}.")

/-! ## `change_ticket_status` -/

/-- An instance under edit and the `update_fields` gathered for it. -/
structure Draft where
  ticket : Ticket
  updateFields : List Column

def Draft.snapshotPreWait (oldStatus newStatus : TicketStatus) (draft : Draft) : Draft :=
  if newStatus.pausesSla && !oldStatus.pausesSla then
    { ticket := { draft.ticket with preWaitStatus := some oldStatus }
      updateFields := draft.updateFields ++ [.preWaitStatus] }
  else if oldStatus.pausesSla && !newStatus.pausesSla then
    { ticket := { draft.ticket with preWaitStatus := none }
      updateFields := draft.updateFields ++ [.preWaitStatus] }
  else draft

def resolvedEdge (oldStatus newStatus : TicketStatus) : Prop :=
  newStatus.slug = "resolved" ∧ oldStatus.slug ≠ "resolved"

instance (oldStatus newStatus : TicketStatus) : Decidable (resolvedEdge oldStatus newStatus) :=
  inferInstanceAs (Decidable (_ ∧ _))

/-- Phase 4: `solved_at` and the auto-close task follow the resolved status. -/
def Draft.trackResolved (now : Instant) (oldStatus newStatus : TicketStatus) (draft : Draft) :
    Draft :=
  if resolvedEdge oldStatus newStatus then
    { ticket := { draft.ticket with solvedAt := some now }
      updateFields := draft.updateFields ++ [.solvedAt] }
  else if resolvedEdge newStatus oldStatus then
    { ticket := { draft.ticket with solvedAt := none, autoCloseTaskId := none }
      updateFields := draft.updateFields ++ [.solvedAt, .autoCloseTaskId] }
  else draft

/-- Closure timestamps, included explicitly because the save lists its columns. -/
def Draft.stampClosure (now : Instant) (oldStatus newStatus : TicketStatus) (draft : Draft) :
    Draft :=
  if newStatus.isClosed && !oldStatus.isClosed then
    { ticket :=
        { draft.ticket with
          resolvedAt := some (draft.ticket.resolvedAt.getD now)
          closedAt := some (draft.ticket.closedAt.getD now) }
      updateFields := draft.updateFields ++ [.resolvedAt, .closedAt] }
  else if oldStatus.isClosed && !newStatus.isClosed then
    { ticket := { draft.ticket with resolvedAt := none, closedAt := none }
      updateFields := draft.updateFields ++ [.resolvedAt, .closedAt] }
  else draft

def Draft.flagBreach (now : Instant) (oldStatus newStatus : TicketStatus) (draft : Draft) :
    Draft :=
  if newStatus.isClosed && !oldStatus.isClosed then
    let ticket := checkResolutionBreach draft.ticket now
    { ticket
      updateFields :=
        if ticket.slaResolutionBreached then draft.updateFields ++ [.slaResolutionBreached]
        else draft.updateFields }
  else draft

/-- The edits that `change_ticket_status` makes before it saves. -/
def statusDraft (req : Request) (newStatus : TicketStatus) (ticket : Ticket) : Draft :=
  let now := req.clock.service
  let oldStatus := ticket.status
  let draft : Draft :=
    { ticket :=
        { ticket with
          status := newStatus
          statusChangedAt := some now
          statusChangedBy := req.actor }
      updateFields := [.status, .statusChangedAt, .statusChangedBy, .updatedAt] }
  ((((draft.snapshotPreWait oldStatus newStatus).trackResolved now oldStatus newStatus).stampClosure
    now oldStatus newStatus).flagBreach now oldStatus newStatus)

def statusEvent (oldStatus newStatus : TicketStatus) : ActivityEvent :=
  if newStatus.isClosed && !oldStatus.isClosed then .closed
  else if oldStatus.isClosed && !newStatus.isClosed then .reopened
  else .statusChanged

/-- `transaction.on_commit(_schedule_resolved_tasks)`. -/
def Db.registerOnCommit (db : Db) (ticket : ℕ) : Db :=
  { db with onCommit := db.onCommit ++ [ticket] }

def saveDraft (ws : Workspace) (clock : Clock) (draft : Draft) (s : Session) : Session :=
  save ws clock draft.updateFields (s.modify fun _ => draft.ticket)

section Operations

variable (ws : Workspace) (req : Request)

/-- `change_ticket_status`. -/
def changeTicketStatus (newStatus : TicketStatus) (s : Session) : Session :=
  let oldStatus := s.ticket.status
  if oldStatus = newStatus then s
  else
    let s := saveDraft ws req.clock (statusDraft req newStatus s.ticket) s
    let s := s.log (statusEvent oldStatus newStatus)
    if resolvedEdge oldStatus newStatus then
      { s with db := s.db.registerOnCommit s.id }
    else s

/-- `transition_ticket_status`. -/
def transitionTicketStatus (newStatus : TicketStatus) (s : Session) : Except String Session :=
  match validateStatusTransition s.ticket newStatus with
  | .error message => .error message
  | .ok () => .ok (changeTicketStatus ws req newStatus s)

/-- `close_ticket`. -/
def closeTicket (s : Session) : Except String Session :=
  if s.ticket.status.isClosed then .ok s
  else
    match ws.closedStatus with
    | none =>
      .error ("No closed status configured for this tenant. " ++
        "Create a TicketStatus with is_closed=True.")
    | some closedStatus => transitionTicketStatus ws req closedStatus s

def usablePreWait (ticket : Ticket) : Option TicketStatus :=
  match ticket.preWaitStatus with
  | none => none
  | some target =>
    if target ∉ ws.statuses then none
    else if target.isClosed || target.pausesSla then none
    else some target

/-- The status that `resume_from_wait` returns a ticket to. -/
def resumeTarget (ticket : Ticket) : Option TicketStatus :=
  match usablePreWait ws ticket with
  | some target => some target
  | none => ws.statusBySlug "open"

/-- `resume_from_wait`. -/
def resumeFromWait (s : Session) : Session :=
  if !s.ticket.status.pausesSla then s
  else
    match resumeTarget ws s.ticket with
    | none => s
    | some target =>
      if target = s.ticket.status then s else changeTicketStatus ws req target s

/-! ## Operations that end in a status change -/

/-- A kanban column as `move_card` sees it. -/
structure KanbanColumn where
  name : String
  status : Option TicketStatus := none
  isPersonal : Bool := false
  wipLimit : Option ℕ := none
  cards : ℕ := 0

/-- Whether a column has reached its limit; a limit of zero is none. -/
def KanbanColumn.isFull (column : KanbanColumn) : Bool :=
  match column.wipLimit with
  | none => false
  | some limit => limit ≠ 0 ∧ limit ≤ column.cards

/-- `move_card`, as far as it concerns the ticket on the card. -/
def moveCard (column : KanbanColumn) (isSameColumn : Bool) (s : Session) :
    Except String Session :=
  if !isSameColumn && column.isFull then
    .error (s!"Column '{column.name}' has reached its WIP limit " ++
      s!"of {column.wipLimit.getD 0}.")
  else
    match column.status with
    | none => .ok s
    | some status =>
      if column.isPersonal || s.ticket.status = status then .ok s
      else .ok (changeTicketStatus ws req status s)

/-- `_reopen_resolved_ticket`. -/
def reopenResolvedTicket (s : Session) : Session :=
  match ws.statusBySlug "open" with
  | none => s
  | some openStatus => changeTicketStatus ws req openStatus s

/-- An inbound reply, after quoted text has been stripped from its body. -/
structure InboundReply where
  bodyIsBlank : Bool := false
  fromCustomer : Bool := true
  deriving DecidableEq, Repr

/-- `_add_reply_to_ticket`. -/
def addReplyToTicket (inbound : InboundReply) (s : Session) : Session :=
  if inbound.bodyIsBlank then s
  else
    let s :=
      if inbound.fromCustomer then
        resumeSlaPause ws (save ws req.clock) req.clock.postSave s
      else s
    if s.ticket.status.slug = "resolved" then reopenResolvedTicket ws req s
    else if s.ticket.status.pausesSla then resumeFromWait ws req s
    else s

/-- `auto_close_ticket` after its instance has been loaded, by the task of that id. -/
def autoCloseTicket (taskId : ℕ) (s : Session) : Session :=
  if s.ticket.status.slug ≠ "resolved" then s
  else if s.ticket.autoCloseTaskId ≠ some taskId then s
  else
    match ws.closedStatus with
    | none => s
    | some closedStatus =>
      let s := changeTicketStatus ws req closedStatus s
      let s := s.log .autoClosed
      { s with db := s.db.setAutoCloseTaskId s.id none }

/-! ## Operations that write the status themselves -/

/-- The secondary ticket of a merge as it is saved: closed, if the tenant can close
tickets, and pointing to the primary. -/
def mergeDraft (primary : ℕ) (secondary : Ticket) : Draft :=
  let now := req.clock.service
  let closed :=
    match ws.closedStatus with
    | none => secondary
    | some closedStatus =>
      { secondary with
        status := closedStatus
        closedAt := some (secondary.closedAt.getD now)
        resolvedAt := some (secondary.resolvedAt.getD now) }
  { ticket := { closed with mergedInto := some primary }
    updateFields := [.status, .closedAt, .resolvedAt, .mergedInto, .updatedAt] }

/-- `merge_tickets`, in the session of the secondary: its timeline moves to the primary
and the secondary is closed. -/
def mergeTickets (primary : ℕ) (s : Session) : Except String Session :=
  if primary = s.id then .error "Cannot merge a ticket into itself."
  else
    let s := saveDraft ws req.clock (mergeDraft ws req primary s.ticket)
      { s with db := s.db.moveActivities s.id primary }
    .ok { s with db := s.db.createTicketActivity primary .statusChanged }

def stageTarget (newStage : PipelineStage) (status : TicketStatus) : Option TicketStatus :=
  let target :=
    if newStage.isWon then ws.statusBySlug "resolved"
    else if newStage.isLost then ws.statusBySlug "closed"
    else none
  target.filter (fun target => status ≠ target)

/-- The ticket and columns that `transition_pipeline_stage` saves. -/
def stageDraft (newStage : PipelineStage) (reason : String) (ticket : Ticket) : Draft :=
  let now := req.clock.service
  let reason := if reason = "" then none else some reason
  let target := stageTarget ws newStage ticket.status
  let moved := { ticket with pipelineStage := some newStage }
  let ended :=
    if newStage.isWon then { moved with wonAt := some now, wonReason := reason }
    else if newStage.isLost then { moved with lostAt := some now, lostReason := reason }
    else moved
  { ticket :=
      match target with
      | none => ended
      | some target =>
        { ended with
          status := target
          statusChangedAt := some now
          statusChangedBy := req.actor }
    updateFields :=
      [.pipelineStage, .updatedAt] ++
      (if newStage.isWon then [.wonAt, .wonReason]
        else if newStage.isLost then [.lostAt, .lostReason] else []) ++
      (if target.isSome then [.status, .statusChangedAt, .statusChangedBy] else []) }

/-- Whether `transition_pipeline_stage` moves a ticket to a stage at all. -/
def entersStage (newStage : PipelineStage) (ticket : Ticket) : Bool :=
  !ticket.pipelineStage.any (fun old => old.pipeline ≠ newStage.pipeline) &&
    ticket.pipelineStage ≠ some newStage

/-- `transition_pipeline_stage`. -/
def transitionPipelineStage (newStage : PipelineStage) (reason : String) (s : Session) :
    Except String Session :=
  let oldStage := s.ticket.pipelineStage
  let oldStageName := (oldStage.map PipelineStage.name).getD ""
  if oldStage.any (fun old => old.pipeline ≠ newStage.pipeline) then
    .error (s!"Cannot move to stage '{newStage.name}' — it belongs to a " ++
      s!"different pipeline than the current stage '{oldStageName}'.")
  else if oldStage = some newStage then .ok s
  else
    .ok ((saveDraft ws req.clock (stageDraft ws req newStage reason s.ticket) s).log
      .pipelineStageChanged)

end Operations

end Kanzan.Tickets

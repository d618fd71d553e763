import Kanzan.Tickets.Rows

/-!
# Saving a ticket

`Ticket.save(update_fields=...)` with its receivers.  The pre-save receiver edits
the instance, the update writes the listed columns only, and the post-save
receiver opens or closes SLA pauses, saving the instance again.  What a save does
is said once here, up to the columns of the SLA clock.
-/

namespace Kanzan.Tickets

open Sla

/-- The columns of the ticket table that some save lists in `update_fields`. -/
inductive Column where
  | status
  | priority
  | queue
  | assignee
  | assignedBy
  | assignedAt
  | updatedAt
  | resolvedAt
  | closedAt
  | slaResponseBreached
  | slaResolutionBreached
  | tags
  | slaPolicy
  | slaFirstResponseDue
  | slaResolutionDue
  | slaPausedAt
  | slaExtendedAt
  | preWaitStatus
  | statusChangedAt
  | statusChangedBy
  | escalationCount
  | escalatedAt
  | solvedAt
  | autoCloseTaskId
  | mergedInto
  | pipelineStage
  | wonAt
  | wonReason
  | lostAt
  | lostReason
  | isDeleted
  deriving DecidableEq, Repr

/-- The row after `UPDATE`: the listed columns from the instance, the others kept. -/
def Ticket.persist (columns : List Column) (inst row : Ticket) : Ticket :=
  { row with
    status := if .status ∈ columns then inst.status else row.status
    priority := if .priority ∈ columns then inst.priority else row.priority
    queue := if .queue ∈ columns then inst.queue else row.queue
    assignee := if .assignee ∈ columns then inst.assignee else row.assignee
    assignedBy := if .assignedBy ∈ columns then inst.assignedBy else row.assignedBy
    assignedAt := if .assignedAt ∈ columns then inst.assignedAt else row.assignedAt
    updatedAt := if .updatedAt ∈ columns then inst.updatedAt else row.updatedAt
    resolvedAt := if .resolvedAt ∈ columns then inst.resolvedAt else row.resolvedAt
    closedAt := if .closedAt ∈ columns then inst.closedAt else row.closedAt
    slaResponseBreached :=
      if .slaResponseBreached ∈ columns then inst.slaResponseBreached else row.slaResponseBreached
    slaResolutionBreached :=
      if .slaResolutionBreached ∈ columns then inst.slaResolutionBreached
      else row.slaResolutionBreached
    tags := if .tags ∈ columns then inst.tags else row.tags
    slaPolicy := if .slaPolicy ∈ columns then inst.slaPolicy else row.slaPolicy
    slaFirstResponseDue :=
      if .slaFirstResponseDue ∈ columns then inst.slaFirstResponseDue else row.slaFirstResponseDue
    slaResolutionDue :=
      if .slaResolutionDue ∈ columns then inst.slaResolutionDue else row.slaResolutionDue
    slaPausedAt := if .slaPausedAt ∈ columns then inst.slaPausedAt else row.slaPausedAt
    slaExtendedAt := if .slaExtendedAt ∈ columns then inst.slaExtendedAt else row.slaExtendedAt
    preWaitStatus := if .preWaitStatus ∈ columns then inst.preWaitStatus else row.preWaitStatus
    statusChangedAt :=
      if .statusChangedAt ∈ columns then inst.statusChangedAt else row.statusChangedAt
    statusChangedBy :=
      if .statusChangedBy ∈ columns then inst.statusChangedBy else row.statusChangedBy
    escalationCount :=
      if .escalationCount ∈ columns then inst.escalationCount else row.escalationCount
    escalatedAt := if .escalatedAt ∈ columns then inst.escalatedAt else row.escalatedAt
    solvedAt := if .solvedAt ∈ columns then inst.solvedAt else row.solvedAt
    autoCloseTaskId :=
      if .autoCloseTaskId ∈ columns then inst.autoCloseTaskId else row.autoCloseTaskId
    mergedInto := if .mergedInto ∈ columns then inst.mergedInto else row.mergedInto
    pipelineStage := if .pipelineStage ∈ columns then inst.pipelineStage else row.pipelineStage
    wonAt := if .wonAt ∈ columns then inst.wonAt else row.wonAt
    wonReason := if .wonReason ∈ columns then inst.wonReason else row.wonReason
    lostAt := if .lostAt ∈ columns then inst.lostAt else row.lostAt
    lostReason := if .lostReason ∈ columns then inst.lostReason else row.lostReason
    isDeleted := if .isDeleted ∈ columns then inst.isDeleted else row.isDeleted }

/-- The readings of `timezone.now()` during one request: by the service function, by
the two receivers, and by the `auto_now` field. -/
structure Clock where
  service : Instant
  preSave : Instant
  autoNow : Instant
  postSave : Instant
  deriving DecidableEq, Repr

/-- The store together with the model instance a request works on, and its key. -/
structure Session where
  db : Db
  id : ℕ
  ticket : Ticket

def Session.modify (s : Session) (edit : Ticket → Ticket) : Session :=
  { s with ticket := edit s.ticket }

/-! ## The pre-save receiver -/

/-- `_check_resolution_breach`, which the pre-save receiver spells out again. -/
def checkResolutionBreach (ticket : Ticket) (now : Instant) : Ticket :=
  if ticket.slaResolutionBreached then ticket
  else
    match ticket.slaResolutionDue with
    | none => ticket
    | some due =>
      if due < ticket.closedAt.getD now then { ticket with slaResolutionBreached := true }
      else ticket

/-- `handle_ticket_status_change`: the closure stamps follow the status, on the
instance only. -/
def handleTicketStatusChange (now : Instant) (previous inst : Ticket) : Ticket :=
  if previous.status = inst.status then inst
  else if inst.status.isClosed then
    checkResolutionBreach
      { inst with
        resolvedAt := some (inst.resolvedAt.getD now)
        closedAt := some (inst.closedAt.getD now) } now
  else { inst with resolvedAt := none, closedAt := none }

/-! ## The update -/

/-- `UPDATE tickets SET columns WHERE id`; a changed status enters the history. -/
def Db.updateTicket (db : Db) (id : ℕ) (columns : List Column) (inst previous : Ticket) : Db :=
  let row := inst.persist columns previous
  { db with
    tickets := Function.update db.tickets id (some row)
    statusLog :=
      if previous.status = row.status then db.statusLog
      else db.statusLog ++ [⟨id, previous.status, row.status⟩] }

/-- The `auto_now` field, refreshed only when it is among the saved columns. -/
def Ticket.autoNow (ticket : Ticket) (columns : List Column) (now : Instant) : Ticket :=
  if .updatedAt ∈ columns then { ticket with updatedAt := now } else ticket

def write (clock : Clock) (columns : List Column) (s : Session) : Session :=
  match s.db.tickets s.id with
  | none => s
  | some previous =>
    let inst := (handleTicketStatusChange clock.preSave previous s.ticket).autoNow
      columns clock.autoNow
    { s with db := s.db.updateTicket s.id columns inst previous, ticket := inst }

/-! ## The post-save receiver -/

/-- `_create_ticket_activity` for the ticket at hand. -/
def Session.log (s : Session) (event : ActivityEvent) : Session :=
  { s with db := s.db.createTicketActivity s.id event }

/-- `log_sla_change`: an entry when one of the deadlines has moved. -/
def logSlaChange (old : Ticket) (s : Session) : Session :=
  if old.slaFirstResponseDue = s.ticket.slaFirstResponseDue ∧
      old.slaResolutionDue = s.ticket.slaResolutionDue then s
  else s.log .statusChanged

/-- `ticket.sla_paused_at = pausedAt`. -/
def Ticket.setSlaPausedAt (pausedAt : Option Instant) (ticket : Ticket) : Ticket :=
  { ticket with slaPausedAt := pausedAt }

def Ticket.mapDeadlines (shift : Instant → Instant) (ticket : Ticket) : Ticket :=
  { ticket with
    slaFirstResponseDue := ticket.slaFirstResponseDue.map shift
    slaResolutionDue := ticket.slaResolutionDue.map shift }

section Receivers

variable (ws : Workspace) (save : List Column → Session → Session)

/-- `_shift_sla_deadlines`. -/
def shiftSlaDeadlines (pauseStart pauseEnd : Instant) (s : Session) : Session :=
  let minutes := elapsedBusinessMinutes pauseStart pauseEnd ws.toTenant
  if minutes ≤ 0 then s
  else if s.ticket.slaFirstResponseDue = none ∧ s.ticket.slaResolutionDue = none then s
  else
    let shift := fun due => addBusinessMinutes due minutes ws.toTenant
    let columns :=
      (if s.ticket.slaFirstResponseDue.isSome then [Column.slaFirstResponseDue] else []) ++
      (if s.ticket.slaResolutionDue.isSome then [Column.slaResolutionDue] else []) ++
      [.updatedAt]
    logSlaChange s.ticket (save columns (s.modify (Ticket.mapDeadlines shift)))

def Db.latestOpenPause (db : Db) (ticket : ℕ) : Option SLAPause :=
  ((db.openPauses ticket).insertionSort (fun a b => b.pausedAt ≤ a.pausedAt)).head?

/-- `open_pause.resumed_at = now; open_pause.save(...)`. -/
def Db.closePause (db : Db) (pause : SLAPause) (now : Instant) : Db :=
  { db with pauses := db.pauses.replace pause { pause with resumedAt := some now } }

/-- `SLAPause(ticket=ticket, paused_at=now).save()`. -/
def Db.openPause (db : Db) (ticket : ℕ) (now : Instant) : Db :=
  { db with pauses := db.pauses ++ [{ pk := db.pauses.length, ticket, pausedAt := now }] }

/-- `_resume_sla_pause`. -/
def resumeSlaPause (now : Instant) (s : Session) : Session :=
  match s.db.latestOpenPause s.id with
  | none => s
  | some pause =>
    let s := { s with db := s.db.closePause pause now }
    let s := shiftSlaDeadlines ws save pause.pausedAt now s
    let s := save [.slaPausedAt, .updatedAt] (s.modify (Ticket.setSlaPausedAt none))
    s.log .slaResumed

/-- `handle_sla_pause_on_status_change`, given the status its pre-save partner found
in the row. -/
def handleSlaPauseOnStatusChange (previous : TicketStatus) (now : Instant) (s : Session) :
    Session :=
  if previous = s.ticket.status then s
  else
    match previous.pausesSla, s.ticket.status.pausesSla with
    | false, true =>
      let s := { s with db := s.db.openPause s.id now }
      let s := save [.slaPausedAt, .updatedAt] (s.modify (Ticket.setSlaPausedAt (some now)))
      s.log .slaPaused
    | true, false => resumeSlaPause ws save now s
    | _, _ => s

end Receivers

def saveDepth (ws : Workspace) (clock : Clock) : ℕ → List Column → Session → Session
  | 0, columns, s => write clock columns s
  | depth + 1, columns, s =>
    match s.db.tickets s.id with
    | none => s
    | some previous =>
      handleSlaPauseOnStatusChange ws (saveDepth ws clock depth) previous.status
        clock.postSave (write clock columns s)

/-- `ticket.save(update_fields=columns)`.  The nested saves find the status unchanged
and run no receiver of their own (`saveDepth_of_settled`). -/
def save (ws : Workspace) (clock : Clock) (columns : List Column) (s : Session) : Session :=
  saveDepth ws clock 2 columns s

end Kanzan.Tickets

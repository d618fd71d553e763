import Kanzan.Support.Results
import Kanzan.Support.Runs
import Kanzan.Tickets.Scan

/-!
# The ticket system

One event is one request, task or scan.  A request that raises leaves the store as it
was; one that returns commits, and the hooks registered for the commit then run.  A
bulk request is one event a ticket, and a `PATCH` one event a tracked field.
-/

namespace Kanzan.Tickets

open Sla Support

/-- The operations, named after the functions they call. -/
inductive Op where
  | createTicket (creator : ℕ) (data : NewTicket)
  | createTicketFromEmail (systemUser : ℕ) (overrides : NewTicket) (agent : Option ℕ)
  | splitTicket (source actor : ℕ) (data : SplitRequest)
  | transitionTicketStatus (ticket : ℕ) (newStatus : TicketStatus)
  | bulkChangeStatus (ticket : ℕ) (newStatus : TicketStatus)
  | moveCard (ticket : ℕ) (column : KanbanColumn) (isSameColumn : Bool)
  | closeTicket (ticket : ℕ)
  | assignTicket (ticket assignee : ℕ) (note : String)
  | escalateTicket (ticket : ℕ) (reason : String) (assignee : Option ℕ) (queue : Option Queue)
  | changeTicketPriority (ticket : ℕ) (newPriority : Priority)
  | addTags (ticket : ℕ) (tags : List String)
  | softDelete (ticket : ℕ)
  | recordFirstResponse (ticket : ℕ)
  | mergeTickets (primary secondary : ℕ)
  | transitionPipelineStage (ticket : ℕ) (newStage : PipelineStage) (reason : String)
  | applyMacro (ticket : ℕ) (actions : List MacroAction)
  | autoCloseTicket (ticket taskId : ℕ)
  | addReplyToTicket (ticket : ℕ) (inbound : InboundReply)
  | autoAssignTicket (ticket : ℕ) (agent : Option ℕ)
  | autoAssignEmailTicket (ticket : ℕ) (agent : Option ℕ)
  | saveSlaPolicy (policy : SLAPolicy)
  | checkTenantSla (clocks : ℕ → Clock) (now : Instant)

/-- An operation with its request, and whether the task broker can be reached. -/
structure Event where
  op : Op
  req : Request
  brokerUp : Bool := true

def Db.onTicket (db : Db) (id : ℕ) (work : Session → Except String Session) :
    Except String Db :=
  match db.tickets id with
  | none => .error "Ticket matching query does not exist."
  | some ticket => (work { db, id, ticket }).map Session.db

def attempt (ws : Workspace) (req : Request) (op : Op) (db : Db) : Except String Db :=
  match op with
  | .createTicket creator data => (createTicket ws req creator data db).map Session.db
  | .createTicketFromEmail systemUser overrides agent =>
    (createTicketFromEmail ws req systemUser overrides agent db).map Session.db
  | .splitTicket source actor data => db.onTicket source (splitTicket ws req actor data)
  | .transitionTicketStatus id newStatus =>
    db.onTicket id (transitionTicketStatus ws req newStatus)
  | .bulkChangeStatus id newStatus =>
    db.onTicket id fun s => .ok (changeTicketStatus ws req newStatus s)
  | .moveCard id column isSameColumn => db.onTicket id (moveCard ws req column isSameColumn)
  | .closeTicket id => db.onTicket id (closeTicket ws req)
  | .assignTicket id assignee note => db.onTicket id (assignTicket ws req assignee note)
  | .escalateTicket id reason assignee queue =>
    db.onTicket id (escalateTicket ws req reason assignee queue)
  | .changeTicketPriority id newPriority =>
    db.onTicket id fun s => .ok (changeTicketPriority ws req newPriority s)
  | .addTags id tags => db.onTicket id fun s => .ok (addTags ws req tags s)
  | .softDelete id => db.onTicket id fun s => .ok (softDelete ws req s)
  | .recordFirstResponse id => db.onTicket id fun s => .ok (recordFirstResponse req s)
  | .mergeTickets primary secondary =>
    if (db.tickets primary).isNone then .error "Ticket matching query does not exist."
    else db.onTicket secondary (mergeTickets ws req primary)
  | .transitionPipelineStage id newStage reason =>
    db.onTicket id (transitionPipelineStage ws req newStage reason)
  | .applyMacro id actions => db.onTicket id (applyMacro ws req actions)
  | .autoCloseTicket id taskId => db.onTicket id fun s => .ok (autoCloseTicket ws req taskId s)
  | .addReplyToTicket id inbound => db.onTicket id fun s => .ok (addReplyToTicket ws req inbound s)
  | .autoAssignTicket id agent => db.onTicket id fun s => .ok (autoAssignTicket ws req agent s)
  | .autoAssignEmailTicket id agent =>
    db.onTicket id fun s => .ok (autoAssignEmailTicket ws req agent s)
  | .saveSlaPolicy policy =>
    if policy ∈ ws.policies then .ok (propagateSlaPolicyChange ws req policy db)
    else .error "SLAPolicy matching query does not exist."
  | .checkTenantSla clocks now => .ok (checkTenantSla ws clocks now db)

/-- `_schedule_auto_close`: enqueue a task, then store its id; a failure to enqueue is
swallowed. -/
def Db.scheduleAutoClose (brokerUp : Bool) (db : Db) (ticket : ℕ) : Db :=
  if brokerUp then
    let taskId := db.autoCloseTasks.length
    Db.setAutoCloseTaskId { db with autoCloseTasks := db.autoCloseTasks ++ [(taskId, ticket)] }
      ticket (some taskId)
  else db

def Db.commit (brokerUp : Bool) (db : Db) : Db :=
  db.onCommit.foldl (Db.scheduleAutoClose brokerUp) { db with onCommit := [] }

def step (ws : Workspace) (db : Db) (event : Event) : Db :=
  match attempt ws event.req event.op db with
  | .error _ => db
  | .ok after => after.commit event.brokerUp

variable {P : Db → Prop} {db : Db}

/-! ## Steps as a whole -/

section Steps

variable {ws : Workspace}

theorem step_preserves {event : Event} (holds : P db)
    (success : ∀ after, attempt ws event.req event.op db = .ok after →
      P (after.commit event.brokerUp)) : P (step ws db event) := by
  unfold step
  cases hattempt : attempt ws event.req event.op db with
  | error message => exact holds
  | ok after => exact success after hattempt

theorem onTicket_eq_ok {after : Db} {id : ℕ} {work : Session → Except String Session} :
    db.onTicket id work = .ok after ↔
      ∃ ticket s, db.tickets id = some ticket ∧ work { db, id, ticket } = .ok s ∧
        s.db = after := by
  unfold Db.onTicket
  cases hticket : db.tickets id with
  | none => simp
  | some ticket => simp [map_eq_ok]

@[simp]
theorem setAutoCloseTaskId_tickets (db : Db) (ticket : ℕ) (taskId : Option ℕ) (other : ℕ) :
    (db.setAutoCloseTaskId ticket taskId).tickets other =
      if other = ticket then
        (db.tickets other).map fun row => { row with autoCloseTaskId := taskId }
      else db.tickets other := rfl

theorem commit_preserves (brokerUp : Bool) (db : Db) (holds : P { db with onCommit := [] })
    (schedule : ∀ committed, ∀ ticket ∈ db.onCommit, P committed →
      P (committed.scheduleAutoClose brokerUp ticket)) : P (db.commit brokerUp) :=
  List.foldlRecOn _ _ holds fun committed hcommitted ticket hticket =>
    schedule committed ticket hticket hcommitted

theorem commit_keeps {brokerUp : Bool}
    (hqueue : ∀ db tasks hooks, P db → P { db with autoCloseTasks := tasks, onCommit := hooks })
    (htask : ∀ db ticket taskId, P db → P (db.setAutoCloseTaskId ticket taskId)) (holds : P db) :
    P (db.commit brokerUp) := by
  apply commit_preserves brokerUp db
  · exact hqueue db db.autoCloseTasks [] holds
  · intro committed ticket _ holds
    unfold Db.scheduleAutoClose
    split
    · exact htask _ ticket _ (hqueue committed _ committed.onCommit holds)
    · exact holds

theorem commit_map {α : Type*} (read : Ticket → α)
    (hread : ∀ (row : Ticket) taskId, read { row with autoCloseTaskId := taskId } = read row)
    (brokerUp : Bool) (db : Db) (id : ℕ) :
    ((db.commit brokerUp).tickets id).map read = (db.tickets id).map read := by
  refine commit_keeps (P := fun after => (after.tickets id).map read = (db.tickets id).map read)
    (fun _ _ _ same => same) ?_ rfl
  intro after ticket taskId same
  rw [← same, setAutoCloseTaskId_tickets]
  split
  · rw [Option.map_map]
    congr 1
    funext row
    exact hread row taskId
  · rfl

end Steps

end Kanzan.Tickets

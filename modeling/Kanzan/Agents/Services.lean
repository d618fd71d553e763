import Mathlib.Data.Prod.Lex
import Kanzan.Inbox.Rows
import Kanzan.Support.Tables

/-!
# Workloads and the assignment of tickets

Counting the tickets of an agent, and the two ways of giving a ticket to an agent without
being asked.
-/

namespace Kanzan.Agents

open Sla Support Tickets Inbox

/-! ## Counting -/

def assignedOpen (user : ℕ) (ticket : Ticket) : Bool :=
  ticket.assignee == some user && !ticket.status.isClosed

def countTickets (db : Db) (condition : Ticket → Bool) : ℕ :=
  countRows db.tickets db.ticketIds condition

/-- `update_ticket_count`, on a row just read. -/
def updateTicketCount (user : ℕ) (db : HubDb) : HubDb :=
  let actualCount := countTickets db.tickets (assignedOpen user)
  if (db.agents user).any fun avail => avail.currentTicketCount != actualCount then
    db.updateAgent user fun avail => { avail with currentTicketCount := actualCount }
  else db

def firstLeast {α κ : Type} [LT κ] [DecidableLT κ] (key : α → κ) : List α → Option α
  | [] => none
  | item :: rest => some (rest.foldl (fun best item => if key item < key best then item else best) item)

theorem firstLeast_mem {α κ : Type} [LT κ] [DecidableLT κ] {key : α → κ} {items : List α} {least : α}
    (hleast : firstLeast key items = some least) : least ∈ items := by
  cases items with
  | nil => cases hleast
  | cons first rest =>
    have hfold : ∀ (rest : List α) (best : α),
        rest.foldl (fun best item => if key item < key best then item else best) best ∈
          best :: rest := by
      intro rest
      induction rest with
      | nil => exact List.mem_singleton_self
      | cons item rest ih =>
        intro best
        rw [List.foldl_cons]
        split
        · exact List.mem_cons_of_mem best (ih item)
        · rcases List.mem_cons.mp (ih best) with hbest | hrest
          · rw [hbest]
            exact List.mem_cons_self
          · exact List.mem_cons_of_mem best (List.mem_cons_of_mem item hrest)
    rw [firstLeast, Option.some.injEq] at hleast
    exact hleast ▸ hfold rest first

section Assignment

variable (hub : Hub) (req : Request)

/-- The agents that `get_available_agent` chooses from. -/
def isAvailable (db : HubDb) (user : ℕ) : Bool :=
  (db.agents user).any fun avail =>
    avail.status == .online && decide (avail.currentTicketCount < avail.maxConcurrentTickets)

/-- `get_available_agent`. -/
def getAvailableAgent (queue : Option Queue) (db : HubDb) : Option ℕ :=
  let preferred := (queue.bind Queue.defaultAssignee).filter (isAvailable db)
  preferred.or (firstLeast (fun user =>
      ((db.agents user).map AgentAvailability.currentTicketCount).getD 0)
    (db.agentIds.filter (isAvailable db)))

theorem isAvailable_of_getAvailableAgent {queue : Option Queue} {db : HubDb} {user : ℕ}
    (hagent : getAvailableAgent queue db = some user) : isAvailable db user = true := by
  unfold getAvailableAgent at hagent
  rcases Option.or_eq_some_iff.mp hagent with hpreferred | ⟨-, hleast⟩
  · exact (Option.filter_eq_some_iff.mp hpreferred).2
  · exact (List.mem_filter.mp (firstLeast_mem hleast)).2

/-- `auto_assign_ticket`; the agent's row is locked and found as it was read. -/
def autoAssignTicket (id : ℕ) (db : HubDb) : HubDb :=
  match db.tickets.tickets id with
  | none => db
  | some ticket =>
    match getAvailableAgent ticket.queue db with
    | none => db
    | some user =>
      let s := Tickets.autoAssignTicket hub.workspace req (some user)
        { db := db.tickets, id, ticket }
      HubDb.updateAgent { db with tickets := s.db } user (.takeOn req.clock.service)

def lastPlace (history : List ℕ) (user : ℕ) : ℕ :=
  history.length - history.reverse.idxOf user

/-- `pick_email_agent`. -/
def pickEmailAgent (db : HubDb) : Option ℕ :=
  let eligible := hub.workspace.memberships.filter fun membership =>
    membership.isActive && hub.roleLevel membership.role == 30 &&
      !(db.agents membership.user).any fun avail => avail.status == .offline
  firstLeast (fun user => toLex
    (countTickets db.tickets (fun ticket => assignedOpen user ticket && !ticket.isDeleted),
      lastPlace (db.tickets.assignments.map TicketAssignment.assignedTo) user))
    (eligible.map TenantMembership.user)

end Assignment

end Kanzan.Agents

import Kanzan.Comments.Rows
import Kanzan.Tickets.Rows

/-!
# What is computed from the tickets of a tenant

The ticket export, the ticket counts of the agents, the lead scores of the contacts, and the
contacts and comments that a member is shown.  Each of them reads the tickets through
`Ticket.unscoped`, the soft-deleted ones with the others.  Tables are listed in the order in which
their rows were created; times are microseconds.
-/

namespace Kanzan.Analytics

open Attachments (Session)
open Tickets (Priority)

/-! ## Rows -/

/-- `Ticket.TicketType`. -/
inductive TicketType where
  | support
  | deal
  | inquiry
deriving DecidableEq

/-- A ticket, with the columns that the computations read. -/
structure Ticket extends Attachments.Ticket where
  number : ℕ
  subject : String
  status : ℕ
  priority : Priority := .medium
  queue : Option ℕ := none
  contact : Option ℕ := none
  createdAt : ℕ
  resolvedAt : Option ℕ := none
  ticketType : TicketType := .support
  csatRating : Option ℕ := none
  csatSubmittedAt : Option ℕ := none

structure TicketStatus where
  id : ℕ
  tenant : ℕ
  slug : String
  name : String
  isClosed : Bool := false

structure Queue where
  id : ℕ
  name : String

structure User where
  id : String
  firstName : String
  lastName : String

structure Contact where
  id : ℕ
  tenant : ℕ
  firstName : String
  lastName : String
  lastActivityAt : Option ℕ := none
  leadScore : ℕ := 0
deriving DecidableEq

structure ContactEvent where
  tenant : ℕ
  contact : ℕ
  occurredAt : ℕ

structure Activity where
  tenant : ℕ
  contact : Option ℕ := none
  completedAt : Option ℕ := none

structure AgentAvailability where
  tenant : ℕ
  user : String
  currentTicketCount : ℕ := 0
deriving DecidableEq

/-- The tables. -/
structure Db where
  tickets : List Ticket := []
  statuses : List TicketStatus := []
  queues : List Queue := []
  users : List User := []
  contacts : List Contact := []
  events : List ContactEvent := []
  activities : List Activity := []
  activeTenants : List ℕ := []
  memberships : List Accounts.Membership := []
  superusers : List String := []
  comments : List Comments.Comment := []
  tickets_id : (tickets.map fun ticket => ticket.id).Nodup := by decide

/-- `get_priority_display`. -/
def priorityDisplay : Priority → String
  | .low => "Low"
  | .medium => "Medium"
  | .high => "High"
  | .urgent => "Urgent"
  | .other value => value

/-- `get_full_name`. -/
def User.getFullName (user : User) : String := Mail.strip (user.firstName ++ " " ++ user.lastName)

/-- `Contact.full_name`, which is also the text of a contact. -/
def Contact.fullName (contact : Contact) : String :=
  Mail.strip (contact.firstName ++ " " ++ contact.lastName)

/-- The filters of an export job, as far as they are set. -/
structure ExportFilters where
  status : Option String := none
  priority : Option Priority := none
  assignee : Option String := none
  dateFrom : Option ℕ := none
  dateTo : Option ℕ := none

/-- A row of the ticket export. -/
structure ExportRow where
  number : ℕ
  subject : String
  status : String
  priority : String
  assignee : String
  queue : String
  contact : String
  createdAt : String
  resolvedAt : String
deriving DecidableEq

def exportHeaders : List String :=
  ["number", "subject", "status", "priority", "assignee", "queue", "contact", "created_at",
    "resolved_at"]

def days (count : ℕ) : ℕ := count * 86400000000

namespace Db

variable (db : Db)

def statusOf (ticket : Ticket) : Option TicketStatus :=
  db.statuses.find? fun status => status.id == ticket.status

/-! ## The ticket export -/

/-- Whether the query of `_fetch_ticket_data` selects a ticket. -/
def exported (tenant : ℕ) (filters : ExportFilters) (ticket : Ticket) : Bool :=
  ticket.tenant == tenant &&
    (filters.status.all fun slug => (db.statusOf ticket).any fun status => status.slug == slug) &&
    (filters.priority.all fun priority => ticket.priority == priority) &&
    (filters.assignee.all fun assignee => ticket.assignee == some assignee) &&
    (filters.dateFrom.all fun dateFrom => decide (dateFrom ≤ ticket.createdAt)) &&
    (filters.dateTo.all fun dateTo => decide (ticket.createdAt ≤ dateTo))

def exportRow (isoformat : ℕ → String) (ticket : Ticket) : ExportRow where
  number := ticket.number
  subject := ticket.subject
  status := ((db.statusOf ticket).map TicketStatus.name).getD ""
  priority := priorityDisplay ticket.priority
  assignee := ((ticket.assignee.bind fun assignee =>
    db.users.find? fun user => user.id == assignee).map User.getFullName).getD ""
  queue := ((ticket.queue.bind fun id =>
    db.queues.find? fun queue => queue.id == id).map Queue.name).getD ""
  contact := ((ticket.contact.bind fun id =>
    db.contacts.find? fun contact => contact.id == id).map Contact.fullName).getD ""
  createdAt := isoformat ticket.createdAt
  resolvedAt := (ticket.resolvedAt.map isoformat).getD ""

/-- `_fetch_ticket_data`: the rows, newest ticket first, and the columns. -/
def fetchTicketData (isoformat : ℕ → String) (tenant : ℕ) (filters : ExportFilters) :
    List ExportRow × List String :=
  (((db.tickets.filter (db.exported tenant filters)).insertionSort
    fun first second => second.createdAt ≤ first.createdAt).map (db.exportRow isoformat),
    exportHeaders)

/-! ## The ticket counts -/

def closedStatusIds (tenant : ℕ) : List ℕ :=
  (db.statuses.filter fun status => status.tenant == tenant && status.isClosed).map TicketStatus.id

def counted (agent : AgentAvailability) (ticket : Ticket) : Bool :=
  ticket.tenant == agent.tenant && ticket.assignee == some agent.user &&
    !(db.closedStatusIds agent.tenant).contains ticket.status

/-- `update_ticket_count`. -/
def updateTicketCount (agent : AgentAvailability) : AgentAvailability :=
  let actualCount := (db.tickets.filter (db.counted agent)).length
  if agent.currentTicketCount ≠ actualCount then { agent with currentTicketCount := actualCount }
  else agent

/-! ## The lead scores -/

def hasRecentEvent (now : ℕ) (contact : Contact) : Bool :=
  db.events.any fun event => event.tenant == contact.tenant &&
    decide (now ≤ event.occurredAt + days 7) && event.contact == contact.id

def hasCompletedActivity (now : ℕ) (contact : Contact) : Bool :=
  db.activities.any fun activity => activity.tenant == contact.tenant &&
    activity.completedAt.any (fun completedAt => decide (now ≤ completedAt + days 14)) &&
    activity.contact == some contact.id

def isOpenDeal (contact : Contact) (ticket : Ticket) : Bool :=
  ticket.tenant == contact.tenant && ticket.ticketType == .deal &&
    !(db.closedStatusIds contact.tenant).contains ticket.status &&
    ticket.contact == some contact.id

end Db

def Ticket.isBadCsat (now : ℕ) (contact : Contact) (ticket : Ticket) : Bool :=
  ticket.tenant == contact.tenant && ticket.csatRating.any (fun rating => decide (rating ≤ 2)) &&
    ticket.csatSubmittedAt.any (fun submittedAt => decide (now ≤ submittedAt + days 90)) &&
    ticket.contact == some contact.id

def Contact.isInactive (now : ℕ) (contact : Contact) : Bool :=
  contact.lastActivityAt.all fun lastActivityAt => decide (lastActivityAt + days 30 < now)

def Ticket.isOwn (session : Session) (ticket : Ticket) : Bool :=
  ticket.tenant == session.tenant && Attachments.Db.agentCanSeeTicket session.user ticket.toTicket

def leadScore (recentEvent completedActivity openDeal inactive badCsat : Bool) : ℕ :=
  let score : ℤ := 50
  let score := if recentEvent then score + 20 else score
  let score := if completedActivity then score + 15 else score
  let score := if openDeal then score + 10 else score
  let score := if inactive then score - 20 else score
  let score := if badCsat then score - 15 else score
  (max 0 (min 100 score)).toNat

namespace Db

variable (db : Db)

def scored (now : ℕ) (contact : Contact) : Contact :=
  { contact with
    leadScore := leadScore (db.hasRecentEvent now contact) (db.hasCompletedActivity now contact)
      (db.tickets.any (db.isOpenDeal contact)) (contact.isInactive now)
      (db.tickets.any (Ticket.isBadCsat now contact)) }

/-- `calculate_lead_scores`: the contacts after it. -/
def calculateLeadScores (now : ℕ) : List Contact :=
  db.contacts.map fun contact =>
    if db.activeTenants.contains contact.tenant then db.scored now contact else contact

/-! ## What a member is shown -/

def commentTables : Comments.Db where
  memberships := db.memberships
  superusers := db.superusers
  tickets := db.tickets.map Ticket.toTicket
  comments := db.comments

/-- Whether the contacts are restricted to those of the user's own tickets. -/
def contactsRestricted (session : Session) : Bool :=
  if db.superusers.contains session.user then false
  else match db.commentTables.membershipOf session with
  | none => false
  | some membership => 20 < membership.level session.now

/-- `ContactViewSet.get_queryset`. -/
def contactQueryset (session : Session) : List Contact :=
  let tenantContacts := db.contacts.filter fun contact => contact.tenant == session.tenant
  if db.contactsRestricted session then
    tenantContacts.filter fun contact =>
      ((db.tickets.filter (Ticket.isOwn session)).filterMap Ticket.contact).contains contact.id
  else tenantContacts

/-- `CommentViewSet.get_queryset`. -/
def commentQueryset (session : Session) : List Comments.Comment :=
  db.commentTables.commentQueryset session

end Db

end Kanzan.Analytics

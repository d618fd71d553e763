import Kanzan.Accounts.Permissions
import Kanzan.Analytics.Outputs

/-!
# Endpoints that show tickets

The list of the tickets and a ticket, the lookup by case number, the search with its linked
emails, the bulk action, the context of a contact and the rendering of a canned response.  Each
decides on its own which tickets a member is shown.  The serializers are functions of a ticket
and of the other tables; what a bulk action writes is with the services.
-/

namespace Kanzan.Access

open Accounts (Membership Catalogue View)
open Attachments (Session)

/-! ## Rows -/

/-- A ticket; the columns that only serializers and filters read are by name. -/
structure Ticket extends toRow : Analytics.Ticket where
  columns : List (String × String) := []

structure TicketStatus extends Analytics.TicketStatus where
  color : String := "#6c757d"

/-- The account of a contact. -/
structure Account where
  name : String
  mrr : Option String := none
  healthScore : Option ℕ := none
deriving DecidableEq

structure Contact extends Analytics.Contact where
  email : String := ""
  emailBouncing : Bool := false
  createdAt : ℕ := 0
  company : Option String := none
  account : Option Account := none

structure InboundEmail where
  id : ℕ
  linkedTicket : Option ℕ := none
  actionedBy : Option String := none
  createdAt : ℕ
  columns : List (String × String) := []

structure CannedResponse where
  id : ℕ
  tenant : ℕ
  content : String
  createdBy : String
  isShared : Bool := true

/-! ## The context of a contact -/

structure ContactCard where
  id : ℕ
  name : String
  email : String
  emailBouncing : Bool
  createdAt : String
  company : Option String
  account : Option Account
  lastActivityAt : Option String
deriving DecidableEq

structure ContactStats where
  totalTickets : ℕ
  openTickets : ℕ
  avgCsat : Option ℚ
  lastTicketAt : Option String
deriving DecidableEq

structure RecentTicket where
  id : ℕ
  number : ℕ
  subject : String
  status : Option String
  statusColor : Option String
  priority : Tickets.Priority
  createdAt : String
deriving DecidableEq

structure ContactContext where
  contact : ContactCard
  stats : ContactStats
  recentTickets : List RecentTicket
deriving DecidableEq

/-! ## Tables -/

/-- The tables other than that of the tickets, and the cache of the contexts. -/
structure Tables where
  catalogue : Catalogue := {}
  superusers : List String := []
  users : List Analytics.User := []
  statuses : List TicketStatus := []
  contacts : List Contact := []
  emails : List InboundEmail := []
  cannedResponses : List CannedResponse := []
  contexts : ℕ → ℕ → Option ContactContext := fun _ _ => none

/-- The tables.  A tenant uses a number once. -/
structure Db extends Tables where
  tickets : List Ticket := []
  numbers : (tickets.map fun ticket => (ticket.tenant, ticket.number)).Nodup := by decide

/-- What the installation supplies: how the database compares texts, how times and averages
are written, and the serializers. -/
structure Site (Json : Type*) where
  icontains : String → String → Bool
  isoformat : ℕ → String
  round : ℚ → ℚ
  ticketList : Session → Tables → Ticket → Json
  ticketDetail : Session → Tables → Ticket → Json
  linkedEmail : Tables → InboundEmail → Json

/-! ## Requests and answers -/

/-- What the filter backends make of the parameters of a request. -/
structure TicketQuery where
  keeps : Session → Tables → Ticket → Bool := fun _ _ _ => true
  before : Ticket → Ticket → Bool := fun first second => second.createdAt ≤ first.createdAt
  includeDeleted : Bool := false

/-- The `page` parameter. -/
inductive PageNumber where
  | number (page : ℕ)
  | last

/-- The parameters of a bulk action. -/
structure BulkParams where
  userId : Option String := none
  statusId : Option ℕ := none
  priority : Option String := none
  tags : List String := []

inductive Request where
  | list (query : TicketQuery) (page : PageNumber)
  | retrieve (query : TicketQuery) (id : ℕ)
  | lookup (number : Option ℕ) (q : String)
  | search (ticketNumber : Option (Option ℤ))
  | bulkAction (includeDeleted : Bool) (action : String) (ticketIds : List ℕ) (params : BulkParams)
  | context (keeps : Contact → Bool) (contact : ℕ) (excludeTicket : Option ℕ)
  | render (response : ℕ) (ticket : Option ℕ)

inductive Answer (Json : Type*) where
  | page (count : ℕ) (next previous : Option ℕ) (results : List Json)
  | tickets (data : List Json)
  | ticket (data : Json)
  | found (data : Json) (linkedEmails : List Json)
  | bulk (ticketsUpdated : ℕ) (action : String) (details : List String)
  | context (data : ContactContext)
  | content (text : String)
  | badRequest (detail : String)
  | forbidden (detail : String)
  | notFound (detail : String)
  | serverError (name : String)
deriving DecidableEq

/-! ## Members -/

namespace Tables

variable (tables : Tables) (session : Session)

/-- `_get_membership`. -/
def membershipOf : Option Membership :=
  tables.catalogue.memberships.find? fun row => row.isOf session.tenant session.user && row.isActive

def isSuperuser : Bool := tables.superusers.contains session.user

def isRestricted : Bool :=
  !tables.isSuperuser session &&
    (tables.membershipOf session).any fun membership => 20 < membership.level session.now

/-- `HasTenantPermission`, of an action on a resource. -/
def hasTenantPermission (resource action : String) : Bool :=
  (tables.membershipOf session).any
    (tables.catalogue.hasTenantPermission session.now
      { permissionResource := some resource, action })

def statusOf (ticket : Ticket) : Option TicketStatus :=
  tables.statuses.find? fun status => status.id == ticket.status

def contactOf (ticket : Ticket) : Option Contact :=
  ticket.contact.bind fun id => tables.contacts.find? fun contact => contact.id == id

def user : Analytics.User :=
  (tables.users.find? fun user => user.id == session.user).getD
    { id := session.user, firstName := "", lastName := "" }

def isActionedBy (ticket : Ticket) : Bool :=
  tables.emails.any fun email =>
    email.linkedTicket == some ticket.id && email.actionedBy == some session.user

end Tables

/-- `agent_can_see_ticket`. -/
def agentCanSeeTicket (session : Session) (ticket : Ticket) : Bool :=
  ticket.assignee == some session.user || ticket.createdBy == some session.user

/-- `IsTicketAccessible.has_object_permission`. -/
def isTicketAccessible (tables : Tables) (session : Session) (ticket : Ticket) : Bool :=
  match tables.membershipOf session with
  | none => false
  | some membership =>
    if membership.level session.now ≤ 20 then true else agentCanSeeTicket session ticket

/-- What `Ticket.objects` shows of a tenant. -/
def isListed (session : Session) (ticket : Ticket) : Bool :=
  ticket.tenant == session.tenant && !ticket.isDeleted

/-! ## Texts -/

/-- Digits that `str.isdigit` knows beside the decimal ones, by their first and last. -/
def otherDigits : List (ℕ × ℕ) :=
  [(0xb2, 0xb3), (0xb9, 0xb9), (0x1369, 0x1371), (0x19da, 0x19da), (0x2070, 0x2070),
   (0x2074, 0x2079), (0x2080, 0x2089), (0x2460, 0x2468), (0x2474, 0x247c), (0x2488, 0x2490),
   (0x24ea, 0x24ea), (0x24f5, 0x24fd), (0x24ff, 0x24ff), (0x2776, 0x277e), (0x2780, 0x2788),
   (0x278a, 0x2792), (0x10a40, 0x10a43), (0x10e60, 0x10e68), (0x11052, 0x1105a),
   (0x1f100, 0x1f10a)]

def isOtherDigit (c : Char) : Bool :=
  otherDigits.any fun range => range.1 ≤ c.toNat && c.toNat ≤ range.2

/-- `str.isdigit`. -/
def isdigit (text : String) : Bool :=
  !text.toList.isEmpty && text.toList.all fun c => (Mail.decimal c).isSome || isOtherDigit c

/-- `int`, of a text that `isdigit` accepts: it reads decimal digits only. -/
def int (text : String) : Option ℕ :=
  if text.toList.all fun c => (Mail.decimal c).isSome then
    some (text.toList.foldl (fun number c => 10 * number + (Mail.decimal c).getD 0) 0)
  else none

/-- `q.lstrip("#")`. -/
def lstripHash (text : String) : String :=
  String.ofList (text.toList.dropWhile fun c => c == '#')

def Site.isWanted {Json : Type*} (site : Site Json) (number : Option ℕ) (q : String)
    (ticket : Ticket) : Bool :=
  match number with
  | some number => ticket.number == number
  | none =>
    site.icontains ticket.subject q ||
      (isdigit (lstripHash q) && int (lstripHash q) == some ticket.number)

/-! ## Endpoints -/

section Endpoints

variable {Json : Type*} (site : Site Json) (session : Session)

def pageSize : ℕ := 50

/-- `PageNumberPagination.paginate_queryset`, with the answer that is made of it. -/
def paginate (page : PageNumber) (rows : List Json) : Answer Json :=
  let pages := max 1 ((rows.length + (pageSize - 1)) / pageSize)
  let number :=
    match page with
    | .number number => number
    | .last => pages
  if number = 0 ∨ pages < number then .notFound "Invalid page."
  else
    .page rows.length (if number < pages then some (number + 1) else none)
      (if 1 < number then some (number - 1) else none)
      ((rows.drop ((number - 1) * pageSize)).take pageSize)

namespace Db

variable (db : Db)

/-- `Ticket.objects.all()`. -/
def objects : List Ticket := db.tickets.filter (isListed session)

/-- `TicketViewSet.get_queryset`. -/
def getQueryset (includeDeleted : Bool) : List Ticket :=
  let base :=
    if includeDeleted then db.tickets.filter fun ticket => ticket.tenant == session.tenant
    else db.objects session
  if db.isRestricted session then base.filter (agentCanSeeTicket session) else base

/-- `filter_queryset`, over the queryset of the view. -/
def filterQueryset (query : TicketQuery) : List Ticket :=
  ((db.getQueryset session query.includeDeleted).filter
    (query.keeps session db.toTables)).insertionSort fun first second => query.before first second

/-- `TicketViewSet.list`. -/
def list (query : TicketQuery) (page : PageNumber) : Answer Json :=
  paginate page ((db.filterQueryset session query).map (site.ticketList session db.toTables))

/-- `TicketViewSet.retrieve`. -/
def retrieve (query : TicketQuery) (id : ℕ) : Answer Json :=
  match (db.filterQueryset session query).find? fun ticket => ticket.id == id with
  | none => .notFound "No Ticket matches the given query."
  | some ticket =>
    if isTicketAccessible db.toTables session ticket then
      .ticket (site.ticketDetail session db.toTables ticket)
    else .forbidden "You do not have permission to perform this action."

def newest (wanted : Ticket → Bool) : Answer Json :=
  .tickets (((((db.objects session).filter wanted).insertionSort fun first second =>
    second.createdAt ≤ first.createdAt).take 50).map (site.ticketList session db.toTables))

/-- `TicketViewSet.lookup`. -/
def lookup (number : Option ℕ) (q : String) : Answer Json :=
  let q := Mail.strip q
  let qClean := lstripHash q
  if number.isNone && q = "" then .badRequest "Provide 'number' or 'q' query parameter."
  else if number.isNone && isdigit qClean && (int qClean).isNone then .serverError "ValueError"
  else db.newest site session (site.isWanted number q)

def noTicketFound (ticketNumber : ℤ) : Answer Json :=
  .notFound ("No ticket found with number #" ++ toString ticketNumber)

/-- `TicketViewSet.search`. -/
def search (ticketNumber : Option (Option ℤ)) : Answer Json :=
  match ticketNumber with
  | none => .badRequest "ticket_number query parameter is required."
  | some none => .badRequest "ticket_number must be an integer."
  | some (some ticketNumber) =>
    match (db.objects session).find? fun ticket => (ticket.number : ℤ) == ticketNumber with
    | none => noTicketFound ticketNumber
    | some ticket =>
      if ((db.membershipOf session).any fun membership => 20 < membership.level session.now) &&
          ticket.assignee != some session.user && !db.isActionedBy session ticket then
        noTicketFound ticketNumber
      else
        .found (site.ticketDetail session db.toTables ticket)
          (((db.emails.filter fun email => email.linkedTicket == some ticket.id).insertionSort
            fun first second => second.createdAt ≤ first.createdAt).map
              (site.linkedEmail db.toTables))

/-- One pass of the loop of `bulk_update_tickets`: the exception that it raises, if any. -/
def bulkException (action : String) (params : BulkParams) : Option String :=
  match action with
  | "assign" =>
    match params.userId with
    | none => some "KeyError"
    | some id =>
      if !db.users.any fun user => user.id == id then some "DoesNotExist"
      else if db.catalogue.memberships.any fun row => row.isOf session.tenant id && row.isActive
      then none
      else some "ValueError"
  | "change_status" =>
    match params.statusId with
    | none => some "KeyError"
    | some id =>
      if !db.statuses.any fun status => status.id == id && status.tenant == session.tenant then
        some "DoesNotExist"
      else none
  | "change_priority" => if params.priority.isNone then some "KeyError" else none
  | "add_tag" => none
  | "delete" => none
  | _ => some "ValueError"

/-- What `bulk_update_tickets` notes about a ticket. -/
def bulkDetail (action : String) (params : BulkParams) (ticket : Ticket) : String :=
  match db.bulkException session action params with
  | some exception => s!"Failed to update ticket #{ticket.number}: {exception}"
  | none =>
    if action = "delete" then s!"Deleted ticket #{ticket.number}"
    else s!"Updated ticket #{ticket.number}"

/-- `TicketViewSet.bulk_action`. -/
def bulkAction (includeDeleted : Bool) (action : String) (ticketIds : List ℕ)
    (params : BulkParams) : Answer Json :=
  if action = "" ∨ ticketIds = [] then .badRequest "action and ticket_ids are required."
  else if action = "delete" ∧ !db.isSuperuser session ∧
      !(db.membershipOf session).any (fun membership => membership.level session.now ≤ 20) then
    .forbidden "You do not have permission to delete tickets."
  else
    let tickets := ((db.getQueryset session includeDeleted).filter fun ticket =>
      ticketIds.contains ticket.id).insertionSort fun first second =>
        second.createdAt ≤ first.createdAt
    if tickets.length ≠ ticketIds.length then
      .notFound "Some tickets not found or access denied."
    else
      let count := (tickets.filter fun _ => (db.bulkException session action params).isNone).length
      .bulk count action (tickets.map (db.bulkDetail session action params))

/-- `ContactViewSet.get_queryset`. -/
def contactQueryset : List Contact :=
  let contacts := db.contacts.filter fun contact => contact.tenant == session.tenant
  if db.isRestricted session then
    let ticketContactIds := (db.tickets.filter fun ticket =>
      ticket.tenant == session.tenant && agentCanSeeTicket session ticket).filterMap fun ticket =>
        ticket.contact
    contacts.filter fun contact => ticketContactIds.contains contact.id
  else contacts

def contactCard (contact : Contact) : ContactCard where
  id := contact.id
  name := contact.fullName
  email := contact.email
  emailBouncing := contact.emailBouncing
  createdAt := site.isoformat contact.createdAt
  company := contact.company
  account := contact.account
  lastActivityAt := contact.lastActivityAt.map site.isoformat

/-- `build_contact_context`. -/
def buildContactContext (contact : Contact) (excludeTicket : Option ℕ) : ContactContext :=
  match (if excludeTicket.isNone then db.contexts session.tenant contact.id else none) with
  | some cached => cached
  | none =>
    let tickets := (db.objects session).filter fun ticket => ticket.contact == some contact.id
    let newestFirst := tickets.insertionSort fun first second =>
      second.createdAt ≤ first.createdAt
    let ratings := tickets.filterMap fun ticket => ticket.csatRating
    { contact := contactCard site contact
      stats :=
        { totalTickets := tickets.length
          openTickets := (tickets.filter fun ticket =>
            (db.statusOf ticket).any fun status => !status.isClosed).length
          avgCsat := if ratings = [] then none
            else some (site.round ((ratings.sum : ℚ) / ratings.length))
          lastTicketAt := newestFirst.head?.map fun ticket => site.isoformat ticket.createdAt }
      recentTickets :=
        ((newestFirst.filter fun ticket => some ticket.id != excludeTicket).take 5).map
          fun ticket =>
            { id := ticket.id
              number := ticket.number
              subject := ticket.subject
              status := (db.statusOf ticket).map fun status => status.name
              statusColor := (db.statusOf ticket).map fun status => status.color
              priority := ticket.priority
              createdAt := site.isoformat ticket.createdAt } }

/-- `ContactViewSet.context`. -/
def context (keeps : Contact → Bool) (contact : ℕ) (excludeTicket : Option ℕ) : Answer Json :=
  match ((db.contactQueryset session).filter keeps).find? fun row => row.id == contact with
  | none => .notFound "No Contact matches the given query."
  | some row => .context (db.buildContactContext site session row excludeTicket)

/-- `render_canned_response`. -/
def renderCannedResponse (response : CannedResponse) (ticket : Ticket) : String :=
  let agent := db.user session
  let contact := db.contactOf ticket
  let fullName := agent.getFullName
  ((((((((response.content.replace "\x7b\x7bticket.number\x7d\x7d" (toString ticket.number)).replace
    "\x7b\x7bticket.subject\x7d\x7d" ticket.subject).replace
    "\x7b\x7bcontact.name\x7d\x7d" ((contact.map fun row => row.fullName).getD "")).replace
    "\x7b\x7bcontact.first_name\x7d\x7d" ((contact.map fun row => row.firstName).getD "")).replace
    "\x7b\x7bcontact.email\x7d\x7d" ((contact.map fun row => row.email).getD "")).replace
    "\x7b\x7bagent.name\x7d\x7d" (if fullName = "" then agent.id else fullName)).replace
    "\x7b\x7bagent.first_name\x7d\x7d"
      (if agent.firstName = "" then
        String.ofList (agent.id.toList.takeWhile fun c => c != '@')
      else agent.firstName)).replace
    "\x7b\x7bagent.email\x7d\x7d" agent.id)

/-- `CannedResponseViewSet.render`. -/
def render (response : ℕ) (ticket : Option ℕ) : Answer Json :=
  match db.cannedResponses.find? fun row =>
      row.tenant == session.tenant && (row.isShared || row.createdBy == session.user) &&
        row.id == response with
  | none => .notFound "No CannedResponse matches the given query."
  | some row =>
    match ticket with
    | none => .badRequest "ticket_id is required."
    | some id =>
      match (db.objects session).find? fun ticket => ticket.id == id with
      | none => .notFound "Ticket not found."
      | some ticket => .content (db.renderCannedResponse session row ticket)

/-- The answer of an endpoint whose permission classes let the request through. -/
def guarded (allowed : Bool) (answer : Answer Json) : Answer Json :=
  if allowed then answer else .forbidden "You do not have permission to perform this action."

def respond : Request → Answer Json
  | .list query page =>
    guarded (db.hasTenantPermission session "ticket" "list") (db.list site session query page)
  | .retrieve query id =>
    guarded (db.hasTenantPermission session "ticket" "retrieve")
      (db.retrieve site session query id)
  | .lookup number q =>
    guarded (db.hasTenantPermission session "ticket" "lookup") (db.lookup site session number q)
  | .search ticketNumber =>
    guarded (db.hasTenantPermission session "ticket" "search")
      (db.search site session ticketNumber)
  | .bulkAction includeDeleted action ticketIds params =>
    guarded (db.hasTenantPermission session "ticket" "bulk_action")
      (db.bulkAction session includeDeleted action ticketIds params)
  | .context keeps contact excludeTicket =>
    guarded (db.hasTenantPermission session "contact" "context")
      (db.context site session keeps contact excludeTicket)
  | .render response ticket =>
    guarded (db.membershipOf session).isSome (db.render session response ticket)

end Db

end Endpoints

end Kanzan.Access

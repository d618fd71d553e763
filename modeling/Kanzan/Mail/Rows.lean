import Kanzan.Mail.Text

/-!
# Emails and what is made of them

The emails of all tenants, received and sent, in the order of their creation, with the tickets,
comments and hub emails that the inbound pipeline creates.
-/

namespace Kanzan.Mail

/-! ## Choices -/

inductive Status where
  | pending
  | processing
  | ticketCreated
  | replyAdded
  | parkedInHub
  | sent
  | rejected
  | bounced
  | failed
  deriving DecidableEq, Repr

inductive InboxStatus where
  | pending
  | linked
  | actioned
  | ignored
  deriving DecidableEq, Repr

inductive InboxAction where
  | openTicket
  | assign
  | close
  deriving DecidableEq, Repr

inductive Direction where
  | inbound
  | outbound
  deriving DecidableEq, Repr

inductive SenderType where
  | customer
  | system
  | agent
  deriving DecidableEq, Repr

/-! ## Rows -/

structure Tenant where
  pk : ℕ
  slug : String
  deriving DecidableEq, Repr

/-- An email; `pk` is its place in the table, and `ticket` the key of a ticket. -/
structure InboundEmail where
  tenant : Option Tenant := none
  messageId : String
  inReplyTo : String := ""
  references : String := ""
  senderEmail : String := ""
  senderName : String := ""
  recipientEmail : String := ""
  subject : String := ""
  bodyText : String := ""
  rawHeaders : String := ""
  direction : Direction := .inbound
  senderType : SenderType := .customer
  status : Status := .pending
  errorMessage : String := ""
  ticket : Option ℕ := none
  idempotencyKey : Option String := none
  inboxStatus : InboxStatus := .pending
  linkedTicket : Option ℕ := none
  linkedAt : Option ℕ := none
  linkedBy : Option ℕ := none
  assignee : Option ℕ := none
  isRead : Bool := false
  actionedAt : Option ℕ := none
  actionedBy : Option ℕ := none
  actionTaken : Option InboxAction := none
  deriving DecidableEq, Repr

structure Ticket where
  tenant : Tenant
  number : ℕ
  subject : String
  description : String
  contact : ℕ
  createdBy : ℕ
  messageId : String
  deriving DecidableEq, Repr

structure Comment where
  ticket : ℕ
  author : ℕ
  body : String
  deriving DecidableEq, Repr

structure HubEmail where
  inbound : ℕ
  tenant : Tenant
  contact : ℕ
  deriving DecidableEq, Repr

structure Contact where
  tenant : Tenant
  email : String
  firstName : String
  lastName : String
  deriving DecidableEq, Repr

/-- The tables; the key of a row is its place. -/
structure Db where
  emails : List InboundEmail := []
  tickets : List Ticket := []
  comments : List Comment := []
  hubEmails : List HubEmail := []
  contacts : List Contact := []
  /-- `TicketCounter.last_number`, by tenant. -/
  lastNumber : Tenant → ℕ := fun _ => 0

/-!
## Threads

Which ticket an email replies to, and the headers and the record of an email that is sent for a
ticket.
-/

/-! ### Matching -/

def linkedEmail (tenant : Tenant) (messageId : String) (db : Db) : Option InboundEmail :=
  db.emails.reverse.find? fun email =>
    email.tenant == some tenant && email.messageId == messageId && email.ticket.isSome

def linkedTo (tenant : Tenant) (messageId : String) (db : Db) : Option ℕ :=
  (linkedEmail tenant messageId db).bind InboundEmail.ticket

/-- `_match_by_in_reply_to`. -/
def matchByInReplyTo (tenant : Tenant) (inbound : InboundEmail) (db : Db) : Option ℕ :=
  if inbound.inReplyTo = "" then none else linkedTo tenant inbound.inReplyTo db

/-- `_match_by_references`, from the most recent id on. -/
def matchByReferences (tenant : Tenant) (inbound : InboundEmail) (db : Db) : Option ℕ :=
  (split inbound.references).reverse.findSome? fun refId =>
    if strip refId = "" then none else linkedTo tenant (strip refId) db

/-- `_match_by_subject`. -/
def matchBySubject (tenant : Tenant) (inbound : InboundEmail) (db : Db) : Option ℕ :=
  match extractTicketNumber inbound.subject with
  | none | some 0 => none
  | some number =>
    db.tickets.findIdx? fun ticket => ticket.tenant == tenant && ticket.number == number

/-- `find_existing_ticket`. -/
def findExistingTicket (tenant : Tenant) (inbound : InboundEmail) (db : Db) : Option ℕ :=
  ((matchByInReplyTo tenant inbound db).or (matchByReferences tenant inbound db)).or
    (matchBySubject tenant inbound db)

/-! ### Sending -/

/-- The headers of an email in a thread. -/
structure ThreadHeaders where
  messageId : String
  inReplyTo : Option String := none
  references : Option String := none
  deriving DecidableEq, Repr

def bracketed (messageId : String) : String := "<" ++ messageId ++ ">"

/-- `build_thread_headers`. -/
def buildThreadHeaders (tenant : Tenant) (ticket : ℕ) (newMessageId : String) (db : Db) :
    ThreadHeaders :=
  let recentIds := ((db.emails.reverse.filter fun email =>
    email.tenant == some tenant && email.ticket == some ticket && email.messageId != "").map
      InboundEmail.messageId).take 10
  match recentIds with
  | [] => { messageId := bracketed newMessageId }
  | latest :: _ =>
    { messageId := bracketed newMessageId
      inReplyTo := some (bracketed latest)
      references := some (" ".intercalate (recentIds.reverse.map bracketed)) }

/-- `generate_message_id`; the token is drawn at random. -/
def generateMessageId (baseDomain : String) (ticket : Ticket) (unique : String) : String :=
  s!"ticket-{ticket.number}-{unique}@{ticket.tenant.slug}.{baseDomain}"

/-- `record_outbound_email`; the key of an email that is recorded already is refused. -/
def recordOutboundEmail (tenant : Tenant) (ticket : ℕ) (messageId recipientEmail subject bodyText
    defaultFromEmail : String) (senderType : SenderType) (db : Db) : Db :=
  let idemKey := s!"out:{tenant.pk}:{ticket}:{messageId}"
  if db.emails.any fun email => email.idempotencyKey == some idemKey then db
  else
    { db with
      emails := db.emails ++
        [{ tenant := some tenant, messageId := normalizeMessageId messageId
           senderEmail := defaultFromEmail, recipientEmail, subject, bodyText
           direction := .outbound, senderType, status := .sent, ticket := some ticket
           idempotencyKey := some idemKey }] }

end Kanzan.Mail

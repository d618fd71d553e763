import Kanzan.Mail.Rows

/-!
# The inbound pipeline

What one run of the pipeline writes for an email.  A run that raises writes nothing.
-/

namespace Kanzan.Mail

/-- The settings, and the parts of the system that the pipeline asks. -/
structure Site where
  /-- `run_all_filters`: the reason to reject an email. -/
  runAllFilters : InboundEmail → Option String
  /-- `classify_email` answers that it is a bounce. -/
  isBounce : InboundEmail → Bool
  resolveTenantFromAddress : String → Option Tenant
  /-- `get_system_user`, which raises for a tenant without active members. -/
  getSystemUser : Tenant → Option ℕ
  inboxHubEnabled : Tenant → Bool
  /-- Whether the tenant has a ticket status. -/
  hasStatuses : Tenant → Bool
  stripQuotedReply : String → String

/-- What a run has made for an email. -/
inductive Creation where
  | ticket
  | reply
  | hubEmail
  deriving DecidableEq, Repr

/-- A run on the email with a key: the row in hand, the tables, and what has been made. -/
structure Session where
  db : Db
  id : ℕ
  inbound : InboundEmail
  created : List Creation := []

/-- `inbound.save(...)`. -/
def Session.save (s : Session) (edit : InboundEmail → InboundEmail) : Session :=
  { s with
    db := { s.db with emails := s.db.emails.set s.id (edit s.inbound) }
    inbound := edit s.inbound }

/-! ## Outcomes -/

/-- `_reject`. -/
def reject (reason : String) (s : Session) : Session :=
  s.save fun inbound => { inbound with status := .rejected, errorMessage := reason }

/-- `_handle_bounce`, up to the log of the bounce. -/
def handleBounce (site : Site) (reason : String) (s : Session) : Session :=
  let tenant := s.inbound.tenant.or (site.resolveTenantFromAddress s.inbound.recipientEmail)
  s.save fun inbound =>
    { inbound with
      status := .bounced
      errorMessage := reason
      tenant
      ticket := (tenant.bind fun tenant => findExistingTicket tenant inbound s.db).or inbound.ticket }

/-- `find_or_create_contact`. -/
def findOrCreateContact (tenant : Tenant) (senderEmail senderName : String) (db : Db) : Db × ℕ :=
  match db.contacts.findIdx? fun contact => contact.tenant == tenant && contact.email == senderEmail with
  | some contact => (db, contact)
  | none =>
    let name := (strip senderName).toList
    let first := name.takeWhile fun c => !isSpace c
    let last := (name.dropWhile fun c => !isSpace c).dropWhile isSpace
    let localPart := senderEmail.toList.takeWhile fun c => c ≠ '@'
    ({ db with
        contacts := db.contacts ++
          [{ tenant, email := senderEmail
             firstName := String.ofList (if first.isEmpty then localPart else first)
             lastName := String.ofList last }] },
      db.contacts.length)

/-- `_create_ticket_from_email` without overrides. -/
def createTicketFromEmail (site : Site) (tenant : Tenant) (contact systemUser : ℕ) (s : Session) :
    Except String Session :=
  if !site.hasStatuses tenant then
    .error s!"No ticket statuses configured for tenant {tenant.slug}"
  else
    let subject := if s.inbound.subject = "" then "(No Subject)" else s.inbound.subject
    let body := site.stripQuotedReply s.inbound.bodyText
    let number := s.db.lastNumber tenant + 1
    let ticket : Ticket :=
      { tenant, number
        subject := (subject.replace "\r" "").replace "\n" " "
        description := if body = "" then s.inbound.bodyText else body
        contact, createdBy := systemUser, messageId := s.inbound.messageId }
    let db : Db :=
      { s.db with
        tickets := s.db.tickets ++ [ticket]
        lastNumber := fun other => if other = tenant then number else s.db.lastNumber other }
    let made : Session := { s with db, created := s.created ++ [.ticket] }
    .ok (made.save fun inbound =>
      { inbound with ticket := some s.db.tickets.length, status := .ticketCreated })

/-- `_add_reply_to_ticket`. -/
def addReplyToTicket (site : Site) (ticket systemUser : ℕ) (s : Session) : Session :=
  let body := site.stripQuotedReply s.inbound.bodyText
  if strip body = "" then reject "Empty reply body after stripping quotes." s
  else
    let db : Db :=
      { s.db with comments := s.db.comments ++ [{ ticket, author := systemUser, body }] }
    let made : Session := { s with db, created := s.created ++ [.reply] }
    made.save fun inbound => { inbound with ticket := some ticket, status := .replyAdded }

/-- `park_email_in_hub`. -/
def parkEmailInHub (tenant : Tenant) (contact : ℕ) (s : Session) : Session :=
  let parked :=
    if s.db.hubEmails.any fun hubEmail => hubEmail.inbound == s.id then s
    else
      let db : Db :=
        { s.db with hubEmails := s.db.hubEmails ++ [{ inbound := s.id, tenant, contact }] }
      { s with db, created := s.created ++ [.hubEmail] }
  parked.save fun inbound => { inbound with status := .parkedInHub }

/-! ## The pipeline -/

def idemKey (tenant : Tenant) (messageId : String) : String := s!"in:{tenant.pk}:{messageId}"

def isClaimed (key : String) (id : ℕ) (db : Db) : Bool :=
  db.emails.zipIdx.any fun row => row.1.idempotencyKey == some key && row.2 ≠ id

def tenantOf (site : Site) (inbound : InboundEmail) : Option Tenant :=
  inbound.tenant.or (site.resolveTenantFromAddress inbound.recipientEmail)

def handleClaimed (site : Site) (tenant : Tenant) (s : Session) : Except String Session :=
  match site.getSystemUser tenant with
  | none => .error s!"No active users found for tenant {tenant.slug}"
  | some systemUser =>
    let (db, contact) := findOrCreateContact tenant s.inbound.senderEmail s.inbound.senderName s.db
    let s := { s with db }
    match findExistingTicket tenant s.inbound s.db with
    | some ticket => .ok (addReplyToTicket site ticket systemUser s)
    | none =>
      if site.inboxHubEnabled tenant then .ok (parkEmailInHub tenant contact s)
      else createTicketFromEmail site tenant contact systemUser s

/-- `process_inbound_email` behind its guard, for a run that has found another email with the key or
not.  A key that has been claimed since breaks the transaction, so not even the rejection is
saved. -/
def processUnguarded (site : Site) (duplicate : Bool) (s : Session) : Except String Session :=
  match site.runAllFilters s.inbound with
  | some reason => .ok (if site.isBounce s.inbound then handleBounce site reason s else reject reason s)
  | none =>
    match tenantOf site s.inbound with
    | none =>
      .ok (reject s!"Could not resolve tenant from recipient: {s.inbound.recipientEmail}" s)
    | some tenant =>
      let s := s.save fun inbound => { inbound with tenant := some tenant }
      let key := idemKey tenant s.inbound.messageId
      if duplicate then .ok (reject "Duplicate message_id already processed." s)
      else if isClaimed key s.id s.db then .error "duplicate key value violates unique constraint"
      else
        handleClaimed site tenant
          (s.save fun inbound => { inbound with idempotencyKey := some key })

def findsDuplicate (site : Site) (id : ℕ) (inbound : InboundEmail) (db : Db) : Bool :=
  (tenantOf site inbound).any fun tenant => isClaimed (idemKey tenant inbound.messageId) id db

def InboundEmail.isOpen (inbound : InboundEmail) : Bool :=
  inbound.status == .pending || inbound.status == .processing

/-- `process_inbound_email`. -/
def processInboundEmail (site : Site) (id : ℕ) (db : Db) : Except String Session :=
  match db.emails[id]? with
  | none => .error "InboundEmail matching query does not exist."
  | some inbound =>
    let s : Session := { db, id, inbound }
    if !inbound.isOpen then .ok s
    else
      processUnguarded site (findsDuplicate site id inbound db)
        (s.save fun inbound => { inbound with status := .processing })

/-- `mark_inbound_failed`. -/
def markInboundFailed (id : ℕ) (message : String) (db : Db) : Db :=
  { db with
    emails := db.emails.modify id fun inbound =>
      { inbound with status := .failed, errorMessage := message } }

end Kanzan.Mail

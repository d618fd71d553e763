import Kanzan.Billing.Rows
import Kanzan.Mail.Deliveries
import Kanzan.Mail.TicketRequests

/-!
# Contacts, tickets and files of a tenant

The paths that create what a plan limits.  Some check the usage counters of the tenant first; no
path writes them.
-/

namespace Kanzan.Billing.Resources

open Mail (Tenant Contact InboundEmail)
open Mail.TicketRequests (Overrides)

/-! ## Rows -/

/-- The other limits of a plan; none is no limit. -/
structure Limits where
  maxContacts : Option ℕ := none
  maxTicketsPerMonth : Option ℕ := none
  maxStorageMb : Option ℕ := none
  deriving DecidableEq, Repr

/-- The counters of the `UsageTracker` row. -/
structure UsageTracker where
  contactsCount : ℕ := 0
  ticketsCreated : ℕ := 0
  storageUsedMb : ℕ := 0
  deriving DecidableEq, Repr

/-- A file to be attached, with the MIME type that is detected. -/
structure File where
  sizeBytes : ℕ
  mime : String
  deriving DecidableEq, Repr

structure Attachment where
  pk : ℕ
  tenant : Tenant
  sizeBytes : ℕ
  deriving DecidableEq, Repr

/-- The tables.  `stored` are the files of an email that are still in the storage, and `converted`
the emails whose hub emails have been converted. -/
structure Books where
  db : Mail.Db := {}
  attachments : List Attachment := []
  nextAttachment : ℕ := 0
  stored : ℕ → List File := fun _ => []
  converted : List ℕ := []
  usage : ℕ → Option UsageTracker := fun _ => none

/-- The site, the plans with their limits, and how a size in megabytes and a user are written. -/
structure Shop extends Mail.Site where
  billing : Billing.Db
  limits : Plan → Limits
  formatMb : ℕ → String
  fullName : ℕ → String

/-! ## `PlanLimitChecker` -/

def mebibyte : ℕ := 1048576

section Checks

variable (shop : Shop) (tenant : Tenant) (books : Books)

def Books.usageOf : UsageTracker := (books.usage tenant.pk).getD {}

/-- `check_can_create_contact`. -/
def checkCanCreateContact : Except String Unit :=
  match shop.billing.planOf tenant.pk with
  | none => .error "No active plan found. Please subscribe to a plan."
  | some plan =>
    checkLimit plan (shop.limits plan).maxContacts (books.usageOf tenant).contactsCount "contacts"

/-- `check_can_create_ticket`. -/
def checkCanCreateTicket : Except String Unit :=
  match shop.billing.planOf tenant.pk with
  | none => .error "No active plan found. Please subscribe to a plan."
  | some plan =>
    checkLimit plan (shop.limits plan).maxTicketsPerMonth (books.usageOf tenant).ticketsCreated
      "tickets per month"

/-- `check_storage`, for a size in bytes; a division by a power of two is exact. -/
def checkStorage (sizeBytes : ℕ) : Except String Unit :=
  match shop.billing.planOf tenant.pk with
  | none => .error "No active plan found. Please subscribe to a plan."
  | some plan =>
    match (shop.limits plan).maxStorageMb with
    | none => .ok ()
    | some limit =>
      let current := (books.usageOf tenant).storageUsedMb
      if limit * mebibyte < current * mebibyte + sizeBytes then
        .error ("Storage limit reached: your " ++ plan.name ++ " plan allows " ++
          toString limit ++ " MB of storage. Current usage is " ++ toString current ++
          " MB, and you are attempting to add " ++ shop.formatMb sizeBytes ++
          " MB. Please upgrade your plan.")
      else .ok ()

end Checks

/-! ## Files -/

/-- `MAX_FILE_SIZE_BYTES`, 25 MB. -/
def maxFileSizeBytes : ℕ := 25 * mebibyte

/-- `ALLOWED_MIME_TYPES`. -/
def allowedMimeTypes : List String :=
  ["image/jpeg", "image/png", "image/gif", "image/webp", "application/pdf", "text/plain",
    "text/csv", "application/msword", "application/vnd.ms-excel", "application/vnd.ms-powerpoint",
    "application/vnd.openxmlformats-officedocument.wordprocessingml.document",
    "application/vnd.openxmlformats-officedocument.spreadsheetml.sheet",
    "application/vnd.openxmlformats-officedocument.presentationml.presentation",
    "application/vnd.oasis.opendocument.text", "application/vnd.oasis.opendocument.spreadsheet",
    "application/vnd.oasis.opendocument.presentation"]

/-- Whether `validate_file_upload` accepts a file. -/
def File.isAllowed (file : File) : Bool :=
  decide (file.sizeBytes ≤ maxFileSizeBytes) && file.sizeBytes != 0 &&
    allowedMimeTypes.contains file.mime

def Books.attach (tenant : Tenant) (books : Books) (file : File) : Books :=
  { books with
    attachments := books.attachments ++
      [{ pk := books.nextAttachment, tenant, sizeBytes := file.sizeBytes }]
    nextAttachment := books.nextAttachment + 1 }

/-- `_attach_inbound_files`, for the ticket of a tenant: a file that is attached leaves the storage,
and one that is refused is passed over. -/
def attachInboundFiles (tenant : Tenant) (id : ℕ) (books : Books) : Books :=
  let attached := ((books.stored id).filter File.isAllowed).foldl (Books.attach tenant) books
  { attached with
    stored := Function.update books.stored id
      ((books.stored id).filter fun file => !file.isAllowed) }

/-! ## Paths -/

section Paths

variable (shop : Shop)

/-- `ContactViewSet.create`, on the fields that the pipeline fills as well. -/
def createContact (contact : Contact) (books : Books) : Except String Books :=
  if books.db.contacts.any fun row => row.tenant == contact.tenant && row.email == contact.email then
    .error "A contact with this email already exists."
  else
    (checkCanCreateContact shop contact.tenant books).map fun _ =>
      { books with db := { books.db with contacts := books.db.contacts ++ [contact] } }

def insertTicket (tenant : Tenant) (row : ℕ → Mail.Ticket) (db : Mail.Db) : Mail.Db :=
  let number := db.lastNumber tenant + 1
  { db with
    tickets := db.tickets ++ [{ row number with tenant, number }]
    lastNumber := fun other => if other = tenant then number else db.lastNumber other }

/-- `TicketViewSet.perform_create`. -/
def createTicket (tenant : Tenant) (user contact : ℕ) (subject description : String)
    (books : Books) : Except String Books :=
  (checkCanCreateTicket shop tenant books).map fun _ =>
    { books with
      db := insertTicket tenant (fun number =>
        { tenant, number, subject, description, contact, createdBy := user, messageId := "" })
          books.db }

def attachTo (ticket : Option ℕ) (id : ℕ) (books : Books) : Books :=
  match ticket.bind fun ticket => books.db.tickets[ticket]? with
  | none => books
  | some row => attachInboundFiles row.tenant id books

/-- What has been made of an email, with its files if that is a ticket or a reply. -/
def settle (id : ℕ) (s : Mail.Session) (books : Books) : Books :=
  let after : Books := { books with db := s.db }
  if .ticket ∈ s.created ∨ .reply ∈ s.created then attachTo s.inbound.ticket id after else after

/-- `process_inbound_email`; a run that raises writes nothing. -/
def processInboundEmail (id : ℕ) (books : Books) : Except String Books :=
  (Mail.processInboundEmail shop.toSite id books.db).map fun s => settle id s books

/-- `convert_to_ticket`, for an email that is parked and not dismissed. -/
def convertToTicket (tenant : Tenant) (user : ℕ) (overrides : Overrides) (id : ℕ) (books : Books) :
    Except String Books :=
  match books.db.hubEmails.find? fun row => row.inbound == id && row.tenant == tenant,
      books.db.emails[id]? with
  | some hubEmail, some email =>
    if id ∈ books.converted then .ok books
    else
      (Mail.TicketRequests.createTicketFromEmail shop.toSite tenant hubEmail.contact user overrides
        id email books.db).map fun created =>
          attachInboundFiles tenant id
            { books with db := created.2, converted := books.converted ++ [id] }
  | _, _ => .error "Not found."

/-- `split_ticket`. -/
def splitTicket (tenant : Tenant) (actor source : ℕ) (commentIds : List ℕ) (subject : String)
    (books : Books) : Except String Books :=
  match books.db.tickets[source]?.filter fun ticket => ticket.tenant == tenant with
  | none => .error "Not found."
  | some ticket =>
    if commentIds = [] then .error "At least one comment must be selected for the split."
    else if (books.db.comments.zipIdx.filter fun row =>
        row.2 ∈ commentIds && row.1.ticket == source).length ≠ commentIds.length then
      .error "One or more comment IDs do not belong to this ticket."
    else if !shop.hasStatuses tenant then .error "No ticket statuses configured for this tenant."
    else
      let child := books.db.tickets.length
      let number := books.db.lastNumber tenant + 1
      let db := insertTicket tenant (fun number =>
        { tenant, number, subject, description := s!"Split from ticket #{ticket.number}"
          contact := ticket.contact, createdBy := actor, messageId := "" }) books.db
      let moved := db.comments.zipIdx.map fun row =>
        if row.2 ∈ commentIds then { row.1 with ticket := child } else row.1
      let comment (ticket : ℕ) (body : String) : Mail.Comment := { ticket, author := actor, body }
      .ok { books with
        db := { db with
          comments := moved ++
            [comment source s!"Ticket split — #{number} created by {shop.fullName actor}",
              comment child s!"Split from #{ticket.number} by {shop.fullName actor}"] } }

/-- `AttachmentViewSet.create`, for a target that the user may attach to or not. -/
def upload (tenant : Tenant) (file : File) (permitted : Bool) (books : Books) :
    Except String Books :=
  if !file.isAllowed then .error "The file is not accepted."
  else if !permitted then .error "You do not have permission to attach files to this object."
  else
    (checkStorage shop tenant books file.sizeBytes).map fun _ => books.attach tenant file

/-- `AttachmentViewSet.destroy`. -/
def deleteAttachment (tenant : Tenant) (pk : ℕ) (books : Books) : Books :=
  { books with
    attachments := books.attachments.filter fun row => !(row.tenant == tenant && row.pk == pk) }

/-! ## Runs -/

inductive Op where
  | createContact (contact : Contact)
  | createTicket (tenant : Tenant) (user contact : ℕ) (subject description : String)
  /-- An email arrives, with the files that it carries. -/
  | receive (inbound : InboundEmail) (files : List File)
  | process (id : ℕ)
  | convert (tenant : Tenant) (user : ℕ) (overrides : Overrides) (id : ℕ)
  | split (tenant : Tenant) (actor source : ℕ) (commentIds : List ℕ) (subject : String)
  | upload (tenant : Tenant) (file : File) (permitted : Bool)
  | deleteAttachment (tenant : Tenant) (pk : ℕ)

def step (books : Books) : Op → Books
  | .createContact contact => (createContact shop contact books).toOption.getD books
  | .createTicket tenant user contact subject description =>
    (createTicket shop tenant user contact subject description books).toOption.getD books
  | .receive inbound files =>
    { books with
      db := { books.db with emails := books.db.emails ++ [inbound.unprocessed] }
      stored := Function.update books.stored books.db.emails.length files }
  | .process id => (processInboundEmail shop id books).toOption.getD books
  | .convert tenant user overrides id =>
    (convertToTicket shop tenant user overrides id books).toOption.getD books
  | .split tenant actor source commentIds subject =>
    (splitTicket shop tenant actor source commentIds subject books).toOption.getD books
  | .upload tenant file permitted => (upload shop tenant file permitted books).toOption.getD books
  | .deleteAttachment tenant pk => deleteAttachment tenant pk books

end Paths

end Kanzan.Billing.Resources

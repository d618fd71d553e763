import Kanzan.Accounts.Rows
import Kanzan.Attachments.Paths

/-!
# Protected media

The view that serves the files of the media root, with the object checks that it asks for.  Tables
are listed in the order of their model, so that the first row that fits is what `first()` returns;
tenants, users and UUIDs are as in the accounts.
-/

namespace Kanzan.Attachments

open Accounts (Membership)

/-! ## Rows -/

/-- A content type; the model of a stale one is gone. -/
inductive ContentType where
  | ticket
  | comment
  | message
  | other (model : String)
  | stale (model : String)
deriving DecidableEq

structure Ticket where
  id : ℕ
  tenant : ℕ
  assignee : Option String := none
  createdBy : Option String := none
  isDeleted : Bool := false

/-- A comment, with the object that it is about. -/
structure Comment where
  id : ℕ
  tenant : ℕ
  isInternal : Bool := false
  contentType : ContentType
  objectId : ℕ

structure Message where
  id : ℕ
  tenant : ℕ
  conversation : ℕ

structure ConversationParticipant where
  conversation : ℕ
  user : String

/-- An object that the manager of any other model shows; some models have no tenant. -/
structure Record where
  model : String
  id : ℕ
  tenant : Option ℕ

structure Attachment where
  file : String
  tenant : ℕ
  contentType : ContentType
  objectId : ℕ

structure ExportJob where
  file : String
  tenant : Option ℕ
  requestedBy : Option String

inductive ArticleStatus where
  | draft
  | pendingReview
  | published
  | rejected
  | flagged
deriving DecidableEq

structure Article where
  id : ℕ
  file : String
  tenant : Option ℕ
  author : Option String
  status : ArticleStatus := .draft

structure InboundEmail where
  id : ℕ
  tenant : Option ℕ

/-- A file of the storage, with the tenant that its content belongs to. -/
structure StoredFile where
  path : String
  tenant : Option ℕ

structure Db where
  memberships : List Membership := []
  tickets : List Ticket := []
  comments : List Comment := []
  messages : List Message := []
  participants : List ConversationParticipant := []
  records : List Record := []
  attachments : List Attachment := []
  exportJobs : List ExportJob := []
  articles : List Article := []
  allowedGroups : List (ℕ × ℕ) := []
  groupMembers : List (ℕ × String) := []
  inboundEmails : List InboundEmail := []
  files : List StoredFile := []

/-- The settings that the view reads. -/
structure Settings where
  useXAccelRedirect : Bool := false
  xAccelMediaPrefix : String := "/protected_media/"

/-- A request: the user if one is logged in, the path after `/media/`, and the time. -/
structure Request where
  user : Option String
  path : String
  now : ℕ

/-- What the view answers; a file that nginx is to send has a location. -/
inductive Response where
  | file (path : String) (location : Option String)
  | forbidden (message : String)
  | notFound (message : String)
  | serverError (message : String)
deriving DecidableEq

namespace Db

variable (db : Db) (now : ℕ) (user : String)

/-! ## Members -/

def membershipOf (tenant : ℕ) : Option Membership :=
  db.memberships.find? fun row => row.isOf tenant user && row.isActive

/-- `_user_is_tenant_member`. -/
def userIsTenantMember (tenant : ℕ) : Bool := (db.membershipOf user tenant).isSome

/-- `_is_tenant_manager`. -/
def isTenantManager (tenant : ℕ) : Bool :=
  match db.membershipOf user tenant with
  | none => false
  | some membership => membership.level now ≤ 20

/-! ## Access to objects -/

/-- `_effective_level`. -/
def effectiveLevel (tenant : ℕ) : ℕ :=
  match db.membershipOf user tenant with
  | none => 999
  | some membership => membership.level now

/-- `agent_can_see_ticket`. -/
def agentCanSeeTicket (ticket : Ticket) : Bool :=
  ticket.assignee == some user || ticket.createdBy == some user

def commentedTicket (comment : Comment) : Option Ticket :=
  if comment.contentType = .ticket then
    db.tickets.find? fun ticket => ticket.id == comment.objectId
  else none

/-- `can_access_target`, while the tenant is the current one. -/
def canAccessTarget (tenant : ℕ) (contentType : ContentType) (objectId : ℕ) : Bool :=
  let level := db.effectiveLevel now user tenant
  if level ≤ 20 then true
  else match contentType with
  | .stale _ => false
  | .ticket =>
    match db.tickets.find? fun ticket =>
      ticket.id == objectId && ticket.tenant == tenant && !ticket.isDeleted with
    | none => false
    | some ticket => agentCanSeeTicket user ticket
  | .comment =>
    match db.comments.find? fun comment =>
      comment.id == objectId && comment.tenant == tenant with
    | none => false
    | some comment =>
      if comment.isInternal && 30 < level then false
      else match db.commentedTicket comment with
      | some ticket => agentCanSeeTicket user ticket
      | none => true
  | .message =>
    match db.messages.find? fun message =>
      message.id == objectId && message.tenant == tenant with
    | none => false
    | some message =>
      db.participants.any fun row =>
        row.conversation == message.conversation && row.user == user
  | .other model =>
    match db.records.find? fun record =>
      record.model == model && record.id == objectId &&
        (record.tenant == none || record.tenant == some tenant) with
    | none => false
    | some _ => true

/-! ## Authorisation of a path -/

/-- `_attachment_path_authorized`. -/
def attachmentPathAuthorized (path : String) (tenant : ℕ) : Bool :=
  if !db.userIsTenantMember user tenant then false
  else match db.attachments.find? fun row => row.file == path with
  | none => true
  | some row => db.canAccessTarget now user row.tenant row.contentType row.objectId

/-- `_export_path_authorized`. -/
def exportPathAuthorized (path : String) : Bool :=
  match db.exportJobs.find? fun job => job.file == path with
  | none => true
  | some job =>
    match job.tenant with
    | none => false
    | some tenant =>
      if !db.userIsTenantMember user tenant then false
      else if job.requestedBy = some user then true
      else db.isTenantManager now user tenant

/-- `_knowledge_path_authorized`. -/
def knowledgePathAuthorized (path : String) : Bool :=
  match db.articles.find? fun article => article.file == path with
  | none => false
  | some article =>
    match article.tenant with
    | none => false
    | some tenant =>
      if !db.userIsTenantMember user tenant then false
      else if db.isTenantManager now user tenant then true
      else
        let isAuthor : Bool := article.author == some user
        if article.status ≠ .published && !isAuthor then false
        else
          let restrictedTo :=
            (db.allowedGroups.filter fun row => row.1 == article.id).map Prod.snd
          if restrictedTo = [] then true
          else if isAuthor then true
          else db.groupMembers.any fun row => row.1 ∈ restrictedTo && row.2 == user

/-- The branch of `_is_authorized` for the attachments of an email. -/
def inboundPathAuthorized (key : String) : Except String Bool :=
  match uuid key with
  | none => .error ("“" ++ key ++ "” is not a valid UUID.")
  | some id =>
    match db.inboundEmails.find? fun inbound => inbound.id == id with
    | none => .ok true
    | some inbound =>
      match inbound.tenant with
      | none => .ok false
      | some tenant => .ok (db.userIsTenantMember user tenant)

/-- `_is_authorized`; an error is raised where a key is not a UUID. -/
def isAuthorized (path : String) : Except String Bool :=
  match parts path with
  | first :: second :: rest =>
    if first = "tenants" then
      if second = "knowledge" then .ok (db.knowledgePathAuthorized now user path)
      else match uuid second with
      | none => .ok true
      | some tenant =>
        if rest.head? = some "attachments" then
          .ok (db.attachmentPathAuthorized now user path tenant)
        else .ok (db.userIsTenantMember user tenant)
    else if first = "exports" then .ok (db.exportPathAuthorized now user path)
    else if first = "inbound_emails" then db.inboundPathAuthorized user second
    else .ok true
  | _ => .ok true

end Db

/-! ## The view -/

/-- `PUBLIC_PREFIXES`. -/
def publicPrefixes : List String := ["tenants/logos/"]

/-- `_serve`. -/
def serve (db : Db) (settings : Settings) (path : String) : Response :=
  if db.files.all fun file => file.path != path then .notFound "File not found."
  else if settings.useXAccelRedirect then
    .file path (some (joinPaths settings.xAccelMediaPrefix path))
  else .file path none

def escapes (normalized : String) : Bool :=
  startsWith ".." normalized || startsWith "/" normalized || normalized == "."

/-- `serve_protected_media`. -/
def serveProtectedMedia (db : Db) (settings : Settings) (request : Request) : Response :=
  let normalized := normpath request.path
  if escapes normalized then .notFound ""
  else if publicPrefixes.any fun word => startsWith word normalized then
    serve db settings normalized
  else match request.user with
  | none => .forbidden "Authentication required."
  | some user =>
    match db.isAuthorized request.now user normalized with
    | .error message => .serverError message
    | .ok false => .forbidden "You do not have access to this file."
    | .ok true => serve db settings normalized

end Kanzan.Attachments

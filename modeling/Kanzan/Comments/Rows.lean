import Kanzan.Attachments.Views

/-!
# Comments

The comments with the tables around them, and which of them the viewset shows to whom.  Tables are
listed in the order in which their rows were created.
-/

namespace Kanzan.Comments

open Accounts (Membership)
open Attachments (AttachmentFilter ContentType Session Upload ViewResponse)

/-! ## Rows -/

/-- A row of the comments in full. -/
structure Comment extends Attachments.Comment where
  author : String
  body : String
  parent : Option ℕ := none
  createdAt : ℕ
  updatedAt : ℕ

/-- `is_reply`. -/
def Comment.isReply (comment : Comment) : Bool := comment.parent.isSome

/-- A row of the content types, under its name. -/
structure ContentTypeRow where
  appLabel : String
  model : String
  contentType : ContentType

/-- The tables.  The rows of the models that have none of their own here are the `targets`. -/
structure Db where
  memberships : List Membership := []
  superusers : List String := []
  contentTypes : List ContentTypeRow := []
  tickets : List Attachments.Ticket := []
  messages : List Attachments.Message := []
  participants : List Attachments.ConversationParticipant := []
  records : List Attachments.Record := []
  targets : List Attachments.Record := []
  scopedModels : List String := []
  comments : List Comment := []
  uploads : List Upload := []
  files : List Attachments.StoredFile := []

/-- `CommentFilter`, with the search in the bodies. -/
structure CommentFilter where
  contentType : Option (Option ContentType) := none
  objectId : Option ℕ := none
  isInternal : Option Bool := none
  parentIsNull : Option Bool := none
  search : String → Bool := fun _ => true

def CommentFilter.keeps (filter : CommentFilter) (comment : Comment) : Bool :=
  (filter.contentType.all fun contentType => contentType == some comment.contentType) &&
    (filter.objectId.all fun objectId => objectId == comment.objectId) &&
    (filter.isInternal.all fun isInternal => isInternal == comment.isInternal) &&
    (filter.parentIsNull.all fun isNull => isNull == comment.parent.isNone) &&
    filter.search comment.body

namespace Db

variable (db : Db) (session : Session) (filter : CommentFilter)

def access : Attachments.Db where
  memberships := db.memberships
  tickets := db.tickets
  comments := db.comments.map Comment.toComment
  messages := db.messages
  participants := db.participants
  records := db.records
  attachments := db.uploads.map Upload.toAttachment
  files := db.files

/-- `_get_membership`. -/
def membershipOf : Option Membership := db.access.membershipOf session.user session.tenant

/-! ## Which comments are shown -/

/-- The comments of `Comment.objects`. -/
def tenantComments : List Comment := db.comments.filter fun comment => comment.tenant == session.tenant

/-- The tickets of the tenant that the user has created or is assigned to, deleted or not. -/
def ownTicketIds : List ℕ :=
  (db.tickets.filter fun ticket =>
    ticket.tenant == session.tenant &&
      Attachments.Db.agentCanSeeTicket session.user ticket).map Attachments.Ticket.id

def ownAndPublic (comment : Comment) : Bool :=
  comment.contentType == .ticket && (db.ownTicketIds session).contains comment.objectId &&
    !comment.isInternal

/-- Whether the rows are restricted: all but superusers and managers are. -/
def isRestricted : Bool :=
  if db.superusers.contains session.user then false
  else match db.membershipOf session with
  | none => true
  | some membership => 20 < membership.level session.now

/-- `CommentViewSet.get_queryset`. -/
def commentQueryset : List Comment :=
  if db.isRestricted session then (db.tenantComments session).filter (db.ownAndPublic session)
  else db.tenantComments session

/-- The comment that `get_object` finds. -/
def getComment (id : ℕ) : Option Comment :=
  ((db.commentQueryset session).filter filter.keeps).find? fun comment => comment.id == id

end Db

/-! ## Laws -/

section Laws

variable {db : Db} {session : Session} {filter : CommentFilter} {comment : Comment} {id : ℕ}

theorem mem_of_queryset (hmem : comment ∈ db.commentQueryset session) :
    comment ∈ db.comments ∧ comment.tenant = session.tenant := by
  have hscoped : comment ∈ db.tenantComments session := by
    unfold Db.commentQueryset at hmem
    split at hmem
    · exact (List.mem_filter.mp hmem).1
    · exact hmem
  obtain ⟨hrow, htenant⟩ := List.mem_filter.mp hscoped
  exact ⟨hrow, beq_iff_eq.mp htenant⟩

theorem mem_of_getComment (hget : db.getComment session filter id = some comment) :
    comment ∈ db.comments ∧ comment.id = id := by
  have hfound := List.mem_filter.mp (List.mem_of_find?_eq_some hget)
  have hid := List.find?_some hget
  exact ⟨(mem_of_queryset hfound.1).1, beq_iff_eq.mp hid⟩

end Laws

/-!
## Reading comments

What the viewset of the comments shows of them, and the viewset of the attachments of their files.
Lists are given in full; the paginator cuts them into pages.
-/

/-- A comment as `CommentSerializer` shows it. -/
structure Shown where
  comment : Comment
  isReply : Bool
  replyCount : ℕ
  attachments : List Upload

/-- What a member may ask for. -/
inductive Query where
  | comments (filter : CommentFilter) (ascending : Bool)
  | comment (filter : CommentFilter) (id : ℕ)
  | replies (filter : CommentFilter) (id : ℕ)
  | attachments (filter : AttachmentFilter)
  | attachment (filter : AttachmentFilter) (id : ℕ)
  | download (filter : AttachmentFilter) (id : ℕ)
  | remove (filter : AttachmentFilter) (id : ℕ)
  | upload (upload : Upload) (fileErrors : List (String × String)) (isFull : Bool)

inductive Answer where
  | comments (shown : List Shown)
  | comment (shown : Shown)
  | forbidden (message : String)
  | notFound (message : String)
  | media (response : ViewResponse)

namespace Db

variable (db : Db) (session : Session) (filter : CommentFilter)

def attachmentsOf (comment : Comment) : List Upload :=
  (db.uploads.filter fun upload =>
    upload.tenant == session.tenant && upload.contentType == .comment &&
      upload.objectId == comment.id).reverse

/-- `CommentSerializer`; the number of replies counts every reply. -/
def represent (comment : Comment) : Shown where
  comment := comment
  isReply := comment.isReply
  replyCount := db.comments.countP fun row => row.parent == some comment.id
  attachments := db.attachmentsOf session comment

/-- `list`, ordered by creation. -/
def listComments (ascending : Bool) : Answer :=
  let rows := (db.commentQueryset session).filter filter.keeps
  .comments ((if ascending then rows else rows.reverse).map (db.represent session))

def noSuchComment : Answer := .notFound "No Comment matches the given query."

/-- `retrieve`. -/
def retrieveComment (id : ℕ) : Answer :=
  match db.getComment session filter id with
  | none => noSuchComment
  | some comment => .comment (db.represent session comment)

/-- `replies`: every reply to a comment that is found. -/
def listReplies (id : ℕ) : Answer :=
  match db.getComment session filter id with
  | none => noSuchComment
  | some comment =>
    .comments (((db.tenantComments session).filter fun row =>
      row.parent == some comment.id).map (db.represent session))

/-- The two viewsets, each behind `IsTenantMember`. -/
def answer : Query → Answer
  | .comments filter ascending =>
    if (db.membershipOf session).isNone then .forbidden Attachments.permissionDenied
    else db.listComments session filter ascending
  | .comment filter id =>
    if (db.membershipOf session).isNone then .forbidden Attachments.permissionDenied
    else db.retrieveComment session filter id
  | .replies filter id =>
    if (db.membershipOf session).isNone then .forbidden Attachments.permissionDenied
    else db.listReplies session filter id
  | .attachments filter => .media (db.access.listAttachments db.uploads session filter)
  | .attachment filter id => .media (db.access.retrieveAttachment db.uploads session filter id)
  | .download filter id => .media (db.access.downloadAttachment db.uploads session filter id)
  | .remove filter id => .media (db.access.destroyAttachment db.uploads session filter id)
  | .upload upload fileErrors isFull =>
    .media (db.access.createAttachment session upload fileErrors isFull)

end Db

end Kanzan.Comments

import Kanzan.Attachments.Ownership

/-!
# Attachments

The viewset of the attachments: what its list shows, and the object check before a row or its file
is handed out.  A list is given in full; the paginator cuts it into pages.
-/

namespace Kanzan.Attachments

open Accounts (Membership)

/-! ## Rows -/

/-- A segment of a path that `normpath` keeps as it is. -/
structure Segment where
  text : String
  noSlash : '/' ∉ text.toList
  kept : text ≠ "" ∧ text ≠ "." ∧ text ≠ ".."

/-- `upload_path`: the name is that of the upload, behind its random prefix. -/
def uploadPath (tenant year month name : Segment) : String :=
  "tenants/" ++ tenant.text ++ "/attachments/" ++ year.text ++ "/" ++ month.text ++ "/" ++ name.text

/-- A row of the attachments in full. -/
structure Upload extends Attachment where
  id : ℕ
  originalName : String
  mimeType : String
  sizeBytes : ℕ
  uploadedBy : String
  createdAt : ℕ

/--
The tables with the attachments in full.  The storage hands out each name once, under the folder of
the tenant.
-/
structure Library extends Db where
  uploads : List Upload
  rows : attachments = uploads.map Upload.toAttachment
  ids : (uploads.map Upload.id).Nodup
  names : (uploads.map fun upload => upload.file).Nodup
  stored : ∀ upload ∈ uploads, ∃ tenant year month name : Segment,
    uuid tenant.text = some upload.tenant ∧ upload.file = uploadPath tenant year month name
  ticketIds : (tickets.map Ticket.id).Nodup

/-! ## The viewset -/

/-- Who asks, in which tenant, and when. -/
structure Session where
  user : String
  tenant : ℕ
  now : ℕ

/-- `AttachmentFilter`; a content type that does not resolve matches nothing. -/
structure AttachmentFilter where
  contentType : Option (Option ContentType) := none
  objectId : Option ℕ := none
  mimeType : Option String := none
  uploadedBy : Option String := none

def AttachmentFilter.keeps (filter : AttachmentFilter) (upload : Upload) : Bool :=
  (filter.contentType.all fun contentType => contentType == some upload.contentType) &&
    (filter.objectId.all fun objectId => objectId == upload.objectId) &&
    (filter.mimeType.all fun mimeType => mimeType == upload.mimeType) &&
    filter.uploadedBy.all fun user => user == upload.uploadedBy

inductive Action where
  | list
  | retrieve
  | download
  | destroy
deriving DecidableEq

/-- What the viewset answers; the content is that of the file, under its original name. -/
inductive ViewResponse where
  | rows (uploads : List Upload)
  | row (upload : Upload)
  | content (upload : Upload)
  | created (upload : Upload)
  | deleted
  | invalid (errors : List (String × String))
  | paymentRequired
  | forbidden (message : String)
  | notFound (message : String)

def permissionDenied : String := "You do not have permission to perform this action."

namespace Db

variable (db : Db) (uploads : List Upload) (session : Session) (filter : AttachmentFilter)

/-- The tickets of `Ticket.objects` that meet `agent_visible_tickets_q`. -/
def visibleTicketIds : List ℕ :=
  (db.tickets.filter fun ticket =>
    ticket.tenant == session.tenant && !ticket.isDeleted &&
      agentCanSeeTicket session.user ticket).map Ticket.id

/-- `AttachmentViewSet.get_queryset`. -/
def attachmentQueryset (action : Action) : List Upload :=
  let qs := uploads.filter fun upload => upload.tenant == session.tenant
  if action ≠ .list then qs
  else match db.membershipOf session.user session.tenant with
  | none => []
  | some membership =>
    if membership.level session.now ≤ 20 then qs
    else qs.filter fun upload =>
      upload.uploadedBy == session.user ||
        upload.contentType == .ticket && (db.visibleTicketIds session).contains upload.objectId

/-- `CanAccessAttachmentObject.has_object_permission`. -/
def hasObjectPermission (upload : Upload) : Bool :=
  db.canAccessTarget session.now session.user session.tenant upload.contentType upload.objectId

def listed : List Upload :=
  (db.attachmentQueryset uploads session .list).filter filter.keeps

/-- `AttachmentViewSet.list`. -/
def listAttachments : ViewResponse :=
  if db.userIsTenantMember session.user session.tenant then .rows (db.listed uploads session filter)
  else .forbidden permissionDenied

/-- The row that `get_object` finds, checked for the user, and what is answered otherwise. -/
def getAttachment (action : Action) (id : ℕ) : Except ViewResponse Upload :=
  if !db.userIsTenantMember session.user session.tenant then .error (.forbidden permissionDenied)
  else match ((db.attachmentQueryset uploads session action).filter filter.keeps).find? fun upload =>
      upload.id == id with
  | none => .error (.notFound "No Attachment matches the given query.")
  | some upload =>
    if db.hasObjectPermission session upload then .ok upload
    else .error
      (.forbidden "You do not have permission to access this attachment's target object.")

/-- `AttachmentViewSet.retrieve`. -/
def retrieveAttachment (id : ℕ) : ViewResponse :=
  match db.getAttachment uploads session filter .retrieve id with
  | .error response => response
  | .ok upload => .row upload

/-- `AttachmentViewSet.download`. -/
def downloadAttachment (id : ℕ) : ViewResponse :=
  match db.getAttachment uploads session filter .download id with
  | .error response => response
  | .ok upload =>
    if upload.file = "" ∨ db.files.all fun file => file.path != upload.file then
      .notFound "File not found."
    else .content upload

/-- `AttachmentViewSet.destroy`, as far as its answer goes. -/
def destroyAttachment (id : ℕ) : ViewResponse :=
  match db.getAttachment uploads session filter .destroy id with
  | .error response => response
  | .ok _ => .deleted

/-- Whether `_default_manager` finds the target of an upload in the tenant; a stale type has none. -/
def uploadTargetFound (contentType : ContentType) (objectId : ℕ) : Bool :=
  match contentType with
  | .stale _ => true
  | .ticket => db.tickets.any fun ticket =>
    ticket.id == objectId && ticket.tenant == session.tenant && !ticket.isDeleted
  | .comment => db.comments.any fun comment =>
    comment.id == objectId && comment.tenant == session.tenant
  | .message => db.messages.any fun message =>
    message.id == objectId && message.tenant == session.tenant
  | .other model => db.records.any fun record =>
    record.model == model && record.id == objectId &&
      (record.tenant == none || record.tenant == some session.tenant)

/--
`AttachmentViewSet.create`, of the row that it would save: the checks of the file come first, those
of the plan last.
-/
def createAttachment (upload : Upload) (fileErrors : List (String × String)) (isFull : Bool) :
    ViewResponse :=
  if !db.userIsTenantMember session.user session.tenant then .forbidden permissionDenied
  else if fileErrors ≠ [] then .invalid fileErrors
  else if !db.uploadTargetFound session upload.contentType upload.objectId then
    .invalid [("object_id", "Target object not found.")]
  else if !db.hasObjectPermission session upload then
    .forbidden "You do not have permission to attach files to this object."
  else if isFull then .paymentRequired
  else .created { upload with tenant := session.tenant, uploadedBy := session.user }

end Db

variable {membership : Membership}

/-! ## Laws -/

section Laws

variable {db : Db} {uploads : List Upload} {session : Session} {filter : AttachmentFilter}

theorem mem_visibleTicketIds {id : ℕ} :
    id ∈ db.visibleTicketIds session ↔
      ∃ ticket ∈ db.tickets, ticket.id = id ∧ ticket.tenant = session.tenant ∧
        ticket.isDeleted = false ∧ Db.agentCanSeeTicket session.user ticket = true := by
  unfold Db.visibleTicketIds
  constructor
  · intro hmem
    obtain ⟨ticket, hticket, hid⟩ := List.mem_map.mp hmem
    obtain ⟨hrow, hseen⟩ := List.mem_filter.mp hticket
    rw [Bool.and_eq_true, Bool.and_eq_true, Bool.not_eq_true', beq_iff_eq] at hseen
    exact ⟨ticket, hrow, hid, hseen.1.1, hseen.1.2, hseen.2⟩
  · rintro ⟨ticket, hrow, hid, htenant, hdeleted, hsee⟩
    refine List.mem_map.mpr ⟨ticket, List.mem_filter.mpr ⟨hrow, ?_⟩, hid⟩
    simp [htenant, hdeleted, hsee]

theorem effectiveLevel_of_member {now tenant : ℕ} {user : String}
    (hmember : db.membershipOf user tenant = some membership) :
    db.effectiveLevel now user tenant = membership.level now := by
  rw [Db.effectiveLevel, hmember]

theorem hasObjectPermission_of_manager (upload : Upload)
    (hlevel : db.effectiveLevel session.now session.user session.tenant ≤ 20) :
    db.hasObjectPermission session upload = true := by
  simp only [Db.hasObjectPermission, Db.canAccessTarget, hlevel, if_true]

theorem mem_listed {upload : Upload}
    (hmember : db.membershipOf session.user session.tenant = some membership)
    (hmem : upload ∈ db.listed uploads session filter) :
    upload ∈ uploads ∧ upload.tenant = session.tenant ∧
      (membership.level session.now ≤ 20 ∨ upload.uploadedBy = session.user ∨
        upload.contentType = .ticket ∧ upload.objectId ∈ db.visibleTicketIds session) := by
  have hshown := (List.mem_filter.mp hmem).1
  simp only [Db.attachmentQueryset, hmember, ne_eq, not_true_eq_false, if_false] at hshown
  split at hshown
  · rename_i hlevel
    obtain ⟨hrow, htenant⟩ := List.mem_filter.mp hshown
    exact ⟨hrow, beq_iff_eq.mp htenant, Or.inl hlevel⟩
  · obtain ⟨hrow, hseen⟩ := List.mem_filter.mp hshown
    obtain ⟨hrow, htenant⟩ := List.mem_filter.mp hrow
    refine ⟨hrow, beq_iff_eq.mp htenant, Or.inr ?_⟩
    rw [Bool.or_eq_true, Bool.and_eq_true, beq_iff_eq, beq_iff_eq,
      List.contains_iff_mem] at hseen
    exact hseen

end Laws

end Kanzan.Attachments

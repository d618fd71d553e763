import Kanzan.Comments.Rows

/-!
# Writing comments

The write serializer of the comments, and the requests of the viewset that create, change and
delete one.  A request is not undone when it fails after its write.
-/

namespace Kanzan.Comments

open Attachments (ContentType Session)

/-! ## Bodies -/

/-- The fields of a request body, as far as they are given. -/
structure Submitted where
  contentType : Option String := none
  objectId : Option ℕ := none
  body : Option String := none
  isInternal : Option Bool := none
  parent : Option (Option ℕ) := none

/-- What the fields of the serializer make of a body. -/
structure Attrs where
  contentType : Option ContentType
  objectId : Option ℕ
  body : Option String
  isInternal : Option Bool
  parent : Option (Option Comment)

/-- The messages of the serializer, under the fields that they are about. -/
abbrev Errors := List (String × String)

/-- `str.lower()`, as far as it can yield the letters of a name. -/
def lowerChar (c : Char) : Char := if c.toNat = 0x212a then 'k' else c.toLower

/-- `value.strip().lower().split(".")`. -/
def contentTypeParts (value : String) : List String :=
  (((Mail.strip value).toList.map lowerChar).splitOn '.').map String.ofList

def required {α : Type} (patch : Bool) : Option α → Except String (Option α)
  | some value => .ok (some value)
  | none => if patch then .ok none else .error "This field is required."

def readText (patch : Bool) (value : Option String) : Except String (Option String) :=
  match value with
  | none => required patch none
  | some text =>
    if Mail.strip text = "" then .error "This field may not be blank."
    else .ok (some (Mail.strip text))

def errorsOf {α : Type} (field : String) : Except String α → Errors
  | .ok _ => []
  | .error message => [(field, message)]

namespace Db

variable (db : Db) (session : Session)

/-- `validate_content_type`. -/
def validateContentType (value : String) : Except String ContentType :=
  match contentTypeParts value with
  | [appLabel, model] =>
    match db.contentTypes.find? fun row => row.appLabel == appLabel && row.model == model with
    | some row => .ok row.contentType
    | none => .error ("Content type '" ++ appLabel ++ "." ++ model ++ "' does not exist.")
  | _ => .error "content_type must be in 'app_label.model' format (e.g. 'tickets.ticket')."

def readContentType (patch : Bool) (value : Option String) :
    Except String (Option ContentType) :=
  match readText patch value with
  | .error message => .error message
  | .ok none => .ok none
  | .ok (some text) => (db.validateContentType text).map some

def readParent : Option (Option ℕ) → Except String (Option (Option Comment))
  | none => .ok none
  | some none => .ok (some none)
  | some (some id) =>
    match (db.tenantComments session).find? fun comment => comment.id == id with
    | some parent => .ok (some (some parent))
    | none => .error ("Invalid pk \"" ++ toString id ++ "\" - object does not exist.")

/-- The fields of `CommentCreateSerializer`, each on its own. -/
def toInternalValue (patch : Bool) (submitted : Submitted) : Except Errors Attrs :=
  let contentType := db.readContentType patch submitted.contentType
  let objectId := required patch submitted.objectId
  let body := readText patch submitted.body
  let parent := db.readParent session submitted.parent
  match contentType, objectId, body, parent with
  | .ok contentType, .ok objectId, .ok body, .ok parent =>
    .ok { contentType, objectId, body, isInternal := submitted.isInternal, parent }
  | _, _, _, _ =>
    .error (errorsOf "content_type" contentType ++ errorsOf "object_id" objectId ++
      errorsOf "body" body ++ errorsOf "parent" parent)

def targetFound : ContentType → ℕ → Bool
  | .stale _, _ => true
  | .ticket, id => db.tickets.any fun row => row.id == id && row.tenant == session.tenant
  | .comment, id => db.comments.any fun row => row.id == id && row.tenant == session.tenant
  | .message, id => db.messages.any fun row => row.id == id && row.tenant == session.tenant
  | .other model, id =>
    !db.scopedModels.contains model ||
      db.targets.any fun row =>
        row.model == model && row.id == id && row.tenant == some session.tenant

/-- The object is looked for only if a body gives both its type and its key. -/
def targetMissing (attrs : Attrs) : Bool :=
  match attrs.contentType, attrs.objectId with
  | some contentType, some objectId => !db.targetFound session contentType objectId
  | _, _ => false

/-- `CommentCreateSerializer.validate`. -/
def validate (attrs : Attrs) : Except Errors Attrs :=
  if db.targetMissing session attrs then .error [("object_id", "Target object not found.")]
  else match attrs.parent with
  | some (some parent) =>
    if some parent.contentType ≠ attrs.contentType ∨ some parent.objectId ≠ attrs.objectId then
      .error [("parent", "Parent comment must belong to the same content object.")]
    else if parent.parent.isSome then
      .error [("parent", "Replies to replies are not allowed. " ++
        "Reply to the top-level comment instead.")]
    else .ok attrs
  | _ => .ok attrs

/-- `is_valid`. -/
def validated (patch : Bool) (submitted : Submitted) : Except Errors Attrs :=
  match db.toInternalValue session patch submitted with
  | .error errors => .error errors
  | .ok attrs => db.validate session attrs

/-- Whether `content_object` is there; a stale content type makes it raise. -/
def hasContentObject (comment : Comment) : Bool :=
  match comment.contentType with
  | .stale _ => false
  | .ticket => db.tickets.any fun row => row.id == comment.objectId
  | .comment => db.comments.any fun row => row.id == comment.objectId
  | .message => db.messages.any fun row => row.id == comment.objectId
  | .other model => db.targets.any fun row => row.model == model && row.id == comment.objectId

end Db

def Comment.target (comment : Comment) : ContentType × ℕ := (comment.contentType, comment.objectId)

def newComment (session : Session) (id : ℕ) (attrs : Attrs) (contentType : ContentType)
    (objectId : ℕ) (body : String) : Comment where
  id := id
  tenant := session.tenant
  contentType := contentType
  objectId := objectId
  author := session.user
  body := body
  isInternal := attrs.isInternal.getD false
  parent := (attrs.parent.getD none).map fun row => row.id
  createdAt := session.now
  updatedAt := session.now

def Comment.assign (now : ℕ) (attrs : Attrs) (comment : Comment) : Comment :=
  { comment with
    contentType := attrs.contentType.getD comment.contentType
    objectId := attrs.objectId.getD comment.objectId
    body := attrs.body.getD comment.body
    isInternal := attrs.isInternal.getD comment.isInternal
    parent := (attrs.parent.map fun parent => parent.map fun row => row.id).getD comment.parent
    updatedAt := now }

/-- The comments that go with some of them: each level of replies is collected in turn. -/
def cascade (comments : List Comment) : ℕ → List ℕ → List ℕ
  | 0, ids => ids
  | level + 1, ids =>
    cascade comments level
      (ids ++ (comments.filter fun comment =>
        comment.parent.any ids.contains && !ids.contains comment.id).map fun row => row.id)

/-- `instance.delete()`. -/
def deleted (comments : List Comment) (id : ℕ) : List Comment :=
  comments.filter fun comment => !(cascade comments comments.length [id]).contains comment.id

/-! ## Requests -/

/-- A write; a body that the parser or a field cannot read is none. -/
inductive Request where
  | create (id : ℕ) (body : Option Submitted)
  | update (id : ℕ) (patch : Bool) (body : Option Submitted)
  | destroy (id : ℕ)

inductive Response where
  | created (comment : Comment)
  | updated (comment : Comment)
  | noContent
  | unreadable
  | invalid (errors : Errors)
  | forbidden
  | notFound
  | serverError

namespace Db

variable (db : Db) (session : Session) (filter : CommentFilter)

/-- `create`, under the key that the new row draws. -/
def create (id : ℕ) (body : Option Submitted) : Response × Db :=
  match body with
  | none => (.unreadable, db)
  | some submitted =>
    match db.validated session false submitted with
    | .error errors => (.invalid errors, db)
    | .ok attrs =>
      match attrs.contentType, attrs.objectId, attrs.body with
      | some contentType, some objectId, some body =>
        let comment := newComment session id attrs contentType objectId body
        let db' := { db with comments := db.comments ++ [comment] }
        if db.comments.any fun row => row.id == id then (.serverError, db)
        -- the activity is logged after the save, and needs the target
        else if db'.hasContentObject comment then (.created comment, db')
        else (.serverError, db')
      | _, _, _ => (.serverError, db)

/-- `update` and `partial_update`. -/
def update (id : ℕ) (patch : Bool) (body : Option Submitted) : Response × Db :=
  match db.getComment session filter id with
  | none => (.notFound, db)
  | some comment =>
    match body with
    | none => (.unreadable, db)
    | some submitted =>
      match db.validated session patch submitted with
      | .error errors => (.invalid errors, db)
      | .ok attrs =>
        let comment' := comment.assign session.now attrs
        (.updated comment', { db with comments := db.comments.map fun row =>
          if row.id = comment.id then comment' else row })

/-- `destroy`; the activity is logged before the deletion, and needs the target. -/
def destroy (id : ℕ) : Response × Db :=
  match db.getComment session filter id with
  | none => (.notFound, db)
  | some comment =>
    if db.hasContentObject comment then
      (.noContent, { db with comments := deleted db.comments comment.id })
    else (.serverError, db)

/-- The viewset, behind `IsTenantMember`. -/
def handle (request : Request) : Response × Db :=
  if (db.membershipOf session).isNone then (.forbidden, db)
  else match request with
  | .create id body => db.create session id body
  | .update id patch body => db.update session filter id patch body
  | .destroy id => db.destroy session filter id

end Db

/-! ## Runs -/

/-- A request with its session and query, or a change of any other table. -/
inductive Event where
  | request (session : Session) (filter : CommentFilter) (request : Request)
  | elsewhere (other : Db)

def step (db : Db) : Event → Db
  | .request session filter request => (db.handle session filter request).2
  | .elsewhere other => { other with comments := db.comments }

end Kanzan.Comments

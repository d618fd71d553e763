import Kanzan.Accounts.Permissions
import Kanzan.Mail.Text
import Kanzan.Support.Results

/-!
# Articles

The rows of the knowledge base, and what the requests of its review workflow check and save.  A
request loads an article and saves it later: an update saves the whole row, the actions only the
columns that they name.
-/

namespace Kanzan.Knowledge

/-- `Article.Status`. -/
inductive Status where
  | draft
  | pendingReview
  | published
  | rejected
  | flagged
  deriving DecidableEq, Repr

structure Article where
  title : String
  content : String := ""
  file : Option String := none
  fileName : String := ""
  author : String
  status : Status := .draft
  reviewer : Option String := none
  reviewedAt : Option ℕ := none
  submittedAt : Option ℕ := none
  rejectionReason : String := ""
  publishedAt : Option ℕ := none
  deriving DecidableEq, Repr

/-- What readers of an article see. -/
structure Texts where
  title : String
  content : String
  file : Option String
  deriving DecidableEq, Repr

def Article.texts (article : Article) : Texts := ⟨article.title, article.content, article.file⟩

/-- A file that comes with a request, and where the storage puts it. -/
structure Upload where
  name : String
  path : String
  deriving DecidableEq, Repr

/-- The writable fields of a request body; what it leaves out is `none`. -/
structure ArticleData where
  title : Option String := none
  content : Option String := none
  status : Option Status := none
  file : Option (Option Upload) := none
  fileName : Option String := none
  deriving DecidableEq, Repr

/-- A member of the tenant. -/
structure Caller where
  membership : Accounts.Membership
  isSuperuser : Bool := false

namespace Caller

def user (caller : Caller) : String := caller.membership.user

/-- `_is_admin_or_manager`. -/
def isAdminOrManager (now : ℕ) (caller : Caller) : Bool :=
  caller.isSuperuser || caller.membership.level now ≤ 20

end Caller

inductive Refusal where
  | invalid (field : String) (detail : String)
  | notFound (detail : String)
  | permissionDenied (detail : String)
  | badRequest (detail : String)
  deriving DecidableEq, Repr

/-- The tables that the requests read and do not write. -/
structure Site where
  catalogue : Accounts.Catalogue
  /-- `allowed_groups` of an article is empty, or the user is a member of one of them. -/
  allows : ℕ → String → Bool

inductive Request where
  | create (caller : Caller) (data : ArticleData)
  | update (caller : Caller) (patch : Bool) (pk : ℕ) (data : ArticleData)
  | submitForReview (caller : Caller) (pk : ℕ)
  | approve (caller : Caller) (pk : ℕ)
  | reject (caller : Caller) (pk : ℕ) (reason : Option String)

/-! ## Checks -/

section Checks

variable (site : Site) (now : ℕ) (caller : Caller)

/-- `HasTenantPermission` for `kb_article`. -/
def mayUse (action : String) : Bool :=
  site.catalogue.hasTenantPermission now ⟨some "kb_article", action⟩ caller.membership

/-- The rows of `get_queryset`. -/
def isVisible (pk : ℕ) (article : Article) : Bool :=
  caller.isAdminOrManager now ||
    ((article.status = .published || article.author = caller.user) &&
      (site.allows pk caller.user || article.author = caller.user))

def permit (action : String) : Except Refusal Unit :=
  if mayUse site now caller action then .ok ()
  else .error (.permissionDenied "You do not have permission to perform this action.")

/-- `get_object`, of the row under the key. -/
def getObject (pk : ℕ) (row : Option Article) : Except Refusal Article :=
  match row.filter (isVisible site now caller pk) with
  | some article => .ok article
  | none => .error (.notFound "No Article matches the given query.")

def validateText (field : String) (blank : Bool) (bound : Option ℕ) :
    Option String → Except Refusal (Option String)
  | none => .ok none
  | some text =>
    if !blank && Mail.strip text = "" then .error (.invalid field "This field may not be blank.")
    else
      match bound with
      | none => .ok (some (Mail.strip text))
      | some bound =>
        if bound < (Mail.strip text).length then
          .error (.invalid field
            ("Ensure this field has no more than " ++ toString bound ++ " characters."))
        else .ok (some (Mail.strip text))

/-- `ArticleCreateSerializer.is_valid`. -/
def validate (patch : Bool) (data : ArticleData) : Except Refusal ArticleData :=
  if !patch && data.title.isNone then .error (.invalid "title" "This field is required.")
  else do
    let title ← validateText "title" false (some 255) data.title
    let content ← validateText "content" true none data.content
    let fileName ← validateText "file_name" true (some 255) data.fileName
    return { data with title, content, fileName }

def validateReason : Option String → Except Refusal String
  | none => .error (.invalid "rejection_reason" "This field is required.")
  | some reason =>
    if Mail.strip reason = "" then
      .error (.invalid "rejection_reason" "This field may not be blank.")
    else if 2000 < (Mail.strip reason).length then
      .error (.invalid "rejection_reason" "Ensure this field has no more than 2000 characters.")
    else .ok (Mail.strip reason)

end Checks

/-! ## Saves -/

namespace ArticleData

variable (data : ArticleData)

def withFileName : ArticleData :=
  match data.file with
  | some (some upload) =>
    if data.fileName.getD "" = "" then { data with fileName := some upload.name } else data
  | _ => data

def assign (article : Article) : Article :=
  { article with
    title := data.title.getD article.title
    content := data.content.getD article.content
    status := data.status.getD article.status
    file := (data.file.map fun upload => upload.map Upload.path).getD article.file
    fileName := data.fileName.getD article.fileName }

end ArticleData

/-- `Article.save`, up to the statement that it sends. -/
def Article.stamp (now : ℕ) (article : Article) : Article :=
  { article with
    publishedAt := if article.status = .published then article.publishedAt.or (some now)
      else article.publishedAt
    submittedAt := if article.status = .pendingReview then article.submittedAt.or (some now)
      else article.submittedAt }

section Views

variable (site : Site) (now : ℕ) (caller : Caller)

/-- The article that `perform_create` inserts. -/
def createArticle (data : ArticleData) : Except Refusal Article := do
  permit site now caller "create"
  let data ← validate false data
  let data := data.withFileName
  let data := if caller.isAdminOrManager now then data else { data with status := some .draft }
  return (data.assign { title := "", author := caller.user }).stamp now

/-- The checks of `perform_update`, and the values that it saves. -/
def performUpdate (article : Article) (data : ArticleData) : Except Refusal ArticleData :=
  if caller.isAdminOrManager now then .ok data.withFileName
  else if article.author ≠ caller.user then
    .error (.permissionDenied "You can only edit your own articles.")
  else if article.status = .pendingReview then
    .error (.permissionDenied "This article is locked while under review.")
  else if data.status = some .published ∨ data.status = some .pendingReview then
    .ok { data.withFileName with status := some .draft }
  else .ok data.withFileName

def updateArticle (patch : Bool) (pk : ℕ) (row : Option Article) (data : ArticleData) :
    Except Refusal Article := do
  permit site now caller (if patch then "partial_update" else "update")
  let article ← getObject site now caller pk row
  let data ← validate patch data
  let data ← performUpdate now caller article data
  return data.assign article

/-- The checks of `submit_for_review`. -/
def checkSubmit (pk : ℕ) (row : Option Article) : Except Refusal Unit := do
  permit site now caller "submit_for_review"
  let article ← getObject site now caller pk row
  if article.author ≠ caller.user ∧ caller.isAdminOrManager now = false then
    .error (.permissionDenied "Only the author can submit for review.")
  else if article.status ≠ .draft ∧ article.status ≠ .rejected then
    .error (.badRequest "Only draft or rejected articles can be submitted for review.")
  else .ok ()

/-- The first checks of `approve` and `reject`. -/
def checkReviewer (action : String) : Except Refusal Unit := do
  permit site now caller action
  if caller.isAdminOrManager now then .ok ()
  else .error (.permissionDenied ("Only admins and managers can " ++ action ++ " articles."))

/-- The article that `approve` or `reject` loads. -/
def getPending (done : String) (pk : ℕ) (row : Option Article) : Except Refusal Article := do
  let article ← getObject site now caller pk row
  if article.status = .pendingReview then .ok article
  else .error (.badRequest ("Only articles pending review can be " ++ done ++ "."))

/-- The checks of `approve`. -/
def checkApprove (pk : ℕ) (row : Option Article) : Except Refusal Article := do
  checkReviewer site now caller "approve"
  getPending site now caller "approved" pk row

/-- The checks of `reject`. -/
def checkReject (pk : ℕ) (row : Option Article) (reason : Option String) :
    Except Refusal String := do
  checkReviewer site now caller "reject"
  let reason ← validateReason reason
  let _ ← getPending site now caller "rejected" pk row
  return reason

/-- The columns of `submit_for_review`. -/
def Article.submitted (article : Article) : Article :=
  { article with
    status := .pendingReview
    submittedAt := some now
    rejectionReason := ""
    reviewer := none
    reviewedAt := none }

/-- The columns of `approve`. -/
def Article.approved (reviewer : String) (article : Article) : Article :=
  { article with
    status := .published
    reviewer := some reviewer
    reviewedAt := some now
    publishedAt := some now }

/-- The columns of `reject`. -/
def Article.rejected (reviewer reason : String) (article : Article) : Article :=
  { article with
    status := .rejected
    rejectionReason := reason
    reviewer := some reviewer
    reviewedAt := some now }

end Views

variable {row : Option Article} {patch : Bool}

section Laws

variable {site : Site} {now : ℕ} {caller : Caller} {article : Article}
variable {data : ArticleData}

theorem draft_of_createArticle (hother : caller.isAdminOrManager now = false)
    (hok : createArticle site now caller data = .ok article) : article.status = .draft := by
  rw [createArticle] at hok
  obtain ⟨-, -, hok⟩ := Support.bind_eq_ok.mp hok
  obtain ⟨data, -, hok⟩ := Support.bind_eq_ok.mp hok
  simp only [hother, Bool.false_eq_true, if_false] at hok
  obtain rfl := Except.ok.inj hok
  rfl

end Laws

end Kanzan.Knowledge

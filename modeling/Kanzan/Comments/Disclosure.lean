import Kanzan.Comments.Hidden

/-!
# What is told of hidden comments

Attachments of hidden comments, and which answers keep the hidden comments to themselves.
-/

namespace Kanzan.Comments

open Accounts (Membership)
open Attachments (AttachmentFilter ContentType Session Upload ViewResponse)

variable {db : Db}

/-! ## Attachments -/

section Attachments

variable {board : Board} {session : Session} {comments : List Comment} {comment : Comment}
  {upload : Upload} {id : ℕ}

def Db.levelOf (db : Db) (session : Session) : ℕ :=
  db.access.effectiveLevel session.now session.user session.tenant

def Db.targetComment (db : Db) (session : Session) (id : ℕ) : Option Comment :=
  db.comments.find? fun comment => comment.id == id && comment.tenant == session.tenant

theorem hasObjectPermission_comment (hcontent : upload.contentType = .comment)
    (hlevel : 20 < db.levelOf session) :
    db.access.hasObjectPermission session upload =
      match db.targetComment session upload.objectId with
      | none => false
      | some comment =>
        if comment.isInternal && 30 < db.levelOf session then false
        else match db.access.commentedTicket comment.toComment with
        | some ticket => Attachments.Db.agentCanSeeTicket session.user ticket
        | none => true := by
  have hlow : ¬ db.access.effectiveLevel session.now session.user session.tenant ≤ 20 :=
    Nat.not_le.mpr hlevel
  have hfind : db.access.comments.find? (fun row =>
      row.id == upload.objectId && row.tenant == session.tenant) =
        (db.targetComment session upload.objectId).map Comment.toComment :=
    List.find?_map
  simp only [Attachments.Db.hasObjectPermission, Attachments.Db.canAccessTarget, hcontent, if_neg hlow,
    hfind]
  cases db.targetComment session upload.objectId with
  | none => rfl
  | some comment => rfl

theorem hasObjectPermission_withComments (hcontent : upload.contentType ≠ .comment) :
    (db.withComments comments).access.hasObjectPermission session upload =
      db.access.hasObjectPermission session upload := by
  unfold Attachments.Db.hasObjectPermission Attachments.Db.canAccessTarget
  cases hcase : upload.contentType with
  | ticket => rfl
  | comment => exact absurd hcase hcontent
  | message => rfl
  | other model => rfl
  | stale model => rfl

theorem targetComment_of_mem (db : Db) (keyed : Keyed db.comments) (hmem : comment ∈ db.comments) :
    db.targetComment session comment.id =
      if comment.tenant = session.tenant then some comment else none := by
  unfold Db.targetComment
  split
  · rename_i htenant
    cases hfind : db.comments.find? fun row =>
        row.id == comment.id && row.tenant == session.tenant with
    | none =>
      have hnot := List.find?_eq_none.mp hfind comment hmem
      simp [htenant] at hnot
    | some found =>
      have hfound := List.find?_some hfind
      simp only [Bool.and_eq_true, beq_iff_eq] at hfound
      rw [keyed.eq_of_id (List.mem_of_find?_eq_some hfind) hmem hfound.1]
  · rename_i htenant
    refine List.find?_eq_none.mpr fun row hrow hfound => htenant ?_
    simp only [Bool.and_eq_true, beq_iff_eq] at hfound
    rw [← keyed.eq_of_id hrow hmem hfound.1]
    exact hfound.2

theorem not_isInternal_of_open (hopen : db.hidden session comment = false) :
    comment.isInternal = false ∧ ∀ ticket, db.access.commentedTicket comment.toComment =
      some ticket → Attachments.Db.agentCanSeeTicket session.user ticket = true := by
  rw [Db.hidden, Bool.or_eq_false_iff] at hopen
  refine ⟨hopen.1, fun ticket hticket => ?_⟩
  have hsee := hopen.2
  rw [hticket] at hsee
  rwa [Bool.not_eq_false'] at hsee

theorem hasObjectPermission_of_open (db : Db) (hcontent : upload.contentType = .comment)
    (hlevel : 20 < db.levelOf session) (keyed : Keyed db.comments) (hmem : comment ∈ db.comments)
    (hid : comment.id = upload.objectId) (hopen : db.hidden session comment = false) :
    db.access.hasObjectPermission session upload = decide (comment.tenant = session.tenant) := by
  obtain ⟨hinternal, hsee⟩ := not_isInternal_of_open hopen
  rw [hasObjectPermission_comment hcontent hlevel, ← hid, targetComment_of_mem _ keyed hmem]
  by_cases htenant : comment.tenant = session.tenant
  · simp only [if_pos htenant, hinternal, Bool.false_and, Bool.false_eq_true, if_false,
      decide_eq_true htenant]
    cases hticket : db.access.commentedTicket comment.toComment with
    | none => rfl
    | some ticket => exact hsee ticket hticket
  · simp only [if_neg htenant, decide_eq_false htenant]

/-- Those above the agents are refused the attachments of a hidden comment. -/
theorem hasObjectPermission_of_hidden (db : Db) (hcontent : upload.contentType = .comment)
    (hlevel : 30 < db.levelOf session) (hopen : ¬ OpenAt db session upload.objectId) :
    db.access.hasObjectPermission session upload = false := by
  rw [hasObjectPermission_comment hcontent (Nat.lt_trans (by decide) hlevel)]
  cases hfind : db.targetComment session upload.objectId with
  | none => rfl
  | some comment =>
    have hfound := List.find?_some hfind
    simp only [Bool.and_eq_true, beq_iff_eq] at hfound
    have hhidden : db.hidden session comment = true := by
      by_contra hnot
      rw [Bool.not_eq_true] at hnot
      exact hopen ⟨comment, List.mem_of_find?_eq_some hfind, hfound.1, hnot⟩
    simp only [hlevel, decide_true, Bool.and_true]
    cases hinternal : comment.isInternal with
    | true => rfl
    | false =>
      rw [Db.hidden, hinternal, Bool.false_or] at hhidden
      simp only [Bool.false_eq_true, if_false]
      cases hticket : db.access.commentedTicket comment.toComment with
      | none => simp [hticket] at hhidden
      | some ticket => simpa [hticket] using hhidden

theorem openAt_withComments
    (hvisible : db.visible session comments = db.visible session db.comments) :
    OpenAt (db.withComments comments) session id ↔ OpenAt db session id := by
  constructor
  · rintro ⟨comment, hmem, hid, hopen⟩
    exact ⟨comment, (mem_iff_of_visible hvisible hopen).mp hmem, hid, hopen⟩
  · rintro ⟨comment, hmem, hid, hopen⟩
    exact ⟨comment, (mem_iff_of_visible hvisible hopen).mpr hmem, hid, hopen⟩

/-- The check does not depend on the hidden comments if the comment is open, or the user no agent. -/
theorem hasObjectPermission_congr (upload : Upload) (hlevel : 20 < board.levelOf session)
    (hspares : upload.contentType = .comment →
      OpenAt board.toDb session upload.objectId ∨ 30 < board.levelOf session)
    (keyed : Keyed comments)
    (hvisible : board.visible session comments = board.visible session board.comments) :
    (board.withComments comments).access.hasObjectPermission session upload =
      board.access.hasObjectPermission session upload := by
  by_cases hcontent : upload.contentType = .comment
  · by_cases hopen : OpenAt board.toDb session upload.objectId
    · obtain ⟨comment, hmem, hid, hopen⟩ := hopen
      have hmem' := (mem_iff_of_visible hvisible hopen).mpr hmem
      rw [hasObjectPermission_of_open _ hcontent hlevel board.keyed hmem hid hopen]
      exact hasObjectPermission_of_open (board.withComments comments) hcontent hlevel keyed
        hmem' hid hopen
    · have hviewer := (hspares hcontent).resolve_left hopen
      rw [hasObjectPermission_of_hidden _ hcontent hviewer hopen]
      refine hasObjectPermission_of_hidden (board.withComments comments) hcontent hviewer ?_
      rwa [openAt_withComments hvisible]
  · exact hasObjectPermission_withComments hcontent

def internalNote (session : Session) (tenant id : ℕ) : Comment where
  id := id
  tenant := tenant
  isInternal := true
  contentType := .message
  objectId := 0
  author := session.user
  body := ""
  createdAt := 0
  updatedAt := 0

theorem targetComment_put_internalNote {tenant : ℕ} (keyed : Keyed db.comments) :
    (db.withComments (put db.comments (internalNote session tenant id))).targetComment session id =
      if tenant = session.tenant then some (internalNote session tenant id) else none := by
  have hput : Keyed (put db.comments (internalNote session tenant id)) :=
    keyed.put fun _ hkey => absurd hkey nofun
  exact targetComment_of_mem (db.withComments _) hput (mem_put.mpr (Or.inr rfl))

theorem hasObjectPermission_put_internalNote (tenant : ℕ)
    (hcontent : upload.contentType = .comment) (hlevel : 20 < board.levelOf session)
    (hagent : board.levelOf session ≤ 30) :
    (board.withComments (put board.comments
        (internalNote session tenant upload.objectId))).access.hasObjectPermission session upload =
      decide (tenant = session.tenant) := by
  rw [hasObjectPermission_comment hcontent (by exact hlevel),
    targetComment_put_internalNote board.keyed]
  by_cases htenant : tenant = session.tenant
  · have hlow : ¬ 30 < (board.withComments (put board.comments
        (internalNote session tenant upload.objectId))).levelOf session := Nat.not_lt.mpr hagent
    simp only [if_pos htenant, hlow, decide_false, Bool.and_false, Bool.false_eq_true, if_false,
      decide_eq_true htenant]
    rfl
  · simp only [if_neg htenant, decide_eq_false htenant]

theorem Secure.answer_internalNote {query : Query} (secure : Secure board.toDb session query)
    (tenant : ℕ) (hid : ¬ OpenAt board.toDb session id) :
    (board.withComments (put board.comments (internalNote session tenant id))).answer session
      query = board.answer session query :=
  secure.answer_put board.keyed rfl hid fun _ hkey => absurd hkey nofun

theorem not_openAt_of_hidden (hmem : comment ∈ board.comments)
    (hhidden : board.hidden session comment = true) : ¬ OpenAt board.toDb session comment.id := by
  rintro ⟨other, hother, hid, hopen⟩
  rw [board.keyed.eq_of_id hother hmem hid, hhidden] at hopen
  cases hopen

/-- What is answered about an attachment that is found: the check decides. -/
def Db.ifPermitted (db : Db) (session : Session) (filter : AttachmentFilter) (id : ℕ)
    (given : Upload → ViewResponse) : Answer :=
  match ((db.uploads.filter fun upload => upload.tenant == session.tenant).filter
      filter.keeps).find? fun upload => upload.id == id with
  | none => .media (.notFound "No Attachment matches the given query.")
  | some upload =>
    if db.access.hasObjectPermission session upload then .media (given upload)
    else .media
      (.forbidden "You do not have permission to access this attachment's target object.")

section IfPermitted

variable {query : Query} {filter : AttachmentFilter}

/-- The requests about one attachment, those who ask being members. -/
theorem secure_ifPermitted_iff (given : Upload → ViewResponse) (hlevel : 20 < board.levelOf session)
    (hanswer : ∀ comments, (board.withComments comments).answer session query =
      (board.withComments comments).ifPermitted session filter id given)
    (hgiven : ∀ upload message, given upload ≠ .forbidden message)
    (hfiles : ∀ upload, (Answer.media (given upload)).shown = [] ∧
      (Answer.media (given upload)).files ⊆ [upload]) :
    Secure board.toDb session query ↔ Spares board.toDb session filter id := by
  have hboard : board.answer session query = board.ifPermitted session filter id given :=
    hanswer board.comments
  constructor
  · intro secure upload hfind hcontent
    by_contra hnot
    obtain ⟨hopen, hagent⟩ := not_or.mp hnot
    have hvariant : ∀ tenant, (board.withComments (put board.comments
        (internalNote session tenant upload.objectId))).ifPermitted session filter id given =
          if tenant = session.tenant then .media (given upload)
          else .media
            (.forbidden "You do not have permission to access this attachment's target object.") := by
      intro tenant
      have hpermission := hasObjectPermission_put_internalNote tenant hcontent hlevel
        (Nat.not_lt.mp hagent)
      rw [Db.ifPermitted]
      simp only [show (board.withComments (put board.comments (internalNote session tenant
        upload.objectId))).uploads = board.uploads from rfl, hfind, hpermission, decide_eq_true_eq]
    have hgranted := secure.answer_internalNote session.tenant hopen
    have hrefused := secure.answer_internalNote (session.tenant + 1) hopen
    rw [hanswer, hvariant, if_pos rfl] at hgranted
    rw [hanswer, hvariant, if_neg (Nat.succ_ne_self _)] at hrefused
    exact hgiven upload _ (Answer.media.inj (hgranted.trans hrefused.symm))
  · intro hspares
    constructor
    · intro comment hmem hhidden hdiscloses
      have hopen := not_openAt_of_hidden hmem hhidden
      rw [hboard, Db.ifPermitted] at hdiscloses
      split at hdiscloses
      · rcases hdiscloses with ⟨entry, hentry, -⟩ | ⟨upload, hupload, -⟩
        · cases hentry
        · cases hupload
      · rename_i found hfind
        split at hdiscloses
        · rename_i hpermission
          rcases hdiscloses with ⟨entry, hentry, -⟩ | ⟨upload, hupload, hcontent, hid⟩
          · rw [(hfiles found).1] at hentry
            cases hentry
          · obtain rfl := List.mem_singleton.mp ((hfiles found).2 hupload)
            rw [← hid] at hopen
            have hviewer := (hspares upload hfind hcontent).resolve_left hopen
            rw [hasObjectPermission_of_hidden _ hcontent hviewer hopen] at hpermission
            cases hpermission
        · rcases hdiscloses with ⟨entry, hentry, -⟩ | ⟨upload, hupload, -⟩
          · cases hentry
          · cases hupload
    · intro comments keyed hvisible
      rw [hanswer, hboard, Db.ifPermitted, Db.ifPermitted]
      cases hfind : ((board.uploads.filter fun upload => upload.tenant == session.tenant).filter
          filter.keeps).find? fun upload => upload.id == id with
      | none => simp only [show (board.withComments comments).uploads = board.uploads from rfl, hfind]
      | some upload =>
        have hsame := hasObjectPermission_congr upload hlevel (hspares upload hfind) keyed hvisible
        simp only [show (board.withComments comments).uploads = board.uploads from rfl, hfind,
          hsame]

/-- The answer to a request about one attachment, from what `get_object` says. -/
def respond (given : Upload → ViewResponse) : Except ViewResponse Upload → ViewResponse
  | .error response => response
  | .ok upload => given upload

theorem respond_getAttachment (db : Db) (action : Attachments.Action)
    (given : Upload → ViewResponse) (haction : action ≠ .list)
    (hmember : db.access.userIsTenantMember session.user session.tenant = true) :
    Answer.media (respond given (db.access.getAttachment db.uploads session filter action id)) =
      db.ifPermitted session filter id given := by
  rw [Attachments.Db.getAttachment, hmember, Attachments.Db.attachmentQueryset, if_pos haction,
    Db.ifPermitted, Bool.not_true, if_neg Bool.false_ne_true]
  cases ((db.uploads.filter fun upload => upload.tenant == session.tenant).filter
      filter.keeps).find? fun upload => upload.id == id with
  | none => rfl
  | some upload =>
    simp only
    split
    · rfl
    · rfl

end IfPermitted

section Requests

variable {filter : AttachmentFilter}

theorem secure_attachments_iff
    (hmember : board.access.userIsTenantMember session.user session.tenant = true) :
    Secure board.toDb session (.attachments filter) ↔
      Withholds board.toDb session (.attachments filter) := by
  have hanswer : board.answer session (.attachments filter) =
      .media (.rows (board.access.listed board.uploads session filter)) := by
    rw [Db.answer, Attachments.Db.listAttachments, hmember, if_pos rfl]
  constructor
  · intro secure upload hmem hcontent comment hcomment hid
    by_contra hhidden
    rw [Bool.not_eq_false] at hhidden
    refine secure.1 comment hcomment hhidden (Or.inr ⟨upload, ?_, hcontent, hid.symm⟩)
    rw [hanswer]
    exact hmem
  · intro hlisted
    constructor
    · intro comment hcomment hhidden hdiscloses
      rw [hanswer] at hdiscloses
      rcases hdiscloses with ⟨entry, hentry, -⟩ | ⟨upload, hupload, hcontent, hid⟩
      · cases hentry
      · rw [hlisted upload hupload hcontent comment hcomment hid.symm] at hhidden
        cases hhidden
    · intro comments _ _
      -- the list reads no comments
      rfl

theorem secure_attachment_iff (hlevel : 20 < board.levelOf session)
    (hmember : board.access.userIsTenantMember session.user session.tenant = true) :
    Secure board.toDb session (.attachment filter id) ↔
      Withholds board.toDb session (.attachment filter id) := by
  refine secure_ifPermitted_iff .row hlevel (fun comments => ?_)
    (fun _ _ => ViewResponse.noConfusion) fun _ => ⟨rfl, List.Subset.refl _⟩
  rw [← respond_getAttachment (board.withComments comments) .retrieve .row (by decide) hmember]
  rfl

theorem secure_remove_iff (hlevel : 20 < board.levelOf session)
    (hmember : board.access.userIsTenantMember session.user session.tenant = true) :
    Secure board.toDb session (.remove filter id) ↔
      Withholds board.toDb session (.remove filter id) := by
  refine secure_ifPermitted_iff (fun _ => .deleted) hlevel (fun comments => ?_)
    (fun _ _ => ViewResponse.noConfusion) fun _ => ⟨rfl, List.nil_subset _⟩
  rw [← respond_getAttachment (board.withComments comments) .destroy (fun _ => .deleted) (by decide) hmember]
  rfl

def Db.content (db : Db) (upload : Upload) : ViewResponse :=
  if upload.file = "" ∨ db.access.files.all fun file => file.path != upload.file then
    .notFound "File not found."
  else .content upload

theorem secure_download_iff (hlevel : 20 < board.levelOf session)
    (hmember : board.access.userIsTenantMember session.user session.tenant = true) :
    Secure board.toDb session (.download filter id) ↔
      Withholds board.toDb session (.download filter id) := by
  refine secure_ifPermitted_iff board.content hlevel (fun comments => ?_) ?_ ?_
  · rw [← respond_getAttachment (board.withComments comments) .download board.content (by decide)
      hmember]
    rfl
  · intro upload message
    rw [Db.content]
    split
    · nofun
    · nofun
  · intro upload
    rw [Db.content]
    split
    · exact ⟨rfl, List.nil_subset _⟩
    · exact ⟨rfl, List.Subset.refl _⟩

theorem uploadTargetFound_eq (objectId : ℕ) :
    db.access.uploadTargetFound session .comment objectId =
      (db.targetComment session objectId).isSome := by
  rw [Bool.eq_iff_iff, Db.targetComment, List.find?_isSome]
  simp [Attachments.Db.uploadTargetFound, Db.access]

theorem uploadTargetFound_withComments {contentType : ContentType}
    (hcontent : contentType ≠ .comment) (objectId : ℕ) :
    (db.withComments comments).access.uploadTargetFound session contentType objectId =
      db.access.uploadTargetFound session contentType objectId := by
  unfold Attachments.Db.uploadTargetFound
  cases contentType with
  | ticket => rfl
  | comment => exact absurd rfl hcontent
  | message => rfl
  | other model => rfl
  | stale model => rfl

theorem createAttachment_member (db : Db) (upload : Upload) (isFull : Bool)
    (hmember : db.access.userIsTenantMember session.user session.tenant = true) :
    db.access.createAttachment session upload [] isFull =
      if db.access.uploadTargetFound session upload.contentType upload.objectId then
        if db.access.hasObjectPermission session upload then
          if isFull then .paymentRequired
          else .created { upload with tenant := session.tenant, uploadedBy := session.user }
        else .forbidden "You do not have permission to attach files to this object."
      else .invalid [("object_id", "Target object not found.")] := by
  rw [Attachments.Db.createAttachment, hmember, Bool.not_true, if_neg Bool.false_ne_true,
    if_neg (not_not.mpr rfl)]
  cases db.access.uploadTargetFound session upload.contentType upload.objectId with
  | false => rfl
  | true =>
    cases db.access.hasObjectPermission session upload with
    | false => rfl
    | true => rfl

variable {fileErrors : List (String × String)} {isFull : Bool}

theorem openAt_of_secure_upload
    (hmember : board.access.userIsTenantMember session.user session.tenant = true)
    (secure : Secure board.toDb session (.upload upload [] isFull))
    (hcontent : upload.contentType = .comment) : OpenAt board.toDb session upload.objectId := by
  by_contra hopen
  have hpresent := secure.answer_internalNote session.tenant hopen
  have habsent := secure.answer_internalNote (session.tenant + 1) hopen
  have hsame := Answer.media.inj (hpresent.trans habsent.symm)
  have hcreate := fun comments =>
    createAttachment_member (board.withComments comments) upload isFull hmember
  rw [hcreate, hcreate, hcontent, uploadTargetFound_eq, uploadTargetFound_eq, targetComment_put_internalNote board.keyed,
    targetComment_put_internalNote board.keyed, if_pos rfl, if_neg (Nat.succ_ne_self _),
    Option.isSome_some, if_pos rfl, Option.isSome_none, if_neg Bool.false_ne_true] at hsame
  split at hsame
  · split at hsame
    · cases hsame
    · cases hsame
  · cases hsame

/-- An upload to a comment that is not hidden is answered the same in all tables. -/
theorem createAttachment_congr (hlevel : 20 < board.levelOf session)
    (hmember : board.access.userIsTenantMember session.user session.tenant = true)
    (hopen : upload.contentType = .comment → OpenAt board.toDb session upload.objectId)
    (keyed : Keyed comments)
    (hvisible : board.visible session comments = board.visible session board.comments) :
    (board.withComments comments).access.createAttachment session upload [] isFull =
      board.access.createAttachment session upload [] isFull := by
  have hpermission := hasObjectPermission_congr upload hlevel
    (fun hcontent => Or.inl (hopen hcontent)) keyed hvisible
  have htarget : (board.withComments comments).access.uploadTargetFound session upload.contentType
      upload.objectId =
        board.access.uploadTargetFound session upload.contentType upload.objectId := by
    by_cases hcontent : upload.contentType = .comment
    · obtain ⟨comment, hmem, hid, hvisibleRow⟩ := hopen hcontent
      have hmem' := (mem_iff_of_visible hvisible hvisibleRow).mpr hmem
      rw [hcontent, uploadTargetFound_eq, uploadTargetFound_eq, ← hid,
        targetComment_of_mem _ board.keyed hmem]
      rw [targetComment_of_mem (board.withComments comments) keyed hmem']
    · exact uploadTargetFound_withComments hcontent _
  rw [createAttachment_member (board.withComments comments) upload isFull hmember,
    createAttachment_member _ upload isFull hmember, hpermission, htarget]

theorem secure_upload_iff (hlevel : 20 < board.levelOf session)
    (hmember : board.access.userIsTenantMember session.user session.tenant = true) :
    Secure board.toDb session (.upload upload fileErrors isFull) ↔
      Withholds board.toDb session (.upload upload fileErrors isFull) := by
  by_cases herrors : fileErrors = []
  · subst herrors
    constructor
    · intro secure hcontent
      exact Or.inl (openAt_of_secure_upload hmember secure hcontent)
    · intro hwithholds
      have hopen : upload.contentType = .comment → OpenAt board.toDb session upload.objectId :=
        fun hcontent => (hwithholds hcontent).resolve_right (not_not.mpr rfl)
      constructor
      · intro comment hmem hhidden hdiscloses
        rcases hdiscloses with ⟨entry, hentry, -⟩ | ⟨found, hfound, hcontent, hid⟩
        · cases hentry
        · rw [Db.answer, createAttachment_member _ upload isFull hmember] at hfound
          split at hfound
          · split at hfound
            · split at hfound
              · cases hfound
              · rw [Answer.files, List.mem_singleton] at hfound
                rw [hfound] at hcontent hid
                have hrow := hopen hcontent
                rw [show upload.objectId = comment.id from hid] at hrow
                exact not_openAt_of_hidden hmem hhidden hrow
            · cases hfound
          · cases hfound
      · intro comments keyed hvisible
        exact congrArg Answer.media (createAttachment_congr hlevel hmember hopen keyed hvisible)
  · have hinvalid : ∀ db : Db,
        db.access.userIsTenantMember session.user session.tenant = true →
        db.answer session (.upload upload fileErrors isFull) = .media (.invalid fileErrors) := by
      intro db hdb
      rw [Db.answer, Attachments.Db.createAttachment, hdb, Bool.not_true,
        if_neg Bool.false_ne_true, if_pos herrors]
    refine ⟨fun _ _ => Or.inr herrors, fun _ => ⟨fun comment _ _ hdiscloses => ?_, ?_⟩⟩
    · rw [hinvalid board.toDb hmember] at hdiscloses
      rcases hdiscloses with ⟨entry, hentry, -⟩ | ⟨found, hfound, -⟩
      · cases hentry
      · cases hfound
    · intro comments _ _
      rw [hinvalid board.toDb hmember]
      exact hinvalid (board.withComments comments) hmember

end Requests

end Attachments

/-! ## Answers to members below the managers -/

/-- An answer to a member below the managers keeps the hidden comments to itself exactly if it withholds. -/
theorem secure_iff_withholds (board : Board) (session : Session) (query : Query)
    (membership : Membership) (hmember : board.membershipOf session = some membership)
    (hlevel : 20 < membership.level session.now) :
    Secure board.toDb session query ↔ Withholds board.toDb session query := by
  have hnone : (board.membershipOf session).isNone = false := by rw [hmember, Option.isNone_some]
  have hfound : board.access.membershipOf session.user session.tenant = some membership := hmember
  have hisMember : board.access.userIsTenantMember session.user session.tenant = true := by
    rw [Attachments.Db.userIsTenantMember, hfound, Option.isSome_some]
  have hlevelOf : 20 < board.levelOf session := by
    rwa [Db.levelOf, Attachments.effectiveLevel_of_member hfound]
  cases query with
  | comments filter ascending => exact secure_list_iff hnone
  | comment filter id => exact secure_comment_iff hnone
  | replies filter id => exact secure_replies_iff hnone
  | attachments filter => exact secure_attachments_iff hisMember
  | attachment filter id => exact secure_attachment_iff hlevelOf hisMember
  | download filter id => exact secure_download_iff hlevelOf hisMember
  | remove filter id => exact secure_remove_iff hlevelOf hisMember
  | upload upload fileErrors isFull => exact secure_upload_iff hlevelOf hisMember

/-- An agent who is assigned to the seventh ticket. -/
def agentSession : Session := ⟨"agent", 1, 0⟩

/-- A public comment on the ticket of the agent. -/
def publicComment : Comment where
  id := 1
  tenant := 1
  contentType := .ticket
  objectId := 7
  author := "admin"
  body := "We are looking into it."
  createdAt := 0
  updatedAt := 0

/-- An internal note below it. -/
def internalReply : Comment where
  id := 2
  tenant := 1
  isInternal := true
  contentType := .ticket
  objectId := 7
  author := "admin"
  body := "The customer is not to know."
  parent := some 1
  createdAt := 1
  updatedAt := 1

/-- The membership of the agent. -/
def agentMembership : Membership where
  user := "agent"
  tenant := 1
  role := { id := 3, tenant := 1, slug := "agent", hierarchyLevel := 30 }

def noted : Board where
  memberships := [agentMembership]
  tickets := [{ id := 7, tenant := 1, assignee := some "agent", createdBy := some "admin" }]
  comments := [publicComment, internalReply]
  keyed := by
    constructor
    · decide
    · intro reply hreply key hkey
      refine ⟨publicComment, List.mem_cons_self, ?_⟩
      rcases List.mem_cons.mp hreply with rfl | hreply
      · cases hkey
      · rw [List.mem_singleton.mp hreply] at hkey
        exact Option.some.inj hkey
  ticketIds := List.nodup_singleton _

/-- The replies to the public comment show the agent the internal one. -/
theorem not_secure_noted :
    ¬ ∀ (board : Board) (session : Session) (query : Query) (membership : Membership),
      board.membershipOf session = some membership → 20 < membership.level session.now →
        Secure board.toDb session query := by
  intro hall
  have secure := hall noted agentSession (.replies {} 1) agentMembership rfl (by decide)
  have hanswer : noted.answer agentSession (.replies {} 1) =
      .comments [noted.represent agentSession internalReply] := rfl
  refine secure.1 internalReply (List.mem_cons_of_mem _ (List.mem_singleton.mpr rfl)) rfl ?_
  rw [hanswer]
  exact Or.inl ⟨_, List.mem_singleton.mpr rfl, rfl⟩

/-- The agent of the noted ticket asks for the replies. -/
theorem secure_iff_withholds_noted :
    20 < agentMembership.level 0 ∧
      (Secure noted.toDb agentSession (.replies {} 1) ↔
        Withholds noted.toDb agentSession (.replies {} 1)) :=
  ⟨by decide,
    secure_iff_withholds noted agentSession (.replies {} 1) agentMembership rfl (by decide)⟩

end Kanzan.Comments

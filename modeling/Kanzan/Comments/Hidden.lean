import Kanzan.Comments.Rows

/-!
# Hidden comments

A member below the managers is not to see internal comments, nor those on tickets that are not his.
Which answers keep to that, and are the same whatever the hidden comments are.
-/

namespace Kanzan.Comments

open Accounts (Membership)
open Attachments (AttachmentFilter ContentType Session Upload ViewResponse)

/-! ## What is hidden -/

/-- The comments have keys, and their parents are there. -/
structure Keyed (comments : List Comment) : Prop where
  ids : (comments.map fun row => row.id).Nodup
  parents : ∀ reply ∈ comments, ∀ key, reply.parent = some key →
    ∃ parent ∈ comments, parent.id = key

/-- The tables, with the constraints that the database checks. -/
structure Board extends Db where
  keyed : Keyed comments
  ticketIds : (tickets.map Attachments.Ticket.id).Nodup

namespace Db

variable (db : Db) (session : Session)

def hidden (comment : Comment) : Bool :=
  comment.isInternal ||
    match db.access.commentedTicket comment.toComment with
    | some ticket => !Attachments.Db.agentCanSeeTicket session.user ticket
    | none => false

def withComments (comments : List Comment) : Db := { db with comments }

def visible (comments : List Comment) : List Comment :=
  comments.filter fun comment => !db.hidden session comment

def passes (filter : CommentFilter) (comment : Comment) : Bool :=
  comment.tenant == session.tenant &&
    (!db.isRestricted session || db.ownAndPublic session comment) && filter.keeps comment

end Db

def Answer.shown : Answer → List Shown
  | .comments shown => shown
  | .comment shown => [shown]
  | _ => []

def Answer.files : Answer → List Upload
  | .comments shown => shown.flatMap fun entry => entry.attachments
  | .comment shown => shown.attachments
  | .media (.rows uploads) => uploads
  | .media (.row upload) => [upload]
  | .media (.content upload) => [upload]
  | .media (.created upload) => [upload]
  | _ => []

def Discloses (answer : Answer) (comment : Comment) : Prop :=
  (∃ entry ∈ answer.shown, entry.comment = comment) ∨
    ∃ upload ∈ answer.files, upload.contentType = .comment ∧ upload.objectId = comment.id

/--
An answer discloses no hidden comment, and is the same in all tables that differ in hidden comments
only.
-/
def Secure (db : Db) (session : Session) (query : Query) : Prop :=
  (∀ comment ∈ db.comments, db.hidden session comment = true →
    ¬ Discloses (db.answer session query) comment) ∧
  ∀ comments, Keyed comments → db.visible session comments = db.visible session db.comments →
    (db.withComments comments).answer session query = db.answer session query

/-! ## The condition -/

def OpenAt (db : Db) (session : Session) (id : ℕ) : Prop :=
  ∃ comment ∈ db.comments, comment.id = id ∧ db.hidden session comment = false

def FiltersHidden (db : Db) (session : Session) (filter : CommentFilter) : Prop :=
  ∀ comment, db.hidden session comment = true → db.passes session filter comment = false

/-- A comment is not found under a key, and no hidden one could be. -/
def Missing (db : Db) (session : Session) (filter : CommentFilter) (id : ℕ) : Prop :=
  (∀ comment ∈ db.comments, comment.id = id → db.passes session filter comment = false) ∧
    (OpenAt db session id ∨ FiltersHidden db session filter)

/-- The attachment under a key, if it is found, is none of a comment that may be hidden. -/
def Spares (db : Db) (session : Session) (filter : AttachmentFilter) (id : ℕ) : Prop :=
  ∀ upload, (((db.uploads.filter fun upload => upload.tenant == session.tenant).filter
      filter.keeps).find? fun upload => upload.id == id) = some upload →
    upload.contentType = .comment →
      OpenAt db session upload.objectId ∨ 30 < db.access.effectiveLevel session.now session.user
        session.tenant

/-- When an answer is secure. -/
def Withholds (db : Db) (session : Session) : Query → Prop
  | .comments filter _ =>
    (∀ comment ∈ db.comments, db.passes session filter comment = false) ∧
      FiltersHidden db session filter
  | .comment filter id => Missing db session filter id
  | .replies filter id => Missing db session filter id
  | .attachments filter =>
    ∀ upload ∈ db.access.listed db.uploads session filter, upload.contentType = .comment →
      ∀ comment ∈ db.comments, comment.id = upload.objectId → db.hidden session comment = false
  | .attachment filter id => Spares db session filter id
  | .download filter id => Spares db session filter id
  | .remove filter id => Spares db session filter id
  | .upload upload fileErrors _ =>
    upload.contentType = .comment → OpenAt db session upload.objectId ∨ fileErrors ≠ []

/-! ## Other comments -/

section Others

variable {db : Db} {session : Session} {comments : List Comment} {row comment : Comment}
  {filter : CommentFilter} {id : ℕ}

@[simp]
theorem comments_withComments : (db.withComments comments).comments = comments := rfl

@[simp]
theorem membershipOf_withComments :
    (db.withComments comments).membershipOf session = db.membershipOf session := rfl

theorem filter_commentQueryset (db : Db) (session : Session) (filter : CommentFilter) :
    (db.commentQueryset session).filter filter.keeps =
      db.comments.filter (db.passes session filter) := by
  unfold Db.commentQueryset
  split
  · rename_i hrestricted
    rw [Db.tenantComments, List.filter_filter, List.filter_filter]
    refine List.filter_congr fun comment _ => ?_
    rw [Db.passes, hrestricted, Bool.not_true, Bool.false_or]
    ac_rfl
  · rename_i hfree
    rw [Bool.not_eq_true] at hfree
    rw [Db.tenantComments, List.filter_filter]
    refine List.filter_congr fun comment _ => ?_
    rw [Db.passes, hfree, Bool.not_false, Bool.true_or, Bool.and_true, Bool.and_comm]

theorem getComment_eq (db : Db) (session : Session) (filter : CommentFilter) (id : ℕ) :
    db.getComment session filter id =
      (db.comments.filter (db.passes session filter)).find? fun comment => comment.id == id := by
  rw [Db.getComment, filter_commentQueryset]

theorem getComment_eq_none :
    db.getComment session filter id = none ↔
      ∀ comment ∈ db.comments, comment.id = id → db.passes session filter comment = false := by
  rw [getComment_eq, List.find?_eq_none]
  constructor
  · intro hnone comment hmem hid
    by_contra hpasses
    rw [Bool.not_eq_false] at hpasses
    exact hnone comment (List.mem_filter.mpr ⟨hmem, hpasses⟩) (beq_iff_eq.mpr hid)
  · intro hnone comment hmem hid
    obtain ⟨hmem, hpasses⟩ := List.mem_filter.mp hmem
    rw [hnone comment hmem (beq_iff_eq.mp hid)] at hpasses
    cases hpasses

theorem mem_iff_of_visible (hvisible : db.visible session comments = db.visible session db.comments)
    (hcomment : db.hidden session comment = false) :
    comment ∈ comments ↔ comment ∈ db.comments := by
  have hiff : ∀ rows, comment ∈ db.visible session rows ↔ comment ∈ rows := by
    intro rows
    rw [Db.visible, List.mem_filter, hcomment]
    simp
  rw [← hiff comments, hvisible, hiff]

theorem Keyed.eq_of_id (keyed : Keyed comments) (hcomment : comment ∈ comments)
    (hrow : row ∈ comments) (hid : comment.id = row.id) : comment = row :=
  List.inj_on_of_nodup_map keyed.ids hcomment hrow hid

def put (comments : List Comment) (row : Comment) : List Comment :=
  (comments.filter fun comment => comment.id != row.id) ++ [row]

theorem mem_put : comment ∈ put comments row ↔
    comment ∈ comments ∧ comment.id ≠ row.id ∨ comment = row := by
  rw [put, List.mem_append, List.mem_filter, List.mem_singleton, bne_iff_ne]

theorem Keyed.put (keyed : Keyed comments)
    (hparent : ∀ key, row.parent = some key → key = row.id ∨ ∃ parent ∈ comments, parent.id = key) :
    Keyed (put comments row) where
  ids := by
    rw [Comments.put, List.map_append, List.map_singleton]
    refine List.nodup_append.mpr
      ⟨keyed.ids.sublist (List.filter_sublist.map _), List.nodup_singleton _, ?_⟩
    intro key hkey other hother heq
    obtain ⟨comment, hcomment, rfl⟩ := List.mem_map.mp hkey
    rw [List.mem_singleton] at hother
    exact bne_iff_ne.mp (List.mem_filter.mp hcomment).2 (heq.trans hother)
  parents := by
    have hfound : ∀ key, (key = row.id ∨ ∃ parent ∈ comments, parent.id = key) →
        ∃ parent ∈ Comments.put comments row, parent.id = key := by
      intro key hkey
      by_cases hself : key = row.id
      · exact ⟨row, mem_put.mpr (Or.inr rfl), hself.symm⟩
      · obtain ⟨parent, hmem, hid⟩ := hkey.resolve_left hself
        exact ⟨parent, mem_put.mpr (Or.inl ⟨hmem, hid ▸ hself⟩), hid⟩
    intro reply hreply key hkey
    rcases mem_put.mp hreply with ⟨hmem, -⟩ | rfl
    · exact hfound key (Or.inr (keyed.parents reply hmem key hkey))
    · exact hfound key (hparent key hkey)

theorem visible_put (hrow : db.hidden session row = true) (hid : ¬ OpenAt db session row.id) :
    db.visible session (put db.comments row) = db.visible session db.comments := by
  rw [Db.visible, put, List.filter_append, List.filter_singleton, hrow, Bool.not_true, cond_false,
    List.append_nil, List.filter_filter, Db.visible]
  refine List.filter_congr fun comment hmem => ?_
  cases hhidden : db.hidden session comment with
  | true => rfl
  | false =>
    have hother : comment.id ≠ row.id := fun heq => hid ⟨comment, hmem, heq, hhidden⟩
    rw [bne_iff_ne.mpr hother]
    rfl

theorem exists_fresh (comments : List Comment) : ∃ id, ∀ comment ∈ comments, comment.id ≠ id := by
  obtain ⟨id, hfresh⟩ := Infinite.exists_notMem_finset (comments.map fun row => row.id).toFinset
  refine ⟨id, fun comment hmem hid => hfresh ?_⟩
  rw [List.mem_toFinset]
  exact List.mem_map.mpr ⟨comment, hmem, hid⟩

theorem put_of_fresh (hfresh : ∀ comment ∈ comments, comment.id ≠ row.id) :
    put comments row = comments ++ [row] := by
  rw [put, List.filter_eq_self.mpr fun comment hmem => bne_iff_ne.mpr (hfresh comment hmem)]

theorem not_openAt_of_fresh (hfresh : ∀ comment ∈ db.comments, comment.id ≠ id) :
    ¬ OpenAt db session id := by
  rintro ⟨comment, hmem, hid, -⟩
  exact hfresh comment hmem hid

end Others

/-! ## Comments -/

section Comments

variable {board : Board} {session : Session} {filter : CommentFilter} {comment row : Comment}
  {id : ℕ}
variable {db : Db}

def hiddenReply (session : Session) (id : ℕ) (comment : Comment) : Comment :=
  { comment with
    id := id
    tenant := session.tenant
    isInternal := true
    parent := some comment.id }

theorem Secure.answer_put {query : Query} (secure : Secure db session query)
    (keyed : Keyed db.comments) (hrow : db.hidden session row = true)
    (hid : ¬ OpenAt db session row.id) (hparent : ∀ key, row.parent = some key →
      key = row.id ∨ ∃ parent ∈ db.comments, parent.id = key) :
    (db.withComments (put db.comments row)).answer session query = db.answer session query :=
  secure.2 _ (keyed.put hparent) (visible_put hrow hid)

theorem represent_reply_ne (hfresh : ∀ row ∈ db.comments, row.id ≠ id) (other : Comment) :
    (db.withComments (put db.comments (hiddenReply session id comment))).represent session other ≠
      db.represent session comment := by
  intro heq
  have hput : put db.comments (hiddenReply session id comment) =
      db.comments ++ [hiddenReply session id comment] := put_of_fresh hfresh
  have hsame : other = comment := congrArg Shown.comment heq
  have hcount : (put db.comments (hiddenReply session id comment)).countP
      (fun row => row.parent == some other.id) =
        db.comments.countP fun row => row.parent == some comment.id :=
    congrArg Shown.replyCount heq
  have hone : [hiddenReply session id comment].countP
      (fun row => row.parent == some comment.id) = 1 := by
    simp [hiddenReply]
  rw [hput, hsame, List.countP_append, hone] at hcount
  omega

theorem Secure.answer_hiddenReply {query : Query} (secure : Secure board.toDb session query)
    (hmem : comment ∈ board.comments) (hfresh : ∀ row ∈ board.comments, row.id ≠ id) :
    (board.withComments (put board.comments (hiddenReply session id comment))).answer session
      query = board.answer session query := by
  refine secure.answer_put board.keyed rfl (not_openAt_of_fresh hfresh) fun key hkey => Or.inr ?_
  exact ⟨comment, hmem, Option.some.inj hkey⟩

def rekeyed (id : ℕ) (comment : Comment) : Comment :=
  { comment with
    id := id
    parent := comment.parent.map fun _ => id }

theorem passes_rekeyed (db : Db) (id : ℕ) :
    db.passes session filter (rekeyed id comment) = db.passes session filter comment := by
  have hnull : (rekeyed id comment).parent.isNone = comment.parent.isNone := by
    rw [rekeyed]
    cases comment.parent with
    | none => rfl
    | some key => rfl
  simp only [Db.passes, CommentFilter.keeps, hnull]
  rfl

theorem Secure.answer_rekeyed {query : Query} (secure : Secure board.toDb session query)
    (hhidden : board.hidden session comment = true) (hid : ¬ OpenAt board.toDb session id) :
    (board.withComments (put board.comments (rekeyed id comment))).answer session query =
      board.answer session query := by
  refine secure.answer_put board.keyed hhidden hid fun key hkey => Or.inl ?_
  obtain ⟨-, -, hkey⟩ := Option.map_eq_some_iff.mp hkey
  exact hkey.symm

/-! ### Lists -/

theorem listComments_shown (db : Db) (ascending : Bool) {entry : Shown} :
    entry ∈ (db.listComments session filter ascending).shown ↔
      ∃ comment ∈ db.comments, db.passes session filter comment = true ∧
        db.represent session comment = entry := by
  have hrows : ∀ comment, comment ∈ (if ascending then
      (db.commentQueryset session).filter filter.keeps else
      ((db.commentQueryset session).filter filter.keeps).reverse) ↔
        comment ∈ db.comments ∧ db.passes session filter comment = true := by
    intro comment
    rw [filter_commentQueryset, ← List.mem_filter]
    split
    · exact Iff.rfl
    · exact List.mem_reverse
  simp only [Db.listComments, Answer.shown, List.mem_map, hrows, and_assoc]

theorem listComments_eq_nil (db : Db) (ascending : Bool)
    (hnone : ∀ comment ∈ db.comments, db.passes session filter comment = false) :
    db.listComments session filter ascending = .comments [] := by
  have hrows : db.comments.filter (db.passes session filter) = [] :=
    List.filter_eq_nil_iff.mpr fun comment hmem hpasses => by
      rw [hnone comment hmem] at hpasses
      cases hpasses
  rw [Db.listComments, filter_commentQueryset, hrows]
  cases ascending with
  | false => rfl
  | true => rfl

variable {ascending : Bool}

theorem answer_comments (hmember : (db.membershipOf session).isNone = false) :
    db.answer session (.comments filter ascending) = db.listComments session filter ascending := by
  rw [Db.answer, hmember, if_neg Bool.false_ne_true]

theorem not_passes_of_secure_list
    (secure : Secure board.toDb session (.comments filter ascending))
    (hmember : (board.membershipOf session).isNone = false) (hmem : comment ∈ board.comments) :
    board.passes session filter comment = false := by
  by_contra hpasses
  rw [Bool.not_eq_false] at hpasses
  obtain ⟨id, hfresh⟩ := exists_fresh board.comments
  have hsame := secure.answer_hiddenReply hmem hfresh
  rw [answer_comments hmember, answer_comments (by exact hmember)] at hsame
  have hshown := (listComments_shown board.toDb ascending).mpr ⟨comment, hmem, hpasses, rfl⟩
  rw [← hsame] at hshown
  obtain ⟨other, -, -, hentry⟩ := (listComments_shown _ ascending).mp hshown
  exact represent_reply_ne hfresh other hentry

theorem filtersHidden_of_secure_list
    (secure : Secure board.toDb session (.comments filter ascending))
    (hmember : (board.membershipOf session).isNone = false) :
    FiltersHidden board.toDb session filter := by
  intro comment hhidden
  by_contra hpasses
  rw [Bool.not_eq_false] at hpasses
  obtain ⟨id, hfresh⟩ := exists_fresh board.comments
  have hsame := secure.answer_rekeyed hhidden (not_openAt_of_fresh hfresh)
  rw [answer_comments hmember, answer_comments (by exact hmember)] at hsame
  have hshown := (listComments_shown (board.withComments (put board.comments (rekeyed id comment)))
    ascending).mpr ⟨rekeyed id comment, mem_put.mpr (Or.inr rfl), passes_rekeyed _ _ ▸ hpasses, rfl⟩
  rw [hsame] at hshown
  obtain ⟨other, hother, -, hentry⟩ := (listComments_shown board.toDb ascending).mp hshown
  have hrow : other = rekeyed id comment := congrArg Shown.comment hentry
  exact hfresh other hother (congrArg (fun row => row.id) hrow)

theorem secure_list_iff (hmember : (board.membershipOf session).isNone = false) :
    Secure board.toDb session (.comments filter ascending) ↔
      Withholds board.toDb session (.comments filter ascending) := by
  constructor
  · intro secure
    exact ⟨fun comment hmem => not_passes_of_secure_list secure hmember hmem,
      filtersHidden_of_secure_list secure hmember⟩
  · rintro ⟨hnone, hfilters⟩
    have hempty := listComments_eq_nil board.toDb ascending hnone
    constructor
    · intro comment _ _ hdiscloses
      rw [answer_comments hmember, hempty] at hdiscloses
      rcases hdiscloses with ⟨entry, hentry, -⟩ | ⟨upload, hupload, -⟩
      · cases hentry
      · cases hupload
    · intro comments _ hvisible
      rw [answer_comments hmember, answer_comments (by exact hmember), hempty]
      refine listComments_eq_nil _ ascending fun comment hmem => ?_
      cases hhidden : board.hidden session comment with
      | true => exact hfilters comment hhidden
      | false => exact hnone comment ((mem_iff_of_visible hvisible hhidden).mp hmem)

/-! ### One comment -/

theorem getComment_put (row : Comment) (hfresh : ∀ comment ∈ db.comments, comment.id ≠ row.id)
    (hget : db.getComment session filter id = some comment) :
    (db.withComments (put db.comments row)).getComment session filter id = some comment := by
  rw [getComment_eq] at hget ⊢
  rw [comments_withComments, put_of_fresh hfresh, List.filter_append, List.find?_append]
  exact Option.or_eq_some_iff.mpr (Or.inl hget)

theorem exists_getComment (db : Db) (hmem : comment ∈ db.comments)
    (hpasses : db.passes session filter comment = true) :
    ∃ found, db.getComment session filter comment.id = some found := by
  rw [← Option.ne_none_iff_exists', ne_eq, getComment_eq_none]
  intro hnone
  rw [hnone comment hmem rfl] at hpasses
  cases hpasses

def Db.ifFound (db : Db) (session : Session) (filter : CommentFilter) (id : ℕ)
    (found : Db → Comment → Answer) : Answer :=
  match db.getComment session filter id with
  | none => Db.noSuchComment
  | some comment => found db comment

section IfFound

variable {query : Query} {found : Db → Comment → Answer}

theorem missing_of_secure
    (hanswer : ∀ comments, (board.withComments comments).answer session query =
      (board.withComments comments).ifFound session filter id found)
    (hfound : ∀ db comment, found db comment ≠ Db.noSuchComment)
    (hleaks : ∀ comment ∈ board.comments, ∀ id, (∀ row ∈ board.comments, row.id ≠ id) →
      found (board.withComments (put board.comments (hiddenReply session id comment))) comment ≠
        found board.toDb comment)
    (secure : Secure board.toDb session query) : Missing board.toDb session filter id := by
  have hboard : board.answer session query = board.ifFound session filter id found :=
    hanswer board.comments
  have hget : board.getComment session filter id = none := by
    cases hget : board.getComment session filter id with
    | none => rfl
    | some comment =>
      obtain ⟨hmem, -⟩ := mem_of_getComment hget
      obtain ⟨fresh, hfresh⟩ := exists_fresh board.comments
      have hsame := secure.answer_hiddenReply hmem hfresh
      rw [hanswer, hboard, Db.ifFound, Db.ifFound, hget,
        getComment_put (hiddenReply session fresh comment) hfresh hget] at hsame
      exact absurd hsame (hleaks comment hmem fresh hfresh)
  refine ⟨getComment_eq_none.mp hget, ?_⟩
  by_cases hopen : OpenAt board.toDb session id
  · exact Or.inl hopen
  · refine Or.inr fun comment hhidden => ?_
    by_contra hpasses
    rw [Bool.not_eq_false, ← passes_rekeyed _ id] at hpasses
    have hsame := secure.answer_rekeyed hhidden hopen
    obtain ⟨other, hother⟩ := exists_getComment
      (board.withComments (put board.comments (rekeyed id comment)))
      (mem_put.mpr (Or.inr rfl)) hpasses
    have hnext : (board.withComments (put board.comments (rekeyed id comment))).getComment session
        filter id = some other := hother
    rw [hanswer, hboard, Db.ifFound, Db.ifFound, hget, hnext] at hsame
    exact hfound _ _ hsame

/-- Nothing is told of a comment that is not found in any tables with the same open comments. -/
theorem secure_of_missing
    (hanswer : ∀ comments, (board.withComments comments).answer session query =
      (board.withComments comments).ifFound session filter id found)
    (hmissing : Missing board.toDb session filter id) : Secure board.toDb session query := by
  have hnone : ∀ comments, Keyed comments →
      board.visible session comments = board.visible session board.comments →
      (board.withComments comments).answer session query = Db.noSuchComment := by
    intro comments keyed hvisible
    have hget : (board.withComments comments).getComment session filter id = none := by
      refine getComment_eq_none.mpr fun comment hmem hid => ?_
      cases hhidden : board.hidden session comment with
      | false => exact hmissing.1 comment ((mem_iff_of_visible hvisible hhidden).mp hmem) hid
      | true =>
        rcases hmissing.2 with ⟨other, hother, hotherId, hopen⟩ | hfilters
        · have hrow := (mem_iff_of_visible hvisible hopen).mpr hother
          rw [keyed.eq_of_id hmem hrow (hid.trans hotherId.symm), hopen] at hhidden
          cases hhidden
        · exact hfilters comment hhidden
    rw [hanswer, Db.ifFound, hget]
  have hboard : board.answer session query = Db.noSuchComment :=
    hnone board.comments board.keyed rfl
  constructor
  · intro comment _ _ hdiscloses
    rw [hboard] at hdiscloses
    rcases hdiscloses with ⟨entry, hentry, -⟩ | ⟨upload, hupload, -⟩
    · cases hentry
    · cases hupload
  · intro comments keyed hvisible
    rw [hnone comments keyed hvisible, hboard]

end IfFound

theorem secure_comment_iff (hmember : (board.membershipOf session).isNone = false) :
    Secure board.toDb session (.comment filter id) ↔
      Withholds board.toDb session (.comment filter id) := by
  have hanswer : ∀ comments, (board.withComments comments).answer session (.comment filter id) =
      (board.withComments comments).ifFound session filter id
        fun db comment => .comment (db.represent session comment) := by
    intro comments
    rw [Db.answer, membershipOf_withComments, hmember, if_neg Bool.false_ne_true]
    rfl
  constructor
  · refine missing_of_secure hanswer (fun _ _ => Answer.noConfusion) ?_
    intro comment _ fresh hfresh heq
    exact represent_reply_ne hfresh comment (Answer.comment.inj heq)
  · exact secure_of_missing hanswer

theorem listReplies_leaks (hfresh : ∀ row ∈ db.comments, row.id ≠ id) :
    (((db.withComments (put db.comments (hiddenReply session id comment))).tenantComments
        session).filter fun row => row.parent == some comment.id).map
          ((db.withComments (put db.comments (hiddenReply session id comment))).represent session) ≠
      ((db.tenantComments session).filter fun row => row.parent == some comment.id).map
        (db.represent session) := by
  intro heq
  have hreply : hiddenReply session id comment ∈
      ((db.withComments (put db.comments (hiddenReply session id comment))).tenantComments
        session).filter fun row => row.parent == some comment.id := by
    refine List.mem_filter.mpr ⟨List.mem_filter.mpr ⟨mem_put.mpr (Or.inr rfl), ?_⟩, ?_⟩
    · exact beq_self_eq_true session.tenant
    · exact beq_self_eq_true (some comment.id)
  have hshown := List.mem_map_of_mem
    (f := (db.withComments (put db.comments (hiddenReply session id comment))).represent session)
    hreply
  rw [heq] at hshown
  obtain ⟨other, hother, hentry⟩ := List.mem_map.mp hshown
  have hrow : other = hiddenReply session id comment := congrArg Shown.comment hentry
  have hmem := List.mem_of_mem_filter (List.mem_of_mem_filter hother)
  exact hfresh other hmem (congrArg (fun row => row.id) hrow)

theorem secure_replies_iff (hmember : (board.membershipOf session).isNone = false) :
    Secure board.toDb session (.replies filter id) ↔
      Withholds board.toDb session (.replies filter id) := by
  have hanswer : ∀ comments, (board.withComments comments).answer session (.replies filter id) =
      (board.withComments comments).ifFound session filter id fun db comment =>
        .comments (((db.tenantComments session).filter fun row =>
          row.parent == some comment.id).map (db.represent session)) := by
    intro comments
    rw [Db.answer, membershipOf_withComments, hmember, if_neg Bool.false_ne_true]
    rfl
  constructor
  · refine missing_of_secure hanswer (fun _ _ => Answer.noConfusion) ?_
    intro comment _ fresh hfresh heq
    exact listReplies_leaks hfresh (Answer.comments.inj heq)
  · exact secure_of_missing hanswer

end Comments

end Kanzan.Comments

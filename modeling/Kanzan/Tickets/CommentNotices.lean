import Mathlib.Data.List.Nodup

/-!
# Notifications of a comment

A comment on a ticket is announced to the assignee and to the members that it mentions.  The
mentions are compared with the addresses as they are written, and an internal comment is announced
to whoever it names.
-/

namespace Kanzan.Tickets.CommentNotices

/-! ## Rows -/

/-- A user, with the level of the effective role if there is an active membership. -/
structure User where
  id : ℕ
  email : String
  name : String
  isSuperuser : Bool := false
  level : Option ℕ := none

def User.isExcluded (user : User) : Bool := !user.isSuperuser && user.level.any (20 < ·)

structure Ticket where
  id : ℕ
  number : ℕ
  subject : String
  assignee : Option ℕ := none

structure Comment where
  id : ℕ
  body : String
  isInternal : Bool := false

/-- The types of `NotificationType` that a comment is announced with. -/
inductive NotificationType where
  | ticketComment
  | mention
  deriving DecidableEq

structure Notification where
  recipient : ℕ
  type : NotificationType
  title : String
  body : String
  ticketId : ℕ
  ticketNumber : ℕ
  commentId : ℕ
  url : String
  deriving DecidableEq

/-! ## The handler -/

/-- The longest `title` of a notification. -/
def maxTitle : ℕ := 255

/-- The rows that are stored, one by one; one that the database refuses ends the handler. -/
def sendAll : List Notification → List Notification
  | [] => []
  | notice :: rest => if notice.title.length ≤ maxTitle then notice :: sendAll rest else []

section Handler

/- `findall` is that of `_MENTION_RE`. -/
variable (findall : String → List String) (author : User) (ticket : Ticket) (comment : Comment)

def mentions : List String := if comment.body = "" then [] else findall comment.body

/-- `body_text[:200]`. -/
def preview : String := String.ofList (comment.body.toList.take 200)

def authorName : String := if author.name = "" then author.email else author.name

def assigneeTitle : String :=
  authorName author ++ " added a " ++ (if comment.isInternal then "internal note" else "comment") ++
    " on #" ++ toString ticket.number

def mentionTitle : String := authorName author ++ " mentioned you on #" ++ toString ticket.number

def notice (recipient : ℕ) (type : NotificationType) (title body : String) : Notification where
  recipient := recipient
  type := type
  title := title
  body := body
  ticketId := ticket.id
  ticketNumber := ticket.number
  commentId := comment.id
  url := "/tickets/" ++ toString ticket.number

def assigneeNotices : List Notification :=
  (ticket.assignee.toList.filter (· ≠ author.id)).map fun assignee =>
    notice ticket comment assignee .ticketComment (assigneeTitle author ticket comment)
      (if comment.body = "" then ticket.subject else preview comment)

def mentionNotices : List ℕ → List User → List Notification
  | _, [] => []
  | notifiedIds, user :: rest =>
    if user.id ∈ notifiedIds then mentionNotices notifiedIds rest
    else
      notice ticket comment user.id .mention (mentionTitle author ticket) (preview comment) ::
        mentionNotices (user.id :: notifiedIds) rest

def mentionedUsers (users : List User) : List User :=
  users.filter fun user => decide (user.email ∈ mentions findall comment) && user.level.isSome

/-- `handle_comment_notification`, with the notifications that it stores. -/
def handleCommentNotification (users : List User) : List Notification :=
  sendAll (assigneeNotices author ticket comment ++
    mentionNotices author ticket comment (author.id :: ticket.assignee.toList)
      (mentionedUsers findall comment users))

end Handler

/-! ## The loop -/

section Loop

variable {author : User} {ticket : Ticket} {comment : Comment} {notices : List Notification}
variable {sent : Notification}

theorem sendAll_eq_self (fits : ∀ sent ∈ notices, sent.title.length ≤ maxTitle) :
    sendAll notices = notices := by
  induction notices with
  | nil => rfl
  | cons first rest ih =>
    rw [sendAll, if_pos (fits first List.mem_cons_self),
      ih fun sent hmem => fits sent (List.mem_cons_of_mem first hmem)]

theorem of_mem_sendAll (hmem : sent ∈ sendAll notices) :
    sent ∈ notices ∧ sent.title.length ≤ maxTitle := by
  induction notices with
  | nil => cases hmem
  | cons first rest ih =>
    rw [sendAll] at hmem
    split at hmem
    · rename_i hfits
      rcases List.mem_cons.mp hmem with rfl | hmem
      · exact ⟨List.mem_cons_self, hfits⟩
      · exact ⟨List.mem_cons_of_mem first (ih hmem).1, (ih hmem).2⟩
    · cases hmem

/-- The loop passes over those that are notified already, and notifies each of the others. -/
theorem mem_mentionNotices {notifiedIds : List ℕ} {users : List User} :
    sent ∈ mentionNotices author ticket comment notifiedIds users →
      sent.recipient ∉ notifiedIds ∧ ∃ user ∈ users, sent =
        notice ticket comment user.id .mention (mentionTitle author ticket) (preview comment) := by
  induction users generalizing notifiedIds with
  | nil => exact fun h => absurd h List.not_mem_nil
  | cons user rest ih =>
    intro hmem
    rw [mentionNotices] at hmem
    split at hmem
    · obtain ⟨hnot, other, hother, rfl⟩ := ih hmem
      exact ⟨hnot, other, List.mem_cons_of_mem user hother, rfl⟩
    · rename_i hnew
      rcases List.mem_cons.mp hmem with rfl | hmem
      · exact ⟨hnew, user, List.mem_cons_self, rfl⟩
      · obtain ⟨hnot, other, hother, rfl⟩ := ih hmem
        exact ⟨fun h => hnot (List.mem_cons_of_mem user.id h), other,
          List.mem_cons_of_mem user hother, rfl⟩

theorem exists_mentionNotices {notifiedIds : List ℕ} {users : List User} {user : User}
    (hmem : user ∈ users) (hnew : user.id ∉ notifiedIds) :
    ∃ sent ∈ mentionNotices author ticket comment notifiedIds users, sent.recipient = user.id := by
  induction users generalizing notifiedIds with
  | nil => cases hmem
  | cons first rest ih =>
    rw [mentionNotices]
    rcases List.mem_cons.mp hmem with rfl | hmem
    · rw [if_neg hnew]
      exact ⟨_, List.mem_cons_self, rfl⟩
    split
    · exact ih hmem hnew
    · by_cases hsame : user.id = first.id
      · exact ⟨_, List.mem_cons_self, hsame.symm⟩
      · obtain ⟨sent, hsent, hrecipient⟩ := ih hmem fun h =>
          (List.mem_cons.mp h).elim hsame hnew
        exact ⟨sent, List.mem_cons_of_mem _ hsent, hrecipient⟩

theorem mentionNotices_nodup {notifiedIds : List ℕ} {users : List User} :
    ((mentionNotices author ticket comment notifiedIds users).map Notification.recipient).Nodup := by
  induction users generalizing notifiedIds with
  | nil => exact List.nodup_nil
  | cons user rest ih =>
    rw [mentionNotices]
    split
    · exact ih
    · rw [List.map_cons, List.nodup_cons]
      refine ⟨fun hmem => ?_, ih⟩
      obtain ⟨sent, hsent, hrecipient⟩ := List.mem_map.mp hmem
      exact (mem_mentionNotices hsent).1 (hrecipient ▸ List.mem_cons_self)

end Loop

/-! ## Who is notified -/

section Notices

variable (lower : String → String) (findall : String → List String) (author : User)
variable (ticket : Ticket) (comment : Comment) (users : List User)

/-- A member whose address is mentioned in some case of its letters, and who is not the author. -/
def IsMentioned (user : User) : Prop :=
  user ∈ users ∧ user.level.isSome ∧ user.id ≠ author.id ∧
    ∃ text ∈ mentions findall comment, lower text = lower user.email

/-- What is expected of the notifications of a comment. -/
structure Announces (sent : List Notification) : Prop where
  once : (sent.map Notification.recipient).Nodup
  others : ∀ row ∈ sent, row.recipient ≠ author.id
  assignee : ∀ assignee ∈ ticket.assignee, assignee ≠ author.id →
    ∃ row ∈ sent, row.recipient = assignee
  mentioned : ∀ user, IsMentioned lower findall author comment users user →
    ∃ row ∈ sent, row.recipient = user.id
  internal : comment.isInternal → ∀ row ∈ sent, row.body = preview comment → comment.body ≠ "" →
    ∀ user ∈ users, user.id = row.recipient → user.isExcluded = false

/-- Everyone to be notified is mentioned as the address is written and may read the comment, and
the titles fit. -/
structure Reaches : Prop where
  assignee : ∀ assignee ∈ ticket.assignee, assignee ≠ author.id →
    (assigneeTitle author ticket comment).length ≤ maxTitle ∧
      (comment.isInternal → comment.body ≠ "" →
        ∀ user ∈ users, user.id = assignee → user.isExcluded = false)
  mentioned : ∀ user, IsMentioned lower findall author comment users user →
    some user.id ≠ ticket.assignee →
      user.email ∈ mentions findall comment ∧ (mentionTitle author ticket).length ≤ maxTitle ∧
        (comment.isInternal → user.isExcluded = false)

variable {lower} {findall} {author} {ticket} {comment} {users} {row : Notification} {user : User}

theorem mem_assigneeNotices : row ∈ assigneeNotices author ticket comment ↔
    ∃ assignee ∈ ticket.assignee, assignee ≠ author.id ∧
      row = notice ticket comment assignee .ticketComment (assigneeTitle author ticket comment)
        (if comment.body = "" then ticket.subject else preview comment) := by
  unfold assigneeNotices
  constructor
  · intro hmem
    obtain ⟨assignee, hassignee, rfl⟩ := List.mem_map.mp hmem
    rw [List.mem_filter, Option.mem_toList, decide_eq_true_eq] at hassignee
    exact ⟨assignee, hassignee.1, hassignee.2, rfl⟩
  · rintro ⟨assignee, hmem, hne, rfl⟩
    refine List.mem_map_of_mem (List.mem_filter.mpr ⟨Option.mem_toList.mpr hmem, ?_⟩)
    rw [decide_eq_true_eq]
    exact hne

theorem mem_mentionedUsers : user ∈ mentionedUsers findall comment users ↔
    user ∈ users ∧ user.email ∈ mentions findall comment ∧ user.level.isSome := by
  simp [mentionedUsers]

theorem body_ne_of_mem_mentions {text : String} (hmem : text ∈ mentions findall comment) :
    comment.body ≠ "" := by
  intro hempty
  rw [mentions, if_pos hempty] at hmem
  cases hmem

theorem announces_of_reaches (reaches : Reaches lower findall author ticket comment users)
    (nodup : (users.map User.id).Nodup) :
    Announces lower findall author ticket comment users
      (handleCommentNotification findall author ticket comment users) := by
  have hmention : ∀ row, row ∈ mentionNotices author ticket comment
      (author.id :: ticket.assignee.toList) (mentionedUsers findall comment users) →
      row.recipient ≠ author.id ∧ some row.recipient ≠ ticket.assignee ∧
        ∃ user, IsMentioned lower findall author comment users user ∧ row = notice ticket comment
          user.id .mention (mentionTitle author ticket) (preview comment) := by
    intro row hmem
    obtain ⟨hnew, user, huser, rfl⟩ := mem_mentionNotices hmem
    obtain ⟨husers, hemail, hlevel⟩ := mem_mentionedUsers.mp huser
    rw [List.mem_cons, not_or, Option.mem_toList] at hnew
    exact ⟨hnew.1, fun h => hnew.2 h.symm, user, ⟨husers, hlevel, hnew.1, _, hemail, rfl⟩, rfl⟩
  have hsent : handleCommentNotification findall author ticket comment users =
      assigneeNotices author ticket comment ++ mentionNotices author ticket comment
        (author.id :: ticket.assignee.toList) (mentionedUsers findall comment users) := by
    refine sendAll_eq_self fun row hmem => ?_
    rcases List.mem_append.mp hmem with hmem | hmem
    · obtain ⟨assignee, hassignee, hne, rfl⟩ := mem_assigneeNotices.mp hmem
      exact (reaches.assignee assignee hassignee hne).1
    · obtain ⟨-, hother, user, hmentioned, rfl⟩ := hmention row hmem
      exact (reaches.mentioned user hmentioned hother).2.1
  rw [hsent]
  constructor
  · rw [List.map_append]
    refine List.nodup_append.mpr ⟨?_, mentionNotices_nodup, ?_⟩
    · unfold assigneeNotices
      cases ticket.assignee with
      | none => exact List.nodup_nil
      | some assignee =>
        rw [Option.toList_some, List.filter_singleton]
        cases decide (assignee ≠ author.id) with
        | true => exact List.nodup_singleton _
        | false => exact List.nodup_nil
    · rintro _ hfirst _ hsecond rfl
      obtain ⟨row, hrow, hrecipient⟩ := List.mem_map.mp hfirst
      obtain ⟨other, hother, hsame⟩ := List.mem_map.mp hsecond
      obtain ⟨assignee, hassignee, -, rfl⟩ := mem_assigneeNotices.mp hrow
      refine (hmention other hother).2.1 ?_
      rw [hsame, ← hrecipient]
      exact hassignee.symm
  · intro row hmem
    rcases List.mem_append.mp hmem with hmem | hmem
    · obtain ⟨assignee, -, hne, rfl⟩ := mem_assigneeNotices.mp hmem
      exact hne
    · exact (hmention row hmem).1
  · intro assignee hassignee hne
    exact ⟨_, List.mem_append_left _ (mem_assigneeNotices.mpr ⟨assignee, hassignee, hne, rfl⟩), rfl⟩
  · intro user hmentioned
    by_cases hassignee : some user.id = ticket.assignee
    · exact ⟨_, List.mem_append_left _ (mem_assigneeNotices.mpr
        ⟨user.id, hassignee.symm, hmentioned.2.2.1, rfl⟩), rfl⟩
    · have hemail := (reaches.mentioned user hmentioned hassignee).1
      obtain ⟨row, hrow, hrecipient⟩ := exists_mentionNotices
        (mem_mentionedUsers.mpr ⟨hmentioned.1, hemail, hmentioned.2.1⟩) (by
          rw [List.mem_cons, not_or, Option.mem_toList]
          exact ⟨hmentioned.2.2.1, fun h => hassignee h.symm⟩)
      exact ⟨row, List.mem_append_right _ hrow, hrecipient⟩
  · intro hinternal row hmem _ hbody user huser hsame
    rcases List.mem_append.mp hmem with hmem | hmem
    · obtain ⟨assignee, hassignee, hne, rfl⟩ := mem_assigneeNotices.mp hmem
      exact (reaches.assignee assignee hassignee hne).2 hinternal hbody user huser hsame
    · obtain ⟨-, hother, other, hmentioned, rfl⟩ := hmention row hmem
      rw [List.inj_on_of_nodup_map nodup huser hmentioned.1 hsame]
      exact (reaches.mentioned other hmentioned hother).2.2 hinternal

theorem reaches_of_announces (nodup : (users.map User.id).Nodup)
    (announces : Announces lower findall author ticket comment users
      (handleCommentNotification findall author ticket comment users)) :
    Reaches lower findall author ticket comment users where
  assignee := by
    intro assignee hassignee hne
    -- the notification of the assignee comes first: if it is refused, nobody is notified
    have hfirst : handleCommentNotification findall author ticket comment users =
        sendAll (notice ticket comment assignee .ticketComment (assigneeTitle author ticket comment)
          (if comment.body = "" then ticket.subject else preview comment) ::
            mentionNotices author ticket comment (author.id :: ticket.assignee.toList)
              (mentionedUsers findall comment users)) := by
      unfold handleCommentNotification assigneeNotices
      rw [Option.mem_def.mp hassignee, Option.toList_some, List.filter_singleton,
        decide_eq_true hne]
      rfl
    obtain ⟨row, hrow, -⟩ := announces.assignee assignee hassignee hne
    have hfits : (assigneeTitle author ticket comment).length ≤ maxTitle := by
      by_contra hlong
      rw [hfirst, sendAll, if_neg (by exact hlong)] at hrow
      cases hrow
    refine ⟨hfits, fun hinternal hbody user huser hsame => ?_⟩
    refine announces.internal hinternal (notice ticket comment assignee .ticketComment
      (assigneeTitle author ticket comment) (if comment.body = "" then ticket.subject
        else preview comment)) ?_ (if_neg hbody) hbody user huser hsame
    rw [hfirst, sendAll, if_pos (by exact hfits)]
    exact List.mem_cons_self
  mentioned := by
    intro user hmentioned hother
    obtain ⟨row, hrow, hrecipient⟩ := announces.mentioned user hmentioned
    obtain ⟨hmem, hfits⟩ := of_mem_sendAll hrow
    rcases List.mem_append.mp hmem with hmem | hmem
    · obtain ⟨assignee, hassignee, -, rfl⟩ := mem_assigneeNotices.mp hmem
      rw [← hrecipient] at hother
      exact absurd hassignee.symm hother
    obtain ⟨-, other, hmention, rfl⟩ := mem_mentionNotices hmem
    obtain ⟨husers, hemail, -⟩ := mem_mentionedUsers.mp hmention
    obtain rfl := List.inj_on_of_nodup_map nodup husers hmentioned.1 hrecipient
    exact ⟨hemail, hfits, fun hinternal => announces.internal hinternal _ hrow rfl
      (body_ne_of_mem_mentions hemail) other husers rfl⟩

end Notices

/-- An agent is assigned to the ticket, and a manager writes a comment on it. -/
def office : List User :=
  [{ id := 1, email := "ann@acme.io", name := "Ann", level := some 30 },
    { id := 2, email := "bob@acme.io", name := "Bob", level := some 20 }]

end Kanzan.Tickets.CommentNotices

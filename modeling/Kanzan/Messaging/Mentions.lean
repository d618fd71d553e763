import Kanzan.Mail.Text
import Kanzan.Support.Lists
import Kanzan.Support.Results

/-!
# Notifications of a message

The ids in a message are read three times: by a pattern, as UUIDs when the mentioned members are
looked up, and as texts when those who are mentioned are left out of the other notifications.
-/

namespace Kanzan.Messaging.Mentions

open Support

/-! ## Ids -/

def isHexDigit (c : Char) : Bool := ('0' ≤ c && c ≤ '9') || ('a' ≤ c && c ≤ 'f')

/-- A `uuid.UUID`, by its hexadecimal digits. -/
structure Uuid where
  hex : List Char
  length_hex : hex.length = 32
  digits : hex.all isHexDigit = true
  deriving DecidableEq

/-- `uuid.UUID(hex)`, of a text of digits and hyphens. -/
def Uuid.ofText (text : String) : Option Uuid :=
  let hex := text.toList.filter (· ≠ '-')
  if h : hex.length = 32 ∧ hex.all isHexDigit = true then some ⟨hex, h.1, h.2⟩ else none

def hyphenate : List ℕ → List Char → List Char
  | [], digits => digits
  | size :: sizes, digits => digits.take size ++ '-' :: hyphenate sizes (digits.drop size)

/-- `str(id)`. -/
def Uuid.toText (id : Uuid) : String := String.ofList (hyphenate [8, 4, 4, 4] id.hex)

theorem filter_hyphenate {digits : List Char} (plain : '-' ∉ digits) (sizes : List ℕ) :
    (hyphenate sizes digits).filter (· ≠ '-') = digits := by
  have hself : ∀ part : List Char, '-' ∉ part → part.filter (· ≠ '-') = part := fun part hpart =>
    List.filter_eq_self.mpr fun c hc => decide_eq_true fun h => hpart (h ▸ hc)
  induction sizes generalizing digits with
  | nil => exact hself digits plain
  | cons size sizes ih =>
    rw [hyphenate, List.filter_append, hself _ fun h => plain (List.mem_of_mem_take h),
      List.filter_cons_of_neg (by simp), ih fun h => plain (List.mem_of_mem_drop h),
      List.take_append_drop]

theorem Uuid.ofText_toText (id : Uuid) : Uuid.ofText id.toText = some id := by
  have plain : '-' ∉ id.hex := fun h => absurd (List.all_eq_true.mp id.digits '-' h) (by decide)
  have hhex : id.toText.toList.filter (· ≠ '-') = id.hex := by
    rw [Uuid.toText, String.toList_ofList, filter_hyphenate plain]
  simp only [Uuid.ofText, hhex]
  rw [dif_pos ⟨id.length_hex, id.digits⟩]

/-! ## The pattern -/

/-- A match of `MENTION_REGEX` at the start of a text: the display name and the id. -/
def mentionAt : List Char → Option (List Char × List Char)
  | '@' :: '[' :: text =>
    let name := text.takeWhile (· ≠ ']')
    match text.dropWhile (· ≠ ']') with
    | ']' :: '(' :: 'u' :: 's' :: 'e' :: 'r' :: ':' :: text =>
      let id := text.takeWhile fun c => isHexDigit c || c = '-'
      if name ≠ [] ∧ id ≠ [] ∧ text[id.length]? = some ')' then some (name, id) else none
    | _ => none
  | _ => none

/-- `findall`, after the characters of the last match are skipped. -/
def findall : ℕ → List Char → List String
  | _, [] => []
  | skip + 1, _ :: text => findall skip text
  | 0, c :: text =>
    match mentionAt (c :: text) with
    | none => findall 0 text
    | some (name, id) => String.ofList id :: findall (name.length + id.length + 9) text

def parseMentions (body : String) : List String :=
  if body = "" then [] else (findall 0 body.toList).eraseDups

example : parseMentions "Hey @[Alice](user:abc-123) and @[Bob](user:def-456)" =
    ["abc-123", "def-456"] := by decide +kernel

/-! ## Rows -/

structure User where
  id : Uuid
  firstName : String
  lastName : String
  email : String

def User.getFullName (user : User) : String := Mail.strip (user.firstName ++ " " ++ user.lastName)

structure TenantMembership where
  user : Uuid
  tenant : ℕ
  isActive : Bool

structure Conversation where
  pk : ℕ
  tenant : ℕ

structure ConversationParticipant where
  conversation : ℕ
  user : Uuid
  isMuted : Bool

structure Message where
  pk : ℕ
  conversation : ℕ
  tenant : ℕ
  author : Uuid
  body : String
  mentions : List Uuid := []

/-- The types of `NotificationType` that a message is announced with. -/
inductive NotificationType where
  | mention
  | message
  deriving DecidableEq

structure Notification where
  tenant : ℕ
  recipient : Uuid
  type : NotificationType
  title : String
  body : String
  conversationId : ℕ
  messageId : ℕ
  authorName : Option String := none

/-- The tables: users have distinct ids, and participate in a conversation at most once. -/
structure Db where
  users : List User
  memberships : List TenantMembership
  participants : List ConversationParticipant
  messages : List Message := []
  notifications : List Notification := []
  users_nodup : (users.map User.id).Nodup
  participants_nodup : (participants.map fun row => (row.conversation, row.user)).Nodup
  known : ∀ row ∈ participants, ∃ user ∈ users, user.id = row.user

/-- The `ValidationError` of a text that is no UUID. -/
structure NotUuid where
  value : String

/-! ## The endpoint -/

def fits (title : String) : Bool := decide (title.length ≤ 255)

section Endpoint

variable (db : Db) (author : User) (conversation : Conversation) (message : Message)

/-- `send_notification`; the loops log it when the database refuses the row. -/
def Db.send (notice : Notification) : Db :=
  if fits notice.title then
    { db with notifications := db.notifications ++ [notice] } else db

def Db.isActiveMember (user : Uuid) (tenant : ℕ) : Bool :=
  db.memberships.any fun row => row.user = user && row.tenant = tenant && row.isActive

def toPython (value : String) : Except NotUuid Uuid :=
  match Uuid.ofText value with
  | none => .error ⟨value⟩
  | some id => .ok id

/-- The mentioned users who are active members; the filter takes UUIDs only. -/
def mentionedUsers (tenant : ℕ) (body : String) : Except NotUuid (List User) :=
  ((parseMentions body).mapM toPython).map fun ids =>
    db.users.filter fun user => decide (user.id ∈ ids) && db.isActiveMember user.id tenant

/-- `get_full_name() or str(author)`. -/
def authorName : String := if author.getFullName = "" then author.email else author.getFullName

def mentionNotice (user : User) : Notification where
  tenant := message.tenant
  recipient := user.id
  type := .mention
  title := "You were mentioned in a conversation"
  body := authorName author ++ " mentioned you: " ++ String.ofList (message.body.toList.take 200)
  conversationId := message.conversation
  messageId := message.pk

def notifyMentions : Except NotUuid Db :=
  (mentionedUsers db message.tenant message.body).map fun users =>
    ((users.filter fun user => user.id ≠ author.id).map (mentionNotice author message)).foldl
      Db.send db

def messageTitle : String := "New message from " ++ authorName author

def messageNotice (participant : ConversationParticipant) : Notification where
  tenant := message.tenant
  recipient := participant.user
  type := .message
  title := messageTitle author
  body := String.ofList (message.body.toList.take 120) ++
    if 120 < message.body.length then "..." else ""
  conversationId := message.conversation
  messageId := message.pk
  authorName := some (authorName author)

/-- The participants whom `notify_new_message` notifies. -/
def toNotify : List ConversationParticipant :=
  (db.participants.filter fun row =>
    row.conversation = message.conversation && !row.isMuted && row.user ≠ author.id).filter
      fun row => row.user.toText ∉ parseMentions message.body

def notifyNewMessage : Db :=
  ((toNotify db author message).map (messageNotice author message)).foldl Db.send db

def newMessage (body : String) : Message where
  pk := db.messages.length
  conversation := conversation.pk
  tenant := conversation.tenant
  author := author.id
  body := body

/-- `perform_create`: the tables that it leaves, and what it raises. -/
def performCreate (body : String) : Db × Option NotUuid :=
  let message := newMessage db author conversation body
  let stored := { db with messages := db.messages ++ [message] }
  match mentionedUsers stored conversation.tenant body with
  | .error err => (stored, some err)
  | .ok users =>
    let set := { db with
      messages := db.messages ++ [{ message with mentions := users.map User.id }] }
    match notifyMentions set author message with
    | .error err => (set, some err)
    | .ok notified => (notifyNewMessage notified author message, none)

end Endpoint

/-! ## What is sent -/

theorem foldl_send (notices : List Notification) (db : Db) : notices.foldl Db.send db =
    { db with notifications := db.notifications ++
        notices.filter fun notice => fits notice.title } := by
  induction notices generalizing db with
  | nil => simp
  | cons notice rest ih =>
    rw [List.foldl_cons, ih, List.filter_cons]
    cases hfits : fits notice.title with
    | true => simp [Db.send, hfits]
    | false => simp [Db.send, hfits]

theorem toPython_eq_ok {text : String} {id : Uuid} :
    toPython text = .ok id ↔ Uuid.ofText text = some id := by
  unfold toPython
  cases Uuid.ofText text with
  | none => simp
  | some found => simp

section Message

variable (db : Db) (author : User) (conversation : Conversation) (body : String)

def isMentioned (user : Uuid) : Bool :=
  (parseMentions body).any fun text => Uuid.ofText text = some user

def isConcerned (row : ConversationParticipant) : Bool :=
  row.conversation = conversation.pk && row.user ≠ author.id &&
    db.isActiveMember row.user conversation.tenant

/-- What is expected when a message is created. -/
structure Announces (outcome : Db × Option NotUuid) : Prop where
  completes : outcome.2 = none
  sent : ∃ sent, outcome.1.notifications = db.notifications ++ sent ∧
    ∀ row ∈ db.participants, isConcerned db author conversation row = true →
      (sent.filter fun notice => notice.recipient = row.user).map Notification.type =
        if isMentioned body row.user then [.mention]
        else if row.isMuted then [] else [.message]

/-- Every mention is of a UUID, those who hear of the message otherwise are mentioned as their ids
are written, and the title of the notification fits. -/
structure Deliverable : Prop where
  uuids : ∀ text ∈ parseMentions body, (Uuid.ofText text).isSome
  written : ∀ row ∈ db.participants, isConcerned db author conversation row = true →
    row.isMuted = false →
      if isMentioned body row.user then
        row.user.toText ∈ parseMentions body ∨ fits (messageTitle author) = false
      else fits (messageTitle author) = true

variable {db} {author} {conversation} {body}

theorem mentionedUsers_eq_ok {tenant : ℕ}
    (uuids : ∀ text ∈ parseMentions body, (Uuid.ofText text).isSome) :
    mentionedUsers db tenant body = .ok (db.users.filter fun user =>
      isMentioned body user.id && db.isActiveMember user.id tenant) := by
  have hids : ∀ texts : List String, (∀ text ∈ texts, (Uuid.ofText text).isSome) →
      texts.mapM toPython = .ok (texts.filterMap Uuid.ofText) := by
    intro texts
    induction texts with
    | nil => exact fun _ => rfl
    | cons text rest ih =>
      intro hall
      obtain ⟨id, hid⟩ := Option.isSome_iff_exists.mp (hall text List.mem_cons_self)
      rw [List.mapM_cons, toPython_eq_ok.mpr hid,
        ih fun other hother => hall other (List.mem_cons_of_mem text hother),
        List.filterMap_cons, hid]
      rfl
  rw [mentionedUsers, hids _ uuids]
  refine congrArg Except.ok (List.filter_congr fun user _ => ?_)
  rw [isMentioned, Bool.eq_iff_iff]
  simp only [List.mem_filterMap, Bool.and_eq_true, decide_eq_true_eq, List.any_eq_true]

theorem uuids_of_mentionedUsers {tenant : ℕ} {users : List User}
    (hok : mentionedUsers db tenant body = .ok users) :
    ∀ text ∈ parseMentions body, (Uuid.ofText text).isSome := by
  obtain ⟨ids, hids, -⟩ := map_eq_ok.mp hok
  clear hok
  revert ids
  induction parseMentions body with
  | nil => exact fun _ _ text hmem => absurd hmem List.not_mem_nil
  | cons first rest ih =>
    intro ids hids text hmem
    rw [List.mapM_cons] at hids
    obtain ⟨id, hfirst, hrest⟩ := bind_eq_ok.mp hids
    obtain ⟨others, hothers, -⟩ := bind_eq_ok.mp hrest
    rcases List.mem_cons.mp hmem with rfl | hmem
    · exact Option.isSome_iff_exists.mpr ⟨id, toPython_eq_ok.mp hfirst⟩
    · exact ih others hothers text hmem

theorem isMentioned_of_written {user : Uuid} (hwritten : user.toText ∈ parseMentions body) :
    isMentioned body user = true :=
  List.any_eq_true.mpr ⟨_, hwritten, decide_eq_true (Uuid.ofText_toText user)⟩

def mentionsSent (db : Db) (author : User) (message : Message) : List Notification :=
  ((db.users.filter fun user => isMentioned message.body user.id &&
      db.isActiveMember user.id message.tenant).filter fun user => user.id ≠ author.id).map
        (mentionNotice author message)

def messagesSent (db : Db) (author : User) (message : Message) : List Notification :=
  if fits (messageTitle author) then (toNotify db author message).map (messageNotice author message) else []

theorem notifyMentions_eq_ok {message : Message}
    (uuids : ∀ text ∈ parseMentions message.body, (Uuid.ofText text).isSome) :
    notifyMentions db author message = .ok
      { db with notifications := db.notifications ++ mentionsSent db author message } := by
  rw [notifyMentions, mentionedUsers_eq_ok uuids, Except.map, foldl_send]
  congr 3
  refine List.filter_eq_self.mpr fun notice hmem => ?_
  obtain ⟨user, -, rfl⟩ := List.mem_map.mp hmem
  exact (by decide : fits "You were mentioned in a conversation" = true)

theorem messageNotice_title (message : Message) (row : ConversationParticipant) :
    (messageNotice author message row).title = messageTitle author := by
  rw [messageNotice]

theorem notifyNewMessage_eq (message : Message) : notifyNewMessage db author message =
    { db with notifications := db.notifications ++ messagesSent db author message } := by
  have hstored : ((toNotify db author message).map (messageNotice author message)).filter
      (fun notice => fits notice.title) = messagesSent db author message := by
    simp only [List.filter_map, messagesSent, Function.comp_def, messageNotice_title]
    cases fits (messageTitle author) with
    | true => rw [List.filter_true, if_pos rfl]
    | false => rw [List.filter_false, List.map_nil, if_neg Bool.false_ne_true]
  rw [notifyNewMessage, foldl_send, hstored]

theorem performCreate_eq (uuids : ∀ text ∈ parseMentions body, (Uuid.ofText text).isSome) :
    (performCreate db author conversation body).2 = none ∧
      (performCreate db author conversation body).1.notifications = db.notifications ++
        (mentionsSent db author (newMessage db author conversation body) ++
          messagesSent db author (newMessage db author conversation body)) := by
  simp only [performCreate]
  rw [mentionedUsers_eq_ok uuids]
  simp only
  rw [notifyMentions_eq_ok uuids]
  simp only [notifyNewMessage_eq]
  exact ⟨trivial, List.append_assoc _ _ _⟩

variable {row : ConversationParticipant}

theorem types_sent (hmem : row ∈ db.participants)
    (concerned : isConcerned db author conversation row = true) :
    ((mentionsSent db author (newMessage db author conversation body) ++
        messagesSent db author (newMessage db author conversation body)).filter fun notice =>
          notice.recipient = row.user).map Notification.type =
      (if isMentioned body row.user then [.mention] else []) ++
        if !row.isMuted && decide (row.user.toText ∉ parseMentions body) && fits (messageTitle author)
          then [.message] else [] := by
  simp only [isConcerned, Bool.and_eq_true, decide_eq_true_eq] at concerned
  obtain ⟨⟨hconversation, hauthor⟩, hactive⟩ := concerned
  obtain ⟨user, huser, hid⟩ := db.known row hmem
  have hmentions : ((mentionsSent db author (newMessage db author conversation body)).filter
      fun notice => notice.recipient = row.user).map Notification.type =
        if isMentioned body row.user then [.mention] else [] := by
    have honly := filter_key_eq db.users_nodup huser fun other => decide (other.id ≠ author.id) &&
      (isMentioned body other.id && db.isActiveMember other.id conversation.tenant)
    simp only [hid, decide_eq_true hauthor, hactive, Bool.true_and, Bool.and_true] at honly
    rw [mentionsSent, List.filter_map, List.map_map, List.filter_filter, List.filter_filter]
    change (List.filter (fun other : User => (decide (other.id = row.user) && decide (other.id ≠ author.id))
      && (isMentioned body other.id && db.isActiveMember other.id conversation.tenant)) _).map _ = _
    simp only [Bool.and_assoc] at honly ⊢
    rw [honly]
    cases isMentioned body row.user with
    | true => rfl
    | false => rfl
  have hmessages : ((messagesSent db author (newMessage db author conversation body)).filter
      fun notice => notice.recipient = row.user).map Notification.type =
        if !row.isMuted && decide (row.user.toText ∉ parseMentions body) && fits (messageTitle author)
          then [.message] else [] := by
    have honly := filter_key_eq db.participants_nodup hmem fun other => !other.isMuted &&
      decide (other.user ≠ author.id) && decide (other.user.toText ∉ parseMentions body)
    rw [messagesSent]
    cases fits (messageTitle author) with
    | false => simp
    | true =>
      rw [if_pos rfl, List.filter_map, List.map_map, toNotify, List.filter_filter,
        List.filter_filter]
      refine (congrArg _ ((List.filter_congr fun other _ => ?_).trans honly)).trans ?_
      · change (decide (other.user = row.user) && decide (other.user.toText ∉ parseMentions body) &&
          (decide (other.conversation = conversation.pk) && !other.isMuted &&
            decide (other.user ≠ author.id))) = _
        rw [Bool.eq_iff_iff]
        simp only [hconversation, Prod.mk.injEq, Bool.and_eq_true, decide_eq_true_eq]
        tauto
      · rw [decide_eq_true hauthor, Bool.and_true, Bool.and_true]
        cases !row.isMuted && decide (row.user.toText ∉ parseMentions body) with
        | true => rfl
        | false => rfl
  rw [List.filter_append, List.map_append, hmentions, hmessages]

theorem expected_iff {mentioned muted fitting : Bool} {written : Prop} [Decidable written]
    (hmentioned : written → mentioned = true) :
    (if mentioned then [NotificationType.mention] else []) ++
        (if !muted && decide (¬ written) && fitting then [.message] else []) =
          (if mentioned then [.mention] else if muted then [] else [.message]) ↔
      (muted = false → if mentioned then written ∨ fitting = false else fitting = true) := by
  by_cases hwritten : written
  · simp [hwritten, hmentioned hwritten]
  · cases mentioned <;> cases muted <;> cases fitting <;> simp [hwritten]

end Message

/--
A message is created and announced as expected if and only if its mentions are all of UUIDs, the
participants who would be notified twice are mentioned as their ids are written, and the title fits.
-/
theorem performCreate_announces_iff (db : Db) (author : User) (conversation : Conversation)
    (body : String) :
    Announces db author conversation body (performCreate db author conversation body) ↔
      Deliverable db author conversation body := by
  constructor
  · rintro ⟨hnone, sent, hsent, hexpected⟩
    have uuids : ∀ text ∈ parseMentions body, (Uuid.ofText text).isSome := by
      cases hok : mentionedUsers { db with messages := db.messages ++ [newMessage db author
          conversation body] } conversation.tenant body with
      | ok users => exact uuids_of_mentionedUsers hok
      | error err => simp [performCreate, hok] at hnone
    refine ⟨uuids, fun row hmem concerned => (expected_iff isMentioned_of_written).mp ?_⟩
    rw [← types_sent hmem concerned,
      List.append_cancel_left ((performCreate_eq uuids).2.symm.trans hsent)]
    exact hexpected row hmem concerned
  · rintro ⟨uuids, written⟩
    obtain ⟨hnone, hsent⟩ := @performCreate_eq db author conversation body uuids
    refine ⟨hnone, _, hsent, fun row hmem concerned => ?_⟩
    rw [types_sent hmem concerned]
    exact (expected_iff isMentioned_of_written).mpr (written row hmem concerned)

def ann : User where
  id := ⟨List.replicate 32 'a', rfl, rfl⟩
  firstName := "Ann"
  lastName := "Lee"
  email := "ann@acme.io"

def notes : Db where
  users := [ann]
  memberships := [⟨ann.id, 1, true⟩]
  participants := [⟨0, ann.id, false⟩]
  users_nodup := by decide
  participants_nodup := by decide
  known := by decide

/-- A mention of what is no UUID ends the request with an exception. -/
theorem not_performCreate_announces :
    ¬ ∀ (db : Db) (author : User) (conversation : Conversation) (body : String),
      Announces db author conversation body (performCreate db author conversation body) := by
  intro hall
  have hraised : (performCreate notes ann ⟨0, 1⟩ "@[A](user:abc)").2.isSome = true := by
    decide +kernel
  rw [(hall notes ann ⟨0, 1⟩ "@[A](user:abc)").completes] at hraised
  cases hraised

end Kanzan.Messaging.Mentions

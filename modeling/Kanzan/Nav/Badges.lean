import Mathlib.Data.Finset.Card
import Kanzan.Mail.Rows
import Kanzan.Sla.Clock
import Kanzan.Support.Lists

/-!
# The badges of the sidebar

The unread messages and the open emails of a user, as the badges count them and as the pages
behind the badges show them.
-/

namespace Kanzan.Nav

open Mail Sla Support

/-- `MAX_BADGE`. -/
def maxBadge : ℕ := 99

/-- `_cap`. -/
def cap (n : ℕ) : ℕ := min n maxBadge

theorem cap_eq_cap {a b : ℕ} : cap a = cap b ↔ a = b ∨ maxBadge ≤ a ∧ maxBadge ≤ b := by
  unfold cap
  omega

/-! ## Messages -/

structure Conversation where
  pk : ℕ
  tenant : ℕ

structure ConversationParticipant where
  conversation : ℕ
  user : ℕ
  lastReadAt : Option Instant := none

structure Message where
  conversation : ℕ
  tenant : ℕ
  author : Option ℕ := none
  createdAt : Instant

/-- The tables of the messaging app: a user is in a conversation once, and a message is of the
tenant of its conversation. -/
structure Db where
  conversations : List Conversation
  participants : List ConversationParticipant
  messages : List Message
  nodup : (conversations.map Conversation.pk).Nodup
  unique : (participants.map fun row => (row.conversation, row.user)).Nodup
  tenants : ∀ message ∈ messages, ∀ conversation ∈ conversations,
    conversation.pk = message.conversation → message.tenant = conversation.tenant

def ConversationParticipant.isUnread (row : ConversationParticipant) (message : Message) : Bool :=
  row.lastReadAt.all fun mark => mark < message.createdAt

namespace Db

variable (db : Db) (tenant user : ℕ)

/-- `ConversationParticipant.objects.filter(user=user, conversation__tenant=tenant)`. -/
def participations : List ConversationParticipant :=
  db.participants.filter fun row => row.user == user &&
    db.conversations.any fun conversation =>
      conversation.pk == row.conversation && conversation.tenant == tenant

/-- `_message_count`. -/
def messageCount : ℕ :=
  let participations := db.participations tenant user
  if participations.isEmpty then 0
  else (db.messages.filter fun message =>
    (participations.any fun row =>
      message.conversation == row.conversation && row.isUnread message) &&
        message.author != some user).length

/-- The conversations that `ConversationViewSet` shows. -/
def shown : List Conversation :=
  db.conversations.filter fun conversation => conversation.tenant == tenant &&
    db.participants.any fun row =>
      row.conversation == conversation.pk && row.user == user

/-- `obj.messages`, through the manager of the tenant. -/
def messagesOf (conversation : Conversation) : List Message :=
  db.messages.filter fun message =>
    message.conversation == conversation.pk && message.tenant == tenant

/-- `get_unread_count`. -/
def unreadCount (conversation : Conversation) : ℕ :=
  match db.participants.find? fun row =>
      row.conversation == conversation.pk && row.user == user with
  | none => 0
  | some participation =>
    match participation.lastReadAt with
    | none => (db.messagesOf tenant conversation).length
    | some mark => ((db.messagesOf tenant conversation).filter fun message =>
      decide (mark < message.createdAt)).length

def isUnread (message : Message) : Bool :=
  (db.participations tenant user).any fun row =>
    message.conversation == row.conversation && row.isUnread message

end Db

section Messages

variable {db : Db} {tenant user : ℕ} {conversation : Conversation}

theorem mem_participations {row : ConversationParticipant} :
    row ∈ db.participations tenant user ↔ row ∈ db.participants ∧ row.user = user ∧
      ∃ other ∈ db.conversations, other.pk = row.conversation ∧ other.tenant = tenant := by
  simp [Db.participations]

theorem mem_shown :
    conversation ∈ db.shown tenant user ↔ conversation ∈ db.conversations ∧
      conversation.tenant = tenant ∧
        ∃ row ∈ db.participants, row.conversation = conversation.pk ∧ row.user = user := by
  simp [Db.shown]

/-- The unread messages of a conversation are those that are later than the mark of the user. -/
theorem unreadCount_eq (hshown : conversation ∈ db.shown tenant user) :
    db.unreadCount tenant user conversation = db.messages.countP fun message =>
      message.conversation == conversation.pk && db.isUnread tenant user message := by
  obtain ⟨hmem, htenant, row, hrow, hconversation, huser⟩ := mem_shown.mp hshown
  have hfind : (db.participants.find? fun other =>
      other.conversation == conversation.pk && other.user == user) = some row := by
    cases hfound : db.participants.find? fun other =>
        other.conversation == conversation.pk && other.user == user with
    | none => exact absurd (List.find?_eq_none.mp hfound row hrow) (by simp [hconversation, huser])
    | some other =>
      have hother := List.find?_some hfound
      simp only [Bool.and_eq_true, beq_iff_eq] at hother
      rw [List.inj_on_of_nodup_map db.unique (List.mem_of_find?_eq_some hfound) hrow
        (by rw [hother.1, hother.2, hconversation, huser])]
  have hunread : ∀ message ∈ db.messages,
      ((message.conversation == conversation.pk && message.tenant == tenant) &&
        row.isUnread message) =
      (message.conversation == conversation.pk && db.isUnread tenant user message) := by
    intro message hmessage
    by_cases hof : message.conversation = conversation.pk
    · rw [db.tenants message hmessage conversation hmem hof.symm, htenant, hof, Bool.eq_iff_iff,
        beq_self_eq_true, beq_self_eq_true, Bool.and_self, Bool.true_and, Bool.true_and,
        Db.isUnread, List.any_eq_true]
      constructor
      · intro hread
        refine ⟨row, mem_participations.mpr ⟨hrow, huser, conversation, hmem, hconversation.symm,
          htenant⟩, ?_⟩
        rw [hof, hconversation, hread, beq_self_eq_true, Bool.true_and]
      · rintro ⟨other, hother, h⟩
        obtain ⟨hother, hothers, -⟩ := mem_participations.mp hother
        rw [Bool.and_eq_true, beq_iff_eq, hof] at h
        rw [List.inj_on_of_nodup_map db.unique hrow hother (by rw [hconversation, huser, h.1, hothers])]
        exact h.2
    · rw [beq_eq_false_iff_ne.mpr hof, Bool.false_and, Bool.false_and, Bool.false_and]
  rw [← List.countP_congr fun message hmessage => by rw [← hunread message hmessage]]
  unfold Db.unreadCount ConversationParticipant.isUnread
  rw [hfind]
  dsimp only
  cases row.lastReadAt with
  | none => simp [Db.messagesOf, List.countP_eq_length_filter]
  | some mark =>
    simp [Db.messagesOf, List.countP_eq_length_filter, List.filter_filter, Bool.and_comm]

theorem sum_countP_conversations (messages : List Message) (condition : Message → Bool)
    {conversations : List Conversation} (nodup : (conversations.map Conversation.pk).Nodup) :
    (conversations.map fun conversation => messages.countP fun message =>
      message.conversation == conversation.pk && condition message).sum =
        messages.countP fun message => (conversations.any fun conversation =>
          message.conversation == conversation.pk) && condition message := by
  induction conversations with
  | nil => simp
  | cons conversation rest ih =>
    rw [List.map_cons, List.nodup_cons] at nodup
    rw [List.map_cons, List.sum_cons, ih nodup.2, add_comm]
    refine (countP_eq_add (fun message _ h => ?_) fun message _ => ?_).symm
    · rw [List.any_cons]
      rw [Bool.and_eq_true] at h
      simp [h]
    · rw [List.any_cons]
      by_cases hof : message.conversation = conversation.pk
      · have hrest : (rest.any fun other => message.conversation == other.pk) = false := by
          rw [List.any_eq_false]
          intro other hother hsame
          rw [beq_iff_eq, hof] at hsame
          exact nodup.1 (hsame ▸ List.mem_map_of_mem hother)
        rw [hrest, hof, beq_self_eq_true, Bool.false_and, Bool.true_or, Bool.not_false,
          Bool.true_and, Bool.true_and]
      · rw [beq_eq_false_iff_ne.mpr hof, Bool.false_and, Bool.false_or]
        cases rest.any fun other => message.conversation == other.pk <;> simp

theorem sum_unreadCount :
    ((db.shown tenant user).map (db.unreadCount tenant user)).sum =
      db.messages.countP (db.isUnread tenant user) := by
  rw [List.map_congr_left fun _ => unreadCount_eq, sum_countP_conversations]
  · refine List.countP_congr fun message _ => ?_
    rw [Bool.and_eq_true, and_iff_right_iff_imp]
    intro hunread
    obtain ⟨row, hrow, h⟩ := List.any_eq_true.mp hunread
    rw [Bool.and_eq_true, beq_iff_eq] at h
    obtain ⟨hrow, huser, other, hother, hpk, htenant⟩ := mem_participations.mp hrow
    refine List.any_eq_true.mpr ⟨other, mem_shown.mpr ⟨hother, htenant, row, hrow, hpk.symm,
      huser⟩, ?_⟩
    rw [beq_iff_eq, hpk, h.1]
  · exact db.nodup.sublist (List.filter_sublist.map _)

theorem messageCount_eq :
    db.messageCount tenant user = db.messages.countP fun message =>
      db.isUnread tenant user message && message.author != some user := by
  unfold Db.messageCount Db.isUnread
  dsimp only
  split
  · rename_i hnone
    rw [List.isEmpty_iff.mp hnone]
    simp
  · rw [List.countP_eq_length_filter]

/--
The badge shows the unread messages of all conversations together if and only if the user has
written none of them, or enough others have been written.
-/
theorem messageBadge_eq_iff (db : Db) (tenant user : ℕ) :
    cap (db.messageCount tenant user) =
        cap ((db.shown tenant user).map (db.unreadCount tenant user)).sum ↔
      (∀ message ∈ db.messages, db.isUnread tenant user message → message.author ≠ some user) ∨
        maxBadge ≤ db.messages.countP fun message =>
          db.isUnread tenant user message && message.author != some user := by
  have hsplit : db.messages.countP (db.isUnread tenant user) =
      (db.messages.countP fun message =>
        db.isUnread tenant user message && message.author != some user) +
      db.messages.countP fun message =>
        db.isUnread tenant user message && message.author == some user := by
    refine countP_eq_add (fun message _ h => (Bool.and_eq_true_iff.mp h).1) fun message _ => ?_
    cases db.isUnread tenant user message <;> simp [bne]
  have hown : (db.messages.countP fun message =>
        db.isUnread tenant user message && message.author == some user) = 0 ↔
      ∀ message ∈ db.messages, db.isUnread tenant user message → message.author ≠ some user := by
    rw [List.countP_eq_zero]
    simp
  rw [cap_eq_cap, messageCount_eq, sum_unreadCount, hsplit, ← hown]
  omega

/-- A user in one conversation, who has written the only message. -/
def writtenDb : Db where
  conversations := [⟨1, 0⟩]
  participants := [{ conversation := 1, user := 7 }]
  messages := [{ conversation := 1, tenant := 0, author := some 7, createdAt := 0 }]
  nodup := by decide
  unique := by decide
  tenants := by decide

theorem not_messageBadge_eq :
    ¬ ∀ (db : Db) (tenant user : ℕ), cap (db.messageCount tenant user) =
      cap ((db.shown tenant user).map (db.unreadCount tenant user)).sum := by
  intro hall
  exact absurd (hall writtenDb 0 7) (by decide)

end Messages

/-! ## Emails -/

structure User where
  pk : ℕ
  email : String

/-- The query parameters of the email list. -/
structure Params where
  assigned : Option String := none
  internal : Option String := none
  mine : Option String := none
  status : Option String := none
  includeBounces : Option String := none

def idsWhere (emails : List InboundEmail) (condition : InboundEmail → Bool) : Finset ℕ :=
  (Finset.range emails.length).filter fun id => emails[id]?.any condition

def isPendingOrLinked (row : InboundEmail) : Bool :=
  row.inboxStatus == .pending || row.inboxStatus == .linked

section Emails

/- `upper` is the `UPPER` of the database, by which `__iexact` compares. -/
variable (upper : String → String) (emails : List InboundEmail) (tenant : Mail.Tenant) (user : User)

def isAddressedTo (email : String) (row : InboundEmail) : Bool :=
  row.senderType != .customer && upper row.recipientEmail == upper email &&
    !(row.direction == .outbound && row.senderType == .system)

/-- `_email_count`. -/
def emailCount : ℕ :=
  (idsWhere emails fun row => row.tenant == some tenant &&
    (row.assignee == some user.pk || isAddressedTo upper user.email row) &&
      isPendingOrLinked row && row.status != .bounced).card

/-- `InboundEmailViewSet.get_queryset`. -/
def getQueryset (params : Params) : Finset ℕ :=
  if params.assigned = some "me" then
    idsWhere emails fun row => row.tenant == some tenant && row.assignee == some user.pk
  else
    let internal (row : InboundEmail) : Bool :=
      params.internal != some "true" || row.senderType != .customer
    let userEmail := strip user.email
    let mine (row : InboundEmail) : Bool :=
      params.mine != some "true" || (userEmail != "" &&
        upper row.recipientEmail == upper userEmail &&
          !(row.direction == .outbound && row.senderType == .system))
    let bounces (row : InboundEmail) : Bool :=
      params.status.any (· != "") || params.includeBounces == some "true" ||
        row.status != .bounced
    idsWhere emails fun row => row.tenant == some tenant && internal row && mine row && bounces row

def inboxPage : Finset ℕ :=
  (getQueryset upper emails tenant user { assigned := some "me" } ∪
    getQueryset upper emails tenant user { internal := some "true", mine := some "true" }).filter
      fun id => emails[id]?.any isPendingOrLinked

def isMine (row : InboundEmail) : Bool :=
  strip user.email != "" && isAddressedTo upper (strip user.email) row

def sharedRows : Finset ℕ :=
  idsWhere emails fun row => row.tenant == some tenant && isPendingOrLinked row &&
    row.status != .bounced && (row.assignee == some user.pk ||
      isAddressedTo upper user.email row && isMine upper user row)

/-- Bounced emails that are assigned to the user, and those to the stripped address alone. -/
def pageRows : Finset ℕ :=
  idsWhere emails fun row => row.tenant == some tenant && isPendingOrLinked row &&
    if row.assignee == some user.pk then row.status == .bounced
    else row.status != .bounced && isMine upper user row && !isAddressedTo upper user.email row

def badgeRows : Finset ℕ :=
  idsWhere emails fun row => row.tenant == some tenant && isPendingOrLinked row &&
    row.status != .bounced && row.assignee != some user.pk && isAddressedTo upper user.email row &&
      !isMine upper user row

end Emails

section Rows

variable {emails : List InboundEmail} {whole first second : InboundEmail → Bool}

theorem mem_idsWhere {id : ℕ} : id ∈ idsWhere emails whole ↔ emails[id]?.any whole = true := by
  rw [idsWhere, Finset.mem_filter, Finset.mem_range, and_iff_right_iff_imp]
  intro h
  by_contra hlength
  rw [List.getElem?_eq_none (not_lt.mp hlength)] at h
  cases h

theorem card_idsWhere (hwhole : ∀ row, whole row = (first row || second row))
    (hdisjoint : ∀ row, (first row && second row) = false) :
    (idsWhere emails whole).card =
      (idsWhere emails first).card + (idsWhere emails second).card := by
  rw [← Finset.card_union_of_disjoint]
  · refine congrArg Finset.card (Finset.ext fun id => ?_)
    rw [Finset.mem_union, mem_idsWhere, mem_idsWhere, mem_idsWhere]
    cases emails[id]? with
    | none => simp
    | some row => simp [hwhole row]
  · rw [Finset.disjoint_left]
    intro id hfirst hsecond
    rw [mem_idsWhere] at hfirst hsecond
    cases hrow : emails[id]? with
    | none => simp [hrow] at hfirst
    | some row =>
      rw [hrow, Option.any_some] at hfirst hsecond
      have hneither := hdisjoint row
      rw [hfirst, hsecond] at hneither
      cases hneither

end Rows

section Agreement

variable (upper : String → String) (emails : List InboundEmail) (tenant : Mail.Tenant) (user : User)

theorem emailCount_eq : emailCount upper emails tenant user =
    (sharedRows upper emails tenant user).card + (badgeRows upper emails tenant user).card := by
  refine card_idsWhere (fun row => ?_) fun row => ?_ <;> simp only [bne] <;>
    cases row.tenant == some tenant <;> cases isPendingOrLinked row <;>
    cases row.assignee == some user.pk <;> cases isAddressedTo upper user.email row <;>
    cases isMine upper user row <;> cases row.status == .bounced <;> rfl

theorem inboxPage_eq : inboxPage upper emails tenant user =
    idsWhere emails fun row => row.tenant == some tenant && isPendingOrLinked row &&
      (row.assignee == some user.pk || isMine upper user row && row.status != .bounced) := by
  ext id
  rw [mem_idsWhere, inboxPage, Finset.mem_filter, Finset.mem_union]
  unfold getQueryset
  rw [if_pos rfl, if_neg (by decide), mem_idsWhere, mem_idsWhere]
  cases emails[id]? with
  | none => simp
  | some row =>
    unfold isMine isAddressedTo
    simp only [Option.any_some, bne, beq_self_eq_true, Bool.not_true, Bool.false_or]
    cases row.tenant == some tenant <;> cases isPendingOrLinked row <;>
      cases row.assignee == some user.pk <;> cases strip user.email == "" <;>
      cases row.senderType == .customer <;> cases row.status == .bounced <;> simp

theorem card_inboxPage : (inboxPage upper emails tenant user).card =
    (sharedRows upper emails tenant user).card + (pageRows upper emails tenant user).card := by
  rw [inboxPage_eq]
  refine card_idsWhere (fun row => ?_) fun row => ?_ <;> simp only [bne] <;>
    cases row.tenant == some tenant <;> cases isPendingOrLinked row <;>
    cases row.assignee == some user.pk <;> cases isAddressedTo upper user.email row <;>
    cases isMine upper user row <;> cases row.status == .bounced <;> rfl

/--
The badge shows the open emails of the page if and only if as many are left out of it as are on
it alone, or enough are on either.
-/
theorem emailBadge_eq_iff :
    cap (emailCount upper emails tenant user) = cap (inboxPage upper emails tenant user).card ↔
      (badgeRows upper emails tenant user).card = (pageRows upper emails tenant user).card ∨
        maxBadge ≤ (sharedRows upper emails tenant user).card +
          min (badgeRows upper emails tenant user).card (pageRows upper emails tenant user).card := by
  rw [cap_eq_cap, emailCount_eq, card_inboxPage]
  omega

end Agreement

/-- A bounced email that is assigned to a user. -/
def bouncedEmail : InboundEmail where
  tenant := some ⟨1, "acme"⟩
  messageId := "m"
  status := .bounced
  assignee := some 7

/-- It is on the page and not in the badge. -/
theorem not_emailBadge_eq :
    ¬ ∀ (upper : String → String) (emails : List InboundEmail) (tenant : Mail.Tenant) (user : User),
      cap (emailCount upper emails tenant user) =
        cap (inboxPage upper emails tenant user).card := by
  intro hall
  exact absurd (hall id [bouncedEmail] ⟨1, "acme"⟩ ⟨7, "ann@acme.io"⟩) (by decide)

end Kanzan.Nav

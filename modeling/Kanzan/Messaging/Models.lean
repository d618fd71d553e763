import Kanzan.Mail.Text
import Kanzan.Support.Results

/-!
# Conversations and messages

The rows of the messaging app, and the two ways a message is stored: the REST endpoint, in the
stages in which it reads the database, and the chat socket.
-/

namespace Kanzan.Messaging

/-- `ConversationType`. -/
inductive ConversationType where
  | direct
  | group
  | ticket
  deriving DecidableEq, Repr

structure Conversation where
  pk : ℕ
  tenant : ℕ
  type : ConversationType
  name : String := ""
  ticket : Option ℕ := none
  sourceGroup : Option ℕ := none
  deriving DecidableEq, Repr

structure ConversationParticipant where
  pk : ℕ
  conversation : ℕ
  user : ℕ
  deriving DecidableEq, Repr

structure TenantMembership where
  user : ℕ
  tenant : ℕ
  isActive : Bool
  deriving DecidableEq, Repr

structure Message where
  pk : ℕ
  conversation : ℕ
  tenant : ℕ
  author : Option ℕ
  body : String
  parent : Option ℕ
  deriving DecidableEq, Repr

/-- The tables; the conversations stand in the order of `-updated_at`. -/
structure Db where
  conversations : List Conversation
  participants : List ConversationParticipant
  memberships : List TenantMembership
  messages : List Message
  nextParticipant : ℕ

namespace Db

variable (db : Db)

/-- An active `TenantMembership`. -/
def isActiveMember (user tenant : ℕ) : Bool :=
  db.memberships.any fun row => row.user = user && row.tenant = tenant && row.isActive

/-- `participant_details.filter(user=user).exists()`. -/
def isParticipant (conversation user : ℕ) : Bool :=
  db.participants.any fun row => row.conversation = conversation && row.user = user

/-- `Conversation.unscoped.get(pk=pk)`. -/
def conversation (pk : ℕ) : Option Conversation := db.conversations.find? fun row => row.pk = pk

/-- `Message.unscoped.get(pk=pk)`. -/
def message (pk : ℕ) : Option Message := db.messages.find? fun row => row.pk = pk

/-- A row goes through the manager of a tenant; without a tenant none does. -/
def inTenant {α : Type} (tenant : Option ℕ) (tenantOf : α → ℕ) (row : Option α) : Option α :=
  row.filter fun row => tenant = some (tenantOf row)

/-- `IsTenantMember`. -/
def isTenantMember (user : ℕ) (tenant : Option ℕ) : Bool :=
  tenant.all fun tenant => db.isActiveMember user tenant

end Db

/-! ## Requests -/

/-- A field of a request body; `malformed` comes with what the framework says of the value. -/
inductive Field (α : Type) where
  | absent
  | null
  | malformed (detail : String)
  | value (v : α)
  deriving DecidableEq, Repr

/-- What a client put under a key that no field reads: its truth value and its `str()`. -/
structure RawValue where
  truthy : Bool
  text : String
  deriving DecidableEq, Repr

structure MessageBody where
  body : Field String := .absent
  parent : Field ℕ := .absent
  conversation : Option RawValue := none
  deriving DecidableEq, Repr

/-- Why a request is refused. -/
inductive Refusal where
  | notMember
  | invalid (field : String) (detail : String)
  | notFound (detail : String)
  | permissionDenied (detail : String)
  deriving DecidableEq, Repr

/-- A message to be sent to a conversation by a user, on the host of a tenant. -/
structure MessageRequest where
  user : ℕ
  tenant : Option ℕ
  conversation : ℕ
  data : MessageBody
  deriving DecidableEq, Repr

section Endpoint

variable (uuid : ℕ → String) (db : Db) (request : MessageRequest)

/-- The `body` of the serializer. -/
def validateBody : Field String → Except Refusal String
  | .absent => .ok ""
  | .null => .error (.invalid "body" "This field may not be null.")
  | .malformed detail => .error (.invalid "body" detail)
  | .value text => .ok (Mail.strip text)

/-- `validate_parent` of the serializer; the view puts no `conversation_id` into the context. -/
def validateParent (data : MessageBody) (parent : Message) : Except Refusal Message :=
  match data.conversation with
  | none => .ok parent
  | some raw =>
    if raw.truthy && uuid parent.conversation ≠ raw.text then
      .error (.invalid "parent" "Parent message must belong to the same conversation.")
    else .ok parent

/-- The `parent` of the serializer, looked up through the manager of the tenant. -/
def parentField : Except Refusal (Option Message) :=
  match request.data.parent with
  | .absent => .ok none
  | .null => .ok none
  | .malformed detail => .error (.invalid "parent" detail)
  | .value pk =>
    match Db.inTenant request.tenant Message.tenant (db.message pk) with
    | none =>
      .error (.invalid "parent" ("Invalid pk \"" ++ uuid pk ++ "\" - object does not exist."))
    | some parent => (validateParent uuid request.data parent).map some

/-- The first stage: `IsTenantMember` and the serializer. -/
def checkMessage : Except Refusal (String × Option Message) :=
  if !db.isTenantMember request.user request.tenant then .error .notMember
  else
    (validateBody request.data.body).bind fun text =>
      (parentField uuid db request).map fun parent => (text, parent)

/-- The second stage: `_get_conversation`. -/
def getConversation : Except Refusal Conversation :=
  match Db.inTenant request.tenant Conversation.tenant (db.conversation request.conversation) with
  | none => .error (.notFound "Conversation not found.")
  | some conversation =>
    if db.isParticipant conversation.pk request.user then .ok conversation
    else .error (.permissionDenied "You are not a participant in this conversation.")

def storeMessage (conversation : Conversation) (author : ℕ) (text : String)
    (parent : Option Message) : Db :=
  { db with
    messages := db.messages ++
      [{ pk := db.messages.length
         conversation := conversation.pk
         tenant := conversation.tenant
         author := some author
         body := text
         parent := parent.map Message.pk }] }

/-- `MessageViewSet.create`. -/
def createMessage : Except Refusal Db :=
  (checkMessage uuid db request).bind fun checked =>
    (getConversation db request).map fun conversation =>
      storeMessage db conversation request.user checked.1 checked.2

end Endpoint

/-! ## The socket -/

/-- A `send_message` frame. -/
structure Frame where
  body : Field String := .absent
  parentId : Field ℕ := .absent
  deriving DecidableEq, Repr

/-- `MAX_MESSAGE_LENGTH`. -/
def maxMessageLength : ℕ := 10000

/-- The text of `_handle_send_message`; nothing where it answers with an error or raises. -/
def frameText : Field String → Option String
  | .value text =>
    if Mail.strip text = "" || maxMessageLength < (Mail.strip text).length then none
    else some (Mail.strip text)
  | _ => none

/-- The parent of `_create_message`; nothing where the lookup raises. -/
def frameParent (db : Db) (conversation : ℕ) : Field ℕ → Option (Option Message)
  | .absent => some none
  | .null => some none
  | .malformed _ => none
  | .value pk => some ((db.message pk).filter fun parent => parent.conversation = conversation)

/-- `_handle_send_message` of a socket of a user on a conversation. -/
def sendMessage (db : Db) (conversation user : ℕ) (frame : Frame) : Option Db :=
  (frameText frame.body).bind fun text =>
    (db.conversation conversation).bind fun found =>
      (frameParent db conversation frame.parentId).map fun parent =>
        storeMessage db found user text parent

section Laws

variable {db : Db}

theorem pk_of_conversation {pk : ℕ} {row : Conversation}
    (hfound : db.conversation pk = some row) : row.pk = pk := by
  have hpk := List.find?_some hfound
  exact of_decide_eq_true hpk

theorem pk_of_message {pk : ℕ} {found : Message} (hfound : db.message pk = some found) :
    found.pk = pk := by
  have hpk := List.find?_some hfound
  exact of_decide_eq_true hpk

theorem inTenant_eq_some {α : Type} {tenant : Option ℕ} {tenantOf : α → ℕ} {row : Option α}
    {found : α} :
    Db.inTenant tenant tenantOf row = some found ↔
      row = some found ∧ tenant = some (tenantOf found) := by
  rw [Db.inTenant, Option.filter_eq_some_iff, decide_eq_true_eq]

theorem getConversation_eq_ok {request : MessageRequest} {conversation : Conversation}
    (hok : getConversation db request = .ok conversation) :
    conversation.pk = request.conversation ∧ request.tenant = some conversation.tenant ∧
      db.isParticipant conversation.pk request.user = true := by
  rw [getConversation] at hok
  cases hrow : Db.inTenant request.tenant Conversation.tenant
      (db.conversation request.conversation) with
  | none =>
    rw [hrow] at hok
    cases hok
  | some found =>
    obtain ⟨hfound, htenant⟩ := inTenant_eq_some.mp hrow
    simp only [hrow] at hok
    split at hok
    · rename_i hparticipant
      obtain rfl := Except.ok.inj hok
      exact ⟨pk_of_conversation hfound, htenant, hparticipant⟩
    · cases hok

theorem sendMessage_eq_some {conversation user : ℕ} {frame : Frame} {stored : Db} :
    sendMessage db conversation user frame = some stored ↔
      ∃ text row parent, frameText frame.body = some text ∧
        db.conversation conversation = some row ∧
        frameParent db conversation frame.parentId = some parent ∧
        stored = storeMessage db row user text parent := by
  simp only [sendMessage, Option.bind_eq_some_iff, Option.map_eq_some_iff]
  constructor
  · rintro ⟨text, htext, row, hrow, parent, hparent, rfl⟩
    exact ⟨text, row, parent, htext, hrow, hparent, rfl⟩
  · rintro ⟨text, row, parent, htext, hrow, hparent, rfl⟩
    exact ⟨text, htext, row, hrow, parent, hparent, rfl⟩

end Laws

end Kanzan.Messaging

import Kanzan.Messaging.Models
import Kanzan.Support.Processes

/-!
# Opening conversations

Requests that create conversations as processes over the tables of one tenant.  A request looks for
an existing conversation, and otherwise inserts a conversation and, in a second step, its
participants; nothing keeps others out in between.
-/

namespace Kanzan.Messaging

open Support

/-- A request body of the serializer. -/
structure ConversationData where
  type : ConversationType
  name : String := ""
  userId : Option ℕ := none
  userIds : List ℕ := []
  groupId : Option ℕ := none
  ticketId : Option ℕ := none

/-- What creation reads of a tenant and does not change. -/
structure Directory where
  tenant : ℕ
  isActiveMember : ℕ → Bool
  hasTicket : ℕ → Bool
  group : ℕ → Option (String × List ℕ)

/-- The conversations and participants, and which process inserted which conversation. -/
structure Rooms where
  conversations : List Conversation := []
  participants : List (ℕ × ℕ) := []
  maker : ℕ → ℕ := fun _ => 0

/-- Where a request stands. -/
inductive Opener where
  | idle
  | savingDirect (user other : ℕ)
  | fillingDirect (pk user other : ℕ)
  | savingTicket (user ticket : ℕ) (userIds : List ℕ)
  | savingGroup (user : ℕ) (name : String) (source : Option ℕ) (userIds : List ℕ)
  /-- The participants of a ticket or group conversation are about to be inserted. -/
  | filling (pk : ℕ) (userIds : List ℕ)
  /-- A ticket conversation exists. -/
  | found (pk user : ℕ)
  /-- The user is about to be added to it. -/
  | joining (pk user : ℕ)
  /-- A group conversation exists. -/
  | refreshing (pk : ℕ) (members : List ℕ)
  | replied (pk : ℕ)
  | refused (refusal : Refusal)

variable {pk user shown other ticket : ℕ} {userIds : List ℕ} {row : Conversation} {opener : Opener}
variable {data : ConversationData}

namespace Rooms

variable (directory : Directory) (rooms : Rooms)

def has (pk user : ℕ) : Bool := rooms.participants.contains (pk, user)

/-! ## Lookups -/

/-- The filter of `_create_direct`. -/
def isDirectOf (user other : ℕ) (row : Conversation) : Bool :=
  row.tenant = directory.tenant && row.type = .direct && rooms.has row.pk user &&
    rooms.has row.pk other

/-- The filter of `_create_ticket`. -/
def isTicketOf (ticket : ℕ) (row : Conversation) : Bool :=
  row.tenant = directory.tenant && row.type = .ticket && row.ticket = some ticket

/-- The filter of `_create_group` for a conversation seeded from a group. -/
def isSeededOf (user group : ℕ) (row : Conversation) : Bool :=
  row.tenant = directory.tenant && row.type = .group && row.sourceGroup = some group &&
    rooms.has row.pk user

/-! ## The serializer -/

/-- `ConversationCreateSerializer.validate`. -/
def validate (user : ℕ) (data : ConversationData) : Except Refusal Unit :=
  match data.type with
  | .direct =>
    match data.userId with
    | none => .error (.invalid "user_id" "Required for direct message conversations.")
    | some other =>
      if other = user then
        .error (.invalid "user_id" "Cannot create a direct message with yourself.")
      else if !directory.isActiveMember other then
        .error (.invalid "user_id" "User is not a member of this tenant.")
      else .ok ()
  | .group =>
    if data.groupId.isSome then .ok ()
    else if Mail.strip data.name = "" then
      .error (.invalid "name" "A name is required for group conversations.")
    else if data.userIds.isEmpty then
      .error (.invalid "user_ids" "At least one other participant is required.")
    else if !data.userIds.all directory.isActiveMember then
      .error (.invalid "user_ids" "One or more users are not members of this tenant.")
    else .ok ()
  | .ticket =>
    if data.ticketId.isNone then
      .error (.invalid "ticket_id" "Required for ticket conversations.")
    else if !data.userIds.all directory.isActiveMember then
      .error (.invalid "user_ids" "One or more users are not members of this tenant.")
    else .ok ()

/-- The lookup of `_create_direct`. -/
def openDirect (user other : ℕ) : Opener :=
  match rooms.conversations.find? (rooms.isDirectOf directory user other) with
  | some existing => .replied existing.pk
  | none =>
    if directory.isActiveMember other then .savingDirect user other
    else .refused (.invalid "user_id" "User is not a member of this tenant.")

/-- The lookups of `_create_ticket`. -/
def openTicket (user ticket : ℕ) (userIds : List ℕ) : Opener :=
  if !directory.hasTicket ticket then
    .refused (.invalid "ticket_id" "Ticket not found in this tenant.")
  else
    match rooms.conversations.find? (isTicketOf directory ticket) with
    | some existing => .found existing.pk user
    | none => .savingTicket user ticket userIds

/-- The participants of a new conversation: active members, and the creator. -/
def roster (user : ℕ) (userIds : List ℕ) : List ℕ :=
  (insert user (userIds.filter directory.isActiveMember)).dedup

/-- The lookups of `_create_group`. -/
def openGroup (user : ℕ) (data : ConversationData) : Opener :=
  match data.groupId with
  | none => .savingGroup user (Mail.strip data.name) none data.userIds
  | some group =>
    match directory.group group with
    | none => .refused (.invalid "group_id" "Group not found in this tenant.")
    | some (name, members) =>
      match rooms.conversations.find? (rooms.isSeededOf directory user group) with
      | some existing => .refreshing existing.pk (roster directory user members)
      | none => .savingGroup user name (some group) members

/-- `ConversationCreateSerializer.create`, up to its first insert. -/
def openConversation (user : ℕ) (data : ConversationData) : Opener :=
  match validate directory user data with
  | .error refusal => .refused refusal
  | .ok _ =>
    match data.type with
    | .direct => rooms.openDirect directory user (data.userId.getD 0)
    | .group => rooms.openGroup directory user data
    | .ticket => rooms.openTicket directory user (data.ticketId.getD 0) data.userIds

/-! ## Inserts -/

/-- `conversation.save()`. -/
def insertConversation (process : ℕ) (row : Conversation) : Rooms :=
  { rooms with
    conversations := row :: rooms.conversations
    maker := Function.update rooms.maker row.pk process }

/-- `bulk_create`; one participant who is there already makes it raise. -/
def insertParticipants (pk : ℕ) (userIds : List ℕ) : Option Rooms :=
  if userIds.any (rooms.has pk) then none
  else some { rooms with participants := rooms.participants ++ userIds.map fun user => (pk, user) }

def act (process : ℕ) (rooms : Rooms) (opener : Opener) (event : ℕ × ConversationData) :
    Rooms × Opener :=
  let pk := rooms.conversations.length
  match opener with
  | .savingDirect user other =>
    (rooms.insertConversation process ⟨pk, directory.tenant, .direct, "", none, none⟩,
      .fillingDirect pk user other)
  | .fillingDirect pk user other =>
    match rooms.insertParticipants pk [user, other] with
    | some filled => (filled, .replied pk)
    | none => (rooms, .idle)
  | .savingTicket user ticket userIds =>
    (rooms.insertConversation process ⟨pk, directory.tenant, .ticket, "", some ticket, none⟩,
      .filling pk (roster directory user userIds))
  | .savingGroup user name source userIds =>
    (rooms.insertConversation process ⟨pk, directory.tenant, .group, name, none, source⟩,
      .filling pk (roster directory user userIds))
  | .filling pk userIds =>
    match rooms.insertParticipants pk userIds with
    | some filled => (filled, .replied pk)
    | none => (rooms, .idle)
  | .found pk user => (rooms, if rooms.has pk user then .replied pk else .joining pk user)
  | .joining pk user =>
    match rooms.insertParticipants pk [user] with
    | some filled => (filled, .replied pk)
    | none => (rooms, .idle)
  | .refreshing pk members =>
    (rooms, .filling pk (members.filter fun member => !rooms.has pk member))
  | _ => (rooms, rooms.openConversation directory event.1 event.2)

/-! ## The property and the condition -/

/-- One direct conversation per pair of users, and one ticket conversation per ticket. -/
structure Unique : Prop where
  direct : ∀ user other, user ≠ other → ∀ first ∈ rooms.conversations,
    ∀ second ∈ rooms.conversations, rooms.isDirectOf directory user other first = true →
      rooms.isDirectOf directory user other second = true → first = second
  ticket : ∀ ticket, ∀ first ∈ rooms.conversations, ∀ second ∈ rooms.conversations,
    isTicketOf directory ticket first = true → isTicketOf directory ticket second = true →
      first = second

def wanted (user : ℕ) (data : ConversationData) (row : Conversation) : Bool :=
  match data.type with
  | .direct => rooms.isDirectOf directory user (data.userId.getD 0) row
  | .ticket => directory.hasTicket (data.ticketId.getD 0) &&
      isTicketOf directory (data.ticketId.getD 0) row
  | .group => false

/-- A request has come to a conversation, and has no other step than to answer with it. -/
def Returns (pk : ℕ) : Opener → Prop
  | .replied shown => shown = pk
  | .found shown _ => shown = pk
  | .joining shown _ => shown = pk
  | _ => False

/-- Where a turn takes a request: to the conversation it is for, if there is one. -/
def Answers (event : ℕ × ConversationData) (after : Opener) : Opener → Prop
  | .savingDirect _ _ => True
  | .fillingDirect _ _ _ => True
  | .savingTicket _ _ _ => True
  | .savingGroup _ _ _ _ => True
  | .filling _ _ => True
  | .refreshing _ _ => True
  | .found pk _ => Returns pk after
  | .joining pk _ => after = .replied pk
  | _ => validate directory event.1 event.2 = .ok () → ∀ row ∈ rooms.conversations,
      rooms.wanted directory event.1 event.2 row = true → Returns row.pk after

def Finds (world : World Rooms Opener) (event : ℕ × ℕ × ConversationData) : Prop :=
  world.shared.Answers directory event.2 ((world.turn (act directory) event).locals event.1)
    (world.locals event.1)

/-- What was looked for is still missing. -/
def Clear : Opener → Prop
  | .fillingDirect _ user other =>
    rooms.conversations.find? (rooms.isDirectOf directory user other) = none
  | .savingTicket _ ticket _ => rooms.conversations.find? (isTicketOf directory ticket) = none
  | .joining pk user => rooms.has pk user = false
  | _ => True

/-- What a turn inserts is still missing. -/
def Admits (world : World Rooms Opener) (event : ℕ × ℕ × ConversationData) : Prop :=
  world.shared.Clear directory (world.locals event.1)

/-! ## The invariant -/

/-- A direct conversation that nobody takes part in yet. -/
structure Blank (pk : ℕ) : Prop where
  row : ∃ row ∈ rooms.conversations, row.pk = pk ∧ row.tenant = directory.tenant ∧
    row.type = .direct
  empty : ∀ user, rooms.has pk user = false

/-- A conversation that is not direct. -/
def Common (pk : ℕ) : Prop := ∃ row ∈ rooms.conversations, row.pk = pk ∧ row.type ≠ .direct

def Owns (process : ℕ) : Opener → Prop
  | .savingDirect user other => user ≠ other
  | .fillingDirect pk user other =>
    user ≠ other ∧ rooms.maker pk = process ∧ rooms.Blank directory pk
  | .filling pk _ => rooms.Common pk
  | .found pk _ => rooms.Common pk
  | .joining pk _ => rooms.Common pk
  | .refreshing pk _ => rooms.Common pk
  | _ => True

structure Inv : Prop where
  unique : rooms.Unique directory
  nodup : ∀ first ∈ rooms.conversations, ∀ second ∈ rooms.conversations,
    first.pk = second.pk → first = second
  old : ∀ row ∈ rooms.conversations, row.pk < rooms.conversations.length
  known : ∀ pk user, rooms.has pk user = true → pk < rooms.conversations.length

section Laws

variable {directory : Directory} {rooms filled : Rooms}

theorem insertParticipants_eq_some :
    rooms.insertParticipants pk userIds = some filled ↔
      (∀ user ∈ userIds, rooms.has pk user = false) ∧
        filled = { rooms with
          participants := rooms.participants ++ userIds.map fun user => (pk, user) } := by
  rw [insertParticipants]
  cases hany : userIds.any (rooms.has pk) with
  | true =>
    refine iff_of_false (by simp) ?_
    rintro ⟨hnone, -⟩
    obtain ⟨user, hmem, hhas⟩ := List.any_eq_true.mp hany
    rw [hnone user hmem] at hhas
    cases hhas
  | false =>
    rw [if_neg Bool.false_ne_true, Option.some.injEq, eq_comm]
    refine (and_iff_right fun user hmem => ?_).symm
    exact eq_false_of_ne_true (List.any_eq_false.mp hany user hmem)

theorem insertParticipants_eq_none :
    rooms.insertParticipants pk userIds = none ↔ ∃ user ∈ userIds, rooms.has pk user = true := by
  rw [insertParticipants, ← List.any_eq_true]
  cases userIds.any (rooms.has pk) with
  | true => exact iff_of_true rfl rfl
  | false => exact iff_of_false (Option.some_ne_none _) Bool.false_ne_true

theorem has_insertParticipants (hfilled : rooms.insertParticipants pk userIds = some filled) :
    filled.has shown user = true ↔
      rooms.has shown user = true ∨ shown = pk ∧ user ∈ userIds := by
  obtain ⟨-, rfl⟩ := insertParticipants_eq_some.mp hfilled
  simp only [has, List.contains_iff_mem, List.mem_append, List.mem_map, Prod.mk.injEq]
  refine or_congr_right ?_
  constructor
  · rintro ⟨added, hmem, rfl, rfl⟩
    exact ⟨rfl, hmem⟩
  · rintro ⟨rfl, hmem⟩
    exact ⟨user, hmem, rfl, rfl⟩

theorem conversations_insertParticipants
    (hfilled : rooms.insertParticipants pk userIds = some filled) :
    filled.conversations = rooms.conversations ∧ filled.maker = rooms.maker := by
  obtain ⟨-, rfl⟩ := insertParticipants_eq_some.mp hfilled
  exact ⟨rfl, rfl⟩

theorem isDirectOf_iff :
    rooms.isDirectOf directory user other row = true ↔
      row.tenant = directory.tenant ∧ row.type = .direct ∧ rooms.has row.pk user = true ∧
        rooms.has row.pk other = true := by
  simp only [isDirectOf, Bool.and_eq_true, decide_eq_true_eq, and_assoc]

theorem isTicketOf_iff :
    isTicketOf directory ticket row = true ↔
      row.tenant = directory.tenant ∧ row.type = .ticket ∧ row.ticket = some ticket := by
  simp only [isTicketOf, Bool.and_eq_true, decide_eq_true_eq, and_assoc]

/-! ## A conversation is inserted -/

theorem inv_insertConversation (inv : rooms.Inv directory) (process : ℕ)
    (hpk : row.pk = rooms.conversations.length)
    (hticket : ∀ ticket, isTicketOf directory ticket row = true →
      ∀ old ∈ rooms.conversations, ¬isTicketOf directory ticket old = true) :
    (rooms.insertConversation process row).Inv directory := by
  have hnobody : ∀ user, ¬rooms.has row.pk user = true := by
    intro user hhas
    exact absurd (inv.known row.pk user hhas) (hpk ▸ Nat.lt_irrefl _)
  have hdirect : ∀ user other, ∀ shown ∈ row :: rooms.conversations,
      rooms.isDirectOf directory user other shown = true → shown ∈ rooms.conversations := by
    intro user other shown hmem hshown
    rcases List.mem_cons.mp hmem with rfl | hold
    · exact absurd (isDirectOf_iff.mp hshown).2.2.1 (hnobody user)
    · exact hold
  refine ⟨⟨?_, ?_⟩, ?_, ?_, ?_⟩
  · intro user other hne first hfirst second hsecond hisfirst hissecond
    exact inv.unique.direct user other hne first (hdirect user other first hfirst hisfirst) second
      (hdirect user other second hsecond hissecond) hisfirst hissecond
  · intro ticket first hfirst second hsecond hisfirst hissecond
    rcases List.mem_cons.mp hfirst with rfl | hfirst
    · rcases List.mem_cons.mp hsecond with rfl | hsecond
      · rfl
      · exact absurd hissecond (hticket ticket hisfirst second hsecond)
    · rcases List.mem_cons.mp hsecond with rfl | hsecond
      · exact absurd hisfirst (hticket ticket hissecond first ‹_›)
      · exact inv.unique.ticket ticket first hfirst second hsecond hisfirst hissecond
  · intro first hfirst second hsecond heq
    rcases List.mem_cons.mp hfirst with rfl | hfirst
    · rcases List.mem_cons.mp hsecond with rfl | hsecond
      · rfl
      · exact absurd (inv.old second hsecond) (by omega)
    · rcases List.mem_cons.mp hsecond with rfl | hsecond
      · exact absurd (inv.old first ‹_›) (by omega)
      · exact inv.nodup first hfirst second hsecond heq
  · intro shown hmem
    rcases List.mem_cons.mp hmem with rfl | hmem
    · exact hpk ▸ Nat.lt_succ_self _
    · exact Nat.lt_succ_of_lt (inv.old shown hmem)
  · intro pk user hhas
    exact Nat.lt_succ_of_lt (inv.known pk user hhas)

/-! ## Participants are inserted -/

theorem inv_insertParticipants (inv : rooms.Inv directory) (common : rooms.Common pk)
    (hfilled : rooms.insertParticipants pk userIds = some filled) : filled.Inv directory := by
  obtain ⟨hconversations, -⟩ := conversations_insertParticipants hfilled
  obtain ⟨held, hheld, rfl, htype⟩ := common
  have hdirect : ∀ user other, ∀ row ∈ rooms.conversations,
      filled.isDirectOf directory user other row = true →
        rooms.isDirectOf directory user other row = true := by
    intro user other row hrow hdirect
    obtain ⟨htenant, hkind, huser, hother⟩ := isDirectOf_iff.mp hdirect
    have hne : row.pk ≠ held.pk := by
      intro heq
      exact htype (inv.nodup row hrow held hheld heq ▸ hkind)
    have hold : ∀ member, filled.has row.pk member = true → rooms.has row.pk member = true := by
      intro member hhas
      rcases (has_insertParticipants hfilled).mp hhas with hhas | ⟨heq, -⟩
      · exact hhas
      · exact absurd heq hne
    exact isDirectOf_iff.mpr ⟨htenant, hkind, hold user huser, hold other hother⟩
  refine ⟨⟨?_, ?_⟩, ?_, ?_, ?_⟩
  · rw [hconversations]
    intro user other hne first hfirst second hsecond hisfirst hissecond
    exact inv.unique.direct user other hne first hfirst second hsecond
      (hdirect user other first hfirst hisfirst) (hdirect user other second hsecond hissecond)
  · rw [hconversations]
    exact inv.unique.ticket
  · rw [hconversations]
    exact inv.nodup
  · rw [hconversations]
    exact inv.old
  · rw [hconversations]
    intro shown user hhas
    rcases (has_insertParticipants hfilled).mp hhas with hhas | ⟨rfl, -⟩
    · exact inv.known shown user hhas
    · exact inv.old held hheld

theorem inv_fillDirect (inv : rooms.Inv directory) (blank : rooms.Blank directory pk)
    (hnone : rooms.conversations.find? (rooms.isDirectOf directory user other) = none)
    (hfilled : rooms.insertParticipants pk [user, other] = some filled) : filled.Inv directory := by
  obtain ⟨hconversations, -⟩ := conversations_insertParticipants hfilled
  obtain ⟨held, hheld, rfl, -⟩ := blank.row
  -- A direct conversation of a pair is an old one, or the filled one and the pair is that pair.
  have hdirect : ∀ first second, first ≠ second → ∀ row ∈ rooms.conversations,
      filled.isDirectOf directory first second row = true →
        (row.pk ≠ held.pk ∧ rooms.isDirectOf directory first second row = true) ∨
          row = held ∧ (first = user ∧ second = other ∨ first = other ∧ second = user) := by
    intro first second hne row hrow hdirect
    obtain ⟨htenant, hkind, hfirst, hsecond⟩ := isDirectOf_iff.mp hdirect
    rw [has_insertParticipants hfilled] at hfirst hsecond
    by_cases heq : row.pk = held.pk
    · right
      have hempty : ∀ member, ¬rooms.has row.pk member = true := by
        intro member
        rw [heq, blank.empty member]
        exact Bool.false_ne_true
      refine ⟨inv.nodup row hrow held hheld heq, ?_⟩
      have hfirst := (hfirst.resolve_left (hempty first)).2
      have hsecond := (hsecond.resolve_left (hempty second)).2
      simp only [List.mem_cons, List.not_mem_nil, or_false] at hfirst hsecond
      omega
    · left
      exact ⟨heq, isDirectOf_iff.mpr ⟨htenant, hkind,
        hfirst.resolve_right fun h => heq h.1, hsecond.resolve_right fun h => heq h.1⟩⟩
  have hgone : ∀ first second, first = user ∧ second = other ∨ first = other ∧ second = user →
      ∀ row ∈ rooms.conversations, ¬rooms.isDirectOf directory first second row = true := by
    intro first second hpair row hrow hshown
    refine List.find?_eq_none.mp hnone row hrow ?_
    rcases hpair with ⟨rfl, rfl⟩ | ⟨rfl, rfl⟩
    · exact hshown
    · obtain ⟨htenant, hkind, hfirst, hsecond⟩ := isDirectOf_iff.mp hshown
      exact isDirectOf_iff.mpr ⟨htenant, hkind, hsecond, hfirst⟩
  refine ⟨⟨?_, ?_⟩, ?_, ?_, ?_⟩
  · rw [hconversations]
    intro one two hne first hfirst second hsecond hisfirst hissecond
    rcases hdirect one two hne first hfirst hisfirst with ⟨-, hold⟩ | ⟨rfl, hpair⟩
    · rcases hdirect one two hne second hsecond hissecond with ⟨-, hold'⟩ | ⟨-, hpair⟩
      · exact inv.unique.direct one two hne first hfirst second hsecond hold hold'
      · exact absurd hold (hgone one two hpair first hfirst)
    · rcases hdirect one two hne second hsecond hissecond with ⟨-, hold⟩ | ⟨rfl, -⟩
      · exact absurd hold (hgone one two hpair second hsecond)
      · rfl
  · rw [hconversations]
    exact inv.unique.ticket
  · rw [hconversations]
    exact inv.nodup
  · rw [hconversations]
    exact inv.old
  · rw [hconversations]
    intro shown member hhas
    rcases (has_insertParticipants hfilled).mp hhas with hhas | ⟨rfl, -⟩
    · exact inv.known shown member hhas
    · exact inv.old held hheld

/-! ## What a turn leaves to the others -/

variable (directory) in
/-- The tables after the turn of a process. -/
structure Later (process : ℕ) (before after : Rooms) : Prop where
  rows : ∀ row ∈ before.conversations, row ∈ after.conversations
  maker : ∀ pk, pk < before.conversations.length → after.maker pk = before.maker pk
  quiet : ∀ pk, before.maker pk ≠ process → before.Blank directory pk →
    ∀ user, after.has pk user = false

variable {process : ℕ} {after : Rooms}

theorem later_refl : Later directory process rooms rooms where
  rows _ hrow := hrow
  maker _ _ := rfl
  quiet _ _ blank := blank.empty

theorem later_insertConversation (hpk : row.pk = rooms.conversations.length) :
    Later directory process rooms (rooms.insertConversation process row) where
  rows _ hrow := List.mem_cons_of_mem _ hrow
  maker pk hlt := Function.update_of_ne (by omega) ..
  quiet _ _ blank := blank.empty

theorem later_insertParticipants (hfilled : rooms.insertParticipants pk userIds = some filled)
    (hforeign : ∀ shown, rooms.maker shown ≠ process → rooms.Blank directory shown →
      shown ≠ pk) : Later directory process rooms filled := by
  obtain ⟨hconversations, hmaker⟩ := conversations_insertParticipants hfilled
  refine ⟨fun row hrow => hconversations ▸ hrow, fun shown _ => hmaker ▸ rfl, ?_⟩
  intro shown hother blank user
  refine eq_false_of_ne_true fun hhas => ?_
  rcases (has_insertParticipants hfilled).mp hhas with hhas | ⟨heq, -⟩
  · rw [blank.empty user] at hhas
    cases hhas
  · exact hforeign shown hother blank heq

theorem ne_of_common (inv : rooms.Inv directory) (common : rooms.Common pk)
    (blank : rooms.Blank directory shown) : shown ≠ pk := by
  rintro rfl
  obtain ⟨held, hheld, heq, htype⟩ := common
  obtain ⟨row, hrow, hpk, -, hdirect⟩ := blank.row
  exact htype (inv.nodup row hrow held hheld (hpk.trans heq.symm) ▸ hdirect)

theorem common_of_later (common : rooms.Common pk) (later : Later directory process rooms after) :
    after.Common pk := by
  obtain ⟨row, hrow, hpk, htype⟩ := common
  exact ⟨row, later.rows row hrow, hpk, htype⟩

theorem owns_of_later (inv : rooms.Inv directory) (owns : rooms.Owns directory other opener)
    (hother : other ≠ process) (later : Later directory process rooms after) :
    after.Owns directory other opener := by
  cases opener with
  | idle => trivial
  | savingDirect user partner => exact owns
  | fillingDirect pk user partner =>
    obtain ⟨hne, hmaker, blank⟩ := owns
    obtain ⟨row, hrow, hpk, hrest⟩ := blank.row
    have hlt : pk < rooms.conversations.length := hpk ▸ inv.old row hrow
    refine ⟨hne, (later.maker pk hlt).trans hmaker, ⟨row, later.rows row hrow, hpk, hrest⟩, ?_⟩
    exact later.quiet pk (hmaker ▸ hother) blank
  | savingTicket user ticket userIds => trivial
  | savingGroup user name source userIds => trivial
  | filling pk userIds => exact common_of_later owns later
  | found pk user => exact common_of_later owns later
  | joining pk user => exact common_of_later owns later
  | refreshing pk members => exact common_of_later owns later
  | replied pk => trivial
  | refused refusal => trivial

/-! ## The lookups -/

theorem ne_of_validate (htype : data.type = .direct)
    (hvalid : validate directory user data = .ok ()) : data.userId.getD 0 ≠ user := by
  rw [validate, htype] at hvalid
  cases hother : data.userId with
  | none =>
    rw [hother] at hvalid
    cases hvalid
  | some other =>
    simp only [hother] at hvalid
    split at hvalid
    · cases hvalid
    · assumption

/-- What a lookup leads to needs no more than the rows it has found. -/
theorem owns_openConversation (process user : ℕ) (data : ConversationData) :
    rooms.Owns directory process (rooms.openConversation directory user data) := by
  rw [openConversation]
  cases hvalid : validate directory user data with
  | error refusal => trivial
  | ok _ =>
    cases htype : data.type with
    | direct =>
      simp only [openDirect]
      split
      · trivial
      · split
        · exact (ne_of_validate htype hvalid).symm
        · trivial
    | group =>
      simp only [openGroup]
      split
      · trivial
      · split
        · trivial
        · split
          · rename_i existing hfound
            have hseeded := List.find?_some hfound
            rw [isSeededOf] at hseeded
            refine ⟨existing, List.mem_of_find?_eq_some hfound, rfl, ?_⟩
            intro hdirect
            simp [hdirect] at hseeded
          · trivial
    | ticket =>
      simp only [openTicket]
      split
      · trivial
      · split
        · rename_i existing hfound
          have hticket := isTicketOf_iff.mp (List.find?_some hfound)
          refine ⟨existing, List.mem_of_find?_eq_some hfound, rfl, ?_⟩
          rw [hticket.2.1]
          decide
        · trivial

/-- While there is one conversation per pair and per ticket, a lookup comes to it. -/
theorem returns_openConversation (unique : rooms.Unique directory)
    (hvalid : validate directory user data = .ok ()) (hrow : row ∈ rooms.conversations)
    (hwanted : rooms.wanted directory user data row = true) :
    Returns row.pk (rooms.openConversation directory user data) := by
  rw [openConversation, hvalid]
  cases htype : data.type with
  | direct =>
    simp only [wanted, htype] at hwanted
    simp only [openDirect]
    split
    · rename_i existing hfound
      exact congrArg Conversation.pk (unique.direct user (data.userId.getD 0)
        (ne_of_validate htype hvalid).symm existing (List.mem_of_find?_eq_some hfound) row hrow
        (List.find?_some hfound) hwanted)
    · rename_i hnone
      exact absurd hwanted (List.find?_eq_none.mp hnone row hrow)
  | group =>
    simp only [wanted, htype] at hwanted
    cases hwanted
  | ticket =>
    simp only [wanted, htype, Bool.and_eq_true] at hwanted
    obtain ⟨hticket, hwanted⟩ := hwanted
    simp only [openTicket, hticket]
    cases hfound : rooms.conversations.find? (isTicketOf directory (data.ticketId.getD 0)) with
    | none => exact absurd hwanted (List.find?_eq_none.mp hfound row hrow)
    | some existing =>
      exact congrArg Conversation.pk (unique.ticket (data.ticketId.getD 0) existing
        (List.mem_of_find?_eq_some hfound) row hrow (List.find?_some hfound) hwanted)

/-! ## Turns -/

theorem isTicketOf_saved
    (hticket : isTicketOf directory shown ⟨pk, directory.tenant, .ticket, "", some ticket, none⟩ =
      true) : shown = ticket :=
  (Option.some.inj (isTicketOf_iff.mp hticket).2.2).symm

/-- A turn that inserts what is missing keeps the tables, and what the process relies on. -/
theorem inv_act (inv : rooms.Inv directory) (owns : rooms.Owns directory process opener)
    (clear : rooms.Clear directory opener) (event : ℕ × ConversationData) :
    (act directory process rooms opener event).1.Inv directory ∧
      (act directory process rooms opener event).1.Owns directory process
        (act directory process rooms opener event).2 := by
  cases opener with
  | idle => exact ⟨inv, owns_openConversation process event.1 event.2⟩
  | savingDirect user other =>
    refine ⟨inv_insertConversation inv process rfl ?_, owns, Function.update_self .., ?_⟩
    · intro ticket hticket
      cases (isTicketOf_iff.mp hticket).2.1
    · refine ⟨⟨_, List.mem_cons_self, rfl, rfl, rfl⟩, fun member => ?_⟩
      refine eq_false_of_ne_true fun hhas => ?_
      exact Nat.lt_irrefl _ (inv.known _ member hhas)
  | fillingDirect pk user other =>
    obtain ⟨-, -, blank⟩ := owns
    rw [act]
    cases hfilled : rooms.insertParticipants pk [user, other] with
    | some filled => exact ⟨inv_fillDirect inv blank clear hfilled, trivial⟩
    | none => exact ⟨inv, trivial⟩
  | savingTicket user ticket userIds =>
    refine ⟨inv_insertConversation inv process rfl ?_, ⟨_, List.mem_cons_self, rfl, ?_⟩⟩
    · intro shown hshown old hold
      rw [isTicketOf_saved hshown]
      exact List.find?_eq_none.mp clear old hold
    · intro htype
      cases htype
  | savingGroup user name source userIds =>
    refine ⟨inv_insertConversation inv process rfl ?_, ⟨_, List.mem_cons_self, rfl, ?_⟩⟩
    · intro ticket hticket
      cases (isTicketOf_iff.mp hticket).2.1
    · intro htype
      cases htype
  | filling pk userIds =>
    rw [act]
    cases hfilled : rooms.insertParticipants pk userIds with
    | some filled => exact ⟨inv_insertParticipants inv owns hfilled, trivial⟩
    | none => exact ⟨inv, trivial⟩
  | found pk user =>
    refine ⟨inv, ?_⟩
    rw [act]
    split
    · trivial
    · exact owns
  | joining pk user =>
    rw [act]
    cases hfilled : rooms.insertParticipants pk [user] with
    | some filled => exact ⟨inv_insertParticipants inv owns hfilled, trivial⟩
    | none => exact ⟨inv, trivial⟩
  | refreshing pk members => exact ⟨inv, owns⟩
  | replied pk => exact ⟨inv, owns_openConversation process event.1 event.2⟩
  | refused refusal => exact ⟨inv, owns_openConversation process event.1 event.2⟩

theorem later_act (inv : rooms.Inv directory) (owns : rooms.Owns directory process opener)
    (event : ℕ × ConversationData) :
    Later directory process rooms (act directory process rooms opener event).1 := by
  cases opener with
  | idle => exact later_refl
  | savingDirect user other => exact later_insertConversation rfl
  | fillingDirect pk user other =>
    rw [act]
    cases hfilled : rooms.insertParticipants pk [user, other] with
    | some filled =>
      refine later_insertParticipants hfilled fun shown hother _ heq => ?_
      exact hother (heq ▸ owns.2.1)
    | none => exact later_refl
  | savingTicket user ticket userIds => exact later_insertConversation rfl
  | savingGroup user name source userIds => exact later_insertConversation rfl
  | filling pk userIds =>
    rw [act]
    cases hfilled : rooms.insertParticipants pk userIds with
    | some filled =>
      exact later_insertParticipants hfilled fun _ _ blank => ne_of_common inv owns blank
    | none => exact later_refl
  | found pk user => exact later_refl
  | joining pk user =>
    rw [act]
    cases hfilled : rooms.insertParticipants pk [user] with
    | some filled =>
      exact later_insertParticipants hfilled fun _ _ blank => ne_of_common inv owns blank
    | none => exact later_refl
  | refreshing pk members => exact later_refl
  | replied pk => exact later_refl
  | refused refusal => exact later_refl

theorem sound_act : World.Sound (act directory) (Admits directory) (Inv directory)
    (fun process rooms opener => rooms.Owns directory process opener) where
  own _ process event keeps admits := inv_act keeps.shared (keeps.locals process) admits event
  others _ process event other keeps _ hother :=
    owns_of_later keeps.shared (keeps.locals other) hother
      (later_act keeps.shared (keeps.locals process) event)

/-- Turns that insert what is missing take every request to its conversation. -/
theorem answers_act (inv : rooms.Inv directory) (clear : rooms.Clear directory opener)
    (event : ℕ × ConversationData) :
    rooms.Answers directory event (act directory process rooms opener event).2 opener := by
  cases opener with
  | idle => exact fun hvalid row => returns_openConversation inv.unique hvalid
  | savingDirect user other => trivial
  | fillingDirect pk user other => trivial
  | savingTicket user ticket userIds => trivial
  | savingGroup user name source userIds => trivial
  | filling pk userIds => trivial
  | found pk user =>
    rw [act, Answers]
    split
    · rfl
    · rfl
  | joining pk user =>
    rw [act, Answers]
    cases hfilled : rooms.insertParticipants pk [user] with
    | some filled => rfl
    | none =>
      obtain ⟨member, hmem, hhas⟩ := insertParticipants_eq_none.mp hfilled
      rw [List.mem_singleton.mp hmem, clear] at hhas
      cases hhas
  | refreshing pk members => trivial
  | replied pk => exact fun hvalid row => returns_openConversation inv.unique hvalid
  | refused refusal => exact fun hvalid row => returns_openConversation inv.unique hvalid

/-- A turn that leaves one conversation per pair and ticket has inserted what was missing. -/
theorem clear_of_act (inv : rooms.Inv directory) (owns : rooms.Owns directory process opener)
    (event : ℕ × ConversationData)
    (unique : (act directory process rooms opener event).1.Unique directory)
    (answers : rooms.Answers directory event (act directory process rooms opener event).2 opener) :
    rooms.Clear directory opener := by
  cases opener with
  | idle => trivial
  | savingDirect user other => trivial
  | fillingDirect pk user other =>
    obtain ⟨hne, -, blank⟩ := owns
    obtain ⟨held, hheld, rfl, htenant, htype⟩ := blank.row
    rw [Clear, List.find?_eq_none]
    intro row hrow hdirect
    obtain ⟨-, -, huser, -⟩ := isDirectOf_iff.mp hdirect
    rw [act] at unique
    cases hfilled : rooms.insertParticipants held.pk [user, other] with
    | some filled =>
      rw [hfilled] at unique
      obtain ⟨hconversations, -⟩ := conversations_insertParticipants hfilled
      have hfirst : filled.isDirectOf directory user other row = true := by
        obtain ⟨hin, hkind, huser, hother⟩ := isDirectOf_iff.mp hdirect
        exact isDirectOf_iff.mpr ⟨hin, hkind,
          (has_insertParticipants hfilled).mpr (.inl huser),
          (has_insertParticipants hfilled).mpr (.inl hother)⟩
      have hsecond : filled.isDirectOf directory user other held = true :=
        isDirectOf_iff.mpr ⟨htenant, htype,
          (has_insertParticipants hfilled).mpr (.inr ⟨rfl, List.mem_cons_self⟩),
          (has_insertParticipants hfilled).mpr
            (.inr ⟨rfl, List.mem_cons_of_mem _ List.mem_cons_self⟩)⟩
      obtain rfl := unique.direct user other hne row (hconversations ▸ hrow) held
        (hconversations ▸ hheld) hfirst hsecond
      rw [blank.empty user] at huser
      cases huser
    | none =>
      obtain ⟨member, -, hhas⟩ := insertParticipants_eq_none.mp hfilled
      rw [blank.empty member] at hhas
      cases hhas
  | savingTicket user ticket userIds =>
    rw [Clear, List.find?_eq_none]
    intro row hrow hticket
    have heq := unique.ticket ticket row (List.mem_cons_of_mem _ hrow) _ List.mem_cons_self
      hticket (isTicketOf_iff.mpr ⟨rfl, rfl, rfl⟩)
    have hlt := inv.old row hrow
    rw [heq] at hlt
    exact Nat.lt_irrefl _ hlt
  | savingGroup user name source userIds => trivial
  | filling pk userIds => trivial
  | found pk user => trivial
  | joining pk user =>
    rw [Clear]
    refine eq_false_of_ne_true fun hhas => ?_
    rw [act, Answers, insertParticipants_eq_none.mpr ⟨user, List.mem_cons_self, hhas⟩] at answers
    cases answers
  | refreshing pk members => trivial
  | replied pk => trivial
  | refused refusal => trivial

/-! ## Runs -/

def closed : World Rooms Opener where
  shared := {}
  locals _ := .idle

theorem inv_closed : closed.shared.Inv directory where
  unique := ⟨fun _ _ _ _ hfirst => absurd hfirst List.not_mem_nil,
    fun _ _ hfirst => absurd hfirst List.not_mem_nil⟩
  nodup _ hfirst := absurd hfirst List.not_mem_nil
  old _ hrow := absurd hrow List.not_mem_nil
  known _ _ hhas := absurd hhas Bool.false_ne_true

/--
Over any interleaving of creation requests there is one direct conversation per pair of users and
one ticket conversation per ticket, and a request for an existing one returns it, exactly if what
every request inserts is still missing then.
-/
theorem always_unique_iff (directory : Directory) (events : List (ℕ × ℕ × ConversationData)) :
    Always (World.turn (act directory)) (fun world => world.shared.Unique directory) closed
        events ∧
      Every (World.turn (act directory)) (Finds directory) closed events ↔
    Every (World.turn (act directory)) (Admits directory) closed events := by
  have keeps : World.Keeps (Inv directory)
      (fun process rooms opener => rooms.Owns directory process opener) closed :=
    ⟨inv_closed, fun _ => trivial⟩
  refine always_and_every_iff (fun (world : World Rooms Opener) inv => inv.shared.unique)
    (fun _ _ => sound_act.turn) ?_ keeps events
  rintro world ⟨process, event⟩ inv
  rw [Finds, World.turn_shared, World.turn_locals_self]
  constructor
  · rintro ⟨unique, answers⟩
    exact clear_of_act inv.shared (inv.locals process) event unique answers
  · intro admits
    exact ⟨(inv_act inv.shared (inv.locals process) admits event).1.unique,
      answers_act inv.shared admits event⟩

/-- A tenant whose members are 7 and 8. -/
def twoMembers : Directory where
  tenant := 1
  isActiveMember user := user = 7 || user = 8
  hasTicket _ := false
  group _ := none

/-- Users 7 and 8 ask for the conversation with each other, and both find none. -/
theorem not_always_unique_both :
    ¬(Always (World.turn (act twoMembers)) (fun world => world.shared.Unique twoMembers) closed
        [(0, 7, { type := .direct, userId := some 8 }), (1, 8, { type := .direct, userId := some 7 }),
          (0, 7, { type := .direct }), (1, 8, { type := .direct }), (0, 7, { type := .direct }),
          (1, 8, { type := .direct })] ∧
      Every (World.turn (act twoMembers)) (Finds twoMembers) closed
        [(0, 7, { type := .direct, userId := some 8 }), (1, 8, { type := .direct, userId := some 7 }),
          (0, 7, { type := .direct }), (1, 8, { type := .direct }), (0, 7, { type := .direct }),
          (1, 8, { type := .direct })]) := by
  rintro ⟨always, -⟩
  have heq := always.finish.direct 7 8 (by decide) ⟨0, 1, .direct, "", none, none⟩
    (by decide +kernel) ⟨1, 1, .direct, "", none, none⟩ (by decide +kernel) (by decide +kernel)
    (by decide +kernel)
  revert heq
  decide +kernel

end Laws

end Rooms

end Kanzan.Messaging

import Kanzan.Messaging.Models
import Kanzan.Support.Processes

/-!
# Who sends

Sockets, message requests and changes of the participants as processes over the tables.  A turn is
one query, or one insert or update; beside the tables stand the removals and the deactivations that
took effect.
-/

namespace Kanzan.Messaging

open Support

/-- The tables, with the participants removed and the memberships deactivated so far. -/
structure Office where
  db : Db
  removed : List (ℕ × ℕ) := []
  deactivated : List (ℕ × ℕ) := []

/-- How much had been removed and deactivated when a sender was checked. -/
structure Marks where
  removed : ℕ
  deactivated : ℕ

/-- Where a process stands. -/
inductive Sender where
  | idle
  /-- A socket whose user was found among the participants. -/
  | participant (user conversation : ℕ) (tenant : Option ℕ) (removed : ℕ)
  /-- A socket whose conversation was found in the tenant of its host. -/
  | matched (user conversation tenant removed : ℕ)
  | connected (user conversation tenant : ℕ) (marks : Marks)
  /-- A request after `IsTenantMember` and the serializer. -/
  | checked (request : MessageRequest) (text : String) (parent : Option Message) (deactivated : ℕ)
  | granted (user : ℕ) (conversation : Conversation) (text : String) (parent : Option Message)
      (marks : Marks)
  | adding (conversation user : ℕ)
  | removing (pk : ℕ)

/-- What a client or an administrator does; `next` lets a request go on. -/
inductive Act where
  | connect (user conversation : ℕ) (tenant : Option ℕ)
  | frame (frame : Frame)
  | disconnect
  | post (request : MessageRequest)
  | addParticipant (actor : ℕ) (tenant : Option ℕ) (conversation user : ℕ)
  | removeParticipant (actor : ℕ) (tenant : Option ℕ) (conversation user : ℕ)
  | leave (actor : ℕ) (tenant : Option ℕ) (conversation : ℕ)
  | deactivate (user tenant : ℕ)
  | next

variable {sender : Sender} {conversation tenant : ℕ} {message : Message}

namespace Office

variable (uuid : ℕ → String) (office : Office)

/-- `get_object` of the conversation endpoints, and that the conversation is not direct. -/
def mutable (actor : ℕ) (tenant : Option ℕ) (pk : ℕ) : Option Conversation :=
  (Db.inTenant tenant Conversation.tenant (office.db.conversation pk)).filter fun row =>
    office.db.isTenantMember actor tenant && office.db.isParticipant pk actor && row.type ≠ .direct

def participation (conversation user : ℕ) : Option ConversationParticipant :=
  office.db.participants.find? fun row => row.conversation = conversation && row.user = user

/-! ## Writes -/

def store (db : Db) : Office := { office with db := db }

/-- `ConversationParticipant.objects.create`, within the unique pair. -/
def add (conversation user : ℕ) : Office :=
  if office.db.isParticipant conversation user then office
  else
    { office with
      db := { office.db with
        participants := office.db.participants ++
          [{ pk := office.db.nextParticipant
             conversation := conversation
             user := user }]
        nextParticipant := office.db.nextParticipant + 1 } }

/-- `participant.delete()`. -/
def remove (pk : ℕ) : Office :=
  { office with
    db := { office.db with
      participants := office.db.participants.filter fun row => row.pk ≠ pk }
    removed := ((office.db.participants.filter fun row => row.pk = pk).map fun row =>
      (row.conversation, row.user)) ++ office.removed }

def deactivate (user tenant : ℕ) : Office :=
  { office with
    db := { office.db with
      memberships := office.db.memberships.map fun row =>
        if row.user = user ∧ row.tenant = tenant then { row with isActive := false } else row }
    deactivated := (user, tenant) :: office.deactivated }

/-! ## Turns -/

def begin : Act → Office × Sender
  | .connect user conversation tenant =>
    if office.db.isParticipant conversation user then
      (office, .participant user conversation tenant (office.removed.count (conversation, user)))
    else (office, .idle)
  | .post request =>
    match checkMessage uuid office.db request with
    | .error _ => (office, .idle)
    | .ok (text, parent) =>
      (office, .checked request text parent
        (office.deactivated.count (request.user, request.tenant.getD 0)))
  | .addParticipant actor tenant conversation user =>
    match office.mutable actor tenant conversation with
    | none => (office, .idle)
    | some row =>
      if office.db.isActiveMember user row.tenant && !office.db.isParticipant conversation user
      then (office, .adding conversation user)
      else (office, .idle)
  | .removeParticipant actor tenant conversation user =>
    match (office.mutable actor tenant conversation).bind fun _ =>
        office.participation conversation user with
    | none => (office, .idle)
    | some row => (office, .removing row.pk)
  | .leave actor tenant conversation =>
    match (office.mutable actor tenant conversation).bind fun _ =>
        office.participation conversation actor with
    | none => (office, .idle)
    | some row => (office, .removing row.pk)
  | .deactivate user tenant => (office.deactivate user tenant, .idle)
  | _ => (office, .idle)

def act (_process : ℕ) (office : Office) : Sender → Act → Office × Sender
  | .idle, event => office.begin uuid event
  | .participant user conversation tenant removed, _ =>
    match tenant with
    | none => (office, .idle)
    | some tenant =>
      if (office.db.conversation conversation).any fun row => row.tenant = tenant then
        (office, .matched user conversation tenant removed)
      else (office, .idle)
  | .matched user conversation tenant removed, _ =>
    if office.db.isActiveMember user tenant then
      (office, .connected user conversation tenant
        ⟨removed, office.deactivated.count (user, tenant)⟩)
    else (office, .idle)
  | .connected user conversation tenant marks, .frame frame =>
    (office.store ((sendMessage office.db conversation user frame).getD office.db),
      .connected user conversation tenant marks)
  | .connected _ _ _ _, .disconnect => (office, .idle)
  | .connected user conversation tenant marks, _ =>
    (office, .connected user conversation tenant marks)
  | .checked request text parent deactivated, _ =>
    match getConversation office.db request with
    | .error _ => (office, .idle)
    | .ok conversation =>
      (office, .granted request.user conversation text parent
        ⟨office.removed.count (conversation.pk, request.user), deactivated⟩)
  | .granted user conversation text parent _, _ =>
    (office.store (storeMessage office.db conversation user text parent), .idle)
  | .adding conversation user, _ => (office.add conversation user, .idle)
  | .removing pk, _ => (office.remove pk, .idle)

/-! ## The property and the condition -/

/-- A message that the turn stores has an author who takes part and is an active member. -/
def Rightful (world : World Office Sender) (event : ℕ × Act) : Prop :=
  ∀ message, (world.turn (act uuid) event).shared.db.messages =
      world.shared.db.messages ++ [message] → ∀ author, message.author = some author →
    world.shared.db.isParticipant message.conversation author = true ∧
      world.shared.db.isActiveMember author message.tenant = true

/-- Nobody has removed the sender from the conversation or deactivated him since he was checked. -/
def Undisturbed (user conversation tenant : ℕ) (marks : Marks) : Prop :=
  office.removed.count (conversation, user) = marks.removed ∧
    office.deactivated.count (user, tenant) = marks.deactivated

def Admits (world : World Office Sender) (event : ℕ × Act) : Prop :=
  match world.locals event.1, event.2 with
  | .connected user conversation tenant marks, .frame frame =>
    (sendMessage world.shared.db conversation user frame).isSome = true →
      world.shared.Undisturbed user conversation tenant marks
  | .granted user conversation _ _ marks, _ =>
    world.shared.Undisturbed user conversation.pk conversation.tenant marks
  | _, _ => True

/-! ## What a turn leaves -/

/-- How the tables of a turn follow those before it. -/
structure Later (before after : Office) : Prop where
  conversations : after.db.conversations = before.db.conversations
  removed : ∀ pair, before.removed.count pair ≤ after.removed.count pair
  deactivated : ∀ pair, before.deactivated.count pair ≤ after.deactivated.count pair
  participates : ∀ conversation user,
    after.removed.count (conversation, user) = before.removed.count (conversation, user) →
      before.db.isParticipant conversation user = true →
      after.db.isParticipant conversation user = true
  active : ∀ user tenant,
    after.deactivated.count (user, tenant) = before.deactivated.count (user, tenant) →
      before.db.isActiveMember user tenant = true → after.db.isActiveMember user tenant = true

section Laws

variable {uuid : ℕ → String} {before after office : Office}

theorem later_refl : Later office office where
  conversations := rfl
  removed _ := Nat.le_refl _
  deactivated _ := Nat.le_refl _
  participates _ _ _ hbefore := hbefore
  active _ _ _ hbefore := hbefore

theorem later_store {db : Db} (hconversations : db.conversations = office.db.conversations)
    (hparticipants : db.participants = office.db.participants)
    (hmemberships : db.memberships = office.db.memberships) : Later office (office.store db) where
  conversations := hconversations
  removed _ := Nat.le_refl _
  deactivated _ := Nat.le_refl _
  participates conversation user _ hbefore := by
    rw [store, Db.isParticipant, hparticipants]
    exact hbefore
  active user tenant _ hbefore := by
    rw [store, Db.isActiveMember, hmemberships]
    exact hbefore

theorem later_sendMessage (conversation user : ℕ) (frame : Frame) :
    Later office
      (office.store ((sendMessage office.db conversation user frame).getD office.db)) := by
  cases hstored : sendMessage office.db conversation user frame with
  | none => exact later_refl
  | some stored =>
    obtain ⟨text, row, parent, -, -, -, rfl⟩ := sendMessage_eq_some.mp hstored
    exact later_store rfl rfl rfl

theorem later_add (conversation user : ℕ) : Later office (office.add conversation user) := by
  rw [add]
  split
  · exact later_refl
  · constructor
    · rfl
    · exact fun _ => Nat.le_refl _
    · exact fun _ => Nat.le_refl _
    · intro other person _ hbefore
      rw [Db.isParticipant, List.any_append, ← Db.isParticipant, hbefore]
      rfl
    · exact fun _ _ _ hbefore => hbefore

theorem later_remove (pk : ℕ) : Later office (office.remove pk) where
  conversations := rfl
  removed pair := by
    rw [remove, List.count_append]
    exact Nat.le_add_left ..
  deactivated _ := Nat.le_refl _
  participates conversation user heq hbefore := by
    rw [remove, List.count_append] at heq
    have hnone : ((office.db.participants.filter fun row => row.pk = pk).map fun row =>
        (row.conversation, row.user)).count (conversation, user) = 0 := by omega
    rw [Db.isParticipant, List.any_eq_true] at hbefore ⊢
    obtain ⟨row, hmem, hrow⟩ := hbefore
    refine ⟨row, List.mem_filter.mpr ⟨hmem, ?_⟩, hrow⟩
    rw [Bool.and_eq_true, decide_eq_true_eq, decide_eq_true_eq] at hrow
    refine decide_eq_true fun hpk => List.count_eq_zero.mp hnone ?_
    refine List.mem_map.mpr ⟨row, List.mem_filter.mpr ⟨hmem, decide_eq_true hpk⟩, ?_⟩
    rw [hrow.1, hrow.2]
  active _ _ _ hbefore := hbefore

theorem later_deactivate (user tenant : ℕ) : Later office (office.deactivate user tenant) where
  conversations := rfl
  removed _ := Nat.le_refl _
  deactivated pair := List.count_le_count_cons
  participates _ _ _ hbefore := hbefore
  active person host heq hbefore := by
    rw [deactivate, List.count_cons] at heq
    rw [Db.isActiveMember, List.any_eq_true] at hbefore ⊢
    obtain ⟨row, hmem, hrow⟩ := hbefore
    refine ⟨row, List.mem_map.mpr ⟨row, hmem, if_neg ?_⟩, hrow⟩
    simp only [Bool.and_eq_true, decide_eq_true_eq] at hrow
    rintro ⟨huser, htenant⟩
    rw [← huser, ← htenant, hrow.1.1, hrow.1.2, beq_self_eq_true, if_pos rfl] at heq
    omega

theorem later_begin (event : Act) : Later office (office.begin uuid event).1 := by
  cases event with
  | connect user conversation tenant =>
    rw [begin]
    split
    · exact later_refl
    · exact later_refl
  | post request =>
    rw [begin]
    split
    · exact later_refl
    · exact later_refl
  | addParticipant actor tenant conversation user =>
    rw [begin]
    split
    · exact later_refl
    · split
      · exact later_refl
      · exact later_refl
  | removeParticipant actor tenant conversation user =>
    rw [begin]
    split
    · exact later_refl
    · exact later_refl
  | leave actor tenant conversation =>
    rw [begin]
    split
    · exact later_refl
    · exact later_refl
  | deactivate user tenant => exact later_deactivate user tenant
  | frame frame => exact later_refl
  | disconnect => exact later_refl
  | next => exact later_refl

theorem later_act (process : ℕ) (sender : Sender) (event : Act) :
    Later office (act uuid process office sender event).1 := by
  cases sender with
  | idle => exact later_begin event
  | participant user conversation tenant removed =>
    cases tenant with
    | none => exact later_refl
    | some tenant =>
      rw [act]
      split
      · exact later_refl
      · exact later_refl
  | matched user conversation tenant removed =>
    rw [act]
    split
    · exact later_refl
    · exact later_refl
  | connected user conversation tenant marks =>
    cases event with
    | frame frame => exact later_sendMessage conversation user frame
    | _ => exact later_refl
  | checked request text parent deactivated =>
    rw [act]
    split
    · exact later_refl
    · exact later_refl
  | granted user conversation text parent marks => exact later_store rfl rfl rfl
  | adding conversation user => exact later_add conversation user
  | removing pk => exact later_remove pk

end Laws

/-! ## What a sender may rely on -/

variable (office : Office)

/-- A participant when checked is one still, if nobody has removed him since. -/
def VouchesParticipant (user conversation removed : ℕ) : Prop :=
  removed ≤ office.removed.count (conversation, user) ∧
    (office.removed.count (conversation, user) = removed →
      office.db.isParticipant conversation user = true)

/-- An active member when checked is one still, if nobody has deactivated him since. -/
def VouchesMember (user tenant deactivated : ℕ) : Prop :=
  deactivated ≤ office.deactivated.count (user, tenant) ∧
    (office.deactivated.count (user, tenant) = deactivated →
      office.db.isActiveMember user tenant = true)

def InHost (conversation tenant : ℕ) : Prop :=
  ∀ row, office.db.conversation conversation = some row → row.tenant = tenant

def Trusts : Sender → Prop
  | .participant user conversation _ removed =>
    office.VouchesParticipant user conversation removed
  | .matched user conversation tenant removed =>
    office.VouchesParticipant user conversation removed ∧ office.InHost conversation tenant
  | .connected user conversation tenant marks =>
    office.VouchesParticipant user conversation marks.removed ∧
      office.InHost conversation tenant ∧ office.VouchesMember user tenant marks.deactivated
  | .checked request _ _ deactivated =>
    ∀ tenant, request.tenant = some tenant →
      office.VouchesMember request.user tenant deactivated
  | .granted user conversation _ _ marks =>
    office.VouchesParticipant user conversation.pk marks.removed ∧
      office.VouchesMember user conversation.tenant marks.deactivated
  | _ => True

section Trust

variable {uuid : ℕ → String} {before after office : Office}

theorem vouchesParticipant_of_later {user removed : ℕ}
    (vouches : before.VouchesParticipant user conversation removed) (later : Later before after) :
    after.VouchesParticipant user conversation removed := by
  have hle := later.removed (conversation, user)
  refine ⟨Nat.le_trans vouches.1 hle, fun heq => ?_⟩
  have hfirst := vouches.1
  exact later.participates conversation user (by omega) (vouches.2 (by omega))

theorem vouchesMember_of_later {user deactivated : ℕ}
    (vouches : before.VouchesMember user tenant deactivated) (later : Later before after) :
    after.VouchesMember user tenant deactivated := by
  have hle := later.deactivated (user, tenant)
  refine ⟨Nat.le_trans vouches.1 hle, fun heq => ?_⟩
  have hfirst := vouches.1
  exact later.active user tenant (by omega) (vouches.2 (by omega))

theorem inHost_of_later (inHost : before.InHost conversation tenant) (later : Later before after) :
    after.InHost conversation tenant := by
  intro row hrow
  rw [Db.conversation, later.conversations] at hrow
  exact inHost row hrow

theorem trusts_of_later (trusts : before.Trusts sender) (later : Later before after) :
    after.Trusts sender := by
  cases sender with
  | idle => trivial
  | participant user conversation tenant removed =>
    exact vouchesParticipant_of_later trusts later
  | matched user conversation tenant removed =>
    exact ⟨vouchesParticipant_of_later trusts.1 later, inHost_of_later trusts.2 later⟩
  | connected user conversation tenant marks =>
    exact ⟨vouchesParticipant_of_later trusts.1 later, inHost_of_later trusts.2.1 later,
      vouchesMember_of_later trusts.2.2 later⟩
  | checked request text parent deactivated =>
    exact fun tenant htenant => vouchesMember_of_later (trusts tenant htenant) later
  | granted user conversation text parent marks =>
    exact ⟨vouchesParticipant_of_later trusts.1 later, vouchesMember_of_later trusts.2 later⟩
  | adding conversation user => trivial
  | removing pk => trivial

/-- The first query of a process is a check that holds. -/
theorem trusts_begin (event : Act) :
    (office.begin uuid event).1.Trusts (office.begin uuid event).2 := by
  cases event with
  | connect user conversation tenant =>
    rw [begin]
    split
    · rename_i hparticipant
      exact ⟨Nat.le_refl _, fun _ => hparticipant⟩
    · trivial
  | post request =>
    rw [begin]
    cases hchecked : checkMessage uuid office.db request with
    | error refusal => trivial
    | ok checked =>
      intro tenant htenant
      have hmember : office.db.isTenantMember request.user request.tenant = true := by
        cases hmember : office.db.isTenantMember request.user request.tenant with
        | true => rfl
        | false =>
          rw [checkMessage, hmember] at hchecked
          cases hchecked
      rw [Db.isTenantMember, htenant, Option.all_some] at hmember
      rw [htenant]
      exact ⟨Nat.le_refl _, fun _ => hmember⟩
  | addParticipant actor tenant conversation user =>
    rw [begin]
    split
    · trivial
    · split
      · trivial
      · trivial
  | removeParticipant actor tenant conversation user =>
    rw [begin]
    split
    · trivial
    · trivial
  | leave actor tenant conversation =>
    rw [begin]
    split
    · trivial
    · trivial
  | deactivate user tenant => trivial
  | frame frame => trivial
  | disconnect => trivial
  | next => trivial

theorem trusts_act (process : ℕ) (trusts : office.Trusts sender) (event : Act) :
    (act uuid process office sender event).1.Trusts (act uuid process office sender event).2 := by
  cases sender with
  | idle => exact trusts_begin event
  | participant user conversation tenant removed =>
    cases tenant with
    | none => trivial
    | some tenant =>
      rw [act]
      split
      · rename_i hmatched
        refine ⟨trusts, fun row hrow => ?_⟩
        rw [hrow, Option.any_some, decide_eq_true_eq] at hmatched
        exact hmatched
      · trivial
  | matched user conversation tenant removed =>
    rw [act]
    split
    · rename_i hmember
      exact ⟨trusts.1, trusts.2, Nat.le_refl _, fun _ => hmember⟩
    · trivial
  | connected user conversation tenant marks =>
    cases event with
    | frame frame => exact trusts_of_later trusts (later_sendMessage conversation user frame)
    | disconnect => trivial
    | _ => exact trusts
  | checked request text parent deactivated =>
    rw [act]
    cases hconversation : getConversation office.db request with
    | error refusal => trivial
    | ok conversation =>
      obtain ⟨-, htenant, hparticipant⟩ := getConversation_eq_ok hconversation
      exact ⟨⟨Nat.le_refl _, fun _ => hparticipant⟩, trusts _ htenant⟩
  | granted user conversation text parent marks => trivial
  | adding conversation user => trivial
  | removing pk => trivial

/-! ## Stored messages -/

theorem eq_of_storeMessage {db : Db} {conversation : Conversation} {author : ℕ} {text : String}
    {parent : Option Message}
    (hmessages : (storeMessage db conversation author text parent).messages =
      db.messages ++ [message]) :
    message.author = some author ∧ message.conversation = conversation.pk ∧
      message.tenant = conversation.tenant := by
  obtain rfl := List.singleton_inj.mp (List.append_cancel_left hmessages)
  exact ⟨rfl, rfl, rfl⟩

theorem messages_begin (event : Act) :
    (office.begin uuid event).1.db.messages = office.db.messages := by
  cases event with
  | connect user conversation tenant =>
    rw [begin]
    split
    · rfl
    · rfl
  | post request =>
    rw [begin]
    split
    · rfl
    · rfl
  | addParticipant actor tenant conversation user =>
    rw [begin]
    split
    · rfl
    · split
      · rfl
      · rfl
  | removeParticipant actor tenant conversation user =>
    rw [begin]
    split
    · rfl
    · rfl
  | leave actor tenant conversation =>
    rw [begin]
    split
    · rfl
    · rfl
  | deactivate user tenant => rfl
  | frame frame => rfl
  | disconnect => rfl
  | next => rfl

/-- What a turn appends comes from a frame or from the end of a request. -/
theorem stores_of_act {process : ℕ} {event : Act}
    (hmessages : (act uuid process office sender event).1.db.messages =
      office.db.messages ++ [message]) :
    (∃ user conversation tenant marks frame row,
      sender = .connected user conversation tenant marks ∧ event = .frame frame ∧
      (sendMessage office.db conversation user frame).isSome = true ∧
      office.db.conversation conversation = some row ∧ message.author = some user ∧
      message.conversation = conversation ∧ message.tenant = row.tenant) ∨
    ∃ user conversation text parent marks, sender = .granted user conversation text parent marks ∧
      message.author = some user ∧ message.conversation = conversation.pk ∧
      message.tenant = conversation.tenant := by
  have hnothing : office.db.messages ≠ office.db.messages ++ [message] := by
    intro heq
    cases List.self_eq_append_right.mp heq
  cases sender with
  | idle => exact absurd ((messages_begin event).symm.trans hmessages) hnothing
  | participant user conversation tenant removed =>
    refine absurd hmessages ?_
    cases tenant with
    | none => exact hnothing
    | some tenant =>
      rw [act]
      split
      · exact hnothing
      · exact hnothing
  | matched user conversation tenant removed =>
    rw [act] at hmessages
    split at hmessages
    · exact absurd hmessages hnothing
    · exact absurd hmessages hnothing
  | connected user conversation tenant marks =>
    cases event with
    | frame frame =>
      left
      rw [act, store] at hmessages
      cases hstored : sendMessage office.db conversation user frame with
      | none =>
        rw [hstored] at hmessages
        exact absurd hmessages hnothing
      | some stored =>
        obtain ⟨text, row, parent, -, hrow, -, rfl⟩ := sendMessage_eq_some.mp hstored
        rw [hstored] at hmessages
        obtain ⟨hauthor, hconversation, htenant⟩ := eq_of_storeMessage hmessages
        rw [pk_of_conversation hrow] at hconversation
        exact ⟨user, conversation, tenant, marks, frame, row, rfl, rfl, by rw [hstored]; rfl,
          hrow, hauthor, hconversation, htenant⟩
    | _ => exact absurd hmessages hnothing
  | checked request text parent deactivated =>
    rw [act] at hmessages
    split at hmessages
    · exact absurd hmessages hnothing
    · exact absurd hmessages hnothing
  | granted user conversation text parent marks =>
    obtain ⟨hauthor, hconversation, htenant⟩ := eq_of_storeMessage hmessages
    exact Or.inr ⟨user, conversation, text, parent, marks, rfl, hauthor, hconversation, htenant⟩
  | adding conversation user =>
    rw [act, add] at hmessages
    split at hmessages
    · exact absurd hmessages hnothing
    · exact absurd hmessages hnothing
  | removing pk => exact absurd hmessages hnothing

theorem rightful_of_admits {world : World Office Sender} {event : ℕ × Act}
    (trusts : world.shared.Trusts (world.locals event.1)) (admits : Admits world event) :
    Rightful uuid world event := by
  obtain ⟨process, event⟩ := event
  intro message hmessages author hauthor
  rw [World.turn_shared] at hmessages
  rcases stores_of_act hmessages with
    ⟨user, conversation, tenant, marks, frame, row, hsender, rfl, hstored, hrow, hauthor', rfl,
      htenant⟩ | ⟨user, conversation, text, parent, marks, hsender, hauthor', hconversation,
      htenant⟩
  · obtain rfl := Option.some.inj (hauthor'.symm.trans hauthor)
    simp only [Admits, hsender] at admits
    simp only [hsender] at trusts
    obtain ⟨hremoved, hdeactivated⟩ := admits hstored
    rw [htenant, trusts.2.1 row hrow]
    exact ⟨trusts.1.2 hremoved, trusts.2.2.2 hdeactivated⟩
  · obtain rfl := Option.some.inj (hauthor'.symm.trans hauthor)
    simp only [Admits, hsender] at admits
    simp only [hsender] at trusts
    rw [hconversation, htenant]
    exact ⟨trusts.1.2 admits.1, trusts.2.2 admits.2⟩

theorem sound_act : World.Sound (act uuid) Admits (fun _ => True)
    (fun _ office sender => office.Trusts sender) where
  own _ process event keeps _ :=
    ⟨trivial, trusts_act process (keeps.locals process) event⟩
  others _ process event other keeps _ _ :=
    trusts_of_later (keeps.locals other) (later_act process _ event)

end Trust

/-! ## Runs -/

def opening (db : Db) : World Office Sender where
  shared := { db := db }
  locals _ := .idle

/--
In a run in which every sender is as he was checked when his message is stored, every message is
stored while its author takes part in the conversation and is an active member of its tenant.
-/
theorem every_rightful_of_admitted (uuid : ℕ → String) (db : Db) (events : List (ℕ × Act))
    (admitted : Every (World.turn (act uuid)) Admits (opening db) events) :
    Every (World.turn (act uuid)) (Rightful uuid) (opening db) events := by
  have keeps : World.Keeps (fun _ => True) (fun _ office sender => office.Trusts sender)
      (opening db) := ⟨trivial, fun _ => trivial⟩
  refine every_of_invariant (World.Keeps _ _) ?_ (fun _ _ => sound_act.turn) keeps events admitted
  intro _ event keeps admits
  exact rightful_of_admits (keeps.locals event.1) admits

/-- Users 7 and 8 of tenant 1 in the group conversation 1. -/
def pair : Db where
  conversations := [⟨1, 1, .group, "Ops", none, none⟩]
  participants := [⟨0, 1, 7⟩, ⟨1, 1, 8⟩]
  memberships := [⟨7, 1, true⟩, ⟨8, 1, true⟩]
  messages := []
  nextParticipant := 2

/-- User 7 connects and sends, removes user 8, whose request is then refused, and sends again. -/
theorem every_rightful_pair :
    Every (World.turn (act toString)) (Rightful toString) (opening pair)
      [(0, .connect 7 1 (some 1)), (0, .next), (0, .next), (0, .frame { body := .value "hello" }),
        (1, .removeParticipant 7 (some 1) 1 8), (1, .next),
        (2, .post ⟨8, some 1, 1, { body := .value "still here" }⟩), (2, .next), (2, .next),
        (0, .frame { body := .value "bye" })] :=
  every_rightful_of_admitted toString pair _
    ⟨trivial, trivial, trivial, fun _ => ⟨rfl, rfl⟩, trivial, trivial, trivial, trivial, trivial,
      fun _ => ⟨rfl, rfl⟩, trivial⟩

/-- User 8 removes user 7, whose open socket goes on to store his message. -/
theorem not_every_rightful_removed :
    ¬Every (World.turn (act toString)) (Rightful toString) (opening pair)
      [(0, .connect 7 1 (some 1)), (0, .next), (0, .next),
        (1, .removeParticipant 8 (some 1) 1 7), (1, .next),
        (0, .frame { body := .value "still here" })] := by
  rintro ⟨-, -, -, -, -, rightful, -⟩
  have hparticipant := (rightful ⟨0, 1, 1, some 7, "still here", none⟩ (by decide +kernel) 7 rfl).1
  revert hparticipant
  decide +kernel

end Office

end Kanzan.Messaging

import Kanzan.Messaging.Models
import Kanzan.Support.Runs

/-!
# Replies

Sequences of messages stored through the endpoint and the socket.  A reply belongs to the
conversation of its parent; the endpoint compares the parent with a conversation that the client
names, not with the one of the URL.
-/

namespace Kanzan.Messaging

open Support

/-- A request to the endpoint or a frame on a socket. -/
inductive Send where
  | rest (request : MessageRequest)
  | socket (conversation user : ℕ) (frame : Frame)

variable (uuid : ℕ → String)
variable {parent : Option Message} {found : Message} {conversation : Conversation} {author : ℕ}
variable {text : String} {request : MessageRequest}

def Db.send (db : Db) : Send → Db
  | .rest request =>
    match createMessage uuid db request with
    | .ok stored => stored
    | .error _ => db
  | .socket conversation user frame => (sendMessage db conversation user frame).getD db

/-- Every parent is a message of the same conversation. -/
def Db.Threaded (db : Db) : Prop :=
  ∀ message ∈ db.messages, ∀ pk, message.parent = some pk →
    ∃ parent, db.message pk = some parent ∧ parent.conversation = message.conversation

def Contradicts (data : MessageBody) (parent : Message) : Prop :=
  ∃ raw, data.conversation = some raw ∧ raw.truthy = true ∧ uuid parent.conversation ≠ raw.text

/-- What the endpoint asks of a request, the parent apart. -/
structure Eligible (db : Db) (request : MessageRequest) : Prop where
  member : db.isTenantMember request.user request.tenant = true
  body : ∃ text, validateBody request.data.body = .ok text
  conversation : ∃ conversation, getConversation db request = .ok conversation

/--
A request that is otherwise accepted replies to a message of the conversation in the URL, or names
another conversation than that of the message, and is refused for it.
-/
def Admits (db : Db) : Send → Prop
  | .rest request => Eligible db request → ∀ pk parent, request.data.parent = .value pk →
      db.message pk = some parent → request.tenant = some parent.tenant →
        parent.conversation = request.conversation ∨ Contradicts uuid request.data parent
  | .socket _ _ _ => True

section Laws

variable {uuid : ℕ → String} {db : Db}

theorem message_storeMessage {pk : ℕ} (hfound : db.message pk = some found) :
    (storeMessage db conversation author text parent).message pk = some found := by
  rw [Db.message, storeMessage, List.find?_append]
  rw [Db.message] at hfound
  rw [hfound]
  rfl

theorem threaded_storeMessage (threaded : db.Threaded)
    (hparent : ∀ found, parent = some found → db.message found.pk = some found) :
    (storeMessage db conversation author text parent).Threaded ↔
      ∀ found, parent = some found → found.conversation = conversation.pk := by
  constructor
  · intro after found hsome
    subst hsome
    obtain ⟨shown, hshown, hsame⟩ :=
      after _ (List.mem_append_right _ (List.mem_singleton_self _)) found.pk rfl
    rw [message_storeMessage (hparent found rfl)] at hshown
    rw [Option.some.inj hshown]
    exact hsame
  · intro hsame message hmem pk hpk
    rcases List.mem_append.mp hmem with hold | hnew
    · obtain ⟨shown, hshown, hconversation⟩ := threaded message hold pk hpk
      exact ⟨shown, message_storeMessage hshown, hconversation⟩
    · obtain rfl := List.mem_singleton.mp hnew
      obtain ⟨found, rfl, rfl⟩ := Option.map_eq_some_iff.mp hpk
      exact ⟨found, message_storeMessage (hparent found rfl), hsame found rfl⟩

theorem validateParent_eq_ok {data : MessageBody} {parent : Message} :
    validateParent uuid data parent = .ok found ↔
      parent = found ∧ ¬Contradicts uuid data parent := by
  rw [validateParent]
  cases hraw : data.conversation with
  | none =>
    rw [Except.ok.injEq]
    refine (and_iff_left ?_).symm
    rintro ⟨raw, hsome, -⟩
    cases hraw.symm.trans hsome
  | some raw =>
    by_cases hother : (raw.truthy && uuid parent.conversation ≠ raw.text) = true
    · simp only [hother, if_true, reduceCtorEq, false_iff, not_and, not_not]
      rw [Bool.and_eq_true, decide_eq_true_eq] at hother
      exact fun _ => ⟨raw, hraw, hother⟩
    · simp only [hother, Bool.false_eq_true, if_false, Except.ok.injEq]
      refine (and_iff_left ?_).symm
      rintro ⟨shown, hsome, htruthy, hne⟩
      obtain rfl := Option.some.inj (hraw.symm.trans hsome)
      rw [Bool.and_eq_true, decide_eq_true_eq] at hother
      exact hother ⟨htruthy, hne⟩

theorem parentField_eq_ok :
    parentField uuid db request = .ok parent ↔
      (request.data.parent = .absent ∨ request.data.parent = .null) ∧ parent = none ∨
      ∃ pk found, request.data.parent = .value pk ∧ db.message pk = some found ∧
        request.tenant = some found.tenant ∧ ¬Contradicts uuid request.data found ∧
        parent = some found := by
  rw [parentField]
  cases hfield : request.data.parent with
  | absent => simp [eq_comm]
  | null => simp [eq_comm]
  | malformed detail => simp
  | value pk =>
    simp only [reduceCtorEq, or_self, false_and, false_or, Field.value.injEq]
    cases hrow : Db.inTenant request.tenant Message.tenant (db.message pk) with
    | none =>
      refine iff_of_false (by simp) ?_
      rintro ⟨_, found, rfl, hfound, htenant, -⟩
      cases hrow.symm.trans (inTenant_eq_some.mpr ⟨hfound, htenant⟩)
    | some row =>
      obtain ⟨hfound, htenant⟩ := inTenant_eq_some.mp hrow
      simp only [map_eq_ok, validateParent_eq_ok]
      constructor
      · rintro ⟨found, ⟨rfl, hquiet⟩, rfl⟩
        exact ⟨pk, row, rfl, hfound, htenant, hquiet, rfl⟩
      · rintro ⟨_, found, rfl, hshown, -, hquiet, rfl⟩
        obtain rfl := Option.some.inj (hfound.symm.trans hshown)
        exact ⟨row, ⟨rfl, hquiet⟩, rfl⟩

theorem createMessage_eq_ok {stored : Db} :
    createMessage uuid db request = .ok stored ↔
      ∃ text parent conversation, db.isTenantMember request.user request.tenant = true ∧
        validateBody request.data.body = .ok text ∧ parentField uuid db request = .ok parent ∧
        getConversation db request = .ok conversation ∧
        stored = storeMessage db conversation request.user text parent := by
  rw [createMessage, bind_eq_ok]
  constructor
  · rintro ⟨checked, hchecked, hstored⟩
    obtain ⟨conversation, hconversation, rfl⟩ := map_eq_ok.mp hstored
    rw [checkMessage] at hchecked
    cases hmember : db.isTenantMember request.user request.tenant with
    | false =>
      rw [hmember] at hchecked
      cases hchecked
    | true =>
      rw [hmember, Bool.not_true, if_neg Bool.false_ne_true] at hchecked
      obtain ⟨text, htext, hparent⟩ := bind_eq_ok.mp hchecked
      obtain ⟨parent, hfield, rfl⟩ := map_eq_ok.mp hparent
      exact ⟨text, parent, conversation, rfl, htext, hfield, hconversation, rfl⟩
  · rintro ⟨text, parent, conversation, hmember, htext, hfield, hconversation, rfl⟩
    refine ⟨(text, parent), ?_, ?_⟩
    · rw [checkMessage, hmember, htext, Bool.not_true, if_neg Bool.false_ne_true]
      exact congrArg (Except.map _) hfield
    · rw [hconversation]
      rfl

theorem frameParent_eq_some {conversation : ℕ} {field : Field ℕ}
    (hsome : frameParent db conversation field = some parent) (hfound : parent = some found) :
    db.message found.pk = some found ∧ found.conversation = conversation := by
  subst hfound
  cases field with
  | absent => cases hsome
  | null => cases hsome
  | malformed detail => cases hsome
  | value pk =>
    obtain ⟨hshown, hsame⟩ := Option.filter_eq_some_iff.mp (Option.some.inj hsome)
    rw [pk_of_message hshown]
    exact ⟨hshown, of_decide_eq_true hsame⟩

/-! ## One send -/

theorem threaded_socket (threaded : db.Threaded) (conversation user : ℕ) (frame : Frame) :
    (db.send uuid (.socket conversation user frame)).Threaded := by
  rw [Db.send]
  cases hstored : sendMessage db conversation user frame with
  | none => exact threaded
  | some stored =>
    obtain ⟨text, row, parent, -, hrow, hframe, rfl⟩ := sendMessage_eq_some.mp hstored
    refine (threaded_storeMessage threaded fun shown hshown => ?_).mpr fun shown hshown => ?_
    · exact (frameParent_eq_some hframe hshown).1
    · exact (frameParent_eq_some hframe hshown).2.trans (pk_of_conversation hrow).symm

theorem threaded_rest_iff (threaded : db.Threaded) (request : MessageRequest) :
    (db.send uuid (.rest request)).Threaded ↔ Admits uuid db (.rest request) := by
  constructor
  · intro after eligible pk parent hfield hparent htenant
    by_cases hcontradicts : Contradicts uuid request.data parent
    · exact Or.inr hcontradicts
    · left
      obtain ⟨text, htext⟩ := eligible.body
      obtain ⟨conversation, hconversation⟩ := eligible.conversation
      have hstored := createMessage_eq_ok.mpr ⟨text, some parent, conversation, eligible.member,
        htext, parentField_eq_ok.mpr (Or.inr ⟨pk, parent, hfield, hparent, htenant, hcontradicts,
          rfl⟩), hconversation, rfl⟩
      rw [Db.send, hstored] at after
      have hknown : ∀ found, some parent = some found → db.message found.pk = some found := by
        rintro found heq
        obtain rfl := Option.some.inj heq
        rw [pk_of_message hparent, hparent]
      have hsame := (threaded_storeMessage threaded hknown).mp after parent rfl
      exact hsame.trans (getConversation_eq_ok hconversation).1
  · intro admits
    rw [Db.send]
    cases hstored : createMessage uuid db request with
    | error refusal => exact threaded
    | ok stored =>
      obtain ⟨text, parent, conversation, hmember, htext, hfield, hconversation, rfl⟩ :=
        createMessage_eq_ok.mp hstored
      have eligible : Eligible db request :=
        ⟨hmember, ⟨text, htext⟩, ⟨conversation, hconversation⟩⟩
      have hparent : ∀ found, parent = some found → db.message found.pk = some found ∧
          found.conversation = conversation.pk := by
        intro found hfound
        rcases parentField_eq_ok.mp hfield with ⟨-, hnone⟩ | ⟨pk, shown, hvalue, hshown, htenant,
          hquiet, hsome⟩
        · cases hnone.symm.trans hfound
        · obtain rfl := Option.some.inj (hsome.symm.trans hfound)
          refine ⟨by rw [pk_of_message hshown, hshown], ?_⟩
          rcases admits eligible pk shown hvalue hshown htenant with hsame | hcontradicts
          · exact hsame.trans (getConversation_eq_ok hconversation).1.symm
          · exact absurd hcontradicts hquiet
      exact (threaded_storeMessage threaded fun found hfound => (hparent found hfound).1).mpr
        fun found hfound => (hparent found hfound).2

theorem threaded_send_iff (threaded : db.Threaded) (send : Send) :
    (db.send uuid send).Threaded ↔ Admits uuid db send := by
  cases send with
  | rest request => exact threaded_rest_iff threaded request
  | socket conversation user frame =>
    exact iff_of_true (threaded_socket threaded conversation user frame) trivial

end Laws

/--
From a database without messages, every stored parent is in the conversation of its reply exactly if
every accepted request to the endpoint replies within the conversation of its URL.
-/
theorem always_replies_iff (uuid : ℕ → String) (db : Db) (sends : List Send) :
    Always (Db.send uuid) Db.Threaded { db with messages := [] } sends ↔
      Every (Db.send uuid) (Admits uuid) { db with messages := [] } sends :=
  always_iff_every (fun (_ : Db) (threaded : Db.Threaded _) => threaded)
    (fun _ send threaded admits => (threaded_send_iff threaded send).mpr admits)
    (fun _ send threaded after => (threaded_send_iff threaded send).mp after)
    (fun _ hmem => absurd hmem List.not_mem_nil) sends

/-- A user in two conversations replies in the second to a message of the first. -/
theorem not_always_threaded_reply :
    ¬Always (Db.send toString) Db.Threaded
      { conversations := [⟨1, 1, .group, "Ops", none, none⟩, ⟨2, 1, .group, "Sales", none, none⟩]
        participants := [⟨0, 1, 7⟩, ⟨1, 2, 7⟩]
        memberships := [⟨7, 1, true⟩]
        messages := []
        nextParticipant := 2 }
      [.rest ⟨7, some 1, 1, { body := .value "hello" }⟩,
        .rest ⟨7, some 1, 2, { body := .value "to that", parent := .value 0 }⟩] := by
  intro always
  obtain ⟨parent, hparent, hsame⟩ := always.finish ⟨1, 2, 1, some 7, "to that", some 0⟩
    (by decide +kernel) 0 rfl
  have hshown := congrArg (Option.map Message.conversation) hparent
  rw [Option.map_some, hsame] at hshown
  revert hshown
  decide +kernel

end Kanzan.Messaging

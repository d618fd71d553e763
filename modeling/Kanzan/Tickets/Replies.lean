import Kanzan.Tickets.AutoClose

/-!
# Replies and the first response

A reply to a customer can be posted as a comment on the ticket, through the endpoint of
the comments themselves, by a macro, or as an email.  The first response of a ticket is
the first public reply by anyone but its creator.  Only the comments action and
`send_email` call `record_first_response`.
-/

namespace Kanzan.Tickets

open Sla Support

/-! ## Posts -/

/-- The ways in which a member writes to the people on a ticket. -/
inductive Post where
  /-- `TicketViewSet.comments`. -/
  | comments (isInternal : Bool)
  /-- `CommentViewSet.create`. -/
  | commentViewSet (isInternal : Bool)
  | applyMacro (actions : List MacroAction)
  | sendEmail
  deriving DecidableEq, Repr

/-- A post with its request; `includeDeleted` is the query parameter of the ticket endpoints. -/
structure Posting where
  ticket : ℕ
  author : ℕ
  post : Post
  clock : Clock
  includeDeleted : Bool := false
  brokerUp : Bool := true

/-- What is stored of a post. -/
structure Reply where
  ticket : ℕ
  author : ℕ
  isInternal : Bool
  sentAt : Instant
  deriving DecidableEq, Repr

/-- The store, and the replies in the order in which they were stored. -/
structure Correspondence where
  db : Db
  replies : List Reply := []

def Post.isInternal : Post → Bool
  | .comments isInternal | .commentViewSet isInternal => isInternal
  | .applyMacro _ | .sendEmail => false

namespace Posting

def req (posting : Posting) : Request where
  clock := posting.clock
  actor := some posting.author

def reply (posting : Posting) : Reply where
  ticket := posting.ticket
  author := posting.author
  isInternal := posting.post.isInternal
  sentAt := posting.clock.service

/-- `get_object` of the ticket endpoints. -/
def getObject (posting : Posting) (db : Db) (work : Session → Except String Session) :
    Except String Db :=
  db.onTicket posting.ticket fun s =>
    if s.ticket.isDeleted && !posting.includeDeleted then
      .error "No Ticket matches the given query."
    else work s

def attempt (ws : Workspace) (posting : Posting) (db : Db) : Except String Db :=
  match posting.post with
  | .comments isInternal =>
    posting.getObject db fun s =>
      .ok (if isInternal then s.log .commented
        else recordFirstResponse posting.req (s.log .commented))
  | .commentViewSet _ =>
    -- The target is looked up among all tickets, and the activity goes to the audit log only.
    db.onTicket posting.ticket .ok
  | .applyMacro actions => posting.getObject db (applyMacro ws posting.req actions)
  | .sendEmail =>
    posting.getObject db fun s => .ok (recordFirstResponse posting.req (s.log .commented))

end Posting

namespace Correspondence

def post (ws : Workspace) (state : Correspondence) (posting : Posting) : Correspondence :=
  match posting.attempt ws state.db with
  | .error _ => state
  | .ok after =>
    { db := after.commit posting.brokerUp, replies := state.replies ++ [posting.reply] }

end Correspondence

def Reply.answers (id : ℕ) (row : Ticket) (reply : Reply) : Bool :=
  reply.ticket == id && !reply.isInternal && reply.author != row.createdBy

namespace Correspondence

def firstAnswer (state : Correspondence) (id : ℕ) (row : Ticket) : Option Instant :=
  (state.replies.find? fun reply => reply.answers id row).map Reply.sentAt

/-- Each ticket has its first response recorded, at its time, exactly if it has one. -/
def Recorded (state : Correspondence) : Prop :=
  ∀ id row, state.db.tickets id = some row → row.firstRespondedAt = state.firstAnswer id row

/-- Nobody has replied yet. -/
structure Fresh (state : Correspondence) : Prop where
  replies : state.replies = []
  rows : ∀ id row, state.db.tickets id = some row → row.firstRespondedAt = none

end Correspondence

/-! ## Which macros get through -/

def macroMoves (ws : Workspace) : Ticket → List MacroAction → Bool
  | _, [] => true
  | ticket, action :: rest =>
    match macroStatus ws action with
    | none => macroMoves ws ticket rest
    | some newStatus =>
      (validateStatusTransition ticket newStatus).isOk &&
        macroMoves ws { ticket with status := newStatus } rest

def macroRuns (ws : Workspace) (ticket : Ticket) (actions : List MacroAction) : Bool :=
  macroMoves ws ticket actions &&
    actions.all fun action => action.action.isSome && action.value.isSome

/-- The post stores a public reply, and its endpoint records no first response. -/
def Posting.unrecorded (ws : Workspace) (row : Ticket) (posting : Posting) : Bool :=
  posting.reply.answers posting.ticket row &&
    match posting.post with
    | .comments _ | .sendEmail => false
    | .commentViewSet _ => true
    | .applyMacro actions =>
      (!row.isDeleted || posting.includeDeleted) && macroRuns ws row actions

/-- Whether the endpoint calls `record_first_response`. -/
def Post.records : Post → Bool
  | .comments _ | .sendEmail => true
  | .commentViewSet _ | .applyMacro _ => false

def Posting.response (posting : Posting) (id : ℕ) (row : Ticket) : Option Instant :=
  if posting.post.records && posting.reply.answers id row then some posting.clock.service else none

/-- A public reply that its endpoint does not record comes only after one that was recorded. -/
def Correspondence.Admits (ws : Workspace) (state : Correspondence) (posting : Posting) : Prop :=
  ∀ row, state.db.tickets posting.ticket = some row → posting.unrecorded ws row = true →
    row.firstRespondedAt.isSome = true

instance (ws : Workspace) (state : Correspondence) (posting : Posting) :
    Decidable (state.Admits ws posting) :=
  decidable_of_iff (∀ row ∈ state.db.tickets posting.ticket, posting.unrecorded ws row = true →
    row.firstRespondedAt.isSome = true) Iff.rfl


variable {action : MacroAction}

section Laws

variable {ws : Workspace} {req : Request}

/-! ## What the operations leave alone -/

def SameResponses (db db' : Db) : Prop :=
  ∀ id, (db'.tickets id).map (fun row => (row.createdBy, row.firstRespondedAt)) =
    (db.tickets id).map fun row => (row.createdBy, row.firstRespondedAt)

namespace SameResponses

theorem refl (db : Db) : SameResponses db db := fun _ => rfl

theorem trans {a b c : Db} (first : SameResponses a b) (second : SameResponses b c) :
    SameResponses a c :=
  fun id => (second id).trans (first id)

theorem of_tickets {db db' : Db} (htickets : db'.tickets = db.tickets) : SameResponses db db' := by
  intro id
  rw [htickets]

theorem respected : Respected fun s s' => s'.id = s.id ∧ SameResponses s.db s'.db where
  refl s := ⟨rfl, refl s.db⟩
  trans first second := ⟨second.1.trans first.1, first.2.trans second.2⟩
  log _ _ := ⟨rfl, of_tickets rfl⟩
  modify s _ _ := ⟨rfl, refl s.db⟩

theorem write (clock : Clock) (columns : List Column) (s : Session) :
    SameResponses s.db (write clock columns s).db := by
  cases hrow : s.db.tickets s.id with
  | none =>
    rw [Tickets.write, hrow]
    exact refl s.db
  | some previous =>
    rw [write_of_row hrow]
    intro id
    by_cases hid : id = s.id
    · subst hid
      obtain ⟨resolvedAt, closedAt, breached, hinst⟩ :=
        handleTicketStatusChange_eq clock.preSave previous s.ticket
      simp [Db.updateTicket, hrow, Ticket.persist]
    · simp [Db.updateTicket, Function.update_of_ne hid]

variable (ws) in
theorem save (clock : Clock) (columns : List Column) (s : Session) :
    SameResponses s.db (save ws clock columns s).db :=
  (respected.saveDepth (fun _ _ _ => ⟨rfl, of_tickets rfl⟩)
    (fun columns s => ⟨(write_untouched clock columns s).id, write clock columns s⟩) 2 columns s).2

variable (ws req) in
theorem changeTicketStatus (newStatus : TicketStatus) (s : Session) :
    SameResponses s.db (changeTicketStatus ws req newStatus s).db := by
  have hsaved := save ws req.clock (statusDraft req newStatus s.ticket).updateFields
    (s.modify fun _ => (statusDraft req newStatus s.ticket).ticket)
  unfold Tickets.changeTicketStatus
  dsimp only
  split
  · exact refl s.db
  split
  · exact hsaved.trans (of_tickets rfl)
  · exact hsaved.trans (of_tickets rfl)

variable (ws req) in
theorem changeTicketPriority (newPriority : Priority) (s : Session) :
    SameResponses s.db (changeTicketPriority ws req newPriority s).db := by
  unfold Tickets.changeTicketPriority
  split
  · exact refl s.db
  · exact (save ws req.clock _ (s.modify _)).trans (of_tickets rfl)

theorem applyMacroAction {s s' : Session} (success : applyMacroAction ws req action s = .ok s') :
    SameResponses s.db s'.db := by
  unfold Tickets.applyMacroAction at success
  split at success
  · cases hstatus : ws.statusBySlug ‹String› with
    | none =>
      rw [hstatus] at success
      rw [← Except.ok.inj success]
      exact refl s.db
    | some newStatus =>
      rw [hstatus] at success
      dsimp only at success
      split at success
      · rw [← Except.ok.inj success]
        exact refl s.db
      · rw [(transitionTicketStatus_cases success).2]
        exact changeTicketStatus ws req newStatus s
  · split at success <;> rw [← Except.ok.inj success]
    · exact refl s.db
    · exact changeTicketPriority ws req _ s
  · split at success <;> rw [← Except.ok.inj success]
    · exact refl s.db
    · exact save ws req.clock _ (s.modify _)
  · rw [← Except.ok.inj success]
    exact refl s.db

theorem applyMacro {actions : List MacroAction} {s s' : Session}
    (success : applyMacro ws req actions s = .ok s') : SameResponses s.db s'.db := by
  unfold Tickets.applyMacro at success
  obtain ⟨acted, hacted, success⟩ := bind_eq_ok.mp success
  have hsame : SameResponses s.db acted.db :=
    foldlM_preserves (P := fun t => SameResponses s.db t.db)
      (fun _ _ _ same hok => same.trans (applyMacroAction hok)) (refl s.db) hacted
  split at success
  · cases success
  split at success
  · cases success
  · rw [← Except.ok.inj success]
    exact hsame.trans (of_tickets rfl)

theorem commit (brokerUp : Bool) (db : Db) : SameResponses db (db.commit brokerUp) := by
  refine commit_keeps (fun after _ _ same => same.trans (of_tickets rfl)) ?_ (refl db)
  intro after ticket taskId same
  refine same.trans ?_
  intro id
  rw [setAutoCloseTaskId_tickets]
  split
  · rw [Option.map_map]
    rfl
  · rfl

end SameResponses

/-! ## When a macro succeeds -/

theorem validateStatusTransition_congr {a b : Ticket} (hstatus : a.status = b.status)
    (newStatus : TicketStatus) :
    validateStatusTransition a newStatus = validateStatusTransition b newStatus := by
  unfold validateStatusTransition
  rw [hstatus]

theorem validateStatusTransition_isOk {ticket : Ticket} {newStatus : TicketStatus} :
    (validateStatusTransition ticket newStatus).isOk = true ↔
      validateStatusTransition ticket newStatus = .ok () := by
  rw [isOk_iff]
  exact ⟨fun ⟨_, hok⟩ => hok, fun hok => ⟨(), hok⟩⟩

variable {s s' : Session}

variable (ws req) in
theorem changeTicketStatus_settled (newStatus : TicketStatus) (settled : Settled s) :
    Settled (changeTicketStatus ws req newStatus s) := by
  have holds : Holds (fun _ => True) s := ⟨fun _ _ _ => trivial, settled, trivial⟩
  obtain ⟨row, hrow, -⟩ := settled
  exact (holds.statusChange fun _ =>
    ⟨fun _ _ _ => trivial, saveDraft_settled hrow (.inl status_mem_statusDraft), trivial⟩).settled

/-- An action of a macro that goes through leaves the status it sets, which was allowed. -/
theorem applyMacroAction_follows (settled : Settled s)
    (success : applyMacroAction ws req action s = .ok s') :
    Settled s' ∧ s'.ticket.status = (macroStatus ws action).getD s.ticket.status ∧
      ∀ newStatus, macroStatus ws action = some newStatus →
        validateStatusTransition s.ticket newStatus = .ok () := by
  obtain ⟨newStatus, hstatus, ⟨rfl, rfl⟩ | hchange⟩ | ⟨hstatus, edits⟩ :=
    applyMacroAction_cases success
  · refine ⟨settled, by rw [hstatus]; rfl, ?_⟩
    intro other hother
    rw [hstatus, Option.some.injEq] at hother
    rw [← hother, validateStatusTransition, if_pos rfl]
  · obtain ⟨hvalid, rfl⟩ := transitionTicketStatus_cases hchange
    refine ⟨changeTicketStatus_settled ws req newStatus settled, ?_, ?_⟩
    · rw [changeTicketStatus_status settled, hstatus]
      rfl
    · intro other hother
      rw [hstatus, Option.some.injEq] at hother
      rwa [← hother]
  · have hsame := (edits.keeps (by decide) settled Ticket.status
      (fun _ _ => by simp [Ticket.persist]) (fun _ _ => rfl) fun _ _ _ => rfl).1
    rw [hstatus]
    refine ⟨(edits.settled (by decide) settled).1, hsame, ?_⟩
    intro other hother
    exact absurd hother (Option.some_ne_none other).symm

variable (req) in
theorem applyMacroAction_total
    (hallowed : ∀ newStatus, macroStatus ws action = some newStatus →
      validateStatusTransition s.ticket newStatus = .ok ()) :
    ∃ s', applyMacroAction ws req action s = .ok s' := by
  unfold applyMacroAction
  split
  · rename_i slug haction hvalue
    rw [macroStatus, haction, hvalue] at hallowed
    cases hstatus : ws.statusBySlug slug with
    | none => exact ⟨s, rfl⟩
    | some newStatus =>
      dsimp only
      split
      · exact ⟨s, rfl⟩
      · rw [transitionTicketStatus, hallowed newStatus hstatus]
        exact ⟨_, rfl⟩
  · split <;> exact ⟨_, rfl⟩
  · split <;> exact ⟨_, rfl⟩
  · exact ⟨s, rfl⟩

variable (ws req) in
/-- The actions go through exactly if each of the moves is allowed. -/
theorem applyMacroActions_iff (actions : List MacroAction) (settled : Settled s)
    {ticket : Ticket} (hticket : ticket.status = s.ticket.status) :
    (∃ s', actions.foldlM (fun s action => applyMacroAction ws req action s) s = .ok s') ↔
      macroMoves ws ticket actions = true := by
  induction actions generalizing s ticket with
  | nil => exact ⟨fun _ => rfl, fun _ => ⟨s, rfl⟩⟩
  | cons action rest ih =>
    have hvalid := validateStatusTransition_congr hticket
    rw [macroMoves]
    constructor
    · rintro ⟨s', success⟩
      rw [List.foldlM_cons] at success
      obtain ⟨next, hnext, hrest⟩ := bind_eq_ok.mp success
      obtain ⟨hsettled, hstatus, hallowed⟩ := applyMacroAction_follows settled hnext
      cases hset : macroStatus ws action with
      | none =>
        rw [hset] at hstatus
        exact (ih hsettled (hticket.trans hstatus.symm)).mp ⟨s', hrest⟩
      | some newStatus =>
        rw [hset] at hstatus
        have hok := hallowed newStatus hset
        rw [← hvalid] at hok
        rw [Bool.and_eq_true]
        exact ⟨validateStatusTransition_isOk.mpr hok, (ih hsettled hstatus.symm).mp ⟨s', hrest⟩⟩
    · intro hmoves
      have hallowed : ∀ newStatus, macroStatus ws action = some newStatus →
          validateStatusTransition s.ticket newStatus = .ok () := by
        intro newStatus hset
        rw [hset, Bool.and_eq_true] at hmoves
        rw [← hvalid]
        exact validateStatusTransition_isOk.mp hmoves.1
      obtain ⟨next, hnext⟩ := applyMacroAction_total req hallowed
      obtain ⟨hsettled, hstatus, -⟩ := applyMacroAction_follows settled hnext
      have hrest : ∃ s', rest.foldlM (fun s action => applyMacroAction ws req action s) next =
          .ok s' := by
        cases hset : macroStatus ws action with
        | none =>
          rw [hset] at hstatus hmoves
          exact (ih hsettled (hticket.trans hstatus.symm)).mpr hmoves
        | some newStatus =>
          rw [hset] at hstatus hmoves
          rw [Bool.and_eq_true] at hmoves
          exact (ih hsettled hstatus.symm).mpr hmoves.2
      obtain ⟨s', hs'⟩ := hrest
      exact ⟨s', by rw [List.foldlM_cons]; exact bind_eq_ok.mpr ⟨next, hnext, hs'⟩⟩

variable (ws req) in
/-- `apply_macro` succeeds exactly if its moves are allowed and its keys are there. -/
theorem applyMacro_iff (actions : List MacroAction) (settled : Settled s) :
    (∃ s', applyMacro ws req actions s = .ok s') ↔ macroRuns ws s.ticket actions = true := by
  have hactions := @applyMacroActions_iff ws req s actions settled s.ticket rfl
  rw [macroRuns, Bool.and_eq_true, ← hactions]
  unfold applyMacro
  constructor
  · rintro ⟨s', success⟩
    obtain ⟨acted, hacted, success⟩ := bind_eq_ok.mp success
    refine ⟨⟨acted, hacted⟩, ?_⟩
    split at success
    · cases success
    rename_i hnames
    split at success
    · cases success
    rename_i hvalues
    rw [List.all_eq_true]
    intro action hmem
    simp only [Bool.not_eq_true, List.any_eq_false, Option.isNone_iff_eq_none] at hnames hvalues
    simp [Option.isSome_iff_ne_none, hnames action hmem, hvalues action hmem]
  · rintro ⟨⟨acted, hacted⟩, hkeys⟩
    simp only [List.all_eq_true, Bool.and_eq_true] at hkeys
    refine ⟨acted.log .commented, bind_eq_ok.mpr ⟨acted, hacted, ?_⟩⟩
    rw [if_neg, if_neg]
    · simp only [Bool.not_eq_true, List.any_eq_false]
      intro action hmem
      simpa using (hkeys action hmem).2
    · simp only [Bool.not_eq_true, List.any_eq_false]
      intro action hmem
      simpa using (hkeys action hmem).1

/-! ## One post -/

variable {posting : Posting} {db after : Db}

theorem getObject_eq_ok {work : Session → Except String Session} :
    posting.getObject db work = .ok after ↔
      ∃ ticket s, db.tickets posting.ticket = some ticket ∧
        (ticket.isDeleted && !posting.includeDeleted) = false ∧
        work { db, id := posting.ticket, ticket } = .ok s ∧ s.db = after := by
  rw [Posting.getObject, onTicket_eq_ok]
  constructor
  · rintro ⟨ticket, s, hticket, hwork, hafter⟩
    split at hwork
    · cases hwork
    · rename_i hvisible
      exact ⟨ticket, s, hticket, by simpa using hvisible, hwork, hafter⟩
  · rintro ⟨ticket, s, hticket, hvisible, hwork, hafter⟩
    exact ⟨ticket, s, hticket, by simpa [hvisible] using hwork, hafter⟩

/-- What `record_first_response` leaves of the creators and the first responses. -/
theorem recordFirstResponse_rows (hposting : posting.post.records = true)
    (hpublic : posting.post.isInternal = false) {s : Session} (hid : s.id = posting.ticket)
    (hticket : s.db.tickets s.id = some s.ticket) (id : ℕ) :
    ((recordFirstResponse posting.req s).db.tickets id).map
        (fun row => (row.createdBy, row.firstRespondedAt)) =
      (s.db.tickets id).map fun row =>
        (row.createdBy, row.firstRespondedAt.or (posting.response id row)) := by
  unfold recordFirstResponse Posting.response Reply.answers
  by_cases hother : id = posting.ticket
  · subst hother
    rw [hid] at hticket
    by_cases hanswered : s.ticket.firstRespondedAt.isSome
    · obtain ⟨respondedAt, hresponded⟩ := Option.isSome_iff_exists.mp hanswered
      simp [hresponded, hticket]
    · have hnone : s.ticket.firstRespondedAt = none := by simpa using hanswered
      by_cases hcreator : posting.author = s.ticket.createdBy
      · simp [hnone, hticket, Posting.req, Posting.reply, hcreator]
      · simp [hnone, hticket, hid, hposting, hpublic, hcreator, Posting.req, Posting.reply,
          Session.log, Db.createTicketActivity, Db.updateWhere, Ticket.respond]
  · have hne : posting.ticket ≠ id := fun hsame => hother hsame.symm
    have hsid : id ≠ s.id := by rwa [hid]
    split
    · simp [Posting.reply, hne]
    split
    · simp [Posting.reply, hne]
    · simp [Posting.reply, hne, hsid, Session.log, Db.createTicketActivity, Db.updateWhere]

theorem SameResponses.rows (same : SameResponses db after)
    (hnone : ∀ id row, posting.response id row = none) (id : ℕ) :
    (after.tickets id).map (fun row => (row.createdBy, row.firstRespondedAt)) =
      (db.tickets id).map fun row =>
        (row.createdBy, row.firstRespondedAt.or (posting.response id row)) := by
  rw [same id]
  congr 1
  funext row
  rw [hnone id row, Option.or_none]

theorem attempt_rows (success : posting.attempt ws db = .ok after) (id : ℕ) :
    (after.tickets id).map (fun row => (row.createdBy, row.firstRespondedAt)) =
      (db.tickets id).map fun row =>
        (row.createdBy, row.firstRespondedAt.or (posting.response id row)) := by
  unfold Posting.attempt at success
  cases hpost : posting.post with
  | comments isInternal =>
    rw [hpost] at success
    obtain ⟨ticket, s, hticket, -, hwork, rfl⟩ := getObject_eq_ok.mp success
    rw [← Except.ok.inj hwork]
    cases isInternal with
    | true =>
      refine SameResponses.rows (.of_tickets rfl) (fun id row => ?_) id
      simp [Posting.response, Reply.answers, Posting.reply, hpost, Post.isInternal]
    | false =>
      exact recordFirstResponse_rows (by rw [hpost]; rfl) (by rw [hpost]; rfl) rfl hticket id
  | commentViewSet isInternal =>
    rw [hpost] at success
    obtain ⟨ticket, s, -, hwork, rfl⟩ := onTicket_eq_ok.mp success
    rw [← Except.ok.inj hwork]
    exact SameResponses.rows (.refl db) (fun id row => by simp [Posting.response, hpost,
      Post.records]) id
  | applyMacro actions =>
    rw [hpost] at success
    obtain ⟨ticket, s, -, -, hwork, rfl⟩ := getObject_eq_ok.mp success
    exact SameResponses.rows (.applyMacro hwork) (fun id row => by simp [Posting.response, hpost,
      Post.records]) id
  | sendEmail =>
    rw [hpost] at success
    obtain ⟨ticket, s, hticket, -, hwork, rfl⟩ := getObject_eq_ok.mp success
    rw [← Except.ok.inj hwork]
    exact recordFirstResponse_rows (by rw [hpost]; rfl) (by rw [hpost]; rfl) rfl hticket id

theorem unrecorded_eq {row : Ticket} (hrow : db.tickets posting.ticket = some row) :
    posting.unrecorded ws row =
      (posting.reply.answers posting.ticket row && !posting.post.records &&
        (posting.attempt ws db).isOk) := by
  unfold Posting.unrecorded Posting.attempt
  cases hpost : posting.post with
  | comments isInternal => simp [Post.records]
  | sendEmail => simp [Post.records]
  | commentViewSet isInternal =>
    have hok : (db.onTicket posting.ticket .ok).isOk = true := by
      rw [Db.onTicket, hrow]
      rfl
    simp [Post.records, hok]
  | applyMacro actions =>
    have settled : Settled { db, id := posting.ticket, ticket := row } := ⟨row, hrow, rfl⟩
    have hruns : ((!row.isDeleted || posting.includeDeleted) && macroRuns ws row actions) =
        (posting.getObject db (applyMacro ws posting.req actions)).isOk := by
      rw [Bool.eq_iff_iff, isOk_iff, Bool.and_eq_true, ← applyMacro_iff ws posting.req actions
        settled]
      simp only [getObject_eq_ok]
      constructor
      · rintro ⟨hvisible, s, hok⟩
        refine ⟨s.db, row, s, hrow, ?_, hok, rfl⟩
        rw [Bool.and_eq_false_iff, Bool.not_eq_false']
        rwa [Bool.or_eq_true, Bool.not_eq_true'] at hvisible
      · rintro ⟨after, ticket, s, hticket, hvisible, hok, rfl⟩
        rw [hrow, Option.some.injEq] at hticket
        subst hticket
        refine ⟨?_, s, hok⟩
        rw [Bool.or_eq_true, Bool.not_eq_true']
        rwa [Bool.and_eq_false_iff, Bool.not_eq_false'] at hvisible
    simp [Post.records, hruns]

/-! ## Runs -/

namespace Correspondence

theorem firstAnswer_append (state : Correspondence) (reply : Reply) (after : Db) (id : ℕ)
    (row : Ticket) :
    firstAnswer { db := after, replies := state.replies ++ [reply] } id row =
      (state.firstAnswer id row).or (if reply.answers id row then some reply.sentAt else none) := by
  unfold firstAnswer
  rw [List.find?_append]
  cases hfound : state.replies.find? fun reply => reply.answers id row with
  | none =>
    by_cases hanswers : reply.answers id row
    · simp [hanswers]
    · simp [hanswers]
  | some first => rfl

theorem firstAnswer_congr {state : Correspondence} {id : ℕ} {a b : Ticket}
    (hcreator : a.createdBy = b.createdBy) : state.firstAnswer id a = state.firstAnswer id b := by
  unfold firstAnswer Reply.answers
  rw [hcreator]

theorem post_recorded (state : Correspondence) (posting : Posting) (recorded : state.Recorded) :
    (state.post ws posting).Recorded ↔ state.Admits ws posting := by
  unfold post
  cases hattempt : posting.attempt ws state.db with
  | error message =>
    refine ⟨fun _ row hrow hunrecorded => ?_, fun _ => recorded⟩
    rw [unrecorded_eq hrow, hattempt] at hunrecorded
    simp [Except.isOk, Except.toBool] at hunrecorded
  | ok after =>
    have hrows : ∀ id, ((after.commit posting.brokerUp).tickets id).map
        (fun row => (row.createdBy, row.firstRespondedAt)) =
          (state.db.tickets id).map fun row =>
            (row.createdBy, row.firstRespondedAt.or (posting.response id row)) :=
      fun id => (SameResponses.commit posting.brokerUp after id).trans (attempt_rows hattempt id)
    constructor
    · intro good row hrow hunrecorded
      rw [unrecorded_eq hrow] at hunrecorded
      simp only [Bool.and_eq_true, Bool.not_eq_true'] at hunrecorded
      obtain ⟨⟨hanswers, hrecords⟩, -⟩ := hunrecorded
      have hkept := hrows posting.ticket
      rw [hrow, Option.map_some, Option.map_eq_some_iff] at hkept
      obtain ⟨now, hnow, hfields⟩ := hkept
      rw [Prod.mk.injEq] at hfields
      have hgood := good posting.ticket now hnow
      rw [firstAnswer_append, firstAnswer_congr hfields.1, ← recorded posting.ticket row hrow,
        hfields.2] at hgood
      have hanswersNow : posting.reply.answers posting.ticket now = true := by
        rw [Reply.answers, hfields.1]
        exact hanswers
      by_contra hnone
      rw [Option.not_isSome_iff_eq_none] at hnone
      simp [hnone, hanswersNow, Posting.response, hrecords] at hgood
    · intro admitted id row hrow
      have hkept := hrows id
      rw [hrow, Option.map_some] at hkept
      obtain ⟨before, hbefore, hfields⟩ := Option.map_eq_some_iff.mp hkept.symm
      rw [Prod.mk.injEq] at hfields
      rw [firstAnswer_append, ← firstAnswer_congr hfields.1, ← recorded id before hbefore,
        ← hfields.2, Posting.response]
      have hsame : posting.reply.answers id row = posting.reply.answers id before := by
        rw [Reply.answers, Reply.answers, hfields.1]
      rw [hsame]
      by_cases hanswers : posting.reply.answers id before = true
      · have hid : posting.ticket = id := by
          simp only [Reply.answers, Bool.and_eq_true, beq_iff_eq] at hanswers
          exact hanswers.1.1
        subst hid
        cases hrecords : posting.post.records with
        | true =>
          rw [Bool.true_and]
          rfl
        | false =>
          have hresponded := admitted before hbefore (by
            rw [unrecorded_eq hbefore, hattempt, hanswers, hrecords]
            rfl)
          obtain ⟨respondedAt, hresponded⟩ := Option.isSome_iff_exists.mp hresponded
          simp [hresponded]
      · simp [hanswers]

end Correspondence

/-- The first responses are right throughout a run exactly if each post is admitted. -/
theorem recorded_throughout_iff {start : Correspondence} (fresh : start.Fresh)
    (postings : List Posting) :
    Always (Correspondence.post ws) Correspondence.Recorded start postings ↔
      Every (Correspondence.post ws) (Correspondence.Admits ws) start postings := by
  have initial : start.Recorded := by
    intro id row hrow
    rw [fresh.rows id row hrow, Correspondence.firstAnswer, fresh.replies]
    rfl
  apply always_iff_every (fun _ recorded => recorded) ?_ ?_ initial postings
  · intro state posting recorded admitted
    exact (Correspondence.post_recorded state posting recorded).mpr admitted
  · intro state posting recorded good
    exact (Correspondence.post_recorded state posting recorded).mp good

end Laws

theorem Correspondence.fresh_oneTicket : Fresh { db := .oneTicket } where
  replies := rfl
  rows id row hrow := by
    simp only [Db.oneTicket] at hrow
    split at hrow
    · rw [← Option.some.inj hrow]
    · cases hrow

/-- A comment by its creator, then one by an agent, then one beside the ticket endpoints. -/
def answeredThenCommented : List Posting :=
  [ { ticket := 0, author := 1, post := .commentViewSet false, clock := ⟨10, 10, 10, 10⟩ },
    { ticket := 0, author := 7, post := .comments true, clock := ⟨20, 20, 20, 20⟩ },
    { ticket := 0, author := 7, post := .comments false, clock := ⟨30, 30, 30, 30⟩ },
    { ticket := 0, author := 8, post := .commentViewSet false, clock := ⟨40, 40, 40, 40⟩ } ]

theorem recorded_on_answeredThenCommented :
    Always (Correspondence.post .seeded) Correspondence.Recorded { db := .oneTicket }
      answeredThenCommented ∧
    ((run (Correspondence.post .seeded) { db := .oneTicket } answeredThenCommented).db.tickets
      0).map Ticket.firstRespondedAt = some (some 30) := by
  refine ⟨?_, by decide⟩
  apply (recorded_throughout_iff Correspondence.fresh_oneTicket answeredThenCommented).mpr
  decide

/-- The first public reply of an agent, posted beside the ticket endpoints. -/
def commentedBesideTicket : Posting :=
  { ticket := 0, author := 7, post := .commentViewSet false, clock := ⟨10, 10, 10, 10⟩ }

theorem unrecorded_on_commentedBesideTicket :
    ¬ Always (Correspondence.post .seeded) Correspondence.Recorded { db := .oneTicket }
      [commentedBesideTicket] := by
  rintro ⟨-, good⟩
  have hresponse := good 0 _ rfl
  revert hresponse
  decide

end Kanzan.Tickets

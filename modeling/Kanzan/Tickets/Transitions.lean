import Kanzan.Tickets.Effects

/-!
# The transition map over runs

Every change of a status enters the history.  `Permits` says which changes each
operation may add: those that validate are held to the map, a reply may restore the
status before a wait, and a few go to one status of their own choosing.
-/

namespace Kanzan.Tickets

open Sla Support

variable {ws : Workspace} {req : Request}
variable {db : Db} {newStatus : TicketStatus}

/-- The transition map lists the new slug for the old one, or does not know the old one. -/
def Listed (change : StatusChange) : Prop :=
  ∀ allowed, allowedTransitions change.old.slug = some allowed → change.new.slug ∈ allowed

theorem validateStatusTransition_listed {ticket : Ticket} (id : ℕ)
    (valid : validateStatusTransition ticket newStatus = .ok ())
    (hchanged : ticket.status ≠ newStatus) : Listed ⟨id, ticket.status, newStatus⟩ := by
  intro allowed hallowed
  dsimp only at hallowed
  unfold validateStatusTransition at valid
  dsimp only at valid
  rw [if_neg hchanged, hallowed] at valid
  cases allowed with
  | nil => cases valid
  | cons first rest =>
    dsimp only at valid
    split at valid
    · assumption
    · cases valid

/-! ## Extending the history -/

/-- The history is the given one, followed by changes that are all allowed. -/
def Extends (allowed : StatusChange → Prop) (log : List StatusChange) (db : Db) : Prop :=
  ∃ changes, db.statusLog = log ++ changes ∧ ∀ change ∈ changes, allowed change

/-- The same for a session without a pending status change. -/
structure Extending (allowed : StatusChange → Prop) (log : List StatusChange) (s : Session) :
    Prop where
  history : Extends allowed log s.db
  settled : Settled s

section Extend

variable {allowed : StatusChange → Prop} {log : List StatusChange} {s s' : Session}

theorem Extends.refl (db : Db) : Extends allowed db.statusLog db :=
  ⟨[], (List.append_nil _).symm, fun _ hmem => by cases hmem⟩

theorem Extends.congr {db' : Db} (extends_ : Extends allowed log db)
    (hlog : db'.statusLog = db.statusLog) : Extends allowed log db' := by
  obtain ⟨changes, hchanges, hall⟩ := extends_
  exact ⟨changes, hlog.trans hchanges, hall⟩

theorem Extends.append {db' : Db} (extends_ : Extends allowed log db) {change : StatusChange}
    (hallowed : allowed change) (hlog : db'.statusLog = db.statusLog ++ [change]) :
    Extends allowed log db' := by
  obtain ⟨changes, hchanges, hall⟩ := extends_
  refine ⟨changes ++ [change], by rw [hlog, hchanges, List.append_assoc], ?_⟩
  intro other hmem
  obtain hmem | hmem := List.mem_append.mp hmem
  · exact hall other hmem
  · rw [List.mem_singleton] at hmem
    rwa [hmem]

theorem carried_extends {columns : List Column} (hstatus : .status ∉ columns) :
    Carried ws columns (Extends allowed log) (Extending allowed log) where
  load history hticket := ⟨history, _, hticket, rfl⟩
  store extending := extending.history
  edits edits extending := by
    obtain ⟨hsettled, hlog⟩ := edits.settled hstatus extending.settled
    exact ⟨extending.history.congr hlog, hsettled⟩

theorem Extending.congr (extending : Extending allowed log s)
    (htickets : s'.db.tickets = s.db.tickets) (hlog : s'.db.statusLog = s.db.statusLog)
    (hid : s'.id = s.id) (hticket : s'.ticket = s.ticket) : Extending allowed log s' where
  history := extending.history.congr hlog
  settled := by
    obtain ⟨row, hrow, hstatus⟩ := extending.settled
    exact ⟨row, by rw [htickets, hid, hrow], by rw [hticket, hstatus]⟩

theorem Extending.saveDraft {clock : Clock} {draft : Draft} (extending : Extending allowed log s)
    (hlisted : .status ∈ draft.updateFields ∨ draft.ticket.status = s.ticket.status)
    (hallowed : s.ticket.status ≠ draft.ticket.status →
      allowed ⟨s.id, s.ticket.status, draft.ticket.status⟩) :
    Extending allowed log (saveDraft ws clock draft s) := by
  obtain ⟨row, hrow, hsettled⟩ := extending.settled
  have hstatus : .status ∈ draft.updateFields ∨ row.status = draft.ticket.status :=
    hlisted.imp_right fun hsame => hsettled.trans hsame.symm
  have hlog := saveDraft_statusLog ws clock hrow hstatus
  rw [hsettled] at hlog
  refine ⟨?_, saveDraft_settled hrow hstatus⟩
  split at hlog
  · exact extending.history.congr hlog
  · rename_i hchanged
    exact extending.history.append (hallowed hchanged) hlog

variable (ws req) in
theorem changeTicketStatus_extending (newStatus : TicketStatus) (extending : Extending allowed log s)
    (hallowed : s.ticket.status ≠ newStatus → allowed ⟨s.id, s.ticket.status, newStatus⟩) :
    Extending allowed log (changeTicketStatus ws req newStatus s) := by
  unfold changeTicketStatus
  dsimp only
  split
  · exact extending
  have hsaved : Extending allowed log (saveDraft ws req.clock (statusDraft req newStatus s.ticket) s) :=
    extending.saveDraft (.inl status_mem_statusDraft) (by rwa [statusDraft_status])
  split <;> exact hsaved.congr rfl rfl rfl rfl

theorem transitionTicketStatus_extending (extending : Extending allowed log s)
    (hallowed : ∀ change, Listed change → allowed change)
    (success : transitionTicketStatus ws req newStatus s = .ok s') : Extending allowed log s' := by
  obtain ⟨hvalid, rfl⟩ := transitionTicketStatus_cases success
  exact changeTicketStatus_extending _ _ newStatus extending fun hchanged =>
    hallowed _ (validateStatusTransition_listed s.id hvalid hchanged)

end Extend

/-! ## What each operation may add -/

/-- A reply reopens a resolved ticket, and takes a waiting one back to where it was. -/
def ReplyPermits (ws : Workspace) (row : Ticket) (change : StatusChange) : Prop :=
  change.old = row.status ∧
    if row.status.slug = "resolved" then change.new.slug = "open"
    else row.status.pausesSla = true ∧
      (usablePreWait ws row = some change.new ∨ change.new.slug = "open")

/--
The changes that an operation may make.  Nothing is said of the three that write a
status without consulting the map.
-/
def Permits (ws : Workspace) (db : Db) (op : Op) (change : StatusChange) : Prop :=
  match op with
  | .transitionTicketStatus .. | .closeTicket .. | .applyMacro .. => Listed change
  | .addReplyToTicket id _ => ∃ row, db.tickets id = some row ∧ ReplyPermits ws row change
  | .assignTicket .. =>
    change.old.isDefault = true ∧ change.old.isClosed = false ∧ change.new.slug = "in-progress"
  | .mergeTickets .. => ws.closedStatus = some change.new
  | .autoCloseTicket .. => change.old.slug = "resolved" ∧ ws.closedStatus = some change.new
  | .bulkChangeStatus .. | .moveCard .. | .transitionPipelineStage .. => True
  | _ => False

section Operations

variable {log : List StatusChange} {s s' : Session}
variable {allowed : StatusChange → Prop}

theorem replyTarget_permitted {row : Ticket} {target : TicketStatus} (id : ℕ)
    (htarget : replyTarget ws row = some target) :
    ReplyPermits ws row ⟨id, row.status, target⟩ := by
  refine ⟨rfl, ?_⟩
  dsimp only
  unfold replyTarget at htarget
  split
  · rename_i hresolved
    rw [if_pos hresolved] at htarget
    exact ws.statusBySlug_slug htarget
  rename_i hresolved
  rw [if_neg hresolved] at htarget
  split at htarget
  · rename_i hpauses
    refine ⟨hpauses, ?_⟩
    unfold resumeTarget at htarget
    split at htarget
    · rename_i restored hrestored
      rw [hrestored, htarget]
      exact .inl rfl
    · exact .inr (ws.statusBySlug_slug htarget)
  · cases htarget

theorem addReplyToTicket_extending (inbound : InboundReply) (extending : Extending allowed log s)
    (hallowed : ∀ change, ReplyPermits ws s.ticket change → allowed change) :
    Extending allowed log (addReplyToTicket ws req inbound s) := by
  have hquiet := resumeForReply_quiet ws req inbound extending.settled
  have hresumed : Extending allowed log (s.resumeForReply ws req inbound) :=
    ⟨extending.history.congr hquiet.statusLog, hquiet.settled extending.settled⟩
  rw [addReplyToTicket_eq, replyTarget_resumeForReply inbound extending.settled]
  split
  · exact extending
  unfold changeStatusTo
  split
  · exact hresumed
  · rename_i target htarget
    apply changeTicketStatus_extending _ _ target hresumed
    intro _
    rw [eq_of_core hquiet.core Ticket.status (fun _ => rfl)]
    exact hallowed _ (replyTarget_permitted _ htarget)

theorem assignTicket_extending {assignee : ℕ} {note : String} (extending : Extending allowed log s)
    (hallowed : ∀ change : StatusChange, change.old.isDefault = true →
      change.old.isClosed = false → change.new.slug = "in-progress" → allowed change)
    (success : assignTicket ws req assignee note s = .ok s') : Extending allowed log s' := by
  obtain ⟨-, events, rfl⟩ := assignTicket_cases success
  have hsaved : Extending allowed log
      (saveDraft ws req.clock (assignDraft ws req assignee s.ticket) s) := by
    apply extending.saveDraft
    · cases htarget : autoTransition ws s.ticket.status with
      | none => exact .inr (by simp [assignDraft, htarget])
      | some target => exact .inl (by simp [assignDraft, htarget])
    · cases htarget : autoTransition ws s.ticket.status with
      | none => simp [assignDraft, htarget]
      | some target =>
        intro _
        obtain ⟨hdefault, hopen, -, hslug⟩ := autoTransition_eq_some htarget
        simpa [assignDraft, htarget] using hallowed ⟨s.id, _, _⟩ hdefault hopen hslug
  have hrecorded : Extending allowed log ((saveDraft ws req.clock
      (assignDraft ws req assignee s.ticket) s).recordAssignment assignee req.actor note) :=
    hsaved.congr rfl rfl rfl rfl
  refine List.foldlRecOn _ _ hrecorded ?_
  intro t extending event _
  exact extending.congr rfl rfl rfl rfl

theorem mergeTickets_extending {primary : ℕ} (extending : Extending allowed log s)
    (hallowed : ∀ change : StatusChange, ws.closedStatus = some change.new → allowed change)
    (success : mergeTickets ws req primary s = .ok s') : Extending allowed log s' := by
  obtain ⟨-, rfl⟩ := mergeTickets_cases success
  have hmoved : Extending allowed log { s with db := s.db.moveActivities s.id primary } :=
    extending.congr rfl rfl rfl rfl
  have hsaved : Extending allowed log (saveDraft ws req.clock (mergeDraft ws req primary s.ticket)
      { s with db := s.db.moveActivities s.id primary }) := by
    apply hmoved.saveDraft
    · exact .inl (List.mem_cons_self ..)
    · intro hchanged
      apply hallowed
      cases hclosed : ws.closedStatus with
      | none => simp [mergeDraft, hclosed] at hchanged
      | some closedStatus => simp [mergeDraft, hclosed]
  exact hsaved.congr rfl rfl rfl rfl

theorem autoCloseTicket_extends (taskId : ℕ) (extending : Extending allowed log s)
    (hallowed : ∀ change : StatusChange, change.old.slug = "resolved" →
      ws.closedStatus = some change.new → allowed change) :
    Extends allowed log (autoCloseTicket ws req taskId s).db := by
  unfold autoCloseTicket
  split
  · exact extending.history
  rename_i hresolved
  split
  · exact extending.history
  split
  · exact extending.history
  · rename_i closedStatus hclosed
    have hclosing := changeTicketStatus_extending ws req closedStatus extending
      fun _ => hallowed ⟨s.id, s.ticket.status, closedStatus⟩ (not_not.mp hresolved) hclosed
    exact hclosing.history.congr rfl

end Operations

/-! ## Runs -/

def StepPermitted (ws : Workspace) (db : Db) (event : Event) : Prop :=
  Extends (Permits ws db event.op) db.statusLog (step ws db event)

/-- An operation adds to the history only what it may add. -/
theorem attempt_permitted {after : Db} {op : Op} (success : attempt ws req op db = .ok after) :
    Extends (Permits ws db op) db.statusLog after := by
  have hcarried : ∀ columns, Neutral columns → Carried ws columns
      (Extends (Permits ws db op) db.statusLog) (Extending (Permits ws db op) db.statusLog) :=
    fun _ neutral => carried_extends neutral.status_notMem
  have hstart : Extends (Permits ws db op) db.statusLog db := Extends.refl db
  rcases hcolumns : op.columns with _ | columns
  swap
  · exact (hcarried columns (Op.columns_neutral hcolumns)).attempt hcolumns hstart success
  by_cases hcreation : op.isCreation = true
  · obtain ⟨id, ticket, status, t, -, -, -, edits, rfl⟩ := creation_cases hcreation success
    have hinserted : Extending (Permits ws db op) db.statusLog
        { db := db.insertTicket id ticket, id, ticket } :=
      ⟨hstart, ticket, Function.update_self .., rfl⟩
    exact ((hcarried creationColumns (by decide)).edits edits hinserted).history
  cases hop : op <;> rw [hop] at success hcolumns hcreation hcarried hstart <;>
    simp only [Op.columns, Op.isCreation, not_true_eq_false, reduceCtorEq] at *
  case transitionTicketStatus id newStatus =>
    exact (hcarried [] (by decide)).onTicket
      (fun _ _ extending hok => transitionTicketStatus_extending extending (fun _ listed => listed) hok)
      hstart success
  case bulkChangeStatus id newStatus =>
    exact (hcarried [] (by decide)).onTicket_ok
      (fun _ extending => changeTicketStatus_extending _ _ newStatus extending fun _ => trivial)
      hstart success
  case moveCard id column isSameColumn =>
    refine (hcarried [] (by decide)).onTicket (fun s t extending hok => ?_) hstart success
    obtain rfl | ⟨newStatus, -, -, rfl⟩ := moveCard_cases hok
    · exact extending
    · exact changeTicketStatus_extending _ _ newStatus extending fun _ => trivial
  case closeTicket id =>
    refine (hcarried [] (by decide)).onTicket (fun s t extending hok => ?_) hstart success
    obtain rfl | ⟨newStatus, -, -, hvalid, rfl⟩ := closeTicket_cases hok
    · exact extending
    · exact changeTicketStatus_extending _ _ newStatus extending
        fun hchanged => validateStatusTransition_listed s.id hvalid hchanged
  case assignTicket id assignee note =>
    exact (hcarried [] (by decide)).onTicket
      (fun _ _ extending hok => assignTicket_extending extending
        (fun _ hdefault hopen hslug => ⟨hdefault, hopen, hslug⟩) hok) hstart success
  case mergeTickets primary secondary =>
    dsimp only [attempt] at success
    split at success
    · cases success
    · exact (hcarried [] (by decide)).onTicket
        (fun _ _ extending hok => mergeTickets_extending extending (fun _ hclosed => hclosed) hok)
        hstart success
  case transitionPipelineStage id newStage reason =>
    refine (hcarried [] (by decide)).onTicket (fun s t extending hok => ?_) hstart success
    obtain rfl | ⟨-, rfl⟩ := transitionPipelineStage_cases hok
    · exact extending
    · exact (extending.saveDraft stageDraft_listed fun _ => trivial).congr rfl rfl rfl rfl
  case applyMacro id actions =>
    exact (hcarried [] (by decide)).onTicket
      (fun _ _ extending hok => applyMacro_keeps (hcarried _ (by decide))
        (fun _ _ _ extending hok => transitionTicketStatus_extending extending
          (fun _ listed => listed) hok) extending hok) hstart success
  case autoCloseTicket id taskId =>
    dsimp only [attempt] at success
    obtain ⟨ticket, t, hticket, hok, rfl⟩ := onTicket_eq_ok.mp success
    rw [← Except.ok.inj hok]
    exact autoCloseTicket_extends taskId ((hcarried [] (by decide)).load hstart hticket)
      fun _ hresolved hclosed => ⟨hresolved, hclosed⟩
  case addReplyToTicket id inbound =>
    dsimp only [attempt] at success
    obtain ⟨ticket, t, hticket, hok, rfl⟩ := onTicket_eq_ok.mp success
    rw [← Except.ok.inj hok]
    exact (addReplyToTicket_extending inbound ((hcarried [] (by decide)).load hstart hticket)
      fun _ permits => ⟨ticket, hticket, permits⟩).history
  case checkTenantSla clocks now =>
    rw [← Except.ok.inj success]
    exact (hcarried Carried.scanColumns scanColumns_neutral).checkTenantSla
      (fun _ _ extending => extending.congr rfl rfl rfl rfl) clocks now hstart

theorem step_permitted (db : Db) (event : Event) : StepPermitted ws db event := by
  apply step_preserves (P := Extends (Permits ws db event.op) db.statusLog) (Extends.refl db)
  intro after success
  exact commit_keeps (fun _ _ _ history => history.congr rfl) (fun _ _ _ history => history.congr rfl)
    (attempt_permitted success)

/-- In every run each step changes statuses only as its operation permits. -/
theorem changes_are_permitted (ws : Workspace) (events : List Event) :
    Every (step ws) (StepPermitted ws) Db.empty events :=
  every_of_forall step_permitted Db.empty events

/-- Every recorded change is listed in the transition map. -/
def ChangesListed (db : Db) : Prop := ∀ change ∈ db.statusLog, Listed change

/-- A status of the tenant's own, which the map does not know. -/
def investigatingStatus : TicketStatus :=
  { pk := 6, name := "Investigating", slug := "investigating", order := 25 }

/-- A tenant that investigates, and pauses the clock while it waits. -/
def Workspace.investigating : Workspace :=
  { Workspace.seeded with
    statuses :=
      [ { pk := 0, name := "Open", slug := "open", order := 10, isDefault := true },
        investigatingStatus, waitingStatus ] }

/-- A ticket under investigation waits for its customer, whose reply takes it back. -/
def restoredTicket : List Event :=
  [ { op := .createTicket 1 { id := 0, status := some investigatingStatus },
      req := { clock := ⟨0, 0, 0, 0⟩, actor := some 1 } },
    { op := .transitionTicketStatus 0 waitingStatus,
      req := { clock := ⟨30, 30, 30, 30⟩, actor := some 1 } },
    { op := .addReplyToTicket 0 {}, req := { clock := ⟨60, 60, 60, 60⟩ } } ]

theorem changes_not_listed_on_restoredTicket :
    ¬ Always (step .investigating) ChangesListed Db.empty restoredTicket := by
  intro always
  have hchange : (⟨0, waitingStatus, investigatingStatus⟩ : StatusChange) ∈
      (run (step .investigating) Db.empty restoredTicket).statusLog := by
    decide +kernel
  have hlisted := always.finish _ hchange _ rfl
  revert hlisted
  decide

end Kanzan.Tickets

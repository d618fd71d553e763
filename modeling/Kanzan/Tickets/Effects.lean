import Kanzan.Tickets.Edits

/-!
# What the operations do to the rows

A property of single rows is carried through saves by `Holds`.  Every operation that
can write a status is taken apart into the draft it saves and the bookkeeping around it.
-/

namespace Kanzan.Tickets

open Sla Support

variable {ws : Workspace} {req : Request}

/-! ## Properties of all rows -/

def Rows (P : Ticket → Prop) (db : Db) : Prop := ∀ id row, db.tickets id = some row → P row

def IgnoresClock (P : Ticket → Prop) : Prop :=
  ∀ a b : Ticket, a.core = b.core → P b → P a

/-- Rows and instance have the property, and no status change is pending. -/
structure Holds (P : Ticket → Prop) (s : Session) : Prop where
  rows : Rows P s.db
  settled : Settled s
  ticket : P s.ticket

section Carry

variable {P : Ticket → Prop} {clock : Clock} {columns : List Column} {s : Session}

theorem Rows.update {db : Db} {id : ℕ} {row : Ticket} (rows : Rows P db) (hrow : P row) :
    ∀ other stored, Function.update db.tickets id (some row) other = some stored → P stored := by
  intro other stored hstored
  by_cases hother : other = id
  · subst hother
    rw [Function.update_self, Option.some.injEq] at hstored
    rwa [← hstored]
  · rw [Function.update_of_ne hother] at hstored
    exact rows other stored hstored

theorem Rows.updateWhere {db : Db} (rows : Rows P db) {id : ℕ} {edit : Ticket → Ticket}
    (hedit : ∀ row, P row → P (edit row)) : Rows P (db.updateWhere id edit) := by
  intro other stored hstored
  dsimp only [Db.updateWhere] at hstored
  split at hstored
  · obtain ⟨before, hbefore, rfl⟩ := Option.map_eq_some_iff.mp hstored
    exact hedit before (rows other before hbefore)
  · exact rows other stored hstored

theorem Holds.load {db : Db} {id : ℕ} {ticket : Ticket} (rows : Rows P db)
    (hticket : db.tickets id = some ticket) : Holds P { db, id, ticket } where
  rows := rows
  settled := ⟨ticket, hticket, rfl⟩
  ticket := rows id ticket hticket

theorem Holds.congr {s' : Session} (holds : Holds P s) (htickets : s'.db.tickets = s.db.tickets)
    (hid : s'.id = s.id) (hticket : s'.ticket = s.ticket) : Holds P s' where
  rows := by
    intro id row hrow
    rw [htickets] at hrow
    exact holds.rows id row hrow
  settled := by
    obtain ⟨row, hrow, hstatus⟩ := holds.settled
    exact ⟨row, by rw [htickets, hid, hrow], by rw [hticket, hstatus]⟩
  ticket := by rw [hticket]; exact holds.ticket

theorem Holds.log (holds : Holds P s) (event : ActivityEvent) : Holds P (s.log event) :=
  holds.congr rfl rfl rfl

theorem Holds.of_save (ignores : IgnoresClock P) (rows : Rows P s.db) {previous : Ticket}
    (hrow : s.db.tickets s.id = some previous)
    (hstatus : .status ∈ columns ∨ previous.status = s.ticket.status)
    (hwritten : P ((handleTicketStatusChange clock.preSave previous s.ticket).persist
      columns previous))
    (hinst : P (handleTicketStatusChange clock.preSave previous s.ticket)) :
    Holds P (save ws clock columns s) where
  rows := by
    have huntouched := save_untouched ws clock columns s
    obtain ⟨written, hsaved, hcore⟩ := save_row ws clock hrow hstatus
    intro id row hstored
    by_cases hid : id = s.id
    · subst hid
      rw [hsaved, Option.some.injEq] at hstored
      rw [← hstored]
      exact ignores _ _ hcore hwritten
    · rw [huntouched.others id hid] at hstored
      exact rows id row hstored
  settled := save_settled hrow hstatus
  ticket := ignores _ _ (save_instance _ _ hrow hstatus) hinst

theorem Holds.save_edit (ignores : IgnoresClock P) (holds : Holds P s) (edit : Ticket → Ticket)
    (hstatus : (edit s.ticket).status = s.ticket.status) (hedit : P (edit s.ticket))
    (hpersist : ∀ row, P row → P ((edit s.ticket).persist columns row)) :
    Holds P (save ws clock columns (s.modify edit)) := by
  obtain ⟨row, hrow, hsettled⟩ := holds.settled
  have hsame : row.status = (s.modify edit).ticket.status := hsettled.trans hstatus.symm
  refine Holds.of_save (s := s.modify edit) ignores holds.rows hrow (.inr hsame) ?_ ?_
  · rw [handleTicketStatusChange_of_same hsame]
    exact hpersist row (holds.rows s.id row hrow)
  · rw [handleTicketStatusChange_of_same hsame]
    exact hedit

end Carry

/-! ## Saving a draft -/

section SaveDraft

variable {clock : Clock} {draft : Draft} {s : Session} {previous : Ticket}

variable (ws clock) in
theorem saveDraft_untouched (draft : Draft) (s : Session) :
    Untouched s (saveDraft ws clock draft s) :=
  (Untouched.modify s fun _ => draft.ticket).trans (save_untouched _ _ _ _)

variable (ws clock draft) in
theorem saveDraft_row (hrow : s.db.tickets s.id = some previous)
    (hlisted : .status ∈ draft.updateFields ∨ previous.status = draft.ticket.status) :
    ∃ row, (saveDraft ws clock draft s).db.tickets s.id = some row ∧
      row.core = ((handleTicketStatusChange clock.preSave previous draft.ticket).persist
        draft.updateFields previous).core :=
  save_row _ _ (s := s.modify fun _ => draft.ticket) hrow hlisted

theorem saveDraft_settled (hrow : s.db.tickets s.id = some previous)
    (hlisted : .status ∈ draft.updateFields ∨ previous.status = draft.ticket.status) :
    Settled (saveDraft ws clock draft s) :=
  save_settled (s := s.modify fun _ => draft.ticket) hrow hlisted

variable (ws clock draft) in
theorem saveDraft_status (hrow : s.db.tickets s.id = some previous)
    (hlisted : .status ∈ draft.updateFields ∨ previous.status = draft.ticket.status) :
    (saveDraft ws clock draft s).ticket.status = draft.ticket.status := by
  have hcore := save_instance ws clock (s := s.modify fun _ => draft.ticket) hrow hlisted
  exact (eq_of_core hcore Ticket.status (fun _ => rfl)).trans (handleTicketStatusChange_status ..)

variable (ws clock) in
theorem saveDraft_statusLog (hrow : s.db.tickets s.id = some previous)
    (hlisted : .status ∈ draft.updateFields ∨ previous.status = draft.ticket.status) :
    (saveDraft ws clock draft s).db.statusLog =
      if previous.status = draft.ticket.status then s.db.statusLog
      else s.db.statusLog ++ [⟨s.id, previous.status, draft.ticket.status⟩] :=
  save_statusLog (s := s.modify fun _ => draft.ticket) hrow hlisted

end SaveDraft

/-! ## The row after a status change -/

def closureStamp (now : Instant) (oldStatus newStatus : TicketStatus) (stamp : Option Instant) :
    Option Instant :=
  if newStatus.isClosed && !oldStatus.isClosed then some (stamp.getD now)
  else if oldStatus.isClosed && !newStatus.isClosed then none
  else stamp

section Draft

variable {now : Instant} {oldStatus newStatus : TicketStatus} {draft : Draft} {column : Column}

theorem snapshotPreWait_ticket :
    ∃ preWait, (draft.snapshotPreWait oldStatus newStatus).ticket =
      { draft.ticket with preWaitStatus := preWait } := by
  unfold Draft.snapshotPreWait
  split
  · exact ⟨_, rfl⟩
  split <;> exact ⟨_, rfl⟩

theorem trackResolved_ticket :
    (draft.trackResolved now oldStatus newStatus).ticket =
      { draft.ticket with
        solvedAt :=
          if resolvedEdge oldStatus newStatus then some now
          else if resolvedEdge newStatus oldStatus then none else draft.ticket.solvedAt
        autoCloseTaskId :=
          if resolvedEdge newStatus oldStatus then none else draft.ticket.autoCloseTaskId } := by
  unfold Draft.trackResolved
  by_cases hresolved : resolvedEdge oldStatus newStatus
  · have hnot : ¬ resolvedEdge newStatus oldStatus := fun hback => hback.2 hresolved.1
    simp [hresolved, hnot]
  · by_cases hback : resolvedEdge newStatus oldStatus <;> simp [hresolved, hback]

theorem stampClosure_ticket :
    (draft.stampClosure now oldStatus newStatus).ticket =
      { draft.ticket with
        resolvedAt := closureStamp now oldStatus newStatus draft.ticket.resolvedAt
        closedAt := closureStamp now oldStatus newStatus draft.ticket.closedAt } := by
  unfold Draft.stampClosure closureStamp
  split
  · rfl
  split <;> rfl

theorem flagBreach_ticket :
    ∃ breached, (draft.flagBreach now oldStatus newStatus).ticket =
      { draft.ticket with slaResolutionBreached := breached } := by
  unfold Draft.flagBreach
  split
  · exact checkResolutionBreach_eq draft.ticket now
  · exact ⟨_, rfl⟩

theorem mem_snapshotPreWait :
    column ∈ (draft.snapshotPreWait oldStatus newStatus).updateFields ↔
      column ∈ draft.updateFields ∨
        (column = .preWaitStatus ∧ oldStatus.pausesSla ≠ newStatus.pausesSla) := by
  unfold Draft.snapshotPreWait
  cases oldStatus.pausesSla <;> cases newStatus.pausesSla <;> simp

theorem mem_trackResolved :
    column ∈ (draft.trackResolved now oldStatus newStatus).updateFields ↔
      column ∈ draft.updateFields ∨
        (column = .solvedAt ∧
          (resolvedEdge oldStatus newStatus ∨ resolvedEdge newStatus oldStatus)) ∨
        (column = .autoCloseTaskId ∧ resolvedEdge newStatus oldStatus) := by
  unfold Draft.trackResolved resolvedEdge
  by_cases hold : oldStatus.slug = "resolved" <;> by_cases hnew : newStatus.slug = "resolved" <;>
    simp [hold, hnew]

theorem mem_stampClosure :
    column ∈ (draft.stampClosure now oldStatus newStatus).updateFields ↔
      column ∈ draft.updateFields ∨
        ((column = .resolvedAt ∨ column = .closedAt) ∧ oldStatus.isClosed ≠ newStatus.isClosed) := by
  unfold Draft.stampClosure
  cases oldStatus.isClosed <;> cases newStatus.isClosed <;> simp

theorem mem_flagBreach (hcolumn : column ≠ .slaResolutionBreached) :
    column ∈ (draft.flagBreach now oldStatus newStatus).updateFields ↔
      column ∈ draft.updateFields := by
  unfold Draft.flagBreach
  split
  · dsimp only
    split <;> simp [hcolumn]
  · rfl

end Draft

section Written

variable {newStatus : TicketStatus} {inst previous : Ticket} {column : Column}

variable (req newStatus inst) in
/-- The instance that `change_ticket_status` saves, field by field. -/
theorem statusDraft_ticket :
    ∃ preWait breached, (statusDraft req newStatus inst).ticket =
      { inst with
        status := newStatus
        statusChangedAt := some req.clock.service
        statusChangedBy := req.actor
        preWaitStatus := preWait
        solvedAt :=
          if resolvedEdge inst.status newStatus then some req.clock.service
          else if resolvedEdge newStatus inst.status then none else inst.solvedAt
        autoCloseTaskId :=
          if resolvedEdge newStatus inst.status then none else inst.autoCloseTaskId
        resolvedAt := closureStamp req.clock.service inst.status newStatus inst.resolvedAt
        closedAt := closureStamp req.clock.service inst.status newStatus inst.closedAt
        slaResolutionBreached := breached } := by
  unfold statusDraft
  dsimp only
  obtain ⟨breached, hflag⟩ := flagBreach_ticket
  rw [hflag, stampClosure_ticket, trackResolved_ticket]
  obtain ⟨preWait, hsnapshot⟩ := snapshotPreWait_ticket
  rw [hsnapshot]
  exact ⟨preWait, breached, rfl⟩

variable (column) in
/-- The columns that `change_ticket_status` saves, its breach flag apart. -/
theorem mem_statusDraft (hcolumn : column ≠ .slaResolutionBreached) :
    column ∈ (statusDraft req newStatus inst).updateFields ↔
      column ∈ ([.status, .statusChangedAt, .statusChangedBy, .updatedAt] : List Column) ∨
      (column = .preWaitStatus ∧ inst.status.pausesSla ≠ newStatus.pausesSla) ∨
      (column = .solvedAt ∧
        (resolvedEdge inst.status newStatus ∨ resolvedEdge newStatus inst.status)) ∨
      (column = .autoCloseTaskId ∧ resolvedEdge newStatus inst.status) ∨
      ((column = .resolvedAt ∨ column = .closedAt) ∧
        inst.status.isClosed ≠ newStatus.isClosed) := by
  unfold statusDraft
  dsimp only
  rw [mem_flagBreach hcolumn, mem_stampClosure, mem_trackResolved, mem_snapshotPreWait]
  tauto

@[simp]
theorem statusDraft_status : (statusDraft req newStatus inst).ticket.status = newStatus := by
  obtain ⟨preWait, breached, hdraft⟩ := statusDraft_ticket req _ _
  rw [hdraft]

theorem status_mem_statusDraft : .status ∈ (statusDraft req newStatus inst).updateFields := by
  rw [mem_statusDraft .status (by decide)]
  exact .inl (by decide)

/-- What the save of a status change keeps, the whole of `change_ticket_status` keeps. -/
theorem Holds.statusChange {P : Ticket → Prop} {s : Session} (holds : Holds P s)
    (hsaved : s.ticket.status ≠ newStatus →
      Holds P (saveDraft ws req.clock (statusDraft req newStatus s.ticket) s)) :
    Holds P (changeTicketStatus ws req newStatus s) := by
  unfold Tickets.changeTicketStatus
  dsimp only
  split
  · exact holds
  · rename_i hchanged
    split
    · exact (hsaved hchanged).congr rfl rfl rfl
    · exact (hsaved hchanged).log _

/-- After `change_ticket_status` the instance has the new status. -/
theorem changeTicketStatus_status {s : Session} (settled : Settled s) :
    (changeTicketStatus ws req newStatus s).ticket.status = newStatus := by
  unfold changeTicketStatus
  dsimp only
  split
  · assumption
  · obtain ⟨row, hrow, -⟩ := settled
    have hstatus := saveDraft_status ws req.clock (statusDraft req newStatus s.ticket) hrow
      (.inl status_mem_statusDraft)
    rw [statusDraft_status] at hstatus
    split <;> exact hstatus

variable (ws req newStatus) in
/-- What `change_ticket_status` does outside the ticket's row and pauses: it may register
the hook of a resolution. -/
theorem changeTicketStatus_onCommit (s : Session) :
    (changeTicketStatus ws req newStatus s).db.onCommit =
      if resolvedEdge s.ticket.status newStatus then s.db.onCommit ++ [s.id]
      else s.db.onCommit := by
  have huntouched := saveDraft_untouched ws req.clock
    (statusDraft req newStatus s.ticket) s
  unfold changeTicketStatus
  dsimp only
  split
  · rename_i hsame
    rw [if_neg]
    rw [← hsame]
    exact fun hedge => hedge.2 hedge.1
  split
  · exact congrArg₂ (fun hooks id => hooks ++ [id]) huntouched.onCommit huntouched.id
  · exact huntouched.onCommit

variable (ws req newStatus) in
@[simp]
theorem changeTicketStatus_id (s : Session) : (changeTicketStatus ws req newStatus s).id = s.id := by
  have huntouched := saveDraft_untouched ws req.clock
    (statusDraft req newStatus s.ticket) s
  unfold changeTicketStatus
  dsimp only
  split
  · rfl
  split <;> exact huntouched.id

end Written

theorem autoTransition_eq_some {status target : TicketStatus}
    (h : autoTransition ws status = some target) :
    status.isDefault = true ∧ status.isClosed = false ∧ target ≠ status ∧
      target.slug = "in-progress" := by
  unfold autoTransition at h
  split at h
  · rename_i hshould
    obtain ⟨htarget, hne⟩ := Option.filter_eq_some_iff.mp h
    simp only [Bool.and_eq_true, Bool.not_eq_eq_eq_not, Bool.not_true] at hshould
    exact ⟨hshould.1.2, hshould.2, by simpa using hne, ws.statusBySlug_slug htarget⟩
  · cases h

theorem transitionTicketStatus_cases {newStatus : TicketStatus} {s s' : Session}
    (success : transitionTicketStatus ws req newStatus s = .ok s') :
    validateStatusTransition s.ticket newStatus = .ok () ∧
      s' = changeTicketStatus ws req newStatus s := by
  unfold transitionTicketStatus at success
  split at success
  · cases success
  · rename_i hvalid
    exact ⟨hvalid, (Except.ok.inj success).symm⟩

theorem closeTicket_cases {s s' : Session} (success : closeTicket ws req s = .ok s') :
    s' = s ∨ ∃ newStatus, s.ticket.status.isClosed = false ∧
      ws.closedStatus = some newStatus ∧
      validateStatusTransition s.ticket newStatus = .ok () ∧
      s' = changeTicketStatus ws req newStatus s := by
  unfold closeTicket at success
  split at success
  · exact .inl (Except.ok.inj success).symm
  rename_i hopen
  split at success
  · cases success
  · rename_i closedStatus hclosed
    exact .inr ⟨closedStatus, by simpa using hopen, hclosed, transitionTicketStatus_cases success⟩

theorem moveCard_cases {column : KanbanColumn} {isSameColumn : Bool} {s s' : Session}
    (success : moveCard ws req column isSameColumn s = .ok s') :
    s' = s ∨ ∃ newStatus, column.isPersonal = false ∧ column.status = some newStatus ∧
      s' = changeTicketStatus ws req newStatus s := by
  unfold moveCard at success
  split at success
  · cases success
  split at success
  · exact .inl (Except.ok.inj success).symm
  rename_i newStatus hcolumn
  split at success
  · exact .inl (Except.ok.inj success).symm
  · rename_i hmoves
    simp only [Bool.or_eq_true, decide_eq_true_eq, not_or, Bool.not_eq_true] at hmoves
    exact .inr ⟨newStatus, hmoves.1, hcolumn, (Except.ok.inj success).symm⟩

theorem transitionPipelineStage_cases {newStage : PipelineStage} {reason : String}
    {s s' : Session} (success : transitionPipelineStage ws req newStage reason s = .ok s') :
    s' = s ∨ (entersStage newStage s.ticket = true ∧
      s' = (saveDraft ws req.clock (stageDraft ws req newStage reason s.ticket) s).log
        .pipelineStageChanged) := by
  unfold transitionPipelineStage at success
  dsimp only at success
  split at success
  · cases success
  rename_i hpipeline
  split at success
  · exact .inl (Except.ok.inj success).symm
  rename_i hstage
  refine .inr ⟨?_, (Except.ok.inj success).symm⟩
  rw [Bool.not_eq_true] at hpipeline
  rw [entersStage, hpipeline]
  simp [hstage]

variable (ws req) in
/-- A stage is entered with its status; beside these only their stamps and the ends change. -/
theorem stageDraft_eq (newStage : PipelineStage) (reason : String) (ticket : Ticket) :
    ∃ wonAt wonReason lostAt lostReason statusChangedAt statusChangedBy,
      (stageDraft ws req newStage reason ticket).ticket =
        { ticket with
          pipelineStage := some newStage
          status := (stageTarget ws newStage ticket.status).getD ticket.status
          wonAt, wonReason, lostAt, lostReason, statusChangedAt, statusChangedBy } := by
  unfold stageDraft
  cases stageTarget ws newStage ticket.status <;> cases newStage.isWon <;>
    cases newStage.isLost <;> exact ⟨_, _, _, _, _, _, rfl⟩

@[simp]
theorem stageDraft_status {newStage : PipelineStage} {reason : String} {ticket : Ticket} :
    (stageDraft ws req newStage reason ticket).ticket.status =
      (stageTarget ws newStage ticket.status).getD ticket.status := by
  obtain ⟨_, _, _, _, _, _, hdraft⟩ := stageDraft_eq ws req newStage reason ticket
  rw [hdraft]

theorem mem_stageDraft {newStage : PipelineStage} {reason : String} {ticket : Ticket}
    {column : Column} :
    column ∈ (stageDraft ws req newStage reason ticket).updateFields ↔
      column ∈ ([.pipelineStage, .updatedAt] : List Column) ∨
      (newStage.isWon = true ∧ column ∈ ([.wonAt, .wonReason] : List Column)) ∨
      (newStage.isWon = false ∧ newStage.isLost = true ∧
        column ∈ ([.lostAt, .lostReason] : List Column)) ∨
      ((stageTarget ws newStage ticket.status).isSome = true ∧
        column ∈ ([.status, .statusChangedAt, .statusChangedBy] : List Column)) := by
  unfold stageDraft
  cases newStage.isWon <;> cases newStage.isLost <;>
    cases stageTarget ws newStage ticket.status <;> simp [or_assoc]

theorem stageDraft_listed {newStage : PipelineStage} {reason : String} {ticket : Ticket} :
    .status ∈ (stageDraft ws req newStage reason ticket).updateFields ∨
      (stageDraft ws req newStage reason ticket).ticket.status = ticket.status := by
  rw [mem_stageDraft, stageDraft_status]
  cases stageTarget ws newStage ticket.status with
  | none => exact .inr rfl
  | some target => exact .inl (by simp)

theorem assignTicket_cases {assignee : ℕ} {note : String} {s s' : Session}
    (success : assignTicket ws req assignee note s = .ok s') :
    ws.isActiveMember assignee = true ∧ ∃ events : List ActivityEvent,
      s' = events.foldl Session.log
        ((saveDraft ws req.clock (assignDraft ws req assignee s.ticket) s).recordAssignment
          assignee req.actor note) := by
  unfold assignTicket at success
  dsimp only at success
  split at success
  · cases success
  rename_i hmember
  refine ⟨by simpa using hmember, ?_⟩
  split at success
  · exact ⟨[.assigned, .statusChanged], (Except.ok.inj success).symm⟩
  · exact ⟨[.assigned], (Except.ok.inj success).symm⟩

theorem mergeTickets_cases {primary : ℕ} {s s' : Session}
    (success : mergeTickets ws req primary s = .ok s') :
    primary ≠ s.id ∧
      s' =
        let saved := saveDraft ws req.clock (mergeDraft ws req primary s.ticket)
          { s with db := s.db.moveActivities s.id primary }
        { saved with db := saved.db.createTicketActivity primary .statusChanged } := by
  unfold mergeTickets at success
  split at success
  · cases success
  · rename_i hne
    exact ⟨hne, (Except.ok.inj success).symm⟩

theorem Holds.recordAssignment {P : Ticket → Prop} {s : Session} (holds : Holds P s)
    (assignedTo : ℕ) (assignedBy : Option ℕ) (note : String) :
    Holds P (s.recordAssignment assignedTo assignedBy note) :=
  holds.congr rfl rfl rfl

theorem Holds.logs {P : Ticket → Prop} {s : Session} (holds : Holds P s)
    (events : List ActivityEvent) : Holds P (events.foldl Session.log s) :=
  List.foldlRecOn _ _ holds fun _ holds event _ => holds.log event

/-! ## Operations that only edit -/

def OfLifecycle (P : Ticket → Prop) : Prop :=
  ∀ a b : Ticket, a.lifecycle = b.lifecycle → P b → P a

theorem OfLifecycle.ignoresClock {P : Ticket → Prop} (ofLifecycle : OfLifecycle P) :
    IgnoresClock P := by
  intro a b hcore
  exact ofLifecycle a b (eq_of_core hcore Ticket.lifecycle (fun _ => rfl))

theorem persist_lifecycle {columns : List Column} (neutral : Neutral columns)
    (inst row : Ticket) : (inst.persist columns row).lifecycle = row.lifecycle := by
  have hnot : ∀ column : Column, column ∈ ([.status, .resolvedAt, .closedAt, .solvedAt,
      .autoCloseTaskId] : List Column) → column ∉ columns :=
    fun column hcolumn hmem => neutral column hmem hcolumn
  simp (disch := decide) [Ticket.lifecycle, Ticket.persist, hnot]

section Neutral

variable {P : Ticket → Prop} {clock : Clock} {columns : List Column} {s : Session}

theorem OfLifecycle.carried (ofLifecycle : OfLifecycle P) (neutral : Neutral columns) :
    Carried ws columns (Rows P) (Holds P) where
  load rows hticket := Holds.load rows hticket
  store holds := holds.rows
  edits edits holds := by
    have hedit : ∀ {edit : Ticket → Ticket}, Confined columns edit → ∀ ticket,
        (edit ticket).lifecycle = ticket.lifecycle := by
      intro edit confined ticket
      rw [← confined ticket]
      exact persist_lifecycle neutral _ _
    induction edits with
    | refl => exact holds
    | @save before _ clock saved edit hsaved confined ih =>
      have hneutral : Neutral saved := fun column hmem => neutral column (hsaved hmem)
      apply Holds.save_edit ofLifecycle.ignoresClock ih edit
      · exact confined.status neutral.status_notMem before.ticket
      · exact ofLifecycle _ _ (hedit confined before.ticket) ih.ticket
      · intro row hrow
        exact ofLifecycle _ _ (persist_lifecycle hneutral _ row) hrow
    | @modify before _ edit confined ih =>
      refine ⟨ih.rows, ?_, ofLifecycle _ _ (hedit confined before.ticket) ih.ticket⟩
      obtain ⟨row, hrow, hstatus⟩ := ih.settled
      exact ⟨row, hrow, hstatus.trans
        (confined.status neutral.status_notMem before.ticket).symm⟩
    | log _ ticket event ih => exact ih.congr rfl rfl rfl
    | record _ row ih => exact ih.congr rfl rfl rfl
    | @respond before _ now late ih =>
      obtain ⟨row, hrow, hstatus⟩ := ih.settled
      refine ⟨ih.rows.updateWhere fun row hrow => ofLifecycle _ row rfl hrow,
        ⟨row.respond now late, ?_, hstatus⟩, ofLifecycle _ before.ticket rfl ih.ticket⟩
      simp [Db.updateWhere, hrow]

theorem Rows.edited (ofLifecycle : OfLifecycle P) {db after : Db} {op : Op} (rows : Rows P db)
    (hcolumns : op.columns = some columns) (success : attempt ws req op db = .ok after) :
    Rows P after :=
  (ofLifecycle.carried (op.columns_neutral hcolumns)).attempt hcolumns rows success

theorem Rows.checkTenantSla (ofLifecycle : OfLifecycle P) {db : Db} (rows : Rows P db)
    (clocks : ℕ → Clock) (now : Instant) : Rows P (checkTenantSla ws clocks now db) :=
  (ofLifecycle.carried scanColumns_neutral).checkTenantSla
    (fun _ _ holds => holds.congr rfl rfl rfl) clocks now rows

/-! ## Creation -/

theorem Rows.creation (ofLifecycle : OfLifecycle P) {db after : Db} {op : Op} (rows : Rows P db)
    (hcreation : op.isCreation = true)
    (fresh : ∀ status, initialStatus ws op = some status →
      ∀ ticket, Newborn req ticket status → P ticket)
    (success : attempt ws req op db = .ok after) : Rows P after := by
  obtain ⟨id, ticket, status, t, hinitial, newborn, -, edits, rfl⟩ :=
    creation_cases hcreation success
  have hticket := fresh status hinitial ticket newborn
  have hinserted : Holds P { db := db.insertTicket id ticket, id, ticket } :=
    ⟨rows.update hticket, ⟨ticket, Function.update_self .., rfl⟩, hticket⟩
  exact ((ofLifecycle.carried (by decide)).edits edits hinserted).rows

end Neutral

/-! ## Operations that route through `change_ticket_status` -/

/-- The operations whose status writes all go through `change_ticket_status`, replies
apart: these resume the clock first. -/
def Op.isRouted : Op → Bool
  | .transitionTicketStatus .. | .bulkChangeStatus .. | .moveCard .. | .closeTicket ..
  | .applyMacro .. | .autoCloseTicket .. => true
  | _ => false

section Routed

variable {J : Db → Prop} {I : Session → Prop} {s s' : Session}
variable (carried : Carried ws [.priority, .tags, .updatedAt] J I)
variable (hchange : ∀ newStatus s, I s → I (changeTicketStatus ws req newStatus s))

include hchange in
theorem transitionTicketStatus_keeps (holds : I s) {newStatus : TicketStatus}
    (success : transitionTicketStatus ws req newStatus s = .ok s') : I s' := by
  obtain ⟨-, rfl⟩ := transitionTicketStatus_cases success
  exact hchange newStatus s holds

def macroStatus (ws : Workspace) (action : MacroAction) : Option TicketStatus :=
  match action.action, action.value with
  | some "set_status", some slug => ws.statusBySlug slug
  | _, _ => none

/-- An action of a macro either goes through the transition map or edits other columns. -/
theorem applyMacroAction_cases {action : MacroAction}
    (success : applyMacroAction ws req action s = .ok s') :
    (∃ newStatus, macroStatus ws action = some newStatus ∧
      (newStatus = s.ticket.status ∧ s' = s ∨
        transitionTicketStatus ws req newStatus s = .ok s')) ∨
    (macroStatus ws action = none ∧ Edits ws [.priority, .tags, .updatedAt] s s') := by
  unfold applyMacroAction at success
  unfold macroStatus
  split at success
  · rename_i slug haction hvalue
    rw [haction, hvalue]
    cases hstatus : ws.statusBySlug slug with
    | none =>
      rw [hstatus] at success
      rw [← Except.ok.inj success]
      exact .inr ⟨hstatus, .refl s⟩
    | some newStatus =>
      rw [hstatus] at success
      refine .inl ⟨newStatus, hstatus, ?_⟩
      dsimp only at success
      split at success
      · rename_i hsame
        exact .inl ⟨hsame, (Except.ok.inj success).symm⟩
      · exact .inr success
  · rename_i text haction hvalue
    rw [haction, hvalue]
    refine .inr ⟨rfl, ?_⟩
    split at success <;> rw [← Except.ok.inj success]
    · exact .refl s
    · exact (changeTicketPriority_edits s _).mono (by decide)
  · rename_i tag haction hvalue
    rw [haction, hvalue]
    refine .inr ⟨rfl, ?_⟩
    split at success <;> rw [← Except.ok.inj success]
    · exact .refl s
    · exact (Edits.refl s).save _ _ _ (by decide) fun _ => rfl
  · rename_i hstatus _ _
    rw [← Except.ok.inj success]
    refine .inr ⟨?_, .refl s⟩
    split
    · rename_i slug haction hvalue
      exact absurd hvalue (hstatus slug haction)
    · rfl

include carried

theorem applyMacro_keeps
    (htransition : ∀ newStatus s t, I s → transitionTicketStatus ws req newStatus s = .ok t → I t)
    (holds : I s) {actions : List MacroAction} (success : applyMacro ws req actions s = .ok s') :
    I s' := by
  unfold applyMacro at success
  obtain ⟨acted, hacted, success⟩ := bind_eq_ok.mp success
  have hfinal : I acted := by
    refine foldlM_preserves ?_ holds hacted
    intro s action s' holds hok
    obtain ⟨newStatus, -, ⟨-, rfl⟩ | hok⟩ | ⟨-, edits⟩ := applyMacroAction_cases hok
    · exact holds
    · exact htransition newStatus s s' holds hok
    · exact carried.edits edits holds
  split at success
  · cases success
  split at success
  · cases success
  · rw [← Except.ok.inj success]
    exact carried.edits ((Edits.refl _).log _ _) hfinal

include hchange

theorem autoCloseTicket_keeps (htask : ∀ db id, J db → J (db.setAutoCloseTaskId id none))
    (holds : I s) (taskId : ℕ) : J (autoCloseTicket ws req taskId s).db := by
  unfold autoCloseTicket
  split
  · exact carried.store holds
  split
  · exact carried.store holds
  split
  · exact carried.store holds
  · exact htask _ _ (carried.store (carried.edits ((Edits.refl _).log _ _) (hchange _ s holds)))

/-- What edits and `change_ticket_status` keep, every operation built from them keeps. -/
theorem routed_keeps (htask : ∀ db id, J db → J (db.setAutoCloseTaskId id none))
    {db after : Db} {op : Op} (holds : J db) (hrouted : op.isRouted = true)
    (success : attempt ws req op db = .ok after) : J after := by
  cases op <;> simp only [Op.isRouted, Bool.false_eq_true] at hrouted
  case transitionTicketStatus =>
    exact carried.onTicket (fun s t hs hok => transitionTicketStatus_keeps hchange hs hok)
      holds success
  case bulkChangeStatus newStatus =>
    exact carried.onTicket_ok (hchange newStatus) holds success
  case moveCard =>
    refine carried.onTicket (fun s t hs hok => ?_) holds success
    obtain rfl | ⟨newStatus, -, -, rfl⟩ := moveCard_cases hok
    · exact hs
    · exact hchange newStatus s hs
  case closeTicket =>
    refine carried.onTicket (fun s t hs hok => ?_) holds success
    obtain rfl | ⟨newStatus, -, -, -, rfl⟩ := closeTicket_cases hok
    · exact hs
    · exact hchange newStatus s hs
  case applyMacro =>
    exact carried.onTicket (fun s t hs hok => applyMacro_keeps carried
      (fun _ _ _ hs hok => transitionTicketStatus_keeps hchange hs hok) hs hok) holds success
  case autoCloseTicket id taskId =>
    dsimp only [attempt] at success
    obtain ⟨ticket, t, hticket, hok, rfl⟩ := onTicket_eq_ok.mp success
    rw [← Except.ok.inj hok]
    exact autoCloseTicket_keeps carried hchange htask (carried.load holds hticket) taskId

end Routed

section Reply

variable {P : Ticket → Prop} {clock : Clock} {s s' : Session}

theorem Holds.of_quiet (ignores : IgnoresClock P) (holds : Holds P s)
    (untouched : Untouched s s') (quiet : Quiet s s') : Holds P s' where
  rows := by
    intro id row hrow
    by_cases hid : id = s.id
    · subst hid
      have hmap := quiet.row
      rw [hrow, Option.map_some] at hmap
      obtain ⟨before, hbefore, hcore⟩ := Option.map_eq_some_iff.mp hmap.symm
      exact ignores row before hcore.symm (holds.rows s.id before hbefore)
    · rw [untouched.others id hid] at hrow
      exact holds.rows id row hrow
  settled := quiet.settled holds.settled
  ticket := ignores _ _ quiet.core holds.ticket

theorem resumeSlaPause_quiet (now : Instant) (settled : Settled s) :
    Quiet s (resumeSlaPause ws (save ws clock) now s) :=
  Quiet.respected.resumeSlaPause Quiet.ignoresPauses
    (fun _ clockOnly _ settled => (saveDepth_silent 2 clockOnly settled).toQuiet) now s settled

theorem resumeSlaPause_untouched (now : Instant) (s : Session) :
    Untouched s (resumeSlaPause ws (save ws clock) now s) :=
  Untouched.respected.resumeSlaPause Untouched.ignoresPauses
    (fun columns _ s => save_untouched _ _ columns s) now s

/-- The ticket of a reply once the clock has been resumed for a customer. -/
def Session.resumeForReply (ws : Workspace) (req : Request) (inbound : InboundReply)
    (s : Session) : Session :=
  if inbound.fromCustomer then resumeSlaPause ws (save ws req.clock) req.clock.postSave s else s

def replyTarget (ws : Workspace) (ticket : Ticket) : Option TicketStatus :=
  if ticket.status.slug = "resolved" then ws.statusBySlug "open"
  else if ticket.status.pausesSla then resumeTarget ws ticket
  else none

def changeStatusTo (ws : Workspace) (req : Request) (target : Option TicketStatus) (s : Session) :
    Session :=
  match target with
  | none => s
  | some newStatus => changeTicketStatus ws req newStatus s

theorem changeTicketStatus_self (s : Session) :
    changeTicketStatus ws req s.ticket.status s = s := by
  rw [changeTicketStatus, if_pos rfl]

theorem changeStatusTo_replyTarget (s : Session) :
    (if s.ticket.status.slug = "resolved" then reopenResolvedTicket ws req s
      else if s.ticket.status.pausesSla then resumeFromWait ws req s else s) =
      changeStatusTo ws req (replyTarget ws s.ticket) s := by
  unfold replyTarget
  split
  · rfl
  split
  · rename_i hpauses
    rw [resumeFromWait, hpauses, Bool.not_true, if_neg Bool.false_ne_true]
    cases resumeTarget ws s.ticket with
    | none => rfl
    | some target =>
      dsimp only [changeStatusTo]
      split
      · rename_i hsame
        rw [hsame, changeTicketStatus_self]
      · rfl
  · rfl

theorem addReplyToTicket_eq (inbound : InboundReply) (s : Session) :
    addReplyToTicket ws req inbound s =
      if inbound.bodyIsBlank then s
      else changeStatusTo ws req (replyTarget ws (s.resumeForReply ws req inbound).ticket)
        (s.resumeForReply ws req inbound) := by
  rw [← changeStatusTo_replyTarget]
  rfl

variable (ws req) in
theorem resumeForReply_quiet (inbound : InboundReply) (settled : Settled s) :
    Quiet s (s.resumeForReply ws req inbound) := by
  unfold Session.resumeForReply
  split
  · exact resumeSlaPause_quiet _ settled
  · exact Quiet.refl s

variable (ws req) in
theorem resumeForReply_untouched (inbound : InboundReply) (s : Session) :
    Untouched s (s.resumeForReply ws req inbound) := by
  unfold Session.resumeForReply
  split
  · exact resumeSlaPause_untouched _ s
  · exact Untouched.refl s

theorem replyTarget_resumeForReply (inbound : InboundReply) (settled : Settled s) :
    replyTarget ws (s.resumeForReply ws req inbound).ticket = replyTarget ws s.ticket :=
  eq_of_core (resumeForReply_quiet _ _ inbound settled).core (replyTarget ws) (fun _ => rfl)

theorem Holds.addReplyToTicket
    (hchange : ∀ newStatus s, Holds P s → Holds P (changeTicketStatus ws req newStatus s))
    (ignores : IgnoresClock P) (holds : Holds P s) (inbound : InboundReply) :
    Holds P (addReplyToTicket ws req inbound s) := by
  have hresumed := holds.of_quiet ignores (resumeForReply_untouched ws req inbound s)
    (resumeForReply_quiet _ _ inbound holds.settled)
  rw [addReplyToTicket_eq]
  split
  · exact holds
  · unfold changeStatusTo
    split
    · exact hresumed
    · exact hchange _ _ hresumed

end Reply

end Kanzan.Tickets

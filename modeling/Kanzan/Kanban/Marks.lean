import Kanzan.Kanban.Relocation

/-!
# The marks of a save

Before a save, a receiver stores on the instance what the save changes; the receivers after it
read these marks in turn.  One of them saves the same instance again, and that save stores its own
marks over them.  The saves are told here with their marks, over the tickets and the cards.
-/

namespace Kanzan.Kanban

open Sla Tickets

/-! ## Instances -/

/-- What `handle_ticket_status_change` stores on an instance. -/
structure Marks where
  statusChanged : Bool := false
  oldPausesSla : Bool := false
  assigneeChanged : Bool := false
  pipelineStageChanged : Bool := false
  deriving DecidableEq

def marksOf (previous inst : Ticket) : Marks where
  statusChanged := previous.status ≠ inst.status
  oldPausesSla := previous.status.pausesSla
  assigneeChanged := previous.assignee ≠ inst.assignee
  pipelineStageChanged := previous.pipelineStage ≠ inst.pipelineStage

/-- A ticket in memory with its marks, and the tables; `needsRollback` once the database has
refused a statement of the transaction. -/
structure Saving where
  db : Db
  id : ℕ
  ticket : Ticket
  marks : Marks := {}
  needsRollback : Bool := false

namespace Saving

def session (inst : Saving) : Session :=
  { db := inst.db.tickets, id := inst.id, ticket := inst.ticket }

def onSession (work : Session → Session) (inst : Saving) : Saving :=
  { inst with
    db := { inst.db with tickets := (work inst.session).db }
    id := (work inst.session).id
    ticket := (work inst.session).ticket }

def write (clock : Clock) (columns : List Tickets.Column) (inst : Saving) : Saving :=
  match inst.db.tickets.tickets inst.id with
  | none => inst
  | some previous =>
    { inst.onSession (Tickets.write clock columns) with marks := marksOf previous inst.ticket }

/-! ## The receiver of the SLA clock -/

section Receivers

variable (layout : Layout) (save : List Tickets.Column → Saving → Saving)

/-- `_shift_sla_deadlines`. -/
def shiftSlaDeadlines (pauseStart pauseEnd : Instant) (inst : Saving) : Saving :=
  let minutes := elapsedBusinessMinutes pauseStart pauseEnd layout.toTenant
  if minutes ≤ 0 then inst
  else if inst.ticket.slaFirstResponseDue = none ∧ inst.ticket.slaResolutionDue = none then inst
  else
    let shift := fun due => addBusinessMinutes due minutes layout.toTenant
    let columns : List Tickets.Column :=
      (if inst.ticket.slaFirstResponseDue.isSome then [.slaFirstResponseDue] else []) ++
      (if inst.ticket.slaResolutionDue.isSome then [.slaResolutionDue] else []) ++
      [.updatedAt]
    (save columns (inst.onSession fun s => s.modify (Ticket.mapDeadlines shift))).onSession
      (logSlaChange inst.ticket)

/-- `_resume_sla_pause`. -/
def resumeSlaPause (now : Instant) (inst : Saving) : Saving :=
  match inst.db.tickets.latestOpenPause inst.id with
  | none => inst
  | some pause =>
    let inst := inst.onSession fun s => { s with db := s.db.closePause pause now }
    let inst := shiftSlaDeadlines layout save pause.pausedAt now inst
    let inst := save [.slaPausedAt, .updatedAt]
      (inst.onSession fun s => s.modify (Ticket.setSlaPausedAt none))
    inst.onSession fun s => s.log .slaResumed

/-- `handle_sla_pause_on_status_change`. -/
def handleSlaPauseOnStatusChange (now : Instant) (inst : Saving) : Saving :=
  if !inst.marks.statusChanged then inst
  else
    match inst.marks.oldPausesSla, inst.ticket.status.pausesSla with
    | false, true =>
      let inst := inst.onSession fun s => { s with db := s.db.openPause s.id now }
      let inst := save [.slaPausedAt, .updatedAt]
        (inst.onSession fun s => s.modify (Ticket.setSlaPausedAt (some now)))
      inst.onSession fun s => s.log .slaPaused
    | true, false => resumeSlaPause layout save now inst
    | _, _ => inst

end Receivers

/-! ## The receivers of the cards -/

def saved (columns : List Tickets.Column) (inst : Saving) : Saved where
  updateFields := columns
  assigneeChanged := inst.marks.assigneeChanged
  pipelineStageChanged := inst.marks.pipelineStageChanged

/-- A ticket has one card in a column: the database refuses to send another one there. -/
def refuses (find : Board → Option Column) (cards : List CardPosition) (card : CardPosition) :
    Bool :=
  (find card.column.board).any fun targetColumn =>
    targetColumn ≠ card.column &&
      cards.any fun other => other.ticket == card.ticket && other.column == targetColumn

/-- One turn of a loop over the cards of the ticket.  The receiver catches the error of a refused
one, which the transaction does not survive. -/
def syncCard (find : Board → Option Column) (inst : Saving) (card : CardPosition) : Saving :=
  { inst with
    db := { inst.db with cards := Kanban.syncCard find inst.db.cards card }
    needsRollback := inst.needsRollback || refuses find inst.db.cards card }

def syncCards (find : Board → Option Column) (inst : Saving) : Saving :=
  ((inst.db.cards.filter fun card => card.ticket == inst.id).insertionSort
    fun a b => a.order ≤ b.order).foldl (syncCard find) inst

/-- `create_kanban_card_on_ticket_save`. -/
def createKanbanCardOnTicketSave (layout : Layout) (columns : List Tickets.Column)
    (inst : Saving) : Saving :=
  { inst with
    db := Kanban.createKanbanCardOnTicketSave layout (inst.saved columns) inst.id inst.ticket
      inst.db }

/-- `sync_kanban_card_on_status_change`. -/
def syncKanbanCardOnStatusChange (layout : Layout) (columns : List Tickets.Column)
    (inst : Saving) : Saving :=
  if .status ∉ columns then inst
  else inst.syncCards fun board => layout.statusColumn board inst.ticket.status

/-- `sync_kanban_card_on_pipeline_stage_change`. -/
def syncKanbanCardOnPipelineStageChange (layout : Layout) (inst : Saving) : Saving :=
  if !inst.marks.pipelineStageChanged then inst
  else
    match inst.ticket.pipelineStage with
    | none => inst
    | some stage => inst.syncCards fun board => layout.namedColumn board stage.name

/-- The receivers after a save, in the order in which they are connected. -/
def postSave (layout : Layout) (clock : Clock) (save : List Tickets.Column → Saving → Saving)
    (columns : List Tickets.Column) (inst : Saving) : Saving :=
  let inst := inst.handleSlaPauseOnStatusChange layout save clock.postSave
  let inst := inst.createKanbanCardOnTicketSave layout columns
  let inst := inst.syncKanbanCardOnStatusChange layout columns
  inst.syncKanbanCardOnPipelineStageChange layout

def saveDepth (layout : Layout) (clock : Clock) : ℕ → List Tickets.Column → Saving → Saving
  | 0, columns, inst => inst.write clock columns
  | depth + 1, columns, inst =>
    match inst.db.tickets.tickets inst.id with
    | none => inst
    | some _ =>
      (inst.write clock columns).postSave layout clock (saveDepth layout clock depth) columns

/-- `ticket.save(update_fields=columns)`. -/
def save (layout : Layout) (clock : Clock) (columns : List Tickets.Column) (inst : Saving) :
    Saving := saveDepth layout clock 2 columns inst

/-! ## The ticket of a save with marks -/

section Session

variable {layout : Layout} {clock : Clock} {inst : Saving}
variable {save : List Tickets.Column → Saving → Saving}
variable {plain : List Tickets.Column → Session → Session}

theorem syncCards_session (find : Board → Option Column) (inst : Saving) :
    (inst.syncCards find).session = inst.session := by
  unfold syncCards
  generalize (inst.db.cards.filter fun card => card.ticket == inst.id).insertionSort
    (fun a b => a.order ≤ b.order) = cards
  induction cards generalizing inst with
  | nil => rfl
  | cons card rest ih => exact (ih (inst.syncCard find card)).trans rfl

variable (layout) in
theorem createKanbanCardOnTicketSave_session (columns : List Tickets.Column) (inst : Saving) :
    (inst.createKanbanCardOnTicketSave layout columns).session = inst.session := by
  have htickets : (Kanban.createKanbanCardOnTicketSave layout (inst.saved columns) inst.id
      inst.ticket inst.db).tickets = inst.db.tickets := by
    rcases createKanbanCard_cases layout (inst.saved columns) inst.id inst.ticket inst.db with
      hsame | ⟨column, -, hcreated⟩
    · rw [hsame]
    · rw [hcreated]
      rfl
  rw [session, createKanbanCardOnTicketSave]
  dsimp only
  rw [htickets]
  rfl

section Nested

variable (hsave : ∀ columns inst, (save columns inst).session = plain columns inst.session)
include hsave

end Nested

end Session

/-! ## The marks of a nested save -/

section Nested

variable {layout : Layout} {clock : Clock} {columns : List Tickets.Column} {inst after : Saving}
variable {previous : Ticket}

def Stored (inst : Saving) : Prop :=
  ∃ row, inst.db.tickets.tickets inst.id = some row ∧ row.status = inst.ticket.status ∧
    row.assignee = inst.ticket.assignee ∧ row.pipelineStage = inst.ticket.pipelineStage

/-- Nothing is marked as changed. -/
structure Unmarked (inst : Saving) : Prop where
  statusChanged : inst.marks.statusChanged = false
  assigneeChanged : inst.marks.assigneeChanged = false
  pipelineStageChanged : inst.marks.pipelineStageChanged = false

/-- The cards are as they were, and so is what their receivers read of the ticket. -/
structure Keeps (inst after : Saving) : Prop where
  id : after.id = inst.id
  cards : after.db.cards = inst.db.cards
  nextCard : after.db.nextCard = inst.db.nextCard
  needsRollback : after.needsRollback = inst.needsRollback
  status : after.ticket.status = inst.ticket.status
  pipelineStage : after.ticket.pipelineStage = inst.ticket.pipelineStage
  stored : Stored after

theorem Keeps.trans {between : Saving} (first : Keeps inst between) (second : Keeps between after) :
    Keeps inst after where
  id := second.id.trans first.id
  cards := second.cards.trans first.cards
  nextCard := second.nextCard.trans first.nextCard
  needsRollback := second.needsRollback.trans first.needsRollback
  status := second.status.trans first.status
  pipelineStage := second.pipelineStage.trans first.pipelineStage
  stored := second.stored

theorem Stored.onSession (stored : Stored inst) (work : Session → Session)
    (hid : (work inst.session).id = inst.id)
    (htickets : (work inst.session).db.tickets = inst.db.tickets.tickets)
    (hcore : (work inst.session).ticket.core = inst.ticket.core) :
    Keeps inst (inst.onSession work) := by
  have hstatus := eq_of_core hcore Ticket.status fun _ => rfl
  have hassignee := eq_of_core hcore Ticket.assignee fun _ => rfl
  have hstage := eq_of_core hcore Ticket.pipelineStage fun _ => rfl
  obtain ⟨row, hrow, hrowStatus, hrowAssignee, hrowStage⟩ := stored
  refine ⟨hid, rfl, rfl, rfl, hstatus, hstage, row, ?_, ?_, ?_, ?_⟩
  · rw [← hrow, ← htickets, ← hid]
    rfl
  · exact hrowStatus.trans hstatus.symm
  · exact hrowAssignee.trans hassignee.symm
  · exact hrowStage.trans hstage.symm

theorem Stored.log (stored : Stored inst) (event : ActivityEvent) :
    Keeps inst (inst.onSession fun s => s.log event) :=
  stored.onSession _ rfl rfl rfl

theorem Stored.logSlaChange (stored : Stored inst) (old : Ticket) :
    Keeps inst (inst.onSession (logSlaChange old)) := by
  apply stored.onSession (Tickets.logSlaChange old)
  · unfold Tickets.logSlaChange
    split <;> rfl
  · unfold Tickets.logSlaChange
    split <;> rfl
  · unfold Tickets.logSlaChange
    split <;> rfl

theorem write_eq (hrow : inst.db.tickets.tickets inst.id = some previous) :
    inst.write clock columns =
      let ticket := (handleTicketStatusChange clock.preSave previous inst.ticket).autoNow columns
        clock.autoNow
      { inst with
        db := { inst.db with
          tickets := inst.db.tickets.updateTicket inst.id columns ticket previous }
        ticket
        marks := marksOf previous inst.ticket } := by
  have hsession : inst.session.db.tickets inst.session.id = some previous := hrow
  rw [write, hrow]
  dsimp only
  rw [onSession, write_of_row hsession]
  rfl

variable (clock) in
/-- Saving what the row already says of them marks nothing. -/
theorem Stored.write (stored : Stored inst) (clockOnly : ClockOnly columns) :
    Keeps inst (inst.write clock columns) ∧ Unmarked (inst.write clock columns) := by
  obtain ⟨row, hrow, hstatus, hassignee, hstage⟩ := stored
  have hnot : ∀ column : Tickets.Column, column ∈ columns → column = .status ∨
      column = .assignee ∨ column = .pipelineStage → False := by
    rintro column hmem (rfl | rfl | rfl) <;> exact absurd (clockOnly _ hmem) (by decide)
  have hcore := autoNow_core inst.ticket columns clock.autoNow
  have hnowStatus := eq_of_core hcore Ticket.status fun _ => rfl
  have hnowAssignee := eq_of_core hcore Ticket.assignee fun _ => rfl
  have hnowStage := eq_of_core hcore Ticket.pipelineStage fun _ => rfl
  rw [write_eq hrow, handleTicketStatusChange_of_same hstatus]
  dsimp only
  refine ⟨⟨rfl, rfl, rfl, rfl, hnowStatus, hnowStage, _, Function.update_self .., ?_, ?_, ?_⟩, ?_⟩
  · dsimp only [Ticket.persist]
    rw [hnowStatus, hstatus, ite_self]
  · dsimp only [Ticket.persist]
    rw [hnowAssignee, hassignee, ite_self]
  · dsimp only [Ticket.persist]
    rw [hnowStage, hstage, ite_self]
  · constructor <;> simp [marksOf, hstatus, hassignee, hstage]

theorem Unmarked.postSave (unmarked : Unmarked inst) {save : List Tickets.Column → Saving → Saving}
    (clockOnly : ClockOnly columns) : inst.postSave layout clock save columns = inst := by
  have hstatus : Tickets.Column.status ∉ columns :=
    fun hmem => absurd (clockOnly _ hmem) (by decide)
  have hassignee : Tickets.Column.assignee ∉ columns :=
    fun hmem => absurd (clockOnly _ hmem) (by decide)
  have hcreate : inst.createKanbanCardOnTicketSave layout columns = inst := by
    rw [createKanbanCardOnTicketSave, Kanban.createKanbanCardOnTicketSave, if_pos]
    simp [saved, unmarked.assigneeChanged, hassignee]
  unfold Saving.postSave
  dsimp only
  rw [handleSlaPauseOnStatusChange, if_pos (by simp [unmarked.statusChanged]), hcreate,
    syncKanbanCardOnStatusChange, if_pos hstatus, syncKanbanCardOnPipelineStageChange,
    if_pos (by simp [unmarked.pipelineStageChanged])]

variable (layout clock) in
/-- The nested saves are mere writes, and take the marks away. -/
theorem Stored.saveDepth (stored : Stored inst) (clockOnly : ClockOnly columns) (depth : ℕ) :
    Keeps inst (saveDepth layout clock depth columns inst) ∧
      Unmarked (Saving.saveDepth layout clock depth columns inst) := by
  obtain ⟨hkeeps, hunmarked⟩ := stored.write clock clockOnly
  cases depth with
  | zero => exact ⟨hkeeps, hunmarked⟩
  | succ depth =>
    obtain ⟨row, hrow, -⟩ := stored
    rw [Saving.saveDepth, hrow]
    dsimp only
    rw [hunmarked.postSave clockOnly]
    exact ⟨hkeeps, hunmarked⟩

def savesAgain (inst : Saving) : Bool :=
  inst.marks.statusChanged &&
    if inst.marks.oldPausesSla then
      !inst.ticket.status.pausesSla && (inst.db.tickets.latestOpenPause inst.id).isSome
    else inst.ticket.status.pausesSla

variable (layout clock) in
theorem Stored.shiftSlaDeadlines (stored : Stored inst) (depth : ℕ)
    (pauseStart pauseEnd : Instant) :
    Keeps inst (inst.shiftSlaDeadlines layout (Saving.saveDepth layout clock depth)
      pauseStart pauseEnd) := by
  have hkept : Keeps inst inst := ⟨rfl, rfl, rfl, rfl, rfl, rfl, stored⟩
  unfold Saving.shiftSlaDeadlines
  dsimp only
  split
  · exact hkept
  split
  · exact hkept
  · have hmodified := stored.onSession
      (fun s => s.modify (Ticket.mapDeadlines fun due => addBusinessMinutes due
        (elapsedBusinessMinutes pauseStart pauseEnd layout.toTenant) layout.toTenant)) rfl rfl rfl
    have hsaved := fun columns (clockOnly : ClockOnly columns) => (hmodified.stored.saveDepth
      layout clock clockOnly depth).1
    have hlogged := fun columns (clockOnly : ClockOnly columns) =>
      (hsaved columns clockOnly).stored.logSlaChange inst.ticket
    refine (hmodified.trans (hsaved _ ?_)).trans (hlogged _ ?_)
    all_goals
      intro column hcolumn
      split at hcolumn <;> split at hcolumn <;> simp at hcolumn ⊢ <;> tauto

variable (layout clock) in
theorem Stored.resumeSlaPause (stored : Stored inst) (depth : ℕ) (now : Instant)
    (hopen : (inst.db.tickets.latestOpenPause inst.id).isSome = true) :
    Keeps inst (inst.resumeSlaPause layout (Saving.saveDepth layout clock depth) now) ∧
      Unmarked (inst.resumeSlaPause layout (Saving.saveDepth layout clock depth) now) := by
  obtain ⟨pause, hpause⟩ := Option.isSome_iff_exists.mp hopen
  unfold Saving.resumeSlaPause
  rw [hpause]
  dsimp only
  have hclosed := stored.onSession
    (fun s => { s with db := s.db.closePause pause now }) rfl rfl rfl
  have hshifted := hclosed.trans (hclosed.stored.shiftSlaDeadlines layout clock depth
    pause.pausedAt now)
  have hcleared := hshifted.trans (hshifted.stored.onSession
    (fun s => s.modify (Ticket.setSlaPausedAt none)) rfl rfl rfl)
  obtain ⟨hsaved, hunmarked⟩ := hcleared.stored.saveDepth layout clock clockOnly_paused depth
  exact ⟨(hcleared.trans hsaved).trans (hsaved.stored.log .slaResumed),
    ⟨hunmarked.1, hunmarked.2, hunmarked.3⟩⟩

variable (layout clock) in
/-- The receiver of the SLA clock: the cards stay, and the marks are gone if it saves. -/
theorem Stored.handleSlaPause (stored : Stored inst) (depth : ℕ) (now : Instant)
    (hsaves : inst.savesAgain = true) :
    Keeps inst (inst.handleSlaPauseOnStatusChange layout (Saving.saveDepth layout clock depth)
        now) ∧
      Unmarked (inst.handleSlaPauseOnStatusChange layout (Saving.saveDepth layout clock depth)
        now) := by
  rw [savesAgain, Bool.and_eq_true] at hsaves
  obtain ⟨hchanged, hsaves⟩ := hsaves
  unfold handleSlaPauseOnStatusChange
  rw [if_neg (by simp [hchanged])]
  cases hold : inst.marks.oldPausesSla with
  | false =>
    rw [hold, if_neg (by decide)] at hsaves
    rw [hsaves]
    dsimp only
    have hopened := stored.onSession
      (fun s => { s with db := s.db.openPause s.id now }) rfl rfl rfl
    have hset := hopened.trans (hopened.stored.onSession
      (fun s => s.modify (Ticket.setSlaPausedAt (some now))) rfl rfl rfl)
    obtain ⟨hsaved, hunmarked⟩ := hset.stored.saveDepth layout clock clockOnly_paused depth
    exact ⟨(hset.trans hsaved).trans (hsaved.stored.log .slaPaused),
      ⟨hunmarked.1, hunmarked.2, hunmarked.3⟩⟩
  | true =>
    rw [hold, if_pos rfl, Bool.and_eq_true, Bool.not_eq_true'] at hsaves
    rw [hsaves.1]
    exact stored.resumeSlaPause layout clock depth now hsaves.2

theorem handleSlaPause_of_not {save : List Tickets.Column → Saving → Saving} (now : Instant)
    (hsaves : inst.savesAgain = false) :
    inst.handleSlaPauseOnStatusChange layout save now = inst := by
  unfold handleSlaPauseOnStatusChange
  unfold savesAgain at hsaves
  cases hchanged : inst.marks.statusChanged with
  | false => rfl
  | true =>
    rw [hchanged, Bool.true_and] at hsaves
    rw [if_neg (by decide)]
    cases hold : inst.marks.oldPausesSla with
    | false =>
      rw [hold, if_neg (by decide)] at hsaves
      rw [hsaves]
    | true =>
      rw [hold, if_pos rfl] at hsaves
      cases hnew : inst.ticket.status.pausesSla with
      | true => rfl
      | false =>
        rw [hnew, Bool.not_false, Bool.true_and, Option.isSome_eq_false_iff,
          Option.isNone_iff_eq_none] at hsaves
        dsimp only
        rw [resumeSlaPause, hsaves]

end Nested

/-! ## The cards of a save -/

section Cards

variable {layout : Layout} {clock : Clock} {columns : List Tickets.Column} {inst : Saving}
variable {previous : Ticket}

theorem syncCards_cards (find : Board → Option Column) (inst : Saving) :
    (inst.syncCards find).db.cards = Kanban.syncCards find inst.id inst.db.cards := by
  unfold syncCards Kanban.syncCards
  generalize (inst.db.cards.filter fun card => card.ticket == inst.id).insertionSort
    (fun a b => a.order ≤ b.order) = todo
  induction todo generalizing inst with
  | nil => rfl
  | cons card rest ih => exact ih (inst.syncCard find card)

theorem syncCards_marks (find : Board → Option Column) (inst : Saving) :
    (inst.syncCards find).marks = inst.marks := by
  unfold syncCards
  generalize (inst.db.cards.filter fun card => card.ticket == inst.id).insertionSort
    (fun a b => a.order ≤ b.order) = todo
  induction todo generalizing inst with
  | nil => rfl
  | cons card rest ih => exact ih (inst.syncCard find card)

variable (layout columns) in
theorem syncKanbanCardOnStatusChange_session (inst : Saving) :
    (inst.syncKanbanCardOnStatusChange layout columns).session = inst.session := by
  unfold syncKanbanCardOnStatusChange
  split
  · rfl
  · exact syncCards_session _ inst

theorem syncKanbanCardOnStatusChange_marks (inst : Saving) :
    (inst.syncKanbanCardOnStatusChange layout columns).marks = inst.marks := by
  unfold syncKanbanCardOnStatusChange
  split
  · rfl
  · exact syncCards_marks _ inst

theorem syncKanbanCardOnStatusChange_cards (inst : Saving) :
    (inst.syncKanbanCardOnStatusChange layout columns).db.cards =
      Kanban.syncKanbanCardOnStatusChange layout (inst.saved columns) inst.id inst.ticket
        inst.db.cards := by
  unfold syncKanbanCardOnStatusChange Kanban.syncKanbanCardOnStatusChange
  by_cases hlisted : Tickets.Column.status ∈ columns
  · rw [if_neg (not_not_intro hlisted), if_neg (by simp [saved, hlisted]), syncCards_cards]
  · rw [if_pos hlisted, if_pos (by simp [saved, hlisted])]

variable (columns) in
theorem syncKanbanCardOnPipelineStageChange_cards (inst : Saving) :
    (inst.syncKanbanCardOnPipelineStageChange layout).db.cards =
      Kanban.syncKanbanCardOnPipelineStageChange layout (inst.saved columns) inst.id inst.ticket
        inst.db.cards := by
  unfold syncKanbanCardOnPipelineStageChange Kanban.syncKanbanCardOnPipelineStageChange
  cases hmark : inst.marks.pipelineStageChanged with
  | false => simp [saved, hmark]
  | true =>
    rw [if_neg (by decide), if_neg (by simp [saved, hmark])]
    cases inst.ticket.pipelineStage with
    | none => rfl
    | some stage => exact syncCards_cards _ inst

/-- The receivers of the cards do what they do without the marks, on the record of the save. -/
theorem postSave_cards (save : List Tickets.Column → Saving → Saving) (inst : Saving) :
    (inst.postSave layout clock save columns).db.cards =
      let last := inst.handleSlaPauseOnStatusChange layout save clock.postSave
      (onTicketSave layout (last.saved columns) last.id last.ticket last.db).cards := by
  unfold postSave
  dsimp only
  generalize inst.handleSlaPauseOnStatusChange layout save clock.postSave = last
  have hcreated := createKanbanCardOnTicketSave_session layout columns last
  generalize hfirst : last.createKanbanCardOnTicketSave layout columns = first at hcreated ⊢
  have hmarks : first.marks = last.marks := by rw [← hfirst]; rfl
  have hdb : first.db = Kanban.createKanbanCardOnTicketSave layout (last.saved columns) last.id
      last.ticket last.db := by rw [← hfirst]; rfl
  have hsynced := (syncKanbanCardOnStatusChange_session layout columns first).trans hcreated
  have hid : first.id = last.id := congrArg Session.id hcreated
  have hticket : first.ticket = last.ticket := congrArg Session.ticket hcreated
  have hsyncedId : (first.syncKanbanCardOnStatusChange layout columns).id = last.id :=
    congrArg Session.id hsynced
  have hsyncedTicket : (first.syncKanbanCardOnStatusChange layout columns).ticket = last.ticket :=
    congrArg Session.ticket hsynced
  rw [syncKanbanCardOnPipelineStageChange_cards columns, saved,
    syncKanbanCardOnStatusChange_marks, hsyncedId, hsyncedTicket,
    syncKanbanCardOnStatusChange_cards, saved, hmarks, hid, hticket, hdb]
  rfl

theorem onTicketSave_cards_congr {saved : Saved} {id : ℕ} {first second : Ticket}
    {db other : Kanban.Db} (hstatus : first.status = second.status)
    (hstage : first.pipelineStage = second.pipelineStage) (hcards : db.cards = other.cards)
    (hnext : db.nextCard = other.nextCard) :
    (onTicketSave layout saved id first db).cards =
      (onTicketSave layout saved id second other).cards := by
  have hfirst : (Kanban.createKanbanCardOnTicketSave layout saved id first db).cards =
      (Kanban.createKanbanCardOnTicketSave layout saved id second other).cards := by
    unfold Kanban.createKanbanCardOnTicketSave
    rw [hstatus, hcards]
    split
    · exact hcards
    split
    · exact hcards
    · rw [Db.createCard, Db.createCard, hcards, hnext]
  unfold onTicketSave
  dsimp only
  rw [hfirst, Kanban.syncKanbanCardOnStatusChange, Kanban.syncKanbanCardOnStatusChange, hstatus,
    Kanban.syncKanbanCardOnPipelineStageChange, Kanban.syncKanbanCardOnPipelineStageChange, hstage]

theorem save_cards (hrow : inst.db.tickets.tickets inst.id = some previous)
    (hstatus : .status ∈ columns ∨ previous.status = inst.ticket.status)
    (hassignee : .assignee ∈ columns ∨ previous.assignee = inst.ticket.assignee)
    (hstage : .pipelineStage ∈ columns ∨ previous.pipelineStage = inst.ticket.pipelineStage) :
    (inst.save layout clock columns).db.cards =
      (onTicketSave layout
        (Saved.ofDraft inst.db.tickets inst.id previous ⟨inst.ticket, columns⟩)
        inst.id inst.ticket inst.db).cards := by
  obtain ⟨resolvedAt, closedAt, breached, hinst⟩ :=
    handleTicketStatusChange_eq clock.preSave previous inst.ticket
  have hwritten : Keeps inst (inst.write clock columns) := by
    have hcore := autoNow_core { inst.ticket with
      resolvedAt := resolvedAt, closedAt := closedAt, slaResolutionBreached := breached }
      columns clock.autoNow
    have hnowStatus := eq_of_core hcore Ticket.status fun _ => rfl
    have hnowAssignee := eq_of_core hcore Ticket.assignee fun _ => rfl
    have hnowStage := eq_of_core hcore Ticket.pipelineStage fun _ => rfl
    rw [write_eq hrow, hinst]
    refine ⟨rfl, rfl, rfl, rfl, hnowStatus, hnowStage, _, Function.update_self .., ?_, ?_, ?_⟩
    · dsimp only [Ticket.persist]
      rw [hnowStatus, ite_eq_left_iff]
      exact fun hnot => hstatus.resolve_left hnot
    · dsimp only [Ticket.persist]
      rw [hnowAssignee, ite_eq_left_iff]
      exact fun hnot => hassignee.resolve_left hnot
    · dsimp only [Ticket.persist]
      rw [hnowStage, ite_eq_left_iff]
      exact fun hnot => hstage.resolve_left hnot
  have hmarks : (inst.write clock columns).marks = marksOf previous inst.ticket := by
    rw [write_eq hrow]
  have hagain : (inst.write clock columns).savesAgain =
      Kanban.savesAgain inst.db.tickets inst.id previous.status inst.ticket.status := by
    rw [savesAgain, hmarks, hwritten.status, hwritten.id, Kanban.savesAgain, write_eq hrow]
    rfl
  unfold save
  rw [saveDepth, hrow]
  dsimp only
  rw [postSave_cards]
  cases hsaves : Kanban.savesAgain inst.db.tickets inst.id previous.status inst.ticket.status with
  | false =>
    have hsaved : (inst.write clock columns).saved columns = Saved.ofDraft inst.db.tickets inst.id
        previous ⟨inst.ticket, columns⟩ := by
      rw [saved, hmarks, Saved.ofDraft]
      simp only [marksOf, hsaves, Bool.not_false, Bool.and_true, ne_comm]
    rw [handleSlaPause_of_not _ (hagain.trans hsaves)]
    dsimp only
    rw [hsaved, hwritten.id]
    exact onTicketSave_cards_congr hwritten.status hwritten.pipelineStage hwritten.cards
      hwritten.nextCard
  | true =>
    obtain ⟨hkeeps, hunmarked⟩ := hwritten.stored.handleSlaPause layout clock 1
      clock.postSave (hagain.trans hsaves)
    have hlast := hwritten.trans hkeeps
    have hsaved : ∀ last : Saving, Unmarked last → last.saved columns = Saved.ofDraft
        inst.db.tickets inst.id previous ⟨inst.ticket, columns⟩ := by
      intro last unmarked
      rw [saved, unmarked.assigneeChanged, unmarked.pipelineStageChanged, Saved.ofDraft]
      simp only [hsaves, Bool.not_true, Bool.and_false]
    dsimp only
    rw [hsaved _ hunmarked, hlast.id]
    exact onTicketSave_cards_congr hlast.status hlast.pipelineStage hlast.cards hlast.nextCard

end Cards

end Saving

end Kanzan.Kanban

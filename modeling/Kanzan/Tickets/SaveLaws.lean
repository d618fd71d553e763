import Kanzan.Support.Lists
import Kanzan.Tickets.Save

/-!
# What a save does

A save writes its columns and may then run the pause receiver, whose nested saves
touch the columns of the SLA clock only.  `Untouched` says what no save can change;
`save_core` says what a save leaves in the row.
-/

namespace Kanzan.Tickets

open Sla Support

variable {ws : Workspace} {clock : Clock}

def Ticket.core (ticket : Ticket) : Ticket :=
  { ticket with
    updatedAt := 0
    slaFirstResponseDue := none
    slaResolutionDue := none
    slaPausedAt := none }

theorem eq_of_core {α : Type*} {a b : Ticket} (h : a.core = b.core) (column : Ticket → α)
    (hcolumn : ∀ ticket : Ticket, column ticket.core = column ticket) : column a = column b := by
  rw [← hcolumn a, h, hcolumn b]

/-! ## Relations kept by every part of a save -/

def ClockOnly (columns : List Column) : Prop :=
  ∀ column ∈ columns, column ∈ ([.updatedAt, .slaFirstResponseDue, .slaResolutionDue,
    .slaPausedAt] : List Column)

/-- A preorder on sessions that the pause receiver respects between its own saves. -/
structure Respected (R : Session → Session → Prop) : Prop where
  refl : ∀ s, R s s
  trans : ∀ {a b c}, R a b → R b c → R a c
  log : ∀ s event, R s (s.log event)
  modify : ∀ s edit, (∀ ticket, (edit ticket).core = ticket.core) → R s (s.modify edit)

def IgnoresPauses (R : Session → Session → Prop) : Prop :=
  ∀ s pauses,
    (∀ other ≠ s.id,
      pauses.filter (fun pause => pause.ticket == other) = s.db.pausesOf other) →
    R s { s with db := { s.db with pauses } }

theorem clockOnly_paused : ClockOnly [.slaPausedAt, .updatedAt] := by
  unfold ClockOnly
  decide

theorem mem_of_latestOpenPause {db : Db} {ticket : ℕ} {pause : SLAPause}
    (found : db.latestOpenPause ticket = some pause) : pause ∈ db.openPauses ticket := by
  have hmem := List.mem_of_mem_head? found
  rwa [List.mem_insertionSort] at hmem

theorem ticket_of_mem_openPauses {db : Db} {ticket : ℕ} {pause : SLAPause}
    (hmem : pause ∈ db.openPauses ticket) : pause.ticket = ticket := by
  simp only [Db.openPauses, Db.pausesOf, List.mem_filter, beq_iff_eq] at hmem
  exact hmem.1.2

theorem pausesOf_closePause {db : Db} {pause : SLAPause} (now : Instant) {other : ℕ}
    (hother : other ≠ pause.ticket) :
    (db.closePause pause now).pausesOf other = db.pausesOf other := by
  apply filter_replace_of_neg
  · simpa using hother.symm
  · simpa using hother.symm

theorem pausesOf_openPause {db : Db} {ticket other : ℕ} {now : Instant}
    (hother : other ≠ ticket) :
    (db.openPause ticket now).pausesOf other = db.pausesOf other := by
  simp [Db.openPause, Db.pausesOf, hother.symm]

namespace Respected

variable {R : Session → Session → Prop} {nested : List Column → Session → Session}

theorem logSlaChange (respected : Respected R) (old : Ticket) (s : Session) :
    R s (logSlaChange old s) := by
  unfold Tickets.logSlaChange
  split
  · exact respected.refl s
  · exact respected.log s _

variable (ws) in
theorem shiftSlaDeadlines (respected : Respected R)
    (hnested : ∀ columns, ClockOnly columns → ∀ s, R s (nested columns s))
    (pauseStart pauseEnd : Instant) (s : Session) :
    R s (shiftSlaDeadlines ws nested pauseStart pauseEnd s) := by
  unfold Tickets.shiftSlaDeadlines
  dsimp only
  split
  · exact respected.refl s
  split
  · exact respected.refl s
  refine respected.trans (respected.modify s (Ticket.mapDeadlines fun due =>
    addBusinessMinutes due (elapsedBusinessMinutes pauseStart pauseEnd ws.toTenant) ws.toTenant)
    (fun _ => rfl)) ?_
  refine respected.trans (hnested _ ?_ _) (respected.logSlaChange _ _)
  intro column hcolumn
  split at hcolumn <;> split at hcolumn <;> simp at hcolumn ⊢ <;> tauto

theorem resumeSlaPause (respected : Respected R) (hpauses : IgnoresPauses R)
    (hnested : ∀ columns, ClockOnly columns → ∀ s, R s (nested columns s))
    (now : Instant) (s : Session) : R s (resumeSlaPause ws nested now s) := by
  unfold Tickets.resumeSlaPause
  cases hpause : s.db.latestOpenPause s.id with
  | none => exact respected.refl s
  | some pause =>
    have hticket := ticket_of_mem_openPauses (mem_of_latestOpenPause hpause)
    have hclosed : R s { s with db := s.db.closePause pause now } :=
      hpauses s _ (fun other hother =>
        pausesOf_closePause now (by rwa [hticket]))
    dsimp only
    refine respected.trans hclosed ?_
    refine respected.trans (respected.shiftSlaDeadlines ws hnested pause.pausedAt now _) ?_
    refine respected.trans (respected.modify _ (Ticket.setSlaPausedAt none) (fun _ => rfl)) ?_
    exact respected.trans (hnested _ clockOnly_paused _) (respected.log _ _)

theorem handleSlaPauseOnStatusChange (respected : Respected R) (hpauses : IgnoresPauses R)
    (hnested : ∀ columns, ClockOnly columns → ∀ s, R s (nested columns s))
    (previous : TicketStatus) (now : Instant) (s : Session) :
    R s (handleSlaPauseOnStatusChange ws nested previous now s) := by
  unfold Tickets.handleSlaPauseOnStatusChange
  split
  · exact respected.refl s
  split
  · have hopened : R s { s with db := s.db.openPause s.id now } :=
      hpauses s _ (fun other hother => pausesOf_openPause hother)
    dsimp only
    refine respected.trans hopened ?_
    refine respected.trans (respected.modify _ (Ticket.setSlaPausedAt (some now)) (fun _ => rfl)) ?_
    exact respected.trans (hnested _ clockOnly_paused _) (respected.log _ _)
  · exact respected.resumeSlaPause hpauses hnested now s
  · exact respected.refl s

theorem saveDepth (respected : Respected R) (hpauses : IgnoresPauses R)
    (hwrite : ∀ columns s, R s (write clock columns s)) (depth : ℕ) (columns : List Column)
    (s : Session) : R s (saveDepth ws clock depth columns s) := by
  induction depth generalizing columns s with
  | zero => exact hwrite columns s
  | succ depth ih =>
    rw [Tickets.saveDepth]
    split
    · exact respected.refl s
    · exact respected.trans (hwrite columns s)
        (respected.handleSlaPauseOnStatusChange hpauses (fun columns _ => ih columns) _ _ _)

end Respected

/-! ## What no save can touch -/

/-- Everything outside the row and the pauses of one ticket is as it was. -/
structure Untouched (s s' : Session) : Prop where
  id : s'.id = s.id
  others : ∀ other ≠ s.id, s'.db.tickets other = s.db.tickets other
  stored : ∀ other, (s'.db.tickets other).isSome = (s.db.tickets other).isSome
  pauses : ∀ other ≠ s.id, s'.db.pausesOf other = s.db.pausesOf other
  ticketIds : s'.db.ticketIds = s.db.ticketIds
  firedRuleIds : ∀ other, s'.db.firedRuleIds other = s.db.firedRuleIds other
  autoCloseTasks : s'.db.autoCloseTasks = s.db.autoCloseTasks
  onCommit : s'.db.onCommit = s.db.onCommit
  ruleLog : s'.db.ruleLog = s.db.ruleLog

namespace Untouched

theorem refl (s : Session) : Untouched s s := by constructor <;> intros <;> rfl

theorem trans {a b c : Session} (first : Untouched a b) (second : Untouched b c) :
    Untouched a c where
  id := second.id.trans first.id
  others other hother := by
    rw [second.others other (by rwa [first.id]), first.others other hother]
  stored other := (second.stored other).trans (first.stored other)
  pauses other hother := by
    rw [second.pauses other (by rwa [first.id]), first.pauses other hother]
  ticketIds := second.ticketIds.trans first.ticketIds
  firedRuleIds other := (second.firedRuleIds other).trans (first.firedRuleIds other)
  autoCloseTasks := second.autoCloseTasks.trans first.autoCloseTasks
  onCommit := second.onCommit.trans first.onCommit
  ruleLog := second.ruleLog.trans first.ruleLog

theorem modify (s : Session) (edit : Ticket → Ticket) : Untouched s (s.modify edit) where
  id := rfl
  others _ _ := rfl
  stored _ := rfl
  pauses _ _ := rfl
  ticketIds := rfl
  firedRuleIds _ := rfl
  autoCloseTasks := rfl
  onCommit := rfl
  ruleLog := rfl

theorem createTicketActivity (s : Session) (ticket : ℕ) (event : ActivityEvent) :
    Untouched s { s with db := s.db.createTicketActivity ticket event } where
  id := rfl
  others _ _ := rfl
  stored _ := rfl
  pauses _ _ := rfl
  ticketIds := rfl
  firedRuleIds other := createTicketActivity_firedRuleIds s.db ticket event other
  autoCloseTasks := rfl
  onCommit := rfl
  ruleLog := rfl

theorem log (s : Session) (event : ActivityEvent) : Untouched s (s.log event) :=
  createTicketActivity s s.id event

theorem createAssignment (s : Session) (row : TicketAssignment) :
    Untouched s { s with db := s.db.createAssignment row } where
  id := rfl
  others _ _ := rfl
  stored _ := rfl
  pauses _ _ := rfl
  ticketIds := rfl
  firedRuleIds _ := rfl
  autoCloseTasks := rfl
  onCommit := rfl
  ruleLog := rfl

end Untouched

variable (clock) in
theorem write_untouched (columns : List Column) (s : Session) :
    Untouched s (write clock columns s) := by
  unfold write
  cases hrow : s.db.tickets s.id with
  | none => exact Untouched.refl s
  | some previous =>
    constructor
    case others =>
      intro other hother
      simp [Db.updateTicket, Function.update_of_ne hother]
    case stored =>
      intro other
      by_cases hother : other = s.id
      · simp [Db.updateTicket, hother, hrow]
      · simp [Db.updateTicket, Function.update_of_ne hother]
    all_goals simp [Db.updateTicket, Db.pausesOf, Db.firedRuleIds]

theorem Untouched.respected : Respected Untouched where
  refl := Untouched.refl
  trans := Untouched.trans
  log := Untouched.log
  modify s edit _ := Untouched.modify s edit

theorem Untouched.ignoresPauses : IgnoresPauses Untouched := by
  intro s pauses hothers
  constructor
  case pauses => exact hothers
  all_goals intros; rfl

variable (ws clock) in
/-- A save with its receivers touches one ticket row and that ticket's pauses. -/
theorem save_untouched (columns : List Column) (s : Session) :
    Untouched s (save ws clock columns s) :=
  Untouched.respected.saveDepth Untouched.ignoresPauses (write_untouched _) 2 columns s

/-! ## What a save leaves in the row -/

def Settled (s : Session) : Prop :=
  ∃ row, s.db.tickets s.id = some row ∧ row.status = s.ticket.status

theorem handleTicketStatusChange_of_same {now : Instant} {previous inst : Ticket}
    (hsame : previous.status = inst.status) :
    handleTicketStatusChange now previous inst = inst := by
  rw [handleTicketStatusChange, if_pos hsame]

theorem write_of_row {columns : List Column} {s : Session} {previous : Ticket}
    (hrow : s.db.tickets s.id = some previous) :
    write clock columns s =
      let inst := (handleTicketStatusChange clock.preSave previous s.ticket).autoNow
        columns clock.autoNow
      { s with db := s.db.updateTicket s.id columns inst previous, ticket := inst } := by
  rw [write, hrow]

@[simp]
theorem autoNow_core (ticket : Ticket) (columns : List Column) (now : Instant) :
    (ticket.autoNow columns now).core = ticket.core := by
  unfold Ticket.autoNow
  split <;> rfl

@[simp]
theorem autoNow_status (ticket : Ticket) (columns : List Column) (now : Instant) :
    (ticket.autoNow columns now).status = ticket.status := by
  unfold Ticket.autoNow
  split <;> rfl

theorem checkResolutionBreach_eq (ticket : Ticket) (now : Instant) :
    ∃ breached, checkResolutionBreach ticket now =
      { ticket with slaResolutionBreached := breached } := by
  unfold checkResolutionBreach
  split
  · exact ⟨_, rfl⟩
  split
  · exact ⟨_, rfl⟩
  split
  · exact ⟨true, rfl⟩
  · exact ⟨_, rfl⟩

theorem handleTicketStatusChange_eq (now : Instant) (previous inst : Ticket) :
    ∃ resolvedAt closedAt breached, handleTicketStatusChange now previous inst =
      { inst with resolvedAt, closedAt, slaResolutionBreached := breached } := by
  unfold handleTicketStatusChange
  split
  · exact ⟨_, _, _, rfl⟩
  split
  · obtain ⟨breached, hbreach⟩ := checkResolutionBreach_eq
      { inst with
        resolvedAt := some (inst.resolvedAt.getD now)
        closedAt := some (inst.closedAt.getD now) } now
    rw [hbreach]
    exact ⟨_, _, breached, rfl⟩
  · exact ⟨none, none, _, rfl⟩

@[simp]
theorem handleTicketStatusChange_status (now : Instant) (previous inst : Ticket) :
    (handleTicketStatusChange now previous inst).status = inst.status := by
  obtain ⟨resolvedAt, closedAt, breached, hinst⟩ := handleTicketStatusChange_eq now previous inst
  rw [hinst]

variable (clock) in
/-- A write that includes the status, or finds it unchanged, leaves a settled session. -/
theorem write_settled {columns : List Column} {s : Session} {previous : Ticket}
    (hrow : s.db.tickets s.id = some previous)
    (hstatus : .status ∈ columns ∨ previous.status = s.ticket.status) :
    Settled (write clock columns s) := by
  rw [write_of_row hrow]
  refine ⟨_, by simp [Db.updateTicket]; rfl, ?_⟩
  dsimp only [Ticket.persist]
  split
  · rfl
  · rename_i hnot
    simpa [hnot] using hstatus

theorem saveDepth_of_settled {s : Session} (settled : Settled s) (depth : ℕ)
    (columns : List Column) : saveDepth ws clock depth columns s = write clock columns s := by
  cases depth with
  | zero => rfl
  | succ depth =>
    obtain ⟨row, hrow, hstatus⟩ := settled
    rw [saveDepth, hrow]
    dsimp only
    rw [handleSlaPauseOnStatusChange, if_pos]
    rw [write_of_row hrow, hstatus]
    simp

/-- Only the columns of the SLA clock differ, in memory and in the store. -/
structure Quiet (s s' : Session) : Prop where
  id : s'.id = s.id
  core : s'.ticket.core = s.ticket.core
  row : (s'.db.tickets s.id).map Ticket.core = (s.db.tickets s.id).map Ticket.core
  statusLog : s'.db.statusLog = s.db.statusLog

namespace Quiet

theorem settled {s s' : Session} (quiet : Quiet s s') (settled : Settled s) : Settled s' := by
  obtain ⟨row, hrow, hstatus⟩ := settled
  have hmap := quiet.row
  rw [hrow, Option.map_some, Option.map_eq_some_iff] at hmap
  obtain ⟨row', hrow', hcore⟩ := hmap
  refine ⟨row', by rw [quiet.id, hrow'], ?_⟩
  rw [eq_of_core hcore Ticket.status (fun _ => rfl), hstatus,
    eq_of_core quiet.core Ticket.status (fun _ => rfl)]

theorem refl (s : Session) : Quiet s s := ⟨rfl, rfl, rfl, rfl⟩

theorem trans {a b c : Session} (first : Quiet a b) (second : Quiet b c) : Quiet a c where
  id := second.id.trans first.id
  core := second.core.trans first.core
  row := by
    have hrow := second.row
    rw [first.id] at hrow
    exact hrow.trans first.row
  statusLog := second.statusLog.trans first.statusLog

theorem respected : Respected (fun s s' => Settled s → Quiet s s') where
  refl s _ := Quiet.refl s
  trans first second settled :=
    (first settled).trans (second ((first settled).settled settled))
  log _ _ _ := ⟨rfl, rfl, rfl, rfl⟩
  modify s _ hcore _ := ⟨rfl, hcore s.ticket, rfl, rfl⟩

theorem ignoresPauses : IgnoresPauses (fun s s' => Settled s → Quiet s s') :=
  fun _ _ _ _ => ⟨rfl, rfl, rfl, rfl⟩

end Quiet

theorem persist_core_of_clockOnly {columns : List Column} (clockOnly : ClockOnly columns)
    (inst row : Ticket) : (inst.persist columns row).core = row.core := by
  have hnot : ∀ column : Column, column ∉ ([.updatedAt, .slaFirstResponseDue,
      .slaResolutionDue, .slaPausedAt] : List Column) → column ∉ columns :=
    fun column hcolumn hmem => hcolumn (clockOnly column hmem)
  simp (disch := decide) [Ticket.core, Ticket.persist, hnot]

theorem write_quiet {columns : List Column} (clockOnly : ClockOnly columns) {s : Session}
    (settled : Settled s) : Quiet s (write clock columns s) := by
  obtain ⟨row, hrow, hstatus⟩ := settled
  have hnot : Column.status ∉ columns := by
    intro hmem
    have hclock := clockOnly _ hmem
    simp at hclock
  rw [write_of_row hrow, handleTicketStatusChange_of_same hstatus]
  refine ⟨rfl, autoNow_core _ _ _, ?_, ?_⟩
  · simp [Db.updateTicket, hrow, persist_core_of_clockOnly clockOnly]
  · simp [Db.updateTicket, Ticket.persist, hnot]

variable (ws clock) in
/-- Once the write has settled the status, the rest of a save is quiet. -/
theorem save_quiet {columns : List Column} {s : Session} {previous : Ticket}
    (hrow : s.db.tickets s.id = some previous)
    (hstatus : .status ∈ columns ∨ previous.status = s.ticket.status) :
    Quiet (write clock columns s) (save ws clock columns s) := by
  rw [save, saveDepth, hrow]
  refine Quiet.respected.handleSlaPauseOnStatusChange Quiet.ignoresPauses ?_ _ _ _
    (write_settled _ hrow hstatus)
  intro columns clockOnly s settled
  rw [saveDepth_of_settled settled]
  exact write_quiet clockOnly settled

section Saved

variable {columns : List Column} {s : Session} {previous : Ticket}

theorem persist_autoNow_core (inst row : Ticket) (columns : List Column) (now : Instant) :
    ((inst.autoNow columns now).persist columns row).core = (inst.persist columns row).core := by
  unfold Ticket.autoNow
  split <;> rfl

variable (ws clock) in
/-- The row that a save leaves, up to the SLA clock. -/
theorem save_row (hrow : s.db.tickets s.id = some previous)
    (hstatus : .status ∈ columns ∨ previous.status = s.ticket.status) :
    ∃ row, (save ws clock columns s).db.tickets s.id = some row ∧
      row.core = ((handleTicketStatusChange clock.preSave previous s.ticket).persist
        columns previous).core := by
  have hquiet := (save_quiet ws clock hrow hstatus).row
  rw [(write_untouched _ columns s).id, write_of_row hrow] at hquiet
  simp only [Db.updateTicket, Function.update_self,
    Option.map_some, persist_autoNow_core, Option.map_eq_some_iff] at hquiet
  obtain ⟨row, hstored, hcore⟩ := hquiet
  exact ⟨row, hstored, hcore⟩

variable (ws clock) in
/-- The instance that a save leaves, up to the SLA clock. -/
theorem save_instance (hrow : s.db.tickets s.id = some previous)
    (hstatus : .status ∈ columns ∨ previous.status = s.ticket.status) :
    (save ws clock columns s).ticket.core =
      (handleTicketStatusChange clock.preSave previous s.ticket).core := by
  rw [(save_quiet ws clock hrow hstatus).core, write_of_row hrow]
  exact autoNow_core _ _ _

theorem save_statusLog (hrow : s.db.tickets s.id = some previous)
    (hstatus : .status ∈ columns ∨ previous.status = s.ticket.status) :
    (save ws clock columns s).db.statusLog =
      if previous.status = s.ticket.status then s.db.statusLog
      else s.db.statusLog ++ [⟨s.id, previous.status, s.ticket.status⟩] := by
  rw [(save_quiet ws clock hrow hstatus).statusLog, write_of_row hrow]
  by_cases hmem : Column.status ∈ columns
  · simp [Db.updateTicket, Ticket.persist, hmem]
  · simp [Db.updateTicket, Ticket.persist, hmem, hstatus.resolve_left hmem]

theorem save_settled (hrow : s.db.tickets s.id = some previous)
    (hstatus : .status ∈ columns ∨ previous.status = s.ticket.status) :
    Settled (save ws clock columns s) :=
  (save_quiet _ _ hrow hstatus).settled (write_settled _ hrow hstatus)

end Saved

/-! ## What a save does to the pauses -/

theorem openPauses_congr {db db' : Db} (h : db'.pauses = db.pauses) (ticket : ℕ) :
    db'.openPauses ticket = db.openPauses ticket := by
  rw [Db.openPauses, Db.pausesOf, h]
  rfl

theorem latestOpenPause_eq_none {db : Db} {ticket : ℕ} :
    db.latestOpenPause ticket = none ↔ db.openPauses ticket = [] := by
  rw [Db.latestOpenPause, List.head?_eq_none_iff]
  constructor
  · intro hsorted
    have hperm := List.perm_insertionSort (fun a b : SLAPause => b.pausedAt ≤ a.pausedAt)
      (db.openPauses ticket)
    rw [hsorted] at hperm
    exact hperm.nil_eq.symm
  · intro hnone
    rw [hnone]
    rfl

theorem openPauses_closePause {db : Db} {ticket : ℕ} {pause : SLAPause} {now : Instant}
    (hmem : pause ∈ db.openPauses ticket) :
    (db.closePause pause now).openPauses ticket = (db.openPauses ticket).erase pause := by
  have hselected : (pause.ticket == ticket) = true ∧ pause.resumedAt.isNone = true := by
    simp only [Db.openPauses, Db.pausesOf, List.mem_filter] at hmem
    exact ⟨hmem.1.2, hmem.2⟩
  simp only [Db.openPauses, Db.pausesOf, Db.closePause, List.filter_filter]
  apply filter_replace_of_pos
  · simp [hselected]
  · simp

theorem openPauses_openPause (db : Db) (ticket : ℕ) (now : Instant) :
    (db.openPause ticket now).openPauses ticket =
      db.openPauses ticket ++ [{ pk := db.pauses.length, ticket, pausedAt := now }] := by
  simp [Db.openPauses, Db.pausesOf, Db.openPause]

/-- Quiet, and the pauses are as they were. -/
structure Silent (s s' : Session) : Prop extends Quiet s s' where
  pauses : s'.db.pauses = s.db.pauses

theorem Silent.respected : Respected (fun s s' => Settled s → Silent s s') where
  refl s _ := ⟨Quiet.refl s, rfl⟩
  trans first second settled :=
    have hfirst := first settled
    have hsecond := second (hfirst.toQuiet.settled settled)
    ⟨hfirst.toQuiet.trans hsecond.toQuiet, hsecond.pauses.trans hfirst.pauses⟩
  log _ _ _ := ⟨⟨rfl, rfl, rfl, rfl⟩, rfl⟩
  modify s _ hcore _ := ⟨⟨rfl, hcore s.ticket, rfl, rfl⟩, rfl⟩

variable (clock) in
theorem write_pauses (columns : List Column) (s : Session) :
    (write clock columns s).db.pauses = s.db.pauses := by
  unfold write
  split <;> rfl

section Receiver

variable {nested : List Column → Session → Session}
variable (hnested : ∀ columns, ClockOnly columns →
  ∀ s, Settled s → Silent s (nested columns s))
include hnested

variable (ws) in
/-- `_resume_sla_pause` closes the latest open pause and leaves the others alone. -/
theorem resumeSlaPause_pauses (now : Instant) {s : Session} (settled : Settled s) :
    (resumeSlaPause ws nested now s).db.pauses =
      match s.db.latestOpenPause s.id with
      | none => s.db.pauses
      | some pause => (s.db.closePause pause now).pauses := by
  unfold resumeSlaPause
  cases hpause : s.db.latestOpenPause s.id with
  | none => rfl
  | some pause =>
    dsimp only
    have hshift := Silent.respected.shiftSlaDeadlines ws hnested pause.pausedAt now
      { s with db := s.db.closePause pause now } settled
    have hsettled := hshift.toQuiet.settled settled
    have hsave := hnested [.slaPausedAt, .updatedAt] clockOnly_paused
      ((shiftSlaDeadlines ws nested pause.pausedAt now
        { s with db := s.db.closePause pause now }).modify (Ticket.setSlaPausedAt none)) hsettled
    exact hsave.pauses.trans hshift.pauses

variable (ws nested) in
/-- After `_resume_sla_pause` one pause less is open, if any was. -/
theorem resumeSlaPause_openPauses_length (now : Instant) {s : Session} (settled : Settled s) :
    ((resumeSlaPause ws nested now s).db.openPauses s.id).length =
      (s.db.openPauses s.id).length - 1 := by
  have hpauses := resumeSlaPause_pauses ws hnested now settled
  cases hpause : s.db.latestOpenPause s.id with
  | none =>
    rw [hpause] at hpauses
    rw [openPauses_congr hpauses, latestOpenPause_eq_none.mp hpause]
    rfl
  | some pause =>
    rw [hpause] at hpauses
    have hmem := mem_of_latestOpenPause hpause
    rw [openPauses_congr hpauses, openPauses_closePause hmem, List.length_erase_of_mem hmem]

variable (ws nested) in
/-- The pause receiver keeps the number of open pauses in step with the status. -/
theorem handleSlaPause_openPauses_length (previous : TicketStatus) (now : Instant) {s : Session}
    (settled : Settled s) :
    ((handleSlaPauseOnStatusChange ws nested previous now s).db.openPauses s.id).length =
      if previous.pausesSla = s.ticket.status.pausesSla then
        (s.db.openPauses s.id).length
      else if s.ticket.status.pausesSla then (s.db.openPauses s.id).length + 1
      else (s.db.openPauses s.id).length - 1 := by
  unfold handleSlaPauseOnStatusChange
  split
  · rename_i hsame
    rw [hsame, if_pos rfl]
  split
  · rename_i hold hnew
    have hsave := hnested [.slaPausedAt, .updatedAt] clockOnly_paused
      (({ s with db := s.db.openPause s.id now }).modify
        (Ticket.setSlaPausedAt (some now))) settled
    simp only [hold, hnew, Bool.false_eq_true, if_false, if_true]
    refine (congrArg List.length (openPauses_congr hsave.pauses s.id)).trans ?_
    exact (congrArg List.length (openPauses_openPause s.db s.id now)).trans (by simp)
  · rename_i hold hnew
    simp only [hold, hnew, Bool.true_eq_false, if_false]
    exact resumeSlaPause_openPauses_length _ _ hnested now settled
  · rename_i hsame
    rw [if_pos]
    cases hold : previous.pausesSla <;> cases hnew : s.ticket.status.pausesSla <;> simp_all

/-- `_resume_sla_pause` opens no pause. -/
theorem resumeSlaPause_openPauses_subset (now : Instant) {s : Session} (settled : Settled s) :
    (resumeSlaPause ws nested now s).db.openPauses s.id ⊆ s.db.openPauses s.id := by
  have hpauses := resumeSlaPause_pauses ws hnested now settled
  cases hpause : s.db.latestOpenPause s.id with
  | none =>
    rw [hpause] at hpauses
    rw [openPauses_congr hpauses]
    exact List.Subset.refl _
  | some pause =>
    rw [hpause] at hpauses
    rw [openPauses_congr hpauses, openPauses_closePause (mem_of_latestOpenPause hpause)]
    exact List.erase_subset

theorem mem_openPauses_handleSlaPause (previous : TicketStatus) (now : Instant) {s : Session}
    (settled : Settled s) {pause : SLAPause}
    (hmem : pause ∈ (handleSlaPauseOnStatusChange ws nested previous now s).db.openPauses s.id) :
    pause ∈ s.db.openPauses s.id ∨ pause.pausedAt = now := by
  unfold handleSlaPauseOnStatusChange at hmem
  split at hmem
  · exact .inl hmem
  split at hmem
  · have hsave := hnested [.slaPausedAt, .updatedAt] clockOnly_paused
      (({ s with db := s.db.openPause s.id now }).modify
        (Ticket.setSlaPausedAt (some now))) settled
    have hopened : pause ∈ (s.db.openPause s.id now).openPauses s.id :=
      (openPauses_congr hsave.pauses s.id) ▸ hmem
    rw [openPauses_openPause, List.mem_append, List.mem_singleton] at hopened
    exact hopened.imp_right fun hnew => by rw [hnew]
  · exact .inl (resumeSlaPause_openPauses_subset hnested now settled hmem)
  · exact .inl hmem

end Receiver

theorem saveDepth_silent (depth : ℕ) {columns : List Column} (clockOnly : ClockOnly columns)
    {s : Session} (settled : Settled s) : Silent s (saveDepth ws clock depth columns s) := by
  rw [saveDepth_of_settled settled]
  exact ⟨write_quiet clockOnly settled, write_pauses _ columns s⟩

variable (ws clock) in
/-- The open pauses that a save leaves, counted. -/
theorem save_openPauses_length {columns : List Column} {s : Session} {previous : Ticket}
    (hrow : s.db.tickets s.id = some previous)
    (hstatus : .status ∈ columns ∨ previous.status = s.ticket.status) :
    ((save ws clock columns s).db.openPauses s.id).length =
      if previous.status.pausesSla = s.ticket.status.pausesSla then
        (s.db.openPauses s.id).length
      else if s.ticket.status.pausesSla then (s.db.openPauses s.id).length + 1
      else (s.db.openPauses s.id).length - 1 := by
  have hcount := handleSlaPause_openPauses_length ws (saveDepth ws clock 1)
    (fun columns clockOnly s settled => saveDepth_silent 1 clockOnly settled)
    previous.status clock.postSave (write_settled clock hrow hstatus)
  have hwritten : (write clock columns s).ticket.status = s.ticket.status := by
    rw [write_of_row hrow]
    simp
  rw [(write_untouched _ columns s).id, hwritten, openPauses_congr (write_pauses _ columns s)] at hcount
  rw [← hcount, save, saveDepth, hrow]

theorem mem_openPauses_save {columns : List Column} {s : Session} {previous : Ticket}
    (hrow : s.db.tickets s.id = some previous)
    (hstatus : .status ∈ columns ∨ previous.status = s.ticket.status) {pause : SLAPause}
    (hmem : pause ∈ (save ws clock columns s).db.openPauses s.id) :
    pause ∈ s.db.openPauses s.id ∨ pause.pausedAt = clock.postSave := by
  have hid := (write_untouched clock columns s).id
  rw [save, saveDepth, hrow] at hmem
  dsimp only at hmem
  rw [← openPauses_congr (write_pauses clock columns s) s.id, ← hid]
  rw [← hid] at hmem
  exact mem_openPauses_handleSlaPause
    (fun columns clockOnly s settled => saveDepth_silent 1 clockOnly settled)
    previous.status clock.postSave (write_settled _ hrow hstatus) hmem

end Kanzan.Tickets

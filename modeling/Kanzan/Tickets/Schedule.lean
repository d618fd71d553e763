import Kanzan.Sla.Counting
import Kanzan.Tickets.Effects

/-!
# Deadlines and the policy they came from

Saving a policy computes the deadlines of its open tickets anew from their creation.
That gives back what is stored as long as nothing has moved a deadline on its own: the
start of the clock, the end of a pause and an escalation are the three that can.
-/

namespace Kanzan.Tickets

open Sla Support

variable {ws : Workspace} {req : Request} {clock : Clock}

/-! ## The plan of a store -/

/-- A policy with the creation and the deadlines of one of its tickets. -/
structure Schedule where
  policy : ℕ
  createdAt : Instant
  firstResponseDue : Option Instant
  resolutionDue : Option Instant
  deriving DecidableEq, Repr

def Ticket.schedule (ticket : Ticket) : Option Schedule :=
  ticket.slaPolicy.map fun policy =>
    ⟨policy, ticket.createdAt, ticket.slaFirstResponseDue, ticket.slaResolutionDue⟩

def Db.plan (db : Db) (id : ℕ) : Option (Option Schedule) :=
  (db.tickets id).map Ticket.schedule

/-- The store follows a plan, and so does the instance; no status change is pending. -/
structure OnPlan (plan : ℕ → Option (Option Schedule)) (s : Session) : Prop where
  store : s.db.plan = plan
  settled : Settled s
  loaded : plan s.id = some s.ticket.schedule

/-- No pause that could be resumed at an instant would move a deadline. -/
def Calm (ws : Workspace) (now : Instant) (s : Session) : Prop :=
  s.ticket.slaPolicy = none ∨
    ∀ pause ∈ s.db.openPauses s.id, elapsedBusinessMinutes pause.pausedAt now ws.toTenant ≤ 0

variable {plan : ℕ → Option (Option Schedule)}
variable {s s' : Session}
variable {columns : List Column} {now : Instant} {inst : Ticket} {newStatus : TicketStatus}

section Saves

theorem persist_schedule {row : Ticket} (h : inst.schedule = row.schedule) (columns : List Column) :
    (inst.persist columns row).schedule = row.schedule := by
  unfold Ticket.schedule Ticket.persist at *
  cases hinst : inst.slaPolicy <;> cases hrow : row.slaPolicy <;> simp_all

theorem autoNow_schedule (ticket : Ticket) (columns : List Column) (now : Instant) :
    (ticket.autoNow columns now).schedule = ticket.schedule := by
  unfold Ticket.autoNow
  split <;> rfl

theorem handleTicketStatusChange_schedule (now : Instant) (previous inst : Ticket) :
    (handleTicketStatusChange now previous inst).schedule = inst.schedule := by
  obtain ⟨resolvedAt, closedAt, breached, hinst⟩ := handleTicketStatusChange_eq now previous inst
  rw [hinst]
  rfl

theorem OnPlan.row (onPlan : OnPlan plan s) :
    ∃ row, s.db.tickets s.id = some row ∧ row.status = s.ticket.status ∧
      row.schedule = s.ticket.schedule := by
  obtain ⟨row, hrow, hstatus⟩ := onPlan.settled
  refine ⟨row, hrow, hstatus, ?_⟩
  have hplan := congrFun onPlan.store s.id
  rw [onPlan.loaded, Db.plan, hrow] at hplan
  exact Option.some.inj hplan

theorem OnPlan.congr (onPlan : OnPlan plan s) (htickets : s'.db.tickets = s.db.tickets)
    (hid : s'.id = s.id) (hticket : s'.ticket = s.ticket) : OnPlan plan s' where
  store := by
    rw [← onPlan.store]
    funext id
    rw [Db.plan, Db.plan, htickets]
  settled := by
    obtain ⟨row, hrow, hstatus⟩ := onPlan.settled
    exact ⟨row, by rw [htickets, hid, hrow], by rw [hticket, hstatus]⟩
  loaded := by rw [hid, hticket, onPlan.loaded]

theorem OnPlan.log (onPlan : OnPlan plan s) (event : ActivityEvent) :
    OnPlan plan (s.log event) := onPlan.congr rfl rfl rfl

theorem OnPlan.logSlaChange (onPlan : OnPlan plan s) (old : Ticket) :
    OnPlan plan (logSlaChange old s) := by
  unfold Tickets.logSlaChange
  split
  · exact onPlan
  · exact onPlan.log _

theorem OnPlan.write (onPlan : OnPlan plan s) (edit : Ticket → Ticket)
    (hedit : (edit s.ticket).schedule = s.ticket.schedule)
    (hlisted : .status ∈ columns ∨ (edit s.ticket).status = s.ticket.status) :
    OnPlan plan (write clock columns (s.modify edit)) := by
  obtain ⟨row, hrow, hstatus, hschedule⟩ := onPlan.row
  have hsettled : Settled (Tickets.write clock columns (s.modify edit)) :=
    write_settled _ (s := s.modify edit) hrow
      (hlisted.imp_right fun hsame => hstatus.trans hsame.symm)
  rw [write_of_row (s := s.modify edit) hrow] at hsettled ⊢
  have hinst : ((handleTicketStatusChange clock.preSave row (edit s.ticket)).autoNow columns
      clock.autoNow).schedule = s.ticket.schedule := by
    rw [autoNow_schedule, handleTicketStatusChange_schedule, hedit]
  refine ⟨?_, hsettled, onPlan.loaded.trans (congrArg some hinst.symm)⟩
  rw [← onPlan.store]
  funext id
  by_cases hid : id = s.id
  · subst hid
    dsimp only [Db.plan, Db.updateTicket, Session.modify]
    rw [Function.update_self, hrow, Option.map_some, Option.map_some]
    exact congrArg some (persist_schedule (hinst.trans hschedule.symm) columns)
  · dsimp only [Db.plan, Db.updateTicket, Session.modify]
    rw [Function.update_of_ne hid]

theorem OnPlan.saveDepth (onPlan : OnPlan plan s) (depth : ℕ) (edit : Ticket → Ticket)
    (hedit : (edit s.ticket).schedule = s.ticket.schedule)
    (hsame : (edit s.ticket).status = s.ticket.status) :
    OnPlan plan (saveDepth ws clock depth columns (s.modify edit)) := by
  obtain ⟨row, hrow, hstatus⟩ := onPlan.settled
  rw [saveDepth_of_settled (s := s.modify edit) ⟨row, hrow, hstatus.trans hsame.symm⟩]
  exact onPlan.write edit hedit (.inr hsame)

theorem OnPlan.shiftSlaDeadlines (onPlan : OnPlan plan s) (depth : ℕ) {pauseStart pauseEnd : Instant}
    (hcalm : s.ticket.slaPolicy = none ∨
      elapsedBusinessMinutes pauseStart pauseEnd ws.toTenant ≤ 0) :
    OnPlan plan (shiftSlaDeadlines ws (Tickets.saveDepth ws clock depth) pauseStart pauseEnd s) := by
  unfold Tickets.shiftSlaDeadlines
  dsimp only
  split
  · exact onPlan
  rename_i hlong
  split
  · exact onPlan
  have hnone := hcalm.resolve_right hlong
  refine (onPlan.saveDepth depth _ ?_ rfl).logSlaChange _
  simp [Ticket.schedule, Ticket.mapDeadlines, hnone]

theorem OnPlan.resumeSlaPause (onPlan : OnPlan plan s) (depth : ℕ) (calm : Calm ws now s) :
    OnPlan plan (resumeSlaPause ws (Tickets.saveDepth ws clock depth) now s) := by
  unfold Tickets.resumeSlaPause
  cases hpause : s.db.latestOpenPause s.id with
  | none => exact onPlan
  | some pause =>
    have hclosed : OnPlan plan { s with db := s.db.closePause pause now } :=
      onPlan.congr rfl rfl rfl
    have hshifted : OnPlan plan (Tickets.shiftSlaDeadlines ws (Tickets.saveDepth ws clock depth)
        pause.pausedAt now { s with db := s.db.closePause pause now }) :=
      hclosed.shiftSlaDeadlines depth
      (calm.imp_right fun hall => hall pause (mem_of_latestOpenPause hpause))
    exact (hshifted.saveDepth depth (Ticket.setSlaPausedAt none) rfl rfl).log _

theorem OnPlan.handleSlaPauseOnStatusChange (onPlan : OnPlan plan s) (depth : ℕ)
    {previous : TicketStatus}
    (hcalm : previous.pausesSla = true → s.ticket.status.pausesSla = false → Calm ws now s) :
    OnPlan plan (handleSlaPauseOnStatusChange ws (Tickets.saveDepth ws clock depth) previous now
      s) := by
  unfold Tickets.handleSlaPauseOnStatusChange
  split
  · exact onPlan
  split
  · have hopened : OnPlan plan { s with db := s.db.openPause s.id now } :=
      onPlan.congr rfl rfl rfl
    exact (hopened.saveDepth depth (Ticket.setSlaPausedAt (some now)) rfl rfl).log _
  · rename_i hold hnew
    exact onPlan.resumeSlaPause depth (hcalm hold hnew)
  · exact onPlan

theorem elapsedBusinessMinutes_self (instant : Instant) (tenant : Tenant) :
    elapsedBusinessMinutes instant instant tenant = 0 := by
  unfold elapsedBusinessMinutes
  split
  · simp
  split
  · simp
  · rw [countBusinessMinutes_eq, ticks_self, totalMinutes_zero]

theorem slaPolicy_of_schedule {a b : Ticket} (h : a.schedule = b.schedule) :
    a.slaPolicy = b.slaPolicy := by
  have hpolicy := congrArg (Option.map Schedule.policy) h
  simpa [Ticket.schedule, Function.comp_def] using hpolicy

theorem Calm.of_pauses (calm : Calm ws now s) (hschedule : s'.ticket.schedule = s.ticket.schedule)
    (hpauses : ∀ pause ∈ s'.db.openPauses s'.id,
      pause ∈ s.db.openPauses s.id ∨ pause.pausedAt = now) : Calm ws now s' := by
  refine calm.imp (slaPolicy_of_schedule hschedule).trans fun hall pause hpause => ?_
  rcases hpauses pause hpause with hbefore | hnew
  · exact hall pause hbefore
  · rw [hnew, elapsedBusinessMinutes_self]

theorem OnPlan.schedule_eq (onPlan : OnPlan plan s) (onPlan' : OnPlan plan s')
    (hid : s'.id = s.id) : s'.ticket.schedule = s.ticket.schedule := by
  have hloaded := onPlan'.loaded
  rw [hid, onPlan.loaded] at hloaded
  exact (Option.some.inj hloaded).symm

theorem OnPlan.save {columns : List Column} (onPlan : OnPlan plan s) (edit : Ticket → Ticket)
    (hedit : (edit s.ticket).schedule = s.ticket.schedule)
    (hlisted : .status ∈ columns ∨ (edit s.ticket).status = s.ticket.status)
    (hcalm : s.ticket.status.pausesSla = true → (edit s.ticket).status.pausesSla = false →
      Calm ws clock.postSave s) : OnPlan plan (save ws clock columns (s.modify edit)) := by
  obtain ⟨row, hrow, hstatus, -⟩ := onPlan.row
  have hrowEdited : (s.modify edit).db.tickets (s.modify edit).id = some row := hrow
  have hwritten : OnPlan plan (Tickets.write clock columns (s.modify edit)) :=
    onPlan.write edit hedit hlisted
  have hinst : (Tickets.write clock columns (s.modify edit)).ticket.status =
      (edit s.ticket).status := by
    rw [write_of_row hrowEdited]
    simp [Session.modify]
  have huntouched := write_untouched clock columns (s.modify edit)
  rw [Tickets.save, Tickets.saveDepth, hrowEdited]
  refine hwritten.handleSlaPauseOnStatusChange 1 ?_
  rw [hstatus, hinst]
  intro hold hnew
  refine (hcalm hold hnew).of_pauses (onPlan.schedule_eq hwritten huntouched.id) ?_
  intro pause hpause
  rw [huntouched.id, openPauses_congr (write_pauses _ columns _)] at hpause
  exact .inl hpause

theorem Calm.save {columns : List Column} (onPlan : OnPlan plan s) (edit : Ticket → Ticket)
    (hedit : (edit s.ticket).schedule = s.ticket.schedule)
    (hlisted : .status ∈ columns ∨ (edit s.ticket).status = s.ticket.status)
    (calm : Calm ws clock.postSave s) :
    Calm ws clock.postSave (save ws clock columns (s.modify edit)) := by
  obtain ⟨row, hrow, hstatus, -⟩ := onPlan.row
  have huntouched := save_untouched ws clock columns (s.modify edit)
  have hsaved : OnPlan plan (Tickets.save ws clock columns (s.modify edit)) :=
    onPlan.save edit hedit hlisted fun _ _ => calm
  refine calm.of_pauses (onPlan.schedule_eq hsaved huntouched.id) ?_
  intro pause hpause
  rw [huntouched.id] at hpause
  exact mem_openPauses_save (s := s.modify edit) hrow
    (hlisted.imp_right fun hsame => hstatus.trans hsame.symm) hpause

end Saves

/-! ## Operations that follow the plan -/

def Unscheduled (columns : List Column) : Prop :=
  ∀ column ∈ columns, column ∉ ([.slaPolicy, .slaFirstResponseDue, .slaResolutionDue] : List Column)

instance (columns : List Column) : Decidable (Unscheduled columns) :=
  inferInstanceAs (Decidable (∀ column ∈ columns, _))

section Operations

theorem persist_unscheduled (unscheduled : Unscheduled columns) (inst row : Ticket) :
    (inst.persist columns row).schedule = row.schedule := by
  have hnot : ∀ column : Column, column ∈ ([.slaPolicy, .slaFirstResponseDue,
      .slaResolutionDue] : List Column) → column ∉ columns :=
    fun column hcolumn hmem => unscheduled column hmem hcolumn
  simp (disch := decide) [Ticket.schedule, Ticket.persist, hnot]

theorem Edits.schedule (edits : Edits ws columns s s') (hstatus : .status ∉ columns)
    (unscheduled : Unscheduled columns) (settled : Settled s) :
    s'.ticket.schedule = s.ticket.schedule ∧ s'.db.plan = s.db.plan := by
  obtain ⟨hinst, hrow⟩ := edits.keeps hstatus settled Ticket.schedule
    (persist_unscheduled unscheduled) (fun _ _ => rfl) (fun _ _ _ => rfl)
  refine ⟨hinst, ?_⟩
  funext id
  by_cases hid : id = s.id
  · rw [hid]
    exact hrow
  · rw [Db.plan, Db.plan, edits.untouched.others id hid]

theorem OnPlan.edits (onPlan : OnPlan plan s) (edits : Edits ws columns s s')
    (hstatus : .status ∉ columns) (unscheduled : Unscheduled columns) : OnPlan plan s' := by
  obtain ⟨hschedule, hplan⟩ := edits.schedule hstatus unscheduled onPlan.settled
  refine ⟨hplan.trans onPlan.store, (edits.settled hstatus onPlan.settled).1, ?_⟩
  rw [edits.untouched.id, hschedule, onPlan.loaded]

theorem Calm.edits (calm : Calm ws now s) (settled : Settled s) (edits : Edits ws columns s s')
    (hstatus : .status ∉ columns) (unscheduled : Unscheduled columns) : Calm ws now s' := by
  refine calm.of_pauses (edits.schedule hstatus unscheduled settled).1 fun pause hpause => .inl ?_
  rwa [edits.untouched.id, openPauses_congr (edits.pauses hstatus settled)] at hpause

theorem carried_onPlan (hstatus : .status ∉ columns) (unscheduled : Unscheduled columns) :
    Carried ws columns (fun db => db.plan = plan) (OnPlan plan) where
  load := by
    rintro db id ticket rfl hticket
    exact ⟨rfl, ⟨ticket, hticket, rfl⟩, by rw [Db.plan, hticket]; rfl⟩
  store onPlan := onPlan.store
  edits edits onPlan := onPlan.edits edits hstatus unscheduled

theorem statusDraft_schedule :
    (statusDraft req newStatus inst).ticket.schedule = inst.schedule := by
  obtain ⟨preWait, breached, hdraft⟩ := statusDraft_ticket req _ _
  rw [hdraft]
  rfl

theorem OnPlan.changeTicketStatus (onPlan : OnPlan plan s)
    (hcalm : s.ticket.status.pausesSla = true → newStatus.pausesSla = false →
      Calm ws req.clock.postSave s) : OnPlan plan (changeTicketStatus ws req newStatus s) := by
  unfold Tickets.changeTicketStatus
  dsimp only
  split
  · exact onPlan
  have hsaved : OnPlan plan (saveDraft ws req.clock (statusDraft req newStatus s.ticket) s) :=
    onPlan.save _ statusDraft_schedule (.inl status_mem_statusDraft)
      (by rwa [statusDraft_status])
  split <;> exact hsaved.congr rfl rfl rfl

theorem Calm.changeTicketStatus (onPlan : OnPlan plan s) (newStatus : TicketStatus)
    (calm : Calm ws req.clock.postSave s) :
    Calm ws req.clock.postSave (changeTicketStatus ws req newStatus s) := by
  unfold Tickets.changeTicketStatus
  dsimp only
  split
  · exact calm
  have hsaved : Calm ws req.clock.postSave
      (saveDraft ws req.clock (statusDraft req newStatus s.ticket) s) :=
    calm.save onPlan _ statusDraft_schedule (.inl status_mem_statusDraft)
  split <;> exact hsaved

end Operations

end Kanzan.Tickets

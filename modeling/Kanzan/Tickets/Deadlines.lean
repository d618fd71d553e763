import Kanzan.Sla.Shifts
import Kanzan.Tickets.Schedule

/-!
# Deadlines over runs

The stored deadlines of a ticket whose clock was started at its creation: those of its policy,
shifted by the pauses that have ended, in the order in which they did.
-/

namespace Kanzan.Tickets

open Sla Support

variable {ws : Workspace} {req : Request} {clock : Clock} {s s' : Session} {target since : ℕ}
variable {pause : SLAPause} {other : TicketStatus} {policy : SLAPolicy} {columns : List Column}
variable {id : ℕ} {row ticket : Ticket} {ended : List SLAPause} {brokerUp : Bool}

/-! ## Pauses in turn -/

def SLAPause.span (pause : SLAPause) : Option (Instant × Instant) :=
  pause.resumedAt.map fun resumedAt => (pause.pausedAt, resumedAt)

def Db.endedPauses (db : Db) (ticket : ℕ) : List (Instant × Instant) :=
  (db.pausesOf ticket).filterMap SLAPause.span

/-- All pauses have ended but perhaps the last, which is open only in a status that pauses. -/
def InTurn (pauses : List SLAPause) (status : TicketStatus) : Prop :=
  ∃ ended, ∃ current : Option SLAPause, pauses = ended ++ current.toList ∧
    (∀ pause ∈ ended, pause.resumedAt ≠ none) ∧
    ∀ pause ∈ current, pause.resumedAt = none ∧ status.pausesSla = true

section InTurn

variable {pauses : List SLAPause} {status : TicketStatus}

theorem inTurn_nil : InTurn [] status := ⟨[], none, rfl, by simp, by simp⟩

theorem InTurn.mono (inTurn : InTurn pauses status)
    (hpauses : status.pausesSla = true → other.pausesSla = true) : InTurn pauses other := by
  obtain ⟨ended, current, hsplit, hended, hcurrent⟩ := inTurn
  exact ⟨ended, current, hsplit, hended, fun pause hpause =>
    ⟨(hcurrent pause hpause).1, hpauses (hcurrent pause hpause).2⟩⟩

theorem InTurn.append (inTurn : InTurn pauses status) (hrunning : status.pausesSla = false)
    (hpauses : other.pausesSla = true) (hopen : pause.resumedAt = none) :
    InTurn (pauses ++ [pause]) other := by
  obtain ⟨ended, current, rfl, hended, hcurrent⟩ := inTurn
  cases current with
  | some last =>
    have hpaused := (hcurrent last rfl).2
    rw [hrunning] at hpaused
    cases hpaused
  | none =>
    refine ⟨ended, some pause, by simp, hended, ?_⟩
    intro _ hpause
    cases hpause
    exact ⟨hopen, hpauses⟩

theorem InTurn.open_cases (inTurn : InTurn pauses status) :
    (pauses.filter (fun pause => pause.resumedAt.isNone) = [] ∧
      ∀ pause ∈ pauses, pause.resumedAt ≠ none) ∨
    ∃ ended pause, pauses = ended ++ [pause] ∧ (∀ pause ∈ ended, pause.resumedAt ≠ none) ∧
      pause.resumedAt = none ∧
      pauses.filter (fun pause => pause.resumedAt.isNone) = [pause] := by
  obtain ⟨ended, current, rfl, hended, hcurrent⟩ := inTurn
  have hnone : ended.filter (fun pause => pause.resumedAt.isNone) = [] := by
    rw [List.filter_eq_nil_iff]
    intro pause hpause
    simpa using hended pause hpause
  cases current with
  | none =>
    rw [Option.toList_none, List.append_nil]
    exact .inl ⟨hnone, hended⟩
  | some pause =>
    have hopen := (hcurrent pause rfl).1
    refine .inr ⟨ended, pause, rfl, hended, hopen, ?_⟩
    rw [Option.toList_some, List.filter_append, hnone]
    simp [hopen]

end InTurn

/-! ## Schedules and pauses -/

def Schedule.shift (f : Instant → Instant) (schedule : Schedule) : Schedule :=
  { schedule with
    firstResponseDue := schedule.firstResponseDue.map f
    resolutionDue := schedule.resolutionDue.map f }

theorem mapDeadlines_schedule (f : Instant → Instant) (ticket : Ticket) :
    (ticket.mapDeadlines f).schedule = ticket.schedule.map (Schedule.shift f) := by
  rw [Ticket.schedule, Ticket.schedule, Option.map_map]
  rfl

theorem schedule_shift_id (schedule : Option Schedule) :
    schedule.map (Schedule.shift fun due => due) = schedule := by
  cases schedule with
  | none => rfl
  | some schedule => simp [Schedule.shift]

/--
The deadlines are those of the ticket's policy, counted from its creation and shifted by the pauses
that have ended.
-/
def OnClock (ws : Workspace) (pauses : List (Instant × Instant)) (schedule : Schedule) : Prop :=
  ∃ policy ∈ ws.policies, policy.pk = schedule.policy ∧ policy.isActive = true ∧
    schedule.firstResponseDue =
      some (dueAfter ws.toTenant schedule.createdAt policy.firstResponseMinutes pauses) ∧
    schedule.resolutionDue =
      some (dueAfter ws.toTenant schedule.createdAt policy.resolutionMinutes pauses)

theorem OnClock.shift {pauses : List (Instant × Instant)} {schedule : Schedule}
    (onClock : OnClock ws pauses schedule) (pause : Instant × Instant) :
    OnClock ws (pauses ++ [pause])
      (schedule.shift fun due => shifted ws.toTenant due pause) := by
  obtain ⟨policy, hmem, hpk, hactive, hfirst, hresolution⟩ := onClock
  refine ⟨policy, hmem, hpk, hactive, ?_, ?_⟩
  · rw [dueAfter_concat]
    simp only [Schedule.shift, hfirst, Option.map_some]
  · rw [dueAfter_concat]
    simp only [Schedule.shift, hresolution, Option.map_some]

/--
The pauses of a ticket are in turn, and its deadlines, if it has a policy, are on the clock of
those that have ended since some number of them had.
-/
structure Timed (ws : Workspace) (since : ℕ) (pauses : List SLAPause) (status : TicketStatus)
    (schedule : Option Schedule) : Prop where
  inTurn : InTurn pauses status
  ended : since ≤ (pauses.filterMap SLAPause.span).length
  onClock : ∀ plan ∈ schedule, OnClock ws ((pauses.filterMap SLAPause.span).drop since) plan

/-! ## Sessions -/

/-- A loaded ticket, with the schedule that the instance and its row have. -/
structure Follows (schedule : Option Schedule) (s : Session) : Prop where
  onPlan : OnPlan s.db.plan s
  schedule : s.ticket.schedule = schedule

section Sessions

variable {plan : ℕ → Option (Option Schedule)} {schedule : Option Schedule}

theorem OnPlan.follows (onPlan : OnPlan plan s) : Follows s.ticket.schedule s where
  onPlan := by
    rw [onPlan.store]
    exact onPlan
  schedule := rfl

theorem Follows.of_onPlan (follows : Follows schedule s) (onPlan : OnPlan s.db.plan s')
    (hid : s'.id = s.id) : Follows schedule s' where
  onPlan := onPlan.follows.onPlan
  schedule := (follows.onPlan.schedule_eq onPlan hid).trans follows.schedule

theorem follows_of_row (hrow : s.db.tickets s.id = some row)
    (hstatus : row.status = s.ticket.status) (hschedule : row.schedule = s.ticket.schedule) :
    Follows s.ticket.schedule s where
  onPlan := ⟨rfl, ⟨row, hrow, hstatus⟩, by rw [Db.plan, hrow, Option.map_some, hschedule]⟩
  schedule := rfl

variable (ws clock) in
/-- A nested save that writes the whole schedule of its instance. -/
theorem Follows.replan (follows : Follows schedule s) (depth : ℕ) (edit : Ticket → Ticket)
    (hsame : (edit s.ticket).status = s.ticket.status)
    (hpersist : ∀ row : Ticket, row.schedule = s.ticket.schedule →
      ((edit s.ticket).persist columns row).schedule = (edit s.ticket).schedule) :
    Follows (edit s.ticket).schedule (saveDepth ws clock depth columns (s.modify edit)) := by
  obtain ⟨row, hrow, hstatus, hschedule⟩ := follows.onPlan.row
  have hedited : row.status = (edit s.ticket).status := hstatus.trans hsame.symm
  rw [saveDepth_of_settled (s := s.modify edit) ⟨row, hrow, hedited⟩, write_of_same hrow hedited]
  have hnow : (((edit s.ticket).autoNow columns clock.autoNow).persist columns row).schedule =
      ((edit s.ticket).persist columns row).schedule := by
    unfold Ticket.autoNow
    split <;> rfl
  have hinst := autoNow_schedule (edit s.ticket) columns clock.autoNow
  rw [← hinst]
  refine follows_of_row (s := { s with
    db := s.db.updateTicket s.id columns ((edit s.ticket).autoNow columns clock.autoNow) row
    ticket := (edit s.ticket).autoNow columns clock.autoNow }) (Function.update_self ..) ?_ ?_
  · dsimp only [Ticket.persist]
    rw [autoNow_status]
    split
    · rfl
    · exact hedited
  · dsimp only
    rw [hnow, hpersist row hschedule, hinst]

/-- The columns of `_shift_sla_deadlines` hold the whole schedule that it computes. -/
theorem persist_mapDeadlines {inst : Ticket} (h : row.schedule = inst.schedule)
    (f : Instant → Instant) :
    ((inst.mapDeadlines f).persist
        ((if inst.slaFirstResponseDue.isSome then [Column.slaFirstResponseDue] else []) ++
          (if inst.slaResolutionDue.isSome then [Column.slaResolutionDue] else []) ++
          [.updatedAt]) row).schedule = (inst.mapDeadlines f).schedule := by
  unfold Ticket.schedule at h ⊢
  cases hinst : inst.slaPolicy <;> cases hrow : row.slaPolicy <;>
    cases hfirst : inst.slaFirstResponseDue <;> cases hresolution : inst.slaResolutionDue <;>
      simp_all [Ticket.persist, Ticket.mapDeadlines]

theorem Follows.log (follows : Follows schedule s) (event : ActivityEvent) :
    Follows schedule (s.log event) :=
  follows.of_onPlan (follows.onPlan.log event) rfl

theorem Follows.logSlaChange (follows : Follows schedule s) (old : Ticket) :
    Follows schedule (logSlaChange old s) := by
  unfold Tickets.logSlaChange
  split
  · exact follows
  · exact follows.log _

variable (ws clock) in
/-- `_shift_sla_deadlines` shifts both deadlines. -/
theorem Follows.shift (follows : Follows schedule s) (depth : ℕ) (pauseStart pauseEnd : Instant) :
    Follows (schedule.map
        (Schedule.shift fun due => shifted ws.toTenant due (pauseStart, pauseEnd)))
      (shiftSlaDeadlines ws (saveDepth ws clock depth) pauseStart pauseEnd s) := by
  unfold shiftSlaDeadlines
  dsimp only [shifted]
  split
  · rw [schedule_shift_id]
    exact follows
  rw [← follows.schedule, ← mapDeadlines_schedule]
  split
  · rename_i hnone
    have hsame : (s.ticket.mapDeadlines fun due => addBusinessMinutes due
        (elapsedBusinessMinutes pauseStart pauseEnd ws.toTenant) ws.toTenant).schedule =
          s.ticket.schedule := by
      rw [Ticket.schedule, Ticket.schedule, Ticket.mapDeadlines, hnone.1, hnone.2]
      rfl
    rw [hsame, follows.schedule]
    exact follows
  · have hsaved := follows.replan ws clock depth _ rfl fun row hrow =>
      persist_mapDeadlines hrow fun due => addBusinessMinutes due
        (elapsedBusinessMinutes pauseStart pauseEnd ws.toTenant) ws.toTenant
    exact hsaved.logSlaChange _

/-- `_resume_sla_pause` shifts them by the pause that it ends. -/
theorem Follows.resume (follows : Follows schedule s) (depth : ℕ)
    (hpause : s.db.latestOpenPause s.id = some pause) (now : Instant) :
    Follows (schedule.map
        (Schedule.shift fun due => shifted ws.toTenant due (pause.pausedAt, now)))
      (resumeSlaPause ws (saveDepth ws clock depth) now s) := by
  have hclosed : Follows schedule { s with db := s.db.closePause pause now } :=
    follows.of_onPlan (follows.onPlan.congr rfl rfl rfl) rfl
  have hshifted := hclosed.shift ws clock depth pause.pausedAt now
  rw [resumeSlaPause, hpause]
  dsimp only
  refine Follows.log ?_ _
  refine hshifted.of_onPlan
    (hshifted.onPlan.saveDepth depth (Ticket.setSlaPausedAt none) rfl rfl) ?_
  exact (Untouched.respected.saveDepth Untouched.ignoresPauses
    (fun columns s => write_untouched _ columns s) depth _ _).id

end Sessions

/-! ## What a save does to the clock -/

section Clock

theorem pausesOf_openPause_self (db : Db) (ticket : ℕ) (now : Instant) :
    (db.openPause ticket now).pausesOf ticket =
      db.pausesOf ticket ++ [{ pk := db.pauses.length, ticket, pausedAt := now }] := by
  simp [Db.openPause, Db.pausesOf]

theorem pausesOf_closePause_self {db : Db} {ticket : ℕ} (hticket : pause.ticket = ticket)
    (hpauses : db.pausesOf ticket = ended ++ [pause])
    (hended : ∀ other ∈ ended, other.resumedAt ≠ none) (hopen : pause.resumedAt = none)
    (now : Instant) :
    (db.closePause pause now).pausesOf ticket =
      ended ++ [{ pause with resumedAt := some now }] := by
  subst hticket
  have hnotMem : pause ∉ ended := fun hmem => hended pause hmem hopen
  have hreplaced : (db.closePause pause now).pausesOf pause.ticket =
      (db.pausesOf pause.ticket).replace pause { pause with resumedAt := some now } := by
    apply filter_replace_of_both
    · exact beq_self_eq_true _
    · exact beq_self_eq_true _
  rw [hreplaced, hpauses, List.replace_append_right hnotMem, List.replace_cons_self]

variable {pauses : List SLAPause} {status : TicketStatus} {schedule : Option Schedule}

theorem Timed.mono (timed : Timed ws since pauses status schedule)
    (hpauses : status.pausesSla = true → other.pausesSla = true) :
    Timed ws since pauses other schedule where
  inTurn := timed.inTurn.mono hpauses
  ended := timed.ended
  onClock := timed.onClock

theorem filterMap_span_append (hopen : pause.resumedAt = none) (pauses : List SLAPause) :
    (pauses ++ [pause]).filterMap SLAPause.span = pauses.filterMap SLAPause.span := by
  have hspan : pause.span = none := by rw [SLAPause.span, hopen]; rfl
  rw [List.filterMap_append, List.filterMap_cons_none hspan, List.filterMap_nil, List.append_nil]

theorem Timed.append (timed : Timed ws since pauses status schedule)
    (hrunning : status.pausesSla = false) (hpauses : other.pausesSla = true)
    (hopen : pause.resumedAt = none) :
    Timed ws since (pauses ++ [pause]) other schedule where
  inTurn := timed.inTurn.append hrunning hpauses hopen
  ended := by
    rw [filterMap_span_append hopen]
    exact timed.ended
  onClock plan hplan := by
    rw [filterMap_span_append hopen]
    exact timed.onClock plan hplan

theorem Timed.close (timed : Timed ws since (ended ++ [pause]) status schedule)
    (hended : ∀ other ∈ ended, other.resumedAt ≠ none) (hopen : pause.resumedAt = none)
    (now : Instant) (other : TicketStatus) :
    Timed ws since (ended ++ [{ pause with resumedAt := some now }]) other
      (schedule.map
        (Schedule.shift fun due => shifted ws.toTenant due (pause.pausedAt, now))) where
  inTurn := by
    refine ⟨ended ++ [{ pause with resumedAt := some now }], none, by simp, ?_, by simp⟩
    intro row hrow
    rcases List.mem_append.mp hrow with hbefore | hlast
    · exact hended row hbefore
    · rw [List.mem_singleton.mp hlast]
      simp
  ended := by
    have hended := timed.ended
    rw [filterMap_span_append hopen] at hended
    rw [List.filterMap_append, List.length_append]
    exact hended.trans (Nat.le_add_right _ _)
  onClock plan hplan := by
    obtain ⟨before, hbefore, rfl⟩ := Option.map_eq_some_iff.mp hplan
    have hcounted := timed.ended
    have onClock := timed.onClock before hbefore
    rw [filterMap_span_append hopen] at hcounted onClock
    rw [List.filterMap_append, List.drop_append_of_le_length hcounted]
    exact onClock.shift (pause.pausedAt, now)

/-- A loaded ticket agrees with its row, and is timed. -/
structure OnTime (ws : Workspace) (since : ℕ) (s : Session) : Prop where
  onPlan : OnPlan s.db.plan s
  timed : Timed ws since (s.db.pausesOf s.id) s.ticket.status s.ticket.schedule

theorem Follows.onTime (follows : Follows schedule s') (hid : s'.id = id)
    (hpauses : s'.db.pausesOf id = pauses) (timed : Timed ws since pauses s'.ticket.status schedule)
    : OnTime ws since s' where
  onPlan := follows.onPlan
  timed := by rwa [hid, hpauses, follows.schedule]

theorem pausesOf_congr {db db' : Db} (h : db'.pauses = db.pauses) (ticket : ℕ) :
    db'.pausesOf ticket = db.pausesOf ticket := by
  rw [Db.pausesOf, h]
  rfl

/-- `_resume_sla_pause` keeps a ticket timed, whatever its status. -/
theorem Follows.resume_onTime (follows : Follows schedule s)
    (timed : Timed ws since (s.db.pausesOf s.id) status schedule) (depth : ℕ) (now : Instant) :
    OnTime ws since (resumeSlaPause ws (saveDepth ws clock depth) now s) := by
  have hsilent : ∀ columns, ClockOnly columns → ∀ s, Settled s →
      Silent s (saveDepth ws clock depth columns s) :=
    fun _ clockOnly _ settled => saveDepth_silent depth clockOnly settled
  have hquiet : Quiet s (resumeSlaPause ws (saveDepth ws clock depth) now s) :=
    Quiet.respected.resumeSlaPause Quiet.ignoresPauses
      (fun columns clockOnly s settled => (hsilent columns clockOnly s settled).toQuiet) now s
      follows.onPlan.settled
  have hpauses := resumeSlaPause_pauses ws hsilent now follows.onPlan.settled
  rcases timed.inTurn.open_cases with ⟨hnone, hall⟩ | ⟨ended, pause, hsplit, hended, hopen, hlast⟩
  · have hlatest := latestOpenPause_eq_none.mpr hnone
    rw [resumeSlaPause, hlatest]
    refine follows.onTime rfl rfl ⟨⟨_, none, by simp, hall, by simp⟩, timed.ended, timed.onClock⟩
  · have hlatest : s.db.latestOpenPause s.id = some pause := by
      rw [Db.latestOpenPause, Db.openPauses, hlast]
      rfl
    have hticket := ticket_of_mem_openPauses (mem_of_latestOpenPause hlatest)
    rw [hlatest] at hpauses
    have hclosed := (pausesOf_congr hpauses s.id).trans
      (pausesOf_closePause_self hticket hsplit hended hopen now)
    rw [hsplit] at timed
    exact (follows.resume depth hlatest now).onTime hquiet.id hclosed
      (timed.close hended hopen now _)

theorem Follows.receive (follows : Follows schedule s)
    (timed : Timed ws since (s.db.pausesOf s.id) status schedule) (depth : ℕ) (now : Instant) :
    OnTime ws since (handleSlaPauseOnStatusChange ws (saveDepth ws clock depth) status now s) := by
  unfold handleSlaPauseOnStatusChange
  split
  · rename_i hsame
    exact follows.onTime rfl rfl (hsame ▸ timed)
  split
  · rename_i hold hnew
    have hopened : Follows schedule { s with db := s.db.openPause s.id now } :=
      follows.of_onPlan (follows.onPlan.congr rfl rfl rfl) rfl
    let opened : Session := { s with db := s.db.openPause s.id now }
    let paused := opened.modify (Ticket.setSlaPausedAt (some now))
    have hsilent : Silent paused (saveDepth ws clock depth [.slaPausedAt, .updatedAt] paused) :=
      saveDepth_silent depth clockOnly_paused follows.onPlan.settled
    have hsaved : Follows schedule (saveDepth ws clock depth [.slaPausedAt, .updatedAt] paused) :=
      hopened.of_onPlan (hopened.onPlan.saveDepth depth _ rfl rfl) hsilent.id
    have hpauses := (pausesOf_congr hsilent.pauses s.id).trans
      (pausesOf_openPause_self s.db s.id now)
    have hstatus := eq_of_core hsilent.core Ticket.status fun _ => rfl
    refine (hsaved.log .slaPaused).onTime hsilent.id hpauses ?_
    exact timed.append hold ((congrArg TicketStatus.pausesSla hstatus).trans hnew) rfl
  · exact follows.resume_onTime timed depth now
  · rename_i hother
    refine follows.onTime rfl rfl (timed.mono fun hpauses => ?_)
    by_contra hrunning
    exact hother hpauses (Bool.eq_false_iff.mpr hrunning)

end Clock

/-! ## One ticket of the store -/

/-- One id is timed if it is stored, and has no pause otherwise. -/
structure Timely (ws : Workspace) (since target : ℕ) (db : Db) : Prop where
  stored : ∀ row, db.tickets target = some row →
    Timed ws since (db.pausesOf target) row.status row.schedule
  fresh : db.tickets target = none → db.pausesOf target = [] ∧ since = 0

/-- The store is timed, and so is the loaded ticket if it is the one. -/
structure Attends (ws : Workspace) (since target : ℕ) (s : Session) : Prop where
  store : Timely ws since target s.db
  settled : Settled s
  own : s.id = target → OnTime ws since s

section Attending

theorem OnTime.timely (onTime : OnTime ws since s) : Timely ws since s.id s.db where
  stored row hrow := by
    obtain ⟨stored, hstored, hstatus, hschedule⟩ := onTime.onPlan.row
    obtain rfl := Option.some.inj (hrow.symm.trans hstored)
    rw [hstatus, hschedule]
    exact onTime.timed
  fresh hnone := by
    obtain ⟨row, hrow, -⟩ := onTime.onPlan.row
    rw [hrow] at hnone
    cases hnone

theorem OnTime.attends (onTime : OnTime ws since s) (hid : s.id = target) :
    Attends ws since target s where
  store := hid ▸ onTime.timely
  settled := onTime.onPlan.settled
  own _ := onTime

variable {db : Db}

theorem Attends.load (timely : Timely ws since target db) (hticket : db.tickets id = some ticket) :
    Attends ws since target { db, id, ticket } where
  store := timely
  settled := ⟨ticket, hticket, rfl⟩
  own := by
    rintro rfl
    refine ⟨⟨rfl, ⟨ticket, hticket, rfl⟩, ?_⟩, timely.stored ticket hticket⟩
    rw [Db.plan, hticket]
    rfl

theorem Timely.congr {db' : Db} (timely : Timely ws since target db)
    (htickets : db'.tickets = db.tickets) (hpauses : db'.pauses = db.pauses) :
    Timely ws since target db' where
  stored row hrow := by
    rw [pausesOf_congr hpauses]
    exact timely.stored row (by rw [← htickets, hrow])
  fresh hnone := by
    rw [pausesOf_congr hpauses]
    exact timely.fresh (by rw [← htickets, hnone])

theorem OnTime.congr (onTime : OnTime ws since s) (htickets : s'.db.tickets = s.db.tickets)
    (hpauses : s'.db.pauses = s.db.pauses) (hid : s'.id = s.id) (hticket : s'.ticket = s.ticket) :
    OnTime ws since s' where
  onPlan := (onTime.onPlan.congr htickets hid hticket).follows.onPlan
  timed := by
    rw [hid, pausesOf_congr hpauses, hticket]
    exact onTime.timed

theorem Attends.congr (attends : Attends ws since target s)
    (htickets : s'.db.tickets = s.db.tickets) (hpauses : s'.db.pauses = s.db.pauses)
    (hid : s'.id = s.id) (hticket : s'.ticket = s.ticket) :
    Attends ws since target s' where
  store := attends.store.congr htickets hpauses
  settled := by
    obtain ⟨row, hrow, hstatus⟩ := attends.settled
    exact ⟨row, by rw [htickets, hid, hrow], by rw [hticket, hstatus]⟩
  own htarget := (attends.own (hid ▸ htarget)).congr htickets hpauses hid hticket

theorem Attends.log (attends : Attends ws since target s) (event : ActivityEvent) :
    Attends ws since target (s.log event) := attends.congr rfl rfl rfl rfl

theorem Timely.of_untouched (timely : Timely ws since target s.db) (untouched : Untouched s s')
    (hother : s.id ≠ target) : Timely ws since target s'.db where
  stored row hrow := by
    rw [untouched.pauses target hother.symm]
    exact timely.stored row (by rw [← untouched.others target hother.symm, hrow])
  fresh hnone := by
    rw [untouched.pauses target hother.symm]
    exact timely.fresh (by rw [← untouched.others target hother.symm, hnone])

theorem Attends.of_untouched (attends : Attends ws since target s) (untouched : Untouched s s')
    (settled : Settled s') (own : OnTime ws since s → OnTime ws since s') :
    Attends ws since target s' := by
  by_cases hid : s.id = target
  · exact (own (attends.own hid)).attends (untouched.id.trans hid)
  · refine ⟨attends.store.of_untouched untouched hid, settled, fun htarget => ?_⟩
    exact absurd (untouched.id.symm.trans htarget) hid

theorem OnTime.save {columns : List Column} (onTime : OnTime ws since s) (edit : Ticket → Ticket)
    (hedit : (edit s.ticket).schedule = s.ticket.schedule)
    (hlisted : .status ∈ columns ∨ (edit s.ticket).status = s.ticket.status) :
    OnTime ws since (save ws clock columns (s.modify edit)) := by
  obtain ⟨row, hrow, hstatus, -⟩ := onTime.onPlan.row
  have hrowEdited : (s.modify edit).db.tickets (s.modify edit).id = some row := hrow
  have huntouched := write_untouched clock columns (s.modify edit)
  have hwritten : Follows s.ticket.schedule (write clock columns (s.modify edit)) :=
    onTime.onPlan.follows.of_onPlan (onTime.onPlan.write edit hedit hlisted) huntouched.id
  rw [Tickets.save, saveDepth, hrowEdited]
  refine hwritten.receive ?_ 1 clock.postSave
  rw [huntouched.id, pausesOf_congr (write_pauses _ columns _), hstatus]
  exact onTime.timed

theorem Attends.saveDraft {draft : Draft} (attends : Attends ws since target s)
    (hschedule : draft.ticket.schedule = s.ticket.schedule)
    (hlisted : .status ∈ draft.updateFields ∨ draft.ticket.status = s.ticket.status) :
    Attends ws since target (saveDraft ws clock draft s) := by
  obtain ⟨row, hrow, hstatus⟩ := attends.settled
  have hrowListed := hlisted.imp_right fun hsame => hstatus.trans hsame.symm
  exact attends.of_untouched (saveDraft_untouched ws clock draft s)
    (saveDraft_settled hrow hrowListed) fun onTime => onTime.save _ hschedule hlisted

theorem OnTime.edits (onTime : OnTime ws since s) (edits : Edits ws columns s s')
    (hstatus : .status ∉ columns) (unscheduled : Unscheduled columns) : OnTime ws since s' where
  onPlan := (onTime.onPlan.edits edits hstatus unscheduled).follows.onPlan
  timed := by
    have settled := onTime.onPlan.settled
    have hsame := (edits.keeps hstatus settled Ticket.status
      (fun _ _ => by simp [Ticket.persist, hstatus]) (fun _ _ => rfl) fun _ _ _ => rfl).1
    rw [edits.untouched.id, pausesOf_congr (edits.pauses hstatus settled), hsame,
      (edits.schedule hstatus unscheduled settled).1]
    exact onTime.timed

theorem carried_timely (hstatus : .status ∉ columns) (unscheduled : Unscheduled columns) :
    Carried ws columns (Timely ws since target) (Attends ws since target) where
  load timely hticket := Attends.load timely hticket
  store attends := attends.store
  edits edits attends := attends.of_untouched edits.untouched
    (edits.settled hstatus attends.settled).1 fun onTime => onTime.edits edits hstatus unscheduled

theorem Timely.updateWhere (timely : Timely ws since target db) (id : ℕ) {edit : Ticket → Ticket}
    (hstatus : ∀ row, (edit row).status = row.status)
    (hschedule : ∀ row, (edit row).schedule = row.schedule) :
    Timely ws since target (db.updateWhere id edit) where
  stored row hrow := by
    dsimp only [Db.updateWhere] at hrow
    split at hrow
    · obtain ⟨before, hbefore, rfl⟩ := Option.map_eq_some_iff.mp hrow
      rw [hstatus, hschedule]
      exact timely.stored before hbefore
    · exact timely.stored row hrow
  fresh hnone := by
    refine timely.fresh ?_
    dsimp only [Db.updateWhere] at hnone
    split at hnone
    · exact Option.map_eq_none_iff.mp hnone
    · exact hnone

end Attending

/-! ## Operations -/

section Operations

theorem changeTicketStatus_attends (newStatus : TicketStatus) (s : Session)
    (attends : Attends ws since target s) :
    Attends ws since target (changeTicketStatus ws req newStatus s) := by
  unfold changeTicketStatus
  dsimp only
  split
  · exact attends
  have hsaved : Attends ws since target
      (saveDraft ws req.clock (statusDraft req newStatus s.ticket) s) :=
    attends.saveDraft statusDraft_schedule (.inl status_mem_statusDraft)
  split <;> exact hsaved.congr rfl rfl rfl rfl

theorem mergeTickets_attends {primary : ℕ} (attends : Attends ws since target s)
    (success : mergeTickets ws req primary s = .ok s') : Attends ws since target s' := by
  obtain ⟨-, rfl⟩ := mergeTickets_cases success
  have hmoved : Attends ws since target { s with db := s.db.moveActivities s.id primary } :=
    attends.congr rfl rfl rfl rfl
  have hsaved : Attends ws since target (saveDraft ws req.clock (mergeDraft ws req primary s.ticket)
      { s with db := s.db.moveActivities s.id primary }) := by
    refine hmoved.saveDraft ?_ (.inl (List.mem_cons_self ..))
    unfold mergeDraft
    cases ws.closedStatus <;> rfl
  exact hsaved.congr rfl rfl rfl rfl

theorem transitionPipelineStage_attends {newStage : PipelineStage} {reason : String}
    (attends : Attends ws since target s)
    (success : transitionPipelineStage ws req newStage reason s = .ok s') :
    Attends ws since target s' := by
  obtain rfl | ⟨-, rfl⟩ := transitionPipelineStage_cases success
  · exact attends
  refine (attends.saveDraft ?_ stageDraft_listed).log _
  obtain ⟨_, _, _, _, _, _, hdraft⟩ := stageDraft_eq ws req newStage reason s.ticket
  rw [hdraft]
  rfl

theorem assignTicket_attends {assignee : ℕ} {note : String} (attends : Attends ws since target s)
    (success : assignTicket ws req assignee note s = .ok s') : Attends ws since target s' := by
  obtain ⟨-, events, rfl⟩ := assignTicket_cases success
  have hsaved : Attends ws since target
      (saveDraft ws req.clock (assignDraft ws req assignee s.ticket) s) := by
    refine attends.saveDraft rfl ?_
    cases htarget : autoTransition ws s.ticket.status with
    | none => exact .inr (by simp [assignDraft, htarget])
    | some target => exact .inl (by simp [assignDraft, htarget])
  have hrecorded : Attends ws since target ((saveDraft ws req.clock
      (assignDraft ws req assignee s.ticket) s).recordAssignment assignee req.actor note) :=
    hsaved.congr rfl rfl rfl rfl
  exact List.foldlRecOn _ _ hrecorded fun _ attends event _ => attends.log event

theorem addReplyToTicket_attends (inbound : InboundReply) (attends : Attends ws since target s) :
    Attends ws since target (addReplyToTicket ws req inbound s) := by
  have hresumed : Attends ws since target (s.resumeForReply ws req inbound) := by
    refine attends.of_untouched (resumeForReply_untouched ws req inbound s)
      ((resumeForReply_quiet ws req inbound attends.settled).settled attends.settled) ?_
    intro onTime
    unfold Session.resumeForReply
    split
    · exact onTime.onPlan.follows.resume_onTime onTime.timed 2 req.clock.postSave
    · exact onTime
  rw [addReplyToTicket_eq]
  split
  · exact attends
  · unfold changeStatusTo
    split
    · exact hresumed
    · exact changeTicketStatus_attends _ _ hresumed

variable {db : Db}

theorem initializeSla_onTime (hpauses : db.pausesOf id = []) (hpolicy : ticket.slaPolicy = none)
    (hcreated : ticket.createdAt = req.clock.service) :
    OnTime ws 0 (initializeSla ws req { db := db.insertTicket id ticket, id, ticket }) := by
  have hinserted : (db.insertTicket id ticket).tickets id = some ticket := Function.update_self ..
  have hloaded : Follows ticket.schedule { db := db.insertTicket id ticket, id, ticket } :=
    follows_of_row (s := { db := db.insertTicket id ticket, id, ticket }) hinserted rfl rfl
  unfold initializeSla
  cases hfound : ws.policyFor ticket.priority with
  | none =>
    refine hloaded.onTime rfl hpauses ⟨inTurn_nil, Nat.zero_le _, ?_⟩
    rw [Ticket.schedule, hpolicy]
    simp
  | some policy =>
    dsimp only
    rw [save_of_same ⟨ticket, hinserted, rfl⟩ rfl, write_of_same hinserted]
    swap
    · rfl
    refine (follows_of_row (Function.update_self ..) ?_ ?_).onTime rfl hpauses
      ⟨inTurn_nil, Nat.zero_le _, ?_⟩
    · simp [Ticket.persist]
    · simp [Ticket.persist, Ticket.schedule, Ticket.autoNow]
    · intro plan hplan
      rw [autoNow_schedule] at hplan
      cases hplan
      exact ⟨policy, ws.policyFor_mem hfound, rfl, ws.policyFor_isActive hfound,
        by rw [hcreated]; rfl, by rw [hcreated]; rfl⟩

variable (req) in
/-- Saving its policy counts the deadlines of a ticket anew from the creation. -/
theorem applyPolicyToTicket_onTime (hpolicy : policy ∈ ws.policies) (onTime : OnTime ws since s)
    (huses : s.ticket.slaPolicy = some policy.pk) :
    OnTime ws (s.db.endedPauses s.id).length (applyPolicyToTicket ws req policy s) := by
  have edits : Edits ws _ s (applyPolicyToTicket ws req policy s) :=
    applyPolicyToTicket_edits s policy
  have settled := onTime.onPlan.settled
  have hpauses := pausesOf_congr (edits.pauses (by decide) settled) s.id
  have hsame := (edits.keeps (by decide) settled Ticket.status
    (fun _ _ => by simp [Ticket.persist]) (fun _ _ => rfl) fun _ _ _ => rfl).1
  let edit : Ticket → Ticket := fun ticket =>
    { ticket with
      slaFirstResponseDue :=
        some (addBusinessMinutes s.ticket.createdAt policy.firstResponseMinutes ws.toTenant)
      slaResolutionDue :=
        some (addBusinessMinutes s.ticket.createdAt policy.resolutionMinutes ws.toTenant) }
  have hsaved : Follows (edit s.ticket).schedule (Tickets.save ws req.clock
      [.slaFirstResponseDue, .slaResolutionDue, .updatedAt] (s.modify edit)) := by
    refine onTime.onPlan.follows.replan ws req.clock 2 edit rfl fun row hrow => ?_
    have hrowUses := (slaPolicy_of_schedule hrow).trans huses
    simp only [Ticket.schedule, huses, hrowUses, Option.map_some, Option.some.injEq,
      Schedule.mk.injEq, true_and] at hrow
    simp [Ticket.schedule, Ticket.persist, edit, huses, hrowUses, hrow.1]
  have hplanned : (edit s.ticket).schedule = some ⟨policy.pk, s.ticket.createdAt,
      (edit s.ticket).slaFirstResponseDue, (edit s.ticket).slaResolutionDue⟩ := by
    rw [Ticket.schedule, show (edit s.ticket).slaPolicy = some policy.pk from huses]
    rfl
  refine (hsaved.logSlaChange s.ticket).onTime edits.untouched.id hpauses ⟨?_, le_rfl, ?_⟩
  · exact onTime.timed.inTurn.mono fun hpaused =>
      (congrArg TicketStatus.pausesSla hsame).trans hpaused
  · intro plan hplan
    obtain rfl := Option.some.inj (hplanned.symm.trans hplan)
    have hactive : policy.isActive = true := by
      obtain ⟨other, hother, hpk, hactive, -⟩ := onTime.timed.onClock
        ⟨policy.pk, s.ticket.createdAt, s.ticket.slaFirstResponseDue, s.ticket.slaResolutionDue⟩
        (by rw [Ticket.schedule, huses]; rfl)
      rwa [ws.policy_ext hpolicy hother hpk.symm]
    refine ⟨policy, hpolicy, rfl, hactive, ?_, ?_⟩
    · rw [Db.endedPauses, List.drop_length]
      rfl
    · rw [Db.endedPauses, List.drop_length]
      rfl

variable (req) in
/-- One pass of the loop over the tickets of a policy. -/
theorem Timely.applyPolicyToTicket (hpolicy : policy ∈ ws.policies)
    (timely : Timely ws since target db)
    (huses : ∀ row, db.tickets target = some row → row.slaPolicy = some policy.pk) :
    Timely ws (db.endedPauses target).length target
        (db.withTicket target (applyPolicyToTicket ws req policy)) ∧
      (db.withTicket target (Tickets.applyPolicyToTicket ws req policy)).pausesOf target =
        db.pausesOf target ∧
      ∀ row, (db.withTicket target (Tickets.applyPolicyToTicket ws req policy)).tickets target =
        some row → row.slaPolicy = some policy.pk := by
  unfold Db.withTicket
  rcases hticket : db.tickets target with _ | ticket
  · obtain ⟨hpauses, rfl⟩ := timely.fresh hticket
    have hnone : db.endedPauses target = [] := by rw [Db.endedPauses, hpauses]; rfl
    rw [hnone]
    exact ⟨timely, rfl, fun row hrow => huses row hrow⟩
  · have loaded := (Attends.load timely hticket).own rfl
    have edits : Edits ws _ { db, id := target, ticket }
        (Tickets.applyPolicyToTicket ws req policy { db, id := target, ticket }) :=
      applyPolicyToTicket_edits _ policy
    have hpauses := edits.pauses (by decide) loaded.onPlan.settled
    have hkept := (edits.keeps (by decide) loaded.onPlan.settled Ticket.slaPolicy
      (fun _ _ => by simp [Ticket.persist]) (fun _ _ => rfl) fun _ _ _ => rfl).2
    have hcounted := (applyPolicyToTicket_onTime req hpolicy loaded (huses ticket hticket)).timely
    rw [edits.untouched.id] at hcounted
    refine ⟨hcounted, pausesOf_congr hpauses target, fun row hrow => ?_⟩
    · dsimp only at hkept hrow
      rw [hrow, hticket] at hkept
      exact (Option.some.inj hkept).trans (huses ticket hticket)

variable (req) in
/-- The loop counts the deadlines of a ticket anew if it comes to it. -/
theorem Timely.applyPolicyToTickets (hpolicy : policy ∈ ws.policies) (ids : List ℕ)
    (timely : Timely ws since target db)
    (huses : target ∈ ids → ∀ row, db.tickets target = some row →
      row.slaPolicy = some policy.pk) :
    Timely ws (if target ∈ ids then (db.endedPauses target).length else since) target
      (ids.foldl (fun db id => db.withTicket id (Tickets.applyPolicyToTicket ws req policy))
        db) := by
  induction ids generalizing db since with
  | nil => exact timely
  | cons id ids ih =>
    rw [List.foldl_cons]
    by_cases hid : id = target
    · subst hid
      obtain ⟨hcounted, hpauses, hkept⟩ := timely.applyPolicyToTicket req hpolicy
        (huses (List.mem_cons_self ..))
      have hrest := ih hcounted fun _ => hkept
      rw [Db.endedPauses, hpauses, ← Db.endedPauses, ite_self] at hrest
      rwa [if_pos (List.mem_cons_self ..)]
    · have hmem : target ∈ id :: ids ↔ target ∈ ids := by
        rw [List.mem_cons, or_iff_right (Ne.symm hid)]
      rw [hmem] at huses
      unfold Db.withTicket
      rcases hticket : db.tickets id with _ | ticket
      · simp only [hmem]
        exact ih timely huses
      · have untouched : Untouched { db, id, ticket }
            (Tickets.applyPolicyToTicket ws req policy { db, id, ticket }) :=
          (applyPolicyToTicket_edits _ policy).untouched
        have hpauses := untouched.pauses target (Ne.symm hid)
        have hrow := untouched.others target (Ne.symm hid)
        have hrest := ih (timely.of_untouched untouched hid) fun hmem row hstored =>
          huses hmem row (hrow ▸ hstored)
        rw [Db.endedPauses, hpauses] at hrest
        simp only [hmem]
        exact hrest

end Operations

/-! ## Runs -/

/-- Whether a step counts the deadlines of a ticket anew, as the save of its policy does. -/
def restarts (ws : Workspace) (target : ℕ) (db : Db) (event : Event) : Bool :=
  match event.op with
  | .saveSlaPolicy policy =>
    decide (policy ∈ ws.policies) &&
      (db.ticketIds.filter fun id => (db.tickets id).any (usesPolicy policy)).contains target
  | _ => false

/--
The store, with the number of a ticket's pauses that had ended when its deadlines were last counted
from its creation.
-/
structure Watch where
  db : Db
  since : ℕ

def watch (ws : Workspace) (target : ℕ) (w : Watch) (event : Event) : Watch where
  db := step ws w.db event
  since := if restarts ws target w.db event then (w.db.endedPauses target).length else w.since

/--
The steps that start the clock of a ticket at its creation, if they create it, and that do not
escalate it by hand.
-/
def keepsClock (ws : Workspace) (target : ℕ) (db : Db) (event : Event) : Bool :=
  ((db.tickets target).isSome || ((step ws db event).tickets target).isNone ||
      event.req.clock.service == event.req.clock.autoNow) &&
    match event.op with
    | .escalateTicket id _ _ _ => id != target
    | _ => true

section Runs

variable {db : Db} {event : Event}

theorem commit_timely (timely : Timely ws since target db) :
    Timely ws since target (db.commit brokerUp) :=
  commit_keeps (fun _ _ _ timely => timely.congr rfl rfl)
    (fun _ _ _ timely => timely.updateWhere _ (fun _ => rfl) fun _ => rfl) timely

theorem commit_stored (hstored : (db.tickets target).isSome = true) :
    ((db.commit brokerUp).tickets target).isSome = true :=
  commit_keeps (P := fun db => (db.tickets target).isSome = true) (fun _ _ _ hstored => hstored)
    (fun _ ticket _ hstored => by
      rw [setAutoCloseTaskId_tickets]
      split
      · rwa [Option.isSome_map]
      · exact hstored) hstored

theorem saveSlaPolicy_timely (hop : event.op = .saveSlaPolicy policy)
    (hpolicy : policy ∈ ws.policies) (timely : Timely ws since target db) :
    Timely ws (if restarts ws target db event then (db.endedPauses target).length else since) target
      (propagateSlaPolicyChange ws req policy db) := by
  have hlooped := timely.applyPolicyToTickets req hpolicy
    (db.ticketIds.filter fun id => (db.tickets id).any (usesPolicy policy)) ?_
  · have hrestarts : restarts ws target db event = true ↔
        target ∈ db.ticketIds.filter fun id => (db.tickets id).any (usesPolicy policy) := by
      rw [restarts, hop]
      simp [hpolicy]
    simp only [hrestarts]
    exact hlooped
  · intro hmem row hrow
    have huses := (List.mem_filter.mp hmem).2
    rw [hrow, Option.any_some, usesPolicy, Bool.and_eq_true, beq_iff_eq] at huses
    exact huses.1

theorem creation_timely {op : Op} {after : Db} (timely : Timely ws since target db)
    (hcreation : op.isCreation = true)
    (hclock : db.tickets target = none → (after.tickets target).isSome = true →
      req.clock.service = req.clock.autoNow)
    (success : attempt ws req op db = .ok after) : Timely ws since target after := by
  obtain ⟨id, ticket, status, t, -, -, newborn, hfresh, edits, rfl⟩ :=
    creation_starts hcreation success
  have hstarts := initializeSla_edits ws req { db := db.insertTicket id ticket, id, ticket }
  have settled := (hstarts.settled (by decide) ⟨ticket, Function.update_self .., rfl⟩).1
  have hcarried : Carried ws [.assignee, .updatedAt] (Timely ws since target)
      (Attends ws since target) := carried_timely (by decide) (by decide)
  refine (hcarried.edits edits ?_).store
  by_cases hid : id = target
  · subst hid
    obtain ⟨hpauses, rfl⟩ := timely.fresh hfresh
    have hinserted : (db.insertTicket id ticket).tickets id = some ticket :=
      Function.update_self ..
    have hstored : (t.db.tickets id).isSome = true := by
      rw [edits.untouched.stored, hstarts.untouched.stored, hinserted]
      rfl
    have hcreated := newborn.createdAt.trans (hclock hfresh hstored).symm
    exact (initializeSla_onTime hpauses newborn.slaPolicy hcreated).attends hstarts.untouched.id
  · have hinserted : Timely ws since target (db.insertTicket id ticket) :=
      { stored := fun row hrow =>
          timely.stored row ((Function.update_of_ne (Ne.symm hid) ..).symm.trans hrow)
        fresh := fun hnone =>
          timely.fresh ((Function.update_of_ne (Ne.symm hid) ..).symm.trans hnone) }
    refine ⟨hinserted.of_untouched hstarts.untouched hid, settled, fun htarget => ?_⟩
    exact absurd (hstarts.untouched.id.symm.trans htarget) hid

theorem attempt_timely {after : Db} (timely : Timely ws since target db)
    (hother : ∀ policy, event.op ≠ .saveSlaPolicy policy)
    (hclock : db.tickets target = none → (after.tickets target).isSome = true →
      event.req.clock.service = event.req.clock.autoNow)
    (hescalate : ∀ id reason assignee queue,
      event.op = .escalateTicket id reason assignee queue → id ≠ target)
    (success : attempt ws event.req event.op db = .ok after) : Timely ws since target after := by
  have hcarried : ∀ {columns}, .status ∉ columns → Unscheduled columns →
      Carried ws columns (Timely ws since target) (Attends ws since target) := carried_timely
  have hbare : Carried ws [] (Timely ws since target) (Attends ws since target) :=
    hcarried (by decide) (by decide)
  by_cases hrouted : event.op.isRouted = true
  · exact routed_keeps (hcarried (by decide) (by decide)) changeTicketStatus_attends
      (fun _ id timely => timely.updateWhere id (fun _ => rfl) fun _ => rfl) timely hrouted success
  by_cases hcreation : event.op.isCreation = true
  · exact creation_timely timely hcreation hclock success
  cases hevent : event.op <;> rw [hevent] at success hrouted hcreation <;>
    simp only [Op.isRouted, Op.isCreation, not_true_eq_false, Bool.false_eq_true,
      not_false_eq_true] at hrouted hcreation
  case saveSlaPolicy policy => exact absurd hevent (hother policy)
  case escalateTicket id reason assignee queue =>
    obtain ⟨ticket, s', hticket, hok, rfl⟩ := onTicket_eq_ok.mp success
    have untouched := (escalateTicket_edits { db, id, ticket } hok).untouched
    exact timely.of_untouched untouched (hescalate id reason assignee queue hevent)
  case assignTicket id assignee note =>
    exact hbare.onTicket
      (fun _ _ attends hok => assignTicket_attends attends hok) timely success
  case mergeTickets primary secondary =>
    dsimp only [attempt] at success
    split at success
    · cases success
    · exact hbare.onTicket
        (fun _ _ attends hok => mergeTickets_attends attends hok) timely success
  case transitionPipelineStage id newStage reason =>
    exact hbare.onTicket
      (fun _ _ attends hok => transitionPipelineStage_attends attends hok) timely success
  case addReplyToTicket id inbound =>
    exact hbare.onTicket_ok
      (fun _ attends => addReplyToTicket_attends inbound attends) timely success
  case checkTenantSla clocks now =>
    rw [← Except.ok.inj success]
    exact (hcarried (by decide) (by decide)).checkTenantSla
      (fun _ _ attends => attends.congr rfl rfl rfl rfl) clocks now timely
  case changeTicketPriority | addTags | softDelete | recordFirstResponse | autoAssignTicket |
      autoAssignEmailTicket =>
    all_goals exact (hcarried (by decide) (by decide)).attempt rfl timely success

theorem watch_timely {w : Watch} (timely : Timely ws w.since target w.db)
    (hkeeps : keepsClock ws target w.db event = true) :
    Timely ws (watch ws target w event).since target (watch ws target w event).db := by
  rw [keepsClock, Bool.and_eq_true] at hkeeps
  obtain ⟨hstarts, hescalates⟩ := hkeeps
  by_cases hsaves : ∃ policy, event.op = .saveSlaPolicy policy
  · obtain ⟨policy, hop⟩ := hsaves
    dsimp only [watch, step]
    rw [hop]
    dsimp only [attempt]
    by_cases hpolicy : policy ∈ ws.policies
    · rw [if_pos hpolicy]
      exact commit_timely (saveSlaPolicy_timely hop hpolicy timely)
    · have hrestarts : restarts ws target w.db event = false := by
        rw [restarts, hop]
        simp [hpolicy]
      rw [if_neg hpolicy, hrestarts]
      exact timely
  · have hother : ∀ policy, event.op ≠ .saveSlaPolicy policy := fun policy hop =>
      hsaves ⟨policy, hop⟩
    have hrestarts : restarts ws target w.db event = false := by
      unfold restarts
      split
      · rename_i policy hop
        exact absurd hop (hother policy)
      · rfl
    dsimp only [watch]
    rw [hrestarts, if_neg Bool.false_ne_true]
    refine step_preserves timely fun after success => commit_timely ?_
    refine attempt_timely timely hother ?_ ?_ success
    · intro hnone hsome
      have hstored : ((step ws w.db event).tickets target).isSome = true := by
        unfold step
        rw [success]
        exact commit_stored hsome
      simpa [hnone, Option.isSome_iff_ne_none.mp hstored] using hstarts
    · intro id reason assignee queue hop
      simpa [hop] using hescalates

/-- How many pauses of a ticket had ended when a run last counted its deadlines anew. -/
def sinceRestart (ws : Workspace) (target : ℕ) (events : List Event) : ℕ :=
  (run (watch ws target) ⟨Db.empty, 0⟩ events).since

theorem timely_of_run (events : List Event)
    (hkeeps : Every (step ws) (fun db event => keepsClock ws target db event = true) Db.empty
      events) :
    Timely ws (sinceRestart ws target events) target (run (step ws) Db.empty events) := by
  have hview : ∀ (w : Watch) (event : Event), (watch ws target w event).db = step ws w.db event :=
    fun _ _ => rfl
  have hwatched := Every.watched hview ⟨Db.empty, 0⟩ hkeeps
  have hstart : Timely ws 0 target Db.empty := by
    refine ⟨?_, fun _ => ⟨rfl, rfl⟩⟩
    intro row hrow
    cases hrow
  have htimely := run_invariant (fun w : Watch => Timely ws w.since target w.db)
    (fun _ _ timely hkeeps => watch_timely timely hkeeps) hstart events hwatched
  rwa [run_view hview] at htimely

end Runs

end Kanzan.Tickets

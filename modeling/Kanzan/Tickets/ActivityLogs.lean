import Kanzan.Tickets.Desk

/-!
# One log row for every change

A change of the status, the priority or the assignee is logged by the service that makes
it, or by the receiver of its save.  The receiver keeps quiet on an instance that carries
the flag of an earlier service, and while a row with its action is younger than two
seconds, whatever that row is about.
-/

namespace Kanzan.Tickets

open Sla Support

/-! ## Rows about a change -/

def ActivityLog.records (id : ℕ) (change : FieldChange) (row : ActivityLog) : Bool :=
  row.ticket == id && decide (change ∈ row.changes ++ row.described)

/-- Every field that differs has exactly one row with that very difference. -/
structure LoggedOnce (rows : List ActivityLog) (id : ℕ) (old new : Fields) : Prop where
  status : old.status ≠ new.status →
    rows.countP (ActivityLog.records id (.status old.status.name new.status.name)) = 1
  priority : old.priority ≠ new.priority →
    rows.countP (ActivityLog.records id (.priority old.priority new.priority)) = 1
  assignee : old.assignee ≠ new.assignee →
    rows.countP (ActivityLog.records id (.assignee old.assignee new.assignee)) = 1

namespace Audited

def receives (t : Audited) (now : Instant) (action : LogAction) : Bool :=
  !t.skipSignalLogging && !recentlyLogged t.activityLog t.session.id now action

def Receives (t : Audited) (now : Instant) (old new : Fields) : Prop :=
  (old.status ≠ new.status → t.receives now .statusChanged = true) ∧
  (old.priority ≠ new.priority → t.receives now .fieldChanged = true) ∧
  (old.assignee ≠ new.assignee → t.receives now .assigned = true)

instance (t : Audited) (now : Instant) (old new : Fields) : Decidable (t.Receives now old new) :=
  inferInstanceAs (Decidable (_ ∧ _ ∧ _))

end Audited

/-! ## Events -/

/-- What happens to tickets and their log. -/
inductive LogEvent where
  | service (event : ServiceEvent)
  /-- A save by code that is not part of the services. -/
  | directSave (ticket : ℕ) (reuse : Bool) (edit : Audited.FieldEdit) (full : Bool)
      (req : Request) (brokerUp : Bool)
  /-- A row of other code, about none of the three fields. -/
  | logActivity (ticket : ℕ) (actor : Option ℕ) (action : LogAction) (now : Instant)

namespace Desk

section Steps

variable (ws : Workspace)

def record (desk : Desk) : LogEvent → Desk
  | .service event => desk.serve ws event
  | .directSave ticket reuse edit full req brokerUp =>
    match desk.load ticket reuse with
    | none => desk.drop
    | some t => commit brokerUp (t.directSave ws req edit full)
  | .logActivity ticket actor action now =>
    if (desk.db.tickets ticket).isNone then desk
    else
      { desk with activityLog := desk.activityLog ++ [{ ticket, actor, action, createdAt := now }] }

def fieldsBefore (desk : Desk) (event : LogEvent) (id : ℕ) : Option Fields :=
  match desk.db.tickets id, event with
  | some row, _ => some row.fields
  | none, .service { service := .createTicketFromEmail _ overrides _, .. } =>
    (defaultStatus ws).map (Audited.emailFields overrides)
  | none, _ => none

def LogsOnce (desk : Desk) (event : LogEvent) : Prop :=
  ∀ id old row, desk.fieldsBefore ws event id = some old →
    (desk.record ws event).db.tickets id = some row →
    LoggedOnce ((desk.record ws event).activityLog.drop desk.activityLog.length) id old row.fields

end Steps

end Desk

section Conditions

variable (ws : Workspace)

/-- No change of the operation goes unlogged. -/
def Work.Logged (req : Request) (t : Audited) (work : Work) : Prop :=
  let ticket := t.session.ticket
  match work with
  | .transitionPipelineStage newStage _ =>
    (∀ old ∈ ticket.pipelineStage, old.pipeline = newStage.pipeline ∧ old ≠ newStage) →
      (stageTarget ws newStage ticket.status).getD ticket.status = ticket.status
  | .mergeTickets primary =>
    primary ≠ t.session.id → (t.session.db.tickets primary).isSome = true →
      ws.closedStatus.getD ticket.status = ticket.status
  | .autoAssignTicket agent =>
    t.Receives req.clock.postSave ticket.fields
      { ticket.fields with assignee := agent.or ticket.assignee }
  | .autoAssignEmailTicket agent =>
    t.Receives req.clock.postSave ticket.fields
      { ticket.fields with assignee := ticket.assignee.or agent }
  | .executeRule _ rule =>
    t.Receives req.clock.postSave ticket.fields (Audited.ruleFields ws rule ticket.fields)
  | _ => True

instance (req : Request) (t : Audited) (work : Work) : Decidable (work.Logged ws req t) := by
  unfold Work.Logged
  split <;> infer_instance

def Desk.Logged (desk : Desk) : LogEvent → Prop
  | .service { service := .onTicket id reuse work, req, .. } =>
    ∀ t ∈ desk.load id reuse, work.Logged ws req t
  | .directSave id reuse edit _ req _ =>
    ∀ t ∈ desk.load id reuse, t.Receives req.clock.postSave t.session.ticket.fields
      (edit.fields t.session.ticket.fields)
  | _ => True

instance (desk : Desk) (event : LogEvent) : Decidable (desk.Logged ws event) := by
  unfold Desk.Logged
  split <;> infer_instance

end Conditions

variable {work : Work} {reason message : String} {reuse : Bool} {service : Service}

section Laws

open Audited

variable {ws : Workspace} {req : Request} {desk : Desk} {t t' : Audited} {old new : Fields}
variable {rows : List ActivityLog} {id : ℕ} {now : Instant}

/-! ## The rows of the receiver -/

theorem countP_receiverRow (log : List ActivityLog) (changed : Bool) (action : LogAction)
    (change other : FieldChange) :
    (receiverRow log id now changed action change).countP (ActivityLog.records id other) =
      if other = change ∧ changed = true ∧ recentlyLogged log id now action = false then 1
      else 0 := by
  unfold receiverRow
  by_cases hwritten : (changed && !recentlyLogged log id now action) = true
  · rw [if_pos hwritten, List.countP_singleton]
    simp only [Bool.and_eq_true, Bool.not_eq_true'] at hwritten
    simp [ActivityLog.records, hwritten.1, hwritten.2]
  · rw [if_neg hwritten, List.countP_nil, if_neg]
    simpa using fun _ => by simpa using hwritten

theorem receives_eq_true {action : LogAction} :
    t.receives now action = true ↔
      t.skipSignalLogging = false ∧
        recentlyLogged t.activityLog t.session.id now action = false := by
  simp [receives]

/-- The receiver logs what changes exactly if nothing keeps it quiet. -/
theorem receiverRows_loggedOnce :
    LoggedOnce (receiverRows t now old new) t.session.id old new ↔ t.Receives now old new := by
  unfold receiverRows Receives
  cases hskip : t.skipSignalLogging with
  | true =>
    simp only [receives, hskip]
    constructor
    · intro logged
      refine ⟨fun h => ?_, fun h => ?_, fun h => ?_⟩
      · cases logged.status h
      · cases logged.priority h
      · cases logged.assignee h
    · rintro ⟨hstatus, hpriority, hassignee⟩
      refine ⟨fun h => ?_, fun h => ?_, fun h => ?_⟩
      · cases hstatus h
      · cases hpriority h
      · cases hassignee h
  | false =>
    have hreceives : ∀ action, t.receives now action = true ↔
        recentlyLogged t.activityLog t.session.id now action = false := by
      intro action
      rw [receives_eq_true, hskip]
      exact and_iff_right rfl
    simp only [hreceives]
    constructor
    · intro logged
      refine ⟨fun h => ?_, fun h => ?_, fun h => ?_⟩
      · have hcount := logged.status h
        simpa [countP_receiverRow, h] using hcount
      · have hcount := logged.priority h
        simpa [countP_receiverRow, h] using hcount
      · have hcount := logged.assignee h
        simpa [countP_receiverRow, h] using hcount
    · rintro ⟨hstatus, hpriority, hassignee⟩
      refine ⟨fun h => ?_, fun h => ?_, fun h => ?_⟩
      · simp [countP_receiverRow, h, hstatus h]
      · simp [countP_receiverRow, h, hpriority h]
      · simp [countP_receiverRow, h, hassignee h]

/-! ## The rows of the operations -/

theorem LoggedOnce.refl (rows : List ActivityLog) (id : ℕ) (fields : Fields) :
    LoggedOnce rows id fields fields :=
  ⟨(absurd rfl ·), (absurd rfl ·), (absurd rfl ·)⟩

theorem statusRows_loggedOnce (newStatus : TicketStatus) :
    LoggedOnce (statusRows req id old newStatus) id old { old with status := newStatus } := by
  refine ⟨fun hchange => ?_, (absurd rfl ·), (absurd rfl ·)⟩
  rw [statusRows, if_neg hchange]
  simp [ActivityLog.records]

theorem loggedOnce_status {newStatus : TicketStatus}
    (hrows : rows.countP (ActivityLog.records id (.status old.status.name newStatus.name)) = 0) :
    LoggedOnce rows id old { old with status := newStatus } ↔ newStatus = old.status := by
  constructor
  · intro logged
    by_contra hchange
    have hcount := logged.status (Ne.symm hchange)
    rw [hrows] at hcount
    cases hcount
  · rintro rfl
    exact .refl rows id old

def AboutStored (t : Audited) (rows : List ActivityLog) : Prop :=
  ∀ row ∈ rows, row.ticket = t.session.id ∨ (t.session.db.tickets row.ticket).isSome = true

theorem AboutStored.here (hrows : ∀ row ∈ rows, row.ticket = t.session.id) : AboutStored t rows :=
  fun row hrow => .inl (hrows row hrow)

theorem ticket_of_mem_receiverRows {row : ActivityLog}
    (hrow : row ∈ receiverRows t now old new) : row.ticket = t.session.id := by
  unfold receiverRows receiverRow at hrow
  split at hrow
  · cases hrow
  · simp only [List.mem_append] at hrow
    obtain (hrow | hrow) | hrow := hrow
    all_goals
      split at hrow
      · rw [List.mem_singleton.mp hrow]
      · cases hrow

def Logs (ws : Workspace) (req : Request) (work : Work) (t t' : Audited) (old : Fields) : Prop :=
  ∃ new rows sent, Did t t' new rows sent ∧ AboutStored t rows ∧
    (LoggedOnce rows t.session.id old new ↔ work.Logged ws req t)

theorem Logs.receiver {sent : List TicketAssigned}
    (did : Did t t' new (receiverRows t req.clock.postSave old new) sent)
    (hwork : work.Logged ws req t ↔ t.Receives req.clock.postSave old new) :
    Logs ws req work t t' old :=
  ⟨new, _, sent, did, .here fun _ => ticket_of_mem_receiverRows,
    receiverRows_loggedOnce.trans hwork.symm⟩

theorem Audited.Routed.logs (routed : Routed req t t' old) (hwork : work.Logged ws req t) :
    Logs ws req work t t' old := by
  obtain ⟨newStatus, did⟩ := routed
  refine ⟨_, _, _, did, .here fun row hrow => ?_,
    iff_of_true (statusRows_loggedOnce newStatus) hwork⟩
  unfold statusRows at hrow
  split at hrow
  · cases hrow
  · rw [List.mem_singleton.mp hrow]

theorem escalateTicket_logs {assignee : Option ℕ} {queue : Option Queue} (here : t.At old)
    (success : t.escalateTicket ws req reason assignee queue = .ok t') :
    Logs ws req (.escalateTicket reason assignee queue) t t' old := by
  obtain ⟨-, count, did⟩ := escalateTicket_did here success
  refine ⟨_, _, _, did, .here (by simp), iff_of_true ?_ trivial⟩
  refine ⟨(absurd rfl ·), (absurd rfl ·), fun hchange => ?_⟩
  cases assignee with
  | none => exact absurd rfl hchange
  | some user => simp [ActivityLog.records]

theorem transitionPipelineStage_logs {newStage : PipelineStage} (here : t.At old)
    (success : t.transitionPipelineStage ws req newStage reason = .ok t') :
    Logs ws req (.transitionPipelineStage newStage reason) t t' old := by
  obtain ⟨hsame, did⟩ | ⟨hstages, did⟩ := transitionPipelineStage_did here success
  · refine ⟨_, _, _, did, nofun, iff_of_true (.refl _ _ _) fun hmoves => ?_⟩
    exact absurd rfl (hmoves newStage hsame).2
  · refine ⟨_, _, _, did, .here (by simp), ?_⟩
    rw [loggedOnce_status (by simp [ActivityLog.records])]
    obtain rfl := here.inst
    exact ⟨fun hsame _ => hsame, fun hsame => hsame hstages⟩

theorem mergeTickets_logs {primary : ℕ} (here : t.At old)
    (hprimary : (t.session.db.tickets primary).isSome = true)
    (success : t.mergeTickets ws req primary = .ok t') :
    Logs ws req (.mergeTickets primary) t t' old := by
  have hother : primary ≠ t.session.id := by
    rintro rfl
    rw [Audited.mergeTickets, if_pos rfl] at success
    cases success
  refine ⟨_, _, _, mergeTickets_did here success, by simp [AboutStored, hprimary], ?_⟩
  rw [loggedOnce_status (by simp [ActivityLog.records])]
  obtain rfl := here.inst
  exact ⟨fun hsame _ _ => hsame, fun hsame => hsame hother hprimary⟩

theorem assignTicket_logs {assignee : ℕ} {note : String} (here : t.At old)
    (success : t.assignTicket ws req assignee note = .ok t') :
    Logs ws req (.assignTicket assignee note) t t' old := by
  obtain ⟨-, did⟩ := assignTicket_did here success
  refine ⟨_, _, _, did, .here ?_, iff_of_true ⟨?_, (absurd rfl ·), ?_⟩ trivial⟩
  · cases autoTransition ws old.status <;> simp
  · intro hchange
    cases htarget : autoTransition ws old.status with
    | none => simp [htarget] at hchange
    | some target => simp [ActivityLog.records]
  · intro _
    cases autoTransition ws old.status <;> simp [ActivityLog.records]

theorem Work.logs (here : t.At old) (success : work.perform ws req t = .ok t') :
    Logs ws req work t t' old := by
  have hinst := here.inst
  cases work with
  | changeTicketStatus newStatus =>
    obtain rfl := Except.ok.inj success
    exact (Routed.change here newStatus).logs trivial
  | transitionTicketStatus newStatus =>
    exact (transitionTicketStatus_routed here success).logs trivial
  | closeTicket => exact (closeTicket_routed here success).logs trivial
  | resumeFromWait =>
    obtain rfl := Except.ok.inj success
    exact (resumeFromWait_routed here).logs trivial
  | reopenResolvedTicket =>
    obtain rfl := Except.ok.inj success
    exact (reopenResolvedTicket_routed here).logs trivial
  | moveCard column isSameColumn => exact (moveCard_routed here success).logs trivial
  | changeTicketPriority newPriority =>
    obtain rfl := Except.ok.inj success
    refine ⟨_, _, _, changeTicketPriority_did here newPriority, .here ?_,
      iff_of_true ⟨(absurd rfl ·), fun hchange => ?_, (absurd rfl ·)⟩ trivial⟩
    · split <;> simp
    · rw [if_neg hchange]
      simp [ActivityLog.records]
  | transitionPipelineStage newStage reason => exact transitionPipelineStage_logs here success
  | mergeTickets primary =>
    dsimp only [Work.perform] at success
    split at success
    · cases success
    · rename_i hprimary
      exact mergeTickets_logs here (by simpa [Option.isSome_iff_ne_none] using hprimary) success
  | assignTicket assignee note => exact assignTicket_logs here success
  | unassign =>
    obtain rfl := Except.ok.inj success
    refine ⟨_, _, _, unassign_did here, .here (by simp), iff_of_true ?_ trivial⟩
    exact ⟨(absurd rfl ·), (absurd rfl ·), fun _ => by simp [ActivityLog.records]⟩
  | escalateTicket reason assignee queue => exact escalateTicket_logs here success
  | autoAssignTicket agent =>
    obtain rfl := Except.ok.inj success
    obtain rfl := hinst
    cases agent with
    | none =>
      refine ⟨_, _, _, .refl here, nofun, iff_of_true (.refl _ _ _) ?_⟩
      exact ⟨(absurd rfl ·), (absurd rfl ·), (absurd rfl ·)⟩
    | some user => exact .receiver (autoAssignTicket_did here user) Iff.rfl
  | autoAssignEmailTicket agent =>
    obtain rfl := Except.ok.inj success
    obtain rfl := hinst
    cases hassignee : t.session.ticket.assignee with
    | some user =>
      rw [autoAssignEmailTicket_idle agent (.inl (by simp [hassignee]))]
      refine ⟨_, _, _, .refl here, nofun, iff_of_true (.refl _ _ _) ?_⟩
      refine ⟨(absurd rfl ·), (absurd rfl ·), fun hchange => absurd ?_ hchange⟩
      exact hassignee.trans (by rw [hassignee, Option.some_or])
    | none =>
      cases agent with
      | none =>
        rw [autoAssignEmailTicket_idle none (.inr rfl)]
        refine ⟨_, _, _, .refl here, nofun, iff_of_true (.refl _ _ _) ?_⟩
        refine ⟨(absurd rfl ·), (absurd rfl ·), fun hchange => absurd ?_ hchange⟩
        exact (Option.or_none).symm
      | some user =>
        refine .receiver (autoAssignEmailTicket_did here user hassignee) ?_
        rw [Work.Logged, hassignee]
        rfl
  | executeRule now rule =>
    obtain rfl := Except.ok.inj success
    obtain rfl := hinst
    exact .receiver (executeRule_did here req.clock now rule) Iff.rfl
  | performUpdate patch =>
    obtain rfl := Except.ok.inj success
    exact ⟨_, _, _, performUpdate_did here patch, nofun, iff_of_true (.refl _ _ _) trivial⟩

/-! ## One event -/

/-- The instance in memory is up to date, and the log is about stored tickets. -/
structure Desk.Kept (desk : Desk) : Prop where
  synced : desk.Synced
  stored : ∀ row ∈ desk.activityLog, (desk.db.tickets row.ticket).isSome = true

section Committed

variable {ticket : Ticket} {skip : Bool} {sent : List TicketAssigned} {event : LogEvent}
variable {brokerUp : Bool}

theorem commit_isSome (brokerUp : Bool) (db : Db) (id : ℕ) :
    ((db.commit brokerUp).tickets id).isSome = (db.tickets id).isSome := by
  rw [← Option.isSome_map, commit_fields, Option.isSome_map]

theorem Audited.At.stored (here : t.At old) :
    (t.session.db.tickets t.session.id).isSome = true := by
  obtain ⟨row, hrow, -⟩ := Option.map_eq_some_iff.mp here.row
  rw [hrow]
  rfl

theorem Audited.Did.stored (did : Did (desk.audit id ticket skip) t' new rows sent) {other : ℕ}
    (hstored : other = id ∨ (desk.db.tickets other).isSome = true) :
    (t'.session.db.tickets other).isSome = true := by
  by_cases hother : other = id
  · subst hother
    have hhere := did.at_end.stored
    rwa [did.id] at hhere
  · rw [did.others other hother]
    exact hstored.resolve_left hother

theorem kept_commit (kept : desk.Kept) (brokerUp : Bool)
    (did : Did (desk.audit id ticket skip) t' new rows sent)
    (about : ∀ row ∈ rows, row.ticket = id ∨ (desk.db.tickets row.ticket).isSome = true) :
    (Desk.commit brokerUp t').Kept where
  synced := Desk.synced_commit brokerUp did.at_end
  stored row hrow := by
    refine (commit_isSome brokerUp t'.session.db row.ticket).trans ?_
    rw [show (Desk.commit brokerUp t').activityLog = desk.activityLog ++ rows from
      did.activityLog] at hrow
    obtain hrow | hrow := List.mem_append.mp hrow
    · exact did.stored (.inr (kept.stored row hrow))
    · exact did.stored (about row hrow)

theorem kept_drop (kept : desk.Kept) : desk.drop.Kept where
  synced loaded hloaded := by cases hloaded
  stored := kept.stored

theorem fieldsBefore_of_row {row : Ticket} (hrow : desk.db.tickets id = some row) :
    desk.fieldsBefore ws event id = some row.fields := by
  unfold Desk.fieldsBefore
  rw [hrow]

theorem fieldsBefore_of_at (here : (desk.audit id ticket skip).At old) :
    desk.fieldsBefore ws event id = some old := by
  obtain ⟨row, hrow, rfl⟩ := Option.map_eq_some_iff.mp here.row
  exact fieldsBefore_of_row hrow

theorem logsOnce_of_same (htickets : (desk.record ws event).db.tickets = desk.db.tickets) :
    desk.LogsOnce ws event := by
  intro id old row hbefore hafter
  rw [htickets] at hafter
  rw [fieldsBefore_of_row hafter] at hbefore
  rw [← Option.some.inj hbefore]
  exact .refl _ id row.fields

theorem logsOnce_iff (did : Did (desk.audit id ticket skip) t' new rows sent)
    (hrecord : desk.record ws event = Desk.commit brokerUp t') :
    desk.LogsOnce ws event ↔
      ∀ old, desk.fieldsBefore ws event id = some old → LoggedOnce rows id old new := by
  have hfields : ∀ other, ((desk.record ws event).db.tickets other).map Ticket.fields =
      (t'.session.db.tickets other).map Ticket.fields := by
    intro other
    rw [hrecord]
    exact commit_fields brokerUp t'.session.db other
  have hrows : (desk.record ws event).activityLog.drop desk.activityLog.length = rows := by
    rw [hrecord]
    show t'.activityLog.drop desk.activityLog.length = rows
    rw [did.activityLog]
    exact List.drop_left
  have hnew : (t'.session.db.tickets id).map Ticket.fields = some new := by
    have hhere := did.at_end.row
    rwa [did.id] at hhere
  unfold Desk.LogsOnce
  rw [hrows]
  constructor
  · intro once old hbefore
    obtain ⟨row, hrow, rfl⟩ := Option.map_eq_some_iff.mp ((hfields id).trans hnew)
    exact once id old row hbefore hrow
  · intro once other old row hbefore hrow
    have hafter := hfields other
    rw [hrow] at hafter
    by_cases hother : other = id
    · subst hother
      rw [hnew] at hafter
      rw [Option.some.inj hafter]
      exact once old hbefore
    · rw [did.others other hother] at hafter
      obtain ⟨before, hstored, hsame⟩ := Option.map_eq_some_iff.mp hafter.symm
      rw [fieldsBefore_of_row hstored, hsame] at hbefore
      rw [← Option.some.inj hbefore]
      exact .refl rows other row.fields

theorem logsOnce_iff_loaded {Logged : Audited → Prop}
    (did : Did (desk.audit id ticket skip) t' new rows sent)
    (hrecord : desk.record ws event = Desk.commit brokerUp t')
    (hload : desk.load id reuse = some (desk.audit id ticket skip))
    (here : (desk.audit id ticket skip).At old)
    (hlogged : LoggedOnce rows id old new ↔ Logged (desk.audit id ticket skip)) :
    desk.LogsOnce ws event ↔ ∀ t ∈ desk.load id reuse, Logged t := by
  rw [logsOnce_iff did hrecord, fieldsBefore_of_at here, hload]
  constructor
  · intro once t ht
    rw [← Option.some.inj ht]
    exact hlogged.mp (once old rfl)
  · intro logged other hother
    rw [← Option.some.inj hother]
    exact hlogged.mpr (logged _ rfl)

end Committed

theorem Work.logged_of_error (failure : work.perform ws req t = .error message) :
    work.Logged ws req t := by
  cases work with
  | transitionPipelineStage newStage reason =>
    intro hstages
    dsimp only [Work.perform, Audited.transitionPipelineStage] at failure
    split at failure
    · rename_i hpipeline
      cases hstage : t.session.ticket.pipelineStage with
      | none =>
        rw [hstage] at hpipeline
        cases hpipeline
      | some oldStage =>
        rw [hstage] at hpipeline
        exact absurd (hstages oldStage hstage).1 (by simpa using hpipeline)
    split at failure <;> cases failure
  | mergeTickets primary =>
    intro hother hprimary
    dsimp only [Work.perform, Audited.mergeTickets] at failure
    rw [if_neg (by simpa [Option.isSome_iff_ne_none] using hprimary), if_neg hother] at failure
    cases failure
  | autoAssignTicket agent => cases failure
  | autoAssignEmailTicket agent => cases failure
  | executeRule now rule => cases failure
  | _ => trivial

theorem recentlyLogged_of_fresh (kept : desk.Kept) (hfresh : desk.db.tickets id = none)
    (now : Instant) (action : LogAction) :
    recentlyLogged desk.activityLog id now action = false := by
  refine List.any_eq_false.mpr fun row hrow hlogged => ?_
  simp only [Bool.and_eq_true, beq_iff_eq] at hlogged
  have hstored := kept.stored row hrow
  rw [hlogged.1.1, hfresh] at hstored
  cases hstored

theorem receives_of_fresh (kept : desk.Kept) (hfresh : desk.db.tickets id = none)
    (ticket : Ticket) (now : Instant) (old new : Fields) :
    (desk.audit id ticket).Receives now old new := by
  have hreceives : ∀ action, (desk.audit id ticket).receives now action = true := fun action =>
    receives_eq_true.mpr ⟨rfl, recentlyLogged_of_fresh kept hfresh now action⟩
  exact ⟨fun _ => hreceives _, fun _ => hreceives _, fun _ => hreceives _⟩

section Services

variable {brokerUp : Bool}

theorem record_of_ok (brokerUp : Bool) (success : service.attempt ws req desk = .ok t') :
    desk.record ws (.service ⟨service, req, brokerUp⟩) = Desk.commit brokerUp t' := by
  rw [Desk.record, Desk.serve, success]

theorem record_of_error (brokerUp : Bool) (failure : service.attempt ws req desk = .error message) :
    desk.record ws (.service ⟨service, req, brokerUp⟩) = desk.drop := by
  rw [Desk.record, Desk.serve, failure]

theorem onTicket_law (kept : desk.Kept)
    (success : (Service.onTicket id reuse work).attempt ws req desk = .ok t') :
    (Desk.commit brokerUp t').Kept ∧
      (desk.LogsOnce ws (.service ⟨.onTicket id reuse work, req, brokerUp⟩) ↔
        desk.Logged ws (.service ⟨.onTicket id reuse work, req, brokerUp⟩)) := by
  have hrecord := record_of_ok brokerUp success
  dsimp only [Service.attempt] at success
  split at success
  · cases success
  rename_i t hload
  obtain ⟨ticket, skip, rfl, here⟩ := kept.synced.load hload
  obtain ⟨new, rows, sent, did, about, hlogged⟩ := Work.logs here success
  exact ⟨kept_commit kept brokerUp did about,
    logsOnce_iff_loaded did hrecord hload here hlogged⟩

theorem createTicket_law (kept : desk.Kept) {creator : ℕ} {data : NewTicket}
    (success : (Service.createTicket creator data).attempt ws req desk = .ok t') :
    (Desk.commit brokerUp t').Kept ∧
      desk.LogsOnce ws (.service ⟨.createTicket creator data, req, brokerUp⟩) := by
  have hrecord := record_of_ok brokerUp success
  obtain ⟨-, hfresh, ticket, new, rows, -, hrows, did⟩ := createTicket_did success
  refine ⟨kept_commit kept brokerUp did fun row hrow => .inl (hrows row hrow), ?_⟩
  refine (logsOnce_iff did hrecord).mpr fun old hbefore => ?_
  simp only [Desk.fieldsBefore, show desk.db.tickets data.id = none from hfresh] at hbefore
  cases hbefore

theorem createTicketFromEmail_law (kept : desk.Kept) {systemUser : ℕ} {overrides : NewTicket}
    {agent : Option ℕ}
    (success : (Service.createTicketFromEmail systemUser overrides agent).attempt ws req desk =
      .ok t') :
    (Desk.commit brokerUp t').Kept ∧
      desk.LogsOnce ws
        (.service ⟨.createTicketFromEmail systemUser overrides agent, req, brokerUp⟩) := by
  have hrecord := record_of_ok brokerUp success
  obtain ⟨-, hfresh, status, ticket, new, hstatus, -, did⟩ := createTicketFromEmail_did success
  refine ⟨kept_commit kept brokerUp did fun row hrow => .inl (ticket_of_mem_receiverRows hrow), ?_⟩
  refine (logsOnce_iff did hrecord).mpr fun old hbefore => ?_
  simp only [Desk.fieldsBefore, show desk.db.tickets overrides.id = none from hfresh,
    hstatus] at hbefore
  rw [← Option.some.inj hbefore]
  exact receiverRows_loggedOnce.mpr (receives_of_fresh kept hfresh ticket _ _ _)

theorem splitTicket_law (kept : desk.Kept) {source actor : ℕ} {data : SplitRequest}
    (success : (Service.splitTicket source actor data).attempt ws req desk = .ok t') :
    (Desk.commit brokerUp t').Kept ∧
      desk.LogsOnce ws (.service ⟨.splitTicket source actor data, req, brokerUp⟩) := by
  have hrecord := record_of_ok brokerUp success
  dsimp only [Service.attempt] at success
  split at success
  · cases success
  rename_i t hload
  obtain ⟨sourceTicket, skip, rfl, here⟩ := kept.synced.load hload
  obtain ⟨hfresh, ticket, new, rows, -, hrows, did⟩ := splitTicket_did success
  have did : Did (desk.audit data.child ticket) t' new rows _ := did
  have hsource : (desk.db.tickets source).isSome = true := here.stored
  refine ⟨kept_commit kept brokerUp did fun row hrow => ?_, ?_⟩
  · obtain hrow | hrow := hrows row hrow
    · exact .inl hrow
    · rw [hrow]
      exact .inr here.stored
  · refine (logsOnce_iff did hrecord).mpr fun old hbefore => ?_
    simp only [Desk.fieldsBefore, show desk.db.tickets data.child = none from hfresh] at hbefore
    cases hbefore

variable (ws) in
/-- A service call keeps the desk, and logs its changes exactly if no change goes unlogged. -/
theorem serve_law (kept : desk.Kept) (event : ServiceEvent) :
    (desk.record ws (.service event)).Kept ∧
      (desk.LogsOnce ws (.service event) ↔ desk.Logged ws (.service event)) := by
  obtain ⟨service, req, brokerUp⟩ := event
  cases hattempt : service.attempt ws req desk with
  | error message =>
    have hrecord := record_of_error brokerUp hattempt
    rw [hrecord]
    refine ⟨kept_drop kept, iff_of_true (logsOnce_of_same (by rw [hrecord]; rfl)) ?_⟩
    cases service with
    | onTicket id reuse work =>
      intro t hload
      rw [Service.attempt, Option.mem_def.mp hload] at hattempt
      exact Work.logged_of_error hattempt
    | createTicket creator data => trivial
    | createTicketFromEmail systemUser overrides agent => trivial
    | splitTicket source actor data => trivial
  | ok t' =>
    rw [record_of_ok brokerUp hattempt]
    cases service with
    | onTicket id reuse work => exact onTicket_law kept hattempt
    | createTicket creator data =>
      exact (createTicket_law kept hattempt).imp_right fun once => iff_of_true once trivial
    | createTicketFromEmail systemUser overrides agent =>
      exact (createTicketFromEmail_law kept hattempt).imp_right fun once =>
        iff_of_true once trivial
    | splitTicket source actor data =>
      exact (splitTicket_law kept hattempt).imp_right fun once => iff_of_true once trivial

end Services

theorem directSave_law (kept : desk.Kept) (reuse : Bool) (edit : FieldEdit) (full brokerUp : Bool) :
    (desk.record ws (.directSave id reuse edit full req brokerUp)).Kept ∧
      (desk.LogsOnce ws (.directSave id reuse edit full req brokerUp) ↔
        desk.Logged ws (.directSave id reuse edit full req brokerUp)) := by
  cases hload : desk.load id reuse with
  | none =>
    have hrecord : desk.record ws (.directSave id reuse edit full req brokerUp) = desk.drop := by
      rw [Desk.record, hload]
    rw [hrecord]
    refine ⟨kept_drop kept, iff_of_true (logsOnce_of_same (by rw [hrecord]; rfl)) ?_⟩
    intro t ht
    rw [hload] at ht
    cases ht
  | some t =>
    have hrecord : desk.record ws (.directSave id reuse edit full req brokerUp) =
        Desk.commit brokerUp (t.directSave ws req edit full) := by
      rw [Desk.record, hload]
    obtain ⟨ticket, skip, rfl, here⟩ := kept.synced.load hload
    obtain ⟨sent, did⟩ := @directSave_did ws req _ _ here edit full
    rw [hrecord]
    exact ⟨kept_commit kept brokerUp did fun row hrow => .inl (ticket_of_mem_receiverRows hrow),
      logsOnce_iff_loaded did hrecord hload here receiverRows_loggedOnce⟩

theorem logActivity_law (kept : desk.Kept) (ticket : ℕ) (actor : Option ℕ) (action : LogAction)
    (now : Instant) :
    (desk.record ws (.logActivity ticket actor action now)).Kept ∧
      desk.LogsOnce ws (.logActivity ticket actor action now) := by
  cases hstored : desk.db.tickets ticket with
  | none =>
    have hrecord : desk.record ws (.logActivity ticket actor action now) = desk := by
      rw [Desk.record, hstored]
      rfl
    exact ⟨by rwa [hrecord], logsOnce_of_same (by rw [hrecord])⟩
  | some row =>
    refine ⟨⟨?_, ?_⟩, logsOnce_of_same ?_⟩
    all_goals rw [Desk.record, hstored]
    · exact kept.synced
    · intro row hrow
      obtain hrow | hrow := List.mem_append.mp hrow
      · exact kept.stored row hrow
      · rw [List.mem_singleton.mp hrow]
        exact Option.isSome_of_eq_some hstored
    · rfl

/-! ## Runs -/

variable (ws) in
theorem record_law (kept : desk.Kept) (event : LogEvent) :
    (desk.record ws event).Kept ∧ (desk.LogsOnce ws event ↔ desk.Logged ws event) := by
  cases event with
  | service event => exact serve_law ws kept event
  | directSave ticket reuse edit full req brokerUp =>
    exact directSave_law kept reuse edit full brokerUp
  | logActivity ticket actor action now =>
    exact (logActivity_law kept ticket actor action now).imp_right fun once =>
      iff_of_true once trivial

variable (ws) in
/-- In exactly the runs in which no change goes unlogged, every change is logged once. -/
theorem logged_once_throughout_iff {start : Desk} (kept : start.Kept) (events : List LogEvent) :
    Every (Desk.record ws) (Desk.LogsOnce ws) start events ↔
      Every (Desk.record ws) (Desk.Logged ws) start events := by
  refine every_iff_every ?_ ?_ kept events
  · intro desk event kept _
    exact (record_law ws kept event).1
  · intro desk event kept
    exact (record_law ws kept event).2

end Laws

theorem Desk.kept_empty : ({} : Desk).Kept where
  synced loaded hloaded := by cases hloaded
  stored row hrow := by cases hrow

/-- A ticket is created, assigned and edited in the admin, with three seconds in between. -/
def editedInAdmin : List LogEvent :=
  [ .service
      { service := .createTicket 1 { id := 5 }
        req := { clock := ⟨0, 0, 0, 0⟩, actor := some 1 } },
    .service
      { service := .onTicket 5 false (.assignTicket 2 "")
        req := { clock := ⟨3000000, 3000000, 3000000, 3000000⟩, actor := some 1 } },
    .logActivity 5 (some 2) .fieldChanged 3000000,
    .directSave 5 false { priority := some .urgent, assignee := some none } true
      { clock := ⟨6000000, 6000000, 6000000, 6000000⟩ } true ]

theorem logged_once_on_editedInAdmin :
    Every (Desk.record .seeded) (Desk.LogsOnce .seeded) {} editedInAdmin := by
  apply (logged_once_throughout_iff .seeded Desk.kept_empty editedInAdmin).mpr
  decide

/-- A ticket is moved to the stage in which it is won, and so to the resolved status. -/
def movedToWon : List LogEvent :=
  [ .service
      { service := .createTicket 1 { id := 5 }
        req := { clock := ⟨0, 0, 0, 0⟩, actor := some 1 } },
    .service
      { service := .onTicket 5 false
          (.transitionPipelineStage { pk := 1, pipeline := 1, name := "Won", isWon := true } "")
        req := { clock := ⟨3000000, 3000000, 3000000, 3000000⟩, actor := some 1 } } ]

theorem unlogged_on_movedToWon :
    ¬ Every (Desk.record .seeded) (Desk.LogsOnce .seeded) {} movedToWon := by
  intro every
  have once := every.2.1 5 _ _ rfl rfl
  exact absurd (once.status (by decide)) (by decide)

end Kanzan.Tickets

import Kanzan.Tickets.Effects

/-!
# The resolved status

`solved_at` and `auto_close_task_id` belong to the resolved status.  A status change
maintains both; merging and moving to a terminal stage write the status without
them.  The task id is stored by a hook that runs once the resolution has committed.
-/

namespace Kanzan.Tickets

open Sla Support

variable {ws : Workspace} {req : Request}
variable {s s' : Session} {newStatus : TicketStatus} {db : Db} {inst row ticket : Ticket}

def TicketStatus.isResolved (status : TicketStatus) : Bool := status.slug == "resolved"

/-- The two columns of the resolved status agree with the status. -/
structure Tracked (ticket : Ticket) : Prop where
  solvedAt : ticket.solvedAt.isSome = ticket.status.isResolved
  taskId : ticket.autoCloseTaskId.isSome = true → ticket.status.isResolved = true

theorem tracked_ofLifecycle : OfLifecycle Tracked := by
  intro a b hlifecycle tracked
  simp only [Ticket.lifecycle, Prod.mk.injEq] at hlifecycle
  obtain ⟨hstatus, -, -, hsolved, htask⟩ := hlifecycle
  exact ⟨by rw [hsolved, hstatus, tracked.solvedAt],
    by rw [htask, hstatus]; exact tracked.taskId⟩

theorem resolvedEdge_iff {oldStatus : TicketStatus} :
    resolvedEdge oldStatus newStatus ↔
      newStatus.isResolved = true ∧ oldStatus.isResolved = false := by
  simp [resolvedEdge, TicketStatus.isResolved]

theorem handleTicketStatusChange_tracked (now : Instant) (previous : Ticket) :
    Tracked (handleTicketStatusChange now previous inst) ↔ Tracked inst := by
  obtain ⟨resolvedAt, closedAt, breached, hinst⟩ := handleTicketStatusChange_eq now previous inst
  rw [hinst]
  exact ⟨fun h => ⟨h.solvedAt, h.taskId⟩, fun h => ⟨h.solvedAt, h.taskId⟩⟩

/-- A save lists the columns that the move into or out of the resolved status needs. -/
structure KeepsTracking (columns : List Column) (oldStatus newStatus : TicketStatus) : Prop where
  together : (.status ∈ columns ∧ .solvedAt ∈ columns ∧
      (.autoCloseTaskId ∈ columns ∨ newStatus.isResolved = true)) ∨
    (.solvedAt ∉ columns ∧ .autoCloseTaskId ∉ columns ∧
      newStatus.isResolved = oldStatus.isResolved)

theorem Tracked.persist {columns : List Column} (hinst : Tracked inst) (hrow : Tracked row)
    (keeps : KeepsTracking columns row.status inst.status) :
    Tracked (inst.persist columns row) := by
  obtain ⟨hstatus, hsolved, htask⟩ | ⟨hsolved, htask, hsame⟩ := keeps.together
  · refine ⟨by simp [Ticket.persist, hstatus, hsolved, hinst.solvedAt], ?_⟩
    simp only [Ticket.persist, hstatus, if_true]
    obtain htask | hresolved := htask
    · simpa only [htask, if_true] using hinst.taskId
    · exact fun _ => hresolved
  · have hkept : (inst.persist columns row).status.isResolved = row.status.isResolved := by
      dsimp only [Ticket.persist]
      split
      · exact hsame
      · rfl
    refine ⟨?_, ?_⟩
    · rw [hkept, ← hrow.solvedAt]
      simp [Ticket.persist, hsolved]
    · rw [hkept]
      simpa [Ticket.persist, htask] using hrow.taskId

theorem Holds.saveDraft_tracked {clock : Clock} {draft : Draft} (holds : Holds Tracked s)
    (hlisted : .status ∈ draft.updateFields ∨ draft.ticket.status = s.ticket.status)
    (hdraft : Tracked draft.ticket)
    (keeps : KeepsTracking draft.updateFields s.ticket.status draft.ticket.status) :
    Holds Tracked (saveDraft ws clock draft s) := by
  obtain ⟨row, hrow, hsettled⟩ := holds.settled
  have hinst := handleTicketStatusChange_tracked clock.preSave row
    |>.mpr hdraft
  refine Holds.of_save (s := s.modify fun _ => draft.ticket) tracked_ofLifecycle.ignoresClock
    holds.rows hrow (hlisted.imp_right fun hsame => hsettled.trans hsame.symm) ?_ hinst
  apply hinst.persist (holds.rows s.id row hrow)
  rw [handleTicketStatusChange_status, hsettled]
  exact keeps

theorem statusDraft_tracked (tracked : Tracked ticket) :
    Tracked (statusDraft req newStatus ticket).ticket := by
  obtain ⟨preWait, breached, hdraft⟩ := statusDraft_ticket req newStatus ticket
  rw [hdraft]
  have hsolved := tracked.solvedAt
  have htask := tracked.taskId
  constructor <;> simp only [resolvedEdge_iff] <;>
    cases hold : ticket.status.isResolved <;> cases hnew : newStatus.isResolved <;>
    simp_all

theorem statusDraft_keepsTracking :
    KeepsTracking (statusDraft req newStatus ticket).updateFields ticket.status newStatus := by
  constructor
  simp only [mem_statusDraft .solvedAt (by decide),
    mem_statusDraft .autoCloseTaskId (by decide), status_mem_statusDraft,
    resolvedEdge_iff]
  cases hold : ticket.status.isResolved <;> cases hnew : newStatus.isResolved <;> simp

variable (ws req) in
theorem changeTicketStatus_tracked (newStatus : TicketStatus) (s : Session)
    (holds : Holds Tracked s) : Holds Tracked (changeTicketStatus ws req newStatus s) := by
  refine holds.statusChange fun _ => ?_
  apply holds.saveDraft_tracked
  · exact .inl status_mem_statusDraft
  · exact statusDraft_tracked holds.ticket
  · rw [statusDraft_status]
    exact statusDraft_keepsTracking

theorem mergeTickets_tracked {primary : ℕ} (holds : Holds Tracked s) (hkeeps : (ws.closedStatus).all
      (fun target => target.isResolved == s.ticket.status.isResolved) = true)
    (success : mergeTickets ws req primary s = .ok s') : Holds Tracked s' := by
  obtain ⟨-, rfl⟩ := mergeTickets_cases success
  have hmoved : Holds Tracked { s with db := s.db.moveActivities s.id primary } :=
    holds.congr rfl rfl rfl
  have hsame : (mergeDraft ws req primary s.ticket).ticket.status.isResolved =
      s.ticket.status.isResolved := by
    unfold mergeDraft
    dsimp only
    split
    · rfl
    · rename_i closedStatus hclosed
      simpa [hclosed] using hkeeps
  have hcolumns : (mergeDraft ws req primary s.ticket).ticket.solvedAt = s.ticket.solvedAt ∧
      (mergeDraft ws req primary s.ticket).ticket.autoCloseTaskId = s.ticket.autoCloseTaskId := by
    unfold mergeDraft
    dsimp only
    split <;> exact ⟨rfl, rfl⟩
  have hsaved : Holds Tracked (saveDraft ws req.clock (mergeDraft ws req primary s.ticket)
      { s with db := s.db.moveActivities s.id primary }) := by
    apply hmoved.saveDraft_tracked
    · exact .inl (List.mem_cons_self ..)
    · exact ⟨by rw [hsame, hcolumns.1, holds.ticket.solvedAt],
        by rw [hsame, hcolumns.2]; exact holds.ticket.taskId⟩
    · exact ⟨.inr ⟨by simp [mergeDraft], by simp [mergeDraft], hsame⟩⟩
  exact hsaved.congr rfl rfl rfl

theorem transitionPipelineStage_tracked {newStage : PipelineStage} {reason : String}
    (holds : Holds Tracked s) (hkeeps : entersStage newStage s.ticket = true →
      (stageTarget ws newStage s.ticket.status).all
        (fun target => target.isResolved == s.ticket.status.isResolved) = true)
    (success : transitionPipelineStage ws req newStage reason s = .ok s') : Holds Tracked s' := by
  obtain rfl | ⟨henters, rfl⟩ := transitionPipelineStage_cases success
  · exact holds
  have hresolved := hkeeps henters
  obtain ⟨_, _, _, _, _, _, hdraft⟩ := stageDraft_eq ws req newStage reason s.ticket
  have hcolumns := congrArg (fun ticket => (ticket.solvedAt, ticket.autoCloseTaskId)) hdraft
  obtain ⟨hsolvedAt, htaskId⟩ := Prod.mk.inj hcolumns
  have hsame : (stageDraft ws req newStage reason s.ticket).ticket.status.isResolved =
      s.ticket.status.isResolved := by
    rw [stageDraft_status]
    cases htarget : stageTarget ws newStage s.ticket.status with
    | none => rfl
    | some target => simpa [htarget] using hresolved
  apply Holds.log
  apply holds.saveDraft_tracked
  · exact stageDraft_listed
  · exact ⟨by rw [hsame, hsolvedAt, holds.ticket.solvedAt],
      by rw [hsame, htaskId]; exact holds.ticket.taskId⟩
  · refine ⟨.inr ⟨?_, ?_, hsame⟩⟩ <;> rw [mem_stageDraft] <;> simp

/-! ## Hooks -/

/-- Tickets are tracked, and only resolved tickets await their auto-close task. -/
structure Ready (db : Db) : Prop where
  rows : Rows Tracked db
  hooks : ∀ id ∈ db.onCommit, ∀ row, db.tickets id = some row → row.status.isResolved = true

/-- Storing the task ids of resolved tickets keeps every ticket tracked. -/
theorem Ready.commit (ready : Ready db) (brokerUp : Bool) :
    Rows Tracked (db.commit brokerUp) ∧ (db.commit brokerUp).onCommit = [] := by
  have hall := commit_preserves brokerUp db
    (P := fun committed => Rows Tracked committed ∧ committed.onCommit = [] ∧
      ∀ id ∈ db.onCommit, ∀ row, committed.tickets id = some row → row.status.isResolved = true)
    ⟨ready.rows, rfl, ready.hooks⟩ ?_
  · exact ⟨hall.1, hall.2.1⟩
  rintro committed ticket hticket ⟨rows, hempty, hooks⟩
  unfold Db.scheduleAutoClose
  split
  · have hrows : ∀ id row, (committed.setAutoCloseTaskId ticket
        (some committed.autoCloseTasks.length)).tickets id = some row →
        ∃ before, committed.tickets id = some before ∧ row.status = before.status ∧
          row.solvedAt = before.solvedAt ∧
          (id = ticket ∨ row.autoCloseTaskId = before.autoCloseTaskId) := by
      intro id row hrow
      rw [setAutoCloseTaskId_tickets] at hrow
      split at hrow
      · rename_i hid
        obtain ⟨before, hbefore, rfl⟩ := Option.map_eq_some_iff.mp hrow
        exact ⟨before, hbefore, rfl, rfl, .inl hid⟩
      · exact ⟨row, hrow, rfl, rfl, .inr rfl⟩
    refine ⟨?_, hempty, ?_⟩
    · intro id row hrow
      obtain ⟨before, hbefore, hstatus, hsolved, htask⟩ := hrows id row hrow
      have htracked := rows id before hbefore
      refine ⟨by rw [hsolved, hstatus, htracked.solvedAt], ?_⟩
      rw [hstatus]
      obtain rfl | htask := htask
      · exact fun _ => hooks id hticket before hbefore
      · rw [htask]
        exact htracked.taskId
    · intro id hid row hrow
      obtain ⟨before, hbefore, hstatus, -, -⟩ := hrows id row hrow
      rw [hstatus]
      exact hooks id hid before hbefore
  · exact ⟨rows, hempty, hooks⟩

theorem Ready.of_quiet (db : Db) {after : Db} (rows : Rows Tracked after) (hempty : db.onCommit = [])
    (hsame : after.onCommit = db.onCommit) : Ready after where
  rows := rows
  hooks := by
    intro id hid
    rw [hsame, hempty] at hid
    cases hid

theorem changeTicketStatus_ready (newStatus : TicketStatus) (holds : Holds Tracked s)
    (hempty : s.db.onCommit = []) :
    Ready (changeTicketStatus ws req newStatus s).db where
  rows := (changeTicketStatus_tracked _ _ newStatus s holds).rows
  hooks := by
    intro id hid row hrow
    rw [changeTicketStatus_onCommit _ _ _, hempty] at hid
    split at hid
    · rename_i hedge
      rw [List.nil_append, List.mem_singleton] at hid
      subst hid
      obtain ⟨stored, hstored, hstatus⟩ :=
        (changeTicketStatus_tracked ws req newStatus s holds).settled
      rw [changeTicketStatus_id _ _ _, hrow, Option.some.injEq] at hstored
      rw [hstored, hstatus, changeTicketStatus_status holds.settled]
      exact (resolvedEdge_iff.mp hedge).1
    · cases hid

theorem creation_onCommit {after : Db} {op : Op} (hcreation : op.isCreation = true)
    (success : attempt ws req op db = .ok after) : after.onCommit = db.onCommit := by
  obtain ⟨id, ticket, status, t, -, -, -, edits, rfl⟩ := creation_cases hcreation success
  exact edits.untouched.onCommit

theorem autoCloseTicket_onCommit (taskId : ℕ) (s : Session) :
    (autoCloseTicket ws req taskId s).db.onCommit = s.db.onCommit := by
  unfold autoCloseTicket
  split
  · rfl
  rename_i hresolved
  split
  · rfl
  split
  · rfl
  · rename_i closedStatus hclosed
    refine (changeTicketStatus_onCommit ws req closedStatus
      s).trans ?_
    rw [if_neg]
    exact fun hedge => hresolved hedge.2

/-! ## Runs -/

def Op.isStatusWriter : Op → Bool
  | .createTicket .. | .createTicketFromEmail .. | .splitTicket .. | .transitionTicketStatus ..
  | .bulkChangeStatus .. | .moveCard .. | .closeTicket .. | .mergeTickets ..
  | .transitionPipelineStage .. | .autoCloseTicket .. => true
  | _ => false

/--
The steps that keep the two columns with the status: no ticket is created as resolved,
and neither a merge nor a stage moves one into or out of the resolved status.
-/
def keepsResolution (ws : Workspace) (db : Db) (event : Event) : Bool :=
  (initialStatus ws event.op).all (fun status =>
    !status.isResolved || !(attempt ws event.req event.op db).isOk) &&
  match event.op with
  | .mergeTickets primary secondary =>
    primary == secondary || (db.tickets primary).isNone || (db.tickets secondary).all fun row =>
      ws.closedStatus.all fun target => target.isResolved == row.status.isResolved
  | .transitionPipelineStage id newStage _ =>
    (db.tickets id).all fun row => !entersStage newStage row ||
      (stageTarget ws newStage row.status).all fun target =>
        target.isResolved == row.status.isResolved
  | _ => true

theorem step_tracked {event : Event} (rows : Rows Tracked db) (hempty : db.onCommit = [])
    (hwriter : event.op.isStatusWriter = true) (hkeeps : keepsResolution ws db event = true) :
    Rows Tracked (step ws db event) ∧ (step ws db event).onCommit = [] := by
  apply step_preserves (P := fun db => Rows Tracked db ∧ db.onCommit = []) ⟨rows, hempty⟩
  intro after success
  suffices ready : Ready after from ready.commit event.brokerUp
  simp only [keepsResolution, Bool.and_eq_true] at hkeeps
  obtain ⟨hfresh, hop⟩ := hkeeps
  by_cases hcreation : event.op.isCreation = true
  · refine Ready.of_quiet db ?_ hempty (creation_onCommit hcreation success)
    refine rows.creation tracked_ofLifecycle hcreation ?_ success
    intro status hstatus ticket newborn
    have hopen : status.isResolved = false := by
      rw [hstatus, success] at hfresh
      simpa [Except.isOk, Except.toBool] using hfresh
    have hlifecycle := newborn.lifecycle
    simp only [Ticket.lifecycle, Prod.mk.injEq] at hlifecycle
    obtain ⟨rfl, -, -, hsolved, htask⟩ := hlifecycle
    exact ⟨by rw [hsolved, hopen]; rfl, by rw [htask]; intro hnone; cases hnone⟩
  have hload : ∀ {id : ℕ} {ticket : Ticket}, db.tickets id = some ticket →
      Holds Tracked { db, id, ticket } := fun hticket => Holds.load rows hticket
  have hunchanged : Ready db := Ready.of_quiet db rows hempty rfl
  cases hevent : event.op <;> rw [hevent] at success hop hwriter hcreation <;>
    simp only [Op.isStatusWriter, Op.isCreation, Bool.false_eq_true, not_true_eq_false] at *
  case transitionTicketStatus id newStatus =>
    obtain ⟨ticket, s, hticket, hok, rfl⟩ := onTicket_eq_ok.mp success
    obtain ⟨-, rfl⟩ := transitionTicketStatus_cases hok
    exact changeTicketStatus_ready newStatus (hload hticket) hempty
  case bulkChangeStatus id newStatus =>
    dsimp only [attempt] at success
    obtain ⟨ticket, s, hticket, hok, rfl⟩ := onTicket_eq_ok.mp success
    rw [← Except.ok.inj hok]
    exact changeTicketStatus_ready newStatus (hload hticket) hempty
  case moveCard id column isSameColumn =>
    obtain ⟨ticket, s, hticket, hok, rfl⟩ := onTicket_eq_ok.mp success
    obtain rfl | ⟨newStatus, -, -, rfl⟩ := moveCard_cases hok
    · exact hunchanged
    · exact changeTicketStatus_ready newStatus (hload hticket) hempty
  case closeTicket id =>
    obtain ⟨ticket, s, hticket, hok, rfl⟩ := onTicket_eq_ok.mp success
    obtain rfl | ⟨newStatus, -, -, -, rfl⟩ := closeTicket_cases hok
    · exact hunchanged
    · exact changeTicketStatus_ready newStatus (hload hticket) hempty
  case mergeTickets primary secondary =>
    dsimp only [attempt] at success
    split at success
    · cases success
    rename_i hprimary
    obtain ⟨ticket, s, hticket, hok, rfl⟩ := onTicket_eq_ok.mp success
    obtain ⟨hne, hs⟩ := mergeTickets_cases hok
    refine Ready.of_quiet db (mergeTickets_tracked (hload hticket) ?_ hok).rows hempty ?_
    · simpa [hprimary, hne, hticket] using hop
    · rw [hs]
      exact (saveDraft_untouched _ _ _ _).onCommit
  case transitionPipelineStage id newStage reason =>
    obtain ⟨ticket, s, hticket, hok, rfl⟩ := onTicket_eq_ok.mp success
    refine Ready.of_quiet db
      (transitionPipelineStage_tracked (hload hticket) ?_ hok).rows hempty ?_
    · intro henters
      simpa [henters, hticket] using hop
    · obtain rfl | ⟨-, rfl⟩ := transitionPipelineStage_cases hok
      · rfl
      · exact (saveDraft_untouched _ _ _ _).onCommit
  case autoCloseTicket id taskId =>
    dsimp only [attempt] at success
    obtain ⟨ticket, s, hticket, hok, rfl⟩ := onTicket_eq_ok.mp success
    rw [← Except.ok.inj hok]
    refine Ready.of_quiet db ?_ hempty (autoCloseTicket_onCommit taskId _)
    exact autoCloseTicket_keeps (tracked_ofLifecycle.carried (by decide))
      (changeTicketStatus_tracked _ _)
      (fun _ _ hrows => hrows.updateWhere fun row hrow =>
        ⟨hrow.solvedAt, fun hnone => by cases hnone⟩) (hload hticket) taskId

/-- What the two columns of the resolved status promise about a stored ticket. -/
def ResolutionAgrees (row : Ticket) : Prop :=
  (row.solvedAt.isSome = true ↔ row.status.slug = "resolved") ∧
    (row.autoCloseTaskId.isSome = true → row.status.slug = "resolved")

theorem Tracked.resolutionAgrees (tracked : Tracked row) : ResolutionAgrees row := by
  have hslug : row.status.isResolved = true ↔ row.status.slug = "resolved" := by
    simp [TicketStatus.isResolved]
  refine ⟨by rw [tracked.solvedAt, hslug], ?_⟩
  rw [← hslug]
  exact tracked.taskId

/-- In every run of admitted steps the two columns follow the resolved status throughout. -/
theorem resolution_agrees_throughout (ws : Workspace) (events : List Event)
    (hkeeps : Every (step ws) (fun db event =>
      event.op.isStatusWriter = true ∧ keepsResolution ws db event = true) Db.empty events) :
    Always (step ws) (Rows ResolutionAgrees) Db.empty events := by
  refine always_of_invariant (fun db => Rows Tracked db ∧ db.onCommit = [])
    ?_ ?_ ?_ events hkeeps
  · intro db inv id row hrow
    exact (inv.1 id row hrow).resolutionAgrees
  · intro db event inv hadmitted
    exact step_tracked inv.1 inv.2 hadmitted.1 hadmitted.2
  · refine ⟨?_, rfl⟩
    intro id row hrow
    cases hrow

/-- A ticket is resolved, and its auto-close task closes it. -/
def autoClosedTicket : List Event :=
  [ { op := .createTicket 1 { id := 0 }, req := { clock := ⟨0, 0, 0, 0⟩, actor := some 1 } },
    { op := .bulkChangeStatus 0 { pk := 3, name := "Resolved", slug := "resolved", order := 40 },
      req := { clock := ⟨30, 30, 30, 30⟩, actor := some 1 } },
    { op := .autoCloseTicket 0 0, req := { clock := ⟨60, 60, 60, 60⟩ } } ]

theorem resolution_agrees_on_autoClosedTicket :
    Always (step .seeded) (Rows ResolutionAgrees) Db.empty autoClosedTicket :=
  resolution_agrees_throughout .seeded autoClosedTicket (by decide)

/-- A resolved ticket is merged into another one. -/
def mergedResolvedTicket : List Event :=
  [ { op := .createTicket 1 { id := 0 }, req := { clock := ⟨0, 0, 0, 0⟩, actor := some 1 } },
    { op := .createTicket 1 { id := 1 }, req := { clock := ⟨0, 0, 0, 0⟩, actor := some 1 } },
    { op := .bulkChangeStatus 0 { pk := 3, name := "Resolved", slug := "resolved", order := 40 },
      req := { clock := ⟨30, 30, 30, 30⟩, actor := some 1 } },
    { op := .mergeTickets 1 0, req := { clock := ⟨60, 60, 60, 60⟩, actor := some 1 } } ]

theorem resolution_disagrees_on_mergedResolvedTicket :
    ¬ Always (step .seeded) (Rows ResolutionAgrees) Db.empty mergedResolvedTicket := by
  intro always
  have hstored : ((run (step .seeded) Db.empty mergedResolvedTicket).tickets 0).map (fun row =>
      (row.status.slug, row.solvedAt.isSome)) = some ("closed", true) := by
    decide
  obtain ⟨row, hrow, hvalues⟩ := Option.map_eq_some_iff.mp hstored
  have hagrees := always.finish 0 row hrow
  rw [Prod.mk.injEq] at hvalues
  simp [ResolutionAgrees, hvalues] at hagrees

end Kanzan.Tickets

import Kanzan.Tickets.Audited
import Kanzan.Tickets.Effects

/-!
# What an audited operation records

The receivers follow three fields of a ticket.  `Did` says what an operation leaves in
them, which rows it adds to the activity log and which assignments it signals; there is
one such lemma for the save and one for each operation.
-/

namespace Kanzan.Tickets

open Sla Support

/-! ## The fields that the receivers follow -/

structure Fields where
  status : TicketStatus
  priority : Priority
  assignee : Option ℕ
  deriving DecidableEq, Repr

def Ticket.fields (ticket : Ticket) : Fields where
  status := ticket.status
  priority := ticket.priority
  assignee := ticket.assignee

/-- Every field that differs has its column among the saved ones. -/
structure Lists (columns : List Column) (old new : Fields) : Prop where
  status : old.status = new.status ∨ .status ∈ columns
  priority : old.priority = new.priority ∨ .priority ∈ columns
  assignee : old.assignee = new.assignee ∨ .assignee ∈ columns

theorem Lists.refl (columns : List Column) (fields : Fields) : Lists columns fields fields :=
  ⟨.inl rfl, .inl rfl, .inl rfl⟩

theorem Lists.all (old new : Fields) : Lists Column.all old new := by
  constructor <;> right <;> decide

/-- Work that leaves the fields of all rows, and of the instance, as they are. -/
structure KeepsFields (s s' : Session) : Prop where
  id : s'.id = s.id
  inst : s'.ticket.fields = s.ticket.fields
  others : ∀ other ≠ s.id, s'.db.tickets other = s.db.tickets other
  row : (s'.db.tickets s.id).map Ticket.fields = (s.db.tickets s.id).map Ticket.fields

namespace KeepsFields

theorem of_tickets {s s' : Session} (hid : s'.id = s.id)
    (hinst : s'.ticket.fields = s.ticket.fields) (htickets : s'.db.tickets = s.db.tickets) :
    KeepsFields s s' where
  id := hid
  inst := hinst
  others _ _ := by rw [htickets]
  row := by rw [htickets]

theorem log (s : Session) (event : ActivityEvent) : KeepsFields s (s.log event) :=
  of_tickets rfl rfl rfl

theorem logSlaChange (old : Ticket) (s : Session) : KeepsFields s (logSlaChange old s) := by
  unfold Tickets.logSlaChange
  split
  · exact of_tickets rfl rfl rfl
  · exact log s .statusChanged

end KeepsFields

section SavedFields

variable {ws : Workspace} {clock : Clock} {columns : List Column} {s : Session} {fields : Fields}

theorem handleTicketStatusChange_fields (now : Instant) (previous inst : Ticket) :
    (handleTicketStatusChange now previous inst).fields = inst.fields := by
  obtain ⟨resolvedAt, closedAt, breached, hinst⟩ := handleTicketStatusChange_eq now previous inst
  rw [hinst]
  rfl

theorem persist_fields {inst row : Ticket} (lists : Lists columns row.fields inst.fields) :
    (inst.persist columns row).fields = inst.fields := by
  have hstatus := lists.status
  have hpriority := lists.priority
  have hassignee := lists.assignee
  simp only [Ticket.fields] at hstatus hpriority hassignee
  simp only [Ticket.fields, Ticket.persist, Fields.mk.injEq]
  refine ⟨?_, ?_, ?_⟩
  · split
    · rfl
    · exact hstatus.resolve_right ‹_›
  · split
    · rfl
    · exact hpriority.resolve_right ‹_›
  · split
    · rfl
    · exact hassignee.resolve_right ‹_›

variable (ws clock) in
/-- A save that lists every field it has changed stores the fields of its instance. -/
theorem save_fields {previous : Ticket} (hrow : s.db.tickets s.id = some previous)
    (lists : Lists columns previous.fields s.ticket.fields) :
    ((save ws clock columns s).db.tickets s.id).map Ticket.fields = some s.ticket.fields ∧
      (save ws clock columns s).ticket.fields = s.ticket.fields := by
  have hstatus : .status ∈ columns ∨ previous.status = s.ticket.status := lists.status.symm
  obtain ⟨row, hsaved, hcore⟩ := save_row ws clock hrow hstatus
  have hinst := save_instance ws clock hrow hstatus
  have hfields := handleTicketStatusChange_fields clock.preSave previous s.ticket
  refine ⟨?_, ?_⟩
  · rw [hsaved, Option.map_some, eq_of_core hcore Ticket.fields (fun _ => rfl),
      persist_fields (by rwa [hfields]), hfields]
  · rw [eq_of_core hinst Ticket.fields (fun _ => rfl), hfields]

end SavedFields

namespace Audited

/-! ## What a session has recorded -/

/-- The ticket is stored, and row and instance have these fields. -/
structure At (fields : Fields) (t : Audited) : Prop where
  row : (t.session.db.tickets t.session.id).map Ticket.fields = some fields
  inst : t.session.ticket.fields = fields

/-- An operation on one ticket left these fields, log rows and signals. -/
structure Did (a b : Audited) (fields : Fields) (rows : List ActivityLog)
    (sent : List TicketAssigned) : Prop where
  id : b.session.id = a.session.id
  others : ∀ other ≠ a.session.id, b.session.db.tickets other = a.session.db.tickets other
  at_end : b.At fields
  activityLog : b.activityLog = a.activityLog ++ rows
  signals : b.signals = a.signals ++ sent
  notifications : b.notifications = a.notifications ++ sent.flatMap handleTicketAssigned

section Composition

variable {a b c : Audited} {fields : Fields} {rows rows' : List ActivityLog}
variable {sent sent' : List TicketAssigned}

theorem Did.refl (here : a.At fields) : Did a a fields [] [] where
  id := rfl
  others _ _ := rfl
  at_end := here
  activityLog := (List.append_nil _).symm
  signals := (List.append_nil _).symm
  notifications := (List.append_nil _).symm

theorem Did.trans {middle : Fields} (first : Did a b middle rows sent)
    (second : Did b c fields rows' sent') :
    Did a c fields (rows ++ rows') (sent ++ sent') where
  id := second.id.trans first.id
  others other hother := by
    rw [second.others other (by rwa [first.id]), first.others other hother]
  at_end := second.at_end
  activityLog := by rw [second.activityLog, first.activityLog, List.append_assoc]
  signals := by rw [second.signals, first.signals, List.append_assoc]
  notifications := by
    rw [second.notifications, first.notifications, List.append_assoc, List.flatMap_append]

theorem Did.onSession (did : Did a b fields rows sent) {work : Session → Session}
    (keeps : KeepsFields b.session (work b.session)) :
    Did a (b.onSession work) fields rows sent where
  id := keeps.id.trans did.id
  others other hother := by
    rw [onSession_session, keeps.others other (by rwa [did.id]), did.others other hother]
  at_end := by
    refine ⟨?_, keeps.inst.trans did.at_end.inst⟩
    rw [onSession_session, keeps.id, keeps.row, did.at_end.row]
  activityLog := did.activityLog
  signals := did.signals
  notifications := did.notifications

theorem Did.log (did : Did a b fields rows sent) (event : ActivityEvent) :
    Did a (b.onSession fun s => s.log event) fields rows sent :=
  did.onSession (.log b.session event)

theorem Did.note (did : Did a b fields rows sent) (ticket : ℕ) (event : ActivityEvent) :
    Did a (b.onSession fun s => { s with db := s.db.createTicketActivity ticket event })
      fields rows sent :=
  did.onSession (.of_tickets rfl rfl rfl)

theorem Did.record (did : Did a b fields rows sent) (assignedTo : ℕ) (assignedBy : Option ℕ)
    (note : String) :
    Did a (b.onSession fun s => s.recordAssignment assignedTo assignedBy note) fields rows sent :=
  did.onSession (.of_tickets rfl rfl rfl)

theorem Did.append (did : Did a b fields rows sent) (row : ActivityLog) :
    Did a { b with activityLog := b.activityLog ++ [row] } fields (rows ++ [row]) sent where
  id := did.id
  others := did.others
  at_end := ⟨did.at_end.row, did.at_end.inst⟩
  activityLog := by
    dsimp only
    rw [did.activityLog, List.append_assoc]
  signals := did.signals
  notifications := did.notifications

theorem Did.logActivity (did : Did a b fields rows sent) (now : Instant) (actor : Option ℕ)
    (action : LogAction) (changes : List FieldChange) :
    Did a (b.logActivity now actor action changes) fields
      (rows ++ [{ ticket := a.session.id, actor, action, changes, createdAt := now }]) sent := by
  rw [← did.id]
  exact did.append _

theorem Did.of_skip (did : Did a.skip b fields rows sent) : Did a b fields rows sent where
  id := did.id
  others := did.others
  at_end := did.at_end
  activityLog := did.activityLog
  signals := did.signals
  notifications := did.notifications

theorem At.skip (here : a.At fields) : a.skip.At fields := ⟨here.row, here.inst⟩

end Composition

/-! ## The save -/

def recentlyLogged (log : List ActivityLog) (id : ℕ) (now : Instant) (action : LogAction) :
    Bool :=
  log.any fun row =>
    row.ticket == id && row.action == action && decide (now - logWindow ≤ row.createdAt)

def receiverRow (log : List ActivityLog) (id : ℕ) (now : Instant) (changed : Bool)
    (action : LogAction) (change : FieldChange) : List ActivityLog :=
  if changed && !recentlyLogged log id now action then
    [{ ticket := id, actor := none, action, changes := [change], createdAt := now }]
  else []

def receiverRows (t : Audited) (now : Instant) (old new : Fields) : List ActivityLog :=
  if t.skipSignalLogging then []
  else
    receiverRow t.activityLog t.session.id now (old.status != new.status) .statusChanged
      (.status old.status.name new.status.name) ++
    receiverRow t.activityLog t.session.id now (old.priority != new.priority) .fieldChanged
      (.priority old.priority new.priority) ++
    receiverRow t.activityLog t.session.id now (old.assignee != new.assignee) .assigned
      (.assignee old.assignee new.assignee)

def saveSignals (id : ℕ) (updateFields : Option (List Column)) (assignee : Option ℕ) :
    List TicketAssigned :=
  match updateFields, assignee with
  | some columns, some assignee =>
    if .assignee ∈ columns then [{ ticket := id, assignee, assignedBy := none }] else []
  | _, _ => []

theorem activityAlreadyLogged_eq (now : Instant) (action : LogAction) (t : Audited) :
    t.activityAlreadyLogged now action =
      recentlyLogged t.activityLog t.session.id now action := rfl

theorem recentlyLogged_append {log rows : List ActivityLog} {id : ℕ} {now : Instant}
    {action : LogAction} (hother : ∀ row ∈ rows, row.action ≠ action) :
    recentlyLogged (log ++ rows) id now action = recentlyLogged log id now action := by
  have hnone : (rows.any fun row => row.ticket == id && row.action == action &&
      decide (now - logWindow ≤ row.createdAt)) = false := by
    rw [List.any_eq_false]
    intro row hrow
    simp [hother row hrow]
  rw [recentlyLogged, List.any_append, hnone, Bool.or_false]
  rfl

theorem action_of_mem_receiverRow {log : List ActivityLog} {id : ℕ} {now : Instant}
    {changed : Bool} {action : LogAction} {change : FieldChange} {row : ActivityLog}
    (hrow : row ∈ receiverRow log id now changed action change) : row.action = action := by
  unfold receiverRow at hrow
  split at hrow
  · rw [List.mem_singleton.mp hrow]
  · cases hrow

theorem receiverRow_append (action : LogAction) {log rows : List ActivityLog} {id : ℕ}
    {now : Instant} {changed : Bool} {change : FieldChange}
    (hother : ∀ row ∈ rows, row.action ≠ action) :
    receiverRow (log ++ rows) id now changed action change =
      receiverRow log id now changed action change := by
  unfold receiverRow
  rw [recentlyLogged_append hother]

theorem logUnlessLogged_eq (now : Instant) (changed : Bool) (action : LogAction)
    (change : FieldChange) (t : Audited) :
    t.logUnlessLogged now changed action change =
      { t with
        activityLog := t.activityLog ++
          receiverRow t.activityLog t.session.id now changed action change } := by
  unfold logUnlessLogged receiverRow
  rw [activityAlreadyLogged_eq]
  split
  · rfl
  · rw [List.append_nil]

theorem logTicketActivity_eq (now : Instant) (previous : Ticket) (t : Audited) :
    t.logTicketActivity now previous =
      { t with
        activityLog := t.activityLog ++
          receiverRows t now previous.fields t.session.ticket.fields } := by
  unfold logTicketActivity receiverRows
  split
  · rw [List.append_nil]
  · simp only [logUnlessLogged_eq]
    rw [receiverRow_append .assigned, receiverRow_append .assigned, receiverRow_append .fieldChanged]
    · simp only [Ticket.fields, List.append_assoc]
    all_goals
      intro row hrow
      rw [action_of_mem_receiverRow hrow]
      decide

theorem fireTicketAssignedSignal_eq (updateFields : Option (List Column)) (t : Audited) :
    t.fireTicketAssignedSignal updateFields =
      { t with
        signals := t.signals ++ saveSignals t.session.id updateFields t.session.ticket.assignee
        notifications := t.notifications ++
          (saveSignals t.session.id updateFields t.session.ticket.assignee).flatMap
            handleTicketAssigned } := by
  unfold fireTicketAssignedSignal saveSignals
  cases updateFields with
  | none => simp
  | some columns =>
    cases t.session.ticket.assignee with
    | none => simp
    | some assignee =>
      dsimp only
      split
      · simp [send]
      · simp

section Save

variable {ws : Workspace} {clock : Clock} {t : Audited} {old : Fields}

theorem save_of_row {updateFields : Option (List Column)} {previous : Ticket}
    (hrow : t.session.db.tickets t.session.id = some previous) :
    t.save ws clock updateFields =
      ((t.onSession
        (Tickets.save ws clock (updateFields.getD Column.all))).fireTicketAssignedSignal
          updateFields).logTicketActivity clock.postSave previous := by
  rw [save, hrow]

variable (ws clock) in
/-- A save whose columns list what the edit changes. -/
theorem save_did (here : t.At old) (updateFields : Option (List Column)) (edit : Ticket → Ticket)
    (lists : Lists (updateFields.getD Column.all) old (edit t.session.ticket).fields) :
    Did t ((t.modify edit).save ws clock updateFields) (edit t.session.ticket).fields
      (receiverRows t clock.postSave old (edit t.session.ticket).fields)
      (saveSignals t.session.id updateFields (edit t.session.ticket).fields.assignee) := by
  obtain ⟨previous, hrow, rfl⟩ := Option.map_eq_some_iff.mp here.row
  have huntouched := save_untouched ws clock (updateFields.getD Column.all)
    (t.session.modify edit)
  obtain ⟨hsaved, hinst⟩ := save_fields ws clock (s := t.session.modify edit) hrow lists
  have hid := huntouched.id
  have hassignee := congrArg Fields.assignee hinst
  rw [save_of_row (t := t.modify edit) hrow, logTicketActivity_eq, fireTicketAssignedSignal_eq]
  dsimp only [onSession, modify]
  rw [hinst, hid]
  refine ⟨hid, huntouched.others, ⟨?_, hinst⟩, ?_, ?_, ?_⟩
  · dsimp only
    rw [hid]
    exact hsaved
  · unfold receiverRows
    dsimp only
    rw [hid]
    rfl
  · exact congrArg (fun assignee => t.signals ++ saveSignals t.session.id updateFields assignee)
      hassignee
  · exact congrArg (fun assignee => t.notifications ++
      (saveSignals t.session.id updateFields assignee).flatMap handleTicketAssigned) hassignee

theorem receiverRows_self (t : Audited) (now : Instant) (fields : Fields) :
    receiverRows t now fields fields = [] := by
  simp [receiverRows, receiverRow]

theorem receiverRows_skip (t : Audited) (now : Instant) (old new : Fields) :
    receiverRows t.skip now old new = [] := rfl

theorem saveSignals_of_notMem {id : ℕ} {columns : List Column} {assignee : Option ℕ}
    (hcolumn : .assignee ∉ columns) : saveSignals id (some columns) assignee = [] := by
  unfold saveSignals
  cases assignee with
  | none => rfl
  | some user => exact if_neg hcolumn

theorem saveSignals_of_mem {id : ℕ} {columns : List Column} (hcolumn : .assignee ∈ columns)
    (user : ℕ) : saveSignals id (some columns) (some user) =
      [{ ticket := id, assignee := user, assignedBy := none }] :=
  if_pos hcolumn

variable (ws clock) in
/-- A service that logs on its own saves past the receiver of the log. -/
theorem skip_saveDraft_did (here : t.At old) (draft : Draft)
    (lists : Lists draft.updateFields old draft.ticket.fields) :
    Did t (t.skip.saveDraft ws clock draft) draft.ticket.fields []
      (saveSignals t.session.id (some draft.updateFields) draft.ticket.assignee) :=
  (save_did ws clock here.skip (some draft.updateFields) (fun _ => draft.ticket) lists).of_skip

variable (ws clock) in
/-- A save that touches none of the fields records nothing. -/
theorem save_quiet_did (here : t.At old) {columns : List Column} {edit : Ticket → Ticket}
    (hedit : (edit t.session.ticket).fields = t.session.ticket.fields)
    (hcolumn : .assignee ∉ columns) :
    Did t ((t.modify edit).save ws clock (some columns)) old [] [] := by
  have hfields := hedit.trans here.inst
  have did := save_did ws clock here (some columns) edit
    (by rw [hfields]; exact .refl columns old)
  rwa [hfields, receiverRows_self, saveSignals_of_notMem hcolumn] at did

end Save

/-! ## The operations -/

section Operations

variable {ws : Workspace} {req : Request} {ledger : Ledger} {t t' : Audited} {old : Fields}

/-- What `change_ticket_status` logs for a ticket with these fields. -/
def statusRows (req : Request) (id : ℕ) (old : Fields) (newStatus : TicketStatus) :
    List ActivityLog :=
  if old.status = newStatus then []
  else
    [{ ticket := id, actor := req.actor, action := statusAction old.status newStatus,
       changes := [.status old.status.name newStatus.name], createdAt := req.clock.postSave }]

theorem changeTicketStatus_did (here : t.At old) (newStatus : TicketStatus) :
    Did t (t.changeTicketStatus ws req newStatus) { old with status := newStatus }
      (statusRows req t.session.id old newStatus) [] := by
  have hinst := congrArg Fields.status here.inst
  unfold changeTicketStatus statusRows
  dsimp only
  rw [show t.session.ticket.status = old.status from hinst]
  split
  · rename_i hsame
    rw [← hsame]
    exact .refl here
  · obtain ⟨preWait, breached, hdraft⟩ := statusDraft_ticket req newStatus t.session.ticket
    have hnew : (statusDraft req newStatus t.session.ticket).ticket.fields =
        { old with status := newStatus } := by
      rw [hdraft, ← here.inst]
      rfl
    have hassignee : .assignee ∉ (statusDraft req newStatus t.session.ticket).updateFields := by
      rw [mem_statusDraft .assignee (by decide)]
      simp
    have saved := skip_saveDraft_did ws req.clock here
      (statusDraft req newStatus t.session.ticket)
      (by rw [hnew]; exact ⟨.inr status_mem_statusDraft, .inl rfl, .inl rfl⟩)
    rw [saveSignals_of_notMem hassignee, hnew] at saved
    have logged := (saved.logActivity req.clock.postSave req.actor
      (statusAction old.status newStatus) [.status old.status.name newStatus.name]).log
        (statusEvent old.status newStatus)
    split
    · exact logged.onSession (.of_tickets rfl rfl rfl)
    · exact logged

theorem changeTicketPriority_did (here : t.At old) (newPriority : Priority) :
    Did t (t.changeTicketPriority ws req newPriority) { old with priority := newPriority }
      (if old.priority = newPriority then []
        else [{ ticket := t.session.id, actor := req.actor, action := .fieldChanged,
                changes := [.priority old.priority newPriority],
                createdAt := req.clock.postSave }]) [] := by
  have hinst := congrArg Fields.priority here.inst
  unfold changeTicketPriority
  dsimp only
  rw [show t.session.ticket.priority = old.priority from hinst]
  split
  · rename_i hsame
    rw [← hsame]
    exact .refl here
  · have hnew : ({ t.session.ticket with priority := newPriority } : Ticket).fields =
        { old with priority := newPriority } := by
      rw [← here.inst]
      rfl
    have saved := save_did ws req.clock here.skip
      (some [.priority, .updatedAt]) (fun ticket => { ticket with priority := newPriority })
      (by rw [skip_session, hnew]; exact ⟨.inl rfl, .inr (by decide), .inl rfl⟩)
    rw [receiverRows_skip, saveSignals_of_notMem (by decide), skip_session, hnew] at saved
    exact (saved.of_skip.logActivity _ _ _ _).log _

theorem stageDraft_fields (newStage : PipelineStage) (reason : String) (ticket : Ticket) :
    (stageDraft ws req newStage reason ticket).ticket.fields =
      { ticket.fields with
        status := (stageTarget ws newStage ticket.status).getD ticket.status } := by
  obtain ⟨_, _, _, _, _, _, hdraft⟩ := stageDraft_eq ws req newStage reason ticket
  rw [hdraft]
  rfl

theorem assignee_notMem_stageDraft {newStage : PipelineStage} {reason : String} {ticket : Ticket} :
    .assignee ∉ (stageDraft ws req newStage reason ticket).updateFields := by
  unfold stageDraft
  dsimp only
  split <;> split <;> simp

theorem stageDraft_lists {newStage : PipelineStage} {reason : String} {ticket : Ticket} :
    Lists (stageDraft ws req newStage reason ticket).updateFields ticket.fields
      (stageDraft ws req newStage reason ticket).ticket.fields := by
  have hlisted := @stageDraft_listed ws req newStage reason ticket
  refine ⟨hlisted.symm.imp_left Eq.symm, .inl ?_, .inl ?_⟩
  · rw [stageDraft_fields]
  · rw [stageDraft_fields]

theorem transitionPipelineStage_did (here : t.At old) {newStage : PipelineStage} {reason : String}
    (success : t.transitionPipelineStage ws req newStage reason = .ok t') :
    (t.session.ticket.pipelineStage = some newStage ∧ Did t t' old [] []) ∨
      (∀ oldStage ∈ t.session.ticket.pipelineStage,
        oldStage.pipeline = newStage.pipeline ∧ oldStage ≠ newStage) ∧
      Did t t' { old with status := (stageTarget ws newStage old.status).getD old.status }
        [{ ticket := t.session.id, actor := req.actor, action := .pipelineStageChanged,
           changes := [.pipelineStage (t.session.ticket.pipelineStage.map PipelineStage.name)
             newStage.name],
           createdAt := req.clock.postSave }] [] := by
  obtain rfl := here.inst
  unfold transitionPipelineStage at success
  dsimp only at success
  split at success
  · cases success
  rename_i hpipeline
  split at success
  · rename_i hsame
    rw [← Except.ok.inj success]
    exact .inl ⟨hsame, .refl here⟩
  · rename_i hmoves
    rw [← Except.ok.inj success]
    have hstages : ∀ oldStage ∈ t.session.ticket.pipelineStage,
        oldStage.pipeline = newStage.pipeline ∧ oldStage ≠ newStage := by
      intro oldStage hstage
      rw [Option.mem_def.mp hstage] at hpipeline hmoves
      exact ⟨by simpa using hpipeline, fun hsame => hmoves (congrArg some hsame)⟩
    have saved := skip_saveDraft_did ws req.clock here
      (stageDraft ws req newStage reason t.session.ticket) stageDraft_lists
    rw [saveSignals_of_notMem assignee_notMem_stageDraft, stageDraft_fields] at saved
    exact .inr ⟨hstages, (saved.logActivity _ _ _ _).log _⟩

theorem mergeDraft_fields (primary : ℕ) (ticket : Ticket) :
    (mergeDraft ws req primary ticket).ticket.fields =
      { ticket.fields with status := ws.closedStatus.getD ticket.status } := by
  unfold mergeDraft
  cases ws.closedStatus with
  | none => rfl
  | some closedStatus => rfl

theorem mergeDraft_lists {primary : ℕ} {ticket : Ticket} :
    Lists (mergeDraft ws req primary ticket).updateFields ticket.fields
      (mergeDraft ws req primary ticket).ticket.fields := by
  refine ⟨.inr (by simp [mergeDraft]), .inl ?_, .inl ?_⟩
  · rw [mergeDraft_fields]
  · rw [mergeDraft_fields]

theorem mergeTickets_did (here : t.At old) {primary : ℕ}
    (success : t.mergeTickets ws req primary = .ok t') :
    Did t t' { old with status := ws.closedStatus.getD old.status }
      [{ ticket := primary, actor := req.actor, action := .updated,
         changes := [.mergedTicket t.session.id], createdAt := req.clock.postSave }] [] := by
  unfold mergeTickets at success
  split at success
  · cases success
  · dsimp only at success
    rw [← Except.ok.inj success]
    obtain rfl := here.inst
    have moved : (t.onSession fun s => { s with db := s.db.moveActivities s.id primary }).At
        t.session.ticket.fields := ⟨here.row, rfl⟩
    have saved := skip_saveDraft_did ws req.clock moved
      (mergeDraft ws req primary t.session.ticket) mergeDraft_lists
    rw [saveSignals_of_notMem (by simp [mergeDraft]), mergeDraft_fields] at saved
    have began : Did t (t.onSession fun s => { s with db := s.db.moveActivities s.id primary })
        t.session.ticket.fields [] [] := (Did.refl here).onSession (.of_tickets rfl rfl rfl)
    have merged := began.trans saved
    rw [← merged.id]
    exact (merged.append _).onSession (.of_tickets rfl rfl rfl)

theorem assignDraft_fields (assignee : ℕ) (ticket : Ticket) :
    (assignDraft ws req assignee ticket).ticket.fields =
      { ticket.fields with
        status := (autoTransition ws ticket.fields.status).getD ticket.fields.status
        assignee := some assignee } := rfl

theorem assignDraft_lists {assignee : ℕ} {ticket : Ticket} :
    Lists (assignDraft ws req assignee ticket).updateFields ticket.fields
      (assignDraft ws req assignee ticket).ticket.fields := by
  refine ⟨?_, .inl rfl, .inr (by simp [assignDraft])⟩
  unfold assignDraft
  cases autoTransition ws ticket.status with
  | none => exact .inl rfl
  | some target => exact .inr (by simp)

theorem assignTicket_did (here : t.At old) {assignee : ℕ} {note : String}
    (success : t.assignTicket ws req assignee note = .ok t') :
    ws.isActiveMember assignee = true ∧
    Did t t'
      { old with
        status := (autoTransition ws old.status).getD old.status
        assignee := some assignee }
      ({ ticket := t.session.id, actor := req.actor, action := .assigned,
         changes := [.assignee old.assignee (some assignee)],
         createdAt := req.clock.postSave } ::
        (autoTransition ws old.status).toList.map fun target =>
          { ticket := t.session.id, actor := req.actor, action := .statusChanged,
            changes := [.status old.status.name target.name], createdAt := req.clock.postSave })
      [{ ticket := t.session.id, assignee, assignedBy := none }] := by
  obtain rfl := here.inst
  unfold assignTicket at success
  split at success
  · cases success
  rename_i hmember
  refine ⟨by simpa using hmember, ?_⟩
  dsimp only at success
  have saved := skip_saveDraft_did ws req.clock here
    (assignDraft ws req assignee t.session.ticket) assignDraft_lists
  rw [show (assignDraft ws req assignee t.session.ticket).ticket.assignee = some assignee from rfl,
    saveSignals_of_mem (by simp [assignDraft])] at saved
  have assigned := ((saved.record assignee req.actor note).logActivity req.clock.postSave req.actor
    .assigned [.assignee t.session.ticket.assignee (some assignee)]).log .assigned
  rw [assignDraft_fields] at assigned
  cases htarget : autoTransition ws t.session.ticket.fields.status with
  | none =>
    rw [htarget] at assigned
    rw [show autoTransition ws t.session.ticket.status = none from htarget] at success
    rw [← Except.ok.inj success]
    exact assigned
  | some target =>
    rw [htarget] at assigned
    rw [show autoTransition ws t.session.ticket.status = some target from htarget] at success
    rw [← Except.ok.inj success]
    exact (assigned.logActivity req.clock.postSave req.actor .statusChanged
      [.status t.session.ticket.status.name target.name]).log .statusChanged

theorem unassign_did (here : t.At old) :
    Did t (t.unassign ws req) { old with assignee := none }
      [{ ticket := t.session.id, actor := req.actor, action := .assigned,
         changes := [.assignee old.assignee none], createdAt := req.clock.postSave }] [] := by
  have hassignee := congrArg Fields.assignee here.inst
  have hnew : ({ t.session.ticket with assignee := none } : Ticket).fields =
      { old with assignee := none } := by
    rw [← here.inst]
    rfl
  have saved := save_did ws req.clock here.skip
    (some [.assignee, .updatedAt]) (fun ticket => { ticket with assignee := none })
    (by rw [skip_session, hnew]; exact ⟨.inl rfl, .inl rfl, .inr (by decide)⟩)
  rw [receiverRows_skip, skip_session, hnew] at saved
  rw [unassign, show t.session.ticket.assignee = old.assignee from hassignee]
  exact saved.of_skip.logActivity _ _ _ _

variable (ws) in
/-- A save of the assignee alone, by code that leaves the logging to the receiver. -/
theorem save_assignee_did (clock : Clock) (here : t.At old) (columns : List Column) (user : ℕ)
    (edit : Ticket → Ticket) (hedit : (edit t.session.ticket).fields =
      { t.session.ticket.fields with assignee := some user })
    (hcolumn : .assignee ∈ columns) :
    Did t ((t.modify edit).save ws clock (some columns)) { old with assignee := some user }
      (receiverRows t clock.postSave old { old with assignee := some user })
      [{ ticket := t.session.id, assignee := user, assignedBy := none }] := by
  have hnew : (edit t.session.ticket).fields = { old with assignee := some user } := by
    rw [hedit, here.inst]
  have saved := save_did ws clock here (some columns) edit
    (by rw [hnew]; exact ⟨.inl rfl, .inl rfl, .inr hcolumn⟩)
  rw [hnew, saveSignals_of_mem hcolumn] at saved
  exact saved

theorem autoAssignTicket_did (here : t.At old) (user : ℕ) :
    Did t (t.autoAssignTicket ws req (some user)) { old with assignee := some user }
      (receiverRows t req.clock.postSave old { old with assignee := some user })
      [{ ticket := t.session.id, assignee := user, assignedBy := none }] := by
  have saved := save_assignee_did ws req.clock here [.assignee, .updatedAt] user
    (fun ticket => { ticket with assignee := some user }) rfl (by decide)
  exact saved.record user none _

theorem autoAssignEmailTicket_did (here : t.At old) (user : ℕ) (hnone : old.assignee = none) :
    Did t (t.autoAssignEmailTicket ws req (some user)) { old with assignee := some user }
      (receiverRows t req.clock.postSave old { old with assignee := some user })
      [{ ticket := t.session.id, assignee := user, assignedBy := none }] := by
  have hinst : t.session.ticket.assignee = none :=
    (congrArg Fields.assignee here.inst).trans hnone
  have saved := save_assignee_did ws req.clock here [.assignee, .updatedAt] user
    (fun ticket => { ticket with assignee := some user }) rfl (by decide)
  unfold autoAssignEmailTicket
  cases hassignee : t.session.ticket.assignee with
  | some assignee => rw [hinst] at hassignee; cases hassignee
  | none => exact saved.record user none _

theorem autoAssignEmailTicket_idle (agent : Option ℕ)
    (hidle : t.session.ticket.assignee ≠ none ∨ agent = none) :
    t.autoAssignEmailTicket ws req agent = t := by
  unfold autoAssignEmailTicket
  cases hassignee : t.session.ticket.assignee with
  | some user => rfl
  | none =>
    obtain rfl := hidle.resolve_left (by simp [hassignee])
    rfl

def assignmentSignals (id : ℕ) (assignee : Option ℕ) : List TicketAssigned :=
  assignee.toList.map fun user => { ticket := id, assignee := user, assignedBy := none }

variable (ws req) in
theorem extendSlaOnEscalation_did (here : t.At old) (now : Instant) :
    Did t (t.extendSlaOnEscalation ws req now) old [] [] := by
  unfold extendSlaOnEscalation
  cases ws.policyFor t.session.ticket.priority with
  | none => exact .refl here
  | some newPolicy =>
    dsimp only
    refine (save_quiet_did ws req.clock here rfl ?_).onSession (.logSlaChange _ _)
    split <;> decide

variable (ws req) in
theorem initializeSla_did (here : t.At old) : Did t (t.initializeSla ws req) old [] [] := by
  unfold initializeSla
  cases ws.policyFor t.session.ticket.priority with
  | none => exact .refl here
  | some policy => exact save_quiet_did ws req.clock here rfl (by decide)

variable (ws req) in
theorem saveEscalation_did (here : t.At old) (reason : String) (assignee : Option ℕ)
    (queue : Option Queue) :
    Did t (t.saveEscalation ws req reason assignee queue)
      { old with assignee := assignee.or old.assignee } []
      (assignmentSignals t.session.id assignee) := by
  obtain rfl := here.inst
  cases assignee with
  | none =>
    have saved := save_did ws req.clock here.skip
      (some ([.escalationCount, .escalatedAt, .updatedAt] ++ [] ++
        (if queue.isSome then [Column.queue] else [])))
      (fun ticket =>
        { ticket with
          escalationCount := ticket.escalationCount + 1
          escalatedAt := some req.clock.service
          queue := queue.or ticket.queue }) ⟨.inl rfl, .inl rfl, .inl rfl⟩
    rw [receiverRows_skip, saveSignals_of_notMem (by split <;> decide)] at saved
    exact saved.of_skip
  | some user =>
    have recorded := (Did.refl here).record user req.actor s!"Escalation: {reason}"
    have saved := save_did ws req.clock recorded.at_end.skip
      (some ([.escalationCount, .escalatedAt, .updatedAt] ++
        [.assignee, .assignedBy, .assignedAt] ++
        (if queue.isSome then [Column.queue] else [])))
      (fun ticket =>
        { ticket with
          assignee := some user
          assignedBy := req.actor
          assignedAt := some req.clock.service
          escalationCount := ticket.escalationCount + 1
          escalatedAt := some req.clock.service
          queue := queue.or ticket.queue }) ⟨.inl rfl, .inl rfl, .inr (by simp)⟩
    rw [receiverRows_skip, show (Ticket.fields _).assignee = some user from rfl,
      saveSignals_of_mem (by simp)] at saved
    exact recorded.trans saved.of_skip

theorem escalateTicket_did (here : t.At old) {reason : String} {assignee : Option ℕ}
    {queue : Option Queue} (success : t.escalateTicket ws req reason assignee queue = .ok t') :
    (∀ user ∈ assignee, ws.isActiveMember user = true) ∧ ∃ count : ℕ,
      Did t t' { old with assignee := assignee.or old.assignee }
        [{ ticket := t.session.id, actor := req.actor, action := .fieldChanged,
           changes := [.escalationCount (count - 1) count],
           described := assignee.toList.map fun user => .assignee old.assignee (some user),
           createdAt := req.clock.postSave }]
        (assignmentSignals t.session.id assignee) := by
  have hassignee : t.session.ticket.assignee = old.assignee := congrArg Fields.assignee here.inst
  unfold escalateTicket at success
  dsimp only at success
  split at success
  · cases success
  rename_i hmember
  have hactive : ∀ user ∈ assignee, ws.isActiveMember user = true := by
    intro user huser
    rw [Option.mem_def.mp huser] at hmember
    simpa using hmember
  have saved := saveEscalation_did ws req here reason assignee queue
  have extended := saved.trans (extendSlaOnEscalation_did ws req saved.at_end req.clock.service)
  rw [List.append_nil, List.append_nil] at extended
  have logged := fun row => (extended.append row).log .escalatedManual
  rw [extended.id, hassignee] at success
  rw [← Except.ok.inj success]
  exact ⟨hactive, _, logged _⟩

def ruleFields (ws : Workspace) (rule : EscalationRule) (old : Fields) : Fields :=
  match rule.action with
  | .assign => { old with assignee := (rule.assignee ws).or old.assignee }
  | .notify => old
  | .changePriority => { old with priority := old.priority.escalated.getD old.priority }

def ruleAssignee (ws : Workspace) (rule : EscalationRule) : Option ℕ :=
  match rule.action with
  | .assign => rule.assignee ws
  | .notify | .changePriority => none

theorem executeRule_did (here : t.At old) (clock : Clock) (now : Instant)
    (rule : EscalationRule) :
    Did t (t.executeRule ws clock now rule) (ruleFields ws rule old)
      (receiverRows t clock.postSave old (ruleFields ws rule old))
      (assignmentSignals t.session.id (ruleAssignee ws rule)) := by
  refine Did.onSession ?_ (.of_tickets rfl rfl rfl)
  unfold performAction ruleFields ruleAssignee
  cases rule.action with
  | notify =>
    dsimp only
    rw [receiverRows_self]
    exact .refl here
  | assign =>
    cases rule.assignee ws with
    | none =>
      dsimp only [Option.none_or]
      rw [receiverRows_self]
      exact .refl here
    | some user =>
      exact save_assignee_did ws clock here [.assignee, .assignedAt, .updatedAt] user
        (fun ticket => { ticket with assignee := some user, assignedAt := some now }) rfl
        (by decide)
  | changePriority =>
    obtain rfl := here.inst
    cases hescalated : t.session.ticket.priority.escalated with
    | none =>
      rw [show t.session.ticket.fields.priority.escalated = none from hescalated]
      dsimp only [Option.getD_none]
      rw [receiverRows_self]
      exact .refl here
    | some priority =>
      rw [show t.session.ticket.fields.priority.escalated = some priority from hescalated]
      have saved := save_did ws clock here (some [.priority, .updatedAt])
        (fun ticket => { ticket with priority }) ⟨.inl rfl, .inr (by decide), .inl rfl⟩
      rw [saveSignals_of_notMem (by decide)] at saved
      exact saved

/-! ## Routes to a status change -/

/-- Every route to a status change ends where it began or in `change_ticket_status`. -/
def Routed (req : Request) (t t' : Audited) (old : Fields) : Prop :=
  ∃ newStatus,
    Did t t' { old with status := newStatus } (statusRows req t.session.id old newStatus) []

theorem Routed.refl (here : t.At old) : Routed req t t old := by
  refine ⟨old.status, ?_⟩
  rw [statusRows, if_pos rfl]
  exact .refl here

theorem Routed.change (here : t.At old) (newStatus : TicketStatus) :
    Routed req t (t.changeTicketStatus ws req newStatus) old :=
  ⟨newStatus, changeTicketStatus_did here newStatus⟩

theorem transitionTicketStatus_routed (here : t.At old) {newStatus : TicketStatus}
    (success : t.transitionTicketStatus ws req newStatus = .ok t') : Routed req t t' old := by
  unfold transitionTicketStatus at success
  split at success
  · cases success
  · rw [← Except.ok.inj success]
    exact .change here newStatus

theorem closeTicket_routed (here : t.At old) (success : t.closeTicket ws req = .ok t') :
    Routed req t t' old := by
  unfold closeTicket at success
  split at success
  · rw [← Except.ok.inj success]
    exact .refl here
  split at success
  · cases success
  · exact transitionTicketStatus_routed here success

theorem resumeFromWait_routed (here : t.At old) : Routed req t (t.resumeFromWait ws req) old := by
  unfold resumeFromWait
  split
  · exact .refl here
  split
  · exact .refl here
  split
  · exact .refl here
  · exact .change here _

theorem reopenResolvedTicket_routed (here : t.At old) :
    Routed req t (t.reopenResolvedTicket ws req) old := by
  unfold reopenResolvedTicket
  split
  · exact .refl here
  · exact .change here _

theorem moveCard_routed (here : t.At old) {column : KanbanColumn} {isSameColumn : Bool}
    (success : t.moveCard ws req column isSameColumn = .ok t') : Routed req t t' old := by
  unfold moveCard at success
  split at success
  · cases success
  split at success
  · rw [← Except.ok.inj success]
    exact .refl here
  split at success
  · rw [← Except.ok.inj success]
    exact .refl here
  · rw [← Except.ok.inj success]
    exact .change here _

/-! ## Saves outside the services -/

/-- The save of the full row by a `PATCH` records nothing. -/
theorem performUpdate_did (here : t.At old) (patch : SimplePatch) :
    Did t (t.performUpdate ws req patch) old [] [] := by
  obtain rfl := here.inst
  have saved := save_did ws req.clock here.skip none patch.apply (.refl _ _)
  rw [receiverRows_skip] at saved
  exact saved.of_skip

def FieldEdit.fields (edit : FieldEdit) (old : Fields) : Fields where
  status := edit.status.getD old.status
  priority := edit.priority.getD old.priority
  assignee := edit.assignee.getD old.assignee

theorem FieldEdit.lists (edit : FieldEdit) (old : Fields) :
    Lists edit.updateFields old (edit.fields old) := by
  unfold FieldEdit.updateFields FieldEdit.fields
  refine ⟨?_, ?_, ?_⟩
  · cases edit.status with
    | none => exact .inl rfl
    | some status => exact .inr (by simp)
  · cases edit.priority with
    | none => exact .inl rfl
    | some priority => exact .inr (by simp)
  · cases edit.assignee with
    | none => exact .inl rfl
    | some assignee => exact .inr (by simp)

theorem directSave_did (here : t.At old) (edit : FieldEdit) (full : Bool) :
    ∃ sent, Did t (t.directSave ws req edit full) (edit.fields old)
      (receiverRows t req.clock.postSave old (edit.fields old)) sent := by
  obtain rfl := here.inst
  cases full with
  | true => exact ⟨_, save_did ws req.clock here none edit.apply (.all _ _)⟩
  | false =>
    exact ⟨_, save_did ws req.clock here (some edit.updateFields) edit.apply (edit.lists _)⟩

/-! ## Creation -/

/-- The signal of an `INSERT`. -/
def creationSignals (id : ℕ) (assignee : Option ℕ) (creator : ℕ) : List TicketAssigned :=
  assignee.toList.map fun user => { ticket := id, assignee := user, assignedBy := some creator }

theorem fireOnCreation_eq (t : Audited) :
    t.fireOnCreation =
      { t with
        signals := t.signals ++ creationSignals t.session.id t.session.ticket.assignee
          t.session.ticket.createdBy
        notifications := t.notifications ++ (creationSignals t.session.id t.session.ticket.assignee
          t.session.ticket.createdBy).flatMap handleTicketAssigned } := by
  unfold fireOnCreation creationSignals
  cases t.session.ticket.assignee with
  | none => simp
  | some user => simp [send]

theorem create_did {id : ℕ} {ticket : Ticket} (success : create id ticket ledger = .ok t') :
    ledger.db.tickets id = none ∧ Did (ledger.audit id ticket) t' ticket.fields []
      (creationSignals id ticket.assignee ticket.createdBy) := by
  unfold create Db.create at success
  split at success
  · cases success
  rename_i hfresh
  refine ⟨by simpa using hfresh, ?_⟩
  rw [← Except.ok.inj success]
  dsimp only
  rw [fireOnCreation_eq]
  refine ⟨rfl, fun other hother => ?_, ⟨?_, rfl⟩, (List.append_nil _).symm, rfl, rfl⟩
  · exact Function.update_of_ne hother _ _
  · simp [Db.insertTicket]

theorem save_skip (ws : Workspace) (clock : Clock) (updateFields : Option (List Column))
    (t : Audited) : (t.save ws clock updateFields).skipSignalLogging = t.skipSignalLogging := by
  unfold save
  split
  · rfl
  · rw [logTicketActivity_eq, fireTicketAssignedSignal_eq]
    rfl

theorem initializeSla_skip (ws : Workspace) (req : Request) (t : Audited) :
    (t.initializeSla ws req).skipSignalLogging = t.skipSignalLogging := by
  unfold initializeSla
  split
  · rfl
  · exact save_skip ws req.clock _ _

theorem create_skip {id : ℕ} {ticket : Ticket} (success : create id ticket ledger = .ok t') :
    t'.skipSignalLogging = false := by
  obtain ⟨s, -, rfl⟩ := map_eq_ok.mp success
  rw [fireOnCreation_eq]
  rfl

theorem receiverRows_congr {a b : Audited} (hskip : a.skipSignalLogging = b.skipSignalLogging)
    (hlog : a.activityLog = b.activityLog) (hid : a.session.id = b.session.id) (now : Instant)
    (old new : Fields) : receiverRows a now old new = receiverRows b now old new := by
  unfold receiverRows
  rw [hskip, hlog, hid]

variable (ws req) in
theorem inserted_did {id : ℕ} {ticket : Ticket} (success : create id ticket ledger = .ok t) :
    ledger.db.tickets id = none ∧
    Did (ledger.audit id ticket) (t.initializeSla ws req) ticket.fields []
      (creationSignals id ticket.assignee ticket.createdBy) ∧
    ∀ now old new, receiverRows (t.initializeSla ws req) now old new =
      receiverRows (ledger.audit id ticket) now old new := by
  obtain ⟨hfresh, did⟩ := create_did success
  have initialized := did.trans (initializeSla_did ws req did.at_end)
  simp only [List.append_nil] at initialized
  have hskip : (t.initializeSla ws req).skipSignalLogging = false :=
    (initializeSla_skip ws req t).trans (create_skip success)
  have hlog := initialized.activityLog.trans (List.append_nil _)
  exact ⟨hfresh, initialized, receiverRows_congr hskip hlog initialized.id⟩

theorem createTicket_did {creator : ℕ} {data : NewTicket}
    (success : createTicket ws req creator data ledger = .ok t') :
    (∀ user ∈ data.assignee, ws.isActiveMember user = true) ∧
    ledger.db.tickets data.id = none ∧ ∃ ticket new rows,
      new.assignee = some (creationAssignee data creator) ∧
      (∀ row ∈ rows, row.ticket = data.id) ∧
      Did (ledger.audit data.id ticket) t' new rows
        (creationSignals data.id (some (creationAssignee data creator)) creator) := by
  unfold createTicket at success
  split at success
  · cases success
  rename_i hmember
  split at success
  · cases success
  obtain ⟨created, hcreated, rfl⟩ := map_eq_ok.mp success
  obtain ⟨hfresh, initialized, -⟩ := inserted_did ws req hcreated
  refine ⟨fun user huser => ?_, hfresh, _, _, _, rfl, ?_, (initialized.logActivity _ _ _ _).log _⟩
  rotate_left
  · intro row hrow
    rw [List.mem_singleton.mp hrow]
    rfl
  rw [Option.mem_def.mp huser] at hmember
  simpa using hmember

theorem splitTicket_did {actor : ℕ} {data : SplitRequest}
    (success : t.splitTicket ws req actor data = .ok t') :
    t.session.db.tickets data.child = none ∧ ∃ ticket new rows,
      new.assignee = t.session.ticket.assignee ∧
      (∀ row ∈ rows, row.ticket = data.child ∨ row.ticket = t.session.id) ∧
      Did (t.ledger.audit data.child ticket) t' new rows
        (creationSignals data.child t.session.ticket.assignee actor) := by
  unfold splitTicket at success
  split at success
  · cases success
  split at success
  · cases success
  split at success
  · cases success
  obtain ⟨created, hcreated, rfl⟩ := map_eq_ok.mp success
  obtain ⟨hfresh, initialized, -⟩ := inserted_did ws req hcreated
  have noted := (initialized.note t.session.id .statusChanged).append
  refine ⟨hfresh, _, _, _, rfl, ?_, ((noted _).logActivity _ _ _ _).log _⟩
  intro row hrow
  obtain hrow | hrow := List.mem_append.mp hrow
  · rw [List.mem_singleton.mp hrow]
    exact .inr rfl
  · rw [List.mem_singleton.mp hrow]
    exact .inl rfl

/-- The agent that inbound tickets are handed to, if the tenant has opted in. -/
def inboundAgent (ws : Workspace) (agent : Option ℕ) : Option ℕ :=
  match ws.settings with
  | none => none
  | some settings => if settings.autoAssignInboundEmailTickets then agent else none

theorem maybeAutoAssign_did (here : t.At old) (hnone : old.assignee = none) (agent : Option ℕ) :
    Did t (t.maybeAutoAssign ws req agent) { old with assignee := inboundAgent ws agent }
      (receiverRows t req.clock.postSave old { old with assignee := inboundAgent ws agent })
      (assignmentSignals t.session.id (inboundAgent ws agent)) := by
  have idle : Did t t { old with assignee := none }
      (receiverRows t req.clock.postSave old { old with assignee := none }) [] := by
    rw [show ({ old with assignee := none } : Fields) = old by rw [← hnone], receiverRows_self]
    exact .refl here
  unfold maybeAutoAssign inboundAgent
  cases ws.settings with
  | none => exact idle
  | some settings =>
    dsimp only
    split
    · cases agent with
      | some user => exact autoAssignEmailTicket_did here user hnone
      | none =>
        rw [autoAssignEmailTicket_idle none (.inr rfl)]
        exact idle
    · exact idle

def emailFields (overrides : NewTicket) (status : TicketStatus) : Fields where
  status := overrides.status.getD status
  priority := overrides.priority
  assignee := overrides.assignee

theorem createTicketFromEmail_did {systemUser : ℕ} {overrides : NewTicket} {agent : Option ℕ}
    (success : createTicketFromEmail ws req systemUser overrides agent ledger = .ok t') :
    (∀ user ∈ overrides.assignee, ws.isActiveMember user = true) ∧
    ledger.db.tickets overrides.id = none ∧ ∃ status ticket new,
      defaultStatus ws = some status ∧
      new.assignee = overrides.assignee.or (inboundAgent ws agent) ∧
      Did (ledger.audit overrides.id ticket) t' new
        (receiverRows (ledger.audit overrides.id ticket) req.clock.postSave
          (emailFields overrides status) new)
        (creationSignals overrides.id overrides.assignee systemUser ++
          assignmentSignals overrides.id
            (if overrides.assignee = none then inboundAgent ws agent else none)) := by
  unfold createTicketFromEmail at success
  obtain ⟨_, -, success⟩ := bind_eq_ok.mp success
  obtain ⟨_, hvalid, success⟩ := bind_eq_ok.mp success
  have hmember : ∀ user ∈ overrides.assignee, ws.isActiveMember user = true := by
    intro user huser
    rw [Option.mem_def.mp huser] at hvalid
    by_contra hinactive
    simp [validateAssigneeOverride, hinactive] at hvalid
  split at success
  · cases success
  rename_i status hstatus
  obtain ⟨created, hcreated, success⟩ := bind_eq_ok.mp success
  obtain ⟨ticket, hticket, hcreator, hinserted⟩ : ∃ ticket : Ticket,
      ticket.fields = emailFields overrides status ∧ ticket.createdBy = systemUser ∧
        create overrides.id ticket ledger = .ok created := ⟨_, rfl, rfl, hcreated⟩
  have hassigned : ticket.assignee = overrides.assignee := congrArg Fields.assignee hticket
  obtain ⟨hfresh, did, hrows⟩ := inserted_did ws req hinserted
  refine ⟨hmember, hfresh, status, ticket, ?_⟩
  rw [hassigned, hcreator, hticket] at did
  dsimp only at success
  split at success
  · rename_i hnone
    rw [← Except.ok.inj success, if_pos hnone]
    have handed := @maybeAutoAssign_did ws req _ _ did.at_end hnone agent
    rw [hrows, did.id] at handed
    refine ⟨_, hstatus, ?_, did.trans handed⟩
    rw [hnone, Option.none_or]
  · rename_i hassignee
    rw [← Except.ok.inj success, if_neg hassignee]
    refine ⟨emailFields overrides status, hstatus, ?_, ?_⟩
    · obtain ⟨user, huser⟩ := Option.ne_none_iff_exists'.mp hassignee
      exact huser.trans (by rw [huser, Option.some_or])
    · rw [receiverRows_self]
      exact did.trans (.refl did.at_end)

end Operations

end Audited

end Kanzan.Tickets

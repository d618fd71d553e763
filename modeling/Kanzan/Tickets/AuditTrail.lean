import Kanzan.Tickets.Executions

/-!
# The audit trail of assignments

Each row of the assignment history names a user who was given a ticket.  The latest row
names the assignee as long as everybody who writes the column also writes a row.  The
creation of a ticket, a split and an assigning rule do not.
-/

namespace Kanzan.Tickets

open Sla Support

variable {ws : Workspace} {req : Request} {clock : Clock} {s s' : Session} {db : Db} {user : ℕ}
variable {id : ℕ} {now : Instant} {ticket : Ticket} {policy : SLAPolicy} {columns : List Column}
variable {reason : String} {rule : EscalationRule} {clocks : ℕ → Clock} {event : Event}

/-- The user named by the most recent row of a ticket's assignment history. -/
def Db.latestAssignee (db : Db) (ticket : ℕ) : Option ℕ :=
  (db.assignmentsOf ticket).getLast?.map TicketAssignment.assignedTo

/-- The assignee of a ticket, if it has one, is named by the latest row of its history. -/
def IsNamed (db : Db) (id : ℕ) (ticket : Ticket) : Prop :=
  ∀ user, ticket.assignee = some user → db.latestAssignee id = some user

def TrailAgrees (db : Db) : Prop :=
  ∀ id row, db.tickets id = some row → IsNamed db id row

/-- So is the instance at hand. -/
structure Credited (s : Session) : Prop where
  rows : TrailAgrees s.db
  ticket : IsNamed s.db s.id s.ticket

theorem TrailAgrees.updateWhere (agrees : TrailAgrees db) (id : ℕ) (edit : Ticket → Ticket)
    (hedit : ∀ ticket, (edit ticket).assignee = ticket.assignee) :
    TrailAgrees (db.updateWhere id edit) := by
  intro other row hrow
  dsimp only [Db.updateWhere] at hrow
  split at hrow
  · obtain ⟨before, hbefore, rfl⟩ := Option.map_eq_some_iff.mp hrow
    intro user huser
    rw [hedit] at huser
    exact agrees other before hbefore user huser
  · exact agrees other row hrow

theorem IsNamed.congr {db' : Db} {ticket' : Ticket} (named : IsNamed db id ticket)
    (hassignments : db'.assignments = db.assignments)
    (hassignee : ticket'.assignee = ticket.assignee) : IsNamed db' id ticket' := by
  intro user huser
  rw [hassignee] at huser
  rw [Db.latestAssignee, Db.assignmentsOf, hassignments]
  exact named user huser

theorem isNamed_of_none (hnone : ticket.assignee = none) : IsNamed db id ticket := by
  intro user huser
  rw [hnone] at huser
  cases huser

theorem latestAssignee_record (db : Db) (row : TicketAssignment) :
    (db.createAssignment row).latestAssignee row.ticket = some row.assignedTo := by
  simp [Db.latestAssignee, Db.assignmentsOf, Db.createAssignment]

theorem latestAssignee_record_other (db : Db) (row : TicketAssignment) (hother : id ≠ row.ticket) :
    (db.createAssignment row).latestAssignee id = db.latestAssignee id := by
  simp [Db.latestAssignee, Db.assignmentsOf, Db.createAssignment, hother.symm]

namespace Credited

theorem load (agrees : TrailAgrees db) (hticket : db.tickets id = some ticket) :
    Credited { db, id, ticket } :=
  ⟨agrees, agrees id ticket hticket⟩

theorem congr (credited : Credited s) (htickets : s'.db.tickets = s.db.tickets)
    (hassignments : s'.db.assignments = s.db.assignments) (hid : s'.id = s.id)
    (hassignee : s'.ticket.assignee = s.ticket.assignee) : Credited s' where
  rows id row hrow := (credited.rows id row (htickets ▸ hrow)).congr hassignments rfl
  ticket := hid ▸ credited.ticket.congr hassignments hassignee

theorem log (credited : Credited s) (event : ActivityEvent) : Credited (s.log event) :=
  credited.congr rfl rfl rfl rfl

theorem logs (credited : Credited s) (events : List ActivityEvent) :
    Credited (events.foldl Session.log s) :=
  List.foldlRecOn _ _ credited fun _ credited event _ => credited.log event

theorem modify (credited : Credited s) (edit : Ticket → Ticket)
    (hassignee : (edit s.ticket).assignee = s.ticket.assignee) : Credited (s.modify edit) :=
  credited.congr rfl rfl rfl hassignee

/-- A row that takes over the columns of a named instance is named. -/
theorem write (columns : List Column) (credited : Credited s) :
    Credited (write clock columns s) := by
  unfold Tickets.write
  cases hrow : s.db.tickets s.id with
  | none => exact credited
  | some previous =>
    have hinst : ((handleTicketStatusChange clock.preSave previous s.ticket).autoNow columns
        clock.autoNow).assignee = s.ticket.assignee := by
      obtain ⟨resolvedAt, closedAt, breached, hhandled⟩ :=
        handleTicketStatusChange_eq clock.preSave previous s.ticket
      rw [hhandled]
      unfold Ticket.autoNow
      split <;> rfl
    refine ⟨?_, credited.ticket.congr rfl hinst⟩
    intro id row hstored
    by_cases hid : id = s.id
    · subst hid
      simp only [Db.updateTicket, Function.update_self, Option.some.injEq] at hstored
      rw [← hstored]
      intro user huser
      simp only [Ticket.persist] at huser
      split at huser
      · exact credited.ticket user (hinst ▸ huser)
      · exact credited.rows s.id previous hrow user huser
    · simp only [Db.updateTicket, Function.update_of_ne hid] at hstored
      exact (credited.rows id row hstored).congr rfl rfl

theorem respected : Respected (fun s s' => Credited s → Credited s') where
  refl _ credited := credited
  trans first second credited := second (first credited)
  log _ event credited := credited.log event
  modify s edit hcore credited := by
    refine credited.modify edit ?_
    exact eq_of_core (hcore s.ticket) Ticket.assignee fun _ => rfl

theorem ignoresPauses : IgnoresPauses (fun s s' => Credited s → Credited s') :=
  fun _ _ _ credited => credited.congr rfl rfl rfl rfl

theorem save (columns : List Column) (credited : Credited s) : Credited (save ws clock columns s) :=
  respected.saveDepth ignoresPauses (fun columns _ => write columns) 2 columns s credited

theorem saveDraft (credited : Credited s) (draft : Draft)
    (hassignee : draft.ticket.assignee = s.ticket.assignee) :
    Credited (saveDraft ws clock draft s) :=
  (credited.modify (fun _ => draft.ticket) hassignee).save draft.updateFields

end Credited

/-! ## Operations that leave the assignee alone -/

section Kept

variable {newStatus : TicketStatus}

theorem changeTicketStatus_credited (newStatus : TicketStatus) (s : Session) (credited : Credited s) :
    Credited (changeTicketStatus ws req newStatus s) := by
  unfold changeTicketStatus
  dsimp only
  split
  · exact credited
  have hsaved : Credited (saveDraft ws req.clock (statusDraft req newStatus s.ticket) s) := by
    apply credited.saveDraft
    obtain ⟨preWait, breached, hdraft⟩ := statusDraft_ticket req newStatus s.ticket
    rw [hdraft]
  split <;> exact hsaved.congr rfl rfl rfl rfl

theorem transitionTicketStatus_credited (credited : Credited s)
    (success : transitionTicketStatus ws req newStatus s = .ok s') : Credited s' := by
  obtain ⟨-, rfl⟩ := transitionTicketStatus_cases success
  exact changeTicketStatus_credited newStatus s credited

theorem closeTicket_credited (credited : Credited s) (success : closeTicket ws req s = .ok s') :
    Credited s' := by
  obtain rfl | ⟨closedStatus, -, -, -, rfl⟩ := closeTicket_cases success
  · exact credited
  · exact changeTicketStatus_credited closedStatus s credited

theorem moveCard_credited {column : KanbanColumn} {isSameColumn : Bool} (credited : Credited s)
    (success : moveCard ws req column isSameColumn s = .ok s') : Credited s' := by
  obtain rfl | ⟨status, -, -, rfl⟩ := moveCard_cases success
  · exact credited
  · exact changeTicketStatus_credited status s credited

theorem changeTicketPriority_credited (newPriority : Priority) (credited : Credited s) :
    Credited (changeTicketPriority ws req newPriority s) := by
  unfold changeTicketPriority
  split
  · exact credited
  · exact ((credited.modify _ rfl).save _).log _

theorem applyMacroAction_credited {action : MacroAction} (credited : Credited s)
    (success : applyMacroAction ws req action s = .ok s') : Credited s' := by
  unfold applyMacroAction at success
  split at success
  · split at success
    · rwa [← Except.ok.inj success]
    split at success
    · rwa [← Except.ok.inj success]
    · exact transitionTicketStatus_credited credited success
  · split at success <;> rw [← Except.ok.inj success]
    · exact credited
    · exact changeTicketPriority_credited _ credited
  · split at success <;> rw [← Except.ok.inj success]
    · exact credited
    · exact (credited.modify _ rfl).save _
  · rwa [← Except.ok.inj success]

theorem applyMacro_credited {actions : List MacroAction} (credited : Credited s)
    (success : applyMacro ws req actions s = .ok s') : Credited s' := by
  unfold applyMacro at success
  obtain ⟨acted, hacted, success⟩ := bind_eq_ok.mp success
  have hfinal : Credited acted :=
    foldlM_preserves (fun _ _ _ credited hok => applyMacroAction_credited credited hok) credited hacted
  split at success
  · cases success
  split at success
  · cases success
  · rw [← Except.ok.inj success]
    exact hfinal.log _

theorem autoCloseTicket_credited (taskId : ℕ) (credited : Credited s) :
    TrailAgrees (autoCloseTicket ws req taskId s).db := by
  unfold autoCloseTicket
  split
  · exact credited.rows
  split
  · exact credited.rows
  split
  · exact credited.rows
  · rename_i closedStatus hclosed
    have hlogged : Credited ((changeTicketStatus ws req closedStatus s).log .autoClosed) :=
      (changeTicketStatus_credited closedStatus s credited).log _
    exact hlogged.rows.updateWhere _ _ fun _ => rfl

theorem mergeTickets_credited {primary : ℕ} (credited : Credited s)
    (success : mergeTickets ws req primary s = .ok s') : TrailAgrees s'.db := by
  obtain ⟨-, rfl⟩ := mergeTickets_cases success
  have hmoved : Credited { s with db := s.db.moveActivities s.id primary } :=
    credited.congr rfl rfl rfl rfl
  have hsaved : Credited (saveDraft ws req.clock (mergeDraft ws req primary s.ticket)
      { s with db := s.db.moveActivities s.id primary }) := by
    apply hmoved.saveDraft
    unfold mergeDraft
    cases ws.closedStatus <;> rfl
  exact hsaved.rows

theorem transitionPipelineStage_credited {newStage : PipelineStage} (credited : Credited s)
    (success : transitionPipelineStage ws req newStage reason s = .ok s') : Credited s' := by
  obtain rfl | ⟨-, rfl⟩ := transitionPipelineStage_cases success
  · exact credited
  refine (credited.saveDraft _ ?_).log _
  obtain ⟨_, _, _, _, _, _, hdraft⟩ := stageDraft_eq ws req newStage reason s.ticket
  rw [hdraft]

theorem addReplyToTicket_credited (inbound : InboundReply) (credited : Credited s) :
    Credited (addReplyToTicket ws req inbound s) := by
  have hresumed : Credited (s.resumeForReply ws req inbound) := by
    unfold Session.resumeForReply
    split
    · exact Credited.respected.resumeSlaPause Credited.ignoresPauses
        (fun columns _ _ credited => credited.save columns) _ s credited
    · exact credited
  rw [addReplyToTicket_eq]
  split
  · exact credited
  unfold changeStatusTo
  split
  · exact hresumed
  · exact changeTicketStatus_credited _ _ hresumed

theorem recordFirstResponse_credited (credited : Credited s) :
    Credited (recordFirstResponse req s) := by
  unfold recordFirstResponse
  split
  · exact credited
  split
  · exact credited
  · have hresponded : Credited
        { s with
          db := s.db.updateWhere s.id (Ticket.respond req.clock.service
            (s.ticket.respondsLate req.clock.service))
          ticket := s.ticket.respond req.clock.service (s.ticket.respondsLate req.clock.service) } :=
      ⟨credited.rows.updateWhere _ _ fun _ => rfl, credited.ticket.congr rfl rfl⟩
    exact hresponded.log _

theorem logSlaChange_credited (old : Ticket) (credited : Credited s) :
    Credited (logSlaChange old s) := by
  unfold logSlaChange
  split
  · exact credited
  · exact credited.log _

theorem applyPolicyToTicket_credited (policy : SLAPolicy) (credited : Credited s) :
    Credited (applyPolicyToTicket ws req policy s) :=
  logSlaChange_credited _ ((credited.modify _ rfl).save _)

theorem extendSlaOnEscalation_credited (now : Instant) (credited : Credited s) :
    Credited (extendSlaOnEscalation ws req now s) := by
  unfold extendSlaOnEscalation
  split
  · exact credited
  · exact logSlaChange_credited _ ((credited.modify _ rfl).save _)

theorem initializeSla_credited (credited : Credited s) : Credited (initializeSla ws req s) := by
  unfold initializeSla
  split
  · exact credited
  · exact (credited.modify _ rfl).save _

end Kept

/-! ## Operations that assign with a row -/

theorem save_assignments (columns : List Column) (s : Session) :
    (save ws clock columns s).db.assignments = s.db.assignments := by
  have hrespected : Respected fun s s' : Session => s'.db.assignments = s.db.assignments :=
    { refl := fun _ => rfl
      trans := fun first second => second.trans first
      log := fun _ _ => rfl
      modify := fun _ _ _ => rfl }
  refine hrespected.saveDepth (fun _ _ _ => rfl) (fun columns s => ?_) 2 columns s
  unfold write
  split <;> rfl

variable (ws clock) in
/-- The assignee that a save leaves, when it lists the column. -/
theorem save_assignee {previous : Ticket} (hrow : s.db.tickets s.id = some previous)
    (hstatus : .status ∈ columns ∨ previous.status = s.ticket.status)
    (hlisted : .assignee ∈ columns) :
    (∃ row, (save ws clock columns s).db.tickets s.id = some row ∧
      row.assignee = s.ticket.assignee) ∧
      (save ws clock columns s).ticket.assignee = s.ticket.assignee := by
  obtain ⟨resolvedAt, closedAt, breached, hhandled⟩ :=
    handleTicketStatusChange_eq clock.preSave previous s.ticket
  obtain ⟨row, hsaved, hcore⟩ := save_row ws clock hrow hstatus
  have hinst := save_instance ws clock hrow hstatus
  have hread : ∀ ticket : Ticket, ticket.core.assignee = ticket.assignee := fun _ => rfl
  refine ⟨⟨row, hsaved, ?_⟩, ?_⟩
  · rw [← hread row, hcore, hhandled]
    simp [Ticket.core, Ticket.persist, hlisted]
  · rw [← hread, hinst, hhandled]
    rfl

/-- A session that wrote a user into one row, and a row for that user, is credited. -/
theorem Credited.of_assigned (record : TicketAssignment) (agrees : TrailAgrees s.db)
    (untouched : Untouched s s') (hassignments : s'.db.assignments = s.db.assignments ++ [record])
    (hticket : record.ticket = s.id)
    (hrow : ∃ row, s'.db.tickets s.id = some row ∧ row.assignee = some record.assignedTo)
    (hinst : s'.ticket.assignee = some record.assignedTo) : Credited s' := by
  have hlatest : s'.db.latestAssignee s.id = some record.assignedTo := by
    rw [← hticket, ← latestAssignee_record s.db record, Db.latestAssignee, Db.assignmentsOf,
      hassignments]
    rfl
  have hnamed : ∀ ticket : Ticket, ticket.assignee = some record.assignedTo →
      IsNamed s'.db s.id ticket := by
    intro ticket hassignee user huser
    rw [hlatest, ← hassignee, huser]
  constructor
  · intro id row hstored
    by_cases hid : id = s.id
    · subst hid
      obtain ⟨assigned, hassigned, hassignee⟩ := hrow
      rw [hassigned, Option.some.injEq] at hstored
      exact hnamed row (hstored ▸ hassignee)
    · rw [untouched.others id hid] at hstored
      intro user huser
      have hother : id ≠ record.ticket := by rwa [hticket]
      rw [← agrees id row hstored user huser, ← latestAssignee_record_other s.db record hother,
        Db.latestAssignee, Db.assignmentsOf, hassignments]
      rfl
  · rw [untouched.id]
    exact hnamed s'.ticket hinst

theorem credited_saveAndRecord {edit : Ticket → Ticket} (credited : Credited s)
    (settled : Settled s) (hstatus : .status ∈ columns ∨ (edit s.ticket).status = s.ticket.status)
    (hlisted : .assignee ∈ columns) (hassignee : (edit s.ticket).assignee = some user)
    (assignedBy : Option ℕ) (note : String) :
    Credited ((save ws clock columns (s.modify edit)).recordAssignment user assignedBy note) := by
  obtain ⟨previous, hrow, hprevious⟩ := settled
  obtain ⟨⟨row, hsaved, hrowAssignee⟩, hinst⟩ := save_assignee ws clock
    (s := s.modify edit) hrow (hstatus.imp_right fun hsame => hprevious.trans hsame.symm) hlisted
  have huntouched := (Untouched.modify s edit).trans (save_untouched ws clock columns _)
  let record : TicketAssignment :=
    { ticket := (save ws clock columns (s.modify edit)).id, assignedTo := user, assignedBy, note }
  refine Credited.of_assigned record credited.rows
    (huntouched.trans (Untouched.createAssignment _ record)) ?_ ?_
    ⟨row, hsaved, hrowAssignee.trans hassignee⟩ (hinst.trans hassignee)
  · exact congrArg (· ++ [_]) (save_assignments _ _)
  · exact huntouched.id

theorem assignTicket_credited {assignee : ℕ} {note : String} (credited : Credited s)
    (settled : Settled s) (success : assignTicket ws req assignee note s = .ok s') :
    Credited s' := by
  obtain ⟨-, events, rfl⟩ := assignTicket_cases success
  refine Credited.logs ?_ events
  refine credited_saveAndRecord credited settled ?_ ?_ rfl req.actor note
  · cases htarget : autoTransition ws s.ticket.status with
    | none => exact .inr (by simp [assignDraft, htarget])
    | some target => exact .inl (by simp [assignDraft, htarget])
  · simp [assignDraft]

theorem autoAssignTicket_credited (agent : Option ℕ) (credited : Credited s) (settled : Settled s) :
    Credited (autoAssignTicket ws req agent s) := by
  unfold autoAssignTicket
  split
  · exact credited
  · exact credited_saveAndRecord credited settled (.inr rfl) (by decide) rfl _ _

theorem autoAssignEmailTicket_credited (agent : Option ℕ) (credited : Credited s)
    (settled : Settled s) : Credited (autoAssignEmailTicket ws req agent s) := by
  unfold autoAssignEmailTicket
  split
  · exact credited_saveAndRecord credited settled (.inr rfl) (by decide) rfl _ _
  · exact credited

theorem maybeAutoAssign_credited (agent : Option ℕ) (credited : Credited s)
    (settled : Settled s) : Credited (maybeAutoAssign ws req agent s) := by
  unfold maybeAutoAssign
  split
  · exact credited
  split
  · exact autoAssignEmailTicket_credited agent credited settled
  · exact credited

theorem credited_recordAndSave (edit : Ticket → Ticket) (credited : Credited s)
    (settled : Settled s) (hstatus : (edit s.ticket).status = s.ticket.status)
    (hlisted : .assignee ∈ columns) (hassignee : (edit s.ticket).assignee = some user)
    (assignedBy : Option ℕ) (note : String) :
    Credited (save ws clock columns ((s.recordAssignment user assignedBy note).modify edit)) := by
  obtain ⟨previous, hrow, hprevious⟩ := settled
  let record : TicketAssignment := { ticket := s.id, assignedTo := user, assignedBy, note }
  have huntouched := (Untouched.createAssignment s record).trans
    ((Untouched.modify _ edit).trans (save_untouched ws clock columns _))
  obtain ⟨⟨row, hsaved, hrowAssignee⟩, hinst⟩ := save_assignee ws clock
    (s := (s.recordAssignment user assignedBy note).modify edit) hrow
    (.inr (hprevious.trans hstatus.symm)) hlisted
  exact Credited.of_assigned record credited.rows huntouched (save_assignments _ _) rfl
    ⟨row, hsaved, hrowAssignee.trans hassignee⟩ (hinst.trans hassignee)

theorem escalateTicket_credited {assignee : Option ℕ} {queue : Option Queue} (credited : Credited s)
    (settled : Settled s) (success : escalateTicket ws req reason assignee queue s = .ok s') :
    Credited s' := by
  unfold escalateTicket at success
  dsimp only at success
  split at success
  · cases success
  rw [← Except.ok.inj success]
  refine (extendSlaOnEscalation_credited _ ?_).log _
  cases assignee with
  | none => exact (credited.modify _ rfl).save _
  | some user =>
    refine credited_recordAndSave (fun ticket =>
      { ticket with
        assignee := some user
        assignedBy := req.actor
        assignedAt := some req.clock.service
        escalationCount := ticket.escalationCount + 1
        escalatedAt := some req.clock.service
        queue := queue.or ticket.queue }) credited settled rfl ?_ rfl req.actor _
    simp

/-! ## The rules of the scan -/

/-- A rule that assigns the ticket hands it to the user who is on record already. -/
def EscalationRule.onRecord (ws : Workspace) (rule : EscalationRule) (s : Session) : Bool :=
  match rule.action with
  | .assign => (rule.assignee ws).all fun user => s.db.latestAssignee s.id == some user
  | _ => true

theorem executeRule_credited (credited : Credited s) (hrecord : rule.onRecord ws s = true) :
    Credited (executeRule ws clock now rule s) := by
  have hacted : Credited (performAction ws clock now rule s) := by
    unfold performAction
    split
    · rename_i haction
      split
      · exact credited
      · rename_i user hassignee
        simp only [EscalationRule.onRecord, haction, hassignee, Option.all_some, beq_iff_eq] at hrecord
        have hnamed : ∀ ticket : Ticket, ticket.assignee = some user → IsNamed s.db s.id ticket := by
          intro ticket hticket other hother
          rw [hrecord, ← hticket, hother]
        have hedited : Credited (s.modify fun ticket =>
            { ticket with assignee := some user, assignedAt := some now }) :=
          ⟨credited.rows, hnamed _ rfl⟩
        exact hedited.save _
    · exact credited
    · split
      · exact credited
      · exact (credited.modify _ rfl).save _
  exact hacted.congr rfl rfl rfl rfl

def ruleOnRecord (ws : Workspace) (policy : SLAPolicy) (fired : List ℕ) (minutes : Minutes)
    (now : Instant) (s : Session) (rule : EscalationRule) : Bool :=
  decide (rule.pk ∈ fired) || !ruleIsDue ws policy minutes now rule s.ticket || rule.onRecord ws s

def rulesOnRecord (ws : Workspace) (clock : Clock) (policy : SLAPolicy) (now : Instant)
    (s : Session) : Prop :=
  let s := flagBreaches ws clock policy now s
  let fired := s.db.firedRuleIds s.id
  let minutes := s.effectiveElapsed ws policy now
  Every (checkRule ws clock policy fired minutes now)
    (fun s rule => ruleOnRecord ws policy fired minutes now s rule = true) s (rulesOf ws policy)

instance (ws : Workspace) (clock : Clock) (policy : SLAPolicy) (now : Instant) (s : Session) :
    Decidable (rulesOnRecord ws clock policy now s) :=
  inferInstanceAs (Decidable (Every _ _ _ _))

def scanOnRecord (ws : Workspace) (clocks : ℕ → Clock) (now : Instant) (db : Db) : Prop :=
  Every (checkPolicySla ws clocks now)
    (fun db policy => Every (scanTicket ws clocks policy now)
      (fun db id => (db.tickets id).all (fun ticket =>
        decide (rulesOnRecord ws (clocks id) policy now { db, id, ticket })) = true)
      db (db.ticketIds.filter fun id => (db.tickets id).any (isScanned policy)))
    db (ws.policies.filter fun policy => policy.isActive)

instance (ws : Workspace) (clocks : ℕ → Clock) (now : Instant) (db : Db) :
    Decidable (scanOnRecord ws clocks now db) :=
  inferInstanceAs (Decidable (Every _ _ _ _))

theorem checkRule_credited {fired : List ℕ} {minutes : Minutes} (credited : Credited s)
    (hrecord : ruleOnRecord ws policy fired minutes now s rule = true) :
    Credited (checkRule ws clock policy fired minutes now s rule) := by
  unfold checkRule
  split
  · exact credited
  rename_i hfresh
  split
  · rename_i hdue
    simp only [ruleOnRecord, hfresh, hdue, decide_false, Bool.not_true, Bool.false_or] at hrecord
    exact executeRule_credited credited hrecord
  · exact credited

theorem flagBreaches_credited (credited : Credited s) :
    Credited (flagBreaches ws clock policy now s) :=
  flagBreaches_rule (P := fun _ => Credited) s credited
    (fun _ _ saved _ _ => (credited.modify _ rfl).save saved) fun _ h => h.log _

theorem checkTicketSla_credited (credited : Credited s)
    (hrecord : rulesOnRecord ws clock policy now s) :
    Credited (checkTicketSla ws clock policy now s) := by
  have hchecked := run_invariant Credited (fun _ _ => checkRule_credited)
    (flagBreaches_credited credited) _ hrecord
  rwa [run_eq_foldl] at hchecked

theorem scanTicket_trailAgrees (agrees : TrailAgrees db)
    (hrecord : (db.tickets id).all (fun ticket =>
      decide (rulesOnRecord ws (clocks id) policy now { db, id, ticket })) = true) :
    TrailAgrees (scanTicket ws clocks policy now db id) := by
  unfold scanTicket
  cases hticket : db.tickets id with
  | none => simpa only [Db.withTicket, hticket] using agrees
  | some ticket =>
    rw [withTicket_of_some hticket]
    rw [hticket, Option.all_some, decide_eq_true_iff] at hrecord
    exact (checkTicketSla_credited (.load agrees hticket) hrecord).rows

theorem checkTenantSla_trailAgrees (agrees : TrailAgrees db)
    (hrecord : scanOnRecord ws clocks now db) : TrailAgrees (checkTenantSla ws clocks now db) := by
  have hscanned := run_invariant TrailAgrees (fun db policy agrees hpolicy => by
    have hpassed := run_invariant TrailAgrees (fun _ _ => scanTicket_trailAgrees) agrees _ hpolicy
    rwa [run_eq_foldl] at hpassed) agrees _ hrecord
  rwa [run_eq_foldl] at hscanned

/-! ## Creation -/

def refusesCreation (ws : Workspace) (db : Db) : Op → Bool
  | .createTicket _ data =>
    data.assignee.any (fun assignee => !ws.isActiveMember assignee) ||
      (data.status.or (ws.firstStatus fun status => status.isDefault)).isNone ||
      (db.tickets data.id).isSome
  | .createTicketFromEmail _ overrides _ =>
    overrides.status.any (fun status => status.isClosed) ||
      overrides.assignee.any (fun assignee => !ws.isActiveMember assignee) ||
      (defaultStatus ws).isNone || (db.tickets overrides.id).isSome
  | .splitTicket source _ data =>
    (db.tickets source).isNone || data.comments.isEmpty ||
      !data.comments.all (fun belongs => belongs) || (defaultStatus ws).isNone ||
      (db.tickets data.child).isSome
  | _ => false

/-- A new ticket is unassigned until somebody is given it with a row; a rule of the scan may
only hand a ticket to the user on record. -/
def assignsOnRecord (ws : Workspace) (db : Db) (event : Event) : Bool :=
  match event.op with
  | .createTicket .. => refusesCreation ws db event.op
  | .createTicketFromEmail _ overrides _ =>
    overrides.assignee.isNone || refusesCreation ws db event.op
  | .splitTicket source _ _ =>
    (db.tickets source).all (fun row => row.assignee.isNone) || refusesCreation ws db event.op
  | .checkTenantSla clocks now => decide (scanOnRecord ws clocks now db)
  | _ => true

theorem Credited.insertTicket (agrees : TrailAgrees db) (hnone : ticket.assignee = none) :
    Credited { db := db.insertTicket id ticket, id, ticket } where
  rows other row hrow := by
    by_cases hother : other = id
    · subst hother
      simp only [Db.insertTicket, Function.update_self, Option.some.injEq] at hrow
      exact isNamed_of_none (hrow ▸ hnone)
    · simp only [Db.insertTicket, Function.update_of_ne hother] at hrow
      exact (agrees other row hrow).congr rfl rfl
  ticket := isNamed_of_none hnone

theorem attempt_of_refuses {op : Op} (hrefuses : refusesCreation ws db op = true) (after : Db) :
    attempt ws req op db ≠ .ok after := by
  intro success
  cases op <;> simp only [refusesCreation, Bool.false_eq_true] at hrefuses
  case createTicket creator data =>
    obtain ⟨s, hok, rfl⟩ := map_eq_ok.mp success
    unfold createTicket at hok
    split at hok
    · cases hok
    rename_i hmember
    split at hok
    · cases hok
    rename_i status hstatus
    obtain ⟨created, hcreated, rfl⟩ := map_eq_ok.mp hok
    obtain ⟨hfresh, rfl⟩ := create_cases hcreated
    simp [hmember, hstatus, hfresh] at hrefuses
  case createTicketFromEmail systemUser overrides agent =>
    obtain ⟨s, hok, rfl⟩ := map_eq_ok.mp success
    unfold createTicketFromEmail at hok
    obtain ⟨_, hvalid, hok⟩ := bind_eq_ok.mp hok
    obtain ⟨_, hmember, hok⟩ := bind_eq_ok.mp hok
    unfold validateStatusOverride at hvalid
    unfold validateAssigneeOverride at hmember
    split at hok
    · cases hok
    rename_i status hstatus
    obtain ⟨created, hcreated, hok⟩ := bind_eq_ok.mp hok
    obtain ⟨hfresh, rfl⟩ := create_cases hcreated
    split at hvalid
    · cases hvalid
    rename_i hopen
    split at hmember
    · cases hmember
    rename_i hassignee
    dsimp only at hfresh
    rw [Bool.not_eq_true] at hopen hassignee
    simp only [hopen, hassignee, hstatus, hfresh, Option.isNone_some, Option.isSome_none,
      Bool.or_false, Bool.false_eq_true] at hrefuses
  case splitTicket source actor data =>
    obtain ⟨ticket, s, hsource, hok, rfl⟩ := onTicket_eq_ok.mp success
    unfold splitTicket at hok
    split at hok
    · cases hok
    rename_i hcomments
    split at hok
    · cases hok
    rename_i hbelong
    split at hok
    · cases hok
    rename_i status hstatus
    obtain ⟨created, hcreated, rfl⟩ := map_eq_ok.mp hok
    obtain ⟨hfresh, rfl⟩ := create_cases hcreated
    dsimp only at hfresh
    rw [Bool.not_eq_true] at hbelong
    rw [← List.isEmpty_iff, Bool.not_eq_true] at hcomments
    simp only [hsource, hcomments, hstatus, hfresh, hbelong, Option.isNone_some, Option.isSome_none,
      Bool.or_false, Bool.false_eq_true] at hrefuses

theorem createTicketFromEmail_trailAgrees {systemUser : ℕ} {overrides : NewTicket}
    {agent : Option ℕ} (agrees : TrailAgrees db) (hnone : overrides.assignee = none)
    (success : createTicketFromEmail ws req systemUser overrides agent db = .ok s) :
    TrailAgrees s.db := by
  unfold createTicketFromEmail at success
  obtain ⟨-, -, success⟩ := bind_eq_ok.mp success
  obtain ⟨-, -, success⟩ := bind_eq_ok.mp success
  split at success
  · cases success
  obtain ⟨created, hcreated, success⟩ := bind_eq_ok.mp success
  obtain ⟨-, rfl⟩ := create_cases hcreated
  dsimp only at success
  rw [if_pos hnone, Except.ok.injEq] at success
  rw [← success]
  refine (maybeAutoAssign_credited agent (initializeSla_credited (.insertTicket agrees hnone)) ?_).rows
  exact ((initializeSla_edits ws req _).settled (by decide) ⟨_, Function.update_self .., rfl⟩).1

theorem splitTicket_trailAgrees {actor : ℕ} {data : SplitRequest} (agrees : TrailAgrees s.db)
    (hnone : s.ticket.assignee = none) (success : splitTicket ws req actor data s = .ok s') :
    TrailAgrees s'.db := by
  unfold splitTicket at success
  split at success
  · cases success
  split at success
  · cases success
  split at success
  · cases success
  obtain ⟨created, hcreated, rfl⟩ := map_eq_ok.mp success
  have hinserted : Credited created := by
    obtain ⟨-, rfl⟩ := create_cases hcreated
    exact .insertTicket agrees hnone
  have hstarted : Credited (initializeSla ws req created) := initializeSla_credited hinserted
  intro id row hrow
  exact (hstarted.rows id row hrow).congr rfl rfl

/-! ## Steps and runs -/

theorem attempt_trailAgrees {after : Db} (agrees : TrailAgrees db)
    (hrecord : assignsOnRecord ws db event = true)
    (success : attempt ws event.req event.op db = .ok after) : TrailAgrees after := by
  obtain ⟨op, req, brokerUp⟩ := event
  have hnot : refusesCreation ws db op = false := by
    rw [← Bool.not_eq_true]
    exact fun hrefuses => attempt_of_refuses hrefuses after success
  have hwork : ∀ {id : ℕ} {work : Session → Except String Session},
      (∀ s s', Credited s → Settled s → work s = .ok s' → TrailAgrees s'.db) →
      db.onTicket id work = .ok after → TrailAgrees after := by
    intro id work hkeeps hloaded
    obtain ⟨ticket, s', hticket, hok, rfl⟩ := onTicket_eq_ok.mp hloaded
    exact hkeeps _ s' (.load agrees hticket) (settled_of_row hticket) hok
  have hpure : ∀ {id : ℕ} {work : Session → Session},
      (∀ s, Credited s → Settled s → TrailAgrees (work s).db) →
      db.onTicket id (fun s => .ok (work s)) = .ok after → TrailAgrees after := by
    intro id work hkeeps hloaded
    refine hwork (fun s s' credited settled hok => ?_) hloaded
    rw [← Except.ok.inj hok]
    exact hkeeps s credited settled
  cases op
  case createTicket creator data =>
    dsimp only [assignsOnRecord] at hrecord
    rw [hnot] at hrecord
    cases hrecord
  case createTicketFromEmail systemUser overrides agent =>
    dsimp only [assignsOnRecord] at hrecord
    rw [hnot, Bool.or_false, Option.isNone_iff_eq_none] at hrecord
    obtain ⟨s, hok, rfl⟩ := map_eq_ok.mp success
    exact createTicketFromEmail_trailAgrees agrees hrecord hok
  case splitTicket source actor data =>
    obtain ⟨ticket, s', hticket, hok, rfl⟩ := onTicket_eq_ok.mp success
    dsimp only [assignsOnRecord] at hrecord
    rw [hnot, Bool.or_false, hticket, Option.all_some, Option.isNone_iff_eq_none] at hrecord
    exact splitTicket_trailAgrees (s := { db, id := source, ticket }) agrees hrecord hok
  case transitionTicketStatus =>
    exact hwork (fun _ _ credited _ hok => (transitionTicketStatus_credited credited hok).rows) success
  case bulkChangeStatus newStatus =>
    exact hpure (fun s credited _ => (changeTicketStatus_credited newStatus s credited).rows) success
  case moveCard =>
    exact hwork (fun _ _ credited _ hok => (moveCard_credited credited hok).rows) success
  case closeTicket =>
    exact hwork (fun _ _ credited _ hok => (closeTicket_credited credited hok).rows) success
  case assignTicket =>
    exact hwork (fun _ _ credited settled hok => (assignTicket_credited credited settled hok).rows)
      success
  case escalateTicket =>
    exact hwork (fun _ _ credited settled hok =>
      (escalateTicket_credited credited settled hok).rows) success
  case changeTicketPriority =>
    exact hpure (fun _ credited _ => (changeTicketPriority_credited _ credited).rows) success
  case addTags => exact hpure (fun _ credited _ => ((credited.modify _ rfl).save _).rows) success
  case softDelete => exact hpure (fun _ credited _ => ((credited.modify _ rfl).save _).rows) success
  case recordFirstResponse =>
    exact hpure (fun _ credited _ => (recordFirstResponse_credited credited).rows) success
  case mergeTickets primary secondary =>
    dsimp only [attempt] at success
    split at success
    · cases success
    · exact hwork (fun _ _ credited _ hok => mergeTickets_credited credited hok) success
  case transitionPipelineStage =>
    exact hwork (fun _ _ credited _ hok => (transitionPipelineStage_credited credited hok).rows) success
  case applyMacro =>
    exact hwork (fun _ _ credited _ hok => (applyMacro_credited credited hok).rows) success
  case autoCloseTicket id taskId =>
    exact hpure (fun _ credited _ => autoCloseTicket_credited taskId credited) success
  case addReplyToTicket id inbound =>
    exact hpure (fun _ credited _ => (addReplyToTicket_credited inbound credited).rows) success
  case autoAssignTicket id agent =>
    exact hpure (fun _ credited settled => (autoAssignTicket_credited agent credited settled).rows)
      success
  case autoAssignEmailTicket id agent =>
    exact hpure (fun _ credited settled =>
      (autoAssignEmailTicket_credited agent credited settled).rows) success
  case saveSlaPolicy policy =>
    dsimp only [attempt] at success
    split at success
    · rw [← Except.ok.inj success]
      refine List.foldlRecOn _ _ agrees fun db agrees id _ => ?_
      cases hticket : db.tickets id with
      | none => simpa only [Db.withTicket, hticket] using agrees
      | some ticket =>
        rw [withTicket_of_some hticket]
        exact (applyPolicyToTicket_credited policy (.load agrees hticket)).rows
    · cases success
  case checkTenantSla clocks now =>
    rw [← Except.ok.inj success]
    exact checkTenantSla_trailAgrees agrees (of_decide_eq_true hrecord)

theorem step_trailAgrees (agrees : TrailAgrees db) (hrecord : assignsOnRecord ws db event = true) :
    TrailAgrees (step ws db event) := by
  refine step_preserves agrees fun after success => ?_
  refine commit_keeps ?_ ?_ (attempt_trailAgrees agrees hrecord success)
  · intro db tasks hooks agrees id row hrow
    exact (agrees id row hrow).congr rfl rfl
  · intro db ticket taskId agrees
    exact agrees.updateWhere _ _ fun _ => rfl

/-- In every run of admitted steps, the latest row of a ticket's history names its assignee. -/
theorem trail_agrees_throughout (ws : Workspace) (events : List Event)
    (hrecord : Every (step ws) (fun db event => assignsOnRecord ws db event = true)
      Db.empty events) :
    Always (step ws) TrailAgrees Db.empty events := by
  refine always_of_invariant TrailAgrees ?_ ?_ ?_ events hrecord
  · intro db agrees
    exact agrees
  · intro db event agrees hadmitted
    exact step_trailAgrees agrees hadmitted
  · intro id row hrow
    cases hrow

/-- A rule that hands idle tickets to a user. -/
def handoverRule : EscalationRule :=
  { pk := 8, slaPolicy := 1, trigger := .idleTime, thresholdMinutes := 30, action := .assign
    targetUser := some 2 }

/-- A tenant without business hours where idle tickets are handed over. -/
def Workspace.handover : Workspace :=
  { Workspace.seeded with
    policies := [officePolicy]
    escalationRules := [handoverRule]
    policies_priority := officePolicy_priority
    policies_pk := officePolicy_pk
    escalationRules_pk := List.nodup_singleton _ }

/-- Two tickets come in by email; one is split while unassigned, the other assigned, escalated to
the user of the rule, and scanned. -/
def recordedTicket : List Event :=
  [ { op := .createTicketFromEmail 9 { id := 0 } none, req := { clock := ⟨0, 0, 0, 0⟩ } },
    { op := .createTicketFromEmail 9 { id := 1, priority := .low } none
      req := { clock := ⟨0, 0, 0, 0⟩ } },
    { op := .splitTicket 1 1 { child := 2, priority := some .low }
      req := { clock := ⟨0, 0, 0, 0⟩ } },
    { op := .autoAssignTicket 0 (some 1), req := { clock := ⟨0, 0, 0, 0⟩ } },
    { op := .escalateTicket 0 "No reply" (some 2) none, req := { clock := ⟨0, 0, 0, 0⟩ } },
    { op := .checkTenantSla (fun _ => ⟨0, 0, 1800000000, 0⟩) 1800000000
      req := { clock := ⟨0, 0, 0, 0⟩ } },
    { op := .assignTicket 0 1 "", req := { clock := ⟨2000000000, 0, 2000000000, 0⟩ } } ]

theorem trail_agrees_on_recordedTicket :
    Always (step .handover) TrailAgrees Db.empty recordedTicket :=
  trail_agrees_throughout .handover recordedTicket (by decide +kernel)

/-- A ticket created through the API belongs to its creator, and no row says so. -/
theorem trail_disagrees_on_watchedCreation :
    ¬ Always (step .watchful) TrailAgrees Db.empty [watchedCreation] := by
  intro always
  have hstored : ((step .watchful Db.empty watchedCreation).tickets 0).map Ticket.assignee =
      some (some 1) := by
    decide +kernel
  have hlatest : (step .watchful Db.empty watchedCreation).latestAssignee 0 = none := by
    decide +kernel
  obtain ⟨row, hrow, hassignee⟩ := Option.map_eq_some_iff.mp hstored
  have hnamed := always.finish 0 row hrow 1 hassignee
  rw [run_cons, run_nil, hlatest] at hnamed
  cases hnamed

end Kanzan.Tickets

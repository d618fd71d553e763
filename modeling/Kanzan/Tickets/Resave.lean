import Kanzan.Tickets.Schedule

/-!
# Saving a policy again

Deadlines accumulate what pauses and escalations add to them, while saving the policy
starts over from the creation.  The two agree in every state reached by steps that start
a clock on time, end only pauses without business time, and escalate nothing away from
where its creation puts it.
-/

namespace Kanzan.Tickets

open Sla Support

variable {ws : Workspace} {req : Request} {plan : ℕ → Option (Option Schedule)}
variable {s s' : Session}
variable {db : Db} {now : Instant} {ticket : Ticket} {old : TicketStatus} {reason : String}
variable {actions : List MacroAction}

/-! ## The steps that can move a deadline -/

def Op.statusTicket : Op → Option ℕ
  | .transitionTicketStatus id _ | .bulkChangeStatus id _ | .moveCard id _ _ | .closeTicket id
  | .assignTicket id _ _ | .transitionPipelineStage id _ _ | .applyMacro id _
  | .autoCloseTicket id _ | .addReplyToTicket id _ => some id
  | .mergeTickets _ secondary => some secondary
  | _ => none

/-- The statuses that a successful operation takes that ticket to, in order. -/
def Op.statuses (ws : Workspace) (row : Ticket) : Op → List TicketStatus
  | .transitionTicketStatus _ newStatus | .bulkChangeStatus _ newStatus => [newStatus]
  | .moveCard _ column _ => if column.isPersonal then [] else column.status.toList
  | .closeTicket _ => if row.status.isClosed then [] else ws.closedStatus.toList
  | .assignTicket _ _ _ => (autoTransition ws row.status).toList
  | .mergeTickets _ _ => ws.closedStatus.toList
  | .transitionPipelineStage _ newStage _ =>
    if entersStage newStage row then (stageTarget ws newStage row.status).toList else []
  | .applyMacro _ actions => actions.filterMap (macroStatus ws)
  | .autoCloseTicket _ taskId =>
    if row.status.slug = "resolved" ∧ row.autoCloseTaskId = some taskId then
      ws.closedStatus.toList
    else []
  | .addReplyToTicket _ inbound =>
    if inbound.bodyIsBlank then [] else (replyTarget ws row).toList
  | _ => []

def leavesWait : TicketStatus → List TicketStatus → Bool
  | _, [] => false
  | old, new :: rest => (old.pausesSla && !new.pausesSla) || leavesWait new rest

/-- Whether an operation resumes the clock of its ticket: on leaving a wait, and on any reply
of a customer. -/
def endsPause (ws : Workspace) (op : Op) (row : Ticket) : Bool :=
  leavesWait row.status (op.statuses ws row) ||
    match op with
    | .addReplyToTicket _ inbound => !inbound.bodyIsBlank && inbound.fromCustomer
    | _ => false

def startsOnTime (ws : Workspace) (clock : Clock) (policy : SLAPolicy) : Bool :=
  let due := fun (start : Instant) (minutes : ℕ) => addBusinessMinutes start minutes ws.toTenant
  due clock.service policy.firstResponseMinutes = due clock.autoNow policy.firstResponseMinutes &&
    due clock.service policy.resolutionMinutes = due clock.autoNow policy.resolutionMinutes

/-- An escalation extends the deadlines to where the creation puts them. -/
def escalatesOnTime (ws : Workspace) (now : Instant) (row : Ticket) : Bool :=
  (ws.policyFor row.priority).all fun policy =>
    let due := fun minutes : ℕ => addBusinessMinutes row.createdAt minutes ws.toTenant
    extendDeadline ws now row.slaFirstResponseDue policy.firstResponseMinutes =
        due policy.firstResponseMinutes &&
      extendDeadline ws now row.slaResolutionDue policy.resolutionMinutes =
        due policy.resolutionMinutes

/-- No business time lies between the start of an open pause and an instant. -/
def pausesIdle (ws : Workspace) (db : Db) (id : ℕ) (now : Instant) : Bool :=
  (db.openPauses id).all fun pause =>
    decide (elapsedBusinessMinutes pause.pausedAt now ws.toTenant ≤ 0)

/--
The steps that leave the deadlines where the creation puts them: a clock is started on
time, a pause of a ticket with a policy ends only without business time in it, and an
escalation under an active policy comes out at the deadlines of the creation.
-/
def keepsSchedule (ws : Workspace) (db : Db) (event : Event) : Bool :=
  !(attempt ws event.req event.op db).isOk ||
    ((createdPriority db event.op).all fun priority =>
      (ws.policyFor priority).all (startsOnTime ws event.req.clock)) &&
    (event.op.statusTicket.all fun id => (db.tickets id).all fun row =>
      !endsPause ws event.op row || row.slaPolicy.isNone ||
        pausesIdle ws db id event.req.clock.postSave) &&
    match event.op with
    | .escalateTicket id _ _ _ =>
      (db.tickets id).all (escalatesOnTime ws event.req.clock.service)
    | _ => true

/-! ## Deadlines from the creation -/

/-- The deadlines of a ticket are those that its policy gives it from its creation. -/
def OnSchedule (ws : Workspace) (ticket : Ticket) : Prop :=
  ∀ policy ∈ ws.policies, ticket.slaPolicy = some policy.pk →
    ticket.slaFirstResponseDue =
        some (addBusinessMinutes ticket.createdAt policy.firstResponseMinutes ws.toTenant) ∧
      ticket.slaResolutionDue =
        some (addBusinessMinutes ticket.createdAt policy.resolutionMinutes ws.toTenant)

theorem OnSchedule.of_schedule {a b : Ticket} (onSchedule : OnSchedule ws b)
    (h : a.schedule = b.schedule) : OnSchedule ws a := by
  intro policy hpolicy hpk
  have hother := (slaPolicy_of_schedule h).symm.trans hpk
  simp only [Ticket.schedule, hpk, hother, Option.map_some, Option.some.injEq,
    Schedule.mk.injEq, true_and] at h
  obtain ⟨hcreated, hresponse, hresolution⟩ := h
  rw [hcreated, hresponse, hresolution]
  exact onSchedule policy hpolicy hother

theorem OnSchedule.of_none (h : ticket.slaPolicy = none) : OnSchedule ws ticket := by
  intro policy _ hpk
  rw [h] at hpk
  cases hpk

theorem Rows.of_plan {after : Db} (rows : Rows (OnSchedule ws) db) (h : after.plan = db.plan) :
    Rows (OnSchedule ws) after := by
  intro id row hrow
  have hplan := congrFun h id
  rw [Db.plan, Db.plan, hrow, Option.map_some] at hplan
  obtain ⟨before, hbefore, hschedule⟩ := Option.map_eq_some_iff.mp hplan.symm
  exact (rows id before hbefore).of_schedule hschedule.symm

theorem Rows.of_untouched {P : Ticket → Prop} (rows : Rows P s.db) (untouched : Untouched s s')
    (hrow : ∀ row, s'.db.tickets s.id = some row → P row) : Rows P s'.db := by
  intro id row hid
  by_cases hsame : id = s.id
  · subst hsame
    exact hrow row hid
  · rw [untouched.others id hsame] at hid
    exact rows id row hid

/-! ## Operations under the condition -/

theorem leavesWait_toList (target : Option TicketStatus) (hold : old.pausesSla = true)
    (hnew : (target.getD old).pausesSla = false) : leavesWait old target.toList = true := by
  cases target with
  | none =>
    rw [Option.getD_none, hold] at hnew
    cases hnew
  | some new =>
    rw [Option.getD_some] at hnew
    simp [leavesWait, hold, hnew]

theorem leavesWait_singleton {new : TicketStatus} (hold : old.pausesSla = true)
    (hnew : new.pausesSla = false) : leavesWait old [new] = true :=
  leavesWait_toList (some new) hold hnew

section Operations

variable {clock : Clock}

theorem OnPlan.enter (onPlan : OnPlan plan s) {newStatus : TicketStatus}
    (hcalm : leavesWait s.ticket.status [newStatus] = true → Calm ws req.clock.postSave s) :
    OnPlan plan (Tickets.changeTicketStatus ws req newStatus s) :=
  onPlan.changeTicketStatus fun hold hnew => hcalm (leavesWait_singleton hold hnew)

theorem OnPlan.saveDraft (onPlan : OnPlan plan s) {draft : Draft} (target : Option TicketStatus)
    (hschedule : draft.ticket.schedule = s.ticket.schedule)
    (hstatus : draft.ticket.status = target.getD s.ticket.status)
    (hlisted : target.isSome = true → .status ∈ draft.updateFields)
    (hcalm : leavesWait s.ticket.status target.toList = true → Calm ws clock.postSave s) :
    OnPlan plan (saveDraft ws clock draft s) := by
  refine onPlan.save _ hschedule ?_ ?_
  · cases htarget : target with
    | none => exact .inr (by rw [hstatus, htarget]; rfl)
    | some new => exact .inl (hlisted (by rw [htarget]; rfl))
  · intro hold hnew
    rw [hstatus] at hnew
    exact hcalm (leavesWait_toList _ hold hnew)

theorem OnPlan.moveCard (onPlan : OnPlan plan s) {column : KanbanColumn} {isSameColumn : Bool}
    (hcalm : leavesWait s.ticket.status
      (if column.isPersonal then [] else column.status.toList) = true →
        Calm ws req.clock.postSave s)
    (success : moveCard ws req column isSameColumn s = .ok s') : OnPlan plan s' := by
  obtain rfl | ⟨newStatus, hshared, hcolumn, rfl⟩ := moveCard_cases success
  · exact onPlan
  · rw [hshared, hcolumn] at hcalm
    exact onPlan.enter hcalm

theorem OnPlan.closeTicket (onPlan : OnPlan plan s)
    (hcalm : leavesWait s.ticket.status
      (if s.ticket.status.isClosed then [] else ws.closedStatus.toList) = true →
        Calm ws req.clock.postSave s)
    (success : closeTicket ws req s = .ok s') : OnPlan plan s' := by
  obtain rfl | ⟨newStatus, hopen, hclosed, -, rfl⟩ := closeTicket_cases success
  · exact onPlan
  · rw [hopen, hclosed] at hcalm
    exact onPlan.enter hcalm

theorem OnPlan.assignTicket (onPlan : OnPlan plan s) {assignee : ℕ} {note : String}
    (hcalm : leavesWait s.ticket.status (autoTransition ws s.ticket.status).toList = true →
      Calm ws req.clock.postSave s)
    (success : assignTicket ws req assignee note s = .ok s') : OnPlan plan s' := by
  obtain ⟨-, events, rfl⟩ := assignTicket_cases success
  have hsaved : OnPlan plan
      (Tickets.saveDraft ws req.clock (assignDraft ws req assignee s.ticket) s) := by
    refine onPlan.saveDraft _ rfl rfl ?_ hcalm
    intro htarget
    simp [assignDraft, htarget]
  have hrecorded : OnPlan plan ((Tickets.saveDraft ws req.clock
      (assignDraft ws req assignee s.ticket) s).recordAssignment assignee req.actor note) :=
    hsaved.congr rfl rfl rfl
  exact List.foldlRecOn _ _ hrecorded fun _ onPlan event _ => onPlan.log event

theorem OnPlan.mergeTickets (onPlan : OnPlan plan s) {primary : ℕ}
    (hcalm : leavesWait s.ticket.status ws.closedStatus.toList = true →
      Calm ws req.clock.postSave s)
    (success : mergeTickets ws req primary s = .ok s') : OnPlan plan s' := by
  obtain ⟨-, rfl⟩ := mergeTickets_cases success
  have hmoved : OnPlan plan { s with db := s.db.moveActivities s.id primary } :=
    onPlan.congr rfl rfl rfl
  have hsaved : OnPlan plan (Tickets.saveDraft ws req.clock (mergeDraft ws req primary s.ticket)
      { s with db := s.db.moveActivities s.id primary }) := by
    refine hmoved.saveDraft ws.closedStatus ?_ ?_ (fun _ => List.mem_cons_self ..) hcalm
    · unfold mergeDraft
      cases ws.closedStatus <;> rfl
    · unfold mergeDraft
      cases ws.closedStatus <;> rfl
  exact hsaved.congr rfl rfl rfl

theorem OnPlan.transitionPipelineStage (onPlan : OnPlan plan s) {newStage : PipelineStage}
    (hcalm : leavesWait s.ticket.status (if entersStage newStage s.ticket then
      (stageTarget ws newStage s.ticket.status).toList else []) = true →
        Calm ws req.clock.postSave s)
    (success : transitionPipelineStage ws req newStage reason s = .ok s') : OnPlan plan s' := by
  obtain rfl | ⟨henters, rfl⟩ := transitionPipelineStage_cases success
  · exact onPlan
  rw [if_pos henters] at hcalm
  refine (onPlan.saveDraft _ ?_ stageDraft_status ?_ hcalm).log _
  · obtain ⟨_, _, _, _, _, _, hdraft⟩ := stageDraft_eq ws req newStage reason s.ticket
    rw [hdraft]
    rfl
  · intro htarget
    rw [mem_stageDraft]
    simp [htarget]

theorem OnPlan.autoCloseTicket (onPlan : OnPlan plan s) {taskId : ℕ}
    (hcalm : leavesWait s.ticket.status
      (if s.ticket.status.slug = "resolved" ∧ s.ticket.autoCloseTaskId = some taskId then
        ws.closedStatus.toList else []) = true → Calm ws req.clock.postSave s) :
    (autoCloseTicket ws req taskId s).db.plan = plan := by
  unfold Tickets.autoCloseTicket
  split
  · exact onPlan.store
  rename_i hresolved
  split
  · exact onPlan.store
  rename_i htask
  split
  · exact onPlan.store
  rename_i closedStatus hclosed
  rw [if_pos ⟨not_not.mp hresolved, not_not.mp htask⟩, hclosed] at hcalm
  rw [← (onPlan.enter hcalm).store]
  funext id
  dsimp only [Db.plan, Session.log]
  rw [setAutoCloseTaskId_tickets]
  split
  · rw [Option.map_map]
    rfl
  · rfl

/-- The actions of a macro follow the plan, if the first of them that leaves the wait is calm. -/
theorem OnPlan.applyMacroActions (onPlan : OnPlan plan s)
    (hcalm : leavesWait s.ticket.status (actions.filterMap (macroStatus ws)) = true →
      Calm ws req.clock.postSave s)
    (success : actions.foldlM (fun s action => applyMacroAction ws req action s) s = .ok s') :
    OnPlan plan s' := by
  induction actions generalizing s with
  | nil =>
    rw [List.foldlM_nil] at success
    rwa [← Except.ok.inj success]
  | cons action rest ih =>
    rw [List.foldlM_cons] at success
    obtain ⟨next, hnext, hrest⟩ := bind_eq_ok.mp success
    rw [List.filterMap_cons] at hcalm
    obtain ⟨newStatus, hstatus, hchange⟩ | ⟨hstatus, edits⟩ := applyMacroAction_cases hnext
    · rw [hstatus] at hcalm
      simp only [leavesWait, Bool.or_eq_true] at hcalm
      obtain ⟨rfl, rfl⟩ | hchange := hchange
      · exact ih onPlan (fun hleaves => hcalm (.inr hleaves)) hrest
      · obtain ⟨-, rfl⟩ := transitionTicketStatus_cases hchange
        have hchanged : OnPlan plan (Tickets.changeTicketStatus ws req newStatus s) :=
          onPlan.changeTicketStatus fun hold hnew => hcalm (.inl (by simp [hold, hnew]))
        refine ih hchanged (fun hleaves => ?_) hrest
        rw [changeTicketStatus_status onPlan.settled] at hleaves
        exact (hcalm (.inr hleaves)).changeTicketStatus onPlan newStatus
    · rw [hstatus] at hcalm
      have hedited := onPlan.edits edits (by decide) (by decide)
      have hsame := (edits.keeps (by decide) onPlan.settled Ticket.status
        (fun _ _ => by simp [Ticket.persist]) (fun _ _ => rfl) fun _ _ _ => rfl).1
      refine ih hedited (fun hleaves => ?_) hrest
      rw [hsame] at hleaves
      exact (hcalm hleaves).edits onPlan.settled edits (by decide) (by decide)

theorem OnPlan.applyMacro (onPlan : OnPlan plan s)
    (hcalm : leavesWait s.ticket.status (actions.filterMap (macroStatus ws)) = true →
      Calm ws req.clock.postSave s) (success : applyMacro ws req actions s = .ok s') :
    OnPlan plan s' := by
  unfold Tickets.applyMacro at success
  obtain ⟨acted, hacted, success⟩ := bind_eq_ok.mp success
  split at success
  · cases success
  split at success
  · cases success
  · rw [← Except.ok.inj success]
    exact (onPlan.applyMacroActions hcalm hacted).log _

theorem OnPlan.addReplyToTicket (onPlan : OnPlan plan s) {inbound : InboundReply}
    (hcalm : (leavesWait s.ticket.status
        (if inbound.bodyIsBlank then [] else (replyTarget ws s.ticket).toList) ||
          (!inbound.bodyIsBlank && inbound.fromCustomer)) = true → Calm ws req.clock.postSave s) :
    OnPlan plan (addReplyToTicket ws req inbound s) := by
  rw [addReplyToTicket_eq, replyTarget_resumeForReply inbound onPlan.settled]
  split
  · exact onPlan
  rename_i hbody
  simp only [hbody, Bool.not_false, Bool.true_and, Bool.or_eq_true] at hcalm
  rw [if_neg Bool.false_ne_true] at hcalm
  cases hcustomer : inbound.fromCustomer with
  | false =>
    rw [Session.resumeForReply, hcustomer, if_neg Bool.false_ne_true]
    cases htarget : replyTarget ws s.ticket with
    | none => exact onPlan
    | some newStatus =>
      rw [htarget] at hcalm
      exact onPlan.enter fun hleaves => hcalm (.inl hleaves)
  | true =>
    have calm := hcalm (.inr hcustomer)
    have huntouched := resumeForReply_untouched ws req inbound s
    have hresumed : OnPlan plan (s.resumeForReply ws req inbound) := by
      rw [Session.resumeForReply, hcustomer, if_pos rfl]
      exact onPlan.resumeSlaPause 2 calm
    have hcalmAfter : Calm ws req.clock.postSave (s.resumeForReply ws req inbound) := by
      refine calm.of_pauses (onPlan.schedule_eq hresumed huntouched.id) fun pause hpause => ?_
      rw [huntouched.id, Session.resumeForReply, hcustomer, if_pos rfl] at hpause
      exact .inl (resumeSlaPause_openPauses_subset
        (fun _ clockOnly _ settled => saveDepth_silent 2 clockOnly settled) _ onPlan.settled hpause)
    cases replyTarget ws s.ticket with
    | none => exact hresumed
    | some newStatus => exact hresumed.changeTicketStatus fun _ _ => hcalmAfter

end Operations

/-! ## The steps that compute deadlines -/

variable (req) in
/-- A clock started on time puts a new ticket on schedule. -/
theorem initializeSla_onSchedule (rows : Rows (OnSchedule ws) s.db)
    (hstored : s.db.tickets s.id = some s.ticket)
    (hcreated : s.ticket.createdAt = req.clock.autoNow)
    (hstarts : (ws.policyFor s.ticket.priority).all (startsOnTime ws req.clock) = true) :
    Rows (OnSchedule ws) (initializeSla ws req s).db := by
  refine rows.of_untouched (initializeSla_edits _ _ s).untouched fun row hrow => ?_
  unfold initializeSla at hrow
  cases hpolicy : ws.policyFor s.ticket.priority with
  | none =>
    rw [hpolicy] at hrow
    exact rows s.id row hrow
  | some policy =>
    rw [hpolicy] at hrow hstarts
    simp only [Option.all_some, startsOnTime, Bool.and_eq_true, decide_eq_true_eq] at hstarts
    dsimp only at hrow
    rw [save_of_same ⟨s.ticket, hstored, rfl⟩ rfl, write_of_same hstored rfl] at hrow
    simp only [Db.updateTicket, Function.update_self, Option.some.injEq] at hrow
    intro other hother hpk
    rw [← hrow] at hpk ⊢
    simp only [Ticket.persist, Ticket.autoNow, List.mem_cons, List.not_mem_nil, reduceCtorEq,
      or_false, or_true, if_true, Option.some.injEq] at hpk ⊢
    obtain rfl := ws.policy_ext (ws.policyFor_mem hpolicy) hother hpk
    rw [hcreated, hstarts.1, hstarts.2]
    exact ⟨rfl, rfl⟩

@[simp]
theorem logSlaChange_tickets (old : Ticket) (s : Session) :
    (logSlaChange old s).db.tickets = s.db.tickets := by
  unfold logSlaChange
  split <;> rfl

/-- An extension that comes out at the deadlines of the creation leaves its ticket on schedule. -/
theorem extendSlaOnEscalation_onSchedule (rows : Rows (OnSchedule ws) s.db) {stored : Ticket}
    (hstored : s.db.tickets s.id = some stored) (hstatus : stored.status = s.ticket.status)
    (hcreated : stored.createdAt = s.ticket.createdAt)
    (hpolicy : stored.slaPolicy = s.ticket.slaPolicy)
    (hextends : escalatesOnTime ws now s.ticket = true) :
    Rows (OnSchedule ws) (extendSlaOnEscalation ws req now s).db := by
  refine rows.of_untouched (extendSlaOnEscalation_edits s now).untouched fun row hrow => ?_
  unfold extendSlaOnEscalation at hrow
  cases hfound : ws.policyFor s.ticket.priority with
  | none =>
    rw [hfound] at hrow
    exact rows s.id row hrow
  | some policy =>
    rw [hfound] at hrow
    rw [escalatesOnTime, hfound] at hextends
    simp only [Option.all_some, Bool.and_eq_true, decide_eq_true_eq] at hextends
    dsimp only at hrow
    rw [logSlaChange_tickets, save_of_same ⟨stored, hstored, hstatus⟩ rfl,
      write_of_same hstored hstatus] at hrow
    simp only [Db.updateTicket, Function.update_self, Option.some.injEq, hextends] at hrow
    intro other hother hpk
    have hattached : row.slaPolicy = some policy.pk := by
      rw [← hrow]
      simp only [Ticket.persist, Ticket.autoNow]
      split <;> simp_all
    obtain rfl := ws.policy_ext (ws.policyFor_mem hfound) hother
      (Option.some.inj (hattached.symm.trans hpk))
    rw [← hrow]
    simp [Ticket.persist, Ticket.autoNow, hcreated]

theorem escalateTicket_onSchedule {assignee : Option ℕ} {queue : Option Queue}
    (rows : Rows (OnSchedule ws) s.db) (hstored : s.db.tickets s.id = some s.ticket)
    (hextends : escalatesOnTime ws req.clock.service s.ticket = true)
    (success : escalateTicket ws req reason assignee queue s = .ok s') :
    Rows (OnSchedule ws) s'.db := by
  obtain ⟨escalated, edits, rfl⟩ := escalateTicket_cases s success
  have settled : Settled s := ⟨s.ticket, hstored, rfl⟩
  -- the edits before the extension leave alone all that it reads
  obtain ⟨hinst, hrow⟩ := edits.keeps (by decide) settled
    (fun ticket => (ticket.status, ticket.priority, ticket.createdAt, ticket.slaPolicy,
      ticket.slaFirstResponseDue, ticket.slaResolutionDue))
    (fun _ _ => by simp [Ticket.persist]) (fun _ _ => rfl) (fun _ _ _ => rfl)
  rw [hstored] at hrow
  obtain ⟨stored, hstored', hread⟩ := Option.map_eq_some_iff.mp hrow
  simp only [Prod.mk.injEq] at hinst hread
  obtain ⟨hstatus, hpriority, hcreated, hpolicy, hresponse, hresolution⟩ := hinst
  obtain ⟨hstatus', -, hcreated', hpolicy', hresponse', hresolution'⟩ := hread
  have hschedule : stored.schedule = s.ticket.schedule := by
    rw [Ticket.schedule, Ticket.schedule, hcreated', hpolicy', hresponse', hresolution']
  refine extendSlaOnEscalation_onSchedule ?_ ?_ (hstatus'.trans hstatus.symm)
    (hcreated'.trans hcreated.symm) (hpolicy'.trans hpolicy.symm) ?_
  · refine rows.of_untouched edits.untouched fun row hid => ?_
    rw [hstored', Option.some.injEq] at hid
    subst hid
    exact (rows s.id s.ticket hstored).of_schedule hschedule
  · rw [edits.untouched.id, hstored']
  · rw [escalatesOnTime, hpriority, hcreated, hresponse, hresolution]
    exact hextends

variable (req) in
/-- Saving a policy leaves the tickets that are on schedule where they are. -/
theorem propagateSlaPolicyChange_plan (rows : Rows (OnSchedule ws) db) {policy resaved : SLAPolicy}
    (hpolicy : policy ∈ ws.policies) (hpk : resaved.pk = policy.pk)
    (hresponse : resaved.firstResponseMinutes = policy.firstResponseMinutes)
    (hresolution : resaved.resolutionMinutes = policy.resolutionMinutes) :
    (propagateSlaPolicyChange ws req resaved db).plan = db.plan := by
  refine List.foldlRecOn (motive := fun current : Db => current.plan = db.plan) _ _ rfl
    fun current hcurrent id hid => ?_
  have huses := (List.mem_filter.mp hid).2
  unfold Db.withTicket
  cases hrow : current.tickets id with
  | none => exact hcurrent
  | some row =>
    -- the ticket still has the policy that it was selected by
    have hplan := congrFun hcurrent id
    rw [Db.plan, Db.plan, hrow, Option.map_some] at hplan
    obtain ⟨before, hbefore, hschedule⟩ := Option.map_eq_some_iff.mp hplan.symm
    rw [hbefore, Option.any_some, usesPolicy, Bool.and_eq_true, beq_iff_eq, hpk] at huses
    have hrowPolicy := (slaPolicy_of_schedule hschedule).symm.trans huses.1
    obtain ⟨hdue, hdue'⟩ := (rows id before hbefore).of_schedule hschedule.symm
      policy hpolicy hrowPolicy
    have onPlan : OnPlan db.plan { db := current, id, ticket := row } :=
      ⟨hcurrent, ⟨row, hrow, rfl⟩, by rw [← hcurrent, Db.plan, hrow]; rfl⟩
    dsimp only [applyPolicyToTicket]
    refine ((onPlan.saveDepth 2 _ ?_ rfl).logSlaChange row).store
    simp [Ticket.schedule, hresponse, hresolution, hdue, hdue']

/-! ## Runs -/

theorem calm_of_idle {id : ℕ} (h : (ticket.slaPolicy.isNone || pausesIdle ws db id now) = true) :
    Calm ws now { db, id, ticket } := by
  simpa [Calm, pausesIdle] using h

theorem onTicket_onSchedule {after : Db} {id : ℕ} {op : Op} {work : Session → Except String Session}
    (rows : Rows (OnSchedule ws) db) (hpauses : ((db.tickets id).all fun row =>
      !endsPause ws op row || row.slaPolicy.isNone || pausesIdle ws db id now) = true)
    (hwork : ∀ ticket s', OnPlan db.plan { db, id, ticket } →
      (endsPause ws op ticket = true → Calm ws now { db, id, ticket }) →
        work { db, id, ticket } = .ok s' → s'.db.plan = db.plan)
    (success : db.onTicket id work = .ok after) : Rows (OnSchedule ws) after := by
  obtain ⟨ticket, s', hticket, hok, rfl⟩ := onTicket_eq_ok.mp success
  rw [hticket, Option.all_some] at hpauses
  refine rows.of_plan (hwork ticket s' ?_ ?_ hok)
  · exact ⟨rfl, ⟨ticket, hticket, rfl⟩, by rw [Db.plan, hticket]; rfl⟩
  · intro hends
    rw [hends, Bool.not_true, Bool.false_or] at hpauses
    exact calm_of_idle hpauses

theorem step_onSchedule {event : Event} (rows : Rows (OnSchedule ws) db)
    (hkeeps : keepsSchedule ws db event = true) : Rows (OnSchedule ws) (step ws db event) := by
  refine step_preserves rows fun after success => ?_
  suffices hafter : Rows (OnSchedule ws) after from
    commit_keeps (P := Rows (OnSchedule ws)) (fun _ _ _ rows => rows)
      (fun _ _ _ rows => rows.updateWhere fun _ onSchedule => onSchedule) hafter
  have hok : (attempt ws event.req event.op db).isOk = true := by rw [success]; rfl
  simp only [keepsSchedule, hok, Bool.not_true, Bool.false_or, Bool.and_eq_true] at hkeeps
  obtain ⟨⟨hstarts, hpauses⟩, hextends⟩ := hkeeps
  by_cases hcreation : event.op.isCreation = true
  · obtain ⟨id, ticket, status, t, -, hpriority, newborn, -, edits, rfl⟩ :=
      creation_starts hcreation success
    rw [hpriority, Option.all_some] at hstarts
    have hinserted : Rows (OnSchedule ws) (db.insertTicket id ticket) :=
      rows.update (.of_none newborn.slaPolicy)
    have hstarted := initializeSla_onSchedule event.req
      (s := { db := db.insertTicket id ticket, id, ticket }) hinserted
      (Function.update_self ..) newborn.createdAt hstarts
    have hinit : Settled { db := db.insertTicket id ticket, id, ticket } :=
      ⟨ticket, Function.update_self .., rfl⟩
    have hsettled := ((initializeSla_edits ws event.req _).settled
      (by decide) hinit).1
    exact hstarted.of_plan (edits.schedule (by decide) (by decide) hsettled).2
  have hcarried : ∀ {columns}, .status ∉ columns → Unscheduled columns →
      Carried ws columns (fun after => after.plan = db.plan) (OnPlan db.plan) := carried_onPlan
  cases hevent : event.op <;> rw [hevent] at success hpauses hextends hcreation <;>
    simp only [Op.isCreation, Op.statusTicket, Option.all_some, not_true_eq_false,
      Bool.false_eq_true, not_false_eq_true] at hpauses hextends hcreation
  case transitionTicketStatus id newStatus =>
    refine onTicket_onSchedule rows hpauses (fun ticket s' onPlan hcalm hok => ?_) success
    obtain ⟨-, rfl⟩ := transitionTicketStatus_cases hok
    exact (onPlan.enter (by simpa [endsPause, Op.statuses] using hcalm)).store
  case bulkChangeStatus id newStatus =>
    dsimp only [attempt] at success
    refine onTicket_onSchedule rows hpauses (fun ticket s' onPlan hcalm hok => ?_) success
    rw [← Except.ok.inj hok]
    exact (onPlan.enter (by simpa [endsPause, Op.statuses] using hcalm)).store
  case moveCard id column isSameColumn =>
    refine onTicket_onSchedule rows hpauses (fun ticket s' onPlan hcalm hok => ?_) success
    exact (onPlan.moveCard (by simpa only [endsPause, Op.statuses, Bool.or_false] using hcalm)
      hok).store
  case closeTicket id =>
    refine onTicket_onSchedule rows hpauses (fun ticket s' onPlan hcalm hok => ?_) success
    exact (onPlan.closeTicket (by simpa only [endsPause, Op.statuses, Bool.or_false] using hcalm)
      hok).store
  case assignTicket id assignee note =>
    refine onTicket_onSchedule rows hpauses (fun ticket s' onPlan hcalm hok => ?_) success
    exact (onPlan.assignTicket (by simpa only [endsPause, Op.statuses, Bool.or_false] using hcalm)
      hok).store
  case mergeTickets primary secondary =>
    dsimp only [attempt] at success
    split at success
    · cases success
    refine onTicket_onSchedule rows hpauses (fun ticket s' onPlan hcalm hok => ?_) success
    exact (onPlan.mergeTickets (by simpa only [endsPause, Op.statuses, Bool.or_false] using hcalm)
      hok).store
  case transitionPipelineStage id newStage reason =>
    refine onTicket_onSchedule rows hpauses (fun ticket s' onPlan hcalm hok => ?_) success
    exact (onPlan.transitionPipelineStage
      (by simpa only [endsPause, Op.statuses, Bool.or_false] using hcalm) hok).store
  case applyMacro id actions =>
    refine onTicket_onSchedule rows hpauses (fun ticket s' onPlan hcalm hok => ?_) success
    exact (onPlan.applyMacro (by simpa only [endsPause, Op.statuses, Bool.or_false] using hcalm)
      hok).store
  case autoCloseTicket id taskId =>
    dsimp only [attempt] at success
    refine onTicket_onSchedule rows hpauses (fun ticket s' onPlan hcalm hok => ?_) success
    rw [← Except.ok.inj hok]
    exact onPlan.autoCloseTicket (by simpa only [endsPause, Op.statuses, Bool.or_false] using hcalm)
  case addReplyToTicket id inbound =>
    dsimp only [attempt] at success
    refine onTicket_onSchedule rows hpauses (fun ticket s' onPlan hcalm hok => ?_) success
    rw [← Except.ok.inj hok]
    exact (onPlan.addReplyToTicket hcalm).store
  case escalateTicket id reason assignee queue =>
    obtain ⟨ticket, s', hticket, hok, rfl⟩ := onTicket_eq_ok.mp success
    rw [hticket, Option.all_some] at hextends
    exact escalateTicket_onSchedule (s := { db, id, ticket }) rows hticket hextends hok
  case saveSlaPolicy policy =>
    dsimp only [attempt] at success
    split at success
    · rename_i hpolicy
      rw [← Except.ok.inj success]
      exact rows.of_plan (propagateSlaPolicyChange_plan _ rows hpolicy rfl rfl rfl)
    · cases success
  case checkTenantSla clocks now =>
    rw [← Except.ok.inj success]
    exact rows.of_plan ((hcarried (by decide) (by decide)).checkTenantSla
      (fun _ _ onPlan => onPlan.congr rfl rfl rfl) clocks now rfl)
  case changeTicketPriority | addTags | softDelete | recordFirstResponse | autoAssignTicket |
      autoAssignEmailTicket =>
    all_goals
      refine rows.of_plan ?_
      exact (hcarried (by decide) (by decide)).attempt rfl rfl success

/-- Saving a policy again, its minutes unchanged, leaves the deadlines of its open tickets. -/
def ResaveKeeps (ws : Workspace) (db : Db) : Prop :=
  ∀ policy ∈ ws.policies, ∀ resaved : SLAPolicy, resaved.pk = policy.pk →
    resaved.firstResponseMinutes = policy.firstResponseMinutes →
    resaved.resolutionMinutes = policy.resolutionMinutes →
    ∀ req id row, db.tickets id = some row → row.status.isClosed = false →
      row.slaPolicy = some policy.pk →
      ∃ after, (propagateSlaPolicyChange ws req resaved db).tickets id = some after ∧
        after.slaFirstResponseDue = row.slaFirstResponseDue ∧
        after.slaResolutionDue = row.slaResolutionDue

theorem Rows.resaveKeeps (rows : Rows (OnSchedule ws) db) : ResaveKeeps ws db := by
  intro policy hpolicy resaved hpk hresponse hresolution req id row hrow _ huses
  have hplan := congrFun (propagateSlaPolicyChange_plan req rows hpolicy hpk hresponse
    hresolution) id
  rw [Db.plan, Db.plan, hrow, Option.map_some] at hplan
  obtain ⟨after, hafter, hschedule⟩ := Option.map_eq_some_iff.mp hplan
  refine ⟨after, hafter, ?_⟩
  have huses' := (slaPolicy_of_schedule hschedule).trans huses
  simp only [Ticket.schedule, huses, huses', Option.map_some, Option.some.injEq,
    Schedule.mk.injEq, true_and] at hschedule
  exact hschedule.2

/-- In every run of admitted steps, saving a policy again would change no deadline. -/
theorem resave_keeps_throughout (ws : Workspace) (events : List Event)
    (hkeeps : Every (step ws) (fun db event => keepsSchedule ws db event = true)
      Db.empty events) :
    Always (step ws) (ResaveKeeps ws) Db.empty events := by
  refine always_of_invariant (Rows (OnSchedule ws)) ?_ ?_ ?_ events hkeeps
  · intro db rows
    exact rows.resaveKeeps
  · intro db event rows hadmitted
    exact step_onSchedule rows hadmitted
  · intro id row hrow
    cases hrow

/-- A ticket waits over a weekend. -/
def weekendWait : List Event :=
  [ { op := .createTicket 1 { id := 0 },
      req := { clock := ⟨144000000000, 144000000000, 144000000000, 144000000000⟩ } },
    { op := .transitionTicketStatus 0 waitingStatus,
      req := { clock := ⟨151200000000, 151200000000, 151200000000, 151200000000⟩ } },
    { op := .addReplyToTicket 0 {},
      req := { clock := ⟨216000000000, 216000000000, 216000000000, 216000000000⟩ } } ]

theorem resave_keeps_on_weekendWait :
    Always (step .office) (ResaveKeeps .office) Db.empty weekendWait :=
  resave_keeps_throughout .office weekendWait (by decide +kernel)

/-- A ticket waits for an hour on a Friday morning. -/
def morningWait : List Event :=
  [ { op := .createTicket 1 { id := 0 },
      req := { clock := ⟨122400000000, 122400000000, 122400000000, 122400000000⟩ } },
    { op := .transitionTicketStatus 0 waitingStatus,
      req := { clock := ⟨124200000000, 124200000000, 124200000000, 124200000000⟩ } },
    { op := .addReplyToTicket 0 {},
      req := { clock := ⟨127800000000, 127800000000, 127800000000, 127800000000⟩ } } ]

/-- The resolution was put off till noon, and saving the policy takes it back to eleven. -/
theorem resave_moves_on_morningWait :
    ¬ Always (step .office) (ResaveKeeps .office) Db.empty morningWait := by
  intro always
  have hstored : ((run (step .office) Db.empty morningWait).tickets 0).map (fun row =>
      (row.status.isClosed, row.slaPolicy, row.slaResolutionDue)) =
      some (false, some 1, some 129600000000) := by
    decide +kernel
  have hresaved : ((propagateSlaPolicyChange .office { clock := ⟨0, 0, 0, 0⟩ } officePolicy
      (run (step .office) Db.empty morningWait)).tickets 0).map Ticket.slaResolutionDue =
      some (some 126000000000) := by
    decide +kernel
  obtain ⟨row, hrow, hread⟩ := Option.map_eq_some_iff.mp hstored
  simp only [Prod.mk.injEq] at hread
  obtain ⟨after, hafter, -, hsame⟩ := always.finish officePolicy (by decide) officePolicy rfl rfl
    rfl { clock := ⟨0, 0, 0, 0⟩ } 0 row hrow hread.1 hread.2.1
  rw [hafter, Option.map_some, hsame, hread.2.2] at hresaved
  exact absurd hresaved (by decide)

end Kanzan.Tickets

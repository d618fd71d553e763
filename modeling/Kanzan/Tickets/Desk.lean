import Kanzan.Tickets.AuditedLaws

/-!
# Operations one after another

One event is one call of a service function or one save.  It works on an instance loaded
for it, or on the one that the running request already holds, with whatever flag that
has come to carry.  An operation that raises leaves the store as it was and ends the
request.
-/

namespace Kanzan.Tickets

open Sla Support

/-! ## Events -/

/-- The operations on a ticket at hand, named after the functions they call. -/
inductive Work where
  | changeTicketStatus (newStatus : TicketStatus)
  | transitionTicketStatus (newStatus : TicketStatus)
  | closeTicket
  | resumeFromWait
  | reopenResolvedTicket
  | moveCard (column : KanbanColumn) (isSameColumn : Bool)
  | changeTicketPriority (newPriority : Priority)
  | transitionPipelineStage (newStage : PipelineStage) (reason : String)
  | mergeTickets (primary : ℕ)
  | assignTicket (assignee : ℕ) (note : String)
  | unassign
  | escalateTicket (reason : String) (assignee : Option ℕ) (queue : Option Queue)
  | autoAssignTicket (agent : Option ℕ)
  | autoAssignEmailTicket (agent : Option ℕ)
  | executeRule (now : Instant) (rule : EscalationRule)
  | performUpdate (patch : Audited.SimplePatch)

/-- A service call: on a ticket, or creating one. -/
inductive Service where
  | onTicket (ticket : ℕ) (reuse : Bool) (work : Work)
  | createTicket (creator : ℕ) (data : NewTicket)
  | createTicketFromEmail (systemUser : ℕ) (overrides : NewTicket) (agent : Option ℕ)
  | splitTicket (source actor : ℕ) (data : SplitRequest)

/-- A service call with its request, and whether the task broker can be reached. -/
structure ServiceEvent where
  service : Service
  req : Request
  brokerUp : Bool := true

/-- The instance that the running request holds. -/
structure Loaded where
  id : ℕ
  ticket : Ticket
  skipSignalLogging : Bool := false

/-- The ledger, and the instance in memory. -/
structure Desk extends Ledger where
  loaded : Option Loaded := none

namespace Desk

/-- The ticket at hand: the instance in memory, if the request reuses it, or a fresh one. -/
def load (desk : Desk) (id : ℕ) (reuse : Bool) : Option Audited :=
  match desk.loaded.filter fun loaded => reuse && loaded.id == id with
  | some loaded => some (desk.audit id loaded.ticket loaded.skipSignalLogging)
  | none => (desk.db.tickets id).map fun ticket => desk.audit id ticket

def commit (brokerUp : Bool) (t : Audited) : Desk :=
  { t.ledger with
    db := t.session.db.commit brokerUp
    loaded := some
      { id := t.session.id, ticket := t.session.ticket, skipSignalLogging := t.skipSignalLogging } }

def drop (desk : Desk) : Desk := { desk with loaded := none }

end Desk

section Steps

variable (ws : Workspace)

def Work.perform (req : Request) (t : Audited) : Work → Except String Audited
  | .changeTicketStatus newStatus => .ok (t.changeTicketStatus ws req newStatus)
  | .transitionTicketStatus newStatus => t.transitionTicketStatus ws req newStatus
  | .closeTicket => t.closeTicket ws req
  | .resumeFromWait => .ok (t.resumeFromWait ws req)
  | .reopenResolvedTicket => .ok (t.reopenResolvedTicket ws req)
  | .moveCard column isSameColumn => t.moveCard ws req column isSameColumn
  | .changeTicketPriority newPriority => .ok (t.changeTicketPriority ws req newPriority)
  | .transitionPipelineStage newStage reason => t.transitionPipelineStage ws req newStage reason
  | .mergeTickets primary =>
    if (t.session.db.tickets primary).isNone then .error "Ticket matching query does not exist."
    else t.mergeTickets ws req primary
  | .assignTicket assignee note => t.assignTicket ws req assignee note
  | .unassign => .ok (t.unassign ws req)
  | .escalateTicket reason assignee queue => t.escalateTicket ws req reason assignee queue
  | .autoAssignTicket agent => .ok (t.autoAssignTicket ws req agent)
  | .autoAssignEmailTicket agent => .ok (t.autoAssignEmailTicket ws req agent)
  | .executeRule now rule => .ok (t.executeRule ws req.clock now rule)
  | .performUpdate patch => .ok (t.performUpdate ws req patch)

def Service.attempt (req : Request) (desk : Desk) : Service → Except String Audited
  | .onTicket id reuse work =>
    match desk.load id reuse with
    | none => .error "Ticket matching query does not exist."
    | some t => work.perform ws req t
  | .createTicket creator data => Audited.createTicket ws req creator data desk.toLedger
  | .createTicketFromEmail systemUser overrides agent =>
    Audited.createTicketFromEmail ws req systemUser overrides agent desk.toLedger
  | .splitTicket source actor data =>
    match desk.load source false with
    | none => .error "Ticket matching query does not exist."
    | some t => t.splitTicket ws req actor data

def Desk.serve (desk : Desk) (event : ServiceEvent) : Desk :=
  match event.service.attempt ws event.req desk with
  | .error _ => desk.drop
  | .ok t => Desk.commit event.brokerUp t

end Steps

/-! ## The assignments of an operation -/

def Work.assigns (ws : Workspace) (old : Fields) : Work → Option ℕ
  | .assignTicket assignee _ => if ws.isActiveMember assignee then some assignee else none
  | .escalateTicket _ assignee _ => assignee.filter fun user => ws.isActiveMember user
  | .autoAssignTicket agent => agent
  | .autoAssignEmailTicket agent => if old.assignee = none then agent else none
  | .executeRule _ rule => Audited.ruleAssignee ws rule
  | _ => none

namespace Service

def ticket : Service → ℕ
  | .onTicket id _ _ => id
  | .createTicket _ data => data.id
  | .createTicketFromEmail _ overrides _ => overrides.id
  | .splitTicket _ _ data => data.child

def onStored : Service → Bool
  | .onTicket _ _ _ => true
  | .createTicket _ _ | .createTicketFromEmail _ _ _ | .splitTicket _ _ _ => false

def assigns (ws : Workspace) (desk : Desk) : Service → Option ℕ
  | .onTicket id reuse work =>
    (desk.load id reuse).bind fun t => work.assigns ws t.session.ticket.fields
  | .createTicket creator data => some (creationAssignee data creator)
  | .createTicketFromEmail _ overrides agent =>
    overrides.assignee.or (Audited.inboundAgent ws agent)
  | .splitTicket source _ _ => (desk.load source false).bind fun t => t.session.ticket.assignee

def assignedBy : Service → Option ℕ
  | .onTicket _ _ _ => none
  | .createTicket creator _ => some creator
  | .createTicketFromEmail systemUser overrides _ => overrides.assignee.map fun _ => systemUser
  | .splitTicket _ actor _ => some actor

end Service

def Db.assigneeOf (db : Db) (id : ℕ) : Option ℕ := (db.tickets id).bind Ticket.assignee

/-! ## The instance in memory is up to date -/

/-- The instance in memory has the fields that the row has. -/
def Desk.Synced (desk : Desk) : Prop :=
  ∀ loaded, desk.loaded = some loaded →
    (desk.db.tickets loaded.id).map Ticket.fields = some loaded.ticket.fields

variable {event : ServiceEvent}

section Laws

open Audited

variable {ws : Workspace} {req : Request} {desk : Desk} {t t' : Audited} {old : Fields}

theorem Desk.Synced.load (synced : desk.Synced) {id : ℕ} {reuse : Bool}
    (hload : desk.load id reuse = some t) :
    ∃ ticket skip, t = desk.audit id ticket skip ∧ t.At ticket.fields := by
  unfold Desk.load at hload
  split at hload
  · rename_i loaded hfound
    obtain ⟨hloaded, hid⟩ := Option.filter_eq_some_iff.mp hfound
    rw [Bool.and_eq_true, beq_iff_eq] at hid
    obtain rfl := hid.2
    rw [← Option.some.inj hload]
    exact ⟨loaded.ticket, loaded.skipSignalLogging, rfl, synced loaded hloaded, rfl⟩
  · obtain ⟨ticket, hticket, rfl⟩ := Option.map_eq_some_iff.mp hload
    exact ⟨ticket, false, rfl, by rw [Ledger.audit, hticket]; rfl, rfl⟩

theorem commit_fields (brokerUp : Bool) (db : Db) (id : ℕ) :
    ((db.commit brokerUp).tickets id).map Ticket.fields = (db.tickets id).map Ticket.fields :=
  commit_map Ticket.fields (fun _ _ => rfl) brokerUp db id

theorem Desk.synced_commit {fields : Fields} (brokerUp : Bool) (at_end : t.At fields) :
    (Desk.commit brokerUp t).Synced := by
  intro loaded hloaded
  rw [← Option.some.inj hloaded]
  exact (commit_fields brokerUp t.session.db t.session.id).trans
    (at_end.row.trans (congrArg some at_end.inst.symm))

theorem assigneeOf_eq (db : Db) (id : ℕ) :
    db.assigneeOf id = ((db.tickets id).map Ticket.fields).bind Fields.assignee := by
  unfold Db.assigneeOf
  cases db.tickets id with
  | none => rfl
  | some row => rfl

theorem commit_assigneeOf (brokerUp : Bool) (db : Db) (id : ℕ) :
    (db.commit brokerUp).assigneeOf id = db.assigneeOf id := by
  rw [assigneeOf_eq, assigneeOf_eq, commit_fields]

theorem Audited.At.assigneeOf (here : t.At old) : t.session.db.assigneeOf t.session.id = old.assignee := by
  rw [assigneeOf_eq, here.row]
  rfl

/-- The assignee after an operation that assigns, or does not. -/
structure Assigned (old new assigns : Option ℕ) : Prop where
  of_new : ∀ user, new = some user → old = some user ∨ assigns = some user
  to_new : ∀ user, assigns = some user → new = some user

theorem Assigned.kept (assignee : Option ℕ) : Assigned assignee assignee none :=
  ⟨fun _ hnew => .inl hnew, nofun⟩

theorem Assigned.set (old : Option ℕ) (user : ℕ) : Assigned old (some user) (some user) :=
  ⟨fun _ hnew => .inr hnew, fun _ hnew => hnew⟩

theorem Assigned.fresh (assigns : Option ℕ) : Assigned none assigns assigns :=
  ⟨fun _ hnew => .inr hnew, fun _ hnew => hnew⟩

theorem Audited.Routed.assigned (routed : Routed req t t' old) :
    ∃ new rows, Did t t' new rows [] ∧ Assigned old.assignee new.assignee none := by
  obtain ⟨newStatus, did⟩ := routed
  exact ⟨_, _, did, .kept _⟩

theorem Assigned.or (old assignee : Option ℕ) : Assigned old (assignee.or old) assignee := by
  cases assignee with
  | none => exact .kept old
  | some user => exact .set old user

theorem escalateTicket_assigns {reason : String} {assignee : Option ℕ} {queue : Option Queue}
    (hmember : ∀ user ∈ assignee, ws.isActiveMember user = true) :
    (Work.escalateTicket reason assignee queue).assigns ws old = assignee := by
  cases assignee with
  | none => rfl
  | some user => exact Option.filter_eq_some_iff.mpr ⟨rfl, hmember user rfl⟩

theorem rule_assigned (ws : Workspace) (rule : EscalationRule) (old : Fields) :
    Assigned old.assignee (ruleFields ws rule old).assignee (ruleAssignee ws rule) := by
  unfold ruleFields ruleAssignee
  cases rule.action with
  | assign => exact .or old.assignee (rule.assignee ws)
  | notify => exact .kept _
  | changePriority => exact .kept _

theorem Work.did {work : Work} (here : t.At old) (success : work.perform ws req t = .ok t') :
    ∃ new rows, Did t t' new rows (assignmentSignals t.session.id (work.assigns ws old)) ∧
      Assigned old.assignee new.assignee (work.assigns ws old) := by
  cases work with
  | changeTicketStatus newStatus =>
    obtain rfl := Except.ok.inj success
    exact (Routed.change here newStatus).assigned
  | transitionTicketStatus newStatus => exact (transitionTicketStatus_routed here success).assigned
  | closeTicket => exact (closeTicket_routed here success).assigned
  | resumeFromWait =>
    obtain rfl := Except.ok.inj success
    exact (resumeFromWait_routed here).assigned
  | reopenResolvedTicket =>
    obtain rfl := Except.ok.inj success
    exact (reopenResolvedTicket_routed here).assigned
  | moveCard column isSameColumn => exact (moveCard_routed here success).assigned
  | changeTicketPriority newPriority =>
    obtain rfl := Except.ok.inj success
    exact ⟨_, _, changeTicketPriority_did here newPriority, .kept _⟩
  | transitionPipelineStage newStage reason =>
    obtain ⟨-, did⟩ | ⟨-, did⟩ := transitionPipelineStage_did here success
    · exact ⟨_, _, did, .kept _⟩
    · exact ⟨_, _, did, .kept _⟩
  | mergeTickets primary =>
    dsimp only [Work.perform] at success
    split at success
    · cases success
    · exact ⟨_, _, mergeTickets_did here success, .kept _⟩
  | assignTicket assignee note =>
    obtain ⟨hmember, did⟩ := assignTicket_did here success
    rw [Work.assigns, if_pos hmember]
    exact ⟨_, _, did, .set _ _⟩
  | unassign =>
    obtain rfl := Except.ok.inj success
    exact ⟨_, _, unassign_did here, ⟨nofun, nofun⟩⟩
  | escalateTicket reason assignee queue =>
    obtain ⟨hmember, count, did⟩ := escalateTicket_did here success
    rw [escalateTicket_assigns hmember]
    exact ⟨_, _, did, .or _ _⟩
  | autoAssignTicket agent =>
    obtain rfl := Except.ok.inj success
    cases agent with
    | none => exact ⟨_, _, .refl here, .kept _⟩
    | some user => exact ⟨_, _, autoAssignTicket_did here user, .set _ _⟩
  | autoAssignEmailTicket agent =>
    obtain rfl := Except.ok.inj success
    have hinst := congrArg Fields.assignee here.inst
    by_cases hnone : old.assignee = none
    · rw [Work.assigns, if_pos hnone]
      cases agent with
      | none =>
        rw [autoAssignEmailTicket_idle none (.inr rfl)]
        exact ⟨_, _, .refl here, .kept _⟩
      | some user => exact ⟨_, _, autoAssignEmailTicket_did here user hnone, .set _ _⟩
    · rw [Work.assigns, if_neg hnone,
        autoAssignEmailTicket_idle agent (.inl fun h => hnone (hinst.symm.trans h))]
      exact ⟨_, _, .refl here, .kept _⟩
  | executeRule now rule =>
    obtain rfl := Except.ok.inj success
    exact ⟨_, _, executeRule_did here req.clock now rule, rule_assigned ws rule old⟩
  | performUpdate patch =>
    obtain rfl := Except.ok.inj success
    exact ⟨_, _, performUpdate_did here patch, .kept _⟩

theorem Service.did {service : Service} (synced : desk.Synced)
    (success : service.attempt ws req desk = .ok t') :
    ∃ ticket skip new rows,
      Did (desk.audit service.ticket ticket skip) t' new rows
        ((service.assigns ws desk).toList.map fun user =>
          ⟨service.ticket, user, service.assignedBy⟩) ∧
      Assigned (desk.db.assigneeOf service.ticket) new.assignee (service.assigns ws desk) ∧
      (service.onStored = false → desk.db.tickets service.ticket = none) := by
  cases service with
  | onTicket id reuse work =>
    dsimp only [Service.attempt] at success
    split at success
    · cases success
    rename_i t hload
    obtain ⟨ticket, skip, rfl, here⟩ := synced.load hload
    obtain ⟨new, rows, did, assigned⟩ := Work.did here success
    rw [← here.assigneeOf] at assigned
    refine ⟨ticket, skip, new, rows, ?_, ?_, nofun⟩
    · rw [Service.assigns, hload]
      exact did
    · rw [Service.assigns, hload]
      exact assigned
  | createTicket creator data =>
    obtain ⟨-, hfresh, ticket, new, rows, hnew, -, did⟩ := createTicket_did success
    refine ⟨ticket, false, new, rows, did, ?_, fun _ => hfresh⟩
    rw [hnew, Db.assigneeOf, Service.ticket, hfresh]
    exact .fresh _
  | createTicketFromEmail systemUser overrides agent =>
    obtain ⟨-, hfresh, status, ticket, new, -, hnew, did⟩ := createTicketFromEmail_did success
    refine ⟨ticket, false, new, receiverRows (desk.audit overrides.id ticket) req.clock.postSave
      (emailFields overrides status) new, ?_, ?_, fun _ => hfresh⟩
    · cases hassignee : overrides.assignee with
      | none =>
        rw [hassignee, if_pos rfl] at did
        rw [Service.assigns, Service.assignedBy, hassignee]
        exact did
      | some user =>
        rw [hassignee, if_neg (by simp)] at did
        rw [Service.assigns, Service.assignedBy, hassignee]
        exact did
    · rw [hnew, Db.assigneeOf, Service.ticket, hfresh]
      exact .fresh _
  | splitTicket source actor data =>
    dsimp only [Service.attempt] at success
    split at success
    · cases success
    rename_i t hload
    obtain ⟨sourceTicket, skip, rfl, here⟩ := synced.load hload
    obtain ⟨hfresh, ticket, new, rows, hnew, -, did⟩ := splitTicket_did success
    refine ⟨ticket, false, new, rows, ?_, ?_, fun _ => hfresh⟩
    · rw [Service.assigns, hload]
      exact did
    · rw [hnew, Service.assigns, hload, Db.assigneeOf, Service.ticket,
        show desk.db.tickets data.child = none from hfresh]
      exact .fresh _

theorem Desk.serve_of_error {message : String}
    (failure : event.service.attempt ws event.req desk = .error message) :
    desk.serve ws event = desk.drop := by
  rw [Desk.serve, failure]

theorem Desk.serve_of_ok (success : event.service.attempt ws event.req desk = .ok t') :
    desk.serve ws event = Desk.commit event.brokerUp t' := by
  rw [Desk.serve, success]

variable (ws) in
/-- The instance in memory stays up to date. -/
theorem Desk.Synced.serve (synced : desk.Synced) (event : ServiceEvent) :
    (desk.serve ws event).Synced := by
  cases hattempt : event.service.attempt ws event.req desk with
  | error message =>
    rw [serve_of_error hattempt]
    intro loaded hloaded
    cases hloaded
  | ok t' =>
    rw [serve_of_ok hattempt]
    obtain ⟨ticket, skip, new, rows, did, -⟩ := Service.did synced hattempt
    exact synced_commit event.brokerUp did.at_end

end Laws

end Kanzan.Tickets

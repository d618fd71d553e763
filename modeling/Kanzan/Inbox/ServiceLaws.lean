import Kanzan.Inbox.Services
import Kanzan.Tickets.Creation

/-!
# What the services of the hub do

The outcomes of each service, said once, with the tables that it leaves alone.
-/

namespace Kanzan.Inbox

open Sla Support Agents Tickets

variable {overrides : NewTicket} {creator ticket : ℕ} {he : HubEmail}

section Laws

variable {hub : Hub} {req : Request} {db db' : HubDb} {s s' : HubSession} {id user : ℕ}

/-! ## Workloads -/

@[simp]
theorem chargeAgent_emails (now : Instant) (agent : Option ℕ) :
    (db.chargeAgent now agent).emails = db.emails := by
  cases agent <;> rfl

@[simp]
theorem chargeAgent_emailIds (now : Instant) (agent : Option ℕ) :
    (db.chargeAgent now agent).emailIds = db.emailIds := by
  cases agent <;> rfl

@[simp]
theorem chargeAgent_tickets (now : Instant) (agent : Option ℕ) :
    (db.chargeAgent now agent).tickets = db.tickets := by
  cases agent <;> rfl

@[simp]
theorem moveLoad_emails (now : Instant) (oldUser : Option ℕ) (newUser : ℕ) :
    (db.moveLoad now oldUser newUser).emails = db.emails := by
  unfold HubDb.moveLoad
  split
  · rfl
  · cases oldUser <;> rfl

@[simp]
theorem moveLoad_emailIds (now : Instant) (oldUser : Option ℕ) (newUser : ℕ) :
    (db.moveLoad now oldUser newUser).emailIds = db.emailIds := by
  unfold HubDb.moveLoad
  split
  · rfl
  · cases oldUser <;> rfl

@[simp]
theorem moveLoad_tickets (now : Instant) (oldUser : Option ℕ) (newUser : ℕ) :
    (db.moveLoad now oldUser newUser).tickets = db.tickets := by
  unfold HubDb.moveLoad
  split
  · rfl
  · cases oldUser <;> rfl

@[simp]
theorem updateTicketCount_emails : (updateTicketCount user db).emails = db.emails := by
  unfold updateTicketCount
  dsimp only
  split <;> rfl

@[simp]
theorem autoAssignTicket_emails : (Agents.autoAssignTicket hub req id db).emails = db.emails := by
  unfold Agents.autoAssignTicket
  cases db.tickets.tickets id with
  | none => rfl
  | some ticket =>
    dsimp only
    cases getAvailableAgent ticket.queue db with
    | none => rfl
    | some user => rfl

/-! ## Assignment -/

theorem HubEmail.held_iff : he.held = true ↔ he.assignee = none ∧ he.state = .new := by
  rw [HubEmail.held, Bool.and_eq_true, Option.isNone_iff_eq_none, beq_iff_eq]

/-- `assign_to` commits for a held email, and an assignable user where that is asked for. -/
theorem assignTo_eq_some {reason : AssignmentReason} {requireOnline : Bool} :
    assignTo hub req id user reason requireOnline db = some db' ↔
      (∃ he, db.emails id = some he ∧ he.held = true) ∧
        (requireOnline = true → ∃ avail, db.agents user = some avail ∧
          avail.isAssignable hub.site req.clock.service = true) ∧
          commitAssignment req id user reason db = db' := by
  rw [assignTo, ← Option.any_eq_true, ← Option.any_eq_true]
  cases (db.emails id).any HubEmail.held with
  | false => simp
  | true =>
    cases requireOnline with
    | false => simp
    | true =>
      cases (db.agents user).any
        (AgentAvailability.isAssignable hub.site req.clock.service) with
      | false => simp
      | true => simp

@[simp]
theorem commitAssignment_emails (reason : AssignmentReason) :
    (commitAssignment req id user reason db).emails =
      (db.updateEmail id (.assign req.clock user)).emails := rfl

/-- `reassign_hub_email` moves an email that is not finished to an active member. -/
theorem reassignHubEmail_cases {newUser : ℕ} {note : String}
    (success : reassignHubEmail hub req id newUser note db = .ok db') :
    ∃ he row, db.emails id = some he ∧ he.state.terminal = false ∧
      db' = (((db.updateEmail id (.reassign req newUser)).createAssignment row).moveLoad
        req.clock.service he.assignee newUser) := by
  unfold reassignHubEmail at success
  split at success
  · cases success
  cases hemail : db.emails id with
  | none => simp [hemail] at success
  | some he =>
    simp only [hemail] at success
    split at success
    · cases success
    rename_i hopen
    exact ⟨he, _, rfl, Bool.eq_false_iff.mpr hopen, (Except.ok.inj success).symm⟩

/-! ## The state machine -/

/-- `transition_hub_email` goes by the state of the instance. -/
theorem transitionHubEmail_cases {newState : State}
    (success : transitionHubEmail req newState s = .ok s') :
    canTransition s.hubEmail.state newState = true ∧
      ∃ responds, s' = s.save (.transition req.clock newState responds) := by
  obtain ⟨_, hallowed, hs⟩ := map_eq_ok.mp success
  exact ⟨assertTransition_eq_ok.mp hallowed, _, hs.symm⟩

/-- `dismiss_hub_email` goes by the state of the row, and does nothing the second time. -/
theorem dismissHubEmail_cases {reason : String} (success : dismissHubEmail req reason s = .ok s') :
    ∃ he, s.db.emails s.id = some he ∧ s'.id = s.id ∧
      (he.state = .dismissed ∧ s'.db = s.db ∨
        canTransition he.state .dismissed = true ∧
          s'.db = s.db.updateEmail s.id (.dismiss req reason)) := by
  unfold dismissHubEmail at success
  cases hemail : s.db.emails s.id with
  | none => simp [hemail] at success
  | some he =>
    simp only [hemail] at success
    split at success
    · rename_i hdone
      rw [Except.ok.injEq] at success
      subst success
      exact ⟨he, rfl, rfl, .inl ⟨hdone, rfl⟩⟩
    · obtain ⟨_, hallowed, rfl⟩ := map_eq_ok.mp success
      exact ⟨he, rfl, rfl, .inr ⟨assertTransition_eq_ok.mp hallowed, rfl⟩⟩

/-! ## Conversion -/

theorem assertConvertible_eq_ok {state : State} {result : Unit} :
    assertConvertible state = .ok result ↔
      state = .convertedToTicket ∨ canTransition state .convertedToTicket = true := by
  unfold assertConvertible
  split
  · rename_i hconverted
    exact ⟨fun _ => .inl hconverted, fun _ => rfl⟩
  · rename_i hother
    rw [assertTransition_eq_ok, or_iff_right hother]

theorem emailTicketAgent_isSome (hsome : (emailTicketAgent hub overrides db).isSome = true) :
    overrides.assignee = none ∧ ∃ settings, hub.workspace.settings = some settings ∧
      settings.autoAssignInboundEmailTickets = true := by
  unfold emailTicketAgent at hsome
  split at hsome
  · rename_i hwanted
    rw [Bool.and_eq_true, Option.isNone_iff_eq_none, Option.any_eq_true_iff_get] at hwanted
    obtain ⟨hnone, hsettings, hon⟩ := hwanted
    exact ⟨hnone, _, (Option.some_get hsettings).symm, hon⟩
  · cases hsome

/-- What a conversion does before it writes its email. -/
structure CreatesTicket (hub : Hub) (req : Request) (overrides : NewTicket) (db db' : HubDb) :
    Prop where
  adds : Adds hub.workspace overrides (emailTicketAgent hub overrides db) db.tickets db'.tickets
  emails : db'.emails = db.emails
  emailIds : db'.emailIds = db.emailIds
  agents : db'.agents =
    (db.chargeAgent req.clock.service (emailTicketAgent hub overrides db)).agents

theorem createHubTicket_cases
    (success : createHubTicket hub req creator overrides db = .ok (ticket, db')) :
    ticket = overrides.id ∧ CreatesTicket hub req overrides db db' := by
  obtain ⟨created, hcreated, hresult⟩ := map_eq_ok.mp success
  obtain ⟨rfl, rfl⟩ := Prod.mk.inj hresult
  obtain ⟨hid, adds⟩ := createTicketFromEmail_adds
    (fun hsome => (emailTicketAgent_isSome hsome).1)
    (fun hsome => (emailTicketAgent_isSome hsome).2) hcreated
  refine ⟨hid, (chargeAgent_tickets ..).symm ▸ adds, chargeAgent_emails .., chargeAgent_emailIds ..,
    ?_⟩
  cases emailTicketAgent hub overrides db <;> rfl

theorem createHubTicket_isOk :
    (createHubTicket hub req creator overrides db).isOk =
      canCreateFromEmail hub.workspace overrides db.tickets := by
  rw [createHubTicket, isOk_map, createTicketFromEmail_isOk]

/-- `convert_to_ticket` returns the ticket of a converted email, or goes by the state of the
row and creates one. -/
theorem convertToTicket_cases
    (success : convertToTicket hub req creator overrides s = .ok (ticket, s')) :
    ∃ he, s.db.emails s.id = some he ∧ s'.id = s.id ∧
      (he.existingTicket = some ticket ∧ s'.db = s.db ∨
        he.existingTicket = none ∧
          (he.state = .convertedToTicket ∨ canTransition he.state .convertedToTicket = true) ∧
            ∃ db, createHubTicket hub req creator overrides s.db = .ok (ticket, db) ∧
              s'.db = db.updateEmail s.id (.convert req.clock ticket)) := by
  unfold convertToTicket at success
  cases hemail : s.db.emails s.id with
  | none => simp [hemail] at success
  | some he =>
    simp only [hemail] at success
    cases hexisting : he.existingTicket with
    | some existing =>
      simp only [hexisting, Except.ok.injEq, Prod.mk.injEq] at success
      obtain ⟨rfl, rfl⟩ := success
      exact ⟨he, rfl, rfl, .inl ⟨hexisting, rfl⟩⟩
    | none =>
      simp only [hexisting] at success
      obtain ⟨_, hallowed, hcreated⟩ := bind_eq_ok.mp success
      obtain ⟨⟨created, db⟩, hcreate, hresult⟩ := map_eq_ok.mp hcreated
      rw [Prod.mk.injEq] at hresult
      obtain ⟨rfl, rfl⟩ := hresult
      exact ⟨he, rfl, rfl, .inr ⟨hexisting, assertConvertible_eq_ok.mp hallowed, db, hcreate,
        rfl⟩⟩

theorem convertToTicket_isOk (hemail : s.db.emails s.id = some he)
    (hnone : he.existingTicket = none)
    (hallowed : he.state = .convertedToTicket ∨ canTransition he.state .convertedToTicket = true)
    (hcan : canCreateFromEmail hub.workspace overrides s.db.tickets = true) :
    ∃ result, convertToTicket hub req creator overrides s = .ok result := by
  have hok : (createHubTicket hub req creator overrides s.db).isOk = true :=
    createHubTicket_isOk.trans hcan
  cases hcreated : createHubTicket hub req creator overrides s.db with
  | error message =>
    rw [hcreated] at hok
    cases hok
  | ok created =>
    have hassert : assertConvertible he.state = .ok () := assertConvertible_eq_ok.mpr hallowed
    simp [convertToTicket, hemail, hnone, hassert, hcreated, Except.bind, Except.map]

end Laws

/-!
## Sequences of hub operations

The operations of the hub and of the workload counters one after another, each on what is
stored when it begins.
-/

/-- The operations; a request that fails changes nothing. -/
inductive HubOp where
  | park (id : ℕ) (decision : RoutingDecision)
  | tryAssign (id : ℕ)
  | assignTo (id user : ℕ) (reason : AssignmentReason) (requireOnline : Bool)
  | drain (user : ℕ)
  | reassign (id newUser : ℕ) (note : String)
  | transition (id : ℕ) (newState : State)
  | escalate (id : ℕ)
  | sweep (id : ℕ)
  | dismiss (id : ℕ) (reason : String)
  | convert (id creator : ℕ) (overrides : NewTicket)
  | autoAssignTicket (ticket : ℕ)
  | updateTicketCount (user : ℕ)
  deriving DecidableEq

/-- An operation with the request that it is part of. -/
structure HubEvent where
  op : HubOp
  req : Request

def HubDb.onEmail (db : HubDb) (id : ℕ) (work : HubSession → Except String HubSession) : HubDb :=
  match db.emails id with
  | none => db
  | some hubEmail =>
    match work { db, id, hubEmail } with
    | .error _ => db
    | .ok s => s.db

def parkAndAssign (hub : Hub) (req : Request) (id : ℕ) (decision : RoutingDecision) (db : HubDb) :
    HubDb :=
  if (db.emails id).isSome then db
  else
    HubDb.onEmail (parkEmailInHub req id db) id fun s =>
      .ok { s with db := postParkHooks hub req decision s }

def applyHubOp (hub : Hub) (req : Request) (db : HubDb) : HubOp → HubDb
  | .park id decision => parkAndAssign hub req id decision db
  | .tryAssign id =>
    db.onEmail id fun s => .ok { s with db := tryAssign hub req id s.hubEmail s.db }
  | .assignTo id user reason requireOnline =>
    (assignTo hub req id user reason requireOnline db).getD db
  | .drain user => drainDepartmentBacklog hub req user db
  | .reassign id newUser note => (reassignHubEmail hub req id newUser note db).toOption.getD db
  | .transition id newState => db.onEmail id (transitionHubEmail req newState)
  | .escalate id => db.onEmail id fun s => .ok (escalateHubEmail req s)
  | .sweep id =>
    db.onEmail id fun s =>
      .ok (if s.hubEmail.sweeps then checkHubSlaBreaches hub req req.clock.service s else s)
  | .dismiss id reason => db.onEmail id (dismissHubEmail req reason)
  | .convert id creator overrides =>
    db.onEmail id fun s => (convertToTicket hub req creator overrides s).map Prod.snd
  | .autoAssignTicket ticket => Agents.autoAssignTicket hub req ticket db
  | .updateTicketCount user => updateTicketCount user db

def hubStep (hub : Hub) (db : HubDb) (event : HubEvent) : HubDb :=
  applyHubOp hub event.req db event.op

/-! ### Assignments by the engine -/

/-- One store leads to another by assignments of held emails. -/
inductive Assigns (hub : Hub) (req : Request) : HubDb → HubDb → Prop
  | refl (db : HubDb) : Assigns hub req db db
  | step {db between db' : HubDb} (assigns : Assigns hub req db between) {id user : ℕ}
      {reason : AssignmentReason} {requireOnline : Bool}
      (hassigned : assignTo hub req id user reason requireOnline between = some db') :
      Assigns hub req db db'

section Engine

variable {hub : Hub} {req : Request} {db between db' : HubDb}

theorem Assigns.getD (assigns : Assigns hub req db between) (id user : ℕ)
    (reason : AssignmentReason) (requireOnline : Bool) :
    Assigns hub req db ((assignTo hub req id user reason requireOnline between).getD between) := by
  cases hassigned : assignTo hub req id user reason requireOnline between with
  | none => exact assigns
  | some after => exact assigns.step hassigned

variable (hub req) in
theorem tryAssign_assigns (id : ℕ) (he : HubEmail) (db : HubDb) :
    Assigns hub req db (tryAssign hub req id he db) := by
  unfold tryAssign
  cases selectAgent hub req he db with
  | none => exact .refl db
  | some user => exact (Assigns.refl db).getD id user .auto true

variable (hub req) in
theorem drain_assigns (user : ℕ) (db : HubDb) :
    Assigns hub { req with actor := none } db (drainDepartmentBacklog hub req user db) := by
  unfold drainDepartmentBacklog
  cases db.agents user with
  | none => exact .refl db
  | some avail =>
    dsimp only
    split
    · exact .refl db
    · exact List.foldlRecOn _ _ (Assigns.refl db) fun between assigns id _ =>
        assigns.getD id user .auto true

end Engine

end Kanzan.Inbox

import Kanzan.Agents.Services
import Kanzan.Tickets.Desk

/-!
# Assignees are members

Everything that gives a ticket to a user is run here between changes of the memberships,
the queues, the escalation rules and the availability of the agents.  Some writers look
the user up among the active members; others take him as they find him.
-/

namespace Kanzan.Tickets

open Sla Support Agents Inbox

/-- What an operation that assigns is called with. -/
inductive Errand where
  | createTicket (creator : ℕ) (queue : Option ℕ) (data : NewTicket)
  | createTicketFromEmail (systemUser : ℕ) (overrides : NewTicket)
  | splitTicket (source actor : ℕ) (data : SplitRequest)
  | assignTicket (ticket : ℕ) (reuse : Bool) (assignee : ℕ) (note : String)
  | unassign (ticket : ℕ)
  | escalateTicket (ticket : ℕ) (reason : String) (assignee : Option ℕ) (queue : Option Queue)
  | performUpdate (ticket : ℕ) (patch : Audited.SimplePatch)
  | executeRule (ticket rule : ℕ) (now : Instant)
  | autoAssignTicket (ticket : ℕ)
  | autoAssignEmailTicket (ticket : ℕ)

/-- An operation, or an edit of one of the tables. -/
inductive OfficeEvent where
  | perform (errand : Errand) (req : Request) (brokerUp : Bool)
  | setMemberships (memberships : List TenantMembership)
  | setQueue (pk : ℕ) (queue : Option Queue)
  | setRules (rules : List EscalationRule) (unique : (rules.map EscalationRule.pk).Nodup)
  | setAgents (agents : ℕ → Option AgentAvailability) (agentIds : List ℕ)

/-- The desk with the tables that the operations take their assignees from. -/
structure Office where
  desk : Desk := {}
  hub : Hub
  queues : ℕ → Option Queue := fun _ => none
  agents : ℕ → Option AgentAvailability := fun _ => none
  agentIds : List ℕ := []

namespace Office

variable (office : Office)

def ws : Workspace := office.hub.workspace

def hubDb : HubDb where
  tickets := office.desk.db
  agents := office.agents
  agentIds := office.agentIds

def queueOf (ticket : ℕ) : Option Queue :=
  (office.desk.db.tickets ticket).bind fun row =>
    row.queue.bind fun queue => office.queues queue.pk

/-- The call that an errand comes down to.  A new ticket without an assignee does not
count for anybody, so that the agent for an email can be picked before it is stored. -/
def service : Errand → Option Service
  | .createTicket creator queue data =>
    some (.createTicket creator { data with queue := queue.bind office.queues })
  | .createTicketFromEmail systemUser overrides =>
    some (.createTicketFromEmail systemUser overrides (pickEmailAgent office.hub office.hubDb))
  | .splitTicket source actor data => some (.splitTicket source actor data)
  | .assignTicket ticket reuse assignee note =>
    some (.onTicket ticket reuse (.assignTicket assignee note))
  | .unassign ticket => some (.onTicket ticket true .unassign)
  | .escalateTicket ticket reason assignee queue =>
    some (.onTicket ticket false (.escalateTicket reason assignee queue))
  | .performUpdate ticket patch => some (.onTicket ticket false (.performUpdate patch))
  | .executeRule ticket rule now =>
    (office.ws.escalationRules.find? fun row => row.pk == rule).map fun row =>
      .onTicket ticket false (.executeRule now row)
  | .autoAssignTicket ticket =>
    some (.onTicket ticket false
      (.autoAssignTicket (getAvailableAgent (office.queueOf ticket) office.hubDb)))
  | .autoAssignEmailTicket ticket =>
    some (.onTicket ticket false
      (.autoAssignEmailTicket (pickEmailAgent office.hub office.hubDb)))

def charged : Service → Option ℕ
  | .onTicket _ _ (.autoAssignTicket agent) => agent
  | .onTicket id _ (.autoAssignEmailTicket agent) =>
    if office.desk.db.assigneeOf id = none then agent else none
  | .createTicketFromEmail _ overrides agent =>
    if overrides.assignee = none then Audited.inboundAgent office.ws agent else none
  | _ => none

def serve (service : Service) (req : Request) (brokerUp : Bool) : Office :=
  match service.attempt office.ws req office.desk with
  | .error _ => { office with desk := office.desk.drop }
  | .ok t =>
    { office with
      desk := Desk.commit brokerUp t
      agents := fun user =>
        if office.charged service = some user then
          (office.agents user).map (.takeOn req.clock.service)
        else office.agents user }

def step : OfficeEvent → Office
  | .perform errand req brokerUp =>
    match office.service errand with
    | none => office
    | some service => office.serve service req brokerUp
  | .setMemberships memberships =>
    { office with hub := { office.hub with workspace := { office.ws with memberships } } }
  | .setQueue pk queue => { office with queues := Function.update office.queues pk queue }
  | .setRules rules unique =>
    { office with
      hub := { office.hub with
        workspace := { office.ws with
          escalationRules := rules
          escalationRules_pk := unique } } }
  | .setAgents agents agentIds => { office with agents, agentIds }

def Sets (before after : Office) (ticket user : ℕ) : Prop :=
  after.desk.db.assigneeOf ticket = some user ∧
    (before.desk.db.assigneeOf ticket ≠ some user ∨
      ∃ signal ∈ after.desk.signals.drop before.desk.signals.length,
        signal.ticket = ticket ∧ signal.assignee = user)

def AssignsMembers (event : OfficeEvent) : Prop :=
  ∀ ticket user, office.Sets (office.step event) ticket user →
    office.ws.isActiveMember user = true

/-- The instance in memory is up to date. -/
def Synced : Prop := office.desk.Synced

/-! ## The condition -/

/-- Whether `TicketCreateSerializer.create` gets as far as the insert, and it succeeds. -/
def creatable (data : NewTicket) : Bool :=
  (data.status.or (office.ws.firstStatus fun status => status.isDefault)).isSome &&
    (office.desk.db.tickets data.id).isNone

/-- Whether `split_ticket` gets as far as the insert, and it succeeds. -/
def splittable (data : SplitRequest) : Bool :=
  !data.comments.isEmpty && data.comments.all (fun belongs => belongs) &&
    (defaultStatus office.ws).isSome && (office.desk.db.tickets data.child).isNone

/-- Those that an errand takes as they are, because it does not check them, are members. -/
def Vouched : OfficeEvent → Prop
  | .perform (.createTicket creator queue data) _ _ =>
    data.assignee = none → office.creatable data = true →
      office.ws.isActiveMember
        (creationAssignee { data with queue := queue.bind office.queues } creator) = true
  | .perform (.splitTicket source _ data) _ _ =>
    office.splittable data = true → ∀ user ∈ office.desk.db.assigneeOf source,
      office.ws.isActiveMember user = true
  | .perform (.executeRule ticket rule _) _ _ =>
    (office.desk.db.tickets ticket).isSome = true →
      ∀ row ∈ office.ws.escalationRules.find? fun row => row.pk == rule,
        row.action = .assign → ∀ user ∈ row.targetUser, office.ws.isActiveMember user = true
  | .perform (.autoAssignTicket ticket) _ _ =>
    (office.desk.db.tickets ticket).isSome = true →
      ∀ user ∈ getAvailableAgent (office.queueOf ticket) office.hubDb,
        office.ws.isActiveMember user = true
  | _ => True

instance (event : OfficeEvent) : Decidable (office.Vouched event) := by
  unfold Vouched
  split <;> infer_instance

end Office

variable {service : Service} {user creator source : ℕ} {data : NewTicket}

section Laws

open Audited Office

variable {office : Office} {desk : Desk} {req : Request} {ws : Workspace} {t' : Audited}

/-! ## What a call sets -/

theorem serve_of_ok (brokerUp : Bool) (success : service.attempt office.ws req office.desk = .ok t')
    :
    (office.serve service req brokerUp).desk = Desk.commit brokerUp t' := by
  rw [Office.serve, success]

theorem serve_of_error {message : String} (brokerUp : Bool)
    (failure : service.attempt office.ws req office.desk = .error message) :
    office.serve service req brokerUp = { office with desk := office.desk.drop } := by
  rw [Office.serve, failure]

theorem not_sets_of_same {after : Office} (hdb : after.desk.db = office.desk.db)
    (hsignals : after.desk.signals = office.desk.signals) (ticket user : ℕ) :
    ¬ office.Sets after ticket user := by
  rintro ⟨hafter, hbefore | ⟨signal, hsent, -⟩⟩
  · exact hbefore (hdb ▸ hafter)
  · rw [hsignals, List.drop_length] at hsent
    cases hsent

theorem sets_iff (synced : office.desk.Synced) (brokerUp : Bool)
    (success : service.attempt office.ws req office.desk = .ok t') (user : ℕ) :
    (∃ ticket, office.Sets (office.serve service req brokerUp) ticket user) ↔
      service.assigns office.ws office.desk = some user := by
  obtain ⟨ticket, skip, new, rows, did, assigned, -⟩ := Service.did synced success
  have hdesk := serve_of_ok brokerUp success
  have hstored : ∀ other, (office.serve service req brokerUp).desk.db.assigneeOf other =
      t'.session.db.assigneeOf other := by
    intro other
    rw [hdesk]
    exact commit_assigneeOf brokerUp t'.session.db other
  have hsent : (office.serve service req brokerUp).desk.signals.drop office.desk.signals.length =
      (service.assigns office.ws office.desk).toList.map fun user =>
        ⟨service.ticket, user, service.assignedBy⟩ := by
    rw [hdesk]
    show t'.signals.drop office.desk.signals.length = _
    rw [did.signals]
    exact List.drop_left
  have hnew : t'.session.db.assigneeOf service.ticket = new.assignee := by
    have hhere := did.at_end.assigneeOf
    rwa [did.id] at hhere
  constructor
  · rintro ⟨other, hafter, hbefore | ⟨signal, hsignal, -, rfl⟩⟩
    · rw [hstored] at hafter
      by_cases hother : other = service.ticket
      · subst hother
        rw [hnew] at hafter
        exact (assigned.of_new user hafter).resolve_left hbefore
      · rw [Db.assigneeOf, did.others other hother] at hafter
        exact absurd hafter hbefore
    · rw [hsent] at hsignal
      obtain ⟨assignee, hassignee, rfl⟩ := List.mem_map.mp hsignal
      exact Option.mem_toList.mp hassignee
  · intro hassigns
    refine ⟨service.ticket, ?_, .inr ⟨⟨service.ticket, user, service.assignedBy⟩, ?_, rfl, rfl⟩⟩
    · rw [hstored, hnew]
      exact assigned.to_new user hassigns
    · rw [hsent, hassigns]
      exact List.mem_singleton_self _

/-- The users that a call assigns, if it goes through, are active members. -/
def Service.AssignsMembers (ws : Workspace) (req : Request) (desk : Desk) (service : Service) :
    Prop :=
  ∀ t', service.attempt ws req desk = .ok t' → ∀ user ∈ service.assigns ws desk,
    ws.isActiveMember user = true

theorem assignsMembers_serve (synced : office.desk.Synced) (brokerUp : Bool) :
    (∀ ticket user, office.Sets (office.serve service req brokerUp) ticket user →
        office.ws.isActiveMember user = true) ↔
      service.AssignsMembers office.ws req office.desk := by
  cases hattempt : service.attempt office.ws req office.desk with
  | error message =>
    refine iff_of_true (fun ticket user hsets => ?_) fun t' success => ?_
    · rw [serve_of_error brokerUp hattempt] at hsets
      exact absurd hsets (not_sets_of_same rfl rfl ticket user)
    · rw [hattempt] at success
      cases success
  | ok t' =>
    constructor
    · intro members t success user huser
      obtain ⟨ticket, hsets⟩ := (sets_iff synced brokerUp hattempt user).mpr huser
      exact members ticket user hsets
    · intro members ticket user hsets
      exact members t' hattempt user ((sets_iff synced brokerUp hattempt user).mp ⟨ticket, hsets⟩)

/-! ## Who is assigned -/

theorem load_fresh (desk : Desk) (id : ℕ) :
    desk.load id false = (desk.db.tickets id).map fun ticket => desk.audit id ticket := by
  unfold Desk.load
  cases desk.loaded with
  | none => rfl
  | some loaded => simp [Option.filter]

theorem pickEmailAgent_isActive {hub : Hub} {db : HubDb}
    (hagent : pickEmailAgent hub db = some user) : hub.workspace.isActiveMember user = true := by
  obtain ⟨membership, hmembership, rfl⟩ := List.mem_map.mp (firstLeast_mem hagent)
  obtain ⟨hmem, heligible⟩ := List.mem_filter.mp hmembership
  simp only [Bool.and_eq_true] at heligible
  exact List.any_eq_true.mpr ⟨membership, hmem, by simp [heligible.1.1]⟩

theorem rule_role_isActive {rule : EscalationRule} (huser : rule.assignee ws = some user) :
    rule.targetUser = some user ∨ ws.isActiveMember user = true := by
  obtain htarget | ⟨-, hrole⟩ := Option.or_eq_some_iff.mp huser
  · exact .inl htarget
  · obtain ⟨role, -, hfound⟩ := Option.bind_eq_some_iff.mp hrole
    obtain ⟨membership, hmembership, rfl⟩ := Option.map_eq_some_iff.mp hfound
    have hactive := List.find?_some hmembership
    rw [Bool.and_eq_true] at hactive
    exact .inr (List.any_eq_true.mpr
      ⟨membership, List.mem_of_find?_eq_some hmembership, by simp [hactive.2]⟩)

theorem inboundAgent_isActive {hub : Hub} {db : HubDb}
    (hagent : inboundAgent ws (pickEmailAgent hub db) = some user) :
    hub.workspace.isActiveMember user = true := by
  unfold inboundAgent at hagent
  split at hagent
  · cases hagent
  · split at hagent
    · exact pickEmailAgent_isActive hagent
    · cases hagent

theorem createTicketFromEmail_members (office : Office) (systemUser : ℕ) (overrides : NewTicket) :
    (Service.createTicketFromEmail systemUser overrides
      (pickEmailAgent office.hub office.hubDb)).AssignsMembers office.ws req office.desk := by
  intro t' success user huser
  obtain hoverride | ⟨-, hagent⟩ := Option.or_eq_some_iff.mp huser
  · exact (createTicketFromEmail_did success).1 user hoverride
  · exact inboundAgent_isActive hagent

variable (req) in
theorem createTicket_isOk (hassignee : data.assignee = none)
    (hcreatable : office.creatable data = true) :
    ∃ t', (Service.createTicket creator data).attempt office.ws req office.desk = .ok t' := by
  unfold creatable at hcreatable
  rw [Bool.and_eq_true, Option.isNone_iff_eq_none] at hcreatable
  obtain ⟨status, hstatus⟩ := Option.isSome_iff_exists.mp hcreatable.1
  rw [Service.attempt, Audited.createTicket, hassignee, hstatus]
  simp [Audited.create, Db.create, hcreatable.2, Except.map]

theorem creatable_of_isOk
    (success : (Service.createTicket creator data).attempt office.ws req office.desk = .ok t') :
    office.creatable data = true := by
  have hfresh := (createTicket_did success).2.1
  rw [creatable, show office.desk.db.tickets data.id = none from hfresh]
  dsimp only [Service.attempt, Audited.createTicket] at success
  split at success
  · cases success
  split at success
  · cases success
  · rename_i hstatus
    simp [hstatus]

theorem createTicket_members_iff (creator : ℕ) (data : NewTicket) :
    (Service.createTicket creator data).AssignsMembers office.ws req office.desk ↔
      (data.assignee = none → office.creatable data = true →
        office.ws.isActiveMember (creationAssignee data creator) = true) := by
  constructor
  · intro members hassignee hcreatable
    obtain ⟨t', success⟩ := createTicket_isOk req hassignee hcreatable
    exact members t' success _ rfl
  · intro vouched t' success user huser
    obtain rfl := Option.some.inj huser
    cases hassignee : data.assignee with
    | none => exact vouched hassignee (creatable_of_isOk success)
    | some assignee =>
      rw [creationAssignee, hassignee]
      exact (createTicket_did success).1 assignee hassignee

variable (req) in
theorem splitTicket_isOk (actor : ℕ) {data : SplitRequest}
    (hsource : (office.desk.db.tickets source).isSome = true)
    (hsplittable : office.splittable data = true) :
    ∃ t', (Service.splitTicket source actor data).attempt office.ws req office.desk = .ok t' := by
  unfold splittable at hsplittable
  simp only [Bool.and_eq_true, Bool.not_eq_true', Option.isNone_iff_eq_none,
    List.isEmpty_eq_false_iff] at hsplittable
  obtain ⟨⟨⟨hcomments, hbelong⟩, hstatus⟩, hfresh⟩ := hsplittable
  obtain ⟨status, hstatus⟩ := Option.isSome_iff_exists.mp hstatus
  obtain ⟨ticket, hticket⟩ := Option.isSome_iff_exists.mp hsource
  rw [Service.attempt, load_fresh, hticket]
  simp [Audited.splitTicket, hcomments, hbelong, hstatus, Audited.create, Db.create, hfresh,
    Except.map, Audited.ledger, Ledger.audit]

theorem splittable_of_isOk {actor : ℕ} {data : SplitRequest}
    (success : (Service.splitTicket source actor data).attempt office.ws req office.desk = .ok t') :
    office.splittable data = true := by
  dsimp only [Service.attempt] at success
  split at success
  · cases success
  rename_i t hload
  rw [load_fresh] at hload
  obtain ⟨ticket, hticket, rfl⟩ := Option.map_eq_some_iff.mp hload
  have hfresh := (splitTicket_did success).1
  rw [splittable, show office.desk.db.tickets data.child = none from hfresh]
  unfold Audited.splitTicket at success
  split at success
  · cases success
  rename_i hcomments
  split at success
  · cases success
  rename_i hbelong
  split at success
  · cases success
  · rename_i hstatus
    rw [Bool.not_eq_true', Bool.not_eq_false] at hbelong
    simp [hcomments, hbelong, hstatus]

theorem splitTicket_members_iff (source actor : ℕ) (data : SplitRequest) :
    (Service.splitTicket source actor data).AssignsMembers office.ws req office.desk ↔
      (office.splittable data = true → ∀ user ∈ office.desk.db.assigneeOf source,
        office.ws.isActiveMember user = true) := by
  have hassigns : (Service.splitTicket source actor data).assigns office.ws office.desk =
      office.desk.db.assigneeOf source := by
    rw [Service.assigns, load_fresh, Db.assigneeOf]
    cases office.desk.db.tickets source <;> rfl
  unfold Service.AssignsMembers
  rw [hassigns]
  constructor
  · intro members hsplittable user huser
    have hsource : (office.desk.db.tickets source).isSome = true := by
      obtain ⟨row, hrow, -⟩ := Option.bind_eq_some_iff.mp huser
      exact Option.isSome_of_eq_some hrow
    obtain ⟨t', success⟩ := splitTicket_isOk req actor hsource hsplittable
    exact members t' success user huser
  · intro vouched t' success
    exact vouched (splittable_of_isOk success)

theorem onTicket_members {id : ℕ} {reuse : Bool} {work : Work}
    (hwork : ∀ t user, office.desk.load id reuse = some t →
      work.assigns office.ws t.session.ticket.fields = some user →
        office.ws.isActiveMember user = true) :
    (Service.onTicket id reuse work).AssignsMembers office.ws req office.desk := by
  intro t' _ user huser
  obtain ⟨t, hload, hassigns⟩ := Option.bind_eq_some_iff.mp huser
  exact hwork t user hload hassigns

theorem executeRule_members_iff (ticket : ℕ) (now : Instant) (rule : EscalationRule) :
    (Service.onTicket ticket false (.executeRule now rule)).AssignsMembers office.ws req
        office.desk ↔
      ((office.desk.db.tickets ticket).isSome = true → rule.action = .assign →
        ∀ user ∈ rule.targetUser, office.ws.isActiveMember user = true) := by
  constructor
  · intro members hstored haction user htarget
    obtain ⟨row, hrow⟩ := Option.isSome_iff_exists.mp hstored
    have hload : office.desk.load ticket false = some (office.desk.audit ticket row) := by
      rw [load_fresh, hrow]
      rfl
    refine members ((office.desk.audit ticket row).executeRule office.ws req.clock now rule) ?_
      user ?_
    · rw [Service.attempt, hload]
      rfl
    · rw [Service.assigns, hload]
      show Audited.ruleAssignee office.ws rule = some user
      rw [Audited.ruleAssignee, haction]
      exact Option.or_eq_some_iff.mpr (.inl htarget)
  · intro vouched
    refine onTicket_members fun t user hload hassigns => ?_
    have hassigns : Audited.ruleAssignee office.ws rule = some user := hassigns
    rw [load_fresh] at hload
    have hstored : (office.desk.db.tickets ticket).isSome = true := by
      obtain ⟨row, hrow, -⟩ := Option.map_eq_some_iff.mp hload
      exact Option.isSome_of_eq_some hrow
    cases haction : rule.action with
    | assign =>
      rw [Audited.ruleAssignee, haction] at hassigns
      obtain htarget | hactive := rule_role_isActive hassigns
      · exact vouched hstored haction user htarget
      · exact hactive
    | notify =>
      rw [Audited.ruleAssignee, haction] at hassigns
      cases hassigns
    | changePriority =>
      rw [Audited.ruleAssignee, haction] at hassigns
      cases hassigns

theorem autoAssignTicket_members_iff (ticket : ℕ) (agent : Option ℕ) :
    (Service.onTicket ticket false (.autoAssignTicket agent)).AssignsMembers office.ws req
        office.desk ↔
      ((office.desk.db.tickets ticket).isSome = true →
        ∀ user ∈ agent, office.ws.isActiveMember user = true) := by
  constructor
  · intro members hstored user huser
    obtain ⟨row, hrow⟩ := Option.isSome_iff_exists.mp hstored
    have hload : office.desk.load ticket false = some (office.desk.audit ticket row) := by
      rw [load_fresh, hrow]
      rfl
    refine members ((office.desk.audit ticket row).autoAssignTicket office.ws req agent) ?_ user ?_
    · rw [Service.attempt, hload]
      rfl
    · rw [Service.assigns, hload]
      exact huser
  · intro vouched
    refine onTicket_members fun t user hload hassigns => ?_
    rw [load_fresh] at hload
    obtain ⟨row, hrow, -⟩ := Option.map_eq_some_iff.mp hload
    exact vouched (Option.isSome_of_eq_some hrow) user hassigns

theorem errand_members_iff {errand : Errand} (brokerUp : Bool)
    (hservice : office.service errand = some service) :
    service.AssignsMembers office.ws req office.desk ↔
      office.Vouched (.perform errand req brokerUp) := by
  cases errand with
  | createTicket creator queue data =>
    obtain rfl := Option.some.inj hservice
    exact createTicket_members_iff creator { data with queue := queue.bind office.queues }
  | createTicketFromEmail systemUser overrides =>
    obtain rfl := Option.some.inj hservice
    exact iff_of_true (createTicketFromEmail_members office systemUser overrides) trivial
  | splitTicket source actor data =>
    obtain rfl := Option.some.inj hservice
    exact splitTicket_members_iff source actor data
  | assignTicket ticket reuse assignee note =>
    obtain rfl := Option.some.inj hservice
    refine iff_of_true (onTicket_members fun t user _ hassigns => ?_) trivial
    dsimp only [Work.assigns] at hassigns
    split at hassigns
    · rwa [← Option.some.inj hassigns]
    · cases hassigns
  | unassign ticket =>
    obtain rfl := Option.some.inj hservice
    exact iff_of_true (onTicket_members fun t user _ hassigns => nomatch hassigns) trivial
  | escalateTicket ticket reason assignee queue =>
    obtain rfl := Option.some.inj hservice
    refine iff_of_true (onTicket_members fun t user _ hassigns => ?_) trivial
    exact (Option.filter_eq_some_iff.mp hassigns).2
  | performUpdate ticket patch =>
    obtain rfl := Option.some.inj hservice
    exact iff_of_true (onTicket_members fun t user _ hassigns => nomatch hassigns) trivial
  | executeRule ticket rule now =>
    obtain ⟨row, hrow, rfl⟩ := Option.map_eq_some_iff.mp hservice
    rw [executeRule_members_iff, Vouched, hrow]
    simp only [Option.mem_def, Option.some.injEq, forall_eq']
  | autoAssignTicket ticket =>
    obtain rfl := Option.some.inj hservice
    exact autoAssignTicket_members_iff ticket _
  | autoAssignEmailTicket ticket =>
    obtain rfl := Option.some.inj hservice
    refine iff_of_true (onTicket_members fun t user _ hassigns => ?_) trivial
    dsimp only [Work.assigns] at hassigns
    split at hassigns
    · exact pickEmailAgent_isActive hassigns
    · cases hassigns

/-! ## Runs -/

theorem assignsMembers_iff (synced : office.Synced) (event : OfficeEvent) :
    office.AssignsMembers event ↔ office.Vouched event := by
  cases event with
  | perform errand req brokerUp =>
    cases hservice : office.service errand with
    | some service =>
      rw [← errand_members_iff brokerUp hservice, ← assignsMembers_serve synced brokerUp,
        Office.AssignsMembers, Office.step, hservice]
    | none =>
      cases errand with
      | executeRule ticket rule now =>
        have hrule := Option.map_eq_none_iff.mp hservice
        refine iff_of_true (fun ticket user hsets => ?_) fun _ row hrow => ?_
        · rw [Office.step, hservice] at hsets
          exact absurd hsets (not_sets_of_same rfl rfl ticket user)
        · rw [hrule] at hrow
          cases hrow
      | _ => cases hservice
  | setMemberships memberships =>
    exact iff_of_true (fun ticket user hsets =>
      absurd hsets (not_sets_of_same rfl rfl ticket user)) trivial
  | setQueue pk queue =>
    exact iff_of_true (fun ticket user hsets =>
      absurd hsets (not_sets_of_same rfl rfl ticket user)) trivial
  | setRules rules unique =>
    exact iff_of_true (fun ticket user hsets =>
      absurd hsets (not_sets_of_same rfl rfl ticket user)) trivial
  | setAgents agents agentIds =>
    exact iff_of_true (fun ticket user hsets =>
      absurd hsets (not_sets_of_same rfl rfl ticket user)) trivial

theorem step_synced (synced : office.Synced) (event : OfficeEvent) :
    (office.step event).Synced := by
  cases event with
  | perform errand req brokerUp =>
    rw [Office.Synced, Office.step]
    cases office.service errand with
    | none => exact synced
    | some service =>
      have served := Desk.Synced.serve office.ws synced ⟨service, req, brokerUp⟩
      dsimp only
      cases hattempt : service.attempt office.ws req office.desk with
      | error message =>
        rw [Desk.serve_of_error hattempt] at served
        rwa [serve_of_error brokerUp hattempt]
      | ok t' =>
        rw [Desk.serve_of_ok hattempt] at served
        rwa [serve_of_ok brokerUp hattempt]
  | setMemberships memberships => exact synced
  | setQueue pk queue => exact synced
  | setRules rules unique => exact synced
  | setAgents agents agentIds => exact synced

/-- Only members are assigned in exactly the runs in which the users that are taken
unchecked are members. -/
theorem assigns_members_throughout_iff {start : Office} (synced : start.Synced)
    (events : List OfficeEvent) :
    Every Office.step Office.AssignsMembers start events ↔
      Every Office.step Office.Vouched start events := by
  refine every_iff_every ?_ ?_ synced events
  · intro office event synced _
    exact step_synced synced event
  · intro office event synced
    exact assignsMembers_iff synced event

end Laws

/-- An office of two members, with one queue. -/
def Office.staffed : Office where
  hub := { workspace := .seeded }
  queues := fun pk =>
    if pk = 0 then some { pk := 0, autoAssign := true, defaultAssignee := some 2 } else none

theorem Office.synced_staffed : Office.staffed.Synced := by
  intro loaded hloaded
  cases hloaded

/-- The default assignee of a queue gets a ticket, and another member then takes over. -/
def assignedByQueue : List OfficeEvent :=
  [ .perform (.createTicket 1 (some 0) { id := 5 })
      { clock := ⟨10, 10, 10, 10⟩, actor := some 1 } true,
    .perform (.assignTicket 5 false 1 "") { clock := ⟨20, 20, 20, 20⟩, actor := some 1 } true,
    .setMemberships [{ user := 1, role := 30 }, { user := 2, role := 30, isActive := false }],
    .perform (.assignTicket 5 false 2 "") { clock := ⟨30, 30, 30, 30⟩, actor := some 1 } true,
    .perform (.splitTicket 5 1 { child := 6 }) { clock := ⟨40, 40, 40, 40⟩, actor := some 1 }
      true ]

theorem assigns_members_on_assignedByQueue :
    Every Office.step Office.AssignsMembers .staffed assignedByQueue := by
  apply (assigns_members_throughout_iff Office.synced_staffed assignedByQueue).mpr
  decide

/-- The default assignee of the queue has left before the ticket is created. -/
def assignedToFormer : List OfficeEvent :=
  [ .setMemberships [{ user := 1, role := 30 }, { user := 2, role := 30, isActive := false }],
    .perform (.createTicket 1 (some 0) { id := 5 })
      { clock := ⟨10, 10, 10, 10⟩, actor := some 1 } true ]

theorem assigns_former_on_assignedToFormer :
    ¬ Every Office.step Office.AssignsMembers .staffed assignedToFormer := by
  intro every
  exact absurd (every.2.1 5 2 ⟨by decide, .inl (by decide)⟩) (by decide)

end Kanzan.Tickets

import Kanzan.Tickets.Replies

/-!
# The policy of a ticket and its priority

The periodic scan judges a ticket by the policy of its priority, while the deadlines come
from the policy stored with it.  The two are the same after a creation and an escalation.
The other writers of a priority do not look at the policy, and neither does an edit that
gives a policy another priority.
-/

namespace Kanzan.Tickets

open Sla Support

/-! ## The terms of a ticket -/

/-- What a ticket is judged by, and whether it is still judged. -/
structure Terms where
  status : TicketStatus
  priority : Priority
  slaPolicy : Option ℕ
  deriving DecidableEq, Repr

def Ticket.terms (ticket : Ticket) : Terms where
  status := ticket.status
  priority := ticket.priority
  slaPolicy := ticket.slaPolicy

def Terms.linked (ws : Workspace) (terms : Terms) : Bool :=
  terms.status.isClosed || ws.policies.all fun policy =>
    terms.slaPolicy != some policy.pk || policy.priority == terms.priority

/-- The terms that `initialize_sla` leaves. -/
def Terms.initialized (ws : Workspace) (terms : Terms) : Terms :=
  match ws.policyFor terms.priority with
  | none => terms
  | some policy => { terms with slaPolicy := some policy.pk }

def macroPriority (action : MacroAction) : Option Priority :=
  match action.action, action.value with
  | some "set_priority", some text => if text = "" then none else some (.ofText text)
  | _, _ => none

def actionTerms (ws : Workspace) (terms : Terms) (action : MacroAction) : Terms where
  status := (macroStatus ws action).getD terms.status
  priority := (macroPriority action).getD terms.priority
  slaPolicy := terms.slaPolicy

def ruleTerms (rule : EscalationRule) (terms : Terms) : Terms :=
  match rule.action with
  | .assign | .notify => terms
  | .changePriority => { terms with priority := terms.priority.escalated.getD terms.priority }

/-! ## Events -/

/-- What writes the terms of a ticket, and saves of policies. -/
inductive TermsOp where
  | createTicket (creator : ℕ) (data : NewTicket)
  | createTicketFromEmail (systemUser : ℕ) (overrides : NewTicket) (agent : Option ℕ)
  | splitTicket (source actor : ℕ) (data : SplitRequest)
  | changeTicketPriority (ticket : ℕ) (newPriority : Priority)
  | changeTicketStatus (ticket : ℕ) (newStatus : TicketStatus)
  | applyMacro (ticket : ℕ) (actions : List MacroAction)
  | executeRule (ticket : ℕ) (now : Instant) (rule : EscalationRule)
  | escalateTicket (ticket : ℕ) (reason : String) (assignee : Option ℕ) (queue : Option Queue)
  | saveSlaPolicy (policy : SLAPolicy)

structure TermsEvent where
  op : TermsOp
  req : Request
  brokerUp : Bool := true

/-- The tables of a tenant that can be edited, and the store. -/
structure Tenancy where
  ws : Workspace
  db : Db := {}

/-- The table after `SLAPolicy.save`, of a new row or of a stored one. -/
def Workspace.savedPolicies (ws : Workspace) (policy : SLAPolicy) : List SLAPolicy :=
  if ws.policies.any fun row => row.pk == policy.pk then
    ws.policies.map fun row => if row.pk = policy.pk then policy else row
  else ws.policies ++ [policy]

/-- `SLAPolicy.save`, unless it breaks a unique constraint. -/
def Workspace.putPolicy (ws : Workspace) (policy : SLAPolicy) : Option Workspace :=
  if unique : ((ws.savedPolicies policy).map SLAPolicy.priority).Nodup ∧
      ((ws.savedPolicies policy).map SLAPolicy.pk).Nodup then
    some
      { ws with
        policies := ws.savedPolicies policy
        policies_priority := unique.1
        policies_pk := unique.2 }
  else none

namespace Tenancy

variable (tenancy : Tenancy)

def attempt (req : Request) : TermsOp → Except String Db
  | .createTicket creator data =>
    (Tickets.createTicket tenancy.ws req creator data tenancy.db).map Session.db
  | .createTicketFromEmail systemUser overrides agent =>
    (Tickets.createTicketFromEmail tenancy.ws req systemUser overrides agent tenancy.db).map
      Session.db
  | .splitTicket source actor data =>
    tenancy.db.onTicket source (Tickets.splitTicket tenancy.ws req actor data)
  | .changeTicketPriority ticket newPriority =>
    tenancy.db.onTicket ticket fun s =>
      .ok (Tickets.changeTicketPriority tenancy.ws req newPriority s)
  | .changeTicketStatus ticket newStatus =>
    tenancy.db.onTicket ticket fun s =>
      .ok (Tickets.changeTicketStatus tenancy.ws req newStatus s)
  | .applyMacro ticket actions =>
    tenancy.db.onTicket ticket (Tickets.applyMacro tenancy.ws req actions)
  | .executeRule ticket now rule =>
    tenancy.db.onTicket ticket fun s =>
      .ok (Tickets.executeRule tenancy.ws req.clock now rule s)
  | .escalateTicket ticket reason assignee queue =>
    tenancy.db.onTicket ticket (Tickets.escalateTicket tenancy.ws req reason assignee queue)
  | .saveSlaPolicy _ => .ok tenancy.db

/-- The commit of an operation that succeeds; one that fails is rolled back. -/
def finish (brokerUp : Bool) : Except String Db → Tenancy
  | .error _ => tenancy
  | .ok after => { tenancy with db := after.commit brokerUp }

/-- The receiver of the save of a policy, which passes over one that has just been created. -/
def propagate (ws : Workspace) (req : Request) (brokerUp : Bool) (policy : SLAPolicy) : Db :=
  if tenancy.ws.policies.any fun row => row.pk == policy.pk then
    (propagateSlaPolicyChange ws req policy tenancy.db).commit brokerUp
  else tenancy.db

def step (event : TermsEvent) : Tenancy :=
  match event.op with
  | .saveSlaPolicy policy =>
    match tenancy.ws.putPolicy policy with
    | none => tenancy
    | some ws => { ws, db := tenancy.propagate ws event.req event.brokerUp policy }
  | op => tenancy.finish event.brokerUp (tenancy.attempt event.req op)

/-- Every open ticket with a policy has the priority of that policy. -/
def Linked : Prop :=
  ∀ id row, tenancy.db.tickets id = some row → row.terms.linked tenancy.ws = true

/-- The event leaves the terms of its ticket as the policy of the ticket has them. -/
def Keeps (event : TermsEvent) : Prop :=
  match event.op with
  | .changeTicketPriority id newPriority =>
    ∀ row ∈ tenancy.db.tickets id,
      { row.terms with priority := newPriority }.linked tenancy.ws = true
  | .changeTicketStatus id newStatus =>
    ∀ row ∈ tenancy.db.tickets id,
      { row.terms with status := newStatus }.linked tenancy.ws = true
  | .applyMacro id actions =>
    ∀ row ∈ tenancy.db.tickets id, macroRuns tenancy.ws row actions = true →
      (actions.foldl (actionTerms tenancy.ws) row.terms).linked tenancy.ws = true
  | .executeRule id _ rule =>
    ∀ row ∈ tenancy.db.tickets id, (ruleTerms rule row.terms).linked tenancy.ws = true
  | .saveSlaPolicy policy =>
    (tenancy.ws.putPolicy policy).isSome = true → ∀ id row, tenancy.db.tickets id = some row →
      row.slaPolicy = some policy.pk → row.status.isClosed = false →
        policy.priority = row.priority
  | _ => True

end Tenancy

variable {id : ℕ} {terms : Terms} {db : Db} {row : Ticket} {policy : SLAPolicy}
variable {actions : List MacroAction} {ws' : Workspace}

section Laws

variable {ws : Workspace} {req : Request} {clock : Clock} {columns : List Column}
variable {s s' t : Session} {old new : Terms}

/-! ## Sessions -/

/-- The row and the instance have these terms. -/
structure Stands (terms : Terms) (s : Session) : Prop where
  row : (s.db.tickets s.id).map Ticket.terms = some terms
  inst : s.ticket.terms = terms

/-- Work on one ticket that leaves it with these terms. -/
structure Leads (s s' : Session) (terms : Terms) : Prop where
  id : s'.id = s.id
  others : ∀ other ≠ s.id, s'.db.tickets other = s.db.tickets other
  stands : Stands terms s'

theorem Stands.load {ticket : Ticket} (hticket : db.tickets id = some ticket) :
    Stands ticket.terms { db, id, ticket } :=
  ⟨by rw [hticket]; rfl, rfl⟩

namespace Leads

theorem refl (stands : Stands old s) : Leads s s old := ⟨rfl, fun _ _ => rfl, stands⟩

theorem trans (first : Leads s t old) (second : Leads t s' new) : Leads s s' new where
  id := second.id.trans first.id
  others other hother := by
    rw [second.others other (by rwa [first.id]), first.others other hother]
  stands := second.stands

theorem congr (leads : Leads s t old) (htickets : s'.db.tickets = t.db.tickets) (hid : s'.id = t.id)
    (hticket : s'.ticket = t.ticket) : Leads s s' old where
  id := hid.trans leads.id
  others other hother := by rw [htickets, leads.others other hother]
  stands := ⟨by rw [htickets, hid, leads.stands.row], by rw [hticket, leads.stands.inst]⟩

theorem log (leads : Leads s t old) (event : ActivityEvent) : Leads s (t.log event) old :=
  leads.congr rfl rfl rfl

theorem logSlaChange (leads : Leads s t old) (before : Ticket) :
    Leads s (logSlaChange before t) old := by
  unfold Tickets.logSlaChange
  split
  · exact leads
  · exact leads.log _

end Leads

/-! ## Saves -/

theorem handleTicketStatusChange_terms (now : Instant) (previous inst : Ticket) :
    (handleTicketStatusChange now previous inst).terms = inst.terms := by
  obtain ⟨resolvedAt, closedAt, breached, hinst⟩ :=
    handleTicketStatusChange_eq now previous inst
  rw [hinst]
  rfl

/-- Every term that differs has its column among the saved ones. -/
structure Terms.Listed (columns : List Column) (old new : Terms) : Prop where
  status : old.status = new.status ∨ .status ∈ columns
  priority : old.priority = new.priority ∨ .priority ∈ columns
  slaPolicy : old.slaPolicy = new.slaPolicy ∨ .slaPolicy ∈ columns

theorem Terms.Listed.refl (columns : List Column) (terms : Terms) :
    Terms.Listed columns terms terms :=
  ⟨.inl rfl, .inl rfl, .inl rfl⟩

theorem persist_terms {inst : Ticket} (listed : Terms.Listed columns row.terms inst.terms) :
    (inst.persist columns row).terms = inst.terms := by
  obtain ⟨hstatus, hpriority, hpolicy⟩ := listed
  simp only [Ticket.terms] at hstatus hpriority hpolicy
  simp only [Ticket.terms, Ticket.persist, Terms.mk.injEq]
  refine ⟨?_, ?_, ?_⟩
  · split
    · rfl
    · exact hstatus.resolve_right ‹_›
  · split
    · rfl
    · exact hpriority.resolve_right ‹_›
  · split
    · rfl
    · exact hpolicy.resolve_right ‹_›

variable (ws clock columns) in
/-- A save that lists what its edit changes stores the terms of the edited instance. -/
theorem Stands.save (stands : Stands old s) (edit : Ticket → Ticket)
    (listed : Terms.Listed columns old (edit s.ticket).terms) :
    Leads s (save ws clock columns (s.modify edit)) (edit s.ticket).terms := by
  obtain ⟨previous, hrow, rfl⟩ := Option.map_eq_some_iff.mp stands.row
  have huntouched := save_untouched ws clock columns (s.modify edit)
  have hstatus : .status ∈ columns ∨ previous.status = (edit s.ticket).status := listed.status.symm
  obtain ⟨row, hsaved, hcore⟩ := save_row ws clock (s := s.modify edit) hrow hstatus
  have hinst := save_instance ws clock (s := s.modify edit) hrow hstatus
  have hterms := handleTicketStatusChange_terms clock.preSave previous (edit s.ticket)
  refine ⟨huntouched.id, huntouched.others, ?_, ?_⟩
  · rw [huntouched.id, hsaved, Option.map_some, eq_of_core hcore Ticket.terms (fun _ => rfl)]
    have hpersisted : Terms.Listed columns previous.terms
        (handleTicketStatusChange clock.preSave previous (edit s.ticket)).terms := by rwa [hterms]
    exact congrArg some ((persist_terms hpersisted).trans hterms)
  · exact (eq_of_core hinst Ticket.terms (fun _ => rfl)).trans hterms

theorem Leads.save_quiet (leads : Leads s t old) (edit : Ticket → Ticket)
    (hedit : (edit t.ticket).terms = t.ticket.terms) :
    Leads s (save ws clock columns (t.modify edit)) old := by
  have hterms := hedit.trans leads.stands.inst
  have saved := leads.stands.save ws clock columns edit (by rw [hterms]; exact .refl columns old)
  rw [hterms] at saved
  exact leads.trans saved

theorem Leads.edits (leads : Leads s t old) (edits : Edits ws columns t s')
    (hstatus : .status ∉ columns)
    (hterms : ∀ inst row : Ticket, (inst.persist columns row).terms = row.terms) :
    Leads s s' old := by
  obtain ⟨row, hrow, hsame⟩ := Option.map_eq_some_iff.mp leads.stands.row
  have hstatus' := congrArg Terms.status (hsame.trans leads.stands.inst.symm)
  have hsettled : Settled t := ⟨row, hrow, hstatus'⟩
  obtain ⟨hinst, hstored⟩ := edits.keeps hstatus hsettled Ticket.terms hterms (fun _ _ => rfl)
    (fun _ _ _ => rfl)
  refine leads.trans ⟨edits.untouched.id, edits.untouched.others, ?_, ?_⟩
  · rw [edits.untouched.id, hstored, leads.stands.row]
  · rw [hinst, leads.stands.inst]

/-! ## Operations -/

theorem Leads.changeTicketStatus (leads : Leads s t old) (newStatus : TicketStatus) :
    Leads s (changeTicketStatus ws req newStatus t) { old with status := newStatus } := by
  obtain rfl : t.ticket.terms = old := leads.stands.inst
  unfold Tickets.changeTicketStatus
  dsimp only
  split
  · rename_i hsame
    rw [← hsame]
    exact leads
  · have hdraft : (statusDraft req newStatus t.ticket).ticket.terms =
        { t.ticket.terms with status := newStatus } := by
      obtain ⟨preWait, breached, hticket⟩ := statusDraft_ticket req newStatus t.ticket
      rw [hticket]
      rfl
    have saved := leads.stands.save ws req.clock (statusDraft req newStatus t.ticket).updateFields
      (fun _ => (statusDraft req newStatus t.ticket).ticket)
      ⟨.inr status_mem_statusDraft, by rw [hdraft]; exact .inl rfl, by rw [hdraft]; exact .inl rfl⟩
    rw [hdraft] at saved
    split
    · exact (leads.trans saved).congr rfl rfl rfl
    · exact (leads.trans saved).log _

theorem Leads.changeTicketPriority (leads : Leads s t old) (newPriority : Priority) :
    Leads s (changeTicketPriority ws req newPriority t) { old with priority := newPriority } := by
  obtain rfl : t.ticket.terms = old := leads.stands.inst
  unfold Tickets.changeTicketPriority
  split
  · rename_i hsame
    rw [← hsame]
    exact leads
  · exact (leads.trans (leads.stands.save ws req.clock [.priority, .updatedAt]
      (fun ticket => { ticket with priority := newPriority })
      ⟨.inl rfl, .inr (by decide), .inl rfl⟩)).log _

theorem Leads.applyMacroAction (leads : Leads s t old) {action : MacroAction}
    (success : applyMacroAction ws req action t = .ok s') :
    Leads s s' (actionTerms ws old action) := by
  obtain rfl : t.ticket.terms = old := leads.stands.inst
  unfold Tickets.applyMacroAction at success
  split at success
  · rename_i slug haction hvalue
    have hterms : actionTerms ws t.ticket.terms action =
        { t.ticket.terms with status := (ws.statusBySlug slug).getD t.ticket.status } := by
      simp [actionTerms, macroStatus, macroPriority, haction, hvalue, Ticket.terms]
    rw [hterms]
    cases hstatus : ws.statusBySlug slug with
    | none =>
      rw [hstatus] at success
      rw [← Except.ok.inj success]
      exact leads
    | some newStatus =>
      rw [hstatus] at success
      dsimp only at success
      split at success
      · rename_i hsame
        rw [← Except.ok.inj success, hsame]
        exact leads
      · obtain ⟨-, rfl⟩ := transitionTicketStatus_cases success
        exact leads.changeTicketStatus newStatus
  · rename_i text haction hvalue
    split at success
    · rename_i hblank
      have hterms : actionTerms ws t.ticket.terms action = t.ticket.terms := by
        simp [actionTerms, macroStatus, macroPriority, haction, hvalue, hblank]
      rw [← Except.ok.inj success, hterms]
      exact leads
    · rename_i hset
      have hterms : actionTerms ws t.ticket.terms action =
          { t.ticket.terms with priority := .ofText text } := by
        simp [actionTerms, macroStatus, macroPriority, haction, hvalue, hset]
      rw [← Except.ok.inj success, hterms]
      exact leads.changeTicketPriority (.ofText text)
  · rename_i tag haction hvalue
    have hterms : actionTerms ws t.ticket.terms action = t.ticket.terms := by
      simp [actionTerms, macroStatus, macroPriority, haction, hvalue]
    rw [hterms]
    split at success
    · rw [← Except.ok.inj success]
      exact leads
    · rw [← Except.ok.inj success]
      exact leads.save_quiet _ rfl
  · rename_i hstatus hpriority _
    have hterms : actionTerms ws t.ticket.terms action = t.ticket.terms := by
      unfold actionTerms macroStatus macroPriority
      split
      · rename_i slug haction hvalue
        exact absurd hvalue (hstatus slug haction)
      · split
        · rename_i text haction hvalue
          exact absurd hvalue (hpriority text haction)
        · rfl
    rw [← Except.ok.inj success, hterms]
    exact leads

theorem Leads.applyMacroActions (leads : Leads s t old)
    (success : actions.foldlM (fun s action => Tickets.applyMacroAction ws req action s) t =
      .ok s') : Leads s s' (actions.foldl (actionTerms ws) old) := by
  induction actions generalizing t old with
  | nil =>
    rw [List.foldlM_nil] at success
    rwa [← Except.ok.inj success]
  | cons action rest ih =>
    rw [List.foldlM_cons] at success
    obtain ⟨next, hnext, hrest⟩ := bind_eq_ok.mp success
    exact ih (leads.applyMacroAction hnext) hrest

theorem Leads.applyMacro (leads : Leads s t old) (success : applyMacro ws req actions t = .ok s') :
    Leads s s' (actions.foldl (actionTerms ws) old) := by
  unfold Tickets.applyMacro at success
  obtain ⟨acted, hacted, success⟩ := bind_eq_ok.mp success
  split at success
  · cases success
  split at success
  · cases success
  · rw [← Except.ok.inj success]
    exact (leads.applyMacroActions hacted).log _

theorem Leads.executeRule (leads : Leads s t old) (now : Instant) (rule : EscalationRule) :
    Leads s (executeRule ws clock now rule t) (ruleTerms rule old) := by
  obtain rfl : t.ticket.terms = old := leads.stands.inst
  have hacted : Leads s (performAction ws clock now rule t) (ruleTerms rule t.ticket.terms) := by
    unfold performAction ruleTerms
    cases rule.action with
    | assign =>
      dsimp only
      cases rule.assignee ws with
      | none => exact leads
      | some user => exact leads.save_quiet _ rfl
    | notify => exact leads
    | changePriority =>
      dsimp only [Ticket.terms]
      cases t.ticket.priority.escalated with
      | none => exact leads
      | some priority =>
        exact leads.trans (leads.stands.save ws clock [.priority, .updatedAt]
          (fun ticket => { ticket with priority }) ⟨.inl rfl, .inr (by decide), .inl rfl⟩)
  exact hacted.congr rfl rfl rfl

theorem Leads.initializeSla (leads : Leads s t old) :
    Leads s (initializeSla ws req t) (old.initialized ws) := by
  obtain rfl : t.ticket.terms = old := leads.stands.inst
  unfold Tickets.initializeSla Terms.initialized
  dsimp only [Ticket.terms]
  cases ws.policyFor t.ticket.priority with
  | none => exact leads
  | some policy =>
    exact leads.trans (leads.stands.save ws req.clock _ _ ⟨.inl rfl, .inl rfl, .inr (by decide)⟩)

theorem Leads.extendSlaOnEscalation (leads : Leads s t old) (now : Instant) :
    Leads s (extendSlaOnEscalation ws req now t) (old.initialized ws) := by
  obtain rfl : t.ticket.terms = old := leads.stands.inst
  unfold Tickets.extendSlaOnEscalation Terms.initialized
  dsimp only [Ticket.terms]
  cases ws.policyFor t.ticket.priority with
  | none => exact leads
  | some policy =>
    refine Leads.logSlaChange (leads.trans
      (leads.stands.save ws req.clock _ _ ⟨.inl rfl, .inl rfl, ?_⟩)) _
    dsimp only [Ticket.terms]
    split
    · rename_i hsame
      exact .inl hsame
    · exact .inr (by simp)

theorem Leads.escalateTicket {reason : String} {assignee : Option ℕ} {queue : Option Queue}
    (leads : Leads s t old) (success : escalateTicket ws req reason assignee queue t = .ok s') :
    Leads s s' (old.initialized ws) := by
  obtain ⟨escalated, edits, rfl⟩ := escalateTicket_cases t success
  have hescalated : Leads s escalated old :=
    leads.edits edits (by decide) fun inst row => by simp [Ticket.terms, Ticket.persist]
  exact (hescalated.extendSlaOnEscalation _).log _

/-! ## Stores -/

/-- An operation leaves one ticket with these terms, and the others as they were. -/
structure Leaves (db after : Db) (id : ℕ) (terms : Terms) : Prop where
  others : ∀ other ≠ id, after.tickets other = db.tickets other
  row : (after.tickets id).map Ticket.terms = some terms

theorem Leads.leaves (leads : Leads { db, id, ticket := row } s' new) : Leaves db s'.db id new := by
  refine ⟨leads.others, ?_⟩
  have hrow := leads.stands.row
  rwa [leads.id] at hrow

theorem Terms.linked_iff : terms.linked ws = true ↔
    terms.status.isClosed = false → ∀ policy ∈ ws.policies, terms.slaPolicy = some policy.pk →
      policy.priority = terms.priority := by
  simp [Terms.linked, Classical.or_iff_not_imp_left]

theorem Terms.linked_of_none (hnone : terms.slaPolicy = none) : terms.linked ws = true := by
  rw [Terms.linked_iff, hnone]
  intro _ policy _ hpk
  cases hpk

theorem Terms.initialized_linked (linked : terms.linked ws = true) :
    (terms.initialized ws).linked ws = true := by
  unfold Terms.initialized
  cases hpolicy : ws.policyFor terms.priority with
  | none => exact linked
  | some policy =>
    rw [Terms.linked_iff]
    intro _ other hother hpk
    have hpk : policy.pk = other.pk := Option.some.inj hpk
    rw [← Workspace.policy_ext (Workspace.policyFor_mem hpolicy) hother hpk]
    have hfound := List.find?_some hpolicy
    rw [Bool.and_eq_true, beq_iff_eq] at hfound
    exact hfound.1

theorem creation_leaves {after : Db} {op : Op} (hcreation : op.isCreation = true)
    (success : attempt ws req op db = .ok after) :
    ∃ id, ∃ fresh : Terms, fresh.slaPolicy = none ∧ Leaves db after id (fresh.initialized ws) := by
  obtain ⟨id, ticket, status, t, -, -, newborn, -, edits, rfl⟩ := creation_starts hcreation success
  have inserted : Leads { db := db.insertTicket id ticket, id, ticket } t
      (ticket.terms.initialized ws) :=
    ((Leads.refl (.load (Function.update_self ..))).initializeSla).edits edits (by decide)
      fun inst row => by simp [Ticket.terms, Ticket.persist]
  refine ⟨id, ticket.terms, newborn.slaPolicy, ?_, inserted.leaves.row⟩
  intro other hother
  rw [inserted.leaves.others other hother]
  exact Function.update_of_ne hother ..

variable (ws) in
theorem carried_terms (terms : ℕ → Option Terms) (hstatus : .status ∉ columns)
    (hterms : ∀ inst row : Ticket, (inst.persist columns row).terms = row.terms) :
    Carried ws columns (fun db => ∀ id, (db.tickets id).map Ticket.terms = terms id)
      (fun s => Settled s ∧ ∀ id, (s.db.tickets id).map Ticket.terms = terms id) where
  load stored hticket := ⟨⟨_, hticket, rfl⟩, stored⟩
  store := And.right
  edits {s t} edits := by
    rintro ⟨settled, stored⟩
    refine ⟨(edits.settled hstatus settled).1, fun id => ?_⟩
    rw [← stored id]
    by_cases hid : id = s.id
    · rw [hid]
      exact (edits.keeps hstatus settled Ticket.terms hterms (fun _ _ => rfl) fun _ _ _ => rfl).2
    · rw [edits.untouched.others id hid]

theorem propagateSlaPolicyChange_terms (ws : Workspace) (req : Request) (policy : SLAPolicy)
    (db : Db) (id : ℕ) :
    ((propagateSlaPolicyChange ws req policy db).tickets id).map Ticket.terms =
      (db.tickets id).map Ticket.terms := by
  have carried : Carried ws [.slaFirstResponseDue, .slaResolutionDue, .updatedAt] _ _ :=
    carried_terms ws (fun id => (db.tickets id).map Ticket.terms) (by decide)
      fun inst row => by simp [Ticket.terms, Ticket.persist]
  unfold propagateSlaPolicyChange
  refine List.foldlRecOn (motive := fun after : Db => ∀ id, (after.tickets id).map Ticket.terms =
    (db.tickets id).map Ticket.terms) _ _ (fun _ => rfl) ?_ id
  intro after stored ticket _
  exact carried.withTicket ticket
    (fun s holds => carried.edits (applyPolicyToTicket_edits s policy) holds) stored

end Laws

/-! ## Steps -/

section Steps

variable {tenancy : Tenancy} {req : Request}
variable {ws : Workspace}

theorem Leaves.linked_iff {after : Db} (linked : tenancy.Linked)
    (leaves : Leaves tenancy.db after id terms) (brokerUp : Bool) :
    (tenancy.finish brokerUp (.ok after)).Linked ↔ terms.linked tenancy.ws = true := by
  have hcommitted := commit_map Ticket.terms (fun _ _ => rfl) brokerUp after
  constructor
  · intro after_linked
    obtain ⟨row, hrow, rfl⟩ := Option.map_eq_some_iff.mp ((hcommitted id).trans leaves.row)
    exact after_linked id row hrow
  · intro hterms other row hrow
    have hstored := hcommitted other
    rw [show (after.commit brokerUp).tickets other = some row from hrow] at hstored
    by_cases hother : other = id
    · rw [hother, leaves.row] at hstored
      rwa [Option.some.inj hstored]
    · rw [leaves.others other hother] at hstored
      obtain ⟨old, hold, hsame⟩ := Option.map_eq_some_iff.mp hstored.symm
      rw [← hsame]
      exact linked other old hold

theorem linked_onTicket_iff (linked : tenancy.Linked) (brokerUp : Bool)
    {work : Session → Except String Session} (new : Terms → Terms) (Runs : Ticket → Prop)
    (hwork : ∀ row s', tenancy.db.tickets id = some row →
      work { db := tenancy.db, id, ticket := row } = .ok s' →
        Leads { db := tenancy.db, id, ticket := row } s' (new row.terms))
    (hruns : ∀ row, tenancy.db.tickets id = some row →
      ((∃ s', work { db := tenancy.db, id, ticket := row } = .ok s') ↔ Runs row)) :
    (tenancy.finish brokerUp (tenancy.db.onTicket id work)).Linked ↔
      ∀ row ∈ tenancy.db.tickets id, Runs row → (new row.terms).linked tenancy.ws = true := by
  cases hattempt : tenancy.db.onTicket id work with
  | error message =>
    refine iff_of_true linked fun row hrow runs => ?_
    obtain ⟨s', success⟩ := (hruns row hrow).mpr runs
    rw [onTicket_eq_ok.mpr ⟨row, s', hrow, success, rfl⟩] at hattempt
    cases hattempt
  | ok after =>
    obtain ⟨row, s', hrow, success, rfl⟩ := onTicket_eq_ok.mp hattempt
    rw [(hwork row s' hrow success).leaves.linked_iff linked]
    constructor
    · rintro hlinked other hother -
      rw [Option.mem_def, hrow] at hother
      rwa [← Option.some.inj hother]
    · intro hlinked
      exact hlinked row hrow ((hruns row hrow).mp ⟨s', success⟩)

theorem linked_onTicket_ok_iff (linked : tenancy.Linked) (brokerUp : Bool)
    {work : Session → Session} (new : Terms → Terms)
    (hwork : ∀ s old, Stands old s → Leads s (work s) (new old)) :
    (tenancy.finish brokerUp (tenancy.db.onTicket id fun s => .ok (work s))).Linked ↔
      ∀ row ∈ tenancy.db.tickets id, (new row.terms).linked tenancy.ws = true := by
  rw [linked_onTicket_iff linked brokerUp new fun _ => True]
  · simp only [true_implies]
  · intro row s' hrow success
    rw [← Except.ok.inj success]
    exact hwork _ _ (.load hrow)
  · intro row _
    exact iff_of_true ⟨_, rfl⟩ trivial

theorem linked_creation {op : Op} (linked : tenancy.Linked) (brokerUp : Bool)
    (hcreation : op.isCreation = true) :
    (tenancy.finish brokerUp (attempt tenancy.ws req op tenancy.db)).Linked := by
  cases hattempt : attempt tenancy.ws req op tenancy.db with
  | error message => exact linked
  | ok after =>
    obtain ⟨id, fresh, hnone, leaves⟩ := creation_leaves hcreation hattempt
    exact (leaves.linked_iff linked brokerUp).mpr
      (Terms.initialized_linked (Terms.linked_of_none hnone))

theorem mem_savedPolicies {row : SLAPolicy} :
    row ∈ ws.savedPolicies policy ↔ row = policy ∨ row ∈ ws.policies ∧ row.pk ≠ policy.pk := by
  unfold Workspace.savedPolicies
  split
  · rename_i hany
    obtain ⟨stored, hstored, hpk⟩ := List.any_eq_true.mp hany
    rw [beq_iff_eq] at hpk
    rw [List.mem_map]
    constructor
    · rintro ⟨other, hother, rfl⟩
      split
      · exact .inl rfl
      · rename_i hne
        exact .inr ⟨hother, hne⟩
    · rintro (rfl | ⟨hrow, hne⟩)
      · exact ⟨stored, hstored, if_pos hpk⟩
      · exact ⟨row, hrow, if_neg hne⟩
  · rename_i habsent
    rw [List.mem_append, List.mem_singleton, or_comm]
    refine or_congr_right (iff_self_and.mpr fun hrow hpk => habsent ?_)
    exact List.any_eq_true.mpr ⟨row, hrow, beq_iff_eq.mpr hpk⟩

theorem putPolicy_policies (hput : ws.putPolicy policy = some ws') :
    ws'.policies = ws.savedPolicies policy := by
  unfold Workspace.putPolicy at hput
  split at hput
  · rw [← Option.some.inj hput]
  · cases hput

theorem linked_putPolicy_iff (hput : ws.putPolicy policy = some ws')
    (linked : terms.linked ws = true) :
    terms.linked ws' = true ↔ (terms.slaPolicy = some policy.pk → terms.status.isClosed = false →
      policy.priority = terms.priority) := by
  rw [Terms.linked_iff] at linked ⊢
  constructor
  · intro linked' hpk hopen
    have hmem : policy ∈ ws'.policies := by
      rw [putPolicy_policies hput]
      exact mem_savedPolicies.mpr (.inl rfl)
    exact linked' hopen policy hmem hpk
  · intro fits hopen row hrow hpk
    rw [putPolicy_policies hput] at hrow
    obtain rfl | ⟨hold, -⟩ := mem_savedPolicies.mp hrow
    · exact fits hpk hopen
    · exact linked hopen row hold hpk

theorem propagate_terms (tenancy : Tenancy) (ws : Workspace) (req : Request) (brokerUp : Bool)
    (policy : SLAPolicy) (id : ℕ) :
    ((tenancy.propagate ws req brokerUp policy).tickets id).map Ticket.terms =
      (tenancy.db.tickets id).map Ticket.terms := by
  unfold Tenancy.propagate
  split
  · rw [commit_map Ticket.terms (fun _ _ => rfl), propagateSlaPolicyChange_terms]
  · rfl

theorem linked_save_iff (linked : tenancy.Linked) (req : Request) (brokerUp : Bool)
    (policy : SLAPolicy) :
    (tenancy.step ⟨.saveSlaPolicy policy, req, brokerUp⟩).Linked ↔
      tenancy.Keeps ⟨.saveSlaPolicy policy, req, brokerUp⟩ := by
  dsimp only [Tenancy.step, Tenancy.Keeps]
  cases hput : tenancy.ws.putPolicy policy with
  | none => exact iff_of_true linked fun hsome => nomatch hsome
  | some ws' =>
    have hterms := propagate_terms tenancy ws' req brokerUp policy
    simp only [Option.isSome_some, true_implies]
    constructor
    · intro linked' id row hrow
      have hstored := hterms id
      rw [hrow] at hstored
      obtain ⟨new, hnew, hsame⟩ := Option.map_eq_some_iff.mp hstored
      have hlinked := linked' id new hnew
      rw [hsame] at hlinked
      exact (linked_putPolicy_iff hput (linked id row hrow)).mp hlinked
    · intro fits id new hnew
      have hstored := hterms id
      rw [show (tenancy.propagate ws' req brokerUp policy).tickets id = some new from hnew]
        at hstored
      obtain ⟨row, hrow, hsame⟩ := Option.map_eq_some_iff.mp hstored.symm
      rw [← hsame]
      exact (linked_putPolicy_iff hput (linked id row hrow)).mpr (fits id row hrow)

/-- A step leaves every open ticket under the policy of its priority exactly if it keeps the
terms of the ticket that it writes. -/
theorem linked_step_iff (linked : tenancy.Linked) (event : TermsEvent) :
    (tenancy.step event).Linked ↔ tenancy.Keeps event := by
  obtain ⟨op, req, brokerUp⟩ := event
  cases op with
  | createTicket creator data =>
    exact iff_of_true
      (@linked_creation tenancy req (.createTicket creator data) linked brokerUp rfl) trivial
  | createTicketFromEmail systemUser overrides agent =>
    exact iff_of_true (@linked_creation tenancy req
      (.createTicketFromEmail systemUser overrides agent) linked brokerUp rfl) trivial
  | splitTicket source actor data =>
    exact iff_of_true
      (@linked_creation tenancy req (.splitTicket source actor data) linked brokerUp rfl) trivial
  | changeTicketPriority id newPriority =>
    exact linked_onTicket_ok_iff linked brokerUp
      (fun terms => { terms with priority := newPriority })
      fun s old stands => (Leads.refl stands).changeTicketPriority newPriority
  | changeTicketStatus id newStatus =>
    exact linked_onTicket_ok_iff linked brokerUp
      (fun terms => { terms with status := newStatus })
      fun s old stands => (Leads.refl stands).changeTicketStatus newStatus
  | applyMacro id actions =>
    refine linked_onTicket_iff linked brokerUp
      (fun terms => actions.foldl (actionTerms tenancy.ws) terms)
      (fun row => macroRuns tenancy.ws row actions = true)
      (fun row s' hrow success => (Leads.refl (.load hrow)).applyMacro success) fun row hrow => ?_
    exact applyMacro_iff tenancy.ws req actions ⟨row, hrow, rfl⟩
  | executeRule id now rule =>
    exact linked_onTicket_ok_iff linked brokerUp (ruleTerms rule)
      fun s old stands => (Leads.refl stands).executeRule now rule
  | escalateTicket id reason assignee queue =>
    refine iff_of_true ?_ trivial
    refine (linked_onTicket_iff linked brokerUp (Terms.initialized tenancy.ws)
      (fun row => ∃ s', escalateTicket tenancy.ws req reason assignee queue
        { db := tenancy.db, id, ticket := row } = .ok s')
      (fun row s' hrow success => (Leads.refl (.load hrow)).escalateTicket success)
      fun row _ => Iff.rfl).mpr ?_
    intro row hrow _
    exact Terms.initialized_linked (linked id row hrow)
  | saveSlaPolicy policy => exact linked_save_iff linked req brokerUp policy

/-- Every open ticket stays under the policy of its priority in exactly the runs whose steps
keep the terms of the tickets that they write. -/
theorem linked_throughout_iff (linked : tenancy.Linked) (events : List TermsEvent) :
    Always Tenancy.step Tenancy.Linked tenancy events ↔
      Every Tenancy.step Tenancy.Keeps tenancy events := by
  refine always_iff_every (fun _ linked => linked) ?_ ?_ linked events
  · intro tenancy event linked keeps
    exact (linked_step_iff linked event).mpr keeps
  · intro tenancy event linked linked'
    exact (linked_step_iff linked event).mp linked'

end Steps

/-- A tenant with the seeded statuses and a policy for medium tickets. -/
def Tenancy.single : Tenancy where
  ws :=
    { Workspace.seeded with
      policies := [officePolicy]
      policies_priority := officePolicy_priority
      policies_pk := officePolicy_pk }

theorem Tenancy.linked_single : Tenancy.single.Linked := by
  intro id row hrow
  cases hrow

def lowPolicy : SLAPolicy :=
  { pk := 2, priority := .low, firstResponseMinutes := 60, resolutionMinutes := 240 }

/-- A policy for low tickets turns up; a medium ticket is escalated, closed and made urgent. -/
def keptUnderPolicy : List TermsEvent :=
  [ ⟨.saveSlaPolicy lowPolicy, ⟨⟨5, 5, 5, 5⟩, some 1⟩, true⟩,
    ⟨.createTicket 1 { id := 5 }, ⟨⟨10, 10, 10, 10⟩, some 1⟩, true⟩,
    ⟨.escalateTicket 5 "late" none none, ⟨⟨20, 20, 20, 20⟩, some 1⟩, true⟩,
    ⟨.changeTicketStatus 5 ⟨4, "Closed", "closed", 50, true, false, false⟩,
      ⟨⟨30, 30, 30, 30⟩, some 1⟩, true⟩,
    ⟨.changeTicketPriority 5 .urgent, ⟨⟨40, 40, 40, 40⟩, some 1⟩, true⟩ ]

theorem linked_on_keptUnderPolicy :
    Always Tenancy.step Tenancy.Linked .single keptUnderPolicy := by
  apply (linked_throughout_iff Tenancy.linked_single keptUnderPolicy).mpr
  refine ⟨?_, trivial, trivial, ?_, ?_, trivial⟩
  · intro _ id row hrow
    cases hrow
  · show ∀ row ∈ _, _
    decide +kernel
  · show ∀ row ∈ _, _
    decide +kernel

/-- A ticket without an urgent policy becomes urgent. -/
def madeUrgent : List TermsEvent :=
  [ ⟨.createTicket 1 { id := 5 }, ⟨⟨10, 10, 10, 10⟩, some 1⟩, true⟩,
    ⟨.changeTicketPriority 5 .urgent, ⟨⟨20, 20, 20, 20⟩, some 1⟩, true⟩ ]

theorem unlinked_on_madeUrgent :
    ¬ Always Tenancy.step Tenancy.Linked .single madeUrgent := by
  intro always
  have linked := always.2.2
  have hunlinked : ((run Tenancy.step .single madeUrgent).db.tickets 5).any
      (fun row => !row.terms.linked Tenancy.single.ws) = true := by decide +kernel
  obtain ⟨row, hrow, hterms⟩ := (Option.any_eq_true ..).mp hunlinked
  have hlinked := linked.start 5 row hrow
  rw [Bool.not_eq_true'] at hterms
  exact absurd hlinked (hterms ▸ Bool.false_ne_true)

end Kanzan.Tickets

import Kanzan.Tickets.Executions

/-!
# The turns of the policies

The scan takes the policies one by one and asks for the tickets of each one's priority when its
turn comes.  A rule may have raised a priority by then, and a ticket that is raised into a later
turn is looked at again, under another policy.
-/

namespace Kanzan.Tickets

open Sla Support

variable {ws : Workspace} {clock : Clock} {policy : SLAPolicy} {now : Instant}

/-! ## Evaluations -/

def scannedIds (db : Db) (policy : SLAPolicy) : List ℕ :=
  db.ticketIds.filter fun id => (db.tickets id).any (isScanned policy)

/-- The calls of `_check_ticket_sla` while the policies take their turns. -/
def evaluations (ws : Workspace) (clocks : ℕ → Clock) (now : Instant) :
    List SLAPolicy → Db → List (ℕ × SLAPolicy)
  | [], _ => []
  | policy :: rest, db =>
    (scannedIds db policy).map (fun id => (id, policy)) ++
      evaluations ws clocks now rest (checkPolicySla ws clocks now db policy)

/-- `SLAPolicy.unscoped.filter(tenant=tenant, is_active=True)`. -/
def activePolicies (ws : Workspace) : List SLAPolicy :=
  ws.policies.filter fun policy => policy.isActive

/-- Each ticket is evaluated under one policy at most, that of the priority it had when the run
started. -/
def EvaluatedOnce (ws : Workspace) (clocks : ℕ → Clock) (now : Instant) (db : Db) : Prop :=
  ∀ id policy, (id, policy) ∈ evaluations ws clocks now (activePolicies ws) db →
    (∃ row, db.tickets id = some row ∧ row.priority = policy.priority) ∧
      ∀ other, (id, other) ∈ evaluations ws clocks now (activePolicies ws) db → other = policy

/-! ## The rules that fire -/

/-- The rules of a list that fire for a row.  Once the scan has saved the ticket, its idle time
starts at the save. -/
def firing (ws : Workspace) (clock : Clock) (policy : SLAPolicy) (fired : List ℕ)
    (minutes : Minutes) (now : Instant) (row : Ticket) :
    Bool → List EscalationRule → List EscalationRule
  | _, [] => []
  | touched, rule :: rest =>
    let updatedAt := if touched then clock.autoNow else row.updatedAt
    if rule.pk ∉ fired ∧ ruleIsDue ws policy minutes now rule { row with updatedAt } = true then
      rule :: firing ws clock policy fired minutes now row (touched || rule.saves ws row) rest
    else firing ws clock policy fired minutes now row touched rest

def Priority.raisedBy (priority : Priority) (rule : EscalationRule) : Priority :=
  if rule.action = .changePriority then priority.escalated.getD priority else priority

def Db.raisedPriority (ws : Workspace) (clock : Clock) (policy : SLAPolicy) (now : Instant)
    (db : Db) (id : ℕ) (row : Ticket) : Priority :=
  let minutes := db.elapsedMinutes ws id policy now row
  (firing ws clock policy (db.firedRuleIds id) minutes now row
    (raisesFlag policy minutes row) (rulesOf ws policy)).foldl Priority.raisedBy row.priority

/-- How a session stands while the rules of a policy are checked for a loaded row: what they have
left of it, on the instance and in the store. -/
structure Underway (row : Ticket) (clock : Clock) (touched : Bool) (raised : Priority)
    (s : Session) : Prop where
  firstRespondedAt : s.ticket.firstRespondedAt = row.firstRespondedAt
  resolvedAt : s.ticket.resolvedAt = row.resolvedAt
  updatedAt : s.ticket.updatedAt = if touched then clock.autoNow else row.updatedAt
  priority : s.ticket.priority = raised
  untouched : touched = false → raised = row.priority
  status : s.ticket.status = row.status
  stored : ∃ kept, s.db.tickets s.id = some kept ∧ kept.status = row.status ∧
    kept.priority = raised ∧ kept.isDeleted = row.isDeleted

namespace Underway

variable {row : Ticket} {touched : Bool} {raised next : Priority} {s : Session}

theorem load (hrow : s.db.tickets s.id = some s.ticket) :
    Underway s.ticket clock false s.ticket.priority s :=
  ⟨rfl, rfl, rfl, rfl, fun _ => rfl, rfl, s.ticket, hrow, rfl, rfl, rfl⟩

theorem save (underway : Underway row clock touched raised s) (columns : List Column)
    (edit : Ticket → Ticket)
    (hedit : ∀ ticket, (edit ticket).status = ticket.status ∧
      (edit ticket).firstRespondedAt = ticket.firstRespondedAt ∧
      (edit ticket).resolvedAt = ticket.resolvedAt)
    (hnext : (edit s.ticket).priority = next)
    (hcolumns : .updatedAt ∈ columns ∧ .isDeleted ∉ columns)
    (hpriority : .priority ∈ columns ∨ next = raised) :
    Underway row clock true next (save ws clock columns (s.modify edit)) := by
  obtain ⟨hstatus, hresponse, hresolved⟩ := hedit s.ticket
  obtain ⟨kept, hkept, hkeptStatus, hkeptPriority, hkeptDeleted⟩ := underway.stored
  have hsame : kept.status = s.ticket.status := hkeptStatus.trans underway.status.symm
  rw [save_of_same ⟨kept, hkept, hsame⟩ hstatus, write_of_same hkept (hsame.trans hstatus.symm)]
  dsimp only
  rw [Ticket.autoNow, if_pos hcolumns.1]
  refine ⟨?_, ?_, rfl, hnext, fun h => absurd h (by decide), ?_, _,
    Function.update_self .., ?_, ?_, ?_⟩
  · exact hresponse.trans underway.firstRespondedAt
  · exact hresolved.trans underway.resolvedAt
  · exact hstatus.trans underway.status
  · simp only [Ticket.persist, hstatus, underway.status, hkeptStatus, ite_self]
  · rcases hpriority with hlisted | hsame
    · simp only [Ticket.persist, if_pos hlisted, hnext]
    · simp only [Ticket.persist, hnext, hkeptPriority, hsame, ite_self]
  · simp only [Ticket.persist, if_neg hcolumns.2, hkeptDeleted]

theorem log (underway : Underway row clock touched raised s) (event : ActivityEvent) :
    Underway row clock touched raised (s.log event) :=
  ⟨underway.firstRespondedAt, underway.resolvedAt, underway.updatedAt, underway.priority,
    underway.untouched, underway.status, underway.stored⟩

theorem fireRule (underway : Underway row clock touched raised s) (rule : EscalationRule) :
    Underway row clock touched raised (s.fireRule rule) :=
  ⟨underway.firstRespondedAt, underway.resolvedAt, underway.updatedAt, underway.priority,
    underway.untouched, underway.status, underway.stored⟩

theorem touched_or (underway : Underway row clock touched raised s) (rule : EscalationRule) :
    (touched || rule.saves ws row) = (touched || rule.saves ws s.ticket) := by
  cases htouched : touched with
  | true => rfl
  | false =>
    have hpriority := underway.priority.trans (underway.untouched htouched)
    rw [EscalationRule.saves, EscalationRule.saves, hpriority]

/-- An action saves the ticket, raised where it asks for that, or leaves the session alone. -/
theorem act (underway : Underway row clock touched raised s) (rule : EscalationRule) :
    Underway row clock (touched || rule.saves ws row) (raised.raisedBy rule)
      (performAction ws clock now rule s) := by
  rw [underway.touched_or, EscalationRule.saves, Priority.raisedBy, performAction]
  cases rule.action with
  | assign =>
    rw [if_neg (by decide)]
    cases rule.assignee ws with
    | none => rwa [Option.isSome_none, Bool.or_false]
    | some user =>
      rw [Option.isSome_some, Bool.or_true]
      exact underway.save [.assignee, .assignedAt, .updatedAt] _ (fun _ => ⟨rfl, rfl, rfl⟩)
        underway.priority (by decide) (.inr rfl)
  | notify =>
    rw [if_neg (by decide)]
    rwa [Bool.or_false]
  | changePriority =>
    rw [if_pos rfl, underway.priority]
    cases raised.escalated with
    | none => rwa [Option.isSome_none, Bool.or_false, Option.getD_none]
    | some priority =>
      rw [Option.isSome_some, Bool.or_true, Option.getD_some]
      exact underway.save [.priority, .updatedAt] _ (fun _ => ⟨rfl, rfl, rfl⟩) rfl
        (by decide) (.inl (by decide))

theorem ruleIsDue (underway : Underway row clock touched raised s) (minutes : Minutes)
    (rule : EscalationRule) :
    ruleIsDue ws policy minutes now rule s.ticket =
      Tickets.ruleIsDue ws policy minutes now rule
        { row with updatedAt := if touched then clock.autoNow else row.updatedAt } :=
  ruleIsDue_congr underway.firstRespondedAt underway.resolvedAt underway.updatedAt

variable (ws policy now) in
/-- The rules of a list raise the ticket by those that fire. -/
theorem checkRules (fired : List ℕ) (minutes : Minutes) (rules : List EscalationRule)
    (underway : Underway row clock touched raised s) :
    ∃ saved, Underway row clock saved
      ((firing ws clock policy fired minutes now row touched rules).foldl Priority.raisedBy raised)
      (rules.foldl (checkRule ws clock policy fired minutes now) s) := by
  induction rules generalizing s touched raised with
  | nil => exact ⟨touched, underway⟩
  | cons rule rest ih =>
    rw [List.foldl_cons, checkRule, underway.ruleIsDue, firing]
    by_cases hfired : rule.pk ∈ fired
    · rw [if_pos hfired, if_neg (fun both => both.1 hfired)]
      exact ih underway
    rw [if_neg hfired]
    by_cases hdue : Tickets.ruleIsDue ws policy minutes now rule
        { row with updatedAt := if touched then clock.autoNow else row.updatedAt } = true
    · rw [if_pos hdue, if_pos ⟨hfired, hdue⟩, List.foldl_cons]
      exact ih ((underway.act rule).fireRule rule)
    · rw [if_neg hdue, if_neg (fun both => hdue both.2)]
      exact ih underway

theorem flagBreaches (underway : Underway row clock false raised s) :
    Underway row clock (raisesFlag policy (s.effectiveElapsed ws policy now) s.ticket) raised
      (flagBreaches ws clock policy now s) := by
  refine flagBreaches_rule (P := fun touched => Underway row clock touched raised) s underway
    (fun _ _ saved hsaved hsubset => ?_) fun _ h => h.log _
  have hdeleted : Column.isDeleted ∉ saved := fun hmem => absurd (hsubset hmem) (by decide)
  exact underway.save saved _ (fun _ => ⟨rfl, rfl, rfl⟩) underway.priority ⟨hsaved, hdeleted⟩
    (.inr rfl)

end Underway

theorem checkRules_id {fired : List ℕ} {minutes : Minutes} (rules : List EscalationRule)
    (s : Session) : (rules.foldl (checkRule ws clock policy fired minutes now) s).id = s.id := by
  induction rules generalizing s with
  | nil => rfl
  | cons rule rest ih =>
    rw [List.foldl_cons, ih]
    exact checkRule_id s rule

variable (ws clock policy now) in
/-- The row that checking a ticket leaves. -/
theorem checkTicketSla_row {s : Session} (hrow : s.db.tickets s.id = some s.ticket) :
    ∃ kept, (checkTicketSla ws clock policy now s).db.tickets s.id = some kept ∧
      kept.status = s.ticket.status ∧ kept.isDeleted = s.ticket.isDeleted ∧
      kept.priority = s.db.raisedPriority ws clock policy now s.id s.ticket := by
  have huntouched := (flagBreaches_edits ws s clock policy now).untouched
  obtain ⟨saved, underway⟩ := (Underway.load hrow).flagBreaches.checkRules ws policy now
    (s.db.firedRuleIds s.id) (s.effectiveElapsed ws policy now) (rulesOf ws policy)
  obtain ⟨kept, hkept, hstatus, hpriority, hdeleted⟩ := underway.stored
  rw [checkRules_id, huntouched.id] at hkept
  refine ⟨kept, ?_, hstatus, hdeleted, hpriority⟩
  rw [checkTicketSla, checkEscalationRules, effectiveElapsed_flagBreaches ⟨s.ticket, hrow, rfl⟩,
    huntouched.firedRuleIds, huntouched.id]
  exact hkept

theorem checkTicketSla_stored (s : Session) (id : ℕ) :
    ((checkTicketSla ws clock policy now s).db.tickets id).isSome = (s.db.tickets id).isSome := by
  have hflags := (flagBreaches_edits ws s clock policy now).untouched.stored id
  rw [← hflags, checkTicketSla, checkEscalationRules]
  generalize flagBreaches ws clock policy now s = flagged
  generalize flagged.db.firedRuleIds flagged.id = fired
  generalize flagged.effectiveElapsed ws policy now = minutes
  induction rulesOf ws policy generalizing flagged with
  | nil => rfl
  | cons rule rest ih =>
    rw [List.foldl_cons, ih, checkRule]
    split
    · rfl
    split
    · exact (performAction_untouched ws clock now flagged rule).stored id
    · rfl

/-! ## The turn of one policy -/

section Turns

variable {clocks : ℕ → Clock} {db : Db} {id : ℕ} {row : Ticket} {policies : List SLAPolicy}
variable {pauses : List SLAPause} {fired : List ℕ}

theorem checkPolicySla_eq (db : Db) (policy : SLAPolicy) :
    checkPolicySla ws clocks now db policy =
      (scannedIds db policy).foldl (scanTicket ws clocks policy now) db := rfl

theorem mem_scannedIds : id ∈ scannedIds db policy ↔
    id ∈ db.ticketIds ∧ ∃ row, db.tickets id = some row ∧ isScanned policy row = true := by
  rw [scannedIds, List.mem_filter, Option.any_eq_true]

theorem isScanned_iff : isScanned policy row = true ↔
    row.priority = policy.priority ∧ row.isDeleted = false ∧ row.status.isClosed = false := by
  simp only [isScanned, Bool.and_eq_true, beq_iff_eq, Bool.not_eq_true', and_assoc]

variable (ws clocks policy now) in
/-- Scanning other tickets is not seen on a ticket. -/
theorem scanTickets_observed {ids : List ℕ} (hnot : id ∉ ids)
    (observed : Observed id row pauses fired db) :
    Observed id row pauses fired (ids.foldl (scanTicket ws clocks policy now) db) := by
  induction ids generalizing db with
  | nil => exact observed
  | cons other rest ih =>
    rw [List.mem_cons, not_or] at hnot
    exact ih hnot.2 (scanTicket_observed observed hnot.1)

variable (ws clocks now) in
/-- The turn of a policy passes by the tickets that its query does not find. -/
theorem checkPolicySla_observed (observed : Observed id row pauses fired db)
    (hnot : ¬ isScanned policy row = true) :
    Observed id row pauses fired (checkPolicySla ws clocks now db policy) := by
  rw [checkPolicySla_eq]
  apply scanTickets_observed ws policy now clocks _ observed
  rw [mem_scannedIds]
  rintro ⟨-, found, hfound, hscanned⟩
  rw [observed.row] at hfound
  exact hnot (Option.some.inj hfound ▸ hscanned)

variable (ws clocks now) in
/-- What its turn leaves of a ticket that the query finds. -/
theorem checkPolicySla_row (hkeys : db.ticketIds.Nodup) (hrow : db.tickets id = some row)
    (hmem : id ∈ scannedIds db policy) :
    ∃ kept, (checkPolicySla ws clocks now db policy).tickets id = some kept ∧
      kept.status = row.status ∧ kept.isDeleted = row.isDeleted ∧
      kept.priority = db.raisedPriority ws (clocks id) policy now id row := by
  have hnodup : (scannedIds db policy).Nodup := hkeys.filter _
  obtain ⟨before, after, hsplit⟩ := List.append_of_mem hmem
  rw [hsplit] at hnodup
  have hbefore : id ∉ before := fun h =>
    (List.nodup_append.mp hnodup).2.2 id h id List.mem_cons_self rfl
  have hafter : id ∉ after := (List.nodup_cons.mp (List.nodup_append.mp hnodup).2.1).1
  rw [checkPolicySla_eq, hsplit, List.foldl_append, List.foldl_cons]
  have observed := scanTickets_observed ws policy now clocks hbefore ⟨hrow, rfl, rfl⟩
  generalize before.foldl (scanTicket ws clocks policy now) db = reached at observed ⊢
  obtain ⟨kept, hkept, hstatus, hdeleted, hpriority⟩ :=
    checkTicketSla_row ws (clocks id) policy now (s := { db := reached, id, ticket := row })
      observed.row
  have hscan : (scanTicket ws clocks policy now reached id).tickets id = some kept := by
    rw [scanTicket, withTicket_of_some observed.row, hkept]
  refine ⟨kept, ?_, hstatus, hdeleted, ?_⟩
  · exact (scanTickets_observed ws policy now clocks hafter ⟨hscan, rfl, rfl⟩).row
  rw [hpriority]
  dsimp only [Db.raisedPriority, Db.elapsedMinutes]
  rw [observed.pauses, observed.fired]

variable (ws clocks now) in
/-- The keys of the table and the rows under them outlast the turn of a policy. -/
theorem checkPolicySla_stored (db : Db) (policy : SLAPolicy) :
    (checkPolicySla ws clocks now db policy).ticketIds = db.ticketIds ∧
      ∀ id, ((checkPolicySla ws clocks now db policy).tickets id).isSome =
        (db.tickets id).isSome := by
  rw [checkPolicySla_eq]
  generalize scannedIds db policy = ids
  induction ids generalizing db with
  | nil => exact ⟨rfl, fun _ => rfl⟩
  | cons other rest ih =>
    obtain ⟨hids, hstored⟩ := ih (scanTicket ws clocks policy now db other)
    rw [List.foldl_cons, hids, scanTicket_ticketIds]
    refine ⟨rfl, fun id => (hstored id).trans ?_⟩
    unfold scanTicket
    cases hother : db.tickets other with
    | none => simp only [Db.withTicket, hother]
    | some ticket =>
      rw [withTicket_of_some hother]
      exact checkTicketSla_stored { db, id := other, ticket } id

/-! ## The run -/

theorem mem_evaluations_cons {rest : List SLAPolicy} {found : SLAPolicy} :
    (id, found) ∈ evaluations ws clocks now (policy :: rest) db ↔
      (id ∈ scannedIds db policy ∧ found = policy) ∨
        (id, found) ∈ evaluations ws clocks now rest (checkPolicySla ws clocks now db policy) := by
  rw [evaluations, List.mem_append, List.mem_map]
  apply or_congr_left
  constructor
  · rintro ⟨other, hother, hsame⟩
    obtain ⟨rfl, rfl⟩ := Prod.mk.inj hsame
    exact ⟨hother, rfl⟩
  · rintro ⟨hmem, rfl⟩
    exact ⟨id, hmem, rfl⟩

theorem stored_of_mem_evaluations (hmem : (id, policy) ∈ evaluations ws clocks now policies db) :
    policy ∈ policies ∧ id ∈ db.ticketIds ∧ ∃ row, db.tickets id = some row := by
  induction policies generalizing db with
  | nil => cases hmem
  | cons head rest ih =>
    rcases mem_evaluations_cons.mp hmem with ⟨hscanned, rfl⟩ | hlater
    · obtain ⟨hid, row, hrow, -⟩ := mem_scannedIds.mp hscanned
      exact ⟨List.mem_cons_self, hid, row, hrow⟩
    · obtain ⟨hpolicy, hid, row, hrow⟩ := ih hlater
      obtain ⟨hids, hstored⟩ := checkPolicySla_stored ws now clocks
        db head
      refine ⟨List.mem_cons_of_mem _ hpolicy, hids ▸ hid, Option.isSome_iff_exists.mp ?_⟩
      rw [← hstored, hrow]
      rfl

theorem not_evaluated (hrow : db.tickets id = some row)
    (hnone : ∀ policy ∈ policies, ¬ isScanned policy row = true) :
    (id, policy) ∉ evaluations ws clocks now policies db := by
  have observed : Observed id row (db.pausesOf id) (db.firedRuleIds id) db := ⟨hrow, rfl, rfl⟩
  clear hrow
  generalize db.pausesOf id = pauses, db.firedRuleIds id = fired at observed
  induction policies generalizing db with
  | nil => exact List.not_mem_nil
  | cons head rest ih =>
    rw [List.forall_mem_cons] at hnone
    rw [mem_evaluations_cons]
    rintro (⟨hscanned, -⟩ | hlater)
    · obtain ⟨-, found, hfound, hyes⟩ := mem_scannedIds.mp hscanned
      rw [observed.row] at hfound
      exact hnone.1 (Option.some.inj hfound ▸ hyes)
    · exact ih hnone.2 (checkPolicySla_observed ws now clocks observed hnone.1) hlater

variable (ws clocks now) in
/-- A ticket of a policy's priority is evaluated under it when its turn comes. -/
theorem evaluated_of_mem (hid : id ∈ db.ticketIds) (hrow : db.tickets id = some row)
    (hdistinct : (policies.map SLAPolicy.priority).Nodup) (hpolicy : policy ∈ policies)
    (hscanned : isScanned policy row = true) :
    (id, policy) ∈ evaluations ws clocks now policies db := by
  induction policies generalizing db with
  | nil => cases hpolicy
  | cons head rest ih =>
    rw [List.map_cons, List.nodup_cons] at hdistinct
    rw [mem_evaluations_cons]
    rcases List.mem_cons.mp hpolicy with rfl | hrest
    · exact .inl ⟨mem_scannedIds.mpr ⟨hid, row, hrow, hscanned⟩, rfl⟩
    · right
      have hnot : ¬ isScanned head row = true := by
        intro hhead
        have hsame := (isScanned_iff.mp hhead).1.symm.trans (isScanned_iff.mp hscanned).1
        exact hdistinct.1 (hsame ▸ List.mem_map_of_mem hrest)
      have observed : Observed id row (db.pausesOf id) (db.firedRuleIds id) _ :=
        checkPolicySla_observed ws now clocks ⟨hrow, rfl, rfl⟩ hnot
      have hids := (checkPolicySla_stored ws now clocks db head).1
      exact ih (hids ▸ hid) observed.row hdistinct.2 hrest

theorem Observed.raisedPriority {start : Db}
    (observed : Observed id row (start.pausesOf id) (start.firedRuleIds id) db) :
    db.raisedPriority ws clock policy now id row =
      start.raisedPriority ws clock policy now id row := by
  rw [Db.raisedPriority, Db.raisedPriority, Db.elapsedMinutes, Db.elapsedMinutes, observed.pauses,
    observed.fired]

theorem mem_evaluations_cons_of_not {rest : List SLAPolicy} {found : SLAPolicy}
    (hrow : db.tickets id = some row) (hnot : ¬ isScanned policy row = true) :
    (id, found) ∈ evaluations ws clocks now (policy :: rest) db ↔
      (id, found) ∈ evaluations ws clocks now rest (checkPolicySla ws clocks now db policy) := by
  have hscan : id ∉ scannedIds db policy := by
    rw [mem_scannedIds]
    rintro ⟨-, stored, hstored, hyes⟩
    rw [hrow] at hstored
    exact hnot (Option.some.inj hstored ▸ hyes)
  rw [mem_evaluations_cons, or_iff_right fun both => hscan both.1]

/-- After the turn of a ticket's own policy, what the rules have made of its priority decides
whether another evaluates it. -/
theorem evaluated_own_iff_of_turn {rest : List SLAPolicy} (hkeys : db.ticketIds.Nodup)
    (hid : id ∈ db.ticketIds) (hrow : db.tickets id = some row)
    (hdistinct : ((policy :: rest).map SLAPolicy.priority).Nodup)
    (hscanned : isScanned policy row = true) :
    (∀ found, (id, found) ∈ evaluations ws clocks now (policy :: rest) db →
        row.priority = found.priority) ↔
      ∀ later ∈ rest, later.priority ≠ db.raisedPriority ws (clocks id) policy now id row := by
  rw [List.map_cons, List.nodup_cons] at hdistinct
  have hids := (checkPolicySla_stored ws now clocks db policy).1
  obtain ⟨hpriority, hdeleted, hclosed⟩ := isScanned_iff.mp hscanned
  obtain ⟨kept, hkept, hstatus, hstays, hraised⟩ :=
    checkPolicySla_row ws now clocks hkeys hrow
      (mem_scannedIds.mpr ⟨hid, row, hrow, hscanned⟩)
  have hlater : ∀ later, isScanned later kept = true ↔
      later.priority = db.raisedPriority ws (clocks id) policy now id row := by
    intro later
    rw [isScanned_iff, hstatus, hstays, hraised, and_iff_left ⟨hdeleted, hclosed⟩, eq_comm]
  constructor
  · intro hown later hmem hsame
    have hagain := evaluated_of_mem ws now clocks (hids ▸ hid) hkept
      hdistinct.2 hmem ((hlater later).mpr hsame)
    have hstart := hown later (mem_evaluations_cons.mpr (.inr hagain))
    exact hdistinct.1 (hpriority.symm.trans hstart ▸ List.mem_map_of_mem hmem)
  · intro hpast found hmem
    rcases mem_evaluations_cons.mp hmem with ⟨-, rfl⟩ | hagain
    · exact hpriority
    · refine absurd hagain (not_evaluated hkept fun later hmem hyes => ?_)
      exact hpast later hmem ((hlater later).mp hyes)

/-- A ticket is evaluated under the policy of its priority alone just when that policy's rules do
not raise it into the priority of a later one. -/
theorem evaluated_own_iff (hkeys : db.ticketIds.Nodup) (hid : id ∈ db.ticketIds)
    (hrow : db.tickets id = some row) (hdistinct : (policies.map SLAPolicy.priority).Nodup) :
    (∀ policy, (id, policy) ∈ evaluations ws clocks now policies db →
        row.priority = policy.priority) ↔
      policies.Pairwise fun policy later => isScanned policy row = true →
        later.priority ≠ db.raisedPriority ws (clocks id) policy now id row := by
  induction policies generalizing db with
  | nil => exact iff_of_true (fun _ hmem => by cases hmem) List.Pairwise.nil
  | cons head rest ih =>
    rw [List.pairwise_cons]
    by_cases hhead : isScanned head row = true
    · rw [evaluated_own_iff_of_turn hkeys hid hrow hdistinct hhead]
      rw [List.map_cons, List.nodup_cons] at hdistinct
      constructor
      · intro hpast
        refine ⟨fun later hmem _ => hpast later hmem, ?_⟩
        refine List.pairwise_of_forall_mem_list fun policy hmem _ _ hscanned => ?_
        have hsame := (isScanned_iff.mp hhead).1.symm.trans (isScanned_iff.mp hscanned).1
        exact absurd (hsame ▸ List.mem_map_of_mem hmem) hdistinct.1
      · exact fun hpast later hmem => hpast.1 later hmem hhead
    · rw [List.map_cons, List.nodup_cons] at hdistinct
      have hids := (checkPolicySla_stored ws now clocks db head).1
      have observed : Observed id row (db.pausesOf id) (db.firedRuleIds id) _ :=
        checkPolicySla_observed ws now clocks ⟨hrow, rfl, rfl⟩ hhead
      have hrest := ih (hids ▸ hkeys) (hids ▸ hid) observed.row hdistinct.2
      simp only [observed.raisedPriority] at hrest
      rw [← hrest, and_iff_right (fun _ _ hscanned => absurd hscanned hhead)]
      exact forall_congr' fun policy =>
        imp_congr_left (mem_evaluations_cons_of_not hrow hhead)

end Turns

/-- No ticket is raised, when the policy of its priority has its turn, into the priority of a policy
whose turn is still to come. -/
def RaisesIntoNoTurn (ws : Workspace) (clocks : ℕ → Clock) (now : Instant) (db : Db) : Prop :=
  ∀ id ∈ db.ticketIds, ∀ row, db.tickets id = some row →
    (activePolicies ws).Pairwise fun policy later => isScanned policy row = true →
      later.priority ≠ db.raisedPriority ws (clocks id) policy now id row

instance (ws : Workspace) (clocks : ℕ → Clock) (now : Instant) (db : Db) :
    Decidable (RaisesIntoNoTurn ws clocks now db) :=
  inferInstanceAs (Decidable (∀ id ∈ db.ticketIds, ∀ row ∈ db.tickets id, _))

/-- One run of the scan evaluates each ticket under the policy of its priority alone, exactly if no
rule raises one into a turn still to come. -/
theorem checkTenantSla_evaluatedOnce_iff (ws : Workspace) (clocks : ℕ → Clock) (now : Instant)
    (db : Db) (hkeys : db.ticketIds.Nodup) :
    EvaluatedOnce ws clocks now db ↔ RaisesIntoNoTurn ws clocks now db := by
  have hdistinct : ((activePolicies ws).map SLAPolicy.priority).Nodup :=
    ws.policies_priority.sublist (List.filter_sublist.map _)
  constructor
  · intro honce id hid row hrow
    rw [← evaluated_own_iff hkeys hid hrow hdistinct]
    intro policy hmem
    obtain ⟨⟨found, hfound, hpriority⟩, -⟩ := honce id policy hmem
    rw [hrow] at hfound
    exact Option.some.inj hfound ▸ hpriority
  · intro hpast id policy hmem
    obtain ⟨hpolicy, hid, row, hrow⟩ := stored_of_mem_evaluations hmem
    have hown := (evaluated_own_iff hkeys hid hrow hdistinct).mpr (hpast id hid row hrow)
    refine ⟨⟨row, hrow, hown policy hmem⟩, fun other hother => ?_⟩
    refine List.inj_on_of_nodup_map hdistinct (stored_of_mem_evaluations hother).1 hpolicy ?_
    rw [← hown other hother, ← hown policy hmem]

/-- Two hours for tickets of low priority. -/
def slowPolicy : SLAPolicy :=
  { pk := 2, priority := .low, firstResponseMinutes := 60, resolutionMinutes := 120 }

/-- A late ticket is raised. -/
def raisingRule : EscalationRule :=
  { pk := 8, slaPolicy := 2, trigger := .resolutionBreach, thresholdMinutes := 0
    action := .changePriority }

/-- A tenant with policies for low and for medium priority, in that order. -/
def Workspace.raising : Workspace :=
  { Workspace.seeded with
    policies := [slowPolicy, officePolicy]
    escalationRules := [raisingRule]
    policies_priority := by decide
    policies_pk := by decide
    escalationRules_pk := List.nodup_singleton _ }

/-- The tables of that tenant after a ticket of low priority came in. -/
def slowTicket : Db :=
  step .raising Db.empty
    { op := .createTicket 1 { id := 0, priority := .low }, req := { clock := ⟨0, 0, 0, 0⟩ } }

/-- After an hour, no rule is due. -/
theorem checkTenantSla_evaluatedOnce_iff_slowTicket :
    EvaluatedOnce .raising (fun _ => ⟨0, 0, 3600000000, 0⟩) 3600000000 slowTicket :=
  (checkTenantSla_evaluatedOnce_iff .raising _ _ slowTicket (by decide +kernel)).mpr
    (by decide +kernel)

/-- After two hours the ticket is raised, and evaluated once more as a ticket of medium priority. -/
theorem not_evaluatedOnce_slowTicket :
    ¬ EvaluatedOnce .raising (fun _ => ⟨0, 0, 7200000000, 0⟩) 7200000000 slowTicket := by
  intro honce
  have hfirst : (0, slowPolicy) ∈ evaluations .raising (fun _ => ⟨0, 0, 7200000000, 0⟩) 7200000000
      (activePolicies .raising) slowTicket := by decide +kernel
  have hagain : (0, officePolicy) ∈ evaluations .raising (fun _ => ⟨0, 0, 7200000000, 0⟩) 7200000000
      (activePolicies .raising) slowTicket := by decide +kernel
  have hsame := (honce 0 slowPolicy hfirst).2 officePolicy hagain
  exact absurd hsame (by decide)

end Kanzan.Tickets

import Kanzan.Tickets.Assignment

/-!
# The SLA scan

Elapsed time with pauses taken out, and the periodic task built on it: breach flags
first, then the escalation rules of the policy, each at most once a ticket as far as
the ticket's own timeline tells.
-/

namespace Kanzan.Tickets

open Sla

/-! ## Elapsed time -/

/-- Minutes of a span: business minutes under a configuration, else wall-clock ones. -/
def minutesBetween (config : Option BusinessConfig) (startUtc endUtc : Instant) : Minutes :=
  match config with
  | some config => countBusinessMinutes startUtc endUtc config
  | none => totalMinutes (endUtc - startUtc)

/-- `get_total_pause_minutes`, on the pauses of a ticket. -/
def getTotalPauseMinutes (pauses : List SLAPause) (startUtc endUtc : Instant)
    (config : Option BusinessConfig) : Minutes :=
  ((pauses.filter fun pause => startUtc ≤ pause.pausedAt).map fun pause =>
    minutesBetween config pause.pausedAt (pause.resumedAt.getD endUtc)).sum

def policyConfig (policy : SLAPolicy) (tenant : Tenant) : Option BusinessConfig :=
  if policy.businessHoursOnly then getBusinessConfig tenant else none

/-- `get_effective_elapsed_minutes`, for a ticket created at `createdAt`. -/
def getEffectiveElapsedMinutes (pauses : List SLAPause) (createdAt : Instant)
    (policy : SLAPolicy) (tenant : Tenant) (now : Instant) : Minutes :=
  let config := policyConfig policy tenant
  let rawElapsed := minutesBetween config createdAt now
  let pauseMinutes := getTotalPauseMinutes pauses createdAt now config
  max 0 (rawElapsed - pauseMinutes)

section Scan

variable (ws : Workspace)

/-- `_elapsed`: time since the last update, which pauses do not stop. -/
def elapsed (policy : SLAPolicy) (startUtc endUtc : Instant) : Minutes :=
  if policy.businessHoursOnly && ws.settings.isSome then
    elapsedBusinessMinutes startUtc endUtc ws.toTenant
  else totalMinutes (endUtc - startUtc)

/-! ## Executing a rule -/

def EscalationRule.assignee (rule : EscalationRule) : Option ℕ :=
  rule.targetUser.or
    (rule.targetRole.bind fun role =>
      (ws.memberships.find? fun membership =>
        membership.role == role && membership.isActive).map TenantMembership.user)

/-- The next entry of `priority_order`; an unexpected value counts as the lowest. -/
def Priority.escalated : Priority → Option Priority
  | .low => some .medium
  | .medium => some .high
  | .high => some .urgent
  | .urgent => none
  | .other _ => some .medium

/-- The `TicketActivity` row that marks a rule as fired. -/
def Session.fireRule (s : Session) (rule : EscalationRule) : Session :=
  { s with db := { s.db with
      activities := s.db.activities ++
        [{ ticket := s.id, event := .escalated, escalationRuleId := some rule.pk }]
      ruleLog := s.db.ruleLog ++ [(s.id, rule.pk)] } }

def performAction (clock : Clock) (now : Instant) (rule : EscalationRule) (s : Session) :
    Session :=
  match rule.action with
  | .assign =>
    match rule.assignee ws with
    | none => s
    | some user =>
      save ws clock [.assignee, .assignedAt, .updatedAt]
        (s.modify fun ticket => { ticket with assignee := some user, assignedAt := some now })
  | .notify => s
  | .changePriority =>
    match s.ticket.priority.escalated with
    | none => s
    | some priority =>
      save ws clock [.priority, .updatedAt] (s.modify fun ticket => { ticket with priority })

/-- `_execute_rule`: the action, then the timeline row. -/
def executeRule (clock : Clock) (now : Instant) (rule : EscalationRule) (s : Session) : Session :=
  (performAction ws clock now rule s).fireRule rule

/-- `EscalationRule.unscoped.filter(sla_policy=policy).order_by("order")`. -/
def rulesOf (policy : SLAPolicy) : List EscalationRule :=
  (ws.escalationRules.filter fun rule => rule.slaPolicy == policy.pk).insertionSort
    (fun a b => a.order ≤ b.order)

def ruleIsDue (policy : SLAPolicy) (effectiveElapsed : Minutes) (now : Instant)
    (rule : EscalationRule) (ticket : Ticket) : Bool :=
  match rule.trigger with
  | .responseBreach =>
    ticket.firstRespondedAt.isNone &&
      decide ((policy.firstResponseMinutes + rule.thresholdMinutes : ℕ) ≤ effectiveElapsed)
  | .resolutionBreach =>
    ticket.resolvedAt.isNone &&
      decide ((policy.resolutionMinutes + rule.thresholdMinutes : ℕ) ≤ effectiveElapsed)
  | .idleTime => decide (rule.thresholdMinutes ≤ elapsed ws policy ticket.updatedAt now)

/-- One pass of the loop of `_check_escalation_rules`. -/
def checkRule (clock : Clock) (policy : SLAPolicy) (firedRuleIds : List ℕ)
    (effectiveElapsed : Minutes) (now : Instant) (s : Session) (rule : EscalationRule) : Session :=
  if rule.pk ∈ firedRuleIds then s
  else if ruleIsDue ws policy effectiveElapsed now rule s.ticket then executeRule ws clock now rule s
  else s

def Session.effectiveElapsed (s : Session) (policy : SLAPolicy) (now : Instant) : Minutes :=
  getEffectiveElapsedMinutes (s.db.pausesOf s.id) s.ticket.createdAt policy ws.toTenant now

/-- `_check_escalation_rules`. -/
def checkEscalationRules (clock : Clock) (policy : SLAPolicy) (now : Instant) (s : Session) :
    Session :=
  let firedRuleIds := s.db.firedRuleIds s.id
  let effectiveElapsed := s.effectiveElapsed ws policy now
  (rulesOf ws policy).foldl
    (checkRule ws clock policy firedRuleIds effectiveElapsed now) s

/-! ## The scan -/

def responseBreached (policy : SLAPolicy) (effectiveElapsed : Minutes) (ticket : Ticket) : Bool :=
  !ticket.slaResponseBreached && ticket.firstRespondedAt.isNone &&
    decide ((policy.firstResponseMinutes : Minutes) < effectiveElapsed)

def resolutionBreached (policy : SLAPolicy) (effectiveElapsed : Minutes) (ticket : Ticket) :
    Bool :=
  !ticket.slaResolutionBreached && ticket.resolvedAt.isNone &&
    decide ((policy.resolutionMinutes : Minutes) < effectiveElapsed)

/-- The breach flags are saved, and reported, before the rules are looked at. -/
def flagBreaches (clock : Clock) (policy : SLAPolicy) (now : Instant) (s : Session) : Session :=
  let effectiveElapsed := s.effectiveElapsed ws policy now
  let response := responseBreached policy effectiveElapsed s.ticket
  let resolution := resolutionBreached policy effectiveElapsed s.ticket
  let updateFields :=
    (if response then [Column.slaResponseBreached] else []) ++
    (if resolution then [Column.slaResolutionBreached] else [])
  if updateFields = [] then s
  else
    let s := save ws clock (updateFields ++ [.updatedAt])
      (s.modify fun ticket =>
        { ticket with
          slaResponseBreached := ticket.slaResponseBreached || response
          slaResolutionBreached := ticket.slaResolutionBreached || resolution })
    let s := if response then s.log .escalated else s
    if resolution then s.log .escalated else s

variable {ws} in
/-- What a save of the flags establishes and the log keeps, or what there is without a breach. -/
theorem flagBreaches_rule {P : Bool → Session → Prop} {clock : Clock} {policy : SLAPolicy}
    {now : Instant} (s : Session) (idle : P false s)
    (saved : ∀ (response resolution : Bool) (columns : List Column), .updatedAt ∈ columns →
      columns ⊆ [.slaResponseBreached, .slaResolutionBreached, .updatedAt] →
      P true (save ws clock columns (s.modify fun ticket =>
        { ticket with
          slaResponseBreached := ticket.slaResponseBreached || response
          slaResolutionBreached := ticket.slaResolutionBreached || resolution })))
    (logged : ∀ s, P true s → P true (s.log .escalated)) :
    P (responseBreached policy (s.effectiveElapsed ws policy now) s.ticket ||
      resolutionBreached policy (s.effectiveElapsed ws policy now) s.ticket)
      (flagBreaches ws clock policy now s) := by
  unfold flagBreaches
  dsimp only
  generalize responseBreached policy (s.effectiveElapsed ws policy now) s.ticket = response
  generalize resolutionBreached policy (s.effectiveElapsed ws policy now) s.ticket = resolution
  cases response <;> cases resolution <;> simp only [Bool.false_eq_true, if_true, if_false,
    List.append_nil, List.nil_append, List.cons_append, reduceCtorEq]
  · exact idle
  · exact logged _ (saved _ _ _ (by decide) (by decide))
  · exact logged _ (saved _ _ _ (by decide) (by decide))
  · exact logged _ (logged _ (saved _ _ _ (by decide) (by decide)))

/-- `_check_ticket_sla`. -/
def checkTicketSla (clock : Clock) (policy : SLAPolicy) (now : Instant) (s : Session) : Session :=
  checkEscalationRules ws clock policy now (flagBreaches ws clock policy now s)

def isScanned (policy : SLAPolicy) (ticket : Ticket) : Bool :=
  ticket.priority == policy.priority && !ticket.isDeleted && !ticket.status.isClosed

/-- The inner loop of `_check_tenant_sla`; `clocks` are the readings taken while each
ticket is worked on. -/
def checkPolicySla (clocks : ℕ → Clock) (now : Instant) (db : Db) (policy : SLAPolicy) : Db :=
  (db.ticketIds.filter fun id => (db.tickets id).any (isScanned policy)).foldl
    (fun db id => db.withTicket id (checkTicketSla ws (clocks id) policy now)) db

/-- `_check_tenant_sla`. -/
def checkTenantSla (clocks : ℕ → Clock) (now : Instant) (db : Db) : Db :=
  (ws.policies.filter fun policy => policy.isActive).foldl (checkPolicySla ws clocks now) db

end Scan

end Kanzan.Tickets

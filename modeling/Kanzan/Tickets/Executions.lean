import Kanzan.Tickets.Effects

/-!
# Executions of escalation rules

The scan tells from a ticket's timeline which rules it has executed for it.  The timeline
says so truly until a merge moves it to another ticket, and then each rule is executed once
at most.  A rule that is due when a scan begins is executed by it, unless the scan's own
saves make the ticket look busy before its idle rules are reached.
-/

namespace Kanzan.Tickets

open Sla Support

variable {ws : Workspace} {req : Request} {clock : Clock} {policy : SLAPolicy} {now : Instant}
variable {s s' : Session}
variable {touched : Bool} {rule : EscalationRule} {event : Event} {ticket : Ticket} {other : ℕ}

/-! ## The record of executions -/

/-- The timelines name the rules that were executed for their tickets, each was executed once,
and the keys of the table are its rows. -/
structure Recorded (db : Db) : Prop where
  keys : ∀ id, id ∈ db.ticketIds ↔ (db.tickets id).isSome = true
  timeline : ∀ id rule, rule ∈ db.firedRuleIds id ↔ (id, rule) ∈ db.ruleLog
  once : db.ruleLog.Nodup

/-- What the record depends on is as it was. -/
structure SameRecord (db db' : Db) : Prop where
  ticketIds : db'.ticketIds = db.ticketIds
  stored : ∀ id, (db'.tickets id).isSome = (db.tickets id).isSome
  fired : ∀ id rule, rule ∈ db'.firedRuleIds id ↔ rule ∈ db.firedRuleIds id
  ruleLog : db'.ruleLog = db.ruleLog

theorem mem_firedRuleIds {db : Db} {id rule : ℕ} :
    rule ∈ db.firedRuleIds id ↔ ∃ activity ∈ db.activities,
      activity.ticket = id ∧ activity.event = .escalated ∧
        activity.escalationRuleId = some rule := by
  simp only [Db.firedRuleIds, List.mem_filterMap, List.mem_filter, Bool.and_eq_true, beq_iff_eq]
  constructor
  · rintro ⟨activity, ⟨hmem, hticket, hevent⟩, hrule⟩
    exact ⟨activity, hmem, hticket, hevent, hrule⟩
  · rintro ⟨activity, hmem, hticket, hevent, hrule⟩
    exact ⟨activity, ⟨hmem, hticket, hevent⟩, hrule⟩

theorem Untouched.sameRecord (untouched : Untouched s s') : SameRecord s.db s'.db where
  ticketIds := untouched.ticketIds
  stored := untouched.stored
  fired id rule := by rw [untouched.firedRuleIds id]
  ruleLog := untouched.ruleLog

theorem Recorded.of_same {db db' : Db} (recorded : Recorded db) (same : SameRecord db db') :
    Recorded db' where
  keys id := by rw [same.ticketIds, same.stored, recorded.keys]
  timeline id rule := by rw [same.fired, same.ruleLog, recorded.timeline]
  once := by
    rw [same.ruleLog]
    exact recorded.once

theorem sameRecord_updateWhere (db : Db) (id : ℕ) (edit : Ticket → Ticket) :
    SameRecord db (db.updateWhere id edit) where
  ticketIds := rfl
  stored other := by
    dsimp only [Db.updateWhere]
    split
    · exact Option.isSome_map
    · rfl
  fired _ _ := Iff.rfl
  ruleLog := rfl

/-- Moving a timeline that records no execution changes nothing on record. -/
theorem sameRecord_moveActivities {db : Db} {source : ℕ} (target : ℕ)
    (hnone : db.firedRuleIds source = []) : SameRecord db (db.moveActivities source target) where
  ticketIds := rfl
  stored _ := rfl
  fired id rule := by
    have hsource : ∀ activity ∈ db.activities, activity.ticket = source →
        activity.event = .escalated → activity.escalationRuleId ≠ some rule := by
      intro activity hmem hticket hevent hrule
      have hfired := mem_firedRuleIds.mpr ⟨activity, hmem, hticket, hevent, hrule⟩
      rw [hnone] at hfired
      cases hfired
    rw [mem_firedRuleIds, mem_firedRuleIds]
    simp only [Db.moveActivities, List.mem_map]
    constructor
    · rintro ⟨moved, ⟨activity, hmem, rfl⟩, hticket, hevent, hrule⟩
      split at hticket <;> rename_i hsame <;> simp only [hsame, if_true, if_false] at hevent hrule
      · exact absurd hrule (hsource activity hmem hsame hevent)
      · exact ⟨activity, hmem, hticket, hevent, hrule⟩
    · rintro ⟨activity, hmem, hticket, hevent, hrule⟩
      refine ⟨activity, ⟨activity, hmem, if_neg ?_⟩, hticket, hevent, hrule⟩
      intro hsame
      exact hsource activity hmem hsame hevent hrule
  ruleLog := rfl

theorem Recorded.insertTicket {db : Db} (recorded : Recorded db) (id : ℕ) (ticket : Ticket) :
    Recorded (db.insertTicket id ticket) where
  keys other := by
    dsimp only [Db.insertTicket]
    by_cases hsame : other = id
    · simp [hsame]
    · simp [hsame, recorded.keys other]
  timeline := recorded.timeline
  once := recorded.once

theorem mem_firedRuleIds_fireRule (s : Session) (rule : EscalationRule) (id other : ℕ) :
    other ∈ (s.fireRule rule).db.firedRuleIds id ↔
      other ∈ s.db.firedRuleIds id ∨ (id = s.id ∧ other = rule.pk) := by
  rw [mem_firedRuleIds, mem_firedRuleIds]
  simp only [Session.fireRule, List.mem_append, List.mem_singleton]
  constructor
  · rintro ⟨activity, hmem | rfl, hticket, hevent, hrule⟩
    · exact .inl ⟨activity, hmem, hticket, hevent, hrule⟩
    · exact .inr ⟨hticket.symm, (Option.some.inj hrule).symm⟩
  · rintro (⟨activity, hmem, hticket, hevent, hrule⟩ | ⟨rfl, rfl⟩)
    · exact ⟨activity, .inl hmem, hticket, hevent, hrule⟩
    · exact ⟨_, .inr rfl, rfl, rfl, rfl⟩

theorem Recorded.fireRule (recorded : Recorded s.db) (hunfired : rule.pk ∉ s.db.firedRuleIds s.id) :
    Recorded (s.fireRule rule).db where
  keys := recorded.keys
  timeline id other := by
    rw [mem_firedRuleIds_fireRule, recorded.timeline]
    simp [Session.fireRule]
  once := by
    rw [recorded.timeline] at hunfired
    exact List.nodup_append.mpr ⟨recorded.once, List.nodup_singleton _, by
      intro entry hentry other hother
      rw [List.mem_singleton.mp hother]
      intro hsame
      exact hunfired (hsame ▸ hentry)⟩

/-! ## Checking the rules of one ticket -/

def EscalationRule.saves (ws : Workspace) (rule : EscalationRule) (ticket : Ticket) : Bool :=
  match rule.action with
  | .assign => (rule.assignee ws).isSome
  | .notify => false
  | .changePriority => ticket.priority.escalated.isSome

theorem rulesOf_nodup (ws : Workspace) (policy : SLAPolicy) :
    ((rulesOf ws policy).map EscalationRule.pk).Nodup := by
  have hperm := List.perm_insertionSort (fun a b : EscalationRule => a.order ≤ b.order)
    (ws.escalationRules.filter fun rule => rule.slaPolicy == policy.pk)
  rw [rulesOf, (hperm.map EscalationRule.pk).nodup_iff]
  exact ws.escalationRules_pk.sublist (List.filter_sublist.map _)

variable (ws clock now) in
theorem performAction_untouched (s : Session) (rule : EscalationRule) :
    Untouched s (performAction ws clock now rule s) :=
  (performAction_edits s clock now rule).untouched

@[simp]
theorem executeRule_id (s : Session) (rule : EscalationRule) :
    (executeRule ws clock now rule s).id = s.id := (performAction_untouched _ _ _ s rule).id

theorem executeRule_ruleLog (s : Session) (rule : EscalationRule) :
    (executeRule ws clock now rule s).db.ruleLog = s.db.ruleLog ++ [(s.id, rule.pk)] := by
  have huntouched := performAction_untouched ws clock now s rule
  rw [executeRule, Session.fireRule]
  dsimp only
  rw [huntouched.ruleLog, huntouched.id]

section Rules

variable {fired : List ℕ} {minutes : Minutes}
variable {row : Ticket}

theorem checkRule_id (s : Session) (rule : EscalationRule) :
    (checkRule ws clock policy fired minutes now s rule).id = s.id := by
  unfold checkRule
  split
  · rfl
  split
  · exact executeRule_id s rule
  · rfl

theorem checkRule_grows (s : Session) (rule : EscalationRule) :
    s.db.ruleLog ⊆ (checkRule ws clock policy fired minutes now s rule).db.ruleLog := by
  unfold checkRule
  split
  · exact List.Subset.refl _
  split
  · rw [executeRule_ruleLog]
    exact List.subset_append_left _ _
  · exact List.Subset.refl _

theorem checkRules_grows (rules : List EscalationRule) (s : Session) :
    s.db.ruleLog ⊆
      (rules.foldl (checkRule ws clock policy fired minutes now) s).db.ruleLog :=
  subset_foldl (fun s : Session => s.db.ruleLog) checkRule_grows rules s

/-- Checking different rules keeps the record: what the timeline read before the loop misses,
none of the earlier passes has added. -/
theorem checkRules_recorded (rules : List EscalationRule) (s : Session) (recorded : Recorded s.db)
    (hdistinct : (rules.map EscalationRule.pk).Nodup)
    (hunfired : ∀ rule ∈ rules, rule.pk ∉ fired → rule.pk ∉ s.db.firedRuleIds s.id) :
    Recorded (rules.foldl (checkRule ws clock policy fired minutes now) s).db := by
  induction rules generalizing s with
  | nil => exact recorded
  | cons rule rest ih =>
    rw [List.map_cons, List.nodup_cons] at hdistinct
    rw [List.forall_mem_cons] at hunfired
    rw [List.foldl_cons]
    unfold checkRule
    split
    · exact ih s recorded hdistinct.2 hunfired.2
    rename_i hfresh
    split
    swap
    · exact ih s recorded hdistinct.2 hunfired.2
    have huntouched := performAction_untouched ws clock now s rule
    have hacted := recorded.of_same huntouched.sameRecord
    apply ih
    · apply hacted.fireRule
      rw [huntouched.id, huntouched.firedRuleIds]
      exact hunfired.1 hfresh
    · exact hdistinct.2
    · intro other hother hnot
      rw [executeRule_id, executeRule, mem_firedRuleIds_fireRule, huntouched.id,
        huntouched.firedRuleIds]
      rintro (hbefore | ⟨-, hsame⟩)
      · exact hunfired.2 other hother hnot hbefore
      · exact hdistinct.1 (hsame ▸ List.mem_map_of_mem hother)

/-- What the conditions of a rule read, and the columns that an earlier action may have changed:
all as in the row, or else saved since. -/
structure Agrees (row : Ticket) (clock : Clock) (touched : Bool) (s : Session) : Prop where
  settled : Settled s
  firstRespondedAt : s.ticket.firstRespondedAt = row.firstRespondedAt
  resolvedAt : s.ticket.resolvedAt = row.resolvedAt
  updatedAt : (s.ticket.updatedAt = row.updatedAt ∧ s.ticket.priority = row.priority) ∨
    (touched = true ∧ s.ticket.updatedAt = clock.autoNow)

theorem ruleIsDue_congr {a b : Ticket} (hresponse : a.firstRespondedAt = b.firstRespondedAt)
    (hresolved : a.resolvedAt = b.resolvedAt) (hupdated : a.updatedAt = b.updatedAt) :
    ruleIsDue ws policy minutes now rule a = ruleIsDue ws policy minutes now rule b := by
  unfold ruleIsDue
  rw [hresponse, hresolved, hupdated]

/-- A save of columns that the conditions do not read only refreshes `updated_at`. -/
theorem Agrees.save {row : Ticket} {touched : Bool} (columns : List Column)
    (agrees : Agrees row clock touched s) (edit : Ticket → Ticket)
    (hedit : ∀ ticket, (edit ticket).status = ticket.status ∧
      (edit ticket).firstRespondedAt = ticket.firstRespondedAt ∧
      (edit ticket).resolvedAt = ticket.resolvedAt)
    (hcolumns : .updatedAt ∈ columns) :
    Agrees row clock true (save ws clock columns (s.modify edit)) := by
  obtain ⟨hstatus, hresponse, hresolved⟩ := hedit s.ticket
  have hticket := save_of_same_ticket ws clock columns agrees.settled hstatus
  rw [Ticket.autoNow, if_pos hcolumns] at hticket
  obtain ⟨stored, hstored, hstoredStatus⟩ := agrees.settled
  refine ⟨?_, ?_, ?_, .inr ⟨rfl, ?_⟩⟩
  · exact save_settled (s := s.modify edit) hstored (.inr (hstoredStatus.trans hstatus.symm))
  · rw [hticket]
    exact hresponse.trans agrees.firstRespondedAt
  · rw [hticket]
    exact hresolved.trans agrees.resolvedAt
  · rw [hticket]

theorem Agrees.mono {more : Bool} (agrees : Agrees row clock touched s)
    (h : touched = true → more = true) : Agrees row clock more s where
  settled := agrees.settled
  firstRespondedAt := agrees.firstRespondedAt
  resolvedAt := agrees.resolvedAt
  updatedAt := agrees.updatedAt.imp_right fun saved => ⟨h saved.1, saved.2⟩

/-- An action either leaves the session alone or saves the ticket, and then it would have done so
to the row. -/
theorem performAction_agrees (agrees : Agrees row clock touched s) :
    Agrees row clock (touched || rule.saves ws row) (performAction ws clock now rule s) := by
  have hkept : Agrees row clock (touched || rule.saves ws row) s :=
    agrees.mono fun htouched => by simp [htouched]
  unfold performAction
  split
  · rename_i haction
    split
    · exact hkept
    · rename_i user hassignee
      refine (agrees.save [.assignee, .assignedAt, .updatedAt]
        (fun ticket => { ticket with assignee := some user, assignedAt := some now })
        (fun _ => ⟨rfl, rfl, rfl⟩) (by decide)).mono fun _ => ?_
      simp [EscalationRule.saves, haction, hassignee]
  · exact hkept
  · rename_i haction
    split
    · exact hkept
    · rename_i priority hescalated
      refine (agrees.save [.priority, .updatedAt]
        (fun ticket => { ticket with priority }) (fun _ => ⟨rfl, rfl, rfl⟩)
        (by decide)).mono fun _ => ?_
      rcases agrees.updatedAt with ⟨-, hpriority⟩ | ⟨htouched, -⟩
      · simp [EscalationRule.saves, haction, ← hpriority, hescalated]
      · simp [htouched]

theorem Agrees.fireRule (agrees : Agrees row clock touched s) (rule : EscalationRule) :
    Agrees row clock touched (s.fireRule rule) :=
  ⟨agrees.settled, agrees.firstRespondedAt, agrees.resolvedAt, agrees.updatedAt⟩

/--
No rule that is due on a row is held up by the saves before it: where the ticket was saved,
because of a flag or by an earlier rule that is due as well, the rule is due on a ticket
that was just updated.
-/
def rulesSurvive (ws : Workspace) (clock : Clock) (policy : SLAPolicy) (fired : List ℕ)
    (minutes : Minutes) (now : Instant) (row : Ticket) : Bool → List EscalationRule → Bool
  | _, [] => true
  | touched, rule :: rest =>
    let due := decide (rule.pk ∉ fired) && ruleIsDue ws policy minutes now rule row
    (!(touched && due) ||
        ruleIsDue ws policy minutes now rule { row with updatedAt := clock.autoNow }) &&
      rulesSurvive ws clock policy fired minutes now row
        (touched || (due && rule.saves ws row)) rest

theorem ruleIsDue_of_agrees (agrees : Agrees row clock touched s)
    (hdue : ruleIsDue ws policy minutes now rule row = true) (hsurvives : touched = true →
      ruleIsDue ws policy minutes now rule { row with updatedAt := clock.autoNow } = true) :
    ruleIsDue ws policy minutes now rule s.ticket = true := by
  rcases agrees.updatedAt with ⟨hupdated, -⟩ | ⟨htouched, hupdated⟩
  · rwa [ruleIsDue_congr agrees.firstRespondedAt agrees.resolvedAt hupdated]
  · rw [ruleIsDue_congr (b := { row with updatedAt := clock.autoNow }) agrees.firstRespondedAt
      agrees.resolvedAt hupdated]
    exact hsurvives htouched

theorem checkRule_agrees (agrees : Agrees row clock touched s) (rule : EscalationRule) :
    Agrees row clock (touched || (decide (rule.pk ∉ fired) &&
      ruleIsDue ws policy minutes now rule row && rule.saves ws row))
      (checkRule ws clock policy fired minutes now s rule) := by
  have hkept : ∀ more, Agrees row clock (touched || more) s := fun more =>
    agrees.mono fun htouched => by simp [htouched]
  unfold checkRule
  split
  · exact hkept _
  rename_i hfresh
  split
  swap
  · exact hkept _
  rename_i hdue
  refine ((performAction_agrees agrees).fireRule rule).mono fun hsaved => ?_
  rcases agrees.updatedAt with ⟨hupdated, -⟩ | ⟨htouched, -⟩
  · rw [ruleIsDue_congr agrees.firstRespondedAt agrees.resolvedAt hupdated] at hdue
    simpa [hfresh, hdue] using hsaved
  · simp [htouched]

theorem checkRules_complete (rules : List EscalationRule) (s : Session) (touched : Bool)
    (agrees : Agrees row clock touched s)
    (hsurvive : rulesSurvive ws clock policy fired minutes now row touched rules = true) :
    ∀ rule ∈ rules, rule.pk ∉ fired → ruleIsDue ws policy minutes now rule row = true →
      (s.id, rule.pk) ∈
        (rules.foldl (checkRule ws clock policy fired minutes now) s).db.ruleLog := by
  induction rules generalizing s touched with
  | nil =>
    intro rule hrule
    cases hrule
  | cons head rest ih =>
    rw [rulesSurvive, Bool.and_eq_true] at hsurvive
    obtain ⟨hhead, hrest⟩ := hsurvive
    have hlater := ih _ _ (checkRule_agrees agrees head) (by
      simpa only [Bool.and_assoc] using hrest)
    rw [checkRule_id] at hlater
    intro rule hrule hfresh hdue
    rcases List.mem_cons.mp hrule with rfl | hrule
    · -- its turn has come
      refine checkRules_grows rest _ ?_
      have hnow := ruleIsDue_of_agrees agrees hdue fun htouched => by
        simpa [htouched, hfresh, hdue] using hhead
      have hexecuted : checkRule ws clock policy fired minutes now s rule =
          executeRule ws clock now rule s := by
        unfold checkRule
        rw [if_neg hfresh, if_pos hnow]
      rw [hexecuted, executeRule_ruleLog]
      exact List.mem_append_right _ (List.mem_singleton_self _)
    · exact hlater rule hrule hfresh hdue

end Rules

/-! ## Checking one ticket -/

theorem Agrees.log {row : Ticket} (agrees : Agrees row clock touched s) (event : ActivityEvent) :
    Agrees row clock touched (s.log event) :=
  ⟨agrees.settled, agrees.firstRespondedAt, agrees.resolvedAt, agrees.updatedAt⟩

/-- Whether the scan raises a flag of a row, and so saves it before the rules are looked at. -/
def raisesFlag (policy : SLAPolicy) (minutes : Minutes) (row : Ticket) : Bool :=
  responseBreached policy minutes row || resolutionBreached policy minutes row

variable (ws clock policy now) in
theorem flagBreaches_agrees (settled : Settled s) :
    Agrees s.ticket clock (raisesFlag policy (s.effectiveElapsed ws policy now) s.ticket)
      (flagBreaches ws clock policy now s) := by
  have agrees : Agrees s.ticket clock false s := ⟨settled, rfl, rfl, .inl ⟨rfl, rfl⟩⟩
  exact flagBreaches_rule (P := Agrees s.ticket clock) s agrees
    (fun _ _ saved hsaved _ => agrees.save saved _ (fun _ => ⟨rfl, rfl, rfl⟩) hsaved)
    fun _ h => h.log _

def Db.elapsedMinutes (ws : Workspace) (db : Db) (id : ℕ) (policy : SLAPolicy) (now : Instant)
    (row : Ticket) : Minutes :=
  getEffectiveElapsedMinutes (db.pausesOf id) row.createdAt policy ws.toTenant now

theorem effectiveElapsed_flagBreaches (settled : Settled s) :
    (flagBreaches ws clock policy now s).effectiveElapsed ws policy now =
      s.effectiveElapsed ws policy now := by
  have edits := flagBreaches_edits ws s clock policy now
  have hcreated := (edits.keeps (by decide) settled Ticket.createdAt (fun _ _ => rfl)
    (fun _ _ => rfl) (fun _ _ _ => rfl)).1
  rw [Session.effectiveElapsed, Session.effectiveElapsed, edits.untouched.id, Db.pausesOf,
    edits.pauses (by decide) settled, hcreated]
  rfl

theorem checkTicketSla_recorded (recorded : Recorded s.db) :
    Recorded (checkTicketSla ws clock policy now s).db := by
  have huntouched := (flagBreaches_edits ws s clock policy now).untouched
  exact checkRules_recorded _ _ (recorded.of_same huntouched.sameRecord)
    (rulesOf_nodup ws policy) fun _ _ hunfired => hunfired

variable (ws clock policy now) in
/-- Every rule of the policy that is due on a loaded row, and survives, is executed. -/
theorem checkTicketSla_complete (settled : Settled s)
    (hsurvive : rulesSurvive ws clock policy (s.db.firedRuleIds s.id)
      (s.effectiveElapsed ws policy now) now s.ticket
      (raisesFlag policy (s.effectiveElapsed ws policy now) s.ticket) (rulesOf ws policy) = true) :
    ∀ rule ∈ rulesOf ws policy, rule.pk ∉ s.db.firedRuleIds s.id →
      ruleIsDue ws policy (s.effectiveElapsed ws policy now) now rule s.ticket = true →
      (s.id, rule.pk) ∈ (checkTicketSla ws clock policy now s).db.ruleLog := by
  have huntouched := (flagBreaches_edits ws s clock policy now).untouched
  have hcomplete := checkRules_complete (rulesOf ws policy) _ _
    (flagBreaches_agrees ws clock policy now settled)
    hsurvive
  rw [checkTicketSla, checkEscalationRules, effectiveElapsed_flagBreaches settled,
    huntouched.firedRuleIds, huntouched.id]
  rwa [huntouched.id] at hcomplete

theorem checkTicketSla_grows (s : Session) :
    s.db.ruleLog ⊆ (checkTicketSla ws clock policy now s).db.ruleLog := by
  have huntouched := (flagBreaches_edits ws s clock policy now).untouched
  rw [← huntouched.ruleLog]
  exact checkRules_grows _ _

theorem checkTicketSla_ticketIds (s : Session) :
    (checkTicketSla ws clock policy now s).db.ticketIds = s.db.ticketIds := by
  have huntouched := (flagBreaches_edits ws s clock policy now).untouched
  refine List.foldlRecOn
    (motive := fun t : Session => t.db.ticketIds = s.db.ticketIds) _ _ huntouched.ticketIds ?_
  intro t hkept rule _
  unfold checkRule
  split
  · exact hkept
  split
  · exact (performAction_untouched _ _ _ t rule).ticketIds.trans hkept
  · exact hkept

/-! ## The scan as a whole -/

/-- What the scan reads about a ticket. -/
structure Observed (id : ℕ) (row : Ticket) (pauses : List SLAPause) (fired : List ℕ) (db : Db) :
    Prop where
  row : db.tickets id = some row
  pauses : db.pausesOf id = pauses
  fired : db.firedRuleIds id = fired

section Observed

variable {id : ℕ} {row : Ticket} {pauses : List SLAPause} {fired : List ℕ}

theorem Observed.untouched (observed : Observed id row pauses fired s.db) (hother : id ≠ s.id)
    (untouched : Untouched s s') : Observed id row pauses fired s'.db where
  row := (untouched.others id hother).trans observed.row
  pauses := (untouched.pauses id hother).trans observed.pauses
  fired := (untouched.firedRuleIds id).trans observed.fired

theorem Observed.fireRule (observed : Observed id row pauses fired s.db) (hother : id ≠ s.id)
    (rule : EscalationRule) : Observed id row pauses fired (s.fireRule rule).db where
  row := observed.row
  pauses := observed.pauses
  fired := by
    rw [← observed.fired]
    simp [Db.firedRuleIds, Session.fireRule, hother.symm]

theorem checkTicketSla_observed (observed : Observed id row pauses fired s.db)
    (hother : id ≠ s.id) :
    Observed id row pauses fired (checkTicketSla ws clock policy now s).db := by
  have huntouched := (flagBreaches_edits ws s clock policy now).untouched
  suffices hrules : id ≠ (checkTicketSla ws clock policy now s).id ∧
      Observed id row pauses fired (checkTicketSla ws clock policy now s).db from hrules.2
  refine List.foldlRecOn
    (motive := fun t : Session => id ≠ t.id ∧ Observed id row pauses fired t.db)
    _ _ ⟨?_, observed.untouched hother huntouched⟩ ?_
  · rwa [huntouched.id]
  · rintro s ⟨hother, observed⟩ rule -
    have hacted := performAction_untouched ws clock now s rule
    refine ⟨by rwa [checkRule_id], ?_⟩
    unfold checkRule
    split
    · exact observed
    split
    · exact (observed.untouched hother hacted).fireRule (by rwa [hacted.id]) rule
    · exact observed

end Observed

theorem withTicket_of_some {db : Db} {id : ℕ} (hticket : db.tickets id = some ticket)
    (work : Session → Session) : db.withTicket id work = (work { db, id, ticket }).db := by
  simp only [Db.withTicket, hticket]

theorem settled_of_row {db : Db} {id : ℕ} (hticket : db.tickets id = some ticket) :
    Settled { db, id, ticket } := ⟨ticket, hticket, rfl⟩

/-- No rule of the policy that is due on a row when the scan begins is held up. -/
def Db.rulesSurvive (ws : Workspace) (clock : Clock) (policy : SLAPolicy) (now : Instant) (db : Db)
    (id : ℕ) (row : Ticket) : Bool :=
  let minutes := db.elapsedMinutes ws id policy now row
  Tickets.rulesSurvive ws clock policy (db.firedRuleIds id) minutes now row
    (raisesFlag policy minutes row) (rulesOf ws policy)

section Scan

variable {clocks : ℕ → Clock} {db : Db} {id : ℕ} {row : Ticket}
variable {pauses : List SLAPause} {fired : List ℕ}

def scanTicket (ws : Workspace) (clocks : ℕ → Clock) (policy : SLAPolicy) (now : Instant) (db : Db)
    (id : ℕ) : Db :=
  db.withTicket id (checkTicketSla ws (clocks id) policy now)

theorem scanTicket_recorded (recorded : Recorded db) (id : ℕ) :
    Recorded (scanTicket ws clocks policy now db id) := by
  unfold scanTicket
  cases hticket : db.tickets id with
  | none => simpa only [Db.withTicket, hticket] using recorded
  | some ticket =>
    rw [withTicket_of_some hticket]
    exact checkTicketSla_recorded recorded

theorem scanTicket_grows (db : Db) (id : ℕ) :
    db.ruleLog ⊆ (scanTicket ws clocks policy now db id).ruleLog := by
  unfold scanTicket
  cases hticket : db.tickets id with
  | none => simp only [Db.withTicket, hticket, List.Subset.refl]
  | some ticket =>
    rw [withTicket_of_some hticket]
    exact checkTicketSla_grows (s := { db, id, ticket })

variable (ws clocks policy now) in
theorem scanTicket_ticketIds (db : Db) (id : ℕ) :
    (scanTicket ws clocks policy now db id).ticketIds = db.ticketIds := by
  unfold scanTicket
  cases hticket : db.tickets id with
  | none => simp only [Db.withTicket, hticket]
  | some ticket =>
    rw [withTicket_of_some hticket]
    exact checkTicketSla_ticketIds { db, id, ticket }

theorem scanTicket_observed (observed : Observed id row pauses fired db) (hother : id ≠ other) :
    Observed id row pauses fired (scanTicket ws clocks policy now db other) := by
  unfold scanTicket
  cases hticket : db.tickets other with
  | none => simpa only [Db.withTicket, hticket] using observed
  | some ticket =>
    rw [withTicket_of_some hticket]
    exact checkTicketSla_observed (s := { db, id := other, ticket }) observed hother

theorem checkPolicySla_grows (db : Db) (policy : SLAPolicy) :
    db.ruleLog ⊆ (checkPolicySla ws clocks now db policy).ruleLog :=
  subset_foldl Db.ruleLog scanTicket_grows _ db

theorem checkTenantSla_recorded (recorded : Recorded db) :
    Recorded (checkTenantSla ws clocks now db) :=
  List.foldlRecOn _ _ recorded fun _ recorded _ _ =>
    List.foldlRecOn _ _ recorded fun _ recorded id _ => scanTicket_recorded recorded id

/-- What the passes over the policies keep until the ticket is looked at. -/
structure Awaiting (start : Db) (id : ℕ) (row : Ticket) (db : Db) : Prop where
  stored : id ∈ db.ticketIds
  observed : Observed id row (start.pausesOf id) (start.firedRuleIds id) db

theorem scanTicket_awaiting {start : Db} (awaiting : Awaiting start id row db) (hother : id ≠ other)
    : Awaiting start id row (scanTicket ws clocks policy now db other) where
  stored := by
    have hids := scanTicket_ticketIds ws policy now clocks db other
    rw [hids]
    exact awaiting.stored
  observed := scanTicket_observed awaiting.observed hother

/-- The scan executes every rule that is due when it begins, if its saves hold none up. -/
theorem checkTenantSla_complete (recorded : Recorded db) (hpolicy : policy ∈ ws.policies)
    (hactive : policy.isActive = true) (hrow : db.tickets id = some row)
    (hscanned : isScanned policy row = true)
    (hsurvive : db.rulesSurvive ws (clocks id) policy now id row = true)
    (hrule : rule ∈ rulesOf ws policy) (hfresh : (id, rule.pk) ∉ db.ruleLog)
    (hdue : ruleIsDue ws policy (db.elapsedMinutes ws id policy now row) now rule row = true) :
    (id, rule.pk) ∈ (checkTenantSla ws clocks now db).ruleLog := by
  have hunfired : rule.pk ∉ db.firedRuleIds id := by rwa [recorded.timeline]
  have awaiting : Awaiting db id row db :=
    ⟨(recorded.keys id).mpr (by rw [hrow]; rfl), hrow, rfl, rfl⟩
  refine mem_foldl_of_turn Db.ruleLog (I := Awaiting db id row) (a := policy)
    checkPolicySla_grows ?_ (List.mem_filter.mpr ⟨hpolicy, hactive⟩) ?_ awaiting
  · -- the pass over the policy of the ticket reaches it
    intro current awaiting
    refine mem_foldl_of_turn Db.ruleLog (I := Awaiting db id row) (a := id)
      scanTicket_grows ?_ ?_ (fun _ other _ hother awaiting =>
        scanTicket_awaiting awaiting (Ne.symm hother)) awaiting
    · intro reached awaiting
      have hcomplete := checkTicketSla_complete ws (clocks id) policy now
        (settled_of_row awaiting.observed.row)
      have hpauses := awaiting.observed.pauses
      have hfired := awaiting.observed.fired
      dsimp only [Session.effectiveElapsed] at hcomplete
      rw [hpauses, hfired] at hcomplete
      unfold scanTicket
      rw [withTicket_of_some awaiting.observed.row]
      exact hcomplete hsurvive rule hrule hunfired hdue
    · rw [List.mem_filter, awaiting.observed.row]
      exact ⟨awaiting.stored, hscanned⟩
  · -- the passes over the other policies leave it out
    intro current other hother hne awaiting
    refine List.foldlRecOn _ _ awaiting fun reached hreached another hanother => ?_
    refine scanTicket_awaiting hreached ?_
    rintro rfl
    rw [List.mem_filter, awaiting.observed.row] at hanother
    have hpriority : ∀ policy : SLAPolicy, isScanned policy row = true →
        row.priority = policy.priority := by
      intro policy hscanned
      simp only [isScanned, Bool.and_eq_true, beq_iff_eq] at hscanned
      exact hscanned.1.1
    refine hne (List.inj_on_of_nodup_map ws.policies_priority (List.mem_filter.mp hother).1
      hpolicy ?_)
    rw [← hpriority other hanother.2, ← hpriority policy hscanned]

end Scan

/-! ## The other operations -/

theorem carried_recorded (columns : List Column) :
    Carried ws columns Recorded (fun s => Recorded s.db) where
  load recorded _ := recorded
  store recorded := recorded
  edits edits recorded := recorded.of_same edits.untouched.sameRecord

variable (ws clock) in
theorem saveDraft_recorded (draft : Draft) (recorded : Recorded s.db) :
    Recorded (saveDraft ws clock draft s).db :=
  recorded.of_same (saveDraft_untouched _ _ draft s).sameRecord

theorem log_recorded (recorded : Recorded s.db) (event : ActivityEvent) :
    Recorded (s.log event).db :=
  recorded.of_same (Untouched.log s event).sameRecord

theorem changeTicketStatus_recorded (newStatus : TicketStatus) (s : Session)
    (recorded : Recorded s.db) : Recorded (changeTicketStatus ws req newStatus s).db := by
  unfold changeTicketStatus
  dsimp only
  split
  · exact recorded
  have hlogged := log_recorded (saveDraft_recorded ws req.clock
    (statusDraft req newStatus s.ticket) recorded) (statusEvent s.ticket.status newStatus)
  split
  · exact ⟨hlogged.keys, hlogged.timeline, hlogged.once⟩
  · exact hlogged

/-- A merge moves no execution away from its ticket, and a scan's own saves hold up no rule. -/
def keepsExecutions (ws : Workspace) (db : Db) (event : Event) : Bool :=
  match event.op with
  | .mergeTickets primary secondary =>
    primary == secondary || (db.tickets primary).isNone || (db.firedRuleIds secondary).isEmpty
  | .checkTenantSla clocks now =>
    (ws.policies.filter fun policy => policy.isActive).all fun policy =>
      db.ticketIds.all fun id => (db.tickets id).all fun row =>
        !isScanned policy row || db.rulesSurvive ws (clocks id) policy now id row
  | _ => true

/-- No rule was executed twice for a ticket, and a scan executes every rule that is due on a
ticket under its policy and was not executed for it before. -/
def ExecutesRules (ws : Workspace) (db : Db) (event : Event) : Prop :=
  (step ws db event).ruleLog.Nodup ∧
    match event.op with
    | .checkTenantSla _ now =>
      ∀ policy ∈ ws.policies, policy.isActive = true →
        ∀ id row, db.tickets id = some row → isScanned policy row = true →
          ∀ rule ∈ rulesOf ws policy, (id, rule.pk) ∉ db.ruleLog →
            ruleIsDue ws policy (db.elapsedMinutes ws id policy now row) now rule row = true →
            (id, rule.pk) ∈ (step ws db event).ruleLog
    | _ => True

theorem mergeTickets_recorded {primary : ℕ} (recorded : Recorded s.db)
    (hnone : s.db.firedRuleIds s.id = []) (success : mergeTickets ws req primary s = .ok s') :
    Recorded s'.db := by
  obtain ⟨-, rfl⟩ := mergeTickets_cases success
  have hmoved := recorded.of_same (sameRecord_moveActivities primary hnone)
  have hsaved := saveDraft_recorded ws req.clock
    (s := { s with db := s.db.moveActivities s.id primary }) (mergeDraft ws req primary s.ticket) hmoved
  exact hsaved.of_same (Untouched.createTicketActivity _ primary .statusChanged).sameRecord

theorem attempt_recorded {db after : Db} (recorded : Recorded db)
    (hkeeps : keepsExecutions ws db event = true)
    (success : attempt ws event.req event.op db = .ok after) : Recorded after := by
  obtain ⟨op, req, brokerUp⟩ := event
  have hrouted := fun hrouted : op.isRouted = true =>
    routed_keeps (I := fun s => Recorded s.db) (carried_recorded _)
      changeTicketStatus_recorded
      (fun db id recorded => recorded.of_same (sameRecord_updateWhere db id _))
      recorded hrouted success
  have hcreation := fun hcreation : op.isCreation = true => creation_cases hcreation success
  cases op
  case createTicket | createTicketFromEmail | splitTicket =>
    all_goals
      obtain ⟨id, ticket, status, t, -, -, -, edits, rfl⟩ := hcreation rfl
      exact (recorded.insertTicket id ticket).of_same edits.untouched.sameRecord
  case transitionTicketStatus | bulkChangeStatus | moveCard | closeTicket | applyMacro |
      autoCloseTicket =>
    all_goals exact hrouted rfl
  case escalateTicket | changeTicketPriority | addTags | softDelete | recordFirstResponse |
      autoAssignTicket | autoAssignEmailTicket | saveSlaPolicy =>
    all_goals exact (carried_recorded _).attempt rfl recorded success
  case assignTicket id assignee note =>
    obtain ⟨ticket, t, hticket, hok, rfl⟩ := onTicket_eq_ok.mp success
    obtain ⟨-, events, rfl⟩ := assignTicket_cases hok
    have hsaved := saveDraft_recorded ws req.clock (s := { db, id, ticket })
      (assignDraft ws req assignee ticket) recorded
    exact List.foldlRecOn (motive := fun t : Session => Recorded t.db) events _
      (hsaved.of_same (Untouched.createAssignment _ _).sameRecord)
      fun _ recorded event _ => log_recorded recorded event
  case mergeTickets primary secondary =>
    dsimp only [attempt] at success
    split at success
    · cases success
    rename_i hprimary
    obtain ⟨ticket, t, hticket, hok, rfl⟩ := onTicket_eq_ok.mp success
    have hnone : db.firedRuleIds secondary = [] := by
      simp only [keepsExecutions, Bool.or_eq_true, beq_iff_eq, List.isEmpty_iff] at hkeeps
      obtain (hsame | hmissing) | hnone := hkeeps
      · exact absurd hsame (mergeTickets_cases hok).1
      · exact absurd hmissing hprimary
      · exact hnone
    exact mergeTickets_recorded recorded hnone hok
  case transitionPipelineStage id newStage reason =>
    obtain ⟨ticket, t, hticket, hok, rfl⟩ := onTicket_eq_ok.mp success
    obtain rfl | ⟨-, rfl⟩ := transitionPipelineStage_cases hok
    · exact recorded
    · exact log_recorded (saveDraft_recorded _ _ _ recorded) _
  case addReplyToTicket id inbound =>
    dsimp only [attempt] at success
    obtain ⟨ticket, t, hticket, hok, rfl⟩ := onTicket_eq_ok.mp success
    rw [← Except.ok.inj hok, addReplyToTicket_eq]
    split
    · exact recorded
    have hresumed := recorded.of_same (resumeForReply_untouched ws req inbound
      { db, id, ticket }).sameRecord
    unfold changeStatusTo
    split
    · exact hresumed
    · exact changeTicketStatus_recorded _ _ hresumed
  case checkTenantSla clocks now =>
    rw [← Except.ok.inj success]
    exact checkTenantSla_recorded recorded

theorem recorded_empty : Recorded Db.empty :=
  ⟨by simp [Db.empty], by simp [Db.empty, Db.firedRuleIds], List.nodup_nil⟩

theorem step_recorded {db : Db} (recorded : Recorded db)
    (hkeeps : keepsExecutions ws db event = true) : Recorded (step ws db event) := by
  refine step_preserves recorded fun after success => ?_
  refine commit_keeps ?_ ?_ (attempt_recorded recorded hkeeps success)
  · intro db tasks hooks recorded
    exact ⟨recorded.keys, recorded.timeline, recorded.once⟩
  · intro db ticket taskId recorded
    exact recorded.of_same (sameRecord_updateWhere db ticket _)

theorem commit_ruleLog (brokerUp : Bool) (db : Db) : (db.commit brokerUp).ruleLog = db.ruleLog :=
  commit_keeps (P := fun committed => committed.ruleLog = db.ruleLog) (fun _ _ _ same => same)
    (fun _ _ _ same => same) rfl

theorem Recorded.executesRules {db : Db} (recorded : Recorded db)
    (hkeeps : keepsExecutions ws db event = true) : ExecutesRules ws db event := by
  refine ⟨(step_recorded recorded hkeeps).once, ?_⟩
  obtain ⟨op, req, brokerUp⟩ := event
  cases op
  case checkTenantSla clocks now =>
    intro policy hpolicy hactive id row hrow hscanned rule hrule hfresh hdue
    have hsurvive := List.all_eq_true.mp (List.all_eq_true.mp hkeeps policy
      (List.mem_filter.mpr ⟨hpolicy, hactive⟩)) id ((recorded.keys id).mpr (by rw [hrow]; rfl))
    rw [hrow, Option.all_some, hscanned, Bool.not_true, Bool.false_or] at hsurvive
    dsimp only [step, attempt]
    rw [commit_ruleLog]
    exact checkTenantSla_complete recorded hpolicy hactive hrow hscanned hsurvive hrule hfresh hdue
  all_goals trivial

/-- In every run of admitted steps, each rule is executed at most once for a ticket, and every
scan executes the rules that are due. -/
theorem rules_executed_throughout (ws : Workspace) (events : List Event)
    (hkeeps : Every (step ws) (fun db event => keepsExecutions ws db event = true)
      Db.empty events) :
    Every (step ws) (ExecutesRules ws) Db.empty events := by
  refine every_of_invariant Recorded ?_ ?_ ?_ events hkeeps
  · intro db event recorded hadmitted
    exact recorded.executesRules hadmitted
  · intro db event recorded hadmitted
    exact step_recorded recorded hadmitted
  · exact recorded_empty

/-- A rule for tickets that nobody touched for half an hour. -/
def idleRule : EscalationRule :=
  { pk := 7, slaPolicy := 1, trigger := .idleTime, thresholdMinutes := 30, action := .notify }

/-- A tenant without business hours that watches over its idle tickets. -/
def Workspace.watchful : Workspace :=
  { Workspace.seeded with
    policies := [officePolicy]
    escalationRules := [idleRule]
    policies_priority := officePolicy_priority
    policies_pk := officePolicy_pk
    escalationRules_pk := List.nodup_singleton _ }

/-- The ticket that the tenant watches over comes in. -/
def watchedCreation : Event :=
  { op := .createTicket 1 { id := 0 }, req := { clock := ⟨0, 0, 0, 0⟩ } }

/-- An idle ticket is scanned twice, and another one is merged into it. -/
def watchedTicket : List Event :=
  [ watchedCreation,
    { op := .createTicket 1 { id := 1, priority := .low }, req := { clock := ⟨0, 0, 0, 0⟩ } },
    { op := .checkTenantSla (fun _ => ⟨0, 0, 1800000000, 0⟩) 1800000000
      req := { clock := ⟨0, 0, 0, 0⟩ } },
    { op := .mergeTickets 0 1, req := { clock := ⟨1900000000, 1900000000, 1900000000, 1900000000⟩ } },
    { op := .checkTenantSla (fun _ => ⟨0, 0, 7200000000, 0⟩) 7200000000
      req := { clock := ⟨0, 0, 0, 0⟩ } } ]

theorem rules_executed_on_watchedTicket :
    Every (step .watchful) (ExecutesRules .watchful) Db.empty watchedTicket :=
  rules_executed_throughout .watchful watchedTicket (by decide +kernel)

/-- A ticket is scanned for the first time after two hours. -/
def overdueTicket : List Event :=
  [ watchedCreation,
    { op := .checkTenantSla (fun _ => ⟨0, 0, 7200000000, 0⟩) 7200000000
      req := { clock := ⟨0, 0, 0, 0⟩ } } ]

/-- The scan saves the breach flags of the idle ticket, and it no longer looks idle. -/
theorem rules_skipped_on_overdueTicket :
    ¬ Every (step .watchful) (ExecutesRules .watchful) Db.empty overdueTicket := by
  rintro ⟨-, ⟨-, hscan⟩, -⟩
  have hstored : ∃ row, (step .watchful Db.empty watchedCreation).tickets 0 = some row ∧
      isScanned officePolicy row = true ∧ ruleIsDue .watchful officePolicy
        ((step .watchful Db.empty watchedCreation).elapsedMinutes .watchful 0 officePolicy
          7200000000 row) 7200000000 idleRule row = true := by
    refine ⟨_, rfl, ?_, ?_⟩ <;> decide +kernel
  obtain ⟨row, hrow, hscanned, hdue⟩ := hstored
  have hexecuted := hscan officePolicy (by decide) rfl 0 row hrow hscanned idleRule (by decide)
    (by decide) hdue
  exact absurd hexecuted (by decide +kernel)

end Kanzan.Tickets

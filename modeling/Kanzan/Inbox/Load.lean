import Kanzan.Inbox.ServiceLaws

/-!
# Workload counters

When the counter of every agent is the number of work items that he carries: his open
tickets, and the emails that he has not finished.
-/

namespace Kanzan.Inbox

open Sla Support Agents Tickets

/-! ## Work items -/

def HubEmail.carrier (he : HubEmail) : Option ℕ :=
  if activeStates.contains he.state then he.assignee else none

def ticketHolder (ticket : Ticket) : Option ℕ :=
  if ticket.status.isClosed || ticket.isDeleted then none else ticket.assignee

def workItems (db : HubDb) (user : ℕ) : ℕ :=
  countTickets db.tickets (fun ticket => ticketHolder ticket == some user) +
    countEmails db (fun he => he.carrier == some user)

/-- Every counter is the number of work items. -/
def Balanced (db : HubDb) : Prop :=
  ∀ user avail, db.agents user = some avail → avail.currentTicketCount = workItems db user

/-- The lists of keys are those of the tables. -/
structure HubDb.Indexed (db : HubDb) : Prop where
  emails : Listed db.emails db.emailIds
  tickets : Listed db.tickets.tickets db.tickets.ticketIds

def known (db : HubDb) (user : Option ℕ) : Option ℕ :=
  user.filter fun user => (db.agents user).isSome

/-! ## What keeps the balance -/

def opensClosed (hub : Hub) (overrides : NewTicket) : Bool :=
  (emailTicketStatus hub.workspace overrides).any TicketStatus.isClosed

def ConversionBalances (hub : Hub) (overrides : NewTicket) (db : HubDb) (he : HubEmail) : Prop :=
  if opensClosed hub overrides then
    known db he.carrier = none ∧ known db (emailTicketAgent hub overrides db) = none
  else known db he.carrier = known db overrides.assignee

/-- Where an operation leaves the counters right that it finds right. -/
def KeepsBalance (hub : Hub) (db : HubDb) (event : HubEvent) : Prop :=
  match event.op with
  | .reassign id newUser _ =>
    ∀ he ∈ db.emails id, hub.workspace.isActiveMember newUser = true → he.state = .resolved →
      he.assignee ≠ some newUser → known db (some newUser) = none ∧
        ∀ oldUser ∈ he.assignee, ∀ avail ∈ db.agents oldUser, avail.currentTicketCount = 0
  | .transition id newState =>
    ∀ he ∈ db.emails id, canTransition he.state newState = true →
      activeStates.contains newState = activeStates.contains he.state ∨
        known db he.assignee = none
  | .dismiss id _ => ∀ he ∈ db.emails id, known db he.carrier = none
  | .convert id _ overrides =>
    ∀ he ∈ db.emails id, he.state ≠ .dismissed → he.existingTicket = none →
      canCreateFromEmail hub.workspace overrides db.tickets = true →
        ConversionBalances hub overrides db he
  | .autoAssignTicket id =>
    ∀ ticket ∈ db.tickets.tickets id, getAvailableAgent ticket.queue db ≠ none →
      ticket.status.isClosed = false ∧ ticket.isDeleted = false ∧
        known db ticket.assignee = none
  | .updateTicketCount user =>
    known db (some user) ≠ none →
      countTickets db.tickets (fun ticket => assignedOpen user ticket && ticket.isDeleted) =
        countEmails db fun he => he.carrier == some user
  | _ => True

instance (hub : Hub) (overrides : NewTicket) (db : HubDb) (he : HubEmail) :
    Decidable (ConversionBalances hub overrides db he) :=
  inferInstanceAs (Decidable (if opensClosed hub overrides = true then
      known db he.carrier = none ∧ known db (emailTicketAgent hub overrides db) = none
    else known db he.carrier = known db overrides.assignee))

instance (hub : Hub) (db : HubDb) : (event : HubEvent) → Decidable (KeepsBalance hub db event)
  | ⟨.reassign id newUser _, _⟩ =>
    inferInstanceAs (Decidable (∀ he ∈ db.emails id,
      hub.workspace.isActiveMember newUser = true → he.state = .resolved →
        he.assignee ≠ some newUser → known db (some newUser) = none ∧
          ∀ oldUser ∈ he.assignee, ∀ avail ∈ db.agents oldUser, avail.currentTicketCount = 0))
  | ⟨.transition id newState, _⟩ =>
    inferInstanceAs (Decidable (∀ he ∈ db.emails id, canTransition he.state newState = true →
      activeStates.contains newState = activeStates.contains he.state ∨
        known db he.assignee = none))
  | ⟨.dismiss id _, _⟩ => inferInstanceAs (Decidable (∀ he ∈ db.emails id, known db he.carrier = none))
  | ⟨.convert id _ overrides, _⟩ =>
    inferInstanceAs (Decidable (∀ he ∈ db.emails id, he.state ≠ .dismissed →
      he.existingTicket = none → canCreateFromEmail hub.workspace overrides db.tickets = true →
        ConversionBalances hub overrides db he))
  | ⟨.autoAssignTicket id, _⟩ =>
    inferInstanceAs (Decidable (∀ ticket ∈ db.tickets.tickets id,
      getAvailableAgent ticket.queue db ≠ none → ticket.status.isClosed = false ∧
        ticket.isDeleted = false ∧ known db ticket.assignee = none))
  | ⟨.updateTicketCount user, _⟩ =>
    inferInstanceAs (Decidable (known db (some user) ≠ none →
      countTickets db.tickets (fun ticket => assignedOpen user ticket && ticket.isDeleted) =
        countEmails db fun he => he.carrier == some user))
  | ⟨.park .., _⟩ | ⟨.tryAssign _, _⟩ | ⟨.assignTo .., _⟩ | ⟨.drain _, _⟩ | ⟨.escalate _, _⟩
  | ⟨.sweep _, _⟩ => isTrue trivial

/-! ## Changes of counters and work items -/

def unit (who : Option ℕ) (user : ℕ) : ℕ := (who == some user).toNat

/-- Counters after some user was charged with an item and another one was relieved of one. -/
def Charges (charged relieved : Option ℕ) (db db' : HubDb) : Prop :=
  ∀ user, (db'.agents user).map AgentAvailability.currentTicketCount =
    (db.agents user).map fun avail =>
      avail.currentTicketCount + unit charged user - unit relieved user

/-- Work items after some user has lost one and another one has got one. -/
def Passes (lost gained : Option ℕ) (db db' : HubDb) : Prop :=
  ∀ user, workItems db' user + unit lost user = workItems db user + unit gained user

variable {id user newUser : ℕ} {he : HubEmail} {who : Option ℕ} {ticket : Ticket}
variable {overrides : NewTicket} {write : HubEmail → HubEmail}

section Changes

variable {db between db' : HubDb} {charged relieved lost gained : Option ℕ}

@[simp]
theorem unit_none (user : ℕ) : unit none user = 0 := rfl

@[simp]
theorem unit_self (user : ℕ) : unit (some user) user = 1 := by simp [unit]

theorem unit_eq (who : Option ℕ) (user : ℕ) : unit who user = if who = some user then 1 else 0 := by
  rw [unit, beq_eq_decide]
  split <;> simp [*]

theorem unit_of_ne {who : ℕ} (hne : who ≠ user) : unit (some who) user = 0 := by
  simp [unit, hne]

theorem Charges.refl (db : HubDb) : Charges none none db db := by
  intro user
  simp

theorem balanced_iff (balanced : Balanced db) (charges : Charges charged relieved db db')
    (passes : Passes lost gained db db') :
    Balanced db' ↔ ∀ user avail, db.agents user = some avail →
      avail.currentTicketCount + unit charged user - unit relieved user + unit lost user =
        avail.currentTicketCount + unit gained user := by
  constructor
  · intro after user avail hrow
    have hcount := charges user
    rw [hrow, Option.map_some, Option.map_eq_some_iff] at hcount
    obtain ⟨avail', hrow', hcount⟩ := hcount
    have hbefore := balanced user avail hrow
    have hafter := after user avail' hrow'
    have hpasses := passes user
    omega
  · intro hsame user avail' hrow'
    have hcount := charges user
    rw [hrow', Option.map_some, eq_comm, Option.map_eq_some_iff] at hcount
    obtain ⟨avail, hrow, hcount⟩ := hcount
    have hbefore := balanced user avail hrow
    have hpasses := passes user
    have hsame := hsame user avail hrow
    omega

theorem Passes.of_same (htickets : db'.tickets = db.tickets) (hemails : db'.emails = db.emails)
    (hids : db'.emailIds = db.emailIds) : Passes none none db db' := by
  intro user
  simp only [workItems, countEmails, htickets, hemails, hids]

theorem Charges.of_same (hagents : db'.agents = db.agents) : Charges none none db db' := by
  intro user
  rw [hagents]
  simp

theorem Passes.of_updateEmail (indexed : db.Indexed) (hrow : db.emails id = some he)
    (hemails : db'.emails = (db.updateEmail id write).emails) (hids : db'.emailIds = db.emailIds)
    (htickets : db'.tickets = db.tickets) : Passes he.carrier (write he).carrier db db' := by
  intro user
  have hrow' : db'.emails id = some (write he) := by
    rw [hemails, HubDb.updateEmail_of_row _ _ _ hrow]
  have hothers : ∀ other ≠ id, db'.emails other = db.emails other := by
    intro other hother
    rw [hemails, HubDb.updateEmail_of_ne _ _ _ hother]
  have hcount : countRows db'.emails db.emailIds (fun he => he.carrier == some user) +
      unit he.carrier user =
        countRows db.emails db.emailIds (fun he => he.carrier == some user) +
          unit (write he).carrier user :=
    countRows_update indexed.emails hrow hrow' hothers
  simp only [workItems, countEmails, htickets, hids]
  omega

theorem HubDb.Indexed.of_updateEmail (indexed : db.Indexed)
    (hemails : db'.emails = (db.updateEmail id write).emails) (hids : db'.emailIds = db.emailIds)
    (htickets : db'.tickets = db.tickets) : db'.Indexed where
  tickets := htickets ▸ indexed.tickets
  emails := by
    rw [hids]
    refine indexed.emails.of_isSome fun other => ?_
    rw [hemails]
    by_cases hother : other = id
    · simp [HubDb.updateEmail, hother]
    · rw [HubDb.updateEmail_of_ne _ _ _ hother]

theorem HubDb.Indexed.of_same (indexed : db.Indexed) (htickets : db'.tickets = db.tickets)
    (hemails : db'.emails = db.emails) (hids : db'.emailIds = db.emailIds) : db'.Indexed where
  tickets := htickets ▸ indexed.tickets
  emails := hemails ▸ hids ▸ indexed.emails

theorem charges_takeOn (db : HubDb) (user : ℕ) (now : Instant) :
    Charges (some user) none db (db.updateAgent user (.takeOn now)) := by
  intro other
  by_cases hother : other = user
  · subst hother
    simp [HubDb.updateAgent, AgentAvailability.takeOn, Function.comp_def]
  · rw [HubDb.updateAgent_of_ne _ _ _ hother, unit_of_ne (Ne.symm hother)]
    simp

theorem charges_chargeAgent (db : HubDb) (now : Instant) (agent : Option ℕ) :
    Charges agent none db (db.chargeAgent now agent) := by
  cases agent with
  | none => exact Charges.refl db
  | some user => exact charges_takeOn db user now

theorem Charges.congr {db₁ db₁' : HubDb} (charges : Charges charged relieved db db')
    (hbefore : db₁.agents = db.agents) (hafter : db₁'.agents = db'.agents) :
    Charges charged relieved db₁ db₁' := by
  intro user
  rw [hbefore, hafter]
  exact charges user

end Changes

/-! ## Assignments -/

section Operations

variable {hub : Hub} {req : Request} {db between db' : HubDb} {s s' : HubSession}

/-- A held email comes to the user who is charged with it. -/
theorem Balanced.assigns (balanced : Balanced db) (indexed : db.Indexed)
    (assigns : Assigns hub req db db') : Balanced db' ∧ db'.Indexed := by
  induction assigns with
  | refl => exact ⟨balanced, indexed⟩
  | @step between after _ id user reason requireOnline hassigned ih =>
    obtain ⟨hbalanced, hindexed⟩ := ih
    obtain ⟨⟨he, hemail, hheld⟩, -, rfl⟩ := assignTo_eq_some.mp hassigned
    have hpasses : Passes he.carrier (he.assign req.clock user).carrier between
        (commitAssignment req id user reason between) :=
      .of_updateEmail hindexed hemail rfl rfl rfl
    have hcharges : Charges (some user) none between
        (commitAssignment req id user reason between) :=
      (charges_takeOn _ user req.clock.service).congr rfl rfl
    have hlost : he.carrier = none := by
      rw [HubEmail.carrier, (HubEmail.held_iff.mp hheld).1, ite_self]
    have hgained : (he.assign req.clock user).carrier = some user := rfl
    rw [hlost, hgained] at hpasses
    refine ⟨(balanced_iff hbalanced hcharges hpasses).mpr fun other avail _ => by simp, ?_⟩
    exact hindexed.of_updateEmail rfl rfl rfl

/-- What an operation comes to: the counters are right exactly under a condition. -/
structure Outcome (db' : HubDb) (condition : Prop) : Prop where
  indexed : db'.Indexed
  balanced : Balanced db' ↔ condition

theorem Outcome.always (balanced : Balanced db') (indexed : db'.Indexed) : Outcome db' True :=
  ⟨indexed, iff_of_true balanced trivial⟩

theorem Outcome.congr {condition condition' : Prop} (outcome : Outcome db' condition)
    (hsame : condition ↔ condition') : Outcome db' condition' :=
  ⟨outcome.indexed, outcome.balanced.trans hsame⟩

theorem known_eq_some :
    known db who = some user ↔ who = some user ∧ ∃ avail, db.agents user = some avail := by
  rw [known, Option.filter_eq_some_iff, Option.isSome_iff_exists]

theorem unit_eq_unit {other : Option ℕ} :
    unit who user = unit other user ↔ (who = some user ↔ other = some user) := by
  rw [unit_eq, unit_eq]
  by_cases hwho : who = some user
  · by_cases hother : other = some user
    · simp [hwho, hother]
    · simp [hwho, hother]
  · by_cases hother : other = some user
    · simp [hwho, hother]
    · simp [hwho, hother]

theorem known_eq_iff {who other : Option ℕ} :
    known db who = known db other ↔
      ∀ user avail, db.agents user = some avail → unit who user = unit other user := by
  constructor
  · intro hsame user avail hrow
    have hiff : known db who = some user ↔ known db other = some user := by rw [hsame]
    rw [known_eq_some, known_eq_some, and_iff_left ⟨avail, hrow⟩, and_iff_left ⟨avail, hrow⟩] at hiff
    exact unit_eq_unit.mpr hiff
  · intro hunits
    refine Option.ext fun user => ?_
    rw [known_eq_some, known_eq_some]
    refine and_congr_left ?_
    rintro ⟨avail, hrow⟩
    exact unit_eq_unit.mp (hunits user avail hrow)

theorem known_eq_none_iff :
    known db who = none ↔ ∀ user avail, db.agents user = some avail → unit who user = 0 :=
  @known_eq_iff db who none

theorem Outcome.of_updateEmail (balanced : Balanced db) (indexed : db.Indexed)
    (hrow : db.emails id = some he) (write : HubEmail → HubEmail) :
    Outcome (db.updateEmail id write) (known db he.carrier = known db (write he).carrier) where
  indexed := indexed.of_updateEmail rfl rfl rfl
  balanced := by
    have hpasses : Passes he.carrier (write he).carrier db (db.updateEmail id write) :=
      .of_updateEmail indexed hrow rfl rfl rfl
    have hcharges : Charges none none db (db.updateEmail id write) := .of_same rfl
    rw [balanced_iff balanced hcharges hpasses, known_eq_iff]
    simp

theorem carrier_of_active (hactive : activeStates.contains he.state = true) :
    he.carrier = he.assignee := if_pos hactive

theorem carrier_of_inactive (hinactive : activeStates.contains he.state = false) :
    he.carrier = none := by
  rw [HubEmail.carrier, hinactive]
  rfl

/-- A transition counts when it takes an email out of the work of an agent or back into it. -/
theorem transition_outcome (balanced : Balanced s.db) (indexed : s.db.Indexed) {newState : State}
    (hrow : s.db.emails s.id = some s.hubEmail)
    (success : transitionHubEmail req newState s = .ok s') :
    Outcome s'.db (activeStates.contains newState = activeStates.contains s.hubEmail.state ∨
      known s.db s.hubEmail.assignee = none) := by
  obtain ⟨-, responds, rfl⟩ := transitionHubEmail_cases success
  refine (Outcome.of_updateEmail balanced indexed hrow _).congr ?_
  have hnothing : known s.db none = none := rfl
  cases hold : activeStates.contains s.hubEmail.state with
  | true =>
    rw [carrier_of_active hold]
    cases hnew : activeStates.contains newState with
    | true =>
      rw [carrier_of_active hnew]
      exact iff_of_true rfl (.inl rfl)
    | false =>
      rw [carrier_of_inactive hnew, hnothing]
      simp
  | false =>
    rw [carrier_of_inactive hold, hnothing]
    cases hnew : activeStates.contains newState with
    | true =>
      rw [carrier_of_active hnew, eq_comm]
      simp [HubEmail.transition]
    | false =>
      rw [carrier_of_inactive hnew, hnothing]
      simp

theorem dismiss_outcome (balanced : Balanced s.db) (indexed : s.db.Indexed) {reason : String}
    (hrow : s.db.emails s.id = some s.hubEmail)
    (success : dismissHubEmail req reason s = .ok s') :
    Outcome s'.db (known s.db s.hubEmail.carrier = none) := by
  obtain ⟨he, hemail, -, ⟨hdone, hsame⟩ | ⟨-, hsaved⟩⟩ := dismissHubEmail_cases success
  · rw [hemail, Option.some.injEq] at hrow
    subst hrow
    rw [hsame]
    refine (Outcome.always balanced indexed).congr ?_
    rw [carrier_of_inactive (by rw [hdone]; rfl)]
    exact iff_of_true trivial rfl
  · rw [hsaved]
    exact Outcome.of_updateEmail balanced indexed hrow _

/-! ## Reassignment -/

theorem unit_le_workItems (indexed : db.Indexed) (hrow : db.emails id = some he) (user : ℕ) :
    unit he.carrier user ≤ workItems db user := by
  have hpasses : Passes he.carrier (HubEmail.carrier { he with assignee := none }) db
      (db.updateEmail id fun he => { he with assignee := none }) :=
    .of_updateEmail indexed hrow rfl rfl rfl
  have hnone : HubEmail.carrier { he with assignee := none } = none := ite_self _
  have hcount := hpasses user
  rw [hnone, unit_none] at hcount
  omega

theorem charges_moveLoad_same (now : Instant) (user : ℕ) (hsame : between.agents = db.agents) :
    Charges none none db (between.moveLoad now (some user) user) := by
  have hcharges : Charges none none between (between.moveLoad now (some user) user) := by
    intro other
    rw [HubDb.moveLoad, if_pos rfl]
    by_cases hother : other = user
    · simp [HubDb.updateAgent, hother, AgentAvailability.touch, Function.comp_def]
    · rw [HubDb.updateAgent_of_ne _ _ _ hother]
      simp
  exact Charges.congr hcharges hsame.symm rfl

theorem charges_moveLoad (now : Instant) {oldUser : Option ℕ} (hother : oldUser ≠ some newUser)
    (hsame : between.agents = db.agents) :
    Charges (some newUser) oldUser db (between.moveLoad now oldUser newUser) := by
  have hcharges : Charges (some newUser) oldUser between
      (between.moveLoad now oldUser newUser) := by
    rw [HubDb.moveLoad, if_neg hother]
    cases oldUser with
    | none => exact charges_takeOn between newUser now
    | some old =>
      have hne : newUser ≠ old := fun heq => hother (heq ▸ rfl)
      intro user
      have htaken := charges_takeOn between newUser now user
      by_cases hold : user = old
      · subst hold
        rw [HubDb.updateAgent_of_ne _ _ _ hne.symm] at htaken
        simp only [HubDb.updateAgent, hne.symm, if_true, if_false, Option.map_map, unit_self,
          unit_of_ne hne]
        rfl
      · rw [HubDb.updateAgent_of_ne _ _ _ hold, htaken, unit_of_ne (Ne.symm hold), unit_none]
  exact Charges.congr hcharges hsame.symm rfl

theorem reassign_outcome (balanced : Balanced db) (indexed : db.Indexed) {note : String}
    (hrow : db.emails id = some he)
    (success : reassignHubEmail hub req id newUser note db = .ok db') :
    Outcome db' (he.state = .resolved → he.assignee ≠ some newUser →
      known db (some newUser) = none ∧
        ∀ oldUser ∈ he.assignee, ∀ avail ∈ db.agents oldUser, avail.currentTicketCount = 0) := by
  obtain ⟨stored, row, hstored, hopen, rfl⟩ := reassignHubEmail_cases success
  obtain rfl : he = stored := Option.some.inj (hrow.symm.trans hstored)
  have hpasses : Passes he.carrier (he.reassign req newUser).carrier db
      (HubDb.moveLoad ((db.updateEmail id (.reassign req newUser)).createAssignment row)
        req.clock.service he.assignee newUser) :=
    .of_updateEmail indexed hrow (moveLoad_emails ..) (moveLoad_emailIds ..) (moveLoad_tickets ..)
  refine ⟨indexed.of_updateEmail (moveLoad_emails ..) (moveLoad_emailIds ..)
    (moveLoad_tickets ..), ?_⟩
  have hsame : he.assignee = some newUser → Charges none none db
      (HubDb.moveLoad ((db.updateEmail id (.reassign req newUser)).createAssignment row)
        req.clock.service he.assignee newUser) := by
    intro hassignee
    rw [hassignee]
    exact charges_moveLoad_same req.clock.service newUser rfl
  have hmoved : he.assignee ≠ some newUser → Charges (some newUser) he.assignee db
      (HubDb.moveLoad ((db.updateEmail id (.reassign req newUser)).createAssignment row)
        req.clock.service he.assignee newUser) :=
    fun hother => charges_moveLoad req.clock.service hother rfl
  cases hactive : activeStates.contains he.state with
  | true =>
    have hresolved : he.state ≠ .resolved := by
      intro heq
      rw [heq] at hactive
      cases hactive
    refine iff_of_true ?_ fun heq => absurd heq hresolved
    have hgained : (he.reassign req newUser).carrier = some newUser := by
      refine carrier_of_active ?_
      simp only [HubEmail.reassign]
      split
      · rfl
      · exact hactive
    rw [carrier_of_active hactive, hgained] at hpasses
    by_cases hassignee : he.assignee = some newUser
    · refine (balanced_iff balanced (hsame hassignee) hpasses).mpr fun user avail _ => ?_
      rw [hassignee]
      simp
    · refine (balanced_iff balanced (hmoved hassignee) hpasses).mpr fun user avail hagent => ?_
      have hcarried := unit_le_workItems indexed hrow user
      rw [← balanced user avail hagent, carrier_of_active hactive] at hcarried
      omega
  | false =>
    have hstate : (he.reassign req newUser).state = he.state := by
      refine if_neg fun hnew => ?_
      rw [hnew] at hactive
      cases hactive
    have hresolved : he.state = .resolved := by
      cases hstate : he.state <;> simp [hstate, State.terminal, activeStates] at hopen hactive ⊢
    rw [carrier_of_inactive hactive, carrier_of_inactive (hstate ▸ hactive)] at hpasses
    by_cases hassignee : he.assignee = some newUser
    · refine iff_of_true ?_ fun _ hother => absurd hassignee hother
      exact (balanced_iff balanced (hsame hassignee) hpasses).mpr fun user avail _ => by simp
    · rw [balanced_iff balanced (hmoved hassignee) hpasses]
      simp only [hresolved, ne_eq, hassignee, not_false_eq_true, true_imp_iff, known_eq_none_iff,
        unit_none, Nat.add_zero]
      constructor
      · intro heven
        refine ⟨fun user avail hagent => ?_, fun oldUser hold avail hagent => ?_⟩
        · have hcount := heven user avail hagent
          by_cases hnew : newUser = user
          · subst hnew
            rw [unit_self, unit_eq, if_neg hassignee] at hcount
            omega
          · exact unit_of_ne hnew
        · have hcount := heven oldUser avail hagent
          have hnew : newUser ≠ oldUser := fun heq => hassignee (heq ▸ hold)
          rw [unit_of_ne hnew, unit_eq, if_pos (Option.mem_def.mp hold)] at hcount
          omega
      · rintro ⟨hnew, hold⟩ user avail hagent
        rw [hnew user avail hagent, unit_eq]
        split
        · rename_i holds
          rw [hold user holds avail hagent]
        · rfl

/-! ## Tickets -/

theorem holder_of_closed (hclosed : ticket.status.isClosed = true) :
    ticketHolder ticket = none := by
  rw [ticketHolder, hclosed]
  rfl

theorem holder_of_open (hopen : ticket.status.isClosed = false) (hlive : ticket.isDeleted = false) :
    ticketHolder ticket = ticket.assignee := by
  rw [ticketHolder, hopen, hlive]
  rfl

theorem Passes.of_adds (indexed : db.Indexed) {agent : Option ℕ}
    (adds : Adds hub.workspace overrides agent db.tickets db'.tickets)
    (hemails : db'.emails = db.emails) (hids : db'.emailIds = db.emailIds) :
    Passes none (if opensClosed hub overrides then none else overrides.assignee.or agent) db db' ∧
      db'.Indexed := by
  obtain ⟨row, hrow, hstatus, hassignee, hdeleted⟩ := adds.row
  have hholder : ticketHolder row =
      if opensClosed hub overrides then none else overrides.assignee.or agent := by
    rw [opensClosed, hstatus, Option.any_some]
    cases hclosed : row.status.isClosed with
    | true => exact holder_of_closed hclosed
    | false => exact (holder_of_open hclosed hdeleted).trans hassignee
  refine ⟨fun user => ?_, hemails ▸ hids ▸ indexed.emails, ?_⟩
  · have hcount : countRows db'.tickets.tickets (db.tickets.ticketIds ++ [overrides.id])
          (fun ticket => ticketHolder ticket == some user) =
        countRows db.tickets.tickets db.tickets.ticketIds
          (fun ticket => ticketHolder ticket == some user) + unit (ticketHolder row) user :=
      countRows_insert indexed.tickets adds.absent hrow adds.others
    rw [hholder] at hcount
    simp only [workItems, countTickets, countEmails, adds.ticketIds, hemails, hids, hcount,
      unit_none]
    omega
  · rw [adds.ticketIds]
    exact indexed.tickets.insert adds.absent hrow adds.others

theorem convertible_of_not_dismissed {state : State} (hstate : state ≠ .dismissed) :
    state = .convertedToTicket ∨ canTransition state .convertedToTicket = true := by
  cases state with
  | dismissed => exact absurd rfl hstate
  | convertedToTicket => exact .inl rfl
  | _ => exact .inr rfl

/-- The carrier of a converted email keeps it on his counter, and an assignee who was asked for
does not get the ticket on his. -/
theorem conversionBalances_iff :
    (∀ user avail, db.agents user = some avail →
      unit (emailTicketAgent hub overrides db) user + unit he.carrier user =
        unit (if opensClosed hub overrides then none
          else overrides.assignee.or (emailTicketAgent hub overrides db)) user) ↔
      ConversionBalances hub overrides db he := by
  unfold ConversionBalances
  split
  · rw [known_eq_none_iff, known_eq_none_iff]
    constructor
    · intro heven
      constructor <;> intro user avail hagent <;> have hcount := heven user avail hagent <;>
        rw [unit_none] at hcount <;> omega
    · rintro ⟨hcarrier, hagent⟩ user avail hrow
      rw [hcarrier user avail hrow, hagent user avail hrow, unit_none]
  · cases hassignee : overrides.assignee with
    | none =>
      rw [Option.none_or, show known db none = none from rfl, known_eq_none_iff]
      refine forall_congr' fun user => forall_congr' fun avail => forall_congr' fun _ => ?_
      omega
    | some assignee =>
      have hno : emailTicketAgent hub overrides db = none := by
        cases hagent : emailTicketAgent hub overrides db with
        | none => rfl
        | some user =>
          have hnone := (emailTicketAgent_isSome (by rw [hagent]; rfl)).1
          rw [hassignee] at hnone
          cases hnone
      rw [hno, Option.or_none, known_eq_iff]
      simp

theorem convert_outcome (balanced : Balanced s.db) (indexed : s.db.Indexed) {creator ticket : ℕ}
    (hrow : s.db.emails s.id = some s.hubEmail) (hnone : s.hubEmail.existingTicket = none)
    (success : convertToTicket hub req creator overrides s = .ok (ticket, s')) :
    Outcome s'.db (ConversionBalances hub overrides s.db s.hubEmail) := by
  obtain ⟨he, hemail, -, ⟨hexisting, -⟩ | ⟨-, -, db, hcreate, hsaved⟩⟩ :=
    convertToTicket_cases success
  · rw [hemail, Option.some.injEq] at hrow
    rw [hrow, hnone] at hexisting
    cases hexisting
  · obtain ⟨rfl, creates⟩ := createHubTicket_cases hcreate
    obtain ⟨hticket, hindexed⟩ := Passes.of_adds indexed creates.adds creates.emails creates.emailIds
    have hemailed : Passes s.hubEmail.carrier none db
        (db.updateEmail s.id (.convert req.clock overrides.id)) :=
      .of_updateEmail hindexed (creates.emails ▸ hrow) rfl rfl rfl
    have hpasses : Passes s.hubEmail.carrier (if opensClosed hub overrides then none
        else overrides.assignee.or (emailTicketAgent hub overrides s.db)) s.db s'.db := by
      intro user
      have hfirst := hticket user
      have hsecond := hemailed user
      rw [unit_none] at hfirst hsecond
      rw [hsaved]
      omega
    have hcharges : Charges (emailTicketAgent hub overrides s.db) none s.db s'.db :=
      Charges.congr (charges_chargeAgent s.db req.clock.service _) rfl (hsaved ▸ creates.agents)
    refine ⟨hsaved ▸ hindexed.of_updateEmail rfl rfl rfl, ?_⟩
    rw [balanced_iff balanced hcharges hpasses, ← conversionBalances_iff]
    refine forall_congr' fun user => forall_congr' fun avail => forall_congr' fun _ => ?_
    rw [unit_none]
    omega

theorem Passes.of_updateTicket (indexed : db.Indexed) {before after : Ticket}
    (hrow : db.tickets.tickets id = some before) (hrow' : db'.tickets.tickets id = some after)
    (hothers : ∀ other ≠ id, db'.tickets.tickets other = db.tickets.tickets other)
    (hticketIds : db'.tickets.ticketIds = db.tickets.ticketIds) (hemails : db'.emails = db.emails)
    (hids : db'.emailIds = db.emailIds) :
    Passes (ticketHolder before) (ticketHolder after) db db' ∧ db'.Indexed := by
  refine ⟨fun user => ?_, hemails ▸ hids ▸ indexed.emails, ?_⟩
  · have hcount : countRows db'.tickets.tickets db.tickets.ticketIds
          (fun ticket => ticketHolder ticket == some user) + unit (ticketHolder before) user =
        countRows db.tickets.tickets db.tickets.ticketIds
          (fun ticket => ticketHolder ticket == some user) + unit (ticketHolder after) user :=
      countRows_update indexed.tickets hrow hrow' hothers
    simp only [workItems, countTickets, countEmails, hticketIds, hemails, hids]
    omega
  · rw [hticketIds]
    refine indexed.tickets.of_isSome fun other => ?_
    by_cases hother : other = id
    · rw [hother, hrow, hrow']
      rfl
    · rw [hothers other hother]

/-- Giving a ticket to the next agent is right when it is open and nobody has it. -/
theorem autoAssign_outcome (balanced : Balanced db) (indexed : db.Indexed)
    (hrow : db.tickets.tickets id = some ticket)
    (hagent : getAvailableAgent ticket.queue db = some user) :
    Outcome (Agents.autoAssignTicket hub req id db)
      (ticket.status.isClosed = false ∧ ticket.isDeleted = false ∧
        known db ticket.assignee = none) := by
  have havailable := isAvailable_of_getAvailableAgent hagent
  rw [isAvailable, Option.any_eq_true] at havailable
  obtain ⟨avail, hcounter, -⟩ := havailable
  have hsettled : Settled { db := db.tickets, id, ticket } := ⟨ticket, hrow, rfl⟩
  have hload := autoAssignTicket_workload hub.workspace req hsettled
    (congrArg (Option.map Ticket.workload) hrow) user
  have huntouched : Untouched { db := db.tickets, id, ticket }
      (Tickets.autoAssignTicket hub.workspace req (some user) { db := db.tickets, id, ticket }) :=
    (autoAssignTicket_edits _ (some user)).untouched
  simp only [Agents.autoAssignTicket, hrow, hagent]
  generalize Tickets.autoAssignTicket hub.workspace req (some user)
    { db := db.tickets, id, ticket } = given at hload huntouched
  obtain ⟨after, hafter, hworkload⟩ := Option.map_eq_some_iff.mp hload
  obtain ⟨hstatus, hassignee, hdeleted⟩ : after.status = ticket.status ∧
      after.assignee = some user ∧ after.isDeleted = ticket.isDeleted := by
    simpa [Ticket.workload] using hworkload
  have hcharges : Charges (some user) none db
      (HubDb.updateAgent { db with tickets := given.db } user (.takeOn req.clock.service)) :=
    (charges_takeOn _ user req.clock.service).congr rfl rfl
  obtain ⟨hpasses, hindexed⟩ : Passes (ticketHolder ticket) (ticketHolder after) db
      (HubDb.updateAgent { db with tickets := given.db } user (.takeOn req.clock.service)) ∧
        (HubDb.updateAgent { db with tickets := given.db } user (.takeOn req.clock.service)).Indexed :=
    Passes.of_updateTicket indexed hrow hafter huntouched.others huntouched.ticketIds rfl rfl
  refine ⟨hindexed, (balanced_iff balanced hcharges hpasses).trans ?_⟩
  cases hopen : ticket.status.isClosed || ticket.isDeleted with
  | true =>
    have hgained : ticketHolder after = none := by
      rw [ticketHolder, hstatus, hdeleted, hopen]
      rfl
    refine iff_of_false (fun heven => ?_) ?_
    · have hcount := heven user avail hcounter
      rw [hgained, unit_self, unit_none] at hcount
      omega
    · rintro ⟨hclosed, hlive, -⟩
      rw [hclosed, hlive] at hopen
      cases hopen
  | false =>
    obtain ⟨hclosed, hlive⟩ := Bool.or_eq_false_iff.mp hopen
    rw [holder_of_open hclosed hlive, holder_of_open (hstatus ▸ hclosed) (hdeleted ▸ hlive),
      hassignee, and_iff_right hclosed, and_iff_right hlive, known_eq_none_iff]
    refine forall_congr' fun other => forall_congr' fun _ => forall_congr' fun _ => ?_
    rw [unit_none]
    omega

theorem updateTicketCount_outcome (balanced : Balanced db) (indexed : db.Indexed) (user : ℕ) :
    Outcome (updateTicketCount user db) (known db (some user) ≠ none →
      countTickets db.tickets (fun ticket => assignedOpen user ticket && ticket.isDeleted) =
        countEmails db fun he => he.carrier == some user) := by
  have hpasses : Passes none none db (updateTicketCount user db) := by
    unfold updateTicketCount
    dsimp only
    split <;> exact .of_same rfl rfl rfl
  have hindexed : (updateTicketCount user db).Indexed := by
    unfold updateTicketCount
    dsimp only
    split
    · exact indexed.of_same rfl rfl rfl
    · exact indexed
  have hrows : (updateTicketCount user db).agents user = (db.agents user).map fun avail =>
      { avail with currentTicketCount := countTickets db.tickets (assignedOpen user) } := by
    unfold updateTicketCount
    cases hrow : db.agents user with
    | none => simp [hrow]
    | some avail =>
      by_cases hright : avail.currentTicketCount = countTickets db.tickets (assignedOpen user)
      · simp [hrow, ← hright]
      · simp [hrow, hright, HubDb.updateAgent]
  have hothers : ∀ other ≠ user, (updateTicketCount user db).agents other = db.agents other := by
    intro other hother
    unfold updateTicketCount
    dsimp only
    split
    · exact HubDb.updateAgent_of_ne _ _ _ hother
    · rfl
  have hsame : ∀ other, workItems (updateTicketCount user db) other = workItems db other :=
    fun other => hpasses other
  have hsplit : countTickets db.tickets (assignedOpen user) =
      countTickets db.tickets (fun ticket => ticketHolder ticket == some user) +
        countTickets db.tickets fun ticket => assignedOpen user ticket && ticket.isDeleted := by
    refine (countRows_split (assignedOpen user) Ticket.isDeleted).trans ?_
    congr 1
    refine countRows_congr fun id _ => ?_
    congr 1
    funext ticket
    unfold ticketHolder assignedOpen
    cases ticket.status.isClosed <;> cases ticket.isDeleted <;> simp
  refine ⟨hindexed, ?_⟩
  constructor
  · intro after hknown
    obtain ⟨other, hother⟩ := Option.ne_none_iff_exists'.mp hknown
    obtain ⟨-, avail, hrow⟩ := known_eq_some.mp hother
    obtain rfl := Option.some.inj (known_eq_some.mp hother).1
    have hcount := after user _ (by rw [hrows, hrow, Option.map_some])
    rw [hsame, workItems, hsplit] at hcount
    exact Nat.add_left_cancel hcount
  · intro heven other avail' hrow'
    rw [hsame]
    by_cases hother : other = user
    · subst hother
      rw [hrows, Option.map_eq_some_iff] at hrow'
      obtain ⟨avail, hrow, rfl⟩ := hrow'
      have hknown : known db (some other) ≠ none := by
        rw [known_eq_some.mpr ⟨rfl, avail, hrow⟩]
        exact Option.some_ne_none other
      have hequal := heven hknown
      rw [workItems, ← hequal, ← hsplit]
    · rw [hothers other hother] at hrow'
      exact balanced other avail' hrow'

/-! ## Saves of other columns -/

/-- An instance of an email as it is stored, with the counters right. -/
structure Fit (s : HubSession) : Prop where
  balanced : Balanced s.db
  indexed : s.db.Indexed
  row : s.db.emails s.id = some s.hubEmail

theorem Fit.save (fit : Fit s) {write : HubEmail → HubEmail}
    (hsame : (write s.hubEmail).carrier = s.hubEmail.carrier) : Fit (s.save write) where
  balanced := (Outcome.of_updateEmail fit.balanced fit.indexed fit.row write).balanced.mpr
    (by rw [hsame])
  indexed := (Outcome.of_updateEmail fit.balanced fit.indexed fit.row write).indexed
  row := HubDb.updateEmail_of_row _ _ _ fit.row

theorem Fit.escalate (fit : Fit s) : Fit (escalateHubEmail req s) := by
  unfold escalateHubEmail
  split
  · rename_i hallowed
    have hactive : activeStates.contains s.hubEmail.state = true := by
      cases hstate : s.hubEmail.state <;>
        simp [hstate, canTransition, allowedTransitions, activeStates] at hallowed ⊢
    refine fit.save ?_
    rw [carrier_of_active hactive]
    rfl
  · exact fit

theorem Fit.sweep (fit : Fit s) (now : Instant) :
    Balanced (checkHubSlaBreaches hub req now s).db ∧
      (checkHubSlaBreaches hub req now s).db.Indexed := by
  have hresponse : Fit (if s.hubEmail.responseOverdue now then
      escalateHubEmail req (flagResponse now s)
    else if s.hubEmail.responseNear hub now then markWarning now s else s) := by
    split
    · exact (fit.save rfl).escalate
    · split
      · exact fit.save rfl
      · exact fit
  unfold checkHubSlaBreaches
  generalize (if s.hubEmail.responseOverdue now then
      escalateHubEmail req (flagResponse now s)
    else if s.hubEmail.responseNear hub now then markWarning now s else s) = s' at hresponse ⊢
  dsimp only
  split
  · have outcome := Outcome.of_updateEmail hresponse.balanced hresponse.indexed hresponse.row
      fun he => { he with resolutionBreached := true, updatedAt := now }
    exact ⟨outcome.balanced.mpr rfl, outcome.indexed⟩
  · exact ⟨hresponse.balanced, hresponse.indexed⟩

/-! ## Parking -/

theorem Fit.park (balanced : Balanced db) (indexed : db.Indexed) (hnone : db.emails id = none)
    (hcarrier : he.carrier = none) : Fit { db := db.insertEmail id he, id, hubEmail := he } := by
  have hrow : (db.insertEmail id he).emails id = some he := Function.update_self ..
  have hothers : ∀ other ≠ id, (db.insertEmail id he).emails other = db.emails other :=
    fun other hother => Function.update_of_ne hother ..
  have hpasses : Passes none none db (db.insertEmail id he) := by
    intro user
    have hcount : countRows (db.insertEmail id he).emails (db.emailIds ++ [id])
          (fun he => he.carrier == some user) =
        countRows db.emails db.emailIds (fun he => he.carrier == some user) +
          unit he.carrier user :=
      countRows_insert indexed.emails hnone hrow hothers
    rw [hcarrier, unit_none, Nat.add_zero] at hcount
    exact congrArg (_ + ·) hcount
  have hcharges : Charges none none db (db.insertEmail id he) := .of_same rfl
  exact {
    balanced := (balanced_iff balanced hcharges hpasses).mpr fun user avail _ => by simp
    indexed := ⟨indexed.emails.insert hnone hrow hothers, indexed.tickets⟩
    row := hrow }

variable (hub req) in
theorem Fit.postParkHooks (fit : Fit s) (decision : RoutingDecision) :
    Balanced (postParkHooks hub req decision s) ∧
      (Inbox.postParkHooks hub req decision s).Indexed := by
  have hrouted : Fit (s.save (applyRouting req decision)) := fit.save rfl
  have hseeded : Fit (initializeHubSla hub req (s.save (applyRouting req decision))) := by
    unfold initializeHubSla
    split
    · exact hrouted
    · exact hrouted.save rfl
  unfold Inbox.postParkHooks
  dsimp only
  split
  · exact hseeded.balanced.assigns hseeded.indexed (tryAssign_assigns hub _ _ _ _)
  · exact ⟨hseeded.balanced, hseeded.indexed⟩

/-! ## Operations -/

theorem Outcome.onEmail (balanced : Balanced db) (indexed : db.Indexed)
    {work : HubSession → Except String HubSession} {condition : HubEmail → Prop}
    (hok : ∀ he s, db.emails id = some he → work { db, id, hubEmail := he } = .ok s →
      Outcome s.db (condition he)) (herror : ∀ he message, db.emails id = some he →
      work { db, id, hubEmail := he } = .error message → condition he) :
    Outcome (db.onEmail id work) (∀ he ∈ db.emails id, condition he) := by
  unfold HubDb.onEmail
  cases hrow : db.emails id with
  | none => exact (Outcome.always balanced indexed).congr (by simp)
  | some he =>
    simp only [Option.mem_def, Option.some.injEq, forall_eq']
    cases hdone : work { db, id, hubEmail := he } with
    | error message =>
      exact (Outcome.always balanced indexed).congr
        (iff_of_true trivial (herror he message hrow hdone))
    | ok s => exact hok he s hrow hdone

theorem convert_onEmail_outcome (balanced : Balanced db) (indexed : db.Indexed)
    (id creator : ℕ) (overrides : NewTicket) :
    Outcome (db.onEmail id fun s => (convertToTicket hub req creator overrides s).map Prod.snd)
      (∀ he ∈ db.emails id, he.state ≠ .dismissed → he.existingTicket = none →
        canCreateFromEmail hub.workspace overrides db.tickets = true →
          ConversionBalances hub overrides db he) := by
  refine Outcome.onEmail balanced indexed (fun he s' hrow hdone => ?_)
    fun he message hrow hfailed hstate hnone hcan => ?_
  · obtain ⟨⟨ticket, s⟩, success, rfl⟩ := map_eq_ok.mp hdone
    obtain ⟨row, hemail, -, hcases⟩ := convertToTicket_cases success
    obtain rfl : he = row := Option.some.inj (hrow.symm.trans hemail)
    rcases hcases with ⟨hexisting, hsame⟩ | ⟨hnone, hallowed, created, hcreate, -⟩
    · rw [hsame]
      refine (Outcome.always balanced indexed).congr (iff_of_true trivial fun _ hnone => ?_)
      rw [hexisting] at hnone
      cases hnone
    · refine (convert_outcome balanced indexed hrow hnone success).congr ?_
      have hstate : he.state ≠ .dismissed := by
        intro hdismissed
        rw [hdismissed] at hallowed
        rcases hallowed with hconverted | hleft <;> contradiction
      have hcan : canCreateFromEmail hub.workspace overrides db.tickets = true := by
        rw [← createHubTicket_isOk, hcreate]
        rfl
      simp [hstate, hnone, hcan]
  · obtain ⟨result, success⟩ : ∃ result,
        convertToTicket hub req creator overrides { db, id, hubEmail := he } = .ok result :=
      convertToTicket_isOk hrow hnone (convertible_of_not_dismissed hstate) hcan
    rw [success] at hfailed
    cases hfailed

theorem reassign_request_outcome (balanced : Balanced db) (indexed : db.Indexed)
    (id newUser : ℕ) (note : String) :
    Outcome ((reassignHubEmail hub req id newUser note db).toOption.getD db)
      (∀ he ∈ db.emails id, hub.workspace.isActiveMember newUser = true → he.state = .resolved →
        he.assignee ≠ some newUser → known db (some newUser) = none ∧
          ∀ oldUser ∈ he.assignee, ∀ avail ∈ db.agents oldUser, avail.currentTicketCount = 0) := by
  cases hmember : hub.workspace.isActiveMember newUser with
  | false =>
    have hrefused : (reassignHubEmail hub req id newUser note db).toOption.getD db = db := by
      simp [reassignHubEmail, hmember, Except.toOption]
    rw [hrefused]
    exact (Outcome.always balanced indexed).congr (by simp)
  | true =>
    cases hrow : db.emails id with
    | none =>
      have hrefused : (reassignHubEmail hub req id newUser note db).toOption.getD db = db := by
        simp [reassignHubEmail, hmember, hrow, Except.toOption]
      rw [hrefused]
      exact (Outcome.always balanced indexed).congr (by simp)
    | some he =>
      simp only [Option.mem_def, Option.some.injEq, forall_eq', true_imp_iff]
      cases success : reassignHubEmail hub req id newUser note db with
      | error message =>
        refine (Outcome.always balanced indexed).congr (iff_of_true trivial ?_)
        intro hresolved
        simp [reassignHubEmail, hmember, hrow, hresolved, State.terminal] at success
      | ok db' => exact reassign_outcome balanced indexed hrow success

variable (hub) in
/-- What every operation comes to. -/
theorem hubStep_outcome (balanced : Balanced db) (indexed : db.Indexed) (event : HubEvent) :
    Outcome (hubStep hub db event) (KeepsBalance hub db event) := by
  obtain ⟨op, req⟩ := event
  have hassigns : ∀ {req db'}, Assigns hub req db db' → Outcome db' True := by
    intro req db' assigns
    obtain ⟨hbalanced, hindexed⟩ := balanced.assigns indexed assigns
    exact .always hbalanced hindexed
  have honEmail : ∀ id (work : HubSession → HubSession),
      (∀ s, Fit s → Balanced (work s).db ∧ (work s).db.Indexed) →
        Outcome (db.onEmail id fun s => .ok (work s)) True := by
    intro id work hwork
    have outcome : Outcome (db.onEmail id fun s => .ok (work s)) (∀ he ∈ db.emails id, True) := by
      refine Outcome.onEmail balanced indexed (fun he s hrow hdone => ?_) fun _ _ _ _ => trivial
      obtain rfl := Except.ok.inj hdone
      have fit : Fit { db, id, hubEmail := he } := ⟨balanced, indexed, hrow⟩
      obtain ⟨hbalanced, hindexed⟩ := hwork _ fit
      exact .always hbalanced hindexed
    exact outcome.congr (iff_of_true (fun _ _ => trivial) trivial)
  cases op with
  | park id decision =>
    simp only [hubStep, applyHubOp, parkAndAssign]
    cases hrow : db.emails id with
    | some he => exact .always balanced indexed
    | none =>
      let he : HubEmail := { updatedAt := req.clock.autoNow }
      have fit : Fit { db := db.insertEmail id he, id, hubEmail := he } :=
        .park balanced indexed hrow rfl
      have hfound : (db.insertEmail id he).emails id = some he := fit.row
      obtain ⟨hbalanced, hindexed⟩ := fit.postParkHooks hub req decision
      simp only [Option.isSome_none, Bool.false_eq_true, if_false, parkEmailInHub, hrow]
      rw [HubDb.onEmail, hfound]
      exact .always hbalanced hindexed
  | tryAssign id =>
    exact honEmail id (fun s => { s with db := tryAssign hub req id s.hubEmail s.db })
      fun s fit => fit.balanced.assigns fit.indexed (tryAssign_assigns hub req id s.hubEmail s.db)
  | assignTo id user reason requireOnline =>
    exact hassigns ((Assigns.refl db).getD id user reason requireOnline)
  | drain user => exact hassigns (drain_assigns hub req user db)
  | reassign id newUser note => exact reassign_request_outcome balanced indexed id newUser note
  | transition id newState =>
    refine Outcome.onEmail balanced indexed (fun he s hrow hdone => ?_)
      fun he message _ hfailed hallowed => ?_
    · have hallowed := (transitionHubEmail_cases hdone).1
      refine (transition_outcome balanced indexed hrow hdone).congr ?_
      simp only [true_imp_iff, show canTransition he.state newState = true from hallowed]
    · simp [transitionHubEmail, assertTransition, hallowed, Except.map] at hfailed
  | escalate id =>
    exact honEmail id (escalateHubEmail req) fun s fit =>
      ⟨fit.escalate.balanced, fit.escalate.indexed⟩
  | sweep id =>
    refine honEmail id (fun s =>
      if s.hubEmail.sweeps then checkHubSlaBreaches hub req req.clock.service s else s)
        fun s fit => ?_
    split
    · exact fit.sweep req.clock.service
    · exact ⟨fit.balanced, fit.indexed⟩
  | dismiss id reason =>
    refine Outcome.onEmail balanced indexed (fun he s hrow hdone =>
      dismiss_outcome balanced indexed hrow hdone) fun he message hrow hfailed => ?_
    have hinactive : activeStates.contains he.state = false := by
      cases hstate : he.state <;>
        simp [dismissHubEmail, hrow, hstate, assertTransition, canTransition,
          allowedTransitions, Except.map, activeStates] at hfailed ⊢
    rw [carrier_of_inactive hinactive]
    rfl
  | convert id creator overrides =>
    exact convert_onEmail_outcome balanced indexed id creator overrides
  | autoAssignTicket id =>
    simp only [hubStep, applyHubOp, KeepsBalance]
    cases hrow : db.tickets.tickets id with
    | none =>
      simp only [Agents.autoAssignTicket, hrow]
      exact (Outcome.always balanced indexed).congr (by simp)
    | some ticket =>
      simp only [Option.mem_def, Option.some.injEq, forall_eq']
      cases hagent : getAvailableAgent ticket.queue db with
      | none =>
        simp only [Agents.autoAssignTicket, hrow, hagent]
        exact (Outcome.always balanced indexed).congr (by simp)
      | some user =>
        refine (autoAssign_outcome balanced indexed hrow hagent).congr ?_
        simp
  | updateTicketCount user => exact updateTicketCount_outcome balanced indexed user

end Operations

/--
The counters are right in every state of a run that starts with right counters, exactly if
every operation of the run meets the condition under which it keeps them.
-/
theorem balanced_iff_keepsBalance (hub : Hub) {db : HubDb} (balanced : Balanced db)
    (indexed : db.Indexed) (events : List HubEvent) :
    Always (hubStep hub) Balanced db events ↔
      Every (hubStep hub) (KeepsBalance hub) db events :=
  always_iff_every (fun (db : HubDb) (inv : Balanced db ∧ db.Indexed) => inv.1)
    (fun _ event inv keeps =>
      have outcome := hubStep_outcome hub inv.1 inv.2 event
      ⟨outcome.balanced.mpr keeps, outcome.indexed⟩)
    (fun _ event inv after => (hubStep_outcome hub inv.1 inv.2 event).balanced.mp after)
    ⟨balanced, indexed⟩ events

/-! ## A leak -/

/-- Two agents who are carrying nothing. -/
def twoAgents : HubDb :=
  { agents := fun user => if user = 1 ∨ user = 2 then some {} else none
    agentIds := [1, 2] }

theorem twoAgents_balanced : Balanced twoAgents := by
  intro user avail hrow
  simp only [twoAgents] at hrow
  split at hrow
  · rw [← Option.some.inj hrow]
    rfl
  · cases hrow

theorem twoAgents_indexed : twoAgents.Indexed := ⟨.empty, .empty⟩

/-- An email goes from one agent to the other, who works on it. -/
def handedOn : List HubEvent :=
  let req : Request := { clock := ⟨0, 0, 0, 0⟩ }
  [⟨.park 0 {}, req⟩, ⟨.reassign 0 1 "Claimed", req⟩, ⟨.reassign 0 2 "", req⟩,
    ⟨.transition 0 .inProgress, req⟩]

theorem balanced_when_handed_on :
    Always (hubStep { workspace := .seeded }) Balanced twoAgents handedOn :=
  (balanced_iff_keepsBalance { workspace := .seeded } twoAgents_balanced twoAgents_indexed
    handedOn).mpr (by decide)

/-- An agent claims an email and dismisses it. -/
def claimedAndDismissed : List HubEvent :=
  let req : Request := { clock := ⟨0, 0, 0, 0⟩ }
  [⟨.park 0 {}, req⟩, ⟨.reassign 0 1 "Claimed", req⟩, ⟨.dismiss 0 "Spam", req⟩]

/-- His counter still says one. -/
theorem counter_leaks :
    Balanced twoAgents ∧
      ¬ Always (hubStep { workspace := .seeded }) Balanced twoAgents claimedAndDismissed := by
  refine ⟨twoAgents_balanced, fun always => ?_⟩
  have hcount := always.finish 1 { currentTicketCount := 1, lastActivity := some 0 } rfl
  revert hcount
  decide

end Kanzan.Inbox

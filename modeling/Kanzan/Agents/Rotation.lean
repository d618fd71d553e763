import Mathlib.Data.Finset.Max
import Mathlib.Data.Int.ConditionallyCompleteOrder
import Kanzan.Inbox.ServiceLaws
import Kanzan.Support.Rotation
import Kanzan.Tickets.AuditTrail
import Mathlib.Order.CompletePartialOrder

/-!
# The agents of email tickets

Every ticket that an inbound email opens goes to the agent with the fewest open tickets, and
among those to the one whose last assignment is longest ago.  Nothing orders two agents who have
neither: the database returns whom it likes.  Whomever it returns, the agents take turns.
-/

namespace Kanzan.Agents

open Sla Support Tickets Inbox

/-! ## Picking an agent -/

/-- The stores of the hub, with the `created_at` of each assignment row by its place. -/
structure StampedDb where
  db : HubDb := {}
  assignedAt : ℕ → Instant := fun _ => 0

/-- The annotation `open_ticket_count` of a member. -/
def openTicketCount (db : HubDb) (user : ℕ) : ℕ :=
  countTickets db.tickets fun ticket => assignedOpen user ticket && !ticket.isDeleted

def lastMoment (assignedAt : ℕ → Instant) (history : List ℕ) (user : ℕ) : WithBot Instant :=
  (Finset.range history.length).sup fun place =>
    if history[place]? = some user then (assignedAt place : WithBot Instant) else ⊥

/-- The users to whom tickets were assigned, in the order of the rows. -/
def assignmentHistory (db : HubDb) : List ℕ :=
  db.tickets.assignments.map TicketAssignment.assignedTo

@[simp]
theorem assignmentHistory_length (db : HubDb) :
    (assignmentHistory db).length = db.tickets.assignments.length := List.length_map _

/-- The annotation `last_assigned_at` of a member, with its nulls first. -/
def StampedDb.lastAssignedAt (s : StampedDb) (user : ℕ) : WithBot Instant :=
  lastMoment s.assignedAt (assignmentHistory s.db) user

/-- The users that `pick_email_agent` chooses from. -/
def eligibleAgents (hub : Hub) (db : HubDb) : Finset ℕ :=
  ((hub.workspace.memberships.filter fun membership =>
    membership.isActive && hub.roleLevel membership.role == 30 &&
      !(db.agents membership.user).any fun avail => avail.status == .offline).map
        TenantMembership.user).toFinset

/-- What `pick_email_agent` may return: the database orders equal rows as it likes. -/
def MayPick (hub : Hub) (s : StampedDb) : Option ℕ → Prop
  | none => eligibleAgents hub s.db = ∅
  | some user => user ∈ eligibleAgents hub s.db ∧ ∀ other ∈ eligibleAgents hub s.db,
      toLex (openTicketCount s.db user, s.lastAssignedAt user) ≤
        toLex (openTicketCount s.db other, s.lastAssignedAt other)

instance (hub : Hub) (s : StampedDb) : (agent : Option ℕ) → Decidable (MayPick hub s agent)
  | none => inferInstanceAs (Decidable (eligibleAgents hub s.db = ∅))
  | some user => inferInstanceAs (Decidable (user ∈ eligibleAgents hub s.db ∧
      ∀ other ∈ eligibleAgents hub s.db,
        toLex (openTicketCount s.db user, s.lastAssignedAt user) ≤
          toLex (openTicketCount s.db other, s.lastAssignedAt other)))

section Assignment

variable (hub : Hub)

/-- `auto_assign_email_ticket`, with the agent that `pick_email_agent` returns. -/
def autoAssignEmailTicket (req : Request) (id : ℕ) (agent : Option ℕ) (s : StampedDb) :
    StampedDb :=
  match s.db.tickets.tickets id with
  | none => s
  | some ticket =>
    if ticket.assignee.isSome then s
    else
      let given := Tickets.autoAssignEmailTicket hub.workspace req agent
        { db := s.db.tickets, id, ticket }
      { db := HubDb.chargeAgent { s.db with tickets := given.db } req.clock.service agent
        assignedAt := fun place =>
          if place < s.db.tickets.assignments.length then s.assignedAt place
          else req.clock.autoNow }

/-- A ticket that an email opens, and the agent that is picked for it. -/
structure Arrival where
  id : ℕ
  ticket : Ticket
  req : Request
  agent : Option ℕ

def StampedDb.opened (s : StampedDb) (arrival : Arrival) : StampedDb :=
  { s with db.tickets := s.db.tickets.insertTicket arrival.id arrival.ticket }

def receive (s : StampedDb) (arrival : Arrival) : StampedDb :=
  autoAssignEmailTicket hub arrival.req arrival.id arrival.agent (s.opened arrival)

/-- The ticket is new, open and nobody's, the clock has moved on since the last assignment, and
the agent is one that may be picked. -/
structure Arrives (s : StampedDb) (arrival : Arrival) : Prop where
  fresh : s.db.tickets.tickets arrival.id = none
  unassigned : arrival.ticket.assignee = none
  isOpen : arrival.ticket.status.isClosed = false
  live : arrival.ticket.isDeleted = false
  later : ∀ place < s.db.tickets.assignments.length,
    s.assignedAt place < arrival.req.clock.autoNow
  picked : MayPick hub (s.opened arrival) arrival.agent

end Assignment

variable {other : ℕ}

/-! ## Last moments -/

section Moments

variable {assignedAt assignedAt' : ℕ → Instant} {history : List ℕ} {now : Instant}

theorem lastMoment_lt (hlater : ∀ place < history.length, assignedAt place < now) (user : ℕ) :
    lastMoment assignedAt history user < now := by
  refine (Finset.sup_lt_iff (WithBot.bot_lt_coe now)).mpr fun place hplace => ?_
  split
  · exact WithBot.coe_lt_coe.mpr (hlater place (Finset.mem_range.mp hplace))
  · exact WithBot.bot_lt_coe now

theorem lastMoment_snoc (hsame : ∀ place < history.length, assignedAt' place = assignedAt place)
    (hnow : assignedAt' history.length = now) (user other : ℕ) :
    lastMoment assignedAt' (history ++ [user]) other =
      (if user = other then (now : WithBot Instant) else ⊥) ⊔
        lastMoment assignedAt history other := by
  rw [lastMoment, List.length_append, List.length_singleton, Finset.range_add_one,
    Finset.sup_insert, List.getElem?_concat_length, hnow]
  simp only [Option.some.injEq]
  congr 1
  refine Finset.sup_congr rfl fun place hplace => ?_
  have hplace := Finset.mem_range.mp hplace
  rw [List.getElem?_append_left hplace, hsame place hplace]

theorem lastPlace_snoc (history : List ℕ) (user other : ℕ) :
    lastPlace (history ++ [user]) other =
      if user = other then history.length + 1 else lastPlace history other := by
  unfold lastPlace
  rw [List.reverse_append, List.reverse_singleton, List.singleton_append, List.idxOf_cons,
    List.length_append, List.length_singleton]
  by_cases heq : user = other
  · rw [if_pos heq, beq_iff_eq.mpr heq, cond_true, Nat.sub_zero]
  · rw [if_neg heq, beq_eq_false_iff_ne.mpr heq, cond_false, Nat.add_sub_add_right]

theorem lastMoment_eq (hsorted : ∀ later < history.length, ∀ place < later,
    assignedAt place < assignedAt later) (user : ℕ) :
    lastMoment assignedAt history user =
      if lastPlace history user = 0 then ⊥
      else (assignedAt (lastPlace history user - 1) : WithBot Instant) := by
  induction history using List.reverseRecOn with
  | nil => rfl
  | append_singleton history last ih =>
    rw [List.length_append, List.length_singleton] at hsorted
    have hbefore := ih fun later hlater => hsorted later (by omega)
    rw [lastMoment_snoc (fun _ _ => rfl) rfl, lastPlace_snoc]
    by_cases heq : last = user
    · have hlt := lastMoment_lt (hsorted history.length (by omega)) user
      rw [if_pos heq, if_pos heq, if_neg (Nat.succ_ne_zero _), Nat.add_sub_cancel]
      exact sup_eq_left.mpr (le_of_lt hlt)
    · rw [if_neg heq, if_neg heq, bot_sup_eq, hbefore]

theorem lastMoment_le
    (hsorted : ∀ later < history.length, ∀ place < later,
    assignedAt place < assignedAt later) {user : ℕ}
    (hle : lastPlace history user ≤ lastPlace history other) :
    lastMoment assignedAt history user ≤ lastMoment assignedAt history other := by
  have hbound : lastPlace history other ≤ history.length := Nat.sub_le _ _
  rw [lastMoment_eq hsorted, lastMoment_eq hsorted]
  by_cases hnever : lastPlace history user = 0
  · rw [if_pos hnever]
    exact bot_le
  · rw [if_neg hnever, if_neg (by omega), WithBot.coe_le_coe]
    rcases Nat.lt_or_eq_of_le hle with hlt | heq
    · exact le_of_lt (hsorted _ (by omega) _ (by omega))
    · rw [heq]

end Moments

/-! ## The agent that is first in the list -/

theorem firstLeast_le {α κ : Type} [LinearOrder κ] {key : α → κ} {items : List α} {least : α}
    (hleast : firstLeast key items = some least) : ∀ item ∈ items, key least ≤ key item := by
  cases items with
  | nil => cases hleast
  | cons first rest =>
    have hfold : ∀ (rest : List α) (best : α), ∀ item ∈ best :: rest,
        key (rest.foldl (fun best item => if key item < key best then item else best) best) ≤
          key item := by
      intro rest
      induction rest with
      | nil =>
        intro best item hitem
        rw [List.mem_singleton.mp hitem]
        exact le_rfl
      | cons next rest ih =>
        intro best item hitem
        rw [List.foldl_cons]
        split
        · rename_i hless
          rcases List.mem_cons.mp hitem with rfl | hitem
          · exact (ih next next List.mem_cons_self).trans (le_of_lt hless)
          · exact ih next item hitem
        · rename_i hleast
          rcases List.mem_cons.mp hitem with rfl | hitem
          · exact ih item item List.mem_cons_self
          · rcases List.mem_cons.mp hitem with rfl | hitem
            · exact (ih best best List.mem_cons_self).trans (not_lt.mp hleast)
            · exact ih best item (List.mem_cons_of_mem best hitem)
    rw [firstLeast, Option.some.injEq] at hleast
    exact hleast ▸ hfold rest first

theorem firstLeast_eq_none {α κ : Type} [LT κ] [DecidableLT κ] {key : α → κ} {items : List α}
    (hnone : firstLeast key items = none) : items = [] := by
  cases items with
  | nil => rfl
  | cons first rest => cases hnone

theorem exists_mayPick (hub : Hub) (s : StampedDb) : ∃ agent, MayPick hub s agent := by
  rcases (eligibleAgents hub s.db).eq_empty_or_nonempty with hempty | hsome
  · exact ⟨none, hempty⟩
  · obtain ⟨user, huser, hleast⟩ := Finset.exists_min_image (eligibleAgents hub s.db)
      (fun user => toLex (openTicketCount s.db user, s.lastAssignedAt user)) hsome
    exact ⟨some user, huser, hleast⟩

/-! ## One arrival -/

section Arrival

variable {hub : Hub} {s : StampedDb} {arrival : Arrival}

/-- What an arrival comes to for an agent that was picked. -/
structure Received (hub : Hub) (s s' : StampedDb) (user : ℕ) (now : Instant) : Prop where
  listed : Listed s'.db.tickets.tickets s'.db.tickets.ticketIds
  eligible : eligibleAgents hub s'.db = eligibleAgents hub s.db
  count : ∀ other, openTicketCount s'.db other =
    openTicketCount s.db other + if user = other then 1 else 0
  last : ∀ other, s'.lastAssignedAt other =
    (if user = other then (now : WithBot Instant) else ⊥) ⊔ s.lastAssignedAt other

theorem eligibleAgents_congr {db db' : HubDb} (hstatus : ∀ user,
    (db'.agents user).map AgentAvailability.status = (db.agents user).map AgentAvailability.status) :
    eligibleAgents hub db' = eligibleAgents hub db := by
  have hoffline : ∀ user, ((db'.agents user).any fun avail => avail.status == .offline) =
      (db.agents user).any fun avail => avail.status == .offline := by
    intro user
    have hmap := congrArg (Option.any (· == .offline)) (hstatus user)
    rwa [Option.any_map, Option.any_map] at hmap
  simp only [eligibleAgents, hoffline]

theorem chargeAgent_status (db : HubDb) (now : Instant) (agent : Option ℕ) (user : ℕ) :
    ((db.chargeAgent now agent).agents user).map AgentAvailability.status =
      (db.agents user).map AgentAvailability.status := by
  cases agent with
  | none => rfl
  | some charged =>
    by_cases heq : user = charged
    · simp [HubDb.chargeAgent, HubDb.updateAgent, heq, AgentAvailability.takeOn,
        Function.comp_def]
    · simp [HubDb.chargeAgent, HubDb.updateAgent, heq]

theorem openTicketCount_opened (listed : Listed s.db.tickets.tickets s.db.tickets.ticketIds)
    (arrives : Arrives hub s arrival) (user : ℕ) :
    openTicketCount (s.opened arrival).db user = openTicketCount s.db user := by
  have hcount : openTicketCount (s.opened arrival).db user = openTicketCount s.db user +
      (assignedOpen user arrival.ticket && !arrival.ticket.isDeleted).toNat :=
    countRows_insert listed arrives.fresh (Function.update_self ..) fun other hother =>
      Function.update_of_ne hother ..
  have hnobody : assignedOpen user arrival.ticket = false := by
    simp [assignedOpen, arrives.unassigned]
  rw [hnobody] at hcount
  exact hcount

def Arrival.session (arrival : Arrival) (s : StampedDb) : Session :=
  { db := (s.opened arrival).db.tickets, id := arrival.id, ticket := arrival.ticket }

theorem Arrival.session_row (arrival : Arrival) (s : StampedDb) :
    (arrival.session s).db.tickets arrival.id = some arrival.ticket := Function.update_self ..

theorem Arrival.session_settled (arrival : Arrival) (s : StampedDb) :
    Settled (arrival.session s) := ⟨arrival.ticket, arrival.session_row s, rfl⟩

theorem receive_eq (arrives : Arrives hub s arrival) :
    receive hub s arrival =
      { db := HubDb.chargeAgent
          { s.db with
            tickets := (Tickets.autoAssignEmailTicket hub.workspace arrival.req arrival.agent
              (arrival.session s)).db }
          arrival.req.clock.service arrival.agent
        assignedAt := fun place =>
          if place < s.db.tickets.assignments.length then s.assignedAt place
          else arrival.req.clock.autoNow } := by
  have hrow : (s.opened arrival).db.tickets.tickets arrival.id = some arrival.ticket :=
    arrival.session_row s
  simp only [receive, autoAssignEmailTicket, hrow, arrives.unassigned, Option.isSome_none,
    Bool.false_eq_true, if_false]
  rfl

theorem autoAssign_session (arrives : Arrives hub s arrival) (user : ℕ) :
    ((Tickets.autoAssignEmailTicket hub.workspace arrival.req (some user)
        (arrival.session s)).db.tickets arrival.id).map Ticket.workload =
      some (arrival.ticket.status, some user, arrival.ticket.isDeleted) ∧
    (Tickets.autoAssignEmailTicket hub.workspace arrival.req (some user)
        (arrival.session s)).db.assignments.map TicketAssignment.assignedTo =
      assignmentHistory s.db ++ [user] := by
  have hnone : (arrival.session s).ticket.assignee = none := arrives.unassigned
  simp only [Tickets.autoAssignEmailTicket, hnone]
  constructor
  · exact save_assignee_workload hub.workspace arrival.req.clock (arrival.session_settled s)
      (congrArg (Option.map Ticket.workload) (arrival.session_row s)) user
  · rw [Session.recordAssignment, Db.createAssignment, List.map_append, save_assignments]
    rfl

theorem receive_received (listed : Listed s.db.tickets.tickets s.db.tickets.ticketIds)
    (arrives : Arrives hub s arrival) {user : ℕ} (hagent : arrival.agent = some user) :
    Received hub s (receive hub s arrival) user arrival.req.clock.autoNow := by
  have hopened : Listed (arrival.session s).db.tickets (arrival.session s).db.ticketIds :=
    listed.insert arrives.fresh (arrival.session_row s) fun other hother =>
      Function.update_of_ne hother ..
  have huntouched : Untouched (arrival.session s)
      (Tickets.autoAssignEmailTicket hub.workspace arrival.req (some user) (arrival.session s)) :=
    (autoAssignEmailTicket_edits _ (some user)).untouched
  obtain ⟨hload, hhistory⟩ := autoAssign_session arrives user
  rw [receive_eq arrives, hagent]
  generalize Tickets.autoAssignEmailTicket hub.workspace arrival.req (some user)
    (arrival.session s) = given at huntouched hload hhistory
  obtain ⟨row, hrow, hworkload⟩ := Option.map_eq_some_iff.mp hload
  obtain ⟨hstatus, hassignee, hdeleted⟩ : row.status = arrival.ticket.status ∧
      row.assignee = some user ∧ row.isDeleted = arrival.ticket.isDeleted := by
    simpa [Ticket.workload] using hworkload
  exact {
    listed := by
      rw [chargeAgent_tickets]
      exact huntouched.ticketIds ▸ hopened.of_isSome huntouched.stored
    eligible := (eligibleAgents_congr (chargeAgent_status _ _ (some user))).trans
      (eligibleAgents_congr fun _ => rfl)
    count := by
      intro other
      have hcount : countRows given.db.tickets (arrival.session s).db.ticketIds
            (fun ticket => assignedOpen other ticket && !ticket.isDeleted) +
              (assignedOpen other arrival.ticket && !arrival.ticket.isDeleted).toNat =
          openTicketCount (s.opened arrival).db other +
            (assignedOpen other row && !row.isDeleted).toNat :=
        countRows_update hopened (arrival.session_row s) hrow huntouched.others
      have hbefore : assignedOpen other arrival.ticket = false := by
        simp [assignedOpen, arrives.unassigned]
      have hafter : (assignedOpen other row && !row.isDeleted) = decide (user = other) := by
        simp [assignedOpen, hassignee, hstatus, hdeleted, arrives.isOpen, arrives.live,
          beq_eq_decide]
      rw [hbefore, hafter, ← huntouched.ticketIds, openTicketCount_opened listed arrives] at hcount
      rw [openTicketCount, chargeAgent_tickets]
      refine hcount.trans ?_
      by_cases heq : user = other
      · simp [heq]
      · simp [heq]
    last := by
      intro other
      have hlength := assignmentHistory_length s.db
      rw [StampedDb.lastAssignedAt, assignmentHistory, chargeAgent_tickets, hhistory]
      exact lastMoment_snoc (fun place hplace => if_pos (hlength ▸ hplace))
        (if_neg (hlength ▸ lt_irrefl _)) user other }

end Arrival

/-! ## Runs -/

section Runs

variable {hub : Hub} {s : StampedDb} {arrivals : List Arrival} {n : ℕ}

def afterFirst (hub : Hub) (s : StampedDb) (arrivals : List Arrival) (n : ℕ) : StampedDb :=
  run (receive hub) s (arrivals.take n)

def pickedAt (arrivals : List Arrival) (n : ℕ) : ℕ :=
  (arrivals[n]?.bind Arrival.agent).getD 0

theorem afterFirst_succ (hn : n < arrivals.length) :
    afterFirst hub s arrivals (n + 1) = receive hub (afterFirst hub s arrivals n) arrivals[n] := by
  rw [afterFirst, List.take_succ_eq_append_getElem hn, run_snoc]
  rfl

theorem arrives_afterFirst (arriving : Every (receive hub) (Arrives hub) s arrivals)
    (hn : n < arrivals.length) : Arrives hub (afterFirst hub s arrivals n) arrivals[n] := by
  have hsplit : arrivals.take n ++ arrivals[n] :: arrivals.drop (n + 1) = arrivals := by
    rw [← List.drop_eq_getElem_cons hn, List.take_append_drop]
  rw [← hsplit] at arriving
  exact arriving.rest.1

theorem Arrives.exists_agent {arrival : Arrival} (arrives : Arrives hub s arrival)
    (hsome : (eligibleAgents hub s.db).Nonempty) :
    ∃ user ∈ eligibleAgents hub s.db, arrival.agent = some user := by
  have hpicked := arrives.picked
  cases hagent : arrival.agent with
  | none =>
    rw [hagent] at hpicked
    exact absurd hpicked hsome.ne_empty
  | some user =>
    rw [hagent] at hpicked
    exact ⟨user, hpicked.1, rfl⟩

/-- The keys of the tickets are listed, and these agents eligible. -/
structure Staffed (hub : Hub) (members : Finset ℕ) (s : StampedDb) : Prop where
  listed : Listed s.db.tickets.tickets s.db.tickets.ticketIds
  eligible : eligibleAgents hub s.db = members

section Staffed

variable {members : Finset ℕ}

theorem run_staffed (staffed : Staffed hub members s) (hsome : members.Nonempty)
    (arriving : Every (receive hub) (Arrives hub) s arrivals) :
    Staffed hub members (run (receive hub) s arrivals) := by
  have hpreserved : ∀ t arrival, Staffed hub members t → Arrives hub t arrival →
      Staffed hub members (receive hub t arrival) := by
    intro t arrival staffed arrives
    obtain ⟨user, -, hagent⟩ := arrives.exists_agent (staffed.eligible.symm ▸ hsome)
    have received := receive_received staffed.listed arrives hagent
    exact ⟨received.listed, received.eligible.trans staffed.eligible⟩
  exact run_invariant _ hpreserved staffed arrivals arriving

theorem staffed_afterFirst (staffed : Staffed hub members s) (hsome : members.Nonempty)
    (arriving : Every (receive hub) (Arrives hub) s arrivals) (n : ℕ) :
    Staffed hub members (afterFirst hub s arrivals n) := by
  rw [← List.take_append_drop n arrivals] at arriving
  exact run_staffed staffed hsome arriving.first

theorem picked_afterFirst (staffed : Staffed hub members s) (hsome : members.Nonempty)
    (arriving : Every (receive hub) (Arrives hub) s arrivals) (hn : n < arrivals.length) :
    arrivals[n].agent = some (pickedAt arrivals n) ∧ pickedAt arrivals n ∈ members := by
  have heligible := (staffed_afterFirst staffed hsome arriving n).eligible
  obtain ⟨user, huser, hagent⟩ :=
    (arrives_afterFirst arriving hn).exists_agent (heligible.symm ▸ hsome)
  have hpicked : pickedAt arrivals n = user := by
    rw [pickedAt, List.getElem?_eq_getElem hn, Option.bind_some, hagent, Option.getD_some]
  rw [hpicked]
  exact ⟨hagent, heligible ▸ huser⟩

theorem received_afterFirst (staffed : Staffed hub members s) (hsome : members.Nonempty)
    (arriving : Every (receive hub) (Arrives hub) s arrivals) (hn : n < arrivals.length) :
    Received hub (afterFirst hub s arrivals n) (afterFirst hub s arrivals (n + 1))
      (pickedAt arrivals n) arrivals[n].req.clock.autoNow := by
  rw [afterFirst_succ hn]
  exact receive_received (staffed_afterFirst staffed hsome arriving n).listed
    (arrives_afterFirst arriving hn) (picked_afterFirst staffed hsome arriving hn).1

theorem least_afterFirst (staffed : Staffed hub members s) (hsome : members.Nonempty)
    (arriving : Every (receive hub) (Arrives hub) s arrivals) (hn : n < arrivals.length)
    (hother : other ∈ members) :
    toLex (openTicketCount (afterFirst hub s arrivals n).db (pickedAt arrivals n),
        (afterFirst hub s arrivals n).lastAssignedAt (pickedAt arrivals n)) ≤
      toLex (openTicketCount (afterFirst hub s arrivals n).db other,
        (afterFirst hub s arrivals n).lastAssignedAt other) := by
  have hafter := staffed_afterFirst staffed hsome arriving n
  have arrives := arrives_afterFirst arriving hn
  have hpicked := arrives.picked
  rw [(picked_afterFirst staffed hsome arriving hn).1] at hpicked
  rw [← openTicketCount_opened hafter.listed arrives, ← openTicketCount_opened hafter.listed arrives]
  exact hpicked.2 other (hafter.eligible.symm ▸ hother)

theorem turns_of_arriving (staffed : Staffed hub members s) (hsome : members.Nonempty)
    (heven : ∀ a ∈ members, ∀ b ∈ members, openTicketCount s.db a = openTicketCount s.db b)
    (arriving : Every (receive hub) (Arrives hub) s arrivals) :
    Turns members (fun n user => openTicketCount (afterFirst hub s arrivals n).db user)
      (fun n user => (afterFirst hub s arrivals n).lastAssignedAt user)
      (pickedAt arrivals) arrivals.length where
  even := heven
  mem n hn := (picked_afterFirst staffed hsome arriving hn).2
  least n hn a ha := least_afterFirst staffed hsome arriving hn ha
  load_turn n hn := by
    rw [(received_afterFirst staffed hsome arriving hn).count, if_pos rfl]
  load_other n hn a _ hne := by
    rw [(received_afterFirst staffed hsome arriving hn).count, if_neg hne.symm, Nat.add_zero]
  last_turn n hn a _ := by
    have hlater := (arrives_afterFirst arriving hn).later
    rw [← assignmentHistory_length] at hlater
    rw [(received_afterFirst staffed hsome arriving hn).last, if_pos rfl]
    exact lt_sup_of_lt_left (lastMoment_lt hlater a)
  last_other n hn a _ hne := by
    rw [(received_afterFirst staffed hsome arriving hn).last, if_neg hne.symm, bot_sup_eq]

end Staffed

end Runs

/--
From equal counts on, the open tickets of any two eligible agents stay within one of each other,
and as many arrivals later as there are agents the same one is picked.
-/
theorem autoAssignEmailTicket_rotates (hub : Hub) (s : StampedDb)
    (listed : Listed s.db.tickets.tickets s.db.tickets.ticketIds)
    (hsome : (eligibleAgents hub s.db).Nonempty)
    (heven : ∀ a ∈ eligibleAgents hub s.db, ∀ b ∈ eligibleAgents hub s.db,
      openTicketCount s.db a = openTicketCount s.db b)
    (arrivals : List Arrival) (arriving : Every (receive hub) (Arrives hub) s arrivals) :
    (∀ a ∈ eligibleAgents hub s.db, ∀ b ∈ eligibleAgents hub s.db,
      openTicketCount (run (receive hub) s arrivals).db a ≤
        openTicketCount (run (receive hub) s arrivals).db b + 1) ∧
    ∀ n earlier later, arrivals[n]? = some earlier →
      arrivals[n + (eligibleAgents hub s.db).card]? = some later →
        ∃ user ∈ eligibleAgents hub s.db, earlier.agent = some user ∧ later.agent = some user := by
  have staffed : Staffed hub (eligibleAgents hub s.db) s := ⟨listed, rfl⟩
  have turns := turns_of_arriving staffed hsome heven arriving
  constructor
  · intro a ha b hb
    have hbalanced := turns.balanced le_rfl ha hb
    rwa [afterFirst, List.take_length] at hbalanced
  · intro n earlier later hearlier hlater
    obtain ⟨hn, rfl⟩ := List.getElem?_eq_some_iff.mp hearlier
    obtain ⟨hlast, rfl⟩ := List.getElem?_eq_some_iff.mp hlater
    obtain ⟨hfirst, hmem⟩ := picked_afterFirst staffed hsome arriving hn
    obtain ⟨hsecond, -⟩ := picked_afterFirst staffed hsome arriving hlast
    rw [turns.rotates hlast] at hsecond
    exact ⟨pickedAt arrivals n, hmem, hfirst, hsecond⟩

/-- Three emails, one after the other. -/
def threeEmails : List Arrival :=
  let opened (id : ℕ) (agent : ℕ) : Arrival :=
    { id
      ticket :=
        { status := { pk := 0, name := "Open", slug := "open", order := 10, isDefault := true }
          createdBy := 9
          createdAt := id
          updatedAt := id }
      req := { clock := ⟨id, id, id, id⟩ }
      agent }
  [opened 1 2, opened 2 1, opened 3 2]

instance (hub : Hub) (s : StampedDb) (arrival : Arrival) : Decidable (Arrives hub s arrival) :=
  decidable_of_iff (s.db.tickets.tickets arrival.id = none ∧ arrival.ticket.assignee = none ∧
      arrival.ticket.status.isClosed = false ∧ arrival.ticket.isDeleted = false ∧
      (∀ place < s.db.tickets.assignments.length,
        s.assignedAt place < arrival.req.clock.autoNow) ∧
      MayPick hub (s.opened arrival) arrival.agent)
    ⟨fun ⟨fresh, unassigned, isOpen, live, later, picked⟩ =>
        ⟨fresh, unassigned, isOpen, live, later, picked⟩,
      fun arrives => ⟨arrives.fresh, arrives.unassigned, arrives.isOpen, arrives.live,
        arrives.later, arrives.picked⟩⟩

theorem autoAssignEmailTicket_rotates_threeEmails :
    ∃ user ∈ eligibleAgents { workspace := .seeded } {},
      threeEmails[0].agent = some user ∧ threeEmails[2].agent = some user :=
  (autoAssignEmailTicket_rotates { workspace := .seeded } {} .empty (by decide) (by decide)
    threeEmails (by decide +kernel)).2 0 threeEmails[0] threeEmails[2] rfl rfl

end Kanzan.Agents

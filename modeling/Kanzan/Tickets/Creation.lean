import Kanzan.Tickets.Edits

/-!
# Tickets created from an email

When the creation succeeds, and the one row that it adds to the tickets.
-/

namespace Kanzan.Tickets

open Support

def canCreateFromEmail (ws : Workspace) (overrides : NewTicket) (db : Db) : Bool :=
  !overrides.status.any TicketStatus.isClosed &&
    !overrides.assignee.any (fun assignee => !ws.isActiveMember assignee) &&
      (defaultStatus ws).isSome && (db.tickets overrides.id).isNone

def emailTicketStatus (ws : Workspace) (overrides : NewTicket) : Option TicketStatus :=
  overrides.status.or (defaultStatus ws)

/-- What the creation of a ticket changes in the tables of tickets. -/
structure Adds (ws : Workspace) (overrides : NewTicket) (agent : Option ℕ) (db db' : Db) : Prop where
  absent : db.tickets overrides.id = none
  others : ∀ other ≠ overrides.id, db'.tickets other = db.tickets other
  ticketIds : db'.ticketIds = db.ticketIds ++ [overrides.id]
  row : ∃ row, db'.tickets overrides.id = some row ∧
    emailTicketStatus ws overrides = some row.status ∧
      row.assignee = overrides.assignee.or agent ∧ row.isDeleted = false

variable {load : TicketStatus × Option ℕ × Bool}

section Creation

variable {ws : Workspace} {req : Request} {creator : ℕ} {overrides : NewTicket}
  {agent : Option ℕ} {db : Db} {s : Session}

def Ticket.workload (ticket : Ticket) : TicketStatus × Option ℕ × Bool :=
  (ticket.status, ticket.assignee, ticket.isDeleted)

variable (ws req) in
/-- The deadlines of a ticket do not count. -/
theorem initializeSla_workload (settled : Settled s) :
    (initializeSla ws req s).ticket.workload = s.ticket.workload ∧
      ((initializeSla ws req s).db.tickets s.id).map Ticket.workload =
        (s.db.tickets s.id).map Ticket.workload :=
  (initializeSla_edits ws req s).keeps (by decide) settled Ticket.workload
    (fun inst row => by simp [Ticket.workload, Ticket.persist]) (fun _ _ => rfl)
    (fun _ _ _ => rfl)

variable (ws) in
/-- A ticket is given to a user. -/
theorem save_assignee_workload (clock : Clock) (settled : Settled s)
    (hrow : (s.db.tickets s.id).map Ticket.workload = some load) (user : ℕ) :
    ((save ws clock [.assignee, .updatedAt] (s.modify fun ticket =>
      { ticket with assignee := some user })).db.tickets s.id).map Ticket.workload =
        some (load.1, some user, load.2.2) := by
  obtain ⟨row, hstored, hstatus⟩ := settled
  rw [hstored, Option.map_some, Option.some.injEq] at hrow
  subst hrow
  rw [save_of_same ⟨row, hstored, hstatus⟩ rfl, write_of_same hstored hstatus]
  simp [Db.updateTicket, Ticket.workload, Ticket.persist, Ticket.autoNow]

variable (req) in
/-- A ticket without an assignee is given to the agent. -/
theorem maybeAutoAssign_workload (settled : Settled s) (hnone : s.ticket.assignee = none)
    {status : TicketStatus} {deleted : Bool}
    (hrow : (s.db.tickets s.id).map Ticket.workload = some (status, none, deleted))
    (hauto : agent.isSome → ∃ settings, ws.settings = some settings ∧
      settings.autoAssignInboundEmailTickets = true) :
    ((maybeAutoAssign ws req agent s).db.tickets s.id).map Ticket.workload =
      some (status, agent, deleted) := by
  cases agent with
  | none =>
    have hsame : maybeAutoAssign ws req none s = s := by
      unfold maybeAutoAssign autoAssignEmailTicket
      cases ws.settings with
      | none => rfl
      | some settings => simp
    rw [hsame, hrow]
  | some user =>
    obtain ⟨settings, hsettings, hon⟩ := hauto rfl
    simp only [maybeAutoAssign, hsettings, hon, if_true, autoAssignEmailTicket, hnone]
    exact save_assignee_workload ws req.clock settled hrow user

theorem autoAssignTicket_workload (ws : Workspace) (req : Request) (settled : Settled s)
    (hrow : (s.db.tickets s.id).map Ticket.workload = some load) (user : ℕ) :
    ((autoAssignTicket ws req (some user) s).db.tickets s.id).map Ticket.workload =
      some (load.1, some user, load.2.2) :=
  save_assignee_workload ws req.clock settled hrow user

def started (overrides : NewTicket) (row : Ticket) (db : Db) : Session :=
  { db := db.insertTicket overrides.id row, id := overrides.id, ticket := row }

theorem started_row (overrides : NewTicket) (row : Ticket) (db : Db) :
    (started overrides row db).db.tickets overrides.id = some row := Function.update_self ..

theorem started_settled (overrides : NewTicket) (row : Ticket) (db : Db) :
    Settled (started overrides row db) := ⟨row, started_row overrides row db, rfl⟩

theorem Adds.of_untouched {t : Session} {row : Ticket} (hfresh : db.tickets overrides.id = none)
    (untouched : Untouched (started overrides row db) t)
    (hstatus : emailTicketStatus ws overrides = some row.status)
    (hrow : (t.db.tickets overrides.id).map Ticket.workload =
      some (row.status, overrides.assignee.or agent, false)) : Adds ws overrides agent db t.db where
  absent := hfresh
  others other hother := by
    rw [untouched.others other hother]
    exact Function.update_of_ne hother ..
  ticketIds := untouched.ticketIds
  row := by
    obtain ⟨stored, hstored, hload⟩ := Option.map_eq_some_iff.mp hrow
    obtain ⟨hsame, hassignee, hdeleted⟩ : stored.status = row.status ∧
        stored.assignee = overrides.assignee.or agent ∧ stored.isDeleted = false := by
      simpa [Ticket.workload] using hload
    exact ⟨stored, hstored, hsame ▸ hstatus, hassignee, hdeleted⟩

theorem createTicketFromEmail_cases
    (success : createTicketFromEmail ws req creator overrides agent db = .ok s) :
    ∃ row, db.tickets overrides.id = none ∧ emailTicketStatus ws overrides = some row.status ∧
      row.assignee = overrides.assignee ∧ row.isDeleted = false ∧
        s = if overrides.assignee = none then
            maybeAutoAssign ws req agent (initializeSla ws req (started overrides row db))
          else initializeSla ws req (started overrides row db) := by
  unfold createTicketFromEmail at success
  obtain ⟨-, -, success⟩ := bind_eq_ok.mp success
  obtain ⟨-, -, success⟩ := bind_eq_ok.mp success
  split at success
  · cases success
  rename_i status hdefault
  obtain ⟨created, hcreated, success⟩ := bind_eq_ok.mp success
  obtain ⟨hfresh, rfl⟩ := create_cases hcreated
  dsimp only at hfresh success
  generalize hrow : NewTicket.row _ _ _ _ = row at success
  refine ⟨row, hfresh, ?_, hrow ▸ rfl, hrow ▸ rfl, ?_⟩
  · rw [← hrow, emailTicketStatus, hdefault]
    cases overrides.status <;> rfl
  · split at success
    · rename_i hnone
      rw [if_pos hnone]
      exact (Except.ok.inj success).symm
    · rename_i hexplicit
      rw [if_neg hexplicit]
      exact (Except.ok.inj success).symm

theorem createTicketFromEmail_adds (hagent : agent.isSome → overrides.assignee = none)
    (hauto : agent.isSome → ∃ settings, ws.settings = some settings ∧
      settings.autoAssignInboundEmailTickets = true)
    (success : createTicketFromEmail ws req creator overrides agent db = .ok s) :
    s.id = overrides.id ∧ Adds ws overrides agent db s.db := by
  obtain ⟨row, hfresh, hstatus, hassignee, hdeleted, rfl⟩ := createTicketFromEmail_cases success
  have hsettled := started_settled overrides row db
  have hedits := initializeSla_edits ws req (started overrides row db)
  obtain ⟨hinstance, hstored⟩ := initializeSla_workload ws req hsettled
  have hid : (initializeSla ws req (started overrides row db)).id = overrides.id :=
    hedits.untouched.id
  rw [show (started overrides row db).id = overrides.id from rfl, started_row, Option.map_some,
    Ticket.workload, hassignee, hdeleted] at hstored
  split
  · rename_i hnone
    rw [hnone] at hstored
    have hunassigned : (initializeSla ws req (started overrides row db)).ticket.assignee = none :=
      (congrArg (fun load => load.2.1) hinstance).trans (hassignee.trans hnone)
    have hassigned := maybeAutoAssign_workload req (hedits.settled (by decide) hsettled).1
      hunassigned (hid ▸ hstored) hauto
    have hassigns : Edits ws [.assignee, .updatedAt] _ (maybeAutoAssign ws req agent
        (initializeSla ws req (started overrides row db))) := maybeAutoAssign_edits _ agent
    have huntouched := hedits.untouched.trans hassigns.untouched
    rw [hid] at hassigned
    refine ⟨huntouched.id, .of_untouched hfresh huntouched hstatus ?_⟩
    rw [hassigned, hnone, Option.none_or]
  · rename_i hexplicit
    have hno : agent = none := by
      cases agent with
      | none => rfl
      | some user => exact absurd (hagent rfl) hexplicit
    refine ⟨hid, .of_untouched hfresh hedits.untouched hstatus ?_⟩
    rw [hstored, hno, Option.or_none]

theorem createTicketFromEmail_isOk :
    (createTicketFromEmail ws req creator overrides agent db).isOk =
      canCreateFromEmail ws overrides db := by
  unfold createTicketFromEmail canCreateFromEmail validateStatusOverride validateAssigneeOverride
  cases overrides.status.any TicketStatus.isClosed with
  | true => rfl
  | false =>
    cases overrides.assignee.any fun assignee => !ws.isActiveMember assignee with
    | true => rfl
    | false =>
      cases defaultStatus ws with
      | none => rfl
      | some status =>
        cases hrow : db.tickets overrides.id with
        | some row => simp [Db.create, hrow, bind, Except.bind, Except.isOk, Except.toBool]
        | none =>
          simp only [Db.create, hrow, Option.isSome_none, Bool.false_eq_true, if_false, bind,
            Except.bind]
          split <;> rfl

end Creation

end Kanzan.Tickets

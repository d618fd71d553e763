import Kanzan.Support.Handlers
import Kanzan.Tickets.Desk
import Kanzan.Tickets.PatchRequests

/-!
# A `PATCH` that raises

`perform_update` runs in no transaction, and the service functions that it calls each run in one of
their own.  An error takes back what the service at hand has changed, and nothing of what came
before it.
-/

namespace Kanzan.Tickets

open Sla Support Support.Handler

/-! ## The stored rows -/

/-- The columns of the ticket that only the serializer writes. -/
structure PlainColumns where
  contact : Option ℕ := none
  company : Option ℕ := none
  fields : Field → Option String := fun _ => none

/-- The rows that a request on the ticket finds stored. -/
structure Records extends Ledger where
  plain : PlainColumns := {}

/-- The fields of the body that are columns of the audited ticket and go to no service. -/
def Patch.simple (patch : Patch) : Audited.SimplePatch where
  queue := patch.queue
  tags := patch.tags
  pipelineStage := patch.pipelineStage
  wonReason := patch.wonReason
  lostReason := patch.lostReason

/-- The other columns after the save, with the company that `Ticket.save` fills in. -/
def Patch.storePlain (site : Site) (patch : Patch) (plain : PlainColumns) : PlainColumns :=
  let contact := patch.contact.getD plain.contact
  let company := patch.company.getD plain.company
  { contact
    company := company.or (contact.bind site.contactCompany)
    fields := fun field => (patch.fields field).getD (plain.fields field) }

/-- The rows of a ticket, of its pauses and of what is told about it are as before. -/
structure Records.Unchanged (id : ℕ) (before after : Records) : Prop where
  ticket : after.db.tickets id = before.db.tickets id
  plain : after.plain = before.plain
  pauses : after.db.pauses = before.db.pauses
  assignments : after.db.assignments = before.db.assignments
  activities : after.db.activities = before.db.activities
  activityLog : after.activityLog = before.activityLog

theorem Records.Unchanged.refl (id : ℕ) (records : Records) : records.Unchanged id records :=
  ⟨rfl, rfl, rfl, rfl, rfl, rfl⟩

/-! ## The request -/

/-- Errors of the database or of the broker, by the place where the request meets them. -/
structure Trouble where
  beforeUpdate : Option String := none
  afterUpdate : Option String := none
  transition : Option String := none
  priority : Option String := none
  assignment : Option String := none

/-- What a request brings along, and what it meets with. -/
structure Circumstances where
  site : Site
  req : Request
  brokerUp : Bool := true
  trouble : Trouble := {}

namespace Circumstances

variable (circumstances : Circumstances)

def work (service : Audited → Except String Audited) (inst : Loaded) : Handler Records Loaded := do
  let records ← get
  let t ← ofExcept (service (records.audit inst.id inst.ticket inst.skipSignalLogging))
  modify fun records => { records with toLedger := t.ledger }
  return { id := t.session.id, ticket := t.session.ticket, skipSignalLogging := t.skipSignalLogging }

/-- The other columns of the same update, and what may go wrong after it. -/
def finishSave (patch : Patch) (updated : Loaded) : Handler Records Loaded := do
  modify fun records =>
    { records with plain := patch.storePlain circumstances.site records.plain }
  breakOff circumstances.trouble.afterUpdate
  return updated

/-- `serializer.save()`, outside any transaction. -/
def saveSerializer (patch : Patch) (inst : Loaded) : Handler Records Loaded := do
  breakOff circumstances.trouble.beforeUpdate
  let updated ← work
    (fun t => .ok (t.performUpdate circumstances.site.ws circumstances.req patch.simple)) inst
  finishSave circumstances patch updated

/-- A service function in its transaction, and the hooks of the commit, which swallow errors. -/
def transaction (fault : Option String) (service : Audited → Except String Audited)
    (inst : Loaded) : Handler Records Loaded := do
  let updated ← atomic do
    let updated ← work service inst
    breakOff fault
    return updated
  modify fun records => { records with db := records.db.commit circumstances.brokerUp }
  return updated

/-- `transition_ticket_status`. -/
def transitionTicketStatus (newStatus : TicketStatus) : Loaded → Handler Records Loaded :=
  circumstances.transaction circumstances.trouble.transition fun t =>
    t.transitionTicketStatus circumstances.site.ws circumstances.req newStatus

/-- `change_ticket_priority`. -/
def changeTicketPriority (newPriority : Priority) : Loaded → Handler Records Loaded :=
  circumstances.transaction circumstances.trouble.priority fun t =>
    .ok (t.changeTicketPriority circumstances.site.ws circumstances.req newPriority)

/-- `assign_ticket`. -/
def assignTicket (assignee : ℕ) : Loaded → Handler Records Loaded :=
  circumstances.transaction circumstances.trouble.assignment fun t =>
    t.assignTicket circumstances.site.ws circumstances.req assignee ""

def delegate (patch : Patch) (old : Ticket) (updated : Loaded) : Handler Records Loaded := do
  let updated ← whenGiven circumstances.transitionTicketStatus (patch.newStatus old) updated
  let updated ← whenGiven circumstances.changeTicketPriority (patch.newPriority old) updated
  whenGiven circumstances.assignTicket (patch.newAssignee old) updated

/-- `TicketViewSet.perform_update` on the instance loaded for the request. -/
def performUpdate (patch : Patch) (inst : Loaded) : Handler Records Loaded := do
  ofExcept (patch.validate inst.ticket)
  let updated ← circumstances.saveSerializer patch inst
  delegate circumstances patch inst.ticket updated

end Circumstances

/-! ## The moment of the last save -/

/-- A stored row bears this moment. -/
def Db.Stamped (now : Instant) (id : ℕ) (db : Db) : Prop :=
  (db.tickets id).map Ticket.updatedAt = some now

/-- Work that leaves the moment on the row, if it is there. -/
structure KeepsStamp (now : Instant) (s s' : Session) : Prop where
  id : s'.id = s.id
  stamped : s.db.Stamped now s.id → s'.db.Stamped now s'.id

variable {columns : List Column} {service : Audited → Except String Audited}

namespace KeepsStamp

variable {ws : Workspace} {req : Request} {clock : Clock} {now : Instant} {s s' : Session}

theorem of_tickets (hid : s'.id = s.id) (htickets : s'.db.tickets = s.db.tickets) :
    KeepsStamp now s s' where
  id := hid
  stamped := by
    intro stamped
    rwa [hid, Db.Stamped, htickets]

theorem refl (s : Session) : KeepsStamp now s s := of_tickets rfl rfl

theorem trans {a b c : Session} (first : KeepsStamp now a b) (second : KeepsStamp now b c) :
    KeepsStamp now a c where
  id := second.id.trans first.id
  stamped stamped := second.stamped (first.stamped stamped)

theorem respected : Respected (KeepsStamp now) where
  refl := refl
  trans := trans
  log _ _ := of_tickets rfl rfl
  modify _ _ _ := of_tickets rfl rfl

theorem ignoresPauses : IgnoresPauses (KeepsStamp now) := fun _ _ _ => of_tickets rfl rfl

theorem write_updatedAt {previous : Ticket} (hrow : s.db.tickets s.id = some previous) :
    ((write clock columns s).db.tickets s.id).map Ticket.updatedAt =
      some (if .updatedAt ∈ columns then clock.autoNow else previous.updatedAt) := by
  rw [write_of_row hrow]
  simp only [Db.updateTicket, Function.update_self, Option.map_some, Ticket.persist, Ticket.autoNow]
  split
  · rfl
  · rfl

theorem write (columns : List Column) (s : Session) :
    KeepsStamp clock.autoNow s (write clock columns s) where
  id := (write_untouched clock columns s).id
  stamped := by
    intro stamped
    obtain ⟨previous, hrow, hprevious⟩ := Option.map_eq_some_iff.mp stamped
    rw [(write_untouched clock columns s).id, Db.Stamped, write_updatedAt hrow, hprevious, ite_self]

variable (ws) in
theorem save (columns : List Column) (s : Session) :
    KeepsStamp clock.autoNow s (save ws clock columns s) :=
  respected.saveDepth ignoresPauses write 2 columns s

variable (ws) in
/-- A save that lists the column leaves the moment there. -/
theorem save_stamped (hlisted : .updatedAt ∈ columns) (hstored : (s.db.tickets s.id).isSome) :
    (Tickets.save ws clock columns s).db.Stamped clock.autoNow s.id := by
  obtain ⟨previous, hrow⟩ := Option.isSome_iff_exists.mp hstored
  have keeps : KeepsStamp clock.autoNow (Tickets.write clock columns s)
      (Tickets.save ws clock columns s) := by
    rw [Tickets.save, saveDepth, hrow]
    exact respected.handleSlaPauseOnStatusChange ignoresPauses
      (fun columns _ s => respected.saveDepth ignoresPauses write 1 columns s) _ _ _
  have hwritten : (Tickets.write clock columns s).db.Stamped clock.autoNow
      (Tickets.write clock columns s).id := by
    rw [(write_untouched clock columns s).id, Db.Stamped, write_updatedAt hrow, if_pos hlisted]
  have hid := keeps.id.trans (write_untouched clock columns s).id
  have hsaved := keeps.stamped hwritten
  rwa [hid] at hsaved

/-! ## The services -/

theorem saveDraft (draft : Draft) (s : Session) :
    KeepsStamp clock.autoNow s (saveDraft ws clock draft s) :=
  have edited : KeepsStamp clock.autoNow s (s.modify fun _ => draft.ticket) := of_tickets rfl rfl
  edited.trans (save ws draft.updateFields _)

theorem changeTicketStatus (newStatus : TicketStatus) (s : Session) :
    KeepsStamp req.clock.autoNow s (changeTicketStatus ws req newStatus s) := by
  unfold Tickets.changeTicketStatus
  dsimp only
  split
  · exact refl s
  · have hsaved := @saveDraft ws req.clock (statusDraft req newStatus s.ticket) s
    split
    · exact hsaved.trans (of_tickets rfl rfl)
    · exact hsaved.trans (of_tickets rfl rfl)

theorem changeTicketPriority (newPriority : Priority) (s : Session) :
    KeepsStamp req.clock.autoNow s (changeTicketPriority ws req newPriority s) := by
  unfold Tickets.changeTicketPriority
  split
  · exact refl s
  · let edit := fun ticket : Ticket => { ticket with priority := newPriority }
    have edited : KeepsStamp req.clock.autoNow s (s.modify edit) := of_tickets rfl rfl
    have saved := edited.trans (save ws [.priority, .updatedAt] (s.modify edit))
    exact saved.trans (of_tickets rfl rfl)

theorem transitionTicketStatus {newStatus : TicketStatus}
    (returns : transitionTicketStatus ws req newStatus s = .ok s') :
    KeepsStamp req.clock.autoNow s s' := by
  unfold Tickets.transitionTicketStatus at returns
  split at returns
  · cases returns
  · obtain rfl := Except.ok.inj returns
    exact changeTicketStatus newStatus s

theorem assignTicket {assignee : ℕ} {note : String}
    (returns : assignTicket ws req assignee note s = .ok s') :
    KeepsStamp req.clock.autoNow s s' := by
  unfold Tickets.assignTicket at returns
  split at returns
  · cases returns
  · obtain rfl := Except.ok.inj returns
    have hsaved := @saveDraft ws req.clock (assignDraft ws req assignee s.ticket) s
    split
    · exact hsaved.trans (of_tickets rfl rfl)
    · exact hsaved.trans (of_tickets rfl rfl)

end KeepsStamp

/-! ## The request, step by step -/

namespace Circumstances

section Steps

variable {circumstances : Circumstances} {patch : Patch} {inst : Loaded} {now : Instant} {id : ℕ}

theorem exec_work (service : Audited → Except String Audited) (inst : Loaded) (records : Records) :
    (work service inst).exec records =
      match service (records.audit inst.id inst.ticket inst.skipSignalLogging) with
      | .ok t =>
        (.ok { id := t.session.id, ticket := t.session.ticket,
               skipSignalLogging := t.skipSignalLogging },
          { records with toLedger := t.ledger })
      | .error message => (.error message, records) := by
  unfold work
  rw [exec_bind, exec_get]
  dsimp only
  rw [exec_bind, exec_ofExcept]
  cases service (records.audit inst.id inst.ticket inst.skipSignalLogging) with
  | ok t => rfl
  | error message => rfl

theorem keeps_work (hid : inst.id = id)
    (keeps : ∀ t t', service t = .ok t' → KeepsStamp now t.session t'.session) :
    Keeps (fun records : Records => records.db.Stamped now id) (fun updated => updated.id = id)
      (work service inst) := by
  subst hid
  intro records stamped
  rw [exec_work]
  cases hservice : service (records.audit inst.id inst.ticket inst.skipSignalLogging) with
  | error message =>
    refine ⟨stamped, fun _ hother => ?_⟩
    cases hother
  | ok t =>
    have kept := keeps _ t hservice
    have hstamped : t.session.db.Stamped now t.session.id := kept.stamped stamped
    rw [kept.id] at hstamped
    refine ⟨hstamped, fun updated hupdated => ?_⟩
    rw [← Except.ok.inj hupdated]
    exact kept.id

theorem keeps_transaction {fault : Option String} (hid : inst.id = id)
    (keeps : ∀ t t', service t = .ok t' → KeepsStamp now t.session t'.session) :
    Keeps (fun records : Records => records.db.Stamped now id) (fun updated => updated.id = id)
      (circumstances.transaction fault service inst) := by
  refine Keeps.bind (Keeps.atomic ((keeps_work hid keeps).bind fun updated hupdated =>
    (keeps_breakOff fault).bind fun _ _ => keeps_pure hupdated)) fun updated hupdated => ?_
  refine Keeps.bind (keeps_modify fun records stamped => ?_) fun _ _ => keeps_pure hupdated
  have hread : ∀ (row : Ticket) taskId,
      Ticket.updatedAt { row with autoCloseTaskId := taskId } = row.updatedAt := fun _ _ => rfl
  exact (commit_map Ticket.updatedAt hread circumstances.brokerUp records.db id).trans stamped

/-- The services keep the moment that the save of the serializer has left. -/
theorem keeps_delegate (old : Ticket) (hid : inst.id = id) :
    Keeps (fun records : Records => records.db.Stamped circumstances.req.clock.autoNow id)
      (fun updated => updated.id = id) (circumstances.delegate patch old inst) := by
  refine Keeps.bind (keeps_whenGiven _ hid fun newStatus updated hupdated => ?_)
    fun updated hupdated => Keeps.bind (keeps_whenGiven _ hupdated fun newPriority updated hupdated
      => ?_) fun updated hupdated => keeps_whenGiven _ hupdated fun assignee updated hupdated => ?_
  · refine keeps_transaction hupdated fun t t' returns => ?_
    have hsession := @Audited.transitionTicketStatus_session circumstances.site.ws
      circumstances.req newStatus t
    rw [returns] at hsession
    exact KeepsStamp.transitionTicketStatus hsession.symm
  · refine keeps_transaction hupdated fun t t' returns => ?_
    rw [← Except.ok.inj returns, Audited.changeTicketPriority_session]
    exact KeepsStamp.changeTicketPriority newPriority t.session
  · refine keeps_transaction hupdated fun t t' returns => ?_
    have hsession := @Audited.assignTicket_session circumstances.site.ws circumstances.req
      assignee "" t
    rw [returns] at hsession
    exact KeepsStamp.assignTicket hsession.symm

theorem keeps_finishSave (hid : inst.id = id) :
    Keeps (fun records : Records => records.db.Stamped now id) (fun updated => updated.id = id)
      (circumstances.finishSave patch inst) :=
  Keeps.bind (keeps_modify fun _ stamped => stamped) fun _ _ =>
    Keeps.bind (keeps_breakOff _) fun _ _ => keeps_pure hid

/-- The save of the serializer leaves the moment of the request on the row. -/
theorem saveSerializer_stamped (hbefore : circumstances.trouble.beforeUpdate = none)
    {records : Records} (hstored : (records.db.tickets inst.id).isSome) :
    ((circumstances.saveSerializer patch inst).exec records).2.db.Stamped
        circumstances.req.clock.autoNow inst.id ∧
      ∀ updated, ((circumstances.saveSerializer patch inst).exec records).1 = .ok updated →
        updated.id = inst.id := by
  let t := (records.audit inst.id inst.ticket inst.skipSignalLogging).performUpdate
    circumstances.site.ws circumstances.req patch.simple
  have hsaved : t.session.db.Stamped circumstances.req.clock.autoNow inst.id := by
    dsimp only [t, Audited.performUpdate]
    rw [Audited.save_session]
    exact KeepsStamp.save_stamped circumstances.site.ws (by decide) hstored
  have hid : t.session.id = inst.id := by
    dsimp only [t, Audited.performUpdate]
    rw [Audited.save_session]
    exact (save_untouched circumstances.site.ws circumstances.req.clock _ _).id
  let updated : Loaded :=
    { id := t.session.id, ticket := t.session.ticket, skipSignalLogging := t.skipSignalLogging }
  have hrest := @keeps_finishSave circumstances patch updated circumstances.req.clock.autoNow
    inst.id hid
  rw [saveSerializer, hbefore, exec_bind]
  rw [breakOff, exec_pure]
  dsimp only
  rw [exec_bind, exec_work]
  exact hrest _ hsaved

theorem performUpdate_stamped (hvalid : patch.validate inst.ticket = .ok ())
    (hbefore : circumstances.trouble.beforeUpdate = none) {records : Records}
    (hstored : (records.db.tickets inst.id).isSome) :
    ((circumstances.performUpdate patch inst).exec records).2.db.Stamped
      circumstances.req.clock.autoNow inst.id := by
  obtain ⟨hsaved, hreturns⟩ := @saveSerializer_stamped circumstances patch inst hbefore records
    hstored
  rw [performUpdate, exec_bind, exec_ofExcept, hvalid]
  dsimp only
  rw [exec_bind]
  cases hexec : (circumstances.saveSerializer patch inst).exec records with
  | mk outcome after =>
    rw [hexec] at hsaved hreturns
    cases outcome with
    | error message => exact hsaved
    | ok updated => exact (keeps_delegate inst.ticket (hreturns updated rfl) after hsaved).1

theorem performUpdate_of_stopped (records : Records)
    (hstopped : (∃ refusal, patch.validate inst.ticket = .error refusal) ∨
      circumstances.trouble.beforeUpdate.isSome) :
    ((circumstances.performUpdate patch inst).exec records).2 = records := by
  rw [performUpdate, exec_bind, exec_ofExcept]
  cases hvalid : patch.validate inst.ticket with
  | error refusal => rfl
  | ok _ =>
    obtain ⟨refusal, hrefusal⟩ | hbefore := hstopped
    · rw [hvalid] at hrefusal
      cases hrefusal
    · obtain ⟨message, hmessage⟩ := Option.isSome_iff_exists.mp hbefore
      have hraises : (circumstances.saveSerializer patch inst).exec records =
          (.error message, records) := by
        rw [saveSerializer, hmessage]
        exact exec_bind_of_error _ _ _ (exec_throw records message)
      dsimp only
      rw [exec_bind, hraises]

end Steps

end Circumstances

/--
A `PATCH` that raises leaves the rows as they were exactly when it is stopped before its first
update: by the check of the transition, or by an error that comes before the update.
-/
theorem performUpdate_unchanged_iff (circumstances : Circumstances) (patch : Patch)
    (records : Records) (inst : Loaded)
    (hloaded : records.db.tickets inst.id = some inst.ticket)
    (hpast : inst.ticket.updatedAt ≠ circumstances.req.clock.autoNow) {message : String}
    {after : Records}
    (raises : (circumstances.performUpdate patch inst).exec records = (.error message, after)) :
    records.Unchanged inst.id after ↔
      (∃ refusal, patch.validate inst.ticket = .error refusal) ∨
        circumstances.trouble.beforeUpdate.isSome := by
  constructor
  · intro unchanged
    by_contra hnot
    obtain ⟨hvalid, hbefore⟩ := not_or.mp hnot
    have hok : patch.validate inst.ticket = .ok () := by
      cases hvalidate : patch.validate inst.ticket with
      | error refusal => exact absurd ⟨refusal, hvalidate⟩ hvalid
      | ok _ => rfl
    have hstored : (records.db.tickets inst.id).isSome := by
      rw [hloaded]
      rfl
    have hstamped := Circumstances.performUpdate_stamped hok
      (Option.not_isSome_iff_eq_none.mp hbefore) hstored
    rw [raises, Db.Stamped, unchanged.ticket, hloaded] at hstamped
    exact hpast (Option.some.inj hstamped)
  · intro hstopped
    have hkept := Circumstances.performUpdate_of_stopped records hstopped
    rw [raises] at hkept
    rw [show after = records from hkept]
    exact .refl _ _

/-! ## A subject without its assignment -/

/-- A ticket in progress as the only row. -/
def startedRecords : Records where
  db := { tickets := fun id => if id = 1 then some startedStore.row.ticket else none }

/-- The ticket in progress as a request loads it. -/
def startedLoaded : Loaded where
  id := 1
  ticket := startedStore.row.ticket

/-- A webhook for assignments cannot be handed to the broker. -/
def brokerDown : Circumstances where
  site := seededSite
  req := firstMember.req
  brokerUp := false
  trouble := { assignment := some "Error connecting to the broker." }

/-- The assignment is taken back, the new subject stays. -/
theorem performUpdate_unchanged_iff_renamed :
    ∃ message after, (brokerDown.performUpdate renameAndAssign startedLoaded).exec startedRecords =
        (.error message, after) ∧
      (startedRecords.Unchanged 1 after ↔
        (∃ refusal, renameAndAssign.validate startedLoaded.ticket = .error refusal) ∨
          brokerDown.trouble.beforeUpdate.isSome) := by
  refine ⟨_, _, rfl, ?_⟩
  exact performUpdate_unchanged_iff brokerDown renameAndAssign startedRecords startedLoaded rfl
    (by decide) rfl

/-- A request that raises in its last step keeps what its first step has stored. -/
theorem not_performUpdate_unchanged :
    ¬ ∀ (circumstances : Circumstances) (patch : Patch) (records : Records) (inst : Loaded)
      (message : String) (after : Records), records.db.tickets inst.id = some inst.ticket →
      (circumstances.performUpdate patch inst).exec records = (.error message, after) →
      records.Unchanged inst.id after := by
  intro hall
  have unchanged := hall brokerDown renameAndAssign startedRecords startedLoaded _ _ rfl rfl
  have hsubject : some "Printer" = none :=
    congrArg (fun plain : PlainColumns => plain.fields .subject) unchanged.plain
  cases hsubject

end Kanzan.Tickets

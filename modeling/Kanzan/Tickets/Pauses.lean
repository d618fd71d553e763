import Kanzan.Tickets.Effects

/-!
# Pauses of the SLA clock

A ticket owes one open pause while its status pauses the clock and none otherwise.
Every save settles what is owed.  A creation runs no receiver, and a customer's reply
closes the pause before it is known whether the ticket leaves its status.
-/

namespace Kanzan.Tickets

open Sla Support

variable {ws : Workspace} {req : Request}
variable {db : Db} {id : ℕ} {ticket : Ticket}

def TicketStatus.pausesOwed (status : TicketStatus) : ℕ := if status.pausesSla then 1 else 0

/-- Every stored ticket has the open pauses it owes, and no other id has any. -/
structure InStep (db : Db) : Prop where
  stored : ∀ id row, db.tickets id = some row →
    (db.openPauses id).length = row.status.pausesOwed
  fresh : ∀ id, db.tickets id = none → db.openPauses id = []

/-- The store is in step, and no status change is pending. -/
structure Steady (s : Session) : Prop where
  inStep : InStep s.db
  settled : Settled s

/-- The store is in step but for one ticket. -/
structure OthersInStep (id : ℕ) (db : Db) : Prop where
  stored : ∀ other ≠ id, ∀ row, db.tickets other = some row →
    (db.openPauses other).length = row.status.pausesOwed
  fresh : ∀ other ≠ id, db.tickets other = none → db.openPauses other = []

section Carry

variable {clock : Clock} {s s' : Session}

theorem openPauses_of_pausesOf {db' : Db} (h : db'.pausesOf id = db.pausesOf id) :
    db'.openPauses id = db.openPauses id := by
  rw [Db.openPauses, h]
  rfl

theorem Steady.load (inStep : InStep db) (hticket : db.tickets id = some ticket) :
    Steady { db, id, ticket } :=
  ⟨inStep, ticket, hticket, rfl⟩

theorem Steady.count (steady : Steady s) :
    (s.db.openPauses s.id).length = s.ticket.status.pausesOwed := by
  obtain ⟨row, hrow, hstatus⟩ := steady.settled
  rw [← hstatus]
  exact steady.inStep.stored s.id row hrow

theorem InStep.congr {db' : Db} (inStep : InStep db) (htickets : db'.tickets = db.tickets)
    (hpauses : db'.pauses = db.pauses) : InStep db' where
  stored id row hrow := by
    rw [openPauses_congr hpauses]
    exact inStep.stored id row (by rw [← htickets, hrow])
  fresh id hnone := by
    rw [openPauses_congr hpauses]
    exact inStep.fresh id (by rw [← htickets, hnone])

theorem InStep.others (inStep : InStep db) (id : ℕ) : OthersInStep id db where
  stored other _ row hrow := inStep.stored other row hrow
  fresh other _ hnone := inStep.fresh other hnone

theorem OthersInStep.of_untouched (others : OthersInStep s.id s.db) (untouched : Untouched s s') :
    OthersInStep s.id s'.db where
  stored other hother row hrow := by
    rw [openPauses_of_pausesOf (untouched.pauses other hother)]
    exact others.stored other hother row (by rw [← untouched.others other hother, hrow])
  fresh other hother hnone := by
    rw [openPauses_of_pausesOf (untouched.pauses other hother)]
    exact others.fresh other hother (by rw [← untouched.others other hother, hnone])

theorem OthersInStep.inStep {row : Ticket} (others : OthersInStep id db)
    (hrow : db.tickets id = some row) (howed : (db.openPauses id).length = row.status.pausesOwed) :
    InStep db where
  stored other stored hstored := by
    by_cases hother : other = id
    · subst hother
      rw [hrow, Option.some.injEq] at hstored
      rw [howed, hstored]
    · exact others.stored other hother stored hstored
  fresh other hnone := by
    have hother : other ≠ id := by
      intro hsame
      rw [hsame, hrow] at hnone
      cases hnone
    exact others.fresh other hother hnone

def pausesAfter (old new : TicketStatus) (count : ℕ) : ℕ :=
  if old.pausesSla = new.pausesSla then count
  else if new.pausesSla then count + 1 else count - 1

theorem pausesAfter_owed (old new : TicketStatus) :
    pausesAfter old new old.pausesOwed = new.pausesOwed := by
  unfold pausesAfter TicketStatus.pausesOwed
  cases old.pausesSla <;> cases new.pausesSla <;> rfl

/-- A save puts its ticket in step if the receiver comes to what the new status owes. -/
theorem OthersInStep.save {columns : List Column} (others : OthersInStep s.id s.db)
    (settled : Settled s) (edit : Ticket → Ticket)
    (hlisted : .status ∈ columns ∨ (edit s.ticket).status = s.ticket.status)
    (howed : pausesAfter s.ticket.status (edit s.ticket).status (s.db.openPauses s.id).length =
      (edit s.ticket).status.pausesOwed) : Steady (save ws clock columns (s.modify edit)) := by
  obtain ⟨previous, hprevious, hsettled⟩ := settled
  have hstatus : .status ∈ columns ∨ previous.status = (s.modify edit).ticket.status :=
    hlisted.imp_right fun hsame => hsettled.trans hsame.symm
  obtain ⟨row, hrow, hcore⟩ := save_row ws clock (s := s.modify edit)
    hprevious hstatus
  have hwritten : row.status = (edit s.ticket).status := by
    rw [eq_of_core hcore Ticket.status (fun _ => rfl)]
    dsimp only [Ticket.persist]
    rw [handleTicketStatusChange_status]
    split
    · rfl
    · rename_i hnot
      exact hstatus.resolve_left hnot
  have hcount := save_openPauses_length ws clock (s := s.modify edit)
    hprevious hstatus
  rw [hsettled] at hcount
  refine ⟨?_, save_settled hprevious hstatus⟩
  refine (others.of_untouched ((Untouched.modify s edit).trans (save_untouched _ _ _ _))).inStep hrow ?_
  rw [hwritten]
  exact hcount.trans howed

theorem Steady.save {columns : List Column} (steady : Steady s) (edit : Ticket → Ticket)
    (hlisted : .status ∈ columns ∨ (edit s.ticket).status = s.ticket.status) :
    Steady (save ws clock columns (s.modify edit)) := by
  apply (steady.inStep.others s.id).save steady.settled edit hlisted
  rw [steady.count]
  exact pausesAfter_owed _ _

theorem Steady.saveDraft {draft : Draft} (steady : Steady s)
    (hlisted : .status ∈ draft.updateFields ∨ draft.ticket.status = s.ticket.status) :
    Steady (saveDraft ws clock draft s) :=
  steady.save (fun _ => draft.ticket) hlisted

theorem Steady.congr (steady : Steady s) (htickets : s'.db.tickets = s.db.tickets)
    (hpauses : s'.db.pauses = s.db.pauses) (hid : s'.id = s.id) (hticket : s'.ticket = s.ticket) :
    Steady s' where
  inStep := steady.inStep.congr htickets hpauses
  settled := by
    obtain ⟨row, hrow, hstatus⟩ := steady.settled
    exact ⟨row, by rw [htickets, hid, hrow], by rw [hticket, hstatus]⟩

theorem InStep.updateWhere (inStep : InStep db) (id : ℕ) {edit : Ticket → Ticket}
    (hedit : ∀ row, (edit row).status = row.status) : InStep (db.updateWhere id edit) where
  stored other row hrow := by
    dsimp only [Db.updateWhere] at hrow
    split at hrow
    · obtain ⟨before, hbefore, rfl⟩ := Option.map_eq_some_iff.mp hrow
      rw [hedit]
      exact inStep.stored other before hbefore
    · exact inStep.stored other row hrow
  fresh other hnone := by
    refine inStep.fresh other ?_
    dsimp only [Db.updateWhere] at hnone
    split at hnone
    · exact Option.map_eq_none_iff.mp hnone
    · exact hnone

theorem carried_inStep {columns : List Column} (hstatus : .status ∉ columns) :
    Carried ws columns InStep Steady where
  load inStep hticket := Steady.load inStep hticket
  store steady := steady.inStep
  edits edits steady := by
    induction edits with
    | refl => exact steady
    | @save before _ clock saved edit hsaved confined ih =>
      exact ih.save edit (.inr (confined.status hstatus before.ticket))
    | @modify before _ edit confined ih =>
      obtain ⟨row, hrow, hsettled⟩ := ih.settled
      exact ⟨ih.inStep, row, hrow, hsettled.trans (confined.status hstatus before.ticket).symm⟩
    | log _ ticket event ih => exact ih.congr rfl rfl rfl rfl
    | record _ row ih => exact ih.congr rfl rfl rfl rfl
    | @respond before _ now late ih =>
      obtain ⟨row, hrow, hsettled⟩ := ih.settled
      refine ⟨ih.inStep.updateWhere before.id fun _ => rfl, row.respond now late, ?_, hsettled⟩
      simp [Db.updateWhere, hrow]

theorem changeTicketStatus_steady (newStatus : TicketStatus) (s : Session) (steady : Steady s) :
    Steady (changeTicketStatus ws req newStatus s) := by
  unfold changeTicketStatus
  dsimp only
  split
  · exact steady
  have hsaved : Steady (saveDraft ws req.clock (statusDraft req newStatus s.ticket) s) :=
    steady.saveDraft (.inl status_mem_statusDraft)
  split <;> exact hsaved.congr rfl rfl rfl rfl

theorem insertTicket_steady (inStep : InStep db) (hfresh : db.tickets id = none)
    (hstatus : ticket.status.pausesSla = false) :
    Steady { db := db.insertTicket id ticket, id, ticket } := by
  refine ⟨⟨?_, ?_⟩, ticket, Function.update_self .., rfl⟩
  · intro other row hrow
    by_cases hother : other = id
    · subst hother
      rw [show (db.insertTicket other ticket).tickets other = some ticket from
        Function.update_self .., Option.some.injEq] at hrow
      rw [← hrow, TicketStatus.pausesOwed, hstatus]
      exact congrArg List.length (inStep.fresh other hfresh)
    · exact inStep.stored other row (by rw [← hrow]; exact (Function.update_of_ne hother ..).symm)
  · intro other hmissing
    by_cases hother : other = id
    · subst hother
      exact inStep.fresh other hfresh
    · exact inStep.fresh other
        (by rw [← hmissing]; exact (Function.update_of_ne hother ..).symm)

theorem mergeTickets_steady {primary : ℕ} (steady : Steady s)
    (success : mergeTickets ws req primary s = .ok s') : Steady s' := by
  obtain ⟨-, rfl⟩ := mergeTickets_cases success
  have hmoved : Steady { s with db := s.db.moveActivities s.id primary } :=
    steady.congr rfl rfl rfl rfl
  have hsaved : Steady (saveDraft ws req.clock (mergeDraft ws req primary s.ticket)
      { s with db := s.db.moveActivities s.id primary }) :=
    hmoved.saveDraft (.inl (List.mem_cons_self ..))
  exact hsaved.congr rfl rfl rfl rfl

theorem transitionPipelineStage_steady {newStage : PipelineStage} {reason : String}
    (steady : Steady s) (success : transitionPipelineStage ws req newStage reason s = .ok s') :
    Steady s' := by
  obtain rfl | ⟨-, rfl⟩ := transitionPipelineStage_cases success
  · exact steady
  · exact (steady.saveDraft stageDraft_listed).congr rfl rfl rfl rfl

theorem assignTicket_steady {assignee : ℕ} {note : String} (steady : Steady s)
    (success : assignTicket ws req assignee note s = .ok s') : Steady s' := by
  obtain ⟨-, events, rfl⟩ := assignTicket_cases success
  have hsaved : Steady (saveDraft ws req.clock (assignDraft ws req assignee s.ticket) s) := by
    apply steady.saveDraft
    cases htarget : autoTransition ws s.ticket.status with
    | none => exact .inr (by simp [assignDraft, htarget])
    | some target => exact .inl (by simp [assignDraft, htarget])
  have hrecorded : Steady ((saveDraft ws req.clock
      (assignDraft ws req assignee s.ticket) s).recordAssignment assignee req.actor note) :=
    hsaved.congr rfl rfl rfl rfl
  exact List.foldlRecOn _ _ hrecorded fun _ steady _ _ => steady.congr rfl rfl rfl rfl

end Carry

/-! ## Replies -/

/-- A customer's reply gets a ticket that pauses the clock to a status that does not. -/
def replyResumes (ws : Workspace) (inbound : InboundReply) (row : Ticket) : Bool :=
  inbound.bodyIsBlank || !inbound.fromCustomer || !row.status.pausesSla ||
    (replyTarget ws row).any fun target => !target.pausesSla

section Reply

variable {s : Session}

theorem resumeSlaPause_of_none {nested : List Column → Session → Session} {now : Instant}
    (hnone : s.db.openPauses s.id = []) : resumeSlaPause ws nested now s = s := by
  rw [resumeSlaPause, latestOpenPause_eq_none.mpr hnone]

theorem changeTicketStatus_resumed {newStatus : TicketStatus}
    (others : OthersInStep s.id s.db) (settled : Settled s) (hcount : s.db.openPauses s.id = [])
    (hpaused : s.ticket.status.pausesSla = true) (hrunning : newStatus.pausesSla = false) :
    Steady (changeTicketStatus ws req newStatus s) := by
  have hchanged : s.ticket.status ≠ newStatus := by
    intro hsame
    rw [hsame, hrunning] at hpaused
    cases hpaused
  unfold changeTicketStatus
  rw [if_neg hchanged]
  have hsaved : Steady (saveDraft ws req.clock (statusDraft req newStatus s.ticket) s) := by
    apply others.save settled (fun _ => (statusDraft req newStatus s.ticket).ticket)
      (.inl status_mem_statusDraft)
    rw [statusDraft_status, hcount]
    simp [pausesAfter, TicketStatus.pausesOwed, hpaused, hrunning]
  dsimp only
  split <;> exact hsaved.congr rfl rfl rfl rfl

theorem addReplyToTicket_steady (inbound : InboundReply) (steady : Steady s)
    (hresumes : replyResumes ws inbound s.ticket = true) :
    Steady (addReplyToTicket ws req inbound s) := by
  have hkeep : ∀ target, Steady (changeStatusTo ws req target s) := by
    intro target
    unfold changeStatusTo
    split
    · exact steady
    · exact changeTicketStatus_steady _ s steady
  rw [addReplyToTicket_eq, replyTarget_resumeForReply inbound steady.settled]
  split
  · exact steady
  rename_i hbody
  cases hcustomer : inbound.fromCustomer with
  | false =>
    rw [Session.resumeForReply, hcustomer, if_neg Bool.false_ne_true]
    exact hkeep _
  | true =>
    have hresume := resumeForReply_untouched ws req inbound s
    have hquiet := resumeForReply_quiet ws req inbound steady.settled
    cases hpaused : s.ticket.status.pausesSla with
    | false =>
      have hnone : s.db.openPauses s.id = [] := by
        rw [← List.length_eq_zero_iff, steady.count, TicketStatus.pausesOwed, hpaused]
        rfl
      rw [Session.resumeForReply, resumeSlaPause_of_none hnone, ite_self]
      exact hkeep _
    | true =>
      -- the pause is closed first, so only a status that owes none is right
      cases htarget : replyTarget ws s.ticket with
      | none => simp [replyResumes, hbody, hcustomer, hpaused, htarget] at hresumes
      | some target =>
        have hrunning : target.pausesSla = false := by
          simpa [replyResumes, hbody, hcustomer, hpaused, htarget] using hresumes
        have hcount := resumeSlaPause_openPauses_length ws (save ws req.clock)
          (fun _ clockOnly _ settled => saveDepth_silent 2 clockOnly settled)
          req.clock.postSave steady.settled
        rw [steady.count, TicketStatus.pausesOwed, hpaused, if_pos rfl] at hcount
        rw [Session.resumeForReply, hcustomer, if_pos rfl] at *
        have hothers := (steady.inStep.others s.id).of_untouched hresume
        rw [← hresume.id] at hothers
        apply changeTicketStatus_resumed hothers (hquiet.settled steady.settled)
        · rw [hresume.id]
          exact List.length_eq_zero_iff.mp hcount
        · rwa [eq_of_core hquiet.core Ticket.status (fun _ => rfl)]
        · exact hrunning

end Reply

/-! ## Runs -/

/--
The steps that keep every ticket's pauses in step: no ticket is created in a status
that pauses the clock, and a customer's reply takes a paused ticket out of its status.
-/
def keepsPauses (ws : Workspace) (db : Db) (event : Event) : Bool :=
  (initialStatus ws event.op).all (fun status =>
    !status.pausesSla || !(attempt ws event.req event.op db).isOk) &&
  match event.op with
  | .addReplyToTicket id inbound => (db.tickets id).all (replyResumes ws inbound)
  | _ => true

theorem step_inStep {event : Event} (inStep : InStep db) (hkeeps : keepsPauses ws db event = true) :
    InStep (step ws db event) := by
  refine step_preserves inStep fun after success => ?_
  have hcarried : ∀ columns, Neutral columns → Carried ws columns InStep Steady :=
    fun _ neutral => carried_inStep neutral.status_notMem
  have hafter : InStep after := by
    simp only [keepsPauses, Bool.and_eq_true] at hkeeps
    obtain ⟨hfresh, hop⟩ := hkeeps
    rcases hcolumns : event.op.columns with _ | columns
    swap
    · exact (hcarried columns (Op.columns_neutral hcolumns)).attempt hcolumns inStep success
    by_cases hrouted : event.op.isRouted = true
    · exact routed_keeps (hcarried _ (by decide)) changeTicketStatus_steady
        (fun _ id inStep => inStep.updateWhere id fun _ => rfl) inStep hrouted success
    by_cases hcreation : event.op.isCreation = true
    · obtain ⟨id, ticket, status, t, hinitial, newborn, hmissing, edits, rfl⟩ :=
        creation_cases hcreation success
      have hrunning : status.pausesSla = false := by
        rw [hinitial, success] at hfresh
        simpa [Except.isOk, Except.toBool] using hfresh
      have hstatus : ticket.status = status := congrArg Prod.fst newborn.lifecycle
      have hinserted := insertTicket_steady inStep hmissing (hstatus ▸ hrunning)
      exact ((hcarried creationColumns (by decide)).edits edits hinserted).inStep
    cases hevent : event.op <;> rw [hevent] at success hop hcolumns hrouted hcreation <;>
      simp only [Op.columns, Op.isRouted, Op.isCreation, not_true_eq_false, reduceCtorEq] at *
    case assignTicket id assignee note =>
      exact (hcarried [] (by decide)).onTicket (fun _ _ steady hok => assignTicket_steady steady hok)
        inStep success
    case mergeTickets primary secondary =>
      dsimp only [attempt] at success
      split at success
      · cases success
      · exact (hcarried [] (by decide)).onTicket
          (fun _ _ steady hok => mergeTickets_steady steady hok) inStep success
    case transitionPipelineStage id newStage reason =>
      exact (hcarried [] (by decide)).onTicket
        (fun _ _ steady hok => transitionPipelineStage_steady steady hok) inStep success
    case addReplyToTicket id inbound =>
      dsimp only [attempt] at success
      obtain ⟨ticket, s, hticket, hok, rfl⟩ := onTicket_eq_ok.mp success
      rw [← Except.ok.inj hok]
      refine (addReplyToTicket_steady inbound (Steady.load inStep hticket) ?_).inStep
      simpa [hticket] using hop
    case checkTenantSla clocks now =>
      rw [← Except.ok.inj success]
      exact (hcarried Carried.scanColumns scanColumns_neutral).checkTenantSla
        (fun _ _ steady => steady.congr rfl rfl rfl rfl) clocks now inStep
  exact commit_keeps (fun _ _ _ inStep => inStep.congr rfl rfl)
    (fun _ _ _ inStep => inStep.updateWhere _ fun _ => rfl) hafter

/-- At most one pause of a ticket is open, and one exactly if its status pauses the clock. -/
def PausesAgree (db : Db) : Prop :=
  ∀ id row, db.tickets id = some row →
    (db.openPauses id).length ≤ 1 ∧
      ((db.openPauses id).length = 1 ↔ row.status.pausesSla = true)

theorem InStep.pausesAgree (inStep : InStep db) : PausesAgree db := by
  intro id row hrow
  rw [inStep.stored id row hrow, TicketStatus.pausesOwed]
  cases row.status.pausesSla <;> simp

/-- In every run of admitted steps the open pauses follow the status throughout. -/
theorem pauses_agree_throughout (ws : Workspace) (events : List Event)
    (hkeeps : Every (step ws) (fun db event => keepsPauses ws db event = true)
      Db.empty events) :
    Always (step ws) PausesAgree Db.empty events := by
  refine always_of_invariant InStep ?_ ?_ ?_ events hkeeps
  · intro db inStep
    exact inStep.pausesAgree
  · intro db event inStep hadmitted
    exact step_inStep inStep hadmitted
  · refine ⟨?_, fun id _ => rfl⟩
    intro id row hrow
    cases hrow

/-- The seeded tenant with clocks that pause while tickets wait. -/
def Workspace.waiting : Workspace :=
  { Workspace.seeded with statuses := defaultStatuses.set 2 waitingStatus }

/-- A ticket waits for its customer, who replies. -/
def answeredTicket : List Event :=
  [ { op := .createTicket 1 { id := 0 }, req := { clock := ⟨0, 0, 0, 0⟩, actor := some 1 } },
    { op := .transitionTicketStatus 0 waitingStatus,
      req := { clock := ⟨30, 30, 30, 30⟩, actor := some 1 } },
    { op := .addReplyToTicket 0 {}, req := { clock := ⟨60, 60, 60, 60⟩ } } ]

theorem pauses_agree_on_answeredTicket :
    Always (step .waiting) PausesAgree Db.empty answeredTicket :=
  pauses_agree_throughout .waiting answeredTicket (by decide)

/-- A ticket created through the API in a status that pauses the clock. -/
def createdWaiting : List Event :=
  [ { op := .createTicket 1 { id := 0, status := some waitingStatus },
      req := { clock := ⟨0, 0, 0, 0⟩, actor := some 1 } } ]

theorem pauses_disagree_on_createdWaiting :
    ¬ Always (step .waiting) PausesAgree Db.empty createdWaiting := by
  intro always
  have hstored : ((run (step .waiting) Db.empty createdWaiting).tickets 0).map (fun row =>
      row.status.pausesSla) = some true := by
    decide
  have hnone : (run (step .waiting) Db.empty createdWaiting).openPauses 0 = [] := by
    decide
  obtain ⟨row, hrow, hpauses⟩ := Option.map_eq_some_iff.mp hstored
  have hagrees := (always.finish 0 row hrow).2.mpr hpauses
  rw [hnone] at hagrees
  cases hagrees

end Kanzan.Tickets

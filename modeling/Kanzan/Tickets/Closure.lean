import Kanzan.Tickets.Effects

/-!
# Closure timestamps

A ticket is stamped when both closure timestamps are present exactly if its status is
closed.  Every operation that lists the two columns keeps its tickets stamped; the
stage transition and the automatic transition on assignment do not list them, and a
creation runs no receiver.
-/

namespace Kanzan.Tickets

open Sla Support

variable {ws : Workspace} {req : Request}
variable {s s' : Session} {inst row : Ticket} {columns : List Column} {clock : Clock}

/-- Both closure timestamps agree with the status. -/
structure Stamped (ticket : Ticket) : Prop where
  resolvedAt : ticket.resolvedAt.isSome = ticket.status.isClosed
  closedAt : ticket.closedAt.isSome = ticket.status.isClosed

theorem stamped_ofLifecycle : OfLifecycle Stamped := by
  intro a b hlifecycle stamped
  simp only [Ticket.lifecycle, Prod.mk.injEq] at hlifecycle
  obtain ⟨hstatus, hresolved, hclosed, -, -⟩ := hlifecycle
  exact ⟨by rw [hresolved, hstatus, stamped.resolvedAt],
    by rw [hclosed, hstatus, stamped.closedAt]⟩

theorem handleTicketStatusChange_stamped {now : Instant} {previous : Ticket}
    (hchanged : previous.status ≠ inst.status) :
    Stamped (handleTicketStatusChange now previous inst) := by
  unfold handleTicketStatusChange
  rw [if_neg hchanged]
  split
  · rename_i hclosed
    obtain ⟨breached, hbreach⟩ := checkResolutionBreach_eq
      { inst with
        resolvedAt := some (inst.resolvedAt.getD now)
        closedAt := some (inst.closedAt.getD now) } now
    rw [hbreach]
    exact ⟨by simp [hclosed], by simp [hclosed]⟩
  · rename_i hopen
    exact ⟨by simp [hopen], by simp [hopen]⟩

/-- A save lists both stamps with the status, or it must not change closedness. -/
structure KeepsStamps (columns : List Column) (oldStatus newStatus : TicketStatus) : Prop where
  together : (.resolvedAt ∈ columns ∧ .closedAt ∈ columns ∧ .status ∈ columns) ∨
    (.resolvedAt ∉ columns ∧ .closedAt ∉ columns ∧ newStatus.isClosed = oldStatus.isClosed)

theorem Stamped.persist (hinst : Stamped inst) (hrow : Stamped row)
    (keeps : KeepsStamps columns row.status inst.status) : Stamped (inst.persist columns row) := by
  obtain ⟨hresolved, hclosed, hstatus⟩ | ⟨hresolved, hclosed, hsame⟩ := keeps.together
  · exact ⟨by simp [Ticket.persist, hresolved, hstatus, hinst.resolvedAt],
      by simp [Ticket.persist, hclosed, hstatus, hinst.closedAt]⟩
  · have hkept : (inst.persist columns row).status.isClosed = row.status.isClosed := by
      dsimp only [Ticket.persist]
      split
      · exact hsame
      · rfl
    exact ⟨by rw [hkept, ← hrow.resolvedAt]; simp [Ticket.persist, hresolved],
      by rw [hkept, ← hrow.closedAt]; simp [Ticket.persist, hclosed]⟩

theorem Holds.save_stamped (holds : Holds Stamped s) (edit : Ticket → Ticket)
    (hlisted : .status ∈ columns ∨ (edit s.ticket).status = s.ticket.status)
    (hedit : (edit s.ticket).status = s.ticket.status → Stamped (edit s.ticket))
    (keeps : KeepsStamps columns s.ticket.status (edit s.ticket).status) :
    Holds Stamped (save ws clock columns (s.modify edit)) := by
  obtain ⟨row, hrow, hsettled⟩ := holds.settled
  have hinst : Stamped (handleTicketStatusChange clock.preSave row (edit s.ticket)) := by
    by_cases hsame : row.status = (edit s.ticket).status
    · rw [handleTicketStatusChange_of_same hsame]
      exact hedit (hsame.symm.trans hsettled)
    · exact handleTicketStatusChange_stamped hsame
  refine Holds.of_save (s := s.modify edit) stamped_ofLifecycle.ignoresClock holds.rows hrow
    (hlisted.imp_right fun hsame => hsettled.trans hsame.symm) ?_ hinst
  apply hinst.persist (holds.rows s.id row hrow)
  rw [handleTicketStatusChange_status, hsettled]
  exact keeps

theorem Holds.saveDraft_stamped {draft : Draft} (holds : Holds Stamped s)
    (hlisted : .status ∈ draft.updateFields ∨ draft.ticket.status = s.ticket.status)
    (hdraft : draft.ticket.status = s.ticket.status → Stamped draft.ticket)
    (keeps : KeepsStamps draft.updateFields s.ticket.status draft.ticket.status) :
    Holds Stamped (saveDraft ws clock draft s) :=
  holds.save_stamped (fun _ => draft.ticket) hlisted hdraft keeps

theorem changeTicketStatus_stamped (newStatus : TicketStatus) (s : Session)
    (holds : Holds Stamped s) : Holds Stamped (changeTicketStatus ws req newStatus s) := by
  refine holds.statusChange fun hchanged => ?_
  apply holds.saveDraft_stamped
  · exact .inl status_mem_statusDraft
  · intro hsame
    rw [statusDraft_status] at hsame
    exact absurd hsame.symm hchanged
  · rw [statusDraft_status]
    constructor
    simp only [mem_statusDraft .resolvedAt (by decide),
      mem_statusDraft .closedAt (by decide), status_mem_statusDraft]
    by_cases hclosed : s.ticket.status.isClosed = newStatus.isClosed
    · exact .inr (by simp [hclosed])
    · exact .inl (by simp [hclosed])

theorem mergeTickets_stamped {primary : ℕ} (holds : Holds Stamped s)
    (success : mergeTickets ws req primary s = .ok s') : Holds Stamped s' := by
  obtain ⟨-, rfl⟩ := mergeTickets_cases success
  have hmoved : Holds Stamped { s with db := s.db.moveActivities s.id primary } :=
    holds.congr rfl rfl rfl
  have hsaved : Holds Stamped (saveDraft ws req.clock (mergeDraft ws req primary s.ticket)
      { s with db := s.db.moveActivities s.id primary }) := by
    apply hmoved.saveDraft_stamped
    · exact .inl (List.mem_cons_self ..)
    · intro _
      unfold mergeDraft
      dsimp only
      split
      · exact ⟨holds.ticket.resolvedAt, holds.ticket.closedAt⟩
      · rename_i closedStatus hclosed
        have hisClosed := ws.closedStatus_isClosed hclosed
        exact ⟨by simp [hisClosed], by simp [hisClosed]⟩
    · exact ⟨.inl (by simp [mergeDraft])⟩
  exact hsaved.congr rfl rfl rfl

theorem transitionPipelineStage_stamped {newStage : PipelineStage} {reason : String}
    (holds : Holds Stamped s) (hkeeps : entersStage newStage s.ticket = true →
      (stageTarget ws newStage s.ticket.status).all
        (fun target => target.isClosed == s.ticket.status.isClosed) = true)
    (success : transitionPipelineStage ws req newStage reason s = .ok s') : Holds Stamped s' := by
  obtain rfl | ⟨henters, rfl⟩ := transitionPipelineStage_cases success
  · exact holds
  have hclosed := hkeeps henters
  apply Holds.log
  apply holds.saveDraft_stamped
  · exact stageDraft_listed
  · intro hsame
    obtain ⟨_, _, _, _, _, _, hdraft⟩ := stageDraft_eq ws req newStage reason s.ticket
    have hcolumns := congrArg (fun ticket => (ticket.resolvedAt, ticket.closedAt)) hdraft
    obtain ⟨hresolvedAt, hclosedAt⟩ := Prod.mk.inj hcolumns
    exact ⟨by rw [hsame, hresolvedAt, holds.ticket.resolvedAt],
      by rw [hsame, hclosedAt, holds.ticket.closedAt]⟩
  · refine ⟨.inr ⟨?_, ?_, ?_⟩⟩
    · rw [mem_stageDraft]
      simp
    · rw [mem_stageDraft]
      simp
    · rw [stageDraft_status]
      cases htarget : stageTarget ws newStage s.ticket.status with
      | none => rfl
      | some target => simpa [htarget] using hclosed

theorem assignTicket_stamped {assignee : ℕ} {note : String} (holds : Holds Stamped s)
    (hkeeps : ws.isActiveMember assignee = true →
      (autoTransition ws s.ticket.status).all (fun target => !target.isClosed) = true)
    (success : assignTicket ws req assignee note s = .ok s') : Holds Stamped s' := by
  obtain ⟨hmember, events, rfl⟩ := assignTicket_cases success
  have hopen := hkeeps hmember
  have hsaved : Holds Stamped (saveDraft ws req.clock (assignDraft ws req assignee s.ticket) s) := by
    cases htarget : autoTransition ws s.ticket.status with
    | none =>
      apply holds.saveDraft_stamped <;> simp only [assignDraft, htarget]
      · exact .inr rfl
      · exact fun _ => ⟨holds.ticket.resolvedAt, holds.ticket.closedAt⟩
      · exact ⟨.inr (by simp)⟩
    | some target =>
      rw [htarget] at hopen
      obtain ⟨-, hopenStatus, hne, -⟩ := autoTransition_eq_some htarget
      apply holds.saveDraft_stamped <;> simp only [assignDraft, htarget]
      · exact .inl (by simp)
      · exact fun hsame => absurd hsame hne
      · exact ⟨.inr (by simpa [hopenStatus] using hopen)⟩
  exact (hsaved.recordAssignment _ _ _).logs events

/-! ## Runs -/

/--
The steps that keep status and timestamps together: no ticket is created in a closed
status, and neither a stage nor an assignment moves one between open and closed.
-/
def keepsClosure (ws : Workspace) (db : Db) (event : Event) : Bool :=
  (initialStatus ws event.op).all (fun status =>
    !status.isClosed || !(attempt ws event.req event.op db).isOk) &&
  match event.op with
  | .assignTicket id assignee _ =>
    !ws.isActiveMember assignee || (db.tickets id).all fun row =>
      (autoTransition ws row.status).all fun target => !target.isClosed
  | .transitionPipelineStage id newStage _ =>
    (db.tickets id).all fun row => !entersStage newStage row ||
      (stageTarget ws newStage row.status).all fun target =>
        target.isClosed == row.status.isClosed
  | _ => true

theorem step_stamped {db : Db} {event : Event} (rows : Rows Stamped db)
    (hkeeps : keepsClosure ws db event = true) : Rows Stamped (step ws db event) := by
  refine step_preserves rows fun after success => ?_
  have hafter : Rows Stamped after := by
    simp only [keepsClosure, Bool.and_eq_true] at hkeeps
    obtain ⟨hfresh, hop⟩ := hkeeps
    rcases hcolumns : event.op.columns with _ | columns
    swap
    · exact rows.edited stamped_ofLifecycle hcolumns success
    by_cases hrouted : event.op.isRouted = true
    · exact routed_keeps (stamped_ofLifecycle.carried (by decide))
        changeTicketStatus_stamped
        (fun _ _ hrows => hrows.updateWhere fun row hrow => ⟨hrow.resolvedAt, hrow.closedAt⟩)
        rows hrouted success
    by_cases hcreation : event.op.isCreation = true
    · refine rows.creation stamped_ofLifecycle hcreation ?_ success
      intro status hstatus ticket newborn
      have hopen : status.isClosed = false := by
        rw [hstatus, success] at hfresh
        simpa [Except.isOk, Except.toBool] using hfresh
      have hlifecycle := newborn.lifecycle
      simp only [Ticket.lifecycle, Prod.mk.injEq] at hlifecycle
      obtain ⟨rfl, hresolved, hclosed, -, -⟩ := hlifecycle
      exact ⟨by rw [hresolved, hopen]; rfl, by rw [hclosed, hopen]; rfl⟩
    cases hevent : event.op <;> rw [hevent] at success hop hcolumns hrouted hcreation <;>
      simp only [Op.columns, Op.isRouted, Op.isCreation, not_true_eq_false, reduceCtorEq] at *
    case assignTicket id assignee note =>
      obtain ⟨ticket, s, hticket, hok, rfl⟩ := onTicket_eq_ok.mp success
      refine (assignTicket_stamped (Holds.load rows hticket) ?_ hok).rows
      intro hmember
      simpa [hmember, hticket] using hop
    case mergeTickets primary secondary =>
      dsimp only [attempt] at success
      split at success
      · cases success
      · obtain ⟨ticket, s, hticket, hok, rfl⟩ := onTicket_eq_ok.mp success
        exact (mergeTickets_stamped (Holds.load rows hticket) hok).rows
    case transitionPipelineStage id newStage reason =>
      obtain ⟨ticket, s, hticket, hok, rfl⟩ := onTicket_eq_ok.mp success
      refine (transitionPipelineStage_stamped (Holds.load rows hticket) ?_ hok).rows
      intro henters
      simpa [henters, hticket] using hop
    case addReplyToTicket id inbound =>
      have carried : Carried ws [] _ _ := stamped_ofLifecycle.carried (by decide)
      exact carried.onTicket_ok
        (fun _ holds => holds.addReplyToTicket changeTicketStatus_stamped
          stamped_ofLifecycle.ignoresClock inbound) rows success
    case checkTenantSla clocks now =>
      rw [← Except.ok.inj success]
      exact rows.checkTenantSla stamped_ofLifecycle clocks now
  exact commit_keeps (fun _ _ _ hrows => hrows)
    (fun _ _ _ hrows => hrows.updateWhere fun row hrow => ⟨hrow.resolvedAt, hrow.closedAt⟩) hafter

/-- A stored ticket is closed exactly if both of its closure timestamps are set. -/
def ClosureAgrees (row : Ticket) : Prop :=
  row.status.isClosed = true ↔ row.closedAt.isSome = true ∧ row.resolvedAt.isSome = true

theorem Stamped.closureAgrees (stamped : Stamped row) : ClosureAgrees row := by
  rw [ClosureAgrees, stamped.closedAt, stamped.resolvedAt, and_self]

/-- In every run whose steps keep status and timestamps together, they agree throughout. -/
theorem closure_agrees_throughout (ws : Workspace) (events : List Event)
    (hkeeps : Every (step ws) (fun db event => keepsClosure ws db event = true)
      Db.empty events) :
    Always (step ws) (Rows ClosureAgrees) Db.empty events := by
  refine always_of_invariant (Rows Stamped) ?_ ?_ ?_ events hkeeps
  · intro db rows id row hrow
    exact (rows id row hrow).closureAgrees
  · intro db event rows hadmitted
    exact step_stamped rows hadmitted
  · intro id row hrow
    cases hrow

/-- A ticket created, assigned and closed. -/
def closedTicket : List Event :=
  [ { op := .createTicket 1 { id := 0 }, req := { clock := ⟨0, 0, 0, 0⟩, actor := some 1 } },
    { op := .assignTicket 0 2 "", req := { clock := ⟨30, 30, 30, 30⟩, actor := some 1 } },
    { op := .closeTicket 0, req := { clock := ⟨60, 60, 60, 60⟩, actor := some 1 } } ]

theorem closure_agrees_on_closedTicket :
    Always (step .seeded) (Rows ClosureAgrees) Db.empty closedTicket :=
  closure_agrees_throughout .seeded closedTicket (by decide)

/-- A ticket created through the API in the tenant's default status, then moved to a lost stage. -/
def lostTicket : List Event :=
  [ { op := .createTicket 1 { id := 0 }, req := { clock := ⟨0, 0, 0, 0⟩, actor := some 1 } },
    { op := .transitionPipelineStage 0 { pk := 0, pipeline := 0, name := "Lost", isLost := true } "",
      req := { clock := ⟨60, 60, 60, 60⟩, actor := some 1 } } ]

theorem closure_disagrees_on_lost_stage :
    ¬ Always (step .seeded) (Rows ClosureAgrees) Db.empty lostTicket := by
  intro always
  have hstored : ((run (step .seeded) Db.empty lostTicket).tickets 0).map (fun row =>
      (row.status.isClosed, row.closedAt.isSome)) = some (true, false) := by
    decide
  obtain ⟨row, hrow, hvalues⟩ := Option.map_eq_some_iff.mp hstored
  have hagrees := always.finish 0 row hrow
  rw [Prod.mk.injEq] at hvalues
  simp [ClosureAgrees, hvalues] at hagrees

end Kanzan.Tickets

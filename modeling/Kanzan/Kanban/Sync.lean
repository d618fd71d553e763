import Kanzan.Kanban.Steps

/-!
# Cards and the statuses of their tickets

When the cards of the team's ticket boards stay in columns of the statuses of their tickets, and
moved cards in the columns that they were moved to.
-/

namespace Kanzan.Kanban

open Support Tickets

/-! ## Statuses -/

def statusOf (tickets : Tickets.Db) (id : ℕ) : Option TicketStatus :=
  (tickets.tickets id).map Ticket.status

variable {ticket : Ticket} {order position : ℕ} {card : CardPosition}

section Statuses

variable {ws : Workspace} {req : Request} {tickets tickets' : Tickets.Db} {id other : ℕ}
variable {change : TicketChange}

theorem commit_statusOf (brokerUp : Bool) (tickets : Tickets.Db) (other : ℕ) :
    statusOf (tickets.commit brokerUp) other = statusOf tickets other := by
  apply commit_keeps (P := fun db => statusOf db other = statusOf tickets other)
  · intro db tasks hooks holds
    exact holds
  · intro db ticket taskId holds
    rw [← holds, statusOf, setAutoCloseTaskId_tickets]
    split
    · rw [Option.map_map]
      rfl
    · rfl
  · rfl

theorem saveDraft_statusOf (clock : Clock) (draft : Draft) {db : Tickets.Db}
    (hrow : db.tickets id = some ticket)
    (hlisted : .status ∈ draft.updateFields ∨ ticket.status = draft.ticket.status) (other : ℕ) :
    statusOf (saveDraft ws clock draft { db, id, ticket }).db other =
      if other = id then some draft.ticket.status else statusOf db other := by
  have huntouched := saveDraft_untouched ws clock draft { db, id, ticket }
  by_cases hother : other = id
  · subst hother
    obtain ⟨row, hstored, hstatus⟩ := saveDraft_settled (s := { db, id := other, ticket }) hrow hlisted
    rw [huntouched.id] at hstored
    rw [if_pos rfl, statusOf, hstored, Option.map_some, hstatus,
      saveDraft_status ws clock (s := { db, id := other, ticket }) draft hrow hlisted]
  · rw [if_neg hother, statusOf, huntouched.others other hother]
    rfl

/-- An operation that does not get to its save leaves the store. -/
theorem attempt_of_noDraft (hrow : tickets.tickets id = some ticket)
    (hnone : change.draft ws req tickets id ticket = none)
    (success : attempt ws req (change.op id) tickets = .ok tickets') : tickets' = tickets := by
  cases change with
  | changeTicketStatus newStatus =>
    dsimp only [TicketChange.op, attempt] at success
    obtain ⟨ticket', s, hrow', hok, rfl⟩ := onTicket_eq_ok.mp success
    obtain rfl := Option.some.inj (hrow.symm.trans hrow')
    dsimp only [TicketChange.draft] at hnone
    split at hnone
    · rename_i hsame
      rw [← Except.ok.inj hok]
      unfold changeTicketStatus
      dsimp only
      rw [if_pos hsame]
    · cases hnone
  | assignTicket assignee note =>
    obtain ⟨ticket', s, hrow', hok, rfl⟩ := onTicket_eq_ok.mp success
    dsimp only [TicketChange.draft] at hnone
    rw [if_pos (assignTicket_cases hok).1] at hnone
    cases hnone
  | transitionPipelineStage newStage reason =>
    obtain ⟨ticket', s, hrow', hok, rfl⟩ := onTicket_eq_ok.mp success
    obtain rfl := Option.some.inj (hrow.symm.trans hrow')
    rcases transitionPipelineStage_cases hok with rfl | ⟨henters, -⟩
    · rfl
    · dsimp only [TicketChange.draft] at hnone
      rw [if_pos henters] at hnone
      cases hnone
  | mergeTickets primary =>
    dsimp only [TicketChange.op, attempt] at success
    dsimp only [TicketChange.draft] at hnone
    split at success
    · cases success
    rename_i hprimary
    obtain ⟨ticket', s, hrow', hok, rfl⟩ := onTicket_eq_ok.mp success
    rw [if_neg] at hnone
    · cases hnone
    · simpa [hprimary] using (mergeTickets_cases hok).1

/-- An operation that gets to its save gives the status of the draft to its ticket. -/
theorem attempt_of_draft {draft : Draft} (hrow : tickets.tickets id = some ticket)
    (hsome : change.draft ws req tickets id ticket = some draft) :
    ∃ tickets', attempt ws req (change.op id) tickets = .ok tickets' ∧
      ∀ other, statusOf tickets' other =
        if other = id then some draft.ticket.status else statusOf tickets other := by
  cases change with
  | changeTicketStatus newStatus =>
    dsimp only [TicketChange.draft] at hsome
    split at hsome
    · cases hsome
    rename_i hne
    obtain rfl := Option.some.inj hsome
    dsimp only [TicketChange.op, attempt]
    refine ⟨_, onTicket_eq_ok.mpr ⟨ticket, _, hrow, rfl, rfl⟩, fun other => ?_⟩
    rw [← saveDraft_statusOf req.clock (statusDraft req newStatus ticket) hrow
      (.inl status_mem_statusDraft) other]
    unfold changeTicketStatus
    dsimp only
    rw [if_neg hne]
    split <;> rfl
  | assignTicket assignee note =>
    dsimp only [TicketChange.draft] at hsome
    split at hsome
    swap
    · cases hsome
    rename_i hmember
    obtain rfl := Option.some.inj hsome
    have hok : ∃ s, assignTicket ws req assignee note { db := tickets, id, ticket } = .ok s := by
      unfold assignTicket
      rw [if_neg (by simpa using hmember)]
      exact ⟨_, rfl⟩
    obtain ⟨s, hok⟩ := hok
    refine ⟨_, onTicket_eq_ok.mpr ⟨ticket, s, hrow, hok, rfl⟩, fun other => ?_⟩
    obtain ⟨-, events, rfl⟩ := assignTicket_cases hok
    have hlisted : .status ∈ (assignDraft ws req assignee ticket).updateFields ∨
        ticket.status = (assignDraft ws req assignee ticket).ticket.status := by
      unfold assignDraft
      cases autoTransition ws ticket.status with
      | none => exact .inr rfl
      | some target => exact .inl (by simp)
    rw [← saveDraft_statusOf req.clock _ hrow hlisted other]
    refine List.foldlRecOn (motive := fun s : Session => statusOf s.db other = _) _ _ rfl ?_
    intro s holds event _
    exact holds
  | transitionPipelineStage newStage reason =>
    dsimp only [TicketChange.draft] at hsome
    split at hsome
    swap
    · cases hsome
    rename_i henters
    obtain rfl := Option.some.inj hsome
    rw [entersStage, Bool.and_eq_true, Bool.not_eq_true', decide_eq_true_eq] at henters
    have hok : transitionPipelineStage ws req newStage reason { db := tickets, id, ticket } =
        .ok ((saveDraft ws req.clock (stageDraft ws req newStage reason ticket)
          { db := tickets, id, ticket }).log .pipelineStageChanged) := by
      unfold transitionPipelineStage
      dsimp only
      rw [if_neg (by rw [henters.1]; decide), if_neg henters.2]
    refine ⟨_, onTicket_eq_ok.mpr ⟨ticket, _, hrow, hok, rfl⟩, fun other => ?_⟩
    exact saveDraft_statusOf req.clock _ hrow (stageDraft_listed.imp_right Eq.symm) other
  | mergeTickets primary =>
    dsimp only [TicketChange.draft] at hsome
    split at hsome
    · cases hsome
    rename_i hmerges
    obtain rfl := Option.some.inj hsome
    rw [Bool.or_eq_true, not_or, decide_eq_true_eq] at hmerges
    have hmoved : (tickets.moveActivities id primary).tickets id = some ticket := hrow
    have hok : ∃ s, mergeTickets ws req primary { db := tickets, id, ticket } = .ok s := by
      unfold mergeTickets
      rw [if_neg hmerges.2]
      exact ⟨_, rfl⟩
    obtain ⟨s, hok⟩ := hok
    refine ⟨s.db, ?_, fun other => ?_⟩
    · dsimp only [TicketChange.op, attempt]
      rw [if_neg hmerges.1]
      exact onTicket_eq_ok.mpr ⟨ticket, s, hrow, hok, rfl⟩
    · obtain ⟨-, rfl⟩ := mergeTickets_cases hok
      exact saveDraft_statusOf req.clock _ hmoved (.inl List.mem_cons_self) other

end Statuses

/-! ## Boards in step with the tickets -/

def Board.isShared (board : Board) : Bool := board.resourceType == .ticket && !board.isPersonal

def Fits (column : Column) (status : TicketStatus) : Prop :=
  column.board.isShared = true → ∀ mapped, column.status = some mapped → mapped = status

/-- Cards in columns of shared boards that a status is mapped to are of tickets in that status. -/
def InSync (db : Db) : Prop :=
  ∀ card ∈ db.cards, ∀ status, statusOf db.tickets card.ticket = some status →
    Fits card.column status

/-- A successful move on a shared board leaves the card in the column asked for. -/
def Lands (layout : Layout) (db : Db) (event : Event) : Prop :=
  ∀ cardId targetColumnId position, event.op = .move cardId targetColumnId position →
    ∀ after, apply layout event db = .ok after →
      ∀ card targetColumn, validateMove layout cardId targetColumnId db = .ok (card, targetColumn) →
        targetColumn.board.isShared = true →
          ∃ moved ∈ after.cards, moved.pk = cardId ∧ moved.column = targetColumn

/-- The column of a card after its ticket has been sent to the columns that `home` names. -/
def sentTo (home : Column → Option Column) (column : Column) : Column := (home column).getD column

/-- A move that writes a status goes to the first column of the status, and the ticket's cards
on other boards go to such a column or are in none that a status is mapped to. -/
def MoveKeepsSync (layout : Layout) (card : CardPosition) (targetColumn : Column) (db : Db) : Prop :=
  ∀ status, statusToWrite targetColumn card.ticket db.tickets = some status →
    (targetColumn.board.isShared = true →
      layout.statusColumn targetColumn.board status = some targetColumn) ∧
    ∀ other ∈ db.cards, other.ticket = card.ticket → other.pk ≠ card.pk →
      Fits ((layout.statusColumn other.column.board status).getD other.column) status

/-- What has to hold for an event to leave the boards in step with the tickets. -/
def KeepsSync (layout : Layout) (db : Db) (event : Event) : Prop :=
  match event.op with
  | .addTicket boardPk columnId ticketId =>
    ∀ column ticket, layout.columns.find?
        (fun column => column.board.pk == boardPk && column.pk == columnId) = some column →
      db.tickets.tickets ticketId = some ticket → ticket.isDeleted = false →
        isOnBoard column.board ticketId db.cards = false → column.isFull db.cards = false →
          Fits column ticket.status
  | .move cardId targetColumnId position =>
    ∀ card targetColumn, validateMove layout cardId targetColumnId db = .ok (card, targetColumn) →
      moveError layout card targetColumn position db.cards = none →
        MoveKeepsSync layout card targetColumn db
  | .createTicket creator data =>
    db.tickets.tickets data.id = none →
      data.assignee.any (fun assignee => !layout.isActiveMember assignee) = false →
        ∀ status, initialStatus layout.toWorkspace (.createTicket creator data) = some status →
          ∀ column, newCardColumn layout data.id status db.cards = some column →
            Fits column status
  | .saveTicket id change =>
    ∀ saved inst, savedBy layout event.req id change db.tickets = some (saved, inst) →
      (∀ card ∈ db.cards, card.ticket = id →
        Fits (sentTo (savedHome layout saved inst) card.column) inst.status) ∧
      (saved.assigneeChanged = true ∨ .assignee ∈ saved.updateFields →
        ∀ column, newCardColumn layout id inst.status db.cards = some column →
          Fits (sentTo (savedHome layout saved inst) column) inst.status)
  | .populate .. | .destroy .. => True

/-- Every card is of a stored ticket. -/
def Known (db : Db) : Prop := ∀ card ∈ db.cards, (statusOf db.tickets card.ticket).isSome = true

section Steps

variable {layout : Layout} {db db' : Db} {id : ℕ} {status : TicketStatus}
  {home : Column → Option Column} {cards : List CardPosition}
variable {column : Column}

theorem inSync_relocate_iff (hcards : db'.cards = relocate home id cards)
    (hstatus : ∀ other, statusOf db'.tickets other =
      if other = id then some status else statusOf db.tickets other)
    (hothers : ∀ card ∈ cards, card.ticket ≠ id → ∀ status,
      statusOf db.tickets card.ticket = some status → Fits card.column status) :
    InSync db' ↔ ∀ card ∈ cards, card.ticket = id → Fits (sentTo home card.column) status := by
  unfold InSync
  rw [hcards]
  constructor
  · intro sync card hmem hticket
    have hcard := sync (relocated home id cards card) (List.mem_map_of_mem hmem) status
    rw [relocated_ticket, hstatus, if_pos hticket, relocated_column hticket] at hcard
    exact hcard rfl
  · intro fits moved hmoved status' hfound
    obtain ⟨card, hmem, rfl⟩ := List.mem_map.mp hmoved
    rw [relocated_ticket, hstatus] at hfound
    by_cases hticket : card.ticket = id
    · rw [if_pos hticket, Option.some.injEq] at hfound
      rw [relocated_column hticket, ← hfound]
      exact fits card hmem hticket
    · rw [if_neg hticket] at hfound
      rw [relocated_of_ne hticket]
      exact hothers card hmem hticket status' hfound

theorem inSync_createCard_iff (sync : InSync db) (hstatus : statusOf db.tickets id = some status) :
    InSync (db.createCard column id order) ↔ Fits column status := by
  constructor
  · intro more
    exact more _ (List.mem_append_right _ List.mem_cons_self) status hstatus
  · intro fits card hmem status' hfound
    rcases List.mem_append.mp hmem with hmem | hmem
    · exact sync card hmem status' hfound
    · rw [List.mem_singleton.mp hmem] at hfound ⊢
      rw [Option.some.inj (hfound.symm.trans hstatus)]
      exact fits

theorem Known.createCard (known : Known db) (hstatus : statusOf db.tickets id = some status) :
    Known (db.createCard column id order) := by
  intro card hmem
  rcases List.mem_append.mp hmem with hmem | hmem
  · exact known card hmem
  · rw [List.mem_singleton.mp hmem]
    exact Option.isSome_of_eq_some hstatus

end Steps

/-! ## Saves -/

section Saves

variable {layout : Layout} {req : Request} {id : ℕ} {change : TicketChange} {db : Db}
  {saved : Saved} {inst : Ticket} {tickets : Tickets.Db}

theorem savedBy_created (hsaved : savedBy layout req id change tickets = some (saved, inst)) :
    saved.created = false := by
  unfold savedBy at hsaved
  obtain ⟨ticket, -, hdraft⟩ := Option.bind_eq_some_iff.mp hsaved
  obtain ⟨draft, -, heq⟩ := Option.map_eq_some_iff.mp hdraft
  obtain ⟨rfl, -⟩ := Prod.mk.inj heq
  rfl

theorem step_statusOf (brokerUp : Bool)
    (hsaved : savedBy layout req id change tickets = some (saved, inst)) (other : ℕ) :
    statusOf (Tickets.step layout.toWorkspace tickets { op := change.op id, req, brokerUp }) other =
      if other = id then some inst.status else statusOf tickets other := by
  unfold savedBy at hsaved
  obtain ⟨ticket, hrow, hdraft⟩ := Option.bind_eq_some_iff.mp hsaved
  obtain ⟨draft, hsome, heq⟩ := Option.map_eq_some_iff.mp hdraft
  obtain ⟨-, rfl⟩ := Prod.mk.inj heq
  obtain ⟨tickets', hattempt, hstatus⟩ := attempt_of_draft hrow hsome
  unfold Tickets.step
  dsimp only
  rw [hattempt]
  exact (commit_statusOf brokerUp tickets' other).trans (hstatus other)

theorem step_statusOf_of_none (brokerUp : Bool)
    (hnone : savedBy layout req id change tickets = none) (other : ℕ) :
    statusOf (Tickets.step layout.toWorkspace tickets { op := change.op id, req, brokerUp }) other =
      statusOf tickets other := by
  unfold Tickets.step
  dsimp only
  split
  · rfl
  rename_i tickets' hattempt
  rw [commit_statusOf]
  have hsame : tickets' = tickets := by
    cases hrow : tickets.tickets id with
    | none =>
      have hmissing : ∀ work, tickets.onTicket id work ≠ .ok tickets' := by
        intro work success
        obtain ⟨ticket, s, hfound, -⟩ := onTicket_eq_ok.mp success
        rw [hrow] at hfound
        cases hfound
      cases change with
      | mergeTickets primary =>
        dsimp only [TicketChange.op, attempt] at hattempt
        split at hattempt
        · cases hattempt
        · exact absurd hattempt (hmissing _)
      | changeTicketStatus | assignTicket | transitionPipelineStage =>
        dsimp only [TicketChange.op, attempt] at hattempt
        exact absurd hattempt (hmissing _)
    | some ticket =>
      unfold savedBy at hnone
      rw [hrow, Option.bind_some, Option.map_eq_none_iff] at hnone
      exact attempt_of_noDraft hrow hnone hattempt
  rw [hsame]

theorem forall_mem_createKanbanCard_iff {P : Column → Prop} :
    (∀ card ∈ (createKanbanCardOnTicketSave layout saved id inst db).cards, card.ticket = id →
        P card.column) ↔
      (∀ card ∈ db.cards, card.ticket = id → P card.column) ∧
        (saved.created = true ∨ saved.assigneeChanged = true ∨ .assignee ∈ saved.updateFields →
          ∀ column, newCardColumn layout id inst.status db.cards = some column → P column) := by
  have hguard : (!saved.created && !saved.assigneeChanged && decide (.assignee ∉ saved.updateFields)) =
        true ↔
      ¬ (saved.created = true ∨ saved.assigneeChanged = true ∨ .assignee ∈ saved.updateFields) := by
    simp [not_or, and_assoc]
  unfold createKanbanCardOnTicketSave
  split
  · rename_i hskips
    constructor
    · intro all
      exact ⟨all, fun hacts => absurd hacts (hguard.mp hskips)⟩
    · intro all
      exact all.1
  rename_i hacts
  rw [hguard, not_not] at hacts
  split
  · rename_i hnone
    rw [hnone]
    simp
  · rename_i column hcolumn
    constructor
    · intro all
      refine ⟨fun card hmem => all card (List.mem_append_left _ hmem), fun _ column' hcolumn' => ?_⟩
      rw [← Option.some.inj (hcolumn.symm.trans hcolumn')]
      exact all _ (List.mem_append_right _ List.mem_cons_self) rfl
    · rintro ⟨all, hnew⟩ card hmem hticket
      rcases List.mem_append.mp hmem with hmem | hmem
      · exact all card hmem hticket
      · rw [List.mem_singleton.mp hmem]
        exact hnew hacts column hcolumn

theorem inSync_onTicketSave_iff (keyed : Keyed db) (sync : InSync db)
    (hstatus : ∀ other, statusOf tickets other =
      if other = id then some inst.status else statusOf db.tickets other) :
    InSync (onTicketSave layout saved id inst { db with tickets }) ↔
      (∀ card ∈ db.cards, card.ticket = id →
        Fits (sentTo (savedHome layout saved inst) card.column) inst.status) ∧
      (saved.created = true ∨ saved.assigneeChanged = true ∨ .assignee ∈ saved.updateFields →
        ∀ column, newCardColumn layout id inst.status db.cards = some column →
          Fits (sentTo (savedHome layout saved inst) column) inst.status) := by
  have htickets : (onTicketSave layout saved id inst { db with tickets }).tickets = tickets :=
    onTicketSave_tickets
  have hcards := onTicketSave_cards layout saved id inst (keyed.setTickets tickets)
  rw [inSync_relocate_iff hcards (fun other => htickets ▸ hstatus other)]
  · exact forall_mem_createKanbanCard_iff
      (P := fun column => Fits (sentTo (savedHome layout saved inst) column) inst.status)
  · intro card hmem hticket status hfound
    rcases createKanbanCard_cases layout saved id inst { db with tickets } with
      hsame | ⟨column, -, hcreated⟩
    · rw [hsame] at hmem
      exact sync card hmem status hfound
    · rw [hcreated] at hmem
      rcases List.mem_append.mp hmem with hmem | hmem
      · exact sync card hmem status hfound
      · exact absurd (congrArg CardPosition.ticket (List.mem_singleton.mp hmem)) hticket

end Saves

/-! ## Moves -/

section Moves

variable {layout : Layout} {req : Request} {brokerUp : Bool} {id : ℕ} {db : Db}
  {tickets : Tickets.Db} {column targetColumn : Column} {status : TicketStatus}

theorem sentTo_homeOf {find : Board → Option Column} :
    sentTo (homeOf find) column = (find column.board).getD column := by
  unfold sentTo homeOf
  cases find column.board with
  | none => rfl
  | some found =>
    rw [Option.filter_some, Option.getD_some]
    by_cases hsame : found = column <;> simp [hsame]

theorem moveHome_of_some (hwrites : statusToWrite targetColumn id tickets = some status) :
    moveHome layout targetColumn id tickets = homeOf fun board => layout.statusColumn board status := by
  unfold moveHome
  rw [hwrites]
  rfl

variable (layout req brokerUp id targetColumn tickets) in
/-- The statuses after a move. -/
theorem movedTickets_statusOf (other : ℕ) :
    statusOf (movedTickets layout req brokerUp targetColumn id tickets) other =
      match statusToWrite targetColumn id tickets with
      | none => statusOf tickets other
      | some status => if other = id then some status else statusOf tickets other := by
  unfold movedTickets
  cases hwrites : statusToWrite targetColumn id tickets with
  | none => rfl
  | some status =>
    have hmeets := (Option.filter_eq_some_iff.mp hwrites).2
    rw [Bool.and_eq_true] at hmeets
    obtain ⟨saved, inst, hsaved, -, rfl⟩ :=
      savedBy_changeTicketStatus hmeets.2
    exact step_statusOf brokerUp hsaved other

theorem fits_of_statusToWrite_none (hnone : statusToWrite targetColumn id tickets = none)
    (hfound : statusOf tickets id = some status) : Fits targetColumn status := by
  intro hshared mapped hmapped
  rw [Board.isShared, Bool.and_eq_true, Bool.not_eq_true'] at hshared
  obtain ⟨ticket, hrow, rfl⟩ := Option.map_eq_some_iff.mp hfound
  unfold statusToWrite at hnone
  rw [hmapped, hrow] at hnone
  by_contra hne
  simp [hshared.2, Ne.symm hne] at hnone

theorem status_of_statusToWrite (hwrites : statusToWrite targetColumn id tickets = some status) :
    targetColumn.status = some status := (Option.filter_eq_some_iff.mp hwrites).1

theorem inSync_moved_iff {after : Db} (keyed : Keyed db) (sync : InSync db) (hmem : card ∈ db.cards)
    (htarget : targetColumn ∈ layout.columns) (htickets : after.tickets =
      movedTickets layout req brokerUp targetColumn card.ticket db.tickets)
    (hcards : after.cards = relocate (moveHome layout targetColumn card.ticket db.tickets)
      card.ticket (placeCard card targetColumn position db.cards)) :
    InSync after ↔
      ∀ status, statusToWrite targetColumn card.ticket db.tickets = some status →
        ∀ other ∈ db.cards, other.ticket = card.ticket → other.pk ≠ card.pk →
          Fits ((layout.statusColumn other.column.board status).getD other.column) status := by
  obtain ⟨edit, hplaced, hedit⟩ := placeCard_map keyed.toDistinct hmem targetColumn position
  have hstatus := movedTickets_statusOf layout req brokerUp card.ticket db.tickets targetColumn
  rw [hplaced] at hcards
  cases hwrites : statusToWrite targetColumn card.ticket db.tickets with
  | none =>
    refine iff_of_true ?_ (by rintro status ⟨⟩)
    rw [hwrites] at hstatus
    have hnone : ∀ column, moveHome layout targetColumn card.ticket db.tickets column = none := by
      intro column
      unfold moveHome
      rw [hwrites]
      exact homeOf_none rfl
    rw [relocate_none hnone] at hcards
    intro moved hmoved status hfound
    rw [hcards] at hmoved
    obtain ⟨other, hother, rfl⟩ := List.mem_map.mp hmoved
    obtain ⟨-, hticket, hcolumn⟩ := hedit other hother
    rw [htickets, hstatus, hticket] at hfound
    rw [hcolumn]
    split
    · rename_i hpk
      rw [keyed.ext hother hmem hpk] at hfound
      exact fits_of_statusToWrite_none hwrites hfound
    · exact sync other hother status hfound
  | some status =>
    rw [hwrites] at hstatus
    rw [inSync_relocate_iff hcards (fun other => htickets ▸ hstatus other),
      moveHome_of_some hwrites]
    · constructor
      · intro fits status' hsame other hother hticket hpk
        obtain rfl := Option.some.inj hsame
        obtain ⟨-, hticket', hcolumn⟩ := hedit other hother
        have hfits := fits (edit other) (List.mem_map_of_mem hother) (hticket'.trans hticket)
        rwa [hcolumn, if_neg hpk, sentTo_homeOf] at hfits
      · intro fits moved hmoved hticket
        obtain ⟨other, hother, rfl⟩ := List.mem_map.mp hmoved
        obtain ⟨-, hticket', hcolumn⟩ := hedit other hother
        rw [hcolumn, sentTo_homeOf]
        split
        · intro _ mapped hmapped
          obtain ⟨found, hfound⟩ := Option.isSome_iff_exists.mp
            (Layout.statusColumn_isSome htarget (status_of_statusToWrite hwrites))
          rw [hfound, Option.getD_some, (Layout.statusColumn_some hfound).2] at hmapped
          exact (Option.some.inj hmapped).symm
        · rename_i hpk
          exact fits status rfl other hother (hticket'.symm.trans hticket) hpk
    · intro moved hmoved hticket status' hfound
      obtain ⟨other, hother, rfl⟩ := List.mem_map.mp hmoved
      obtain ⟨-, hticket', hcolumn⟩ := hedit other hother
      have hpk : other.pk ≠ card.pk := by
        intro hpk
        rw [hticket', keyed.ext hother hmem hpk] at hticket
        exact hticket rfl
      rw [hticket'] at hfound
      rw [hcolumn, if_neg hpk]
      exact sync other hother status' hfound

theorem moved_lands_iff {after : Db} (keyed : Keyed db) (hmem : card ∈ db.cards)
    (htarget : targetColumn ∈ layout.columns) (hboard : targetColumn.board = card.column.board)
    (hcards : after.cards = relocate (moveHome layout targetColumn card.ticket db.tickets)
      card.ticket (placeCard card targetColumn position db.cards)) :
    (∃ moved ∈ after.cards, moved.pk = card.pk ∧ moved.column = targetColumn) ↔
      ∀ status, statusToWrite targetColumn card.ticket db.tickets = some status →
        layout.statusColumn targetColumn.board status = some targetColumn := by
  obtain ⟨edit, hplaced, hedit⟩ := placeCard_map keyed.toDistinct hmem targetColumn position
  obtain ⟨hpk, hticket, hcolumn⟩ := hedit card hmem
  rw [if_pos rfl] at hcolumn
  -- The one card with the key of the moved one.
  have hfinal : (∃ moved ∈ after.cards, moved.pk = card.pk ∧ moved.column = targetColumn) ↔
      sentTo (moveHome layout targetColumn card.ticket db.tickets) targetColumn = targetColumn := by
    rw [hcards, hplaced]
    constructor
    · rintro ⟨moved, hmoved, hmovedPk, hmovedColumn⟩
      obtain ⟨placed, hplaced', rfl⟩ := List.mem_map.mp hmoved
      obtain ⟨other, hother, rfl⟩ := List.mem_map.mp hplaced'
      rw [relocated_pk, (hedit other hother).1] at hmovedPk
      rw [keyed.ext hother hmem hmovedPk, relocated_column hticket, hcolumn] at hmovedColumn
      exact hmovedColumn
    · intro hsent
      refine ⟨_, List.mem_map_of_mem (List.mem_map_of_mem hmem), ?_, ?_⟩
      · rw [relocated_pk, hpk]
      · rw [relocated_column hticket, hcolumn]
        exact hsent
  rw [hfinal]
  cases hwrites : statusToWrite targetColumn card.ticket db.tickets with
  | none =>
    refine iff_of_true ?_ (by rintro status ⟨⟩)
    unfold moveHome
    rw [hwrites, sentTo_homeOf]
    rfl
  | some status =>
    rw [moveHome_of_some hwrites, sentTo_homeOf]
    obtain ⟨found, hfound⟩ := Option.isSome_iff_exists.mp
      (Layout.statusColumn_isSome htarget (status_of_statusToWrite hwrites))
    rw [hfound, Option.getD_some]
    constructor
    · rintro rfl status' hsame
      rw [← Option.some.inj hsame, hfound]
    · intro lands
      exact Option.some.inj (hfound.symm.trans (lands status rfl))

end Moves

/-! ## Runs -/

section Runs

variable {layout : Layout} {db db' : Db} {event : Event}
variable {tickets : Tickets.Db}

theorem Known.step_of (known : Known db)
    (hkept : ∀ id, (statusOf db.tickets id).isSome = true → (statusOf db'.tickets id).isSome = true)
    (hcards : ∀ card ∈ db'.cards, (∃ before ∈ db.cards, before.ticket = card.ticket) ∨
      (statusOf db'.tickets card.ticket).isSome = true) : Known db' := by
  intro card hmem
  rcases hcards card hmem with ⟨before, hbefore, hticket⟩ | hstored
  · rw [← hticket]
    exact hkept _ (known before hbefore)
  · exact hstored

theorem Known.onTicketSave {saved : Saved} {id : ℕ} {inst : Ticket} (keyed : Keyed db)
    (known : Known db) (hstatus : ∀ other, statusOf tickets other =
      if other = id then some inst.status else statusOf db.tickets other) :
    Known (onTicketSave layout saved id inst { db with tickets }) := by
  have htickets : (Kanban.onTicketSave layout saved id inst { db with tickets }).tickets = tickets :=
    onTicketSave_tickets
  refine known.step_of (fun other hother => ?_) (fun moved hmoved => ?_)
  · rw [htickets, hstatus]
    split
    · rfl
    · exact hother
  · rw [onTicketSave_cards _ _ _ _ (keyed.setTickets tickets)] at hmoved
    obtain ⟨card, hcard, rfl⟩ := List.mem_map.mp hmoved
    rw [relocated_ticket]
    rcases createKanbanCard_cases layout saved id inst { db with tickets } with
      hsame | ⟨column, -, hcreated⟩
    · rw [hsame] at hcard
      exact .inl ⟨card, hcard, rfl⟩
    · rw [hcreated] at hcard
      rcases List.mem_append.mp hcard with hcard | hcard
      · exact .inl ⟨card, hcard, rfl⟩
      · right
        rw [List.mem_singleton.mp hcard, htickets, hstatus, if_pos rfl]
        rfl

theorem created_statusOf {tickets' : Tickets.Db} {id : ℕ} {brokerUp : Bool}
    (hticket : tickets'.tickets id = some ticket)
    (hothers : ∀ other ≠ id, tickets'.tickets other = tickets.tickets other) (other : ℕ) :
    statusOf (tickets'.commit brokerUp) other =
      if other = id then some ticket.status else statusOf tickets other := by
  rw [commit_statusOf]
  split
  · rename_i hsame
    rw [hsame, statusOf, hticket, Option.map_some]
  · rename_i hne
    rw [statusOf, hothers other hne, statusOf]

theorem step_known (keyed : Keyed db) (known : Known db) : Known (step layout db event) := by
  obtain ⟨op, req, brokerUp⟩ := event
  cases happly : apply layout ⟨op, req, brokerUp⟩ db with
  | error message =>
    rw [step_of_error happly]
    exact known
  | ok after =>
    rw [step_of_ok happly]
    cases op with
    | addTicket =>
      obtain ⟨column, ticket, -, hrow, -, -, -, rfl⟩ := addTicket_cases happly
      exact known.createCard (Option.map_eq_some_iff.mpr ⟨ticket, hrow, rfl⟩)
    | populate =>
      obtain ⟨board, rfl⟩ := populate_cases happly
      exact populateBoardFromTickets_preserves board (fun db column id status ticket known _ hrow _ _ =>
        known.createCard (Option.map_eq_some_iff.mpr ⟨ticket, hrow, rfl⟩)) known
    | move cardId targetColumnId position =>
      obtain ⟨card, targetColumn, hvalid, hmoved⟩ := move_cases happly
      obtain ⟨hmem, -, -, hboard⟩ := validateMove_cases hvalid
      obtain ⟨-, -, htickets, hcards⟩ := moveCard_cases hmoved keyed hmem hboard
      obtain ⟨edit, hplaced, hedit⟩ :=
        placeCard_map keyed.toDistinct hmem targetColumn position
      refine known.step_of (fun id hid => ?_) (fun moved hmoved => .inl ?_)
      · rw [htickets, movedTickets_statusOf]
        split
        · exact hid
        · split
          · rfl
          · exact hid
      · rw [hcards, hplaced] at hmoved
        obtain ⟨placed, hplaced, rfl⟩ := List.mem_map.mp hmoved
        obtain ⟨before, hbefore, rfl⟩ := List.mem_map.mp hplaced
        exact ⟨before, hbefore, by rw [relocated_ticket, (hedit before hbefore).2.1]⟩
    | destroy =>
      obtain ⟨card, -, -, -, -, rfl⟩ := destroy_cases happly
      exact fun other hother => known other (List.mem_filter.mp hother).1
    | createTicket creator data =>
      obtain ⟨tickets, ticket, -, -, -, hticket, hothers, -, rfl⟩ := createTicket_cases happly
      exact known.onTicketSave keyed (created_statusOf hticket hothers)
    | saveTicket id change =>
      rw [← Except.ok.inj happly]
      unfold saveTicket
      dsimp only
      split
      · rename_i hnone
        refine known.step_of (fun id hid => ?_) (fun card hmem => .inl ⟨card, hmem, rfl⟩)
        dsimp only
        rwa [step_statusOf_of_none brokerUp hnone]
      · rename_i saved inst hsaved
        exact known.onTicketSave keyed (step_statusOf brokerUp hsaved)

theorem inSync_step_iff (keyed : Keyed db) (known : Known db) (sync : InSync db) :
    InSync (step layout db event) ∧ Lands layout db event ↔ KeepsSync layout db event := by
  obtain ⟨op, req, brokerUp⟩ := event
  -- Only moves can fail to land.
  have hlands : (∀ cardId targetColumnId position, op ≠ .move cardId targetColumnId position) →
      Lands layout db ⟨op, req, brokerUp⟩ :=
    fun hother cardId targetColumnId position hop => absurd hop (hother _ _ _)
  cases happly : apply layout ⟨op, req, brokerUp⟩ db with
  | error message =>
    rw [step_of_error happly]
    have hmissed : Lands layout db ⟨op, req, brokerUp⟩ := by
      intro _ _ _ _ after success
      rw [happly] at success
      cases success
    refine iff_of_true ⟨sync, hmissed⟩ ?_
    cases op with
    | addTicket boardPk columnId ticketId =>
      intro column ticket hcolumn hrow hlive habsent hroom hshared
      rw [Board.isShared, Bool.and_eq_true, Bool.not_eq_true'] at hshared
      obtain ⟨after, success⟩ := addTicket_accepted hcolumn hrow hlive
        habsent hroom hshared.2
      exact absurd (success.symm.trans happly) (by simp)
    | move cardId targetColumnId position =>
      intro card targetColumn hvalid haccepted
      obtain ⟨after, success⟩ := move_accepted hvalid haccepted
      exact absurd (success.symm.trans happly) (by simp)
    | createTicket creator data =>
      intro hfresh hassignee status hinitial
      obtain ⟨after, success⟩ := createTicket_accepted
        hfresh hassignee hinitial
      exact absurd (success.symm.trans happly) (by simp)
    | populate | destroy => trivial
    | saveTicket => cases happly
  | ok after =>
    rw [step_of_ok happly]
    cases op with
    | addTicket boardPk columnId ticketId =>
      rw [and_iff_left (hlands fun _ _ _ => Op.noConfusion)]
      obtain ⟨column, ticket, hcolumn, hrow, hlive, habsent, hroom, rfl⟩ := addTicket_cases happly
      rw [inSync_createCard_iff sync (Option.map_eq_some_iff.mpr ⟨ticket, hrow, rfl⟩)]
      constructor
      · intro fits column' ticket' hcolumn' hrow' _ _ _
        rw [← Option.some.inj (hcolumn.symm.trans hcolumn'),
          ← Option.some.inj (hrow.symm.trans hrow')]
        exact fits
      · intro keeps
        exact keeps column ticket hcolumn hrow hlive habsent hroom
    | populate =>
      rw [and_iff_left (hlands fun _ _ _ => Op.noConfusion)]
      obtain ⟨board, rfl⟩ := populate_cases happly
      refine iff_of_true (populateBoardFromTickets_preserves board ?_ sync) trivial
      intro db column id status ticket sync hstatus hrow hticket _
      refine (inSync_createCard_iff sync (Option.map_eq_some_iff.mpr ⟨ticket, hrow, rfl⟩)).mpr ?_
      intro _ mapped hmapped
      rw [hticket]
      exact Option.some.inj (hmapped.symm.trans hstatus)
    | move cardId targetColumnId position =>
      obtain ⟨card, targetColumn, hvalid, hmoved⟩ := move_cases happly
      obtain ⟨hmem, hpk, htarget, hboard⟩ := validateMove_cases hvalid
      obtain ⟨haccepted, -, htickets, hcards⟩ := moveCard_cases hmoved keyed hmem hboard
      have hlanded := moved_lands_iff keyed hmem htarget hboard hcards
      rw [inSync_moved_iff keyed sync hmem htarget htickets hcards]
      constructor
      · rintro ⟨hothers, lands⟩ card' targetColumn' hvalid' _ status hwrites
        obtain ⟨rfl, rfl⟩ := Prod.mk.inj (Except.ok.inj (hvalid.symm.trans hvalid'))
        refine ⟨fun hshared => ?_, hothers status hwrites⟩
        have hfinal := lands _ _ _ rfl after happly card targetColumn hvalid hshared
        rw [← hpk] at hfinal
        exact hlanded.mp hfinal status hwrites
      · intro keeps
        have hkeeps := keeps card targetColumn hvalid haccepted
        refine ⟨fun status hwrites => (hkeeps status hwrites).2, ?_⟩
        intro cardId' targetColumnId' position' hop after' success card' targetColumn' hvalid' hshared
        obtain ⟨rfl, rfl, rfl⟩ := Op.move.inj hop
        obtain rfl := Except.ok.inj (happly.symm.trans success)
        obtain ⟨rfl, rfl⟩ := Prod.mk.inj (Except.ok.inj (hvalid.symm.trans hvalid'))
        rw [← hpk]
        exact hlanded.mpr fun status hwrites => (hkeeps status hwrites).1 hshared
    | destroy =>
      rw [and_iff_left (hlands fun _ _ _ => Op.noConfusion)]
      obtain ⟨card, -, -, -, -, rfl⟩ := destroy_cases happly
      exact iff_of_true (fun other hother => sync other (List.mem_filter.mp hother).1) trivial
    | createTicket creator data =>
      rw [and_iff_left (hlands fun _ _ _ => Op.noConfusion)]
      obtain ⟨tickets, ticket, -, hfresh, hassignee, hticket, hothers, hinitial, rfl⟩ :=
        createTicket_cases happly
      rw [inSync_onTicketSave_iff keyed sync (created_statusOf hticket hothers)]
      have hnew : ∀ column, sentTo (savedHome layout { created := true } ticket) column = column := by
        intro column
        rw [sentTo, savedHome_of_created rfl, Option.getD_none]
      simp only [hnew, true_or, true_implies]
      constructor
      · rintro ⟨-, fits⟩ _ _ status hstatus column hcolumn
        obtain rfl := Option.some.inj (hinitial.symm.trans hstatus)
        exact fits column hcolumn
      · intro keeps
        refine ⟨fun card hmem hcard => ?_, keeps hfresh hassignee ticket.status hinitial⟩
        have hstored := known card hmem
        rw [hcard, statusOf, hfresh] at hstored
        cases hstored
    | saveTicket id change =>
      rw [and_iff_left (hlands fun _ _ _ => Op.noConfusion), ← Except.ok.inj happly]
      unfold saveTicket
      dsimp only
      split
      · rename_i hnone
        refine iff_of_true (fun card hmem status hfound => ?_) fun saved inst hsaved => ?_
        · dsimp only at hfound
          rw [step_statusOf_of_none brokerUp hnone] at hfound
          exact sync card hmem status hfound
        · rw [hnone] at hsaved
          cases hsaved
      · rename_i saved inst hsaved
        have hcreated := savedBy_created hsaved
        rw [inSync_onTicketSave_iff keyed sync (step_statusOf brokerUp hsaved)]
        simp only [hcreated, Bool.false_eq_true, false_or]
        constructor
        · intro fits saved' inst' hsaved'
          obtain ⟨rfl, rfl⟩ := Prod.mk.inj (Option.some.inj (hsaved.symm.trans hsaved'))
          exact fits
        · intro keeps
          exact keeps saved inst hsaved

/-- In every run the boards are in step with the tickets all the time and every move lands,
exactly if every event meets its condition. -/
theorem inSync_and_lands_iff (layout : Layout) (tickets : Tickets.Db) (events : List Event) :
    Always (step layout) InSync (Db.noCards tickets) events ∧
        Every (step layout) (Lands layout) (Db.noCards tickets) events ↔
      Every (step layout) (KeepsSync layout) (Db.noCards tickets) events :=
  always_and_every_iff (fun (db : Db) (inv : Keyed db ∧ Known db ∧ InSync db) => inv.2.2)
    (fun _ _ inv keeps => ⟨step_keyed inv.1, step_known inv.1 inv.2.1,
      ((inSync_step_iff inv.1 inv.2.1 inv.2.2).mpr keeps).1⟩)
    (fun _ _ inv => inSync_step_iff inv.1 inv.2.1 inv.2.2)
    ⟨Keyed.noCards tickets, fun _ hmem => absurd hmem List.not_mem_nil,
      fun _ hmem => absurd hmem List.not_mem_nil⟩ events

/-- The column of a board for the closed tickets. -/
def closedColumn : Column where
  pk := 1
  board := { pk := 0 }
  name := "Closed"
  order := 1
  status := some { pk := 4, name := "Closed", slug := "closed", order := 50, isClosed := true }

/-- A tenant with a board for its closed tickets, which is not the default one. -/
def Layout.archive : Layout :=
  { Workspace.seeded with boards := [{ pk := 0 }], columns := [closedColumn] }

/-- An open ticket is added to the column of the closed ones. -/
def addedOpen : List Event :=
  [ { op := .createTicket 1 { id := 0 }, req := { clock := ⟨0, 0, 0, 0⟩, actor := some 1 } },
    { op := .addTicket 0 1 0, req := { clock := ⟨1, 1, 1, 1⟩, actor := some 1 } } ]

theorem inSync_fails_on_addedOpen :
    ¬ (Always (step .archive) InSync (Db.noCards Db.empty) addedOpen ∧
      Every (step .archive) (Lands .archive) (Db.noCards Db.empty) addedOpen) := by
  rintro ⟨always, -⟩
  have hcards : (run (step .archive) (Db.noCards Db.empty) addedOpen).cards =
      [{ pk := 0, column := closedColumn, ticket := 0, order := 0 }] := by
    decide +kernel
  have hstatus : (statusOf (run (step .archive) (Db.noCards Db.empty) addedOpen).tickets 0).map
      TicketStatus.pk = some 0 := by
    decide +kernel
  obtain ⟨status, hfound, hpk⟩ := Option.map_eq_some_iff.mp hstatus
  have hfits := always.finish _ (hcards ▸ List.mem_cons_self) status hfound rfl _ rfl
  rw [← hfits] at hpk
  cases hpk

end Runs

end Kanzan.Kanban

import Kanzan.Kanban.Relocation
import Kanzan.Tickets.Creation

/-!
# Events as a whole

What a move does to the cards, and that every event keeps them apart by their keys and by their
places.
-/

namespace Kanzan.Kanban

open Support Tickets

/-! ## Saves -/

section Saves

variable {layout : Layout} {req : Request} {brokerUp : Bool} {id : ℕ} {change : TicketChange}
  {db : Db}

theorem Keyed.setTickets (keyed : Keyed db) (tickets : Tickets.Db) : Keyed { db with tickets } where
  toDistinct := keyed.toDistinct
  fresh := keyed.fresh

theorem Keyed.saveTicket (keyed : Keyed db) :
    Keyed (saveTicket layout req brokerUp id change db) := by
  unfold Kanban.saveTicket
  dsimp only
  split
  · exact keyed.setTickets _
  · exact (keyed.setTickets _).onTicketSave

end Saves

/-! ## Moves -/

/-- Where the receivers send the cards of a ticket whose status a move writes. -/
def moveHome (layout : Layout) (targetColumn : Column) (id : ℕ) (db : Tickets.Db) :
    Column → Option Column :=
  homeOf fun board => (statusToWrite targetColumn id db).bind (layout.statusColumn board)

def movedTickets (layout : Layout) (req : Request) (brokerUp : Bool) (targetColumn : Column)
    (id : ℕ) (tickets : Tickets.Db) : Tickets.Db :=
  match statusToWrite targetColumn id tickets with
  | none => tickets
  | some status =>
    Tickets.step layout.toWorkspace tickets { op := .bulkChangeStatus id status, req, brokerUp }

section Moves

variable {layout : Layout} {req : Request} {brokerUp : Bool} {card : CardPosition}
  {targetColumn : Column} {position : ℕ} {db after : Db}

theorem Keyed.placeCard (keyed : Keyed db) (hmem : card ∈ db.cards)
    (hboard : targetColumn.board = card.column.board) (position : ℕ) :
    Keyed { db with cards := placeCard card targetColumn position db.cards } := by
  obtain ⟨edit, hcards, hedit⟩ := placeCard_map keyed.toDistinct hmem targetColumn position
  exact keyed.of_map hcards rfl (fun other hother => (hedit other hother).1)
    (placeCard_place keyed.toDistinct hmem hboard hedit)

theorem moveHome_stays {id : ℕ} {tickets : Tickets.Db} :
    StaysOnBoard (moveHome layout targetColumn id tickets) := by
  refine StaysOnBoard.homeOf fun board column hfound => ?_
  obtain ⟨status, -, hstatus⟩ := Option.bind_eq_some_iff.mp hfound
  exact (Layout.statusColumn_some hstatus).1

/-- A move that writes a status saves the ticket, and the receivers send its cards to the columns
of the status. -/
theorem moveCard_cases
    (success : moveCard layout req brokerUp card targetColumn position db = .ok after)
    (keyed : Keyed db) (hmem : card ∈ db.cards) (hboard : targetColumn.board = card.column.board) :
    moveError layout card targetColumn position db.cards = none ∧
      after.nextCard = db.nextCard ∧
        after.tickets = movedTickets layout req brokerUp targetColumn card.ticket db.tickets ∧
        after.cards = relocate (moveHome layout targetColumn card.ticket db.tickets) card.ticket
          (placeCard card targetColumn position db.cards) := by
  unfold moveCard at success
  split at success
  · cases success
  rename_i haccepted
  refine ⟨haccepted, ?_⟩
  dsimp only at success
  unfold moveHome movedTickets
  split at success
  · rename_i hnone
    rw [← Except.ok.inj success, hnone]
    exact ⟨rfl, rfl, (relocate_none fun column => homeOf_none rfl).symm⟩
  · rename_i status hwrites
    rw [← Except.ok.inj success, hwrites]
    have hmeets := (Option.filter_eq_some_iff.mp hwrites).2
    rw [Bool.and_eq_true] at hmeets
    obtain ⟨saved, inst, hsaved, only, hstatus⟩ :=
      savedBy_changeTicketStatus hmeets.2
    unfold saveTicket
    dsimp only
    rw [hsaved]
    dsimp only
    rw [TicketChange.op]
    generalize Tickets.step layout.toWorkspace db.tickets _ = tickets
    refine ⟨?_, ?_, ?_⟩
    · unfold onTicketSave
      rw [only.createKanbanCard]
    · unfold onTicketSave
      rw [only.createKanbanCard]
    · have hcards := onTicketSave_cards layout saved card.ticket inst ((keyed.placeCard hmem hboard position).setTickets tickets)
      rw [only.createKanbanCard, only.savedHome, hstatus] at hcards
      exact hcards

end Moves

variable {cardId targetColumnId creator : ℕ} {data : NewTicket}

/-! ## Events -/

section Events

variable {layout : Layout} {db : Db} {event : Event}
variable {after : Db} {req : Request} {brokerUp : Bool} {position : ℕ}

theorem step_of_error {message : String} (hfails : apply layout event db = .error message) :
    step layout db event = db := by
  unfold step
  rw [hfails]

theorem step_of_ok (success : apply layout event db = .ok after) :
    step layout db event = after := by
  unfold step
  rw [success]

theorem move_cases
    (success : move layout req brokerUp cardId targetColumnId position db = .ok after) :
    ∃ card targetColumn, validateMove layout cardId targetColumnId db = .ok (card, targetColumn) ∧
      moveCard layout req brokerUp card targetColumn position db = .ok after := by
  unfold move at success
  obtain ⟨⟨card, targetColumn⟩, hvalid, hmoved⟩ := bind_eq_ok.mp success
  exact ⟨card, targetColumn, hvalid, hmoved⟩

theorem destroy_cases {actor : Option ℕ} {boardPk : ℕ}
    (success : destroy actor boardPk cardId db = .ok after) :
    ∃ card ∈ db.cards, card.pk = cardId ∧ card.column.board.pk = boardPk ∧
      card.column.board.isAccessible actor = true ∧
        after = { db with cards := db.cards.filter fun other => other.pk ≠ card.pk } := by
  unfold destroy at success
  split at success
  · cases success
  · rename_i card hcard
    have hmeets := List.find?_some hcard
    simp only [Bool.and_eq_true, beq_iff_eq] at hmeets
    exact ⟨card, List.mem_of_find?_eq_some hcard, hmeets.1.1, hmeets.1.2, hmeets.2,
      (Except.ok.inj success).symm⟩

theorem createTicket_cases (success : createTicket layout req brokerUp creator data db = .ok after)
    :
    ∃ tickets ticket, attempt layout.toWorkspace req (.createTicket creator data) db.tickets =
        .ok tickets ∧ db.tickets.tickets data.id = none ∧
      data.assignee.any (fun assignee => !layout.isActiveMember assignee) = false ∧
      tickets.tickets data.id = some ticket ∧
      (∀ other ≠ data.id, tickets.tickets other = db.tickets.tickets other) ∧
      initialStatus layout.toWorkspace (.createTicket creator data) = some ticket.status ∧
        after = onTicketSave layout { created := true } data.id ticket
          { db with tickets := tickets.commit brokerUp } := by
  unfold createTicket at success
  obtain ⟨tickets, hattempt, success⟩ := bind_eq_ok.mp success
  obtain ⟨s, hok, rfl⟩ := map_eq_ok.mp hattempt
  have hstored : ∃ ticket, db.tickets.tickets data.id = none ∧
      data.assignee.any (fun assignee => !layout.isActiveMember assignee) = false ∧
      s.db.tickets data.id = some ticket ∧
      (∀ other ≠ data.id, s.db.tickets other = db.tickets.tickets other) ∧
      initialStatus layout.toWorkspace (.createTicket creator data) = some ticket.status := by
    unfold Tickets.createTicket at hok
    split at hok
    · cases hok
    rename_i hassignee
    split at hok
    · cases hok
    rename_i status hstatus
    obtain ⟨created, hcreated, rfl⟩ := map_eq_ok.mp hok
    obtain ⟨hfresh, rfl⟩ := create_cases hcreated
    generalize hrow : NewTicket.row _ _ _ _ = row at hcreated
    have hstart : (db.tickets.insertTicket data.id row).tickets data.id = some row :=
      Function.update_self ..
    have hkept := (initializeSla_workload layout.toWorkspace req
      (s := { db := db.tickets.insertTicket data.id row, id := data.id, ticket := row })
      ⟨row, hstart, rfl⟩).2
    rw [hstart, Option.map_some] at hkept
    obtain ⟨ticket, hticket, hload⟩ := Option.map_eq_some_iff.mp hkept
    have huntouched := (initializeSla_edits layout.toWorkspace req
      { db := db.tickets.insertTicket data.id row, id := data.id, ticket := row }).untouched
    refine ⟨ticket, hfresh, Bool.eq_false_iff.mpr hassignee, hticket, fun other hother => ?_, ?_⟩
    · exact (huntouched.others other hother).trans (Function.update_of_ne hother ..)
    have hsame : ticket.status = row.status := congrArg Prod.fst hload
    rw [hsame, ← hrow]
    exact hstatus
  obtain ⟨ticket, hfresh, hassignee, hticket, hothers, hinitial⟩ := hstored
  rw [hticket] at success
  exact ⟨s.db, ticket, hattempt, hfresh, hassignee, hticket, hothers, hinitial,
    (Except.ok.inj success).symm⟩

theorem createTicket_accepted {status : TicketStatus} (hfresh : db.tickets.tickets data.id = none)
    (hassignee : data.assignee.any (fun assignee => !layout.isActiveMember assignee) = false)
    (hinitial : initialStatus layout.toWorkspace (.createTicket creator data) = some status) :
    ∃ after, createTicket layout req brokerUp creator data db = .ok after := by
  have hcreated : ∃ tickets, attempt layout.toWorkspace req (.createTicket creator data) db.tickets =
      .ok tickets := by
    dsimp only [initialStatus] at hinitial
    dsimp only [attempt]
    unfold Tickets.createTicket
    rw [hassignee, if_neg (by decide), hinitial]
    dsimp only
    unfold Tickets.Db.create
    rw [hfresh, if_neg (by decide)]
    exact ⟨_, rfl⟩
  obtain ⟨tickets, hattempt⟩ := hcreated
  unfold createTicket
  rw [hattempt]
  dsimp only [bind, Except.bind]
  split
  · exact ⟨_, rfl⟩
  · exact ⟨_, rfl⟩

theorem move_accepted {card : CardPosition} {targetColumn : Column}
    (hvalid : validateMove layout cardId targetColumnId db = .ok (card, targetColumn))
    (haccepted : moveError layout card targetColumn position db.cards = none) :
    ∃ after, move layout req brokerUp cardId targetColumnId position db = .ok after := by
  have hmove : move layout req brokerUp cardId targetColumnId position db =
      moveCard layout req brokerUp card targetColumn position db := by
    unfold move
    rw [hvalid]
    rfl
  rw [hmove]
  unfold moveCard
  rw [haccepted]
  dsimp only
  split
  · exact ⟨_, rfl⟩
  · exact ⟨_, rfl⟩

theorem step_keyed (keyed : Keyed db) : Keyed (step layout db event) := by
  cases happly : apply layout event db with
  | error message =>
    rw [step_of_error happly]
    exact keyed
  | ok after =>
    rw [step_of_ok happly]
    unfold apply at happly
    split at happly
    · obtain ⟨column, ticket, -, -, -, habsent, -, rfl⟩ := addTicket_cases happly
      exact keyed.createCard habsent
    · obtain ⟨board, rfl⟩ := populate_cases happly
      exact populateBoardFromTickets_preserves board
        (fun db column id status ticket keyed _ _ _ habsent => keyed.createCard habsent) keyed
    · obtain ⟨card, targetColumn, hvalid, hmoved⟩ := move_cases happly
      obtain ⟨hmem, -, -, hboard⟩ := validateMove_cases hvalid
      obtain ⟨-, hnext, -, hcards⟩ := moveCard_cases hmoved keyed hmem hboard
      exact (keyed.placeCard hmem hboard _).of_map hcards hnext (fun _ _ => relocated_pk)
        fun _ _ => relocated_place moveHome_stays
    · obtain ⟨card, -, -, -, -, rfl⟩ := destroy_cases happly
      exact
        { toDistinct := keyed.toDistinct.sublist (List.filter_sublist ..)
          fresh := fun other hother => keyed.fresh other (List.mem_filter.mp hother).1 }
    · obtain ⟨tickets, ticket, -, -, -, -, -, -, rfl⟩ := createTicket_cases happly
      exact (keyed.setTickets _).onTicketSave
    · rw [← Except.ok.inj happly]
      exact keyed.saveTicket

end Events

end Kanzan.Kanban

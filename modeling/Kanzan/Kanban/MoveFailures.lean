import Kanzan.Kanban.Columns
import Kanzan.Kanban.Sync
import Kanzan.Support.Handlers

/-!
# A move that raises

`move_card` commits the positions before it turns to the status of the ticket, which goes through a
transaction of its own.  What an error leaves depends on which of the two it comes before, and what
a move leaves that comes to its end depends on where the receivers send the card.
-/

namespace Kanzan.Kanban

open Tickets Support Support.Handler

/-! ## The two transactions -/

/-- The errors that a move may meet: with the positions, when the card is read back, and with the
status. -/
structure MoveTrouble where
  reorder : Option String := none
  refresh : Option String := none
  status : Option String := none

namespace MoveTrouble

variable (trouble : MoveTrouble) (layout : Layout) (req : Request) (brokerUp : Bool)
  (card : CardPosition) (targetColumn : Column) (position : ℕ)

def reorderCards : Handler Db Unit := atomic do
  let db ← get
  match moveError layout card targetColumn position db.cards with
  | some message => throw message
  | none => modify fun db => { db with cards := placeCard card targetColumn position db.cards }
  breakOff trouble.reorder

/-- The ticket takes the status of the column, by `change_ticket_status`. -/
def syncTicketStatus : Handler Db Unit := do
  let db ← get
  match statusToWrite targetColumn card.ticket db.tickets with
  | none => pure ()
  | some status => atomic do
      modify (saveTicket layout req brokerUp card.ticket (.changeTicketStatus status))
      breakOff trouble.status

/-- `move_card`. -/
def moveCard : Handler Db Unit := do
  trouble.reorderCards layout card targetColumn position
  breakOff trouble.refresh
  trouble.syncTicketStatus layout req brokerUp card targetColumn

def early (db : Db) : Option String :=
  (moveError layout card targetColumn position db.cards).or trouble.reorder

def late (db : Db) : Option String :=
  trouble.refresh.or
    (if (statusToWrite targetColumn card.ticket db.tickets).isSome then trouble.status else none)

end MoveTrouble

/-! ## What a move is to leave -/

/-- The cards of the board are placed as told, and the ticket has the status of the column. -/
structure Carried (card : CardPosition) (targetColumn : Column) (position : ℕ) (before after : Db) :
    Prop where
  placed : ∀ row, row.column.board = targetColumn.board →
    (row ∈ after.cards ↔ row ∈ placeCard card targetColumn position before.cards)
  status : ∀ status, targetColumn.status = some status → targetColumn.board.isPersonal = false →
    (statusOf before.tickets card.ticket).isSome →
    statusOf after.tickets card.ticket = some status

/-- No card has another place, and no ticket another status. -/
structure Undone (before after : Db) : Prop where
  cards : after.cards = before.cards
  status : ∀ id, statusOf after.tickets id = statusOf before.tickets id

def AllOrNothing (card : CardPosition) (targetColumn : Column) (position : ℕ) (before : Db) :
    Except String Unit × Db → Prop
  | (.ok _, after) => Carried card targetColumn position before after
  | (.error _, after) => Undone before after

/--
Nothing goes wrong after the positions are committed, unless they are as before; and the column is
the one that the receivers find for its status.
-/
def MoveTrouble.Harmless (trouble : MoveTrouble) (layout : Layout) (card : CardPosition)
    (targetColumn : Column) (position : ℕ) (db : Db) : Prop :=
  (trouble.early layout card targetColumn position db).isSome ∨
    if (trouble.late card targetColumn db).isSome then
      card.column = targetColumn ∧ card.order = position
    else
      ∀ status, statusToWrite targetColumn card.ticket db.tickets = some status →
        layout.statusColumn targetColumn.board status = some targetColumn

variable {cards : List CardPosition} {tickets : Tickets.Db}

section Moves

variable {layout : Layout} {req : Request} {brokerUp : Bool} {trouble : MoveTrouble}
  {card : CardPosition} {targetColumn : Column} {position : ℕ} {db : Db} {message : String}

/-! ## The three ways through a move -/

theorem exec_reorderCards (layout : Layout) (trouble : MoveTrouble) (card : CardPosition)
    (targetColumn : Column) (position : ℕ) (db : Db) :
    (trouble.reorderCards layout card targetColumn position).exec db =
      match trouble.early layout card targetColumn position db with
      | some message => (.error message, db)
      | none => (.ok (), { db with cards := placeCard card targetColumn position db.cards }) := by
  unfold MoveTrouble.reorderCards MoveTrouble.early
  rw [exec_atomic, exec_bind, exec_get]
  dsimp only
  cases moveError layout card targetColumn position db.cards with
  | some message => rfl
  | none =>
    cases trouble.reorder with
    | some message => rfl
    | none => rfl

theorem exec_of_early (hearly : trouble.early layout card targetColumn position db = some message) :
    (trouble.moveCard layout req brokerUp card targetColumn position).exec db =
      (.error message, db) := by
  rw [MoveTrouble.moveCard, exec_bind, exec_reorderCards, hearly]

theorem exec_of_late (hearly : trouble.early layout card targetColumn position db = none)
    (hlate : trouble.late card targetColumn db = some message) :
    (trouble.moveCard layout req brokerUp card targetColumn position).exec db =
      (.error message, { db with cards := placeCard card targetColumn position db.cards }) := by
  rw [MoveTrouble.moveCard, exec_bind, exec_reorderCards, hearly]
  dsimp only
  unfold MoveTrouble.late at hlate
  cases hrefresh : trouble.refresh with
  | some raised =>
    rw [hrefresh, Option.some_or] at hlate
    obtain rfl := Option.some.inj hlate
    rfl
  | none =>
    rw [hrefresh, Option.none_or] at hlate
    split at hlate
    · rename_i hwrites
      obtain ⟨status, hstatus⟩ := Option.isSome_iff_exists.mp hwrites
      rw [exec_bind]
      dsimp only [breakOff, exec_pure]
      unfold MoveTrouble.syncTicketStatus
      rw [exec_bind, exec_get]
      dsimp only
      rw [hstatus]
      dsimp only
      rw [hlate, exec_atomic]
      rfl
    · cases hlate

variable (req brokerUp) in
/-- A move that meets no error is one of the endpoint. -/
theorem exec_of_quiet (hearly : trouble.early layout card targetColumn position db = none)
    (hlate : trouble.late card targetColumn db = none) :
    ∃ after, moveCard layout req brokerUp card targetColumn position db = .ok after ∧
      (trouble.moveCard layout req brokerUp card targetColumn position).exec db =
        (.ok (), after) := by
  rw [MoveTrouble.moveCard, exec_bind, exec_reorderCards, hearly]
  unfold MoveTrouble.early at hearly
  unfold MoveTrouble.late at hlate
  obtain ⟨hallowed, -⟩ := Option.or_eq_none_iff.mp hearly
  obtain ⟨hrefresh, hstatus⟩ := Option.or_eq_none_iff.mp hlate
  unfold moveCard
  rw [hallowed, hrefresh]
  dsimp only
  unfold MoveTrouble.syncTicketStatus
  cases hwrites : statusToWrite targetColumn card.ticket db.tickets with
  | none =>
    refine ⟨_, rfl, ?_⟩
    rw [exec_bind]
    dsimp only [breakOff, exec_pure]
    rw [exec_bind, exec_get]
    dsimp only
    rw [hwrites]
    rfl
  | some status =>
    rw [hwrites, Option.isSome_some, if_pos rfl] at hstatus
    refine ⟨_, rfl, ?_⟩
    rw [exec_bind]
    dsimp only [breakOff, exec_pure]
    rw [exec_bind, exec_get]
    dsimp only
    rw [hwrites]
    dsimp only
    rw [hstatus]
    rfl

/-! ## The positions after a move -/

theorem mem_updateCard {row : CardPosition} (hmem : row ∈ cards)
    (edit : CardPosition → CardPosition) : edit row ∈ updateCard row.pk edit cards :=
  List.mem_map.mpr ⟨row, hmem, if_pos rfl⟩

theorem mem_shiftOrders (hmem : card ∈ cards) (column : Column) (affected : ℕ → Bool)
    (shift : ℕ → ℕ) : ∃ order, { card with order } ∈ shiftOrders column affected shift cards := by
  rw [shiftOrders_eq]
  exact ⟨_, List.mem_map_of_mem hmem⟩

theorem mem_placeCard (hmem : card ∈ cards) (targetColumn : Column) (position : ℕ) :
    card.movedTo targetColumn position ∈ placeCard card targetColumn position cards := by
  unfold placeCard
  split
  · rename_i hcolumn
    unfold reorderWithinColumn
    dsimp only
    split
    · rename_i horder
      have hsame : card.movedTo targetColumn position = card := by
        rw [← hcolumn, ← horder, CardPosition.movedTo]
      rwa [hsame]
    · have hmoved : ∀ column affected shift, card.movedTo targetColumn position ∈
          updateCard card.pk (fun row => { row with order := position })
            (shiftOrders column affected shift cards) := by
        intro column affected shift
        obtain ⟨order, hshifted⟩ := mem_shiftOrders hmem column affected shift
        rw [← hcolumn]
        exact mem_updateCard hshifted fun row => { row with order := position }
      split
      · exact hmoved _ _ _
      · exact hmoved _ _ _
  · obtain ⟨closed, hclosed⟩ := mem_shiftOrders hmem card.column (fun order => card.order < order)
      (fun order => order - 1)
    obtain ⟨opened, hopened⟩ := mem_shiftOrders hclosed targetColumn
      (fun order => position ≤ order) (fun order => order + 1)
    exact mem_updateCard hopened fun row => { row with column := targetColumn, order := position }

theorem placeCard_eq_self_iff (distinct : Distinct cards) (hmem : card ∈ cards) :
    placeCard card targetColumn position cards = cards ↔
      card.column = targetColumn ∧ card.order = position := by
  constructor
  · intro hsame
    have hmoved := mem_placeCard hmem targetColumn position
    rw [hsame] at hmoved
    have hcard : card.movedTo targetColumn position = card := distinct.ext hmoved hmem rfl
    exact ⟨(congrArg CardPosition.column hcard).symm, (congrArg CardPosition.order hcard).symm⟩
  · rintro ⟨hcolumn, horder⟩
    rw [placeCard, if_pos hcolumn, reorderWithinColumn, if_pos horder]

/-- The receivers leave the board of a card alone when they do not send the card elsewhere. -/
theorem relocate_onBoard_iff (find : Board → Option Column) (distinct : Distinct cards)
    (stays : StaysOnBoard (homeOf find)) (hmem : card ∈ cards) :
    (∀ row, row.column.board = card.column.board →
      (row ∈ relocate (homeOf find) card.ticket cards ↔ row ∈ cards)) ↔
      homeOf find card.column = none := by
  constructor
  · intro hall
    obtain ⟨before, hbefore, hcard⟩ := List.mem_map.mp ((hall card rfl).mpr hmem)
    have hpk : before.pk = card.pk := relocated_pk.symm.trans (congrArg CardPosition.pk hcard)
    obtain rfl := distinct.ext hbefore hmem hpk
    cases hhome : homeOf find before.column with
    | none => rfl
    | some column =>
      rw [relocated_of_some rfl hhome] at hcard
      have hcolumn : column = before.column := congrArg CardPosition.column hcard
      have hne := (Option.filter_eq_some_iff.mp hhome).2
      exact absurd hcolumn (of_decide_eq_true hne)
  · intro hnone
    have hsame : ∀ row ∈ cards, row.column.board = card.column.board →
        relocated (homeOf find) card.ticket cards row = row := by
      intro row hrow hboard
      by_cases hticket : row.ticket = card.ticket
      · rw [distinct.ext_place hrow hmem hticket hboard]
        exact relocated_of_none hnone
      · exact relocated_of_ne hticket
    intro row hboard
    constructor
    · intro hrow
      obtain ⟨before, hbefore, rfl⟩ := List.mem_map.mp hrow
      rw [relocated_board stays] at hboard
      rwa [hsame before hbefore hboard]
    · intro hrow
      exact List.mem_map.mpr ⟨row, hrow, hsame row hrow hboard⟩

theorem moveHome_eq_none_iff (htarget : targetColumn ∈ layout.columns) {id : ℕ} :
    moveHome layout targetColumn id tickets targetColumn = none ↔
      ∀ status, statusToWrite targetColumn id tickets = some status →
        layout.statusColumn targetColumn.board status = some targetColumn := by
  unfold moveHome homeOf
  dsimp only
  cases hwrites : statusToWrite targetColumn id tickets with
  | none =>
    rw [Option.bind_none, Option.filter_none]
    exact iff_of_true rfl fun _ hother => absurd hother (Option.some_ne_none _).symm
  | some status =>
    obtain ⟨column, hcolumn⟩ := Option.isSome_iff_exists.mp
      (Layout.statusColumn_isSome htarget (status_of_statusToWrite hwrites))
    rw [Option.bind_some, hcolumn, Option.filter_some]
    constructor
    · intro hnone other hother
      obtain rfl := Option.some.inj hother
      rw [hcolumn]
      by_contra hne
      have hother : column ≠ targetColumn := fun h => hne (congrArg some h)
      rw [if_pos (decide_eq_true hother)] at hnone
      cases hnone
    · intro hall
      have hsame := hall status rfl
      rw [hcolumn, Option.some.injEq] at hsame
      rw [if_neg]
      simpa using hsame

theorem statusOf_of_statusToWrite_none {id : ℕ}
    (hnone : statusToWrite targetColumn id tickets = none) {status : TicketStatus}
    (hmapped : targetColumn.status = some status) (hshared : targetColumn.board.isPersonal = false)
    (hstored : (statusOf tickets id).isSome) : statusOf tickets id = some status := by
  obtain ⟨current, hcurrent⟩ := Option.isSome_iff_exists.mp hstored
  obtain ⟨ticket, hrow, rfl⟩ := Option.map_eq_some_iff.mp hcurrent
  unfold statusToWrite at hnone
  rw [hmapped, hrow, hshared] at hnone
  rw [hcurrent]
  by_contra hne
  have hother : ticket.status ≠ status := fun h => hne (congrArg some h)
  simp [hother] at hnone

/-- A move that returns is carried through when the receivers leave the card where it was put. -/
theorem carried_iff (keyed : Keyed db) (hmem : card ∈ db.cards)
    (htarget : targetColumn ∈ layout.columns) (hboard : targetColumn.board = card.column.board)
    {after : Db} (success : moveCard layout req brokerUp card targetColumn position db = .ok after) :
    Carried card targetColumn position db after ↔
      ∀ status, statusToWrite targetColumn card.ticket db.tickets = some status →
        layout.statusColumn targetColumn.board status = some targetColumn := by
  obtain ⟨-, -, htickets, hcards⟩ := moveCard_cases success keyed hmem hboard
  have hplaced := relocate_onBoard_iff
    (fun board =>
      (statusToWrite targetColumn card.ticket db.tickets).bind (layout.statusColumn board))
    (keyed.toDistinct.placeCard hmem hboard position) moveHome_stays (mem_placeCard hmem targetColumn position)
  rw [← moveHome_eq_none_iff htarget]
  constructor
  · intro carried
    refine hplaced.mp fun row hrow => ?_
    have hiff := carried.placed row hrow
    rwa [hcards] at hiff
  · intro hnone
    refine ⟨fun row hrow => ?_, fun status hmapped hshared hstored => ?_⟩
    · rw [hcards]
      exact hplaced.mpr hnone row hrow
    · rw [htickets, movedTickets_statusOf]
      cases hwrites : statusToWrite targetColumn card.ticket db.tickets with
      | none => exact statusOf_of_statusToWrite_none hwrites hmapped hshared hstored
      | some written =>
        have hwritten := status_of_statusToWrite hwrites
        rw [hmapped] at hwritten
        rw [Option.some.inj hwritten]
        exact if_pos rfl

theorem undone_placed_iff (keyed : Keyed db) (hmem : card ∈ db.cards) :
    Undone db { db with cards := placeCard card targetColumn position db.cards } ↔
      card.column = targetColumn ∧ card.order = position := by
  rw [← placeCard_eq_self_iff keyed.toDistinct hmem]
  constructor
  · intro undone
    exact undone.cards
  · intro hsame
    exact ⟨hsame, fun _ => rfl⟩

end Moves

/-- A column for tickets in any status. -/
def intakeColumn : Column where
  pk := 2
  board := { pk := 0 }
  name := "Intake"
  order := 0

/-- A board with a column for all tickets and one for the closed ones. -/
def Layout.desk : Layout :=
  { Workspace.seeded with boards := [{ pk := 0 }], columns := [intakeColumn, closedColumn] }

def intakeCard : CardPosition := { pk := 0, column := intakeColumn, ticket := 0, order := 0 }

/-- An open ticket with its card. -/
def intakeDb : Db where
  tickets :=
    { tickets := fun id =>
        if id = 0 then
          some
            { status := { pk := 0, name := "Open", slug := "open", order := 10, isDefault := true }
              createdBy := 1
              createdAt := 0
              updatedAt := 0 }
        else none }
  cards := [intakeCard]
  nextCard := 1

theorem keyed_intakeDb : Keyed intakeDb where
  pk := List.nodup_singleton _
  place := List.nodup_singleton _
  fresh := by decide

/-- A webhook for closed tickets cannot be handed to the broker. -/
def closedWebhookFails : MoveTrouble := { status := some "Error connecting to the broker." }

end Kanzan.Kanban

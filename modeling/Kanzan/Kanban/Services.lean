import Mathlib.Data.List.Dedup
import Kanzan.Kanban.Rows

/-!
# Placing cards

What the endpoints and the services do to the cards of a board: adding, populating, moving and
deleting.  The reaction of a ticket to a move comes with the receivers.
-/

namespace Kanzan.Kanban

open Tickets

/-! ## Creation -/

/-- Whether a column has reached its limit; a limit of zero is none. -/
def Column.isFull (column : Column) (cards : List CardPosition) : Bool :=
  column.wipLimit.any fun limit => limit ≠ 0 && limit ≤ countCards column cards

def Column.wipError (column : Column) : String :=
  s!"Column '{column.name}' has reached its WIP limit of {column.wipLimit.getD 0}."

/-- `CardPositionViewSet.add_ticket`, with the ids of the request. -/
def addTicket (layout : Layout) (actor : Option ℕ) (boardPk columnId ticketId : ℕ) (db : Db) :
    Except String Db :=
  match layout.columns.find? (fun column => column.board.pk == boardPk && column.pk == columnId) with
  | none => .error "Column not found on this board."
  | some column =>
    if column.board.isPersonal && column.board.createdBy ≠ actor then .error "Board not found."
    else if !(db.tickets.tickets ticketId).any (fun ticket => !ticket.isDeleted) then
      .error "Ticket not found."
    else if isOnBoard column.board ticketId db.cards then
      .error "Ticket is already on this board."
    else if column.isFull db.cards then .error column.wipError
    else .ok (db.createCard column ticketId (countCards column db.cards))

def createCards (column : Column) : List ℕ → ℕ → Db → Db
  | [], _, db => db
  | ticket :: rest, order, db =>
    createCards column rest (order + 1) (db.createCard column ticket order)

/-- The tickets in a status that are not on the board, latest first.  A query lists each row
once. -/
def ticketsToPlace (board : Board) (status : TicketStatus) (db : Db) : List ℕ :=
  let createdAt := fun id => (db.tickets.tickets id).map Ticket.createdAt
  (db.tickets.ticketIds.dedup.filter fun id =>
    (db.tickets.tickets id).any (fun ticket => !ticket.isDeleted && ticket.status == status) &&
      !isOnBoard board id db.cards).insertionSort fun a b =>
        (createdAt b).getD 0 ≤ (createdAt a).getD 0

def populateColumn (db : Db) (column : Column) : Db :=
  match column.status with
  | none => db
  | some status =>
    createCards column (ticketsToPlace column.board status db) (countCards column db.cards) db

/-- `populate_board_from_tickets`. -/
def populateBoardFromTickets (layout : Layout) (board : Board) (db : Db) : Db :=
  ((layout.columns.filter fun column => column.board == board && column.status.isSome).insertionSort
    fun a b => a.order ≤ b.order).foldl populateColumn db

def Board.isAccessible (board : Board) (user : Option ℕ) : Bool :=
  !board.isPersonal || board.createdBy == user

/-- `BoardViewSet.populate`. -/
def populate (layout : Layout) (actor : Option ℕ) (boardPk : ℕ) (db : Db) : Except String Db :=
  match layout.boards.find? (fun board => board.pk == boardPk && board.isAccessible actor) with
  | none => .error "No Board matches the given query."
  | some board => .ok (populateBoardFromTickets layout board db)

/-! ## Deletion -/

/-- `CardPositionViewSet.destroy`; the cards behind stay where they are. -/
def destroy (actor : Option ℕ) (boardPk cardId : ℕ) (db : Db) : Except String Db :=
  match db.cards.find? (fun card => card.pk == cardId && card.column.board.pk == boardPk &&
      card.column.board.isAccessible actor) with
  | none => .error "No CardPosition matches the given query."
  | some card => .ok { db with cards := db.cards.filter fun other => other.pk ≠ card.pk }

/-! ## Moves -/

/-- `_reorder_within_column`. -/
def reorderWithinColumn (card : CardPosition) (newPosition : ℕ) (cards : List CardPosition) :
    List CardPosition :=
  let oldPosition := card.order
  if oldPosition = newPosition then cards
  else
    let shifted :=
      if newPosition < oldPosition then
        shiftOrders card.column (fun order => newPosition ≤ order && order < oldPosition)
          (fun order => order + 1) cards
      else
        shiftOrders card.column (fun order => oldPosition < order && order ≤ newPosition)
          (fun order => order - 1) cards
    updateCard card.pk (fun row => { row with order := newPosition }) shifted

/-- `_move_across_columns`. -/
def moveAcrossColumns (card : CardPosition) (targetColumn : Column) (position : ℕ)
    (cards : List CardPosition) : List CardPosition :=
  let oldPosition := card.order
  let closed := shiftOrders card.column (fun order => oldPosition < order) (fun order => order - 1)
    cards
  let opened := shiftOrders targetColumn (fun order => position ≤ order) (fun order => order + 1)
    closed
  updateCard card.pk (fun row => { row with column := targetColumn, order := position }) opened

def placeCard (card : CardPosition) (targetColumn : Column) (position : ℕ)
    (cards : List CardPosition) : List CardPosition :=
  if card.column = targetColumn then reorderWithinColumn card position cards
  else moveAcrossColumns card targetColumn position cards

/-- Why a move is refused: the limit of the column, or an order that the database cannot store. -/
def moveError (layout : Layout) (card : CardPosition) (targetColumn : Column) (position : ℕ)
    (cards : List CardPosition) : Option String :=
  if card.column ≠ targetColumn && targetColumn.isFull cards then some targetColumn.wipError
  else if (placeCard card targetColumn position cards).any fun card => layout.maxOrder < card.order
    then some "integer out of range"
  else none

/-- `CardMoveSerializer`: the card and the column asked for, both on one board. -/
def validateMove (layout : Layout) (cardId targetColumnId : ℕ) (db : Db) :
    Except String (CardPosition × Column) :=
  match db.cards.find? (fun card => card.pk == cardId) with
  | none => .error "Card position not found."
  | some card =>
    match layout.columns.find? (fun column => column.pk == targetColumnId) with
    | none => .error "Target column not found."
    | some targetColumn =>
      if card.column.board ≠ targetColumn.board then
        .error "Cannot move a card to a column on a different board."
      else .ok (card, targetColumn)

variable {card : CardPosition} {actor : Option ℕ} {boardPk columnId : ℕ} {cards : List CardPosition}
variable {targetColumn : Column}

/-! ## Laws -/

section Laws

variable {layout : Layout} {db : Db} {P : Db → Prop} {board : Board} {column : Column}
  {status : TicketStatus} {id : ℕ}

theorem ticketsToPlace_nodup (board : Board) (status : TicketStatus) (db : Db) :
    (ticketsToPlace board status db).Nodup :=
  (List.perm_insertionSort _ _).nodup_iff.mpr ((List.nodup_dedup _).filter _)

theorem mem_ticketsToPlace (hmem : id ∈ ticketsToPlace board status db) :
    (∃ ticket, db.tickets.tickets id = some ticket ∧ ticket.status = status) ∧
      isOnBoard board id db.cards = false := by
  unfold ticketsToPlace at hmem
  rw [List.mem_insertionSort, List.mem_filter, Bool.and_eq_true, Bool.not_eq_true'] at hmem
  obtain ⟨-, hticket, habsent⟩ := hmem
  obtain ⟨ticket, hrow, hmeets⟩ := (Option.any_eq_true _ _).mp hticket
  rw [Bool.and_eq_true, beq_iff_eq] at hmeets
  exact ⟨⟨ticket, hrow, hmeets.2⟩, habsent⟩

theorem createCards_preserves {ids : List ℕ} (hnodup : ids.Nodup)
    (hcreate : ∀ db, ∀ id ∈ ids, P db → isOnBoard column.board id db.cards = false →
      P (db.createCard column id (countCards column db.cards)))
    {order : ℕ} (horder : order = countCards column db.cards)
    (habsent : ∀ id ∈ ids, isOnBoard column.board id db.cards = false) (holds : P db) :
    P (createCards column ids order db) := by
  induction ids generalizing db order with
  | nil => exact holds
  | cons id rest ih =>
    obtain ⟨hnotMem, hrest⟩ := List.nodup_cons.mp hnodup
    subst horder
    refine ih hrest (fun db other hother => hcreate db other (List.mem_cons_of_mem _ hother)) ?_
      (fun other hother => ?_) (hcreate db id List.mem_cons_self holds (habsent id List.mem_cons_self))
    · unfold countCards Db.createCard
      simp
    · have hne : id ≠ other := fun heq => hnotMem (heq ▸ hother)
      have hother := habsent other (List.mem_cons_of_mem _ hother)
      unfold isOnBoard Db.createCard at *
      simp [hother, hne]

/-- What the creation of cards in the columns of their statuses keeps, populating a board keeps. -/
theorem populateBoardFromTickets_preserves (board : Board)
    (hcreate : ∀ db (column : Column) id status ticket, P db → column.status = some status →
      db.tickets.tickets id = some ticket → ticket.status = status →
        isOnBoard column.board id db.cards = false →
          P (db.createCard column id (countCards column db.cards)))
    (holds : P db) : P (populateBoardFromTickets layout board db) := by
  refine List.foldlRecOn _ _ holds fun before hbefore column _ => ?_
  unfold populateColumn
  cases hstatus : column.status with
  | none => exact hbefore
  | some status =>
    have hplaced := createCards_preserves
      (P := fun db => P db ∧ db.tickets = before.tickets)
      (ticketsToPlace_nodup column.board status before) (fun db id hmem holds habsent => ?_) rfl
      (fun id hmem => (mem_ticketsToPlace hmem).2) ⟨hbefore, rfl⟩
    · exact hplaced.1
    · obtain ⟨⟨ticket, hrow, hticket⟩, -⟩ := mem_ticketsToPlace hmem
      rw [← holds.2] at hrow
      exact ⟨hcreate db column id status ticket holds.1 hstatus hrow hticket habsent, holds.2⟩

theorem addTicket_cases {after : Db}
    (success : addTicket layout actor boardPk columnId id db = .ok after) :
    ∃ column ticket, layout.columns.find?
        (fun column => column.board.pk == boardPk && column.pk == columnId) = some column ∧
      db.tickets.tickets id = some ticket ∧ ticket.isDeleted = false ∧
        isOnBoard column.board id db.cards = false ∧ column.isFull db.cards = false ∧
          after = db.createCard column id (countCards column db.cards) := by
  unfold addTicket at success
  split at success
  · cases success
  rename_i column hcolumn
  split at success
  · cases success
  split at success
  · cases success
  rename_i hticket
  split at success
  · cases success
  rename_i habsent
  split at success
  · cases success
  rename_i hroom
  rw [Bool.not_eq_true', Bool.not_eq_false] at hticket
  obtain ⟨ticket, hrow, hlive⟩ := (Option.any_eq_true _ _).mp hticket
  exact ⟨column, ticket, hcolumn, hrow, by simpa using hlive, Bool.eq_false_iff.mpr habsent,
    Bool.eq_false_iff.mpr hroom, (Except.ok.inj success).symm⟩

theorem addTicket_accepted {ticket : Ticket} (hcolumn : layout.columns.find?
      (fun column => column.board.pk == boardPk && column.pk == columnId) = some column)
    (hrow : db.tickets.tickets id = some ticket) (hlive : ticket.isDeleted = false)
    (habsent : isOnBoard column.board id db.cards = false) (hroom : column.isFull db.cards = false)
    (hshown : column.board.isPersonal = false) :
    ∃ after, addTicket layout actor boardPk columnId id db = .ok after := by
  unfold addTicket
  rw [hcolumn]
  dsimp only
  rw [hrow, hshown, habsent, hroom, Option.any_some, hlive]
  exact ⟨_, rfl⟩

theorem populate_cases {after : Db} (success : populate layout actor boardPk db = .ok after) :
    ∃ board, after = populateBoardFromTickets layout board db := by
  unfold populate at success
  split at success
  · cases success
  · rename_i board _
    exact ⟨board, (Except.ok.inj success).symm⟩

theorem placeCard_map (distinct : Distinct cards) (hmem : card ∈ cards) (targetColumn : Column)
    (position : ℕ) :
    ∃ edit, placeCard card targetColumn position cards = cards.map edit ∧
      ∀ other ∈ cards, (edit other).pk = other.pk ∧ (edit other).ticket = other.ticket ∧
        (edit other).column = if other.pk = card.pk then targetColumn else other.column := by
  unfold placeCard
  split
  · rename_i hsame
    have hcolumn : ∀ other ∈ cards,
        other.column = if other.pk = card.pk then targetColumn else other.column := by
      intro other hother
      split
      · rename_i hpk
        rw [distinct.ext hother hmem hpk, hsame]
      · rfl
    unfold reorderWithinColumn
    dsimp only
    split
    · exact ⟨id, cards.map_id.symm, fun other hother => ⟨rfl, rfl, hcolumn other hother⟩⟩
    split
    all_goals
      unfold updateCard shiftOrders
      refine ⟨_, List.map_map, fun other hother => ?_⟩
      rw [Function.comp_apply, ← hcolumn other hother]
      refine ⟨?_, ?_, ?_⟩ <;> split_ifs <;> rfl
  · unfold moveAcrossColumns updateCard shiftOrders
    dsimp only
    rw [List.map_map]
    refine ⟨_, List.map_map, fun other _ => ?_⟩
    rw [Function.comp_apply, Function.comp_apply]
    by_cases hpk : other.pk = card.pk
    · rw [if_pos hpk]
      refine ⟨?_, ?_, ?_⟩ <;> split_ifs <;> rfl
    · rw [if_neg hpk]
      refine ⟨?_, ?_, ?_⟩ <;> split_ifs <;> rfl

theorem placeCard_place {edit : CardPosition → CardPosition} (distinct : Distinct cards)
    (hmem : card ∈ cards) (hboard : targetColumn.board = card.column.board)
    (hedit : ∀ other ∈ cards, (edit other).pk = other.pk ∧ (edit other).ticket = other.ticket ∧
      (edit other).column = if other.pk = card.pk then targetColumn else other.column) :
    ∀ other ∈ cards, (edit other).place = other.place := by
  intro other hother
  obtain ⟨-, hticket, hcolumn⟩ := hedit other hother
  refine Prod.ext hticket ?_
  dsimp only [CardPosition.place]
  rw [hcolumn]
  split
  · rename_i hpk
    rw [distinct.ext hother hmem hpk, hboard]
  · rfl

theorem Distinct.placeCard (distinct : Distinct cards) (hmem : card ∈ cards)
    (hboard : targetColumn.board = card.column.board) (position : ℕ) :
    Distinct (placeCard card targetColumn position cards) := by
  obtain ⟨edit, hcards, hedit⟩ := placeCard_map distinct hmem targetColumn position
  rw [hcards]
  exact distinct.map (fun other hother => (hedit other hother).1)
    (placeCard_place distinct hmem hboard hedit)

end Laws

theorem validateMove_cases {layout : Layout} {cardId targetColumnId : ℕ} {db : Db}
    (valid : validateMove layout cardId targetColumnId db = .ok (card, targetColumn)) :
    card ∈ db.cards ∧ card.pk = cardId ∧ targetColumn ∈ layout.columns ∧
      targetColumn.board = card.column.board := by
  unfold validateMove at valid
  split at valid
  · cases valid
  rename_i found hcard
  split at valid
  · cases valid
  rename_i column hcolumn
  split at valid
  · cases valid
  rename_i hboard
  obtain ⟨rfl, rfl⟩ := Prod.mk.inj (Except.ok.inj valid)
  exact ⟨List.mem_of_find?_eq_some hcard, eq_of_beq (List.find?_some hcard :),
    List.mem_of_find?_eq_some hcolumn, (not_not.mp hboard).symm⟩

end Kanzan.Kanban

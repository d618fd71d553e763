import Kanzan.Kanban.Interleaving

/-!
# Interleavings with every way to create a card

Besides the requests of the interleavings before: cards created by their endpoint, by a new
column, by populating a board and by the receiver of a saved ticket.  Columns come on the way.
A statement that reads is a turn of its own, and what a transaction has inserted is seen by
others once it is committed.
-/

namespace Kanzan.Kanban

open Support Tickets

/-! ## State -/

/-- The columns of all boards, the key that the next one is given, and the rest of the store. -/
structure Floor where
  columns : List Column
  nextColumn : ℕ
  db : Db

def Floor.layout (base : Layout) (floor : Floor) : Layout := { base with columns := floor.columns }

/-- A card to insert. -/
structure Insert where
  column : Column
  ticket : ℕ
  order : ℕ
  deriving DecidableEq, Repr

def Insert.place (insert : Insert) : ℕ × Board := (insert.ticket, insert.column.board)

def Db.insertAll (db : Db) (inserts : List Insert) : Db :=
  inserts.foldl (fun db insert => db.createCard insert.column insert.ticket insert.order) db

/-- The save of a ticket, with what the receivers are told of it. -/
structure Save where
  id : ℕ
  op : Tickets.Op
  saved : Saved
  inst : Ticket

/-- What a request has read and not yet acted on. -/
inductive Task where
  | errand (errand : Errand)
  /-- The serializer has found no card of the object in the column. -/
  | creating (insert : Insert)
  /-- The column is created. -/
  | listing (column : Column) (status : TicketStatus)
  /-- The tickets with a card on the board are listed. -/
  | matching (column : Column) (status : TicketStatus) (existing : List ℕ)
  /-- The tickets for the column are found; each insertion is committed at once. -/
  | filling (column : Column) (ticketIds : List ℕ) (order : ℕ)
  /-- The transaction that populates a board: columns to come, and what it has inserted. -/
  | populating (columns : List Column) (pending : List Insert)
  /-- The receiver of a saved ticket has looked for its card on the default board. -/
  | checked (save : Save) (creation : Option Column)
  /-- The next receiver has listed the cards of the ticket. -/
  | listed (save : Save) (creation : Option Column) (cards : List CardPosition)

def Task.idle : Task := .errand .idle

/-- The requests, and the next turn of one. -/
inductive Demand where
  | addTicket (actor : Option ℕ) (boardPk columnId ticketId : ℕ)
  | move (cardId targetColumnId position : ℕ)
  | changeTicketStatus (id : ℕ) (newStatus : TicketStatus)
  | createCard (columnId ticketId order : ℕ)
  | createColumn (actor : Option ℕ) (boardPk : ℕ) (name : String) (order : ℕ)
      (status : Option TicketStatus) (wipLimit : Option ℕ)
  | populate (actor : Option ℕ) (boardPk : ℕ)
  | saveTicket (req : Request) (id : ℕ) (change : TicketChange)
  | createTicket (req : Request) (creator : ℕ) (data : NewTicket)
  /-- The process goes on with its request. -/
  | proceed (req : Request) (brokerUp : Bool)

/-! ## Turns -/

section Turns

variable (base : Layout)

def ticketsApart (existing : List ℕ) (status : TicketStatus) (db : Db) : List ℕ :=
  let createdAt := fun id => (db.tickets.tickets id).map Ticket.createdAt
  (db.tickets.ticketIds.dedup.filter fun id =>
    (db.tickets.tickets id).any (fun ticket => !ticket.isDeleted && ticket.status == status) &&
      id ∉ existing).insertionSort fun a b => (createdAt b).getD 0 ≤ (createdAt a).getD 0

def ticketsOn (board : Board) (cards : List CardPosition) : List ℕ :=
  (cards.filter fun card => card.column.board == board).map CardPosition.ticket

def insertsInto (column : Column) (ticketIds : List ℕ) (order : ℕ) : List Insert :=
  ticketIds.mapIdx fun index ticket => { column, ticket, order := order + index }

/-- What a populating transaction inserts into one column: its query sees the stored cards, and
those that it has inserted itself. -/
def populateInserts (column : Column) (pending : List Insert) (db : Db) : List Insert :=
  match column.status with
  | none => []
  | some status =>
    let existing := ticketsOn column.board db.cards ++
      (pending.filter fun insert => insert.column.board == column.board).map Insert.ticket
    insertsInto column (ticketsApart existing status db) (countCards column db.cards)

def Task.inserts (db : Db) : Task → List Insert
  | .errand (.adding column ticketId) =>
    [{ column, ticket := ticketId, order := countCards column db.cards }]
  | .creating insert => [insert]
  | .filling column (ticketId :: _) order => [{ column, ticket := ticketId, order }]
  | .populating [] pending => pending
  | .listed save (some column) _ =>
    [{ column, ticket := save.id, order := countCards column db.cards }]
  | _ => []

def Save.byStatus (save : Save) : Bool :=
  !save.saved.created && .status ∈ save.saved.updateFields

def Save.stage (save : Save) : Option PipelineStage :=
  if save.saved.created || !save.saved.pipelineStageChanged then none else save.inst.pipelineStage

def Save.home (layout : Layout) (save : Save) (board : Board) : Option Column :=
  layout.statusColumn board save.inst.status

/-- The cards after the loop of the receiver for statuses.  A card that has been created for the
ticket is in the column that the loop would send it to. -/
def Save.syncStatus (layout : Layout) (save : Save) (listed cards : List CardPosition) :
    List CardPosition :=
  if save.byStatus then listed.foldl (syncCard (save.home layout)) cards else cards

def Save.relisted (save : Save) (listed cards : List CardPosition) : List CardPosition :=
  if save.byStatus then
    listed.filterMap fun card => cards.find? fun row => row.pk == card.pk
  else listed

/-- What the loops of the receivers make of the cards, from the listed ones. -/
def Save.syncCards (layout : Layout) (save : Save) (listed cards : List CardPosition) :
    List CardPosition :=
  let cards := save.syncStatus layout listed cards
  match save.stage with
  | none => cards
  | some stage =>
    (save.relisted listed cards).foldl (syncCard fun board => layout.namedColumn board stage.name)
      cards

/-- The moves within the cards that a transaction makes after its inserts. -/
def Task.moves (layout : Layout) (task : Task) (cards : List CardPosition) :
    List CardPosition :=
  match task with
  | .errand (.placing card targetColumn position) => placeCard card targetColumn position cards
  | .errand (.syncing _ newStatus snapshot) =>
    snapshot.foldl (syncCard fun board => layout.statusColumn board newStatus) cards
  | .listed save _ snapshot => save.syncCards layout snapshot cards
  | _ => cards

def loopTrail (find : Board → Option Column) (listed cards : List CardPosition) :
    List (List CardPosition) :=
  listed.inits.map fun done => done.foldl (syncCard find) cards

/-- The cards after each turn of the loops that a transaction goes through. -/
def Task.trail (layout : Layout) (task : Task) (cards : List CardPosition) :
    List (List CardPosition) :=
  match task with
  | .errand (.syncing _ newStatus snapshot) =>
    loopTrail (fun board => layout.statusColumn board newStatus) snapshot cards
  | .listed save _ snapshot =>
    let synced := save.syncStatus layout snapshot cards
    (if save.byStatus then loopTrail (save.home layout) snapshot cards else []) ++
      match save.stage with
      | none => []
      | some stage =>
        loopTrail (fun board => layout.namedColumn board stage.name)
          (save.relisted snapshot synced) synced
  | _ => []

def Task.op : Task → Option Tickets.Op
  | .errand (.syncing id newStatus _) => some (.bulkChangeStatus id newStatus)
  | .listed save _ _ => some save.op
  | _ => none

def Task.inserted (task : Task) (db : Db) : Db := db.insertAll (task.inserts db)

def Task.written (layout : Layout) (req : Request) (brokerUp : Bool) (db : Db) (task : Task) : Db :=
  let inserted := task.inserted db
  { inserted with
    cards := task.moves layout inserted.cards
    tickets :=
      match task.op with
      | none => db.tickets
      | some op => Tickets.step layout.toWorkspace db.tickets { op, req, brokerUp } }

/-- The cards after the statements of a transaction: its inserts, and then its moves. -/
def Task.stages (layout : Layout) (db : Db) (task : Task) : List (List CardPosition) :=
  let cards := (task.inserted db).cards
  cards :: task.moves layout cards :: task.trail layout cards

def Task.writes : Task → Bool
  | .errand begun => begun.writes
  | .creating _ | .filling _ (_ :: _) _ | .populating [] _ | .listed _ _ _ => true
  | _ => false

def Task.commit (req : Request) (brokerUp : Bool) (floor : Floor) (task next : Task) :
    Floor × Task :=
  let layout := floor.layout base
  if ∀ cards ∈ task.stages layout floor.db, Storable base cards then
    ({ floor with db := task.written layout req brokerUp floor.db }, next)
  else (floor, .idle)

def Task.proceed (req : Request) (brokerUp : Bool) (floor : Floor) (task : Task) :
    Floor × Task :=
  let db := floor.db
  let commit := task.commit base req brokerUp floor
  match task with
  | .errand begun =>
    match begun with
    | .idle => (floor, .idle)
    | .adding _ _ => commit .idle
    | .moving card targetColumn position =>
      if card.column ≠ targetColumn && targetColumn.isFull db.cards then (floor, .idle)
      else (floor, .errand (.placing card targetColumn position))
    | .placing card targetColumn _ => commit (.errand (.moved card targetColumn))
    | .moved card targetColumn =>
      match statusToWrite targetColumn card.ticket db.tickets with
      | none => (floor, .idle)
      | some status => (floor, .errand (beginStatusChange card.ticket status db))
    | .syncing _ _ _ => commit .idle
  | .creating _ => commit .idle
  | .listing column status =>
    (floor, .matching column status (ticketsOn column.board db.cards))
  | .matching column status existing =>
    (floor, .filling column (ticketsApart existing status db) (countCards column db.cards))
  | .filling _ [] _ => (floor, .idle)
  | .filling column (_ :: rest) order => commit (.filling column rest (order + 1))
  | .populating (column :: rest) pending =>
    (floor, .populating rest (pending ++ populateInserts column pending db))
  | .populating [] _ => commit .idle
  | .checked save creation => (floor, .listed save creation (cardsOf save.id db.cards))
  | .listed _ _ _ => commit .idle

/-- `CardPositionSerializer`, for the card of a ticket. -/
def validateCard (layout : Layout) (columnId ticketId order : ℕ) (db : Db) : Option Insert :=
  match layout.columns.find? (fun column => column.pk == columnId) with
  | none => none
  | some column =>
    if db.cards.any fun card => card.column == column && card.ticket == ticketId then none
    else some { column, ticket := ticketId, order }

/-- `ColumnViewSet.perform_create`, up to the insertion of the column. -/
def insertColumn (floor : Floor) (actor : Option ℕ) (boardPk : ℕ) (name : String) (order : ℕ)
    (status : Option TicketStatus) (wipLimit : Option ℕ) : Floor × Task :=
  match base.boards.find? (fun board => board.pk == boardPk) with
  | none => (floor, .idle)
  | some board =>
    if board.isPersonal && board.createdBy ≠ actor then (floor, .idle)
    else if floor.columns.any fun column => column.board == board && column.order == order then
      (floor, .idle)
    else
      let status := if board.isPersonal then none else status
      let column : Column := { pk := floor.nextColumn, board, name, order, status, wipLimit }
      ({ floor with columns := floor.columns ++ [column], nextColumn := floor.nextColumn + 1 },
        match status with
        | none => .idle
        | some status =>
          if board.resourceType = .ticket then .listing column status else .idle)

/-- The first receiver of a saved ticket, up to the insertion of the card. -/
def checkCard (layout : Layout) (save : Save) (db : Db) : Task :=
  if !save.saved.created && !save.saved.assigneeChanged &&
      .assignee ∉ save.saved.updateFields then .checked save none
  else .checked save (newCardColumn layout save.id save.inst.status db.cards)

def work (floor : Floor) (task : Task) : Demand → Floor × Task
  | .addTicket actor boardPk columnId ticketId =>
    match validateAdd (floor.layout base) actor boardPk columnId ticketId floor.db with
    | .error _ => (floor, .idle)
    | .ok column => (floor, .errand (.adding column ticketId))
  | .move cardId targetColumnId position =>
    match validateMove (floor.layout base) cardId targetColumnId floor.db with
    | .error _ => (floor, .idle)
    | .ok (card, targetColumn) => (floor, .errand (.moving card targetColumn position))
  | .changeTicketStatus id newStatus => (floor, .errand (beginStatusChange id newStatus floor.db))
  | .createCard columnId ticketId order =>
    match validateCard (floor.layout base) columnId ticketId order floor.db with
    | none => (floor, .idle)
    | some insert => (floor, .creating insert)
  | .createColumn actor boardPk name order status wipLimit =>
    insertColumn base floor actor boardPk name order status wipLimit
  | .populate actor boardPk =>
    match base.boards.find? (fun board => board.pk == boardPk && board.isAccessible actor) with
    | none => (floor, .idle)
    | some board =>
      (floor, .populating ((floor.columns.filter fun column =>
        column.board == board && column.status.isSome).insertionSort
          fun a b => a.order ≤ b.order) [])
  | .saveTicket req id change =>
    match savedBy (floor.layout base) req id change floor.db.tickets with
    | none => (floor, .idle)
    | some (saved, inst) =>
      (floor, checkCard (floor.layout base) ⟨id, change.op id, saved, inst⟩ floor.db)
  | .createTicket req creator data =>
    match attempt base.toWorkspace req (.createTicket creator data) floor.db.tickets with
    | .error _ => (floor, .idle)
    | .ok tickets =>
      match tickets.tickets data.id with
      | none => (floor, .idle)
      | some inst =>
        (floor, checkCard (floor.layout base)
          ⟨data.id, .createTicket creator data, { created := true }, inst⟩ floor.db)
  | .proceed req brokerUp => task.proceed base req brokerUp floor

abbrev shift : World Floor Task → ℕ × Demand → World Floor Task :=
  World.turn fun _ => work base

def Floor.quiet (floor : Floor) : World Floor Task where
  shared := floor
  locals _ := .idle

end Turns

end Kanzan.Kanban

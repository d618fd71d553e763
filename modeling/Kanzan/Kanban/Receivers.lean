import Kanzan.Kanban.Services

/-!
# The receivers of a saved ticket

Cards follow their tickets: the post-save receivers create a card, and move the cards of a
ticket to the column of its status or of its pipeline stage.
-/

namespace Kanzan.Kanban

open Tickets

/-- What the receivers are told of a save: whether it inserted the row, which columns it listed,
and what the last pre-save receiver found changed. -/
structure Saved where
  created : Bool := false
  updateFields : List Tickets.Column := []
  assigneeChanged : Bool := false
  pipelineStageChanged : Bool := false

/-! ## Receivers -/

def newCardColumn (layout : Layout) (id : ℕ) (status : TicketStatus) (cards : List CardPosition) :
    Option Column :=
  match layout.defaultBoard with
  | none => none
  | some board =>
    if isOnBoard board id cards then none
    else
      (layout.statusColumn board status).or (layout.firstColumn fun column => column.board == board)

/-- `create_kanban_card_on_ticket_save`. -/
def createKanbanCardOnTicketSave (layout : Layout) (saved : Saved) (id : ℕ) (inst : Ticket)
    (db : Db) : Db :=
  if !saved.created && !saved.assigneeChanged && .assignee ∉ saved.updateFields then db
  else
    match newCardColumn layout id inst.status db.cards with
    | none => db
    | some column => db.createCard column id (countCards column db.cards)

/-- One turn of a loop over the cards of a ticket: to the end of the column found on the board. -/
def syncCard (find : Board → Option Column) (cards : List CardPosition) (card : CardPosition) :
    List CardPosition :=
  match find card.column.board with
  | none => cards
  | some targetColumn =>
    if targetColumn = card.column then cards
    else
      updateCard card.pk
        (fun row => { row with column := targetColumn, order := countCards targetColumn cards }) cards

def syncCards (find : Board → Option Column) (id : ℕ) (cards : List CardPosition) :
    List CardPosition :=
  ((cards.filter fun card => card.ticket == id).insertionSort
    fun a b => a.order ≤ b.order).foldl (syncCard find) cards

/-- `sync_kanban_card_on_status_change`. -/
def syncKanbanCardOnStatusChange (layout : Layout) (saved : Saved) (id : ℕ) (inst : Ticket)
    (cards : List CardPosition) : List CardPosition :=
  if saved.created || .status ∉ saved.updateFields then cards
  else syncCards (fun board => layout.statusColumn board inst.status) id cards

/-- `sync_kanban_card_on_pipeline_stage_change`. -/
def syncKanbanCardOnPipelineStageChange (layout : Layout) (saved : Saved) (id : ℕ)
    (inst : Ticket) (cards : List CardPosition) : List CardPosition :=
  if saved.created || !saved.pipelineStageChanged then cards
  else
    match inst.pipelineStage with
    | none => cards
    | some stage => syncCards (fun board => layout.namedColumn board stage.name) id cards

def onTicketSave (layout : Layout) (saved : Saved) (id : ℕ) (inst : Ticket) (db : Db) : Db :=
  let db := createKanbanCardOnTicketSave layout saved id inst db
  let cards := syncKanbanCardOnStatusChange layout saved id inst db.cards
  { db with cards := syncKanbanCardOnPipelineStageChange layout saved id inst cards }

/-! ## Operations on tickets -/

/-- The operations that save a ticket in a way that the receivers look at. -/
inductive TicketChange where
  | changeTicketStatus (newStatus : TicketStatus)
  | assignTicket (assignee : ℕ) (note : String)
  | transitionPipelineStage (newStage : PipelineStage) (reason : String)
  | mergeTickets (primary : ℕ)
  deriving DecidableEq

def TicketChange.op (id : ℕ) : TicketChange → Tickets.Op
  | .changeTicketStatus newStatus => .bulkChangeStatus id newStatus
  | .assignTicket assignee note => .assignTicket id assignee note
  | .transitionPipelineStage newStage reason => .transitionPipelineStage id newStage reason
  | .mergeTickets primary => .mergeTickets primary id

/-- The ticket and the columns that the operation saves, if it gets that far. -/
def TicketChange.draft (ws : Workspace) (req : Request) (db : Tickets.Db) (id : ℕ)
    (ticket : Ticket) : TicketChange → Option Draft
  | .changeTicketStatus newStatus =>
    if ticket.status = newStatus then none else some (statusDraft req newStatus ticket)
  | .assignTicket assignee _ =>
    if ws.isActiveMember assignee then some (assignDraft ws req assignee ticket) else none
  | .transitionPipelineStage newStage reason =>
    if entersStage newStage ticket then some (stageDraft ws req newStage reason ticket) else none
  | .mergeTickets primary =>
    if (db.tickets primary).isNone || primary = id then none
    else some (mergeDraft ws req primary ticket)

/-- Whether the receiver of the SLA clock, which runs before those of the cards, saves the ticket
again; the pre-save receiver then finds nothing changed. -/
def savesAgain (db : Tickets.Db) (id : ℕ) (oldStatus newStatus : TicketStatus) : Bool :=
  oldStatus ≠ newStatus &&
    if oldStatus.pausesSla then !newStatus.pausesSla && (db.latestOpenPause id).isSome
    else newStatus.pausesSla

def Saved.ofDraft (db : Tickets.Db) (id : ℕ) (ticket : Ticket) (draft : Draft) : Saved where
  updateFields := draft.updateFields
  assigneeChanged :=
    draft.ticket.assignee ≠ ticket.assignee &&
      !savesAgain db id ticket.status draft.ticket.status
  pipelineStageChanged :=
    draft.ticket.pipelineStage ≠ ticket.pipelineStage &&
      !savesAgain db id ticket.status draft.ticket.status

def savedBy (layout : Layout) (req : Request) (id : ℕ) (change : TicketChange) (db : Tickets.Db) :
    Option (Saved × Ticket) :=
  (db.tickets id).bind fun ticket =>
    (change.draft layout.toWorkspace req db id ticket).map fun draft =>
      (Saved.ofDraft db id ticket draft, draft.ticket)

def saveTicket (layout : Layout) (req : Request) (brokerUp : Bool) (id : ℕ)
    (change : TicketChange) (db : Db) : Db :=
  let after : Db := { db with
    tickets := Tickets.step layout.toWorkspace db.tickets { op := change.op id, req, brokerUp } }
  match savedBy layout req id change db.tickets with
  | none => after
  | some (saved, inst) => onTicketSave layout saved id inst after

def createTicket (layout : Layout) (req : Request) (brokerUp : Bool) (creator : ℕ)
    (data : NewTicket) (db : Db) : Except String Db := do
  let tickets ← attempt layout.toWorkspace req (.createTicket creator data) db.tickets
  let after : Db := { db with tickets := tickets.commit brokerUp }
  match tickets.tickets data.id with
  | none => .ok after
  | some ticket => .ok (onTicketSave layout { created := true } data.id ticket after)

/-! ## Moves -/

def statusToWrite (targetColumn : Column) (id : ℕ) (db : Tickets.Db) : Option TicketStatus :=
  targetColumn.status.filter fun status =>
    !targetColumn.board.isPersonal &&
      (db.tickets id).any fun ticket => ticket.status ≠ status

/-- `move_card`. -/
def moveCard (layout : Layout) (req : Request) (brokerUp : Bool) (card : CardPosition)
    (targetColumn : Column) (position : ℕ) (db : Db) : Except String Db :=
  match moveError layout card targetColumn position db.cards with
  | some message => .error message
  | none =>
    let db := { db with cards := placeCard card targetColumn position db.cards }
    match statusToWrite targetColumn card.ticket db.tickets with
    | none => .ok db
    | some status => .ok (saveTicket layout req brokerUp card.ticket (.changeTicketStatus status) db)

/-- `CardPositionViewSet.move`. -/
def move (layout : Layout) (req : Request) (brokerUp : Bool)
    (cardId targetColumnId position : ℕ) (db : Db) : Except String Db := do
  let (card, targetColumn) ← validateMove layout cardId targetColumnId db
  moveCard layout req brokerUp card targetColumn position db

/-!
## The boards of a tenant

One event is one request.  A request that raises leaves the store as it was.
-/

/-- The operations, named after the functions they call; ids are those of the request. -/
inductive Op where
  | addTicket (boardPk columnId ticketId : ℕ)
  | populate (boardPk : ℕ)
  | move (cardId targetColumnId position : ℕ)
  | destroy (boardPk cardId : ℕ)
  | createTicket (creator : ℕ) (data : NewTicket)
  | saveTicket (id : ℕ) (change : TicketChange)

/-- An operation with its request, and whether the task broker can be reached. -/
structure Event where
  op : Op
  req : Request
  brokerUp : Bool := true

def apply (layout : Layout) (event : Event) (db : Db) : Except String Db :=
  match event.op with
  | .addTicket boardPk columnId ticketId =>
    addTicket layout event.req.actor boardPk columnId ticketId db
  | .populate boardPk => populate layout event.req.actor boardPk db
  | .move cardId targetColumnId position =>
    move layout event.req event.brokerUp cardId targetColumnId position db
  | .destroy boardPk cardId => destroy event.req.actor boardPk cardId db
  | .createTicket creator data => createTicket layout event.req event.brokerUp creator data db
  | .saveTicket id change => .ok (saveTicket layout event.req event.brokerUp id change db)

def step (layout : Layout) (db : Db) (event : Event) : Db :=
  match apply layout event db with
  | .error _ => db
  | .ok after => after

end Kanzan.Kanban

import Kanzan.Kanban.Rows

/-!
# The endpoints of the boards

`BoardViewSet`, `ColumnViewSet` and `CardPositionViewSet`, with boards, columns and cards that
come, change and go.  A board holds the rows of its columns, and a column those of its cards.
Rows of tables that no request to these endpoints changes are given, not looked up.
-/

namespace Kanzan.Kanban.Rest

open Sla Tickets

/-! ## Rows -/

/-- The content types of the models with a foreign key `status`, and the others. -/
inductive ContentType where
  | ticket
  | column
  | other (pk : ℕ)
  deriving DecidableEq, Repr

/-- The `CardPosition` row, with the object that it places. -/
structure Card where
  pk : ℕ
  contentType : ContentType
  objectId : ℕ
  order : ℕ
  deriving DecidableEq, Repr

structure Column where
  pk : ℕ
  name : String
  order : ℕ
  status : Option TicketStatus := none
  wipLimit : Option ℕ := none
  color : Option String := none
  createdAt : Instant
  updatedAt : Instant
  cards : List Card := []
  deriving DecidableEq, Repr

structure Board where
  pk : ℕ
  name : String
  resourceType : ResourceType := .ticket
  isDefault : Bool := false
  isPersonal : Bool := false
  createdBy : Option ℕ := none
  createdAt : Instant
  updatedAt : Instant
  columns : List Column := []
  deriving DecidableEq, Repr

/-- The boards of a tenant, and its tickets. -/
structure Store where
  boards : List Board
  tickets : Tickets.Db

/-- The tenant, with what the database and the content types tell of it. -/
structure Site where
  ws : Workspace
  /-- The collation of names. -/
  collate : String → String → Bool
  /-- `app_label.model` of a content type. -/
  label : ContentType → String
  /-- The greatest number that fits the column of an order. -/
  maxOrder : ℕ := 2147483647

/-- A member of the tenant, and what her request draws and finds. -/
structure Caller where
  user : ℕ
  /-- `IsAgentOrAbove`. -/
  isAgentOrAbove : Bool
  now : Instant
  req : Request
  brokerUp : Bool := true
  boardId : ℕ
  columnId : ℕ → ℕ
  cardId : ℕ → ℕ

/-! ## Responses -/

structure ColumnData where
  id : ℕ
  board : ℕ
  name : String
  order : ℕ
  status : Option ℕ
  wipLimit : Option ℕ
  color : Option String
  cardCount : ℕ
  createdAt : Instant
  updatedAt : Instant
  deriving DecidableEq, Repr

structure BoardData where
  id : ℕ
  name : String
  resourceType : ResourceType
  isDefault : Bool
  isPersonal : Bool
  createdBy : Option ℕ
  columns : List ColumnData
  createdAt : Instant
  updatedAt : Instant
  deriving DecidableEq, Repr

structure CardData where
  id : ℕ
  column : ℕ
  contentType : ContentType
  contentTypeLabel : String
  objectId : ℕ
  order : ℕ
  deriving DecidableEq, Repr

/-- The messages of a serializer, each with its field. -/
abbrev Errors := List (String × String)

inductive Body where
  | empty
  | detail (message : String)
  | errors (errors : Errors)
  | boards (boards : List BoardData)
  | board (board : BoardData)
  | columns (columns : List ColumnData)
  | column (column : ColumnData)
  | cards (cards : List CardData)
  | card (card : CardData)
  | cardsCreated (count : ℕ)
  | alreadyOnBoard (detail : String) (cardId columnId : ℕ)
  deriving DecidableEq, Repr

structure Response where
  status : ℕ
  body : Body
  deriving DecidableEq, Repr

namespace Response

def ok (body : Body) : Response := ⟨200, body⟩

def created (body : Body) : Response := ⟨201, body⟩

def noContent : Response := ⟨204, .empty⟩

def badRequest (body : Body) : Response := ⟨400, body⟩

def notFound (message : String) : Response := ⟨404, .detail message⟩

def forbidden : Response :=
  ⟨403, .detail "You do not have permission to perform this action."⟩

def serverError : Response := ⟨500, .empty⟩

end Response

/-- `ColumnSerializer`. -/
def Column.data (board : ℕ) (column : Column) : ColumnData where
  id := column.pk
  board := board
  name := column.name
  order := column.order
  status := column.status.map TicketStatus.pk
  wipLimit := column.wipLimit
  color := column.color
  cardCount := column.cards.length
  createdAt := column.createdAt
  updatedAt := column.updatedAt

def Board.ordered (board : Board) : List Column :=
  board.columns.insertionSort fun a b => a.order ≤ b.order

/-- `BoardSerializer`. -/
def Board.data (board : Board) : BoardData where
  id := board.pk
  name := board.name
  resourceType := board.resourceType
  isDefault := board.isDefault
  isPersonal := board.isPersonal
  createdBy := board.createdBy
  columns := board.ordered.map (Column.data board.pk)
  createdAt := board.createdAt
  updatedAt := board.updatedAt

/-- `CardPositionSerializer`. -/
def Card.data (site : Site) (column : ℕ) (card : Card) : CardData where
  id := card.pk
  column := column
  contentType := card.contentType
  contentTypeLabel := site.label card.contentType
  objectId := card.objectId
  order := card.order

/-! ## Fields of a body -/

/-- What a body holds for a field of a serializer. -/
inductive Field (α : Type) where
  | missing
  | malformed (message : String)
  | given (value : α)
  deriving DecidableEq, Repr

namespace Field

variable {α : Type}

def value? : Field α → Option α
  | .given value => some value
  | _ => none

/-- The messages of a field; `check` is what a value that is well formed may lack. -/
def errors (name : String) (required : Bool) (check : α → Option String) : Field α → Errors
  | .missing => if required then [(name, "This field is required.")] else []
  | .malformed message => [(name, message)]
  | .given value => ((check value).map (Prod.mk name)).toList

def plainErrors (name : String) (required : Bool) (field : Field α) : Errors :=
  field.errors name required fun _ => none

end Field

structure BoardBody where
  name : Field String
  resourceType : Field ResourceType
  isDefault : Field Bool
  /-- `bool(request.data.get("is_personal", False))`. -/
  isPersonal : Bool := false
  /-- `request.data.get("auto_columns", False)`. -/
  autoColumns : Bool := false

structure ColumnBody where
  name : Field String
  order : Field ℕ
  status : Field (Option TicketStatus)
  wipLimit : Field (Option ℕ)
  color : Field (Option String)

structure CardBody where
  column : Field ℕ
  contentType : Field ContentType
  objectId : Field ℕ
  order : Field ℕ

structure MoveBody where
  cardId : Field ℕ
  targetColumnId : Field ℕ
  position : Field ℕ

/-! ## Queries -/

/-- A card with its column and board. -/
structure Placed where
  board : Board
  column : Column
  card : Card
  deriving DecidableEq, Repr

def Board.placed (board : Board) : List Placed :=
  board.columns.flatMap fun column => column.cards.map (Placed.mk board column)

/-- `CardPosition.objects`. -/
def placed (boards : List Board) : List Placed := boards.flatMap Board.placed

/-- `Column.objects`, each with its board. -/
def columns (boards : List Board) : List (Board × Column) :=
  boards.flatMap fun board => board.columns.map (Prod.mk board)

/-- `_accessible_boards_q`. -/
def Board.isAccessible (user : ℕ) (board : Board) : Bool :=
  !board.isPersonal || board.createdBy == some user

/-- `BoardViewSet.get_queryset` and its order. -/
def boardLe (site : Site) (a b : Board) : Bool :=
  if a.isPersonal ≠ b.isPersonal then !a.isPersonal
  else if a.isDefault ≠ b.isDefault then a.isDefault
  else if a.name ≠ b.name then site.collate a.name b.name
  else b.createdAt ≤ a.createdAt

def Store.board? (store : Store) (user boardPk : ℕ) : Option Board :=
  store.boards.find? fun board => board.pk == boardPk && board.isAccessible user

def Store.column? (store : Store) (columnId : ℕ) : Option (Board × Column) :=
  (columns store.boards).find? fun found => found.2.pk == columnId

def Store.card? (store : Store) (cardId : ℕ) : Option Placed :=
  (placed store.boards).find? fun found => found.card.pk == cardId

def Board.column? (board : Board) (pk : ℕ) : Option Column :=
  board.columns.find? fun column => column.pk == pk

def Board.card? (board : Board) (pk : ℕ) : Option Placed :=
  board.placed.find? fun found => found.card.pk == pk

/-- `column.cards.filter(content_type=..., object_id=...).exists()`. -/
def Column.holds (column : Column) (contentType : ContentType) (objectId : ℕ) : Bool :=
  column.cards.any fun card => card.contentType == contentType && card.objectId == objectId

def Board.cardOfTicket (board : Board) (ticket : ℕ) : Option Placed :=
  board.placed.find? fun found =>
    found.card.contentType == .ticket && found.card.objectId == ticket

/-! ## Writes -/

def saveBoard (board : Board) (boards : List Board) : List Board :=
  boards.map fun row => if row.pk = board.pk then board else row

def Store.save (store : Store) (board : Board) : Store :=
  { store with boards := saveBoard board store.boards }

def Board.setColumn (board : Board) (column : Column) : Board :=
  { board with
    columns := board.columns.map fun row => if row.pk = column.pk then column else row }

def Column.setCard (column : Column) (card : Card) : Column :=
  { column with cards := column.cards.map fun row => if row.pk = card.pk then card else row }

def Column.removeCard (column : Column) (pk : ℕ) : Column :=
  { column with cards := column.cards.filter fun row => row.pk ≠ pk }

def Column.addCard (column : Column) (card : Card) : Column :=
  { column with cards := column.cards ++ [card] }

/-- `CardPosition.objects.create(...)` for one ticket after the other, from an order on. -/
def Column.createCards (cardId : ℕ → ℕ) : List ℕ → ℕ → ℕ → Column → Column
  | [], _, _, column => column
  | ticket :: rest, drawn, order, column =>
    createCards cardId rest (drawn + 1) (order + 1)
      (column.addCard { pk := cardId drawn, contentType := .ticket, objectId := ticket, order })

def ticketsToPlace (tickets : Tickets.Db) (board : Board) (status : TicketStatus) : List ℕ :=
  let createdAt := fun id => (tickets.tickets id).map Ticket.createdAt
  (tickets.ticketIds.dedup.filter fun id =>
    (tickets.tickets id).any (fun ticket => !ticket.isDeleted && ticket.status == status) &&
      (board.cardOfTicket id).isNone).insertionSort fun a b =>
        (createdAt b).getD 0 ≤ (createdAt a).getD 0

/-- One turn of the loop over the columns, with the number of cards created so far. -/
def populateColumn (tickets : Tickets.Db) (cardId : ℕ → ℕ) (state : Board × ℕ)
    (column : Column) : Board × ℕ :=
  match column.status with
  | none => state
  | some status =>
    let ids := ticketsToPlace tickets state.1 status
    (state.1.setColumn (column.createCards cardId ids state.2 column.cards.length),
      state.2 + ids.length)

/-- `populate_board_from_tickets`. -/
def populateBoardFromTickets (tickets : Tickets.Db) (cardId : ℕ → ℕ) (board : Board) :
    Board × ℕ :=
  (board.ordered.filter fun column => column.status.isSome).foldl
    (populateColumn tickets cardId) (board, 0)

/-! ## Boards -/

/-- The messages of `BoardSerializer`. -/
def BoardBody.errors (isPartial : Bool) (body : BoardBody) : Errors :=
  body.name.plainErrors "name" (!isPartial) ++
    body.resourceType.plainErrors "resource_type" (!isPartial) ++
      body.isDefault.plainErrors "is_default" false

/-- What a view does for its caller: the response, and the store after it. -/
abbrev View := Store → Response × Store

def onBoard (missing : Response) (found : Store → Option Board)
    (view : Board → Tickets.Db → Response × Option Board) : View := fun store =>
  match found store with
  | none => (missing, store)
  | some board =>
    match view board store.tickets with
    | (response, none) => (response, store)
    | (response, some board') => (response, store.save board')

def onAccessible (caller : Caller) (missing : Response) (boardPk : ℕ)
    (view : Board → Tickets.Db → Response × Option Board) : View :=
  onBoard missing (fun store => store.board? caller.user boardPk) view

/-- `BoardViewSet.list`. -/
def listBoards (site : Site) (caller : Caller) : View := fun store =>
  (.ok (.boards (((store.boards.filter (Board.isAccessible caller.user)).insertionSort
    fun a b => boardLe site a b).map Board.data)), store)

def noBoard : Response := .notFound "No Board matches the given query."

/-- `BoardViewSet.retrieve`. -/
def retrieveBoard (caller : Caller) (pk : ℕ) : View :=
  onAccessible caller noBoard pk fun board _ => (.ok (.board board.data), none)

def autoColumns (site : Site) (caller : Caller) : List Column :=
  let statuses := site.ws.statuses.insertionSort fun a b =>
    if a.order = b.order then site.collate a.name b.name else a.order ≤ b.order
  statuses.mapIdx fun index status =>
    { pk := caller.columnId index, name := status.name, order := index, status := some status,
      createdAt := caller.now, updatedAt := caller.now }

/-- `BoardViewSet.perform_create`. -/
def newBoard (site : Site) (caller : Caller) (body : BoardBody) (name : String)
    (resourceType : ResourceType) (tickets : Tickets.Db) : Board :=
  let board : Board :=
    { pk := caller.boardId, name, resourceType
      isDefault := if body.isPersonal then false else (body.isDefault.value?).getD false
      isPersonal := body.isPersonal, createdBy := some caller.user
      createdAt := caller.now, updatedAt := caller.now }
  if body.isPersonal then board
  else if resourceType = .ticket then
    let board := if body.autoColumns then { board with columns := autoColumns site caller }
      else board
    (populateBoardFromTickets tickets caller.cardId board).1
  else board

/-- `BoardViewSet.create`. -/
def createBoard (site : Site) (caller : Caller) (body : BoardBody) : View := fun store =>
  match body.errors false, body.name.value?, body.resourceType.value? with
  | [], some name, some resourceType =>
    let board := newBoard site caller body name resourceType store.tickets
    (.created (.board board.data), { store with boards := store.boards ++ [board] })
  | errors, _, _ => (.badRequest (.errors errors), store)

/-- `BoardViewSet.update` and `partial_update`. -/
def updateBoard (caller : Caller) (isPartial : Bool) (pk : ℕ) (body : BoardBody) : View :=
  onAccessible caller noBoard pk fun board _ =>
    match body.errors isPartial with
    | [] =>
      let board := { board with
        name := (body.name.value?).getD board.name
        resourceType := (body.resourceType.value?).getD board.resourceType
        isDefault := (body.isDefault.value?).getD board.isDefault
        updatedAt := caller.now }
      (.ok (.board board.data), some board)
    | errors => (.badRequest (.errors errors), none)

/-- `BoardViewSet.destroy`; the columns and cards go with their board. -/
def destroyBoard (caller : Caller) (pk : ℕ) : View := fun store =>
  match store.board? caller.user pk with
  | none => (noBoard, store)
  | some board =>
    (.noContent, { store with boards := store.boards.filter fun row => row.pk ≠ board.pk })

/-- `BoardViewSet.populate`. -/
def populate (caller : Caller) (pk : ℕ) : View :=
  onAccessible caller noBoard pk fun board tickets =>
    let (board', count) := populateBoardFromTickets tickets caller.cardId board
    (.ok (.cardsCreated count), some board')

/-! ## Columns -/

/-- The messages of `ColumnSerializer`. -/
def ColumnBody.errors (isPartial : Bool) (body : ColumnBody) : Errors :=
  body.name.plainErrors "name" (!isPartial) ++ body.order.plainErrors "order" (!isPartial) ++
    body.status.plainErrors "status" false ++ body.wipLimit.plainErrors "wip_limit" false ++
      body.color.plainErrors "color" false

def noColumn : Response := .notFound "No Column matches the given query."

/-- `ColumnViewSet.list`. -/
def listColumns (caller : Caller) (boardPk : ℕ) : View :=
  onAccessible caller (.ok (.columns [])) boardPk fun board _ =>
    (.ok (.columns (board.ordered.map (Column.data board.pk))), none)

def onColumn (caller : Caller) (boardPk pk : ℕ)
    (view : Board → Column → Response × Option Board) : View :=
  onAccessible caller noColumn boardPk fun board _ =>
    match board.column? pk with
    | none => (noColumn, none)
    | some column => view board column

/-- `ColumnViewSet.retrieve`. -/
def retrieveColumn (caller : Caller) (boardPk pk : ℕ) : View :=
  onColumn caller boardPk pk fun board column => (.ok (.column (column.data board.pk)), none)

def Board.hasOrder (board : Board) (pk order : ℕ) : Bool :=
  board.columns.any fun column => column.pk ≠ pk && column.order == order

/-- `ColumnViewSet.perform_create`, once the board is found. -/
def newColumn (caller : Caller) (body : ColumnBody) (name : String) (order : ℕ)
    (board : Board) (tickets : Tickets.Db) : Column :=
  let column : Column :=
    { pk := caller.columnId 0, name, order
      status := if board.isPersonal then none else (body.status.value?).join
      wipLimit := (body.wipLimit.value?).join, color := (body.color.value?).join
      createdAt := caller.now, updatedAt := caller.now }
  match column.status with
  | none => column
  | some status =>
    if board.resourceType = .ticket then
      column.createCards caller.cardId (ticketsToPlace tickets board status) 0 0
    else column

/-- `ColumnViewSet.create`: the body is checked first, and then whose board it is. -/
def createColumn (caller : Caller) (boardPk : ℕ) (body : ColumnBody) : View := fun store =>
  match body.errors false, body.name.value?, body.order.value? with
  | [], some name, some order =>
    onBoard (.notFound "Board not found.")
      (fun store => store.boards.find? fun board => board.pk == boardPk)
      (fun board tickets =>
        if board.isPersonal && board.createdBy ≠ some caller.user then
          (.notFound "Board not found.", none)
        else if board.hasOrder (caller.columnId 0) order then (.serverError, none)
        else
          let column := newColumn caller body name order board tickets
          (.created (.column (column.data board.pk)),
            some { board with columns := board.columns ++ [column] }))
      store
  | errors, _, _ => (.badRequest (.errors errors), store)

/-- `ColumnViewSet.update` and `partial_update`; the order must be free on the board. -/
def updateColumn (caller : Caller) (isPartial : Bool) (boardPk pk : ℕ) (body : ColumnBody) :
    View :=
  onColumn caller boardPk pk fun board column =>
    match body.errors isPartial with
    | [] =>
      let column := { column with
        name := (body.name.value?).getD column.name
        order := (body.order.value?).getD column.order
        status := (body.status.value?).getD column.status
        wipLimit := (body.wipLimit.value?).getD column.wipLimit
        color := (body.color.value?).getD column.color
        updatedAt := caller.now }
      if board.hasOrder column.pk column.order then (.serverError, none)
      else (.ok (.column (column.data board.pk)), some (board.setColumn column))
    | errors => (.badRequest (.errors errors), none)

/-- `ColumnViewSet.destroy`. -/
def destroyColumn (caller : Caller) (boardPk pk : ℕ) : View :=
  onColumn caller boardPk pk fun board column =>
    (.noContent,
      some { board with columns := board.columns.filter fun row => row.pk ≠ column.pk })

/-! ## Cards -/

def noCard : Response := .notFound "No CardPosition matches the given query."

/-- `CardPositionViewSet.list`. -/
def listCards (site : Site) (caller : Caller) (boardPk : ℕ) : View :=
  onAccessible caller (.ok (.cards [])) boardPk fun board _ =>
    (.ok (.cards (board.ordered.flatMap fun column =>
      (column.cards.insertionSort fun a b => a.order ≤ b.order).map
        (Card.data site column.pk))), none)

/-- `CardPositionViewSet.retrieve`. -/
def retrieveCard (site : Site) (caller : Caller) (boardPk pk : ℕ) : View :=
  onAccessible caller noCard boardPk fun board _ =>
    match board.card? pk with
    | none => (noCard, none)
    | some found => (.ok (.card (found.card.data site found.column.pk)), none)

/-- `CardPositionViewSet.destroy`. -/
def destroyCard (caller : Caller) (boardPk pk : ℕ) : View :=
  onAccessible caller noCard boardPk fun board _ =>
    match board.card? pk with
    | none => (noCard, none)
    | some found =>
      (.noContent, some (board.setColumn (found.column.removeCard found.card.pk)))

def relatedError (known : ℕ → Bool) (pk : ℕ) : Option String :=
  if known pk then none else some s!"Invalid pk \"{pk}\" - object does not exist."

/-- The messages of the fields of `CardPositionSerializer`. -/
def CardBody.errors (isPartial : Bool) (body : CardBody) (store : Store) : Errors :=
  body.column.errors "column" (!isPartial) (relatedError fun pk => (store.column? pk).isSome) ++
    body.contentType.plainErrors "content_type" (!isPartial) ++
      body.objectId.plainErrors "object_id" (!isPartial) ++ body.order.plainErrors "order" false

def notUnique : Response :=
  .badRequest (.errors [("non_field_errors",
    "The fields column, content_type, object_id must make a unique set.")])

/-- `CardPositionViewSet.create`; the board of the path is not looked at. -/
def createCard (site : Site) (caller : Caller) (body : CardBody) : View := fun store =>
  match body.errors false store, (body.column.value?).bind store.column?, body.contentType.value?,
      body.objectId.value? with
  | [], some (board, column), some contentType, some objectId =>
    if column.holds contentType objectId then (notUnique, store)
    else
      let card : Card :=
        { pk := caller.cardId 0, contentType, objectId, order := (body.order.value?).getD 0 }
      (.created (.card (card.data site column.pk)),
        store.save (board.setColumn (column.addCard card)))
  | errors, _, _, _ => (.badRequest (.errors errors), store)

def Column.holdsOther (column : Column) (card : Card) : Bool :=
  column.cards.any fun row =>
    row.pk ≠ card.pk && row.contentType == card.contentType && row.objectId == card.objectId

def Store.saveCard (store : Store) (found : Placed) (target : Board × Column) (card : Card) :
    Store :=
  if found.column.pk = target.2.pk then
    store.save (target.1.setColumn (target.2.setCard card))
  else if found.board.pk = target.1.pk then
    store.save ((found.board.setColumn (found.column.removeCard card.pk)).setColumn
      (target.2.addCard card))
  else
    (store.save (found.board.setColumn (found.column.removeCard card.pk))).save
      (target.1.setColumn (target.2.addCard card))

/-- `CardPositionViewSet.update` and `partial_update`. -/
def updateCard (site : Site) (caller : Caller) (isPartial : Bool) (boardPk pk : ℕ)
    (body : CardBody) : View := fun store =>
  match (store.board? caller.user boardPk).bind fun board => board.card? pk with
  | none => (noCard, store)
  | some found =>
    match body.errors isPartial store with
    | [] =>
      let target := ((body.column.value?).bind store.column?).getD (found.board, found.column)
      let card : Card :=
        { found.card with
          contentType := (body.contentType.value?).getD found.card.contentType
          objectId := (body.objectId.value?).getD found.card.objectId
          order := (body.order.value?).getD found.card.order }
      if target.2.holdsOther card then (notUnique, store)
      else (.ok (.card (card.data site target.2.pk)), store.saveCard found target card)
    | errors => (.badRequest (.errors errors), store)

/-- Whether a column has reached its limit; a limit of zero is none. -/
def Column.isFull (column : Column) : Bool :=
  column.wipLimit.any fun limit => limit ≠ 0 && limit ≤ column.cards.length

def Column.wipError (column : Column) : Response :=
  .badRequest (.detail
    s!"Column '{column.name}' has reached its WIP limit of {column.wipLimit.getD 0}.")

/-- `CardPositionViewSet.add_ticket`.  An id that is no UUID raises in the query. -/
def addTicket (site : Site) (caller : Caller) (boardPk : ℕ) (columnId ticketId : Field ℕ) :
    View := fun store =>
  match columnId, ticketId with
  | .missing, _ | _, .missing =>
    (.badRequest (.detail "column_id and ticket_id are required."), store)
  | .malformed _, _ => (.serverError, store)
  | .given columnId, ticketId =>
    match (columns store.boards).find? fun found =>
        found.1.pk == boardPk && found.2.pk == columnId with
    | none => (.notFound "Column not found on this board.", store)
    | some (board, column) =>
      if board.isPersonal && board.createdBy ≠ some caller.user then
        (.notFound "Board not found.", store)
      else
        match ticketId with
        | .missing | .malformed _ => (.serverError, store)
        | .given ticketId =>
          if !(store.tickets.tickets ticketId).any (fun ticket => !ticket.isDeleted) then
            (.notFound "Ticket not found.", store)
          else
            match board.cardOfTicket ticketId with
            | some already =>
              (⟨409, .alreadyOnBoard "Ticket is already on this board." already.card.pk
                already.column.pk⟩, store)
            | none =>
              if column.isFull then (column.wipError, store)
              else
                let card : Card :=
                  { pk := caller.cardId 0, contentType := .ticket, objectId := ticketId
                    order := column.cards.length }
                (.created (.card (card.data site column.pk)),
                  store.save (board.setColumn (column.addCard card)))

/-! ## Moves -/

def Column.shiftOrders (affected : ℕ → Bool) (shift : ℕ → ℕ) (column : Column) : Column :=
  { column with
    cards := column.cards.map fun card =>
      if affected card.order then { card with order := shift card.order } else card }

/-- `_reorder_within_column`. -/
def Column.reorder (card : Card) (newPosition : ℕ) (column : Column) : Column :=
  let oldPosition := card.order
  if oldPosition = newPosition then column
  else
    let shifted :=
      if newPosition < oldPosition then
        column.shiftOrders (fun order => newPosition ≤ order && order < oldPosition)
          fun order => order + 1
      else
        column.shiftOrders (fun order => oldPosition < order && order ≤ newPosition)
          fun order => order - 1
    shifted.setCard { card with order := newPosition }

/-- `_move_across_columns`: the column that the card leaves. -/
def Column.closeGap (card : Card) (column : Column) : Column :=
  (column.removeCard card.pk).shiftOrders (fun order => card.order < order) fun order => order - 1

/-- `_move_across_columns`: the column that the card comes to. -/
def Column.openGap (card : Card) (position : ℕ) (column : Column) : Column :=
  (column.shiftOrders (fun order => position ≤ order) fun order => order + 1).addCard
    { card with order := position }

def Placed.move (found : Placed) (target : Column) (position : ℕ) : Board :=
  if found.column.pk = target.pk then
    found.board.setColumn (found.column.reorder found.card position)
  else
    (found.board.setColumn (found.column.closeGap found.card)).setColumn
      (target.openGap found.card position)

/-- Why a move is refused: the limit of the column, an order that the database cannot store, or
a card of the same object in the column. -/
def moveError (site : Site) (found : Placed) (target : Column) (position : ℕ) :
    Option Response :=
  if found.column.pk ≠ target.pk && target.isFull then some target.wipError
  else if (found.move target position).columns.any fun column =>
      column.cards.any fun card => site.maxOrder < card.order then some .serverError
  else if found.column.pk ≠ target.pk &&
      target.holds found.card.contentType found.card.objectId then some .serverError
  else none

/-- What a turn of the loop does on the board of its card: to the end of the first column with
the status, which must not have a card of the ticket yet. -/
def Board.syncCard (status : TicketStatus) (found : Placed) (board : Board) : Option Board :=
  match board.ordered.find? fun column => column.status == some status with
  | none => some board
  | some target =>
    if target.pk = found.column.pk then some board
    else if target.holds found.card.contentType found.card.objectId then none
    else
      match board.column? found.column.pk with
      | none => some board
      | some column =>
        some ((board.setColumn (column.removeCard found.card.pk)).setColumn
          (target.addCard { found.card with order := target.cards.length }))

/-- One turn of the loop of `sync_kanban_card_on_status_change`. -/
def syncCard (status : TicketStatus) (boards : List Board) (found : Placed) :
    Option (List Board) :=
  match boards.find? fun board => board.pk == found.board.pk with
  | none => some boards
  | some board => (board.syncCard status found).map fun board' => saveBoard board' boards

def cardsOf (ticket : ℕ) (boards : List Board) : List Placed :=
  ((placed boards).filter fun found =>
    found.card.contentType == .ticket && found.card.objectId == ticket).insertionSort
      fun a b => a.card.order ≤ b.card.order

/-- `sync_kanban_card_on_status_change`, for a ticket that is now in a status. -/
def syncCards (status : TicketStatus) (ticket : ℕ) (boards : List Board) : Option (List Board) :=
  (cardsOf ticket boards).foldlM (syncCard status) boards

/-- The object of a moved card whose status is not the one of its column. -/
inductive Lagging where
  | ticket (id : ℕ) (status : TicketStatus)
  | column (board : Board) (column : Column) (status : TicketStatus)

/-- What `move_card` has to save after the move; a personal board writes nothing back. -/
def lagging (found : Placed) (target : Column) (store : Store) : Option Lagging :=
  match target.status with
  | none => none
  | some status =>
    if found.board.isPersonal then none
    else
      match found.card.contentType with
      | .ticket =>
        if (store.tickets.tickets found.card.objectId).any fun ticket =>
            ticket.status ≠ status then some (.ticket found.card.objectId status)
        else none
      | .column =>
        match store.column? found.card.objectId with
        | none => none
        | some (board, column) =>
          if column.status ≠ some status then some (.column board column status) else none
      | .other _ => none

/-- `content_obj.save(update_fields=["status", "updated_at"])`, or `change_ticket_status` with
the receiver of its save; a card that cannot be synchronised breaks the transaction. -/
def catchUp (site : Site) (caller : Caller) (response : Response) (store : Store) :
    Option Lagging → Response × Store
  | none => (response, store)
  | some (.column board column status) =>
    (response, store.save (board.setColumn
      { column with status := some status, updatedAt := caller.now }))
  | some (.ticket id status) =>
    match syncCards status id store.boards with
    | none => (.serverError, store)
    | some boards =>
      (response,
        { boards
          tickets := Tickets.step site.ws store.tickets
            { op := .bulkChangeStatus id status, req := caller.req
              brokerUp := caller.brokerUp } })

/-- `move_card`, and the response to it. -/
def moveCard (site : Site) (caller : Caller) (found : Placed) (target : Column)
    (position : ℕ) : View := fun store =>
  match moveError site found target position with
  | some response => (response, store)
  | none =>
    let moved := store.save (found.move target position)
    catchUp site caller
      (.ok (.card (({ found.card with order := position } : Card).data site target.pk))) moved
      (lagging found target moved)

/-- The messages of the fields of `CardMoveSerializer`: the ids are looked up in all boards. -/
def MoveBody.errors (body : MoveBody) (store : Store) : Errors :=
  body.cardId.errors "card_id" true (fun id =>
      if (store.card? id).isSome then none else some "Card position not found.") ++
    body.targetColumnId.errors "target_column_id" true (fun id =>
        if (store.column? id).isSome then none else some "Target column not found.") ++
      body.position.plainErrors "position" true

/-- A request that `CardMoveSerializer` accepts. -/
structure MoveOrder where
  found : Placed
  target : Column
  position : ℕ

/-- `CardMoveSerializer`: the card and the column asked for, both on one board. -/
def validateMove (body : MoveBody) (store : Store) : Except Errors MoveOrder :=
  match body.errors store, (body.cardId.value?).bind store.card?,
      (body.targetColumnId.value?).bind store.column?, body.position.value? with
  | [], some found, some (board, target), some position =>
    if found.board.pk ≠ board.pk then
      .error [("non_field_errors", "Cannot move a card to a column on a different board.")]
    else .ok { found, target, position }
  | errors, _, _, _ => .error errors

/-- `CardPositionViewSet.move` and `reorder`; the board of the path is not looked at. -/
def move (site : Site) (caller : Caller) (isReorder : Bool) (body : MoveBody) : View :=
  fun store =>
    match validateMove body store with
    | .error errors => (.badRequest (.errors errors), store)
    | .ok order =>
      if isReorder && order.found.column.pk ≠ order.target.pk then
        (.badRequest (.detail ("Reorder requires the target column to match the card's current "
          ++ "column. Use the move action instead.")), store)
      else moveCard site caller order.found order.target order.position store

/-! ## Requests -/

inductive Request where
  | listBoards
  | retrieveBoard (pk : ℕ)
  | createBoard (body : BoardBody)
  | updateBoard (isPartial : Bool) (pk : ℕ) (body : BoardBody)
  | destroyBoard (pk : ℕ)
  | populate (pk : ℕ)
  | listColumns (boardPk : ℕ)
  | retrieveColumn (boardPk pk : ℕ)
  | createColumn (boardPk : ℕ) (body : ColumnBody)
  | updateColumn (isPartial : Bool) (boardPk pk : ℕ) (body : ColumnBody)
  | destroyColumn (boardPk pk : ℕ)
  | listCards (boardPk : ℕ)
  | retrieveCard (boardPk pk : ℕ)
  | createCard (boardPk : ℕ) (body : CardBody)
  | updateCard (isPartial : Bool) (boardPk pk : ℕ) (body : CardBody)
  | destroyCard (boardPk pk : ℕ)
  | addTicket (boardPk : ℕ) (columnId ticketId : Field ℕ)
  | move (boardPk : ℕ) (isReorder : Bool) (body : MoveBody)

/-- `get_permissions`: what is for agents only. -/
def Request.writes : Request → Bool
  | .listBoards | .retrieveBoard _ | .listColumns _ | .retrieveColumn _ _ | .listCards _
  | .retrieveCard _ _ => false
  | _ => true

def Request.view (site : Site) (caller : Caller) : Request → View
  | .listBoards => Rest.listBoards site caller
  | .retrieveBoard pk => Rest.retrieveBoard caller pk
  | .createBoard body => Rest.createBoard site caller body
  | .updateBoard isPartial pk body => Rest.updateBoard caller isPartial pk body
  | .destroyBoard pk => Rest.destroyBoard caller pk
  | .populate pk => Rest.populate caller pk
  | .listColumns boardPk => Rest.listColumns caller boardPk
  | .retrieveColumn boardPk pk => Rest.retrieveColumn caller boardPk pk
  | .createColumn boardPk body => Rest.createColumn caller boardPk body
  | .updateColumn isPartial boardPk pk body => Rest.updateColumn caller isPartial boardPk pk body
  | .destroyColumn boardPk pk => Rest.destroyColumn caller boardPk pk
  | .listCards boardPk => Rest.listCards site caller boardPk
  | .retrieveCard boardPk pk => Rest.retrieveCard site caller boardPk pk
  | .createCard _ body => Rest.createCard site caller body
  | .updateCard isPartial boardPk pk body => Rest.updateCard site caller isPartial boardPk pk body
  | .destroyCard boardPk pk => Rest.destroyCard caller boardPk pk
  | .addTicket boardPk columnId ticketId => Rest.addTicket site caller boardPk columnId ticketId
  | .move _ isReorder body => Rest.move site caller isReorder body

def serve (site : Site) (caller : Caller) (request : Request) : View := fun store =>
  if request.writes && !caller.isAgentOrAbove then (.forbidden, store)
  else request.view site caller store

end Kanzan.Kanban.Rest

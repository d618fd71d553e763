import Kanzan.Kanban.Steps
import Kanzan.Support.Processes

/-!
# Interleavings of requests to the boards

Any number of processes, each with one request.  A check that takes no lock is a turn of its
own, and so is each transaction, with the rows that its request has loaded before.  The
database refuses a transaction that breaks a constraint.
-/

namespace Kanzan.Kanban

open Support Tickets

/-! ## The processes -/

/-- What a request has read and not yet acted on. -/
inductive Errand where
  | idle
  /-- `add_ticket` has found room in the column. -/
  | adding (column : Column) (ticketId : ℕ)
  /-- The serializer has loaded the card and the column. -/
  | moving (card : CardPosition) (targetColumn : Column) (position : ℕ)
  /-- `move_card` has counted the cards of the column. -/
  | placing (card : CardPosition) (targetColumn : Column) (position : ℕ)
  /-- The card is moved, and its ticket is not yet compared with the column. -/
  | moved (card : CardPosition) (targetColumn : Column)
  /-- The ticket is being saved, and its receiver has listed the cards. -/
  | syncing (id : ℕ) (newStatus : TicketStatus) (listed : List CardPosition)

def Errand.writes : Errand → Bool
  | .adding _ _ | .placing _ _ _ | .syncing _ _ _ => true
  | _ => false

inductive Action where
  | addTicket (actor : Option ℕ) (boardPk columnId ticketId : ℕ)
  | move (cardId targetColumnId position : ℕ)
  | changeTicketStatus (id : ℕ) (newStatus : TicketStatus)
  /-- The process goes on with its request. -/
  | proceed (req : Request) (brokerUp : Bool)

section Turns

variable (layout : Layout)

/-- What the database accepts: orders that fit their column, and no ticket twice in a column of
a board. -/
def Storable (cards : List CardPosition) : Prop :=
  (∀ card ∈ cards, card.order ≤ layout.maxOrder) ∧
    (cards.map fun card => (card.column, card.ticket)).Nodup

instance (cards : List CardPosition) : Decidable (Storable layout cards) :=
  inferInstanceAs (Decidable (_ ∧ _))

/-- The checks of `add_ticket`. -/
def validateAdd (actor : Option ℕ) (boardPk columnId ticketId : ℕ) (db : Db) :
    Except String Column :=
  match layout.columns.find? (fun column => column.board.pk == boardPk && column.pk == columnId) with
  | none => .error "Column not found on this board."
  | some column =>
    if column.board.isPersonal && column.board.createdBy ≠ actor then .error "Board not found."
    else if !(db.tickets.tickets ticketId).any (fun ticket => !ticket.isDeleted) then
      .error "Ticket not found."
    else if isOnBoard column.board ticketId db.cards then
      .error "Ticket is already on this board."
    else if column.isFull db.cards then .error column.wipError
    else .ok column

def cardsOf (id : ℕ) (cards : List CardPosition) : List CardPosition :=
  (cards.filter fun card => card.ticket == id).insertionSort fun a b => a.order ≤ b.order

def written (req : Request) (brokerUp : Bool) (db : Db) : Errand → Db
  | .adding column ticketId => db.createCard column ticketId (countCards column db.cards)
  | .placing card targetColumn position =>
    { db with cards := placeCard card targetColumn position db.cards }
  | .syncing id newStatus listed =>
    { db with
      tickets := Tickets.step layout.toWorkspace db.tickets
        { op := .bulkChangeStatus id newStatus, req, brokerUp }
      cards := listed.foldl (syncCard fun board => layout.statusColumn board newStatus) db.cards }
  | _ => db

def store (db after : Db) (errand : Errand) : Db × Errand :=
  if Storable layout after.cards then (after, errand) else (db, .idle)

/-- `change_ticket_status` up to the save of the ticket, whose receiver lists the cards. -/
def beginStatusChange (id : ℕ) (newStatus : TicketStatus) (db : Db) : Errand :=
  if (db.tickets.tickets id).any (fun ticket => ticket.status ≠ newStatus) then
    .syncing id newStatus (cardsOf id db.cards)
  else .idle

def proceed (req : Request) (brokerUp : Bool) (db : Db) (errand : Errand) : Db × Errand :=
  let after := written layout req brokerUp db errand
  match errand with
  | .idle => (db, .idle)
  | .adding _ _ => store layout db after .idle
  | .moving card targetColumn position =>
    if card.column ≠ targetColumn && targetColumn.isFull db.cards then (db, .idle)
    else (db, .placing card targetColumn position)
  | .placing card targetColumn _ => store layout db after (.moved card targetColumn)
  | .moved card targetColumn =>
    match statusToWrite targetColumn card.ticket db.tickets with
    | none => (db, .idle)
    | some status => (db, beginStatusChange card.ticket status db)
  | .syncing _ _ _ => store layout db after .idle

def act (db : Db) (errand : Errand) : Action → Db × Errand
  | .addTicket actor boardPk columnId ticketId =>
    match validateAdd layout actor boardPk columnId ticketId db with
    | .error _ => (db, .idle)
    | .ok column => (db, .adding column ticketId)
  | .move cardId targetColumnId position =>
    match validateMove layout cardId targetColumnId db with
    | .error _ => (db, .idle)
    | .ok (card, targetColumn) => (db, .moving card targetColumn position)
  | .changeTicketStatus id newStatus => (db, beginStatusChange id newStatus db)
  | .proceed req brokerUp => proceed layout req brokerUp db errand

abbrev turn : World Db Errand → ℕ × Action → World Db Errand :=
  World.turn fun _ => act layout

def commits (db : Db) (errand : Errand) : Action → Option Db
  | .proceed req brokerUp =>
    let after := written layout req brokerUp db errand
    if errand.writes && Storable layout after.cards then some after else none
  | _ => none

def quiet (db : Db) : World Db Errand where
  shared := db
  locals _ := .idle

end Turns

/-! ## Where a transaction leaves the cards -/

def resaves (find : Board → Option Column) (listed : List CardPosition) (pk : ℕ) : Bool :=
  listed.any fun card => card.pk == pk && (homeOf find card.column).isSome

/-- The column that the transaction of a request leaves a stored card in. -/
def Errand.destination (layout : Layout) (row : CardPosition) : Errand → Column
  | .placing card targetColumn _ =>
    if row.pk = card.pk ∧ card.column ≠ targetColumn then targetColumn else row.column
  | .syncing _ newStatus listed =>
    if resaves (fun board => layout.statusColumn board newStatus) listed row.pk then
      (layout.statusColumn row.column.board newStatus).getD row.column
    else row.column
  | _ => row.column

section Columns

variable {find : Board → Option Column} {cards listed : List CardPosition} {card row : CardPosition}

theorem shiftOrders_map (cards : List CardPosition) (column : Column) (affected : ℕ → Bool) (shift : ℕ → ℕ) :
    ∃ edit, shiftOrders column affected shift cards = cards.map edit ∧
      ∀ row, (edit row).pk = row.pk ∧ (edit row).ticket = row.ticket ∧
        (edit row).column = row.column := by
  refine ⟨_, rfl, fun row => ?_⟩
  split <;> exact ⟨rfl, rfl, rfl⟩

/-- Where a move puts each card, when the card to move was loaded at any time before. -/
theorem placeCard_columns (cards : List CardPosition) (card : CardPosition) (targetColumn : Column) (position : ℕ) :
    ∃ edit, placeCard card targetColumn position cards = cards.map edit ∧
      ∀ row, (edit row).pk = row.pk ∧ (edit row).ticket = row.ticket ∧
        (edit row).column =
          if row.pk = card.pk ∧ card.column ≠ targetColumn then targetColumn else row.column := by
  unfold placeCard
  split
  · rename_i hsame
    simp only [hsame, ne_eq, not_true_eq_false, and_false, if_false]
    unfold reorderWithinColumn
    dsimp only
    split
    · exact ⟨id, cards.map_id.symm, fun row => ⟨rfl, rfl, rfl⟩⟩
    split
    all_goals
      obtain ⟨shifted, hshifted, hkeeps⟩ := shiftOrders_map cards card.column _ _
      rw [hshifted]
      refine ⟨_, List.map_map, fun row => ?_⟩
      obtain ⟨hpk, hticket, hcolumn⟩ := hkeeps row
      rw [Function.comp_apply]
      split <;> exact ⟨hpk, hticket, hcolumn⟩
  · rename_i hother
    simp only [ne_eq, hother, not_false_eq_true, and_true]
    obtain ⟨closed, hclosed, hcloses⟩ := shiftOrders_map cards card.column
      (fun order => card.order < order) (fun order => order - 1)
    obtain ⟨opened, hopened, hopens⟩ := shiftOrders_map (cards.map closed) targetColumn
      (fun order => position ≤ order) (fun order => order + 1)
    unfold moveAcrossColumns updateCard
    dsimp only
    rw [hclosed, hopened, List.map_map, List.map_map]
    refine ⟨_, rfl, fun row => ?_⟩
    obtain ⟨hpk, hticket, hcolumn⟩ := hcloses row
    obtain ⟨hpk', hticket', hcolumn'⟩ := hopens (closed row)
    simp only [Function.comp_apply, hpk', hpk]
    by_cases hmoved : row.pk = card.pk
    · rw [if_pos hmoved, if_pos hmoved]
      exact ⟨rfl, hticket'.trans hticket, rfl⟩
    · rw [if_neg hmoved, if_neg hmoved]
      exact ⟨hpk'.trans hpk, hticket'.trans hticket, hcolumn'.trans hcolumn⟩

theorem syncCard_columns (find : Board → Option Column) (cards : List CardPosition)
    (card : CardPosition) :
    ∃ edit, syncCard find cards card = cards.map edit ∧
      ∀ row, (edit row).pk = row.pk ∧ (edit row).ticket = row.ticket ∧
        (edit row).column =
          if row.pk = card.pk then (homeOf find card.column).getD row.column else row.column := by
  have hkept : homeOf find card.column = none → ∃ edit, cards = cards.map edit ∧
      ∀ row : CardPosition, (edit row).pk = row.pk ∧ (edit row).ticket = row.ticket ∧
        (edit row).column =
          if row.pk = card.pk then (homeOf find card.column).getD row.column else row.column := by
    intro hhome
    refine ⟨id, cards.map_id.symm, fun row => ⟨rfl, rfl, ?_⟩⟩
    rw [hhome, Option.getD_none, ite_self]
    rfl
  unfold syncCard
  cases hfound : find card.column.board with
  | none => exact hkept (homeOf_none hfound)
  | some targetColumn =>
    dsimp only
    split
    · rename_i hsame
      refine hkept ?_
      rw [homeOf, hfound]
      exact if_neg (by simpa using hsame)
    · rename_i hne
      have hhome : homeOf find card.column = some targetColumn := by
        rw [homeOf, hfound]
        exact if_pos (by simpa using hne)
      refine ⟨_, rfl, fun row => ?_⟩
      rw [hhome, Option.getD_some]
      split <;> exact ⟨rfl, rfl, rfl⟩

theorem resaves_cons {pk : ℕ} :
    resaves find (card :: listed) pk =
      (card.pk == pk && (homeOf find card.column).isSome || resaves find listed pk) := rfl

def SameBoards (listed cards : List CardPosition) : Prop :=
  ∀ card ∈ listed, ∀ row ∈ cards, row.pk = card.pk → row.column.board = card.column.board

/-- The whole loop. -/
theorem foldl_syncCard_columns
    (hfind : ∀ board targetColumn, find board = some targetColumn → targetColumn.board = board)
    (same : SameBoards listed cards) :
    ∃ edit, listed.foldl (syncCard find) cards = cards.map edit ∧
      ∀ row ∈ cards, (edit row).pk = row.pk ∧ (edit row).ticket = row.ticket ∧
        (edit row).column =
          if resaves find listed row.pk then (find row.column.board).getD row.column
          else row.column := by
  induction listed generalizing cards with
  | nil => exact ⟨id, cards.map_id.symm, fun row _ => ⟨rfl, rfl, rfl⟩⟩
  | cons card rest ih =>
    obtain ⟨first, hfirst, hmoves⟩ := syncCard_columns find cards card
    have hboard : ∀ row ∈ cards, (first row).column.board = row.column.board := by
      intro row hmem
      rw [(hmoves row).2.2]
      split
      · rename_i hpk
        cases hhome : homeOf find card.column with
        | none => rfl
        | some targetColumn =>
          rw [Option.getD_some, StaysOnBoard.homeOf hfind _ _ hhome]
          exact (same card List.mem_cons_self row hmem hpk).symm
      · rfl
    have same' : SameBoards rest (cards.map first) := by
      intro listed hlisted moved hmoved hpk
      obtain ⟨row, hmem, rfl⟩ := List.mem_map.mp hmoved
      rw [hboard row hmem]
      exact same listed (List.mem_cons_of_mem _ hlisted) row hmem ((hmoves row).1 ▸ hpk)
    obtain ⟨later, hlater, hmoves'⟩ := ih same'
    rw [List.foldl_cons, hfirst, hlater, List.map_map]
    refine ⟨_, rfl, fun row hmem => ?_⟩
    obtain ⟨hpk, hticket, hcolumn⟩ := hmoves row
    obtain ⟨hpk', hticket', hcolumn'⟩ := hmoves' _ (List.mem_map_of_mem hmem)
    refine ⟨hpk'.trans hpk, hticket'.trans hticket, ?_⟩
    rw [Function.comp_apply, hcolumn', hpk, hboard row hmem, hcolumn, resaves_cons]
    by_cases hsame : row.pk = card.pk
    · cases hhome : homeOf find card.column with
      | none => simp
      | some targetColumn =>
        have hfound : find row.column.board = some targetColumn := by
          rw [same card List.mem_cons_self row hmem hsame]
          exact (Option.filter_eq_some_iff.mp hhome).1
        simp [hsame, hfound]
    · simp [hsame, Ne.symm hsame]

end Columns

/-! ## What the turns keep -/

/-- What the constraints of the database say of the cards. -/
structure Stored (layout : Layout) (db : Db) : Prop where
  pk : (db.cards.map CardPosition.pk).Nodup
  fresh : ∀ card ∈ db.cards, card.pk < db.nextCard
  storable : Storable layout db.cards

/-- The card under the key of a loaded one is still that of its ticket on its board. -/
def Remembers (db : Db) (card : CardPosition) : Prop :=
  card.pk < db.nextCard ∧ ∀ row ∈ db.cards, row.pk = card.pk → row.place = card.place

def Errand.Holds (db : Db) : Errand → Prop
  | .moving card targetColumn _ | .placing card targetColumn _ =>
    targetColumn.board = card.column.board ∧ Remembers db card
  | .syncing id _ listed => ∀ card ∈ listed, card.ticket = id ∧ Remembers db card
  | _ => True

/-- Cards have been edited on their boards, or inserted. -/
structure Follows (db after : Db) : Prop where
  next : db.nextCard ≤ after.nextCard
  rows : ∀ row ∈ after.cards, db.nextCard ≤ row.pk ∨
    ∃ before ∈ db.cards, before.pk = row.pk ∧ before.place = row.place

section Turns

variable {layout : Layout} {req : Request} {brokerUp : Bool} {db after : Db} {errand : Errand}
  {card row : CardPosition}

theorem Remembers.of_mem (stored : Stored layout db) (hmem : card ∈ db.cards) :
    Remembers db card := by
  refine ⟨stored.fresh card hmem, fun row hrow hpk => ?_⟩
  rw [List.inj_on_of_nodup_map stored.pk hrow hmem hpk]

theorem Remembers.follows (remembers : Remembers db card) (follows : Follows db after) :
    Remembers after card := by
  refine ⟨Nat.lt_of_lt_of_le remembers.1 follows.next, fun row hmem hpk => ?_⟩
  rcases follows.rows row hmem with hnew | ⟨before, hbefore, hsame, hplace⟩
  · rw [hpk] at hnew
    exact absurd remembers.1 (Nat.not_lt.mpr hnew)
  · rw [← hplace]
    exact remembers.2 before hbefore (hsame.trans hpk)

theorem Errand.Holds.follows (holds : errand.Holds db) (follows : Follows db after) :
    errand.Holds after := by
  cases errand with
  | moving => exact ⟨holds.1, holds.2.follows follows⟩
  | placing => exact ⟨holds.1, holds.2.follows follows⟩
  | syncing => exact fun card hmem => ⟨(holds card hmem).1, (holds card hmem).2.follows follows⟩
  | idle => trivial
  | adding => trivial
  | moved => trivial

theorem Follows.refl (db : Db) : Follows db db where
  next := Nat.le_refl _
  rows row hmem := .inr ⟨row, hmem, rfl, rfl⟩

theorem Errand.Holds.destination_board (holds : errand.Holds db) (hmem : row ∈ db.cards) :
    (errand.destination layout row).board = row.column.board := by
  cases errand with
  | placing card targetColumn position =>
    dsimp only [destination]
    split
    · rename_i hmoved
      rw [holds.1]
      exact congrArg Prod.snd (holds.2.2 row hmem hmoved.1).symm
    · rfl
  | syncing id newStatus listed =>
    dsimp only [destination]
    split
    · cases hfound : layout.statusColumn row.column.board newStatus with
      | none => rfl
      | some targetColumn => exact (Layout.statusColumn_some hfound).1
    · rfl
  | idle => rfl
  | adding => rfl
  | moving => rfl
  | moved => rfl

theorem Errand.Holds.written_map (holds : errand.Holds db)
    (hadds : ∀ column ticketId, errand ≠ .adding column ticketId) :
    (written layout req brokerUp db errand).nextCard = db.nextCard ∧
      ∃ edit, (written layout req brokerUp db errand).cards = db.cards.map edit ∧
        ∀ row ∈ db.cards, (edit row).pk = row.pk ∧ (edit row).ticket = row.ticket ∧
          (edit row).column = errand.destination layout row := by
  have hkept : ∃ edit, db.cards = db.cards.map edit ∧ ∀ row ∈ db.cards,
      (edit row).pk = row.pk ∧ (edit row).ticket = row.ticket ∧ (edit row).column = row.column :=
    ⟨id, db.cards.map_id.symm, fun row _ => ⟨rfl, rfl, rfl⟩⟩
  refine ⟨by cases errand <;> first | rfl | exact absurd rfl (hadds _ _), ?_⟩
  cases errand with
  | idle => exact hkept
  | adding column ticketId => exact absurd rfl (hadds column ticketId)
  | moving => exact hkept
  | moved => exact hkept
  | placing card targetColumn position =>
    obtain ⟨edit, hedit, hkeeps⟩ := placeCard_columns db.cards card targetColumn position
    exact ⟨edit, hedit, fun row _ => hkeeps row⟩
  | syncing id newStatus listed =>
    refine foldl_syncCard_columns (fun _ _ hfound => (Layout.statusColumn_some hfound).1) ?_
    intro card hlisted row hmem hpk
    exact congrArg Prod.snd ((holds card hlisted).2.2 row hmem hpk)

theorem Errand.Holds.written_follows (holds : errand.Holds db) :
    Follows db (written layout req brokerUp db errand) := by
  by_cases hadds : ∃ column ticketId, errand = .adding column ticketId
  · obtain ⟨column, ticketId, rfl⟩ := hadds
    refine ⟨Nat.le_succ _, fun row hmem => ?_⟩
    rcases List.mem_append.mp hmem with hmem | hmem
    · exact .inr ⟨row, hmem, rfl, rfl⟩
    · rw [List.mem_singleton.mp hmem]
      exact .inl (Nat.le_refl _)
  · simp only [not_exists] at hadds
    obtain ⟨hnext, edit, hcards, hkeeps⟩ := holds.written_map hadds
    refine ⟨hnext.ge, fun row hmem => .inr ?_⟩
    rw [hcards] at hmem
    obtain ⟨before, hbefore, rfl⟩ := List.mem_map.mp hmem
    obtain ⟨hpk, hticket, hcolumn⟩ := hkeeps before hbefore
    refine ⟨before, hbefore, hpk.symm, Prod.ext hticket.symm ?_⟩
    dsimp only [CardPosition.place]
    rw [hcolumn, holds.destination_board hbefore]

/-- What the database accepts, it keeps. -/
theorem Stored.written (stored : Stored layout db) (holds : errand.Holds db)
    (storable : Storable layout (written layout req brokerUp db errand).cards) :
    Stored layout (written layout req brokerUp db errand) := by
  by_cases hadds : ∃ column ticketId, errand = .adding column ticketId
  · obtain ⟨column, ticketId, rfl⟩ := hadds
    refine ⟨?_, fun row hmem => ?_, storable⟩
    · dsimp only [Kanban.written, Db.createCard]
      rw [List.map_append]
      refine List.nodup_append.mpr ⟨stored.pk, List.nodup_singleton _, ?_⟩
      rintro pk hpk last hlast rfl
      obtain ⟨card, hcard, rfl⟩ := List.mem_map.mp hpk
      exact Nat.ne_of_lt (stored.fresh card hcard) (List.mem_singleton.mp hlast)
    · rcases List.mem_append.mp hmem with hmem | hmem
      · exact Nat.lt_succ_of_lt (stored.fresh row hmem)
      · rw [List.mem_singleton.mp hmem]
        exact Nat.lt_succ_self _
  · simp only [not_exists] at hadds
    obtain ⟨hnext, edit, hcards, hkeeps⟩ := holds.written_map hadds
    refine ⟨?_, fun row hmem => ?_, storable⟩
    · rw [hcards, List.map_map, List.map_congr_left (f := CardPosition.pk ∘ edit)
        fun row hmem => (hkeeps row hmem).1]
      exact stored.pk
    · rw [hcards] at hmem
      obtain ⟨before, hbefore, rfl⟩ := List.mem_map.mp hmem
      rw [hnext, (hkeeps before hbefore).1]
      exact stored.fresh before hbefore

theorem beginStatusChange_holds (stored : Stored layout db) (id : ℕ) (newStatus : TicketStatus) :
    (beginStatusChange id newStatus db).Holds db := by
  unfold beginStatusChange
  split
  · intro card hmem
    unfold cardsOf at hmem
    rw [List.mem_insertionSort, List.mem_filter, beq_iff_eq] at hmem
    exact ⟨hmem.2, Remembers.of_mem stored hmem.1⟩
  · trivial

theorem commits_proceed (hwrites : errand.writes = true) :
    commits layout db errand (.proceed req brokerUp) =
      if Storable layout (written layout req brokerUp db errand).cards then
        some (written layout req brokerUp db errand) else none := by
  dsimp only [commits]
  rw [hwrites, Bool.true_and]
  exact if_congr decide_eq_true_iff rfl rfl

theorem commits_cases {action : Action} (hcommits : commits layout db errand action = some after) :
    ∃ req brokerUp, after = written layout req brokerUp db errand ∧
      Storable layout after.cards := by
  cases action with
  | proceed req brokerUp =>
    dsimp only [commits] at hcommits
    split at hcommits
    · rename_i haccepted
      rw [Bool.and_eq_true, decide_eq_true_eq] at haccepted
      obtain rfl := Option.some.inj hcommits
      exact ⟨req, brokerUp, rfl, haccepted.2⟩
    · cases hcommits
  | addTicket => cases hcommits
  | move => cases hcommits
  | changeTicketStatus => cases hcommits

theorem act_shared (action : Action) :
    (act layout db errand action).1 = (commits layout db errand action).getD db := by
  have hstore : ∀ (after : Db) (next : Errand), (store layout db after next).1 =
      (if Storable layout after.cards then some after else none).getD db := by
    intro after next
    unfold store
    split <;> rfl
  cases action with
  | addTicket actor boardPk columnId ticketId =>
    dsimp only [act]
    split <;> rfl
  | move cardId targetColumnId position =>
    dsimp only [act]
    split <;> rfl
  | changeTicketStatus id newStatus => rfl
  | proceed req brokerUp =>
    cases errand with
    | idle => rfl
    | moving card targetColumn position =>
      dsimp only [act, proceed]
      split <;> rfl
    | moved card targetColumn =>
      dsimp only [act, proceed]
      split <;> rfl
    | adding column ticketId => rw [commits_proceed rfl]; exact hstore _ _
    | placing card targetColumn position => rw [commits_proceed rfl]; exact hstore _ _
    | syncing id newStatus listed => rw [commits_proceed rfl]; exact hstore _ _

theorem Stored.act (stored : Stored layout db) (holds : errand.Holds db) (action : Action) :
    Stored layout (act layout db errand action).1 := by
  rw [act_shared]
  cases hcommits : commits layout db errand action with
  | none => exact stored
  | some after =>
    obtain ⟨req, brokerUp, rfl, storable⟩ := commits_cases hcommits
    exact stored.written holds storable

theorem Errand.Holds.act_follows (holds : errand.Holds db) (action : Action) :
    Follows db (act layout db errand action).1 := by
  rw [act_shared]
  cases hcommits : commits layout db errand action with
  | none => exact Follows.refl db
  | some after =>
    obtain ⟨req, brokerUp, rfl, -⟩ := commits_cases hcommits
    exact holds.written_follows

/-- A request relies on what it has loaded itself. -/
theorem Errand.Holds.act (stored : Stored layout db) (holds : errand.Holds db) (action : Action) :
    (act layout db errand action).2.Holds (act layout db errand action).1 := by
  have hstore : ∀ (after : Db) (next : Errand), next.Holds after →
      (store layout db after next).2.Holds (store layout db after next).1 := by
    intro after next hnext
    unfold store
    split
    · exact hnext
    · trivial
  cases action with
  | addTicket actor boardPk columnId ticketId =>
    dsimp only [Kanban.act]
    split <;> trivial
  | move cardId targetColumnId position =>
    dsimp only [Kanban.act]
    split
    · trivial
    · rename_i card targetColumn hvalid
      obtain ⟨hmem, -, -, hboard⟩ := validateMove_cases hvalid
      exact ⟨hboard, Remembers.of_mem stored hmem⟩
  | changeTicketStatus id newStatus => exact beginStatusChange_holds stored id newStatus
  | proceed req brokerUp =>
    cases errand with
    | idle => trivial
    | moving card targetColumn position =>
      dsimp only [Kanban.act, proceed]
      split
      · trivial
      · exact holds
    | moved card targetColumn =>
      dsimp only [Kanban.act, proceed]
      split
      · trivial
      · exact beginStatusChange_holds stored _ _
    | adding column ticketId => exact hstore _ .idle trivial
    | placing card targetColumn position => exact hstore _ (.moved card targetColumn) trivial
    | syncing id newStatus listed => exact hstore _ .idle trivial

theorem sound_turns (layout : Layout) (Admits : World Db Errand → ℕ × Action → Prop) :
    World.Sound (fun _ => act layout) Admits (Stored layout) fun _ db errand => errand.Holds db where
  own _ process action keeps _ :=
    ⟨keeps.shared.act (keeps.locals process) action, (keeps.locals process).act keeps.shared action⟩
  others _ process action other keeps _ _ :=
    (keeps.locals other).follows ((keeps.locals process).act_follows action)

theorem keeps_quiet (stored : Stored layout db) :
    World.Keeps (Stored layout) (fun _ db errand => errand.Holds db) (quiet db) where
  shared := stored
  locals _ := trivial

end Turns

end Kanzan.Kanban

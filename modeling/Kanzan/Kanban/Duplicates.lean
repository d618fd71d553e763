import Mathlib.Data.List.Infix
import Kanzan.Kanban.Creations
import Kanzan.Kanban.Limits

/-!
# One card a ticket and board

The database keeps a ticket from having two cards in a column.  That it has one card on a board
is kept by the turns that find no card of the ticket there when they insert one.
-/

namespace Kanzan.Kanban

open Support Tickets

/-! ## Inserted cards -/

/-- No ticket is twice in a column. -/
def Apart (cards : List CardPosition) : Prop :=
  (cards.map fun card => (card.column, card.ticket)).Nodup

def OnePerBoard (cards : List CardPosition) : Prop := (cards.map CardPosition.place).Nodup

instance (cards : List CardPosition) : Decidable (Apart cards) :=
  inferInstanceAs (Decidable (List.Nodup _))

instance (cards : List CardPosition) : Decidable (OnePerBoard cards) :=
  inferInstanceAs (Decidable (List.Nodup _))

theorem OnePerBoard.apart {cards : List CardPosition} (unique : OnePerBoard cards) :
    Apart cards := by
  refine List.Nodup.of_map (fun pair : Column × ℕ => (pair.2, pair.1.board)) ?_
  rw [List.map_map]
  exact unique

section Inserts

variable {db : Db} {insert : Insert} {inserts : List Insert} {base : Layout}

theorem insertAll_cons (db : Db) (insert : Insert) (rest : List Insert) :
    db.insertAll (insert :: rest) =
      (db.createCard insert.column insert.ticket insert.order).insertAll rest := rfl

theorem insertAll_places (db : Db) (inserts : List Insert) :
    (db.insertAll inserts).cards.map CardPosition.place =
      db.cards.map CardPosition.place ++ inserts.map Insert.place := by
  induction inserts generalizing db with
  | nil => exact (List.append_nil _).symm
  | cons insert rest ih =>
    rw [insertAll_cons, ih, Db.createCard, List.map_append, List.append_assoc]
    rfl

theorem insertAll_follows (db : Db) (inserts : List Insert) :
    Follows db (db.insertAll inserts) := by
  induction inserts generalizing db with
  | nil => exact Follows.refl db
  | cons insert rest ih =>
    rw [insertAll_cons]
    have hrest := ih (db.createCard insert.column insert.ticket insert.order)
    refine ⟨Nat.le_of_succ_le hrest.next, fun row hmem => ?_⟩
    rcases hrest.rows row hmem with hnew | ⟨before, hbefore, hpk, hplace⟩
    · exact .inl (Nat.le_of_succ_le hnew)
    · rcases List.mem_append.mp hbefore with hbefore | hbefore
      · exact .inr ⟨before, hbefore, hpk, hplace⟩
      · rw [List.mem_singleton.mp hbefore] at hpk
        exact .inl hpk.le

/-- The keys of the cards are apart, and below the next one. -/
structure Counted (db : Db) : Prop where
  pk : (db.cards.map CardPosition.pk).Nodup
  fresh : ∀ card ∈ db.cards, card.pk < db.nextCard

theorem Counted.createCard (counted : Counted db) (column : Column) (ticket order : ℕ) :
    Counted (db.createCard column ticket order) where
  pk := by
    rw [Db.createCard, List.map_append]
    refine List.nodup_append.mpr ⟨counted.pk, List.nodup_singleton _, ?_⟩
    rintro pk hpk last hlast rfl
    obtain ⟨card, hcard, rfl⟩ := List.mem_map.mp hpk
    exact Nat.ne_of_lt (counted.fresh card hcard) (List.mem_singleton.mp hlast)
  fresh card hmem := by
    rcases List.mem_append.mp hmem with hmem | hmem
    · exact Nat.lt_succ_of_lt (counted.fresh card hmem)
    · rw [List.mem_singleton.mp hmem]
      exact Nat.lt_succ_self _

theorem Counted.insertAll (counted : Counted db) (inserts : List Insert) :
    Counted (db.insertAll inserts) := by
  induction inserts generalizing db with
  | nil => exact counted
  | cons insert rest ih => exact ih (counted.createCard ..)

end Inserts

/-! ## Cards moved within their boards -/

def MovedOnBoards (cards after : List CardPosition) : Prop :=
  ∃ edit, after = cards.map edit ∧
    ∀ row ∈ cards, (edit row).pk = row.pk ∧ (edit row).place = row.place

section Moves

variable {layout : Layout} {cards after later listed : List CardPosition}
  {find : Board → Option Column}

theorem MovedOnBoards.refl (cards : List CardPosition) : MovedOnBoards cards cards :=
  ⟨id, cards.map_id.symm, fun _ _ => ⟨rfl, rfl⟩⟩

theorem MovedOnBoards.trans (first : MovedOnBoards cards after)
    (second : MovedOnBoards after later) : MovedOnBoards cards later := by
  obtain ⟨edit, rfl, hedit⟩ := first
  obtain ⟨edit', rfl, hedit'⟩ := second
  refine ⟨_, List.map_map, fun row hmem => ?_⟩
  obtain ⟨hpk, hplace⟩ := hedit row hmem
  obtain ⟨hpk', hplace'⟩ := hedit' _ (List.mem_map_of_mem hmem)
  exact ⟨hpk'.trans hpk, hplace'.trans hplace⟩

theorem MovedOnBoards.places (moved : MovedOnBoards cards after) :
    after.map CardPosition.place = cards.map CardPosition.place := by
  obtain ⟨edit, rfl, hedit⟩ := moved
  rw [List.map_map]
  exact List.map_congr_left fun row hmem => (hedit row hmem).2

theorem MovedOnBoards.pks (moved : MovedOnBoards cards after) :
    after.map CardPosition.pk = cards.map CardPosition.pk := by
  obtain ⟨edit, rfl, hedit⟩ := moved
  rw [List.map_map]
  exact List.map_congr_left fun row hmem => (hedit row hmem).1

theorem movedOnBoards_foldl
    (hfind : ∀ board targetColumn, find board = some targetColumn → targetColumn.board = board)
    (same : SameBoards listed cards) :
    MovedOnBoards cards (listed.foldl (syncCard find) cards) := by
  obtain ⟨edit, hafter, hedit⟩ := foldl_syncCard_columns hfind same
  refine ⟨edit, hafter, fun row hmem => ?_⟩
  obtain ⟨hpk, hticket, hcolumn⟩ := hedit row hmem
  refine ⟨hpk, Prod.ext hticket ?_⟩
  dsimp only [CardPosition.place]
  rw [hcolumn]
  split
  · cases hfound : find row.column.board with
    | none => rfl
    | some targetColumn => exact hfind _ _ hfound
  · rfl

theorem movedOnBoards_placeCard {card : CardPosition} {targetColumn : Column} {position : ℕ}
    (hboard : targetColumn.board = card.column.board) (same : SameBoards [card] cards) :
    MovedOnBoards cards (placeCard card targetColumn position cards) := by
  obtain ⟨edit, hafter, hedit⟩ := placeCard_columns cards card targetColumn position
  refine ⟨edit, hafter, fun row hmem => ?_⟩
  obtain ⟨hpk, hticket, hcolumn⟩ := hedit row
  refine ⟨hpk, Prod.ext hticket ?_⟩
  dsimp only [CardPosition.place]
  rw [hcolumn]
  split
  · rename_i hmoved
    rw [hboard]
    exact (same card List.mem_cons_self row hmem hmoved.1).symm
  · rfl

theorem SameBoards.done {done : List CardPosition} (same : SameBoards listed cards)
    (hdone : done ∈ listed.inits) : SameBoards done cards :=
  fun card hmem => same card ((List.mem_inits _ _).mp hdone |>.subset hmem)

theorem movedOnBoards_loopTrail
    (hfind : ∀ board targetColumn, find board = some targetColumn → targetColumn.board = board)
    (same : SameBoards listed cards) {stage : List CardPosition}
    (hstage : stage ∈ loopTrail find listed cards) : MovedOnBoards cards stage := by
  obtain ⟨done, hdone, rfl⟩ := List.mem_map.mp hstage
  exact movedOnBoards_foldl hfind (same.done hdone)

section Save

variable (save : Save)

theorem Save.home_board (board : Board) (targetColumn : Column)
    (hfound : save.home layout board = some targetColumn) : targetColumn.board = board :=
  (Layout.statusColumn_some hfound).1

theorem movedOnBoards_syncStatus (same : SameBoards listed cards) :
    MovedOnBoards cards (save.syncStatus layout listed cards) := by
  unfold Save.syncStatus
  split
  · exact movedOnBoards_foldl save.home_board same
  · exact .refl cards

theorem sameBoards_relisted (hpk : (after.map CardPosition.pk).Nodup)
    (same : SameBoards listed after) : SameBoards (save.relisted listed after) after := by
  unfold Save.relisted
  split
  · intro card hlisted row hmem hsame
    obtain ⟨_, -, hfound⟩ := List.mem_filterMap.mp hlisted
    rw [List.inj_on_of_nodup_map hpk hmem (List.mem_of_find?_eq_some hfound) hsame]
  · exact same

theorem MovedOnBoards.sameBoards (moved : MovedOnBoards cards after)
    (same : SameBoards listed cards) : SameBoards listed after := by
  obtain ⟨edit, rfl, hedit⟩ := moved
  intro card hlisted row hmem hpk
  obtain ⟨before, hbefore, rfl⟩ := List.mem_map.mp hmem
  obtain ⟨hsame, hplace⟩ := hedit before hbefore
  exact (congrArg Prod.snd hplace).trans (same card hlisted before hbefore (hsame ▸ hpk))

theorem sameBoards_synced (hpk : (cards.map CardPosition.pk).Nodup)
    (same : SameBoards listed cards) :
    SameBoards (save.relisted listed (save.syncStatus layout listed cards))
      (save.syncStatus layout listed cards) := by
  have hfirst : MovedOnBoards cards (save.syncStatus layout listed cards) :=
    movedOnBoards_syncStatus save same
  exact sameBoards_relisted save (hfirst.pks ▸ hpk) (hfirst.sameBoards same)

theorem movedOnBoards_syncCards (hpk : (cards.map CardPosition.pk).Nodup)
    (same : SameBoards listed cards) :
    MovedOnBoards cards (save.syncCards layout listed cards) := by
  have hfirst : MovedOnBoards cards (save.syncStatus layout listed cards) :=
    movedOnBoards_syncStatus save same
  unfold Save.syncCards
  dsimp only
  split
  · exact hfirst
  · exact hfirst.trans (movedOnBoards_foldl (fun _ _ hfound => Layout.namedColumn_board hfound)
      (sameBoards_synced save hpk same))

end Save

end Moves

/-! ## What the tasks rely on -/

/-- What a request may rely on of the cards that it has read, and of those that it inserts. -/
def Task.Holds (db : Db) : Task → Prop
  | .errand begun => begun.Holds db
  | .listed _ _ snapshot => ∀ card ∈ snapshot, Remembers db card
  | .populating _ pending => (pending.map Insert.place).Nodup
  | .filling _ ticketIds _ => ticketIds.Nodup
  | _ => True

section Holds

variable {base layout : Layout} {req : Request} {brokerUp : Bool} {db after : Db} {task : Task}
  {floor : Floor} {listed : List CardPosition}

theorem sameBoards_of_remembers (follows : Follows db after)
    (remembers : ∀ card ∈ listed, Remembers db card) : SameBoards listed after.cards :=
  fun card hlisted row hmem hpk =>
    congrArg Prod.snd (((remembers card hlisted).follows follows).2 row hmem hpk)

variable (layout) in
/-- After its inserts a transaction moves cards within their boards only. -/
theorem Task.Holds.moves (holds : task.Holds db) (follows : Follows db after)
    (hpk : (after.cards.map CardPosition.pk).Nodup) :
    MovedOnBoards after.cards (task.moves layout after.cards) := by
  cases task with
  | errand errand =>
    cases errand with
    | placing card targetColumn position =>
      refine movedOnBoards_placeCard holds.1 (sameBoards_of_remembers follows ?_)
      intro listed hlisted
      rw [List.mem_singleton.mp hlisted]
      exact holds.2
    | syncing id newStatus listed =>
      exact movedOnBoards_foldl (fun _ _ hfound => (Layout.statusColumn_some hfound).1)
        (sameBoards_of_remembers follows fun card hlisted => (holds card hlisted).2)
    | _ => exact .refl _
  | listed save creation snapshot =>
    exact movedOnBoards_syncCards save hpk (sameBoards_of_remembers follows holds)
  | _ => exact .refl _

/-- So does each of its statements. -/
theorem Task.Holds.stages (counted : Counted db) (holds : task.Holds db)
    {stage : List CardPosition} (hstage : stage ∈ task.stages layout db) :
    MovedOnBoards (task.inserted db).cards stage := by
  have hfollows : Follows db (task.inserted db) := insertAll_follows db _
  have hpk : ((task.inserted db).cards.map CardPosition.pk).Nodup := (counted.insertAll _).pk
  rcases List.mem_cons.mp hstage with rfl | hstage
  · exact .refl _
  rcases List.mem_cons.mp hstage with rfl | hstage
  · exact holds.moves layout hfollows hpk
  cases task with
  | errand begun =>
    cases begun with
    | syncing id newStatus snapshot =>
      exact movedOnBoards_loopTrail (fun _ _ hfound => (Layout.statusColumn_some hfound).1)
        (sameBoards_of_remembers hfollows fun card hlisted => (holds card hlisted).2) hstage
    | _ => cases hstage
  | listed save creation snapshot =>
    have same := sameBoards_of_remembers hfollows holds
    rcases List.mem_append.mp hstage with hstage | hstage
    · split at hstage
      · exact movedOnBoards_loopTrail save.home_board same hstage
      · cases hstage
    · split at hstage
      · cases hstage
      · exact (movedOnBoards_syncStatus save same).trans
          (movedOnBoards_loopTrail (fun _ _ hfound => Layout.namedColumn_board hfound)
            (sameBoards_synced save hpk same) hstage)
  | _ => cases hstage

theorem Task.Holds.inserts_nodup (holds : task.Holds db) :
    ((task.inserts db).map Insert.place).Nodup := by
  cases task with
  | errand errand => cases errand <;> simp [Task.inserts]
  | populating columns pending =>
    cases columns with
    | nil => exact holds
    | cons => exact List.nodup_nil
  | filling column ticketIds order => cases ticketIds <;> simp [Task.inserts]
  | listed save creation snapshot => cases creation <;> simp [Task.inserts]
  | creating insert => exact List.nodup_singleton _
  | listing => exact List.nodup_nil
  | matching => exact List.nodup_nil
  | checked => exact List.nodup_nil

theorem Counted.written (counted : Counted db) (holds : task.Holds db) :
    Counted (task.written layout req brokerUp db) := by
  have hinserted := counted.insertAll (task.inserts db)
  have hmoved := holds.moves layout (insertAll_follows db (task.inserts db))
    hinserted.pk
  refine ⟨?_, fun card hmem => ?_⟩
  · exact hmoved.pks.symm ▸ hinserted.pk
  · have hpk : card.pk ∈ (db.insertAll (task.inserts db)).cards.map CardPosition.pk := by
      rw [← hmoved.pks]
      exact List.mem_map_of_mem hmem
    obtain ⟨before, hbefore, hsame⟩ := List.mem_map.mp hpk
    rw [← hsame]
    exact hinserted.fresh before hbefore

theorem Task.Holds.written_follows (counted : Counted db) (holds : task.Holds db) :
    Follows db (task.written layout req brokerUp db) := by
  have hfollows := insertAll_follows db (task.inserts db)
  obtain ⟨edit, hcards, hedit⟩ :=
    holds.moves layout hfollows (counted.insertAll (task.inserts db)).pk
  refine ⟨hfollows.next, fun row hmem => ?_⟩
  have hmem : row ∈ task.moves layout (db.insertAll (task.inserts db)).cards := hmem
  rw [hcards] at hmem
  obtain ⟨before, hbefore, rfl⟩ := List.mem_map.mp hmem
  obtain ⟨hpk, hplace⟩ := hedit before hbefore
  rw [hpk, hplace]
  exact hfollows.rows before hbefore

theorem Task.Holds.follows (holds : task.Holds db) (follows : Follows db after) :
    task.Holds after := by
  cases task with
  | errand errand => exact Errand.Holds.follows holds follows
  | listed save creation snapshot => exact fun card hmem => (holds card hmem).follows follows
  | populating columns pending => exact holds
  | filling column ticketIds order => exact holds
  | _ => trivial

end Holds

/-! ## What a turn does -/

section Turns

variable {base : Layout} {floor : Floor} {task : Task} {db : Db}

theorem Remembers.of_counted (counted : Counted db) {card : CardPosition} (hmem : card ∈ db.cards) :
    Remembers db card := by
  refine ⟨counted.fresh card hmem, fun row hrow hpk => ?_⟩
  rw [List.inj_on_of_nodup_map counted.pk hrow hmem hpk]

theorem Remembers.of_cardsOf (counted : Counted db) {id : ℕ} {card : CardPosition}
    (hmem : card ∈ cardsOf id db.cards) : card.ticket = id ∧ Remembers db card := by
  rw [cardsOf, List.mem_insertionSort, List.mem_filter, beq_iff_eq] at hmem
  exact ⟨hmem.2, Remembers.of_counted counted hmem.1⟩

theorem Counted.beginStatusChange_holds (counted : Counted db) (id : ℕ) (newStatus : TicketStatus) :
    (Task.errand (beginStatusChange id newStatus db)).Holds db := by
  unfold beginStatusChange
  split
  · exact fun card hmem => Remembers.of_cardsOf counted hmem
  · trivial

theorem insertsInto_places (column : Column) (ticketIds : List ℕ) (order : ℕ) :
    (insertsInto column ticketIds order).map Insert.place =
      ticketIds.map fun ticket => (ticket, column.board) := by
  refine List.ext_getElem (by simp [insertsInto]) fun index _ _ => ?_
  simp [insertsInto, Insert.place]

theorem mem_ticketsApart {existing : List ℕ} {status : TicketStatus} {id : ℕ}
    (hmem : id ∈ ticketsApart existing status db) : id ∉ existing := by
  rw [ticketsApart, List.mem_insertionSort, List.mem_filter, Bool.and_eq_true,
    decide_eq_true_eq] at hmem
  exact hmem.2.2

theorem nodup_ticketsApart (existing : List ℕ) (status : TicketStatus) (db : Db) :
    (ticketsApart existing status db).Nodup :=
  (List.perm_insertionSort _ _).nodup_iff.mpr ((List.nodup_dedup _).filter _)

theorem nodup_populateInserts {column : Column} {pending : List Insert}
    (nodup : (pending.map Insert.place).Nodup) :
    ((pending ++ populateInserts column pending db).map Insert.place).Nodup := by
  unfold populateInserts
  cases column.status with
  | none => rwa [List.append_nil]
  | some status =>
    dsimp only
    rw [List.map_append, insertsInto_places]
    refine List.nodup_append.mpr ⟨nodup, ?_, ?_⟩
    · exact (nodup_ticketsApart _ _ _).map fun _ _ hsame => congrArg Prod.fst hsame
    · rintro place hpending _ hnew rfl
      obtain ⟨insert, hinsert, rfl⟩ := List.mem_map.mp hpending
      obtain ⟨id, hid, hplace⟩ := List.mem_map.mp hnew
      refine mem_ticketsApart hid (List.mem_append_right _ (List.mem_map.mpr ⟨insert, ?_, ?_⟩))
      · exact List.mem_filter.mpr ⟨hinsert, beq_iff_eq.mpr (congrArg Prod.snd hplace).symm⟩
      · exact (congrArg Prod.fst hplace).symm

def Turned (base : Layout) (floor : Floor) (task : Task) (outcome : Floor × Task) : Demand → Prop
  | .proceed req brokerUp =>
    (outcome.1.db = floor.db ∨
      task.writes = true ∧
        (∀ cards ∈ task.stages (floor.layout base) floor.db, Storable base cards) ∧
        outcome.1.db = task.written (floor.layout base) req brokerUp floor.db) ∧
      outcome.2.Holds outcome.1.db
  | _ => outcome.1.db = floor.db ∧ outcome.2.Holds floor.db

theorem turned_commit {req : Request} {brokerUp : Bool} {next : Task} (hwrites : task.writes = true)
    (hnext : ∀ db, next.Holds db) :
    Turned base floor task (task.commit base req brokerUp floor next) (.proceed req brokerUp) := by
  unfold Task.commit
  dsimp only
  split
  · rename_i hstored
    exact ⟨.inr ⟨hwrites, hstored, rfl⟩, hnext _⟩
  · exact ⟨.inl rfl, trivial⟩

theorem turned_proceed (counted : Counted floor.db) (holds : task.Holds floor.db) (req : Request)
    (brokerUp : Bool) :
    Turned base floor task (task.proceed base req brokerUp floor) (.proceed req brokerUp) := by
  have hidle : Turned base floor task (floor, .idle) (.proceed req brokerUp) := ⟨.inl rfl, trivial⟩
  cases task with
  | errand begun =>
    cases begun with
    | idle => exact hidle
    | adding => exact turned_commit rfl fun _ => trivial
    | moving card targetColumn position =>
      dsimp only [Task.proceed]
      split
      · exact hidle
      · exact ⟨.inl rfl, holds⟩
    | placing => exact turned_commit rfl fun _ => trivial
    | moved card targetColumn =>
      dsimp only [Task.proceed]
      split
      · exact hidle
      · exact ⟨.inl rfl, counted.beginStatusChange_holds _ _⟩
    | syncing => exact turned_commit rfl fun _ => trivial
  | creating => exact turned_commit rfl fun _ => trivial
  | listing => exact ⟨.inl rfl, trivial⟩
  | matching => exact ⟨.inl rfl, nodup_ticketsApart ..⟩
  | filling column ticketIds order =>
    cases ticketIds with
    | nil => exact hidle
    | cons => exact turned_commit rfl fun _ => (List.nodup_cons.mp holds).2
  | populating columns pending =>
    cases columns with
    | nil => exact turned_commit rfl fun _ => trivial
    | cons => exact ⟨.inl rfl, nodup_populateInserts holds⟩
  | checked save creation =>
    exact ⟨.inl rfl, fun card hmem => (Remembers.of_cardsOf counted hmem).2⟩
  | listed => exact turned_commit rfl fun _ => trivial

theorem checkCard_holds (layout : Layout) (save : Save) (db : Db) :
    (checkCard layout save db).Holds db := by
  unfold checkCard
  split <;> trivial

theorem turned_insertColumn (actor : Option ℕ) (boardPk : ℕ) (name : String) (order : ℕ)
    (status : Option TicketStatus) (wipLimit : Option ℕ) :
    (insertColumn base floor actor boardPk name order status wipLimit).1.db = floor.db ∧
      (insertColumn base floor actor boardPk name order status wipLimit).2.Holds floor.db := by
  unfold insertColumn
  split
  · exact ⟨rfl, trivial⟩
  split
  · exact ⟨rfl, trivial⟩
  split
  · exact ⟨rfl, trivial⟩
  dsimp only
  refine ⟨rfl, ?_⟩
  split
  · trivial
  · split <;> trivial

variable (base) in
/-- What a turn does, whatever it is asked. -/
theorem turned_work (counted : Counted floor.db) (holds : task.Holds floor.db) (demand : Demand) :
    Turned base floor task (work base floor task demand) demand := by
  cases demand with
  | proceed req brokerUp => exact turned_proceed counted holds req brokerUp
  | addTicket actor boardPk columnId ticketId =>
    dsimp only [work]
    split <;> exact ⟨rfl, trivial⟩
  | move cardId targetColumnId position =>
    dsimp only [work]
    split
    · exact ⟨rfl, trivial⟩
    · rename_i card targetColumn hvalid
      obtain ⟨hmem, -, -, hboard⟩ := validateMove_cases hvalid
      exact ⟨rfl, hboard, Remembers.of_counted counted hmem⟩
  | changeTicketStatus id newStatus => exact ⟨rfl, counted.beginStatusChange_holds id newStatus⟩
  | createCard columnId ticketId order =>
    dsimp only [work]
    split <;> exact ⟨rfl, trivial⟩
  | createColumn actor boardPk name order status wipLimit =>
    exact turned_insertColumn actor boardPk name order status wipLimit
  | populate actor boardPk =>
    dsimp only [work]
    split
    · exact ⟨rfl, trivial⟩
    · exact ⟨rfl, List.nodup_nil⟩
  | saveTicket req id change =>
    dsimp only [work]
    split
    · exact ⟨rfl, trivial⟩
    · exact ⟨rfl, checkCard_holds ..⟩
  | createTicket req creator data =>
    dsimp only [work]
    split
    · exact ⟨rfl, trivial⟩
    split
    · exact ⟨rfl, trivial⟩
    · rename_i inst _
      exact ⟨rfl, checkCard_holds (floor.layout base)
        ⟨data.id, .createTicket creator data, { created := true }, inst⟩ floor.db⟩

end Turns

/-! ## Schedules -/

section Schedules

variable (base : Layout)

/-- A turn in which a move or a loop of a receiver is refused for a ticket twice in a column. -/
def Clashes (world : World Floor Task) : ℕ × Demand → Prop
  | (process, .proceed _ _) =>
    let task := world.locals process
    let floor := world.shared
    task.writes = true ∧ Apart (task.inserted floor.db).cards ∧
      ∃ cards ∈ task.stages (floor.layout base) floor.db, ¬ Apart cards
  | _ => False

/-- The turn inserts no card, or the database refuses it for its column, or its ticket has no card
on the board yet. -/
def FindsFree (world : World Floor Task) : ℕ × Demand → Prop
  | (process, .proceed _ _) =>
    let task := world.locals process
    let db := world.shared.db
    task.writes = true → Apart (task.inserted db).cards →
      ∀ insert ∈ task.inserts db, isOnBoard insert.column.board insert.ticket db.cards = false
  | _ => True

instance (world : World Floor Task) (event : ℕ × Demand) : Decidable (FindsFree world event) := by
  obtain ⟨process, demand⟩ := event
  cases demand <;> unfold FindsFree <;> infer_instance

variable {base} {world : World Floor Task} {floor : Floor} {task : Task}

theorem storable_apart {cards : List CardPosition} (storable : Storable base cards) : Apart cards :=
  storable.2

theorem OnePerBoard.inserted (unique : OnePerBoard floor.db.cards) (holds : task.Holds floor.db)
    (free : ∀ insert ∈ task.inserts floor.db,
      isOnBoard insert.column.board insert.ticket floor.db.cards = false) :
    OnePerBoard (task.inserted floor.db).cards := by
  unfold OnePerBoard Task.inserted
  rw [insertAll_places]
  refine List.nodup_append.mpr ⟨unique, holds.inserts_nodup, ?_⟩
  rintro place hplace _ hinserted rfl
  obtain ⟨insert, hinsert, rfl⟩ := List.mem_map.mp hinserted
  have hfree := free insert hinsert
  rw [isOnBoard_iff.mpr hplace] at hfree
  cases hfree

theorem OnePerBoard.stage (counted : Counted floor.db) (holds : task.Holds floor.db)
    (unique : OnePerBoard (task.inserted floor.db).cards) {layout : Layout}
    {cards : List CardPosition} (hstage : cards ∈ task.stages layout floor.db) :
    OnePerBoard cards := by
  unfold OnePerBoard
  rw [(holds.stages counted hstage).places]
  exact unique

theorem written_mem_stages (layout : Layout) (req : Request) (brokerUp : Bool) (db : Db)
    (task : Task) : (task.written layout req brokerUp db).cards ∈ task.stages layout db :=
  List.mem_cons_of_mem _ List.mem_cons_self

theorem inserted_mem_stages (layout : Layout) (db : Db) (task : Task) :
    (task.inserted db).cards ∈ task.stages layout db :=
  List.mem_cons_self

/-- The keys of the cards are apart, and so are the places. -/
structure Floor.Orderly (floor : Floor) : Prop where
  counted : Counted floor.db
  unique : OnePerBoard floor.db.cards

/-- What holds of the boards and of every request. -/
abbrev Steady : World Floor Task → Prop :=
  World.Keeps Floor.Orderly fun _ floor task => task.Holds floor.db

variable (base) in
/-- Every schedule of turns that find their places free keeps the boards in order. -/
theorem sound_work : World.Sound (fun _ => work base) (FindsFree) Floor.Orderly
    fun _ floor task => task.Holds floor.db := by
  have hturn : ∀ world process demand, Steady world → FindsFree world (process, demand) →
      ((work base world.shared (world.locals process) demand).1.db = world.shared.db ∨
        Follows world.shared.db (work base world.shared (world.locals process) demand).1.db) ∧
      (work base world.shared (world.locals process) demand).1.Orderly ∧
      (work base world.shared (world.locals process) demand).2.Holds
        (work base world.shared (world.locals process) demand).1.db := by
    intro world process demand keeps free
    have counted := keeps.shared.counted
    have holds := keeps.locals process
    have turned := turned_work base counted holds demand
    have hkept : ∀ after : Floor, after.db = world.shared.db → after.Orderly :=
      fun after hdb => ⟨hdb ▸ counted, hdb ▸ keeps.shared.unique⟩
    cases demand with
    | proceed req brokerUp =>
      obtain ⟨hdb | ⟨hwrites, hstored, hdb⟩, hnext⟩ := turned
      · exact ⟨.inl hdb, hkept _ hdb, hnext⟩
      · have hapart := storable_apart (hstored _ (inserted_mem_stages _ _ _))
        have hunique := keeps.shared.unique.inserted holds (free hwrites hapart)
        refine ⟨.inr ?_, ⟨?_, ?_⟩, hnext⟩
        · rw [hdb]
          exact holds.written_follows counted
        · rw [hdb]
          exact counted.written holds
        · rw [hdb]
          exact hunique.stage counted holds (written_mem_stages ..)
    | _ => exact ⟨.inl turned.1, hkept _ turned.1, turned.1 ▸ turned.2⟩
  refine ⟨fun world process demand keeps free => (hturn world process demand keeps free).2, ?_⟩
  intro world process demand other keeps free _
  rcases (hturn world process demand keeps free).1 with hdb | hfollows
  · exact hdb ▸ keeps.locals other
  · exact (keeps.locals other).follows hfollows

theorem Steady.not_clashes (keeps : Steady world) {event : ℕ × Demand}
    (free : FindsFree world event) : ¬ Clashes base world event := by
  obtain ⟨process, demand⟩ := event
  cases demand with
  | proceed req brokerUp =>
    rintro ⟨hwrites, hapart, cards, hstage, hclash⟩
    have holds := keeps.locals process
    have hunique := keeps.shared.unique.inserted holds (free hwrites hapart)
    exact hclash (hunique.stage keeps.shared.counted holds hstage).apart
  | _ => exact id

theorem steady_quiet (orderly : floor.Orderly) : Steady floor.quiet where
  shared := orderly
  locals _ := trivial

/--
As long as no card is inserted for a ticket that has one on the board, no ticket comes to two, and
no move and no receiver is refused for a ticket twice in a column.
-/
theorem onePerBoard_of_findsFree (base : Layout) {floor : Floor} (orderly : floor.Orderly)
    (events : List (ℕ × Demand)) (free : Every (shift base) (FindsFree) floor.quiet events) :
    Always (shift base) (fun world => OnePerBoard world.shared.db.cards) floor.quiet events ∧
      Every (shift base) (fun world event => ¬ Clashes base world event) floor.quiet events := by
  have hstep : ∀ world event, Steady world → FindsFree world event →
      Steady (shift base world event) := fun _ _ => (sound_work base).turn
  constructor
  · exact always_of_invariant Steady (fun _ keeps => keeps.shared.unique) hstep
      (steady_quiet orderly) events free
  · exact every_of_invariant Steady (fun _ _ keeps free => Steady.not_clashes keeps free) hstep
      (steady_quiet orderly) events free

/-- Two tickets, one of them on the board. -/
def openFloor : Floor where
  columns := [backlogColumn, singleColumn]
  nextColumn := 2
  db := { occupied with cards := occupied.cards.take 1 }

theorem orderly_openFloor : openFloor.Orderly where
  counted := { pk := by decide, fresh := by decide }
  unique := by decide

/-- One ticket is added while the card of the other is moved. -/
theorem onePerBoard_openFloor :
    let events : List (ℕ × Demand) :=
      [ (0, .addTicket (some 1) 0 0 1), (1, .move 0 0 0),
        (0, .proceed { clock := ⟨2, 2, 2, 2⟩, actor := some 1 } true),
        (1, .proceed { clock := ⟨2, 2, 2, 2⟩, actor := some 1 } true),
        (1, .proceed { clock := ⟨2, 2, 2, 2⟩, actor := some 1 } true) ]
    Always (shift .narrow) (fun world => OnePerBoard world.shared.db.cards) openFloor.quiet events ∧
      Every (shift .narrow) (fun world event => ¬ Clashes .narrow world event) openFloor.quiet
        events :=
  onePerBoard_of_findsFree .narrow orderly_openFloor _ (by decide +kernel)

/-- The endpoint of the cards puts a ticket into a second column of its board. -/
theorem second_card_on_board :
    ¬ ∀ (base : Layout) (floor : Floor), floor.Orderly → ∀ events : List (ℕ × Demand),
      Always (shift base) (fun world => OnePerBoard world.shared.db.cards) floor.quiet events ∧
        Every (shift base) (fun world event => ¬ Clashes base world event) floor.quiet events := by
  intro claim
  let created : List (ℕ × Demand) :=
    [ (0, .createCard 0 0 0), (0, .proceed { clock := ⟨2, 2, 2, 2⟩, actor := some 1 } true) ]
  obtain ⟨unique, -⟩ := claim .narrow openFloor orderly_openFloor created
  have htwo : ¬ OnePerBoard (run (shift .narrow) openFloor.quiet created).shared.db.cards := by
    decide +kernel
  exact htwo unique.finish

end Schedules

end Kanzan.Kanban

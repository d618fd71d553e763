import Kanzan.Kanban.Views
import Kanzan.Support.Erasure
import Kanzan.Support.Lists

/-!
# Personal boards

What a member's requests tell her of the personal boards of others, and what they do to them.
-/

namespace Kanzan.Kanban.Rest

open Support

/-! ## What is another user's -/

def Board.isForeign (user : ℕ) (board : Board) : Bool :=
  board.isPersonal && board.createdBy.any fun owner => owner ≠ user

def Store.visible (user : ℕ) (store : Store) : Store :=
  { store with boards := store.boards.filter fun board => !board.isForeign user }

def Store.foreign (user : ℕ) (store : Store) : List Board :=
  store.boards.filter (Board.isForeign user)

theorem Store.visible_visible (user : ℕ) (store : Store) :
    (store.visible user).visible user = store.visible user := by
  simp [Store.visible]

def othersBoards (user : ℕ) : Erasure Store where
  erase := Store.visible user
  erase_erase := Store.visible_visible user

/-- Boards and columns have keys of their own. -/
structure Store.Keyed (store : Store) : Prop where
  boards_pk : (store.boards.map Board.pk).Nodup
  columns_pk : ((columns store.boards).map fun found => found.2.pk).Nodup

/-- What the database demands of the rows: their keys, and the constraints `unique_together`. -/
structure Store.Valid (store : Store) : Prop extends store.Keyed where
  cards_pk : ((placed store.boards).map fun found => found.card.pk).Nodup
  columns_order : ∀ board ∈ store.boards, (board.columns.map Column.order).Nodup
  cards_object : ∀ found ∈ columns store.boards,
    (found.2.cards.map fun card => (card.contentType, card.objectId)).Nodup

/-- A response without the personal boards of others, and no change to them, whatever they hold. -/
def Separate (user : ℕ) (view : View) (store : Store) : Prop :=
  ∀ other : Store, other.Valid → (othersBoards user).Alike store other →
    (view other).1 = (view store).1 ∧ (view other).2.foreign user = other.foreign user

/-! ## Rows of all boards -/

section Rows

variable {store other : Store} {user : ℕ} {board board' : Board} {keep : Board → Bool}
  {boards : List Board}
variable {pk : ℕ} {found : Placed}

theorem mem_columns {found : Board × Column} :
    found ∈ columns boards ↔ found.1 ∈ boards ∧ found.2 ∈ found.1.columns := by
  simp only [columns, List.mem_flatMap, List.mem_map]
  constructor
  · rintro ⟨board, hboard, column, hcolumn, rfl⟩
    exact ⟨hboard, hcolumn⟩
  · rintro ⟨hboard, hcolumn⟩
    exact ⟨found.1, hboard, found.2, hcolumn, rfl⟩

theorem mem_board_placed :
    found ∈ board.placed ↔
      found.board = board ∧ found.column ∈ board.columns ∧ found.card ∈ found.column.cards := by
  simp only [Board.placed, List.mem_flatMap, List.mem_map]
  constructor
  · rintro ⟨column, hcolumn, card, hcard, rfl⟩
    exact ⟨rfl, hcolumn, hcard⟩
  · rintro ⟨rfl, hcolumn, hcard⟩
    exact ⟨found.column, hcolumn, found.card, hcard, rfl⟩

theorem mem_placed :
    found ∈ placed boards ↔
      found.board ∈ boards ∧ found.column ∈ found.board.columns ∧
        found.card ∈ found.column.cards := by
  simp only [placed, List.mem_flatMap, mem_board_placed]
  constructor
  · rintro ⟨board, hboard, rfl, hrest⟩
    exact ⟨hboard, hrest⟩
  · rintro ⟨hboard, hrest⟩
    exact ⟨found.board, hboard, rfl, hrest⟩

theorem columns_filter (keep : Board → Bool) (boards : List Board) :
    columns (boards.filter keep) = (columns boards).filter fun found => keep found.1 := by
  induction boards with
  | nil => rfl
  | cons board rest ih =>
    unfold columns at ih ⊢
    rw [List.flatMap_cons, List.filter_append, ← ih, List.filter_cons]
    cases hkeep : keep board <;> simp [hkeep, List.filter_map, Function.comp_def]

theorem placed_filter (keep : Board → Bool) (boards : List Board) :
    placed (boards.filter keep) = (placed boards).filter fun found => keep found.board := by
  induction boards with
  | nil => rfl
  | cons board rest ih =>
    have hboard : board.placed.filter (fun found => keep found.board) =
        if keep board then board.placed else [] := by
      split
      · rename_i hkeep
        rw [List.filter_eq_self]
        intro found hfound
        rw [(mem_board_placed.mp hfound).1]
        exact hkeep
      · rename_i hkeep
        rw [List.filter_eq_nil_iff]
        intro found hfound
        rw [(mem_board_placed.mp hfound).1]
        exact hkeep
    unfold placed at ih ⊢
    rw [List.flatMap_cons, List.filter_append, hboard, ← ih, List.filter_cons]
    split <;> simp

theorem isForeign_eq_false_of_isAccessible (h : board.isAccessible user = true) :
    board.isForeign user = false := by
  unfold Board.isAccessible at h
  unfold Board.isForeign
  cases hpersonal : board.isPersonal with
  | false => rfl
  | true =>
    rw [hpersonal, Bool.not_true, Bool.false_or, beq_iff_eq] at h
    rw [h]
    simp

theorem Store.board?_visible (store : Store) (user boardPk : ℕ) :
    (store.visible user).board? user boardPk = store.board? user boardPk := by
  refine find?_congr_filter (filter_filter_of_none fun board _ hforeign => ?_)
  rw [Bool.not_eq_false'] at hforeign
  rw [Bool.and_eq_false_iff]
  refine .inr (Bool.eq_false_iff.mpr fun haccess => ?_)
  rw [isForeign_eq_false_of_isAccessible haccess] at hforeign
  cases hforeign

theorem Store.board?_some (found : store.board? user pk = some board) :
    board ∈ store.boards ∧ board.pk = pk ∧ board.isForeign user = false := by
  have hfound := List.find?_some found
  rw [Bool.and_eq_true, beq_iff_eq] at hfound
  exact ⟨List.mem_of_find?_eq_some found, hfound.1,
    isForeign_eq_false_of_isAccessible hfound.2⟩

theorem Store.Keyed.board_ext (valid : store.Keyed) (hboard : board ∈ store.boards)
    (hboard' : board' ∈ store.boards) (hpk : board.pk = board'.pk) : board = board' :=
  List.inj_on_of_nodup_map valid.boards_pk hboard hboard' hpk

theorem Store.column?_some {column : Column} (found : store.column? pk = some (board, column)) :
    board ∈ store.boards ∧ column ∈ board.columns ∧ column.pk = pk := by
  have hmem := mem_columns.mp (List.mem_of_find?_eq_some found)
  exact ⟨hmem.1, hmem.2, eq_of_beq (List.find?_some found :)⟩

theorem Store.Keyed.column?_visible (valid : store.Keyed) (user pk : ℕ) :
    (store.visible user).column? pk =
      (store.column? pk).filter fun found => !found.1.isForeign user := by
  unfold Store.column? Store.visible
  rw [columns_filter]
  refine find?_filter_of_unique fun first hfirst second hsecond hpk hpk' => ?_
  exact List.inj_on_of_nodup_map valid.columns_pk hfirst hsecond
    ((eq_of_beq hpk).trans (eq_of_beq hpk').symm)

theorem Store.Valid.card?_visible (valid : store.Valid) (user pk : ℕ) :
    (store.visible user).card? pk =
      (store.card? pk).filter fun found => !found.board.isForeign user := by
  unfold Store.card? Store.visible
  rw [placed_filter]
  refine find?_filter_of_unique fun first hfirst second hsecond hpk hpk' => ?_
  exact List.inj_on_of_nodup_map valid.cards_pk hfirst hsecond
    ((eq_of_beq hpk).trans (eq_of_beq hpk').symm)

theorem Store.Keyed.column?_of_known (valid : store.Keyed)
    (known : ((store.visible user).column? pk).isSome = true) :
    store.column? pk = (store.visible user).column? pk := by
  obtain ⟨found, hfound⟩ := Option.isSome_iff_exists.mp known
  rw [hfound]
  rw [valid.column?_visible, Option.filter_eq_some_iff] at hfound
  exact hfound.1

theorem Store.Valid.card?_of_known (valid : store.Valid)
    (known : ((store.visible user).card? pk).isSome = true) :
    store.card? pk = (store.visible user).card? pk := by
  obtain ⟨found, hfound⟩ := Option.isSome_iff_exists.mp known
  rw [hfound]
  rw [valid.card?_visible, Option.filter_eq_some_iff] at hfound
  exact hfound.1

end Rows

/-! ## Saves -/

def Board.identity (board : Board) : ℕ × Bool × Option ℕ :=
  (board.pk, board.isPersonal, board.createdBy)

/-- Every board with this key is the member's own, or shared. -/
def Store.Shares (user pk : ℕ) (store : Store) : Prop :=
  ∀ row ∈ store.boards, row.pk = pk → row.isForeign user = false

section Saves

variable {store other : Store} {user pk : ℕ} {board board' : Board} {found : Placed}
variable {boards : List Board} {caller : Caller}

theorem isForeign_congr (h : board'.identity = board.identity) :
    board'.isForeign user = board.isForeign user := by
  unfold Board.identity at h
  unfold Board.isForeign
  rw [(Prod.mk.inj (Prod.mk.inj h).2).1, (Prod.mk.inj (Prod.mk.inj h).2).2]

theorem pk_of_identity (h : board'.identity = board.identity) : board'.pk = board.pk :=
  (Prod.mk.inj h).1

@[simp]
theorem identity_setColumn (board : Board) (column : Column) :
    (board.setColumn column).identity = board.identity := rfl

theorem Store.Keyed.shares (valid : store.Keyed) (hmem : board ∈ store.boards)
    (hshown : board.isForeign user = false) : store.Shares user board.pk := by
  intro row hrow hpk
  rw [valid.board_ext hrow hmem hpk]
  exact hshown

theorem filter_saveBoard (keep : Board → Bool)
    (hrows : ∀ row ∈ boards, row.pk = board.pk → keep row = keep board) :
    (saveBoard board boards).filter keep =
      if keep board then saveBoard board (boards.filter keep) else boards.filter keep := by
  induction boards with
  | nil => cases keep board <;> rfl
  | cons row rest ih =>
    have hrest := ih fun other hother => hrows other (List.mem_cons_of_mem _ hother)
    unfold saveBoard at hrest ⊢
    rw [List.map_cons, List.filter_cons, List.filter_cons, hrest]
    by_cases hpk : row.pk = board.pk
    · rw [if_pos hpk, hrows row List.mem_cons_self hpk]
      cases keep board with
      | false => rfl
      | true => simp [hpk]
    · rw [if_neg hpk]
      cases keep board <;> cases keep row <;> simp [hpk]

theorem Store.Shares.foreign_save (shares : store.Shares user board.pk)
    (hshown : board.isForeign user = false) :
    (store.save board).foreign user = store.foreign user := by
  have hfilter := filter_saveBoard (Board.isForeign user) fun row hrow hpk =>
    (shares row hrow hpk).trans hshown.symm
  rw [hshown] at hfilter
  exact hfilter

theorem Store.Shares.visible_save (shares : store.Shares user board.pk)
    (hshown : board.isForeign user = false) :
    (store.save board).visible user = (store.visible user).save board := by
  have hfilter := filter_saveBoard (fun row => !row.isForeign user)
    fun row hrow hpk => congrArg not ((shares row hrow hpk).trans hshown.symm)
  rw [hshown] at hfilter
  exact congrArg (fun boards => ({ store with boards } : Store)) hfilter

theorem Store.Shares.save (shares : store.Shares user pk) (hshown : board.isForeign user = false) :
    (store.save board).Shares user pk := by
  intro row hrow hpk
  obtain ⟨before, hbefore, rfl⟩ := List.mem_map.mp hrow
  split at hpk
  · rename_i heq
    rw [if_pos heq]
    exact hshown
  · rename_i hne
    rw [if_neg hne]
    exact shares before hbefore hpk

theorem map_pk_saveBoard (board : Board) (boards : List Board) :
    (saveBoard board boards).map Board.pk = boards.map Board.pk := by
  unfold saveBoard
  rw [List.map_map]
  refine List.map_congr_left fun row _ => ?_
  rw [Function.comp_apply]
  split
  · rename_i hpk
    exact hpk.symm
  · rfl

theorem map_pk_columns_saveBoard (board : Board) (hcolumns : ∀ row ∈ boards,
    row.pk = board.pk → board.columns.map Column.pk = row.columns.map Column.pk) :
    (columns (saveBoard board boards)).map (fun found => found.2.pk) =
      (columns boards).map fun found => found.2.pk := by
  induction boards with
  | nil => rfl
  | cons row rest ih =>
    have hrest := ih fun other hother => hcolumns other (List.mem_cons_of_mem _ hother)
    unfold saveBoard columns at hrest ⊢
    rw [List.map_cons, List.flatMap_cons, List.flatMap_cons, List.map_append, List.map_append,
      hrest, List.map_map, List.map_map]
    congr 1
    split
    · rename_i hpk
      exact hcolumns row List.mem_cons_self hpk
    · rfl

theorem Store.Keyed.save (keyed : store.Keyed) (hmem : board ∈ store.boards)
    (hpk : board'.pk = board.pk)
    (hcolumns : board'.columns.map Column.pk = board.columns.map Column.pk) :
    (store.save board').Keyed where
  boards_pk := by
    unfold Store.save
    rw [map_pk_saveBoard]
    exact keyed.boards_pk
  columns_pk := by
    unfold Store.save
    rw [map_pk_columns_saveBoard]
    · exact keyed.columns_pk
    · intro row hrow hsame
      rw [keyed.board_ext hrow hmem (hsame.trans hpk)]
      exact hcolumns

theorem Store.Shares.foreign_saved (shares : store.Shares user board.pk)
    (hshown : board.isForeign user = false) (hidentity : board'.identity = board.identity) :
    (store.save board').foreign user = store.foreign user := by
  rw [← pk_of_identity hidentity] at shares
  exact shares.foreign_save ((isForeign_congr hidentity).trans hshown)

theorem Store.Shares.saved (shares : store.Shares user pk) (hshown : board.isForeign user = false)
    (hidentity : board'.identity = board.identity) : (store.save board').Shares user pk :=
  shares.save ((isForeign_congr hidentity).trans hshown)

/-! ## Views of one board -/

theorem visible_of_alike (alike : (othersBoards user).Alike store other) :
    other.visible user = store.visible user := alike.symm

theorem tickets_of_alike (alike : (othersBoards user).Alike store other) :
    other.tickets = store.tickets := by
  have hvisible := visible_of_alike alike
  exact (Store.mk.inj hvisible).2

theorem board?_of_alike (alike : (othersBoards user).Alike store other) (pk : ℕ) :
    other.board? user pk = store.board? user pk := by
  rw [← Store.board?_visible other, visible_of_alike alike, Store.board?_visible]

theorem separate_onAccessible {missing : Response}
    {view : Board → Tickets.Db → Response × Option Board}
    (keeps : ∀ board tickets board', (view board tickets).2 = some board' →
      board'.identity = board.identity) :
    Separate caller.user (onAccessible caller missing pk view) store := by
  intro other valid alike
  unfold onAccessible onBoard
  dsimp only
  rw [board?_of_alike alike, tickets_of_alike alike]
  cases hfound : store.board? caller.user pk with
  | none => exact ⟨rfl, rfl⟩
  | some board =>
    dsimp only
    cases hview : view board store.tickets with
    | mk response changed =>
      cases changed with
      | none => exact ⟨rfl, rfl⟩
      | some board' =>
        refine ⟨rfl, ?_⟩
        rw [← board?_of_alike alike] at hfound
        obtain ⟨hmem, -, hshown⟩ := Store.board?_some hfound
        have hidentity := keeps board store.tickets board' (congrArg Prod.snd hview)
        exact (valid.shares hmem hshown).foreign_saved hshown hidentity

theorem separate_onColumn {boardPk : ℕ} {view : Board → Column → Response × Option Board}
    (keeps : ∀ board column board', (view board column).2 = some board' →
      board'.identity = board.identity) :
    Separate caller.user (onColumn caller boardPk pk view) store := by
  refine separate_onAccessible fun board _ board' hchanged => ?_
  cases hcolumn : board.column? pk with
  | none =>
    rw [hcolumn] at hchanged
    cases hchanged
  | some column =>
    rw [hcolumn] at hchanged
    exact keeps board column board' hchanged

theorem populateBoardFromTickets_identity (tickets : Tickets.Db) (cardId : ℕ → ℕ)
    (board : Board) :
    (populateBoardFromTickets tickets cardId board).1.identity = board.identity := by
  unfold populateBoardFromTickets
  refine List.foldlRecOn (motive := fun state : Board × ℕ => state.1.identity = board.identity) _ _ rfl
    fun state hstate column _ => ?_
  unfold populateColumn
  cases column.status with
  | none => exact hstate
  | some status => exact hstate

end Saves

/-! ## The endpoints that are separate -/

section Endpoints

variable {site : Site} {caller : Caller} {store : Store} {pk boardPk : ℕ}

theorem separate_listBoards : Separate caller.user (listBoards site caller) store := by
  intro other _ alike
  refine ⟨?_, rfl⟩
  have hshown : ∀ store : Store, (store.visible caller.user).boards.filter
      (Board.isAccessible caller.user) = store.boards.filter (Board.isAccessible caller.user) := by
    intro store
    refine filter_filter_of_none fun board _ hforeign => Bool.eq_false_iff.mpr fun haccess => ?_
    rw [isForeign_eq_false_of_isAccessible haccess] at hforeign
    cases hforeign
  unfold listBoards
  dsimp only
  rw [← hshown other, visible_of_alike alike, hshown store]

theorem separate_retrieveBoard : Separate caller.user (retrieveBoard caller pk) store :=
  separate_onAccessible fun _ _ _ h => by cases h

theorem newBoard_isForeign (body : BoardBody) (name : String) (resourceType : ResourceType)
    (tickets : Tickets.Db) :
    (newBoard site caller body name resourceType tickets).isForeign caller.user = false := by
  have hcreatedBy : (newBoard site caller body name resourceType tickets).createdBy =
      some caller.user := by
    unfold newBoard
    dsimp only
    split
    · rfl
    split
    · exact (Prod.mk.inj (Prod.mk.inj (populateBoardFromTickets_identity ..)).2).2.trans
        (by split <;> rfl)
    · rfl
  unfold Board.isForeign
  rw [hcreatedBy]
  simp

theorem separate_createBoard (body : BoardBody) :
    Separate caller.user (createBoard site caller body) store := by
  intro other _ alike
  unfold createBoard
  rw [tickets_of_alike alike]
  split
  · refine ⟨rfl, ?_⟩
    unfold Store.foreign
    dsimp only
    rw [List.filter_append, List.filter_cons, newBoard_isForeign]
    exact List.append_nil _
  · exact ⟨rfl, rfl⟩

theorem separate_updateBoard (isPartial : Bool) (body : BoardBody) :
    Separate caller.user (updateBoard caller isPartial pk body) store := by
  refine separate_onAccessible fun board _ board' hchanged => ?_
  dsimp only at hchanged
  split at hchanged
  · cases hchanged
    rfl
  · cases hchanged

theorem separate_destroyBoard : Separate caller.user (destroyBoard caller pk) store := by
  intro other valid alike
  unfold destroyBoard
  rw [board?_of_alike alike]
  cases hfound : store.board? caller.user pk with
  | none => exact ⟨rfl, rfl⟩
  | some board =>
    refine ⟨rfl, ?_⟩
    rw [← board?_of_alike alike] at hfound
    obtain ⟨hmem, -, hshown⟩ := Store.board?_some hfound
    have hshares := valid.shares hmem hshown
    refine filter_filter_of_none fun row hrow hremoved => ?_
    exact hshares row hrow (by simpa using hremoved)

theorem separate_populate : Separate caller.user (populate caller pk) store := by
  refine separate_onAccessible fun board tickets board' hchanged => ?_
  cases hchanged
  exact populateBoardFromTickets_identity tickets caller.cardId board

theorem separate_listColumns : Separate caller.user (listColumns caller boardPk) store :=
  separate_onAccessible fun _ _ _ h => by cases h

theorem separate_retrieveColumn :
    Separate caller.user (retrieveColumn caller boardPk pk) store :=
  separate_onColumn fun _ _ _ h => by cases h

theorem createColumn_eq {other : Store} (valid : other.Valid) (body : ColumnBody) {name : String}
    {order : ℕ} (herrors : body.errors false = []) (hname : body.name.value? = some name)
    (horder : body.order.value? = some order) :
    createColumn caller boardPk body other =
      onAccessible caller (.notFound "Board not found.") boardPk (fun board tickets =>
        if board.hasOrder (caller.columnId 0) order then (.serverError, none)
        else
          let column := newColumn caller body name order board tickets
          (.created (.column (column.data board.pk)),
            some { board with columns := board.columns ++ [column] })) other := by
  have hboard? : other.board? caller.user boardPk =
      (other.boards.find? fun board => board.pk == boardPk).filter
        (Board.isAccessible caller.user) := by
    rw [← find?_filter_of_unique fun first hfirst second hsecond hpk hpk' =>
      valid.board_ext hfirst hsecond ((eq_of_beq hpk).trans (eq_of_beq hpk').symm)]
    rw [List.find?_filter]
    unfold Store.board?
    congr 1
    funext board
    rw [Bool.and_comm, Bool.decide_and, Bool.decide_eq_true, Bool.decide_eq_true]
  unfold createColumn
  rw [herrors, hname, horder]
  unfold onAccessible onBoard
  dsimp only
  rw [hboard?]
  cases hfound : other.boards.find? fun board => board.pk == boardPk with
  | none => rfl
  | some board =>
    rw [Option.filter_some]
    cases haccess : board.isAccessible caller.user with
    | true =>
      have hopen : (board.isPersonal && decide (board.createdBy ≠ some caller.user)) = false := by
        unfold Board.isAccessible at haccess
        rw [Bool.or_eq_true, Bool.not_eq_true', beq_iff_eq] at haccess
        rcases haccess with h | h <;> simp [h]
      dsimp only
      rw [hopen, if_pos rfl]
      rfl
    | false =>
      have hclosed :
          (board.isPersonal && decide (board.createdBy ≠ some caller.user)) = true := by
        unfold Board.isAccessible at haccess
        rw [Bool.or_eq_false_iff, Bool.not_eq_false', beq_eq_false_iff_ne] at haccess
        simp [haccess.1, haccess.2]
      dsimp only
      rw [hclosed, if_pos rfl, if_neg (by simp)]

theorem separate_createColumn (hvalid : store.Valid) (body : ColumnBody) :
    Separate caller.user (createColumn caller boardPk body) store := by
  intro other valid alike
  cases herrors : body.errors false with
  | cons error rest =>
    unfold createColumn
    rw [herrors]
    exact ⟨rfl, rfl⟩
  | nil =>
    cases hname : body.name.value? with
    | none =>
      unfold createColumn
      rw [herrors, hname]
      exact ⟨rfl, rfl⟩
    | some name =>
      cases horder : body.order.value? with
      | none =>
        unfold createColumn
        rw [herrors, hname, horder]
        exact ⟨rfl, rfl⟩
      | some order =>
        rw [createColumn_eq valid body herrors hname horder,
          createColumn_eq hvalid body herrors hname horder]
        refine separate_onAccessible (fun board tickets board' hchanged => ?_) other valid
          alike
        dsimp only at hchanged
        split at hchanged
        · cases hchanged
        · cases hchanged
          rfl

theorem separate_updateColumn (isPartial : Bool) (body : ColumnBody) :
    Separate caller.user (updateColumn caller isPartial boardPk pk body) store := by
  refine separate_onColumn fun board column board' hchanged => ?_
  dsimp only at hchanged
  split at hchanged
  · split at hchanged
    · cases hchanged
    · cases hchanged
      rfl
  · cases hchanged

theorem separate_destroyColumn :
    Separate caller.user (destroyColumn caller boardPk pk) store := by
  refine separate_onColumn fun board column board' hchanged => ?_
  cases hchanged
  rfl

theorem separate_listCards : Separate caller.user (listCards site caller boardPk) store :=
  separate_onAccessible fun _ _ _ h => by cases h

theorem separate_retrieveCard :
    Separate caller.user (retrieveCard site caller boardPk pk) store := by
  refine separate_onAccessible fun board _ board' hchanged => ?_
  split at hchanged <;> cases hchanged

theorem separate_destroyCard : Separate caller.user (destroyCard caller boardPk pk) store := by
  refine separate_onAccessible fun board _ board' hchanged => ?_
  split at hchanged
  · cases hchanged
  · cases hchanged
    rfl

end Endpoints

end Kanzan.Kanban.Rest

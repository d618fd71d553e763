import Kanzan.Kanban.Privacy

/-!
# Ids of the body

The views that look up ids of the body in all boards, and the save that may follow a move.
-/

namespace Kanzan.Kanban.Rest

open Support

/-! ## Ids that are known -/

def Store.KnowsColumn (user : ℕ) (store : Store) (pk : ℕ) : Prop :=
  ((store.visible user).column? pk).isSome = true

def Store.KnowsCard (user : ℕ) (store : Store) (pk : ℕ) : Prop :=
  ((store.visible user).card? pk).isSome = true

def Field.Names (names : ℕ → Prop) (field : Field ℕ) : Prop :=
  ∀ pk, field = .given pk → names pk

section Known

variable {store other : Store} {user pk : ℕ} {board : Board} {column : Column} {field : Field ℕ}

theorem column?_of_alike (hvalid : store.Keyed) (valid : other.Keyed)
    (alike : (othersBoards user).Alike store other) (known : store.KnowsColumn user pk) :
    other.column? pk = store.column? pk := by
  have hother : other.KnowsColumn user pk := by
    unfold Store.KnowsColumn
    rw [visible_of_alike alike]
    exact known
  rw [hvalid.column?_of_known known, valid.column?_of_known hother, visible_of_alike alike]

theorem card?_of_alike (hvalid : store.Valid) (valid : other.Valid)
    (alike : (othersBoards user).Alike store other) (known : store.KnowsCard user pk) :
    other.card? pk = store.card? pk := by
  have hother : other.KnowsCard user pk := by
    unfold Store.KnowsCard
    rw [visible_of_alike alike]
    exact known
  rw [hvalid.card?_of_known known, valid.card?_of_known hother, visible_of_alike alike]

theorem field_column?_of_alike (hvalid : store.Valid) (valid : other.Valid)
    (alike : (othersBoards user).Alike store other)
    (known : field.Names (store.KnowsColumn user)) :
    (field.value?).bind other.column? = (field.value?).bind store.column? := by
  cases field with
  | missing => rfl
  | malformed message => rfl
  | given pk => exact column?_of_alike hvalid.toKeyed valid.toKeyed alike (known pk rfl)

theorem field_card?_of_alike (hvalid : store.Valid) (valid : other.Valid)
    (alike : (othersBoards user).Alike store other)
    (known : field.Names (store.KnowsCard user)) :
    (field.value?).bind other.card? = (field.value?).bind store.card? := by
  cases field with
  | missing => rfl
  | malformed message => rfl
  | given pk => exact card?_of_alike hvalid valid alike (known pk rfl)

theorem shown_of_column? (hvalid : store.Valid) (known : field.Names (store.KnowsColumn user))
    (found : (field.value?).bind store.column? = some (board, column)) :
    board ∈ store.boards ∧ column ∈ board.columns ∧ board.isForeign user = false := by
  cases field with
  | missing => cases found
  | malformed message => cases found
  | given pk =>
    have hfound : store.column? pk = some (board, column) := found
    have hshown := hfound
    obtain ⟨hboard, hcolumn, -⟩ := Store.column?_some hfound
    rw [hvalid.column?_of_known (known pk rfl), hvalid.column?_visible,
      Option.filter_eq_some_iff] at hshown
    exact ⟨hboard, hcolumn, by simpa using hshown.2⟩

theorem shown_of_card? {found : Placed} (hvalid : store.Valid)
    (known : field.Names (store.KnowsCard user))
    (hfound : (field.value?).bind store.card? = some found) :
    found.board ∈ store.boards ∧ found.column ∈ found.board.columns ∧
      found.card ∈ found.column.cards ∧ found.board.isForeign user = false := by
  cases field with
  | missing => cases hfound
  | malformed message => cases hfound
  | given pk =>
    have hcard : store.card? pk = some found := hfound
    have hshown := hcard
    obtain ⟨hboard, hcolumn, hmem⟩ := mem_placed.mp (List.mem_of_find?_eq_some hcard)
    rw [hvalid.card?_of_known (known pk rfl), hvalid.card?_visible,
      Option.filter_eq_some_iff] at hshown
    exact ⟨hboard, hcolumn, hmem, by simpa using hshown.2⟩

end Known

/-! ## Cards -/

section Cards

variable {site : Site} {caller : Caller} {store other : Store} {boardPk pk : ℕ}
variable {user : ℕ} {body : CardBody} {found : Placed}

theorem cardErrors_of_alike (hvalid : store.Valid) (valid : other.Valid)
    (alike : (othersBoards user).Alike store other)
    (known : body.column.Names (store.KnowsColumn user)) (isPartial : Bool) :
    body.errors isPartial other = body.errors isPartial store := by
  unfold CardBody.errors
  congr 3
  cases hcolumn : body.column with
  | missing => rfl
  | malformed message => rfl
  | given pk =>
    have hlooked := column?_of_alike hvalid.toKeyed valid.toKeyed alike (known pk hcolumn)
    simp only [Field.errors, relatedError, hlooked]

theorem separate_createCard (hvalid : store.Valid)
    (known : body.column.Names (store.KnowsColumn caller.user)) :
    Separate caller.user (createCard site caller body) store := by
  intro other valid alike
  have hcolumns := field_column?_of_alike hvalid valid alike known
  unfold createCard
  rw [cardErrors_of_alike hvalid valid alike known, hcolumns]
  split
  · rename_i board column contentType objectId _ hcolumn _ _
    split
    · exact ⟨rfl, rfl⟩
    · refine ⟨rfl, ?_⟩
      obtain ⟨-, -, hshown⟩ := shown_of_column? hvalid known hcolumn
      rw [← hcolumns] at hcolumn
      have hmem : board ∈ other.boards := by
        obtain ⟨_, -, hfound⟩ := Option.bind_eq_some_iff.mp hcolumn
        exact (Store.column?_some hfound).1
      exact (valid.shares hmem hshown).foreign_saved hshown (identity_setColumn ..)
  · exact ⟨rfl, rfl⟩

theorem foreign_saveCard {target : Board × Column} {card : Card}
    (hfound : store.Shares user found.board.pk) (htarget : store.Shares user target.1.pk)
    (hshown : found.board.isForeign user = false) (hshown' : target.1.isForeign user = false) :
    (store.saveCard found target card).foreign user = store.foreign user := by
  unfold Store.saveCard
  split
  · exact htarget.foreign_saved hshown' rfl
  split
  · exact hfound.foreign_saved hshown rfl
  · have hleft := hfound.foreign_saved hshown
      (identity_setColumn found.board (found.column.removeCard card.pk))
    rw [← hleft]
    exact (htarget.saved hshown (identity_setColumn ..)).foreign_saved hshown' rfl

/-- The card that `get_object` finds. -/
theorem updatedCard_of_alike (alike : (othersBoards user).Alike store other) :
    ((other.board? user boardPk).bind fun board => board.card? pk) =
      (store.board? user boardPk).bind fun board => board.card? pk := by
  rw [board?_of_alike alike]

theorem shown_of_updatedCard
    (hfound : ((store.board? user boardPk).bind fun board => board.card? pk) = some found) :
    found.board ∈ store.boards ∧ found.column ∈ found.board.columns ∧
      found.card ∈ found.column.cards ∧ found.board.isForeign user = false := by
  obtain ⟨board, hboard, hcard⟩ := Option.bind_eq_some_iff.mp hfound
  obtain ⟨hmem, -, hshown⟩ := Store.board?_some hboard
  obtain ⟨rfl, hcolumn, hcard⟩ := mem_board_placed.mp (List.mem_of_find?_eq_some hcard)
  exact ⟨hmem, hcolumn, hcard, hshown⟩

theorem separate_updateCard (hvalid : store.Valid) {isPartial : Bool}
    (known : ∀ found, ((store.board? caller.user boardPk).bind fun board => board.card? pk) =
      some found → body.column.Names (store.KnowsColumn caller.user)) :
    Separate caller.user (updateCard site caller isPartial boardPk pk body) store := by
  intro other valid alike
  unfold updateCard
  rw [updatedCard_of_alike alike]
  cases hfound : (store.board? caller.user boardPk).bind fun board => board.card? pk with
  | none => exact ⟨rfl, rfl⟩
  | some found =>
    have known := known found hfound
    have hcolumns := field_column?_of_alike hvalid valid alike known
    dsimp only
    rw [cardErrors_of_alike hvalid valid alike known, hcolumns]
    split
    · split
      · exact ⟨rfl, rfl⟩
      · refine ⟨rfl, ?_⟩
        rw [← updatedCard_of_alike alike] at hfound
        obtain ⟨hmem, -, -, hshown⟩ := shown_of_updatedCard hfound
        have hshares := valid.shares hmem hshown
        refine foreign_saveCard hshares ?_ hshown ?_
        · cases htarget : (body.column.value?).bind store.column? with
          | none => exact hshares
          | some target =>
            have hshown' := (shown_of_column? hvalid known htarget).2.2
            rw [← hcolumns] at htarget
            obtain ⟨_, -, hlooked⟩ := Option.bind_eq_some_iff.mp htarget
            exact valid.shares (Store.column?_some hlooked).1 hshown'
        · cases htarget : (body.column.value?).bind store.column? with
          | none => exact hshown
          | some target => exact (shown_of_column? hvalid known htarget).2.2
    · exact ⟨rfl, rfl⟩

/-! ## Tickets added -/

/-- What `add_ticket` is told of the column, if it looks for it: the board of the path, or the
column, is not another user's. -/
def AddKnown (user : ℕ) (store : Store) (boardPk : ℕ) (columnId ticketId : Field ℕ) : Prop :=
  ticketId ≠ .missing → columnId.Names fun pk =>
    (∃ board ∈ (store.visible user).boards, board.pk = boardPk) ∨ store.KnowsColumn user pk

/-- The column that `add_ticket` finds. -/
def Store.columnOn? (store : Store) (boardPk columnId : ℕ) : Option (Board × Column) :=
  (columns store.boards).find? fun found => found.1.pk == boardPk && found.2.pk == columnId

theorem Store.Valid.columnOn?_eq {columnId : ℕ} (hvalid : store.Valid)
    (known : (∃ board ∈ (store.visible user).boards, board.pk = boardPk) ∨
      store.KnowsColumn user columnId) :
    store.columnOn? boardPk columnId = (store.visible user).columnOn? boardPk columnId := by
  unfold Store.columnOn? Store.visible
  rw [columns_filter]
  refine find?_congr_filter (filter_filter_of_none fun found hfound hforeign => ?_).symm
  rw [Bool.and_eq_false_iff]
  by_contra hwanted
  rw [not_or, Bool.not_eq_false, Bool.not_eq_false, beq_iff_eq, beq_iff_eq] at hwanted
  obtain ⟨hboard, hcolumn⟩ := mem_columns.mp hfound
  rcases known with ⟨board, hshown, hpk⟩ | known
  · obtain ⟨hmem, hkept⟩ := List.mem_filter.mp hshown
    rw [hvalid.board_ext hboard hmem (hwanted.1.trans hpk.symm), hkept] at hforeign
    cases hforeign
  · obtain ⟨shown, hshown⟩ := Option.isSome_iff_exists.mp known
    rw [hvalid.column?_visible, Option.filter_eq_some_iff] at hshown
    obtain ⟨hlooked, hkept⟩ := hshown
    obtain ⟨hmem, hmem', hpk⟩ := Store.column?_some hlooked
    have hsame := List.inj_on_of_nodup_map hvalid.columns_pk hfound
      (mem_columns.mpr ⟨hmem, hmem'⟩) (hwanted.2.trans hpk.symm)
    rw [hsame, hkept] at hforeign
    cases hforeign

theorem separate_addTicket (hvalid : store.Valid) {columnId ticketId : Field ℕ}
    (known : AddKnown caller.user store boardPk columnId ticketId) :
    Separate caller.user (addTicket site caller boardPk columnId ticketId) store := by
  intro other valid alike
  have hvisible := visible_of_alike alike
  unfold addTicket
  rw [tickets_of_alike alike]
  split
  · exact ⟨rfl, rfl⟩
  · exact ⟨rfl, rfl⟩
  · exact ⟨rfl, rfl⟩
  · rename_i pk hsupplied
    have known := known hsupplied pk rfl
    have hother : (∃ board ∈ (other.visible caller.user).boards, board.pk = boardPk) ∨
        other.KnowsColumn caller.user pk := by
      unfold Store.KnowsColumn at known ⊢
      rw [hvisible]
      exact known
    have hfound : other.columnOn? boardPk pk = store.columnOn? boardPk pk := by
      rw [valid.columnOn?_eq hother, hvalid.columnOn?_eq known, hvisible]
    unfold Store.columnOn? at hfound
    rw [hfound]
    split
    · exact ⟨rfl, rfl⟩
    · rename_i board column hcolumn
      split
      · exact ⟨rfl, rfl⟩
      · rename_i hopen
        have hshown : board.isForeign caller.user = false := by
          refine isForeign_eq_false_of_isAccessible ?_
          unfold Board.isAccessible
          rw [Bool.and_eq_true, decide_eq_true_eq, not_and_or, not_not] at hopen
          rcases hopen with h | h <;> simp [h]
        rw [← hfound] at hcolumn
        have hmem := (mem_columns.mp (List.mem_of_find?_eq_some hcolumn)).1
        split
        · exact ⟨rfl, rfl⟩
        · exact ⟨rfl, rfl⟩
        · split
          · exact ⟨rfl, rfl⟩
          · split
            · exact ⟨rfl, rfl⟩
            · split
              · exact ⟨rfl, rfl⟩
              · exact ⟨rfl, (valid.shares hmem hshown).foreign_saved hshown
                  (identity_setColumn ..)⟩

end Cards

/-! ## The cards of a ticket, without some boards -/

section Sync

variable {status : Tickets.TicketStatus} {keep : Board → Bool} {boards boards' : List Board}
  {board board' : Board} {found : Placed} {ticket : ℕ}

def Steady (keep : Board → Bool) : Prop :=
  ∀ board board' : Board, board'.identity = board.identity → keep board' = keep board

theorem steady_isForeign (user : ℕ) : Steady (Board.isForeign user) :=
  fun _ _ => isForeign_congr

theorem syncCard_identity (success : board.syncCard status found = some board') :
    board'.identity = board.identity := by
  unfold Board.syncCard at success
  split at success
  · cases success
    rfl
  split at success
  · cases success
    rfl
  split at success
  · cases success
  split at success <;> cases success <;> rfl

theorem syncCard_filter (steady : Steady keep)
    (hrows : ∀ row ∈ boards, row.pk = found.board.pk → keep row = keep found.board)
    (success : syncCard status boards found = some boards') :
    if keep found.board then
      syncCard status (boards.filter keep) found = some (boards'.filter keep)
    else boards'.filter keep = boards.filter keep := by
  have hfind : keep found.board = true →
      (boards.filter keep).find? (fun board => board.pk == found.board.pk) =
        boards.find? fun board => board.pk == found.board.pk := by
    intro hkeep
    refine find?_congr_filter (filter_filter_of_none fun row hrow hdropped => ?_)
    refine Bool.eq_false_iff.mpr fun hpk => ?_
    rw [hrows row hrow (eq_of_beq hpk), hkeep] at hdropped
    cases hdropped
  unfold syncCard at success ⊢
  cases hboard : boards.find? fun board => board.pk == found.board.pk with
  | none =>
    rw [hboard] at success
    cases success
    split
    · rename_i hkeep
      rw [hfind hkeep, hboard]
    · rfl
  | some board =>
    rw [hboard] at success
    obtain ⟨board', hsynced, rfl⟩ := Option.map_eq_some_iff.mp success
    have hidentity := syncCard_identity hsynced
    have hpk : board.pk = found.board.pk := eq_of_beq (List.find?_some hboard :)
    have hkept := hrows board (List.mem_of_find?_eq_some hboard) hpk
    have hkept' := (steady board board' hidentity).trans hkept
    rw [filter_saveBoard keep fun row hrow hsame => (hrows row hrow
      (hsame.trans ((pk_of_identity hidentity).trans hpk))).trans hkept'.symm, hkept']
    split
    · rename_i hkeep
      rw [hfind hkeep, hboard]
      dsimp only
      rw [hsynced]
      rfl
    · rfl

theorem rows_of_syncCard {listed : List Placed} (steady : Steady keep)
    (hrows : ∀ row ∈ boards, ∀ other ∈ listed, row.pk = other.board.pk →
      keep row = keep other.board)
    (success : syncCard status boards found = some boards') :
    ∀ row ∈ boards', ∀ other ∈ listed, row.pk = other.board.pk → keep row = keep other.board := by
  intro row hrow other hother hpk
  unfold syncCard at success
  cases hboard : boards.find? fun board => board.pk == found.board.pk with
  | none =>
    rw [hboard] at success
    cases success
    exact hrows row hrow other hother hpk
  | some board =>
    rw [hboard] at success
    obtain ⟨board', hsynced, rfl⟩ := Option.map_eq_some_iff.mp success
    have hidentity := syncCard_identity hsynced
    obtain ⟨before, hbefore, rfl⟩ := List.mem_map.mp hrow
    split at hpk
    · rename_i hsame
      rw [if_pos hsame, steady board board' hidentity]
      exact hrows board (List.mem_of_find?_eq_some hboard) other hother
        ((pk_of_identity hidentity).symm.trans hpk)
    · rename_i hne
      rw [if_neg hne]
      exact hrows before hbefore other hother hpk

theorem foldlM_syncCard_filter (steady : Steady keep) (listed : List Placed)
    (hrows : ∀ row ∈ boards, ∀ found ∈ listed, row.pk = found.board.pk →
      keep row = keep found.board)
    (success : listed.foldlM (syncCard status) boards = some boards') :
    (listed.filter fun found => keep found.board).foldlM (syncCard status) (boards.filter keep) =
      some (boards'.filter keep) := by
  induction listed generalizing boards with
  | nil =>
    cases success
    rfl
  | cons found rest ih =>
    rw [List.foldlM_cons] at success
    obtain ⟨between, hturn, hrest⟩ := Option.bind_eq_some_iff.mp success
    have hturned := syncCard_filter steady
      (fun row hrow => hrows row hrow found List.mem_cons_self) hturn
    have hloop := ih (rows_of_syncCard steady (fun row hrow other hother =>
      hrows row hrow other (List.mem_cons_of_mem _ hother)) hturn) hrest
    rw [List.filter_cons]
    split
    · rename_i hkeep
      rw [if_pos hkeep] at hturned
      rw [List.foldlM_cons, hturned]
      exact hloop
    · rename_i hdrop
      rw [if_neg hdrop] at hturned
      rw [← hturned]
      exact hloop

theorem cardsOf_filter (keep : Board → Bool) (ticket : ℕ) (boards : List Board) :
    cardsOf ticket (boards.filter keep) =
      (cardsOf ticket boards).filter fun found => keep found.board := by
  have : IsTrans Placed fun a b => a.card.order ≤ b.card.order := ⟨fun _ _ _ => Nat.le_trans⟩
  have : Std.Total fun a b : Placed => a.card.order ≤ b.card.order :=
    ⟨fun a b => Nat.le_total a.card.order b.card.order⟩
  unfold cardsOf
  rw [filter_insertionSort, List.filter_comm, ← placed_filter]

theorem syncCards_filter (steady : Steady keep) (hpk : (boards.map Board.pk).Nodup)
    (success : syncCards status ticket boards = some boards') :
    syncCards status ticket (boards.filter keep) = some (boards'.filter keep) := by
  unfold syncCards at success ⊢
  rw [cardsOf_filter]
  refine foldlM_syncCard_filter steady _ (fun row hrow found hfound hsame => ?_) success
  have hmem := List.mem_of_mem_filter (List.mem_insertionSort _ |>.mp hfound)
  rw [List.inj_on_of_nodup_map hpk hrow (mem_placed.mp hmem).1 hsame]

end Sync

/-! ## Moves -/

/-- Whether the save that follows a move would reach the boards of others if they held a card of
the same ticket or the column on the card: the move is one on a shared board, and writes a status
to the ticket, or to a column that is on no visible board. -/
def reachesOut (found : Placed) (target : Column) (moved : Store) : Bool :=
  match target.status with
  | none => false
  | some status =>
    !found.board.isPersonal &&
      match found.card.contentType with
      | .ticket =>
        (moved.tickets.tickets found.card.objectId).any
            (fun ticket => ticket.status ≠ status) &&
          (syncCards status found.card.objectId moved.boards).isSome
      | .column => (moved.column? found.card.objectId).isNone
      | .other _ => false

/-- A request to move or reorder a card that is accepted, and is not followed by such a save. -/
def MoveContained (site : Site) (user : ℕ) (isReorder : Bool) (body : MoveBody)
    (store : Store) : Prop :=
  ∀ order, validateMove body store = .ok order →
    (isReorder && order.found.column.pk ≠ order.target.pk) = false →
      moveError site order.found order.target order.position = none →
        reachesOut order.found order.target
          ((store.visible user).save (order.found.move order.target order.position)) = false

section Moves

variable {site : Site} {caller : Caller} {store other : Store} {user : ℕ} {found : Placed}
  {target : Column} {position : ℕ} {body : MoveBody} {order : MoveOrder}

theorem identity_move (found : Placed) (target : Column) (position : ℕ) :
    (found.move target position).identity = found.board.identity := by
  unfold Placed.move
  split <;> rfl

theorem map_pk_setColumn (board : Board) (column : Column) :
    (board.setColumn column).columns.map Column.pk = board.columns.map Column.pk := by
  unfold Board.setColumn
  rw [List.map_map]
  refine List.map_congr_left fun row _ => ?_
  rw [Function.comp_apply]
  split
  · rename_i hpk
    exact hpk.symm
  · rfl

theorem map_pk_move (found : Placed) (target : Column) (position : ℕ) :
    (found.move target position).columns.map Column.pk =
      found.board.columns.map Column.pk := by
  unfold Placed.move
  split
  · exact map_pk_setColumn ..
  · exact (map_pk_setColumn ..).trans (map_pk_setColumn ..)

theorem validateMove_of_alike (hvalid : store.Valid) (valid : other.Valid)
    (alike : (othersBoards user).Alike store other)
    (hcard : body.cardId.Names (store.KnowsCard user))
    (hcolumn : body.targetColumnId.Names (store.KnowsColumn user)) :
    validateMove body other = validateMove body store := by
  have herrors : body.errors other = body.errors store := by
    unfold MoveBody.errors
    congr 1
    · congr 1
      · cases hid : body.cardId with
        | missing => rfl
        | malformed message => rfl
        | given pk =>
          have hlooked := card?_of_alike hvalid valid alike (hcard pk hid)
          simp only [Field.errors, hlooked]
      · cases hid : body.targetColumnId with
        | missing => rfl
        | malformed message => rfl
        | given pk =>
          have hlooked := column?_of_alike hvalid.toKeyed valid.toKeyed alike (hcolumn pk hid)
          simp only [Field.errors, hlooked]
  unfold validateMove
  rw [herrors, field_card?_of_alike hvalid valid alike hcard,
    field_column?_of_alike hvalid valid alike hcolumn]

theorem validateMove_cases (accepted : validateMove body store = .ok order) :
    (body.cardId.value?).bind store.card? = some order.found ∧
      ∃ board, (body.targetColumnId.value?).bind store.column? = some (board, order.target) ∧
        order.found.board.pk = board.pk := by
  unfold validateMove at accepted
  split at accepted
  · rename_i found board target position _ hcard hcolumn _
    split at accepted
    · cases accepted
    · rename_i hboard
      cases accepted
      exact ⟨hcard, board, hcolumn, not_not.mp hboard⟩
  · cases accepted

/-- What is left to do after a contained move depends on no board of another user, and reaches
none. -/
theorem catchUp_contained {moved : Store} (hkeyed : moved.Keyed) (response : Response)
    (contained : reachesOut found target (moved.visible caller.user) = false) :
    (catchUp site caller response moved (lagging found target moved)).1 =
        (catchUp site caller response (moved.visible caller.user)
          (lagging found target (moved.visible caller.user))).1 ∧
      (catchUp site caller response moved (lagging found target moved)).2.foreign caller.user =
        moved.foreign caller.user := by
  unfold reachesOut at contained
  unfold lagging
  cases hstatus : target.status with
  | none => exact ⟨rfl, rfl⟩
  | some status =>
    rw [hstatus] at contained
    dsimp only at contained ⊢
    cases hpersonal : found.board.isPersonal with
    | true => exact ⟨rfl, rfl⟩
    | false =>
      rw [hpersonal, Bool.not_false, Bool.true_and] at contained
      simp only [Bool.false_eq_true, if_false]
      cases hkind : found.card.contentType with
      | other pk => exact ⟨rfl, rfl⟩
      | column =>
        rw [hkind] at contained
        dsimp only at contained ⊢
        rw [← Option.not_isSome, Bool.not_eq_false'] at contained
        rw [hkeyed.column?_of_known contained]
        cases hcolumn : (moved.visible caller.user).column? found.card.objectId with
        | none => exact ⟨rfl, rfl⟩
        | some looked =>
          obtain ⟨board, column⟩ := looked
          dsimp only
          split
          · obtain ⟨hstored, hkept⟩ :=
              List.mem_filter.mp (Store.column?_some hcolumn).1
            have hkept : board.isForeign caller.user = false := by simpa using hkept
            exact ⟨rfl, (hkeyed.shares hstored hkept).foreign_saved hkept
              (identity_setColumn ..)⟩
          · exact ⟨rfl, rfl⟩
      | ticket =>
        rw [hkind] at contained
        dsimp only at contained ⊢
        have htickets : (moved.visible caller.user).tickets = moved.tickets := rfl
        rw [htickets] at contained ⊢
        split
        · rename_i hlags
          rw [hlags, Bool.true_and, Option.isSome_eq_false_iff, Option.isNone_iff_eq_none]
            at contained
          unfold catchUp
          dsimp only
          rw [contained]
          cases hsync : syncCards status found.card.objectId moved.boards with
          | none => exact ⟨rfl, rfl⟩
          | some boards' =>
            have hshows : Steady fun board => !board.isForeign caller.user :=
              fun board board' h => congrArg not (isForeign_congr h)
            have hrest := syncCards_filter hshows hkeyed.boards_pk hsync
            rw [show syncCards status found.card.objectId
              (moved.boards.filter fun board => !board.isForeign caller.user) = none
                from contained] at hrest
            cases hrest
        · exact ⟨rfl, rfl⟩

/-- An accepted move and its consequences, as far as a store shows them. -/
theorem moveCard_contained (valid : other.Valid) (hmem : found.board ∈ other.boards)
    (hshown : found.board.isForeign caller.user = false)
    (contained : moveError site found target position = none → reachesOut found target
      ((other.visible caller.user).save (found.move target position)) = false) :
    (moveCard site caller found target position other).1 =
        (moveCard site caller found target position (other.visible caller.user)).1 ∧
      (moveCard site caller found target position other).2.foreign caller.user =
        other.foreign caller.user := by
  unfold moveCard
  cases herror : moveError site found target position with
  | some response => exact ⟨rfl, rfl⟩
  | none =>
    have contained := contained herror
    have hidentity := identity_move found target position
    have hshares := valid.shares hmem hshown
    have hvisible : (other.save (found.move target position)).visible caller.user =
        (other.visible caller.user).save (found.move target position) := by
      rw [← pk_of_identity hidentity] at hshares
      exact hshares.visible_save ((isForeign_congr hidentity).trans hshown)
    have hkeyed := valid.toKeyed.save hmem (pk_of_identity hidentity) (map_pk_move ..)
    rw [← hvisible] at contained
    obtain ⟨hresponse, hforeign⟩ := catchUp_contained hkeyed
      (.ok (.card (({ found.card with order := position } : Card).data site target.pk)))
      contained
    rw [hvisible] at hresponse
    exact ⟨hresponse, hforeign.trans (hshares.foreign_saved hshown hidentity)⟩

theorem separate_move (hvalid : store.Valid) {isReorder : Bool}
    (hcard : body.cardId.Names (store.KnowsCard caller.user))
    (hcolumn : body.targetColumnId.Names (store.KnowsColumn caller.user))
    (contained : MoveContained site caller.user isReorder body store) :
    Separate caller.user (move site caller isReorder body) store := by
  intro other valid alike
  have hvisible := visible_of_alike alike
  have haccepted := validateMove_of_alike hvalid valid alike hcard hcolumn
  unfold move
  rw [haccepted]
  cases horder : validateMove body store with
  | error errors => exact ⟨rfl, rfl⟩
  | ok order =>
    dsimp only
    split
    · exact ⟨rfl, rfl⟩
    · rename_i hsame
      have contained := contained order horder (Bool.eq_false_iff.mpr hsame)
      have hfound := (validateMove_cases horder).1
      obtain ⟨hmem, -, -, hshown⟩ := shown_of_card? hvalid hcard hfound
      have hmem' : order.found.board ∈ other.boards := by
        rw [← haccepted] at horder
        obtain ⟨_, -, hlooked⟩ := Option.bind_eq_some_iff.mp (validateMove_cases horder).1
        exact (mem_placed.mp (List.mem_of_find?_eq_some hlooked)).1
      have hstore := moveCard_contained hvalid hmem hshown contained
      rw [← hvisible] at contained
      have hother := moveCard_contained valid hmem' hshown contained
      rw [hvisible] at hother
      exact ⟨hother.1.trans hstore.1.symm, hother.2⟩

end Moves

/-! ## Requests -/

/-- The ids that a request is looked up by in all boards are known, and a move is not followed by
a save that reaches out. -/
def Request.Contained (site : Site) (caller : Caller) (store : Store) : Request → Prop
  | .createCard _ body => body.column.Names (store.KnowsColumn caller.user)
  | .updateCard _ boardPk pk body =>
    ∀ found, ((store.board? caller.user boardPk).bind fun board => board.card? pk) =
      some found → body.column.Names (store.KnowsColumn caller.user)
  | .addTicket boardPk columnId ticketId => AddKnown caller.user store boardPk columnId ticketId
  | .move _ isReorder body =>
    body.cardId.Names (store.KnowsCard caller.user) ∧
      body.targetColumnId.Names (store.KnowsColumn caller.user) ∧
        MoveContained site caller.user isReorder body store
  | _ => True

theorem separate_of_contained {site : Site} {caller : Caller} {store : Store} {request : Request}
    (hvalid : store.Valid) (contained : request.Contained site caller store) :
    Separate caller.user (request.view site caller) store := by
  cases request with
  | listBoards => exact separate_listBoards
  | retrieveBoard pk => exact separate_retrieveBoard
  | createBoard body => exact separate_createBoard body
  | updateBoard isPartial pk body => exact separate_updateBoard isPartial body
  | destroyBoard pk => exact separate_destroyBoard
  | populate pk => exact separate_populate
  | listColumns boardPk => exact separate_listColumns
  | retrieveColumn boardPk pk => exact separate_retrieveColumn
  | createColumn boardPk body => exact separate_createColumn hvalid body
  | updateColumn isPartial boardPk pk body => exact separate_updateColumn isPartial body
  | destroyColumn boardPk pk => exact separate_destroyColumn
  | listCards boardPk => exact separate_listCards
  | retrieveCard boardPk pk => exact separate_retrieveCard
  | createCard boardPk body => exact separate_createCard hvalid contained
  | updateCard isPartial boardPk pk body => exact separate_updateCard hvalid contained
  | destroyCard boardPk pk => exact separate_destroyCard
  | addTicket boardPk columnId ticketId => exact separate_addTicket hvalid contained
  | move boardPk isReorder body =>
    exact separate_move hvalid contained.1 contained.2.1 contained.2.2

end Kanzan.Kanban.Rest

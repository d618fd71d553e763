import Mathlib.Data.Fintype.EquivFin
import Kanzan.Kanban.Seclusion

/-!
# Requests that reach personal boards of others

A request that is not contained is answered otherwise, or changes a board, once another user has
a personal board with the rows that it names.
-/

namespace Kanzan.Kanban.Rest

open Support

/-! ## One more board -/

def Store.host (store : Store) (board : Board) : Store :=
  { store with boards := store.boards ++ [board] }

def othersBoard (user pk : ℕ) (columns : List Column) : Board where
  pk := pk
  name := "Mine"
  isPersonal := true
  createdBy := some (user + 1)
  createdAt := 0
  updatedAt := 0
  columns := columns

/-- The rows of a board that go well with those of a store. -/
structure Store.Accepts (store : Store) (board : Board) : Prop where
  pk : board.pk ∉ store.boards.map Board.pk
  columns : (board.columns.map Column.pk).Nodup
  columns_new : ∀ column ∈ board.columns, (store.column? column.pk).isNone = true
  cards : (board.placed.map fun found => found.card.pk).Nodup
  cards_new : ∀ found ∈ board.placed, (store.card? found.card.pk).isNone = true
  order : (board.columns.map Column.order).Nodup
  object : ∀ column ∈ board.columns,
    (column.cards.map fun card => (card.contentType, card.objectId)).Nodup

section Host

variable {store : Store} {board : Board} {user pk : ℕ}

theorem isForeign_othersBoard (user pk : ℕ) (columns : List Column) :
    (othersBoard user pk columns).isForeign user = true := by
  simp [Board.isForeign, othersBoard]

theorem columns_host (store : Store) (board : Board) :
    columns (store.host board).boards =
      columns store.boards ++ board.columns.map (Prod.mk board) := by
  simp [columns, Store.host]

theorem placed_host (store : Store) (board : Board) :
    placed (store.host board).boards = placed store.boards ++ board.placed := by
  simp [placed, Store.host]

theorem Store.Valid.visible (valid : store.Valid) (user : ℕ) : (store.visible user).Valid where
  boards_pk := valid.boards_pk.sublist (List.filter_sublist.map _)
  columns_pk := by
    unfold Store.visible
    rw [columns_filter]
    exact valid.columns_pk.sublist (List.filter_sublist.map _)
  cards_pk := by
    unfold Store.visible
    rw [placed_filter]
    exact valid.cards_pk.sublist (List.filter_sublist.map _)
  columns_order board hboard := valid.columns_order board (List.mem_of_mem_filter hboard)
  cards_object found hfound := by
    obtain ⟨hboard, hcolumn⟩ := mem_columns.mp hfound
    exact valid.cards_object found (mem_columns.mpr ⟨List.mem_of_mem_filter hboard, hcolumn⟩)

theorem Store.Valid.host (valid : store.Valid) (accepts : store.Accepts board) :
    (store.host board).Valid where
  boards_pk := by
    unfold Store.host
    rw [List.map_append]
    refine List.nodup_append.mpr ⟨valid.boards_pk, List.nodup_singleton _, ?_⟩
    rintro pk hpk other hother rfl
    rw [List.map_singleton, List.mem_singleton] at hother
    exact accepts.pk (hother ▸ hpk)
  columns_pk := by
    rw [columns_host, List.map_append, List.map_map]
    refine List.nodup_append.mpr ⟨valid.columns_pk, accepts.columns, ?_⟩
    rintro pk hpk other hother rfl
    obtain ⟨found, hfound, rfl⟩ := List.mem_map.mp hpk
    obtain ⟨column, hcolumn, hsame⟩ := List.mem_map.mp hother
    have hnew := accepts.columns_new column hcolumn
    rw [Option.isNone_iff_eq_none, Store.column?, List.find?_eq_none] at hnew
    exact hnew found hfound (beq_iff_eq.mpr hsame.symm)
  cards_pk := by
    rw [placed_host, List.map_append]
    refine List.nodup_append.mpr ⟨valid.cards_pk, accepts.cards, ?_⟩
    rintro pk hpk other hother rfl
    obtain ⟨found, hfound, rfl⟩ := List.mem_map.mp hpk
    obtain ⟨new, hmem, hsame⟩ := List.mem_map.mp hother
    have hnew := accepts.cards_new new hmem
    rw [Option.isNone_iff_eq_none, Store.card?, List.find?_eq_none] at hnew
    exact hnew found hfound (beq_iff_eq.mpr hsame.symm)
  columns_order row hrow := by
    rcases List.mem_append.mp hrow with hmem | hmem
    · exact valid.columns_order row hmem
    · rw [List.mem_singleton.mp hmem]
      exact accepts.order
  cards_object found hfound := by
    rw [columns_host] at hfound
    rcases List.mem_append.mp hfound with hmem | hmem
    · exact valid.cards_object found hmem
    · obtain ⟨column, hcolumn, rfl⟩ := List.mem_map.mp hmem
      exact accepts.object column hcolumn

theorem visible_host (hforeign : board.isForeign user = true) :
    ((store.visible user).host board).visible user = store.visible user := by
  simp [Store.visible, Store.host, hforeign]

theorem foreign_host (hforeign : board.isForeign user = true) :
    ((store.visible user).host board).foreign user = [board] := by
  simp [Store.foreign, Store.visible, Store.host, hforeign]

theorem Separate.host {view : View} (separate : Separate user view store) (hvalid : store.Valid)
    (hforeign : board.isForeign user = true) (accepts : (store.visible user).Accepts board) :
    (view ((store.visible user).host board)).1 = (view (store.visible user)).1 ∧
      (view ((store.visible user).host board)).2.foreign user = [board] := by
  have hshown := separate _ (hvalid.visible user) (Erasure.alike_erase store)
  have hhost := separate _ ((hvalid.visible user).host accepts) (visible_host hforeign).symm
  rw [foreign_host hforeign] at hhost
  exact ⟨hhost.1.trans hshown.1.symm, hhost.2⟩

theorem exists_new (keys : List ℕ) : ∃ key, key ∉ keys := by
  obtain ⟨key, hkey⟩ := Infinite.exists_notMem_finset keys.toFinset
  exact ⟨key, fun h => hkey (List.mem_toFinset.mpr h)⟩

theorem isNone_column? (hnew : pk ∉ (columns store.boards).map fun found => found.2.pk) :
    (store.column? pk).isNone = true := by
  rw [Option.isNone_iff_eq_none, Store.column?, List.find?_eq_none]
  intro found hfound hpk
  exact hnew (List.mem_map.mpr ⟨found, hfound, eq_of_beq hpk⟩)

theorem isNone_card? (hnew : pk ∉ (placed store.boards).map fun found => found.card.pk) :
    (store.card? pk).isNone = true := by
  rw [Option.isNone_iff_eq_none, Store.card?, List.find?_eq_none]
  intro found hfound hpk
  exact hnew (List.mem_map.mpr ⟨found, hfound, eq_of_beq hpk⟩)

def othersColumn (pk : ℕ) (cards : List Card) : Column where
  pk := pk
  name := "To do"
  order := 0
  createdAt := 0
  updatedAt := 0
  cards := cards

theorem accepts_column (user : ℕ) (hunknown : (store.column? pk).isNone = true) {boardPk : ℕ}
    (hnew : boardPk ∉ store.boards.map Board.pk) :
    store.Accepts (othersBoard user boardPk [othersColumn pk []]) where
  pk := hnew
  columns := List.nodup_singleton _
  columns_new column hcolumn := by
    rw [List.mem_singleton.mp hcolumn]
    exact hunknown
  cards := List.nodup_nil
  cards_new found hfound := by cases hfound
  order := List.nodup_singleton _
  object column hcolumn := by
    rw [List.mem_singleton.mp hcolumn]
    exact List.nodup_nil

theorem accepts_card {columnPk : ℕ} {card : Card} (hcolumn : (store.column? columnPk).isNone = true)
    (hunknown : (store.card? card.pk).isNone = true) {boardPk : ℕ}
    (hnew : boardPk ∉ store.boards.map Board.pk) :
    store.Accepts (othersBoard user boardPk [othersColumn columnPk [card]]) where
  pk := hnew
  columns := List.nodup_singleton _
  columns_new column hmem := by
    rw [List.mem_singleton.mp hmem]
    exact hcolumn
  cards := List.nodup_singleton _
  cards_new found hfound := by
    obtain ⟨-, hmem, hcard⟩ := mem_board_placed.mp hfound
    rw [List.mem_singleton.mp hmem] at hcard
    rw [List.mem_singleton.mp hcard]
    exact hunknown
  order := List.nodup_singleton _
  object column hmem := by
    rw [List.mem_singleton.mp hmem]
    exact List.nodup_singleton _

theorem column?_host (store : Store) (board : Board) (pk : ℕ)
    (hmem : ∃ column ∈ board.columns, column.pk = pk) :
    ((store.host board).column? pk).isSome = true := by
  obtain ⟨column, hcolumn, hpk⟩ := hmem
  rw [Store.column?, List.find?_isSome]
  refine ⟨(board, column), ?_, beq_iff_eq.mpr hpk⟩
  rw [columns_host]
  exact List.mem_append_right _ (List.mem_map.mpr ⟨column, hcolumn, rfl⟩)

theorem card?_host (store : Store) (board : Board) (pk : ℕ)
    (hmem : ∃ found ∈ board.placed, found.card.pk = pk) :
    ((store.host board).card? pk).isSome = true := by
  obtain ⟨found, hfound, hpk⟩ := hmem
  rw [Store.card?, List.find?_isSome]
  refine ⟨found, ?_, beq_iff_eq.mpr hpk⟩
  rw [placed_host]
  exact List.mem_append_right _ hfound

end Host

/-! ## Complaints -/

def Response.Complains (field : String) (response : Response) : Prop :=
  ∃ errors message, response.body = .errors errors ∧ (field, message) ∈ errors

section Complaints

variable {site : Site} {caller : Caller} {store : Store} {user boardPk pk : ℕ} {name field : String}

theorem name_of_mem_errors {α : Type} {required : Bool} {check : α → Option String}
    {entry : Field α} {message : String}
    (hmem : (field, message) ∈ entry.errors name required check) : field = name := by
  cases entry with
  | missing =>
    simp only [Field.errors] at hmem
    split at hmem
    · exact (Prod.mk.inj (List.mem_singleton.mp hmem)).1
    · cases hmem
  | malformed text => exact (Prod.mk.inj (List.mem_singleton.mp hmem)).1
  | given value =>
    simp only [Field.errors, Option.mem_toList, Option.map_eq_some_iff] at hmem
    obtain ⟨_, -, heq⟩ := hmem
    exact (Prod.mk.inj heq).1.symm

theorem name_of_mem_plainErrors {α : Type} {required : Bool} {entry : Field α} {message : String}
    (hmem : (field, message) ∈ entry.plainErrors name required) : field = name :=
  name_of_mem_errors hmem

theorem errors_given {required : Bool} {check : ℕ → Option String} :
    (Field.given pk).errors name required check =
      match check pk with
      | none => []
      | some message => [(name, message)] := by
  simp only [Field.errors]
  cases check pk <;> rfl

theorem complains_errors {errors : Errors} {status : ℕ} :
    Response.Complains field ⟨status, .errors errors⟩ ↔ ∃ message, (field, message) ∈ errors := by
  constructor
  · rintro ⟨_, message, hbody, hmem⟩
    cases hbody
    exact ⟨message, hmem⟩
  · rintro ⟨message, hmem⟩
    exact ⟨errors, message, rfl, hmem⟩

theorem lookup_complains {α : Type} {found : ℕ → Option α} {required : Bool}
    {text : ℕ → String} {rest : Errors} (hrest : ∀ message, (name, message) ∉ rest) :
    (∃ message, (name, message) ∈ (Field.given pk).errors name required
      (fun pk => if (found pk).isSome then none else some (text pk)) ++ rest) ↔
        (found pk).isNone = true := by
  rw [errors_given]
  cases found pk with
  | some row =>
    refine iff_of_false ?_ (by simp)
    rintro ⟨message, hmem⟩
    exact hrest message hmem
  | none => exact iff_of_true ⟨text pk, by simp⟩ rfl

theorem cardBody_complains {isPartial : Bool} {body : CardBody} (hgiven : body.column = .given pk) :
    (∃ message, ("column", message) ∈ body.errors isPartial store) ↔
      (store.column? pk).isNone = true := by
  unfold CardBody.errors relatedError
  rw [hgiven, List.append_assoc, List.append_assoc]
  refine lookup_complains fun message hmem => ?_
  rw [List.mem_append, List.mem_append] at hmem
  rcases hmem with hmem | hmem | hmem <;>
    exact absurd (name_of_mem_plainErrors hmem) (by decide)

theorem complains_of_accepted {response : Response} {errors : Errors} (herrors : errors = [])
    (hbody : ∀ complaints, response.body = .errors complaints →
      ∃ message, complaints = [("non_field_errors", message)])
    (hfield : field ≠ "non_field_errors") :
    response.Complains field ↔ ∃ message, (field, message) ∈ errors := by
  subst herrors
  refine iff_of_false ?_ (by simp)
  rintro ⟨complaints, message, hcomplaints, hmem⟩
  obtain ⟨_, rfl⟩ := hbody complaints hcomplaints
  exact hfield (Prod.mk.inj (List.mem_singleton.mp hmem)).1

theorem createCard_complains {body : CardBody} (hfield : field ≠ "non_field_errors") :
    (createCard site caller body store).1.Complains field ↔
      ∃ message, (field, message) ∈ body.errors false store := by
  unfold createCard
  split
  · rename_i herrors _ _ _
    refine complains_of_accepted herrors ?_ hfield
    split
    · rintro _ ⟨⟩
      exact ⟨_, rfl⟩
    · rintro _ ⟨⟩
  · exact complains_errors

theorem updateCard_complains {isPartial : Bool} {body : CardBody} {found : Placed}
    (hfound : ((store.board? caller.user boardPk).bind fun board => board.card? pk) = some found)
    (hfield : field ≠ "non_field_errors") :
    (updateCard site caller isPartial boardPk pk body store).1.Complains field ↔
      ∃ message, (field, message) ∈ body.errors isPartial store := by
  unfold updateCard
  rw [hfound]
  dsimp only
  split
  · rename_i herrors
    refine complains_of_accepted herrors ?_ hfield
    split
    · rintro _ ⟨⟩
      exact ⟨_, rfl⟩
    · rintro _ ⟨⟩
  · exact complains_errors

theorem catchUp_response (site : Site) (caller : Caller) (response : Response) (lags : Option Lagging) :
    (catchUp site caller response store lags).1 = response ∨
      (catchUp site caller response store lags).1 = .serverError := by
  unfold catchUp
  split
  · exact .inl rfl
  · exact .inl rfl
  · split
    · exact .inr rfl
    · exact .inl rfl

theorem moveCard_body {found : Placed} {target : Column} {position : ℕ} (errors : Errors) :
    (moveCard site caller found target position store).1.body ≠ .errors errors := by
  unfold moveCard
  cases herror : moveError site found target position with
  | some response =>
    intro h
    unfold moveError at herror
    split at herror
    · cases herror
      cases h
    split at herror
    · cases herror
      cases h
    split at herror <;> cases herror
    cases h
  | none =>
    intro h
    rcases catchUp_response site caller _ _ with heq | heq
    · rw [heq] at h
      cases h
    · rw [heq] at h
      cases h

theorem move_complains {isReorder : Bool} {body : MoveBody} (hfield : field ≠ "non_field_errors") :
    (move site caller isReorder body store).1.Complains field ↔
      ∃ message, (field, message) ∈ body.errors store := by
  unfold move validateMove
  split
  · rename_i errors hrefused
    split at hrefused
    · rename_i herrors _ _ _
      refine complains_of_accepted herrors ?_ hfield
      split at hrefused
      · cases hrefused
        rintro _ ⟨⟩
        exact ⟨_, rfl⟩
      · cases hrefused
    · cases hrefused
      exact complains_errors
  · rename_i order haccepted
    split at haccepted
    · rename_i herrors _ _ _
      refine complains_of_accepted herrors (fun errors h => ?_) hfield
      split at h
      · cases h
      · exact absurd h (moveCard_body errors)
    · cases haccepted

theorem moveBody_complains_card {body : MoveBody} (hgiven : body.cardId = .given pk) :
    (∃ message, ("card_id", message) ∈ body.errors store) ↔ (store.card? pk).isNone = true := by
  unfold MoveBody.errors
  rw [hgiven, List.append_assoc]
  refine lookup_complains fun message hmem => ?_
  rcases List.mem_append.mp hmem with hmem | hmem
  · exact absurd (name_of_mem_errors hmem) (by decide)
  · exact absurd (name_of_mem_plainErrors hmem) (by decide)

theorem moveBody_complains_column {body : MoveBody} (hgiven : body.targetColumnId = .given pk) :
    (∃ message, ("target_column_id", message) ∈ body.errors store) ↔
      (store.column? pk).isNone = true := by
  have hrest : ∀ message,
      ("target_column_id", message) ∉ body.position.plainErrors "position" true :=
    fun message hmem => absurd (name_of_mem_plainErrors hmem) (by decide)
  have hlook := @lookup_complains pk "target_column_id" _ store.column? true
    (fun _ => "Target column not found.") _ hrest
  unfold MoveBody.errors
  rw [hgiven, ← hlook]
  refine exists_congr fun message => ?_
  rw [List.append_assoc, List.mem_append, or_iff_right]
  exact fun hmem => absurd (name_of_mem_errors hmem) (by decide)

end Complaints

/-! ## Separate requests name what is known -/

section Necessity

variable {site : Site} {caller : Caller} {store : Store} {boardPk pk : ℕ}

theorem knowsColumn_of_separate {view : View} {user : ℕ} (hvalid : store.Valid)
    (separate : Separate user view store) (field : String)
    (complains : ∀ other : Store, (othersBoards user).Alike store other →
      ((view other).1.Complains field ↔ (other.column? pk).isNone = true)) :
    store.KnowsColumn user pk := by
  by_contra hunknown
  unfold Store.KnowsColumn at hunknown
  rw [← Option.isNone_iff_eq_none.trans Option.not_isSome_iff_eq_none.symm] at hunknown
  obtain ⟨new, hnew⟩ := exists_new ((store.visible user).boards.map Board.pk)
  have hforeign := isForeign_othersBoard user new [othersColumn pk []]
  have hsame := (separate.host hvalid hforeign (accepts_column _ hunknown hnew)).1
  have hshown := (complains _ (Erasure.alike_erase store)).mpr hunknown
  rw [show (view ((othersBoards user).erase store)) = view (store.visible user) from rfl,
    ← hsame, complains _ (visible_host hforeign).symm] at hshown
  have hsome := column?_host (store.visible user) (othersBoard user new [othersColumn pk []]) pk
    ⟨othersColumn pk [], List.mem_cons_self, rfl⟩
  rw [Option.isNone_iff_eq_none.mp hshown] at hsome
  cases hsome

theorem knowsCard_of_separate {view : View} {user : ℕ} (hvalid : store.Valid)
    (separate : Separate user view store) (field : String)
    (complains : ∀ other : Store, (othersBoards user).Alike store other →
      ((view other).1.Complains field ↔ (other.card? pk).isNone = true)) :
    store.KnowsCard user pk := by
  by_contra hunknown
  unfold Store.KnowsCard at hunknown
  rw [← Option.isNone_iff_eq_none.trans Option.not_isSome_iff_eq_none.symm] at hunknown
  obtain ⟨new, hnew⟩ := exists_new ((store.visible user).boards.map Board.pk)
  obtain ⟨columnPk, hcolumn⟩ :=
    exists_new ((columns (store.visible user).boards).map fun found => found.2.pk)
  let card : Card := { pk, contentType := .ticket, objectId := 0, order := 0 }
  have hforeign := isForeign_othersBoard user new [othersColumn columnPk [card]]
  have hsame := (separate.host hvalid hforeign
    (accepts_card (isNone_column? hcolumn) hunknown hnew)).1
  have hshown := (complains _ (Erasure.alike_erase store)).mpr hunknown
  rw [show (view ((othersBoards user).erase store)) = view (store.visible user) from rfl,
    ← hsame, complains _ (visible_host hforeign).symm] at hshown
  have hplaced : (⟨othersBoard user new [othersColumn columnPk [card]],
      othersColumn columnPk [card], card⟩ : Placed) ∈
        (othersBoard user new [othersColumn columnPk [card]]).placed :=
    mem_board_placed.mpr ⟨rfl, List.mem_cons_self, List.mem_cons_self⟩
  have hsome := card?_host (store.visible user) _ pk ⟨_, hplaced, rfl⟩
  rw [Option.isNone_iff_eq_none.mp hshown] at hsome
  cases hsome

theorem known_of_separate_createCard (hvalid : store.Valid) {body : CardBody}
    (separate : Separate caller.user (createCard site caller body) store) :
    body.column.Names (store.KnowsColumn caller.user) := fun _ hgiven =>
  knowsColumn_of_separate hvalid separate "column" fun _ _ =>
    (createCard_complains (by decide)).trans (cardBody_complains hgiven)

theorem known_of_separate_updateCard (hvalid : store.Valid) {isPartial : Bool} {body : CardBody}
    (separate : Separate caller.user (updateCard site caller isPartial boardPk pk body) store)
    {found : Placed}
    (hfound : ((store.board? caller.user boardPk).bind fun board => board.card? pk) =
      some found) : body.column.Names (store.KnowsColumn caller.user) := by
  refine fun _ hgiven => knowsColumn_of_separate hvalid separate "column" fun other alike => ?_
  rw [← updatedCard_of_alike alike] at hfound
  exact (updateCard_complains hfound (by decide)).trans (cardBody_complains hgiven)

theorem known_of_separate_move (hvalid : store.Valid) {isReorder : Bool} {body : MoveBody}
    (separate : Separate caller.user (move site caller isReorder body) store) :
    body.cardId.Names (store.KnowsCard caller.user) ∧
      body.targetColumnId.Names (store.KnowsColumn caller.user) :=
  ⟨fun _ hgiven => knowsCard_of_separate hvalid separate "card_id" fun _ _ =>
      (move_complains (by decide)).trans (moveBody_complains_card hgiven),
    fun _ hgiven => knowsColumn_of_separate hvalid separate "target_column_id" fun _ _ =>
      (move_complains (by decide)).trans (moveBody_complains_column hgiven)⟩

/-- The answer of `add_ticket` tells whether the column is on a board of another user. -/
theorem known_of_separate_addTicket (hvalid : store.Valid) {columnId ticketId : Field ℕ}
    (separate : Separate caller.user (addTicket site caller boardPk columnId ticketId) store) :
    AddKnown caller.user store boardPk columnId ticketId := by
  rintro hsupplied pk rfl
  by_contra hunknown
  obtain ⟨hboard, hcolumn⟩ := not_or.mp hunknown
  unfold Store.KnowsColumn at hcolumn
  rw [← Option.isNone_iff_eq_none.trans Option.not_isSome_iff_eq_none.symm] at hcolumn
  have hnew : boardPk ∉ (store.visible caller.user).boards.map Board.pk := by
    rintro hmem
    obtain ⟨board, hmem, hpk⟩ := List.mem_map.mp hmem
    exact hboard ⟨board, hmem, hpk⟩
  have hforeign := isForeign_othersBoard caller.user boardPk [othersColumn pk []]
  have hsame := (separate.host hvalid hforeign (accepts_column _ hcolumn hnew)).1
  have hnone : (columns (store.visible caller.user).boards).find? (fun found =>
      found.1.pk == boardPk && found.2.pk == pk) = none := by
    rw [List.find?_eq_none]
    intro found hfound hwanted
    rw [Bool.and_eq_true, beq_iff_eq] at hwanted
    exact hboard ⟨found.1, (mem_columns.mp hfound).1, hwanted.1⟩
  have hsome : (columns ((store.visible caller.user).host
      (othersBoard caller.user boardPk [othersColumn pk []])).boards).find? (fun found =>
        found.1.pk == boardPk && found.2.pk == pk) =
      some (othersBoard caller.user boardPk [othersColumn pk []], othersColumn pk []) := by
    rw [columns_host, List.find?_append, hnone]
    simp [othersBoard, othersColumn]
  unfold addTicket at hsame
  cases ticketId with
  | missing => exact hsupplied rfl
  | malformed message =>
    dsimp only at hsame
    rw [hnone, hsome] at hsame
    simp [othersBoard, Response.notFound] at hsame
  | given ticketId =>
    dsimp only at hsame
    rw [hnone, hsome] at hsame
    simp [othersBoard, Response.notFound] at hsame

end Necessity

/-! ## Separate moves write no status -/

/-- A board of another user with two cards of one object, one of them in a column with a status. -/
def othersTwice (user boardPk firstColumn secondColumn firstCard secondCard ticket : ℕ)
    (status : Tickets.TicketStatus) : Board :=
  othersBoard user boardPk
    [{ othersColumn firstColumn
        [{ pk := firstCard, contentType := .ticket, objectId := ticket, order := 0 }] with
        status := some status },
      { othersColumn secondColumn
        [{ pk := secondCard, contentType := .ticket, objectId := ticket, order := 1 }] with
        order := 1 }]

section Moves

variable {site : Site} {caller : Caller} {store : Store} {user : ℕ} {body : MoveBody}
  {isReorder : Bool} {order : MoveOrder}

theorem move_eq (haccepted : validateMove body store = .ok order)
    (hsame : (isReorder && order.found.column.pk ≠ order.target.pk) = false)
    (herror : moveError site order.found order.target order.position = none) :
    move site caller isReorder body store =
      catchUp site caller
        (.ok (.card (({ order.found.card with order := order.position } : Card).data site
          order.target.pk)))
        (store.save (order.found.move order.target order.position))
        (lagging order.found order.target
          (store.save (order.found.move order.target order.position))) := by
  unfold move
  rw [haccepted]
  dsimp only
  rw [hsame, if_neg (by simp)]
  unfold moveCard
  rw [herror]

theorem accepts_othersTwice {boardPk firstColumn secondColumn firstCard secondCard ticket : ℕ}
    {status : Tickets.TicketStatus}
    (hboard : boardPk ∉ store.boards.map Board.pk)
    (hfirst : (store.column? firstColumn).isNone = true)
    (hsecond : (store.column? secondColumn).isNone = true) (hcolumns : secondColumn ≠ firstColumn)
    (hcard : (store.card? firstCard).isNone = true)
    (hother : (store.card? secondCard).isNone = true) (hcards : secondCard ≠ firstCard) :
    store.Accepts
      (othersTwice user boardPk firstColumn secondColumn firstCard secondCard ticket status) where
  pk := hboard
  columns := by simp [othersTwice, othersBoard, othersColumn, hcolumns.symm]
  columns_new column hmem := by
    simp only [othersTwice, othersBoard, List.mem_cons, List.not_mem_nil, or_false] at hmem
    rcases hmem with rfl | rfl
    · exact hfirst
    · exact hsecond
  cards := by simp [othersTwice, othersBoard, othersColumn, Board.placed, hcards.symm]
  cards_new found hmem := by
    obtain ⟨-, hcolumn, hfound⟩ := mem_board_placed.mp hmem
    simp only [othersTwice, othersBoard, List.mem_cons, List.not_mem_nil, or_false] at hcolumn
    rcases hcolumn with hcolumn | hcolumn
    · rw [hcolumn] at hfound
      rw [List.mem_singleton.mp hfound]
      exact hcard
    · rw [hcolumn] at hfound
      rw [List.mem_singleton.mp hfound]
      exact hother
  order := by simp [othersTwice, othersBoard, othersColumn]
  object column hmem := by
    simp only [othersTwice, othersBoard, List.mem_cons, List.not_mem_nil, or_false] at hmem
    rcases hmem with rfl | rfl <;> simp [othersColumn]

theorem syncCards_othersTwice {boardPk firstColumn secondColumn firstCard secondCard ticket : ℕ}
    {status : Tickets.TicketStatus} (hcolumns : secondColumn ≠ firstColumn) :
    syncCards status ticket
      [othersTwice user boardPk firstColumn secondColumn firstCard secondCard ticket status] =
        none := by
  simp [syncCards, cardsOf, placed, Board.placed, othersTwice, othersBoard, othersColumn, syncCard,
    Board.syncCard, Board.ordered, saveBoard, Column.holds, hcolumns.symm]

def MoveOrder.moved (order : MoveOrder) (store : Store) : Store :=
  store.save (order.found.move order.target order.position)

def MoveOrder.response (site : Site) (order : MoveOrder) : Response :=
  .ok (.card (({ order.found.card with order := order.position } : Card).data site
    order.target.pk))

theorem not_separate_of_column (hvalid : store.Valid)
    (hmem : order.found.board ∈ (store.visible user).boards)
    (hunknown : (((order.moved (store.visible user)).column? order.found.card.objectId).isNone = true))
    {status : Tickets.TicketStatus} (hstatus : order.target.status = some status)
    (hpersonal : order.found.board.isPersonal = false)
    (hkind : order.found.card.contentType = .column) {view : View}
    (hview : ∀ other : Store, other.Valid → (othersBoards user).Alike store other →
      view other = catchUp site caller (order.response site) (order.moved other)
        (lagging order.found order.target (order.moved other))) :
    ¬Separate user view store := by
  intro separate
  have hidentity := identity_move order.found order.target order.position
  have hshown : order.found.board.isForeign user = false := by
    simpa using (List.mem_filter.mp hmem).2
  have hvisible := hvalid.visible user
  obtain ⟨boardPk, hboardPk⟩ := exists_new ((store.visible user).boards.map Board.pk)
  -- the move changes no key, so the column is not in the store before it either
  have hunknown' : ((store.visible user).column? order.found.card.objectId).isNone = true := by
    refine isNone_column? ?_
    rw [← map_pk_columns_saveBoard (order.found.move order.target order.position)
      fun row hrow hpk => by
        rw [hvisible.board_ext hrow hmem (hpk.trans (pk_of_identity hidentity)), map_pk_move]]
    rintro hfound
    obtain ⟨found, hfound, hpk⟩ := List.mem_map.mp hfound
    rw [Option.isNone_iff_eq_none, Store.column?, List.find?_eq_none] at hunknown
    exact hunknown found hfound (beq_iff_eq.mpr hpk)
  let column := othersColumn order.found.card.objectId []
  have hforeign := isForeign_othersBoard user boardPk [column]
  have haccepts := accepts_column user hunknown' hboardPk
  have hhosted := hvisible.host haccepts
  have hmem' : order.found.board ∈
      ((store.visible user).host (othersBoard user boardPk [column])).boards :=
    List.mem_append_left _ hmem
  have hafter := (separate.host hvalid hforeign haccepts).2
  rw [hview _ hhosted (visible_host hforeign).symm] at hafter
  have hkeyed := hhosted.toKeyed.save hmem' (pk_of_identity hidentity) (map_pk_move ..)
  have hkept := (hhosted.shares hmem' hshown).foreign_saved hshown hidentity
  rw [foreign_host hforeign] at hkept
  have hstored : othersBoard user boardPk [column] ∈
      (order.moved ((store.visible user).host (othersBoard user boardPk [column]))).boards := by
    have hmem : othersBoard user boardPk [column] ∈
        (order.moved ((store.visible user).host (othersBoard user boardPk [column]))).foreign
          user := by
      unfold MoveOrder.moved
      rw [hkept]
      exact List.mem_singleton_self _
    exact List.mem_of_mem_filter hmem
  have hlooked :
      (order.moved ((store.visible user).host (othersBoard user boardPk [column]))).column?
        order.found.card.objectId = some (othersBoard user boardPk [column], column) := by
    have hpair : (othersBoard user boardPk [column], column) ∈ columns
        (order.moved ((store.visible user).host (othersBoard user boardPk [column]))).boards :=
      mem_columns.mpr ⟨hstored, List.mem_singleton_self _⟩
    cases hfind : (order.moved ((store.visible user).host
        (othersBoard user boardPk [column]))).column? order.found.card.objectId with
    | none =>
      rw [Store.column?, List.find?_eq_none] at hfind
      exact absurd (beq_iff_eq.mpr rfl) (hfind _ hpair)
    | some looked =>
      have hsame := List.inj_on_of_nodup_map hkeyed.columns_pk
        (List.mem_of_find?_eq_some hfind) hpair (eq_of_beq (List.find?_some hfind :))
      rw [hsame]
  have hlagging : lagging order.found order.target
      (order.moved ((store.visible user).host (othersBoard user boardPk [column]))) =
        some (.column (othersBoard user boardPk [column]) column status) := by
    unfold lagging
    rw [hstatus, hpersonal, hkind, hlooked]
    dsimp only
    rw [if_neg (by simp)]
    exact if_pos (by simp [column, othersColumn])
  rw [hlagging] at hafter
  unfold catchUp at hafter
  dsimp only at hafter
  have hsaved : ∀ board', board'.identity = (othersBoard user boardPk [column]).identity →
      ((order.moved ((store.visible user).host (othersBoard user boardPk [column]))).save
        board').foreign user = saveBoard board' [othersBoard user boardPk [column]] := by
    intro board' hsame
    have hforeign' : board'.isForeign user = true := (isForeign_congr hsame).trans hforeign
    have hrows : ∀ row ∈ (order.moved ((store.visible user).host
        (othersBoard user boardPk [column]))).boards, row.pk = board'.pk →
          row.isForeign user = board'.isForeign user := by
      intro row hrow hpk
      rw [hkeyed.board_ext hrow hstored (hpk.trans (pk_of_identity hsame)), hforeign, hforeign']
    have hfilter := filter_saveBoard (Board.isForeign user) hrows
    rw [hforeign', if_pos rfl] at hfilter
    exact hfilter.trans (congrArg (saveBoard board') hkept)
  rw [hsaved _ (identity_setColumn ..)] at hafter
  simp [saveBoard, othersBoard, column, othersColumn, Board.setColumn] at hafter

/-- Another user may have a board with two cards of the ticket, one in a column of the status. -/
theorem not_separate_of_ticket (hvalid : store.Valid)
    (hmem : order.found.board ∈ (store.visible user).boards)
    {status : Tickets.TicketStatus} (hstatus : order.target.status = some status)
    (hpersonal : order.found.board.isPersonal = false)
    (hkind : order.found.card.contentType = .ticket)
    (hlags : (store.tickets.tickets order.found.card.objectId).any
      (fun ticket => ticket.status ≠ status) = true)
    (hsynced : (syncCards status order.found.card.objectId
      (order.moved (store.visible user)).boards).isSome = true) {view : View}
    (hview : ∀ other : Store, other.Valid → (othersBoards user).Alike store other →
      view other = catchUp site caller (order.response site) (order.moved other)
        (lagging order.found order.target (order.moved other))) :
    ¬Separate user view store := by
  intro separate
  have hidentity := identity_move order.found order.target order.position
  have hshown : order.found.board.isForeign user = false := by
    simpa using (List.mem_filter.mp hmem).2
  have hlagging : ∀ moved : Store, moved.tickets = store.tickets →
      lagging order.found order.target moved =
        some (.ticket order.found.card.objectId status) := by
    intro moved htickets
    unfold lagging
    rw [hstatus, hpersonal, hkind, htickets]
    dsimp only
    rw [if_neg (by simp)]
    exact if_pos hlags
  obtain ⟨boardPk, hboardPk⟩ := exists_new ((store.visible user).boards.map Board.pk)
  obtain ⟨first, hfirst⟩ :=
    exists_new ((columns (store.visible user).boards).map fun found => found.2.pk)
  obtain ⟨second, hsecond⟩ :=
    exists_new (first :: (columns (store.visible user).boards).map fun found => found.2.pk)
  obtain ⟨hne, hsecond⟩ := not_or.mp (mt List.mem_cons.mpr hsecond)
  obtain ⟨card, hcard⟩ :=
    exists_new ((placed (store.visible user).boards).map fun found => found.card.pk)
  obtain ⟨another, hanother⟩ :=
    exists_new (card :: (placed (store.visible user).boards).map fun found => found.card.pk)
  obtain ⟨hne', hanother⟩ := not_or.mp (mt List.mem_cons.mpr hanother)
  let board := othersTwice user boardPk first second card another order.found.card.objectId status
  have hforeign : board.isForeign user = true := isForeign_othersBoard ..
  have haccepts : (store.visible user).Accepts board :=
    accepts_othersTwice hboardPk (isNone_column? hfirst) (isNone_column? hsecond) hne
      (isNone_card? hcard) (isNone_card? hanother) hne'
  have hhosted := (hvalid.visible user).host haccepts
  have hmem' : order.found.board ∈ ((store.visible user).host board).boards :=
    List.mem_append_left _ hmem
  have hresponse := (separate.host hvalid hforeign haccepts).1
  rw [hview _ hhosted (visible_host hforeign).symm,
    hview (store.visible user) (hvalid.visible user) (Erasure.alike_erase store),
    hlagging (order.moved ((store.visible user).host board)) rfl,
    hlagging (order.moved (store.visible user)) rfl] at hresponse
  -- the loop breaks on the board of the other user
  have hbreaks : syncCards status order.found.card.objectId
      (order.moved ((store.visible user).host board)).boards = none := by
    cases hloop : syncCards status order.found.card.objectId
        (order.moved ((store.visible user).host board)).boards with
    | none => rfl
    | some boards' =>
      have hkeyed := hhosted.toKeyed.save hmem' (pk_of_identity hidentity) (map_pk_move ..)
      have hfiltered := syncCards_filter (steady_isForeign user) hkeyed.boards_pk hloop
      have hforeign' := (hhosted.shares hmem' hshown).foreign_saved hshown hidentity
      rw [foreign_host hforeign] at hforeign'
      unfold Store.foreign at hforeign'
      rw [hforeign', syncCards_othersTwice hne] at hfiltered
      cases hfiltered
  obtain ⟨boards', hboards'⟩ := Option.isSome_iff_exists.mp hsynced
  unfold catchUp at hresponse
  dsimp only at hresponse
  rw [hbreaks, hboards'] at hresponse
  cases hresponse

theorem contained_of_separate_move (hvalid : store.Valid)
    (separate : Separate caller.user (move site caller isReorder body) store) :
    MoveContained site caller.user isReorder body store := by
  intro order haccepted hsame herror
  obtain ⟨hcard, hcolumn⟩ := known_of_separate_move hvalid separate
  obtain ⟨hmem, -, -, hshown⟩ := shown_of_card? hvalid hcard (validateMove_cases haccepted).1
  have hmem' : order.found.board ∈ (store.visible caller.user).boards :=
    List.mem_filter.mpr ⟨hmem, by rw [hshown]; rfl⟩
  have hview : ∀ other : Store, other.Valid → (othersBoards caller.user).Alike store other →
      move site caller isReorder body other = catchUp site caller (order.response site)
        (order.moved other) (lagging order.found order.target (order.moved other)) :=
    fun other valid alike =>
      move_eq ((validateMove_of_alike hvalid valid alike hcard hcolumn).trans haccepted) hsame
        herror
  by_contra hreaches
  rw [Bool.not_eq_false] at hreaches
  unfold reachesOut at hreaches
  cases hstatus : order.target.status with
  | none =>
    rw [hstatus] at hreaches
    cases hreaches
  | some status =>
    rw [hstatus] at hreaches
    dsimp only at hreaches
    rw [Bool.and_eq_true, Bool.not_eq_true'] at hreaches
    obtain ⟨hpersonal, hreaches⟩ := hreaches
    cases hkind : order.found.card.contentType with
    | other pk =>
      rw [hkind] at hreaches
      cases hreaches
    | ticket =>
      rw [hkind] at hreaches
      obtain ⟨hlags, hsynced⟩ := (Bool.and_eq_true _ _).mp hreaches
      exact not_separate_of_ticket hvalid hmem' hstatus hpersonal hkind hlags hsynced hview
        separate
    | column =>
      rw [hkind] at hreaches
      exact not_separate_of_column hvalid hmem' hreaches hstatus hpersonal hkind hview separate

end Moves

/-! ## Requests of members -/

section Members

variable {site : Site} {caller : Caller} {store : Store} {request : Request}

theorem contained_of_separate (hvalid : store.Valid)
    (separate : Separate caller.user (request.view site caller) store) :
    request.Contained site caller store := by
  cases request with
  | createCard boardPk body => exact known_of_separate_createCard hvalid separate
  | updateCard isPartial boardPk pk body =>
    exact fun _ hfound => known_of_separate_updateCard hvalid separate hfound
  | addTicket boardPk columnId ticketId => exact known_of_separate_addTicket hvalid separate
  | move boardPk isReorder body =>
    obtain ⟨hcard, hcolumn⟩ := known_of_separate_move hvalid separate
    exact ⟨hcard, hcolumn, contained_of_separate_move hvalid separate⟩
  | _ => trivial

/--
A request tells nothing of the personal boards of others and leaves them alone exactly if it is
refused for want of permission or contained.
-/
theorem separate_iff_contained (hvalid : store.Valid) :
    Separate caller.user (serve site caller request) store ↔
      (request.writes = true → caller.isAgentOrAbove = true →
        request.Contained site caller store) := by
  cases hrefused : request.writes && !caller.isAgentOrAbove with
  | true =>
    rw [Bool.and_eq_true, Bool.not_eq_true'] at hrefused
    have hserve : serve site caller request = fun store => (.forbidden, store) := by
      funext store
      simp [serve, hrefused.1, hrefused.2]
    rw [hserve]
    refine iff_of_true (fun _ _ _ => ⟨rfl, rfl⟩) fun _ hagent => ?_
    rw [hrefused.2] at hagent
    cases hagent
  | false =>
    have hserve : serve site caller request = request.view site caller := by
      funext store
      unfold serve
      rw [hrefused, if_neg (by simp)]
    rw [hserve]
    constructor
    · exact fun separate _ _ => contained_of_separate hvalid separate
    · intro contained
      cases hwrites : request.writes with
      | false =>
        refine separate_of_contained hvalid ?_
        cases request <;> trivial
      | true =>
        rw [hwrites, Bool.true_and, Bool.not_eq_false'] at hrefused
        exact separate_of_contained hvalid (contained hwrites hrefused)

/-- A tenant with the seeded statuses. -/
def plainSite : Site where
  ws := .seeded
  collate a b := a ≤ b
  label _ := "tickets.ticket"

/-- An agent with nothing else to her. -/
def plainAgent : Caller where
  user := 1
  isAgentOrAbove := true
  now := 0
  req := { clock := ⟨0, 0, 0, 0⟩, actor := some 1 }
  boardId := 100
  columnId index := 200 + index
  cardId index := 300 + index

/-- A board with two cards in one column. -/
def pairBoard (boardPk columnPk firstCard secondCard : ℕ) (owner : Option ℕ) : Board where
  pk := boardPk
  name := "Board"
  isPersonal := owner.isSome
  createdBy := owner
  createdAt := 0
  updatedAt := 0
  columns := [othersColumn columnPk
    [{ pk := firstCard, contentType := .ticket, objectId := 7, order := 0 },
      { pk := secondCard, contentType := .ticket, objectId := 8, order := 1 }]]

/-- A shared board, and a personal board of the second user. -/
def pairStore : Store where
  boards := [pairBoard 10 11 12 13 none, pairBoard 20 21 22 23 (some 2)]
  tickets := .empty

theorem pairStore_valid : pairStore.Valid where
  boards_pk := by decide
  columns_pk := by decide
  cards_pk := by decide
  columns_order := by decide
  cards_object := by decide

/-- The cards of a shared board are moved without regard to the personal board. -/
theorem separate_on_shared_board :
    Separate 1 (serve plainSite plainAgent
      (.move 10 false ⟨.given 12, .given 11, .given 1⟩)) pairStore := by
  refine (@separate_iff_contained plainSite plainAgent pairStore _ pairStore_valid).mpr fun _ _ => ?_
  refine ⟨?_, ?_, ?_⟩
  · rintro pk ⟨rfl⟩
    rfl
  · rintro pk ⟨rfl⟩
    rfl
  · rintro order ⟨rfl⟩ _ _
    rfl

/-- Through her own board an agent moves a card on a personal board of somebody else. -/
theorem moved_on_others_board :
    ¬∀ (site : Site) (caller : Caller) (request : Request) (store : Store), store.Valid →
      Separate caller.user (serve site caller request) store := by
  intro h
  have hseparate := (h plainSite plainAgent (.move 10 false ⟨.given 22, .given 21, .given 1⟩)
    pairStore pairStore_valid pairStore pairStore_valid rfl).2
  revert hseparate
  decide

end Members

end Kanzan.Kanban.Rest

import Kanzan.Kanban.Columns
import Kanzan.Kanban.Steps

/-!
# Contiguous orders over runs

When the columns of all boards keep counting their cards from zero without gaps: a card may leave
its column by the receivers or by a deletion only from the end, and may be moved up to the end.
-/

namespace Kanzan.Kanban

open Support Tickets

/-- Every column counts its cards from zero without gaps. -/
def Tidy (db : Db) : Prop := ∀ column : Column, Contiguous (orders column db.cards)

/-- A move that is accepted goes up to the end of the target column; or behind it, if the card is
sent on to another column.  What it sends along from other boards is last there. -/
def MoveKeepsOrder (layout : Layout) (card : CardPosition) (targetColumn : Column) (position : ℕ)
    (db : Db) : Prop :=
  let home := moveHome layout targetColumn card.ticket db.tickets
  let room := countCards targetColumn (others card db.cards)
  (if (home targetColumn).isSome then room ≤ position else position ≤ room) ∧
    ∀ other ∈ db.cards, other.ticket = card.ticket → other.pk ≠ card.pk →
      (home other.column).isSome = true → IsLast other db.cards

/-- What has to hold for an event to leave the columns without gaps. -/
def KeepsOrder (layout : Layout) (db : Db) (event : Event) : Prop :=
  match event.op with
  | .move cardId targetColumnId position =>
    ∀ card targetColumn, validateMove layout cardId targetColumnId db = .ok (card, targetColumn) →
      moveError layout card targetColumn position db.cards = none →
        MoveKeepsOrder layout card targetColumn position db
  | .destroy boardPk cardId =>
    ∀ card ∈ db.cards, card.pk = cardId → card.column.board.pk = boardPk →
      card.column.board.isAccessible event.req.actor = true → IsLast card db.cards
  | .saveTicket id change =>
    ∀ saved inst, savedBy layout event.req id change db.tickets = some (saved, inst) →
      ∀ card ∈ db.cards, card.ticket = id →
        (savedHome layout saved inst card.column).isSome = true → IsLast card db.cards
  | .addTicket .. | .populate .. | .createTicket .. => True

section Steps

variable {layout : Layout} {saved : Saved} {id : ℕ} {inst : Ticket} {db : Db} {column : Column}

theorem tidy_iff : Tidy db ↔ ∀ board, TidyOn board db.cards := by
  constructor
  · intro tidy board column _
    exact tidy column
  · intro tidy column
    exact tidy column.board column rfl

/-! ## Creation -/

theorem tidy_createCard_iff :
    Tidy (db.createCard column id (countCards column db.cards)) ↔ Tidy db := by
  rw [tidy_iff, tidy_iff]
  refine forall_congr' fun board => ?_
  rw [Db.createCard, tidyOn_perm (List.perm_append_singleton _ _)]
  exact tidyOn_cons_iff rfl

variable (layout saved id inst db) in
theorem tidy_createKanbanCard_iff :
    Tidy (createKanbanCardOnTicketSave layout saved id inst db) ↔ Tidy db := by
  rcases createKanbanCard_cases layout saved id inst db with hsame | ⟨column, -, hcreated⟩
  · rw [hsame]
  · rw [hcreated]
    exact tidy_createCard_iff

/-! ## Receivers -/

variable (layout saved id inst db) in
/-- The card that a save creates is the last of its column, and the ticket's others do not notice
it: they are on other boards. -/
theorem forall_createKanbanCard_iff (moves : Column → Prop) :
    (∀ card ∈ (createKanbanCardOnTicketSave layout saved id inst db).cards, card.ticket = id →
        moves card.column → IsLast card (createKanbanCardOnTicketSave layout saved id inst db).cards) ↔
      ∀ card ∈ db.cards, card.ticket = id → moves card.column → IsLast card db.cards := by
  rcases createKanbanCard_cases layout saved id inst db with hsame | ⟨column, hcolumn, hcreated⟩
  · rw [hsame]
  rw [hcreated]
  have hcount : ∀ card ∈ db.cards, card.ticket = id →
      countCards card.column (db.createCard column id (countCards column db.cards)).cards =
        countCards card.column db.cards := by
    intro card hmem hticket
    have hne : column ≠ card.column := by
      rintro rfl
      have habsent := newCardColumn_absent hcolumn
      rw [← hticket, isOnBoard_of_mem hmem] at habsent
      cases habsent
    unfold countCards Db.createCard
    simp [hne]
  constructor
  · intro hlast card hmem hticket hmoves
    have hcard := hlast card (List.mem_append_left _ hmem) hticket hmoves
    rwa [IsLast, hcount card hmem hticket] at hcard
  · intro hlast card hmem hticket hmoves
    rcases List.mem_append.mp hmem with hmem | hmem
    · rw [IsLast, hcount card hmem hticket]
      exact hlast card hmem hticket hmoves
    · rw [List.mem_singleton.mp hmem]
      unfold IsLast countCards Db.createCard
      simp

theorem tidy_onTicketSave_iff (keyed : Keyed db) (tidy : Tidy db) :
    Tidy (onTicketSave layout saved id inst db) ↔
      ∀ card ∈ db.cards, card.ticket = id →
        (savedHome layout saved inst card.column).isSome = true → IsLast card db.cards := by
  have distinct := (keyed.createKanbanCard layout saved id inst).toDistinct
  have htidy := tidy_iff.mp ((tidy_createKanbanCard_iff layout saved id inst db).mpr tidy)
  rw [← forall_createKanbanCard_iff layout saved id inst db fun column =>
    (savedHome layout saved inst column).isSome = true, tidy_iff, onTicketSave_cards _ _ _ _ keyed]
  constructor
  · intro moved card hmem hticket hhome
    exact (tidyOn_relocate_iff distinct savedHome_stays (htidy card.column.board)).mp
      (moved card.column.board) card hmem hticket rfl hhome
  · intro hlast board
    exact (tidyOn_relocate_iff distinct savedHome_stays (htidy board)).mpr
      fun card hmem hticket _ hhome => hlast card hmem hticket hhome

end Steps

/-! ## Saves -/

section Saves

variable {layout : Layout} {req : Request} {brokerUp : Bool} {id : ℕ} {change : TicketChange}
  {db : Db}

theorem tidy_saveTicket_iff (keyed : Keyed db) (tidy : Tidy db) :
    Tidy (saveTicket layout req brokerUp id change db) ↔
      ∀ saved inst, savedBy layout req id change db.tickets = some (saved, inst) →
        ∀ card ∈ db.cards, card.ticket = id →
          (savedHome layout saved inst card.column).isSome = true → IsLast card db.cards := by
  unfold saveTicket
  dsimp only
  generalize Tickets.step layout.toWorkspace db.tickets _ = tickets
  have tidy' : Tidy { db with tickets } := tidy
  cases hsaved : savedBy layout req id change db.tickets with
  | none =>
    constructor
    · intro _ saved inst hsome
      cases hsome
    · intro _
      exact tidy'
  | some save =>
    obtain ⟨saved, inst⟩ := save
    dsimp only
    refine (tidy_onTicketSave_iff (keyed.setTickets tickets) tidy').trans ?_
    constructor
    · intro hlast saved' inst' hsome
      obtain ⟨rfl, rfl⟩ := Prod.mk.inj (Option.some.inj hsome)
      exact hlast
    · intro hlast
      exact hlast saved inst rfl

end Saves

variable {home : Column → Option Column}

/-! ## Moves -/

section Moves

variable {layout : Layout} {req : Request} {brokerUp : Bool} {card : CardPosition}
  {targetColumn : Column} {position : ℕ} {db after : Db}

theorem tidyOn_moved_iff (position : ℕ) (keyed : Keyed db) (tidy : Tidy db) (hmem : card ∈ db.cards)
    (hboard : targetColumn.board = card.column.board) (stays : StaysOnBoard home) :
    TidyOn card.column.board
        (relocate home card.ticket (placeCard card targetColumn position db.cards)) ↔
      if (home targetColumn).isSome then countCards targetColumn (others card db.cards) ≤ position
      else position ≤ countCards targetColumn (others card db.cards) := by
  have distinct := keyed.toDistinct
  have hown := tidy_iff.mp tidy card.column.board
  have hmoved : card.movedTo targetColumn position ∈
      placeCard card targetColumn position db.cards := by
    rw [(placeCard_perm _ _ distinct hmem hown).mem_iff]
    exact List.mem_cons_self
  have hrelocated := tidyOn_relocate
    (distinct.placeCard hmem hboard position) stays hmoved rfl
  rw [CardPosition.movedTo, hboard] at hrelocated
  rw [hrelocated]
  split
  · exact (tidyOn_perm (others_placeCard_perm distinct hmem hown)).trans
      (tidyOn_displaced_iff distinct hmem hown hboard)
  · exact tidyOn_placeCard_iff distinct hmem hown hboard

/-- Another board, from which cards of the same ticket may be sent along. -/
theorem tidyOn_moved_iff_of_ne (keyed : Keyed db) (tidy : Tidy db) (hmem : card ∈ db.cards)
    (hboard : targetColumn.board = card.column.board) (stays : StaysOnBoard home) {board : Board}
    (hne : board ≠ card.column.board) :
    TidyOn board (relocate home card.ticket (placeCard card targetColumn position db.cards)) ↔
      ∀ other ∈ db.cards, other.ticket = card.ticket → other.column.board = board →
        (home other.column).isSome = true → IsLast other db.cards := by
  have distinct := keyed.toDistinct
  have hown := tidy_iff.mp tidy card.column.board
  have hsame : ∀ column : Column, column.board = board →
      (orders column (placeCard card targetColumn position db.cards)).Perm (orders column db.cards) := by
    intro column hcolumn
    exact orders_placeCard_of_ne distinct hmem hown (hcolumn ▸ hne) hboard
  rw [tidyOn_relocate_iff (distinct.placeCard hmem hboard position) stays
    ((tidyOn_congr hsame).mpr (tidy_iff.mp tidy board))]
  have hlast : ∀ other : CardPosition, other.column.board = board →
      (IsLast other (placeCard card targetColumn position db.cards) ↔ IsLast other db.cards) := by
    intro other hother
    rw [IsLast, IsLast, ← length_orders, ← length_orders, (hsame other.column hother).length_eq]
  have hplaced : ∀ other : CardPosition, other.column.board = board →
      (other ∈ placeCard card targetColumn position db.cards ↔ other ∈ db.cards) := by
    intro other hother
    exact mem_placeCard_iff_of_ne distinct hmem hown (hother ▸ hne) hboard
  constructor
  · intro moved other hother hticket hcolumn hhome
    exact (hlast other hcolumn).mp
      (moved other ((hplaced other hcolumn).mpr hother) hticket hcolumn hhome)
  · intro kept other hother hticket hcolumn hhome
    exact (hlast other hcolumn).mpr
      (kept other ((hplaced other hcolumn).mp hother) hticket hcolumn hhome)

theorem tidy_moved_iff (keyed : Keyed db) (tidy : Tidy db) (hmem : card ∈ db.cards)
    (hboard : targetColumn.board = card.column.board)
    (hcards : after.cards = relocate (moveHome layout targetColumn card.ticket db.tickets) card.ticket
      (placeCard card targetColumn position db.cards)) :
    Tidy after ↔ MoveKeepsOrder layout card targetColumn position db := by
  have stays : StaysOnBoard (moveHome layout targetColumn card.ticket db.tickets) := moveHome_stays
  have hown := tidyOn_moved_iff position keyed tidy hmem hboard stays
  unfold MoveKeepsOrder
  dsimp only
  rw [tidy_iff, hcards, ← hown]
  constructor
  · intro moved
    refine ⟨moved card.column.board, fun other hother hticket hpk hhome => ?_⟩
    have hne : other.column.board ≠ card.column.board := fun hsame =>
      hpk (congrArg CardPosition.pk (keyed.ext_place hother hmem hticket hsame))
    exact (tidyOn_moved_iff_of_ne keyed tidy hmem hboard stays hne).mp (moved other.column.board)
      other hother hticket rfl hhome
  · rintro ⟨hplaced, kept⟩ board
    by_cases hsame : board = card.column.board
    · rw [hsame]
      exact hplaced
    · refine (tidyOn_moved_iff_of_ne keyed tidy hmem hboard stays hsame).mpr ?_
      intro other hother hticket hcolumn hhome
      refine kept other hother hticket (fun hpk => hsame ?_) hhome
      rw [← hcolumn, keyed.ext hother hmem hpk]

end Moves

/-! ## Runs -/

section Runs

variable {layout : Layout} {db : Db} {event : Event}

theorem tidy_others_iff {card : CardPosition} (keyed : Keyed db) (tidy : Tidy db)
    (hmem : card ∈ db.cards) :
    Tidy { db with cards := others card db.cards } ↔ IsLast card db.cards := by
  have hown := tidyOn_others_iff keyed.toDistinct hmem (tidy_iff.mp tidy card.column.board)
  rw [← hown]
  constructor
  · intro fewer
    exact tidy_iff.mp fewer card.column.board
  · intro fewer column
    by_cases hboard : column.board = card.column.board
    · exact fewer column hboard
    · have hne : card.column ≠ column := fun heq => hboard (heq ▸ rfl)
      have hperm := orders_perm column (perm_others keyed.toDistinct hmem)
      rw [orders_cons, if_neg hne] at hperm
      exact (contiguous_congr hperm).mp (tidy column)

theorem tidy_step_iff (keyed : Keyed db) (tidy : Tidy db) :
    Tidy (step layout db event) ↔ KeepsOrder layout db event := by
  obtain ⟨op, req, brokerUp⟩ := event
  cases happly : apply layout ⟨op, req, brokerUp⟩ db with
  | error message =>
    rw [step_of_error happly]
    refine iff_of_true tidy ?_
    cases op with
    | addTicket | populate | createTicket => trivial
    | move cardId targetColumnId position =>
      intro card targetColumn hvalid haccepted
      obtain ⟨after, success⟩ := move_accepted hvalid haccepted
      exact absurd (success.symm.trans happly) (by simp)
    | destroy boardPk cardId =>
      intro card hmem hpk hboard haccess
      dsimp only [apply] at happly
      unfold destroy at happly
      split at happly
      · rename_i hnone
        have hmissing := List.find?_eq_none.mp hnone card hmem
        simp [hpk, hboard, haccess] at hmissing
      · cases happly
    | saveTicket => cases happly
  | ok after =>
    rw [step_of_ok happly]
    cases op with
    | addTicket =>
      obtain ⟨column, ticket, -, -, -, -, -, rfl⟩ := addTicket_cases happly
      exact iff_of_true (tidy_createCard_iff.mpr tidy) trivial
    | populate =>
      obtain ⟨board, rfl⟩ := populate_cases happly
      exact iff_of_true (populateBoardFromTickets_preserves board
        (fun db column id _ _ tidy _ _ _ _ => tidy_createCard_iff.mpr tidy) tidy) trivial
    | move =>
      obtain ⟨card, targetColumn, hvalid, hmoved⟩ := move_cases happly
      obtain ⟨hmem, -, -, hboard⟩ := validateMove_cases hvalid
      obtain ⟨haccepted, -, -, hcards⟩ := moveCard_cases hmoved keyed hmem hboard
      rw [tidy_moved_iff keyed tidy hmem hboard hcards]
      constructor
      · intro keeps card' targetColumn' hvalid' _
        obtain ⟨rfl, rfl⟩ := Prod.mk.inj (Except.ok.inj (hvalid.symm.trans hvalid'))
        exact keeps
      · intro keeps
        exact keeps card targetColumn hvalid haccepted
    | destroy =>
      obtain ⟨card, hmem, hpk, hboard, haccess, rfl⟩ := destroy_cases happly
      refine (tidy_others_iff keyed tidy hmem).trans ⟨fun hlast other hother hpk' _ _ => ?_, ?_⟩
      · rw [keyed.ext hother hmem (hpk'.trans hpk.symm)]
        exact hlast
      · intro keeps
        exact keeps card hmem hpk hboard haccess
    | createTicket =>
      obtain ⟨tickets, ticket, -, -, -, -, -, -, rfl⟩ := createTicket_cases happly
      have tidy' : Tidy { db with tickets := tickets.commit brokerUp } := tidy
      refine iff_of_true ((tidy_onTicketSave_iff (keyed.setTickets _) tidy').mpr ?_) trivial
      intro card _ _ hhome
      rw [savedHome_of_created rfl] at hhome
      cases hhome
    | saveTicket =>
      rw [← Except.ok.inj happly]
      exact tidy_saveTicket_iff keyed tidy

/-- In every run the columns are tidy all the time exactly if every event keeps the order. -/
theorem always_tidy_iff (layout : Layout) (tickets : Tickets.Db) (events : List Event) :
    Always (step layout) Tidy (Db.noCards tickets) events ↔
      Every (step layout) (KeepsOrder layout) (Db.noCards tickets) events :=
  always_iff_every (fun (db : Db) (inv : Keyed db ∧ Tidy db) => inv.2)
    (fun _ _ inv keeps => ⟨step_keyed inv.1, (tidy_step_iff inv.1 inv.2).mpr keeps⟩)
    (fun _ _ inv tidy => (tidy_step_iff inv.1 inv.2).mp tidy)
    ⟨Keyed.noCards tickets, fun _ => Contiguous.nil⟩ events

/-- One board with one column, which no status is mapped to. -/
def Layout.singleColumn : Layout :=
  { Workspace.seeded with
    boards := [{ pk := 0, isDefault := true }]
    columns := [{ pk := 0, board := { pk := 0, isDefault := true }, name := "Backlog", order := 0 }] }

/-- Two tickets come to the board, and the card of the first one is deleted. -/
def deletedInFront : List Event :=
  [ { op := .createTicket 1 { id := 0 }, req := { clock := ⟨0, 0, 0, 0⟩, actor := some 1 } },
    { op := .createTicket 1 { id := 1 }, req := { clock := ⟨1, 1, 1, 1⟩, actor := some 1 } },
    { op := .destroy 0 0, req := { clock := ⟨2, 2, 2, 2⟩, actor := some 1 } } ]

theorem tidy_fails_on_deletedInFront :
    ¬ Always (step .singleColumn) Tidy (Db.noCards Db.empty) deletedInFront := by
  intro always
  have hcolumn := always.finish
    { pk := 0, board := { pk := 0, isDefault := true }, name := "Backlog", order := 0 }
  have horders : orders { pk := 0, board := { pk := 0, isDefault := true }, name := "Backlog", order := 0 }
      (run (step .singleColumn) (Db.noCards Db.empty) deletedInFront).cards = [1] := by
    decide +kernel
  rw [horders] at hcolumn
  have hbound := (hcolumn.mem_iff 1).mp List.mem_cons_self
  exact Nat.lt_irrefl 1 hbound

end Runs

end Kanzan.Kanban

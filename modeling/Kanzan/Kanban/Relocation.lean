import Kanzan.Kanban.Receivers
import Kanzan.Tickets.Effects

/-!
# Cards that follow their ticket

The loops of the receivers in closed form: every card of the ticket for which a column of its
board is found, and another one than its own, goes to the end of it.
-/

namespace Kanzan.Kanban

open Tickets

def besides (id : ℕ) (cards : List CardPosition) : List CardPosition :=
  cards.filter fun card => card.ticket ≠ id

/-- A card after its ticket has been sent to the columns that `home` names. -/
def relocated (home : Column → Option Column) (id : ℕ) (cards : List CardPosition)
    (card : CardPosition) : CardPosition :=
  if card.ticket = id then
    match home card.column with
    | none => card
    | some column => { card with column, order := countCards column (besides id cards) }
  else card

def relocate (home : Column → Option Column) (id : ℕ) (cards : List CardPosition) :
    List CardPosition :=
  cards.map (relocated home id cards)

/-- The column that a loop sends the cards of a column to, if it moves them. -/
def homeOf (find : Board → Option Column) (column : Column) : Option Column :=
  (find column.board).filter fun targetColumn => targetColumn ≠ column

def andThen (first second : Column → Option Column) (column : Column) : Option Column :=
  match first column with
  | none => second column
  | some between => some ((second between).getD between)

def StaysOnBoard (home : Column → Option Column) : Prop :=
  ∀ column targetColumn, home column = some targetColumn → targetColumn.board = column.board

variable {column : Column}

section Homes

variable {home second : Column → Option Column} {find : Board → Option Column}

theorem StaysOnBoard.homeOf
    (hfind : ∀ board targetColumn, find board = some targetColumn → targetColumn.board = board) :
    StaysOnBoard (homeOf find) := by
  intro column targetColumn hhome
  exact hfind column.board targetColumn (Option.filter_eq_some_iff.mp hhome).1

theorem StaysOnBoard.andThen (stays : StaysOnBoard home) (stays' : StaysOnBoard second) :
    StaysOnBoard (andThen home second) := by
  intro column targetColumn hhome
  unfold Kanban.andThen at hhome
  cases hfirst : home column with
  | none =>
    rw [hfirst] at hhome
    exact stays' column targetColumn hhome
  | some between =>
    rw [hfirst, Option.some.injEq] at hhome
    have hbetween := stays column between hfirst
    cases hsecond : second between with
    | none => rw [← hhome, hsecond, Option.getD_none, hbetween]
    | some last =>
      rw [← hhome, hsecond, Option.getD_some, stays' between last hsecond, hbetween]

theorem homeOf_none (hnone : find column.board = none) : homeOf find column = none := by
  unfold homeOf
  rw [hnone, Option.filter_none]

end Homes

/-! ## Relocated cards -/

section Relocated

variable {home second : Column → Option Column} {id : ℕ} {cards : List CardPosition}
  {card : CardPosition}

@[simp]
theorem relocated_pk : (relocated home id cards card).pk = card.pk := by
  unfold relocated
  split
  · split <;> rfl
  · rfl

@[simp]
theorem relocated_ticket : (relocated home id cards card).ticket = card.ticket := by
  unfold relocated
  split
  · split <;> rfl
  · rfl

theorem relocated_of_ne (hticket : card.ticket ≠ id) : relocated home id cards card = card :=
  if_neg hticket

theorem relocated_of_none (hhome : home card.column = none) :
    relocated home id cards card = card := by
  unfold relocated
  split
  · rw [hhome]
  · rfl

theorem relocated_of_some (hticket : card.ticket = id) (hhome : home card.column = some column) :
    relocated home id cards card =
      { card with column, order := countCards column (besides id cards) } := by
  unfold relocated
  rw [if_pos hticket, hhome]

theorem relocated_column (hticket : card.ticket = id) :
    (relocated home id cards card).column = (home card.column).getD card.column := by
  cases hhome : home card.column with
  | none => rw [relocated_of_none hhome, Option.getD_none]
  | some column => rw [relocated_of_some hticket hhome, Option.getD_some]

theorem relocated_board (stays : StaysOnBoard home) :
    (relocated home id cards card).column.board = card.column.board := by
  by_cases hticket : card.ticket = id
  · rw [relocated_column hticket]
    cases hhome : home card.column with
    | none => rfl
    | some column => exact stays card.column column hhome
  · rw [relocated_of_ne hticket]

theorem relocated_place (stays : StaysOnBoard home) :
    (relocated home id cards card).place = card.place :=
  Prod.ext relocated_ticket (relocated_board stays)

theorem besides_map {edit : CardPosition → CardPosition}
    (hticket : ∀ card ∈ cards, (edit card).ticket = card.ticket)
    (hsame : ∀ card ∈ cards, card.ticket ≠ id → edit card = card) :
    besides id (cards.map edit) = besides id cards := by
  unfold besides
  induction cards with
  | nil => rfl
  | cons card rest ih =>
    have hrest := ih (fun card hmem => hticket card (List.mem_cons_of_mem _ hmem))
      (fun card hmem => hsame card (List.mem_cons_of_mem _ hmem))
    rw [List.map_cons, List.filter_cons, List.filter_cons, hrest,
      hticket card List.mem_cons_self]
    split
    · rename_i hne
      rw [hsame card List.mem_cons_self (of_decide_eq_true hne)]
    · rfl

theorem besides_relocate : besides id (relocate home id cards) = besides id cards :=
  besides_map (fun _ _ => relocated_ticket) (fun _ _ => relocated_of_ne)

theorem relocated_congr {cards' : List CardPosition} (hbesides : besides id cards' = besides id cards) :
    relocated home id cards' card = relocated home id cards card := by
  unfold relocated
  rw [hbesides]

theorem relocate_relocate :
    relocate second id (relocate home id cards) = relocate (andThen home second) id cards := by
  have hpointwise : ∀ card, relocated second id (relocate home id cards)
      (relocated home id cards card) = relocated (andThen home second) id cards card := by
    intro card
    rw [relocated_congr besides_relocate]
    by_cases hticket : card.ticket = id
    · cases hhome : home card.column with
      | none =>
        rw [relocated_of_none hhome]
        unfold relocated andThen
        rw [hhome]
      | some between =>
        rw [relocated_of_some hticket hhome]
        unfold relocated andThen
        rw [if_pos hticket, if_pos hticket, hhome]
        dsimp only
        cases second between with
        | none => rfl
        | some last => rfl
    · rw [relocated_of_ne hticket, relocated_of_ne hticket, relocated_of_ne hticket]
  exact List.map_map.trans (List.map_congr_left fun card _ => hpointwise card)

theorem Distinct.relocate (distinct : Distinct cards) (stays : StaysOnBoard home) :
    Distinct (relocate home id cards) :=
  distinct.map (fun _ _ => relocated_pk) (fun _ _ => relocated_place stays)

end Relocated

/-! ## The loops -/

section Loops

variable {find : Board → Option Column} {id : ℕ} {cards : List CardPosition} {card : CardPosition}

theorem countCards_besides (distinct : Distinct cards) (hmem : card ∈ cards)
    (hticket : card.ticket = id) (hboard : column.board = card.column.board)
    (hne : column ≠ card.column) :
    countCards column (besides id cards) = countCards column cards := by
  unfold countCards besides
  rw [List.countP_filter]
  refine List.countP_congr fun other hother => ?_
  rw [Bool.and_eq_true, decide_eq_true_eq, decide_eq_true_eq, and_iff_left_iff_imp]
  rintro hcolumn hsame
  have heq := distinct.ext_place hother hmem (hsame.trans hticket.symm) (hcolumn ▸ hboard)
  exact hne (heq ▸ hcolumn).symm

theorem syncCard_eq (distinct : Distinct cards) (hmem : card ∈ cards) (hticket : card.ticket = id)
    (hfind : ∀ board targetColumn, find board = some targetColumn → targetColumn.board = board) :
    syncCard find cards card =
      cards.map fun other => if other = card then relocated (homeOf find) id cards other else other := by
  have hkept : homeOf find card.column = none →
      cards = cards.map fun other =>
        if other = card then relocated (homeOf find) id cards other else other := by
    intro hhome
    refine cards.map_id.symm.trans (List.map_congr_left fun other _ => ?_)
    split
    · rename_i heq
      rw [relocated_of_none (heq ▸ hhome), id_eq]
    · rfl
  unfold syncCard
  cases hfound : find card.column.board with
  | none => exact hkept (by rw [homeOf, hfound]; rfl)
  | some targetColumn =>
    dsimp only
    split
    · rename_i hsame
      exact hkept (by rw [homeOf, hfound]; simp [hsame])
    · rename_i hne
      have hhome : homeOf find card.column = some targetColumn := by
        rw [homeOf, hfound]
        simp [hne]
      unfold updateCard
      refine List.map_congr_left fun other hother => ?_
      by_cases hsame : other = card
      · rw [if_pos hsame, if_pos (hsame ▸ rfl), hsame, relocated_of_some hticket hhome,
          countCards_besides distinct hmem hticket (hfind _ _ hfound) hne]
      · rw [if_neg hsame, if_neg fun hpk => hsame (distinct.ext hother hmem hpk)]

theorem foldl_syncCard_eq
    (hfind : ∀ board targetColumn, find board = some targetColumn → targetColumn.board = board)
    {todo : List CardPosition} (distinct : Distinct cards) (hnodup : todo.Nodup)
    (htodo : ∀ card ∈ todo, card ∈ cards ∧ card.ticket = id) :
    todo.foldl (syncCard find) cards =
      cards.map fun card => if card ∈ todo then relocated (homeOf find) id cards card else card := by
  induction todo generalizing cards with
  | nil => simp
  | cons first rest ih =>
    obtain ⟨hfirst, hticket⟩ := htodo first List.mem_cons_self
    obtain ⟨hnotMem, hrest⟩ := List.nodup_cons.mp hnodup
    have hturn := syncCard_eq distinct hfirst hticket hfind
    have stays := StaysOnBoard.homeOf hfind
    have distinct' : Distinct (syncCard find cards first) := by
      rw [hturn]
      refine distinct.map (fun card _ => ?_) (fun card _ => ?_)
      · split
        · exact relocated_pk
        · rfl
      · split
        · exact relocated_place stays
        · rfl
    have hbesides : besides id (syncCard find cards first) = besides id cards := by
      rw [hturn]
      refine besides_map (fun card _ => ?_) (fun card _ hne => ?_)
      · split
        · exact relocated_ticket
        · rfl
      · split
        · exact relocated_of_ne hne
        · rfl
    rw [List.foldl_cons, ih distinct' hrest ?_, hturn, List.map_map]
    · refine List.map_congr_left fun card hcard => ?_
      rw [← hturn, Function.comp_apply]
      by_cases heq : card = first
      · subst heq
        have hleft : relocated (homeOf find) id cards card ∉ rest := by
          intro hmem
          obtain ⟨hstored, -⟩ := htodo _ (List.mem_cons_of_mem _ hmem)
          have hsame := distinct.ext hstored hcard relocated_pk
          exact hnotMem (hsame ▸ hmem)
        rw [if_pos rfl, if_neg hleft, if_pos List.mem_cons_self]
      · have hiff : card ∈ first :: rest ↔ card ∈ rest := by
          rw [List.mem_cons, or_iff_right heq]
        rw [if_neg heq, relocated_congr hbesides, if_congr hiff rfl rfl]
    · intro card hmem
      obtain ⟨hcard, hid⟩ := htodo card (List.mem_cons_of_mem _ hmem)
      refine ⟨?_, hid⟩
      rw [hturn]
      refine List.mem_map.mpr ⟨card, hcard, if_neg ?_⟩
      rintro rfl
      exact hnotMem hmem

theorem syncCards_eq (distinct : Distinct cards)
    (hfind : ∀ board targetColumn, find board = some targetColumn → targetColumn.board = board) :
    syncCards find id cards = relocate (homeOf find) id cards := by
  unfold syncCards relocate
  rw [foldl_syncCard_eq hfind distinct]
  · refine List.map_congr_left fun card hmem => ?_
    split
    · rfl
    · rename_i hnotMem
      rw [List.mem_insertionSort, List.mem_filter, beq_iff_eq, not_and] at hnotMem
      exact (relocated_of_ne (hnotMem hmem)).symm
  · have hnodup := (List.Nodup.of_map CardPosition.pk distinct.pk).filter
      fun card => card.ticket == id
    exact (List.perm_insertionSort _ _).nodup_iff.mpr hnodup
  · intro card hmem
    rw [List.mem_insertionSort, List.mem_filter, beq_iff_eq] at hmem
    exact hmem

end Loops

/-! ## The receivers of a save -/

def statusHome (layout : Layout) (saved : Saved) (inst : Ticket) : Column → Option Column :=
  homeOf fun board =>
    if saved.created || .status ∉ saved.updateFields then none
    else layout.statusColumn board inst.status

def stageHome (layout : Layout) (saved : Saved) (inst : Ticket) : Column → Option Column :=
  homeOf fun board =>
    if saved.created || !saved.pipelineStageChanged then none
    else inst.pipelineStage.bind fun stage => layout.namedColumn board stage.name

def savedHome (layout : Layout) (saved : Saved) (inst : Ticket) : Column → Option Column :=
  andThen (statusHome layout saved inst) (stageHome layout saved inst)

section Receivers

variable {layout : Layout} {saved : Saved} {id : ℕ} {inst : Ticket} {cards : List CardPosition}
  {db : Db}

theorem statusHome_stays : StaysOnBoard (statusHome layout saved inst) := by
  refine StaysOnBoard.homeOf fun board targetColumn hfound => ?_
  split at hfound
  · cases hfound
  · exact (Layout.statusColumn_some hfound).1

theorem stageHome_stays : StaysOnBoard (stageHome layout saved inst) := by
  refine StaysOnBoard.homeOf fun board targetColumn hfound => ?_
  split at hfound
  · cases hfound
  · obtain ⟨stage, -, hnamed⟩ := Option.bind_eq_some_iff.mp hfound
    exact Layout.namedColumn_board hnamed

theorem savedHome_stays : StaysOnBoard (savedHome layout saved inst) :=
  statusHome_stays.andThen stageHome_stays

theorem relocate_none {home : Column → Option Column} (hnone : ∀ column, home column = none) :
    relocate home id cards = cards := by
  refine (List.map_congr_left fun card _ => ?_).trans cards.map_id
  exact relocated_of_none (hnone card.column)

theorem syncKanbanCardOnStatusChange_eq (distinct : Distinct cards) :
    syncKanbanCardOnStatusChange layout saved id inst cards =
      relocate (statusHome layout saved inst) id cards := by
  unfold syncKanbanCardOnStatusChange
  split
  · rename_i hskips
    exact (relocate_none fun column => homeOf_none (if_pos hskips)).symm
  · rename_i hacts
    rw [syncCards_eq distinct fun _ _ hfound => (Layout.statusColumn_some hfound).1]
    unfold statusHome
    simp only [if_neg hacts]

theorem syncKanbanCardOnPipelineStageChange_eq (distinct : Distinct cards) :
    syncKanbanCardOnPipelineStageChange layout saved id inst cards =
      relocate (stageHome layout saved inst) id cards := by
  unfold syncKanbanCardOnPipelineStageChange
  split
  · rename_i hskips
    exact (relocate_none fun column => homeOf_none (if_pos hskips)).symm
  · rename_i hacts
    split
    · rename_i hstage
      refine (relocate_none fun column => homeOf_none ?_).symm
      rw [if_neg hacts, hstage, Option.bind_none]
    · rename_i stage hstage
      rw [syncCards_eq distinct fun _ _ hfound => Layout.namedColumn_board hfound]
      unfold stageHome
      simp only [if_neg hacts, hstage, Option.bind_some]

theorem savedHome_of_created (hcreated : saved.created = true) (column : Column) :
    savedHome layout saved inst column = none := by
  have hstatus : statusHome layout saved inst column = none :=
    homeOf_none (if_pos (by rw [hcreated, Bool.true_or]))
  have hstage : stageHome layout saved inst column = none :=
    homeOf_none (if_pos (by rw [hcreated, Bool.true_or]))
  unfold savedHome andThen
  rw [hstatus]
  exact hstage

theorem newCardColumn_absent {status : TicketStatus}
    (hcolumn : newCardColumn layout id status cards = some column) :
    isOnBoard column.board id cards = false := by
  unfold newCardColumn at hcolumn
  split at hcolumn
  · cases hcolumn
  rename_i board _
  split at hcolumn
  · cases hcolumn
  rename_i habsent
  have hboard : column.board = board := by
    rcases Option.or_eq_some_iff.mp hcolumn with hstatus | ⟨-, hfirst⟩
    · exact (Layout.statusColumn_some hstatus).1
    · exact eq_of_beq (Layout.firstColumn_some hfirst).2
  rw [hboard]
  exact Bool.eq_false_iff.mpr habsent

variable (layout saved id inst db) in
/-- The receiver of a creation does nothing or puts a card to the end of a column. -/
theorem createKanbanCard_cases :
    createKanbanCardOnTicketSave layout saved id inst db = db ∨
      ∃ column, newCardColumn layout id inst.status db.cards = some column ∧
        createKanbanCardOnTicketSave layout saved id inst db =
          db.createCard column id (countCards column db.cards) := by
  unfold createKanbanCardOnTicketSave
  split
  · exact .inl rfl
  split
  · exact .inl rfl
  · rename_i column hcolumn
    exact .inr ⟨column, hcolumn, rfl⟩

variable (layout saved id inst) in
theorem Keyed.createKanbanCard (keyed : Keyed db) :
    Keyed (createKanbanCardOnTicketSave layout saved id inst db) := by
  rcases createKanbanCard_cases layout saved id inst db with hsame | ⟨column, hcolumn, hcreated⟩
  · rw [hsame]
    exact keyed
  · rw [hcreated]
    exact keyed.createCard (newCardColumn_absent hcolumn)

theorem onTicketSave_tickets : (onTicketSave layout saved id inst db).tickets = db.tickets := by
  unfold onTicketSave createKanbanCardOnTicketSave
  dsimp only
  split
  · rfl
  · split <;> rfl

variable (layout saved id inst) in
/-- A save creates a card if one is missing, and then sends the cards of its ticket. -/
theorem onTicketSave_cards (keyed : Keyed db) :
    (onTicketSave layout saved id inst db).cards =
      relocate (savedHome layout saved inst) id
        (createKanbanCardOnTicketSave layout saved id inst db).cards := by
  have distinct := (keyed.createKanbanCard layout saved id inst).toDistinct
  unfold onTicketSave savedHome
  dsimp only
  rw [syncKanbanCardOnStatusChange_eq distinct,
    syncKanbanCardOnPipelineStageChange_eq (distinct.relocate statusHome_stays), relocate_relocate]

theorem Keyed.onTicketSave (keyed : Keyed db) : Keyed (onTicketSave layout saved id inst db) :=
  (keyed.createKanbanCard layout saved id inst).of_map (onTicketSave_cards layout saved id inst keyed) rfl
    (fun _ _ => relocated_pk) (fun _ _ => relocated_place savedHome_stays)

/-- The receivers see a new status and nothing else of interest. -/
structure StatusOnly (saved : Saved) : Prop where
  created : saved.created = false
  status : .status ∈ saved.updateFields
  assignee : .assignee ∉ saved.updateFields
  assigneeChanged : saved.assigneeChanged = false
  pipelineStageChanged : saved.pipelineStageChanged = false

theorem StatusOnly.createKanbanCard (only : StatusOnly saved) :
    createKanbanCardOnTicketSave layout saved id inst db = db := by
  unfold createKanbanCardOnTicketSave
  rw [only.created, only.assigneeChanged, if_pos (by simpa using only.assignee)]

theorem StatusOnly.savedHome (only : StatusOnly saved) :
    savedHome layout saved inst = homeOf fun board => layout.statusColumn board inst.status := by
  have hstage : ∀ column, stageHome layout saved inst column = none := by
    intro column
    exact homeOf_none (if_pos (by rw [only.pipelineStageChanged]; exact Bool.or_true _))
  have hstatus : statusHome layout saved inst =
      homeOf fun board => layout.statusColumn board inst.status := by
    unfold statusHome
    congr
    funext board
    exact if_neg (by rw [only.created]; simpa using only.status)
  funext column
  unfold Kanban.savedHome andThen
  rw [hstatus]
  cases homeOf (fun board => layout.statusColumn board inst.status) column with
  | none => exact hstage column
  | some between => exact congrArg some (by rw [hstage, Option.getD_none])

/-- Such is the save of `change_ticket_status`. -/
theorem savedBy_changeTicketStatus {req : Request} {newStatus : TicketStatus} {tickets : Tickets.Db}
    (hchanges : (tickets.tickets id).any (fun ticket => ticket.status ≠ newStatus) = true) :
    ∃ saved inst, savedBy layout req id (.changeTicketStatus newStatus) tickets = some (saved, inst) ∧
      StatusOnly saved ∧ inst.status = newStatus := by
  obtain ⟨ticket, hrow, hne⟩ := (Option.any_eq_true _ _).mp hchanges
  rw [decide_eq_true_eq] at hne
  obtain ⟨preWait, breached, hdraft⟩ := statusDraft_ticket req newStatus ticket
  refine ⟨Saved.ofDraft tickets id ticket (statusDraft req newStatus ticket),
    (statusDraft req newStatus ticket).ticket, ?_, ?_, statusDraft_status⟩
  · unfold savedBy TicketChange.draft
    dsimp only
    rw [hrow, Option.bind_some, if_neg hne, Option.map_some]
  · refine ⟨rfl, status_mem_statusDraft, ?_, ?_, ?_⟩
    · dsimp only [Saved.ofDraft]
      rw [mem_statusDraft .assignee (by decide)]
      simp
    · dsimp only [Saved.ofDraft]
      rw [hdraft]
      simp
    · dsimp only [Saved.ofDraft]
      rw [hdraft]
      simp

end Receivers

end Kanzan.Kanban

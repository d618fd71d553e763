import Kanzan.Kanban.Interleaving
import Kanzan.Kanban.Marks

/-!
# Cards and the pipeline stage

A ticket that enters a stage takes its cards to the columns of the stage's name.  The receiver that
does so reads a mark, and the receiver of the SLA clock may have saved the ticket again, without
the mark, when the stage ended or began a pause.
-/

namespace Kanzan.Kanban

open Support Tickets

/-! ## The columns after a loop -/

variable {cards : List CardPosition} {board : Board}

theorem syncCards_columns {find : Board → Option Column} (id : ℕ)
    (hfind : ∀ board targetColumn, find board = some targetColumn → targetColumn.board = board)
    (hpk : (cards.map CardPosition.pk).Nodup) :
    ∃ edit, syncCards find id cards = cards.map edit ∧ ∀ card ∈ cards,
      (edit card).pk = card.pk ∧ (edit card).ticket = card.ticket ∧
        (edit card).column =
          if card.ticket = id then (find card.column.board).getD card.column else card.column := by
  have hlisted : ∀ card, card ∈ cardsOf id cards ↔ card ∈ cards ∧ card.ticket = id := by
    intro card
    rw [cardsOf, List.mem_insertionSort, List.mem_filter, beq_iff_eq]
  have same : SameBoards (cardsOf id cards) cards := by
    intro card hmem row hrow hsame
    rw [List.inj_on_of_nodup_map hpk hrow ((hlisted card).mp hmem).1 hsame]
  obtain ⟨edit, hafter, hedit⟩ := foldl_syncCard_columns hfind same
  refine ⟨edit, hafter, fun card hmem => ?_⟩
  obtain ⟨hsamePk, hsameTicket, hcolumn⟩ := hedit card hmem
  refine ⟨hsamePk, hsameTicket, hcolumn.trans ?_⟩
  cases hresaves : resaves find (cardsOf id cards) card.pk with
  | true =>
    obtain ⟨row, hrow, hmoves⟩ := List.any_eq_true.mp hresaves
    rw [Bool.and_eq_true, beq_iff_eq] at hmoves
    obtain ⟨hrowMem, hticket⟩ := (hlisted row).mp hrow
    rw [if_pos rfl, List.inj_on_of_nodup_map hpk hmem hrowMem hmoves.1.symm, if_pos hticket]
  | false =>
    rw [if_neg (by decide)]
    split
    · rename_i hticket
      have hstays := List.any_eq_false.mp hresaves card ((hlisted card).mpr ⟨hmem, hticket⟩)
      rw [beq_self_eq_true, Bool.true_and, Bool.not_eq_true, Option.isSome_eq_false_iff,
        Option.isNone_iff_eq_none, homeOf] at hstays
      cases hfound : find card.column.board with
      | none => rfl
      | some targetColumn =>
        rw [hfound, Option.filter_eq_none_iff] at hstays
        have hsame : targetColumn = card.column := by simpa using hstays targetColumn rfl
        rw [hsame, Option.getD_some]
    · rfl

/-! ## The transition -/

/-- `transition_pipeline_stage`: a statement that the database has refused comes to light at the
next one, when the transition is logged. -/
def Saving.transitionPipelineStage (layout : Layout) (req : Request) (newStage : PipelineStage)
    (reason : String) (inst : Saving) : Except String Saving :=
  let oldStage := inst.ticket.pipelineStage
  let oldStageName := (oldStage.map PipelineStage.name).getD ""
  if oldStage.any (fun old => old.pipeline ≠ newStage.pipeline) then
    .error (s!"Cannot move to stage '{newStage.name}' — it belongs to a " ++
      s!"different pipeline than the current stage '{oldStageName}'.")
  else if oldStage = some newStage then .ok inst
  else
    let draft := stageDraft layout.toWorkspace req newStage reason inst.ticket
    let inst := { inst with ticket := draft.ticket }.save layout req.clock draft.updateFields
    if inst.needsRollback then
      .error ("An error occurred in the current transaction. You can't execute queries until " ++
        "the end of the 'atomic' block.")
    else .ok (inst.onSession fun s => s.log .pipelineStageChanged)

def Db.saving (db : Db) (id : ℕ) (ticket : Ticket) : Saving := { db, id, ticket }

/-- A column with the name of the stage, as `iexact` compares. -/
def IsStageColumn (layout : Layout) (stage : PipelineStage) (column : Column) : Prop :=
  layout.upper column.name = layout.upper stage.name

def HasStageColumn (layout : Layout) (stage : PipelineStage) (board : Board) : Prop :=
  ∃ column ∈ layout.columns, column.board = board ∧ IsStageColumn layout stage column

/-- Every card of the ticket on a board with a column of the stage's name is in such a column. -/
def InStageColumns (layout : Layout) (stage : PipelineStage) (id : ℕ) (cards : List CardPosition) :
    Prop :=
  ∀ card ∈ cards, card.ticket = id → HasStageColumn layout stage card.column.board →
    IsStageColumn layout stage card.column

/-- Whether the status that comes with a stage begins or ends a pause of the SLA clock. -/
def stageSavesAgain (layout : Layout) (tickets : Tickets.Db) (id : ℕ) (newStage : PipelineStage)
    (ticket : Ticket) : Bool :=
  savesAgain tickets id ticket.status
    ((stageTarget layout.toWorkspace newStage ticket.status).getD ticket.status)

def statusLanding (layout : Layout) (newStage : PipelineStage) (ticket : Ticket)
    (column : Column) : Column :=
  if ticket.pipelineStage = some newStage then column
  else
    ((stageTarget layout.toWorkspace newStage ticket.status).bind fun status =>
      layout.statusColumn column.board status).getD column

/-- The ticket enters the stage with its SLA clock undisturbed, or its status alone has the cards
where the stage wants them. -/
def ReachesStageColumns (layout : Layout) (newStage : PipelineStage) (id : ℕ) (ticket : Ticket)
    (db : Db) : Prop :=
  (ticket.pipelineStage ≠ some newStage ∧
      stageSavesAgain layout db.tickets id newStage ticket = false) ∨
    ∀ card ∈ db.cards, card.ticket = id → HasStageColumn layout newStage card.column.board →
      IsStageColumn layout newStage (statusLanding layout newStage ticket card.column)

section Transition

variable {layout : Layout} {req : Request} {newStage : PipelineStage} {reason : String}
variable {db : Db} {id : ℕ} {ticket : Ticket} {inst after : Saving}

theorem isStageColumn_of_named {column : Column}
    (found : layout.namedColumn board newStage.name = some column) :
    IsStageColumn layout newStage column :=
  eq_of_beq ((Bool.and_eq_true _ _).mp (Layout.firstColumn_some found).2).2

theorem exists_named_of_hasStageColumn (has : HasStageColumn layout newStage board) :
    ∃ column, layout.namedColumn board newStage.name = some column := by
  obtain ⟨column, hmem, hboard, hnamed⟩ := has
  cases hfound : layout.namedColumn board newStage.name with
  | some found => exact ⟨found, rfl⟩
  | none =>
    have hfilter := Layout.firstColumn_none hfound column hmem
    rw [hboard, hnamed] at hfilter
    simp at hfilter

theorem stageMove_cases
    (success : inst.transitionPipelineStage layout req newStage reason = .ok after) :
    (inst.ticket.pipelineStage = some newStage ∧ after = inst) ∨
      (entersStage newStage inst.ticket = true ∧
        let draft := stageDraft layout.toWorkspace req newStage reason inst.ticket
        after = ({ inst with ticket := draft.ticket }.save layout req.clock
          draft.updateFields).onSession fun s => s.log .pipelineStageChanged) := by
  unfold Saving.transitionPipelineStage at success
  dsimp only at success
  split at success
  · cases success
  rename_i hpipeline
  split at success
  · rename_i hsame
    exact .inl ⟨hsame, (Except.ok.inj success).symm⟩
  rename_i hother
  split at success
  · cases success
  · refine .inr ⟨?_, (Except.ok.inj success).symm⟩
    rw [entersStage, Bool.and_eq_true, Bool.not_eq_true', decide_eq_true_eq]
    exact ⟨Bool.eq_false_iff.mpr hpipeline, hother⟩

theorem stageDraft_stage :
    (stageDraft layout.toWorkspace req newStage reason ticket).ticket.pipelineStage =
        some newStage ∧
      (stageDraft layout.toWorkspace req newStage reason ticket).ticket.assignee =
        ticket.assignee := by
  obtain ⟨_, _, _, _, _, _, hdraft⟩ := stageDraft_eq layout.toWorkspace req newStage reason ticket
  rw [hdraft]
  exact ⟨rfl, rfl⟩

theorem transitionPipelineStage_cards (hrow : db.tickets.tickets id = some ticket) :
    let draft := stageDraft layout.toWorkspace req newStage reason ticket
    ({ db.saving id ticket with ticket := draft.ticket }.save layout req.clock
        draft.updateFields).db.cards =
      (onTicketSave layout (Saved.ofDraft db.tickets id ticket draft) id draft.ticket
        db).cards := by
  obtain ⟨hstage, hassignee⟩ := @stageDraft_stage layout req newStage reason ticket
  refine @Saving.save_cards _ _ _ { db.saving id ticket with
    ticket := (stageDraft layout.toWorkspace req newStage reason ticket).ticket } _ hrow ?_ ?_ ?_
  · exact stageDraft_listed.imp_right Eq.symm
  · exact .inr hassignee.symm
  · exact .inl (by simp [mem_stageDraft])

theorem transitionPipelineStage_synced (hrow : db.tickets.tickets id = some ticket)
    (success : (db.saving id ticket).transitionPipelineStage layout req newStage reason =
      .ok after) :
    (ticket.pipelineStage = some newStage ∧ after.db.cards = db.cards) ∨
      (entersStage newStage ticket = true ∧
        let draft := stageDraft layout.toWorkspace req newStage reason ticket
        let saved := Saved.ofDraft db.tickets id ticket draft
        after.db.cards = syncKanbanCardOnPipelineStageChange layout saved id draft.ticket
          (syncKanbanCardOnStatusChange layout saved id draft.ticket db.cards)) := by
  rcases stageMove_cases success with ⟨hsame, rfl⟩ | ⟨henters, rfl⟩
  · exact .inl ⟨hsame, rfl⟩
  refine .inr ⟨henters, (transitionPipelineStage_cards hrow).trans ?_⟩
  have hcreate : createKanbanCardOnTicketSave layout (Saved.ofDraft db.tickets id ticket
      (stageDraft layout.toWorkspace req newStage reason ticket)) id
      (stageDraft layout.toWorkspace req newStage reason ticket).ticket db = db := by
    have hassignee := (@stageDraft_stage layout req newStage reason ticket).2
    unfold createKanbanCardOnTicketSave
    rw [if_pos]
    simp [Saved.ofDraft, mem_stageDraft, hassignee]
  unfold onTicketSave
  dsimp only
  rw [hcreate]

/-- The receiver of the status takes the cards where the status lands them. -/
theorem status_columns (henters : entersStage newStage ticket = true)
    (hpk : (db.cards.map CardPosition.pk).Nodup) :
    let draft := stageDraft layout.toWorkspace req newStage reason ticket
    ∃ edit, syncKanbanCardOnStatusChange layout (Saved.ofDraft db.tickets id ticket draft) id
        draft.ticket db.cards = db.cards.map edit ∧ ∀ card ∈ db.cards,
      (edit card).pk = card.pk ∧ (edit card).ticket = card.ticket ∧
        (edit card).column =
          if card.ticket = id then statusLanding layout newStage ticket card.column
          else card.column := by
  have hother : ticket.pipelineStage ≠ some newStage := by
    rw [entersStage, Bool.and_eq_true, decide_eq_true_eq] at henters
    exact henters.2
  have hlisted : Tickets.Column.status ∈
      (stageDraft layout.toWorkspace req newStage reason ticket).updateFields ↔
        (stageTarget layout.toWorkspace newStage ticket.status).isSome = true := by
    simp [mem_stageDraft]
  unfold syncKanbanCardOnStatusChange statusLanding
  dsimp only
  cases htarget : stageTarget layout.toWorkspace newStage ticket.status with
  | none =>
    rw [htarget] at hlisted
    rw [if_pos (by simp [Saved.ofDraft, hlisted])]
    refine ⟨fun card => card, (List.map_id' _).symm, fun card _ => ⟨rfl, rfl, ?_⟩⟩
    rw [if_neg hother, Option.bind_none, Option.getD_none, ite_self]
  | some status =>
    rw [htarget] at hlisted
    rw [if_neg (by simp [Saved.ofDraft, hlisted])]
    have hstatus : (stageDraft layout.toWorkspace req newStage reason ticket).ticket.status =
        status := by rw [stageDraft_status, htarget, Option.getD_some]
    obtain ⟨edit, hcards, hedit⟩ := syncCards_columns id
      (fun board _ (hfound : layout.statusColumn board status = some _) =>
        (Layout.statusColumn_some hfound).1) hpk
    refine ⟨edit, by rw [hstatus, hcards], fun card hmem => ?_⟩
    rw [if_neg hother, Option.bind_some]
    exact hedit card hmem

theorem statusLanding_board (column : Column) :
    (statusLanding layout newStage ticket column).board = column.board := by
  unfold statusLanding
  split
  · rfl
  cases hfound : (stageTarget layout.toWorkspace newStage ticket.status).bind fun status =>
      layout.statusColumn column.board status with
  | none => rfl
  | some target =>
    obtain ⟨status, -, htarget⟩ := Option.bind_eq_some_iff.mp hfound
    exact (Layout.statusColumn_some htarget).1

theorem inStageColumns_map {edit : CardPosition → CardPosition} (landing : Column → Column)
    (hboard : ∀ column, (landing column).board = column.board)
    (hedit : ∀ card ∈ cards, (edit card).pk = card.pk ∧ (edit card).ticket = card.ticket ∧
      (edit card).column = if card.ticket = id then landing card.column else card.column) :
    InStageColumns layout newStage id (cards.map edit) ↔
      ∀ card ∈ cards, card.ticket = id → HasStageColumn layout newStage card.column.board →
        IsStageColumn layout newStage (landing card.column) := by
  unfold InStageColumns
  rw [List.forall_mem_map]
  refine forall_congr' fun card => forall_congr' fun hmem => ?_
  obtain ⟨-, hticket, hcolumn⟩ := hedit card hmem
  rw [hticket]
  refine forall_congr' fun hid => ?_
  rw [hcolumn, if_pos hid, hboard]

/-- A transition takes every card of the ticket to the columns of the stage's name exactly if the
mark outlasts the receiver of the SLA clock or the cards need no receiver to be there. -/
theorem transitionPipelineStage_inStageColumns_iff (layout : Layout) (req : Request)
    (newStage : PipelineStage) (reason : String) (db : Db) (id : ℕ) (ticket : Ticket)
    (after : Saving) (hrow : db.tickets.tickets id = some ticket)
    (hpk : (db.cards.map CardPosition.pk).Nodup)
    (success : (db.saving id ticket).transitionPipelineStage layout req newStage reason =
      .ok after) :
    InStageColumns layout newStage id after.db.cards ↔
      ReachesStageColumns layout newStage id ticket db := by
  unfold ReachesStageColumns
  rcases transitionPipelineStage_synced hrow success with ⟨hsame, hcards⟩ | ⟨henters, hcards⟩
  · rw [or_iff_right fun both => both.1 hsame, hcards]
    simp only [statusLanding, if_pos hsame]
    rfl
  have hother : ticket.pipelineStage ≠ some newStage := by
    rw [entersStage, Bool.and_eq_true, decide_eq_true_eq] at henters
    exact henters.2
  have hstage := (@stageDraft_stage layout req newStage reason ticket).1
  have hmark : (Saved.ofDraft db.tickets id ticket
      (stageDraft layout.toWorkspace req newStage reason ticket)).pipelineStageChanged =
      !stageSavesAgain layout db.tickets id newStage ticket := by
    rw [Saved.ofDraft, stageSavesAgain, stageDraft_status, hstage]
    simp [ne_comm.mp hother]
  obtain ⟨edit, hstatus, hedit⟩ :=
    @status_columns layout req newStage reason db id ticket henters hpk
  dsimp only at hcards hstatus
  rw [hcards, hstatus, syncKanbanCardOnPipelineStageChange, hmark, hstage]
  cases hagain : stageSavesAgain layout db.tickets id newStage ticket with
  | true =>
    rw [if_pos (by simp), or_iff_right fun both => Bool.noConfusion both.2]
    exact inStageColumns_map _ statusLanding_board hedit
  | false =>
    rw [if_neg (by simp [Saved.ofDraft]), iff_true_right (.inl ⟨hother, rfl⟩)]
    have hpk' : ((db.cards.map edit).map CardPosition.pk).Nodup := by
      rw [List.map_map]
      exact (congrArg List.Nodup (List.map_congr_left fun card hmem =>
        (hedit card hmem).1)).mpr hpk
    obtain ⟨move, hmoved, hmove⟩ := syncCards_columns id
      (fun board _ (hfound : layout.namedColumn board newStage.name = some _) =>
        Layout.namedColumn_board hfound) hpk'
    dsimp only
    rw [hmoved, inStageColumns_map (fun column =>
      (layout.namedColumn column.board newStage.name).getD column) ?_ hmove]
    · intro card _ _ has
      obtain ⟨column, hfound⟩ := exists_named_of_hasStageColumn has
      rw [hfound, Option.getD_some]
      exact isStageColumn_of_named hfound
    · intro column
      cases hfound : layout.namedColumn column.board newStage.name with
      | none => rfl
      | some found => exact Layout.namedColumn_board hfound

/-! ## A sale that ends a wait -/

/-- The stage of a sale that was made. -/
def wonStage : PipelineStage := { pk := 1, pipeline := 0, name := "Won", isWon := true }

/-- The status that tickets come in with. -/
def freshStatus : TicketStatus :=
  { pk := 0, name := "Open", slug := "open", order := 10, isDefault := true }

def waitingColumn : Column where
  pk := 0
  board := { pk := 0 }
  name := "Waiting"
  order := 0
  status := some waitingStatus

def wonColumn : Column where
  pk := 1
  board := { pk := 0 }
  name := "Won"
  order := 1

/-- A tenant with a board for its sales, whose clocks stand still while it waits. -/
def Layout.sales : Layout :=
  { Workspace.seeded with
    statuses := defaultStatuses.set 2 waitingStatus
    boards := [{ pk := 0 }]
    columns := [waitingColumn, wonColumn] }

/-- A ticket in some status, since the epoch. -/
def saleTicket (status : TicketStatus) : Ticket :=
  { status, createdBy := 1, createdAt := 0, updatedAt := 0 }

/-- Its card in the column of the waiting ones, and a pause of its clock if it waits. -/
def saleDb (status : TicketStatus) : Db where
  tickets :=
    { tickets := fun id => if id = 0 then some (saleTicket status) else none
      ticketIds := [0]
      pauses := if status.pausesSla then [{ pk := 0, ticket := 0, pausedAt := 0 }] else [] }
  cards := [{ pk := 0, column := waitingColumn, ticket := 0, order := 0 }]
  nextCard := 1

def saleRequest : Request := { clock := ⟨60000000, 60000000, 60000000, 60000000⟩, actor := some 1 }

/-- The sale of an open ticket takes its card to the column of that name. -/
theorem transitionPipelineStage_inStageColumns_iff_fresh :
    ∃ after, ((saleDb freshStatus).saving 0 (saleTicket freshStatus)).transitionPipelineStage .sales
        saleRequest wonStage "" = .ok after ∧
      InStageColumns .sales wonStage 0 after.db.cards := by
  obtain ⟨after, hrun⟩ := isOk_iff.mp (show (((saleDb freshStatus).saving 0
    (saleTicket freshStatus)).transitionPipelineStage .sales saleRequest wonStage "").isOk = true by
      decide +kernel)
  refine ⟨after, hrun, ?_⟩
  exact (transitionPipelineStage_inStageColumns_iff .sales saleRequest wonStage ""
    (saleDb freshStatus) 0 (saleTicket freshStatus) after rfl (by decide) hrun).mpr
    (.inl ⟨by decide, by decide +kernel⟩)

/-- The sale of a waiting ticket resolves it and starts its clock again, and its card stays among
the waiting ones. -/
theorem not_transitionPipelineStage_inStageColumns :
    ∃ after, ((saleDb waitingStatus).saving 0 (saleTicket waitingStatus)).transitionPipelineStage
        .sales saleRequest wonStage "" = .ok after ∧
      ¬ InStageColumns .sales wonStage 0 after.db.cards := by
  have hcards : ((((saleDb waitingStatus).saving 0
      (saleTicket waitingStatus)).transitionPipelineStage .sales saleRequest wonStage
        "").toOption.map fun after => after.db.cards) = some (saleDb waitingStatus).cards := by
    decide +kernel
  cases hrun : ((saleDb waitingStatus).saving 0 (saleTicket waitingStatus)).transitionPipelineStage
      .sales saleRequest wonStage "" with
  | error message =>
    rw [hrun] at hcards
    cases hcards
  | ok after =>
    rw [hrun] at hcards
    have hsame : after.db.cards = (saleDb waitingStatus).cards := Option.some.inj hcards
    refine ⟨after, rfl, fun reaches => ?_⟩
    rw [hsame] at reaches
    have hnamed := reaches _ List.mem_cons_self rfl ⟨wonColumn, by decide, rfl, rfl⟩
    exact absurd hnamed (by unfold IsStageColumn; decide +kernel)

end Transition

end Kanzan.Kanban

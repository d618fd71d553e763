import Kanzan.Kanban.Interleaving

/-!
# The limit of a column

Requests count the cards of a column before they take any lock, and the receiver of a status
change does not count them.  A column stays within its limit as long as every transaction that
brings a card into it still finds room.
-/

namespace Kanzan.Kanban

open Support Tickets

def Column.Within (column : Column) (cards : List CardPosition) : Prop :=
  ∀ limit, column.wipLimit = some limit → limit ≠ 0 → countCards column cards ≤ limit

def Errand.brings (layout : Layout) (column : Column) (cards : List CardPosition) : Errand → Bool
  | .adding targetColumn _ => targetColumn == column
  | errand => cards.any fun row =>
    row.column ≠ column && errand.destination layout row = column

/-- A transaction that brings a card into the column finds it with room for one more. -/
def FindsRoom (layout : Layout) (column : Column) (world : World Db Errand)
    (event : ℕ × Action) : Prop :=
  (commits layout world.shared (world.locals event.1) event.2).isSome = true →
    (world.locals event.1).brings layout column world.shared.cards = true →
      column.isFull world.shared.cards = false

instance (layout : Layout) (column : Column) (world : World Db Errand) (event : ℕ × Action) :
    Decidable (FindsRoom layout column world event) :=
  inferInstanceAs (Decidable (_ → _ → _))

/-! ## Counting -/

section Counting

variable {layout : Layout} {column : Column} {cards after : List CardPosition}
  {edit : CardPosition → CardPosition}

theorem Column.Within.mono (within : column.Within cards)
    (hle : countCards column after ≤ countCards column cards) : column.Within after := by
  intro limit hlimit hpos
  exact hle.trans (within limit hlimit hpos)

theorem within_succ_iff (hcount : countCards column after = countCards column cards + 1) :
    column.Within after ↔ column.isFull cards = false := by
  unfold Column.Within Column.isFull
  cases column.wipLimit with
  | none => simp
  | some limit =>
    rw [Option.any_some, hcount]
    constructor
    · intro within
      by_cases hzero : limit = 0
      · simp [hzero]
      · have hle := within limit rfl hzero
        simp only [ne_eq, hzero, not_false_eq_true, decide_true, Bool.true_and,
          decide_eq_false_iff_not]
        omega
    · rintro hroom _ ⟨⟩ hpos
      simp only [ne_eq, hpos, not_false_eq_true, decide_true, Bool.true_and,
        decide_eq_false_iff_not] at hroom
      omega

theorem countCards_createCard (column : Column) (db : Db) (targetColumn : Column) (ticketId order : ℕ) :
    countCards column (db.createCard targetColumn ticketId order).cards =
      if targetColumn = column then countCards column db.cards + 1
      else countCards column db.cards := by
  unfold countCards Db.createCard
  rw [List.countP_append, List.countP_singleton]
  by_cases htarget : targetColumn = column <;> simp [htarget]

theorem countCards_map_le
    (hcomes : ∀ row ∈ cards, (edit row).column = column → row.column = column) :
    countCards column (cards.map edit) ≤ countCards column cards := by
  unfold countCards
  rw [List.countP_map]
  refine List.countP_mono_left fun row hmem hcolumn => ?_
  exact decide_eq_true (hcomes row hmem (of_decide_eq_true hcolumn))

theorem countCards_map_succ
    (hunique : ((cards.map edit).map fun card => (card.column, card.ticket)).Nodup)
    (hstays : ∀ row ∈ cards, row.column = column → (edit row).column = column)
    {first : CardPosition} (hmem : first ∈ cards) (hfirst : first.column ≠ column)
    (hcomes : (edit first).column = column)
    (hticket : ∀ row ∈ cards, row.column ≠ column → (edit row).column = column →
      (edit row).ticket = (edit first).ticket) :
    countCards column (cards.map edit) = countCards column cards + 1 := by
  let arrives : CardPosition → Bool := fun row => row.column ≠ column && (edit row).column = column
  have hsplit : countCards column (cards.map edit) =
      countCards column cards + (cards.filter arrives).length := by
    unfold countCards
    rw [List.countP_map, ← List.countP_eq_length_filter]
    refine countP_eq_add (fun row hrow hcolumn => ?_) fun row _ => ?_
    · exact decide_eq_true (hstays row hrow (of_decide_eq_true hcolumn))
    · simp [arrives]
  have hplaces : ((cards.filter arrives).map edit).map (fun card => (card.column, card.ticket)) =
      List.replicate (cards.filter arrives).length (column, (edit first).ticket) := by
    rw [List.map_map]
    refine List.eq_replicate_iff.mpr ⟨List.length_map _, fun place hplace => ?_⟩
    obtain ⟨row, hrow, rfl⟩ := List.mem_map.mp hplace
    obtain ⟨hmem, harrives⟩ := List.mem_filter.mp hrow
    simp only [arrives, ne_eq, Bool.and_eq_true, decide_eq_true_eq] at harrives
    exact Prod.ext harrives.2 (hticket row hmem harrives.1 harrives.2)
  have hle : (cards.filter arrives).length ≤ 1 := by
    rw [← List.nodup_replicate (a := (column, (edit first).ticket)), ← hplaces]
    exact hunique.sublist ((List.filter_sublist.map edit).map _)
  have hpos : 0 < (cards.filter arrives).length := by
    refine List.length_pos_of_mem (List.mem_filter.mpr ⟨hmem, ?_⟩)
    simp [arrives, hfirst, hcomes]
  omega

end Counting

/-! ## Turns -/

section Turns

variable {layout : Layout} {column : Column} {db : Db} {errand : Errand} {first row : CardPosition}

/-- What comes into a column by one transaction belongs to one ticket, and nothing leaves it. -/
theorem Errand.Holds.comes (holds : errand.Holds db) (stored : Stored layout db)
    (hmem : first ∈ db.cards) (hfirst : first.column ≠ column)
    (hcomes : errand.destination layout first = column) :
    (∀ row : CardPosition, row.column = column → errand.destination layout row = column) ∧
      ∀ row ∈ db.cards, row.column ≠ column → errand.destination layout row = column →
        row.ticket = first.ticket := by
  cases errand with
  | placing card targetColumn position =>
    dsimp only [destination] at hcomes ⊢
    split at hcomes
    · rename_i hmoved
      subst hcomes
      refine ⟨fun row hcolumn => ?_, fun row hrow hcolumn hto => ?_⟩
      · split
        · rfl
        · exact hcolumn
      · split at hto
        · rename_i hmoved'
          rw [List.inj_on_of_nodup_map stored.pk hrow hmem (hmoved'.1.trans hmoved.1.symm)]
        · exact absurd hto hcolumn
    · exact absurd hcomes hfirst
  | syncing id newStatus listed =>
    have howner : ∀ row ∈ db.cards, resaves (fun board => layout.statusColumn board newStatus)
        listed row.pk = true → row.ticket = id := by
      intro row hrow hresaves
      obtain ⟨card, hlisted, hmoves⟩ := List.any_eq_true.mp hresaves
      rw [Bool.and_eq_true, beq_iff_eq] at hmoves
      obtain ⟨hticket, hremembers⟩ := holds card hlisted
      exact (congrArg Prod.fst (hremembers.2 row hrow hmoves.1.symm)).trans hticket
    dsimp only [destination] at hcomes ⊢
    split at hcomes
    · rename_i hresaves
      have hfound : layout.statusColumn first.column.board newStatus = some column := by
        cases hfound : layout.statusColumn first.column.board newStatus with
        | none =>
          rw [hfound] at hcomes
          exact absurd hcomes hfirst
        | some targetColumn =>
          rw [hfound] at hcomes
          exact congrArg some hcomes
      refine ⟨fun row hcolumn => ?_, fun row hrow hcolumn hto => ?_⟩
      · split
        · rw [hcolumn, (Layout.statusColumn_some hfound).1, hfound, Option.getD_some]
        · exact hcolumn
      · split at hto
        · rename_i hresaves'
          rw [howner row hrow hresaves', howner first hmem hresaves]
        · exact absurd hto hcolumn
    · exact absurd hcomes hfirst
  | idle => exact absurd hcomes hfirst
  | adding => exact absurd hcomes hfirst
  | moving => exact absurd hcomes hfirst
  | moved => exact absurd hcomes hfirst

theorem brings_iff (hadds : ∀ targetColumn ticketId, errand ≠ .adding targetColumn ticketId) :
    errand.brings layout column db.cards = true ↔
      ∃ row ∈ db.cards, row.column ≠ column ∧ errand.destination layout row = column := by
  cases errand with
  | adding targetColumn ticketId => exact absurd rfl (hadds targetColumn ticketId)
  | _ => simp [Errand.brings]

/-- A transaction keeps the column within its limit exactly if what it brings finds room. -/
theorem within_written_iff {req : Request} {brokerUp : Bool} (stored : Stored layout db)
    (holds : errand.Holds db)
    (storable : Storable layout (written layout req brokerUp db errand).cards)
    (within : column.Within db.cards) :
    column.Within (written layout req brokerUp db errand).cards ↔
      (errand.brings layout column db.cards = true → column.isFull db.cards = false) := by
  by_cases hadds : ∃ targetColumn ticketId, errand = .adding targetColumn ticketId
  · obtain ⟨targetColumn, ticketId, rfl⟩ := hadds
    dsimp only [Errand.brings, written]
    have hcount := countCards_createCard column db targetColumn ticketId
      (countCards targetColumn db.cards)
    by_cases htarget : targetColumn = column
    · rw [if_pos htarget] at hcount
      rw [within_succ_iff hcount, beq_iff_eq]
      exact ⟨fun hroom _ => hroom, fun hroom => hroom htarget⟩
    · rw [if_neg htarget] at hcount
      refine iff_of_true (within.mono hcount.le) fun hbrings => ?_
      exact absurd (eq_of_beq hbrings) htarget
  · simp only [not_exists] at hadds
    obtain ⟨-, edit, hcards, hkeeps⟩ := holds.written_map hadds
    rw [brings_iff hadds, hcards]
    by_cases hbrings : ∃ row ∈ db.cards, row.column ≠ column ∧
        errand.destination layout row = column
    · obtain ⟨first, hmem, hfirst, hcomes⟩ := hbrings
      obtain ⟨hstays, hticket⟩ := holds.comes stored hmem hfirst hcomes
      have hcount : countCards column (db.cards.map edit) = countCards column db.cards + 1 := by
        refine countCards_map_succ (hcards ▸ storable.2) (fun row hrow hcolumn => ?_) hmem hfirst ?_
          fun row hrow hcolumn hto => ?_
        · rw [(hkeeps row hrow).2.2]
          exact hstays row hcolumn
        · rw [(hkeeps first hmem).2.2]
          exact hcomes
        · rw [(hkeeps row hrow).2.1, (hkeeps first hmem).2.1]
          exact hticket row hrow hcolumn ((hkeeps row hrow).2.2 ▸ hto)
      rw [within_succ_iff hcount]
      exact ⟨fun hroom _ => hroom, fun hroom => hroom ⟨first, hmem, hfirst, hcomes⟩⟩
    · refine iff_of_true (within.mono (countCards_map_le fun row hrow hto => ?_))
        fun hcomes => absurd hcomes hbrings
      by_contra hcolumn
      exact hbrings ⟨row, hrow, hcolumn, (hkeeps row hrow).2.2 ▸ hto⟩

theorem within_turn_iff {world : World Db Errand} {event : ℕ × Action}
    (keeps : World.Keeps (Stored layout) (fun _ db errand => errand.Holds db) world)
    (within : column.Within world.shared.cards) :
    column.Within (turn layout world event).shared.cards ↔ FindsRoom layout column world event := by
  obtain ⟨process, action⟩ := event
  unfold FindsRoom
  rw [World.turn_shared, act_shared]
  cases hcommits : commits layout world.shared (world.locals process) action with
  | none => exact iff_of_true within nofun
  | some after =>
    obtain ⟨req, brokerUp, rfl, storable⟩ := commits_cases hcommits
    rw [Option.getD_some,
      within_written_iff keeps.shared (keeps.locals process) storable within]
    exact ⟨fun hroom _ => hroom, fun hroom => hroom rfl⟩

end Turns

/-! ## Runs -/

/-- The column of a board for one closed ticket. -/
def singleColumn : Column where
  pk := 1
  board := { pk := 0 }
  name := "Closed"
  order := 1
  status := some { pk := 4, name := "Closed", slug := "closed", order := 50, isClosed := true }
  wipLimit := some 1

/-- The other column of the board. -/
def backlogColumn : Column where
  pk := 0
  board := { pk := 0 }
  name := "Backlog"
  order := 0

def Layout.narrow : Layout :=
  { Workspace.seeded with boards := [{ pk := 0 }], columns := [backlogColumn, singleColumn] }

/-- Two tickets on the board, one of them in the column with a limit of one. -/
def occupied : Db where
  tickets := run (Tickets.step Workspace.seeded) Tickets.Db.empty
    [ { op := .createTicket 1 { id := 0 }, req := { clock := ⟨0, 0, 0, 0⟩, actor := some 1 } },
      { op := .createTicket 1 { id := 1 }, req := { clock := ⟨1, 1, 1, 1⟩, actor := some 1 } } ]
  cards := [ { pk := 0, column := singleColumn, ticket := 0, order := 0 },
    { pk := 1, column := backlogColumn, ticket := 1, order := 0 } ]
  nextCard := 2

/-- The other ticket is closed. -/
def secondClosed : List (ℕ × Action) :=
  [ (0, .changeTicketStatus 1
      { pk := 4, name := "Closed", slug := "closed", order := 50, isClosed := true }),
    (0, .proceed { clock := ⟨2, 2, 2, 2⟩, actor := some 1 } true) ]

theorem stored_occupied : Stored .narrow occupied where
  pk := by decide
  fresh := by decide
  storable := by decide

theorem within_occupied : singleColumn.Within occupied.cards := by
  rintro _ ⟨⟩ -
  decide

end Kanzan.Kanban

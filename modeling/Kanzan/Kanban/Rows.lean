import Kanzan.Tickets.System

/-!
# Boards and cards

The boards of a tenant and their columns are fixed over a run; cards come, go and move.  Only
cards of tickets are modelled.
-/

namespace Kanzan.Kanban

open Tickets

/-! ## Configuration -/

/-- `Board.ResourceType`. -/
inductive ResourceType where
  | ticket
  | deal
  deriving DecidableEq, Repr

structure Board where
  pk : ℕ
  resourceType : ResourceType := .ticket
  isDefault : Bool := false
  isPersonal : Bool := false
  createdBy : Option ℕ := none
  deriving DecidableEq, Repr

structure Column where
  pk : ℕ
  board : Board
  name : String
  order : ℕ
  status : Option TicketStatus := none
  wipLimit : Option ℕ := none
  deriving DecidableEq, Repr

/-- A tenant with its boards, latest first, and the columns of all of them. -/
structure Layout extends Workspace where
  boards : List Board
  columns : List Column
  /-- `UPPER` of the database, by which `iexact` compares. -/
  upper : String → String := String.toUpper
  /-- The greatest number that fits the column of an order. -/
  maxOrder : ℕ := 2147483647

variable {board : Board} {filter : Column → Bool} {status : TicketStatus}

namespace Layout

variable (layout : Layout)

/-- `Column.objects.filter(...).first()`, by display order. -/
def firstColumn (filter : Column → Bool) : Option Column :=
  ((layout.columns.filter filter).insertionSort (fun a b => a.order ≤ b.order)).head?

/-- `Column.objects.filter(board=board, status=status).first()`. -/
def statusColumn (board : Board) (status : TicketStatus) : Option Column :=
  layout.firstColumn fun column => column.board == board && column.status == some status

/-- `Column.objects.filter(board=board, name__iexact=name).first()`. -/
def namedColumn (board : Board) (name : String) : Option Column :=
  layout.firstColumn fun column =>
    column.board == board && layout.upper column.name == layout.upper name

def defaultBoard : Option Board :=
  layout.boards.find? fun board => board.resourceType == .ticket && board.isDefault

variable {layout}
variable {column : Column}

theorem firstColumn_some (found : layout.firstColumn filter = some column) :
    column ∈ layout.columns ∧ filter column = true := by
  have hmem := List.mem_of_mem_head? found
  rw [List.mem_insertionSort, List.mem_filter] at hmem
  exact hmem

theorem firstColumn_none (missing : layout.firstColumn filter = none) :
    ∀ column ∈ layout.columns, filter column = false := by
  intro column hmem
  have hnil := List.head?_eq_none_iff.mp missing
  by_contra hfilter
  have hfound : column ∈ (layout.columns.filter filter).insertionSort (fun a b => a.order ≤ b.order) := by
    rw [List.mem_insertionSort, List.mem_filter]
    exact ⟨hmem, eq_true_of_ne_false hfilter⟩
  rw [hnil] at hfound
  cases hfound

theorem statusColumn_some (found : layout.statusColumn board status = some column) :
    column.board = board ∧ column.status = some status := by
  have hfilter := (firstColumn_some found).2
  rw [Bool.and_eq_true, beq_iff_eq, beq_iff_eq] at hfilter
  exact hfilter

theorem statusColumn_isSome (hmem : column ∈ layout.columns) (hstatus : column.status = some status)
    :
    (layout.statusColumn column.board status).isSome = true := by
  cases hfound : layout.statusColumn column.board status with
  | some found => rfl
  | none =>
    have hfilter := firstColumn_none hfound column hmem
    rw [hstatus] at hfilter
    simp at hfilter

theorem namedColumn_board {name : String} (found : layout.namedColumn board name = some column) :
    column.board = board :=
  eq_of_beq ((Bool.and_eq_true _ _).mp (firstColumn_some found).2).1

end Layout

/-! ## Rows -/

/-- The `CardPosition` row of a ticket. -/
structure CardPosition where
  pk : ℕ
  column : Column
  ticket : ℕ
  order : ℕ
  deriving DecidableEq, Repr

/-- The tickets and the cards; `nextCard` is the key that the next card is given. -/
structure Db where
  tickets : Tickets.Db
  cards : List CardPosition := []
  nextCard : ℕ := 0

def Db.noCards (tickets : Tickets.Db) : Db := { tickets }

/-- `column.cards.count()`. -/
def countCards (column : Column) (cards : List CardPosition) : ℕ :=
  cards.countP fun card => card.column = column

def isOnBoard (board : Board) (ticket : ℕ) (cards : List CardPosition) : Bool :=
  cards.any fun card => card.ticket == ticket && card.column.board == board

/-- `CardPosition.objects.create(...)`. -/
def Db.createCard (db : Db) (column : Column) (ticket order : ℕ) : Db :=
  { db with
    cards := db.cards ++ [{ pk := db.nextCard, column, ticket, order }]
    nextCard := db.nextCard + 1 }

def updateCard (pk : ℕ) (edit : CardPosition → CardPosition) (cards : List CardPosition) :
    List CardPosition :=
  cards.map fun card => if card.pk = pk then edit card else card

/-- `column.cards.filter(...).update(order=...)`. -/
def shiftOrders (column : Column) (affected : ℕ → Bool) (shift : ℕ → ℕ)
    (cards : List CardPosition) : List CardPosition :=
  cards.map fun card =>
    if card.column = column && affected card.order then { card with order := shift card.order }
    else card

/-! ## Keys -/

def CardPosition.place (card : CardPosition) : ℕ × Board := (card.ticket, card.column.board)

/-- Every card has a key of its own, and no ticket is twice on a board. -/
structure Distinct (cards : List CardPosition) : Prop where
  pk : (cards.map CardPosition.pk).Nodup
  place : (cards.map CardPosition.place).Nodup

/-- The same of the stored cards, with a key left for the next one. -/
structure Keyed (db : Db) : Prop extends Distinct db.cards where
  fresh : ∀ card ∈ db.cards, card.pk < db.nextCard

section Keys

variable {db db' : Db} {column : Column} {ticket order : ℕ} {cards fewer : List CardPosition}
  {edit : CardPosition → CardPosition} {first second : CardPosition}

theorem isOnBoard_iff :
    isOnBoard board ticket cards = true ↔ (ticket, board) ∈ cards.map CardPosition.place := by
  simp [isOnBoard, CardPosition.place]

theorem isOnBoard_of_mem {card : CardPosition} (hmem : card ∈ cards) :
    isOnBoard card.column.board card.ticket cards = true :=
  isOnBoard_iff.mpr (List.mem_map.mpr ⟨card, hmem, rfl⟩)

theorem Distinct.ext (distinct : Distinct cards) (hfirst : first ∈ cards) (hsecond : second ∈ cards)
    (hpk : first.pk = second.pk) : first = second :=
  List.inj_on_of_nodup_map distinct.pk hfirst hsecond hpk

theorem Distinct.ext_place (distinct : Distinct cards) (hfirst : first ∈ cards)
    (hsecond : second ∈ cards) (hticket : first.ticket = second.ticket)
    (hboard : first.column.board = second.column.board) : first = second :=
  List.inj_on_of_nodup_map distinct.place hfirst hsecond (Prod.ext hticket hboard)

theorem Distinct.map (distinct : Distinct cards) (hpk : ∀ card ∈ cards, (edit card).pk = card.pk)
    (hplace : ∀ card ∈ cards, (edit card).place = card.place) : Distinct (cards.map edit) where
  pk := by
    rw [List.map_map, List.map_congr_left (f := CardPosition.pk ∘ edit) hpk]
    exact distinct.pk
  place := by
    rw [List.map_map, List.map_congr_left (f := CardPosition.place ∘ edit) hplace]
    exact distinct.place

theorem Distinct.sublist (distinct : Distinct cards) (hsub : fewer.Sublist cards) :
    Distinct fewer where
  pk := distinct.pk.sublist (hsub.map _)
  place := distinct.place.sublist (hsub.map _)

theorem Keyed.noCards (tickets : Tickets.Db) : Keyed (Db.noCards tickets) where
  pk := List.nodup_nil
  place := List.nodup_nil
  fresh _ hmem := absurd hmem List.not_mem_nil

theorem Keyed.of_map (keyed : Keyed db) (hcards : db'.cards = db.cards.map edit)
    (hnext : db'.nextCard = db.nextCard) (hpk : ∀ card ∈ db.cards, (edit card).pk = card.pk)
    (hplace : ∀ card ∈ db.cards, (edit card).place = card.place) : Keyed db' where
  toDistinct := by
    rw [hcards]
    exact keyed.map hpk hplace
  fresh card hmem := by
    rw [hcards] at hmem
    obtain ⟨before, hbefore, rfl⟩ := List.mem_map.mp hmem
    rw [hnext, hpk before hbefore]
    exact keyed.fresh before hbefore

theorem Keyed.createCard (keyed : Keyed db)
    (habsent : isOnBoard column.board ticket db.cards = false) :
    Keyed (db.createCard column ticket order) where
  pk := by
    rw [Db.createCard, List.map_append]
    refine List.nodup_append.mpr ⟨keyed.pk, List.nodup_singleton _, ?_⟩
    rintro pk hpk last hlast rfl
    obtain ⟨card, hcard, hpk⟩ := List.mem_map.mp hpk
    have hfresh := keyed.fresh card hcard
    rw [hpk, List.mem_singleton.mp hlast] at hfresh
    exact Nat.lt_irrefl _ hfresh
  place := by
    rw [Db.createCard, List.map_append]
    refine List.nodup_append.mpr ⟨keyed.place, List.nodup_singleton _, ?_⟩
    rintro place hplace last hlast rfl
    rw [List.mem_singleton.mp hlast] at hplace
    rw [isOnBoard_iff.mpr hplace] at habsent
    cases habsent
  fresh card hmem := by
    rcases List.mem_append.mp hmem with hmem | hmem
    · exact Nat.lt_succ_of_lt (keyed.fresh card hmem)
    · rw [List.mem_singleton.mp hmem]
      exact Nat.lt_succ_self _

end Keys

end Kanzan.Kanban

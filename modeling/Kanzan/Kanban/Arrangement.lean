import Kanzan.Kanban.Columns

/-!
# The cards of a column as a list

A board as one list of cards for every column, on which a move takes the card out and puts it in
again.  The range updates of the services do the same to the stored orders.
-/

namespace Kanzan.Kanban

open Support

/-! ## Boards as lists -/

/-- A list of keys for every column. -/
abbrev Shelves := Column → List ℕ

/-- A key is taken out of one list and put into another, or the same, at a position. -/
def Shelves.move (shelves : Shelves) (source target : Column) (key position : ℕ) : Shelves :=
  let taken := Function.update shelves source ((shelves source).erase key)
  Function.update taken target ((taken target).insertIdx position key)

def listing (cards : List CardPosition) : Shelves := fun column =>
  ((cards.filter fun card => card.column = column).insertionSort fun a b =>
    a.order ≤ b.order).map CardPosition.pk

/-- A position of the column: one of its own for a card that stays, else up to the end. -/
def IsPlace (card : CardPosition) (targetColumn : Column) (position : ℕ)
    (cards : List CardPosition) : Prop :=
  if card.column = targetColumn then position + 1 ≤ countCards targetColumn cards
  else position ≤ countCards targetColumn cards

instance (card : CardPosition) (targetColumn : Column) (position : ℕ)
    (cards : List CardPosition) : Decidable (IsPlace card targetColumn position cards) :=
  by unfold IsPlace; infer_instance

section Listing

variable {cards : List CardPosition} {card : CardPosition} {column targetColumn : Column}
  {position : ℕ}

theorem length_listing (cards : List CardPosition) (column : Column) :
    (listing cards column).length = countCards column cards := by
  rw [listing, List.length_map, List.length_insertionSort, countCards,
    List.countP_eq_length_filter]

theorem orders_sorted (contiguous : Contiguous (orders column cards)) :
    ((cards.filter fun card => card.column = column).insertionSort fun a b =>
      a.order ≤ b.order).map CardPosition.order = List.range (countCards column cards) := by
  have hsorted := List.pairwise_insertionSort
    (fun a b : CardPosition => a.order ≤ b.order) (cards.filter fun card => card.column = column)
  have hperm := ((List.perm_insertionSort (fun a b : CardPosition => a.order ≤ b.order)
    (cards.filter fun card => card.column = column)).map CardPosition.order).trans
      contiguous.perm_range
  rw [length_orders] at hperm
  exact hperm.eq_of_pairwise' (List.pairwise_map.mpr hsorted) List.pairwise_le_range

theorem getElem?_listing (contiguous : Contiguous (orders column cards)) {place key : ℕ} :
    (listing cards column)[place]? = some key ↔
      ∃ card ∈ cards, card.column = column ∧ card.order = place ∧ card.pk = key := by
  have horders := orders_sorted contiguous
  have hmem : ∀ card, card ∈ (cards.filter fun card => card.column = column).insertionSort
      (fun a b => a.order ≤ b.order) ↔ card ∈ cards ∧ card.column = column := by
    simp
  unfold listing
  generalize (cards.filter fun card => card.column = column).insertionSort
    (fun a b => a.order ≤ b.order) = sorted at horders hmem ⊢
  have horder : ∀ (i : ℕ) (card : CardPosition), sorted[i]? = some card → card.order = i := by
    intro i card hcard
    have hrange : (List.range (countCards column cards))[i]? = some card.order := by
      rw [← horders, List.getElem?_map, hcard]
      rfl
    obtain ⟨hi, hget⟩ := List.getElem?_eq_some_iff.mp hrange
    rw [List.getElem_range] at hget
    exact hget.symm
  rw [List.getElem?_map, Option.map_eq_some_iff]
  constructor
  · rintro ⟨card, hcard, hkey⟩
    obtain ⟨hstored, hcolumn⟩ := (hmem card).mp (List.mem_of_getElem? hcard)
    exact ⟨card, hstored, hcolumn, horder place card hcard, hkey⟩
  · rintro ⟨card, hstored, hcolumn, hplace, hkey⟩
    obtain ⟨i, hi⟩ := List.mem_iff_getElem?.mp ((hmem card).mpr ⟨hstored, hcolumn⟩)
    have hsame := horder i card hi
    exact ⟨card, by rw [← hplace, hsame]; exact hi, hkey⟩

theorem listing_nodup (distinct : Distinct cards) (column : Column) :
    (listing cards column).Nodup := by
  have hperm := (List.perm_insertionSort (fun a b : CardPosition => a.order ≤ b.order)
    (cards.filter fun card => card.column = column)).map CardPosition.pk
  exact hperm.nodup_iff.mpr (distinct.pk.sublist (List.filter_sublist.map _))

theorem getElem?_listing_card (hmem : card ∈ cards)
    (contiguous : Contiguous (orders card.column cards)) :
    (listing cards card.column)[card.order]? = some card.pk :=
  (getElem?_listing contiguous).mpr ⟨card, hmem, rfl, rfl, rfl⟩

theorem erase_listing (distinct : Distinct cards) (hmem : card ∈ cards)
    (contiguous : Contiguous (orders card.column cards)) :
    (listing cards card.column).erase card.pk = (listing cards card.column).eraseIdx card.order := by
  obtain ⟨hlt, hget⟩ := List.getElem?_eq_some_iff.mp (getElem?_listing_card hmem contiguous)
  have herase := (listing_nodup distinct card.column).erase_getElem _ hlt
  rwa [hget] at herase

/-! ## The lists after a move -/

theorem isPlace_iff (distinct : Distinct cards) (hmem : card ∈ cards) :
    IsPlace card targetColumn position cards ↔
      position ≤ countCards targetColumn (others card cards) := by
  unfold IsPlace
  by_cases hcolumn : card.column = targetColumn
  · rw [if_pos hcolumn, ← hcolumn, countCards_others distinct hmem]
    exact Nat.succ_le_succ_iff
  · have hperm : countCards targetColumn cards =
        countCards targetColumn (card :: others card cards) :=
      countCards_perm (perm_others distinct hmem)
    rw [countCards, countCards, List.countP_cons_of_neg (by simpa using hcolumn)] at hperm
    rw [if_neg hcolumn, countCards, countCards, hperm]

theorem filter_placeCard_of_ne (distinct : Distinct cards) (hmem : card ∈ cards)
    (tidy : TidyOn card.column.board cards) (hsource : column ≠ card.column)
    (htarget : column ≠ targetColumn) :
    ((placeCard card targetColumn position cards).filter fun other => other.column = column) =
      cards.filter fun other => other.column = column := by
  rw [placeCard_eq distinct hmem (tidy card.column rfl).nodup, List.filter_map]
  have hkeeps : ∀ other ∈ cards,
      decide ((if other.pk = card.pk then card.movedTo targetColumn position
        else displaced card targetColumn position other).column = column) =
      decide (other.column = column) := by
    intro other hother
    refine decide_eq_decide.mpr ?_
    split
    · rename_i hpk
      rw [distinct.ext hother hmem hpk]
      exact ⟨fun h => absurd h.symm htarget, fun h => absurd h.symm hsource⟩
    · rfl
  rw [List.filter_congr (q := fun other => decide (other.column = column)) hkeeps]
  refine (List.map_congr_left fun other hother => ?_).trans (List.map_id _)
  obtain ⟨hstored, hcolumn⟩ := List.mem_filter.mp hother
  obtain rfl := of_decide_eq_true hcolumn
  have hpk : other.pk ≠ card.pk := fun hpk => hsource (congrArg _ (distinct.ext hstored hmem hpk))
  rw [if_neg hpk, displaced]
  simp only [if_neg hsource, if_neg htarget]
  rfl

theorem exists_placeCard_iff (distinct : Distinct cards) (hmem : card ∈ cards)
    (tidy : TidyOn card.column.board cards) {place key : ℕ} :
    (∃ moved ∈ placeCard card targetColumn position cards,
        moved.column = column ∧ moved.order = place ∧ moved.pk = key) ↔
      (column = targetColumn ∧ place = position ∧ key = card.pk) ∨
        ∃ other ∈ cards, other.pk ≠ card.pk ∧ other.column = column ∧
          (displaced card targetColumn position other).order = place ∧ other.pk = key := by
  rw [placeCard_eq distinct hmem (tidy card.column rfl).nodup]
  constructor
  · rintro ⟨moved, hmoved, hcolumn, hplace, hkey⟩
    obtain ⟨other, hother, rfl⟩ := List.mem_map.mp hmoved
    by_cases hpk : other.pk = card.pk
    · rw [if_pos hpk] at hcolumn hplace hkey
      exact .inl ⟨hcolumn.symm, hplace.symm, hkey.symm⟩
    · rw [if_neg hpk] at hcolumn hplace hkey
      exact .inr ⟨other, hother, hpk, hcolumn, hplace, hkey⟩
  · rintro (⟨rfl, rfl, rfl⟩ | ⟨other, hother, hpk, hcolumn, hplace, hkey⟩)
    · exact ⟨_, List.mem_map.mpr ⟨card, hmem, rfl⟩, by rw [if_pos rfl]; exact ⟨rfl, rfl, rfl⟩⟩
    · exact ⟨_, List.mem_map.mpr ⟨other, hother, rfl⟩, by
        rw [if_neg hpk]
        exact ⟨hcolumn, hplace, hkey⟩⟩

theorem getElem?_taken (distinct : Distinct cards) (hmem : card ∈ cards)
    (contiguous : Contiguous (orders column cards)) (place : ℕ) {key : ℕ} :
    (Function.update (listing cards) card.column
        ((listing cards card.column).erase card.pk) column)[place]? = some key ↔
      ∃ other ∈ cards, other.pk ≠ card.pk ∧ other.column = column ∧
        (if other.column = card.column then closeGap card.order other.order else other.order) =
          place ∧ other.pk = key := by
  by_cases hcolumn : column = card.column
  · subst hcolumn
    rw [Function.update_self, erase_listing distinct hmem contiguous, getElem?_eraseIdx_iff]
    constructor
    · rintro ⟨before, hbefore, hne, hplace⟩
      obtain ⟨other, hother, hown, horder, hkey⟩ := (getElem?_listing contiguous).mp hbefore
      refine ⟨other, hother, ?_, hown, ?_, hkey⟩
      · intro hpk
        exact hne (horder ▸ congrArg CardPosition.order (distinct.ext hother hmem hpk))
      · rw [if_pos hown, horder, hplace]
    · rintro ⟨other, hother, hpk, hown, hplace, hkey⟩
      rw [if_pos hown] at hplace
      have hat := (getElem?_listing contiguous).mpr ⟨other, hother, hown, rfl, hkey⟩
      refine ⟨other.order, hat, fun heq => hpk ?_, hplace⟩
      rw [heq, getElem?_listing_card hmem contiguous] at hat
      exact hkey.trans (Option.some.inj hat).symm
  · rw [Function.update_of_ne hcolumn, getElem?_listing contiguous]
    constructor
    · rintro ⟨other, hother, rfl, horder, hkey⟩
      refine ⟨other, hother, ?_, rfl, ?_, hkey⟩
      · intro hpk
        exact hcolumn (congrArg CardPosition.column (distinct.ext hother hmem hpk))
      · rw [if_neg hcolumn, horder]
    · rintro ⟨other, hother, hpk, rfl, hplace, hkey⟩
      rw [if_neg hcolumn] at hplace
      exact ⟨other, hother, rfl, hplace, hkey⟩

theorem le_length_taken (hmem : card ∈ cards)
    (isPlace : IsPlace card targetColumn position cards) :
    position ≤ (Function.update (listing cards) card.column
      ((listing cards card.column).erase card.pk) targetColumn).length := by
  by_cases hcolumn : card.column = targetColumn
  · have hin : card.pk ∈ listing cards card.column :=
      List.mem_map.mpr ⟨card, by simpa using hmem, rfl⟩
    rw [IsPlace, if_pos hcolumn] at isPlace
    rw [← hcolumn, Function.update_self, List.length_erase_of_mem hin, length_listing, hcolumn]
    omega
  · rw [IsPlace, if_neg hcolumn] at isPlace
    rw [Function.update_of_ne (Ne.symm hcolumn), length_listing]
    exact isPlace

theorem listing_placeCard_on (distinct : Distinct cards) (hmem : card ∈ cards)
    (tidy : TidyOn card.column.board cards) (htarget : targetColumn.board = card.column.board)
    (isPlace : IsPlace card targetColumn position cards) (hcolumn : column.board = card.column.board) :
    listing (placeCard card targetColumn position cards) column =
      (listing cards).move card.column targetColumn card.pk position column := by
  have hplaced := (tidyOn_placeCard_iff distinct hmem tidy htarget).mpr
    ((isPlace_iff distinct hmem).mp isPlace)
  refine List.ext_getElem? fun place => Option.ext fun key => ?_
  rw [getElem?_listing (hplaced column hcolumn), exists_placeCard_iff distinct hmem tidy]
  have htaken := fun place => @getElem?_taken _ _ _ distinct hmem (tidy column hcolumn) place key
  unfold Shelves.move displaced
  by_cases hmoved : column = targetColumn
  · subst hmoved
    rw [Function.update_self, getElem?_insertIdx_iff (le_length_taken hmem isPlace)]
    refine or_congr (and_iff_right rfl) ⟨?_, ?_⟩
    · rintro ⟨other, hother, hpk, hown, hplace, hkey⟩
      exact ⟨_, (htaken _).mpr ⟨other, hother, hpk, hown, rfl, hkey⟩,
        (if_pos hown).symm.trans hplace⟩
    · rintro ⟨before, hbefore, hplace⟩
      obtain ⟨other, hother, hpk, hown, rfl, hkey⟩ := (htaken before).mp hbefore
      exact ⟨other, hother, hpk, hown, (if_pos hown).trans hplace, hkey⟩
  · rw [Function.update_of_ne hmoved, htaken]
    constructor
    · rintro (⟨rfl, -, -⟩ | ⟨other, hother, hpk, rfl, hplace, hkey⟩)
      · exact absurd rfl hmoved
      · exact ⟨other, hother, hpk, rfl, (if_neg hmoved).symm.trans hplace, hkey⟩
    · rintro ⟨other, hother, hpk, rfl, hplace, hkey⟩
      exact .inr ⟨other, hother, hpk, rfl, (if_neg hmoved).trans hplace, hkey⟩

theorem listing_placeCard (distinct : Distinct cards) (hmem : card ∈ cards)
    (tidy : TidyOn card.column.board cards) (htarget : targetColumn.board = card.column.board)
    (isPlace : IsPlace card targetColumn position cards) :
    listing (placeCard card targetColumn position cards) =
      (listing cards).move card.column targetColumn card.pk position := by
  funext column
  by_cases hcolumn : column.board = card.column.board
  · exact listing_placeCard_on distinct hmem tidy htarget isPlace hcolumn
  · have hsource : column ≠ card.column := fun h => hcolumn (congrArg Column.board h)
    have hmoved : column ≠ targetColumn := fun h => hcolumn (h ▸ htarget)
    unfold Shelves.move listing
    rw [filter_placeCard_of_ne distinct hmem tidy hsource hmoved, Function.update_of_ne hmoved,
      Function.update_of_ne hsource]

theorem erase_insertIdx {keys : List ℕ} {key : ℕ} (hnotMem : key ∉ keys)
    (hle : position ≤ keys.length) : (keys.insertIdx position key).erase key = keys := by
  induction keys generalizing position with
  | nil =>
    obtain rfl : position = 0 := by simpa using hle
    simp
  | cons first rest ih =>
    obtain ⟨hne, hrest⟩ := not_or.mp (mt List.mem_cons.mpr hnotMem)
    cases position with
    | zero => simp
    | succ position =>
      rw [List.insertIdx_succ_cons, List.erase_cons_tail (by simpa using Ne.symm hne),
        ih hrest (by simpa using hle)]

theorem notMem_listing (distinct : Distinct cards) (hmem : card ∈ cards)
    (hcolumn : column ≠ card.column) : card.pk ∉ listing cards column := by
  intro hin
  obtain ⟨other, hother, hpk⟩ := List.mem_map.mp hin
  obtain ⟨hstored, hown⟩ : other ∈ cards ∧ other.column = column := by simpa using hother
  exact hcolumn (hown ▸ congrArg CardPosition.column (distinct.ext hstored hmem hpk))

theorem erase_move_listing (distinct : Distinct cards) (hmem : card ∈ cards)
    (isPlace : IsPlace card targetColumn position cards) (column : Column) :
    ((listing cards).move card.column targetColumn card.pk position column).erase card.pk =
      (listing cards column).erase card.pk := by
  have htaken : Function.update (listing cards) card.column
      ((listing cards card.column).erase card.pk) column = (listing cards column).erase card.pk := by
    by_cases hcolumn : column = card.column
    · rw [hcolumn, Function.update_self]
    · rw [Function.update_of_ne hcolumn,
        List.erase_of_not_mem (notMem_listing distinct hmem hcolumn)]
  have hgone : card.pk ∉ (listing cards column).erase card.pk :=
    (listing_nodup distinct column).not_mem_erase
  unfold Shelves.move
  by_cases hmoved : column = targetColumn
  · subst hmoved
    have hle := le_length_taken hmem isPlace
    rw [htaken] at hle
    rw [Function.update_self, htaken, erase_insertIdx hgone hle]
  · rw [Function.update_of_ne hmoved, htaken, List.erase_of_not_mem hgone]

end Listing

/-- A column of three cards, and one with a single card. -/
def openColumn : Column := { pk := 1, board := { pk := 1 }, name := "Open", order := 0 }

def doneColumn : Column := { pk := 2, board := { pk := 1 }, name := "Done", order := 1 }

def secondCard : CardPosition := { pk := 2, column := openColumn, ticket := 12, order := 1 }

def fourCards : List CardPosition :=
  [ { pk := 1, column := openColumn, ticket := 11, order := 0 },
    secondCard,
    { pk := 3, column := openColumn, ticket := 13, order := 2 },
    { pk := 4, column := doneColumn, ticket := 14, order := 0 } ]

theorem tidyOn_fourCards (board : Board) : TidyOn board fourCards := by
  intro column _
  by_cases hopen : column = openColumn
  · subst hopen
    exact .of_bounded (by decide) (by decide)
  · by_cases hdone : column = doneColumn
    · subst hdone
      exact .of_bounded (by decide) (by decide)
    · have hnone : orders column fourCards = [] := by
        simp [orders, fourCards, secondCard, Ne.symm hopen, Ne.symm hdone]
      rw [hnone]
      exact .nil

end Kanzan.Kanban

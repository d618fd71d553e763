import Kanzan.Kanban.Relocation
import Kanzan.Support.Positions

/-!
# The orders of a column

Which orders a column has after a card is added, taken away, moved or sent with its ticket, and
when they still count from zero without gaps.
-/

namespace Kanzan.Kanban

open Support

def orders (column : Column) (cards : List CardPosition) : List ℕ :=
  (cards.filter fun card => card.column = column).map CardPosition.order

def TidyOn (board : Board) (cards : List CardPosition) : Prop :=
  ∀ column : Column, column.board = board → Contiguous (orders column cards)

def IsLast (card : CardPosition) (cards : List CardPosition) : Prop :=
  card.order + 1 = countCards card.column cards

def others (card : CardPosition) (cards : List CardPosition) : List CardPosition :=
  cards.filter fun other => other.pk ≠ card.pk

variable {edit : CardPosition → CardPosition} {other : CardPosition}

section Columns

variable {cards cards' : List CardPosition} {card : CardPosition} {column : Column} {board : Board}

theorem length_orders : (orders column cards).length = countCards column cards := by
  rw [orders, List.length_map, countCards, List.countP_eq_length_filter]

theorem orders_cons :
    orders column (card :: cards) =
      if card.column = column then card.order :: orders column cards else orders column cards := by
  unfold orders
  rw [List.filter_cons]
  by_cases hcolumn : card.column = column <;> simp [hcolumn]

theorem orders_perm (column : Column) (hperm : cards.Perm cards') :
    (orders column cards).Perm (orders column cards') :=
  (hperm.filter _).map _

theorem orders_map {shift : ℕ → ℕ}
    (hcolumn : ∀ card ∈ cards, (edit card).column = column ↔ card.column = column)
    (horder : ∀ card ∈ cards, card.column = column → (edit card).order = shift card.order) :
    orders column (cards.map edit) = (orders column cards).map shift := by
  induction cards with
  | nil => rfl
  | cons card rest ih =>
    have hrest := ih (fun card hmem => hcolumn card (List.mem_cons_of_mem _ hmem))
      (fun card hmem => horder card (List.mem_cons_of_mem _ hmem))
    have hiff := hcolumn card List.mem_cons_self
    rw [List.map_cons, orders_cons, orders_cons, hrest]
    by_cases hin : card.column = column
    · rw [if_pos (hiff.mpr hin), if_pos hin, List.map_cons, horder card List.mem_cons_self hin]
    · rw [if_neg fun hmoved => hin (hiff.mp hmoved), if_neg hin]

theorem mem_orders (hmem : card ∈ cards) : card.order ∈ orders card.column cards :=
  List.mem_map.mpr ⟨card, List.mem_filter.mpr ⟨hmem, decide_eq_true rfl⟩, rfl⟩

theorem countCards_perm (hperm : cards.Perm cards') :
    countCards column cards = countCards column cards' := hperm.countP_eq _

theorem perm_others (distinct : Distinct cards) (hmem : card ∈ cards) :
    cards.Perm (card :: others card cards) := by
  have hnodup := List.Nodup.of_map CardPosition.pk distinct.pk
  have herase : cards.erase card = others card cards := by
    rw [hnodup.erase_eq_filter]
    refine List.filter_congr fun other hother => ?_
    by_cases hsame : other = card
    · simp [hsame]
    · have hpk : other.pk ≠ card.pk := fun hpk => hsame (distinct.ext hother hmem hpk)
      simp [hsame, hpk]
  rw [← herase]
  exact List.perm_cons_erase hmem

theorem countCards_others (distinct : Distinct cards) (hmem : card ∈ cards) :
    countCards card.column cards = countCards card.column (others card cards) + 1 := by
  rw [countCards_perm (perm_others distinct hmem)]
  exact List.countP_cons_of_pos (decide_eq_true rfl)

/-! ## Tidy boards -/

theorem tidyOn_congr (hperm : ∀ column : Column, column.board = board →
      (orders column cards').Perm (orders column cards)) :
    TidyOn board cards' ↔ TidyOn board cards := by
  refine forall_congr' fun column => forall_congr' fun hboard => ?_
  exact contiguous_congr (hperm column hboard)

theorem tidyOn_perm (hperm : cards'.Perm cards) : TidyOn board cards' ↔ TidyOn board cards :=
  tidyOn_congr fun _ _ => orders_perm _ hperm

theorem tidyOn_cons_iff (hend : card.order = countCards card.column cards) :
    TidyOn board (card :: cards) ↔ TidyOn board cards := by
  refine forall_congr' fun column => forall_congr' fun hboard => ?_
  rw [orders_cons]
  split
  · rename_i hcolumn
    rw [hcolumn, ← length_orders] at hend
    constructor
    · intro more
      exact (contiguous_tail_iff more).mpr hend
    · intro fewer
      exact (contiguous_cons_iff fewer).mpr hend
  · rfl

theorem tidyOn_others_iff (distinct : Distinct cards) (hmem : card ∈ cards)
    (tidy : TidyOn card.column.board cards) :
    TidyOn card.column.board (others card cards) ↔ IsLast card cards := by
  have hperm := perm_others distinct hmem
  have htidy := (tidyOn_perm hperm).mp tidy
  have hlast : IsLast card cards ↔ card.order = countCards card.column (others card cards) := by
    rw [IsLast, countCards_others distinct hmem, Nat.add_right_cancel_iff]
  rw [hlast]
  constructor
  · intro fewer
    have hown := htidy card.column rfl
    rw [orders_cons, if_pos rfl] at hown
    rw [← length_orders]
    exact (contiguous_tail_iff hown).mp (fewer card.column rfl)
  · intro hend
    exact (tidyOn_cons_iff hend).mp htidy

end Columns

/-! ## Cards that follow their ticket -/

section Relocated

variable {home : Column → Option Column} {id : ℕ} {cards : List CardPosition}
  {card : CardPosition} {board : Board}

theorem tidyOn_relocate_of_absent (stays : StaysOnBoard home)
    (habsent : ∀ card ∈ cards, card.ticket = id → card.column.board ≠ board) :
    TidyOn board (relocate home id cards) ↔ TidyOn board cards := by
  refine tidyOn_congr fun column hboard => ?_
  have hkept : ∀ card ∈ cards, card.column.board = board → relocated home id cards card = card := by
    intro card hmem hcard
    exact relocated_of_ne fun hticket => habsent card hmem hticket hcard
  have hmap : orders column (relocate home id cards) = (orders column cards).map (fun order => order) := by
    refine orders_map (fun card hmem => ?_) (fun card hmem hcolumn => ?_)
    · constructor
      · intro hcolumn
        have hcard : card.column.board = board := by
          rw [← relocated_board stays, hcolumn, hboard]
        rwa [hkept card hmem hcard] at hcolumn
      · intro hcolumn
        rw [hkept card hmem (hcolumn ▸ hboard), hcolumn]
    · rw [hkept card hmem (hcolumn ▸ hboard)]
  rw [hmap, List.map_id']

theorem tidyOn_relocate (distinct : Distinct cards) (stays : StaysOnBoard home)
    (hmem : card ∈ cards) (hticket : card.ticket = id) :
    TidyOn card.column.board (relocate home id cards) ↔
      if (home card.column).isSome then TidyOn card.column.board (others card cards)
      else TidyOn card.column.board cards := by
  have hperm := perm_others distinct hmem
  -- Nobody else on the board belongs to the ticket.
  have hothers : ∀ other ∈ others card cards, other.column.board = card.column.board →
      other.ticket ≠ id := by
    intro other hother hboard hsame
    rw [others, List.mem_filter, decide_eq_true_eq] at hother
    exact hother.2 (congrArg CardPosition.pk
      (distinct.ext_place hother.1 hmem (hsame.trans hticket.symm) hboard))
  have hrest : TidyOn card.column.board (relocate home id cards) ↔
      TidyOn card.column.board (relocated home id cards card :: others card cards) := by
    refine tidyOn_congr fun column hboard => ?_
    have hmoved := orders_perm column (hperm.map (relocated home id cards))
    rw [List.map_cons] at hmoved
    refine hmoved.trans ?_
    have hsame : orders column ((others card cards).map (relocated home id cards)) =
        (orders column (others card cards)).map fun order => order := by
      refine orders_map (fun other hother => ?_) (fun other hother hcolumn => ?_)
      · constructor
        · intro hcolumn
          have hother' : other.column.board = card.column.board := by
            rw [← relocated_board stays, hcolumn, hboard]
          rwa [relocated_of_ne (hothers other hother hother')] at hcolumn
        · intro hcolumn
          rw [relocated_of_ne (hothers other hother (hcolumn ▸ hboard)), hcolumn]
      · rw [relocated_of_ne (hothers other hother (hcolumn ▸ hboard))]
    rw [orders_cons, orders_cons, hsame, List.map_id']
  rw [hrest]
  cases hhome : home card.column with
  | none =>
    rw [relocated_of_none hhome, if_neg (by decide)]
    exact (tidyOn_perm hperm).symm
  | some column =>
    rw [relocated_of_some hticket hhome, Option.isSome_some]
    refine tidyOn_cons_iff ?_
    dsimp only
    -- The cards of other tickets are, on this board, the other cards.
    unfold countCards besides others
    rw [List.countP_filter, List.countP_filter]
    refine List.countP_congr fun other hother => ?_
    have hcolumn := stays card.column column hhome
    by_cases hin : other.column = column
    · have hiff : other.ticket ≠ id ↔ other.pk ≠ card.pk := by
        constructor
        · intro hne hpk
          exact hne ((distinct.ext hother hmem hpk) ▸ hticket)
        · intro hne
          exact hothers other (List.mem_filter.mpr ⟨hother, decide_eq_true hne⟩)
            (hin ▸ hcolumn)
      simp only [hin, decide_true, Bool.true_and, decide_eq_true_eq]
      exact hiff
    · simp [hin]

theorem tidyOn_relocate_iff (distinct : Distinct cards) (stays : StaysOnBoard home)
    (tidy : TidyOn board cards) :
    TidyOn board (relocate home id cards) ↔
      ∀ card ∈ cards, card.ticket = id → card.column.board = board →
        (home card.column).isSome = true → IsLast card cards := by
  by_cases hpresent : ∃ card ∈ cards, card.ticket = id ∧ card.column.board = board
  · obtain ⟨card, hmem, hticket, rfl⟩ := hpresent
    rw [tidyOn_relocate distinct stays hmem hticket]
    constructor
    · intro moved other hother hsame hboard hhome
      have heq := distinct.ext_place hother hmem (hsame.trans hticket.symm) hboard
      subst heq
      rw [if_pos hhome] at moved
      exact (tidyOn_others_iff distinct hmem tidy).mp moved
    · intro hlast
      split
      · rename_i hhome
        exact (tidyOn_others_iff distinct hmem tidy).mpr (hlast card hmem hticket rfl hhome)
      · exact tidy
  · have habsent : ∀ card ∈ cards, card.ticket = id → card.column.board ≠ board := by
      intro card hmem hticket hboard
      exact hpresent ⟨card, hmem, hticket, hboard⟩
    rw [tidyOn_relocate_of_absent stays habsent]
    constructor
    · intro _ card hmem hticket hboard
      exact absurd hboard (habsent card hmem hticket)
    · intro _
      exact tidy

end Relocated

/-! ## Moved cards -/

/-- Another card after a move: behind the place given up it moves down, from the new place on
it moves up. -/
def displaced (card : CardPosition) (targetColumn : Column) (position : ℕ) (other : CardPosition) :
    CardPosition :=
  let closed := if other.column = card.column then closeGap card.order other.order else other.order
  { other with order := if other.column = targetColumn then openGap position closed else closed }

def CardPosition.movedTo (card : CardPosition) (targetColumn : Column) (position : ℕ) :
    CardPosition :=
  { card with column := targetColumn, order := position }

section Moved

variable {cards : List CardPosition} {card : CardPosition} {targetColumn : Column} {position : ℕ}
  {board : Board}

theorem openGap_closeGap (old new order : ℕ) (hne : order ≠ old) :
    openGap new (closeGap old order) =
      if new < old then if new ≤ order ∧ order < old then order + 1 else order
      else if old < order ∧ order ≤ new then order - 1 else order := by
  unfold openGap closeGap
  split_ifs <;> omega

theorem shiftOrders_eq (column : Column) (affected : ℕ → Bool) (shift : ℕ → ℕ) :
    shiftOrders column affected shift cards =
      cards.map fun card =>
        { card with
          order :=
            if card.column = column ∧ affected card.order = true then shift card.order
            else card.order } := by
  unfold shiftOrders
  refine List.map_congr_left fun card _ => ?_
  by_cases hshifted : card.column = column ∧ affected card.order = true
  · rw [if_pos hshifted, if_pos (by simpa using hshifted)]
  · rw [if_neg hshifted, if_neg (by simpa using hshifted)]

theorem updateCard_eq (distinct : Distinct cards) (hmem : card ∈ cards)
    {order order' : CardPosition → ℕ}
    (hedit : edit { card with order := order card } = card.movedTo targetColumn position)
    (horder : ∀ other ∈ cards, other.pk ≠ card.pk → order other = order' other) :
    updateCard card.pk edit (cards.map fun other => { other with order := order other }) =
      cards.map fun other =>
        if other.pk = card.pk then card.movedTo targetColumn position
        else { other with order := order' other } := by
  unfold updateCard
  rw [List.map_map]
  refine List.map_congr_left fun other hother => ?_
  rw [Function.comp_apply]
  by_cases hpk : other.pk = card.pk
  · have hsame := distinct.ext hother hmem hpk
    subst hsame
    rw [if_pos rfl, if_pos rfl, hedit]
  · rw [if_neg hpk, if_neg hpk, horder other hother hpk]

theorem reorderWithinColumn_eq (distinct : Distinct cards) (hmem : card ∈ cards)
    (hne : ∀ other ∈ cards, other.column = card.column → other.pk ≠ card.pk →
      other.order ≠ card.order) :
    reorderWithinColumn card position cards =
      cards.map fun other =>
        if other.pk = card.pk then card.movedTo card.column position
        else displaced card card.column position other := by
  have hshift : ∀ other ∈ cards, other.pk ≠ card.pk →
      (displaced card card.column position other).order =
        if other.column = card.column then
          if position < card.order then
            if position ≤ other.order ∧ other.order < card.order then other.order + 1 else other.order
          else if card.order < other.order ∧ other.order ≤ position then other.order - 1
          else other.order
        else other.order := by
    intro other hother hpk
    unfold displaced
    dsimp only
    by_cases hcolumn : other.column = card.column
    · rw [if_pos hcolumn, if_pos hcolumn, if_pos hcolumn,
        openGap_closeGap _ _ _ (hne other hother hcolumn hpk)]
    · rw [if_neg hcolumn, if_neg hcolumn, if_neg hcolumn]
  unfold reorderWithinColumn
  dsimp only
  split
  · rename_i hstays
    refine cards.map_id.symm.trans (List.map_congr_left fun other hother => ?_)
    by_cases hpk : other.pk = card.pk
    · rw [if_pos hpk, id_eq, distinct.ext hother hmem hpk, CardPosition.movedTo, ← hstays]
    · have horder : other.order = (displaced card card.column position other).order := by
        rw [hshift other hother hpk]
        split_ifs <;> omega
      rw [if_neg hpk]
      exact congrArg (fun order => { other with order }) horder
  · split
    · rename_i hup
      rw [shiftOrders_eq]
      refine updateCard_eq distinct hmem rfl fun other hother hpk => ?_
      refine Eq.trans ?_ (hshift other hother hpk).symm
      by_cases hcolumn : other.column = card.column
      · simp only [hcolumn, hup, true_and, if_true, Bool.and_eq_true, decide_eq_true_eq]
      · simp only [hcolumn, false_and, if_false]
    · rename_i hdown
      rw [shiftOrders_eq]
      refine updateCard_eq distinct hmem rfl fun other hother hpk => ?_
      refine Eq.trans ?_ (hshift other hother hpk).symm
      by_cases hcolumn : other.column = card.column
      · simp only [hcolumn, hdown, true_and, if_true, if_false, Bool.and_eq_true, decide_eq_true_eq]
      · simp only [hcolumn, false_and, if_false]

theorem moveAcrossColumns_eq (distinct : Distinct cards) (hmem : card ∈ cards)
    (hdiffers : card.column ≠ targetColumn) :
    moveAcrossColumns card targetColumn position cards =
      cards.map fun other =>
        if other.pk = card.pk then card.movedTo targetColumn position
        else displaced card targetColumn position other := by
  unfold moveAcrossColumns
  dsimp only
  rw [shiftOrders_eq, shiftOrders_eq, List.map_map]
  refine updateCard_eq distinct hmem rfl fun other _ _ => ?_
  unfold closeGap openGap
  simp only [decide_eq_true_eq]
  by_cases hcolumn : other.column = card.column
  · have hnot : other.column ≠ targetColumn := hcolumn ▸ hdiffers
    simp only [hcolumn, hdiffers, true_and, false_and, if_true, if_false]
  · by_cases htarget : other.column = targetColumn
    · simp only [htarget, hdiffers.symm, true_and, false_and, if_true, if_false]
    · simp only [hcolumn, htarget, false_and, if_false]

theorem placeCard_eq (distinct : Distinct cards) (hmem : card ∈ cards)
    (hnodup : (orders card.column cards).Nodup) :
    placeCard card targetColumn position cards =
      cards.map fun other =>
        if other.pk = card.pk then card.movedTo targetColumn position
        else displaced card targetColumn position other := by
  unfold placeCard
  split
  · rename_i hsame
    subst hsame
    refine reorderWithinColumn_eq distinct hmem fun other hother hcolumn hpk heq => ?_
    have hperm := orders_perm card.column (perm_others distinct hmem)
    rw [orders_cons, if_pos rfl] at hperm
    obtain ⟨hnotMem, -⟩ := List.nodup_cons.mp (hperm.nodup_iff.mp hnodup)
    have hkept : other ∈ others card cards := List.mem_filter.mpr ⟨hother, decide_eq_true hpk⟩
    exact hnotMem (heq ▸ hcolumn ▸ mem_orders hkept)
  · rename_i hdiffers
    exact moveAcrossColumns_eq distinct hmem hdiffers

theorem orders_displaced (column : Column) :
    orders column (cards.map (displaced card targetColumn position)) =
      (orders column cards).map fun order =>
        let closed := if column = card.column then closeGap card.order order else order
        if column = targetColumn then openGap position closed else closed := by
  refine orders_map (fun other _ => Iff.rfl) fun other _ hcolumn => ?_
  unfold displaced
  dsimp only
  rw [hcolumn]

variable (targetColumn position) in
/-- What a move leaves of the others: the place given up is closed, the new one is opened. -/
theorem orders_others_moved (distinct : Distinct cards) (hmem : card ∈ cards)
    (tidy : TidyOn card.column.board cards) (column : Column)
    (hboard : column.board = card.column.board) :
    ∃ closed, Contiguous closed ∧ closed.length = countCards column (others card cards) ∧
      orders column ((others card cards).map (displaced card targetColumn position)) =
        if column = targetColumn then closed.map (openGap position) else closed := by
  have htidy := (tidyOn_perm (perm_others distinct hmem)).mp tidy column hboard
  rw [orders_cons] at htidy
  rw [orders_displaced, ← length_orders]
  by_cases hcolumn : column = card.column
  · rw [if_pos hcolumn.symm] at htidy
    refine ⟨_, htidy.closeGap, List.length_map _, ?_⟩
    simp only [hcolumn, if_true]
    split
    · rw [List.map_map]
      rfl
    · rfl
  · rw [if_neg (Ne.symm hcolumn)] at htidy
    refine ⟨_, htidy, rfl, ?_⟩
    simp only [hcolumn, if_false]
    split
    · rfl
    · exact List.map_id' _

variable (targetColumn position) in
/-- The cards after a move, up to their order in the list. -/
theorem placeCard_perm (distinct : Distinct cards) (hmem : card ∈ cards)
    (tidy : TidyOn card.column.board cards) :
    (placeCard card targetColumn position cards).Perm
      (card.movedTo targetColumn position ::
        (others card cards).map (displaced card targetColumn position)) := by
  rw [placeCard_eq distinct hmem (tidy card.column rfl).nodup]
  refine ((perm_others distinct hmem).map _).trans ?_
  rw [List.map_cons, if_pos rfl]
  refine (List.Perm.of_eq (List.map_congr_left fun other hother => ?_)).cons _
  rw [others, List.mem_filter, decide_eq_true_eq] at hother
  rw [if_neg hother.2]

theorem tidyOn_placeCard_iff (distinct : Distinct cards) (hmem : card ∈ cards)
    (tidy : TidyOn card.column.board cards) (hboard : targetColumn.board = card.column.board) :
    TidyOn card.column.board (placeCard card targetColumn position cards) ↔
      position ≤ countCards targetColumn (others card cards) := by
  rw [tidyOn_perm (placeCard_perm _ _ distinct hmem tidy)]
  have hcolumns := orders_others_moved targetColumn position distinct hmem tidy
  constructor
  · intro moved
    obtain ⟨closed, hclosed, hlength, horders⟩ := hcolumns targetColumn hboard
    have htarget := moved targetColumn hboard
    rw [orders_cons, CardPosition.movedTo, if_pos rfl, horders, if_pos rfl] at htarget
    rw [← hlength]
    exact (contiguous_openGap_iff hclosed).mp htarget
  · intro hle column hcolumn
    obtain ⟨closed, hclosed, hlength, horders⟩ := hcolumns column hcolumn
    rw [orders_cons, CardPosition.movedTo, horders]
    by_cases htarget : column = targetColumn
    · rw [if_pos htarget.symm, if_pos htarget]
      refine (contiguous_openGap_iff hclosed).mpr ?_
      rwa [hlength, htarget]
    · rw [if_neg (Ne.symm htarget), if_neg htarget]
      exact hclosed

theorem tidyOn_displaced_iff (distinct : Distinct cards) (hmem : card ∈ cards)
    (tidy : TidyOn card.column.board cards) (hboard : targetColumn.board = card.column.board) :
    TidyOn card.column.board ((others card cards).map (displaced card targetColumn position)) ↔
      countCards targetColumn (others card cards) ≤ position := by
  have hcolumns := orders_others_moved targetColumn position distinct hmem tidy
  constructor
  · intro moved
    obtain ⟨closed, hclosed, hlength, horders⟩ := hcolumns targetColumn hboard
    have htarget := moved targetColumn hboard
    rw [horders, if_pos rfl] at htarget
    rw [← hlength]
    exact (contiguous_map_openGap_iff hclosed).mp htarget
  · intro hle column hcolumn
    obtain ⟨closed, hclosed, hlength, horders⟩ := hcolumns column hcolumn
    rw [horders]
    by_cases htarget : column = targetColumn
    · rw [if_pos htarget]
      refine (contiguous_map_openGap_iff hclosed).mpr ?_
      rwa [hlength, htarget]
    · rw [if_neg htarget]
      exact hclosed

theorem others_placeCard_perm (distinct : Distinct cards) (hmem : card ∈ cards)
    (tidy : TidyOn card.column.board cards) :
    (others (card.movedTo targetColumn position) (placeCard card targetColumn position cards)).Perm
      ((others card cards).map (displaced card targetColumn position)) := by
  refine ((placeCard_perm _ _ distinct hmem tidy).filter _).trans (List.Perm.of_eq ?_)
  rw [List.filter_cons_of_neg (by simp [CardPosition.movedTo]), List.filter_eq_self]
  intro moved hmoved
  obtain ⟨other, hother, rfl⟩ := List.mem_map.mp hmoved
  exact (List.mem_filter.mp hother).2

theorem displaced_of_ne (hboard : other.column.board ≠ card.column.board)
    (htarget : targetColumn.board = card.column.board) :
    displaced card targetColumn position other = other := by
  have hcolumn : other.column ≠ card.column := fun heq => hboard (heq ▸ rfl)
  have hmoved : other.column ≠ targetColumn := fun heq => hboard (heq ▸ htarget)
  unfold displaced
  dsimp only
  rw [if_neg hcolumn, if_neg hmoved]

theorem mem_placeCard_iff_of_ne (distinct : Distinct cards) (hmem : card ∈ cards)
    (tidy : TidyOn card.column.board cards) (hboard : other.column.board ≠ card.column.board)
    (htarget : targetColumn.board = card.column.board) :
    other ∈ placeCard card targetColumn position cards ↔ other ∈ cards := by
  rw [(placeCard_perm _ _ distinct hmem tidy).mem_iff, (perm_others distinct hmem).mem_iff,
    List.mem_cons, List.mem_cons]
  have hcard : other ≠ card := fun heq => hboard (heq ▸ rfl)
  have hmoved : other ≠ card.movedTo targetColumn position := fun heq => hboard (heq ▸ htarget)
  rw [or_iff_right hcard, or_iff_right hmoved]
  constructor
  · intro hother
    obtain ⟨before, hbefore, heq⟩ := List.mem_map.mp hother
    have hbefore' : before.column.board ≠ card.column.board := by
      rw [← heq] at hboard
      exact hboard
    rw [displaced_of_ne hbefore' htarget] at heq
    exact heq ▸ hbefore
  · intro hother
    exact List.mem_map.mpr ⟨other, hother, displaced_of_ne hboard htarget⟩

theorem orders_placeCard_of_ne (distinct : Distinct cards) (hmem : card ∈ cards)
    (tidy : TidyOn card.column.board cards) {column : Column}
    (hboard : column.board ≠ card.column.board) (htarget : targetColumn.board = card.column.board) :
    (orders column (placeCard card targetColumn position cards)).Perm (orders column cards) := by
  have hplaced := orders_perm column (placeCard_perm targetColumn position distinct hmem tidy)
  have hbefore := orders_perm column (perm_others distinct hmem)
  have hcard : card.column ≠ column := fun heq => hboard (heq ▸ rfl)
  have hmoved : targetColumn ≠ column := fun heq => hboard (heq ▸ htarget)
  rw [orders_cons, CardPosition.movedTo, if_neg hmoved, orders_displaced] at hplaced
  rw [orders_cons, if_neg hcard] at hbefore
  simp only [hcard.symm, hmoved.symm, if_false, List.map_id'] at hplaced
  exact hplaced.trans hbefore.symm

end Moved

end Kanzan.Kanban

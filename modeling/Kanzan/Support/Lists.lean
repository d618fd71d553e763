import Mathlib.Data.List.Sort
import Mathlib.Data.List.TakeWhile

/-!
# Tables as lists

An update of one row seen through a query: `replace` under `filter`.  A loop over the rows
seen through what its body only ever adds to.
-/

namespace Kanzan.Support

section Replace

variable {α : Type*} [BEq α] [LawfulBEq α] (p : α → Bool) (a b : α)

/-- Replacing a row by one that a filter rejects as well changes nothing it selects. -/
theorem filter_replace_of_neg (ha : p a = false) (hb : p b = false)
    (rows : List α) :
    (rows.replace a b).filter p = rows.filter p := by
  induction rows with
  | nil => rfl
  | cons row rest ih =>
    rw [List.replace_cons]
    split
    · rename_i heq
      rw [beq_iff_eq] at heq
      subst heq
      simp [ha, hb]
    · simp [List.filter_cons, ih]

/-- Replacing a selected row by one that is not selected takes it out of the selection. -/
theorem filter_replace_of_pos (ha : p a = true) (hb : p b = false)
    (rows : List α) :
    (rows.replace a b).filter p = (rows.filter p).erase a := by
  induction rows with
  | nil => rfl
  | cons row rest ih =>
    rw [List.replace_cons]
    by_cases heq : row = a
    · subst heq
      simp [ha, hb]
    · have hne : (a == row) = false := by simpa using Ne.symm heq
      by_cases hrow : p row = true
      · simp [hne, heq, hrow, ih]
      · simp [hne, hrow, ih]

/-- Replacing a selected row by another selected one replaces it in the selection. -/
theorem filter_replace_of_both (ha : p a = true) (hb : p b = true) (rows : List α) :
    (rows.replace a b).filter p = (rows.filter p).replace a b := by
  induction rows with
  | nil => rfl
  | cons row rest ih =>
    rw [List.replace_cons]
    by_cases heq : row = a
    · subst heq
      simp [ha, hb]
    · have hne : (a == row) = false := by simpa using Ne.symm heq
      by_cases hrow : p row = true
      · simp [List.replace_cons, hne, hrow, ih]
      · simp [hne, hrow, ih]

end Replace

section Loop

variable {σ α β : Type*} {read : σ → List β} {f : σ → α → σ}

variable (read) in
/-- What every pass of a loop only adds to, the loop only adds to. -/
theorem subset_foldl (hgrows : ∀ s a, read s ⊆ read (f s a)) (rows : List α) (s : σ) :
    read s ⊆ read (rows.foldl f s) := by
  induction rows generalizing s with
  | nil => exact List.Subset.refl _
  | cons row rest ih => exact List.Subset.trans (hgrows s row) (ih _)

variable (read) in
/-- An entry that the pass for one row adds, when the passes for other rows do not interfere,
is there at the end. -/
theorem mem_foldl_of_turn {I : σ → Prop} {a : α} {x : β} (hgrows : ∀ s b, read s ⊆ read (f s b))
    (hturn : ∀ s, I s → x ∈ read (f s a)) {rows : List α} (hmem : a ∈ rows)
    (hothers : ∀ s, ∀ b ∈ rows, b ≠ a → I s → I (f s b)) {s : σ} (holds : I s) :
    x ∈ read (rows.foldl f s) := by
  induction rows generalizing s with
  | nil => cases hmem
  | cons row rest ih =>
    by_cases hrow : row = a
    · subst hrow
      exact subset_foldl read hgrows rest _ (hturn s holds)
    · have hrest : a ∈ rest := (List.mem_cons.mp hmem).resolve_left (Ne.symm hrow)
      exact ih hrest (fun s b hb => hothers s b (List.mem_cons_of_mem row hb))
        (hothers s row List.mem_cons_self hrow holds)

end Loop

/-! ## An update of the first row that meets a condition -/

/-- The rows with the first that meets a condition replaced, when there is one. -/
def updateFirst {α : Type*} (p : α → Bool) (f : α → α) : List α → Option (List α)
  | [] => none
  | row :: rest => if p row then some (f row :: rest) else (updateFirst p f rest).map (row :: ·)

section Update

variable {α : Type*} {p : α → Bool} {f : α → α} {rows rows' : List α}

theorem updateFirst_eq_none : updateFirst p f rows = none ↔ ∀ row ∈ rows, p row = false := by
  induction rows with
  | nil => simp [updateFirst]
  | cons row rest ih =>
    by_cases hrow : p row = true
    · simp [updateFirst, hrow]
    · simp [updateFirst, hrow, ih]

theorem exists_of_updateFirst (hupdate : updateFirst p f rows = some rows') :
    ∃ before row after, rows = before ++ row :: after ∧ rows' = before ++ f row :: after ∧
      p row = true := by
  induction rows generalizing rows' with
  | nil => cases hupdate
  | cons row rest ih =>
    by_cases hrow : p row = true
    · rw [updateFirst, if_pos hrow] at hupdate
      obtain rfl := Option.some.inj hupdate
      exact ⟨[], row, rest, rfl, rfl, hrow⟩
    · rw [updateFirst, if_neg hrow, Option.map_eq_some_iff] at hupdate
      obtain ⟨rest', hrest, rfl⟩ := hupdate
      obtain ⟨before, found, after, rfl, rfl, hfound⟩ := ih hrest
      exact ⟨row :: before, found, after, rfl, rfl, hfound⟩

/-- A row is replaced by one that stands to the others as it should. -/
theorem pairwise_replace {R : α → α → Prop} {before after : List α} {row row' : α}
    (hpairwise : (before ++ row :: after).Pairwise R) (hbefore : ∀ other ∈ before, R other row')
    (hafter : ∀ other ∈ after, R row' other) : (before ++ row' :: after).Pairwise R := by
  rw [List.pairwise_append, List.pairwise_cons] at hpairwise ⊢
  obtain ⟨hfirst, ⟨-, hlast⟩, hacross⟩ := hpairwise
  refine ⟨hfirst, ⟨hafter, hlast⟩, ?_⟩
  intro other hother found hfound
  rcases List.mem_cons.mp hfound with rfl | hmem
  · exact hbefore other hother
  · exact hacross other hother found (List.mem_cons_of_mem _ hmem)

end Update

/-- What meets a weaker condition meets the stronger one or only the weaker. -/
theorem countP_eq_add {α : Type*} {l : List α} {p q r : α → Bool}
    (hweaker : ∀ a ∈ l, p a = true → q a = true)
    (honly : ∀ a ∈ l, r a = (!p a && q a)) : l.countP q = l.countP p + l.countP r := by
  induction l with
  | nil => rfl
  | cons a rest ih =>
    have hrest := ih (fun b hb => hweaker b (List.mem_cons_of_mem _ hb))
      fun b hb => honly b (List.mem_cons_of_mem _ hb)
    rw [List.countP_cons, List.countP_cons, List.countP_cons, hrest, honly a List.mem_cons_self]
    cases hp : p a with
    | true => simp [hweaker a List.mem_cons_self hp, Nat.add_right_comm]
    | false => simp [Nat.add_assoc]

/-- What meets a condition in one place only is counted once at most. -/
theorem countP_le_one {α : Type*} {l : List α} {p : α → Bool}
    (hone : ∀ (i j : ℕ) (a b : α), l[i]? = some a → l[j]? = some b → p a = true → p b = true →
      i = j) : l.countP p ≤ 1 := by
  induction l with
  | nil => exact Nat.zero_le 1
  | cons a rest ih =>
    have hrest := ih fun i j b c hb hc hpb hpc =>
      Nat.succ.inj (hone (i + 1) (j + 1) b c hb hc hpb hpc)
    rw [List.countP_cons]
    by_cases hp : p a = true
    · have hnone : rest.countP p = 0 := by
        refine List.countP_eq_zero.mpr fun b hmem hpb => ?_
        obtain ⟨j, hj⟩ := List.mem_iff_getElem?.mp hmem
        cases hone 0 (j + 1) a b rfl hj hp hpb
      have hcount : rest.countP p + (if p a = true then 1 else 0) = 1 := by
        rw [hnone, if_pos hp]
      exact Nat.le_of_eq hcount
    · rw [if_neg hp]
      exact hrest

theorem getElem?_concat_eq_some {α : Type*} {l : List α} {i : ℕ} {a b : α} :
    (l ++ [a])[i]? = some b ↔ l[i]? = some b ∨ i = l.length ∧ b = a := by
  rcases Nat.lt_trichotomy i l.length with hlt | heq | hgt
  · rw [List.getElem?_append_left hlt]
    exact ⟨.inl, fun h => h.resolve_right fun hlast => Nat.ne_of_lt hlt hlast.1⟩
  · subst heq
    simp [eq_comm]
  · have hle : (l ++ [a]).length ≤ i := by
      rw [List.length_append]
      exact hgt
    rw [List.getElem?_eq_none hle, List.getElem?_eq_none (Nat.le_of_lt hgt)]
    refine iff_of_false nofun fun h => ?_
    rcases h with h | h
    · cases h
    · exact Nat.ne_of_gt hgt h.1

/-! ## Finding an entry -/

/-- The first wanted entry is the first of the wanted ones. -/
theorem find?_congr_filter {α : Type*} {wanted : α → Bool} {first second : List α}
    (h : first.filter wanted = second.filter wanted) :
    first.find? wanted = second.find? wanted := by
  rw [← List.head?_filter, h, List.head?_filter]

/-- Where at most one entry is wanted, a filter finds it or hides it. -/
theorem find?_filter_of_unique {α : Type*} {keep wanted : α → Bool} {entries : List α}
    (unique : ∀ first ∈ entries, ∀ second ∈ entries, wanted first = true → wanted second = true →
      first = second) :
    (entries.filter keep).find? wanted = (entries.find? wanted).filter keep := by
  induction entries with
  | nil => rfl
  | cons entry rest ih =>
    have hrest := ih fun first hfirst second hsecond =>
      unique first (.tail _ hfirst) second (.tail _ hsecond)
    cases hwanted : wanted entry with
    | false =>
      rw [List.find?_cons_of_neg (by simp [hwanted]), ← hrest, List.filter_cons]
      split
      · rw [List.find?_cons_of_neg (by simp [hwanted])]
      · rfl
    | true =>
      rw [List.find?_cons_of_pos hwanted, List.filter_cons]
      cases hkeep : keep entry with
      | true =>
        rw [if_pos rfl, List.find?_cons_of_pos hwanted]
        simp [Option.filter, hkeep]
      | false =>
        have hnone : (rest.filter keep).find? wanted = none := by
          rw [List.find?_eq_none]
          intro other hother hother'
          obtain ⟨hmem, hkept⟩ := List.mem_filter.mp hother
          have hsame := unique entry (.head _) other (.tail _ hmem) hwanted hother'
          rw [← hsame, hkeep] at hkept
          cases hkept
        rw [if_neg (by simp), hnone]
        simp [Option.filter, hkeep]

/-! ## Sorting -/

section Sorting

variable {α : Type*} {r : α → α → Prop} [DecidableRel r] [IsTrans α r] {p : α → Bool}

theorem filter_orderedInsert (a : α) {rows : List α} (sorted : rows.Pairwise r) :
    (rows.orderedInsert r a).filter p =
      if p a then (rows.filter p).orderedInsert r a else rows.filter p := by
  induction rows with
  | nil =>
    rw [List.orderedInsert_nil, List.filter_nil, List.orderedInsert_nil]
    cases hp : p a <;> simp [hp]
  | cons row rest ih =>
    obtain ⟨hrow, hrest⟩ := List.pairwise_cons.mp sorted
    by_cases hle : r a row
    · rw [List.orderedInsert_cons_of_le _ _ hle, List.filter_cons]
      cases hp : p a with
      | false => rfl
      | true =>
        -- what is left of the rows still comes after the new one
        have hafter : ∀ other ∈ (row :: rest).filter p, r a other := by
          intro other hother
          rcases List.mem_cons.mp (List.mem_of_mem_filter hother) with rfl | hmem
          · exact hle
          · exact IsTrans.trans a row other hle (hrow other hmem)
        rw [if_pos rfl, if_pos rfl]
        cases hfiltered : (row :: rest).filter p with
        | nil => rfl
        | cons head tail =>
          rw [hfiltered] at hafter
          rw [List.orderedInsert_cons_of_le _ _ (hafter head List.mem_cons_self)]
    · rw [List.orderedInsert_of_not_le _ _ hle, List.filter_cons, List.filter_cons, ih hrest]
      cases hp : p a with
      | false => rfl
      | true =>
        cases hrow : p row with
        | false => rfl
        | true => simp [hle]

/-- A stable sort keeps the order of what a filter leaves. -/
theorem filter_insertionSort [Std.Total r] (rows : List α) :
    (rows.insertionSort r).filter p = (rows.filter p).insertionSort r := by
  induction rows with
  | nil => rfl
  | cons row rest ih =>
    rw [List.insertionSort_cons, filter_orderedInsert row (List.pairwise_insertionSort r rest),
      ih, List.filter_cons]
    cases hp : p row <;> simp

end Sorting

/-! ## Look-ups by a key -/

/-- A look-up by a key that no two rows have in common finds the row with the key, if it is to be
found. -/
theorem find?_eq_some_of_nodup {Row Key : Type*} [DecidableEq Key] {key : Row → Key}
    {rows : List Row} (nodup : (rows.map key).Nodup) {keep : Row → Bool} {wanted : Key} {row : Row} :
    (rows.find? fun other => key other = wanted && keep other) = some row ↔
      row ∈ rows ∧ key row = wanted ∧ keep row = true := by
  constructor
  · intro hfind
    have hfound := List.find?_some hfind
    rw [Bool.and_eq_true, decide_eq_true_eq] at hfound
    exact ⟨List.mem_of_find?_eq_some hfind, hfound⟩
  · rintro ⟨hmem, rfl, hkeep⟩
    cases hfind : rows.find? fun other => key other = key row && keep other with
    | none =>
      have hnot := List.find?_eq_none.mp hfind row hmem
      simp [hkeep] at hnot
    | some other =>
      have hfound := List.find?_some hfind
      rw [Bool.and_eq_true, decide_eq_true_eq] at hfound
      rw [List.inj_on_of_nodup_map nodup (List.mem_of_find?_eq_some hfind) hmem hfound.1]

/-- Of the rows that are kept, the one with the key of a given row is that row, if it is kept. -/
theorem filter_key_eq {Row Key : Type*} [DecidableEq Key] {key : Row → Key} {rows : List Row}
    (nodup : (rows.map key).Nodup) {row : Row} (hmem : row ∈ rows) (keep : Row → Bool) :
    (rows.filter fun other => decide (key other = key row) && keep other) =
      if keep row then [row] else [] := by
  induction rows with
  | nil => cases hmem
  | cons first rest ih =>
    rw [List.map_cons, List.nodup_cons] at nodup
    rw [List.filter_cons]
    rcases List.mem_cons.mp hmem with rfl | hmem
    · have hrest : (rest.filter fun other => decide (key other = key row) && keep other) = [] :=
        List.filter_eq_nil_iff.mpr fun other hother hsame => nodup.1 <| by
          rw [Bool.and_eq_true, decide_eq_true_eq] at hsame
          exact hsame.1 ▸ List.mem_map_of_mem hother
      rw [decide_eq_true rfl, Bool.true_and, hrest]
    · have hne : key first ≠ key row := fun h => nodup.1 (h ▸ List.mem_map_of_mem hmem)
      rw [decide_eq_false hne, Bool.false_and, if_neg Bool.false_ne_true, ih nodup.2 hmem]

/-- Rows that are looked up by their keys come in the order of the keys. -/
theorem map_filterMap_sublist {Row Key : Type*} {lookUp : Key → Option Row} {key : Row → Key}
    (hkey : ∀ wanted row, lookUp wanted = some row → key row = wanted) (wanted : List Key) :
    ((wanted.filterMap lookUp).map key).Sublist wanted := by
  induction wanted with
  | nil => exact .slnil
  | cons first rest ih =>
    rw [List.filterMap_cons]
    cases hfound : lookUp first with
    | none => exact ih.cons first
    | some row =>
      rw [List.map_cons, hkey first row hfound]
      exact ih.cons_cons first

/-!
## The newest value of a column

A table lists its rows from the oldest to the newest, and a look-up takes the newest row that has a
value.
-/

section Newest

variable {α β : Type*}

/-- The last value of a column. -/
def newest : List (Option α) → Option α
  | [] => none
  | value :: rest => (newest rest).or value

theorem newest_append (first second : List (Option α)) :
    newest (first ++ second) = (newest second).or (newest first) := by
  induction first with
  | nil => exact (Option.or_none).symm
  | cons value rest ih =>
    rw [List.cons_append, newest, newest, ih, Option.or_assoc]

/-- A row that is added last is the newest. -/
theorem newest_concat (column : List (Option α)) (value : Option α) :
    newest (column ++ [value]) = value.or (newest column) := by
  rw [newest_append, newest, newest, Option.none_or]

/-- A value that is set holds unless a newer row has one. -/
theorem newest_set {column : List (Option α)} {i : ℕ} (hlt : i < column.length) (value : Option α) :
    newest (column.set i value) =
      (newest (column.drop (i + 1))).or (value.or (newest (column.take i))) := by
  rw [List.set_eq_take_append_cons_drop, if_pos hlt, newest_append, newest, Option.or_assoc]

/-- The newest row with a property, and what it has in the column. -/
theorem find?_reverse_bind (rows : List β) (p : β → Bool) (f : β → Option α)
    (hvalue : ∀ row, p row = true → (f row).isSome = true) :
    (rows.reverse.find? p).bind f =
      newest (rows.map fun row => if p row = true then f row else none) := by
  induction rows with
  | nil => rfl
  | cons row rest ih =>
    rw [List.reverse_cons, List.find?_append, List.map_cons, newest, ← ih]
    cases hfind : rest.reverse.find? p with
    | none =>
      cases hp : p row with
      | true => simp [hp]
      | false => simp [hp]
    | some found =>
      have hsome := hvalue found (List.find?_some hfind)
      obtain ⟨value, hf⟩ := Option.isSome_iff_exists.mp hsome
      simp [hf]

end Newest

/-!
## Texts cut at a separator

A text before and after the first place of a separator.
-/

section Cuts

variable {α : Type*} [DecidableEq α]

/-- What stands before the first separator. -/
def cutBefore (sep : α) (text : List α) : List α := text.takeWhile (· ≠ sep)

/-- What stands behind it. -/
def cutAfter (sep : α) (text : List α) : List α := (text.dropWhile (· ≠ sep)).tail

/-- What stands behind the last separator. -/
def cutAfterLast (sep : α) (text : List α) : List α := (text.reverse.takeWhile (· ≠ sep)).reverse

variable {sep : α} {left right text : List α}

theorem cutBefore_append (hleft : sep ∉ left) :
    cutBefore sep (left ++ sep :: right) = left := by
  induction left with
  | nil => simp [cutBefore]
  | cons c left ih =>
    obtain ⟨hc, hrest⟩ := not_or.mp (mt List.mem_cons.mpr hleft)
    rw [List.cons_append, cutBefore, List.takeWhile_cons_of_pos (by simpa using Ne.symm hc)]
    exact congrArg (c :: ·) (ih hrest)

theorem cutAfter_append (hleft : sep ∉ left) :
    cutAfter sep (left ++ sep :: right) = right := by
  induction left with
  | nil => simp [cutAfter]
  | cons c left ih =>
    obtain ⟨hc, hrest⟩ := not_or.mp (mt List.mem_cons.mpr hleft)
    rw [List.cons_append, cutAfter, List.dropWhile_cons_of_pos (by simpa using Ne.symm hc)]
    exact ih hrest

/-- A text without the separator stands before it as a whole. -/
theorem cutBefore_of_notMem (htext : sep ∉ text) : cutBefore sep text = text :=
  List.takeWhile_eq_self_iff.mpr fun c hc => by
    simp only [ne_eq, decide_eq_true_eq]
    rintro rfl
    exact htext hc

theorem notMem_cutBefore (sep : α) (text : List α) : sep ∉ cutBefore sep text := by
  intro hmem
  have hne := List.mem_takeWhile_imp hmem
  simp at hne

end Cuts

section Slips

/-! ## Slips that are issued in a row and filed later, in any order -/

variable {Slip : Type*}

/-- Of the slips issued, those that have got so far are filed, each of them once. -/
structure Filed (issued : List Slip) (Passed : Slip → Prop) (filed : List Slip) : Prop where
  nodup : filed.Nodup
  mem_iff : ∀ slip, slip ∈ filed ↔ slip ∈ issued ∧ Passed slip

namespace Filed

variable {issued filed : List Slip} {Passed Passed' : Slip → Prop} {slip : Slip}

theorem congr (h : Filed issued Passed filed)
    (same : ∀ slip ∈ issued, Passed slip ↔ Passed' slip) : Filed issued Passed' filed :=
  ⟨h.nodup, fun slip => (h.mem_iff slip).trans (and_congr_right (same slip))⟩

/-- A slip that has just been issued is not filed yet. -/
theorem issue (h : Filed issued Passed filed) (early : ¬Passed slip) :
    Filed (issued ++ [slip]) Passed filed := by
  refine ⟨h.nodup, fun other => ?_⟩
  rw [h.mem_iff, List.mem_append, List.mem_singleton]
  constructor
  · rintro ⟨hmem, hpassed⟩
    exact ⟨.inl hmem, hpassed⟩
  · rintro ⟨hmem | rfl, hpassed⟩
    · exact ⟨hmem, hpassed⟩
    · exact absurd hpassed early

/-- The slip that gets so far next is filed next. -/
theorem file (h : Filed issued Passed filed) (mem : slip ∈ issued) (early : ¬Passed slip)
    (passes : ∀ other ∈ issued, Passed' other ↔ Passed other ∨ other = slip) :
    Filed issued Passed' (filed ++ [slip]) := by
  constructor
  · have hnew : slip ∉ filed := fun hmem => early ((h.mem_iff slip).mp hmem).2
    rw [← List.concat_eq_append]
    exact h.nodup.concat hnew
  · intro other
    rw [List.mem_append, List.mem_singleton, h.mem_iff]
    constructor
    · rintro (⟨hmem, hpassed⟩ | rfl)
      · exact ⟨hmem, (passes other hmem).mpr (.inl hpassed)⟩
      · exact ⟨mem, (passes other mem).mpr (.inr rfl)⟩
    · rintro ⟨hmem, hpassed⟩
      rcases (passes other hmem).mp hpassed with hbefore | hequal
      · exact .inl ⟨hmem, hbefore⟩
      · exact .inr hequal

/-- When all slips have got so far, all are filed. -/
theorem perm (h : Filed issued Passed filed) (nodup : issued.Nodup)
    (all : ∀ slip ∈ issued, Passed slip) : filed.Perm issued := by
  rw [List.perm_ext_iff_of_nodup h.nodup nodup]
  intro slip
  rw [h.mem_iff]
  exact ⟨fun hslip => hslip.1, fun hmem => ⟨hmem, all slip hmem⟩⟩

end Filed

/-- Numbered slips are different from each other. -/
theorem nodup_zipIdx (slips : List Slip) (first : ℕ) : (slips.zipIdx first).Nodup := by
  apply List.Nodup.of_map Prod.snd
  rw [List.zipIdx_map_snd]
  exact List.nodup_range'

end Slips

end Kanzan.Support

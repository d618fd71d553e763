import Mathlib.Data.List.Find
import Mathlib.Data.List.Infix
import Mathlib.Data.List.Nodup

/-!
# Placeholders of a text

Every placeholder of a table written over by its text, all at once or one after another.  The two
agree just when no pass meets a placeholder that the passes before it have formed.
-/

namespace Kanzan.Support

universe u

variable {α : Type u} [DecidableEq α]

/-! ## The two substitutions -/

/--
The text with every placeholder of the table written over, read from the left.  The number counts
the characters that still belong to the placeholder met last.
-/
def substituteFrom (table : List (List α × List α)) : ℕ → List α → List α
  | _, [] => []
  | skip + 1, _ :: rest => substituteFrom table skip rest
  | 0, c :: rest =>
    match table.find? fun entry => decide (entry.1 <+: c :: rest) with
    | some entry => entry.2 ++ substituteFrom table (entry.1.length - 1) rest
    | none => c :: substituteFrom table 0 rest

/-- The simultaneous substitution: no written text is looked at again. -/
def substitute (table : List (List α × List α)) (text : List α) : List α :=
  substituteFrom table 0 text

/-- Every place of one placeholder written over, as `str.replace` does. -/
def replaceAll (old new text : List α) : List α := substitute [(old, new)] text

/-- The placeholders of the table replaced one after another over the whole text. -/
def replaceInTurn (table : List (List α × List α)) (text : List α) : List α :=
  table.foldl (fun text entry => replaceAll entry.1 entry.2 text) text

/-- The places at which a placeholder stands. -/
def occurrences (old : List α) : List α → ℕ
  | [] => 0
  | c :: rest => (if old <+: c :: rest then 1 else 0) + occurrences old rest

/-- Every pass replaces just so many places as the placeholder has in the text at the start. -/
def ReplacesOwn (table : List (List α × List α)) (text : List α) : Prop :=
  ∀ i (hi : i < table.length),
    occurrences table[i].1 (replaceInTurn (table.take i) text) = occurrences table[i].1 text

/-- The texts of earlier placeholders, once written in, form no later placeholder. -/
def FormsNone (table : List (List α × List α)) (text : List α) : Prop :=
  ∀ i (hi : i < table.length),
    occurrences table[i].1 (substitute (table.take i) text) = occurrences table[i].1 text

/-! ## Placeholders that stay apart -/

/-- No end of the first text runs into the second, but for one text laid upon itself. -/
def Clear (first second : List α) : Prop :=
  ∀ ending, ending ≠ [] → ending <:+ first → ending <+: second ∨ second <+: ending →
    ending = first ∧ first = second

/-- Placeholders that cannot overlap in a text. -/
structure Separable (table : List (List α × List α)) : Prop where
  nonempty : ∀ entry ∈ table, entry.1 ≠ []
  clear : ∀ first ∈ table, ∀ second ∈ table, Clear first.1 second.1
  nodup : (table.map Prod.fst).Nodup

/-- A text that no placeholder of the table overlaps. -/
structure Barrier (table : List (List α × List α)) (mark : List α) : Prop where
  nonempty : mark ≠ []
  self : Clear mark mark
  into : ∀ entry ∈ table, Clear entry.1 mark
  out : ∀ entry ∈ table, Clear mark entry.1
  absent : ∀ entry ∈ table, mark ≠ entry.1

/-- Before a text that it does not run into, a placeholder stands only as a whole. -/
theorem Clear.prefix_append_iff {old mark : List α} (hclear : Clear old mark) (c : α)
    (before after : List α) :
    old <+: c :: (before ++ (mark ++ after)) ↔ old <+: c :: before := by
  constructor
  · intro hbegins
    have hwhole : c :: before <+: c :: (before ++ (mark ++ after)) :=
      List.prefix_append (c :: before) (mark ++ after)
    cases List.prefix_or_prefix_of_prefix hbegins hwhole with
    | inl hinside => exact hinside
    | inr hover =>
      obtain ⟨ending, rfl⟩ := hover
      by_cases hending : ending = []
      · rw [hending, List.append_nil]
      · have hrest : ending <+: mark ++ after := by simpa using hbegins
        have hmeets : ending <+: mark ∨ mark <+: ending :=
          List.prefix_or_prefix_of_prefix hrest (List.prefix_append mark after)
        have hsame := (hclear ending hending (List.suffix_append _ _) hmeets).1
        have hlength := congrArg List.length hsame
        simp only [List.length_append, List.length_cons] at hlength
        omega
  · intro hbegins
    exact hbegins.trans (List.prefix_append (c :: before) (mark ++ after))

omit [DecidableEq α] in
/-- Nor does it begin inside the text. -/
theorem Clear.not_prefix_append {old mark ending : List α} (hclear : Clear mark old)
    (hne : mark ≠ old) (hending : ending ≠ []) (hsuffix : ending <:+ mark) (after : List α) :
    ¬ old <+: ending ++ after := by
  intro hbegins
  have hmeets := List.prefix_or_prefix_of_prefix (List.prefix_append ending after) hbegins
  exact hne (hclear ending hending hsuffix hmeets).2

/-! ## Reading across a placeholder -/

variable {table : List (List α × List α)} {mark new text before after : List α}

theorem substituteFrom_append_self (before after : List α) :
    substituteFrom table before.length (before ++ after) = substitute table after := by
  induction before with
  | nil => rfl
  | cons c before ih => exact ih

theorem substituteFrom_barrier (hinto : ∀ entry ∈ table, Clear entry.1 mark) {skip : ℕ}
    (hskip : skip ≤ before.length) :
    substituteFrom table skip (before ++ (mark ++ after)) =
      substituteFrom table skip before ++ substitute table (mark ++ after) := by
  induction before generalizing skip with
  | nil =>
    obtain rfl : skip = 0 := by simpa using hskip
    rfl
  | cons c before ih =>
    cases skip with
    | succ skip => exact ih (by simpa using hskip)
    | zero =>
      have hfind : (table.find? fun entry =>
          decide (entry.1 <+: c :: (before ++ (mark ++ after)))) =
          table.find? fun entry => decide (entry.1 <+: c :: before) :=
        List.find?_congr fun entry hentry =>
          decide_eq_decide.mpr ((hinto entry hentry).prefix_append_iff c before after)
      rw [List.cons_append, substituteFrom, substituteFrom, hfind]
      cases hfound : table.find? fun entry => decide (entry.1 <+: c :: before) with
      | none => exact congrArg (c :: ·) (ih (Nat.zero_le _))
      | some entry =>
        have hbegins : entry.1 <+: c :: before := by
          simpa using List.find?_some hfound
        have hlength : entry.1.length ≤ before.length + 1 := hbegins.length_le
        have hskip : entry.1.length - 1 ≤ before.length := by omega
        simp only [ih hskip, List.append_assoc]

theorem substitute_mark_of_absent (hbarrier : Barrier table mark) :
    substitute table (mark ++ after) = mark ++ substitute table after := by
  suffices hends : ∀ ending, ending <:+ mark →
      substitute table (ending ++ after) = ending ++ substitute table after from
    hends mark (List.suffix_refl mark)
  intro ending
  induction ending with
  | nil => intro _; rfl
  | cons c ending ih =>
    intro hsuffix
    have hnone : (table.find? fun entry => decide (entry.1 <+: c :: (ending ++ after))) = none :=
      List.find?_eq_none.mpr fun entry hentry => by
        simpa using (hbarrier.out entry hentry).not_prefix_append (hbarrier.absent entry hentry)
          (List.cons_ne_nil c ending) hsuffix after
    have hrest := ih ((List.suffix_cons c ending).trans hsuffix)
    rw [List.cons_append, substitute, substituteFrom, hnone]
    exact congrArg (c :: ·) hrest

theorem substitute_append_of_absent (hbarrier : Barrier table mark) :
    substitute table (before ++ (mark ++ after)) =
      substitute table before ++ (mark ++ substitute table after) := by
  rw [← substitute_mark_of_absent hbarrier]
  exact substituteFrom_barrier hbarrier.into (Nat.zero_le _)

theorem substitute_mark (hbarrier : Barrier table mark) :
    substitute (table ++ [(mark, new)]) (mark ++ after) =
      new ++ substitute (table ++ [(mark, new)]) after := by
  cases hmark : mark with
  | nil => exact absurd hmark hbarrier.nonempty
  | cons c rest =>
    have hnone : (table.find? fun entry => decide (entry.1 <+: c :: (rest ++ after))) = none :=
      List.find?_eq_none.mpr fun entry hentry => by
        have hnot := (hbarrier.out entry hentry).not_prefix_append
          (hbarrier.absent entry hentry) hbarrier.nonempty (List.suffix_refl mark) after
        rw [hmark] at hnot
        simpa using hnot
    have hfind : ((table ++ [(c :: rest, new)]).find? fun entry =>
        decide (entry.1 <+: c :: (rest ++ after))) = some (c :: rest, new) := by
      rw [List.find?_append, hnone]
      simp
    rw [List.cons_append, substitute, substituteFrom, hfind]
    exact congrArg (new ++ ·) (substituteFrom_append_self rest after)

theorem substitute_append (hbarrier : Barrier table mark) :
    substitute (table ++ [(mark, new)]) (before ++ (mark ++ after)) =
      substitute (table ++ [(mark, new)]) before ++
        (new ++ substitute (table ++ [(mark, new)]) after) := by
  have hinto : ∀ entry ∈ table ++ [(mark, new)], Clear entry.1 mark := by
    intro entry hentry
    rcases List.mem_append.mp hentry with hold | hnew
    · exact hbarrier.into entry hold
    · obtain rfl : entry = (mark, new) := by simpa using hnew
      exact hbarrier.self
  rw [← substitute_mark hbarrier]
  exact substituteFrom_barrier hinto (Nat.zero_le _)

omit [DecidableEq α] in
theorem Barrier.alone (hbarrier : Barrier table mark) : Barrier [] mark where
  nonempty := hbarrier.nonempty
  self := hbarrier.self
  into := by simp
  out := by simp
  absent := by simp

theorem replaceAll_append (hbarrier : Barrier table mark) :
    replaceAll mark new (before ++ (mark ++ after)) =
      replaceAll mark new before ++ (new ++ replaceAll mark new after) :=
  substitute_append hbarrier.alone

/-! ## Counting the places -/

theorem occurrences_append (hbarrier : Barrier table mark) :
    occurrences mark (before ++ (mark ++ after)) =
      occurrences mark before + 1 + occurrences mark after := by
  induction before with
  | cons c before ih =>
    rw [List.cons_append, occurrences, occurrences, ih]
    simp only [hbarrier.self.prefix_append_iff]
    omega
  | nil =>
    have hends : ∀ ending, ending <:+ mark → ending ≠ mark →
        occurrences mark (ending ++ after) = occurrences mark after := by
      intro ending
      induction ending with
      | nil => intro _ _; rfl
      | cons c ending ih =>
        intro hsuffix hne
        have hnot : ¬ mark <+: c :: (ending ++ after) := by
          intro hbegins
          have hmeets :=
            List.prefix_or_prefix_of_prefix (List.prefix_append (c :: ending) after) hbegins
          exact hne (hbarrier.self _ (List.cons_ne_nil c ending) hsuffix hmeets).1
        have hshort : ending ≠ mark := by
          rintro rfl
          exact absurd hsuffix.length_le (by simp)
        rw [List.cons_append, occurrences, if_neg hnot, Nat.zero_add]
        exact ih ((List.suffix_cons c ending).trans hsuffix) hshort
    cases hmark : mark with
    | nil => exact absurd hmark hbarrier.nonempty
    | cons c rest =>
      have hrest : occurrences mark (rest ++ after) = occurrences mark after :=
        hends rest (hmark ▸ List.suffix_cons c rest) (by simp [hmark])
      rw [hmark] at hrest
      simp [occurrences, hrest]

theorem exists_of_occurrences (h : occurrences mark text ≠ 0) :
    ∃ before after, text = before ++ (mark ++ after) := by
  induction text with
  | nil => exact absurd rfl h
  | cons c rest ih =>
    by_cases hbegins : mark <+: c :: rest
    · obtain ⟨after, hafter⟩ := hbegins
      exact ⟨[], after, hafter.symm⟩
    · rw [occurrences, if_neg hbegins, Nat.zero_add] at h
      obtain ⟨before, after, rfl⟩ := ih h
      exact ⟨c :: before, after, rfl⟩

/-- A text is without the placeholder, or it is cut in two by one. -/
@[elab_as_elim]
theorem induction_on_occurrences {motive : List α → Prop} (hmark : mark ≠ [])
    (whole : ∀ text, occurrences mark text = 0 → motive text)
    (cut : ∀ before after, motive before → motive after → motive (before ++ (mark ++ after)))
    (text : List α) : motive text := by
  induction hlength : text.length using Nat.strong_induction_on generalizing text with
  | h length ih =>
    by_cases hnone : occurrences mark text = 0
    · exact whole text hnone
    · obtain ⟨before, after, rfl⟩ := exists_of_occurrences hnone
      have hpos := List.length_pos_of_ne_nil hmark
      simp only [List.length_append] at hlength
      exact cut before after (ih before.length (by omega) before rfl)
        (ih after.length (by omega) after rfl)

theorem substituteFrom_of_occurrences (hnone : occurrences mark text = 0) (skip : ℕ) :
    substituteFrom (table ++ [(mark, new)]) skip text = substituteFrom table skip text := by
  induction text generalizing skip with
  | nil => simp [substituteFrom]
  | cons c rest ih =>
    obtain ⟨hhead, hrest⟩ := Nat.add_eq_zero_iff.mp hnone
    have hnot : ¬ mark <+: c :: rest := fun hbegins => by simp [hbegins] at hhead
    cases skip with
    | succ skip => exact ih hrest skip
    | zero =>
      have hfind : ((table ++ [(mark, new)]).find? fun entry =>
          decide (entry.1 <+: c :: rest)) =
          table.find? fun entry => decide (entry.1 <+: c :: rest) := by
        rw [List.find?_append, List.find?_singleton]
        simp [hnot]
      rw [substituteFrom, substituteFrom, hfind]
      simp only [ih hrest]

theorem substitute_nil (text : List α) : substitute [] text = text := by
  induction text with
  | nil => rfl
  | cons c rest ih => exact congrArg (c :: ·) ih

theorem replaceAll_of_occurrences (hnone : occurrences mark text = 0) :
    replaceAll mark new text = text := by
  have hsame : substitute ([] ++ [(mark, new)]) text = substitute [] text :=
    substituteFrom_of_occurrences hnone 0
  rw [replaceAll, ← List.nil_append [(mark, new)], hsame, substitute_nil]

/-- A substitution that leaves a placeholder out keeps every place of it. -/
theorem occurrences_le_substitute (hbarrier : Barrier table mark) (text : List α) :
    occurrences mark text ≤ occurrences mark (substitute table text) := by
  induction text using induction_on_occurrences hbarrier.nonempty with
  | whole text hnone => omega
  | cut before after ihbefore ihafter =>
    rw [substitute_append_of_absent hbarrier, occurrences_append hbarrier,
      occurrences_append hbarrier]
    omega

/-- One more placeholder, when the texts written so far have formed none of it. -/
theorem replaceAll_substitute (hbarrier : Barrier table mark) (new text : List α)
    (hnone : occurrences mark (substitute table text) = occurrences mark text) :
    replaceAll mark new (substitute table text) = substitute (table ++ [(mark, new)]) text := by
  induction text using induction_on_occurrences hbarrier.nonempty with
  | whole text hwhole =>
    rw [hwhole] at hnone
    rw [replaceAll_of_occurrences hnone]
    exact (substituteFrom_of_occurrences hwhole 0).symm
  | cut before after ihbefore ihafter =>
    rw [substitute_append_of_absent hbarrier, occurrences_append hbarrier,
      occurrences_append hbarrier] at hnone
    have hbefore := occurrences_le_substitute hbarrier before
    have hafter := occurrences_le_substitute hbarrier after
    rw [substitute_append_of_absent hbarrier, replaceAll_append hbarrier,
      substitute_append hbarrier, ihbefore (by omega), ihafter (by omega)]

/-! ## The whole table -/

omit [DecidableEq α] in
theorem Separable.barrier (hseparable : Separable table) {i : ℕ} (hi : i < table.length) :
    Barrier (table.take i) table[i].1 where
  nonempty := hseparable.nonempty _ (List.getElem_mem hi)
  self := hseparable.clear _ (List.getElem_mem hi) _ (List.getElem_mem hi)
  into entry hentry :=
    hseparable.clear _ (List.mem_of_mem_take hentry) _ (List.getElem_mem hi)
  out entry hentry :=
    hseparable.clear _ (List.getElem_mem hi) _ (List.mem_of_mem_take hentry)
  absent entry hentry hsame := by
    obtain ⟨j, hj, rfl⟩ := List.mem_take_iff_getElem.mp hentry
    have hi' : i < (table.map Prod.fst).length := by simpa using hi
    have hkeys : (table.map Prod.fst)[i]? = (table.map Prod.fst)[j]? := by
      have hj' : j < table.length := by omega
      simp [hi, hj', hsame]
    have hij : i = j := (List.getElem?_inj hi' hseparable.nodup).mp hkeys
    omega

theorem replaceInTurn_append (first : List (List α × List α)) (entry : List α × List α)
    (text : List α) :
    replaceInTurn (first ++ [entry]) text =
      replaceAll entry.1 entry.2 (replaceInTurn first text) := by
  simp [replaceInTurn]

/-- One pass more of the table. -/
theorem replaceInTurn_take_succ (hseparable : Separable table) {n : ℕ} (hn : n < table.length)
    (hsame : replaceInTurn (table.take n) text = substitute (table.take n) text)
    (hown : occurrences table[n].1 (substitute (table.take n) text) =
      occurrences table[n].1 text) :
    replaceInTurn (table.take (n + 1)) text = substitute (table.take (n + 1)) text := by
  rw [List.take_succ_eq_append_getElem hn, replaceInTurn_append, hsame]
  exact replaceAll_substitute (hseparable.barrier hn) _ text hown

theorem FormsNone.replaceInTurn_take (hseparable : Separable table)
    (hnone : FormsNone table text) {n : ℕ} (hn : n ≤ table.length) :
    replaceInTurn (table.take n) text = substitute (table.take n) text := by
  induction n with
  | zero => exact (substitute_nil text).symm
  | succ n ih => exact replaceInTurn_take_succ hseparable hn (ih (by omega)) (hnone n hn)

theorem ReplacesOwn.replaceInTurn_take (hseparable : Separable table)
    (hown : ReplacesOwn table text) {n : ℕ} (hn : n ≤ table.length) :
    replaceInTurn (table.take n) text = substitute (table.take n) text := by
  induction n with
  | zero => exact (substitute_nil text).symm
  | succ n ih =>
    have hsame := ih (by omega)
    exact replaceInTurn_take_succ hseparable hn hsame (hsame ▸ hown n hn)

/--
Replacing in turn is the simultaneous substitution, with no place expanded but the text's own,
just when no placeholder is formed on the way.
-/
theorem replaceInTurn_eq_substitute_iff (hseparable : Separable table) (text : List α) :
    (replaceInTurn table text = substitute table text ∧ ReplacesOwn table text) ↔
      FormsNone table text := by
  constructor
  · rintro ⟨-, hown⟩ i hi
    rw [← hown.replaceInTurn_take hseparable hi.le]
    exact hown i hi
  · intro hnone
    refine ⟨?_, fun i hi => ?_⟩
    · simpa using hnone.replaceInTurn_take hseparable le_rfl
    · rw [hnone.replaceInTurn_take hseparable hi.le]
      exact hnone i hi

end Kanzan.Support

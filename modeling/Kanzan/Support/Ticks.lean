import Mathlib.Data.Int.Interval
import Mathlib.Tactic.Ring

/-!
# Counting the ticks of a discrete clock

Time is a line of integer ticks.  `ticks p a b` counts the ticks of the half-open
span `[a, b)` at which `p` holds; it is the measure used for elapsed time.  It is
additive over adjoining spans, and equals a difference of end points whenever `p`
is membership in a window.
-/

namespace Kanzan.Support

/-- The number of ticks of `[a, b)` at which `p` holds. -/
def ticks (p : ℤ → Prop) [DecidablePred p] (a b : ℤ) : ℤ :=
  -- the order of the integers is found along other paths as well, which do not compute
  ((@Finset.Ico ℤ _ Int.instLocallyFiniteOrder a b).filter p).card

section Laws

variable {p q : ℤ → Prop} [DecidablePred p] [DecidablePred q] {a b c : ℤ}

theorem ticks_nonneg : 0 ≤ ticks p a b := Int.natCast_nonneg _

theorem ticks_of_le (h : b ≤ a) : ticks p a b = 0 := by
  simp [ticks, Finset.Ico_eq_empty_of_le h]

@[simp]
theorem ticks_self : ticks p a a = 0 := ticks_of_le le_rfl

/-- Adjoining spans add up. -/
theorem ticks_add (hab : a ≤ b) (hbc : b ≤ c) :
    ticks p a c = ticks p a b + ticks p b c := by
  have hdisjoint : Disjoint ((Finset.Ico a b).filter p) ((Finset.Ico b c).filter p) :=
    Finset.disjoint_filter_filter (Finset.Ico_disjoint_Ico_consecutive a b c)
  have hunion : (Finset.Ico a c).filter p =
      (Finset.Ico a b).filter p ∪ (Finset.Ico b c).filter p := by
    rw [← Finset.filter_union, Finset.Ico_union_Ico_eq_Ico hab hbc]
  rw [ticks, hunion, Finset.card_union_of_disjoint hdisjoint, Nat.cast_add]
  rfl

/-- A span can be cut at any later point, even one beyond its end. -/
theorem ticks_split (hab : a ≤ b) : ticks p a c = ticks p a (min b c) + ticks p b c := by
  rcases le_total b c with hbc | hcb
  · rw [min_eq_left hbc, ticks_add hab hbc]
  · rw [min_eq_right hcb, ticks_of_le hcb, add_zero]

/-- A span falls into what lies before a point and what lies after it. -/
theorem ticks_cut (b : ℤ) : ticks p a c = ticks p a (min c b) + ticks p (max a b) c := by
  rcases le_total a b with hab | hba
  · rw [max_eq_right hab, min_comm, ticks_split hab]
  · rw [max_eq_left hba, ticks_of_le ((min_le_right c b).trans hba), zero_add]

theorem ticks_mono_right (hbc : b ≤ c) : ticks p a b ≤ ticks p a c := by
  have hsubset : (Finset.Ico a b).filter p ⊆ (Finset.Ico a c).filter p :=
    Finset.filter_subset_filter _ (Finset.Ico_subset_Ico_right hbc)
  exact Int.ofNat_le.mpr (Finset.card_le_card hsubset)

/-- Only the values of the predicate inside the span matter. -/
theorem ticks_congr (h : ∀ x, a ≤ x → x < b → (p x ↔ q x)) : ticks p a b = ticks q a b := by
  have hfilter : (Finset.Ico a b).filter p = (Finset.Ico a b).filter q := by
    apply Finset.filter_congr
    intro x hx
    exact h x (Finset.mem_Ico.mp hx).1 (Finset.mem_Ico.mp hx).2
  rw [ticks, ticks, hfilter]

theorem ticks_eq_zero (h : ∀ x, a ≤ x → x < b → ¬ p x) : ticks p a b = 0 := by
  have hfilter : (Finset.Ico a b).filter p = ∅ := by
    apply Finset.filter_false_of_mem
    intro x hx
    exact h x (Finset.mem_Ico.mp hx).1 (Finset.mem_Ico.mp hx).2
  rw [ticks, hfilter]
  rfl

theorem ticks_true (hab : a ≤ b) : ticks (fun _ => True) a b = b - a := by
  rw [ticks, Finset.filter_true_of_mem (fun _ _ => trivial), Int.card_Ico]
  omega

theorem ticks_le_length (hab : a ≤ b) : ticks p a b ≤ b - a := by
  have hcard := Finset.card_filter_le (Finset.Ico a b) p
  rw [Int.card_Ico] at hcard
  unfold ticks
  omega

/-- A tick at which the predicate holds counts once. -/
theorem ticks_last (h : p (b - 1)) : ticks p (b - 1) b = 1 := by
  rw [ticks_congr (q := fun _ => True) (fun x hlow hhigh => by
    obtain rfl : x = b - 1 := by omega
    simpa using h)]
  rw [ticks_true (by omega)]
  omega

/-- The ticks of a span that fall into a window. -/
theorem ticks_window (first last : ℤ) :
    ticks (fun x => first ≤ x ∧ x < last) a b = max 0 (min b last - max a first) := by
  have hfilter : (Finset.Ico a b).filter (fun x => first ≤ x ∧ x < last) =
      Finset.Ico (max a first) (min b last) := by
    ext x
    simp only [Finset.mem_filter, Finset.mem_Ico]
    omega
  rw [ticks, hfilter, Int.card_Ico]
  omega

/-- Ticks with and without a further property make up the whole. -/
theorem ticks_and_add_and_not :
    ticks (fun x => p x ∧ q x) a b + ticks (fun x => p x ∧ ¬ q x) a b = ticks p a b := by
  have hsplit := Finset.card_filter_add_card_filter_not (s := (Finset.Ico a b).filter p) q
  rw [Finset.filter_filter, Finset.filter_filter] at hsplit
  unfold ticks
  rw [← hsplit, Nat.cast_add]

/-- Reading a clock that is ahead by a fixed offset does not change the count. -/
theorem ticks_shift (offset : ℤ) :
    ticks p (a + offset) (b + offset) = ticks (fun x => p (x + offset)) a b := by
  unfold ticks
  congr 1
  refine Finset.card_nbij' (fun x => x - offset) (fun x => x + offset) ?_ ?_ ?_ ?_
  · intro x hx
    simp only [Finset.coe_filter, Set.mem_ofPred_eq, Finset.mem_Ico] at hx ⊢
    exact ⟨⟨by omega, by omega⟩, by simpa using hx.2⟩
  · intro x hx
    simp only [Finset.coe_filter, Set.mem_ofPred_eq, Finset.mem_Ico] at hx ⊢
    exact ⟨⟨by omega, by omega⟩, hx.2⟩
  · intro x _
    exact sub_add_cancel x offset
  · intro x _
    exact add_sub_cancel_right x offset

theorem ticks_le (h : ∀ x, a ≤ x → x < b → p x → q x) : ticks p a b ≤ ticks q a b := by
  apply Int.ofNat_le.mpr
  apply Finset.card_le_card
  intro x hx
  simp only [Finset.mem_filter, Finset.mem_Ico] at hx ⊢
  exact ⟨hx.1, h x hx.1.1 hx.1.2 hx.2⟩

/-- Ticks confined to a window of the span are the ticks of that window. -/
theorem ticks_restrict {first last : ℤ} (hfirst : a ≤ first) (hlast : last ≤ b) :
    ticks (fun x => p x ∧ first ≤ x ∧ x < last) a b = ticks p first last := by
  have hfilter : (Finset.Ico a b).filter (fun x => p x ∧ first ≤ x ∧ x < last) =
      (Finset.Ico first last).filter p := by
    ext x
    simp only [Finset.mem_filter, Finset.mem_Ico]
    constructor
    · rintro ⟨-, hp, hx⟩
      exact ⟨hx, hp⟩
    · rintro ⟨hx, hp⟩
      exact ⟨⟨by omega, by omega⟩, hp, hx⟩
  rw [ticks, hfilter]
  rfl

/-- Taking disjoint windows out of a span leaves out their ticks, up to its end. -/
theorem ticks_outside (windows : List (ℤ × ℤ)) (hstart : ∀ window ∈ windows, a ≤ window.1)
    (hdisjoint : windows.Pairwise fun first second =>
      ∀ x < b, ¬ ((first.1 ≤ x ∧ x < first.2) ∧ second.1 ≤ x ∧ x < second.2)) :
    ticks (fun x => p x ∧ ∀ window ∈ windows, ¬ (window.1 ≤ x ∧ x < window.2)) a b =
      ticks p a b - (windows.map fun window => ticks p window.1 (min window.2 b)).sum := by
  induction windows with
  | nil => simp
  | cons window rest ih =>
    rw [List.pairwise_cons] at hdisjoint
    rw [List.forall_mem_cons] at hstart
    have hrest := ih hstart.2 hdisjoint.2
    have hsplit := ticks_and_add_and_not (a := a) (b := b)
      (p := fun x => p x ∧ ∀ other ∈ rest, ¬ (other.1 ≤ x ∧ x < other.2))
      (q := fun x => window.1 ≤ x ∧ x < window.2)
    -- inside this window the others take nothing away
    have hinside : ticks (fun x => (p x ∧ ∀ other ∈ rest, ¬ (other.1 ≤ x ∧ x < other.2)) ∧
        window.1 ≤ x ∧ x < window.2) a b = ticks p window.1 (min window.2 b) := by
      rw [← ticks_restrict (p := p) hstart.1 (min_le_right window.2 b)]
      apply ticks_congr
      intro x _ hx
      constructor
      · rintro ⟨⟨hp, -⟩, hlow, hhigh⟩
        exact ⟨hp, hlow, lt_min hhigh hx⟩
      · rintro ⟨hp, hlow, hhigh⟩
        have hwindow := (lt_min_iff.mp hhigh).1
        exact ⟨⟨hp, fun other hother hin =>
          hdisjoint.1 other hother x hx ⟨⟨hlow, hwindow⟩, hin⟩⟩, hlow, hwindow⟩
    have houtside : ticks (fun x => p x ∧ ∀ other ∈ window :: rest,
        ¬ (other.1 ≤ x ∧ x < other.2)) a b =
        ticks (fun x => (p x ∧ ∀ other ∈ rest, ¬ (other.1 ≤ x ∧ x < other.2)) ∧
          ¬ (window.1 ≤ x ∧ x < window.2)) a b := by
      apply ticks_congr
      intro x _ _
      rw [List.forall_mem_cons]
      tauto
    rw [houtside, List.map_cons, List.sum_cons]
    omega

end Laws

end Kanzan.Support

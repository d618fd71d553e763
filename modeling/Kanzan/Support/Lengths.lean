import Mathlib.MeasureTheory.Measure.Real
import Mathlib.Order.CompletePartialOrder
import Kanzan.Support.Ticks
import Mathlib.MeasureTheory.Measure.Lebesgue.Basic

/-!
# Ticks as lengths

A tick stands for the unit of time that begins with it.  The part of a span during which a predicate
on ticks holds is as long as the ticks of the span at which it holds are many.
-/

namespace Kanzan.Support

open MeasureTheory

section Lengths

variable (p : ℤ → Prop) [DecidablePred p] (a b : ℤ)

/-- The part of a span during which a predicate holds. -/
def during : Set ℝ := {x | a ≤ x ∧ x < b ∧ p ⌊x⌋}

/-- It consists of the units of its ticks. -/
theorem during_eq_biUnion :
    during p a b = ⋃ n ∈ (Finset.Ico a b).filter p, Set.Ico (n : ℝ) (n + 1) := by
  ext x
  simp only [during, Set.mem_ofPred_eq, Set.mem_iUnion, Finset.mem_filter, Finset.mem_Ico,
    Set.mem_Ico, exists_prop]
  constructor
  · rintro ⟨hlow, hhigh, hp⟩
    refine ⟨⌊x⌋, ⟨⟨Int.le_floor.mpr hlow, Int.floor_lt.mpr hhigh⟩, hp⟩, Int.floor_le x, ?_⟩
    exact Int.lt_floor_add_one x
  · rintro ⟨n, ⟨⟨hlow, hhigh⟩, hp⟩, hn⟩
    have hfloor : ⌊x⌋ = n := Int.floor_eq_iff.mpr hn
    exact ⟨Int.le_floor.mp (hfloor ▸ hlow), Int.floor_lt.mp (hfloor ▸ hhigh), hfloor ▸ hp⟩

theorem pairwiseDisjoint_units (s : Set ℤ) :
    s.PairwiseDisjoint fun n : ℤ => Set.Ico (n : ℝ) (n + 1) := by
  intro m _ n _ hne
  refine Set.disjoint_left.mpr fun x hm hn => hne ?_
  exact (Int.floor_eq_iff.mpr hm).symm.trans (Int.floor_eq_iff.mpr hn)

/-- Counting the ticks of a span measures the part of it during which the predicate holds. -/
theorem volume_during : volume.real (during p a b) = ticks p a b := by
  have hunit : ∀ n : ℤ, volume.real (Set.Ico (n : ℝ) (n + 1)) = 1 := by
    intro n
    rw [Real.volume_real_Ico, add_sub_cancel_left, max_eq_left zero_le_one]
  rw [during_eq_biUnion, measureReal_biUnion_finset (pairwiseDisjoint_units _)
    (fun _ _ => measurableSet_Ico) (fun _ _ => measure_Ico_lt_top.ne)]
  simp only [hunit, Finset.sum_const, nsmul_eq_mul, mul_one]
  rfl

end Lengths

end Kanzan.Support

import Mathlib.Data.List.Basic

/-!
# Erasures

A part of a state that is to have no influence, given by the operation that erases it.  Two states
are alike if they differ in that part only.
-/

namespace Kanzan.Support

/-- Erasing once is enough. -/
structure Erasure (State : Type*) where
  erase : State → State
  erase_erase : ∀ state, erase (erase state) = erase state

namespace Erasure

variable {State Output : Type*} (erasure : Erasure State)

/-- Two states differ at most in what is erased. -/
def Alike (first second : State) : Prop := erasure.erase first = erasure.erase second

/-- An output is the one of every admitted state that is alike. -/
def Respects (Admits : State → Prop) (output : State → Output) (state : State) : Prop :=
  ∀ other, erasure.Alike state other → Admits other → output state = output other

variable {erasure} {Admits : State → Prop} {output : State → Output}

theorem alike_erase (state : State) : erasure.Alike state (erasure.erase state) :=
  (erasure.erase_erase state).symm

/-- Where the condition says when erasing matters, it says so of any two states that are alike. -/
theorem respects_iff
    (exact_at : ∀ state, output state = output (erasure.erase state) ↔ Admits state)
    (state : State) : erasure.Respects Admits output state ↔ Admits state := by
  constructor
  · intro respects
    refine (exact_at state).mp (respects _ (alike_erase state) ?_)
    rw [← exact_at, erasure.erase_erase]
  · intro admits other alike admitted
    rw [(exact_at state).mpr admits, (exact_at other).mpr admitted, alike]

end Erasure

/-! ## Filtered lists -/

section Filters

variable {α : Type*} {keep wanted : α → Bool} {entries : List α}

theorem filter_filter_of_none
    (hnone : ∀ entry ∈ entries, keep entry = false → wanted entry = false) :
    (entries.filter keep).filter wanted = entries.filter wanted := by
  rw [List.filter_comm, List.filter_eq_self]
  intro entry hfound
  obtain ⟨hmem, hwanted⟩ := List.mem_filter.mp hfound
  cases hkeep : keep entry with
  | true => rfl
  | false =>
    rw [hnone entry hmem hkeep] at hwanted
    cases hwanted

/-- A filter leaves out nothing wanted exactly if it leaves as many wanted entries. -/
theorem length_filter_filter_iff :
    (entries.filter wanted).length = ((entries.filter keep).filter wanted).length ↔
      ∀ entry ∈ entries, keep entry = false → wanted entry = false := by
  rw [List.filter_comm]
  constructor
  · intro hlength entry hmem hkeep
    have hall := List.length_filter_eq_length_iff.mp hlength.symm
    cases hwanted : wanted entry with
    | false => rfl
    | true =>
      rw [hall entry (List.mem_filter.mpr ⟨hmem, hwanted⟩)] at hkeep
      cases hkeep
  · intro hnone
    rw [← List.filter_comm, filter_filter_of_none hnone]

/-- A filter hides no wanted entry without a wanted one that it leaves. -/
theorem any_filter_iff :
    entries.any wanted = (entries.filter keep).any wanted ↔
      ∀ entry ∈ entries, keep entry = false → wanted entry = true →
        ∃ other ∈ entries, keep other = true ∧ wanted other = true := by
  have hfiltered : (entries.filter keep).any wanted = true ↔
      ∃ other ∈ entries, keep other = true ∧ wanted other = true := by
    simp only [List.any_eq_true, List.mem_filter, and_assoc]
  constructor
  · intro heq entry hmem _ hwanted
    exact hfiltered.mp (heq ▸ List.any_eq_true.mpr ⟨entry, hmem, hwanted⟩)
  · intro hshadowed
    rw [Bool.eq_iff_iff, hfiltered, List.any_eq_true]
    constructor
    · rintro ⟨entry, hmem, hwanted⟩
      cases hkeep : keep entry with
      | true => exact ⟨entry, hmem, hkeep, hwanted⟩
      | false => exact hshadowed entry hmem hkeep hwanted
    · rintro ⟨other, hmem, -, hwanted⟩
      exact ⟨other, hmem, hwanted⟩

/-- Two filters leave the same of a list exactly if they agree on its entries. -/
theorem filter_inj_iff {first second : α → Bool} :
    entries.filter first = entries.filter second ↔
      ∀ entry ∈ entries, first entry = second entry := by
  constructor
  · intro heq entry hmem
    have hiff : entry ∈ entries.filter first ↔ entry ∈ entries.filter second := by rw [heq]
    rw [Bool.eq_iff_iff]
    simpa only [List.mem_filter, hmem, true_and] using hiff
  · exact List.filter_congr

end Filters

end Kanzan.Support

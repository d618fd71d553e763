import Mathlib.Data.List.Nodup
import Mathlib.Data.List.Perm.Subperm

/-!
# Contiguous positions

Positions of the rows of a list that are counted from zero without gaps.  When they still are
after a row is added, taken out, or put somewhere else.
-/

namespace Kanzan.Support

/-- Distinct positions, which are those below their number. -/
structure Contiguous (positions : List ℕ) : Prop where
  nodup : positions.Nodup
  mem_iff : ∀ position, position ∈ positions ↔ position < positions.length

/-- The positions behind one that is given up move down. -/
def closeGap (old position : ℕ) : ℕ := if old < position then position - 1 else position

/-- The positions from a new one on move up. -/
def openGap (new position : ℕ) : ℕ := if new ≤ position then position + 1 else position

section Laws

variable {positions others : List ℕ} {position : ℕ}

theorem Contiguous.nil : Contiguous [] where
  nodup := List.nodup_nil
  mem_iff position := by simp

/-- The order in which positions are listed does not matter. -/
theorem Contiguous.perm (contiguous : Contiguous positions) (hperm : positions.Perm others) :
    Contiguous others where
  nodup := hperm.nodup_iff.mp contiguous.nodup
  mem_iff position := by
    rw [← hperm.mem_iff, ← hperm.length_eq]
    exact contiguous.mem_iff position

theorem contiguous_congr (hperm : positions.Perm others) :
    Contiguous positions ↔ Contiguous others :=
  ⟨fun contiguous => contiguous.perm hperm, fun contiguous => contiguous.perm hperm.symm⟩

/-- Distinct positions below their number leave no gap. -/
theorem Contiguous.of_bounded (hnodup : positions.Nodup)
    (hbounded : ∀ position ∈ positions, position < positions.length) : Contiguous positions where
  nodup := hnodup
  mem_iff position := by
    have hsubset : positions ⊆ List.range positions.length := by
      intro position hmem
      exact List.mem_range.mpr (hbounded position hmem)
    have hlength : (List.range positions.length).length ≤ positions.length :=
      Nat.le_of_eq List.length_range
    have hperm := (List.subperm_of_subset hnodup hsubset).perm_of_length_le hlength
    rw [hperm.mem_iff, List.mem_range]

/-- Positions without gaps are a rearrangement of the numbers below. -/
theorem Contiguous.perm_range (contiguous : Contiguous positions) :
    positions.Perm (List.range positions.length) := by
  refine (List.perm_ext_iff_of_nodup contiguous.nodup List.nodup_range).mpr fun position => ?_
  rw [contiguous.mem_iff, List.mem_range]

/-- One position more is the next one. -/
theorem contiguous_cons_iff (contiguous : Contiguous others) :
    Contiguous (position :: others) ↔ position = others.length := by
  have hnew : others.length ∉ others := by
    rw [contiguous.mem_iff]
    exact Nat.lt_irrefl _
  constructor
  · intro more
    have hmem : others.length ∈ position :: others :=
      (more.mem_iff _).mpr (by rw [List.length_cons]; exact Nat.lt_succ_self _)
    rcases List.mem_cons.mp hmem with heq | hmem
    · exact heq.symm
    · exact absurd hmem hnew
  · rintro rfl
    refine .of_bounded (List.nodup_cons.mpr ⟨hnew, contiguous.nodup⟩) ?_
    intro position hmem
    rw [List.length_cons]
    rcases List.mem_cons.mp hmem with rfl | hmem
    · exact Nat.lt_succ_self _
    · exact Nat.lt_succ_of_lt ((contiguous.mem_iff position).mp hmem)

/-- Only the last position can be given up without more. -/
theorem contiguous_tail_iff (contiguous : Contiguous (position :: others)) :
    Contiguous others ↔ position = others.length := by
  constructor
  · intro fewer
    exact (contiguous_cons_iff fewer).mp contiguous
  · intro hlast
    obtain ⟨hnotMem, hnodup⟩ := List.nodup_cons.mp contiguous.nodup
    refine .of_bounded hnodup fun other hmem => ?_
    have hbound := (contiguous.mem_iff other).mp (List.mem_cons_of_mem position hmem)
    rw [List.length_cons] at hbound
    have hne : other ≠ position := by
      rintro rfl
      exact hnotMem hmem
    omega

/-- Any position can be given up when those behind it move down. -/
theorem Contiguous.closeGap (contiguous : Contiguous (position :: others)) :
    Contiguous (others.map (closeGap position)) := by
  obtain ⟨hnotMem, hnodup⟩ := List.nodup_cons.mp contiguous.nodup
  have hne : ∀ other ∈ others, other ≠ position := by
    rintro other hmem rfl
    exact hnotMem hmem
  refine .of_bounded ?_ ?_
  · refine hnodup.map_on fun first hfirst second hsecond heq => ?_
    have hfirst := hne first hfirst
    have hsecond := hne second hsecond
    unfold Support.closeGap at heq
    split at heq <;> split at heq <;> omega
  · intro moved hmem
    obtain ⟨other, hother, rfl⟩ := List.mem_map.mp hmem
    have hbound := (contiguous.mem_iff other).mp (List.mem_cons_of_mem position hother)
    have hposition := (contiguous.mem_iff position).mp List.mem_cons_self
    have hne := hne other hother
    rw [List.length_cons] at hbound hposition
    rw [List.length_map]
    unfold Support.closeGap
    split <;> omega

theorem openGap_injective (new : ℕ) : Function.Injective (openGap new) := by
  intro first second heq
  unfold openGap at heq
  split at heq <;> split at heq <;> omega

theorem openGap_ne (new position : ℕ) : openGap new position ≠ new := by
  unfold openGap
  split <;> omega

/-- A position can be inserted up to the end when those from it on move up. -/
theorem contiguous_openGap_iff (contiguous : Contiguous others) :
    Contiguous (position :: others.map (openGap position)) ↔ position ≤ others.length := by
  constructor
  · intro more
    have hbound := (more.mem_iff position).mp List.mem_cons_self
    rw [List.length_cons, List.length_map] at hbound
    omega
  · intro hle
    refine .of_bounded (List.nodup_cons.mpr ⟨?_, ?_⟩) ?_
    · intro hmem
      obtain ⟨other, -, hother⟩ := List.mem_map.mp hmem
      exact openGap_ne position other hother
    · exact contiguous.nodup.map (openGap_injective position)
    · intro moved hmem
      rw [List.length_cons, List.length_map]
      rcases List.mem_cons.mp hmem with rfl | hmem
      · omega
      · obtain ⟨other, hother, rfl⟩ := List.mem_map.mp hmem
        have hbound := (contiguous.mem_iff other).mp hother
        unfold openGap
        split <;> omega

/-- A gap that is opened and not filled has to be behind the end. -/
theorem contiguous_map_openGap_iff (contiguous : Contiguous others) :
    Contiguous (others.map (openGap position)) ↔ others.length ≤ position := by
  constructor
  · intro moved
    by_contra hinside
    have hmem : position ∈ others.map (openGap position) :=
      (moved.mem_iff position).mpr (by rw [List.length_map]; omega)
    obtain ⟨other, -, hother⟩ := List.mem_map.mp hmem
    exact openGap_ne position other hother
  · intro hbehind
    have hsame : others.map (openGap position) = others := by
      refine (List.map_congr_left fun other hmem => ?_).trans others.map_id
      have hbound := (contiguous.mem_iff other).mp hmem
      exact if_neg (by omega)
    rw [hsame]
    exact contiguous

end Laws

/-! ## Rows listed by their positions -/

section Rows

variable {α : Type*} {rows : List α} {row new : α} {old position place : ℕ}

/-- The rows behind one that is taken out move down. -/
theorem getElem?_eraseIdx_iff :
    (rows.eraseIdx old)[place]? = some row ↔
      ∃ before, rows[before]? = some row ∧ before ≠ old ∧ closeGap old before = place := by
  rw [List.getElem?_eraseIdx]
  unfold closeGap
  constructor
  · intro hrow
    split at hrow
    · exact ⟨place, hrow, by omega, if_neg (by omega)⟩
    · exact ⟨place + 1, hrow, by omega, if_pos (by omega)⟩
  · rintro ⟨before, hrow, hne, rfl⟩
    by_cases hbehind : old < before
    · rw [if_pos hbehind, if_neg (by omega), Nat.sub_add_cancel (by omega)]
      exact hrow
    · rw [if_neg hbehind, if_pos (by omega)]
      exact hrow

/-- The rows from a new one on move up. -/
theorem getElem?_insertIdx_iff (hle : position ≤ rows.length) :
    (rows.insertIdx position new)[place]? = some row ↔
      (place = position ∧ row = new) ∨
        ∃ before, rows[before]? = some row ∧ openGap position before = place := by
  rw [List.getElem?_insertIdx]
  unfold openGap
  constructor
  · intro hrow
    split at hrow
    · exact .inr ⟨place, hrow, if_neg (by omega)⟩
    · split at hrow
      · rename_i hplace
        rw [if_pos (hplace ▸ hle)] at hrow
        exact .inl ⟨hplace, (Option.some.inj hrow).symm⟩
      · exact .inr ⟨place - 1, hrow, by rw [if_pos (by omega)]; omega⟩
  · rintro (⟨rfl, rfl⟩ | ⟨before, hrow, rfl⟩)
    · rw [if_neg (Nat.lt_irrefl _), if_pos rfl, if_pos hle]
    · by_cases hbehind : position ≤ before
      · rw [if_pos hbehind, if_neg (by omega), if_neg (by omega)]
        exact hrow
      · rw [if_neg hbehind, if_pos (by omega)]
        exact hrow

end Rows

end Kanzan.Support

import Mathlib.Data.List.Nodup

/-!
# Counting rows

A table is a partial function from keys to rows, with a list of its keys.  How the number of
rows that meet a condition follows an update or an insertion of one row.
-/

namespace Kanzan.Support

universe u v

variable {Key : Type u} {Row : Type v}

/-- The keys of a table, each of them once. -/
structure Listed (rows : Key → Option Row) (keys : List Key) : Prop where
  nodup : keys.Nodup
  mem_iff : ∀ key, key ∈ keys ↔ (rows key).isSome = true

/-- The number of rows that meet a condition. -/
def countRows (rows : Key → Option Row) (keys : List Key) (condition : Row → Bool) : ℕ :=
  keys.countP fun key => (rows key).any condition

section Laws

variable {rows rows' : Key → Option Row} {keys : List Key} {condition : Row → Bool} {key : Key}
  {row row' : Row}

theorem Listed.empty : Listed (fun _ => none : Key → Option Row) [] where
  nodup := List.nodup_nil
  mem_iff key := by simp

/-- An update leaves the keys as they are. -/
theorem Listed.of_isSome (listed : Listed rows keys)
    (hsame : ∀ key, (rows' key).isSome = (rows key).isSome) : Listed rows' keys where
  nodup := listed.nodup
  mem_iff key := by rw [hsame, listed.mem_iff]

theorem Listed.notMem (listed : Listed rows keys) (hnone : rows key = none) : key ∉ keys := by
  rw [listed.mem_iff, hnone]
  nofun

/-- A row is inserted under a new key. -/
theorem Listed.insert (listed : Listed rows keys) (hnone : rows key = none)
    (hrow : rows' key = some row) (hothers : ∀ other ≠ key, rows' other = rows other) :
    Listed rows' (keys ++ [key]) where
  nodup := by
    refine List.nodup_append.mpr ⟨listed.nodup, List.nodup_singleton key, ?_⟩
    rintro other hmem last hlast rfl
    rw [List.mem_singleton] at hlast
    exact listed.notMem hnone (hlast ▸ hmem)
  mem_iff other := by
    rw [List.mem_append, List.mem_singleton, listed.mem_iff]
    by_cases hother : other = key
    · simp [hother, hrow]
    · simp [hother, hothers other hother]

theorem countRows_congr {condition' : Row → Bool}
    (hsame : ∀ key ∈ keys, (rows' key).any condition' = (rows key).any condition) :
    countRows rows' keys condition' = countRows rows keys condition := by
  refine List.countP_congr fun key hmem => ?_
  rw [hsame key hmem]

/-- One row is replaced. -/
theorem countRows_update (listed : Listed rows keys) (hrow : rows key = some row)
    (hrow' : rows' key = some row') (hothers : ∀ other ≠ key, rows' other = rows other) :
    countRows rows' keys condition + (condition row).toNat =
      countRows rows keys condition + (condition row').toNat := by
  have hmem : key ∈ keys := (listed.mem_iff key).mpr (hrow ▸ rfl)
  obtain ⟨before, after, rfl⟩ := List.append_of_mem hmem
  have hnodup := List.nodup_middle.mp listed.nodup
  obtain ⟨hnotMem, -⟩ := List.nodup_cons.mp hnodup
  rw [List.mem_append, not_or] at hnotMem
  have hkept : ∀ part : List Key, key ∉ part →
      countRows rows' part condition = countRows rows part condition := by
    intro part hpart
    refine countRows_congr fun other hother => ?_
    rw [hothers other fun heq => hpart (heq ▸ hother)]
  have hbefore := hkept before hnotMem.1
  have hafter := hkept after hnotMem.2
  have hone : ∀ found : Row, (if condition found = true then 1 else 0) = (condition found).toNat := by
    intro found
    cases condition found <;> rfl
  unfold countRows at hbefore hafter ⊢
  rw [List.countP_append, List.countP_append, List.countP_cons, List.countP_cons, hrow, hrow',
    hbefore, hafter, Option.any_some, Option.any_some, hone, hone]
  omega

/-- One row is inserted. -/
theorem countRows_insert (listed : Listed rows keys) (hnone : rows key = none)
    (hrow : rows' key = some row) (hothers : ∀ other ≠ key, rows' other = rows other) :
    countRows rows' (keys ++ [key]) condition =
      countRows rows keys condition + (condition row).toNat := by
  have hkept : countRows rows' keys condition = countRows rows keys condition := by
    refine countRows_congr fun other hother => ?_
    rw [hothers other fun heq => listed.notMem hnone (heq ▸ hother)]
  unfold countRows at hkept ⊢
  rw [List.countP_append, hkept, List.countP_singleton, hrow, Option.any_some]
  cases condition row <;> rfl

/-- Rows that meet a condition, by a second one. -/
theorem countRows_split (condition second : Row → Bool) :
    countRows rows keys condition =
      countRows rows keys (fun row => condition row && !second row) +
        countRows rows keys (fun row => condition row && second row) := by
  unfold countRows
  induction keys with
  | nil => rfl
  | cons key rest ih =>
    rw [List.countP_cons, List.countP_cons, List.countP_cons, ih]
    cases rows key with
    | none => simp
    | some row =>
      cases hcondition : condition row with
      | false => simp [hcondition]
      | true =>
        cases hsecond : second row with
        | false => simp [hcondition, hsecond]; omega
        | true => simp [hcondition, hsecond]; omega

end Laws

end Kanzan.Support

import Mathlib.Data.Finset.Card
import Mathlib.Data.Prod.Lex

/-!
# Rotation

A pool in which the member with the least load has the next turn, and among those the one whose
last turn is longest ago.  A turn adds one to the load of its member.  From equal loads on the
turns go round: the loads stay within one of each other, and as many turns later as there are
members the same one has its turn.
-/

namespace Kanzan.Support

universe u v

variable {Member : Type u} {Moment : Type v} [LinearOrder Moment]

/-- Turns of a pool, as many as `bound`: whose they are, and the loads and last turns before
each. -/
structure Turns (members : Finset Member) (load : ℕ → Member → ℕ) (last : ℕ → Member → Moment)
    (turn : ℕ → Member) (bound : ℕ) : Prop where
  even : ∀ a ∈ members, ∀ b ∈ members, load 0 a = load 0 b
  mem : ∀ n < bound, turn n ∈ members
  least : ∀ n < bound, ∀ a ∈ members,
    toLex (load n (turn n), last n (turn n)) ≤ toLex (load n a, last n a)
  load_turn : ∀ n < bound, load (n + 1) (turn n) = load n (turn n) + 1
  load_other : ∀ n < bound, ∀ a ∈ members, a ≠ turn n → load (n + 1) a = load n a
  last_turn : ∀ n < bound, ∀ a ∈ members, last n a < last (n + 1) (turn n)
  last_other : ∀ n < bound, ∀ a ∈ members, a ≠ turn n → last (n + 1) a = last n a

namespace Turns

variable {members : Finset Member} {load : ℕ → Member → ℕ} {last : ℕ → Member → Moment}
  {turn : ℕ → Member} {bound n m : ℕ} {a b : Member}

theorem load_le (turns : Turns members load last turn bound) (hn : n < bound) (ha : a ∈ members) :
    load n (turn n) ≤ load n a := by
  rcases Prod.Lex.toLex_le_toLex.mp (turns.least n hn a ha) with hless | ⟨hsame, -⟩
  · exact le_of_lt hless
  · exact le_of_eq hsame

theorem last_le (turns : Turns members load last turn bound) (hn : n < bound) (ha : a ∈ members)
    (hload : load n a ≤ load n (turn n)) : last n (turn n) ≤ last n a := by
  rcases Prod.Lex.toLex_le_toLex.mp (turns.least n hn a ha) with hless | ⟨-, hlast⟩
  · exact absurd hload (not_le.mpr hless)
  · exact hlast

/-- A member without a turn for a while keeps its load and its last turn. -/
theorem kept (turns : Turns members load last turn bound) (ha : a ∈ members) (hbound : n + m ≤ bound)
    (hnone : ∀ i < m, turn (n + i) ≠ a) : load (n + m) a = load n a ∧ last (n + m) a = last n a := by
  induction m with
  | zero => exact ⟨rfl, rfl⟩
  | succ m ih =>
    obtain ⟨hload, hlast⟩ := ih (by omega) fun i hi => hnone i (by omega)
    have hother : a ≠ turn (n + m) := (hnone m (by omega)).symm
    rw [← Nat.add_assoc, turns.load_other (n + m) (by omega) a ha hother,
      turns.last_other (n + m) (by omega) a ha hother]
    exact ⟨hload, hlast⟩

/-- Last turns only move on. -/
theorem last_mono (turns : Turns members load last turn bound) (ha : a ∈ members)
    (hbound : n + m ≤ bound) : last n a ≤ last (n + m) a := by
  induction m with
  | zero => exact le_rfl
  | succ m ih =>
    refine (ih (by omega)).trans ?_
    by_cases hturn : a = turn (n + m)
    · have hmoved := turns.last_turn (n + m) (by omega) a ha
      rw [← hturn] at hmoved
      exact le_of_lt hmoved
    · exact ge_of_eq (turns.last_other (n + m) (by omega) a ha hturn)

/-- The turns of a span are of different members. -/
def Apart (turn : ℕ → Member) (n m : ℕ) : Prop :=
  ∀ i < m, ∀ j < m, turn (n + i) = turn (n + j) → i = j

/-- One more turn of a member that has not had one. -/
theorem Apart.snoc (apart : Apart turn n m) (hnew : ∀ i < m, turn (n + i) ≠ turn (n + m)) :
    Apart turn n (m + 1) := by
  intro i hi j hj hsame
  rcases Nat.lt_succ_iff_lt_or_eq.mp hi with hi | rfl
  · rcases Nat.lt_succ_iff_lt_or_eq.mp hj with hj | rfl
    · exact apart i hi j hj hsame
    · exact absurd hsame (hnew i hi)
  · rcases Nat.lt_succ_iff_lt_or_eq.mp hj with hj | rfl
    · exact absurd hsame.symm (hnew j hj)
    · rfl

/-- In a span in which turns are of different members, a member with a turn has one more. -/
theorem load_of_apart (turns : Turns members load last turn bound) (hbound : n + m ≤ bound)
    (apart : Apart turn n m) {i : ℕ} (hi : i < m) :
    load (n + m) (turn (n + i)) = load n (turn (n + i)) + 1 := by
  have hmem := turns.mem (n + i) (by omega)
  obtain ⟨k, rfl⟩ := Nat.exists_eq_add_of_lt hi
  have hbefore : load (n + i) (turn (n + i)) = load n (turn (n + i)) := by
    refine (turns.kept hmem (by omega) fun j hj hsame => ?_).1
    have heq := apart j (by omega) i hi hsame
    omega
  have hafter : load (n + i + 1 + k) (turn (n + i)) = load (n + i + 1) (turn (n + i)) := by
    refine (turns.kept hmem (by omega) fun j hj hsame => ?_).1
    have hplace : n + i + 1 + j = n + (i + 1 + j) := by omega
    have heq := apart (i + 1 + j) (by omega) i hi (hplace ▸ hsame)
    omega
  have hplace : n + (i + k + 1) = n + i + 1 + k := by omega
  rw [hplace, hafter, turns.load_turn (n + i) (by omega), hbefore]

/-- As many turns of different members as there are members are of all of them. -/
theorem exists_turn (turns : Turns members load last turn bound)
    (hbound : n + members.card ≤ bound) (apart : Apart turn n members.card) (ha : a ∈ members) :
    ∃ i < members.card, turn (n + i) = a := by
  classical
  have hsubset : (Finset.range members.card).image (fun i => turn (n + i)) ⊆ members := by
    intro b hb
    obtain ⟨i, hi, rfl⟩ := Finset.mem_image.mp hb
    have hi := Finset.mem_range.mp hi
    exact turns.mem (n + i) (by omega)
  have hcard : ((Finset.range members.card).image fun i => turn (n + i)).card = members.card := by
    rw [Finset.card_image_of_injOn, Finset.card_range]
    intro i hi j hj hsame
    exact apart i (Finset.mem_range.mp hi) j (Finset.mem_range.mp hj) hsame
  have hall := Finset.eq_of_subset_of_card_le hsubset (le_of_eq hcard.symm)
  rw [← hall, Finset.mem_image] at ha
  obtain ⟨i, hi, rfl⟩ := ha
  exact ⟨i, Finset.mem_range.mp hi, rfl⟩

/-- With fewer turns than members some member has not had one. -/
theorem exists_without (hm : m < members.card) (turn : ℕ → Member) :
    ∃ a ∈ members, ∀ i < m, turn (n + i) ≠ a := by
  classical
  have hfewer : ((Finset.range m).image fun i => turn (n + i)).card < members.card :=
    (Finset.card_image_le.trans (le_of_eq (Finset.card_range m))).trans_lt hm
  obtain ⟨a, ha, hnot⟩ := Finset.exists_mem_notMem_of_card_lt_card hfewer
  refine ⟨a, ha, fun i hi hsame => hnot ?_⟩
  exact Finset.mem_image.mpr ⟨i, Finset.mem_range.mpr hi, hsame⟩

/-! ## The first round -/

/-- The first turns, as many as there are members, are of different members. -/
theorem apart_first (turns : Turns members load last turn bound) (hm : m ≤ members.card)
    (hbound : m ≤ bound) : Apart turn 0 m := by
  induction m with
  | zero => exact fun i hi => absurd hi (Nat.not_lt_zero i)
  | succ m ih =>
    have apart := ih (by omega) (by omega)
    refine apart.snoc fun i hi hsame => ?_
    obtain ⟨a, ha, hnone⟩ := exists_without (n := 0) (show m < members.card by omega) turn
    -- whoever had a turn carries one more than a member without one
    have hfree := (turns.kept ha (by omega) hnone).1
    have hmore := turns.load_of_apart (by omega) apart hi
    have hleast := turns.load_le (n := 0 + m) (by omega) ha
    have heven := turns.even a ha _ (turns.mem (0 + i) (by omega))
    rw [← hsame] at hleast
    omega

/-- In the first round a load grows by one at the most. -/
theorem load_first (turns : Turns members load last turn bound) (hm : m ≤ members.card)
    (hbound : m ≤ bound) (ha : a ∈ members) :
    load m a = load 0 a ∨ load m a = load 0 a + 1 := by
  have hplace : 0 + m = m := Nat.zero_add m
  by_cases hturn : ∃ i < m, turn (0 + i) = a
  · obtain ⟨i, hi, rfl⟩ := hturn
    have hmore := turns.load_of_apart (by omega) (turns.apart_first hm hbound) hi
    rw [hplace] at hmore
    exact .inr hmore
  · simp only [not_exists, not_and] at hturn
    have hfree := (turns.kept ha (by omega) hturn).1
    rw [hplace] at hfree
    exact .inl hfree

/-! ## The later rounds -/

/-- A round adds one to every load. -/
theorem load_round (turns : Turns members load last turn bound)
    (hbound : n + members.card ≤ bound) (apart : Apart turn n members.card) (ha : a ∈ members) :
    load (n + members.card) a = load n a + 1 := by
  obtain ⟨i, hi, rfl⟩ := turns.exists_turn hbound apart ha
  exact turns.load_of_apart hbound apart hi

/-- After a round the turn of its first member is longest ago. -/
theorem last_first_lt (turns : Turns members load last turn bound)
    (hbound : n + members.card < bound) (apart : Apart turn n members.card) (ha : a ∈ members)
    (hne : a ≠ turn n) : last (n + members.card) (turn n) < last (n + members.card) a := by
  have hmem := turns.mem n (by omega)
  obtain ⟨i, hi, rfl⟩ := turns.exists_turn (by omega) apart ha
  obtain ⟨j, rfl⟩ : ∃ j, i = j + 1 := by
    cases i with
    | zero => exact absurd rfl hne
    | succ j => exact ⟨j, rfl⟩
  obtain ⟨k, hk⟩ := Nat.exists_eq_add_of_lt hi
  rw [hk] at apart hbound ⊢
  have hkept : ∀ m ≤ j + 1 + k, last (n + 1 + m) (turn n) = last (n + 1) (turn n) := by
    intro m hm
    refine (turns.kept hmem (by omega) fun i hi hsame => ?_).2
    have hplace : n + 1 + i = n + (1 + i) := by omega
    have heq := apart (1 + i) (by omega) 0 (by omega) (hplace ▸ hsame)
    omega
  calc last (n + (j + 1 + k + 1)) (turn n)
      = last (n + 1 + (j + 1 + k)) (turn n) := by
        rw [show n + (j + 1 + k + 1) = n + 1 + (j + 1 + k) by omega]
    _ = last (n + 1) (turn n) := hkept (j + 1 + k) le_rfl
    _ = last (n + 1 + j) (turn n) := (hkept j (by omega)).symm
    _ = last (n + (j + 1)) (turn n) := by rw [show n + 1 + j = n + (j + 1) by omega]
    _ < last (n + (j + 1) + 1) (turn (n + (j + 1))) := turns.last_turn _ (by omega) _ hmem
    _ ≤ last (n + (j + 1) + 1 + k) (turn (n + (j + 1))) := turns.last_mono ha (by omega)
    _ = last (n + (j + 1 + k + 1)) (turn (n + (j + 1))) := by
        rw [show n + (j + 1) + 1 + k = n + (j + 1 + k + 1) by omega]

/-- After a round its first member has the next turn. -/
theorem turn_of_apart (turns : Turns members load last turn bound)
    (hbound : n + members.card < bound) (apart : Apart turn n members.card) :
    turn (n + members.card) = turn n := by
  have hmem := turns.mem n (by omega)
  have hnext := turns.mem (n + members.card) hbound
  by_contra hne
  have hleast := turns.load_le (show n < bound by omega) hnext
  have hload : load (n + members.card) (turn n) ≤
      load (n + members.card) (turn (n + members.card)) := by
    rw [turns.load_round (by omega) apart hmem, turns.load_round (by omega) apart hnext]
    omega
  exact absurd (turns.last_first_lt hbound apart hnext hne)
    (not_lt.mpr (turns.last_le hbound hmem hload))

/-- Any turns in a row, as many as there are members, are of different members. -/
theorem apart (turns : Turns members load last turn bound) (hbound : n + members.card ≤ bound) :
    Apart turn n members.card := by
  induction n with
  | zero => exact turns.apart_first le_rfl (by omega)
  | succ n ih =>
    have apart := ih (by omega)
    have hagain := turns.turn_of_apart (by omega) apart
    cases hcard : members.card with
    | zero => exact fun i hi => absurd hi (Nat.not_lt_zero i)
    | succ k =>
      rw [hcard] at apart hagain
      have hplace : ∀ i, n + 1 + i = n + (i + 1) := fun i => by omega
      have hlater : Apart turn (n + 1) k := by
        intro i hi j hj hsame
        rw [hplace, hplace] at hsame
        have heq := apart (i + 1) (by omega) (j + 1) (by omega) hsame
        omega
      refine hlater.snoc fun i hi hsame => ?_
      rw [hplace, hplace, hagain] at hsame
      have heq := apart (i + 1) (by omega) 0 (by omega) hsame
      omega

/-- The turns go round. -/
theorem rotates (turns : Turns members load last turn bound)
    (hbound : n + members.card < bound) : turn (n + members.card) = turn n :=
  turns.turn_of_apart hbound (turns.apart (le_of_lt hbound))

/-- The loads stay within one of each other. -/
theorem balanced (turns : Turns members load last turn bound) (hn : n ≤ bound)
    (ha : a ∈ members) (hb : b ∈ members) : load n a ≤ load n b + 1 := by
  induction n using Nat.strong_induction_on with
  | h n ih =>
    by_cases hfirst : n ≤ members.card
    · have heven := turns.even a ha b hb
      have hcase := turns.load_first hfirst hn ha
      have hother := turns.load_first hfirst hn hb
      omega
    · obtain ⟨m, rfl⟩ := Nat.exists_eq_add_of_lt (not_le.mp hfirst)
      have hpos : 0 < members.card := Finset.card_pos.mpr ⟨a, ha⟩
      have hplace : members.card + m + 1 = m + 1 + members.card := by omega
      rw [hplace] at hn ih ⊢
      rw [turns.load_round hn (turns.apart hn) ha, turns.load_round hn (turns.apart hn) hb]
      exact Nat.succ_le_succ (ih (m + 1) (by omega) (by omega))

end Turns

end Kanzan.Support

import Mathlib.Data.List.Basic

/-!
# The states a system has been in

A history holds the present state with all that came before it.  Its moments are counted from the
beginning; what was true at a moment stays so while the history goes on.
-/

namespace Kanzan.Support

universe u v

/-- The present state, and the ones before it. -/
structure History (State : Type u) where
  past : List State := []
  present : State

namespace History

variable {State : Type u}

/-- The moment it is. -/
def now (history : History State) : ℕ := history.past.length

/-- The state at a moment that has come. -/
def stateAt (history : History State) (moment : ℕ) : Option State :=
  (history.past ++ [history.present])[moment]?

/-- The history goes on with another state. -/
def next (history : History State) (state : State) : History State where
  past := history.past ++ [history.present]
  present := state

/-- Some state between two moments was good, both of them included. -/
def Between (history : History State) (first last : ℕ) (Good : State → Prop) : Prop :=
  ∃ moment state, first ≤ moment ∧ moment ≤ last ∧ history.stateAt moment = some state ∧ Good state

/-- From a moment to another, what is read of the states stayed the same. -/
def Unchanged {Value : Type v} (history : History State) (first last : ℕ)
    (read : State → Value) : Prop :=
  ∀ moment before state, first ≤ moment → moment ≤ last → history.stateAt first = some before →
    history.stateAt moment = some state → read state = read before

section Laws

variable {history : History State} {Good : State → Prop} {first last moment : ℕ}

theorem stateAt_now (history : History State) :
    history.stateAt history.now = some history.present := by
  rw [stateAt, now, List.getElem?_concat_length]

theorem exists_stateAt (hcome : moment ≤ history.now) :
    ∃ state, history.stateAt moment = some state := by
  have hlt : moment < (history.past ++ [history.present]).length := by
    rw [List.length_append, List.length_singleton]
    exact Nat.lt_succ_of_le hcome
  exact ⟨_, List.getElem?_eq_getElem hlt⟩

theorem stateAt_le {state : State} (h : history.stateAt moment = some state) :
    moment ≤ history.now := by
  obtain ⟨hlt, -⟩ := List.getElem?_eq_some_iff.mp h
  rw [List.length_append, List.length_singleton] at hlt
  exact Nat.le_of_lt_succ hlt

theorem now_next (history : History State) (state : State) :
    (history.next state).now = history.now + 1 := by
  rw [now, next, List.length_append, List.length_singleton, now]

/-- The moments that have come stay what they were. -/
theorem stateAt_next {state later : State} (h : history.stateAt moment = some state) :
    (history.next later).stateAt moment = some state := by
  obtain ⟨hlt, -⟩ := List.getElem?_eq_some_iff.mp h
  rw [stateAt, next, List.getElem?_append_left hlt]
  exact h

theorem Between.next (between : history.Between first last Good) (later : State) :
    (history.next later).Between first last Good := by
  obtain ⟨moment, state, hfirst, hlast, hstate, good⟩ := between
  exact ⟨moment, state, hfirst, hlast, stateAt_next hstate, good⟩

theorem Between.mono {later : ℕ} (between : history.Between first last Good)
    (hle : last ≤ later) : history.Between first later Good := by
  obtain ⟨moment, state, hfirst, hlast, hstate, good⟩ := between
  exact ⟨moment, state, hfirst, Nat.le_trans hlast hle, hstate, good⟩

/-- What was read at a moment is still what a later reader would have met, if it was read after the
reader came or has not changed until then. -/
theorem between_of_unchanged {Value : Type v} {read : State → Value} {queried started : ℕ}
    {state : State} (hqueried : history.stateAt queried = some state)
    (hstarted : started ≤ history.now) (unchanged : history.Unchanged queried started read) :
    history.Between started history.now fun other => read state = read other := by
  rcases Nat.le_total started queried with hle | hle
  · exact ⟨queried, state, hle, stateAt_le hqueried, hqueried, rfl⟩
  · obtain ⟨other, hother⟩ := exists_stateAt hstarted
    have hsame := unchanged started state other hle (Nat.le_refl _) hqueried hother
    exact ⟨started, other, Nat.le_refl _, hstarted, hother, hsame.symm⟩

end Laws

end History

end Kanzan.Support

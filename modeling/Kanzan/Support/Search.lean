import Mathlib.Data.List.Basic
import Mathlib.Logic.Relation

/-!
# Cycles of a relation, and breadth-first search in a list of edges

When a new pair closes a cycle and, where the relation is a pointer from each element to at most
one other, when redirecting a pointer does.  A finite relation is the list of its pairs.  The search
takes vertices from the front of a queue until it meets its goal, and expands each vertex once; it
finds the goal exactly when some vertex of the queue reaches it.
-/

namespace Kanzan.Support

universe u

variable {α : Type u}

open Relation

/-- No chain leads from an element back to itself. -/
def NoCycle (r : α → α → Prop) : Prop := ∀ a, ¬ TransGen r a a

section Insertion

variable {r more : α → α → Prop} {a b c d : α}

theorem NoCycle.mono (subset : ∀ x y, r x y → more x y) (noCycle : NoCycle more) : NoCycle r :=
  fun a cycle => noCycle a (TransGen.mono subset _ _ cycle)

/-- A chain with one more pair at hand runs without it, or up to it and on from it. -/
theorem reflTransGen_insert (subset : ∀ x y, more x y → r x y ∨ (x = a ∧ y = b))
    (chain : ReflTransGen more c d) :
    ReflTransGen r c d ∨ (ReflTransGen r c a ∧ ReflTransGen r b d) := by
  induction chain with
  | refl => exact .inl .refl
  | tail _ hstep ih =>
    rcases subset _ _ hstep with hold | ⟨rfl, rfl⟩
    · rcases ih with hreach | ⟨hto, hfrom⟩
      · exact .inl (hreach.tail hold)
      · exact .inr ⟨hto, hfrom.tail hold⟩
    · rcases ih with hreach | ⟨hto, -⟩
      · exact .inr ⟨hreach, .refl⟩
      · exact .inr ⟨hto, .refl⟩

/-- A new pair closes a cycle exactly when its second element already leads to its first. -/
theorem noCycle_insert (hnew : more a b) (hold : ∀ x y, r x y → more x y)
    (subset : ∀ x y, more x y → r x y ∨ (x = a ∧ y = b)) (noCycle : NoCycle r) :
    NoCycle more ↔ ¬ ReflTransGen r b a := by
  constructor
  · intro hmore hreach
    exact hmore a (TransGen.head' hnew (ReflTransGen.mono hold _ _ hreach))
  · intro hnot c cycle
    obtain ⟨d, hstep, hback⟩ := TransGen.head'_iff.mp cycle
    rcases subset _ _ hstep with hpair | ⟨rfl, rfl⟩
    · rcases reflTransGen_insert subset hback with hreach | ⟨hto, hfrom⟩
      · exact noCycle c (TransGen.head' hpair hreach)
      · exact hnot (hfrom.trans (ReflTransGen.head hpair hto))
    · rcases reflTransGen_insert subset hback with hreach | ⟨hto, -⟩
      · exact hnot hreach
      · exact hnot hto

end Insertion

/-! ## Pointers -/

/-- The relation of a pointer. -/
def Points (next : α → Option α) (a b : α) : Prop := next a = some b

section Pointers

variable [DecidableEq α] {next : α → Option α} {source target : α}

/-- Cutting a pointer leaves the others. -/
theorem points_cut {a b : α} (points : Points (Function.update next source none) a b) :
    Points next a b := by
  by_cases ha : a = source
  · rw [Points, ha, Function.update_self] at points
    cases points
  · rwa [Points, Function.update_of_ne ha] at points

/-- What leads to an element does so before it is left. -/
theorem reflTransGen_cut_iff :
    ReflTransGen (Points (Function.update next source none)) target source ↔
      ReflTransGen (Points next) target source := by
  constructor
  · intro chain
    exact ReflTransGen.mono (fun _ _ => points_cut) _ _ chain
  · intro chain
    induction chain using ReflTransGen.head_induction_on with
    | refl => exact .refl
    | @head x y hpoints _ ih =>
      by_cases hx : x = source
      · rw [hx]
      · refine .head ?_ ih
        rwa [Points, Function.update_of_ne hx]

/-- Redirecting a pointer closes a cycle exactly when its new target leads back to it. -/
theorem noCycle_update (noCycle : NoCycle (Points next)) :
    NoCycle (Points (Function.update next source (some target))) ↔
      ¬ ReflTransGen (Points next) target source := by
  rw [← reflTransGen_cut_iff]
  have hother : ∀ (new : Option α) {x : α} (y : α), x ≠ source →
      (Points (Function.update next source new) x y ↔ Points next x y) := by
    intro new x y hx
    rw [Points, Function.update_of_ne hx, Points]
  apply noCycle_insert
  · rw [Points, Function.update_self]
  · intro x y hpoints
    have hx : x ≠ source := by
      rintro rfl
      rw [Points, Function.update_self] at hpoints
      cases hpoints
    exact (hother _ y hx).mpr (points_cut hpoints)
  · intro x y hpoints
    by_cases hx : x = source
    · rw [Points, hx, Function.update_self, Option.some.injEq] at hpoints
      exact .inr ⟨hx, hpoints.symm⟩
    · exact .inl ((hother _ y hx).mpr ((hother _ y hx).mp hpoints))
  · exact noCycle.mono fun _ _ => points_cut

end Pointers

/-! ## Lists of edges -/

/-- The relation of a list of edges. -/
def Edge (edges : List (α × α)) (a b : α) : Prop := (a, b) ∈ edges

/-- There is a chain of edges, possibly empty. -/
def Reaches (edges : List (α × α)) : α → α → Prop := Relation.ReflTransGen (Edge edges)

/-- No chain of edges leads from a vertex back to itself. -/
def Acyclic (edges : List (α × α)) : Prop := ∀ a, ¬ Relation.TransGen (Edge edges) a a

section Relations

variable {edges more : List (α × α)} {a b c d : α}

theorem Acyclic.mono (subset : edges ⊆ more) (acyclic : Acyclic more) : Acyclic edges :=
  fun a cycle => acyclic a (Relation.TransGen.mono (fun _ _ hmem => subset hmem) _ _ cycle)

/-- A new edge closes a cycle exactly when its head already reaches its tail. -/
theorem acyclic_insert (hnew : (a, b) ∈ more) (hold : edges ⊆ more)
    (subset : ∀ edge ∈ more, edge ∈ edges ∨ edge = (a, b)) (acyclic : Acyclic edges) :
    Acyclic more ↔ ¬ Reaches edges b a := by
  refine noCycle_insert hnew (fun _ _ hmem => hold hmem) ?_ acyclic
  intro x y hmem
  rcases subset _ hmem with hedge | hedge
  · exact .inl hedge
  · exact .inr (Prod.mk.inj hedge)

end Relations

section Search

variable [DecidableEq α]

/-- The heads of the edges that leave a vertex. -/
def successors (edges : List (α × α)) (vertex : α) : List α :=
  (edges.filter fun edge => edge.1 = vertex).map Prod.snd

/-- Breadth-first search for a goal; there is no answer when the fuel runs out. -/
def search (edges : List (α × α)) (goal : α) : ℕ → List α → List α → Option Bool
  | _, _, [] => some false
  | 0, _, _ :: _ => none
  | fuel + 1, visited, current :: queue =>
    if current = goal then some true
    else if current ∈ visited then search edges goal fuel visited queue
    else search edges goal fuel (current :: visited) (queue ++ successors edges current)

variable {edges : List (α × α)} {goal : α} {fuel : ℕ} {visited queue : List α}

theorem mem_successors {vertex next : α} :
    next ∈ successors edges vertex ↔ Edge edges vertex next := by
  simp [successors, Edge]

/-- The edges that leave a vertex outside a list. -/
def unexpanded (edges : List (α × α)) (visited : List α) : List (α × α) :=
  edges.filter fun edge => edge.1 ∉ visited

/-- Expanding a vertex takes its edges away from the unexpanded ones. -/
theorem unexpanded_cons {current : α} (hnew : current ∉ visited) :
    (successors edges current).length + (unexpanded edges (current :: visited)).length =
      (unexpanded edges visited).length := by
  induction edges with
  | nil => rfl
  | cons edge rest ih =>
    simp only [successors, unexpanded, List.length_map, List.mem_cons] at ih ⊢
    by_cases hleaves : edge.1 = current
    · have hkept : edge.1 ∉ visited := hleaves ▸ hnew
      simp only [List.filter_cons, hleaves, decide_true, if_true, List.length_cons, true_or,
        not_true_eq_false, decide_false, Bool.false_eq_true, if_false, hnew,
        not_false_eq_true]
      omega
    · by_cases hvisited : edge.1 ∈ visited
      · simpa [List.filter_cons, hleaves, hvisited] using ih
      · simp only [List.filter_cons, hleaves, hvisited, decide_false, Bool.false_eq_true,
          if_false, or_self, not_false_eq_true, decide_true, if_true,
          List.length_cons]
        omega

/-- Each edge puts one vertex into the queue at most, so this much fuel is enough. -/
theorem search_total (hfuel : queue.length + (unexpanded edges visited).length ≤ fuel) :
    (search edges goal fuel visited queue).isSome := by
  induction fuel generalizing visited queue with
  | zero =>
    cases queue with
    | nil => rfl
    | cons current rest => simp at hfuel
  | succ fuel ih =>
    cases queue with
    | nil => rfl
    | cons current rest =>
      simp only [search]
      rw [List.length_cons] at hfuel
      split
      · rfl
      split
      · exact ih (by omega)
      · rename_i hnew
        have hspent : (successors edges current).length +
            (unexpanded edges (current :: visited)).length =
              (unexpanded edges visited).length := unexpanded_cons hnew
        refine ih ?_
        rw [List.length_append]
        omega

/-- What the search finds is reached from the queue. -/
theorem search_sound (found : search edges goal fuel visited queue = some true) :
    ∃ vertex ∈ queue, Reaches edges vertex goal := by
  induction fuel generalizing visited queue with
  | zero =>
    cases queue with
    | nil => cases found
    | cons current rest => cases found
  | succ fuel ih =>
    cases queue with
    | nil => cases found
    | cons current rest =>
      simp only [search] at found
      split at found
      · rename_i hgoal
        exact ⟨current, List.mem_cons_self, hgoal ▸ .refl⟩
      split at found
      · obtain ⟨vertex, hmem, hreach⟩ := ih found
        exact ⟨vertex, List.mem_cons_of_mem current hmem, hreach⟩
      · obtain ⟨vertex, hmem, hreach⟩ := ih found
        rcases List.mem_append.mp hmem with hrest | hnext
        · exact ⟨vertex, List.mem_cons_of_mem current hrest, hreach⟩
        · exact ⟨current, List.mem_cons_self, .head (mem_successors.mp hnext) hreach⟩

/-- Every expanded vertex has its successors expanded or in the queue, and is not the goal. -/
structure Expanded (edges : List (α × α)) (goal : α) (visited queue : List α) : Prop where
  closed : ∀ vertex ∈ visited, ∀ next, Edge edges vertex next → next ∈ visited ∨ next ∈ queue
  goal : goal ∉ visited

/-- A search that finds nothing has been everywhere. -/
theorem search_complete (expanded : Expanded edges goal visited queue)
    (missed : search edges goal fuel visited queue = some false) :
    ∃ reached, visited ⊆ reached ∧ queue ⊆ reached ∧ Expanded edges goal reached [] := by
  induction fuel generalizing visited queue with
  | zero =>
    cases queue with
    | nil => exact ⟨visited, List.Subset.refl _, List.nil_subset _, expanded⟩
    | cons current rest => cases missed
  | succ fuel ih =>
    cases queue with
    | nil => exact ⟨visited, List.Subset.refl _, List.nil_subset _, expanded⟩
    | cons current rest =>
      simp only [search] at missed
      split at missed
      · cases missed
      rename_i hgoal
      split at missed
      · rename_i hvisited
        have hstill : Expanded edges goal visited rest := by
          refine ⟨fun vertex hvertex next hedge => ?_, expanded.goal⟩
          rcases expanded.closed vertex hvertex next hedge with hnext | hnext
          · exact .inl hnext
          · rcases List.mem_cons.mp hnext with rfl | hrest
            · exact .inl hvisited
            · exact .inr hrest
        obtain ⟨reached, hvis, hqueue, hdone⟩ := ih hstill missed
        exact ⟨reached, hvis, List.cons_subset.mpr ⟨hvis hvisited, hqueue⟩, hdone⟩
      · have hstill : Expanded edges goal (current :: visited)
            (rest ++ successors edges current) := by
          refine ⟨fun vertex hvertex next hedge => ?_, ?_⟩
          · rcases List.mem_cons.mp hvertex with rfl | hold
            · exact .inr (List.mem_append_right _ (mem_successors.mpr hedge))
            · rcases expanded.closed vertex hold next hedge with hnext | hnext
              · exact .inl (List.mem_cons_of_mem _ hnext)
              · rcases List.mem_cons.mp hnext with rfl | hrest
                · exact .inl List.mem_cons_self
                · exact .inr (List.mem_append_left _ hrest)
          · rw [List.mem_cons, not_or]
            exact ⟨fun heq => hgoal heq.symm, expanded.goal⟩
        obtain ⟨reached, hvis, hqueue, hdone⟩ := ih hstill missed
        obtain ⟨hcurrent, hvis⟩ := List.cons_subset.mp hvis
        exact ⟨reached, hvis, List.cons_subset.mpr
          ⟨hcurrent, List.Subset.trans (List.subset_append_left _ _) hqueue⟩, hdone⟩

/-- The search from one vertex, with the fuel that it needs. -/
def searchFrom (edges : List (α × α)) (start goal : α) : Bool :=
  search edges goal (edges.length + 1) [] [start] == some true

/-- The search decides whether there is a chain. -/
theorem searchFrom_iff {start : α} :
    searchFrom edges start goal = true ↔ Reaches edges start goal := by
  unfold searchFrom
  constructor
  · intro found
    obtain ⟨vertex, hmem, hreach⟩ := search_sound (eq_of_beq found)
    rw [List.mem_singleton.mp hmem] at hreach
    exact hreach
  · intro hreach
    have hsome : (search edges goal (edges.length + 1) [] [start]).isSome := by
      refine search_total ?_
      have hbound : (unexpanded edges []).length ≤ edges.length := List.length_filter_le ..
      rw [List.length_singleton]
      omega
    obtain ⟨answer, hanswer⟩ := Option.isSome_iff_exists.mp hsome
    cases answer with
    | true => rw [hanswer, beq_self_eq_true]
    | false =>
      have hstart : Expanded edges goal [] [start] :=
        ⟨fun _ hmem => absurd hmem List.not_mem_nil, List.not_mem_nil⟩
      obtain ⟨reached, -, hqueue, hdone⟩ := search_complete hstart hanswer
      have hall : ∀ vertex, Reaches edges start vertex → vertex ∈ reached := by
        intro vertex hvertex
        induction hvertex with
        | refl => exact hqueue List.mem_cons_self
        | tail _ hstep ih => simpa using hdone.closed _ ih _ hstep
      exact absurd (hall goal hreach) hdone.goal

instance Reaches.decidable (edges : List (α × α)) (start goal : α) :
    Decidable (Reaches edges start goal) :=
  decidable_of_iff _ searchFrom_iff

end Search

end Kanzan.Support

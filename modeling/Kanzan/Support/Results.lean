import Mathlib.Tactic.Basic

/-!
# Fallible steps

Inversion of `Except` computations that succeed, so that a chain of steps comes apart
without unfolding it.
-/

namespace Kanzan.Support

universe u v w

variable {ε : Type u} {α : Type v} {β : Type w}

theorem map_eq_ok {f : α → β} {x : Except ε α} {b : β} :
    x.map f = .ok b ↔ ∃ a, x = .ok a ∧ f a = b := by
  cases x with
  | error e => simp [Except.map]
  | ok a => simp [Except.map]

theorem bind_eq_ok {x : Except ε α} {f : α → Except ε β} {b : β} :
    x.bind f = .ok b ↔ ∃ a, x = .ok a ∧ f a = .ok b := by
  cases x with
  | error e => simp [Except.bind]
  | ok a => simp [Except.bind]

@[simp]
theorem isOk_map (f : α → β) (x : Except ε α) : (x.map f).isOk = x.isOk := by
  cases x with
  | error e => rfl
  | ok a => rfl

theorem isOk_iff {x : Except ε α} : x.isOk = true ↔ ∃ a, x = .ok a := by
  cases x with
  | error e => simp [Except.isOk, Except.toBool]
  | ok a => simp [Except.isOk, Except.toBool]

/-- A fold of fallible steps that succeeds preserves what each step preserves. -/
theorem foldlM_preserves {σ : Type v} {P : σ → Prop} {f : σ → α → Except ε σ}
    (hstep : ∀ s a s', P s → f s a = .ok s' → P s') {actions : List α} {s s' : σ} (holds : P s)
    (success : actions.foldlM f s = .ok s') : P s' := by
  induction actions generalizing s with
  | nil =>
    rw [List.foldlM_nil] at success
    rwa [← Except.ok.inj success]
  | cons action rest ih =>
    rw [List.foldlM_cons] at success
    obtain ⟨next, hnext, hrest⟩ := bind_eq_ok.mp success
    exact ih (hstep s action next holds hnext) hrest

/-- Steps that all succeed. -/
theorem mapM_eq_ok {f : α → Except ε β} {g : α → β} (h : ∀ a, f a = .ok (g a)) (items : List α) :
    items.mapM f = .ok (items.map g) := by
  induction items with
  | nil => rfl
  | cons item rest ih =>
    rw [List.mapM_cons, h, ih]
    rfl

end Kanzan.Support

import Mathlib.Tactic.Basic

/-!
# Handlers that raise

A handler works on a store and returns or raises.  What it has changed by the time it raises
stays changed, unless a transaction around it takes it back.
-/

namespace Kanzan.Support

/-- Work on a store that may raise. -/
abbrev Handler (Store : Type) := ExceptT String (StateM Store)

namespace Handler

variable {Store Result Final Value : Type}

/-- What a handler returns or raises, and the store that it leaves. -/
def exec (handler : Handler Store Result) (store : Store) : Except String Result × Store :=
  Id.run (StateT.run (ExceptT.run handler) store)

/-- A transaction: an error takes back what has been changed. -/
def atomic (handler : Handler Store Result) : Handler Store Result :=
  ExceptT.mk fun store =>
    match handler.exec store with
    | (.ok result, after) => (.ok result, after)
    | (.error message, _) => (.error message, store)

/-- A fault of what the handler relies on. -/
def breakOff : Option String → Handler Store Unit
  | none => pure ()
  | some message => throw message

/-- Go through with an edit, if there is one. -/
def whenGiven (edit : Value → Result → Handler Store Result) (value : Option Value)
    (result : Result) : Handler Store Result :=
  match value with
  | none => pure result
  | some value => edit value result

/-! ## Runs -/

section Runs

variable (handler : Handler Store Result) (rest : Result → Handler Store Final) (store : Store)

@[simp]
theorem exec_pure (result : Result) :
    (pure result : Handler Store Result).exec store = (.ok result, store) := rfl

@[simp]
theorem exec_throw (message : String) :
    (throw message : Handler Store Result).exec store = (.error message, store) := rfl

@[simp]
theorem exec_get : (get : Handler Store Store).exec store = (.ok store, store) := rfl

@[simp]
theorem exec_ofExcept (result : Except String Result) :
    (ofExcept result : Handler Store Result).exec store = (result, store) := by
  cases result with
  | ok value => rfl
  | error message => rfl

/-- An error of the first half is the error of the whole. -/
theorem exec_bind :
    (handler >>= rest).exec store =
      match handler.exec store with
      | (.ok result, after) => (rest result).exec after
      | (.error message, after) => (.error message, after) := by
  unfold exec
  rw [ExceptT.run_bind, StateT.run_bind]
  cases hrun : Id.run (StateT.run (ExceptT.run handler) store) with
  | mk outcome after =>
    cases outcome with
    | ok result => simp [hrun]
    | error message => simp [hrun]

theorem exec_bind_of_error {message : String} {after : Store}
    (raises : handler.exec store = (.error message, after)) :
    (handler >>= rest).exec store = (.error message, after) := by
  rw [exec_bind, raises]

theorem exec_atomic :
    (atomic handler).exec store =
      match handler.exec store with
      | (.ok result, after) => (.ok result, after)
      | (.error message, _) => (.error message, store) := rfl

end Runs

/-! ## What a handler keeps -/

/--
An assertion about the store stays true whether the handler returns or raises, and what it returns
is as told.
-/
def Keeps (Holds : Store → Prop) (Returns : Result → Prop) (handler : Handler Store Result) :
    Prop :=
  ∀ store, Holds store →
    Holds (handler.exec store).2 ∧ ∀ result, (handler.exec store).1 = .ok result → Returns result

section Keeps

variable {Holds : Store → Prop} {Returns : Result → Prop} {Ends : Final → Prop}
variable {handler : Handler Store Result} {rest : Result → Handler Store Final}

theorem keeps_pure {result : Result} (returns : Returns result) :
    Keeps Holds Returns (pure result : Handler Store Result) := by
  intro store holds
  refine ⟨holds, fun other hother => ?_⟩
  rwa [← Except.ok.inj hother]

theorem keeps_throw (message : String) :
    Keeps Holds Returns (throw message : Handler Store Result) := by
  intro store holds
  refine ⟨holds, fun _ hother => ?_⟩
  cases hother

theorem keeps_breakOff (fault : Option String) :
    Keeps Holds (fun _ => True) (breakOff fault : Handler Store Unit) := by
  cases fault with
  | none => exact keeps_pure trivial
  | some message => exact keeps_throw message

theorem keeps_modify {change : Store → Store}
    (hchange : ∀ store, Holds store → Holds (change store)) :
    Keeps Holds (fun _ => True) (modify change : Handler Store Unit) :=
  fun store holds => ⟨hchange store holds, fun _ _ => trivial⟩

theorem Keeps.bind (keeps : Keeps Holds Returns handler)
    (hrest : ∀ result, Returns result → Keeps Holds Ends (rest result)) :
    Keeps Holds Ends (handler >>= rest) := by
  intro store holds
  obtain ⟨hafter, hreturns⟩ := keeps store holds
  rw [exec_bind]
  cases hexec : handler.exec store with
  | mk outcome after =>
    rw [hexec] at hafter hreturns
    cases outcome with
    | ok result => exact hrest result (hreturns result rfl) after hafter
    | error message =>
      refine ⟨hafter, fun _ hother => ?_⟩
      cases hother

/-- A transaction that raises is as if it had not begun. -/
theorem Keeps.atomic (keeps : Keeps Holds Returns handler) :
    Keeps Holds Returns (atomic handler) := by
  intro store holds
  obtain ⟨hafter, hreturns⟩ := keeps store holds
  rw [exec_atomic]
  cases hexec : handler.exec store with
  | mk outcome after =>
    rw [hexec] at hafter hreturns
    cases outcome with
    | ok result => exact ⟨hafter, hreturns⟩
    | error message =>
      refine ⟨holds, fun _ hother => ?_⟩
      cases hother

theorem keeps_whenGiven {edit : Value → Result → Handler Store Result} (value : Option Value)
    {result : Result} (returns : Returns result)
    (keeps : ∀ value result, Returns result → Keeps Holds Returns (edit value result)) :
    Keeps Holds Returns (whenGiven edit value result) := by
  cases value with
  | none => exact keeps_pure returns
  | some value => exact keeps value result returns

end Keeps

end Handler

end Kanzan.Support

import Kanzan.Support.Runs

/-!
# Processes over a shared state

Any number of processes take turns; a turn reads and writes the shared state and the local
state of one process.  A property of all reachable states is an invariant of the shared
state together with an assertion about each process, which its own turns keep and the
turns of the others do not invalidate.
-/

namespace Kanzan.Support

universe u v w

variable {Shared : Type u} {Local : Type v} {Action : Type w}

/-- The shared state, and the local state of every process. -/
structure World (Shared : Type u) (Local : Type v) where
  shared : Shared
  locals : ℕ → Local

namespace World

/-- The turn of one process. -/
def turn (act : ℕ → Shared → Local → Action → Shared × Local) (world : World Shared Local)
    (event : ℕ × Action) : World Shared Local :=
  let after := act event.1 world.shared (world.locals event.1) event.2
  { shared := after.1, locals := Function.update world.locals event.1 after.2 }

/-- An invariant of the shared state, and an assertion about every process. -/
structure Keeps (I : Shared → Prop) (L : ℕ → Shared → Local → Prop)
    (world : World Shared Local) : Prop where
  shared : I world.shared
  locals : ∀ process, L process world.shared (world.locals process)

/--
The turns of a system keep an invariant and assertions when each turn keeps the invariant
and its own assertion, and leaves valid the assertion of any other process.
-/
structure Sound (act : ℕ → Shared → Local → Action → Shared × Local)
    (Admits : World Shared Local → ℕ × Action → Prop) (I : Shared → Prop)
    (L : ℕ → Shared → Local → Prop) : Prop where
  own : ∀ world process action, Keeps I L world → Admits world (process, action) →
    I (act process world.shared (world.locals process) action).1 ∧
      L process (act process world.shared (world.locals process) action).1
        (act process world.shared (world.locals process) action).2
  others : ∀ world process action other, Keeps I L world → Admits world (process, action) →
    other ≠ process →
      L other (act process world.shared (world.locals process) action).1 (world.locals other)

section Laws

variable {act : ℕ → Shared → Local → Action → Shared × Local}
variable {Admits : World Shared Local → ℕ × Action → Prop}
variable {I : Shared → Prop} {L : ℕ → Shared → Local → Prop}

@[simp]
theorem turn_shared (world : World Shared Local) (process : ℕ) (action : Action) :
    (world.turn act (process, action)).shared =
      (act process world.shared (world.locals process) action).1 := rfl

@[simp]
theorem turn_locals_self (world : World Shared Local) (process : ℕ) (action : Action) :
    (world.turn act (process, action)).locals process =
      (act process world.shared (world.locals process) action).2 :=
  Function.update_self ..

theorem turn_locals_of_ne (world : World Shared Local) {process other : ℕ} (action : Action)
    (hother : other ≠ process) :
    (world.turn act (process, action)).locals other = world.locals other :=
  Function.update_of_ne hother ..

/-- A turn of a sound system keeps the invariant and all assertions. -/
theorem Sound.turn (sound : Sound act Admits I L) {world : World Shared Local}
    {event : ℕ × Action} (keeps : Keeps I L world) (admitted : Admits world event) :
    Keeps I L (world.turn act event) := by
  obtain ⟨process, action⟩ := event
  obtain ⟨hshared, hlocal⟩ := sound.own world process action keeps admitted
  refine ⟨hshared, fun other => ?_⟩
  by_cases hother : other = process
  · subst hother
    rw [turn_locals_self]
    exact hlocal
  · rw [turn_locals_of_ne world action hother]
    exact sound.others world process action other keeps admitted hother

/-- So does every schedule of admitted turns. -/
theorem Sound.run (sound : Sound act Admits I L) {world : World Shared Local}
    (keeps : Keeps I L world) (events : List (ℕ × Action))
    (admitted : Every (World.turn act) Admits world events) :
    Keeps I L (run (World.turn act) world events) :=
  run_invariant (Keeps I L) (fun _ _ => sound.turn) keeps events admitted

end Laws

end World

/-!
## Exclusive locks

A lock has at most one holder, who keeps it until he gives it back himself.
-/

/-- Who holds which lock. -/
abbrev Locks (Key : Type u) : Type u := Key → Option ℕ

namespace Locks

variable {Key : Type u}

/-- Nobody else holds the lock. -/
def free (locks : Locks Key) (process : ℕ) (key : Key) : Bool :=
  locks key == none || locks key == some process

/-- The process gives back its locks, apart from the ones that it keeps. -/
def keep (locks : Locks Key) (process : ℕ) (kept : Key → Bool) : Locks Key :=
  fun key => if locks key = some process ∧ kept key = false then none else locks key

/-- A process has left the locks of all others alone. -/
def Respects (process : ℕ) (locks locks' : Locks Key) : Prop :=
  ∀ key holder, holder ≠ process → locks key = some holder → locks' key = some holder

section Laws

variable {locks locks' : Locks Key} {process holder : ℕ} {key : Key} {kept : Key → Bool}

theorem Respects.refl (process : ℕ) (locks : Locks Key) : Respects process locks locks :=
  fun _ _ _ held => held

theorem not_free_of_held (hother : holder ≠ process) (held : locks key = some holder) :
    locks.free process key = false := by
  simp [free, held, hother]

theorem keep_of_kept (hkept : kept key = true) : locks.keep process kept key = locks key := by
  simp [keep, hkept]

theorem keep_respects : Respects process locks (locks.keep process kept) := by
  intro key holder hother held
  simp [keep, held, hother]

variable [DecidableEq Key]

/-- The process holds the lock from now on. -/
def take (locks : Locks Key) (process : ℕ) (key : Key) : Locks Key :=
  Function.update locks key (some process)

@[simp]
theorem take_self : locks.take process key key = some process := Function.update_self ..

theorem take_of_held {other : Key} (held : locks other = some process) :
    locks.take process key other = some process := by
  by_cases hother : other = key
  · subst hother
    exact take_self
  · rw [take, Function.update_of_ne hother, held]

theorem take_respects (hfree : locks.free process key = true) :
    Respects process locks (locks.take process key) := by
  intro other holder hother held
  have hne : other ≠ key := by
    rintro rfl
    rw [not_free_of_held hother held] at hfree
    cases hfree
  rw [take, Function.update_of_ne hne, held]

end Laws

end Locks

end Kanzan.Support

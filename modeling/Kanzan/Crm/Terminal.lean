import Kanzan.Crm.Reminders

/-!
# Closed reminders

The actions on reminders that complete, cancel and reschedule, as turns over the table: an action on
one reminder saves its own columns after a look at a row that it has read earlier, and a bulk action
is one conditional update.
-/

namespace Kanzan.Crm

open Support

/-- A request that completes, cancels, reschedules or reassigns. -/
inductive Operation where
  | get (pk : ℕ)
  | complete (now : ℕ)
  | cancel (now : ℕ)
  | reschedule (newScheduledAt : ℕ)
  | bulkAction (ids : List ℕ) (action : BulkAction)

def Operation.toAction : Operation → Action
  | .get pk => .get pk
  | .complete now => .complete now
  | .cancel now => .cancel now
  | .reschedule newScheduledAt => .reschedule newScheduledAt
  | .bulkAction ids action => .bulkAction ids action

def operate (tenantOf : ℕ → ℕ) (process : ℕ) (desk : Desk) (worker : Worker)
    (operation : Operation) : Desk × Worker :=
  act tenantOf process desk worker operation.toAction

/-! ## The property and the condition -/

/-- Not both completed and cancelled. -/
def Reminder.Exclusive (row : Reminder) : Prop := row.completedAt = none ∨ row.cancelledAt = none

/-- No reminder is both completed and cancelled. -/
def Exclusive (desk : Desk) : Prop := ∀ pk, ∀ row ∈ desk.rows pk, row.Exclusive

/-- A closed row is as it was. -/
structure Reminder.Settled (before after : Reminder) : Prop where
  completedAt : after.completedAt = before.completedAt
  cancelledAt : after.cancelledAt = before.cancelledAt
  scheduledAt : after.scheduledAt = before.scheduledAt

/-- A turn leaves closed reminders as they are. -/
def Stable (tenantOf : ℕ → ℕ) (world : World Desk Worker) (event : ℕ × Operation) : Prop :=
  ∀ pk, ∀ row ∈ world.shared.rows pk, row.isOpen = false →
    ∃ after ∈ (world.turn (operate tenantOf) event).shared.rows pk, row.Settled after

/--
A row that an action writes is still open, or has what is written already.  The first argument is
where the request stands.
-/
def Harmless (desk : Desk) : Worker → Operation → Prop
  | .editing pk loaded, .complete now => loaded.isOpen = true →
      ∀ row ∈ desk.rows pk, row.isOpen = true ∨ row.completedAt = some now
  | .editing pk loaded, .cancel now => loaded.isOpen = true →
      ∀ row ∈ desk.rows pk, row.isOpen = true ∨ row.cancelledAt = some now
  | .editing pk loaded, .reschedule newScheduledAt => loaded.completedAt = none →
      ∀ row ∈ desk.rows pk, row.isOpen = true ∨ row.scheduledAt = newScheduledAt
  | .ready, .bulkAction ids (.reschedule newTime) =>
    (desk.pks.filter (· ∈ ids)).length = ids.length →
      ∀ pk ∈ ids, ∀ row ∈ desk.rows pk, row.completedAt = none →
        row.cancelledAt = none ∨ row.scheduledAt = newTime
  | _, _ => True

def Heeds (world : World Desk Worker) (event : ℕ × Operation) : Prop :=
  Harmless world.shared (world.locals event.1) event.2

section Laws

variable {tenantOf : ℕ → ℕ} {desk : Desk} {row : Reminder}

theorem Reminder.isOpen_iff :
    row.isOpen = true ↔ row.completedAt = none ∧ row.cancelledAt = none := by
  rw [Reminder.isOpen, Bool.and_eq_true, Option.isNone_iff_eq_none, Option.isNone_iff_eq_none]

theorem Reminder.settled_refl : row.Settled row := ⟨rfl, rfl, rfl⟩

def Keeps (update : Reminder → Reminder) (row : Reminder) : Prop :=
  (update row).Exclusive ∧ (row.isOpen = false → row.Settled (update row))

theorem keeps_update {update : ℕ → Reminder → Reminder} :
    (∀ pk, ∀ row ∈ desk.rows pk, Keeps (update pk) row) ↔
      Exclusive (desk.update update) ∧ ∀ pk, ∀ row ∈ desk.rows pk, row.isOpen = false →
        ∃ after ∈ (desk.update update).rows pk, row.Settled after := by
  constructor
  · intro keeps
    refine ⟨?_, ?_⟩
    · intro pk after hafter
      obtain ⟨row, hrow, rfl⟩ := Option.map_eq_some_iff.mp hafter
      exact (keeps pk row hrow).1
    · intro pk row hrow hclosed
      exact ⟨update pk row, Option.map_eq_some_iff.mpr ⟨row, hrow, rfl⟩,
        (keeps pk row hrow).2 hclosed⟩
  · rintro ⟨exclusive, stable⟩ pk row hrow
    have hupdated : update pk row ∈ (desk.update update).rows pk :=
      Option.map_eq_some_iff.mpr ⟨row, hrow, rfl⟩
    refine ⟨exclusive pk _ hupdated, fun hclosed => ?_⟩
    obtain ⟨after, hafter, settled⟩ := stable pk row hrow hclosed
    rwa [Option.mem_unique hupdated hafter]

theorem keeps_modify (exclusive : Exclusive desk) {pk : ℕ} {write : Reminder → Reminder} :
    (∀ row ∈ desk.rows pk, Keeps write row) ↔
      Exclusive (desk.modify pk write) ∧ ∀ other, ∀ row ∈ desk.rows other, row.isOpen = false →
        ∃ after ∈ (desk.modify pk write).rows other, row.Settled after := by
  rw [Desk.modify, ← keeps_update]
  constructor
  · intro keeps other row hrow
    by_cases heq : other = pk
    · subst heq
      simpa [Keeps] using keeps row hrow
    · simpa [Keeps, heq] using
        And.intro (exclusive other row hrow) fun _ : row.isOpen = false => row.settled_refl
  · intro keeps row hrow
    simpa [Keeps] using keeps pk row hrow

/-! ## One row -/

theorem keeps_complete (exclusive : row.Exclusive) (now : ℕ) :
    Keeps (fun row => { row with completedAt := some now }) row ↔
      row.isOpen = true ∨ row.completedAt = some now := by
  constructor
  · intro keeps
    cases hopen : row.isOpen with
    | true => exact .inl rfl
    | false => exact .inr (keeps.2 hopen).completedAt.symm
  · rintro (hopen | hsame)
    · obtain ⟨-, hcancelled⟩ := Reminder.isOpen_iff.mp hopen
      refine ⟨.inr hcancelled, fun hclosed => ?_⟩
      rw [hopen] at hclosed
      cases hclosed
    · have hcancelled : row.cancelledAt = none := by
        refine exclusive.resolve_left fun hnone => ?_
        cases hnone.symm.trans hsame
      exact ⟨.inr hcancelled, fun _ => ⟨hsame.symm, rfl, rfl⟩⟩

theorem keeps_cancel (exclusive : row.Exclusive) (now : ℕ) :
    Keeps (fun row => { row with cancelledAt := some now }) row ↔
      row.isOpen = true ∨ row.cancelledAt = some now := by
  constructor
  · intro keeps
    cases hopen : row.isOpen with
    | true => exact .inl rfl
    | false => exact .inr (keeps.2 hopen).cancelledAt.symm
  · rintro (hopen | hsame)
    · obtain ⟨hcompleted, -⟩ := Reminder.isOpen_iff.mp hopen
      refine ⟨.inl hcompleted, fun hclosed => ?_⟩
      rw [hopen] at hclosed
      cases hclosed
    · have hcompleted : row.completedAt = none := by
        refine exclusive.resolve_right fun hnone => ?_
        cases hnone.symm.trans hsame
      exact ⟨.inl hcompleted, fun _ => ⟨rfl, hsame.symm, rfl⟩⟩

theorem keeps_reschedule (exclusive : row.Exclusive) (newScheduledAt : ℕ) :
    Keeps (fun row => { row with scheduledAt := newScheduledAt }) row ↔
      row.isOpen = true ∨ row.scheduledAt = newScheduledAt := by
  constructor
  · intro keeps
    cases hopen : row.isOpen with
    | true => exact .inl rfl
    | false => exact .inr (keeps.2 hopen).scheduledAt.symm
  · rintro (hopen | hsame)
    · refine ⟨exclusive, fun hclosed => ?_⟩
      rw [hopen] at hclosed
      cases hclosed
    · exact ⟨exclusive, fun _ => ⟨rfl, rfl, hsame.symm⟩⟩

theorem keeps_bulkAction (exclusive : row.Exclusive) (action : BulkAction) :
    Keeps action.apply row ↔ ∀ newTime, action = .reschedule newTime → row.completedAt = none →
      row.cancelledAt = none ∨ row.scheduledAt = newTime := by
  cases action with
  | complete now =>
    refine iff_of_true ?_ fun _ heq => by cases heq
    cases hopen : row.isOpen with
    | true => simpa [Keeps, BulkAction.apply, hopen] using
        ((keeps_complete exclusive now).mpr (.inl hopen)).1
    | false => simpa [Keeps, BulkAction.apply, hopen] using And.intro exclusive row.settled_refl
  | cancel now =>
    refine iff_of_true ?_ fun _ heq => by cases heq
    cases hopen : row.isOpen with
    | true => simpa [Keeps, BulkAction.apply, hopen] using
        ((keeps_cancel exclusive now).mpr (.inl hopen)).1
    | false => simpa [Keeps, BulkAction.apply, hopen] using And.intro exclusive row.settled_refl
  | reschedule newTime =>
    cases hcompleted : row.completedAt with
    | some time =>
      refine iff_of_true ?_ fun _ _ hnone => by cases hnone
      simpa [Keeps, BulkAction.apply, hcompleted] using
        And.intro exclusive fun _ : row.isOpen = false => row.settled_refl
    | none =>
      have hopen : row.isOpen = true ↔ row.cancelledAt = none := by
        rw [Reminder.isOpen_iff, and_iff_right hcompleted]
      have hkeeps := keeps_reschedule exclusive newTime
      rw [hopen] at hkeeps
      rw [show Keeps (BulkAction.reschedule newTime).apply row ↔
        Keeps (fun row => { row with scheduledAt := newTime }) row by
          simp [Keeps, BulkAction.apply, hcompleted], hkeeps]
      constructor
      · rintro hharmless shown heq -
        cases heq
        exact hharmless
      · intro hharmless
        exact hharmless newTime rfl rfl
  | reassign user =>
    exact iff_of_true ⟨exclusive, fun _ => ⟨rfl, rfl, rfl⟩⟩ fun _ heq => by cases heq

/-! ## Turns -/

theorem harmless_bulkAction {ids : List ℕ} {action : BulkAction} :
    Harmless desk .ready (.bulkAction ids action) ↔
      ((desk.pks.filter (· ∈ ids)).length = ids.length →
        ∀ pk ∈ ids, ∀ row ∈ desk.rows pk, ∀ newTime, action = .reschedule newTime →
          row.completedAt = none → row.cancelledAt = none ∨ row.scheduledAt = newTime) := by
  cases action with
  | reschedule newTime =>
    rw [Harmless]
    constructor
    · rintro hharmless hfound pk hids row hrow shown heq
      cases heq
      exact hharmless hfound pk hids row hrow
    · intro hharmless hfound pk hids row hrow
      exact hharmless hfound pk hids row hrow newTime rfl
  | _ => exact iff_of_true trivial fun _ _ _ _ _ _ heq => by cases heq

theorem keeps_operate_iff {process : ℕ} {worker : Worker} {operation : Operation}
    (exclusive : Exclusive desk) :
    (Exclusive (operate tenantOf process desk worker operation).1 ∧
        ∀ pk, ∀ row ∈ desk.rows pk, row.isOpen = false →
          ∃ after ∈ (operate tenantOf process desk worker operation).1.rows pk, row.Settled after) ↔
      Harmless desk worker operation := by
  have hrests : (Exclusive desk ∧ ∀ pk, ∀ row ∈ desk.rows pk, row.isOpen = false →
      ∃ after ∈ desk.rows pk, row.Settled after) ↔ True :=
    iff_of_true ⟨exclusive, fun pk row hrow _ => ⟨row, hrow, row.settled_refl⟩⟩ trivial
  cases operation with
  | get pk =>
    cases worker with
    | ready =>
      rw [operate, Operation.toAction, act]
      split
      · exact hrests
      · exact hrests
    | _ => exact hrests
  | complete now =>
    cases worker with
    | editing pk loaded =>
      rw [operate, Operation.toAction, act, Harmless]
      cases hloaded : loaded.isOpen with
      | true =>
        rw [if_pos rfl, ← keeps_modify exclusive]
        simp only [true_imp_iff]
        exact forall₂_congr fun row hrow => keeps_complete (exclusive pk row hrow) now
      | false => simpa using hrests
    | _ => exact hrests
  | cancel now =>
    cases worker with
    | editing pk loaded =>
      rw [operate, Operation.toAction, act, Harmless]
      cases hloaded : loaded.isOpen with
      | true =>
        rw [if_pos rfl, ← keeps_modify exclusive]
        simp only [true_imp_iff]
        exact forall₂_congr fun row hrow => keeps_cancel (exclusive pk row hrow) now
      | false => simpa using hrests
    | _ => exact hrests
  | reschedule newScheduledAt =>
    cases worker with
    | editing pk loaded =>
      rw [operate, Operation.toAction, act, Harmless]
      cases hloaded : loaded.completedAt with
      | none =>
        rw [Option.isNone_none, if_pos rfl, ← keeps_modify exclusive]
        simp only [true_imp_iff]
        exact forall₂_congr fun row hrow =>
          keeps_reschedule (exclusive pk row hrow) newScheduledAt
      | some time => simpa using hrests
    | _ => exact hrests
  | bulkAction ids action =>
    cases worker with
    | ready =>
      rw [operate, Operation.toAction, act]
      rw [harmless_bulkAction]
      by_cases hfound : (desk.pks.filter (· ∈ ids)).length = ids.length
      · rw [if_pos hfound, ← keeps_update, forall_prop_of_true hfound]
        refine forall_congr' fun pk => ?_
        by_cases hids : pk ∈ ids
        · simp only [if_pos hids, forall_prop_of_true hids]
          exact forall₂_congr fun row hrow => keeps_bulkAction (exclusive pk row hrow) action
        · simp only [if_neg hids]
          refine iff_of_true (fun row hrow => ?_) fun hmem => absurd hmem hids
          exact ⟨exclusive pk row hrow, fun _ => row.settled_refl⟩
      · rw [if_neg hfound]
        exact hrests.trans (iff_of_true trivial fun hsome => absurd hsome hfound)
    | _ => exact hrests

/-! ## Runs -/

def created (rows : ℕ → Option Reminder) (pks : List ℕ) : World Desk Worker where
  shared :=
    { rows := fun pk => (rows pk).map fun row =>
        { row with completedAt := none, cancelledAt := none, dueNotifiedAt := none }
      pks := pks }
  locals _ := .ready

theorem exclusive_created (rows : ℕ → Option Reminder) (pks : List ℕ) :
    Exclusive (created rows pks).shared := by
  intro pk row hrow
  obtain ⟨-, -, rfl⟩ := Option.map_eq_some_iff.mp hrow
  exact .inl rfl

/--
In any interleaving no reminder is ever both completed and cancelled, and closed reminders stay as
they are, exactly if every row that is written is still open or has what is written already.
-/
theorem always_exclusive_iff (tenantOf : ℕ → ℕ) (rows : ℕ → Option Reminder) (pks : List ℕ)
    (events : List (ℕ × Operation)) :
    Always (World.turn (operate tenantOf)) (fun world => Exclusive world.shared)
        (created rows pks) events ∧
      Every (World.turn (operate tenantOf)) (Stable tenantOf) (created rows pks) events ↔
    Every (World.turn (operate tenantOf)) Heeds (created rows pks) events := by
  refine always_and_every_iff (fun (world : World Desk Worker) exclusive => exclusive) ?_ ?_
    (exclusive_created rows pks) events
  · rintro world ⟨process, operation⟩ exclusive heeds
    exact ((keeps_operate_iff exclusive).mpr heeds).1
  · rintro world ⟨process, operation⟩ exclusive
    exact keeps_operate_iff exclusive

/-- A request reads a reminder, which another cancels, and then completes it. -/
theorem not_always_exclusive_race :
    ¬(Always (World.turn (operate fun _ => 1)) (fun world => Exclusive world.shared)
        (created (fun _ => some { scheduledAt := 9, createdBy := 7 }) [0])
        [(0, .get 0), (1, .get 0), (1, .cancel 3), (0, .complete 4)] ∧
      Every (World.turn (operate fun _ => 1)) (Stable fun _ => 1)
        (created (fun _ => some { scheduledAt := 9, createdBy := 7 }) [0])
        [(0, .get 0), (1, .get 0), (1, .cancel 3), (0, .complete 4)]) := by
  rintro ⟨always, -⟩
  rcases always.finish 0 _ rfl with hcompleted | hcancelled
  · cases hcompleted
  · cases hcancelled

end Laws

end Kanzan.Crm
